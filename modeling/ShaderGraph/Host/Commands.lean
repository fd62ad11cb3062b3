import ShaderGraph.Host.Calls
import ShaderGraph.Host.Graphs

/-!
# Commands and the output

A host serves three commands: create a shader, connect it to the output, and
free it. Every created shader is a node as well, so later commands can refer to
it; freeing a shader frees every shader that refers to it.
-/

namespace ShaderGraph

/-- The reply to a command: the id of the shader, or why the command failed. -/
abbrev Reply := Except String String

namespace Action

/-- Disconnect the artifact of the output and tell whether there was one. -/
def disconnectOutput : Action Bool := do
  let output := (<- get).output
  match output.current with
  | none =>
      log .warning "No shader to disconnect"
      return false
  | some id =>
      changeArtifact id fun artifact => pure artifact.disconnect
      log .info s!"Disconnected shader '{output.id}' from global output"
      modify fun host =>
        { host with
          output :=
            { host.output with
              current := none, id := "", disconnections := output.disconnections + 1 } }
      return true

/-- Disconnect the artifact of the output, if there is one. -/
def releaseOutput : Action Unit := do
  if (<- get).output.current.isSome then
    let _ <- disconnectOutput

/-- Connect an artifact to the output in place of the one before, and tell
whether it is ready. -/
def connectOutput (id : String) (artifact : Option ArtifactId) : Action Bool := do
  match artifact.filter (<- get).isReady with
  | none =>
      log .error s!"Cannot connect shader '{id}' - shader is not ready (compilation failed?)"
      return false
  | some ready =>
      releaseOutput
      changeArtifact ready fun artifact => pure artifact.connect
      let count := (<- get).output.connections + 1
      modify fun host =>
        { host with
          output := { host.output with current := some ready, id, connections := count } }
      log .info s!"Connected shader '{id}' to global output (connection #{count})"
      return true

/-- Refresh the uniforms of the connected artifact. -/
def refreshOutput (elapsed width height : Float) : Action Unit := do
  match (<- get).output.current with
  | none => pure ()
  | some id =>
      changeArtifact id fun artifact => pure (artifact.refresh elapsed width height).apply

/-- Whether a text mentions a node. -/
def mentionsNode : List Char -> Bool
  | [] => false
  | first :: rest =>
      (first == '$' && Reference.stem.isPrefixOf rest) || mentionsNode rest

/-- Make the artifact of a registered call, or tell why there is none. Calls of
built-in functions and calls with references are graphs. -/
def serve
    (node name : String)
    (arguments : List String) : Action (Option ArtifactId × String) := do
  let isBuiltin := (<- get).vocabulary.classify name = .builtin
  if isBuiltin || arguments.any fun argument => mentionsNode argument.toList then
    let artifact <- compileGraph node
    return (artifact, "Failed to compile shader graph")
  else
    let id <- createShaderAs node name arguments
    let message := (((<- get).artifact? id).map Artifact.message).getD ""
    return (some id, if message.isEmpty then "Failed to compile shader" else message)

/-- Serve the command that creates a shader. -/
def create (name raw : String) : Action Reply := do
  let arguments := Call.splitArguments raw
  match firstRefusal? (<- get).builtins arguments with
  | some refusal => return .error refusal.message
  | none =>
      match <- registerNode name arguments with
      | none => return .error (Failure.functionNotFound name).message
      | some node =>
          let (artifact, reason) <- serve node name arguments
          match artifact.filter (<- get).isReady with
          | none =>
              let _ <- removeNode node
              return .error reason
          | some id =>
              modify fun host => { host with served := host.served.set node id }
              return .ok node

/-- Serve the command that connects a shader to the output. -/
def connect (id : String) : Action Reply := do
  match (<- get).served.find? id with
  | none => return .error s!"Unknown shader id '{id}'"
  | some artifact =>
      if <- connectOutput id (some artifact) then return .ok id
      else return .error s!"Shader '{id}' is not ready"

/-- Forget a shader: it is served no longer, shown no longer, inactive and no node. -/
def dropNode (id : String) : Action Unit := do
  modify fun host => { host with served := host.served.erase id }
  if (<- get).output.id == id then
    let _ <- disconnectOutput
  let _ <- removeActive id
  let _ <- removeNode id

/-- Free a shader, and then every shader that refers to it. The number bounds
the length of the way from shader to shader: a shader that is met again on its
own way is gone, and leads on only to one that is still there. -/
def freeNode : Nat -> String -> Action Unit
  | 0, _ => pure ()
  | bound + 1, id => do
      let dependents := (<- get).graph.dependents id
      dropNode id
      dependents.forM fun dependent => do
        log .info s!"Freeing '{dependent}', which references '{id}'"
        freeNode bound dependent

/-- Serve the command that frees a shader. -/
def free (id : String) : Action Reply := do
  let host <- get
  if !host.served.has id then return .error s!"Unknown shader id '{id}'"
  else
    freeNode (2 * host.graph.nodes.length + 1) id
    return .ok id

end Action
end ShaderGraph
