import ShaderGraph.Artifact
import ShaderGraph.Graph.Order
import ShaderGraph.Graphics.Compilation
import ShaderGraph.Plugin.Registry
import ShaderGraph.Shader.Generator

/-!
# The state of a host

A host holds everything that outlives a request: the plugins, the artifacts, the
caches that own them, the graph of the registered calls, and the output. Its
actions change the state, leave a trace, and may fail; a failing action keeps
the changes made before.
-/

namespace ShaderGraph

/-- The number of an artifact of a host. Artifacts are shared by their numbers. -/
abbrev ArtifactId := Nat

/-- The shaders of single calls: those that are cached by their keys, and those
that are active under an id. -/
structure CallShaders where
  cache : Table ArtifactId := []
  active : Table ArtifactId := []

/-- The slot of the artifact that is shown, with the id under which it was
connected, and how often the slot was connected and disconnected. -/
structure Output where
  current : Option ArtifactId := none
  id : String := ""
  connections : Nat := 0
  disconnections : Nat := 0

/-- What is known about changes below a root: the changed plugin files, and
whether the root is observed. -/
structure Watcher where
  root : String
  pending : List String := []
  isObserving : Bool := false

/-- The state of a host. -/
structure Host where
  files : FileTree := {}
  builtins : Builtins := {}
  registry : Registry := {}
  access : Access := .given
  graphics : Graphics := {}
  artifacts : List Artifact := []
  calls : CallShaders := {}
  graph : Graph := {}
  graphCache : Table ArtifactId := []
  isVerbose : Bool := false
  output : Output := {}
  served : Table ArtifactId := []
  watcher : Option Watcher := none

/-- A computation on a host that may fail. -/
abbrev Action (Value : Type) := ExceptT Failure (StateT Host Traced) Value

namespace Host

/-- What can be called on a host. -/
def vocabulary (host : Host) : Vocabulary :=
  { builtins := host.builtins, catalogue := host.registry.catalogue }

/-- The generator of the shaders of a host. -/
def generator (host : Host) : Generator :=
  { vocabulary := host.vocabulary }

/-- The artifact of a number. -/
def artifact? (host : Host) (id : ArtifactId) : Option Artifact :=
  host.artifacts[id]?

/-- Whether the artifact of a number can be used. -/
def isReady (host : Host) (id : ArtifactId) : Bool :=
  (host.artifact? id).any Artifact.isReady

/-- Keep an artifact under its number. -/
def setArtifact (host : Host) (id : ArtifactId) (artifact : Artifact) : Host :=
  { host with artifacts := host.artifacts.set id artifact }

end Host

namespace Action

/-- A record of the log. -/
def log (level : Level) (message : String) : Action Unit :=
  liftM (Traced.log level message)

/-- A computation that may fail and changes no state. -/
def attempt (computation : Attempt Value) : Action Value := do
  let outcome <- liftM (m := Traced) computation.run
  match outcome with
  | .ok value => return value
  | .error failure => throw failure

/-- The outcome of a computation. Only failures of the work on shaders are
outcomes; all others pass through. -/
def settle (computation : Attempt Value) : Action (Except Failure Value) := do
  let outcome <- liftM (m := Traced) computation.run
  match outcome with
  | .ok value => return .ok value
  | .error failure => if failure.isDomestic then return .error failure else throw failure

/-- Take a new artifact into the store. -/
def addArtifact (artifact : Artifact) : Action ArtifactId := do
  let id := (<- get).artifacts.length
  modify fun host => { host with artifacts := host.artifacts ++ [artifact] }
  return id

/-- Change an artifact. A number without an artifact changes nothing. -/
def changeArtifact (id : ArtifactId) (change : Artifact -> Traced Artifact) : Action Unit := do
  match (<- get).artifact? id with
  | none => pure ()
  | some artifact =>
      let changed <- liftM (change artifact)
      modify fun host => host.setArtifact id changed

/-- Clean up artifacts one by one. -/
def cleanUpEach : List ArtifactId -> Action Unit
  | [] => pure ()
  | id :: rest => do
      changeArtifact id Artifact.cleanUp
      cleanUpEach rest

/-- Compile two stages with the compiler of the host. -/
def compileStages
    (vertex fragment directory : String) : Action (Except CompileError Program) := do
  let host <- get
  let (outcome, graphics) <- liftM (m := Traced)
    ((Graphics.compile host.files host.access vertex fragment directory).run host.graphics)
  modify fun host => { host with graphics }
  return outcome

/-- Compile an artifact and tell whether it has a program. -/
def compileArtifact (id : ArtifactId) : Action Bool := do
  match (<- get).artifact? id with
  | none => return false
  | some artifact =>
      if !artifact.hasSource then
        changeArtifact id (Artifact.fail · "No shader source to compile")
        return false
      else
        let outcome <- compileStages artifact.vertex artifact.fragment artifact.directory
        let (compiled, changed) <- liftM (artifact.receive outcome)
        modify fun host => host.setArtifact id changed
        return compiled

/-- The first selection in arguments that is refused. -/
def firstRefusal? (builtins : Builtins) (arguments : List String) : Option Swizzle.Refusal :=
  arguments.findSome? (Swizzle.check builtins)

/-- Whether arguments read a built-in variable, as a name of their own or inside
of an expression. -/
def readsVariable (interpreter : Interpreter) (name : String) : List String -> Attempt Bool
  | [] => pure false
  | text :: rest => do
      if Swizzle.base (Text.trimmed text) == name then return true
      else if Swizzle.isCompound text then
        let reading <- interpreter.report text
        if reading.argument.dependencies.any fun read => Swizzle.base read == name then
          return true
        else readsVariable interpreter name rest
      else readsVariable interpreter name rest

/-- Find out which uniforms of an artifact are refreshed with every frame. -/
def setRefreshing (id : ArtifactId) (arguments : List String) : Action Unit := do
  let interpreter := (<- get).generator.interpreter
  let time <- attempt (readsVariable interpreter "time" arguments)
  let resolution <- attempt (readsVariable interpreter "st" arguments)
  changeArtifact id fun artifact =>
    pure { artifact with refreshesTime := time, refreshesResolution := resolution }

end Action
end ShaderGraph
