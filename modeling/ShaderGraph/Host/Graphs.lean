import ShaderGraph.Cache.Key
import ShaderGraph.Graph.Assembly
import ShaderGraph.Host.Basic

/-!
# Shaders of graphs on a host

Calls are registered as nodes, and the chain of nodes that an output depends on
is compiled into one artifact, which is cached under the key of the chain.
-/

namespace ShaderGraph
namespace Action

/-- Register a call as a node. Unknown functions and refused selections are
reported and get no node. -/
def registerNode (name : String) (arguments : List String) : Action (Option String) := do
  let host <- get
  if host.vocabulary.classify name = .unknown then
    log .error ("Cannot register node: " ++ (Failure.functionNotFound name).message)
    return none
  else
    match firstRefusal? host.builtins arguments with
    | some refusal =>
        log .error ("Cannot register node: " ++ refusal.message)
        return none
    | none =>
        let node := host.graph.nextName
        modify fun host =>
          { host with graph := host.graph.add name (arguments.map Text.trimmed) }
        if host.isVerbose then
          log .info (s!"Registered node {node}: {name}(" ++ ", ".intercalate arguments ++ ")")
        return some node

/-- Remove a node and tell whether it was registered. -/
def removeNode (name : String) : Action Bool := do
  let wasRegistered := (<- get).graph.has name
  modify fun host => { host with graph := host.graph.remove name }
  return wasRegistered

/-- Clean up all cached artifacts of graphs and forget them. -/
def clearGraphs : Action Unit := do
  cleanUpEach (<- get).graphCache.contents
  modify fun host => { host with graphCache := [] }

/-- Forget all nodes and all cached artifacts of graphs. -/
def clearNodes : Action Unit := do
  modify fun host => { host with graph := host.graph.clear }
  clearGraphs

/-- Find the inputs of a node. -/
def resolveNode (name : String) : Action Unit := do
  let (outcome, graph) := (<- get).graph.resolve name
  modify fun host => { host with graph }
  liftM outcome

/-- Find the inputs of all nodes and order those that an output depends on. -/
def analyzeGraph (output : String) : Action (Except Failure (List String)) := do
  let (outcome, graph) := (<- get).graph.analyze output
  modify fun host => { host with graph }
  return outcome

/-- The nodes of a chain. -/
def nodesOf (graph : Graph) (chain : List String) : Except Failure (List Node) :=
  chain.mapM fun name =>
    match graph.find? name with
    | none => .error (.missingKey name)
    | some node => .ok node

/-- The key of a chain. -/
def graphKey (graph : Graph) (chain : List String) : Except Failure String := do
  let nodes <- nodesOf graph chain
  return Key.ofGraph (nodes.map fun node => (node.function, node.arguments))

/-- The directory of the first source among the functions of nodes. -/
def includeDirectory (catalogue : Catalogue) (nodes : List Node) : String :=
  ((nodes.findSome? fun node => catalogue.sourcePath? node.function).map Path.directory).getD ""

/-- Compile the shader of a chain and cache the artifact. -/
def compileChain
    (output key : String)
    (chain : List String)
    (shader : Shader) : Action (Option ArtifactId) := do
  let host <- get
  let nodes <- liftM (nodesOf host.graph chain)
  let arguments := nodes.flatMap Node.arguments
  let function := ((host.graph.find? output).map Node.function).getD ""
  let id <- addArtifact {
    function
    arguments
    vertex := shader.vertex
    fragment := shader.fragment
    returnType := shader.returnType
    directory := includeDirectory host.registry.catalogue nodes }
  if <- compileArtifact id then
    setRefreshing id arguments
    modify fun host => { host with graphCache := host.graphCache.set key id }
    log .info s!"Compiled graph {output} ({chain.length} nodes)"
    return some id
  else
    log .error s!"Failed to compile unified shader for {output}"
    return none

/-- Make the shader of a chain that is not cached. -/
def makeGraph
    (output key : String)
    (chain : List String) : Action (Option ArtifactId) := do
  let host <- get
  match <- settle (host.generator.unify host.files host.graph chain) with
  | .error failure =>
      log .error ("Failed to generate unified shader code: " ++ failure.message)
      return none
  | .ok shader =>
      if host.isVerbose then log .info ("Generated unified shader:\n" ++ shader.fragment)
      compileChain output key chain shader

/-- The artifact of the chain that an output depends on, from the cache if there
is a ready one. Failures of the work on shaders are reported. -/
def compileGraph (output : String) : Action (Option ArtifactId) := do
  match <- analyzeGraph output with
  | .error failure =>
      if failure.isDomestic then
        log .error (s!"Dependency analysis failed for {output}: " ++ failure.message)
        return none
      else throw failure
  | .ok chain =>
      let host <- get
      let key <- liftM (graphKey host.graph chain)
      match (host.graphCache.find? key).filter host.isReady with
      | some id =>
          log .info s!"Returning cached graph: {key}"
          return some id
      | none => makeGraph output key chain

end Action
end ShaderGraph
