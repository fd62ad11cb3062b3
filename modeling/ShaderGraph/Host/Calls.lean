import ShaderGraph.Cache.Key
import ShaderGraph.Host.Basic
import ShaderGraph.Plugin.Source

/-!
# Shaders of single calls

A call of a plugin function becomes an artifact, which is cached under the key of
the call. A call that cannot be served becomes an artifact with an error.
-/

namespace ShaderGraph
namespace Action

/-- A new artifact with an error. -/
def addFailed (name : String) (arguments : List String) (message : String) :
    Action ArtifactId := do
  let id <- addArtifact { function := name, arguments }
  changeArtifact id (Artifact.fail · message)
  return id

/-- The source of a function behind the sources of the functions that its
arguments call, or the function whose source cannot be opened. -/
def prependSources
    (catalogue : Catalogue)
    (files : FileTree) : List String -> String -> Attempt (Except String String)
  | [], code => pure (.ok code)
  | name :: rest, code => do
      let source <- catalogue.loadSource files name
      if source.isEmpty then return .error name
      else prependSources catalogue files rest (source ++ "\n" ++ code)

/-- The sources for a call of a function of a plugin. -/
def collectSources
    (name pluginAlias : String)
    (nested : List String) : Action (Except String String) := do
  let host <- get
  let catalogue := host.registry.catalogue
  let code <- attempt (catalogue.loadSource host.files name (some pluginAlias))
  if code.isEmpty then return .error name
  else
    attempt (prependSources catalogue host.files
      (nested.filter fun other => !(other == name)) code)

/-- Compile the call of a function with its sources and cache the artifact. -/
def compileCall
    (key name pluginAlias code : String)
    (arguments : List String) : Action ArtifactId := do
  let host <- get
  let path := (host.registry.catalogue.sourcePath? name (some pluginAlias)).getD ""
  let shader <- attempt (host.generator.generate code name arguments)
  let id <- addArtifact {
    function := name
    arguments
    code
    directory := Path.directory path
    vertex := shader.vertex
    fragment := shader.fragment
    returnType := shader.returnType }
  if <- compileArtifact id then
    setRefreshing id arguments
    modify fun host =>
      { host with calls := { host.calls with cache := host.calls.cache.set key id } }
    log .info s!"Compiled and cached shader: {key}"
    return id
  else
    log .error s!"Failed to compile shader for function: {name}"
    return id

/-- Warn that a function of a plugin has the name of a built-in one. -/
def warnConflict (name pluginAlias : String) : Action Unit := do
  let host <- get
  if host.registry.hasConflict (some host.builtins) name then
    log .warning (s!"Using function '{name}' from plugin '{pluginAlias}' which conflicts with " ++
      "GLSL built-in - behavior is undetermined")

/-- Make the shader of a call that is not cached. -/
def makeShader (key name : String) (arguments : List String) : Action ArtifactId := do
  let host <- get
  match host.registry.catalogue.owner? name with
  | none => addFailed name arguments s!"Function '{name}' not found in any loaded plugin"
  | some pluginAlias =>
      warnConflict name pluginAlias
      let analysis <- liftM (host.vocabulary.analyze name arguments)
      if !analysis.isValid then addFailed name arguments analysis.message
      else
        match <- collectSources name pluginAlias analysis.pluginFunctions with
        | .error missing => addFailed name arguments (Failure.sourceUnavailable missing).message
        | .ok code => compileCall key name pluginAlias code arguments

/-- The artifact of a call of a function, from the cache if there is a ready one. -/
def createShader (name : String) (texts : List String) : Action ArtifactId := do
  let arguments := texts.map Text.trimmed
  log .info s!"Creating shader for function: {name} with {arguments.length} arguments"
  let host <- get
  match firstRefusal? host.builtins arguments with
  | some refusal => addFailed name arguments refusal.message
  | none =>
      let key := Key.ofCall name arguments
      match (host.calls.cache.find? key).filter host.isReady with
      | some id =>
          log .info s!"Returning cached shader: {key}"
          return id
      | none => makeShader key name arguments

/-- The artifact of a call, which becomes active under an id if it is ready. -/
def createShaderAs (id name : String) (texts : List String) : Action ArtifactId := do
  let artifact <- createShader name texts
  if (<- get).isReady artifact then
    modify fun host =>
      { host with calls := { host.calls with active := host.calls.active.set id artifact } }
  return artifact

/-- Make an id inactive and tell whether it was active. -/
def removeActive (id : String) : Action Bool := do
  let wasActive := (<- get).calls.active.has id
  modify fun host =>
    { host with calls := { host.calls with active := host.calls.active.erase id } }
  return wasActive

/-- Clean up all cached artifacts and forget them. -/
def clearCalls : Action Unit := do
  cleanUpEach (<- get).calls.cache.contents
  modify fun host => { host with calls := {} }
  log .info "Shader cache cleared"

/-- A report on the cached artifacts. -/
def callLines (host : Host) : List String :=
  let title := s!"Shader cache: {host.calls.cache.length} entries, " ++
    s!"{host.calls.active.length} active ids"
  title :: host.calls.cache.map fun (key, id) =>
    let status := ((host.artifact? id).map Artifact.status).getD ""
    s!"  {key}: {status}"

/-- Record a report on the cached artifacts. -/
def logCalls : Action Unit := do
  liftM (Traced.emitAll ((callLines (<- get)).map (Event.record .info)))

end Action
end ShaderGraph
