import ShaderGraph.Host.Commands

/-!
# Changes of plugin files

A watcher remembers the plugin files that changed. The host loads them again
when it has time: the plugin of a changed file is unloaded and loaded under the
alias of its file, after which no cached shader can be trusted.
-/

namespace ShaderGraph

namespace Watcher

/-- Note a change of a path. Only files with the ending of plugin files count. -/
def note (watcher : Watcher) (path : String) (isDirectory : Bool) : Watcher :=
  if !isDirectory && Plugin.hasEnding Plugin.fileEnding path then
    { watcher with pending := Text.insertName path watcher.pending }
  else watcher

/-- Observe the root, unless it is observed already. -/
def start (watcher : Watcher) : Traced Watcher := do
  if watcher.isObserving then return watcher
  else
    Traced.emit (.observerScheduled watcher.root)
    Traced.emit .observerStarted
    Traced.log .info s!"Watching '{Path.name watcher.root}' for plugin changes..."
    return { watcher with isObserving := true }

/-- Observe the root no longer. -/
def stop (watcher : Watcher) : Traced Watcher := do
  if !watcher.isObserving then return watcher
  else
    Traced.emit .observerStopped
    Traced.emit .observerJoined
    return { watcher with isObserving := false }

end Watcher

namespace Action

/-- Load a plugin and tell whether it was loaded. -/
def loadPlugin (path : String) (pluginAlias : Option String) : Action Bool := do
  let host <- get
  let (loaded, registry) <-
    liftM (host.registry.load host.files (some host.builtins) path pluginAlias)
  modify fun host => { host with registry }
  return loaded

/-- Load all plugins below a root and count them. -/
def loadPlugins (root : String) : Action Nat := do
  let host <- get
  let (count, registry) <-
    liftM (host.registry.loadAll host.files (some host.builtins) root)
  modify fun host => { host with registry }
  return count

/-- Unload a plugin and tell whether it was loaded. -/
def unloadPlugin (pluginAlias : String) : Action Bool := do
  let (unloaded, registry) <- liftM ((<- get).registry.unload pluginAlias)
  modify fun host => { host with registry }
  return unloaded

/-- Unload all plugins. -/
def unloadPlugins : Action Unit := do
  let registry <- liftM (<- get).registry.unloadAll
  modify fun host => { host with registry }

/-- Forget all cached shaders after a plugin changed. -/
def forgetShaders (pluginAlias : String) : Action Unit := do
  log .info s!"Plugin '{pluginAlias}' changed, clearing shader caches"
  releaseOutput
  clearCalls
  clearGraphs

/-- Load the plugin in a changed file again and tell whether it was loaded. The
flag tells whether cached shaders are to be forgotten. -/
def reloadFile (forgets : Bool) (path : String) : Action Bool := do
  if !(<- get).files.isFile path then return false
  else
    let pluginAlias := Plugin.aliasOf path
    log .info s!"Reloading plugin '{pluginAlias}'..."
    if (<- get).registry.has pluginAlias then
      let _ <- unloadPlugin pluginAlias
    if <- loadPlugin path (some pluginAlias) then
      if forgets then forgetShaders pluginAlias
      return true
    else return false

/-- Load the plugins in changed files again and count them. -/
def reloadFiles (forgets : Bool) : List String -> Action Nat
  | [] => pure 0
  | path :: rest => do
      let reloaded <- reloadFile forgets path
      let count <- reloadFiles forgets rest
      return if reloaded then count + 1 else count

/-- Load the plugins again that the watcher of the host saw changing. -/
def poll : Action Nat := do
  match (<- get).watcher with
  | none => return 0
  | some watcher =>
      modify fun host => { host with watcher := some { watcher with pending := [] } }
      reloadFiles true watcher.pending

/-- One frame: load changed plugins again and refresh the output. -/
def tick (elapsed width height : Float) : Action Unit := do
  let _ <- poll
  refreshOutput elapsed width height

/-- Change what is watched. -/
def changeWatcher (change : Watcher -> Traced Watcher) : Action Unit := do
  match (<- get).watcher with
  | none => pure ()
  | some watcher =>
      let changed <- liftM (change watcher)
      modify fun host => { host with watcher := some changed }

/-- Start a host: load the plugins of a directory, if there is one, and watch it
if wanted. -/
def boot (directory : Option String) (watches : Bool) : Action Unit := do
  match directory with
  | none => pure ()
  | some root =>
      let _ <- loadPlugins (Registry.rootOf (some root) none)
      if watches then
        modify fun host => { host with watcher := some { root } }
        changeWatcher Watcher.start

/-- End all work: nothing is observed, connected, cached or loaded any more. -/
def shutDown : Action Unit := do
  changeWatcher Watcher.stop
  releaseOutput
  clearCalls
  clearNodes
  unloadPlugins

end Action
end ShaderGraph
