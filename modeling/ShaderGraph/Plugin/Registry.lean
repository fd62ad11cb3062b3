import ShaderGraph.Builtins
import ShaderGraph.Failure
import ShaderGraph.Plugin.Naming

/-!
# The registry of plugins

Loading a plugin opens its module as a library, asks it for the version of its
interface, and lets it make an instance. Whatever fails after the library was
opened destroys the instance, if there is one, and closes the library. Unloading
does the same.
-/

namespace ShaderGraph

/-- Why a plugin cannot be loaded. -/
inductive LoadError
  | missingFile (path : String)
  | notModule (path : String)
  | importFailed (path message : String)
  | versionFailed (path message : String)
  | versionMismatch (path : String) (expected : Int) (reported : String)
  | missingSymbol (path : String)
  | makerFailed (path message : String)
  | noInstance (path : String)
  | foreignInstance (path : String)
  | aliasTaken (pluginAlias : String)
  deriving DecidableEq

/-- The report of a plugin that cannot be loaded. -/
def LoadError.message : LoadError -> String
  | .missingFile path => s!"Failed to load library: {path} (no such file)"
  | .notModule path => s!"Failed to load library: {path}"
  | .importFailed path message => s!"Failed to load library: {path} ({message})"
  | .versionFailed path message => s!"get_plugin_abi_version failed in {path}: {message}"
  | .versionMismatch path expected reported =>
      s!"Plugin ABI version mismatch in {path}: expected {expected}, got {reported}"
  | .missingSymbol path => s!"Plugin {path} is missing create_plugin or get_plugin_info"
  | .makerFailed path message => s!"create_plugin failed in {path}: {message}"
  | .noInstance path => s!"Failed to create plugin instance from {path}"
  | .foreignInstance path =>
      s!"create_plugin in {path} did not return a GLSLPlugin: " ++
        "'object' object has no attribute 'set_path'"
  | .aliasTaken pluginAlias => s!"Plugin with alias '{pluginAlias}' already loaded"

/-- A module that was opened, with its path and the number of its opening. -/
structure Library where
  module : Module
  path : String
  serial : Nat

/-- A loaded plugin and the library that it came from. -/
structure Registration where
  plugin : Plugin
  library : Library

/-- The loaded plugins under their aliases in the order of their loading, and
how many libraries were opened so far. -/
structure Registry where
  registrations : Table Registration := []
  opened : Nat := 0

namespace Library

/-- The name that an instance that is no plugin goes by. -/
def foreignName : String := "?"

/-- Destroy an instance of a library, which takes leave by its name. -/
def destroy (library : Library) (name : String) : Traced Unit :=
  match library.module.destroy with
  | .absent => Traced.emit (.instanceReleased library.serial none)
  | .returns _ => Traced.emit (.instanceReleased library.serial (some name))
  | .raises message => do
      Traced.emit (.instanceReleased library.serial none)
      Traced.log .error s!"destroy_plugin failed for {library.path}: {message}"

/-- Close a library. -/
def close (library : Library) : Traced Unit :=
  Traced.emit (.libraryClosed library.serial)

/-- The version of the interface that plugins report. -/
def interfaceVersion : Int := 1

/-- Check the version that a library reports, if it reports one. -/
def checkVersion (library : Library) (expected : Int) : Except LoadError Unit :=
  match library.module.version with
  | .absent => .ok ()
  | .raises message => .error (.versionFailed library.path message)
  | .returns reported =>
      if reported.isInteger expected then .ok ()
      else .error (.versionMismatch library.path expected reported.shown)

/-- What the maker of a library makes, after all checks. -/
def make (library : Library) (expected : Int) : Except LoadError Made := do
  library.checkVersion expected
  if !library.module.create.isCallable || !library.module.info.isCallable then
    throw (.missingSymbol library.path)
  match library.module.create with
  | .absent => throw (.missingSymbol library.path)
  | .raises message => throw (.makerFailed library.path message)
  | .returns .none => throw (.noInstance library.path)
  | .returns made => return made

/-- The alias of a plugin: the given one, or its name. -/
def aliasOf (plugin : Plugin) (pluginAlias : Option String) : String :=
  match pluginAlias with
  | none => plugin.name
  | some pluginAlias => if pluginAlias.isEmpty then plugin.name else pluginAlias

/-- Make the plugin of a library that was opened. The library is closed unless
its plugin is registered. -/
def start
    (library : Library)
    (expected : Int)
    (pluginAlias : Option String)
    (taken : String -> Bool) : Traced (Except LoadError (String × Registration)) := do
  match library.make expected with
  | .error error =>
      library.close
      return .error error
  | .ok .none =>
      library.close
      return .error (.noInstance library.path)
  | .ok .foreign =>
      Traced.emit (.instanceMade library.serial)
      library.destroy foreignName
      library.close
      return .error (.foreignInstance library.path)
  | .ok (.plugin made) =>
      Traced.emit (.instanceMade library.serial)
      let plugin := { made with path := Plugin.resourceDirectory library.path }
      let found := aliasOf plugin pluginAlias
      if taken found then
        library.destroy plugin.name
        library.close
        return .error (.aliasTaken found)
      else return .ok (found, ⟨plugin, library⟩)

/-- Open the module in a file. -/
def open?
    (files : FileTree)
    (path : String)
    (serial : Nat) : Except LoadError Library :=
  match files.contentAt? path with
  | some (.text _) =>
      if Plugin.hasEnding Plugin.moduleEnding path then
        .ok ⟨{ create := .absent, destroy := .absent, info := .absent }, path, serial⟩
      else .error (.notModule path)
  | some (.binary report) =>
      if Plugin.hasEnding Plugin.moduleEnding path then .error (.importFailed path report)
      else .error (.notModule path)
  | some (.module module) =>
      if !Plugin.hasEnding Plugin.moduleEnding path then .error (.notModule path)
      else
        match module.importError with
        | some message => .error (.importFailed path message)
        | none => .ok ⟨module, path, serial⟩
  | _ => .error (.missingFile path)

end Library

namespace Registry

/-- What the generators of code see of a registry. -/
def catalogue (registry : Registry) : Catalogue :=
  registry.registrations.map fun entry => (entry.1, entry.2.plugin)

/-- Whether a plugin is loaded under an alias. -/
def has (registry : Registry) (pluginAlias : String) : Bool :=
  registry.registrations.has pluginAlias

/-- The plugin that is loaded under an alias. -/
def find? (registry : Registry) (pluginAlias : String) : Option Plugin :=
  (registry.registrations.find? pluginAlias).map Registration.plugin

/-- The functions of a plugin that have the name of a built-in one. -/
def conflictsOf (builtins : Builtins) (plugin : Plugin) : List String :=
  plugin.names.filter builtins.isCallable

/-- Report the functions of a plugin that have the name of a built-in one. -/
def warnConflicts (builtins : Builtins) (pluginAlias : String) (plugin : Plugin) : Traced Unit := do
  let names := conflictsOf builtins plugin
  Traced.emitAll (names.map fun name => .record .warning
    (s!"Plugin '{pluginAlias}' function '{name}' conflicts with GLSL built-in " ++
      "- behavior is undetermined"))
  if !names.isEmpty then
    Traced.log .warning s!"Plugin '{pluginAlias}' has {names.length} built-in conflict(s)"

/-- Try to load the plugin in a file, with the registry afterwards. -/
def tryLoad
    (registry : Registry)
    (files : FileTree)
    (expected : Int)
    (path : String)
    (pluginAlias : Option String) :
    Traced (Except LoadError (String × Registration) × Registry) := do
  match Library.open? files path registry.opened with
  | .error error => return (.error error, registry)
  | .ok library =>
      Traced.emit (.libraryOpened library.serial)
      let counted := { registry with opened := registry.opened + 1 }
      match <- library.start expected pluginAlias registry.has with
      | .error error => return (.error error, counted)
      | .ok (found, registration) =>
          return (.ok (found, registration),
            { counted with registrations := registry.registrations ++ [(found, registration)] })

/-- Load the plugin in a file and tell whether it was loaded. -/
def load
    (registry : Registry)
    (files : FileTree)
    (builtins : Option Builtins)
    (path : String)
    (pluginAlias : Option String)
    (expected : Int := Library.interfaceVersion) : Traced (Bool × Registry) := do
  let (outcome, changed) <- registry.tryLoad files expected path pluginAlias
  match outcome with
  | .error error =>
      Traced.log .error error.message
      return (false, changed)
  | .ok (found, registration) =>
      let plugin := registration.plugin
      Traced.log .info (s!"Loaded plugin: {plugin.name} v{plugin.version} by {plugin.author} " ++
        s!"({plugin.functions.length} functions)")
      match builtins with
      | none => return (true, changed)
      | some builtins =>
          warnConflicts builtins found plugin
          return (true, changed)

/-- Load the plugins in files one by one, each under the alias of its file, and
count those that were loaded. -/
def loadEach
    (files : FileTree)
    (builtins : Option Builtins) :
    List String -> Nat -> Registry -> Traced (Nat × Registry)
  | [], count, registry => pure (count, registry)
  | path :: rest, count, registry => do
      let (loaded, changed) <- registry.load files builtins path (some (Plugin.aliasOf path))
      loadEach files builtins rest (if loaded then count + 1 else count) changed

/-- The root that plugins are loaded from when nothing else is said. -/
def defaultRoot : String := "plugins"

/-- The root that plugins are loaded from: the given one unless it is empty, or
else the one of the environment. -/
def rootOf (given environment : Option String) : String :=
  match given.filter fun root => !root.isEmpty with
  | some root => root
  | none => environment.getD defaultRoot

/-- Load all plugins one directory below a root. -/
def loadAll
    (registry : Registry)
    (files : FileTree)
    (builtins : Option Builtins)
    (root : String) : Traced (Nat × Registry) := do
  let paths <- Plugin.findFiles files root
  let (count, changed) <- loadEach files builtins paths 0 registry
  Traced.log .info s!"Loaded {count} plugin(s) from {root}"
  return (count, changed)

/-- Unload the plugin of an alias and tell whether there was one. -/
def unload (registry : Registry) (pluginAlias : String) : Traced (Bool × Registry) := do
  match registry.registrations.find? pluginAlias with
  | none =>
      Traced.log .warning s!"Plugin not found: {pluginAlias}"
      return (false, registry)
  | some registration =>
      registration.library.destroy registration.plugin.name
      registration.library.close
      Traced.log .info s!"Unloaded plugin: {pluginAlias}"
      return (true, { registry with registrations := registry.registrations.erase pluginAlias })

/-- Unload the plugins of aliases one by one. -/
def unloadEach : List String -> Registry -> Traced Registry
  | [], registry => pure registry
  | pluginAlias :: rest, registry => do
      let (_, changed) <- registry.unload pluginAlias
      unloadEach rest changed

/-- Unload all plugins in the order of their loading. -/
def unloadAll (registry : Registry) : Traced Registry :=
  unloadEach registry.registrations.names registry

/-- The loaded plugins, each with its alias, name and version. -/
def titles (registry : Registry) : List String :=
  registry.registrations.map fun (pluginAlias, registration) =>
    s!"{pluginAlias} ({registration.plugin.name} v{registration.plugin.version})"

/-- The selected functions of all plugins, each behind the alias of its plugin. -/
def qualified (registry : Registry) (select : Plugin -> List String) : List String :=
  registry.registrations.flatMap fun (pluginAlias, registration) =>
    (select registration.plugin).map fun name => pluginAlias ++ "::" ++ name

/-- What the plugins inform about themselves. -/
def informations (registry : Registry) : Except Failure (Table String) :=
  registry.registrations.mapM fun (pluginAlias, registration) =>
    match registration.library.module.info with
    | .returns text => .ok (pluginAlias, text)
    | .raises message => .error (.raised message)
    | .absent => .ok (pluginAlias, "")

/-- Whether a plugin offers a function with the name of a built-in one. -/
def hasConflict (registry : Registry) (builtins : Option Builtins) (name : String) : Bool :=
  builtins.any (·.isCallable name) && (registry.catalogue.find? name).isSome

/-- All functions of plugins with the name of a built-in one. -/
def conflicts (registry : Registry) (builtins : Option Builtins) : List String :=
  match builtins with
  | none => []
  | some builtins => registry.qualified (conflictsOf builtins)

end Registry
end ShaderGraph
