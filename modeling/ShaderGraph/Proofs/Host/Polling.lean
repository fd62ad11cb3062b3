import ShaderGraph.Proofs.Host.Course
import ShaderGraph.Proofs.Host.Reloading
import ShaderGraph.Proofs.Plugin.Replacement

/-!
# Polling for changed plugins

Reloading a file changes the registry as loading the file again does, and forgets
all cached shaders if the file was loaded. Over a poll this moves the plugins of
changed files behind the others, in the order in which the files are taken. A name
that several plugins offer may thereby change its owner, although every plugin
offers the same functions as before.
-/

namespace ShaderGraph
namespace Action

/-! ## What reloading does -/

theorem forgetShaders_succeeds (pluginAlias : String) (host : Host) :
    (forgetShaders pluginAlias).Meets host fun outcome _ => outcome = .ok () := by
  rw [forgetShaders, meets_log_bind, meets_bind]
  refine (releaseOutput_effect host).imp ?_
  rintro _ _ ⟨rfl, rfl⟩
  rw [before_ok, clearCalls, meets_bind, meets_get_bind, meets_bind]
  refine (cleanUpEach_succeeds _ _).imp ?_
  rintro _ middle rfl
  refine before_ok.mpr (meets_modify_bind.mpr ?_)
  refine before_ok.mpr ?_
  rw [clearGraphs, meets_get_bind, meets_bind]
  refine (cleanUpEach_succeeds _ _).imp ?_
  rintro _ _ rfl
  rfl

theorem loadPlugin_effect (path : String) (pluginAlias : Option String) (host : Host) :
    (loadPlugin path pluginAlias).Meets host fun outcome changed =>
      let loaded := (host.registry.load host.files (some host.builtins) path pluginAlias).value
      outcome = .ok loaded.1 ∧ changed = { host with registry := loaded.2 } := by
  rw [loadPlugin, meets_get_bind, meets_liftTraced_bind, meets_modify_bind, meets_pure]
  exact ⟨rfl, rfl⟩

theorem unloadPlugin_effect (pluginAlias : String) (host : Host) :
    (unloadPlugin pluginAlias).Meets host fun outcome changed =>
      outcome = .ok (host.registry.has pluginAlias) ∧
        changed = { host with
          registry := { host.registry with
            registrations := host.registry.registrations.erase pluginAlias } } := by
  rw [unloadPlugin, meets_get_bind, meets_liftTraced_bind, meets_modify_bind,
    meets_pure, Registry.unload, Registry.has, Table.has]
  cases found : host.registry.registrations.find? pluginAlias with
  | none =>
      have absent : host.registry.registrations.has pluginAlias = false := by
        rw [Table.has, found]
        rfl
      rw [Table.erase_of_not_has absent]
      exact ⟨rfl, rfl⟩
  | some registration => exact ⟨rfl, rfl⟩

/-- Loading a file under its own alias, and forgetting the cached shaders if it was
loaded. -/
theorem loadForgetting_effect
    (forgets : Bool)
    (path : String)
    (host : Host)
    {loaded : Bool}
    {registry : Registry}
    (loading : (host.registry.load host.files (some host.builtins) path
      (some (Plugin.aliasOf path))).value = (loaded, registry)) :
    (loadPlugin path (some (Plugin.aliasOf path)) >>= fun loaded =>
      if loaded = true then
        if forgets = true then forgetShaders (Plugin.aliasOf path) >>= fun _ => pure true
        else pure true
      else pure false : Action Bool).Meets host fun outcome changed =>
        outcome = .ok loaded ∧ changed =
          if loaded && forgets then
            (forgetShaders (Plugin.aliasOf path)).final { host with registry }
          else { host with registry } := by
  have loads := loadPlugin_effect path (some (Plugin.aliasOf path)) host
  dsimp only at loads
  rw [loading] at loads
  rw [meets_bind]
  refine loads.imp ?_
  rintro _ _ ⟨rfl, rfl⟩
  rw [before_ok]
  cases loaded with
  | false => exact ⟨rfl, rfl⟩
  | true =>
      cases forgets with
      | false => exact ⟨rfl, rfl⟩
      | true =>
          have succeeds := forgetShaders_succeeds (Plugin.aliasOf path) { host with registry }
          rw [if_pos rfl, if_pos rfl, meets_bind]
          unfold Meets at succeeds ⊢
          rw [succeeds]
          exact ⟨rfl, rfl⟩

/-- Reloading a file that is there loads it again, and forgets the cached shaders if
it was loaded. -/
theorem reloadFile_effect (forgets : Bool) (path : String) (host : Host) :
    (reloadFile forgets path).Meets host fun outcome changed =>
      if host.files.isFile path then
        let reloaded := host.registry.reload host.files host.builtins path
        let loaded := { host with registry := reloaded.2 }
        outcome = .ok reloaded.1 ∧ changed =
          if reloaded.1 && forgets then (forgetShaders (Plugin.aliasOf path)).final loaded
          else loaded
      else outcome = .ok false ∧ changed = host := by
  rcases reloaded : host.registry.reload host.files host.builtins path with ⟨loaded, registry⟩
  let dropped : Registry :=
    { host.registry with
      registrations := host.registry.registrations.erase (Plugin.aliasOf path) }
  have loads := loadForgetting_effect forgets path { host with registry := dropped } reloaded
  rw [reloadFile, meets_get_bind]
  cases isFile : host.files.isFile path with
  | false => exact ⟨rfl, rfl⟩
  | true =>
      simp only [Bool.not_true, Bool.false_eq_true, if_false, if_true]
      rw [meets_log_bind, meets_get_bind]
      cases known : host.registry.has (Plugin.aliasOf path) with
      | true =>
          rw [if_pos rfl, meets_bind]
          refine (unloadPlugin_effect _ host).imp ?_
          rintro _ _ ⟨rfl, rfl⟩
          exact loads
      | false =>
          have same : dropped = host.registry :=
            congrArg (fun registrations => { host.registry with registrations })
              (Table.erase_of_not_has known)
          rw [if_neg Bool.false_ne_true]
          rw [same] at loads
          exact loads

/-- Reloading files one by one changes the registry as loading them again does, and
keeps the files. -/
theorem reloadFiles_effect (forgets : Bool) (paths : List String) (host : Host) :
    (reloadFiles forgets paths).Meets host fun outcome changed =>
      let reloaded := host.registry.reloadEach host.files host.builtins paths
      outcome = .ok reloaded.1 ∧ changed.registry = reloaded.2 := by
  induction paths generalizing host with
  | nil => exact ⟨rfl, rfl⟩
  | cons path rest inductionHypothesis =>
      rw [reloadFiles, meets_bind]
      refine (reloadFile_effect forgets path host).imp ?_
      intro outcome changed effect
      rw [Registry.reloadEach]
      split at effect
      case isFalse missing =>
        obtain ⟨rfl, rfl⟩ := effect
        rw [if_neg missing, before_ok, meets_bind]
        refine (inductionHypothesis changed).imp ?_
        rintro _ final ⟨rfl, registry⟩
        exact ⟨rfl, registry⟩
      case isTrue isFile =>
        obtain ⟨rfl, reached⟩ := effect
        have same : changed.files = host.files ∧ changed.builtins = host.builtins ∧
            changed.registry = (host.registry.reload host.files host.builtins path).2 := by
          rw [reached]
          split
          · rw [forgets_forgetShaders (Plugin.aliasOf path) _]
            exact ⟨rfl, rfl, rfl⟩
          · exact ⟨rfl, rfl, rfl⟩
        obtain ⟨files, builtins, registry⟩ := same
        rw [if_pos isFile, before_ok, meets_bind]
        refine (inductionHypothesis changed).imp ?_
        rw [files, builtins, registry]
        rintro _ final ⟨rfl, finalRegistry⟩
        exact ⟨rfl, finalRegistry⟩

theorem reloadFiles_cons_of_none
    {forgets : Bool}
    {path : String}
    {rest : List String}
    {host : Host}
    (none : (reloadFiles forgets (path :: rest)).result host = .ok 0) :
    (reloadFile forgets path).result host = .ok false ∧
      (reloadFiles forgets rest).result ((reloadFile forgets path).final host) = .ok 0 ∧
      (reloadFiles forgets (path :: rest)).final host =
        (reloadFiles forgets rest).final ((reloadFile forgets path).final host) := by
  rw [reloadFiles, result_bind] at none
  rw [reloadFiles, final_bind]
  cases first : (reloadFile forgets path).result host with
  | error failure => rw [first] at none; cases none
  | ok reloaded =>
      rw [first] at none
      dsimp only at none ⊢
      rw [result_bind] at none
      rw [final_bind]
      cases others : (reloadFiles forgets rest).result ((reloadFile forgets path).final host) with
      | error failure => rw [others] at none; cases none
      | ok count =>
          rw [others] at none
          cases reloaded with
          | true => cases none
          | false => cases none; exact ⟨rfl, rfl, rfl⟩

/-- Reloading files of which none is loaded changes only the registry, which loses
the plugins under the aliases of the files that are there. -/
theorem reloadFiles_of_none
    {forgets : Bool}
    {paths : List String}
    {host : Host}
    (none : (reloadFiles forgets paths).result host = .ok 0) :
    ∃ registry, (reloadFiles forgets paths).final host = { host with registry } ∧
      registry.registrations = host.registry.registrations.without
        ((paths.filter host.files.isFile).map Plugin.aliasOf) := by
  induction paths generalizing host with
  | nil => exact ⟨host.registry, rfl, (Table.without_nil _).symm⟩
  | cons path rest inductionHypothesis =>
      obtain ⟨first, others, final⟩ := reloadFiles_cons_of_none none
      have effect := reloadFile_effect forgets path host
      unfold Meets at effect
      rw [first] at effect
      obtain ⟨registry, restFinal, registrations⟩ := inductionHypothesis others
      rw [final, restFinal]
      split at effect
      case isFalse missing =>
        rw [effect.2] at registrations ⊢
        exact ⟨registry, rfl, by rw [List.filter_cons_of_neg missing, registrations]⟩
      case isTrue isFile =>
        obtain ⟨failed, same⟩ := effect
        replace failed : (host.registry.reload host.files host.builtins path).1 = false :=
          (Except.ok.inj failed).symm
        rw [failed, Bool.false_and, if_neg Bool.false_ne_true] at same
        rw [same] at registrations ⊢
        refine ⟨registry, rfl, ?_⟩
        rw [registrations, Registry.registrations_reload_of_not_loaded failed,
          Table.without_without, List.filter_cons_of_pos isFile]
        rfl

end Action

namespace Host

/-- The aliases of the plugins that a poll of a host drops before it loads files. -/
def dropping (host : Host) : List String :=
  match host.watcher with
  | none => []
  | some watcher => (watcher.pending.filter host.files.isFile).map Plugin.aliasOf

end Host

namespace Action

/-- A poll succeeds with the number of files that were loaded. If there is none, only
the watcher and the registry differ, which loses the plugins of the pending files. -/
theorem poll_effect (host : Host) :
    poll.Meets host fun outcome changed =>
      ∃ count, outcome = .ok count ∧ (count = 0 ->
        ∃ registry watcher, changed = { host with registry, watcher } ∧
          registry.registrations = host.registry.registrations.without host.dropping) := by
  rw [poll, meets_get_bind]
  cases watched : host.watcher with
  | none =>
      refine ⟨0, rfl, fun _ => ⟨host.registry, host.watcher, rfl, ?_⟩⟩
      rw [Host.dropping, watched, Table.without_nil]
  | some watcher =>
      rw [meets_modify_bind]
      refine ⟨_, (reloadFiles_effect true watcher.pending _).1, fun none => ?_⟩
      have result := (reloadFiles_effect true watcher.pending
        { host with watcher := some { watcher with pending := [] } }).1
      rw [none] at result
      obtain ⟨registry, final, registrations⟩ := reloadFiles_of_none result
      refine ⟨registry, some { watcher with pending := [] }, final, ?_⟩
      rw [registrations, Host.dropping, watched]

end Action

namespace Host

/-! ## Names after a poll -/

/-- The plugins of a host were loaded from a root, and the given files are those of
some of them, whose modules still make plugins with the same functions. -/
structure CanReload (host : Host) (paths : List String) : Prop where
  filled : ∃ files builtins root,
    host.registry = (({} : Registry).loadAll files builtins root).value.2
  distinct : paths.Nodup
  offers : ∀ path ∈ paths, ∃ entry ∈ host.registry.registrations,
    entry.2.library.path = path ∧ host.files.MakesAt path entry.2.plugin.functions

/-- The plugins of a host after files were loaded again one by one. -/
def catalogueAfter (host : Host) (paths : List String) : Catalogue :=
  ((Action.reloadFiles true paths).final host).registry.catalogue

section Reloading

variable {host : Host} {paths : List String}

theorem CanReload.isFilled (reloadable : host.CanReload paths) : host.registry.IsFilled := by
  obtain ⟨files, builtins, root, filled⟩ := reloadable.filled
  exact filled ▸ Registry.isFilled_loadAll files builtins root

theorem CanReload.names_catalogue_nodup (reloadable : host.CanReload paths) :
    host.registry.catalogue.names.Nodup := by
  rw [Registry.catalogue, Table.names_map]
  exact reloadable.isFilled.distinct

theorem CanReload.aliases_nodup
    (reloadable : host.CanReload paths)
    (named : ∀ path ∈ paths, Plugin.aliasOf path ≠ "") : (paths.map Plugin.aliasOf).Nodup := by
  refine List.Nodup.map_on (fun path listed other otherListed same => ?_) reloadable.distinct
  obtain ⟨entry, present, rfl, _⟩ := reloadable.offers path listed
  obtain ⟨otherEntry, otherPresent, rfl, _⟩ := reloadable.offers other otherListed
  rw [reloadable.isFilled.eq_of_aliasOf_eq present otherPresent (named _ listed) same]

/-- Reloading files moves their plugins behind the others. -/
theorem CanReload.tables_catalogueAfter
    (reloadable : host.CanReload paths)
    (named : ∀ path ∈ paths, Plugin.aliasOf path ≠ "") :
    (Action.reloadFiles true paths).result host = .ok paths.length ∧
      (host.catalogueAfter paths).tables =
        (host.registry.catalogue.movedBehind (paths.map Plugin.aliasOf)).tables := by
  have distinct := reloadable.isFilled.distinct
  -- The functions of the plugin that goes by the alias of a file.
  let functions (path : String) : List Function :=
    ((host.registry.registrations.find? (Plugin.aliasOf path)).map fun registration =>
      registration.plugin.functions).getD []
  have registered : ∀ path ∈ paths, ∃ registration,
      host.registry.registrations.find? (Plugin.aliasOf path) = some registration ∧
        host.files.MakesAt path (functions path) := by
    intro path listed
    obtain ⟨⟨pluginAlias, registration⟩, present, rfl, makes⟩ := reloadable.offers path listed
    have sameAlias : pluginAlias = _ := reloadable.isFilled.named _ present (named _ listed)
    have found := Table.find?_of_mem distinct present
    rw [sameAlias] at found
    refine ⟨registration, found, ?_⟩
    simpa only [functions, found, Option.map_some, Option.getD_some] using makes
  have makes : ∀ path ∈ paths, host.files.MakesAt path (functions path) := by
    intro path listed
    obtain ⟨_, _, makes⟩ := registered path listed
    exact makes
  obtain ⟨result, changed⟩ := Action.reloadFiles_effect true paths host
  obtain ⟨count, moved, movedFunctions, final⟩ := Registry.registrations_reloadEach makes named
    (reloadable.aliases_nodup named) host.registry host.builtins
  refine ⟨result.trans (congrArg Except.ok count), ?_⟩
  have behind : (List.filterMap (fun pluginAlias =>
        (Table.find? host.registry.catalogue pluginAlias).map fun plugin => (pluginAlias, plugin))
      (paths.map Plugin.aliasOf)).map (fun entry => (entry.1, entry.2.functions)) =
      paths.map fun path => (Plugin.aliasOf path, functions path) := by
    rw [List.filterMap_map, List.map_filterMap, ← List.filterMap_eq_map]
    refine List.filterMap_congr fun path listed => ?_
    obtain ⟨registration, found, _⟩ := registered path listed
    simp only [Function.comp_apply, Registry.catalogue, Table.find?_map, functions, found,
      Option.map_some, Option.getD_some]
  have stays : Table.without host.registry.catalogue (paths.map Plugin.aliasOf) =
      (host.registry.registrations.without (paths.map Plugin.aliasOf)).map
        fun entry => (entry.1, entry.2.plugin) :=
    Table.without_map ..
  rw [catalogueAfter, changed, Registry.catalogue, final, Catalogue.movedBehind, Catalogue.tables,
    Catalogue.tables, List.map_append, List.map_append, List.map_append, behind, stays,
    ← movedFunctions, List.map_map, List.map_map]
  rfl

/-- A poll leaves the plugins as loading the pending files again does. -/
theorem catalogue_poll
    {watcher : Watcher}
    (watched : host.watcher = some watcher) :
    (Action.poll.final host).registry.catalogue = host.catalogueAfter watcher.pending := by
  let polled := { host with watcher := some { watcher with pending := [] } }
  have after := (Action.reloadFiles_effect true watcher.pending host).2
  have poll : Action.poll.Meets host fun _ changed =>
      changed.registry = ((Action.reloadFiles true watcher.pending).final host).registry := by
    rw [Action.poll, Action.meets_get_bind, watched]
    refine Action.meets_modify_bind.mpr
      ((Action.reloadFiles_effect true watcher.pending polled).imp ?_)
    rintro _ changed ⟨_, registry⟩
    exact registry.trans after.symm
  exact congrArg Registry.catalogue poll

/-- After files were loaded again, names are looked up as if their plugins had gone
behind the others, in the order of the files. A name keeps its owner exactly if that
is not overtaken, and then it keeps its function. -/
theorem lookup_of_canReload
    (reloadable : host.CanReload paths)
    (named : ∀ path ∈ paths, Plugin.aliasOf path ≠ "") :
    (Action.reloadFiles true paths).result host = .ok paths.length ∧
      (∀ watcher, host.watcher = some watcher -> watcher.pending = paths ->
        (Action.poll.final host).registry.catalogue = host.catalogueAfter paths) ∧
      ∀ name,
        ((host.catalogueAfter paths).find? name =
            (host.registry.catalogue.movedBehind (paths.map Plugin.aliasOf)).find? name ∧
          (host.catalogueAfter paths).owner? name =
            (host.registry.catalogue.movedBehind (paths.map Plugin.aliasOf)).owner? name) ∧
        ((host.catalogueAfter paths).owner? name = host.registry.catalogue.owner? name ↔
          ¬host.registry.catalogue.Overtaken (paths.map Plugin.aliasOf) name) ∧
        (¬host.registry.catalogue.Overtaken (paths.map Plugin.aliasOf) name ->
          (host.catalogueAfter paths).find? name = host.registry.catalogue.find? name) := by
  obtain ⟨result, same⟩ := reloadable.tables_catalogueAfter named
  have distinct := reloadable.names_catalogue_nodup
  have once := reloadable.aliases_nodup named
  refine ⟨result, fun watcher watched pending => pending ▸ catalogue_poll watched, fun name =>
    ⟨⟨?_, ?_⟩, ?_, fun free => ?_⟩⟩
  · exact Catalogue.find?_eq_of_tables_eq same name
  · exact Catalogue.owner?_eq_of_tables_eq same name
  · rw [Catalogue.owner?_eq_of_tables_eq same]
    exact Catalogue.owner?_movedBehind_iff distinct once
  · rw [Catalogue.find?_eq_of_tables_eq same]
    exact Catalogue.find?_movedBehind distinct once
      ((Catalogue.owner?_movedBehind_iff distinct once).mpr free)

end Reloading

/-- A module that makes a plugin with functions. -/
def moduleOf (name : String) (functions : List Function) : Module :=
  { create := .returns (.plugin { name, functions }) }

/-- A root with two plugins that offer a function of the same name. -/
def sharedRoot : FileTree where
  entries := [
    (["plugins"], .directory),
    (["plugins", "calm"], .directory),
    (["plugins", "calm", "calm_plugin.py"], .module (moduleOf "calm" [
      ⟨"random", "random.glsl", "math", [⟨"vec3", ["vec3"]⟩]⟩,
      ⟨"still", "still.glsl", "math", [⟨"float", []⟩]⟩])),
    (["plugins", "waves"], .directory),
    (["plugins", "waves", "waves_plugin.py"], .module (moduleOf "waves" [
      ⟨"random", "random.glsl", "math", [⟨"float", ["vec2"]⟩]⟩]))]

/-- A host has the registry that it is made with. This needs no computation of the registry. -/
theorem registry_make (files : FileTree) (registry : Registry) (watcher : Option Watcher) :
    ({ files, registry, watcher } : Host).registry = registry := rfl

/-- A host with the plugins of the shared root. -/
def sharing : Host where
  files := sharedRoot
  registry := (({} : Registry).loadAll sharedRoot none "plugins").value.2

theorem sharing_canReload : sharing.CanReload ["plugins/calm/calm_plugin.py"] := by
  refine ⟨⟨sharedRoot, none, "plugins", by rw [sharing, registry_make]⟩,
    List.nodup_singleton _, fun path listed => ?_⟩
  cases List.mem_singleton.mp listed
  have registered : ∃ entry ∈ sharing.registry.registrations,
      entry.2.library.path = "plugins/calm/calm_plugin.py" ∧ entry.2.plugin.functions = [
        ⟨"random", "random.glsl", "math", [⟨"vec3", ["vec3"]⟩]⟩,
        ⟨"still", "still.glsl", "math", [⟨"float", []⟩]⟩] := by decide +kernel
  obtain ⟨entry, present, samePath, functions⟩ := registered
  refine ⟨entry, present, samePath, ?_⟩
  rw [functions]
  have located : sharing.files.locate "plugins/calm/calm_plugin.py" =
      .ok ["plugins", "calm", "calm_plugin.py"] := by decide +kernel
  exact FileTree.makesAt_of_locate located rfl (by decide) rfl fun _ _ => rfl

/-- A plugin that shares a name with one that stays loses it; its other names stay
with it. -/
theorem sharing_calm_reloaded :
    (sharing.catalogueAfter ["plugins/calm/calm_plugin.py"]).owner? "random" = some "waves" ∧
      (sharing.catalogueAfter ["plugins/calm/calm_plugin.py"]).owner? "still" = some "calm" := by
  obtain ⟨_, _, looksUp⟩ := lookup_of_canReload sharing_canReload (by decide)
  rw [(looksUp "random").1.2, (looksUp "still").1.2]
  decide +kernel

/-- A root with a plugin whose file gives it no alias and which has no name. -/
def namelessRoot : FileTree where
  entries := [
    (["plugins"], .directory),
    (["plugins", "calm"], .directory),
    (["plugins", "calm", "_plugin.py"], .module (moduleOf "" [
      ⟨"still", "still.glsl", "math", [⟨"float", []⟩]⟩]))]

/-- A host with this plugin, whose module has given it a name since then. -/
def nameless : Host where
  files := namelessRoot.write "plugins/calm/_plugin.py" (.module (moduleOf "calm" [
    ⟨"still", "still.glsl", "math", [⟨"float", []⟩]⟩]))
  registry := (({} : Registry).loadAll namelessRoot none "plugins").value.2

theorem nameless_canReload : nameless.CanReload ["plugins/calm/_plugin.py"] := by
  refine ⟨⟨namelessRoot, none, "plugins", by rw [nameless, registry_make]⟩,
    List.nodup_singleton _, fun path listed => ?_⟩
  cases List.mem_singleton.mp listed
  have registered : ∃ entry ∈ nameless.registry.registrations,
      entry.2.library.path = "plugins/calm/_plugin.py" ∧ entry.2.plugin.functions = [
        ⟨"still", "still.glsl", "math", [⟨"float", []⟩]⟩] := by decide +kernel
  obtain ⟨entry, present, samePath, functions⟩ := registered
  refine ⟨entry, present, samePath, ?_⟩
  rw [functions]
  have located : nameless.files.locate "plugins/calm/_plugin.py" =
      .ok ["plugins", "calm", "_plugin.py"] := by decide +kernel
  exact FileTree.makesAt_of_locate located rfl (by decide) rfl fun _ _ => rfl

/-- Names can change their owners when a file is loaded again that offers the same
functions as before: a name that another plugin offers as well, and a name of a
plugin that goes by the name which its module gives it. -/
theorem reloading_changes_owners :
    (sharing.CanReload ["plugins/calm/calm_plugin.py"] ∧
      (Action.reloadFiles true ["plugins/calm/calm_plugin.py"]).result sharing = .ok 1 ∧
      sharing.registry.catalogue.owner? "random" = some "calm" ∧
      (sharing.catalogueAfter ["plugins/calm/calm_plugin.py"]).owner? "random" = some "waves") ∧
    (nameless.CanReload ["plugins/calm/_plugin.py"] ∧
      (Action.reloadFiles true ["plugins/calm/_plugin.py"]).result nameless = .ok 1 ∧
      nameless.registry.catalogue.owner? "still" = some "" ∧
      (nameless.catalogueAfter ["plugins/calm/_plugin.py"]).owner? "still" = some "calm") := by
  refine ⟨⟨sharing_canReload, ?_⟩, nameless_canReload, ?_⟩
  · decide +kernel
  · decide +kernel

end Host
end ShaderGraph
