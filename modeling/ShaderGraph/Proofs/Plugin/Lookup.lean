import ShaderGraph.Plugin.Source
import ShaderGraph.Proofs.Plugin.Rearrangement

/-!
# Looking up functions

The function of a name, its owner and the path of its source are looked up one by one. In
a registry that came about by loading and unloading plugins they all belong to the first
plugin that offers the name, or there is none of them. An alias may be empty, though: a
plugin without a name can be loaded without an alias. Its functions are found and it owns
them, but their sources have no path, since an empty alias counts as none.
-/

namespace ShaderGraph
namespace Registry

/-! ## Reachable registries -/

/-- A registry that came about by loading and unloading plugins. The files may be others
each time, and an alias may be given or not. -/
inductive Reachable : Registry -> Prop
  | new : Reachable {}
  | load
      {registry : Registry}
      (reachable : Reachable registry)
      (files : FileTree)
      (builtins : Option Builtins)
      (path : String)
      (pluginAlias : Option String)
      (expected : Int) :
      Reachable (registry.load files builtins path pluginAlias expected).value.2
  | loadAll
      {registry : Registry}
      (reachable : Reachable registry)
      (files : FileTree)
      (builtins : Option Builtins)
      (root : String) :
      Reachable (registry.loadAll files builtins root).value.2
  | unload
      {registry : Registry}
      (reachable : Reachable registry)
      (pluginAlias : String) : Reachable (registry.unload pluginAlias).value.2

/-- No alias is given twice, and every plugin has its resources where its file is. -/
structure IsOrdered (registry : Registry) : Prop where
  names : registry.registrations.names.Nodup
  resources : ∀ registration ∈ registry.registrations.contents,
    registration.plugin.path = Plugin.resourceDirectory registration.library.path

/-- A plugin that is started has an alias that was free and the resources of its file. -/
theorem resources_of_start
    {library : Library}
    {expected : Int}
    {pluginAlias : Option String}
    {taken : String -> Bool}
    {found : String}
    {registration : Registration}
    (started : (library.start expected pluginAlias taken).value = .ok (found, registration)) :
    taken found = false ∧
      registration.plugin.path = Plugin.resourceDirectory registration.library.path := by
  rw [Library.start] at started
  cases made : library.make expected with
  | error error =>
      rw [made] at started
      cases started
  | ok instance? =>
      rw [made] at started
      cases instance? with
      | none => cases started
      | foreign => cases started
      | plugin plugin =>
          dsimp only [Traced.value_bind] at started
          split at started
          case isTrue => cases started
          case isFalse free =>
            obtain ⟨rfl, rfl⟩ := Prod.mk.inj (Except.ok.inj started)
            refine ⟨by simpa using free, ?_⟩
            dsimp only

theorem IsOrdered.tryLoad
    {registry : Registry}
    (ordered : registry.IsOrdered)
    (files : FileTree)
    (expected : Int)
    (path : String)
    (pluginAlias : Option String) :
    (registry.tryLoad files expected path pluginAlias).value.2.IsOrdered := by
  rw [Registry.tryLoad]
  cases Library.open? files path registry.opened with
  | error error => exact ordered
  | ok library =>
      dsimp only [Traced.value_bind]
      cases started : (library.start expected pluginAlias registry.has).value with
      | error error => exact ⟨ordered.names, ordered.resources⟩
      | ok entry =>
          obtain ⟨free, resources⟩ := resources_of_start started
          constructor
          · change (Table.names (registry.registrations ++ [entry])).Nodup
            rw [Table.names_append, List.nodup_append]
            refine ⟨ordered.names, List.nodup_singleton _, fun name listed other same equal => ?_⟩
            rw [List.mem_singleton.mp same] at equal
            rw [Registry.has, Table.has_iff_mem_names.mpr (equal ▸ listed)] at free
            cases free
          · change ∀ registration ∈ (registry.registrations ++ [entry]).map Prod.snd, _
            rw [List.map_append, List.forall_mem_append]
            exact ⟨ordered.resources, List.forall_mem_singleton.mpr resources⟩

/-- Loading reports what it tried, and nothing else. -/
theorem registry_load
    (registry : Registry)
    (files : FileTree)
    (builtins : Option Builtins)
    (path : String)
    (pluginAlias : Option String)
    (expected : Int) :
    (registry.load files builtins path pluginAlias expected).value.2 =
      (registry.tryLoad files expected path pluginAlias).value.2 := by
  rw [Registry.load, Traced.value_bind]
  obtain ⟨outcome, changed⟩ := (registry.tryLoad files expected path pluginAlias).value
  cases outcome with
  | error error => rfl
  | ok entry => cases builtins <;> rfl

theorem IsOrdered.loadEach
    (files : FileTree)
    (builtins : Option Builtins)
    (paths : List String)
    (count : Nat)
    {registry : Registry}
    (ordered : registry.IsOrdered) :
    (loadEach files builtins paths count registry).value.2.IsOrdered := by
  induction paths generalizing count registry with
  | nil => exact ordered
  | cons path rest inductionHypothesis =>
      have loaded :=
        ordered.tryLoad files Library.interfaceVersion path (some (Plugin.aliasOf path))
      rw [← registry_load _ _ builtins] at loaded
      exact inductionHypothesis _ loaded

theorem IsOrdered.unload
    {registry : Registry}
    (ordered : registry.IsOrdered)
    (pluginAlias : String) : (registry.unload pluginAlias).value.2.IsOrdered := by
  rw [Registry.unload]
  cases registry.registrations.find? pluginAlias with
  | none => exact ordered
  | some registration =>
      have fewer := List.filter_sublist (p := fun entry => !(entry.1 == pluginAlias))
        (l := registry.registrations)
      exact ⟨ordered.names.sublist (fewer.map Prod.fst), fun other remains =>
        ordered.resources other ((fewer.map Prod.snd).subset remains)⟩

/-- By induction on the history of a registry: every step keeps its order. -/
theorem Reachable.isOrdered {registry : Registry} (reachable : Reachable registry) :
    registry.IsOrdered := by
  induction reachable with
  | new => exact ⟨List.nodup_nil, List.forall_mem_nil _⟩
  | load _ files builtins path pluginAlias expected ordered =>
      rw [registry_load]
      exact ordered.tryLoad files expected path pluginAlias
  | loadAll _ files builtins root ordered =>
      rw [Registry.loadAll]
      dsimp only [Traced.value_bind, Traced.value_pure]
      exact ordered.loadEach files builtins _ 0
  | unload _ pluginAlias ordered => exact ordered.unload pluginAlias

/-! ## Lookups -/

/-- A registration is the first one that offers a name, and the lookups by name lead to it:
its plugin is the one of the owner, and the function is the one that this plugin offers. -/
structure Serves
    (registry : Registry)
    (name pluginAlias : String)
    (registration : Registration)
    (function : Function) : Prop where
  /-- No registration before it offers the name. -/
  first : ∃ before after,
    registry.registrations = before ++ (pluginAlias, registration) :: after ∧
      ∀ entry ∈ before, entry.2.plugin.find? name = none
  owner : registry.catalogue.owner? name = some pluginAlias
  plugin : registry.find? pluginAlias = some registration.plugin
  offered : registration.plugin.find? name = some function
  found : registry.catalogue.find? name = some function

/-- A name that no plugin offers is not found and has no owner; every other name is served
by one registration. -/
theorem IsOrdered.exists_serves
    {registry : Registry}
    (ordered : registry.IsOrdered)
    (name : String) :
    (registry.catalogue.find? name = none ∧ registry.catalogue.owner? name = none) ∨
      ∃ pluginAlias registration function,
        registry.Serves name pluginAlias registration function := by
  have distinct : registry.catalogue.names.Nodup := by
    rw [catalogue, Table.names_map registry.registrations Registration.plugin]
    exact ordered.names
  cases owned : registry.catalogue.owner? name with
  | none => exact .inl ⟨Catalogue.find?_eq_none_of_owner? owned, rfl⟩
  | some pluginAlias =>
      obtain ⟨plugin, under, offers, same⟩ := Catalogue.find?_of_owner? distinct owned
      obtain ⟨function, offered⟩ := Option.isSome_iff_exists.mp offers
      have leads := owned
      rw [Catalogue.owner?, catalogue, List.find?_map, Option.map_map, Option.map_eq_some_iff]
        at leads
      obtain ⟨⟨owner, registration⟩, first, isOwner⟩ := leads
      change owner = pluginAlias at isOwner
      subst isOwner
      obtain ⟨-, before, after, split, earlier⟩ := List.find?_eq_some_iff_append.mp first
      have present := Table.find?_of_mem ordered.names (List.mem_of_find?_eq_some first)
      have isPlugin : registration.plugin = plugin := by
        rw [catalogue, Table.find?_map, present] at under
        exact Option.some.inj under
      subst isPlugin
      refine .inr ⟨_, registration, function, ⟨before, after, split, fun entry listed => ?_⟩, owned,
        ?_, offered, same.trans offered⟩
      · simpa using earlier entry listed
      · rw [Registry.find?, present]
        rfl

theorem sourcePath?_of_not_owned
    {catalogue : Catalogue}
    {name : String}
    (unowned : catalogue.owner? name = none) : catalogue.sourcePath? name = none := by
  rw [Catalogue.sourcePath?, Catalogue.aliasFor?, unowned]

/-- The source of a name is looked up at its owner, if the alias of that is not empty. -/
theorem Serves.sourcePath?
    {registry : Registry}
    {name pluginAlias : String}
    {registration : Registration}
    {function : Function}
    (serves : registry.Serves name pluginAlias registration function) :
    registry.catalogue.sourcePath? name =
      if pluginAlias = "" then none
      else some (Path.join registration.plugin.path function.file) := by
  have under : Table.find? registry.catalogue pluginAlias = some registration.plugin :=
    (Table.find?_map registry.registrations Registration.plugin pluginAlias).trans serves.plugin
  rw [Catalogue.sourcePath?, Catalogue.aliasFor?, serves.owner]
  dsimp only
  by_cases empty : pluginAlias = ""
  · rw [if_pos (String.isEmpty_iff.mpr empty), if_pos empty]
  · rw [if_neg (mt String.isEmpty_iff.mp empty), if_neg empty, under]
    dsimp only
    rw [serves.offered]
    rfl

/-- In every reachable registry a name is not found, has no owner and no path, or all
lookups lead to the first registration that offers it: the function is the one of the
owner's plugin, and the path of its source is its file in the resources of that plugin,
which are where the plugin was loaded from. There is no path exactly if the alias of the
owner is empty. -/
theorem Reachable.lookups_agree
    {registry : Registry}
    (reachable : Reachable registry)
    (name : String) :
    (registry.catalogue.find? name = none ∧ registry.catalogue.owner? name = none ∧
        registry.catalogue.sourcePath? name = none) ∨
      ∃ pluginAlias registration function,
        registry.Serves name pluginAlias registration function ∧
          registration.plugin.path = Plugin.resourceDirectory registration.library.path ∧
          registry.catalogue.sourcePath? name =
            if pluginAlias = "" then none
            else some (Path.join registration.plugin.path function.file) := by
  have ordered := reachable.isOrdered
  rcases ordered.exists_serves name with
    ⟨lost, unowned⟩ | ⟨pluginAlias, registration, function, serves⟩
  · exact .inl ⟨lost, unowned, sourcePath?_of_not_owned unowned⟩
  · obtain ⟨before, after, split, -⟩ := serves.first
    have listed : registration ∈ registry.registrations.contents := by
      rw [Table.contents, split]
      simp
    exact .inr ⟨pluginAlias, registration, function, serves,
      ordered.resources registration listed, serves.sourcePath?⟩

/-- Two plugins that offer a function of the same name, one of them without a name of its
own, in files under one root. -/
def twoWaves : FileTree :=
  let wave : Function := ⟨"wave", "wave.glsl", "math", [⟨"float", ["float"]⟩]⟩
  let files := ({} : FileTree).write "p/calm/calm_plugin.py"
    (.module { create := .returns (.plugin { name := "calm", functions := [wave] }) })
  files.write "p/wild/wild_plugin.py"
    (.module { create := .returns (.plugin { name := "", functions := [wave] }) })

/-- The registry with both plugins, the one with a name first. -/
def calmBeforeWild : Registry :=
  (Registry.load (Registry.load {} twoWaves none "p/calm/calm_plugin.py" none).value.2
    twoWaves none "p/wild/wild_plugin.py" none).value.2

theorem calmBeforeWild_reachable : calmBeforeWild.Reachable :=
  .load (.load .new twoWaves none "p/calm/calm_plugin.py" none Library.interfaceVersion) twoWaves
    none "p/wild/wild_plugin.py" none Library.interfaceVersion

theorem calmBeforeWild_lookups_agree :
    calmBeforeWild.Reachable ∧
      ∃ registration function,
        calmBeforeWild.Serves "wave" "calm" registration function ∧
          registration.plugin.path = Plugin.resourceDirectory registration.library.path ∧
          calmBeforeWild.catalogue.sourcePath? "wave" =
            some (Path.join registration.plugin.path function.file) := by
  have owned : calmBeforeWild.catalogue.owner? "wave" = some "calm" := by decide +kernel
  rcases calmBeforeWild_reachable.lookups_agree "wave" with
    ⟨-, unowned, -⟩ | ⟨_, registration, function, serves, resources, path⟩
  · rw [owned] at unowned
    cases unowned
  · cases serves.owner.symm.trans owned
    rw [if_neg (by decide)] at path
    exact ⟨calmBeforeWild_reachable, registration, function, serves, resources, path⟩

/-- The registry with the plugin without a name alone. -/
def wildAlone : Registry :=
  (calmBeforeWild.unload "calm").value.2

/-- The function of a plugin with an empty alias is found, but its source has no path. -/
theorem wildAlone_lookups_differ :
    wildAlone.Reachable ∧
      ¬((wildAlone.catalogue.find? "wave" = none ∧ wildAlone.catalogue.owner? "wave" = none ∧
          wildAlone.catalogue.sourcePath? "wave" = none) ∨
        ∃ pluginAlias registration function,
          wildAlone.Serves "wave" pluginAlias registration function ∧
            wildAlone.catalogue.sourcePath? "wave" =
              some (Path.join registration.plugin.path function.file)) := by
  have evaluated : wildAlone.catalogue.owner? "wave" = some "" ∧
      wildAlone.catalogue.sourcePath? "wave" = none := by decide +kernel
  obtain ⟨owned, pathless⟩ := evaluated
  refine ⟨calmBeforeWild_reachable.unload "calm", ?_⟩
  rintro (⟨-, unowned, -⟩ | ⟨_, _, _, -, path⟩)
  · rw [owned] at unowned
    cases unowned
  · rw [pathless] at path
    cases path

end Registry
end ShaderGraph
