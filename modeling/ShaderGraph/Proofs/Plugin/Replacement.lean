import ShaderGraph.Proofs.Plugin.Rearrangement

/-!
# Loading plugins again

Loading a plugin from a file again drops the one under the alias of the file and
registers the new one behind all others. After all plugins below a root were
loaded, each goes by the alias of its file, so loading some of them again moves
just these behind the others, in the order in which that is done.
-/

namespace ShaderGraph

namespace Library

theorem path_of_open
    {files : FileTree}
    {path : String}
    {serial : Nat}
    {library : Library}
    (opened : Library.open? files path serial = .ok library) : library.path = path := by
  unfold Library.open? at opened
  split at opened
  · split at opened <;> cases opened
    rfl
  · split at opened <;> cases opened
  · split at opened
    · cases opened
    · split at opened <;> cases opened
      rfl
  · cases opened

theorem isFile_of_open
    {files : FileTree}
    {path : String}
    {serial : Nat}
    {library : Library}
    (opened : Library.open? files path serial = .ok library) : files.isFile path = true := by
  unfold Library.open? at opened
  unfold FileTree.isFile
  split at opened
  · simp [*]
  · simp [*]
  · simp [*]
  · cases opened

end Library

/-- Whenever the module in a file is opened, it makes a plugin with these functions. -/
def FileTree.MakesAt (files : FileTree) (path : String) (functions : List Function) : Prop :=
  ∀ serial, ∃ library plugin, Library.open? files path serial = .ok library ∧
    library.make Library.interfaceVersion = .ok (.plugin plugin) ∧ plugin.functions = functions

theorem FileTree.makesAt_of_locate
    {files : FileTree}
    {path : String}
    {place : List String}
    {module : Module}
    {plugin : Plugin}
    (located : files.locate path = .ok place)
    (found : files.content? place = some (.module module))
    (ending : Plugin.hasEnding Plugin.moduleEnding path = true)
    (imported : module.importError = none)
    (made : ∀ path serial,
      Library.make ⟨module, path, serial⟩ Library.interfaceVersion = .ok (.plugin plugin)) :
    files.MakesAt path plugin.functions := by
  intro serial
  refine ⟨⟨module, path, serial⟩, plugin, ?_, made path serial, rfl⟩
  simp only [Library.open?, FileTree.contentAt?, located, found, ending, imported, Bool.not_true,
    Bool.false_eq_true, if_false]

namespace Registry

/-! ## Loading under an alias -/

theorem value_load
    (registry : Registry)
    (files : FileTree)
    (builtins : Option Builtins)
    (path : String)
    (pluginAlias : Option String)
    (expected : Int) :
    (registry.load files builtins path pluginAlias expected).value =
      ((registry.tryLoad files expected path pluginAlias).value.1.isOk,
        (registry.tryLoad files expected path pluginAlias).value.2) := by
  rw [load]
  dsimp only [Traced.value_bind]
  rcases (registry.tryLoad files expected path pluginAlias).value with ⟨_ | ⟨_, _⟩, changed⟩
  · rfl
  · cases builtins <;> rfl

/-- A plugin with a free alias that its module makes is registered under it behind
all others. -/
theorem load_of_made
    {registry : Registry}
    {files : FileTree}
    {path pluginAlias : String}
    {expected : Int}
    {library : Library}
    {plugin : Plugin}
    (opened : Library.open? files path registry.opened = .ok library)
    (made : library.make expected = .ok (.plugin plugin))
    (named : pluginAlias ≠ "")
    (free : registry.has pluginAlias = false)
    (builtins : Option Builtins) :
    (registry.load files builtins path (some pluginAlias) expected).value =
      (true, {
        registrations := registry.registrations ++
          [(pluginAlias, ⟨{ plugin with path := Plugin.resourceDirectory library.path }, library⟩)]
        opened := registry.opened + 1 }) := by
  have kept (plugin : Plugin) : Library.aliasOf plugin (some pluginAlias) = pluginAlias := by
    rw [Library.aliasOf, if_neg (by simpa using named)]
  have started : (library.start expected (some pluginAlias) registry.has).value = .ok
      (pluginAlias, ⟨{ plugin with path := Plugin.resourceDirectory library.path }, library⟩) := by
    rw [Library.start, made]
    dsimp only [Traced.value_bind]
    rw [kept, free]
    rfl
  rw [value_load, tryLoad, opened]
  dsimp only [Traced.value_bind]
  rw [started]
  rfl

/-- A plugin is registered under the alias that it is given, or else its name. -/
theorem tryLoad_cases
    (registry : Registry)
    (files : FileTree)
    (expected : Int)
    (path : String)
    (pluginAlias : Option String) :
    let tried := (registry.tryLoad files expected path pluginAlias).value
    tried.2.registrations = registry.registrations ∨
      ∃ found registration, registry.has found = false ∧ registration.library.path = path ∧
        (∀ given, pluginAlias = some given -> given ≠ "" -> found = given) ∧
        tried.2.registrations = registry.registrations ++ [(found, registration)] := by
  rw [tryLoad]
  cases opened : Library.open? files path registry.opened with
  | error error => exact .inl rfl
  | ok library =>
      dsimp only [Traced.value_bind]
      cases started : (library.start expected pluginAlias registry.has).value with
      | error error => exact .inl rfl
      | ok entry =>
          obtain ⟨found, registration⟩ := entry
          refine .inr ⟨found, registration, ?_⟩
          rw [Library.start] at started
          split at started
          case h_1 | h_2 | h_3 => cases started
          case h_4 plugin made =>
            dsimp only [Traced.value_bind] at started
            split at started
            · cases started
            · cases started
              refine ⟨Bool.eq_false_iff.mpr ‹_›, Library.path_of_open opened, ?_, rfl⟩
              rintro given rfl named
              rw [Library.aliasOf, if_neg (by simpa using named)]

/-! ## Registries that were filled from a root -/

/-- No alias is used twice, and a plugin goes by the alias of its file if the name
of the file has one. -/
structure IsFilled (registry : Registry) : Prop where
  distinct : registry.registrations.names.Nodup
  named : ∀ entry ∈ registry.registrations,
    Plugin.aliasOf entry.2.library.path ≠ "" -> entry.1 = Plugin.aliasOf entry.2.library.path

theorem isFilled_load
    {registry : Registry}
    (filled : registry.IsFilled)
    (files : FileTree)
    (builtins : Option Builtins)
    (path : String) :
    (registry.load files builtins path (some (Plugin.aliasOf path))).value.2.IsFilled := by
  rw [value_load]
  rcases registry.tryLoad_cases files Library.interfaceVersion path
      (some (Plugin.aliasOf path)) with
    same | ⟨found, registration, free, opened, named, registered⟩
  · exact ⟨same ▸ filled.distinct, same ▸ filled.named⟩
  · have fresh : found ∉ registry.registrations.names := fun used => by
      rw [Registry.has, Table.has_iff_mem_names.mpr used] at free
      cases free
    constructor
    · rw [registered, Table.names_append]
      exact List.nodup_append'.mpr ⟨filled.distinct, List.nodup_singleton found,
        List.disjoint_singleton.mpr fresh⟩
    · rw [registered]
      intro entry present
      rcases List.mem_append.mp present with before | last
      · exact filled.named entry before
      · cases List.mem_singleton.mp last
        intro hasAlias
        rw [opened] at hasAlias ⊢
        exact named _ rfl hasAlias

theorem isFilled_loadEach
    {registry : Registry}
    (filled : registry.IsFilled)
    (files : FileTree)
    (builtins : Option Builtins)
    (paths : List String)
    (count : Nat) : (loadEach files builtins paths count registry).value.2.IsFilled := by
  induction paths generalizing registry count with
  | nil => exact filled
  | cons path rest inductionHypothesis =>
      rw [loadEach]
      exact inductionHypothesis (isFilled_load filled files builtins path) _

theorem isFilled_loadAll (files : FileTree) (builtins : Option Builtins) (root : String) :
    (({} : Registry).loadAll files builtins root).value.2.IsFilled := by
  have empty : ({} : Registry).IsFilled := ⟨List.nodup_nil, by simp⟩
  rw [loadAll]
  dsimp only [Traced.value_bind, Traced.value_pure]
  exact isFilled_loadEach empty files builtins _ 0

/-- Files of different plugins have different aliases. -/
theorem IsFilled.eq_of_aliasOf_eq
    {registry : Registry}
    {entry other : String × Registration}
    (filled : registry.IsFilled)
    (present : entry ∈ registry.registrations)
    (otherPresent : other ∈ registry.registrations)
    (named : Plugin.aliasOf entry.2.library.path ≠ "")
    (same : Plugin.aliasOf entry.2.library.path = Plugin.aliasOf other.2.library.path) :
    entry = other := by
  have sameAlias : entry.1 = other.1 := by
    rw [filled.named entry present named, same, filled.named other otherPresent (same ▸ named)]
  exact List.inj_on_of_nodup_map filled.distinct present otherPresent sameAlias

/-! ## Loading again -/

/-- Drop the plugin under the alias of a file and load the file. -/
def reload
    (registry : Registry)
    (files : FileTree)
    (builtins : Builtins)
    (path : String) : Bool × Registry :=
  (({ registry with registrations := registry.registrations.erase (Plugin.aliasOf path) } :
    Registry).load files (some builtins) path (some (Plugin.aliasOf path))).value

/-- A file that is not loaded again leaves the plugins without the one under its
alias. -/
theorem registrations_reload_of_not_loaded
    {registry : Registry}
    {files : FileTree}
    {builtins : Builtins}
    {path : String}
    (failed : (registry.reload files builtins path).1 = false) :
    (registry.reload files builtins path).2.registrations =
      registry.registrations.without [Plugin.aliasOf path] := by
  let dropped : Registry :=
    { registry with registrations := registry.registrations.erase (Plugin.aliasOf path) }
  have loads := dropped.load_loads files (some builtins) path (some (Plugin.aliasOf path))
    Library.interfaceVersion
  change dropped.Loads files path _ _ (registry.reload files builtins path).1 _
    (registry.reload files builtins path).2 at loads
  rw [failed] at loads
  rw [registrations_eq_of_not_loaded loads, ← Table.erase_eq_without]

/-- Drop and load files one by one, leaving out those that are not there, and count
those that were loaded. -/
def reloadEach
    (files : FileTree)
    (builtins : Builtins) : List String -> Registry -> Nat × Registry
  | [], registry => (0, registry)
  | path :: rest, registry =>
      if files.isFile path then
        let (reloaded, changed) := registry.reload files builtins path
        let (count, final) := reloadEach files builtins rest changed
        (if reloaded then count + 1 else count, final)
      else reloadEach files builtins rest registry

theorem isFile_of_makesAt
    {files : FileTree}
    {path : String}
    {functions : List Function}
    (makes : files.MakesAt path functions) : files.isFile path = true := by
  obtain ⟨_, _, opened, _⟩ := makes 0
  exact Library.isFile_of_open opened

/-- A file whose module makes a plugin is loaded again behind all others. -/
theorem reload_of_makesAt
    {files : FileTree}
    {path : String}
    {functions : List Function}
    (makes : files.MakesAt path functions)
    (named : Plugin.aliasOf path ≠ "")
    (registry : Registry)
    (builtins : Builtins) :
    ∃ registration, registration.plugin.functions = functions ∧
      registry.reload files builtins path = (true, {
        registrations := registry.registrations.without [Plugin.aliasOf path] ++
          [(Plugin.aliasOf path, registration)]
        opened := registry.opened + 1 }) := by
  let dropped : Registry :=
    { registry with registrations := registry.registrations.without [Plugin.aliasOf path] }
  obtain ⟨library, plugin, opened, made, same⟩ := makes dropped.opened
  have free : dropped.has (Plugin.aliasOf path) = false := by
    rw [Registry.has, ← Bool.not_eq_true, Table.has_without]
    simp
  refine ⟨⟨{ plugin with path := Plugin.resourceDirectory library.path }, library⟩, same, ?_⟩
  rw [reload, Table.erase_eq_without]
  exact load_of_made opened made named free (some builtins)

/-- Files with different aliases whose modules make plugins are loaded again behind
all others in their order. -/
theorem registrations_reloadEach
    {files : FileTree}
    {paths : List String}
    {functions : String -> List Function}
    (makes : ∀ path ∈ paths, files.MakesAt path (functions path))
    (named : ∀ path ∈ paths, Plugin.aliasOf path ≠ "")
    (distinct : (paths.map Plugin.aliasOf).Nodup)
    (registry : Registry)
    (builtins : Builtins) :
    (reloadEach files builtins paths registry).1 = paths.length ∧
      ∃ moved : Table Registration,
        moved.map (fun entry => (entry.1, entry.2.plugin.functions)) =
          paths.map (fun path => (Plugin.aliasOf path, functions path)) ∧
        (reloadEach files builtins paths registry).2.registrations =
          registry.registrations.without (paths.map Plugin.aliasOf) ++ moved := by
  induction paths generalizing registry with
  | nil =>
      refine ⟨rfl, [], rfl, ?_⟩
      rw [reloadEach, List.map_nil, Table.without_nil, List.append_nil]
  | cons path rest inductionHypothesis =>
      obtain ⟨fresh, restDistinct⟩ := List.nodup_cons.mp distinct
      have makesFirst := makes path List.mem_cons_self
      obtain ⟨registration, same, reloaded⟩ :=
        reload_of_makesAt makesFirst (named path List.mem_cons_self) registry builtins
      obtain ⟨count, moved, movedFunctions, final⟩ := inductionHypothesis
        (fun other later => makes other (List.mem_cons_of_mem path later))
        (fun other later => named other (List.mem_cons_of_mem path later)) restDistinct
        (registry.reload files builtins path).2
      rw [reloaded] at count final
      rw [reloadEach, if_pos (isFile_of_makesAt makesFirst), reloaded]
      refine ⟨?_, (Plugin.aliasOf path, registration) :: moved, ?_, ?_⟩
      · simp only [count, if_true, List.length_cons]
      · rw [List.map_cons, List.map_cons, movedFunctions, same]
      · have stays : Table.without [(Plugin.aliasOf path, registration)]
            (rest.map Plugin.aliasOf) = [(Plugin.aliasOf path, registration)] :=
          List.filter_eq_self.mpr (by simpa using fresh)
        dsimp only
        rw [final, Table.without, List.filter_append, ← Table.without, ← Table.without,
          stays, Table.without_without, List.append_assoc]
        rfl

end Registry
end ShaderGraph
