import ShaderGraph.Proofs.Host.Polling

/-!
# Plugins that a poll replaces

A poll drops plugins by the alias of a changed file, whichever file they came from, and
registers what the module in the file makes now. So a plugin is replaced by the one of
its own file if that file alone has its alias. A plugin of another file with the same
alias is dropped as well.
-/

namespace ShaderGraph

/-- The alias that a plugin is registered under: that of its file, or else its name. -/
def Registration.ownAlias (registration : Registration) : String :=
  Library.aliasOf registration.plugin (some (Plugin.aliasOf registration.library.path))

/-- What the module in a file makes when it is opened with a number. -/
structure FileTree.Provides
    (files : FileTree)
    (path : String)
    (serial : Nat)
    (registration : Registration) : Prop where
  opened : Library.open? files path serial = .ok registration.library
  made : ∃ plugin, registration.library.make Library.interfaceVersion = .ok (.plugin plugin) ∧
    registration.plugin =
      { plugin with path := Plugin.resourceDirectory registration.library.path }

namespace FileTree.Provides

variable
  {files : FileTree}
  {path : String}
  {serial : Nat}
  {registration : Registration}

theorem path_eq (provides : files.Provides path serial registration) :
    registration.library.path = path :=
  Library.path_of_open provides.opened

theorem serial_eq (provides : files.Provides path serial registration) :
    registration.library.serial = serial :=
  Library.serial_of_open provides.opened

theorem ownAlias_eq (provides : files.Provides path serial registration) :
    registration.ownAlias =
      if Plugin.aliasOf path = "" then registration.plugin.name else Plugin.aliasOf path := by
  rw [Registration.ownAlias, provides.path_eq, Library.aliasOf]
  by_cases noAlias : Plugin.aliasOf path = ""
  · rw [if_pos noAlias, if_pos (by simp [noAlias])]
  · rw [if_neg noAlias, if_neg (by simpa using noAlias)]

/-- The library of a file registers its plugin unless its own alias is taken. -/
theorem value_start
    (provides : files.Provides path serial registration)
    (taken : String -> Bool) :
    (registration.library.start Library.interfaceVersion (some (Plugin.aliasOf path))
        taken).value =
      if taken registration.ownAlias then .error (.aliasTaken registration.ownAlias)
      else .ok (registration.ownAlias, registration) := by
  obtain ⟨plugin, makes, same⟩ := provides.made
  have named : Library.aliasOf registration.plugin (some (Plugin.aliasOf path)) =
      registration.ownAlias := by
    rw [Registration.ownAlias, provides.path_eq]
  rw [Library.start, makes]
  dsimp only [Traced.value_bind]
  rw [← same, named]
  split <;> rfl

end FileTree.Provides

/-- Whether the module in a file makes a plugin. -/
def FileTree.offersPlugin (files : FileTree) (path : String) : Bool :=
  match Library.open? files path 0 with
  | .error _ => false
  | .ok library =>
      match library.make Library.interfaceVersion with
      | .ok (.plugin _) => true
      | _ => false

/-- Opening a file again changes the number of the library. -/
theorem Library.open?_eq_map (files : FileTree) (path : String) (serial : Nat) :
    Library.open? files path serial =
      (Library.open? files path 0).map fun library => { library with serial } := by
  unfold Library.open?
  split
  · split <;> rfl
  · split <;> rfl
  · split
    · rfl
    · split <;> rfl
  · rfl

/-- What a module makes does not depend on when its file is opened. -/
theorem FileTree.offersPlugin_iff {files : FileTree} {path : String} (serial : Nat) :
    files.offersPlugin path = true ↔
      ∃ registration, files.Provides path serial registration := by
  have reopened := Library.open?_eq_map files path serial
  unfold offersPlugin
  cases opened : Library.open? files path 0 with
  | error error =>
      rw [opened] at reopened
      refine ⟨fun impossible => (Bool.false_ne_true impossible).elim, ?_⟩
      rintro ⟨_, provides⟩
      cases reopened.symm.trans provides.opened
  | ok library =>
      rw [opened] at reopened
      dsimp only
      constructor
      · intro offers
        split at offers
        case h_1 plugin made =>
          exact ⟨⟨{ plugin with path := Plugin.resourceDirectory library.path },
            { library with serial }⟩, reopened, plugin, made, rfl⟩
        case h_2 => cases offers
      · rintro ⟨⟨_, _⟩, opens, plugin, made, _⟩
        cases reopened.symm.trans opens
        rw [show library.make Library.interfaceVersion = .ok (.plugin plugin) from made]

/-- A library that makes no plugin registers none. -/
theorem Library.value_start_of_not_made
    {library : Library}
    {expected : Int}
    (nothing : ∀ plugin, library.make expected ≠ .ok (.plugin plugin))
    (pluginAlias : Option String)
    (taken : String -> Bool) :
    ∃ error, (library.start expected pluginAlias taken).value = .error error := by
  rw [start]
  split
  case h_1 error _ => exact ⟨error, rfl⟩
  case h_2 => exact ⟨_, rfl⟩
  case h_3 => exact ⟨_, rfl⟩
  case h_4 plugin made => exact absurd made (nothing plugin)

namespace Registry

variable
  {registry : Registry}
  {files : FileTree}
  {path : String}
  {registration : Registration}

/-! ## Loading the plugin of a file -/

/-- What the module in a file makes is registered behind all others if its alias is
free. -/
theorem load_of_provides
    (provides : files.Provides path registry.opened registration)
    (builtins : Option Builtins) :
    (registry.load files builtins path (some (Plugin.aliasOf path))).value =
      if registry.has registration.ownAlias then
        (false, { registry with opened := registry.opened + 1 })
      else (true, {
        registrations := registry.registrations ++ [(registration.ownAlias, registration)]
        opened := registry.opened + 1 }) := by
  rw [value_load, tryLoad, provides.opened]
  dsimp only [Traced.value_bind]
  rw [provides.value_start]
  cases registry.has registration.ownAlias <;> rfl

/-- Where a file provides no plugin, loading it registers nothing. -/
theorem load_of_not_provided
    (nothing : ∀ registration, ¬files.Provides path registry.opened registration)
    (builtins : Option Builtins) :
    let loaded := (registry.load files builtins path (some (Plugin.aliasOf path))).value
    loaded.1 = false ∧ loaded.2.registrations = registry.registrations ∧
      registry.opened ≤ loaded.2.opened := by
  rw [value_load, tryLoad]
  cases opened : Library.open? files path registry.opened with
  | error error => exact ⟨rfl, rfl, Nat.le_refl _⟩
  | ok library =>
      have unmade : ∀ plugin, library.make Library.interfaceVersion ≠ .ok (.plugin plugin) :=
        fun plugin makes =>
          nothing ⟨{ plugin with path := Plugin.resourceDirectory library.path }, library⟩
            ⟨opened, plugin, makes, rfl⟩
      obtain ⟨error, started⟩ :=
        Library.value_start_of_not_made unmade (some (Plugin.aliasOf path)) registry.has
      dsimp only [Traced.value_bind]
      rw [started]
      exact ⟨rfl, rfl, Nat.le_succ _⟩

/-! ## Own aliases -/

/-- Every plugin goes by its own alias, and its library was opened before. -/
structure IsSettled (registry : Registry) : Prop where
  own : ∀ entry ∈ registry.registrations, entry.1 = entry.2.ownAlias
  earlier : ∀ entry ∈ registry.registrations, entry.2.library.serial < registry.opened

/-- A settled registry stays settled when a file is loaded. -/
theorem isSettled_load
    (settled : registry.IsSettled)
    (files : FileTree)
    (builtins : Option Builtins)
    (path : String) :
    (registry.load files builtins path (some (Plugin.aliasOf path))).value.2.IsSettled := by
  by_cases provided : ∃ registration, files.Provides path registry.opened registration
  · obtain ⟨registration, provides⟩ := provided
    have earlier : ∀ entry ∈ registry.registrations,
        entry.2.library.serial < registry.opened + 1 := fun entry present =>
      Nat.lt_succ_of_lt (settled.earlier entry present)
    rw [load_of_provides provides]
    cases registry.has registration.ownAlias with
    | true => exact ⟨settled.own, earlier⟩
    | false =>
        constructor
        · intro entry present
          rcases List.mem_append.mp present with before | last
          · exact settled.own entry before
          · rw [List.mem_singleton.mp last]
        · intro entry present
          rcases List.mem_append.mp present with before | last
          · exact earlier entry before
          · rw [List.mem_singleton.mp last, provides.serial_eq]
            exact Nat.lt_succ_self _
  · obtain ⟨_, same, later⟩ := load_of_not_provided (not_exists.mp provided) builtins
    exact ⟨same ▸ settled.own,
      same ▸ fun entry present => Nat.lt_of_lt_of_le (settled.earlier entry present) later⟩

theorem isSettled_loadEach
    (settled : registry.IsSettled)
    (files : FileTree)
    (builtins : Option Builtins)
    (paths : List String)
    (count : Nat) : (loadEach files builtins paths count registry).value.2.IsSettled := by
  induction paths generalizing registry count with
  | nil => exact settled
  | cons path rest inductionHypothesis =>
      rw [loadEach]
      exact inductionHypothesis (isSettled_load settled files builtins path) _

/-- Loading all plugins below a root registers each of them under its own alias. -/
theorem isSettled_loadAll (files : FileTree) (builtins : Option Builtins) (root : String) :
    (({} : Registry).loadAll files builtins root).value.2.IsSettled := by
  have empty : ({} : Registry).IsSettled := ⟨by simp, by simp⟩
  rw [loadAll]
  dsimp only [Traced.value_bind, Traced.value_pure]
  exact isSettled_loadEach empty files builtins _ 0

/-! ## Dropping and loading files -/

/-- Reloading a file with an alias drops the plugin under it, and registers what the
module in the file makes. -/
theorem reload_of_provides
    (provides : files.Provides path registry.opened registration)
    (hasAlias : Plugin.aliasOf path ≠ "")
    (builtins : Builtins) :
    registry.reload files builtins path = (true, {
      registrations := registry.registrations.without [Plugin.aliasOf path] ++
        [(Plugin.aliasOf path, registration)]
      opened := registry.opened + 1 }) := by
  let dropped : Registry :=
    { registry with registrations := registry.registrations.without [Plugin.aliasOf path] }
  have free : dropped.has (Plugin.aliasOf path) = false := by
    rw [Registry.has, ← Bool.not_eq_true, Table.has_without]
    simp
  have opened : files.Provides path dropped.opened registration := provides
  have loaded := load_of_provides opened (some builtins)
  rw [provides.ownAlias_eq, if_neg hasAlias, free] at loaded
  rw [reload, Table.erase_eq_without]
  exact loaded

/-- Where a file provides no plugin any more, reloading it unloads the old one. -/
theorem reload_of_not_provided
    (nothing : ∀ registration, ¬files.Provides path registry.opened registration)
    (builtins : Builtins) :
    let reloaded := registry.reload files builtins path
    reloaded.1 = false ∧
      reloaded.2.registrations = registry.registrations.without [Plugin.aliasOf path] ∧
      registry.opened ≤ reloaded.2.opened := by
  let dropped : Registry :=
    { registry with registrations := registry.registrations.without [Plugin.aliasOf path] }
  have unopened : ∀ registration, ¬files.Provides path dropped.opened registration := nothing
  rw [reload, Table.erase_eq_without]
  exact load_of_not_provided unopened builtins

/-- The plugins that are registered while files are reloaded: each is what the module in
one of the files made then, under the alias of the file. A file whose module makes a
plugin has one of them, unless a later file with its alias drops that again. -/
structure Renews
    (files : FileTree)
    (paths : List String)
    (opened : Nat)
    (added : Table Registration) : Prop where
  provided : ∀ entry ∈ added, ∃ path ∈ paths, ∃ serial ≥ opened,
    entry.1 = Plugin.aliasOf path ∧ files.Provides path serial entry.2
  latest : ∀ earlier path later, paths = earlier ++ path :: later ->
    files.offersPlugin path = true ->
    Plugin.aliasOf path ∉ (later.filter files.isFile).map Plugin.aliasOf ->
    ∃ entry ∈ added, entry.2.library.path = path

theorem eq_of_split {path other : String} {earlier later : List String}
    (split : [path] = earlier ++ other :: later) : other = path := by
  have listed : other ∈ [path] := by rw [split]; simp
  exact List.mem_singleton.mp listed

/-- A file that provides a plugin renews its registration. -/
theorem Renews.of_provides
    {serial : Nat}
    (provides : files.Provides path serial registration) :
    Renews files [path] serial [(Plugin.aliasOf path, registration)] := by
  constructor
  · intro entry present
    have same := List.mem_singleton.mp present
    refine ⟨path, List.mem_singleton_self path, serial, Nat.le_refl serial, ?_, ?_⟩
    · rw [same]
    · rw [same]
      exact provides
  · intro earlier other later split _ _
    rw [eq_of_split split]
    exact ⟨_, List.mem_singleton_self _, provides.path_eq⟩

/-- A file that offers no plugin renews nothing. -/
theorem Renews.of_not_offers (offers : files.offersPlugin path = false) (opened : Nat) :
    Renews files [path] opened [] := by
  refine ⟨by simp, fun earlier other later split otherOffers _ => ?_⟩
  rw [eq_of_split split, offers] at otherOffers
  cases otherOffers

/-- What reloading a file renews: its plugin, if its module makes one. -/
theorem renews_reload
    (hasAlias : Plugin.aliasOf path ≠ "")
    (registry : Registry)
    (files : FileTree)
    (builtins : Builtins) :
    let reloaded := registry.reload files builtins path
    ∃ added, Renews files [path] registry.opened added ∧
      reloaded.1 = files.offersPlugin path ∧
      reloaded.2.registrations = registry.registrations.without [Plugin.aliasOf path] ++ added ∧
      registry.opened ≤ reloaded.2.opened := by
  cases offers : files.offersPlugin path with
  | true =>
      obtain ⟨registration, provides⟩ :=
        (FileTree.offersPlugin_iff registry.opened).mp offers
      rw [reload_of_provides provides hasAlias]
      exact ⟨_, .of_provides provides, rfl, rfl, Nat.le_succ _⟩
  | false =>
      have nothing : ∀ registration, ¬files.Provides path registry.opened registration := by
        intro registration provides
        rw [(FileTree.offersPlugin_iff registry.opened).mpr ⟨registration, provides⟩] at offers
        cases offers
      obtain ⟨failed, same, later⟩ := reload_of_not_provided nothing builtins
      exact ⟨[], .of_not_offers offers _, failed, by rw [same, List.append_nil], later⟩

/-- Reloading one more file first: what it renewed stays unless a later file drops it. -/
theorem Renews.cons
    {rest : List String}
    {opened later : Nat}
    {first added : Table Registration}
    (renewsFirst : Renews files [path] opened first)
    (renews : Renews files rest later added)
    (after : opened ≤ later) :
    Renews files (path :: rest) opened
      (first.without ((rest.filter files.isFile).map Plugin.aliasOf) ++ added) := by
  constructor
  · intro entry present
    rcases List.mem_append.mp present with kept | new
    · obtain ⟨other, listed, serial, since, provided⟩ :=
        renewsFirst.provided entry (List.mem_of_mem_filter kept)
      exact ⟨other, List.mem_cons.mpr (.inl (List.mem_singleton.mp listed)), serial, since,
        provided⟩
    · obtain ⟨other, listed, serial, since, provided⟩ := renews.provided entry new
      exact ⟨other, List.mem_cons_of_mem path listed, serial, Nat.le_trans after since, provided⟩
  · intro earlier other behind split offers alone
    cases earlier with
    | nil =>
        obtain ⟨rfl, rfl⟩ := List.cons.inj split
        obtain ⟨entry, present, same⟩ := renewsFirst.latest [] path [] rfl offers (by simp)
        obtain ⟨source, listed, _, _, sameAlias, _⟩ := renewsFirst.provided entry present
        refine ⟨entry, List.mem_append.mpr (.inl (List.mem_filter.mpr ⟨present, ?_⟩)), same⟩
        rw [sameAlias, List.mem_singleton.mp listed]
        simpa using alone
    | cons first earlier =>
        obtain ⟨_, restSplit⟩ := List.cons.inj split
        obtain ⟨entry, present, same⟩ :=
          renews.latest earlier other behind restSplit offers alone
        exact ⟨entry, List.mem_append.mpr (.inr present), same⟩

/-- Reloading files counts those whose modules make plugins, and leaves the plugins
under other aliases as they are, in front of those that it renews. -/
theorem renews_reloadEach
    {paths : List String}
    (named : ∀ path ∈ paths, Plugin.aliasOf path ≠ "")
    (registry : Registry)
    (files : FileTree)
    (builtins : Builtins) :
    let reloaded := reloadEach files builtins paths registry
    reloaded.1 = paths.countP files.offersPlugin ∧
      ∃ added, Renews files paths registry.opened added ∧
        reloaded.2.registrations =
          registry.registrations.without ((paths.filter files.isFile).map Plugin.aliasOf) ++
            added := by
  induction paths generalizing registry with
  | nil =>
      refine ⟨rfl, [], ⟨by simp, by simp⟩, ?_⟩
      rw [List.append_nil]
      exact (Table.without_nil _).symm
  | cons path rest inductionHypothesis =>
      obtain ⟨hasAlias, restNamed⟩ := List.forall_mem_cons.mp named
      rw [reloadEach]
      split
      case isTrue isFile =>
        obtain ⟨first, renewsFirst, loaded, registrations, later⟩ :=
          renews_reload hasAlias registry files builtins
        obtain ⟨count, added, renews, final⟩ :=
          inductionHypothesis restNamed (registry.reload files builtins path).2
        refine ⟨?_, _, renewsFirst.cons renews later, ?_⟩
        · dsimp only
          rw [count, loaded, List.countP_cons]
          split <;> rfl
        · dsimp only
          rw [final, registrations, Table.without, List.filter_append, ← Table.without,
            ← Table.without, Table.without_without, List.filter_cons_of_pos isFile,
            List.append_assoc]
          rfl
      case isFalse missing =>
        have offersNothing : files.offersPlugin path = false := by
          rw [← Bool.not_eq_true, FileTree.offersPlugin_iff registry.opened]
          rintro ⟨_, provides⟩
          exact missing (Library.isFile_of_open provides.opened)
        obtain ⟨count, added, renews, final⟩ := inductionHypothesis restNamed registry
        refine ⟨?_, added, ?_, ?_⟩
        · rw [count, List.countP_cons_of_neg (by simp [offersNothing])]
        · exact (Renews.of_not_offers offersNothing _).cons renews (Nat.le_refl _)
        · rw [final, List.filter_cons_of_neg missing]

/-- A plugin that was registered before files are reloaded stays exactly if none of
the files has the alias that it goes by. -/
theorem IsSettled.mem_reloadEach_iff
    {paths : List String}
    {entry : String × Registration}
    (settled : registry.IsSettled)
    (named : ∀ path ∈ paths, Plugin.aliasOf path ≠ "")
    (present : entry ∈ registry.registrations)
    (files : FileTree)
    (builtins : Builtins) :
    entry ∈ (reloadEach files builtins paths registry).2.registrations ↔
      entry.1 ∉ (paths.filter files.isFile).map Plugin.aliasOf := by
  obtain ⟨_, added, renews, final⟩ := renews_reloadEach named registry files builtins
  have old : entry ∉ added := by
    intro new
    obtain ⟨_, _, serial, since, _, provides⟩ := renews.provided entry new
    have earlier := settled.earlier entry present
    rw [provides.serial_eq] at earlier
    exact Nat.not_le_of_lt earlier since
  rw [final, List.mem_append, or_iff_left old, Table.without, List.mem_filter]
  simp [present]

end Registry

/-! ## Polls -/

/-- A poll leaves the registry as reloading the pending files does. -/
theorem Action.poll_reloads
    {host : Host}
    {watcher : Watcher}
    (watched : host.watcher = some watcher) :
    poll.Meets host fun outcome changed =>
      let reloaded := host.registry.reloadEach host.files host.builtins watcher.pending
      outcome = .ok reloaded.1 ∧ changed.registry = reloaded.2 := by
  rw [poll, meets_get_bind, watched]
  exact meets_modify_bind.mpr (reloadFiles_effect true watcher.pending _)

namespace Host

variable {host : Host} {watcher : Watcher}

/-- All plugins that were loaded from a root go by their own aliases. A poll for files
whose names give aliases drops the plugins that go by one of these, and no others. It
counts the files whose modules make plugins now, and registers these plugins behind
those that stay. -/
theorem poll_replaces_by_alias
    (filled : ∃ files builtins root,
      host.registry = (({} : Registry).loadAll files builtins root).value.2)
    (watched : host.watcher = some watcher)
    (named : ∀ path ∈ watcher.pending, Plugin.aliasOf path ≠ "") :
    let before := host.registry.registrations
    let after := (Action.poll.final host).registry.registrations
    (∀ entry ∈ before,
      entry.1 = entry.2.ownAlias ∧ (entry ∈ after ↔ entry.1 ∉ host.dropping)) ∧
    Action.poll.result host = .ok (watcher.pending.countP host.files.offersPlugin) ∧
    ∃ added, after = before.without host.dropping ++ added ∧
      Registry.Renews host.files watcher.pending host.registry.opened added := by
  have settled : host.registry.IsSettled := by
    obtain ⟨files, builtins, root, same⟩ := filled
    exact same ▸ Registry.isSettled_loadAll files builtins root
  have dropping : host.dropping =
      (watcher.pending.filter host.files.isFile).map Plugin.aliasOf := by
    rw [dropping, watched]
  obtain ⟨result, registry⟩ := Action.poll_reloads watched
  obtain ⟨count, added, renews, final⟩ :=
    Registry.renews_reloadEach named host.registry host.files host.builtins
  rw [result, registry, dropping, count]
  refine ⟨fun entry present => ⟨settled.own entry present, ?_⟩, rfl, added, final, renews⟩
  exact settled.mem_reloadEach_iff named present host.files host.builtins

/-- A root with two files of the same alias, and with one whose name gives none. -/
def crowdedRoot : FileTree where
  entries := [
    (["plugins"], .directory),
    (["plugins", "calm"], .directory),
    (["plugins", "calm", "calm_plugin.py"], .module (moduleOf "calm" [])),
    (["plugins", "deep"], .directory),
    (["plugins", "deep", "calm_plugin.py"], .module (moduleOf "deep" [])),
    (["plugins", "still"], .directory),
    (["plugins", "still", "_plugin.py"], .module (moduleOf "still" []))]

/-- A host with the plugins of the crowded root, whose watcher saw files changing. -/
def crowded (pending : List String) : Host where
  files := crowdedRoot
  registry := (({} : Registry).loadAll crowdedRoot none "plugins").value.2
  watcher := some { root := "plugins", pending }

/-- The aliases of the plugins of a host, with the files that they came from. -/
def origins (host : Host) : List (String × String) :=
  host.registry.registrations.map fun entry => (entry.1, entry.2.library.path)

/-- The plugin of a file is replaced by the one that the file makes again. -/
theorem crowded_calm_replaced :
    ∃ added,
      Action.poll.result (crowded ["plugins/calm/calm_plugin.py"]) = .ok 1 ∧
      (Action.poll.final (crowded ["plugins/calm/calm_plugin.py"])).registry.registrations =
        (crowded ["plugins/calm/calm_plugin.py"]).registry.registrations.without ["calm"] ++
          added ∧
      ∃ entry ∈ added, entry.2.library.path = "plugins/calm/calm_plugin.py" := by
  have filled : ∃ files builtins root,
      (crowded ["plugins/calm/calm_plugin.py"]).registry =
        (({} : Registry).loadAll files builtins root).value.2 :=
    ⟨crowdedRoot, none, "plugins", by rw [crowded, registry_make]⟩
  have watched : (crowded ["plugins/calm/calm_plugin.py"]).watcher =
      some { root := "plugins", pending := ["plugins/calm/calm_plugin.py"] } := rfl
  have named : ∀ path ∈ ["plugins/calm/calm_plugin.py"], Plugin.aliasOf path ≠ "" := by
    decide +kernel
  have dropping : (crowded ["plugins/calm/calm_plugin.py"]).dropping = ["calm"] := by
    decide +kernel
  have count : ["plugins/calm/calm_plugin.py"].countP
      (crowded ["plugins/calm/calm_plugin.py"]).files.offersPlugin = 1 := by decide +kernel
  have offers : (crowded ["plugins/calm/calm_plugin.py"]).files.offersPlugin
      "plugins/calm/calm_plugin.py" = true := by decide +kernel
  obtain ⟨_, result, added, final, renews⟩ := poll_replaces_by_alias filled watched named
  rw [dropping] at final
  rw [count] at result
  exact ⟨added, result, final, renews.latest [] _ [] rfl offers (by simp)⟩

/-- A poll for a file that was not loaded can drop the plugin of another one, and one
for a file whose name gives no alias can leave its plugin as it is, although the file
makes it again. -/
theorem poll_confuses_files :
    ((crowded ["plugins/deep/calm_plugin.py"]).origins =
        [("calm", "plugins/calm/calm_plugin.py"), ("still", "plugins/still/_plugin.py")] ∧
      (Action.poll.final (crowded ["plugins/deep/calm_plugin.py"])).origins =
        [("still", "plugins/still/_plugin.py"), ("calm", "plugins/deep/calm_plugin.py")]) ∧
    (crowdedRoot.offersPlugin "plugins/still/_plugin.py" = true ∧
      Action.poll.result (crowded ["plugins/still/_plugin.py"]) = .ok 0 ∧
      ((Action.poll.final (crowded ["plugins/still/_plugin.py"])).registry.registrations.map
        fun entry => (entry.1, entry.2.library.serial)) =
        (crowded ["plugins/still/_plugin.py"]).registry.registrations.map
          fun entry => (entry.1, entry.2.library.serial)) := by
  constructor
  · decide +kernel
  · decide +kernel

end Host
end ShaderGraph
