import Mathlib.Data.List.Nodup
import ShaderGraph.Proofs.Host.Course
import ShaderGraph.Proofs.Host.Forgetting
import ShaderGraph.Proofs.Plugin.Story

/-!
# Every plugin is destroyed once

A registry is used by loading, unloading and reloading plugins in any order, while
files change. The openings of its libraries are kept in a list, and at every moment
each of them has had its story, which ends exactly for the plugins that are not
registered. So libraries are open exactly as long as their plugins are registered,
and every instance that was made is destroyed once, but not before.
-/

namespace ShaderGraph

namespace Registry

/-! ## The openings of a registry -/

/-- The libraries of the registered plugins, by their numbers. -/
def serials (registry : Registry) : List Nat :=
  registry.registrations.contents.map fun registration => registration.library.serial

/-- Whether the plugin of a library is registered. -/
def holds (registry : Registry) (serial : Nat) : Bool :=
  registry.serials.contains serial

/-- The openings account for a registry and the events so far: each opening has
had its story, and each registration is of an opening. -/
structure IsAccountedFor
    (registry : Registry)
    (trace : List Event)
    (openings : List Opening) : Prop where
  counted : openings.length = registry.opened
  names : registry.registrations.names.Nodup
  serials : registry.serials.Nodup
  told : ∀ serial opening, openings[serial]? = some opening ->
    opening.library.serial = serial ∧
      ofLibrary serial trace = opening.story (registry.holds serial)
  silent : ∀ serial, openings.length ≤ serial -> ofLibrary serial trace = []
  registered : ∀ registration ∈ registry.registrations.contents, ∃ opening,
    openings[registration.library.serial]? = some opening ∧ registration.IsOf opening

theorem isAccountedFor_new : IsAccountedFor {} [] [] where
  counted := rfl
  names := List.nodup_nil
  serials := List.nodup_nil
  told _ _ impossible := by cases impossible
  silent _ _ := rfl
  registered _ impossible := by cases impossible

namespace IsAccountedFor

variable
  {registry changed : Registry}
  {trace events : List Event}
  {openings : List Opening}

/-- Every library of a registered plugin was opened. -/
theorem lt_of_holds
    (accounts : registry.IsAccountedFor trace openings)
    {serial : Nat}
    (held : registry.holds serial = true) : serial < openings.length := by
  obtain ⟨registration, listed, rfl⟩ := List.mem_map.mp (List.contains_iff_mem.mp held)
  obtain ⟨opening, found, _⟩ := accounts.registered registration listed
  exact (List.getElem?_eq_some_iff.mp found).1

/-- The next library to be opened is not held yet. -/
theorem not_holds_opened (accounts : registry.IsAccountedFor trace openings) :
    registry.holds registry.opened = false := by
  rw [← accounts.counted, ← Bool.not_eq_true]
  intro held
  exact Nat.lt_irrefl _ (accounts.lt_of_holds held)

/-- Only the events about libraries count. -/
theorem of_ofLibraries
    (accounts : registry.IsAccountedFor (trace ++ ofLibraries events) openings) :
    registry.IsAccountedFor (trace ++ events) openings := by
  have same (serial : Nat) :
      ofLibrary serial (trace ++ events) = ofLibrary serial (trace ++ ofLibraries events) := by
    rw [ofLibrary_append, ofLibrary_append, ofLibrary_ofLibraries]
  exact {
    counted := accounts.counted
    names := accounts.names
    serials := accounts.serials
    told := by
      intro serial opening found
      rw [same]
      exact accounts.told serial opening found
    silent := by
      intro serial beyond
      rw [same]
      exact accounts.silent serial beyond
    registered := accounts.registered }

/-- A new opening has its story, whether its plugin is registered behind all others
or not. -/
theorem opened
    (accounts : registry.IsAccountedFor trace openings)
    {opening : Opening}
    {isRegistered : Bool}
    (isNext : opening.library.serial = registry.opened)
    (counted : changed.opened = registry.opened + 1)
    (names : changed.registrations.names.Nodup)
    (serials : changed.serials =
      registry.serials ++ if isRegistered then [registry.opened] else [])
    (registered : ∀ registration ∈ changed.registrations.contents,
      registration ∈ registry.registrations.contents ∨ registration.IsOf opening) :
    changed.IsAccountedFor (trace ++ opening.story isRegistered) (openings ++ [opening]) := by
  have fresh : registry.opened ∉ registry.serials := by
    simpa [holds] using accounts.not_holds_opened
  have heldBefore {serial : Nat} (different : serial ≠ registry.opened) :
      changed.holds serial = registry.holds serial := by
    cases isRegistered <;> simp [holds, serials, different]
  have heldNow : changed.holds registry.opened = isRegistered := by
    cases isRegistered <;> simp [holds, serials, fresh]
  refine ⟨?_, names, ?_, ?_, ?_, ?_⟩
  · rw [List.length_append, accounts.counted, counted]
    rfl
  · rw [serials]
    cases isRegistered with
    | false => simpa using accounts.serials
    | true =>
        refine List.nodup_append.mpr ⟨accounts.serials, List.nodup_singleton _, ?_⟩
        intro serial listed other same equal
        rw [List.mem_singleton.mp same] at equal
        exact fresh (equal ▸ listed)
  · intro serial found inPlace
    rw [ofLibrary_append, Opening.ofLibrary_story, isNext]
    by_cases now : serial = registry.opened
    · subst now
      rw [← accounts.counted, List.getElem?_concat_length] at inPlace
      cases inPlace
      rw [accounts.silent _ (Nat.le_of_eq accounts.counted), if_pos rfl, heldNow]
      exact ⟨isNext, rfl⟩
    · have before : serial < openings.length := by
        have bound := (List.getElem?_eq_some_iff.mp inPlace).1
        rw [List.length_append, List.length_singleton] at bound
        rw [← accounts.counted] at now
        omega
      rw [List.getElem?_append_left before] at inPlace
      rw [if_neg now, List.append_nil, heldBefore now]
      exact accounts.told serial found inPlace
  · intro serial beyond
    rw [List.length_append, List.length_singleton] at beyond
    rw [ofLibrary_append, Opening.ofLibrary_story, isNext, ← accounts.counted,
      if_neg (by omega), List.append_nil]
    exact accounts.silent serial (by omega)
  · intro registration listed
    rcases registered registration listed with before | isOf
    · obtain ⟨source, found, sourceOf⟩ := accounts.registered registration before
      refine ⟨source, ?_, sourceOf⟩
      rw [List.getElem?_append_left (List.getElem?_eq_some_iff.mp found).1]
      exact found
    · refine ⟨opening, ?_, isOf⟩
      rw [isOf.library, isNext, ← accounts.counted]
      exact List.getElem?_concat_length

/-- Loading accounts for the library that it opens, if it opens one. -/
theorem loads
    (accounts : registry.IsAccountedFor trace openings)
    {files : FileTree}
    {path : String}
    {pluginAlias : Option String}
    {expected : Int}
    {isLoaded : Bool}
    (loads : registry.Loads files path pluginAlias expected isLoaded events changed) :
    ∃ more, changed.IsAccountedFor (trace ++ events) (openings ++ more) ∧
      ∀ opening ∈ more, opening.IsFrom files expected := by
  cases loads with
  | unopened =>
      refine ⟨[], ?_, by simp⟩
      rw [List.append_nil, List.append_nil]
      exact accounts
  | @declined library opened _ =>
      have isFrom : Opening.IsFrom ⟨library, expected⟩ files expected := .of_open opened expected
      refine ⟨[⟨library, expected⟩], ?_, by simpa using isFrom⟩
      refine accounts.opened (Library.serial_of_open opened) rfl accounts.names ?_ ?_
      · exact (List.append_nil _).symm
      · exact fun registration listed => .inl listed
  | @registered library registration opened free isOf =>
      have isFrom : Opening.IsFrom ⟨library, expected⟩ files expected := .of_open opened expected
      refine ⟨[⟨library, expected⟩], ?_, by simpa using isFrom⟩
      refine accounts.opened (Library.serial_of_open opened) rfl ?_ ?_ ?_
      · rw [Table.names, List.map_append]
        refine List.nodup_append.mpr ⟨accounts.names, List.nodup_singleton _, ?_⟩
        intro name listed other same equal
        rw [List.mem_singleton.mp same] at equal
        rw [equal] at listed
        rw [Registry.has, Table.has_iff_mem_names.mpr listed] at free
        cases free
      · rw [Registry.serials, Table.contents, List.map_append, List.map_append]
        simp [Registry.serials, Table.contents, isOf.library, Library.serial_of_open opened]
      · intro other listed
        rw [Table.contents, List.map_append, List.mem_append] at listed
        refine listed.imp id fun last => ?_
        rw [List.mem_singleton.mp last]
        exact isOf

/-- Unloading an alias takes away the library of its plugin and no other. -/
theorem serials_erase
    (accounts : registry.IsAccountedFor trace openings)
    {pluginAlias : String}
    {registration : Registration}
    (found : registry.registrations.find? pluginAlias = some registration) :
    Registry.serials { registry with registrations := registry.registrations.erase pluginAlias } =
      registry.serials.filter (· != registration.library.serial) := by
  have listed := Table.mem_of_find? found
  have entries : registry.serials =
      registry.registrations.map fun entry => entry.2.library.serial :=
    List.map_map
  have distinct := accounts.serials
  rw [entries] at distinct
  have same : ∀ entry ∈ registry.registrations,
      (!(entry.1 == pluginAlias)) = (entry.2.library.serial != registration.library.serial) := by
    intro entry present
    rw [bne, Bool.not_inj_iff, Bool.eq_iff_iff, beq_iff_eq, beq_iff_eq]
    constructor
    · rintro rfl
      rw [Table.find?_of_mem accounts.names present] at found
      rw [Option.some.inj found]
    · intro equal
      rw [List.inj_on_of_nodup_map distinct present listed equal]
  rw [entries, List.filter_map]
  change _ = List.map _ (List.filter (fun entry => _ != _) _)
  rw [← List.filter_congr same]
  exact List.map_map

/-- Unloading a plugin keeps the account. -/
theorem unloads
    (accounts : registry.IsAccountedFor trace openings)
    {pluginAlias : String}
    (unloads : registry.Unloads pluginAlias events changed) :
    changed.IsAccountedFor (trace ++ events) openings := by
  cases unloads with
  | absent =>
      rw [List.append_nil]
      exact accounts
  | @unloaded registration found =>
      have serials := accounts.serials_erase found
      have listed : registration ∈ registry.registrations.contents :=
        List.mem_map.mpr ⟨_, Table.mem_of_find? found, rfl⟩
      obtain ⟨opening, inPlace, isOf⟩ := accounts.registered registration listed
      obtain ⟨plugin, made, named⟩ := isOf.made
      have isEnding : [Event.instanceReleased registration.library.serial
            (registration.library.farewell? registration.plugin.name),
          .libraryClosed registration.library.serial] = opening.ending plugin.name := by
        rw [isOf.library, named, Opening.ending]
      have ends (serial : Nat) : ofLibrary serial (opening.ending plugin.name) =
          if serial = registration.library.serial then opening.ending plugin.name else [] := by
        rw [isOf.library, Opening.ofLibrary_ending]
      rw [isEnding]
      refine ⟨accounts.counted, ?_, ?_, ?_, ?_, ?_⟩
      · exact accounts.names.sublist (List.filter_sublist.map _)
      · rw [serials]
        exact accounts.serials.filter _
      · intro serial other otherInPlace
        obtain ⟨numbered, told⟩ := accounts.told serial other otherInPlace
        refine ⟨numbered, ?_⟩
        rw [ofLibrary_append, told, ends, holds, holds, serials]
        by_cases same : serial = registration.library.serial
        · subst same
          rw [inPlace] at otherInPlace
          cases otherInPlace
          have held : registration.library.serial ∈ registry.serials :=
            List.mem_map.mpr ⟨registration, listed, rfl⟩
          rw [if_pos rfl, List.contains_iff_mem.mpr held, Opening.story_append_ending made]
          simp
        · simp [same]
      · intro serial beyond
        have different : serial ≠ registration.library.serial := by
          rintro rfl
          exact Nat.not_lt.mpr beyond (List.getElem?_eq_some_iff.mp inPlace).1
        rw [ofLibrary_append, ends, if_neg different, List.append_nil]
        exact accounts.silent serial beyond
      · intro other remains
        refine accounts.registered other ?_
        exact (List.filter_sublist.map _).subset remains

/-- Every library is opened at most once and closed unless its plugin is registered,
and every instance is made at most once and destroyed unless it is registered. -/
theorem counts
    (accounts : registry.IsAccountedFor trace openings)
    (serial : Nat) :
    let held := if registry.holds serial then 1 else 0
    (trace.count (.libraryOpened serial) ≤ 1 ∧
      trace.count (.libraryOpened serial) = trace.count (.libraryClosed serial) + held) ∧
    trace.count (.instanceMade serial) ≤ 1 ∧
      trace.count (.instanceMade serial) = trace.countP (Event.destroys serial) + held := by
  have opened := count_ofLibrary (Event.library?_libraryOpened serial) trace
  have closed := count_ofLibrary (Event.library?_libraryClosed serial) trace
  have made := count_ofLibrary (Event.library?_instanceMade serial) trace
  rw [← opened, ← closed, ← made, ← countP_destroys_ofLibrary]
  cases inPlace : openings[serial]? with
  | none =>
      have beyond := List.getElem?_eq_none_iff.mp inPlace
      have notHeld : registry.holds serial = false := by
        rw [← Bool.not_eq_true]
        intro held
        exact Nat.not_lt.mpr beyond (accounts.lt_of_holds held)
      rw [accounts.silent serial beyond, notHeld]
      simp
  | some opening =>
      obtain ⟨numbered, told⟩ := accounts.told serial opening inPlace
      rw [told, ← numbered]
      apply Opening.counts_story
      intro held
      obtain ⟨registration, listed, same⟩ := List.mem_map.mp (List.contains_iff_mem.mp held)
      obtain ⟨source, found, isOf⟩ := accounts.registered registration listed
      rw [same, numbered, inPlace] at found
      cases found
      obtain ⟨plugin, made, _⟩ := isOf.made
      exact ⟨plugin, made⟩

end IsAccountedFor

/-! ## Courses of a registry -/

/-- Whatever accounts for a registry can be extended, by openings from files of a
tree with an expected version, to account for what happened since. -/
def Continues
    (files : FileTree)
    (expected : Int)
    (registry : Registry)
    (events : List Event)
    (changed : Registry) : Prop :=
  ∀ trace openings, registry.IsAccountedFor trace openings ->
    ∃ more, changed.IsAccountedFor (trace ++ events) (openings ++ more) ∧
      ∀ opening ∈ more, opening.IsFrom files expected

theorem Continues.refl (files : FileTree) (expected : Int) (registry : Registry) :
    Continues files expected registry [] registry := by
  intro trace openings accounts
  refine ⟨[], ?_, by simp⟩
  rw [List.append_nil, List.append_nil]
  exact accounts

theorem Continues.trans
    {files : FileTree}
    {expected : Int}
    {registry middle changed : Registry}
    {first second : List Event}
    (firstContinues : Continues files expected registry first middle)
    (secondContinues : Continues files expected middle second changed) :
    Continues files expected registry (first ++ second) changed := by
  intro trace openings accounts
  obtain ⟨more, middleAccounts, moreFrom⟩ := firstContinues trace openings accounts
  obtain ⟨others, changedAccounts, othersFrom⟩ := secondContinues _ _ middleAccounts
  refine ⟨more ++ others, ?_, ?_⟩
  · rw [← List.append_assoc, ← List.append_assoc]
    exact changedAccounts
  · intro opening listed
    exact (List.mem_append.mp listed).elim (moreFrom opening) (othersFrom opening)

/-- What continues the story of libraries continues the trace. -/
theorem Continues.of_ofLibraries
    {files : FileTree}
    {expected : Int}
    {registry changed : Registry}
    {events : List Event}
    (continues : Continues files expected registry (ofLibraries events) changed) :
    Continues files expected registry events changed := by
  intro trace openings accounts
  obtain ⟨more, continued, moreFrom⟩ := continues trace openings accounts
  exact ⟨more, continued.of_ofLibraries, moreFrom⟩

/-- Events that are not about libraries do not matter. -/
theorem Continues.of_silent
    {files : FileTree}
    {expected : Int}
    {events : List Event}
    (silent : ofLibraries events = [])
    (registry : Registry) : Continues files expected registry events registry := by
  apply Continues.of_ofLibraries
  rw [silent]
  exact Continues.refl files _ registry

/-- Loading a plugin continues the account. -/
theorem continues_load
    (registry : Registry)
    (files : FileTree)
    (builtins : Option Builtins)
    (path : String)
    (pluginAlias : Option String)
    (expected : Int) :
    let loaded := registry.load files builtins path pluginAlias expected
    Continues files expected registry loaded.trace loaded.value.2 := by
  apply Continues.of_ofLibraries
  intro trace openings accounts
  exact accounts.loads (registry.load_loads files builtins path pluginAlias expected)

/-- Loading several plugins continues the account. -/
theorem continues_loadEach
    (files : FileTree)
    (builtins : Option Builtins)
    (paths : List String)
    (count : Nat)
    (registry : Registry) :
    let loaded := loadEach files builtins paths count registry
    Continues files Library.interfaceVersion registry loaded.trace loaded.value.2 := by
  induction paths generalizing count registry with
  | nil => exact Continues.refl files _ registry
  | cons path rest inductionHypothesis =>
      rw [loadEach]
      exact Continues.trans (registry.continues_load files builtins path _ _)
        (inductionHypothesis _ _)

theorem continues_loadAll
    (registry : Registry)
    (files : FileTree)
    (builtins : Option Builtins)
    (root : String) :
    let loaded := registry.loadAll files builtins root
    Continues files Library.interfaceVersion registry loaded.trace loaded.value.2 := by
  have finds : ofLibraries (Plugin.findFiles files root).trace = [] := by
    unfold Plugin.findFiles
    dsimp only
    split <;> rfl
  have loads := continues_loadEach files builtins (Plugin.findFiles files root).value 0 registry
  rw [loadAll]
  dsimp only [Traced.trace_bind, Traced.value_bind, Traced.trace_pure, Traced.value_pure] at loads ⊢
  refine Continues.trans (Continues.of_silent finds registry) (Continues.trans loads ?_)
  rw [List.append_nil]
  exact Continues.of_silent (ofLibraries_log _ _) _

/-- Unloading a plugin continues the account. -/
theorem continues_unload
    (files : FileTree)
    (expected : Int)
    (registry : Registry)
    (pluginAlias : String) :
    let unloaded := registry.unload pluginAlias
    Continues files expected registry unloaded.trace unloaded.value.2 := by
  apply Continues.of_ofLibraries
  intro trace openings accounts
  refine ⟨[], ?_, by simp⟩
  rw [List.append_nil]
  exact accounts.unloads (registry.unload_unloads pluginAlias)

theorem continues_unloadEach
    (files : FileTree)
    (expected : Int)
    (aliases : List String)
    (registry : Registry) :
    let unloaded := unloadEach aliases registry
    Continues files expected registry unloaded.trace unloaded.value := by
  induction aliases generalizing registry with
  | nil => exact Continues.refl files _ registry
  | cons pluginAlias rest inductionHypothesis =>
      exact Continues.trans (continues_unload files expected registry pluginAlias)
        (inductionHypothesis _)

end Registry
end ShaderGraph
