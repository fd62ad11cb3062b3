import Mathlib.Data.List.Basic
import ShaderGraph.Plugin.Registry

/-!
# What happens to a library

From its opening on, everything that happens to a library is told by its module
and by whether its plugin is registered: the plugin is destroyed and the library
closed as soon as it is not. The story of an opening lists these events. Loading
tells the story of one opening, and unloading completes it.
-/

namespace ShaderGraph

/-- The library that an event is about. -/
def Event.library? : Event -> Option Nat
  | .libraryOpened serial => some serial
  | .libraryClosed serial => some serial
  | .instanceMade serial => some serial
  | .instanceReleased serial _ => some serial
  | _ => none

@[simp] theorem Event.library?_libraryOpened (serial : Nat) :
    (Event.libraryOpened serial).library? = some serial := rfl

@[simp] theorem Event.library?_libraryClosed (serial : Nat) :
    (Event.libraryClosed serial).library? = some serial := rfl

@[simp] theorem Event.library?_instanceMade (serial : Nat) :
    (Event.instanceMade serial).library? = some serial := rfl

@[simp] theorem Event.library?_instanceReleased (serial : Nat) (farewell : Option String) :
    (Event.instanceReleased serial farewell).library? = some serial := rfl

/-- The events of a trace that are about libraries. -/
def ofLibraries (trace : List Event) : List Event :=
  trace.filter fun event => event.library?.isSome

/-- The story of libraries goes on with the trace. -/
@[simp] theorem ofLibraries_append (first second : List Event) :
    ofLibraries (first ++ second) = ofLibraries first ++ ofLibraries second :=
  List.filter_append ..

/-- A record is no part of the story. -/
@[simp] theorem ofLibraries_log (level : Level) (message : String) :
    ofLibraries (Traced.log level message).trace = [] := rfl

/-- Whether an event is the destruction of the instance of a library. -/
def Event.destroys (serial : Nat) : Event -> Bool
  | .instanceReleased destroyed _ => destroyed == serial
  | _ => false

/-- The events of a trace that are about one library. -/
def ofLibrary (serial : Nat) (trace : List Event) : List Event :=
  trace.filter fun event => event.library? == some serial

/-- The story of a library goes on with the trace. -/
@[simp] theorem ofLibrary_append (serial : Nat) (first second : List Event) :
    ofLibrary serial (first ++ second) = ofLibrary serial first ++ ofLibrary serial second :=
  List.filter_append ..

/-- The story of a library is part of that of all libraries. -/
theorem ofLibrary_ofLibraries (serial : Nat) (trace : List Event) :
    ofLibrary serial (ofLibraries trace) = ofLibrary serial trace := by
  rw [ofLibrary, ofLibraries, List.filter_filter]
  refine List.filter_congr fun event _ => ?_
  cases event.library? <;> simp

/-- An event about a library is counted in its story. -/
theorem count_ofLibrary
    {event : Event}
    {serial : Nat}
    (about : event.library? = some serial)
    (trace : List Event) : (ofLibrary serial trace).count event = trace.count event := by
  apply List.count_filter
  simp [about]

/-- The destruction of an instance is counted in the story of its library. -/
theorem countP_destroys_ofLibrary (serial : Nat) (trace : List Event) :
    (ofLibrary serial trace).countP (Event.destroys serial) =
      trace.countP (Event.destroys serial) := by
  rw [ofLibrary, List.countP_filter]
  refine List.countP_congr fun event _ => ?_
  cases event <;> simp [Event.destroys, Event.library?]

/-- An opening of a library by a loading that expects a version. -/
structure Opening where
  library : Library
  expected : Int

namespace Library

/-- The name that the destroyer of a library takes leave of, if it does not raise. -/
def farewell? (library : Library) (name : String) : Option String :=
  match library.module.destroy with
  | .returns _ => some name
  | _ => none

/-- A library that is opened has the number of its opening. -/
theorem serial_of_open
    {files : FileTree}
    {path : String}
    {serial : Nat}
    {library : Library}
    (opened : Library.open? files path serial = .ok library) : library.serial = serial := by
  unfold Library.open? at opened
  split at opened
  · split at opened
    · cases opened
      rfl
    · cases opened
  · split at opened <;> cases opened
  · split at opened
    · cases opened
    · split at opened
      · cases opened
      · cases opened
        rfl
  · cases opened

/-- Destroying a plugin releases its instance. -/
theorem ofLibraries_destroy (library : Library) (name : String) :
    ofLibraries (library.destroy name).trace =
      [.instanceReleased library.serial (library.farewell? name)] := by
  unfold destroy farewell?
  cases library.module.destroy <;> rfl

end Library

namespace Opening

/-- An opening is from a file of a tree, by a loading that expects a version. -/
def IsFrom (opening : Opening) (files : FileTree) (expected : Int) : Prop :=
  opening.expected = expected ∧ ∃ path,
    Library.open? files path opening.library.serial = .ok opening.library

/-- An opening is from the file that was opened. -/
theorem IsFrom.of_open
    {files : FileTree}
    {path : String}
    {serial : Nat}
    {library : Library}
    (opened : Library.open? files path serial = .ok library)
    (expected : Int) : IsFrom ⟨library, expected⟩ files expected :=
  ⟨rfl, path, by rw [Library.serial_of_open opened]; exact opened⟩

/-- Destroying an instance and closing the library. -/
def ending (opening : Opening) (name : String) : List Event :=
  [.instanceReleased opening.library.serial (opening.library.farewell? name),
    .libraryClosed opening.library.serial]

/-- The end of an opening releases its instance and closes its library. -/
theorem ofLibraries_ending (opening : Opening) (name : String) :
    ofLibraries ((opening.library.destroy name).trace ++ opening.library.close.trace) =
      opening.ending name := by
  rw [ofLibraries_append, Library.ofLibraries_destroy]
  rfl

/-- A library is told about by events with its own number only. -/
private theorem ofLibrary_of_serial
    {opening : Opening}
    {events : List Event}
    (same : ∀ event ∈ events, event.library? = some opening.library.serial)
    (serial : Nat) :
    ofLibrary serial events = if serial = opening.library.serial then events else [] := by
  split
  case isTrue equal =>
    refine List.filter_eq_self.mpr fun event listed => ?_
    rw [same event listed, equal, beq_self_eq_true]
  case isFalse different =>
    refine List.filter_eq_nil_iff.mpr fun event listed => ?_
    rw [same event listed]
    simpa using fun equal => different equal.symm

/-- The end of an opening concerns its library only. -/
theorem ofLibrary_ending (opening : Opening) (name : String) (serial : Nat) :
    ofLibrary serial (opening.ending name) =
      if serial = opening.library.serial then opening.ending name else [] := by
  apply ofLibrary_of_serial
  simp [ending]

/-- Everything that happens to a library, with its plugin registered or not. -/
def story (opening : Opening) (registered : Bool) : List Event :=
  .libraryOpened opening.library.serial ::
    match opening.library.make opening.expected with
    | .error _ => [.libraryClosed opening.library.serial]
    | .ok .none => [.libraryClosed opening.library.serial]
    | .ok .foreign =>
        .instanceMade opening.library.serial :: opening.ending Library.foreignName
    | .ok (.plugin plugin) =>
        .instanceMade opening.library.serial ::
          if registered then [] else opening.ending plugin.name

/-- The story of an opening concerns its library only. -/
theorem ofLibrary_story (opening : Opening) (registered : Bool) (serial : Nat) :
    ofLibrary serial (opening.story registered) =
      if serial = opening.library.serial then opening.story registered else [] := by
  apply ofLibrary_of_serial
  unfold story ending
  split <;> (try split) <;> simp

/-- Once it is not registered any more, a plugin is destroyed and its library closed. -/
theorem story_append_ending
    {opening : Opening}
    {plugin : Plugin}
    (made : opening.library.make opening.expected = .ok (.plugin plugin)) :
    opening.story true ++ opening.ending plugin.name = opening.story false := by
  simp [story, made]

/-- In the story of an opening the library is opened and closed once, and its instance
is made at most once and destroyed as often, except that a registered plugin is not
destroyed and its library not closed. -/
theorem counts_story
    {opening : Opening}
    {registered : Bool}
    (made : registered = true ->
      ∃ plugin, opening.library.make opening.expected = .ok (.plugin plugin)) :
    let serial := opening.library.serial
    let story := opening.story registered
    let held := if registered then 1 else 0
    (story.count (.libraryOpened serial) ≤ 1 ∧
      story.count (.libraryOpened serial) = story.count (.libraryClosed serial) + held) ∧
    story.count (.instanceMade serial) ≤ 1 ∧
      story.count (.instanceMade serial) = story.countP (Event.destroys serial) + held := by
  cases registered with
  | true =>
      obtain ⟨plugin, made⟩ := made rfl
      simp [story, made, Event.destroys]
  | false =>
      unfold story ending
      split <;> simp [Event.destroys]

end Opening

/-- What the story of an opening says about a registration: it is of the library
that was opened, and its plugin is the one that was made. -/
structure Registration.IsOf (registration : Registration) (opening : Opening) : Prop where
  library : registration.library = opening.library
  made : ∃ plugin, opening.library.make opening.expected = .ok (.plugin plugin) ∧
    registration.plugin.name = plugin.name

namespace Registry

/-! ## Loading -/

/-- What loading a file does, with the events that are about libraries: nothing if
no library can be opened, and else the story of one opening. The plugin that the library
makes is registered behind all others if its alias is free; it is declined if there is none
or its alias is taken. -/
inductive Loads
    (registry : Registry)
    (files : FileTree)
    (path : String)
    (pluginAlias : Option String)
    (expected : Int) : Bool -> List Event -> Registry -> Prop
  | unopened
      {error : LoadError}
      (failed : Library.open? files path registry.opened = .error error) :
      Loads registry files path pluginAlias expected false [] registry
  | declined
      {library : Library}
      (opened : Library.open? files path registry.opened = .ok library)
      (taken : ∀ plugin, library.make expected = .ok (.plugin plugin) ->
        registry.has (Library.aliasOf plugin pluginAlias) = true) :
      Loads registry files path pluginAlias expected false
        ((Opening.mk library expected).story false)
        { registry with opened := registry.opened + 1 }
  | registered
      {library : Library}
      {registration : Registration}
      (opened : Library.open? files path registry.opened = .ok library)
      (free : registry.has (Library.aliasOf registration.plugin pluginAlias) = false)
      (isOf : registration.IsOf ⟨library, expected⟩) :
      Loads registry files path pluginAlias expected true
        ((Opening.mk library expected).story true)
        { registrations := registry.registrations ++
            [(Library.aliasOf registration.plugin pluginAlias, registration)]
          opened := registry.opened + 1 }

/-- Only the name of a plugin counts for its alias. -/
theorem aliasOf_congr
    {plugin other : Plugin}
    (named : plugin.name = other.name)
    (pluginAlias : Option String) :
    Library.aliasOf plugin pluginAlias = Library.aliasOf other pluginAlias := by
  unfold Library.aliasOf
  rw [named]

/-- Starting an opened library continues its story. It succeeds if the library makes a
plugin whose alias is free. -/
theorem start_story
    (library : Library)
    (expected : Int)
    (pluginAlias : Option String)
    (taken : String -> Bool) :
    let started := library.start expected pluginAlias taken
    ofLibraries ((Traced.emit (.libraryOpened library.serial)).trace ++ started.trace) =
        (Opening.mk library expected).story started.value.isOk ∧
      (∀ error, started.value = .error error ->
        ∀ plugin, library.make expected = .ok (.plugin plugin) ->
          taken (Library.aliasOf plugin pluginAlias) = true) ∧
      ∀ found registration, started.value = .ok (found, registration) ->
        found = Library.aliasOf registration.plugin pluginAlias ∧ taken found = false ∧
          registration.IsOf ⟨library, expected⟩ := by
  simp only [Library.start, Opening.story]
  cases made : library.make expected with
  | error error =>
      refine ⟨rfl, ?_, ?_⟩
      · rintro _ _ _ ⟨⟩
      · rintro _ _ ⟨⟩
  | ok instance? =>
      cases instance? with
      | none =>
          refine ⟨rfl, ?_, ?_⟩
          · rintro _ _ _ ⟨⟩
          · rintro _ _ ⟨⟩
      | foreign =>
          refine ⟨?_, ?_, ?_⟩
          · rw [← Opening.ofLibraries_ending]
            rfl
          · rintro _ _ _ ⟨⟩
          · rintro _ _ ⟨⟩
      | plugin plugin =>
          let moved := { plugin with path := Plugin.resourceDirectory library.path }
          have same : Library.aliasOf plugin pluginAlias = Library.aliasOf moved pluginAlias :=
            aliasOf_congr rfl pluginAlias
          dsimp only
          split
          case isTrue isTaken =>
            refine ⟨?_, ?_, ?_⟩
            · rw [← Opening.ofLibraries_ending]
              rfl
            · rintro _ _ _ ⟨⟩
              exact same ▸ isTaken
            · rintro _ _ ⟨⟩
          case isFalse isFree =>
            refine ⟨rfl, ?_, ?_⟩
            · rintro _ ⟨⟩
            · rintro found registration equal
              cases equal
              exact ⟨rfl, by simpa using isFree, ⟨rfl, plugin, made, rfl⟩⟩

/-- Trying to load a file does what loading it does. -/
theorem tryLoad_loads
    (registry : Registry)
    (files : FileTree)
    (expected : Int)
    (path : String)
    (pluginAlias : Option String) :
    let tried := registry.tryLoad files expected path pluginAlias
    registry.Loads files path pluginAlias expected tried.value.1.isOk (ofLibraries tried.trace)
      tried.value.2 := by
  rw [tryLoad]
  cases opened : Library.open? files path registry.opened with
  | error error => exact .unopened opened
  | ok library =>
      obtain ⟨story, declined, loaded⟩ := start_story library expected pluginAlias registry.has
      dsimp only [Traced.trace_bind, Traced.value_bind]
      cases outcome : (library.start expected pluginAlias registry.has).value with
      | error error =>
          rw [outcome] at story
          dsimp only [Traced.trace_pure, Traced.value_pure]
          rw [List.append_nil, story]
          exact .declined opened (declined error outcome)
      | ok entry =>
          obtain ⟨found, registration⟩ := entry
          obtain ⟨rfl, free, isOf⟩ := loaded found registration outcome
          rw [outcome] at story
          dsimp only [Traced.trace_pure, Traced.value_pure]
          rw [List.append_nil, story]
          exact .registered opened free isOf

theorem ofLibraries_warnConflicts
    (builtins : Builtins)
    (pluginAlias : String)
    (plugin : Plugin) : ofLibraries (warnConflicts builtins pluginAlias plugin).trace = [] := by
  rw [warnConflicts]
  dsimp only [Traced.trace_bind, Traced.emitAll]
  rw [ofLibraries_append, List.append_eq_nil_iff]
  constructor
  · refine List.filter_eq_nil_iff.mpr fun event listed => ?_
    obtain ⟨name, _, rfl⟩ := List.mem_map.mp listed
    exact Bool.false_ne_true
  · split <;> rfl

/-- Loading a plugin is one of the ways to load. -/
theorem load_loads
    (registry : Registry)
    (files : FileTree)
    (builtins : Option Builtins)
    (path : String)
    (pluginAlias : Option String)
    (expected : Int) :
    let loaded := registry.load files builtins path pluginAlias expected
    registry.Loads files path pluginAlias expected loaded.value.1 (ofLibraries loaded.trace)
      loaded.value.2 := by
  have tries := registry.tryLoad_loads files expected path pluginAlias
  rw [load]
  dsimp only [Traced.trace_bind, Traced.value_bind] at tries ⊢
  rw [ofLibraries_append]
  cases outcome : (registry.tryLoad files expected path pluginAlias).value.1 with
  | error error =>
      rw [outcome] at tries
      dsimp only [Traced.trace_bind, Traced.value_bind, Traced.trace_pure, Traced.value_pure]
      rw [List.append_nil, ofLibraries_log, List.append_nil]
      exact tries
  | ok entry =>
      rw [outcome] at tries
      cases builtins with
      | none =>
          dsimp only [Traced.trace_bind, Traced.value_bind, Traced.trace_pure, Traced.value_pure]
          rw [List.append_nil, ofLibraries_log, List.append_nil]
          exact tries
      | some builtins =>
          dsimp only [Traced.trace_bind, Traced.value_bind, Traced.trace_pure, Traced.value_pure]
          rw [List.append_nil, ofLibraries_append, ofLibraries_log, ofLibraries_warnConflicts,
            List.append_nil, List.append_nil]
          exact tries

/-- A file that is not loaded leaves the table of aliases as it was. -/
theorem registrations_eq_of_not_loaded
    {registry changed : Registry}
    {files : FileTree}
    {path : String}
    {pluginAlias : Option String}
    {expected : Int}
    {events : List Event}
    (loads : registry.Loads files path pluginAlias expected false events changed) :
    changed.registrations = registry.registrations := by
  cases loads <;> rfl

/-! ## Unloading -/

/-- What unloading an alias does, with the events that are about libraries:
nothing if there is no plugin, and else the end of its story. -/
inductive Unloads (registry : Registry) (pluginAlias : String) : List Event -> Registry -> Prop
  | absent
      (missing : registry.registrations.find? pluginAlias = none) :
      Unloads registry pluginAlias [] registry
  | unloaded
      {registration : Registration}
      (found : registry.registrations.find? pluginAlias = some registration) :
      Unloads registry pluginAlias
        [.instanceReleased registration.library.serial
            (registration.library.farewell? registration.plugin.name),
          .libraryClosed registration.library.serial]
        { registry with registrations := registry.registrations.erase pluginAlias }

/-- Unloading a plugin is one of the ways to unload. -/
theorem unload_unloads (registry : Registry) (pluginAlias : String) :
    let unloaded := registry.unload pluginAlias
    registry.Unloads pluginAlias (ofLibraries unloaded.trace) unloaded.value.2 := by
  rw [unload]
  cases found : registry.registrations.find? pluginAlias with
  | none => exact .absent found
  | some registration =>
      dsimp only [Traced.trace_bind, Traced.value_bind]
      rw [ofLibraries_append, Library.ofLibraries_destroy]
      exact .unloaded found

end Registry
end ShaderGraph
