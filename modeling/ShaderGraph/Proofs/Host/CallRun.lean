import Mathlib.Logic.Relation
import ShaderGraph.Proofs.Cache.CallKey
import ShaderGraph.Proofs.Host.CallWork
import ShaderGraph.Proofs.Text.Bytes

/-!
# Runs of the work on single calls

Between two moments of a run without a clearing, the cache only grows by new
artifacts, and only under keys without a ready one. So an artifact is cached
under the key of the call that it was made for and under no other, and a call
whose shader is there is served with it until the cache is cleared.
-/

namespace ShaderGraph
namespace Host

/-! ## Runs -/

/-- One operation that does not clear the cache: a call is requested, or other
work on the host keeps the cache, the built-in names and all artifacts. -/
inductive CallStep : Host -> Host -> Prop
  | create (host : Host) (name : String) (texts : List String) :
      CallStep host ((Action.createShader name texts).final host)
  | other
      (host changed : Host)
      (cache : changed.calls.cache = host.calls.cache)
      (builtins : changed.builtins = host.builtins)
      (artifacts : host.artifacts <+: changed.artifacts) :
      CallStep host changed

/-- One operation on the cache of calls. -/
inductive CacheStep : Host -> Host -> Prop
  | serve {host changed : Host} (step : CallStep host changed) : CacheStep host changed
  | clear (host : Host) : CacheStep host (Action.clearCalls.final host)

/-- Any number of operations without a clearing. -/
def CallRun : Host -> Host -> Prop :=
  Relation.ReflTransGen CallStep

/-- Any number of operations on the cache of calls. -/
def CacheRun : Host -> Host -> Prop :=
  Relation.ReflTransGen CacheStep

/-- A request for a call made an artifact or returned it. -/
def Provides (host : Host) (name : String) (texts : List String) (id : ArtifactId) : Prop :=
  (Action.createShader name texts).result host = .ok id ∨
    (host.artifacts.length ≤ id ∧
      id < ((Action.createShader name texts).final host).artifacts.length)

/-! ## One operation -/

/-- The cache is the same or has a new artifact under a key without a ready one,
and no artifact that was there before changes. -/
structure Fills (host changed : Host) : Prop where
  builtins : changed.builtins = host.builtins
  length_le : host.artifacts.length ≤ changed.artifacts.length
  kept : ∀ id < host.artifacts.length, changed.artifact? id = host.artifact? id
  cache : changed.calls.cache = host.calls.cache ∨
    ∃ key, (host.calls.cache.find? key).filter host.isReady = none ∧
      changed.calls.cache = host.calls.cache.set key host.artifacts.length ∧
      host.artifacts.length < changed.artifacts.length

theorem Fills.refl (host : Host) : host.Fills host :=
  ⟨rfl, Nat.le_refl _, fun _ _ => rfl, .inl rfl⟩

/-- A call that is declined leaves the cache. -/
theorem Fills.of_declines
    {host changed : Host}
    {outcome : Except Failure ArtifactId}
    (declines : Action.Declines host outcome changed) : host.Fills changed where
  builtins := by rw [declines.only.others]
  length_le := declines.only.length_le
  kept := declines.only.kept
  cache := .inl (by rw [declines.only.others])

/-- A call that is stored adds one artifact to the cache, under its key. -/
theorem Fills.of_stores
    {key : String}
    {host changed : Host}
    {outcome : Except Failure ArtifactId}
    (absent : (host.calls.cache.find? key).filter host.isReady = none)
    (stores : Action.Stores key host outcome changed) : host.Fills changed where
  builtins := by rw [stores.others]
  length_le := Nat.le_of_lt stores.length_lt
  kept := stores.kept
  cache := .inr ⟨key, absent, by rw [stores.others], stores.length_lt⟩

/-- A step of calls adds at most one artifact to the cache. -/
theorem CallStep.fills {host changed : Host} (step : CallStep host changed) :
    host.Fills changed := by
  cases step with
  | create name texts =>
      rcases Action.createShader_effect name texts host with
        declines | ⟨_, finds | ⟨absent, stores⟩⟩
      · exact .of_declines declines
      · rw [finds.same]
        exact .refl host
      · exact .of_stores absent stores
  | other _ cache builtins artifacts =>
      refine ⟨builtins, artifacts.length_le, fun id before => ?_, .inl cache⟩
      exact (List.prefix_iff_getElem?.mp artifacts) id before |>.trans
        (List.getElem?_eq_getElem before).symm

/-- Clearing forgets the cache and drops no artifact. -/
theorem clearCalls_forgets_calls (host : Host) :
    (Action.clearCalls.final host).calls.cache = [] ∧
      host.artifacts.length ≤ (Action.clearCalls.final host).artifacts.length := by
  have meets : Action.clearCalls.Meets host fun _ changed =>
      changed.calls.cache = [] ∧ host.artifacts.length ≤ changed.artifacts.length := by
    rw [Action.clearCalls, Action.meets_get_bind, Action.meets_bind]
    refine ((Action.respects_cleanUpEach host.calls.cache.contents).meets
      (Action.cleanUpEach_succeeds _ host)).imp ?_
    rintro _ cleaned ⟨only, rfl⟩
    exact ⟨rfl, only.length_le⟩
  exact meets

/-! ## What holds throughout a run -/

/-- An artifact exists and is cached, if at all, under the given key. -/
structure BelongsTo (id : ArtifactId) (key : String) (host : Host) : Prop where
  lt_length : id < host.artifacts.length
  key_eq : ∀ other, host.calls.cache.find? other = some id -> other = key

/-- Every cached artifact exists and is cached under one key. -/
def IsOrderly (host : Host) : Prop :=
  ∀ key id, host.calls.cache.find? key = some id -> host.BelongsTo id key

/-- A ready artifact is cached under a key. -/
structure Holds (key : String) (id : ArtifactId) (host : Host) : Prop where
  cached : host.calls.cache.find? key = some id
  ready : host.isReady id = true

/-- An artifact that is ready is there. -/
theorem lt_length_of_isReady
    {host : Host}
    {id : ArtifactId}
    (ready : host.isReady id = true) : id < host.artifacts.length := by
  by_contra beyond
  rw [isReady, artifact?, List.getElem?_eq_none (Nat.le_of_not_lt beyond)] at ready
  cases ready

theorem isOrderly_of_cache_eq_nil {host : Host} (empty : host.calls.cache = []) :
    host.IsOrderly := by
  intro key id found
  rw [empty] at found
  cases found

namespace Fills

variable {host changed : Host}

/-- What is cached was cached before, or is the new artifact under its key. -/
theorem find?_cases
    (fills : host.Fills changed)
    {key : String}
    {id : ArtifactId}
    (found : changed.calls.cache.find? key = some id) :
    host.calls.cache.find? key = some id ∨
      (id = host.artifacts.length ∧ id < changed.artifacts.length ∧
        changed.calls.cache = host.calls.cache.set key id) := by
  rcases fills.cache with same | ⟨new, _, stored, longer⟩
  · exact .inl (same ▸ found)
  · rw [stored, Table.find?_set] at found
    split at found
    case isTrue same =>
      cases found
      cases eq_of_beq same
      exact .inr ⟨rfl, longer, stored⟩
    case isFalse => exact .inl found

/-- An artifact belongs to the same key when the cache is filled. -/
theorem belongsTo
    (fills : host.Fills changed)
    {id : ArtifactId}
    {key : String}
    (belongs : host.BelongsTo id key) : changed.BelongsTo id key := by
  refine ⟨Nat.lt_of_lt_of_le belongs.lt_length fills.length_le, fun other found => ?_⟩
  rcases fills.find?_cases found with before | ⟨rfl, _⟩
  · exact belongs.key_eq other before
  · exact absurd belongs.lt_length (Nat.lt_irrefl _)

/-- A new artifact belongs to the key that it is stored under. -/
theorem belongsTo_of_stored
    (orderly : host.IsOrderly)
    {id : ArtifactId}
    {key : String}
    (new : host.artifacts.length ≤ id)
    (there : id < changed.artifacts.length)
    (stored : changed.calls.cache = host.calls.cache ∨
      changed.calls.cache = host.calls.cache.set key host.artifacts.length) :
    changed.BelongsTo id key := by
  refine ⟨there, fun other found => ?_⟩
  have notBefore : host.calls.cache.find? other ≠ some id := fun before =>
    absurd (orderly other id before).lt_length (Nat.not_lt_of_le new)
  rcases stored with same | added
  · exact absurd (same ▸ found) notBefore
  · rw [added, Table.find?_set] at found
    split at found
    case isTrue same => exact eq_of_beq same
    case isFalse => exact absurd found notBefore

/-- The cache stays orderly when it is filled. -/
theorem isOrderly (fills : host.Fills changed) (orderly : host.IsOrderly) :
    changed.IsOrderly := by
  intro key id found
  rcases fills.find?_cases found with before | ⟨rfl, there, stored⟩
  · exact fills.belongsTo (orderly key id before)
  · exact belongsTo_of_stored orderly (Nat.le_refl _) there (.inr stored)

/-- A ready artifact stays under its key. -/
theorem holds
    (fills : host.Fills changed)
    {key : String}
    {id : ArtifactId}
    (holds : host.Holds key id) : changed.Holds key id := by
  have kept : changed.isReady id = host.isReady id := by
    rw [isReady, isReady, fills.kept id (lt_length_of_isReady holds.ready)]
  refine ⟨?_, kept.trans holds.ready⟩
  rcases fills.cache with same | ⟨new, absent, stored, _⟩
  · exact same ▸ holds.cached
  · -- Only a key without a ready artifact gets a new one.
    have different : key ≠ new := by
      rintro rfl
      simp [holds.cached, holds.ready] at absent
    rw [stored, Table.find?_set, beq_false_of_ne different]
    exact holds.cached

end Fills

theorem CallRun.builtins_eq {first second : Host} (run : CallRun first second) :
    second.builtins = first.builtins := by
  induction run with
  | refl => rfl
  | tail _ step inductionHypothesis => exact step.fills.builtins.trans inductionHypothesis

/-- What the cache holds under a key stays there throughout a run of calls. -/
theorem CallRun.holds
    {first second : Host}
    {key : String}
    {id : ArtifactId}
    (run : CallRun first second)
    (holds : first.Holds key id) : second.Holds key id := by
  induction run with
  | refl => exact holds
  | tail _ step inductionHypothesis => exact step.fills.holds inductionHypothesis

/-- The cache stays orderly throughout a run. -/
theorem CacheRun.isOrderly
    {first second : Host}
    (run : CacheRun first second)
    (orderly : first.IsOrderly) : second.IsOrderly := by
  induction run with
  | refl => exact orderly
  | tail _ step inductionHypothesis =>
      cases step with
      | serve step => exact step.fills.isOrderly inductionHypothesis
      | clear => exact isOrderly_of_cache_eq_nil (clearCalls_forgets_calls _).1

/-- An artifact belongs to the same key throughout a run. -/
theorem CacheRun.belongsTo
    {first second : Host}
    {id : ArtifactId}
    {key : String}
    (run : CacheRun first second)
    (belongs : first.BelongsTo id key) : second.BelongsTo id key := by
  induction run with
  | refl => exact belongs
  | tail _ step inductionHypothesis =>
      cases step with
      | serve step => exact step.fills.belongsTo inductionHypothesis
      | clear =>
          obtain ⟨empty, longer⟩ := clearCalls_forgets_calls _
          refine ⟨Nat.lt_of_lt_of_le inductionHypothesis.lt_length longer, ?_⟩
          intro other found
          rw [empty] at found
          cases found

/-! ## Requests -/

/-- What a request provides belongs to the key of its call. -/
theorem Provides.belongsTo
    {host : Host}
    {name : String}
    {texts : List String}
    {id : ArtifactId}
    (provides : host.Provides name texts id)
    (orderly : host.IsOrderly) :
    ((Action.createShader name texts).final host).BelongsTo id
      (Key.ofCall name (texts.map Text.trimmed)) := by
  rcases Action.createShader_effect name texts host with
    declines | ⟨_, finds | ⟨_, stores⟩⟩
  · have unchanged := declines.only.others
    rcases provides with returned | ⟨new, there⟩
    · obtain ⟨rfl, there, _⟩ := declines.returned id returned
      exact Fills.belongsTo_of_stored orderly (Nat.le_refl _) there (.inl (by rw [unchanged]))
    · exact Fills.belongsTo_of_stored orderly new there (.inl (by rw [unchanged]))
  · obtain ⟨found, returned, cached, _⟩ := finds.cached
    rcases provides with same | ⟨new, there⟩
    · cases returned.symm.trans same
      rw [finds.same]
      exact orderly _ _ cached
    · rw [finds.same] at there
      exact absurd there (Nat.not_lt_of_le new)
  · have stored := congrArg (fun changed => changed.calls.cache) stores.others
    rcases provides with returned | ⟨new, there⟩
    · cases stores.returned.symm.trans returned
      exact Fills.belongsTo_of_stored orderly (Nat.le_refl _) stores.length_lt (.inr stored)
    · exact Fills.belongsTo_of_stored orderly new there (.inr stored)

/-- A request that returns an artifact from before found it under its key. -/
theorem cached_of_returned_old
    {host : Host}
    {name : String}
    {texts : List String}
    {id : ArtifactId}
    (returned : (Action.createShader name texts).result host = .ok id)
    (old : id < host.artifacts.length) :
    host.calls.cache.find? (Key.ofCall name (texts.map Text.trimmed)) = some id := by
  rcases Action.createShader_effect name texts host with
    declines | ⟨_, finds | ⟨_, stores⟩⟩
  · exact absurd (declines.returned id returned).1 (Nat.ne_of_lt old)
  · obtain ⟨found, foundReturned, cached, _⟩ := finds.cached
    cases foundReturned.symm.trans returned
    exact cached
  · cases stores.returned.symm.trans returned
    exact absurd old (Nat.lt_irrefl _)

/-- A request that succeeds is accepted and leaves its shader in the cache. -/
theorem holds_of_succeeded
    {host : Host}
    {name : String}
    {texts : List String}
    {id : ArtifactId}
    (returned : (Action.createShader name texts).result host = .ok id)
    (ready : ((Action.createShader name texts).final host).isReady id = true) :
    Action.firstRefusal? host.builtins (texts.map Text.trimmed) = none ∧
      ((Action.createShader name texts).final host).Holds
        (Key.ofCall name (texts.map Text.trimmed)) id := by
  rcases Action.createShader_effect name texts host with
    declines | ⟨accepted, finds | ⟨_, stores⟩⟩
  · rw [(declines.returned id returned).2.2] at ready
    cases ready
  · obtain ⟨found, foundReturned, cached, _⟩ := finds.cached
    cases foundReturned.symm.trans returned
    exact ⟨accepted, by rw [finds.same]; exact cached, ready⟩
  · cases stores.returned.symm.trans returned
    refine ⟨accepted, ?_, ready⟩
    have stored := congrArg (fun changed => changed.calls.cache) stores.others
    change Table.find? (Host.calls _).cache _ = _
    rw [stored, Table.find?_set, beq_self_eq_true]
    rfl

/-- The key of a call determines the call. So over any run from an empty cache a
request returns an artifact of an earlier request only for the same call, and it
returns it without any work if that request succeeded and the cache was not
cleared since. -/
theorem createShader_cached_for_same_call :
    (Function.Injective fun call : String × List String => Key.ofCall call.1 call.2) ∧
      ∀ (start before now : Host) (name otherName : String) (texts otherTexts : List String)
        (id : ArtifactId),
        start.calls.cache = [] -> CacheRun start before ->
          (before.Provides name texts id ->
            CacheRun ((Action.createShader name texts).final before) now ->
            (Action.createShader otherName otherTexts).result now = .ok id ->
            otherName = name ∧ otherTexts.map Text.trimmed = texts.map Text.trimmed) ∧
          ((Action.createShader name texts).result before = .ok id ->
            ((Action.createShader name texts).final before).isReady id = true ->
            CallRun ((Action.createShader name texts).final before) now ->
            otherTexts.map Text.trimmed = texts.map Text.trimmed ->
            (Action.createShader name otherTexts).result now = .ok id ∧
              (Action.createShader name otherTexts).final now = now ∧
              (Action.createShader name otherTexts).trace now = [
                .record .info
                  s!"Creating shader for function: {name} with {texts.length} arguments",
                .record .info
                  s!"Returning cached shader: {Key.ofCall name (texts.map Text.trimmed)}"]) := by
  refine ⟨fun left right equal => Prod.ext_iff.mpr (Key.ofCall_inj equal), ?_⟩
  intro start before now name otherName texts otherTexts id empty run
  have orderly := run.isOrderly (isOrderly_of_cache_eq_nil empty)
  constructor
  · intro provides later returned
    have belongs := later.belongsTo (provides.belongsTo orderly)
    have cached := cached_of_returned_old returned belongs.lt_length
    exact Key.ofCall_inj (belongs.key_eq _ cached)
  · intro returned ready later same
    obtain ⟨accepted, holds⟩ := holds_of_succeeded returned ready
    have held := later.holds holds
    have builtins : now.builtins = before.builtins := by
      have step : CallStep before ((Action.createShader name texts).final before) :=
        .create before name texts
      exact later.builtins_eq.trans step.fills.builtins
    have sameLength : otherTexts.length = texts.length := by
      simpa using congrArg List.length same
    rw [← same, ← sameLength]
    rw [← builtins, ← same] at accepted
    rw [← same] at held
    exact Action.createShader_of_cached accepted held.cached held.ready

/-- A host with one plugin, which offers one function. -/
def equipped : Host where
  files :=
    { entries := [(["noise.glsl"], .text "float noise(vec2 at) { return fract(at.x); }")] }
  registry :=
    { registrations := [("noise", {
        plugin := { functions := [⟨"noise", "noise.glsl", "noise", [⟨"float", ["vec2"]⟩]⟩] }
        library := ⟨{}, "noise.py", 0⟩ })] }

/-- The same host after a call was served and another one was declined. -/
def equippedLater : Host :=
  (Action.createShader "absent" []).final
    ((Action.createShader "noise" [" st"]).final equipped)

theorem equipped_serves_same_shader :
    (Action.createShader "noise" [" st"]).result equipped = .ok 0 ∧
      (Action.createShader "noise" ["st "]).result equippedLater = .ok 0 ∧
      (Action.createShader "noise" ["st "]).trace equippedLater = [
        .record .info "Creating shader for function: noise with 1 arguments",
        .record .info "Returning cached shader: noise_st"] ∧
      ∀ name texts, (Action.createShader name texts).result equippedLater = .ok 0 ->
        name = "noise" ∧ texts.map Text.trimmed = ["st"] := by
  have evaluated :
      (Action.createShader "noise" [" st"]).result equipped = .ok 0 ∧
      ((Action.createShader "noise" [" st"]).final equipped).isReady 0 = true := by
    unfold Action.createShader Action.makeShader Action.compileCall Action.compileArtifact
      Action.compileStages Graphics.compile Graphics.build Graphics.link Include.resolve
    rw [Text.toList_eq_fromBytes, Text.ofList_eq_toBytes]
    decide +kernel
  obtain ⟨returned, ready⟩ := evaluated
  have later : CallStep ((Action.createShader "noise" [" st"]).final equipped) equippedLater := by
    rw [equippedLater]
    exact .create _ "absent" []
  have law := createShader_cached_for_same_call.2 equipped equipped equippedLater "noise"
  obtain ⟨again, _, trace⟩ :=
    (law "noise" [" st"] ["st "] 0 rfl .refl).2 returned ready (.single later) (by decide +kernel)
  refine ⟨returned, again, ?_, fun name texts same => ?_⟩
  · rw [trace]
    decide +kernel
  · exact (law name [" st"] texts 0 rfl .refl).1 (.inl returned) (.single (.serve later)) same

end Host
end ShaderGraph
