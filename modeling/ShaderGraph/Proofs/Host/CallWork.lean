import ShaderGraph.Host.Calls
import ShaderGraph.Proofs.Host.Emission

/-!
# What the work on single calls does

A request for a call is declined, or its shader is found in the cache, or a new
one is made and stored there. What is returned otherwise is new and not ready,
and in no case does another artifact or another part of the host change.
-/

namespace ShaderGraph
namespace Action

theorem respects_warnConflict (name pluginAlias : String) :
    (warnConflict name pluginAlias).Respects Eq := by
  refine respects_get.bind fun host => ?_
  split
  · exact respects_of_final_eq fun _ => rfl
  · exact respects_pure ()

theorem respects_collectSources (name pluginAlias : String) (nested : List String) :
    (collectSources name pluginAlias nested).Respects Eq := by
  refine respects_get.bind fun host => ?_
  refine (respects_attempt _).bind fun code => ?_
  split
  · exact respects_pure _
  · exact respects_attempt _

/-- Nothing is cached, and what is returned, if anything, is new and not ready. -/
structure Declines
    (host : Host)
    (outcome : Except Failure ArtifactId)
    (changed : Host) : Prop where
  only : OnlyArtifactsFrom host.artifacts.length host changed
  returned : ∀ id, outcome = .ok id ->
    id = host.artifacts.length ∧ id < changed.artifacts.length ∧ changed.isReady id = false

/-- Nothing changes, and a ready artifact that is cached under the key is
returned. -/
structure Finds
    (key : String)
    (host : Host)
    (outcome : Except Failure ArtifactId)
    (changed : Host) : Prop where
  same : changed = host
  cached : ∃ id, outcome = .ok id ∧ host.calls.cache.find? key = some id ∧ host.isReady id = true

/-- A new artifact is ready, stored under the key, and returned. -/
structure Stores
    (key : String)
    (host : Host)
    (outcome : Except Failure ArtifactId)
    (changed : Host) : Prop where
  returned : outcome = .ok host.artifacts.length
  others : changed =
    { host with
      artifacts := changed.artifacts
      graphics := changed.graphics
      calls :=
        { host.calls with cache := host.calls.cache.set key host.artifacts.length } }
  length_lt : host.artifacts.length < changed.artifacts.length
  kept : ∀ id < host.artifacts.length, changed.artifact? id = host.artifact? id
  ready : changed.isReady host.artifacts.length = true

theorem Declines.of_error {host : Host} (failure : Failure) :
    Declines host (.error failure) host :=
  ⟨refl_of (OnlyArtifactsFrom _) host, by simp⟩

theorem Declines.of_new
    {host changed : Host}
    (only : OnlyArtifactsFrom host.artifacts.length host changed)
    (longer : host.artifacts.length < changed.artifacts.length)
    (notReady : changed.isReady host.artifacts.length = false) :
    Declines host (.ok host.artifacts.length) changed := by
  refine ⟨only, fun id same => ?_⟩
  cases same
  exact ⟨rfl, longer, notReady⟩

theorem addFailed_effect
    (name : String)
    (arguments : List String)
    (message : String)
    (host : Host) :
    (addFailed name arguments message).Meets host (Declines host) := by
  rw [addFailed, meets_bind]
  refine (addArtifact_effect _ host).imp ?_
  rintro _ added ⟨rfl, onlyAdded, longer⟩
  rw [before_ok, meets_bind]
  refine ((respects_changeArtifact_from (Nat.le_refl _) _).meets
    (changeArtifact_effect host.artifacts.length _ added)).imp ?_
  rintro _ changed ⟨only, rfl, failed⟩
  refine before_ok.mpr (meets_pure.mpr (.of_new (trans_of _ onlyAdded only) ?_ ?_))
  · exact Nat.lt_of_lt_of_le longer only.length_le
  rw [Host.isReady, failed]
  cases added.artifact? host.artifacts.length with
  | none => rfl
  | some artifact => exact isReady_fail artifact message

theorem compileCall_effect
    (key name pluginAlias code : String)
    (arguments : List String)
    (host : Host) :
    (compileCall key name pluginAlias code arguments).Meets host fun outcome changed =>
      Declines host outcome changed ∨ Stores key host outcome changed := by
  have generated : (attempt (host.generator.generate code name arguments)).Respects Eq :=
    respects_attempt _
  rw [compileCall, meets_get_bind]
  refine generated.meets_bind (fun failure _ same => same ▸ .inl (.of_error failure)) ?_
  rintro shader _ rfl
  rw [meets_bind]
  refine (addArtifact_effect _ host).imp ?_
  rintro _ added ⟨rfl, onlyAdded, longer⟩
  rw [before_ok, meets_bind]
  refine ((respects_compileArtifact_from (Nat.le_refl _)).meets
    (compileArtifact_effect host.artifacts.length added)).imp ?_
  rintro _ compiled ⟨only, rfl⟩
  have onlyCompiled := trans_of (OnlyArtifactsFrom _) onlyAdded only
  have longerCompiled := Nat.lt_of_lt_of_le longer only.length_le
  rw [before_ok]
  split
  case isTrue ready =>
    have respects := (respects_setRefreshing_from (Nat.le_refl _) arguments).and
      (respects_setRefreshing_isReady host.artifacts.length arguments)
    refine respects.meets_bind ?_ ?_
    · exact fun failure changed marked =>
        .inl ⟨trans_of _ onlyCompiled marked.1, by simp⟩
    · intro _ changed ⟨marked, sameReady⟩
      have onlyMarked := trans_of (OnlyArtifactsFrom _) onlyCompiled marked
      refine meets_modify_bind.mpr (meets_log_bind.mpr (meets_pure.mpr (.inr ?_)))
      exact {
        returned := rfl
        others := by rw [onlyMarked.others]
        length_lt := Nat.lt_of_lt_of_le longerCompiled marked.length_le
        kept := onlyMarked.kept
        ready := (congrFun sameReady _).trans ready }
  case isFalse notReady =>
    refine meets_log_bind.mpr (meets_pure.mpr (.inl (.of_new onlyCompiled longerCompiled ?_)))
    simpa using notReady

theorem makeShader_effect
    (key name : String)
    (arguments : List String)
    (host : Host) :
    (makeShader key name arguments).Meets host fun outcome changed =>
      Declines host outcome changed ∨ Stores key host outcome changed := by
  rw [makeShader, meets_get_bind]
  cases host.registry.catalogue.owner? name with
  | none => exact (addFailed_effect name arguments _ host).imp fun _ _ declines => .inl declines
  | some pluginAlias =>
      refine (respects_warnConflict name pluginAlias).meets_bind ?_ ?_
      · exact fun failure _ same => same ▸ .inl (.of_error failure)
      rintro _ _ rfl
      rw [meets_liftTraced_bind]
      split
      · exact (addFailed_effect name arguments _ host).imp fun _ _ declines => .inl declines
      refine (respects_collectSources name pluginAlias _).meets_bind ?_ ?_
      · exact fun failure _ same => same ▸ .inl (.of_error failure)
      rintro sources _ rfl
      cases sources with
      | error missing =>
          exact (addFailed_effect name arguments _ host).imp fun _ _ declines => .inl declines
      | ok code => exact compileCall_effect key name pluginAlias code arguments host

/-- A call is declined; or its selections are accepted, and its shader is found
in the cache or else may be stored there. -/
theorem createShader_effect (name : String) (texts : List String) (host : Host) :
    (createShader name texts).Meets host fun outcome changed =>
      let arguments := texts.map Text.trimmed
      let key := Key.ofCall name arguments
      Declines host outcome changed ∨
        (firstRefusal? host.builtins arguments = none ∧
          (Finds key host outcome changed ∨
            (host.calls.cache.find? key).filter host.isReady = none ∧
              Stores key host outcome changed)) := by
  rw [createShader, meets_log_bind, meets_get_bind]
  cases accepted : firstRefusal? host.builtins (texts.map Text.trimmed) with
  | some refusal =>
      exact (addFailed_effect name _ _ host).imp fun _ _ declines => .inl declines
  | none =>
      dsimp only
      split
      case h_1 id found =>
        obtain ⟨cached, ready⟩ := Option.filter_eq_some_iff.mp found
        refine meets_log_bind.mpr (meets_pure.mpr ?_)
        exact .inr ⟨accepted, .inl ⟨rfl, id, rfl, cached, ready⟩⟩
      case h_2 absent =>
        refine (makeShader_effect _ name _ host).imp fun outcome changed => ?_
        rintro (declines | stores)
        · exact .inl declines
        · exact .inr ⟨accepted, .inr ⟨absent, stores⟩⟩

/-- A call whose ready shader is cached gets it without any other work. -/
theorem createShader_of_cached
    {host : Host}
    {name : String}
    {texts : List String}
    {id : ArtifactId}
    (accepted : firstRefusal? host.builtins (texts.map Text.trimmed) = none)
    (cached : host.calls.cache.find? (Key.ofCall name (texts.map Text.trimmed)) = some id)
    (ready : host.isReady id = true) :
    (createShader name texts).result host = .ok id ∧
      (createShader name texts).final host = host ∧
      (createShader name texts).trace host = [
        .record .info
          s!"Creating shader for function: {name} with {texts.length} arguments",
        .record .info
          s!"Returning cached shader: {Key.ofCall name (texts.map Text.trimmed)}"] := by
  have found : (host.calls.cache.find? (Key.ofCall name (texts.map Text.trimmed))).filter
      host.isReady = some id := Option.filter_eq_some_iff.mpr ⟨cached, ready⟩
  have meets : (createShader name texts).Meets host fun outcome changed =>
      outcome = .ok id ∧ changed = host := by
    rw [createShader, meets_log_bind, meets_get_bind]
    simp only [accepted, found]
    exact ⟨rfl, rfl⟩
  refine ⟨meets.1, meets.2, ?_⟩
  rw [createShader, trace_log_bind, trace_get_bind]
  simp only [accepted, found, trace_log_bind, trace_pure, List.length_map]

end Action
end ShaderGraph
