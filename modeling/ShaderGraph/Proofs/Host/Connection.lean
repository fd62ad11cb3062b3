import ShaderGraph.Proofs.Host.Request
import ShaderGraph.Proofs.Host.Work

/-!
# Connected artifacts

Only connecting makes an artifact connected. The work of a request adds artifacts and
leaves alone those that were there before, and it connects none.
-/

namespace ShaderGraph

namespace Host

/-- Whether an artifact is marked as connected. -/
def isConnected (host : Host) (id : ArtifactId) : Bool :=
  (host.artifact? id).any fun artifact => artifact.state = .connected

/-- No artifact is connected that was not. -/
def ConnectsNone (host : Host) (_ : List Event) (changed : Host) : Prop :=
  ∀ id, changed.isConnected id = true -> host.isConnected id = true

instance : IsQuietCourse ConnectsNone where
  quiet := by
    intro host changed _ _ same id connected
    have artifacts : changed.artifacts = host.artifacts := (Prod.ext_iff.mp same).1
    rwa [isConnected, artifact?, artifacts] at connected
  refl _ _ connected := connected
  trans first second id connected := first id (second id connected)

/-- No artifact is dropped, and those that were there are the same. -/
structure KeepsArtifacts (host changed : Host) : Prop where
  length_le : host.artifacts.length ≤ changed.artifacts.length
  kept : ∀ id < host.artifacts.length, changed.artifact? id = host.artifact? id

instance : IsPreorder Host KeepsArtifacts where
  refl _ := ⟨Nat.le_refl _, fun _ _ => rfl⟩
  trans _ _ _ left right := by
    refine ⟨Nat.le_trans left.length_le right.length_le, fun id before => ?_⟩
    rw [right.kept id (Nat.lt_of_lt_of_le before left.length_le), left.kept id before]

end Host

namespace Action

open Host

/-! ## Requests for shaders -/

/-- An artifact that is set connects nothing unless it becomes connected. -/
theorem connectsNone_setArtifact
    {host : Host}
    {id : ArtifactId}
    {old artifact : Artifact}
    (found : host.artifact? id = some old)
    (same : artifact.state = .connected -> old.state = .connected) :
    ConnectsNone host [] (host.setArtifact id artifact) := by
  intro other connected
  by_cases equal : id = other
  · subst equal
    rw [isConnected, artifact?_setArtifact_self found] at connected
    rw [isConnected, found]
    simpa using same (by simpa using connected)
  · rw [isConnected, Host.artifact?, Host.setArtifact, List.getElem?_set_ne equal] at connected
    exact connected

/-- A change connects nothing unless artifacts become connected. -/
theorem connectsNone_changeArtifact
    (id : ArtifactId)
    {change : Artifact -> Traced Artifact}
    (same : ∀ artifact, (change artifact).value.state = .connected ->
      artifact.state = .connected) : (changeArtifact id change).Follows ConnectsNone := by
  intro host
  cases found : host.artifact? id with
  | none =>
      rw [(changeArtifact_of_none found change).2]
      exact fun _ connected => connected
  | some artifact =>
      rw [(changeArtifact_of_some found change).2.2]
      exact connectsNone_setArtifact found (same artifact)

instance : IsWork ConnectsNone where
  add artifact _ created := by
    intro host id connected
    rw [addArtifact, final_get_bind] at connected
    change (Host.isConnected { host with artifacts := host.artifacts ++ [artifact] } id) = true
      at connected
    rw [isConnected, Host.artifact?] at connected
    rcases Nat.lt_or_ge id host.artifacts.length with before | beyond
    · rw [List.getElem?_append_left before] at connected
      exact connected
    · rw [List.getElem?_append_right beyond] at connected
      cases position : id - host.artifacts.length with
      | zero => simp [position, created] at connected
      | succ further => simp [position] at connected
  fail id message := connectsNone_changeArtifact id fun artifact failed => by
    simp [Artifact.fail] at failed
  mark id time resolution := connectsNone_changeArtifact id fun artifact connected => connected
  receive := by
    intro host id artifact outcome events graphics found _
    have there : Host.artifact? { host with graphics } id = some artifact := found
    refine connectsNone_setArtifact there fun connected => ?_
    cases outcome with
    | ok program => cases connected
    | error error => cases connected

/-- Where the artifacts are the same, they are kept. -/
theorem keepsArtifacts_of_same
    {host changed : Host}
    (same : changed.artifacts = host.artifacts) : KeepsArtifacts host changed := by
  refine ⟨Nat.le_of_eq (congrArg List.length same.symm), fun id _ => ?_⟩
  rw [Host.artifact?, same]
  rfl

/-- A change of later artifacts keeps those before. -/
theorem OnlyArtifactsFrom.keepsArtifacts
    {host changed : Host}
    (only : OnlyArtifactsFrom host.artifacts.length host changed) : KeepsArtifacts host changed :=
  ⟨only.length_le, only.kept⟩

/-- A call keeps the artifacts that there are. -/
theorem keepsArtifacts_createShader (name : String) (texts : List String) :
    (createShader name texts).Respects KeepsArtifacts := by
  intro host
  rcases createShader_effect name texts host with declines | ⟨_, finds | ⟨_, stores⟩⟩
  · exact declines.only.keepsArtifacts
  · rw [finds.same]
    exact refl_of KeepsArtifacts host
  · exact ⟨Nat.le_of_lt stores.length_lt, stores.kept⟩

theorem keepsArtifacts_compileChain
    (output key : String)
    (chain : List String)
    (shader : Shader) : (compileChain output key chain shader).Respects KeepsArtifacts := by
  intro host
  have meets : (compileChain output key chain shader).Meets host fun _ changed =>
      KeepsArtifacts host changed := by
    rw [compileChain, meets_get_bind, meets_liftExcept_bind]
    cases nodesOf host.graph chain with
    | error failure => exact refl_of KeepsArtifacts host
    | ok nodes =>
        rw [before_ok, meets_bind]
        refine (addArtifact_effect _ host).imp ?_
        rintro _ added ⟨rfl, onlyAdded, _⟩
        refine before_ok.mpr ?_
        refine (respects_compileArtifact_from (Nat.le_refl _)).meets_bind ?_ ?_
        · exact fun _ _ compiled =>
            (trans_of (OnlyArtifactsFrom _) onlyAdded compiled).keepsArtifacts
        · intro success compiledHost compiled
          have only := trans_of (OnlyArtifactsFrom _) onlyAdded compiled
          cases success with
          | false => exact meets_log_bind.mpr (meets_pure.mpr only.keepsArtifacts)
          | true =>
              refine (respects_setRefreshing_from (Nat.le_refl _) _).meets_bind ?_ ?_
              · exact fun _ _ marked => (trans_of (OnlyArtifactsFrom _) only marked).keepsArtifacts
              · intro _ changed marked
                refine meets_modify_bind.mpr (meets_log_bind.mpr (meets_pure.mpr ?_))
                have keeps := (trans_of (OnlyArtifactsFrom _) only marked).keepsArtifacts
                exact ⟨keeps.length_le, keeps.kept⟩
  exact meets

/-- A compilation of a graph keeps the artifacts that there are. -/
theorem keepsArtifacts_compileGraph (output : String) :
    (compileGraph output).Respects KeepsArtifacts :=
  respects_compileGraph_of (fun _ => keepsArtifacts_of_same rfl)
    (keepsArtifacts_compileChain output)

/-- A request for a shader keeps the artifacts that there are. -/
theorem keepsArtifacts_create (name raw : String) :
    (create name raw).Respects KeepsArtifacts :=
  respects_create (fun _ _ same => keepsArtifacts_of_same (Prod.ext_iff.mp same).1)
    keepsArtifacts_createShader keepsArtifacts_compileGraph name raw

end Action

/-! ## Connecting and disconnecting -/

namespace Artifact

theorem isReady_disconnect (artifact : Artifact) :
    artifact.disconnect.isReady = artifact.isReady := by
  unfold disconnect isReady
  split <;> simp_all

/-- A disconnected artifact is not connected. -/
theorem state_disconnect (artifact : Artifact) : artifact.disconnect.state ≠ .connected := by
  unfold disconnect
  split
  · simp
  · assumption

theorem isReady_connect (artifact : Artifact) : artifact.connect.isReady = artifact.isReady := by
  unfold connect
  split
  · simp_all [isReady]
  · rfl

/-- An artifact that is ready becomes connected. -/
theorem state_connect {artifact : Artifact} (ready : artifact.isReady = true) :
    artifact.connect.state = .connected := by
  rw [connect, if_pos ready]

theorem state_cleanUp (artifact : Artifact) : artifact.cleanUp.value.state ≠ .connected := by
  rw [cleanUp, Traced.value_bind, Traced.value_pure]
  split
  case isTrue failed => simp [failed]
  case isFalse => simp

/-- Refreshing an artifact leaves its state. -/
theorem state_refresh (artifact : Artifact) (elapsed width height : Float) :
    (artifact.refresh elapsed width height).apply.state = artifact.state := by
  unfold refresh setNumber setPair
  dsimp only
  split <;> split <;> rfl

end Artifact

namespace Host

/-- An artifact is connected if it is there in this state. -/
theorem isConnected_iff {host : Host} {id : ArtifactId} :
    host.isConnected id = true ↔
      ∃ artifact, host.artifact? id = some artifact ∧ artifact.state = .connected := by
  simp [isConnected, Option.any_eq_true]

theorem isReady_iff {host : Host} {id : ArtifactId} :
    host.isReady id = true ↔
      ∃ artifact, host.artifact? id = some artifact ∧ artifact.isReady = true := by
  simp [isReady, Option.any_eq_true]

/-- The artifacts of a host after a change of one of them. -/
theorem artifact?_modify
    (host : Host)
    (id : ArtifactId)
    (change : Artifact -> Artifact)
    (output : Output)
    (other : ArtifactId) :
    Host.artifact? { host with artifacts := host.artifacts.modify id change, output } other =
      if id = other then (host.artifact? other).map change else host.artifact? other := by
  rw [Host.artifact?, List.getElem?_modify, Host.artifact?]
  split <;> simp

/-- A change of an artifact that a view does not show is not seen by it. -/
theorem any_artifact?_modify
    {change : Artifact -> Artifact}
    {view : Artifact -> Bool}
    (same : ∀ artifact, view (change artifact) = view artifact)
    (host : Host)
    (id : ArtifactId)
    (output : Output)
    (other : ArtifactId) :
    (Host.artifact? { host with artifacts := host.artifacts.modify id change, output }
      other).any view = (host.artifact? other).any view := by
  rw [artifact?_modify]
  split
  · rw [Option.any_map]
    exact congrArg (Option.any · _) (funext same)
  · rfl

end Host
end ShaderGraph
