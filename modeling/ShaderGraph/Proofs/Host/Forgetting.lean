import ShaderGraph.Host.Watching
import ShaderGraph.Proofs.Host.Release

/-!
# Forgetting shaders

Disconnecting the output and clearing the caches changes the artifacts, the caches
and the output only. Apart from records, programs are released on the way, and
nothing else happens.
-/

namespace ShaderGraph

namespace Artifact

/-- The release of the program of an artifact, if there is one. -/
theorem trace_release (artifact : Artifact) :
    artifact.release.trace =
      artifact.program.toList.map fun program => .programReleased program.number := by
  unfold release
  cases artifact.program <;> rfl

theorem trace_cleanUp (artifact : Artifact) :
    artifact.cleanUp.trace =
      artifact.program.toList.map fun program => .programReleased program.number := by
  rw [cleanUp, Traced.trace_bind, Traced.trace_pure, List.append_nil, trace_release]

end Artifact

namespace Action

/-- Only the artifacts, the caches with the active ids, and the output differ. -/
def Forgets (host changed : Host) : Prop :=
  changed =
    { host with
      artifacts := changed.artifacts
      calls := changed.calls
      graphCache := changed.graphCache
      output := changed.output }

instance : IsPreorder Host Forgets where
  refl _ := rfl
  trans _ _ _ left right := by rw [Forgets, right, left]

/-- Changing an artifact leaves all but the artifacts. -/
theorem forgets_changeArtifact (id : ArtifactId) (change : Artifact -> Traced Artifact) :
    (changeArtifact id change).Respects Forgets := by
  refine respects_get.bind fun host => ?_
  split
  · exact respects_pure ()
  · exact (respects_liftTraced _).bind fun changed => respects_modify fun _ => rfl

theorem forgets_cleanUpEach (ids : List ArtifactId) : (cleanUpEach ids).Respects Forgets := by
  induction ids with
  | nil => exact respects_pure ()
  | cons id rest inductionHypothesis =>
      exact (forgets_changeArtifact id _).bind fun _ => inductionHypothesis

/-- Clearing the calls leaves all but the artifacts and the caches. -/
theorem forgets_clearCalls : clearCalls.Respects Forgets := by
  refine respects_get.bind fun host => (forgets_cleanUpEach _).bind fun _ => ?_
  exact Respects.bind (respects_modify fun _ => rfl) fun _ => respects_liftTraced _

theorem forgets_clearGraphs : clearGraphs.Respects Forgets :=
  respects_get.bind fun _ => (forgets_cleanUpEach _).bind fun _ => respects_modify fun _ => rfl

theorem forgets_releaseOutput : releaseOutput.Respects Forgets := by
  have disconnects : disconnectOutput.Respects Forgets := by
    intro host
    rw [(disconnectOutput_effect host).2, Host.disconnected]
    split <;> rfl
  refine respects_get.bind fun host => ?_
  split
  · exact disconnects.bind fun _ => respects_pure ()
  · exact respects_pure ()

/-- Forgetting all shaders leaves the graph and the plugins. -/
theorem forgets_forgetShaders (pluginAlias : String) :
    (forgetShaders pluginAlias).Respects Forgets :=
  (respects_liftTraced _).bind fun _ =>
    forgets_releaseOutput.bind fun _ => forgets_clearCalls.bind fun _ => forgets_clearGraphs

/-! ## Events -/

/-- A record, or the release of a program. -/
def IsRecordOrRelease : Event -> Prop
  | .record _ _ => True
  | .programReleased _ => True
  | _ => False

theorem emits_changeArtifact_of_mem
    {allowed : Event -> Prop}
    (id : ArtifactId)
    {change : Artifact -> Traced Artifact}
    (changes : ∀ artifact, ∀ event ∈ (change artifact).trace, allowed event) :
    (changeArtifact id change).Emits allowed := by
  refine emits_get.bind fun host => ?_
  cases host.artifact? id with
  | none => exact emits_pure ()
  | some artifact =>
      refine Emits.bind (fun host event present => ?_) fun changed => emits_modify _
      rw [trace_liftTraced] at present
      exact changes artifact event present

/-- Cleaning up records and releases only. -/
theorem emits_cleanUpEach (ids : List ArtifactId) :
    (cleanUpEach ids).Emits IsRecordOrRelease := by
  induction ids with
  | nil => exact emits_pure ()
  | cons id rest inductionHypothesis =>
      refine (emits_changeArtifact_of_mem id fun artifact event present => ?_).bind fun _ =>
        inductionHypothesis
      rw [Artifact.trace_cleanUp] at present
      obtain ⟨program, _, rfl⟩ := List.mem_map.mp present
      trivial

theorem emits_releaseOutput : releaseOutput.Emits IsRecordOrRelease := by
  refine emits_get.bind fun host => ?_
  split
  · exact (emits_disconnectOutput fun _ _ => trivial).bind fun _ => emits_pure ()
  · exact emits_pure ()

/-- Forgetting all shaders records and releases only. -/
theorem emits_forgetShaders (pluginAlias : String) :
    (forgetShaders pluginAlias).Emits IsRecordOrRelease := by
  have records : ∀ level message, IsRecordOrRelease (.record level message) := fun _ _ => trivial
  have clearsCalls : clearCalls.Emits IsRecordOrRelease :=
    emits_get.bind fun host => (emits_cleanUpEach _).bind fun _ =>
      (emits_modify _).bind fun _ => emits_log records _ _
  have clearsGraphs : clearGraphs.Emits IsRecordOrRelease :=
    emits_get.bind fun host => (emits_cleanUpEach _).bind fun _ => emits_modify _
  exact (emits_log records _ _).bind fun _ => emits_releaseOutput.bind fun _ =>
    clearsCalls.bind fun _ => clearsGraphs

end Action
end ShaderGraph
