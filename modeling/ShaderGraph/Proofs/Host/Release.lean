import ShaderGraph.Host.Commands
import ShaderGraph.Proofs.Graph.Removal
import ShaderGraph.Proofs.Host.Emission

/-!
# Freeing shaders

Freeing a shader drops it and goes on with every shader that refers to it, whose
names were listed before the shader was dropped. Some of them may be gone when
their turn comes, so the walk is described without its bound first, as a
relation: what it drops is closed under referring and leads to the shader that
was freed. The bound suffices because a name that is met again is gone, and leads
on to names that are still there.
-/

namespace ShaderGraph

namespace Host

/-- The host without anything at its output. -/
def disconnected (host : Host) : Host :=
  match host.output.current with
  | none => host
  | some id =>
      { host with
        artifacts := host.artifacts.modify id Artifact.disconnect
        output :=
          { host.output with
            current := none, id := "", disconnections := host.output.disconnections + 1 } }

/-- The host without the nodes, the served shaders and the active ids of a list.
The output is disconnected if its id is one of them. -/
def without (host : Host) (names : List String) : Host :=
  let hidden := if names.contains host.output.id then host.disconnected else host
  { hidden with
    graph := host.graph.without names
    served := host.served.without names
    calls := { host.calls with active := host.calls.active.without names } }

theorem without_nil (host : Host) : host.without [] = host := by
  simp [without, Graph.without, Table.without_nil]

theorem without_without (host : Host) (names others : List String) :
    (host.without names).without others = host.without (names ++ others) := by
  rcases host with ⟨_, _, _, _, _, _, _, _, _, _, ⟨current, id, _, _⟩, _, _⟩
  cases current <;> by_cases first : id ∈ names <;> by_cases second : id ∈ others <;>
    simp [without, disconnected, Graph.without, Table.without_without, first, second]

end Host

namespace Action

/-- Changing an artifact without events changes the list of artifacts. -/
theorem changeArtifact_pure_effect
    (id : ArtifactId)
    (change : Artifact -> Artifact)
    (host : Host) :
    (changeArtifact id fun artifact => pure (change artifact)).Meets host fun outcome changed =>
      outcome = .ok () ∧ changed = { host with artifacts := host.artifacts.modify id change } := by
  rw [changeArtifact, meets_get_bind]
  cases found : host.artifact? id with
  | none =>
      refine ⟨rfl, ?_⟩
      rw [List.modify_eq_self (List.getElem?_eq_none_iff.mp found)]
      rfl
  | some artifact =>
      refine ⟨rfl, ?_⟩
      rw [List.modify_eq_set_getElem?, show host.artifacts[id]? = some artifact from found]
      rfl

theorem disconnectOutput_effect (host : Host) :
    disconnectOutput.Meets host fun outcome changed =>
      outcome = .ok host.output.current.isSome ∧ changed = host.disconnected := by
  rw [disconnectOutput, meets_get_bind, Host.disconnected]
  dsimp only
  cases host.output.current with
  | none => exact ⟨rfl, rfl⟩
  | some id =>
      rw [meets_bind]
      refine (changeArtifact_pure_effect id _ host).imp ?_
      rintro _ changed ⟨rfl, rfl⟩
      exact ⟨rfl, rfl⟩

/-- What remains of dropping a shader once it is not shown any more. -/
private theorem forget_effect (id : String) (host : Host) :
    (removeActive id >>= fun _ => removeNode id >>= fun _ => pure () : Action Unit).Meets host
      fun outcome changed => outcome = .ok () ∧ changed =
        { host with
          graph := host.graph.without [id]
          calls := { host.calls with active := host.calls.active.without [id] } } := by
  rw [Graph.without, ← Table.erase_eq_without, ← Table.erase_eq_without]
  exact ⟨rfl, rfl⟩

theorem dropNode_effect (id : String) (host : Host) :
    (dropNode id).Meets host fun outcome changed =>
      outcome = .ok () ∧ changed = host.without [id] := by
  rw [dropNode, meets_modify_bind, meets_get_bind]
  rw [Table.erase_eq_without]
  dsimp only
  split
  case isTrue shown =>
    rw [meets_bind]
    refine (disconnectOutput_effect _).imp ?_
    rintro _ hidden ⟨rfl, rfl⟩
    refine before_ok.mpr ((forget_effect id _).imp ?_)
    rintro _ changed ⟨rfl, rfl⟩
    refine ⟨rfl, ?_⟩
    cases current : host.output.current <;>
      simp [Host.without, Host.disconnected, current, eq_of_beq shown]
  case isFalse other =>
    refine (forget_effect id _).imp ?_
    rintro _ changed ⟨rfl, rfl⟩
    refine ⟨rfl, ?_⟩
    simp [Host.without, ne_of_beq_false (Bool.not_eq_true _ ▸ other)]

end Action

namespace Host

/-! ## The walk without a bound -/

/-- Freeing shaders one by one ends: dropping the first, freeing the shaders that
referred to it, and freeing the others leads from one host to another. -/
inductive Frees : List String -> Host -> Host -> Prop
  | done (host : Host) : Frees [] host host
  | step
      {id : String}
      {rest : List String}
      {host middle changed : Host}
      (dependents : Frees (host.graph.dependents id) ((Action.dropNode id).final host) middle)
      (others : Frees rest middle changed) : Frees (id :: rest) host changed

/-- A walk drops the nodes of a cascade, all at once. -/
theorem Frees.exists_cascade
    {ids : List String}
    {host changed : Host}
    (frees : Frees ids host changed) :
    ∃ freed, changed = host.without freed ∧ host.graph.IsCascade ids freed := by
  induction frees with
  | done host => exact ⟨[], host.without_nil.symm, .nil host.graph⟩
  | @step id _ host _ _ _ _ dependents others =>
      obtain ⟨inner, rfl, first⟩ := dependents
      obtain ⟨outer, rfl, second⟩ := others
      rw [(Action.dropNode_effect id host).2, without_without] at second ⊢
      rw [(Action.dropNode_effect id host).2] at first
      exact ⟨id :: inner ++ outer, host.without_without _ _, first.cons second⟩

end Host

namespace Action

/-- The shaders of a list are freed if each of them is within the bound. -/
theorem freeEach_effect
    {bound : Nat}
    {id : String}
    {ids : List String}
    {host : Host}
    (single : ∀ dependent host, host.graph.IsWithin bound dependent ->
      (freeNode bound dependent).Meets host fun outcome changed =>
        outcome = .ok () ∧ Host.Frees [dependent] host changed)
    (within : ∀ dependent ∈ ids, host.graph.IsWithin bound dependent) :
    (ids.forM fun dependent => do
      log .info s!"Freeing '{dependent}', which references '{id}'"
      freeNode bound dependent : Action Unit).Meets host fun outcome changed =>
        outcome = .ok () ∧ Host.Frees ids host changed := by
  induction ids generalizing host with
  | nil => exact ⟨rfl, .done host⟩
  | cons dependent rest inductionHypothesis =>
      rw [List.forM, bind_assoc, meets_log_bind, meets_bind]
      refine (single dependent host (within dependent List.mem_cons_self)).imp ?_
      rintro _ middle ⟨rfl, frees⟩
      cases frees with
      | step dependents others =>
          cases others
          -- The names behind the first one may be gone by now, but they stay within the bound.
          obtain ⟨freed, rfl, _⟩ := dependents.exists_cascade
          refine before_ok.mpr ((inductionHypothesis fun other present => ?_).imp ?_)
          · rw [(dropNode_effect dependent host).2]
            exact ((within other (List.mem_cons_of_mem dependent present)).without _).without freed
          · rintro _ changed ⟨rfl, others⟩
            exact ⟨rfl, .step dependents others⟩

theorem freeNode_effect
    (bound : Nat)
    (id : String)
    (host : Host)
    (within : host.graph.IsWithin bound id) :
    (freeNode bound id).Meets host fun outcome changed =>
      outcome = .ok () ∧ Host.Frees [id] host changed := by
  induction bound generalizing id host with
  | zero => exact absurd within (host.graph.not_isWithin_zero id)
  | succ bound inductionHypothesis =>
      -- The names to go on with were listed before the node was dropped.
      rw [freeNode, meets_get_bind, meets_bind]
      have dropped := dropNode_effect id host
      refine dropped.imp ?_
      rintro _ middle ⟨rfl, same⟩
      rw [before_ok]
      refine (freeEach_effect inductionHypothesis fun dependent listed => ?_).imp ?_
      · rw [same]
        exact within.dependent listed
      · rintro _ changed ⟨rfl, frees⟩
        rw [same, ← dropped.2] at frees
        exact ⟨rfl, .step frees (.done changed)⟩

/-- A request to free a shader changes nothing, or walks from that shader. -/
theorem free_effect (id : String) (host : Host) :
    (free id).Meets host fun _ changed => changed = host ∨ Host.Frees [id] host changed := by
  rw [free, meets_get_bind]
  split
  · exact .inl rfl
  · rw [meets_bind]
    refine (freeNode_effect _ id host (Graph.isWithin_of_gone (Nat.le_refl _))).imp ?_
    rintro _ changed ⟨rfl, frees⟩
    exact .inr frees

/-! ## Events -/

/-- Freeing a shader leaves all programs alone. -/
def IsNoRelease (event : Event) : Prop :=
  ∀ number, event ≠ .programReleased number

theorem emits_disconnectOutput
    {allowed : Event -> Prop}
    (records : ∀ level message, allowed (.record level message)) :
    disconnectOutput.Emits allowed := by
  refine emits_get.bind fun host => ?_
  dsimp only
  split
  · exact (emits_log records _ _).bind fun _ => emits_pure false
  · refine (emits_changeArtifact _ _).bind fun _ => ?_
    refine (emits_log records _ _).bind fun _ => ?_
    exact (emits_modify _).bind fun _ => emits_pure true

theorem emits_dropNode (id : String) : (dropNode id).Emits IsNoRelease := by
  have forgets : (removeActive id >>= fun _ => removeNode id >>= fun _ => pure () :
      Action Unit).Emits IsNoRelease := emits_of_trace_eq_nil fun _ => rfl
  refine (emits_modify _).bind fun _ => emits_get.bind fun host => ?_
  dsimp only
  split
  · exact (emits_disconnectOutput fun _ _ _ => by simp).bind fun _ => forgets
  · exact forgets

theorem emits_freeNode (bound : Nat) (id : String) : (freeNode bound id).Emits IsNoRelease := by
  induction bound generalizing id with
  | zero => exact emits_pure ()
  | succ bound inductionHypothesis =>
      refine emits_get.bind fun host => (emits_dropNode id).bind fun _ => ?_
      generalize host.graph.dependents id = dependents
      induction dependents with
      | nil => exact emits_pure ()
      | cons dependent rest restEmits =>
          rw [List.forM]
          refine Emits.bind ?_ fun _ => restEmits
          exact (emits_log (fun _ _ _ => by simp) _ _).bind fun _ => inductionHypothesis dependent

end Action

namespace Host

/-- Freeing a served shader ends, also where references form cycles. It drops the
shader and every node from which following references leads to it, and nothing
else: no program is released, and the output is disconnected only if its id is
dropped. The nodes are those of a graph that lists each name once. -/
theorem free_drops_what_reaches
    (host : Host)
    (id : String)
    (distinct : host.graph.nodes.names.Nodup)
    (served : host.served.has id = true) :
    ∃ freed, (∀ name, name ∈ freed ↔ host.graph.Reaches name id) ∧
      Frees [id] host (host.without freed) ∧
      (Action.free id).result host = .ok (.ok id) ∧
      (Action.free id).final host = host.without freed ∧
      ∀ number, .programReleased number ∉ (Action.free id).trace host := by
  have within : host.graph.IsWithin (2 * host.graph.nodes.length + 1) id :=
    Graph.isWithin_of_gone (Nat.le_refl _)
  have meets : (Action.free id).Meets host fun outcome changed =>
      outcome = .ok (.ok id) ∧ Frees [id] host changed := by
    rw [Action.free, Action.meets_get_bind, served, if_neg (by decide), Action.meets_bind]
    refine (Action.freeNode_effect _ id host within).imp ?_
    rintro _ changed ⟨rfl, frees⟩
    exact ⟨rfl, frees⟩
  have emits : (Action.free id).Emits Action.IsNoRelease := by
    refine Action.emits_get.bind fun other => ?_
    split
    · exact Action.emits_pure _
    · exact (Action.emits_freeNode _ id).bind fun _ => Action.emits_pure _
  obtain ⟨returned, frees⟩ := meets
  obtain ⟨freed, without, cascade⟩ := frees.exists_cascade
  refine ⟨freed, fun name => cascade.mem_iff distinct, without ▸ frees, returned, without, ?_⟩
  intro number released
  exact emits host _ released number rfl

/-- Five shaders: the second and the third refer to the first and the fourth to
both of them, the second refers back to the fourth, and the third to itself. The
fourth is shown. -/
def woven : Host where
  graph :=
    { nodes := [
        ("shader_1", { function := "abs", arguments := ["time"] }),
        ("shader_2", { function := "max", arguments := ["$shader_1", "$shader_4"] }),
        ("shader_3", { function := "max", arguments := ["$shader_1", "$shader_3"] }),
        ("shader_4", { function := "max", arguments := ["$shader_2", "$shader_3"] }),
        ("shader_5", { function := "abs", arguments := ["time"] })]
      registered := 5 }
  artifacts := [{ function := "max", arguments := [], state := .connected }]
  served := [("shader_1", 0), ("shader_4", 0), ("shader_5", 0)]
  output := { current := some 0, id := "shader_4", connections := 1 }

theorem woven_without_first :
    (∃ freed, (∀ name, name ∈ freed ↔ woven.graph.Reaches name "shader_1") ∧
      Frees ["shader_1"] woven (woven.without freed) ∧
      (Action.free "shader_1").result woven = .ok (.ok "shader_1") ∧
      (Action.free "shader_1").final woven = woven.without freed ∧
      ∀ number, .programReleased number ∉ (Action.free "shader_1").trace woven) ∧
    ((Action.free "shader_1").final woven).graph.nodes.names = ["shader_5"] ∧
    ((Action.free "shader_1").final woven).output.current = none :=
  ⟨free_drops_what_reaches woven "shader_1" (by decide) (by decide), by decide +kernel⟩

end Host
end ShaderGraph
