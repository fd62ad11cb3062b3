import ShaderGraph.Proofs.Host.Emission

/-!
# Courses of actions

What an action does to a host is the state that it leaves together with the
events on the way. A relation between a state, the events that follow it and the
state after them is a course if doing nothing is part of it and parts can be
joined. An action follows a course if each of its steps does, wherever it fails.
-/

namespace ShaderGraph

/-- A relation between states and the events between them that holds of doing
nothing and of one part after another. -/
class IsCourse (course : State -> List Event -> State -> Prop) : Prop where
  refl (state : State) : course state [] state
  trans
    {state middle changed : State}
    {first second : List Event} :
    course state first middle -> course middle second changed ->
      course state (first ++ second) changed

namespace Action

/-- An action follows a course if it leads along it from every state. -/
def Follows (course : Host -> List Event -> Host -> Prop) (action : Action Value) : Prop :=
  ∀ host, course host (action.trace host) (action.final host)

/-- The second action starts where the first one ended, unless it failed. -/
theorem final_bind
    (first : Action Value)
    (next : Value -> Action Result)
    (host : Host) :
    (first >>= next).final host =
      match first.result host with
      | .ok value => (next value).final (first.final host)
      | .error _ => first.final host := by
  change Prod.snd
    (Traced.value (StateT.run (ExceptT.bindCont next (first.result host)) (first.final host))) = _
  cases first.result host <;> rfl

/-- The second action has the result, unless the first one failed. -/
theorem result_bind
    (first : Action Value)
    (next : Value -> Action Result)
    (host : Host) :
    (first >>= next).result host =
      match first.result host with
      | .ok value => (next value).result (first.final host)
      | .error failure => .error failure := by
  change Prod.fst
    (Traced.value (StateT.run (ExceptT.bindCont next (first.result host)) (first.final host))) = _
  cases first.result host <;> rfl

/-- Reading the state is no step of its own. -/
@[simp] theorem result_get_bind (next : Host -> Action Result) (host : Host) :
    ((get : Action Host) >>= next).result host = (next host).result host :=
  result_bind get next host

@[simp] theorem final_get_bind (next : Host -> Action Result) (host : Host) :
    ((get : Action Host) >>= next).final host = (next host).final host :=
  final_bind get next host

theorem changeArtifact_of_none
    {id : ArtifactId}
    {host : Host}
    (absent : host.artifact? id = none)
    (change : Artifact -> Traced Artifact) :
    (changeArtifact id change).trace host = [] ∧ (changeArtifact id change).final host = host := by
  rw [changeArtifact, trace_get_bind, final_get_bind, absent]
  exact ⟨rfl, rfl⟩

/-- Changing an artifact sets it and traces the change. -/
theorem changeArtifact_of_some
    {id : ArtifactId}
    {host : Host}
    {artifact : Artifact}
    (found : host.artifact? id = some artifact)
    (change : Artifact -> Traced Artifact) :
    (changeArtifact id change).result host = .ok () ∧
      (changeArtifact id change).trace host = (change artifact).trace ∧
      (changeArtifact id change).final host =
        host.setArtifact id (change artifact).value := by
  rw [changeArtifact, result_get_bind, trace_get_bind, final_get_bind, found]
  dsimp only
  rw [result_bind, trace_bind, trace_liftTraced, final_bind]
  exact ⟨rfl, List.append_nil _, rfl⟩

section Follows

variable {course : Host -> List Event -> Host -> Prop}

variable [IsCourse course]

/-- What follows a first step may depend on its value and on the state it leaves. -/
theorem Follows.bind_of_result
    {first : Action Value}
    {next : Value -> Action Result}
    {host : Host}
    (firstFollows : course host (first.trace host) (first.final host))
    (nextFollows : ∀ value, first.result host = .ok value ->
      course (first.final host) ((next value).trace (first.final host))
        ((next value).final (first.final host))) :
    course host ((first >>= next).trace host) ((first >>= next).final host) := by
  rw [trace_bind, final_bind]
  cases outcome : first.result host with
  | error failure =>
      dsimp only
      rw [List.append_nil]
      exact firstFollows
  | ok value => exact IsCourse.trans firstFollows (nextFollows value outcome)

/-- Actions one after the other follow a course that goes on. -/
theorem Follows.bind
    {first : Action Value}
    {next : Value -> Action Result}
    (firstFollows : first.Follows course)
    (nextFollows : ∀ value, (next value).Follows course) : (first >>= next).Follows course :=
  fun host => bind_of_result (firstFollows host) fun value _ => nextFollows value _

theorem follows_pure (value : Value) : (pure value : Action Value).Follows course :=
  fun host => IsCourse.refl host

theorem follows_get : (get : Action Host).Follows course :=
  fun host => IsCourse.refl host

theorem follows_throw (failure : Failure) :
    (throw failure : Action Value).Follows course :=
  fun host => IsCourse.refl host

theorem follows_liftExcept (outcome : Except Failure Value) :
    (liftM outcome : Action Value).Follows course := by
  cases outcome with
  | ok value => exact follows_pure value
  | error failure => exact follows_throw failure

end Follows

/-- A course is followed by what leads along it whatever the allowed events were. -/
theorem follows_of_emits
    {course : Host -> List Event -> Host -> Prop}
    {allowed : Event -> Prop}
    {relation : Host -> Host -> Prop}
    {action : Action Value}
    (emits : action.Emits allowed)
    (respects : action.Respects relation)
    (along : ∀ host events changed, (∀ event ∈ events, allowed event) ->
      relation host changed -> course host events changed) : action.Follows course :=
  fun host => along host _ _ (emits host) (respects host)

end Action
end ShaderGraph
