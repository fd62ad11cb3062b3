import ShaderGraph.Proofs.Host.Effect

/-!
# Events of actions

The trace of an action is that of its first step and, unless that step fails,
the trace of what follows it. An action whose steps emit allowed events only
emits allowed events only.
-/

namespace ShaderGraph
namespace Action

/-- The events that happen while an action runs on a host. -/
def trace (action : Action Value) (host : Host) : List Event :=
  (action.run.run host).trace

/-- Actions one after the other trace both unless the first one fails. -/
theorem trace_bind
    (first : Action Value)
    (next : Value -> Action Result)
    (host : Host) :
    (first >>= next).trace host =
      first.trace host ++
        match first.result host with
        | .ok value => (next value).trace (first.final host)
        | .error _ => [] := by
  change first.trace host ++
    Traced.trace (StateT.run (ExceptT.bindCont next (first.result host)) (first.final host)) = _
  cases first.result host <;> rfl

@[simp] theorem trace_pure (value : Value) (host : Host) :
    (pure value : Action Value).trace host = [] := rfl

@[simp] theorem trace_get_bind (next : Host -> Action Result) (host : Host) :
    ((get : Action Host) >>= next).trace host = (next host).trace host :=
  trace_bind get next host

@[simp] theorem trace_log_bind
    (level : Level)
    (message : String)
    (next : Unit -> Action Result)
    (host : Host) :
    (log level message >>= next).trace host =
      .record level message :: (next ()).trace host :=
  trace_bind (log level message) next host

@[simp] theorem trace_liftTraced (computation : Traced Value) (host : Host) :
    (liftM computation : Action Value).trace host = computation.trace := by
  change (computation.trace ++ []) ++ [] = computation.trace
  rw [List.append_nil, List.append_nil]

/-- An action emits allowed events only. -/
def Emits (allowed : Event -> Prop) (action : Action Value) : Prop :=
  ∀ host, ∀ event ∈ action.trace host, allowed event

section Emits

variable {allowed : Event -> Prop}

/-- Actions one after the other emit what both of them emit. -/
theorem Emits.bind
    {first : Action Value}
    {next : Value -> Action Result}
    (firstEmits : first.Emits allowed)
    (nextEmits : ∀ value, (next value).Emits allowed) : (first >>= next).Emits allowed := by
  intro host event present
  rw [trace_bind] at present
  rcases List.mem_append.mp present with now | later
  · exact firstEmits host event now
  · split at later
    case h_1 value _ => exact nextEmits value _ event later
    case h_2 => cases later

/-- What leaves no trace emits whatever is allowed. -/
theorem emits_of_trace_eq_nil
    {action : Action Value}
    (silent : ∀ host, action.trace host = []) : action.Emits allowed := by
  intro host event present
  rw [silent] at present
  cases present

theorem emits_pure (value : Value) : (pure value : Action Value).Emits allowed :=
  emits_of_trace_eq_nil fun _ => rfl

theorem emits_get : (get : Action Host).Emits allowed :=
  emits_of_trace_eq_nil fun _ => rfl

theorem emits_modify (change : Host -> Host) : (modify change : Action Unit).Emits allowed :=
  emits_of_trace_eq_nil fun _ => rfl

theorem emits_log
    (records : ∀ level message, allowed (.record level message))
    (level : Level)
    (message : String) : (log level message).Emits allowed := by
  intro host event present
  cases List.mem_singleton.mp present
  exact records level message

/-- A change of an artifact without events has none. -/
theorem emits_changeArtifact (id : ArtifactId) (change : Artifact -> Artifact) :
    (changeArtifact id fun artifact => pure (change artifact)).Emits allowed := by
  refine emits_get.bind fun host => ?_
  cases host.artifact? id with
  | none => exact emits_pure ()
  | some artifact =>
      refine Emits.bind (emits_of_trace_eq_nil fun _ => rfl) fun changed => ?_
      exact emits_modify _

end Emits

end Action
end ShaderGraph
