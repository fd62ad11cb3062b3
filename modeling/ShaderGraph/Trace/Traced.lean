import ShaderGraph.Trace.Event

/-!
# Values with a trace

A traced value comes with the events that happened while it was computed, in
their order. Computing one value after another joins their traces.
-/

namespace ShaderGraph

/-- A value and the events of its computation. -/
structure Traced (Value : Type) where
  value : Value
  trace : List Event := []

namespace Traced

instance : Monad Traced where
  pure value := ⟨value, []⟩
  bind first next :=
    let second := next first.value
    ⟨second.value, first.trace ++ second.trace⟩

@[simp] theorem value_pure (value : Value) :
    (pure value : Traced Value).value = value := rfl

@[simp] theorem trace_pure (value : Value) :
    (pure value : Traced Value).trace = [] := rfl

@[simp] theorem value_bind
    (first : Traced Value)
    (next : Value -> Traced Result) :
    (first >>= next).value = (next first.value).value := rfl

@[simp] theorem trace_bind
    (first : Traced Value)
    (next : Value -> Traced Result) :
    (first >>= next).trace = first.trace ++ (next first.value).trace := rfl

@[simp] theorem value_map
    (change : Value -> Result)
    (computation : Traced Value) :
    (change <$> computation).value = change computation.value := rfl

@[simp] theorem trace_map
    (change : Value -> Result)
    (computation : Traced Value) :
    (change <$> computation).trace = computation.trace := by
  change computation.trace ++ [] = computation.trace
  rw [List.append_nil]

instance : LawfulMonad Traced :=
  LawfulMonad.mk' Traced
    (fun first => by
      cases first
      simp [Functor.map])
    (fun value next => by
      show (⟨_, _⟩ : Traced _) = _
      simp)
    (fun first next last => by
      simp [bind, List.append_assoc])

/-- One event. -/
def emit (event : Event) : Traced Unit := ⟨(), [event]⟩

/-- Several events. -/
def emitAll (events : List Event) : Traced Unit := ⟨(), events⟩

/-- A record of the log. -/
def log (level : Level) (message : String) : Traced Unit :=
  emit (.record level message)

end Traced
end ShaderGraph
