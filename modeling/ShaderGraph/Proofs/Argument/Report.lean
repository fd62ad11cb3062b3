import ShaderGraph.Argument.Reading
import ShaderGraph.Proofs.Expression.Obstacle
import ShaderGraph.Proofs.Trace.Attempt

/-!
# Reports on arguments

A text has a reading. If its expression has a fault, the reading is the text as it
is, and the fault is recorded. Only a text without names can be left without a
reading: its constant value is computed at once, and a part of it may stop that.
-/

namespace ShaderGraph
namespace Interpreter

variable {interpreter : Interpreter}

/-- The reading of a text whose expression has a fault. -/
def fallback (stripped : String) (fault : Fault) : Reading :=
  { argument := { text := stripped, code := stripped }, fault := some fault }

/-- The record of a fault. -/
def faultRecord (stripped : String) (fault : Fault) : Event :=
  .record .error (s!"Parse error in '{stripped}': " ++ fault.message)

/-- Only an expression without names is evaluated, so only there is an obstacle. -/
theorem compound_eq_error
    {text : String}
    {obstacle : Obstacle}
    (stopped : interpreter.compound text = .error obstacle) :
    interpreter.dependencies text = [] ∧
      interpreter.evaluator.evaluate [] text = .error obstacle := by
  rw [compound] at stopped
  dsimp only at stopped
  split at stopped
  case isTrue none =>
    refine ⟨List.isEmpty_iff.mp none, ?_⟩
    rcases Evaluator.bind_eq_error_iff.mp stopped with stopped | ⟨_, _, impossible⟩
    · exact stopped
    · cases impossible
  case isFalse => cases stopped

/-- An expression is kept as it is, with the names that it depends on. It is constant if
it depends on none, and has its value then. -/
theorem compound_keeps
    {text : String}
    {argument : Argument}
    (compounded : interpreter.compound text = .ok argument) :
    argument.code = text ∧ argument.dependencies = interpreter.dependencies text ∧
      (argument.isConstant = true -> interpreter.dependencies text = [] ∧
        interpreter.evaluator.evaluate [] text = .ok argument.value) := by
  rw [compound] at compounded
  dsimp only at compounded
  split at compounded
  case isTrue none =>
    cases evaluation : interpreter.evaluator.evaluate [] text with
    | error obstacle =>
        rw [evaluation] at compounded
        cases compounded
    | ok value =>
        rw [evaluation] at compounded
        cases compounded
        exact ⟨rfl, rfl, fun _ => ⟨List.isEmpty_iff.mp none, rfl⟩⟩
  case isFalse =>
    cases compounded
    exact ⟨rfl, rfl, by rintro ⟨⟩⟩

/-- What becomes of a text: a reading of a variable or of an expression, the text as
it is with a record of its fault, or nothing, because of an obstacle. -/
theorem report_cases (interpreter : Interpreter) (text : String) :
    (Swizzle.isSimple (Text.trimmed text) = true ∧
        Attempt.outcome (interpreter.report text) =
          .ok { argument := simple interpreter.builtins (Text.trimmed text) } ∧
        (interpreter.report text).run.trace = []) ∨
      (Swizzle.isSimple (Text.trimmed text) = false ∧
        ((∃ argument, interpreter.compound (Text.trimmed text) = .ok argument ∧
            Attempt.outcome (interpreter.report text) = .ok { argument } ∧
            (interpreter.report text).run.trace = []) ∨
          (∃ fault, interpreter.compound (Text.trimmed text) = .error (.fault fault) ∧
            Attempt.outcome (interpreter.report text) =
              .ok (fallback (Text.trimmed text) fault) ∧
            (interpreter.report text).run.trace = [faultRecord (Text.trimmed text) fault]) ∨
          ∃ obstacle, interpreter.compound (Text.trimmed text) = .error obstacle ∧
            (∀ fault, obstacle ≠ .fault fault) ∧
            Attempt.outcome (interpreter.report text) = .error (.ofObstacle obstacle))) := by
  cases isSimple : Swizzle.isSimple (Text.trimmed text) with
  | true =>
      have reading : interpreter.read text =
          .ok { argument := simple interpreter.builtins (Text.trimmed text) } := by
        simp [read, isSimple]
      exact .inl ⟨rfl, by unfold report; rw [reading]; rfl, by unfold report; rw [reading]; rfl⟩
  | false =>
      refine .inr ⟨rfl, ?_⟩
      cases found : interpreter.compound (Text.trimmed text) with
      | ok argument =>
          have reading : interpreter.read text = .ok { argument } := by
            simp [read, isSimple, found]
          exact .inl ⟨argument, rfl, by unfold report; rw [reading]; rfl,
            by unfold report; rw [reading]; rfl⟩
      | error obstacle =>
          cases obstacle with
          | fault fault =>
              have reading : interpreter.read text =
                  .ok (fallback (Text.trimmed text) fault) := by
                simp [read, isSimple, found, fallback]
              exact .inr (.inl ⟨fault, rfl, by unfold report; rw [reading]; rfl,
                by unfold report; rw [reading]; rfl⟩)
          | divisionByZero =>
              have reading : interpreter.read text = .error .divisionByZero := by
                simp [read, isSimple, found]
              exact .inr (.inr ⟨_, rfl, by simp, by unfold report; rw [reading]; rfl⟩)
          | overflow =>
              have reading : interpreter.read text = .error .overflow := by
                simp [read, isSimple, found]
              exact .inr (.inr ⟨_, rfl, by simp, by unfold report; rw [reading]; rfl⟩)

/-- A reading keeps the text as it is, blanks around it aside. If it is constant, it
depends on nothing and has the value of the text. -/
theorem report_keeps
    {text : String}
    {reading : Reading}
    (read : Attempt.outcome (interpreter.report text) = .ok reading) :
    reading.argument.code = Text.trimmed text ∧
      (reading.argument.isConstant = true -> reading.argument.dependencies = [] ∧
        interpreter.evaluator.evaluate [] (Text.trimmed text) = .ok reading.argument.value) := by
  rcases interpreter.report_cases text with ⟨_, simple, _⟩ | ⟨_, ⟨argument, compounded, kept, _⟩ |
    ⟨fault, _, faulty, _⟩ | ⟨obstacle, _, _, stopped⟩⟩
  · cases simple.symm.trans read
    exact ⟨rfl, by rintro ⟨⟩⟩
  · cases kept.symm.trans read
    obtain ⟨code, dependencies, constant⟩ := compound_keeps compounded
    exact ⟨code, fun isConstant => ⟨dependencies.trans (constant isConstant).1,
      (constant isConstant).2⟩⟩
  · cases faulty.symm.trans read
    exact ⟨rfl, by rintro ⟨⟩⟩
  · cases stopped.symm.trans read

/-- Every text has a reading, and a fault leaves the text as it is and a record,
unless the text is an expression without names of which a part is a whole number
beyond the range or a refused division. Then no reading is returned. -/
theorem report_returns_unless_stopped (interpreter : Interpreter) (text : String) :
    (∃ argument, Attempt.outcome (interpreter.report text) = .ok { argument } ∧
        (interpreter.report text).run.trace = []) ∨
      (∃ fault,
        Attempt.outcome (interpreter.report text) = .ok (fallback (Text.trimmed text) fault) ∧
          (interpreter.report text).run.trace = [faultRecord (Text.trimmed text) fault]) ∨
      (interpreter.dependencies (Text.trimmed text) = [] ∧
        ∃ expression, Evaluator.read (Text.trimmed text) = .ok expression ∧
          ((Attempt.outcome (interpreter.report text) = .error .overflow ∧
              ∃ part ∈ expression.parts, Evaluator.IsBeyond part) ∨
            (Attempt.outcome (interpreter.report text) = .error .divisionByZero ∧
              ∃ part ∈ expression.parts, interpreter.evaluator.Divides part))) := by
  rcases report_cases interpreter text with
    ⟨_, outcome, trace⟩ | ⟨_, ⟨argument, _, outcome, trace⟩ | ⟨fault, _, outcome, trace⟩ |
      ⟨obstacle, stopped, noFault, outcome⟩⟩
  · exact .inl ⟨_, outcome, trace⟩
  · exact .inl ⟨argument, outcome, trace⟩
  · exact .inr (.inl ⟨fault, outcome, trace⟩)
  · obtain ⟨none, evaluation⟩ := compound_eq_error stopped
    refine .inr (.inr ⟨none, ?_⟩)
    rcases Evaluator.evaluate_stops evaluation with ⟨fault, same⟩ | ⟨expression, found, stops⟩
    · exact absurd same (noFault fault)
    refine ⟨expression, found, ?_⟩
    cases stops with
    | fault fault => exact absurd rfl (noFault fault)
    | overflow present beyond => exact .inl ⟨outcome, _, present, beyond⟩
    | divisionByZero present divides => exact .inr ⟨outcome, _, present, divides⟩

/-- A remainder of constants by zero has no reading, not even one with a fault. -/
theorem remainder_by_zero_without_reading :
    Attempt.outcome (report {} "1 % 0") = .error .divisionByZero := by
  have evaluated :
      (match Attempt.outcome (report {} "1 % 0") with
        | .ok _ => none
        | .error failure => some failure) = some .divisionByZero := by
    decide +kernel
  cases ended : Attempt.outcome (report {} "1 % 0") with
  | ok reading =>
      rw [ended] at evaluated
      cases evaluated
  | error failure =>
      rw [ended] at evaluated
      rw [Option.some.inj evaluated]

end Interpreter
end ShaderGraph
