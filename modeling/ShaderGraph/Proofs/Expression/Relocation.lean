import ShaderGraph.Proofs.Expression.Obstacle

/-!
# Expressions with other columns

The columns of an expression tell where its faults show and nothing else. An
expression with other columns has the same depth, mentions the same names, and has
the same value or the same obstacle, up to the place of a fault.
-/

namespace ShaderGraph
namespace Expression

variable (place : Nat -> Nat)

mutual

/-- Places that are changed twice are changed by both changes. -/
theorem relocate_relocate (other : Nat -> Nat) (expression : Expression) :
    (expression.relocate place).relocate other = expression.relocate (other ∘ place) := by
  cases expression with
  | number => rfl
  | name => rfl
  | signed column negative operand =>
      rw [relocate, relocate, relocate, relocate_relocate other operand]
      rfl
  | binary column operator left right =>
      rw [relocate, relocate, relocate, relocate_relocate other left,
        relocate_relocate other right]
      rfl
  | call column callee arguments named =>
      rw [relocate, relocate, relocate, relocate_relocate other callee,
        relocateAll_relocateAll other arguments]
      rfl
  | other column form parts =>
      rw [relocate, relocate, relocate, relocateAll_relocateAll other parts]
      rfl

theorem relocateAll_relocateAll (other : Nat -> Nat) (expressions : List Expression) :
    relocateAll other (relocateAll place expressions) =
      relocateAll (other ∘ place) expressions := by
  cases expressions with
  | nil => rfl
  | cons first rest =>
      rw [relocateAll, relocateAll, relocateAll, relocate_relocate other first,
        relocateAll_relocateAll other rest]

end

mutual

/-- Changing the places leaves the depth. -/
theorem depth_relocate (expression : Expression) :
    (expression.relocate place).depth = expression.depth := by
  cases expression with
  | number => rfl
  | name => rfl
  | signed column negative operand => rw [relocate, depth, depth, depth_relocate operand]
  | binary column operator left right =>
      rw [relocate, depth, depth, depth_relocate left, depth_relocate right]
  | call column callee arguments named =>
      rw [relocate, depth, depth, depth_relocate callee, depthAmong_relocateAll arguments]
  | other column form parts => rw [relocate, depth, depth, depthAmong_relocateAll parts]

theorem depthAmong_relocateAll (expressions : List Expression) :
    depthAmong (relocateAll place expressions) = depthAmong expressions := by
  cases expressions with
  | nil => rfl
  | cons first rest =>
      rw [relocateAll, depthAmong, depthAmong, depth_relocate first, depthAmong_relocateAll rest]

end

mutual

/-- Changing the places leaves the names that are mentioned. -/
theorem mentions_relocate (expression : Expression) :
    (expression.relocate place).mentions = expression.mentions := by
  cases expression with
  | number => rfl
  | name => rfl
  | signed column negative operand => rw [relocate, mentions, mentions, mentions_relocate operand]
  | binary column operator left right =>
      rw [relocate, mentions, mentions, mentions_relocate left, mentions_relocate right]
  | call column callee arguments named =>
      rw [relocate, mentions, mentions, mentionsAmong_relocateAll arguments]
  | other column form parts => rw [relocate, mentions, mentions, mentionsAmong_relocateAll parts]

theorem mentionsAmong_relocateAll (expressions : List Expression) :
    mentionsAmong (relocateAll place expressions) = mentionsAmong expressions := by
  cases expressions with
  | nil => rfl
  | cons first rest =>
      rw [relocateAll, mentionsAmong, mentionsAmong, mentions_relocate first,
        mentionsAmong_relocateAll rest]

end

mutual

/-- Changing the places leaves the depth of mentions. -/
theorem mentionDepth_relocate (expression : Expression) :
    (expression.relocate place).mentionDepth = expression.mentionDepth := by
  cases expression with
  | number => rfl
  | name => rfl
  | signed column negative operand =>
      rw [relocate, mentionDepth, mentionDepth, mentionDepth_relocate operand]
  | binary column operator left right =>
      rw [relocate, mentionDepth, mentionDepth, mentionDepth_relocate left,
        mentionDepth_relocate right]
  | call column callee arguments named =>
      rw [relocate, mentionDepth, mentionDepth, mentionDepthAmong_relocateAll arguments]
  | other column form parts =>
      rw [relocate, mentionDepth, mentionDepth, mentionDepthAmong_relocateAll parts]

theorem mentionDepthAmong_relocateAll (expressions : List Expression) :
    mentionDepthAmong (relocateAll place expressions) = mentionDepthAmong expressions := by
  cases expressions with
  | nil => rfl
  | cons first rest =>
      rw [relocateAll, mentionDepthAmong, mentionDepthAmong, mentionDepth_relocate first,
        mentionDepthAmong_relocateAll rest]

end

end Expression

/-! ## Values -/

/-- A fault that shows elsewhere. -/
def Fault.relocate (place : Nat -> Nat) : Fault -> Fault
  | .empty => .empty
  | .syntaxError position token => .syntaxError (place position) token
  | .unreadable => .unreadable
  | .tooDeep => .tooDeep
  | .unknownVariable position name => .unknownVariable (place position) name
  | .unknownFunction position name => .unknownFunction (place position) name
  | .badArguments position name => .badArguments (place position) name
  | .unsupported position form => .unsupported (place position) form

namespace Obstacle

variable (place : Nat -> Nat)

/-- An obstacle whose fault shows elsewhere. -/
def relocate : Obstacle -> Obstacle
  | .fault cause => .fault (cause.relocate place)
  | .divisionByZero => .divisionByZero
  | .overflow => .overflow

/-- An outcome whose fault shows elsewhere. -/
abbrev relocated (outcome : Except Obstacle Value) : Except Obstacle Value :=
  outcome.mapError (relocate place)

/-- Obstacles are relocated in both of two steps. -/
theorem relocated_bind
    (first : Except Obstacle Value)
    (next : Value -> Except Obstacle Result) :
    relocated place (first >>= next) =
      relocated place first >>= fun value => relocated place (next value) := by
  cases first <;> rfl

theorem relocated_map
    (change : Value -> Result)
    (outcome : Except Obstacle Value) :
    relocated place (outcome.map change) = (relocated place outcome).map change := by
  cases outcome <;> rfl

/-- Without faults nothing shows elsewhere. -/
theorem relocated_eq_self
    {outcome : Except Obstacle Value}
    (noFault : ∀ fault, outcome ≠ .error (.fault fault)) : relocated place outcome = outcome := by
  rcases outcome with (cause | _ | _) | value
  · exact absurd rfl (noFault cause)
  · rfl
  · rfl
  · rfl

/-- An obstacle that is no fault has no place. -/
theorem relocated_eq_error_iff
    {outcome : Except Obstacle Value}
    {obstacle : Obstacle}
    (noFault : ∀ fault, obstacle ≠ .fault fault) :
    relocated place outcome = .error obstacle ↔ outcome = .error obstacle := by
  rcases outcome with (cause | _ | _) | value
  · refine iff_of_false (fun same => ?_) (fun same => ?_)
    · exact noFault (cause.relocate place) (Except.error.inj same).symm
    · exact noFault cause (Except.error.inj same).symm
  · rfl
  · rfl
  · rfl

end Obstacle

namespace Evaluator

open Obstacle

variable {evaluator : Evaluator} {given : Table Quantity} (place : Nat -> Nat)

theorem relocated_quantityValue (quantity : Quantity) :
    relocated place (quantityValue quantity) = quantityValue quantity := by
  cases quantity with
  | real => rfl
  | integer value =>
      rw [quantityValue]
      split <;> rfl

/-- The value of a name does not depend on its place, but its fault does. -/
theorem relocated_nameValue (column : Nat) (name : String) :
    evaluator.nameValue given (place column) name =
      relocated place (evaluator.nameValue given column name) := by
  rw [nameValue, nameValue]
  split
  case h_1 quantity _ => rw [relocated_map, relocated_quantityValue]
  case h_2 => split <;> rfl

theorem relocated_numeralValue (numeral : Numeral) :
    relocated place (numeralValue numeral) = numeralValue numeral := by
  cases numeral with
  | decimal => rfl
  | integer value => exact relocated_quantityValue place (.integer value)

theorem relocated_operate (operator : Operator) (left right : Operand) :
    relocated place (Primitive.operate operator left right) =
      Primitive.operate operator left right := by
  refine relocated_eq_self place fun fault stopped => ?_
  cases (Primitive.operate_eq_error_iff.mp stopped).2.1

/-- A call has its value with other columns if its arguments have theirs. -/
theorem call_relocate
    {steps : Nat}
    {arguments : List Expression}
    (argumentsRelocated :
      evaluator.values given (steps - 1) (Expression.relocateAll place arguments) =
        relocated place (evaluator.values given (steps - 1) arguments))
    (column : Nat)
    (callee : Expression)
    (named : Bool) :
    evaluator.value given (steps + 1)
        ((Expression.call column callee arguments named).relocate place) =
      relocated place
        (evaluator.value given (steps + 1) (.call column callee arguments named)) := by
  rw [Expression.relocate]
  cases callee with
  | name start name =>
      cases named with
      | true => rfl
      | false =>
          rw [Expression.relocate, value, value]
          dsimp only
          split
          · rfl
          · rw [argumentsRelocated, relocated_bind]
            refine congrArg _ (funext fun operands => ?_)
            split
            case h_1 result returned =>
              refine (relocated_eq_self place fun fault stopped => ?_).symm
              rw [stopped] at returned
              cases (Primitive.of_result?_eq_error returned).1
            case h_2 => rfl
  | _ => rfl

mutual

/-- An expression has its value with other columns, and its faults show there. -/
theorem value_relocate (steps : Nat) (expression : Expression) :
    evaluator.value given steps (expression.relocate place) =
      relocated place (evaluator.value given steps expression) := by
  cases steps with
  | zero =>
      rw [value, value]
      rfl
  | succ steps =>
      cases expression with
      | number column numeral =>
          rw [Expression.relocate, value, value, relocated_map, relocated_numeralValue]
      | name column name => exact relocated_nameValue place column name
      | signed column negative operand =>
          rw [Expression.relocate, value, value, value_relocate steps operand, relocated_bind]
          rfl
      | binary column operator left right =>
          rw [Expression.relocate, value, value, value_relocate steps left,
            value_relocate steps right, relocated_bind]
          refine congrArg _ (funext fun first => ?_)
          rw [relocated_bind]
          refine congrArg _ (funext fun second => ?_)
          exact (relocated_operate place operator first second).symm
      | call column callee arguments named =>
          exact call_relocate place (values_relocateAll (steps - 1) arguments) column callee named
      | other column form parts => rfl

/-- The values of arguments do not depend on their places, but their faults do. -/
theorem values_relocateAll (steps : Nat) (expressions : List Expression) :
    evaluator.values given steps (Expression.relocateAll place expressions) =
      relocated place (evaluator.values given steps expressions) := by
  cases expressions with
  | nil => rfl
  | cons first rest =>
      rw [Expression.relocateAll, values, values, value_relocate steps first,
        values_relocateAll steps rest, relocated_bind]
      refine congrArg _ (funext fun operand => ?_)
      rw [relocated_bind]
      rfl

end

end Evaluator
end ShaderGraph
