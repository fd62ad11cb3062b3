import ShaderGraph.Expression.Fault

/-!
# Primitive functions

The functions and operators of the evaluator act on double-precision numbers.
An operand is plain as long as it comes from literals, variables and constants
by signs and blending alone; only a division of plain operands refuses a zero
divisor, and every other division by zero is infinite or no number.
-/

namespace ShaderGraph

/-- A number together with whether it is plain. -/
structure Operand where
  value : Float
  plain : Bool

namespace Operand

/-- A number that no operator has touched. -/
def ofPlain (value : Float) : Operand := ⟨value, true⟩

/-- A number that an operator or a function has computed. -/
def computed (value : Float) : Operand := ⟨value, false⟩

/-- The operand with its sign turned. -/
def negated (operand : Operand) : Operand := ⟨-operand.value, operand.plain⟩

end Operand

namespace Primitive

/-- The operand that is larger; the second of two equal ones, and no number if
one of them is none. -/
def larger (left right : Float) : Float :=
  if left.isNaN || left > right then left else right

/-- The operand that is smaller; the second of two equal ones, and no number if
one of them is none. -/
def smaller (left right : Float) : Float :=
  if left.isNaN || left < right then left else right

/-- The nearest whole number, and the even one of two. -/
def roundEven (value : Float) : Float :=
  if value.abs >= 4503599627370496.0 || value.isNaN then value
  else
    let below := value.floor
    let rest := value - below
    let rounded :=
      if rest < 0.5 then below
      else if rest > 0.5 then below + 1.0
      else if (below / 2.0).floor * 2.0 == below then below
      else below + 1.0
    if rounded == 0.0 && Decimal.isNegative value then -0.0 else rounded

/-- One, minus one or zero after the sign of a number. -/
def signOf (value : Float) : Float :=
  if value.isNaN then value
  else if value > 0.0 then 1.0
  else if value < 0.0 then -1.0
  else 0.0

/-- The part of a number behind the point. -/
def fraction (value : Float) : Float :=
  value - value.floor

/-- A number cut off at two bounds, the upper one last. -/
def clamped (value least greatest : Float) : Float :=
  smaller (larger value least) greatest

/-- The quotient of two operands, if it is not refused. -/
def quotient (left right : Operand) : Except Obstacle Float :=
  if left.plain && right.plain && right.value == 0.0 then .error .divisionByZero
  else .ok (left.value / right.value)

/-- What is left of a number after taking away the whole multiples of another. -/
def remainder (left right : Operand) : Except Obstacle Operand := do
  let ratio ← quotient left right
  return .computed (left.value - right.value * ratio.floor)

/-- The blend of two numbers. -/
def blend (first second weight : Operand) : Operand :=
  ⟨first.value * (1.0 - weight.value) + second.value * weight.value,
    first.plain && second.plain && weight.plain⟩

/-- Zero below an edge and one from it on. -/
def threshold (edge value : Float) : Float :=
  if value < edge then 0.0 else 1.0

/-- The smooth transition from zero at one edge to one at another. -/
def transition (lower upper value : Operand) : Except Obstacle Operand := do
  let span : Operand := ⟨upper.value - lower.value, upper.plain && lower.plain⟩
  let distance : Operand := ⟨value.value - lower.value, value.plain && lower.plain⟩
  let ratio ← quotient distance span
  let position := clamped ratio 0.0 1.0
  return .computed (position * position * (3.0 - 2.0 * position))

/-- The functions of one number. -/
def unary? : String -> Option (Float -> Float)
  | "sin" => some Float.sin
  | "cos" => some Float.cos
  | "tan" => some Float.tan
  | "asin" => some Float.asin
  | "acos" => some Float.acos
  | "atan" => some Float.atan
  | "sinh" => some Float.sinh
  | "cosh" => some Float.cosh
  | "tanh" => some Float.tanh
  | "sqrt" => some Float.sqrt
  | "exp" => some Float.exp
  | "log" => some Float.log
  | "log2" => some Float.log2
  | "log10" => some Float.log10
  | "abs" => some Float.abs
  | "floor" => some Float.floor
  | "ceil" => some Float.ceil
  | "round" => some roundEven
  | "sign" => some signOf
  | "fract" => some fraction
  | _ => none

/-- The functions of two numbers. -/
def binary? : String -> Option (Float -> Float -> Float)
  | "pow" => some Float.pow
  | "min" => some smaller
  | "max" => some larger
  | "step" => some threshold
  | _ => none

/-- The names of all functions. -/
def names : List String := [
  "sin", "cos", "tan", "asin", "acos", "atan", "sinh", "cosh", "tanh", "sqrt", "exp", "log",
  "log2", "log10", "abs", "floor", "ceil", "round", "sign", "pow", "min", "max", "mod",
  "fract", "clamp", "mix", "step", "smoothstep"]

/-- The value of a function, or nothing if it does not take that many arguments. -/
def result? (name : String) (arguments : List Operand) : Option (Except Obstacle Operand) :=
  match unary? name, arguments with
  | some function, [value] => some (.ok (.computed (function value.value)))
  | some _, _ => none
  | none, _ =>
      match binary? name, arguments with
      | some function, [left, right] =>
          some (.ok (.computed (function left.value right.value)))
      | some _, _ => none
      | none, _ =>
          match name, arguments with
          | "mod", [left, right] => some (remainder left right)
          | "clamp", [value] => some (.ok (.computed value.value))
          | "clamp", [value, least, greatest] =>
              some (.ok (.computed (clamped value.value least.value greatest.value)))
          | "mix", [first, second, weight] => some (.ok (blend first second weight))
          | "smoothstep", [lower, upper, value] => some (transition lower upper value)
          | _, _ => none

/-- The value of an operator. -/
def operate (operator : Operator) (left right : Operand) : Except Obstacle Operand :=
  match operator with
  | .add => .ok (.computed (left.value + right.value))
  | .subtract => .ok (.computed (left.value - right.value))
  | .multiply => .ok (.computed (left.value * right.value))
  | .divide => .ok (.computed (left.value / right.value))
  | .modulo => remainder left right
  | .power => .ok (.computed (Float.pow left.value right.value))

end Primitive
end ShaderGraph
