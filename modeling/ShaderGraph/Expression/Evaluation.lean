import ShaderGraph.Expression.Grammar
import ShaderGraph.Expression.Primitive
import ShaderGraph.Table
import ShaderGraph.Text.Sorted
import ShaderGraph.Text.Trim

/-!
# Evaluation of expressions

An evaluator knows functions and constants. It tells which names an expression
reads and what value the expression has once the names are given values. Both
refuse a tree that is too deep, by the same measure of nesting.
-/

namespace ShaderGraph

/-- A value that a name is given before an evaluation. -/
inductive Quantity
  | integer (value : Int)
  | real (value : Float)

/-- The functions and constants that an expression may use. -/
structure Evaluator where
  functions : List String := Primitive.names
  constants : Table Float := [("pi", 3.141592653589793), ("e", 2.718281828459045)]

namespace Evaluator

/-- An evaluation follows at most this many nested steps. -/
def stepLimit : Nat := 980

/-- A tree has at most this depth. -/
def treeLimit : Nat := 2980

/-- The character of a text that a place points at, as a text. -/
def characterAt (text : List Char) (position : Nat) : String :=
  String.ofList ((text.drop position).take 1)

/-- The expression that a text is. A text with a null character is none, whatever
the place of that character. -/
def read (text : String) : Except Fault Expression :=
  let stripped := Text.trim text.toList
  if stripped.isEmpty then .error .empty
  else if stripped.contains '\x00' then .error (.syntaxError 0 (characterAt stripped 0))
  else
    match Expression.parse? stripped with
    | .ok expression =>
        if expression.depth > treeLimit then .error .unreadable else .ok expression
    | .error place =>
        .error (.syntaxError place.character (characterAt stripped place.character))

/-- The names that an expression reads: those it mentions, without the constants
of the evaluator. -/
def namesOf (evaluator : Evaluator) (expression : Expression) : List String :=
  Text.sortedNames (expression.mentions.filter fun name => !evaluator.constants.has name)

/-- The names that the expression of a text reads. -/
def reads (evaluator : Evaluator) (text : String) : Except Fault (List String) := do
  let expression ← read text
  if expression.mentionDepth > stepLimit then throw .tooDeep
  else return evaluator.namesOf expression

/-- The number that a quantity is, unless it is beyond the range. -/
def quantityValue : Quantity -> Except Obstacle Float
  | .real value => .ok value
  | .integer value =>
      match Decimal.ofInteger? value with
      | some number => .ok number
      | none => .error .overflow

/-- The number that a numeral is, unless it is beyond the range of whole numbers. -/
def numeralValue : Numeral -> Except Obstacle Float
  | .integer value => quantityValue (.integer value)
  | .decimal value => .ok (Decimal.nearest value)

/-- The value of a name: a variable goes before a constant. -/
def nameValue
    (evaluator : Evaluator)
    (given : Table Quantity)
    (column : Nat)
    (name : String) : Except Obstacle Operand :=
  match given.find? name with
  | some quantity => (quantityValue quantity).map Operand.ofPlain
  | none =>
      match evaluator.constants.find? name with
      | some value => .ok (.ofPlain value)
      | none => .error (.fault (.unknownVariable column name))

mutual

/-- The value of an expression, computed in at most the given number of nested
steps. A call takes two steps. -/
def value
    (evaluator : Evaluator)
    (given : Table Quantity) :
    Nat -> Expression -> Except Obstacle Operand
  | 0, _ => .error (.fault .tooDeep)
  | _ + 1, .number _ numeral => (numeralValue numeral).map Operand.ofPlain
  | _ + 1, .name column name => nameValue evaluator given column name
  | steps + 1, .signed _ negative operand => do
      let inner ← value evaluator given steps operand
      return if negative then inner.negated else inner
  | steps + 1, .binary _ operator left right => do
      let first ← value evaluator given steps left
      let second ← value evaluator given steps right
      Primitive.operate operator first second
  | steps + 1, .call column callee arguments named => do
      match callee, named with
      | .name _ name, false =>
          if !(evaluator.functions.contains name && Primitive.names.contains name) then
            throw (.fault (.unknownFunction column name))
          let operands ← values evaluator given (steps - 1) arguments
          match Primitive.result? name operands with
          | some result => result
          | none => throw (.fault (.badArguments column name))
      | _, _ => throw (.fault (.unsupported column .call))
  | _ + 1, .other column form _ => .error (.fault (.unsupported column form))

/-- The values of the expressions of a list, from the first to the last. -/
def values
    (evaluator : Evaluator)
    (given : Table Quantity) :
    Nat -> List Expression -> Except Obstacle (List Operand)
  | _, [] => .ok []
  | steps, first :: rest => do
      let operand ← value evaluator given steps first
      let operands ← values evaluator given steps rest
      return operand :: operands

end

/-- The value of the expression of a text. -/
def evaluate
    (evaluator : Evaluator)
    (given : Table Quantity)
    (text : String) : Except Obstacle Float := do
  let expression ← (read text).mapError Obstacle.fault
  let operand ← evaluator.value given stepLimit expression
  return operand.value

end Evaluator
end ShaderGraph
