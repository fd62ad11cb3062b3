import ShaderGraph.Decimal.Notation

/-!
# Expressions

Arguments of shader functions may be arithmetic over numbers and names. The
language they are read in is larger than the arithmetic that can be evaluated,
so a tree has constructors for what has a value and one constructor for every
other form, which keeps its parts: the names in them still count as read.
Every node knows the byte column at which it starts in its line.
-/

namespace ShaderGraph

/-- A number as it is written. -/
inductive Numeral
  | integer (value : Nat)
  | decimal (value : Decimal.Scaled)
  deriving DecidableEq

/-- The operators that have a value. Two spellings denote the power. -/
inductive Operator
  | add
  | subtract
  | multiply
  | divide
  | modulo
  | power
  deriving DecidableEq

/-- The forms of the language that have no value. -/
inductive Form
  | constant
  | member
  | subscript
  | slice
  | starred
  | call
  | binaryOperation
  | unaryOperation
  | comparison
  | booleanOperation
  | conditional
  | lambda
  | assignment
  | tuple
  | list
  | set
  | dictionary
  | listComprehension
  | setComprehension
  | dictionaryComprehension
  | generator
  | await
  | yield
  | yieldFrom
  | formattedText
  deriving DecidableEq

/-- The name under which a form is reported. -/
def Form.label : Form -> String
  | .constant => "Constant"
  | .member => "Attribute"
  | .subscript => "Subscript"
  | .slice => "Slice"
  | .starred => "Starred"
  | .call => "Call"
  | .binaryOperation => "BinOp"
  | .unaryOperation => "UnaryOp"
  | .comparison => "Compare"
  | .booleanOperation => "BoolOp"
  | .conditional => "IfExp"
  | .lambda => "Lambda"
  | .assignment => "NamedExpr"
  | .tuple => "Tuple"
  | .list => "List"
  | .set => "Set"
  | .dictionary => "Dict"
  | .listComprehension => "ListComp"
  | .setComprehension => "SetComp"
  | .dictionaryComprehension => "DictComp"
  | .generator => "GeneratorExp"
  | .await => "Await"
  | .yield => "Yield"
  | .yieldFrom => "YieldFrom"
  | .formattedText => "JoinedStr"

/-- An expression. A call tells its positional arguments and whether it also
has named ones. -/
inductive Expression
  | number
      (column : Nat)
      (value : Numeral)
  | name
      (column : Nat)
      (identifier : String)
  | signed
      (column : Nat)
      (negative : Bool)
      (operand : Expression)
  | binary
      (column : Nat)
      (operator : Operator)
      (left right : Expression)
  | call
      (column : Nat)
      (callee : Expression)
      (arguments : List Expression)
      (named : Bool)
  | other
      (column : Nat)
      (form : Form)
      (parts : List Expression)

namespace Expression

mutual

/-- The largest number of nodes on a path from the root to a leaf. -/
def depth : Expression -> Nat
  | .number _ _ => 1
  | .name _ _ => 1
  | .signed _ _ operand => operand.depth + 1
  | .binary _ _ left right => max left.depth right.depth + 1
  | .call _ callee arguments _ => max callee.depth (depthAmong arguments) + 1
  | .other _ _ parts => depthAmong parts + 1

/-- The largest depth among the expressions of a list. -/
def depthAmong : List Expression -> Nat
  | [] => 0
  | first :: rest => max first.depth (depthAmong rest)

end

mutual

/-- The names an expression mentions, in the order of the text. What is called
is no name, and only the positional arguments of a call count. -/
def mentions : Expression -> List String
  | .number _ _ => []
  | .name _ identifier => [identifier]
  | .signed _ _ operand => operand.mentions
  | .binary _ _ left right => left.mentions ++ right.mentions
  | .call _ _ arguments _ => mentionsAmong arguments
  | .other _ _ parts => mentionsAmong parts

/-- The names that the expressions of a list mention. -/
def mentionsAmong : List Expression -> List String
  | [] => []
  | first :: rest => first.mentions ++ mentionsAmong rest

end

mutual

/-- The depth of the part of an expression in which names are looked for. -/
def mentionDepth : Expression -> Nat
  | .number _ _ => 1
  | .name _ _ => 1
  | .signed _ _ operand => operand.mentionDepth + 1
  | .binary _ _ left right => max left.mentionDepth right.mentionDepth + 1
  | .call _ _ arguments _ => mentionDepthAmong arguments + 1
  | .other _ _ parts => mentionDepthAmong parts + 1

/-- The largest such depth among the expressions of a list. -/
def mentionDepthAmong : List Expression -> Nat
  | [] => 0
  | first :: rest => max first.mentionDepth (mentionDepthAmong rest)

end

mutual

/-- The expression with other columns. -/
def relocate (place : Nat -> Nat) : Expression -> Expression
  | .number column value => .number (place column) value
  | .name column identifier => .name (place column) identifier
  | .signed column negative operand => .signed (place column) negative (operand.relocate place)
  | .binary column operator left right =>
      .binary (place column) operator (left.relocate place) (right.relocate place)
  | .call column callee arguments named =>
      .call (place column) (callee.relocate place) (relocateAll place arguments) named
  | .other column form parts => .other (place column) form (relocateAll place parts)

/-- The expressions of a list with other columns. -/
def relocateAll (place : Nat -> Nat) : List Expression -> List Expression
  | [] => []
  | first :: rest => first.relocate place :: relocateAll place rest

end

/-- The column at which an expression starts. -/
def column : Expression -> Nat
  | .number column _ => column
  | .name column _ => column
  | .signed column _ _ => column
  | .binary column _ _ _ => column
  | .call column _ _ _ => column
  | .other column _ _ => column

end Expression
end ShaderGraph
