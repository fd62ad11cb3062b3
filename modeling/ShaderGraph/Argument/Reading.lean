import ShaderGraph.Argument.Names
import ShaderGraph.Call
import ShaderGraph.Expression.Evaluation
import ShaderGraph.Failure
import ShaderGraph.Swizzle

/-!
# Readings of arguments

The text of an argument is a simple variable or an expression. Its reading
tells the type, the names it depends on and, for an expression without names,
its value. A text that has a fault is kept as it is.
-/

namespace ShaderGraph

/-- What a code generator needs to know about an argument. -/
structure Argument where
  text : String
  code : String
  type : String := "float"
  dependencies : List String := []
  isSimple : Bool := false
  isConstant : Bool := false
  value : Float := 0.0

/-- The reading of an argument, with the fault of its text if it has one. -/
structure Reading where
  argument : Argument
  fault : Option Fault := none

/-- The tables that arguments are read with. -/
structure Interpreter where
  builtins : Builtins := {}
  evaluator : Evaluator := {}

namespace Interpreter

/-- The type that a mention of a name has for an expression around it. Only a
variable that is no scalar has one, and a selection of more than one component. -/
def operandType? (builtins : Builtins) (name : String) : Option String :=
  match builtins.lookup? (Swizzle.base name) with
  | none => none
  | some known =>
      if Swizzle.hasPoint name then
        let size := (Swizzle.selection name).length
        if size > 1 then some (selectionType size) else none
      else if known.type != "float" then some known.type
      else none

/-- The type of an expression: that of a vector operand outside of all calls,
or a number. -/
def inferType (builtins : Builtins) (text : String) : String :=
  ((Argument.names (Call.mask text)).findSome? (operandType? builtins)).getD "float"

/-- The names that a text depends on. A point may be a selection, which the
evaluator cannot read; such a text and one with a fault are searched for names. -/
def dependencies (interpreter : Interpreter) (text : String) : List String :=
  if Swizzle.hasPoint text then Argument.names text
  else
    match interpreter.evaluator.reads text with
    | .ok names => names
    | .error _ => Argument.names text

/-- The reading of a simple variable. -/
def simple (builtins : Builtins) (text : String) : Argument :=
  let type :=
    match builtins.lookup? (Swizzle.base text) with
    | none => "float"
    | some known =>
        if Swizzle.hasPoint text then selectionType (Swizzle.selection text).length
        else known.type
  { text, code := text, type, dependencies := [text], isSimple := true }

/-- The reading of an expression. -/
def compound (interpreter : Interpreter) (text : String) : Except Obstacle Argument := do
  let names := interpreter.dependencies text
  let argument : Argument :=
    { text, code := text, type := inferType interpreter.builtins text,
      dependencies := names }
  if names.isEmpty then
    let value ← interpreter.evaluator.evaluate [] text
    return { argument with isConstant := true, value }
  else return argument

/-- The reading of a text. A fault is part of the reading; only a division by
zero and a number beyond the range leave none. -/
def read (interpreter : Interpreter) (text : String) : Except Obstacle Reading :=
  let stripped := Text.trimmed text
  if Swizzle.isSimple stripped then .ok { argument := simple interpreter.builtins stripped }
  else
    match interpreter.compound stripped with
    | .ok argument => .ok { argument }
    | .error (.fault fault) =>
        .ok { argument := { text := stripped, code := stripped }, fault := some fault }
    | .error obstacle => .error obstacle

/-- The reading of a text, with a record of its fault. -/
def report (interpreter : Interpreter) (text : String) : Attempt Reading := do
  match interpreter.read text with
  | .error obstacle => throw (.ofObstacle obstacle)
  | .ok reading =>
      match reading.fault with
      | none => return reading
      | some fault =>
          let shown := reading.argument.text
          Traced.log .error (s!"Parse error in '{shown}': " ++ fault.message)
          return reading

end Interpreter
end ShaderGraph
