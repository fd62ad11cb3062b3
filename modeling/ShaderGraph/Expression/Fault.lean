import ShaderGraph.Expression.Basic

/-!
# What can be wrong with an expression

A fault of an expression names its cause, and where the text shows it. Division
by zero and numbers beyond the range are no faults of the text; they stop an
evaluation by causes of their own.
-/

namespace ShaderGraph

/-- A fault of the text of an expression. Positions count from its start. -/
inductive Fault
  | empty
  | syntaxError
      (position : Nat)
      (token : String)
  | unreadable
  | tooDeep
  | unknownVariable
      (position : Nat)
      (name : String)
  | unknownFunction
      (position : Nat)
      (name : String)
  | badArguments
      (position : Nat)
      (name : String)
  | unsupported
      (position : Nat)
      (form : Form)
  deriving DecidableEq

namespace Fault

/-- The report of a fault. -/
def message : Fault -> String
  | .empty => "Empty expression"
  | .syntaxError _ _ => "Syntax error"
  | .unreadable => "Expression cannot be parsed"
  | .tooDeep => "Expression is nested too deeply"
  | .unknownVariable _ name => s!"Unknown variable '{name}'"
  | .unknownFunction _ name => s!"Unknown function '{name}'"
  | .badArguments _ name => s!"Bad arguments to '{name}'"
  | .unsupported _ form => "Unsupported syntax: " ++ form.label

/-- Where a fault shows. -/
def position : Fault -> Nat
  | .empty => 0
  | .syntaxError position _ => position
  | .unreadable => 0
  | .tooDeep => 0
  | .unknownVariable position _ => position
  | .unknownFunction position _ => position
  | .badArguments position _ => position
  | .unsupported position _ => position

/-- The part of the text that a fault points at. -/
def token : Fault -> String
  | .syntaxError _ token => token
  | .unknownVariable _ name => name
  | .unknownFunction _ name => name
  | .badArguments _ name => name
  | _ => ""

end Fault

/-- Why an evaluation has no value. -/
inductive Obstacle
  | fault (fault : Fault)
  | divisionByZero
  | overflow
  deriving DecidableEq

end ShaderGraph
