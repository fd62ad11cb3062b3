import ShaderGraph.Argument.Reading
import ShaderGraph.Components

/-!
# Descriptions of arguments

Arguments are read one by one. Names of earlier results are no built-in
variables; their types come from a table of local types, which also types the
expressions around them.
-/

namespace ShaderGraph

/-- The types of local names. -/
abbrev LocalTypes := Table String

namespace Argument

/-- The type of the first vector among the local names that a text mentions
outside of calls. -/
def localVector? (locals : LocalTypes) (text : String) : Option String :=
  (names (Call.mask text)).findSome? fun name =>
    match locals.find? name with
    | none => none
    | some type => if componentCount type > 1 then some type else none

/-- Type an argument by the local names in it. A local name has its own type,
and an expression without a vector type has that of the first local vector. -/
def retype (locals : LocalTypes) (argument : Argument) : Argument :=
  let known? := if argument.isSimple then locals.find? argument.code else none
  match known? with
  | some type => { argument with type }
  | none =>
      if argument.isConstant || argument.type != "float" then argument
      else
        match localVector? locals argument.code with
        | some type => { argument with type }
        | none => argument

/-- Only the type changes. -/
theorem retype_eq (locals : LocalTypes) (argument : Argument) :
    argument.retype locals = { argument with type := (argument.retype locals).type } := by
  simp only [retype]
  repeat' split
  all_goals rfl

theorem isSimple_retype (locals : LocalTypes) (argument : Argument) :
    (argument.retype locals).isSimple = argument.isSimple := by
  rw [retype_eq]

theorem code_retype (locals : LocalTypes) (argument : Argument) :
    (argument.retype locals).code = argument.code := by
  rw [retype_eq]

theorem dependencies_retype (locals : LocalTypes) (argument : Argument) :
    (argument.retype locals).dependencies = argument.dependencies := by
  rw [retype_eq]

theorem isConstant_retype (locals : LocalTypes) (argument : Argument) :
    (argument.retype locals).isConstant = argument.isConstant := by
  rw [retype_eq]

/-- A local name gets the type that it has in the table. -/
theorem type_retype
    {locals : LocalTypes}
    {argument : Argument}
    {type : String}
    (simple : argument.isSimple = true)
    (known : locals.find? argument.code = some type) :
    (argument.retype locals).type = type := by
  simp [retype, simple, known]

end Argument

namespace Interpreter

/-- The descriptions of arguments among local names. -/
def describe
    (interpreter : Interpreter)
    (locals : LocalTypes)
    (texts : List String) : Attempt (List Argument) :=
  texts.mapM fun text => do
    let reading <- interpreter.report text
    return reading.argument.retype locals

end Interpreter
end ShaderGraph
