import ShaderGraph.Argument.Description

/-!
# Declarations of a shader

The names that arguments depend on decide which uniforms a shader declares and
which variables it computes. A variable that is computed from the resolution
asks for the uniform of the resolution. Expressions that are neither constant
nor simple are computed into temporaries before the call.
-/

namespace ShaderGraph
namespace Shader

/-- The bases of the names that arguments depend on. -/
def mentionedBases (arguments : List Argument) : List String :=
  arguments.flatMap fun argument => argument.dependencies.map Swizzle.base

/-- The uniform that a name asks for. -/
def uniformOf? (builtins : Builtins) (base : String) : Option String :=
  match builtins.lookup? base with
  | none => some base
  | some known =>
      if !known.needsUniform then none
      else if base == "st" then some "resolution"
      else some base

/-- The uniforms that arguments ask for, apart from the names to leave out. -/
def uniforms
    (builtins : Builtins)
    (excluded : List String)
    (arguments : List Argument) : List String :=
  ((mentionedBases arguments).filter fun base => !excluded.contains base).filterMap
    (uniformOf? builtins)

/-- The declaration of a uniform. Names that are not built in are numbers. -/
def uniformLine (builtins : Builtins) (name : String) : String :=
  let type := ((builtins.lookup? name).map Variable.type).getD "float"
  s!"uniform {type} {name};"

/-- The declarations of uniforms in ascending order of their names. -/
def uniformBlock (builtins : Builtins) (names : List String) : String :=
  "\n".intercalate ((Text.sortedNames names).map (uniformLine builtins))

/-- The built-in variables that arguments depend on. -/
def usedVariables (builtins : Builtins) (arguments : List Argument) : List String :=
  (mentionedBases arguments).filter builtins.isVariable

/-- A statement of the main function. -/
def statement (code : String) : String := s!"    {code};"

/-- The declaration of a variable, if it needs one. -/
def declaration? (builtins : Builtins) (name : String) : Option String :=
  match builtins.lookup? name with
  | none => none
  | some known => if known.needsDeclaration then some (statement known.declaration) else none

/-- The declarations of variables in ascending order of their names. -/
def declarations (builtins : Builtins) (names : List String) : List String :=
  (Text.sortedNames names).filterMap (declaration? builtins)

/-- The name of a temporary. -/
def temporary (stem : String) (number : Nat) : String := s!"{stem}{number}"

/-- Whether an argument is computed into a temporary. -/
def needsTemporary (argument : Argument) : Bool :=
  !argument.isSimple && !argument.isConstant

/-- The temporaries of arguments, the first of which has the given number. -/
def temporaries (stem : String) : Nat -> List Argument -> List String
  | _, [] => []
  | number, argument :: rest =>
      if needsTemporary argument then
        statement s!"{argument.type} {temporary stem number} = {argument.code}" ::
          temporaries stem (number + 1) rest
      else temporaries stem (number + 1) rest

/-- The text that an argument is passed as. -/
def passed (stem : String) (number : Nat) (argument : Argument) : String :=
  if argument.isConstant then Decimal.write argument.value
  else if argument.isSimple then argument.code
  else temporary stem number

/-- The texts that arguments are passed as, the first of which has the given
number. -/
def passedAll (stem : String) : Nat -> List Argument -> List String
  | _, [] => []
  | number, argument :: rest =>
      passed stem number argument :: passedAll stem (number + 1) rest

end Shader
end ShaderGraph
