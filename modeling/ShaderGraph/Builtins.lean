import ShaderGraph.Text.Sorted

/-!
# Built-in names

The variables that every generated shader can use, and the functions and types
that need no plugin. Functions and types are known by name alone.
-/

namespace ShaderGraph

/-- A variable that is always available to a fragment shader. It may need a
uniform to be declared, a declaration of its own in `main`, or both. -/
structure Variable where
  name : String
  type : String
  components : Int
  needsUniform : Bool
  needsDeclaration : Bool
  declaration : String := ""
  deriving DecidableEq

/-- The built-in variables, functions and types. -/
structure Builtins where
  variableList : List Variable := [
    ⟨"st", "vec2", 2, true, true, "vec2 st = gl_FragCoord.xy / resolution"⟩,
    ⟨"time", "float", 1, true, false, ""⟩,
    ⟨"resolution", "vec2", 2, true, false, ""⟩,
    ⟨"gl_FragCoord", "vec4", 4, false, false, ""⟩]
  functions : List String := [
    "radians", "degrees", "sin", "cos", "tan", "asin", "acos", "atan",
    "pow", "exp", "log", "exp2", "log2", "sqrt", "inversesqrt",
    "abs", "sign", "floor", "trunc", "round", "roundEven", "ceil", "fract",
    "mod", "modf", "min", "max", "clamp", "mix", "step", "smoothstep",
    "length", "distance", "dot", "cross", "normalize", "faceforward",
    "reflect", "refract", "matrixCompMult",
    "lessThan", "lessThanEqual", "greaterThan", "greaterThanEqual",
    "equal", "notEqual", "any", "all", "not"]
  types : List String := [
    "bool", "bvec2", "bvec3", "bvec4", "int", "ivec2", "ivec3", "ivec4",
    "uint", "uvec2", "uvec3", "uvec4", "float", "vec2", "vec3", "vec4",
    "double", "dvec2", "dvec3", "dvec4", "mat2", "mat3", "mat4",
    "mat2x2", "mat2x3", "mat2x4", "mat3x2", "mat3x3", "mat3x4",
    "mat4x2", "mat4x3", "mat4x4", "dmat2", "dmat3", "dmat4",
    "dmat2x2", "dmat2x3", "dmat2x4", "dmat3x2", "dmat3x3", "dmat3x4",
    "dmat4x2", "dmat4x3", "dmat4x4"]

namespace Builtins

/-- The variable of a name. Of several the last one counts. -/
def lookup? (builtins : Builtins) (name : String) : Option Variable :=
  builtins.variableList.reverse.find? fun candidate => candidate.name == name

/-- Whether a name is that of a variable. -/
def isVariable (builtins : Builtins) (name : String) : Bool :=
  (builtins.lookup? name).isSome

/-- The names of the variables in ascending order. -/
def variableNames (builtins : Builtins) : List String :=
  Text.sortedNames (builtins.variableList.map Variable.name)

/-- Whether a name is that of a function. -/
def isFunction (builtins : Builtins) (name : String) : Bool :=
  builtins.functions.contains name

/-- Whether a name is that of a type. -/
def isType (builtins : Builtins) (name : String) : Bool :=
  builtins.types.contains name

/-- Whether a name can be called without a plugin: functions and the
constructors of types can. -/
def isCallable (builtins : Builtins) (name : String) : Bool :=
  builtins.isFunction name || builtins.isType name

end Builtins
end ShaderGraph
