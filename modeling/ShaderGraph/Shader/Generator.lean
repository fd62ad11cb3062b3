import ShaderGraph.Dependency
import ShaderGraph.Overload.Adapter
import ShaderGraph.Shader.Declarations
import ShaderGraph.Shader.Template

/-!
# Shaders of one call

A shader of one call declares what the arguments need, calls the function and
shows the result. A call whose arguments have other types than the chosen
overload goes through an adapter.
-/

namespace ShaderGraph

/-- What a generator knows: the functions, the tables for reading arguments, and
the rule that chooses overloads. -/
structure Generator where
  vocabulary : Vocabulary := {}
  strategy : Strategy := Strategy.byComponents

/-- A generated shader. -/
structure Shader where
  vertex : String := Shader.vertexStage
  fragment : String
  returnType : String
  overload : Option Overload := none
  adapter : String := ""
  arguments : List Argument := []

namespace Generator

/-- The tables that arguments are read with. -/
def interpreter (generator : Generator) : Interpreter :=
  { builtins := generator.vocabulary.builtins }

/-- The return type of a function without overloads. -/
def defaultReturnType : String := "vec3"

/-- The stem of the temporaries of a shader of one call. -/
def defaultStem : String := "_expr"

/-- The built-in functions with a single number as their result. -/
def scalarFunctions : List String := ["length", "distance", "dot", "any", "all"]

/-- The overload that a call goes to, if the function has overloads. -/
def chooseOverload
    (generator : Generator)
    (name : String)
    (arguments : List Argument) : Except Failure (Option Overload) :=
  match generator.vocabulary.catalogue.find? name with
  | none => .ok none
  | some function =>
      if function.overloads.isEmpty then .ok none
      else generator.strategy function.overloads arguments

/-- The return type of a call by the overload that it goes to. -/
def returnType : Option Overload -> String
  | none => defaultReturnType
  | some overload => overload.returnType

/-- The first type with the most components. -/
def widest : String -> List String -> String
  | type, [] => type
  | type, next :: rest =>
      widest (if componentCount type < componentCount next then next else type) rest

/-- The return type of a built-in function. Constructors return their type, and
all but a few functions return the widest type of their arguments. -/
def builtinReturnType
    (builtins : Builtins)
    (name : String)
    (arguments : List Argument) : String :=
  if builtins.isType name then name
  else if scalarFunctions.contains name then "float"
  else
    match arguments.map Argument.type with
    | [] => "float"
    | first :: rest => widest first rest

/-- The adapter of a call with its name, if the call needs one. -/
def adapter?
    (overload : Option Overload)
    (function name : String)
    (arguments : List Argument) : Option String :=
  match overload with
  | none => none
  | some overload =>
      if overload.needsAdapter arguments then some (overload.adapter function name arguments)
      else none

/-- The statement that calls a function and names its result. -/
def callStatement (type result function : String) (passed : List String) : String :=
  Shader.statement (s!"{type} {result} = {function}(" ++ ", ".intercalate passed ++ ")")

/-- Lines with an empty line behind them, if there are any. -/
def paragraph (lines : List String) : List String :=
  if lines.isEmpty then [] else lines ++ [""]

/-- The shader of a call for described arguments. -/
def assemble
    (generator : Generator)
    (code name : String)
    (arguments : List Argument) : Except Failure Shader := do
  let builtins := generator.vocabulary.builtins
  let overload <- generator.chooseOverload name arguments
  let type := returnType overload
  let adapter? := adapter? overload name (Overload.adapterName name) arguments
  let functions :=
    match adapter? with
    | none => code
    | some adapter =>
        code ++ "\n\n// Generated wrapper function to adapt arguments\n" ++ adapter
  let callee := if adapter?.isSome then Overload.adapterName name else name
  let declarations := Shader.declarations builtins (Shader.usedVariables builtins arguments)
  let temporaries := Shader.temporaries defaultStem 0 arguments
  let lines :=
    paragraph declarations ++ paragraph temporaries ++
      [callStatement type "result" callee (Shader.passedAll defaultStem 0 arguments),
        "    " ++ Shader.outputStatement type "result"]
  let uniforms := Shader.uniformBlock builtins (Shader.uniforms builtins [] arguments)
  return {
    fragment := Shader.fragmentStage uniforms functions lines
    returnType := type
    overload
    adapter := adapter?.getD ""
    arguments }

/-- Generate the shader of a call of a function with the given source. -/
def generate
    (generator : Generator)
    (code name : String)
    (texts : List String) : Attempt Shader := do
  let arguments <- generator.interpreter.describe [] texts
  generator.assemble code name arguments

end Generator
end ShaderGraph
