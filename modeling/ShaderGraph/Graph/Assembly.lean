import ShaderGraph.Graph.Basic
import ShaderGraph.Plugin.Source
import ShaderGraph.Shader.Generator

/-!
# Shaders of graphs

The shader of a graph computes the result of every node of a chain into a
variable of its own, in the order of the chain. The sources of functions appear
once, however many nodes call them, and the last result is shown.
-/

namespace ShaderGraph

/-- A shader of a graph in the making: the types of the results so far, the
uniforms that were asked for, the variables that were mentioned, the sources and
adapters, the functions among them, the lines of the main function, and the last
type. -/
structure Assembly where
  locals : LocalTypes := []
  uniforms : List String := []
  mentioned : List String := []
  functions : List String := []
  emitted : List String := []
  body : List String := []
  returnType : String := "float"

namespace Assembly

/-- The stem of the temporaries of a node. -/
def stemOf (node : String) : String := s!"_{node}_expr"

/-- The name of the adapter for a node. -/
def adapterName (function node : String) : String := s!"{function}_{node}"

/-- Add the sources of functions that are not there yet. -/
def addSources
    (catalogue : Catalogue)
    (files : FileTree) : List String -> Assembly -> Attempt Assembly
  | [], assembly => pure assembly
  | name :: rest, assembly =>
      if assembly.emitted.contains name then addSources catalogue files rest assembly
      else do
        let source <- catalogue.loadSource files name
        if source.isEmpty then throw (.sourceUnavailable name)
        addSources catalogue files rest
          { assembly with
            functions := assembly.functions ++ [s!"// {name}\n{source}"]
            emitted := assembly.emitted ++ [name] }

/-- The return type of a call and the adapter that it needs. -/
def target
    (generator : Generator)
    (analysis : Analysis)
    (node : String)
    (arguments : List Argument) : Except Failure (String × Option String) := do
  let name := analysis.main
  if analysis.pluginFunctions.contains name then
    let overload <- generator.chooseOverload name arguments
    return (Generator.returnType overload,
      Generator.adapter? overload name (adapterName name node) arguments)
  else
    return (Generator.builtinReturnType generator.vocabulary.builtins name arguments, none)

/-- Add the statements of a call whose type and adapter are known. -/
def addCall
    (assembly : Assembly)
    (node function type : String)
    (adapter : Option String)
    (arguments : List Argument) : Assembly :=
  let stem := stemOf node
  let result := Reference.resultName node
  let callee := if adapter.isSome then adapterName function node else function
  let call := Generator.callStatement type result callee (Shader.passedAll stem 0 arguments)
  { assembly with
    locals := assembly.locals.set result type
    functions := assembly.functions ++ adapter.toList
    body := assembly.body ++ Shader.temporaries stem 0 arguments ++ [call]
    returnType := type }

/-- Add what the arguments of a call ask for. -/
def addMentions
    (assembly : Assembly)
    (builtins : Builtins)
    (arguments : List Argument) : Assembly :=
  { assembly with
    uniforms := assembly.uniforms ++ Shader.uniforms builtins assembly.locals.names arguments
    mentioned := assembly.mentioned ++ Shader.usedVariables builtins arguments }

/-- Add a node of a graph. -/
def addNode
    (generator : Generator)
    (files : FileTree)
    (graph : Graph)
    (assembly : Assembly)
    (node : String) : Attempt Assembly := do
  match graph.find? node with
  | none => throw (.missingKey node)
  | some found =>
      let texts := found.arguments.map Reference.substitute
      let arguments <- generator.interpreter.describe assembly.locals texts
      let started := assembly.addMentions generator.vocabulary.builtins arguments
      let analysis <- liftM (generator.vocabulary.analyze found.function texts)
      if let some name := analysis.unknown? then throw (.functionNotFound name)
      let sourced <-
        addSources generator.vocabulary.catalogue files analysis.pluginFunctions started
      let (type, adapter) <- liftM (target generator analysis node arguments)
      return sourced.addCall node found.function type adapter arguments

/-- The shader of an assembly whose last node is the given one. -/
def finish (assembly : Assembly) (builtins : Builtins) (last : String) : Shader :=
  let type := assembly.returnType
  let lines :=
    Generator.paragraph (Shader.declarations builtins assembly.mentioned) ++ assembly.body ++
      ["    " ++ Shader.outputStatement type (Reference.resultName last)]
  { fragment :=
      Shader.fragmentStage (Shader.uniformBlock builtins assembly.uniforms)
        ("\n\n".intercalate assembly.functions) lines
    returnType := type }

end Assembly

namespace Generator

/-- Generate the shader of a chain of nodes. -/
def unify
    (generator : Generator)
    (files : FileTree)
    (graph : Graph)
    (chain : List String) : Attempt Shader := do
  let assembly <- chain.foldlM (Assembly.addNode generator files graph) {}
  match chain.getLast? with
  | none => throw .emptySequence
  | some last => return assembly.finish generator.vocabulary.builtins last

end Generator
end ShaderGraph
