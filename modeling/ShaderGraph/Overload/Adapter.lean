import ShaderGraph.Overload.Choice

/-!
# Adapters

An adapter is a function with the types of the given arguments that calls an
overload with other parameters. The components of all arguments are dealt out to
the parameters in their order, and zeros fill up what is left.
-/

namespace ShaderGraph

/-- One component of an argument of an adapter: the number of the argument, the
number of the component, and how many components the argument has. -/
structure Component where
  argument : Nat
  index : Nat
  size : Nat
  deriving DecidableEq

namespace Component

/-- The components of an argument. -/
def ofArgument (number size : Nat) : List Component :=
  (List.range size).map fun index => ⟨number, index, size⟩

/-- The components of arguments of the given sizes, the first of which has the
given number. -/
def ofSizes : Nat -> List Nat -> List Component
  | _, [] => []
  | number, size :: rest => ofArgument number size ++ ofSizes (number + 1) rest

/-- Components of the same argument that follow each other. -/
def groups : List Component -> List (List Component)
  | [] => []
  | first :: rest =>
      match groups rest with
      | (second :: others) :: remaining =>
          if first.argument = second.argument then (first :: second :: others) :: remaining
          else [first] :: (second :: others) :: remaining
      | remaining => [first] :: remaining

/-- The name of an argument of an adapter. -/
def argumentName (number : Nat) : String := s!"arg{number}"

/-- The letter of a component. -/
def letter (component : Component) : Char :=
  componentLetters.getD component.index 'w'

/-- The text that selects the components of a group from their argument. -/
def select : List Component -> String
  | [] => ""
  | first :: rest =>
      let group := first :: rest
      if first.size = 1 || group.length = first.size then argumentName first.argument
      else argumentName first.argument ++ "." ++ String.ofList (group.map letter)

end Component

namespace Overload

/-- Components packed into one parameter, filled up with zeros. -/
def pack (type : String) (components : List Component) : String :=
  let need := componentCount type
  match (Component.groups components).map Component.select with
  | [] => if need = 1 then "0.0" else type ++ "(0.0)"
  | first :: rest =>
      if need = 1 || (rest.isEmpty && components.length = need) then first
      else
        let zeros := List.replicate (need - components.length) "0.0"
        type ++ "(" ++ ", ".intercalate (first :: rest ++ zeros) ++ ")"

/-- The packed parameters of the given types, in their order. -/
def packAll : List String -> List Component -> List String
  | [], _ => []
  | type :: rest, components =>
      let need := componentCount type
      pack type (components.take need) :: packAll rest (components.drop need)

/-- The arguments with which an adapter calls an overload. -/
def adaptedArguments (overload : Overload) (arguments : List Argument) : String :=
  let sizes := arguments.map fun argument => componentCount argument.type
  ", ".intercalate (packAll overload.parameters (Component.ofSizes 0 sizes))

/-- The parameters of an adapter, the first of which has the given number. -/
def adapterParameters : Nat -> List Argument -> List String
  | _, [] => []
  | number, argument :: rest =>
      (argument.type ++ " " ++ Component.argumentName number) ::
        adapterParameters (number + 1) rest

/-- Whether arguments have other types than the parameters of an overload. -/
def needsAdapter (overload : Overload) (arguments : List Argument) : Bool :=
  overload.parameters != arguments.map Argument.type

/-- The name of the adapter of a function. -/
def adapterName (function : String) : String := function ++ "_wrapper"

/-- The source of an adapter. -/
def adapter
    (overload : Overload)
    (function name : String)
    (arguments : List Argument) : String :=
  let parameters := ", ".intercalate (adapterParameters 0 arguments)
  let called := overload.adaptedArguments arguments
  s!"{overload.returnType} {name}({parameters}) \x7b\n" ++
    s!"    return {function}({called});\n\x7d\n"

end Overload
end ShaderGraph
