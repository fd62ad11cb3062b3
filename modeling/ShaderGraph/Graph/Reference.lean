import ShaderGraph.Text.Character

/-!
# References between nodes

An argument refers to the result of another node by a dollar sign and the name of
the node. In generated code the result of a node is a variable of its own.
-/

namespace ShaderGraph
namespace Reference

/-- What the name of every node starts with. -/
def stem : List Char := ['s', 'h', 'a', 'd', 'e', 'r', '_']

/-- The name of a node at the start of a text, and the word characters with
which it goes on. -/
def nodeName? (text : List Char) : Option String :=
  let name := text.takeWhile Text.isWord
  if stem.isPrefixOf name && name.length > stem.length then some (String.ofList name) else none

/-- The nodes that a text refers to, from left to right. -/
def scan : List Char -> List String
  | [] => []
  | first :: rest =>
      match (if first == '$' then nodeName? rest else none) with
      | none => scan rest
      | some name => name :: scan rest

/-- The nodes that a text refers to, from left to right. -/
def inText (text : String) : List String :=
  scan text.toList

/-- What the result of a node adds to its name. -/
def resultMark : List Char := ['_', 'r', 'e', 's', 'u', 'l', 't']

/-- The variable with the result of a node. -/
def resultName (node : String) : String :=
  node ++ String.ofList resultMark

/-- Replace the references of a text. The flag tells whether the text starts
inside of a name that is referred to. -/
def replace : Bool -> List Char -> List Char
  | inside, [] => if inside then resultMark else []
  | inside, first :: rest =>
      let goesOn := inside && Text.isWord first
      let mark := if inside && !goesOn then resultMark else []
      if first == '$' && (nodeName? rest).isSome then mark ++ replace true rest
      else mark ++ first :: replace goesOn rest

/-- A text with the variables of results in the place of references. -/
def substitute (text : String) : String :=
  String.ofList (replace false text.toList)

end Reference
end ShaderGraph
