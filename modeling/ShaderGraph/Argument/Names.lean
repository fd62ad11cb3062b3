import ShaderGraph.Text.Sorted
import ShaderGraph.Text.Trim

/-!
# Names in a text

A text that cannot be read as an expression is searched for names: whole words
of ASCII name characters, each with the selection behind it. A name before a
parenthesis is called and does not count.
-/

namespace ShaderGraph
namespace Argument

/-- Whether a word ends before a text. -/
def endsWord (rest : List Char) : Bool :=
  !rest.head?.any Text.isWord

/-- The name at the start of a text, with a selection if a word ends behind it.
The character before the text must not belong to a word. -/
def dotted? (before : Option Char) : List Char -> Option (List Char × List Char)
  | [] => none
  | first :: rest =>
      if Text.isNameStart first && !before.any Text.isWord then
        let name := first :: rest.takeWhile Text.isNameRest
        let after := rest.dropWhile Text.isNameRest
        let selected :=
          match after with
          | '.' :: behind => behind.takeWhile Text.isNameRest
          | _ => []
        let behind := after.drop (selected.length + 1)
        if !selected.isEmpty && endsWord behind then
          some (name ++ '.' :: selected, behind)
        else if endsWord after then some (name, after)
        else none
      else none

/-- Whether a parenthesis comes next, blanks aside. -/
def isCalled (rest : List Char) : Bool :=
  (Text.trimStart rest).head? == some '('

/-- The names of a text that are not called, from left to right. The number
counts the characters that belong to the name found before. -/
def scan (before : Option Char) (taken : Nat) : List Char -> List String
  | [] => []
  | first :: rest =>
      match taken with
      | taken + 1 => scan (some first) taken rest
      | 0 =>
          match dotted? before (first :: rest) with
          | none => scan (some first) 0 rest
          | some (name, behind) =>
              let others := scan (some first) (name.length - 1) rest
              if isCalled behind then others else String.ofList name :: others

/-- The names of a text that are not called, in ascending order. -/
def names (text : String) : List String :=
  Text.sortedNames (scan none 0 text.toList)

end Argument
end ShaderGraph
