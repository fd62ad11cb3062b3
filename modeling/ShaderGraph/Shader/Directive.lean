import ShaderGraph.Text.Character

/-!
# Include directives

An include directive stands alone on its line: blanks, the word of the directive,
blanks, and the target between double quotes. Blank lines around a directive
belong to it, up to the last line break behind it.
-/

namespace ShaderGraph
namespace Directive

/-- The word that a directive starts with. -/
def word : List Char := ['#', 'i', 'n', 'c', 'l', 'u', 'd', 'e']

/-- What stands behind a word that a text starts with. -/
def behind? : List Char -> List Char -> Option (List Char)
  | [], text => some text
  | _ :: _, [] => none
  | expected :: others, first :: rest =>
      if first == expected then behind? others rest else none

/-- Blanks up to the last line break among them, which does not belong to the
directive, with what is left. -/
def lineEnd? (rest : List Char) : Option (List Char) :=
  if rest.all Text.isBlank then some []
  else
    let gap := rest.takeWhile Text.isBlank
    let kept := gap.reverse.takeWhile (· != '\n')
    if gap.contains '\n' then some (rest.drop (gap.length - kept.length - 1)) else none

/-- The target of a directive at the start of a line, with what is left of the
text behind it. -/
def read? (line : List Char) : Option (List Char × List Char) := do
  let afterWord <- behind? word (line.dropWhile Text.isBlank)
  match afterWord.takeWhile Text.isBlank, afterWord.dropWhile Text.isBlank with
  | _ :: _, '"' :: quoted =>
      let target := quoted.takeWhile (· != '"')
      match target, quoted.dropWhile (· != '"') with
      | _ :: _, '"' :: rest => (lineEnd? rest).map fun left => (target, left)
      | _, _ => none
  | _, _ => none

/-- A part of a text: a character, or a directive with its target. -/
inductive Piece
  | character (value : Char)
  | directive (target : String)
  deriving DecidableEq

/-- The parts of a text. The flag tells whether a line starts here, and the
number counts the characters that belong to the directive before. -/
def pieces (lineStarts : Bool) (taken : Nat) : List Char -> List Piece
  | [] => []
  | first :: rest =>
      match taken with
      | taken + 1 => pieces (first == '\n') taken rest
      | 0 =>
          match (if lineStarts then read? (first :: rest) else none) with
          | none => .character first :: pieces (first == '\n') 0 rest
          | some (target, left) =>
              .directive (String.ofList target) ::
                pieces (first == '\n') (rest.length - left.length) rest

/-- The parts of a whole text. -/
def split (text : List Char) : List Piece :=
  pieces true 0 text

end Directive
end ShaderGraph
