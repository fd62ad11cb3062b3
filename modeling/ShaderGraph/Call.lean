import ShaderGraph.Text.Trim

/-!
# Calls in argument texts

A call opens with a name at the start of a word, optional blanks and a
parenthesis. Its arguments stand between that parenthesis and the one that
closes it, separated by the commas that are not nested any deeper. Calls are
found at every depth; masking replaces the outermost ones.
-/

namespace ShaderGraph

/-- A call found in a text: its name, where it starts and ends, and the texts of
its arguments. -/
structure Call where
  name : String
  start : Nat
  stop : Nat
  arguments : List String
  deriving DecidableEq

namespace Call

/-- The number of characters before the parenthesis that brings the depth back
to zero. -/
def closing? (depth : Int) : List Char -> Option Nat
  | [] => none
  | first :: rest =>
      if first == '(' then (closing? (depth + 1) rest).map (· + 1)
      else if first == ')' then
        if depth = 1 then some 0 else (closing? (depth - 1) rest).map (· + 1)
      else (closing? depth rest).map (· + 1)

/-- The depth behind a character. -/
def depthAfter (depth : Int) (character : Char) : Int :=
  if character == '(' then depth + 1
  else if character == ')' then depth - 1
  else depth

/-- The parts of a text between the commas at depth zero. -/
def parts (depth : Int) : List Char -> List (List Char)
  | [] => [[]]
  | first :: rest =>
      if first == ',' && depth = 0 then [] :: parts depth rest
      else
        match parts (depthAfter depth first) rest with
        | [] => [[first]]
        | part :: others => (first :: part) :: others

/-- The arguments that a text lists, without blanks around them and without
empty ones. -/
def splitChars (text : List Char) : List (List Char) :=
  ((parts 0 text).map Text.trim).filter fun part => !part.isEmpty

/-- The arguments that a text lists, without blanks around them and without
empty ones. -/
def splitArguments (text : String) : List String :=
  (splitChars text.toList).map String.ofList

/-- The name of the call that opens a text, with the number of characters before
its parenthesis. The character before the text must not belong to a word. -/
def opening? (before : Option Char) : List Char -> Option (List Char × Nat)
  | [] => none
  | first :: rest =>
      if Text.isNameStart first && !before.any Text.isWord then
        let name := first :: rest.takeWhile Text.isWord
        let gap := (rest.dropWhile Text.isWord).takeWhile Text.isBlank
        match (rest.dropWhile Text.isWord).dropWhile Text.isBlank with
        | '(' :: _ => some (name, name.length + gap.length)
        | _ => none
      else none

/-- A call that opens somewhere in a text, or the text from the character before
the parenthesis of one that is not closed. -/
inductive Found
  | call (call : Call)
  | unclosed (rest : List Char)

/-- What opens at the start of a text, which starts at the given position. -/
def found? (before : Option Char) (position : Nat) (text : List Char) : Option Found :=
  match opening? before text with
  | none => none
  | some (name, offset) =>
      match closing? 0 (text.drop offset) with
      | none => some (.unclosed (text.drop (offset - 1)))
      | some length =>
          let inner := (text.drop (offset + 1)).take (length - 1)
          some (.call ⟨String.ofList name, position, position + offset + length + 1,
            (splitChars inner).map String.ofList⟩)

/-- What opens anywhere in a text, from left to right. -/
def findAll (before : Option Char) (position : Nat) : List Char -> List Found
  | [] => []
  | first :: rest =>
      match found? before position (first :: rest) with
      | some found => found :: findAll (some first) (position + 1) rest
      | none => findAll (some first) (position + 1) rest

/-- Everything that opens in a text. -/
def inText (text : String) : List Found :=
  findAll none 0 text.toList

/-- Whether masking is inside of a call, and if so how deep. -/
inductive Mask
  | outside (before : Option Char)
  | inside (depth : Nat)

/-- A text with a zero in the place of every outermost call. A call without an
end hides the rest of the text. -/
def maskChars : Mask -> List Char -> List Char
  | _, [] => []
  | .outside before, first :: rest =>
      if (opening? before (first :: rest)).isSome then '0' :: maskChars (.inside 0) rest
      else first :: maskChars (.outside (some first)) rest
  | .inside depth, first :: rest =>
      if first == '(' then maskChars (.inside (depth + 1)) rest
      else if first == ')' then
        if depth <= 1 then maskChars (.outside (some ')')) rest
        else maskChars (.inside (depth - 1)) rest
      else maskChars (.inside depth) rest

/-- A text with a zero in the place of every outermost call. -/
def mask (text : String) : String :=
  String.ofList (maskChars (.outside none) text.toList)

end Call
end ShaderGraph
