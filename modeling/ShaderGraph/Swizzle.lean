import ShaderGraph.Builtins
import ShaderGraph.Components
import ShaderGraph.Text.Trim

/-!
# Swizzles

A name may be followed by a point and a selection of components. The texts of
arguments are told apart by their shape: literals, names, names with a
selection, and everything else. Only the third shape is checked against the
components that the variable has.
-/

namespace ShaderGraph
namespace Swizzle

/-- What stands before the first point of a text. -/
def baseChars (text : List Char) : List Char :=
  text.takeWhile (· != '.')

/-- What stands behind the first point of a text. -/
def selectionChars (text : List Char) : List Char :=
  (text.dropWhile (· != '.')).drop 1

/-- What stands before the first point of a text. -/
def base (text : String) : String :=
  String.ofList (baseChars text.toList)

/-- What stands behind the first point of a text, or nothing. -/
def selection (text : String) : String :=
  String.ofList (selectionChars text.toList)

/-- Whether a text has a point. -/
def hasPoint (text : String) : Bool :=
  text.toList.contains '.'

/-- Digits with an optional point, of which at least one digit is there. -/
def isDigits (text : List Char) : Bool :=
  let whole := text.takeWhile Text.isDecimalDigit
  match text.dropWhile Text.isDecimalDigit with
  | [] => !whole.isEmpty
  | '.' :: fraction =>
      fraction.all Text.isDecimalDigit && !(whole.isEmpty && fraction.isEmpty)
  | _ => false

/-- Whether a text without blanks around it is a literal: digits with an
optional point and an optional minus sign. -/
def isLiteralChars : List Char -> Bool
  | '-' :: rest => isDigits rest
  | text => isDigits text

/-- Whether a text is a literal, blanks around it aside. -/
def isLiteral (text : String) : Bool :=
  isLiteralChars (Text.trim text.toList)

/-- Whether a text is a name. -/
def isName : List Char -> Bool
  | [] => false
  | first :: rest => Text.isNameStart first && rest.all Text.isNameRest

/-- Whether a text is a name with a selection of letters. -/
def isSwizzled (text : List Char) : Bool :=
  isName (baseChars text) && !(selectionChars text).isEmpty &&
    (selectionChars text).all Char.isAlpha

/-- Whether a text is neither a literal nor a name, with a selection or without. -/
def isCompound (text : String) : Bool :=
  let stripped := Text.trim text.toList
  !isLiteralChars stripped && !isName stripped && !isSwizzled stripped

/-- The letters by which a simple variable may select. -/
def simpleLetters : List Char := ['x', 'y', 'z', 'w', 'r', 'g', 'b', 'a']

/-- A text without one line break at its end. -/
def dropFinalBreak (text : List Char) : List Char :=
  if text.getLast? == some '\n' then text.dropLast else text

/-- Whether a text is a name, or a name with a selection of component letters.
A line break at the end makes no difference. -/
def isSimple (text : String) : Bool :=
  let chars := dropFinalBreak text.toList
  isName chars ||
    (isName (baseChars chars) && !(selectionChars chars).isEmpty &&
      (selectionChars chars).all simpleLetters.contains)

/-- Why a selection is refused. -/
inductive Refusal
  | unknownVariable (base : String)
  | unsupported (text base : String) (letters : List Char)
  deriving DecidableEq

/-- The report of a refused selection. -/
def Refusal.message : Refusal -> String
  | .unknownVariable base => s!"Unknown variable '{base}'"
  | .unsupported text base letters =>
      let listed := ", ".intercalate (letters.map String.singleton)
      s!"Invalid swizzle '{text}': base variable '{base}' supports components [{listed}]"

/-- Check the selection of an argument. Only names with a selection are
checked: the name must be a built-in variable, and at most four of its
components may be selected. -/
def check (builtins : Builtins) (text : String) : Option Refusal :=
  let stripped := Text.trim text.toList
  if isLiteralChars stripped || !isSwizzled stripped then none
  else
    let name := String.ofList (baseChars stripped)
    let selected := selectionChars stripped
    match builtins.lookup? name with
    | none => some (.unknownVariable name)
    | some known =>
        let letters := supportedLetters known.components
        if selected.length > 4 || selected.any fun letter => !letters.contains letter then
          some (.unsupported (String.ofList stripped) name letters)
        else none

end Swizzle
end ShaderGraph
