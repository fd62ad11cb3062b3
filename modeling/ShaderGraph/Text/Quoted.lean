import ShaderGraph.Text.Character

/-!
# Quoted texts

A quoted text stands between single quotes, or between double quotes when it
holds single quotes and no double ones. The quote in use, the backslash and
every unprintable character are written as escapes, so a message shows a
name on one line and without ambiguity.
-/

namespace ShaderGraph
namespace Text

/-- A hexadecimal numeral in lower case, of at least the given number of digits. -/
def hexadecimal (width : Nat) (value : Nat) : List Char :=
  let digits := Nat.toDigits 16 value
  List.replicate (width - digits.length) '0' ++ digits

/-- The written form of one character between the given quotes. -/
def quoteCharacter (quote : Char) (character : Char) : List Char :=
  if character == quote || character == '\\' then ['\\', character]
  else if character == '\n' then ['\\', 'n']
  else if character == '\r' then ['\\', 'r']
  else if character == '\t' then ['\\', 't']
  else if isPrintable character then [character]
  else
    let code := character.toNat
    if code < 0x100 then '\\' :: 'x' :: hexadecimal 2 code
    else if code < 0x10000 then '\\' :: 'u' :: hexadecimal 4 code
    else '\\' :: 'U' :: hexadecimal 8 code

/-- The quote that a text is written between. -/
def quoteOf (text : List Char) : Char :=
  if text.contains '\'' && !text.contains '"' then '"' else '\''

/-- A text between quotes, with escapes for what could be misread. -/
def quoted (text : String) : String :=
  let quote := quoteOf text.toList
  String.ofList (quote :: text.toList.flatMap (quoteCharacter quote) ++ [quote])

/-- A bracketed list of quoted texts. -/
def quotedList (texts : List String) : String :=
  "[" ++ ", ".intercalate (texts.map quoted) ++ "]"

end Text
end ShaderGraph
