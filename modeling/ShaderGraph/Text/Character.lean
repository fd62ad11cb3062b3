import ShaderGraph.Text.Category

/-!
# Classes of characters

The classes that the scanners of this library share: blanks, the characters of
a word, decimal digits, and the characters of a name. Word characters follow
Unicode, while the names of shader code are restricted to ASCII.
-/

namespace ShaderGraph
namespace Text

/-- A blank separates words: ASCII blanks, the four information separators and
the Unicode spaces. -/
def isBlank (character : Char) : Bool :=
  let code := character.toNat
  (0x09 <= code && code <= 0x0D) || (0x1C <= code && code <= 0x20) ||
    code == 0x85 || code == 0xA0 || code == 0x1680 ||
    (0x2000 <= code && code <= 0x200A) || code == 0x2028 || code == 0x2029 ||
    code == 0x202F || code == 0x205F || code == 0x3000

/-- The ASCII letters and the underscore, with which a shader name starts. -/
def isNameStart (character : Char) : Bool :=
  character.isAlpha || character == '_'

/-- The ASCII letters, digits and the underscore, which continue a shader name. -/
def isNameRest (character : Char) : Bool :=
  character.isAlphanum || character == '_'

/-- A decimal digit of any script. -/
def isDecimalDigit (character : Char) : Bool :=
  character.isDigit || (character.toNat >= 0x80 && decimalDigits.contains character.toNat)

/-- A word is made of letters and numbers of any script and of underscores. -/
def isWord (character : Char) : Bool :=
  isNameRest character ||
    (character.toNat >= 0x80 &&
      (letters.contains character.toNat || decimalDigits.contains character.toNat ||
        letterNumbers.contains character.toNat || otherNumbers.contains character.toNat))

/-- Letters that compatibility decomposition would turn into something that
does not start an identifier. -/
def unstableLetters : Ranges := [
  (0x37A, 0x37A), (0xE33, 0xE33), (0xEB3, 0xEB3), (0x2E2F, 0x2E2F), (0xFC5E, 0xFC63),
  (0xFDFA, 0xFDFB), (0xFE70, 0xFE70), (0xFE72, 0xFE72), (0xFE74, 0xFE74), (0xFE76, 0xFE76),
  (0xFE78, 0xFE78), (0xFE7A, 0xFE7A), (0xFE7C, 0xFE7C), (0xFE7E, 0xFE7E), (0xFF9E, 0xFF9F)]

/-- Symbols and marks that start an identifier for the sake of old programs. -/
def grandfatheredStarts : Ranges := [
  (0x1885, 0x1886), (0x2118, 0x2118), (0x212E, 0x212E)]

/-- Further characters that may continue an identifier. -/
def identifierExtras : Ranges := [
  (0xB7, 0xB7), (0x387, 0x387), (0xE33, 0xE33), (0xEB3, 0xEB3), (0x1369, 0x1371),
  (0x19DA, 0x19DA), (0xFF9E, 0xFF9F)]

/-- An identifier of the expression language starts with a letter of any script
or an underscore. -/
def isIdentifierStart (character : Char) : Bool :=
  isNameStart character ||
    (character.toNat >= 0x80 &&
      (((letters.contains character.toNat || letterNumbers.contains character.toNat) &&
          !unstableLetters.contains character.toNat) ||
        grandfatheredStarts.contains character.toNat))

/-- An identifier of the expression language goes on with letters, marks,
decimal digits and connectors of any script. -/
def isIdentifierRest (character : Char) : Bool :=
  isNameRest character ||
    (character.toNat >= 0x80 &&
      (isIdentifierStart character || marks.contains character.toNat ||
        decimalDigits.contains character.toNat || connectors.contains character.toNat ||
        identifierExtras.contains character.toNat))

/-- A printable character stands for itself in a quoted text. -/
def isPrintable (character : Char) : Bool :=
  !unprintables.contains character.toNat

end Text
end ShaderGraph
