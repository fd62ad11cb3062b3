import ShaderGraph.Expression.Basic
import ShaderGraph.Text.Character
import ShaderGraph.Text.Lines
import ShaderGraph.Text.Normal

/-!
# Tokens of expressions

A token is a number, a word, a symbol or a quoted text. What is no token becomes
a token of its own kind that no rule of the grammar accepts, so a reader that
stops at it has read everything before it. The rules for numbers and quoted
texts follow the lexical grammar of the language.
-/

namespace ShaderGraph

/-- A position in a line, in characters and in bytes. -/
structure Place where
  character : Nat
  column : Nat

namespace Place

/-- The place behind one character. -/
def step (place : Place) (character : Char) : Place :=
  if character == '\n' then ⟨0, 0⟩
  else ⟨place.character + 1, place.column + character.utf8Size⟩

/-- The place behind a list of characters. -/
def after (place : Place) (passed : List Char) : Place :=
  passed.foldl step place

end Place

/-- What a token is. A formatted text tells how many fields it has, if they can be
told apart; the tokens of each field follow it up to an end of their own. -/
inductive TokenKind
  | number (value : Numeral)
  | imaginary
  | identifier (name : String)
  | keyword (word : String)
  | symbol (text : String)
  | text (bytes : Bool)
  | formatted (fields : Option Nat)
  | lineBreak
  | invalid
  | stop
  deriving DecidableEq

/-- A token with the place where it starts. -/
structure Token where
  kind : TokenKind
  place : Place

namespace Token

/-- The words that are no identifiers. -/
def keywords : List String := [
  "False", "None", "True", "and", "as", "assert", "async", "await", "break", "class",
  "continue", "def", "del", "elif", "else", "except", "finally", "for", "from", "global",
  "if", "import", "in", "is", "lambda", "nonlocal", "not", "or", "pass", "raise", "return",
  "try", "while", "with", "yield"]

/-- The symbols, those of more characters first. -/
def symbols : List String := [
  "**=", "//=", ">>=", "<<=", "...",
  "==", "!=", "<=", ">=", "<>", "**", "//", ">>", "<<", "->", ":=", "+=", "-=", "*=", "/=",
  "%=", "&=", "|=", "^=", "@=",
  "+", "-", "*", "/", "%", "&", "|", "^", "~", "<", ">", "=", "(", ")", "[", "]",
  "\x7b", "\x7d", ",", ":", ".", ";", "@"]

/-- The longest symbol at the start of a text. -/
def symbol? (text : List Char) : Option String :=
  symbols.find? fun symbol => symbol.toList.isPrefixOf text

/-- Brackets may nest this deep. -/
def bracketLimit : Nat := 200

/-- A decimal integer may have this many digits. -/
def digitLimit : Nat := 4300

/-- A character that an identifier could contain. Whether it may is decided for
the whole identifier. -/
def isIdentifierLike (character : Char) : Bool :=
  Text.isNameRest character || character.toNat >= 0x80

/-- Whether a run of characters is an identifier. -/
def isIdentifier : List Char -> Bool
  | [] => false
  | first :: rest => Text.isIdentifierStart first && rest.all Text.isIdentifierRest

/-! ## Numbers -/

/-- Whether a character is a digit of a numeral system. -/
def isDigitOf (base : Nat) (character : Char) : Bool :=
  if base = 16 then
    character.isDigit || ('a' <= character && character <= 'f') ||
      ('A' <= character && character <= 'F')
  else character.isDigit && character.toNat - 48 < base

/-- The value of a digit. -/
def digitValue (character : Char) : Nat :=
  if character.isDigit then character.toNat - 48
  else if character.toNat >= 97 then character.toNat - 87
  else character.toNat - 55

/-- The value of a list of digits. -/
def digitsValue (base : Nat) (digits : List Char) : Nat :=
  digits.foldl (fun value digit => value * base + digitValue digit) 0

/-- A run of digits in which single underscores may separate digits, and what
follows it. An underscore without a digit behind it is left over. -/
def digitRun (base : Nat) : List Char -> List Char × List Char
  | [] => ([], [])
  | first :: rest =>
      if isDigitOf base first then (first :: (digitRun base rest).1, (digitRun base rest).2)
      else if first == '_' && rest.head?.any (isDigitOf base) then digitRun base rest
      else ([], first :: rest)

/-- A word that may follow a number without a blank. -/
def isAfterNumber (text : List Char) : Bool :=
  ["and", "else", "for", "if", "in", "is", "or", "not"].any fun word =>
    word.toList.isPrefixOf text

/-- Whether a number may end before the given text. -/
def endsNumber : List Char -> Bool
  | [] => true
  | next :: rest => isAfterNumber (next :: rest) || !Text.isNameRest next

/-- The kind of a finished number, if the text after it allows an end here. -/
def finishNumber (value : TokenKind) (rest : List Char) : TokenKind × List Char :=
  if rest.head?.any (fun mark => mark == 'j' || mark == 'J') then
    (if endsNumber (rest.drop 1) then .imaginary else .invalid, rest.drop 1)
  else (if endsNumber rest then value else .invalid, rest)

/-- The exponent at the start of a text, with what follows it. -/
def exponent? (text : List Char) : Option (Int × List Char) :=
  if text.head?.any (fun mark => mark == 'e' || mark == 'E') then
    let rest := text.drop 1
    let negative := rest.head?.any (· == '-')
    let body :=
      if rest.head?.any (fun sign => sign == '-' || sign == '+') then rest.drop 1 else rest
    if body.head?.any Char.isDigit then
      let (digits, after) := digitRun 10 body
      let value : Int := digitsValue 10 digits
      some (if negative then -value else value, after)
    else none
  else none

/-- A number with a point or an exponent: the digits before and behind the
point are known, the exponent is still to be read. -/
def decimalTail (whole fraction rest : List Char) : TokenKind × List Char :=
  let digits := digitsValue 10 (whole ++ fraction)
  match exponent? rest with
  | some (power, after) =>
      finishNumber (.number (.decimal ⟨digits, power - fraction.length⟩)) after
  | none => finishNumber (.number (.decimal ⟨digits, -fraction.length⟩)) rest

/-- A number in a base that is no decimal one, behind its mark. -/
def based (base : Nat) (text : List Char) : TokenKind × List Char :=
  let body := if text.head?.any (· == '_') then text.drop 1 else text
  let (digits, rest) := digitRun base body
  if body.head?.any (isDigitOf base) && endsNumber rest && !rest.head?.any Char.isDigit then
    (.number (.integer (digitsValue base digits)), rest)
  else (.invalid, rest)

/-- A decimal number. A whole number other than zero does not start with a
zero, and its length is limited. -/
def decimalNumber (text : List Char) : TokenKind × List Char :=
  let (whole, rest) := digitRun 10 text
  if rest.head?.any (· == '.') then
    let afterPoint := rest.drop 1
    let (fraction, afterFraction) :=
      if afterPoint.head?.any Char.isDigit then digitRun 10 afterPoint else ([], afterPoint)
    decimalTail whole fraction afterFraction
  else if (exponent? rest).isSome then decimalTail whole [] rest
  else
    let (kind, after) := finishNumber (.number (.integer (digitsValue 10 whole))) rest
    let leadingZero := whole.head? == some '0' && whole.any (· != '0')
    let tooLong := whole.length > digitLimit && whole.any (· != '0')
    if kind != .imaginary && (leadingZero || tooLong) then (.invalid, after)
    else (kind, after)

/-- The base that a mark behind a zero stands for. -/
def baseOf? (mark : Char) : Option Nat :=
  if mark == 'x' || mark == 'X' then some 16
  else if mark == 'o' || mark == 'O' then some 8
  else if mark == 'b' || mark == 'B' then some 2
  else none

/-- The number at the start of a text that begins with a digit, or with a point
and a digit. -/
def number (text : List Char) : TokenKind × List Char :=
  if text.head?.any (· == '.') then
    let (fraction, after) := digitRun 10 (text.drop 1)
    decimalTail [] fraction after
  else if text.head?.any (· == '0') then
    match (text.drop 1).head?.bind baseOf? with
    | some base => based base (text.drop 2)
    | none => decimalNumber text
  else decimalNumber text

/-! ## Texts -/

/-- How far the reading of an escape sequence has come. -/
inductive Escape
  | outside
  | started
  | hexadecimal (missing : Nat) (value : Nat)
  | nameStart
  | insideName (empty : Bool)

/-- Whether every escape sequence of a text is complete. -/
def escapesComplete (bytes : Bool) : Escape -> List Char -> Bool
  | .outside, [] => true
  | .started, [] => true
  | .hexadecimal _ _, [] => false
  | .nameStart, [] => false
  | .insideName _, [] => false
  | .outside, first :: rest =>
      escapesComplete bytes (if first == '\\' then .started else .outside) rest
  | .started, first :: rest =>
      if first == 'x' then escapesComplete bytes (.hexadecimal 2 0) rest
      else if bytes then escapesComplete bytes .outside rest
      else if first == 'u' then escapesComplete bytes (.hexadecimal 4 0) rest
      else if first == 'U' then escapesComplete bytes (.hexadecimal 8 0) rest
      else if first == 'N' then escapesComplete bytes .nameStart rest
      else escapesComplete bytes .outside rest
  | .hexadecimal missing value, first :: rest =>
      if !isDigitOf 16 first then false
      else
        let next := value * 16 + digitValue first
        if missing > 1 then escapesComplete bytes (.hexadecimal (missing - 1) next) rest
        else next <= 0x10FFFF && escapesComplete bytes .outside rest
  | .nameStart, first :: rest =>
      first == '\x7b' && escapesComplete bytes (.insideName true) rest
  | .insideName empty, first :: rest =>
      if first == '\x7d' then !empty && escapesComplete bytes .outside rest
      else escapesComplete bytes (.insideName false) rest

/-- The body of a text up to the quotes that close it, and what follows them. A
backslash takes the next character with it. -/
def bodyUntil (closing : List Char) (breaks : Bool) : List Char -> Option (List Char × List Char)
  | [] => none
  | '\\' :: next :: rest =>
      (bodyUntil closing breaks rest).map fun (body, after) => ('\\' :: next :: body, after)
  | first :: rest =>
      if closing.isPrefixOf (first :: rest) then some ([], rest.drop (closing.length - 1))
      else if first == '\n' && !breaks then none
      else (bodyUntil closing breaks rest).map fun (body, after) => (first :: body, after)

/-- The body of the text that a quote opens, and what follows it. Only a text
between tripled quotes may break lines. -/
def body? : List Char -> Option (List Char × List Char)
  | quote :: rest =>
      if [quote, quote].isPrefixOf rest then bodyUntil [quote, quote, quote] true (rest.drop 2)
      else bodyUntil [quote] false rest
  | [] => none

/-- The marks before a quote that change how a text is read. -/
def isTextMark (mark : List Char) : Bool :=
  ["", "r", "u", "b", "f", "br", "rb", "fr", "rf"].contains
    (String.ofList (mark.map Char.toLower))

/-- The marks at the start of a text and the quoted text behind them. -/
def marked? (text : List Char) : Option (List Char × List Char) :=
  let mark := text.takeWhile Char.isAlpha
  match text.dropWhile Char.isAlpha with
  | quote :: rest =>
      if (quote == '\'' || quote == '"') && isTextMark mark then some (mark, quote :: rest)
      else none
  | [] => none

/-- Blanks between the tokens of a line. -/
def isGap (character : Char) : Bool :=
  character == ' ' || character == '\t' || character == '\x0c'

end Token
end ShaderGraph
