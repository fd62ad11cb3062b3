import ShaderGraph.Expression.Field

/-!
# Cutting a text into tokens

A text is cut into tokens from left to right. Blanks and comments separate
tokens, a line break counts only outside of brackets, and a backslash before a
line break joins two lines. The tokens of the fields of a formatted text stand
behind it, each field read between parentheses as a text of its own.
-/

namespace ShaderGraph
namespace Token

/-- A token at the start of a text: its kind, the sources of its fields, and what
follows it. -/
structure Piece where
  kind : TokenKind
  fields : List (List Char) := []
  rest : List Char

/-- A quoted text with its marks and its body. -/
def quoted (mark body rest : List Char) : Piece :=
  let has (letter : Char) : Bool := mark.any fun found => found.toLower == letter
  let bytes := has 'b'
  if has 'f' then
    match Field.sources? (has 'r') (body.length + 1) 0 body with
    | some (fields, []) => { kind := .formatted (some fields.length), fields, rest }
    | _ => { kind := .formatted none, rest }
  else if bytes && body.any (fun character => character.toNat >= 0x80) then
    { kind := .invalid, rest }
  else if has 'r' || escapesComplete bytes .outside body then { kind := .text bytes, rest }
  else { kind := .invalid, rest }

/-- Whether a line that holds a token starts with a blank. -/
def isIndented (line : List Char) : Bool :=
  let gap := line.takeWhile isGap
  let indentation := (gap.reverse.takeWhile (· != '\x0c')).reverse
  match line.dropWhile isGap with
  | [] => false
  | next :: _ => !indentation.isEmpty && next != '\n' && next != '#'

/-- The kind of a word of characters that an identifier could contain. -/
def wordKind (word : List Char) : TokenKind :=
  if !isIdentifier word then .invalid
  else if keywords.contains (String.ofList word) then .keyword (String.ofList word)
  else .identifier (String.ofList (Text.normalForm word))

/-- The token at the start of a text that begins with neither a blank nor a
line break. -/
def cut (text : List Char) : Piece :=
  match marked? text with
  | some (mark, opening) =>
      match body? opening with
      | some (body, rest) => quoted mark body rest
      | none => { kind := .invalid, rest := [] }
  | none =>
      match text with
      | [] => { kind := .stop, rest := [] }
      | first :: rest =>
          if first.isDigit || (first == '.' && (rest.headD ' ').isDigit) then
            let (kind, rest) := number text
            { kind, rest }
          else if isIdentifierLike first then
            { kind := wordKind (text.takeWhile isIdentifierLike)
              rest := text.dropWhile isIdentifierLike }
          else
            match symbol? text with
            | some symbol => { kind := .symbol symbol, rest := text.drop symbol.length }
            | none => { kind := .invalid, rest }

/-- The open brackets after a token, innermost first, each with its place. -/
def bracketsAfter (kind : TokenKind) (place : Place) (brackets : List Nat) : List Nat :=
  if kind = .symbol "(" || kind = .symbol "[" || kind = .symbol "\x7b" then
    place.character :: brackets
  else if kind = .symbol ")" || kind = .symbol "]" || kind = .symbol "\x7d" then
    brackets.drop 1
  else brackets

/-- The tokens of a text. The last one is the end of the text, or is invalid; an
end inside of brackets is blamed on the innermost one, and a line break behind a
comment stands where the comment does. -/
def scan : Nat -> Place -> (brackets : List Nat) -> (emptyLine : Bool) -> List Char -> List Token
  | 0, place, _, _, _ => [⟨.invalid, place⟩]
  | _, _, brackets, _, [] => [⟨.stop, ⟨brackets.headD 0, 0⟩⟩]
  | fuel + 1, place, brackets, emptyLine, first :: rest =>
      if isGap first then scan fuel (place.step first) brackets emptyLine rest
      else if first == '\n' then
        if !brackets.isEmpty then scan fuel (place.step first) brackets emptyLine rest
        else
          let following :=
            if isIndented rest then [⟨.invalid, place.step first⟩]
            else scan fuel (place.step first) brackets true rest
          if emptyLine then following else ⟨.lineBreak, place⟩ :: following
      else if first == '#' then
        scan fuel place brackets emptyLine (rest.dropWhile (· != '\n'))
      else if first == '\\' then
        match rest with
        | '\n' :: next :: after =>
            scan fuel (place.after [first, '\n']) brackets emptyLine (next :: after)
        | _ => [⟨.invalid, place⟩]
      else
        let piece := cut (first :: rest)
        let inner := bracketsAfter piece.kind place brackets
        if piece.kind = .invalid || inner.length > bracketLimit then [⟨.invalid, place⟩]
        else
          let passed := (first :: rest).take (rest.length + 1 - piece.rest.length)
          let fields := piece.fields.flatMap fun source =>
            scan fuel ⟨0, 0⟩ [] true ('(' :: source ++ [')'])
          ⟨piece.kind, place⟩ :: (fields ++ scan fuel (place.after passed) inner false piece.rest)

/-- The tokens of a text from its start. -/
def all (text : List Char) : List Token :=
  let unified := Text.unifyLineBreaks text
  scan (unified.length + 1) ⟨0, 0⟩ [] true unified

end Token
end ShaderGraph
