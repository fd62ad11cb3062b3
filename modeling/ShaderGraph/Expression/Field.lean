import ShaderGraph.Expression.Token

/-!
# Replacement fields

A formatted text holds expressions between braces. A field may end with an
equals sign, a conversion mark and a format, and a format may hold fields of its
own, but no deeper ones. Splitting a formatted text yields the sources of all
its expressions in the order of the text.
-/

namespace ShaderGraph
namespace Field

/-- The quote that ends the text inside of which a field is read. -/
inductive Quoting
  | none
  | short (quote : Char)
  | long (quote : Char)

/-- The bracket that closes an opening one. -/
def closer (bracket : Char) : Char :=
  if bracket == '(' then ')' else if bracket == '[' then ']' else '\x7d'

/-- Put a character in front of a stretch that was found behind it. -/
def keep (first : Char) (found : Option (List Char × List Char)) :
    Option (List Char × List Char) :=
  found.map fun (stretch, after) => (first :: stretch, after)

/-- Whether two characters at the start of a text form a comparison. -/
def isComparison (first : Char) (rest : List Char) : Bool :=
  (first == '!' || first == '=' || first == '<' || first == '>') && rest.head? == some '='

/-- What becomes of a source at a character: the character is refused, it ends the
source, or it belongs to the source, of which the rest is read in a state of its own. -/
inductive Move
  | refuse
  | stop
  | go
      (unseen : Nat)
      (quoting : Quoting)
      (brackets : List Char)

/-- The move at a character of a source. Quoted texts and brackets are passed over
as a whole; a backslash or a comment is refused. The number counts characters that
are taken unseen. -/
def move
    (unseen : Nat)
    (quoting : Quoting)
    (brackets : List Char)
    (first : Char)
    (rest : List Char) : Move :=
  let pair := [first, first].isPrefixOf rest
  if first == '\\' then .refuse
  else if unseen > 0 then .go (unseen - 1) quoting brackets
  else
    match quoting with
    | .short quote => .go 0 (if first == quote then .none else quoting) brackets
    | .long quote =>
        if first == quote && pair then .go 2 .none brackets else .go 0 quoting brackets
    | .none =>
        if first == '\'' || first == '"' then
          if pair then .go 2 (.long first) brackets else .go 0 (.short first) brackets
        else if first == '(' || first == '[' || first == '\x7b' then
          if brackets.length >= Token.bracketLimit then .refuse
          else .go 0 .none (closer first :: brackets)
        else if first == '#' then .refuse
        else
          match brackets with
          | [] =>
              if isComparison first rest then .go 1 .none []
              else if first == '!' || first == ':' || first == '\x7d' || first == '=' then .stop
              else if first == ')' || first == ']' then .refuse
              else .go 0 .none []
          | expected :: outer =>
              if first == ')' || first == ']' || first == '\x7d' then
                if first == expected then .go 0 .none outer else .refuse
              else .go 0 .none brackets

/-- The source of the expression at the start of a field, and what follows it. -/
def source? (unseen : Nat) (quoting : Quoting) (brackets : List Char) :
    List Char -> Option (List Char × List Char)
  | [] => none
  | first :: rest =>
      match move unseen quoting brackets first rest with
      | .refuse => none
      | .stop => some ([], first :: rest)
      | .go unseen quoting brackets => keep first (source? unseen quoting brackets rest)

/-- Blanks of which a field may not consist. -/
def isSpace (character : Char) : Bool :=
  Token.isGap character || character == '\n' || character == '\r'

/-- What stands behind a mark at the start of a text. -/
def behind? (mark : Char) : List Char -> Option (List Char)
  | [] => none
  | first :: rest => if first == mark then some rest else none

/-- Pass over an optional equals sign and the blanks behind it. -/
def afterEquals (text : List Char) : List Char :=
  match behind? '=' text with
  | some behind => behind.dropWhile isSpace
  | none => text

/-- Pass over an optional conversion mark. -/
def conversion? (text : List Char) : Option (List Char) :=
  match behind? '!' text with
  | none => some text
  | some [] => none
  | some (mark :: rest) => if mark == 's' || mark == 'r' || mark == 'a' then some rest else none

/-- The number of characters behind a backslash that belong to its escape
sequence. A brace is no part of one, except around the name of a character. -/
def escapeLength (behind : List Char) : Nat :=
  if ['N', '\x7b'].isPrefixOf behind then
    (behind.takeWhile (· != '\x7d')).length + 1
  else if behind.head? == some '\x7b' || behind.head? == some '\x7d' then 0
  else 1

/-- Pass over a literal stretch, up to a field or to the end of a format. In a
format braces are not doubled. The number counts characters that are taken
unseen. -/
def literal? (raw format : Bool) (unseen : Nat) : List Char -> Option (List Char × List Char)
  | [] => some ([], [])
  | first :: rest =>
      let doubled := !format && rest.head? == some first
      if unseen > 0 then keep first (literal? raw format (unseen - 1) rest)
      else if first == '\\' && !raw then
        keep first (literal? raw format (escapeLength rest) rest)
      else if first == '\x7b' then
        if doubled then keep first (literal? raw format 1 rest) else some ([], first :: rest)
      else if first == '\x7d' then
        if doubled then keep first (literal? raw format 1 rest)
        else if format then some ([], first :: rest)
        else none
      else keep first (literal? raw format 0 rest)

/-- The sources in an optional format, which a colon opens, and what follows it. -/
def format?
    (nested? : List Char -> Option (List (List Char) × List Char))
    (text : List Char) : Option (List (List Char) × List Char) :=
  match behind? ':' text with
  | some body => nested? body
  | none => some ([], text)

/-- The sources at the end of a field, and what follows the field. An equals sign and
a conversion mark may stand before its format. -/
def fieldEnd?
    (nested? : List Char -> Option (List (List Char) × List Char))
    (text : List Char) : Option (List (List Char) × List Char) := do
  let afterMark <- conversion? (afterEquals text)
  let (nested, afterFormat) <- format? nested? afterMark
  let behind <- behind? '\x7d' afterFormat
  some (nested, behind)

/-- The sources of the expressions in a formatted text, and what follows it. A
format ends at a brace that closes the field around it. -/
def sources? (raw : Bool) : Nat -> (format : Nat) -> List Char ->
    Option (List (List Char) × List Char)
  | 0, _, _ => none
  | fuel + 1, format, text => do
      let (stretch, rest) <- literal? raw (format > 0) 0 text
      if !(raw || Token.escapesComplete false .outside stretch) then none
      else
        match behind? '\x7b' rest with
        | none => some ([], rest)
        | some inside =>
            if format >= 2 then none
            else
              let (source, afterSource) <- source? 0 .none [] inside
              if source.all isSpace then none
              else
                let (nested, behind) <- fieldEnd? (sources? raw fuel (format + 1)) afterSource
                let (others, after) <- sources? raw fuel format behind
                some (source :: nested ++ others, after)

end Field
end ShaderGraph
