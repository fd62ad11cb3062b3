import ShaderGraph.Proofs.Argument.Dependence
import ShaderGraph.Proofs.Expression.Arithmetic

/-!
# Arithmetic arguments

The text of an arithmetic argument is made of numerals, names with or without a selection,
references, the marks of arithmetic and blanks. The search for names finds in it the words
that are not called. The evaluator reads the same names from it, apart from those of its
own constants, so both ways to tell what an argument depends on agree on all other names.
-/

namespace ShaderGraph

/-- A numeral starts with a digit or a point. -/
theorem IsNumeral.exists_cons
    {text : List Char}
    (isNumeral : IsNumeral text) :
    ∃ first rest, text = first :: rest ∧ Text.isBlank first = false ∧ first ≠ '(' := by
  have ofDigit {first : Char} (digit : first.isDigit = true) :
      Text.isBlank first = false ∧ first ≠ '(' :=
    have part := Token.isNameRest_of_isDigit digit
    ⟨Reference.isBlank_of_isWord (Argument.isWord_of_isNameRest part),
      Token.ne_of_isNameRest part (by decide)⟩
  obtain ⟨whole, fraction, exponent, rfl, all, _, form⟩ := isNumeral
  cases whole with
  | cons first whole =>
      exact ⟨first, _, rfl, ofDigit (List.all_eq_true.mp all first List.mem_cons_self)⟩
  | nil =>
      rcases form with ⟨_, filled⟩ | ⟨digits, rfl, _⟩
      · exact absurd rfl filled
      · exact ⟨'.', _, rfl, by decide⟩

/-- Apart from points and signs there are only characters of names in a numeral. -/
theorem IsNumeral.not_mem
    {text : List Char}
    {odd : Char}
    (isNumeral : IsNumeral text)
    (noPart : Text.isNameRest odd = false)
    (noMark : odd ∉ ['.', '+', '-']) : odd ∉ text := by
  have ofDigits {digits : List Char} (all : digits.all Char.isDigit = true) : odd ∉ digits := by
    intro present
    rw [Token.isNameRest_of_isDigit (List.all_eq_true.mp all odd present)] at noPart
    cases noPart
  simp only [List.mem_cons, List.not_mem_nil, or_false, not_or] at noMark
  obtain ⟨noPoint, noPlus, noMinus⟩ := noMark
  obtain ⟨whole, fraction, exponent, rfl, wholeAll, isExponent, form⟩ := isNumeral
  rw [List.mem_append, not_or, List.mem_append, not_or]
  refine ⟨ofDigits wholeAll, ?_, ?_⟩
  · rcases form with ⟨rfl, _⟩ | ⟨digits, rfl, digitsAll, _⟩
    · exact List.not_mem_nil
    · simpa [noPoint] using ofDigits digitsAll
  · rcases isExponent with rfl | ⟨mark, sign, digits, rfl, marks, signs, _, all⟩
    · exact List.not_mem_nil
    · have noDigit := ofDigits all
      have noLetter : odd ≠ mark := by
        rintro rfl
        rcases marks with rfl | rfl <;> cases noPart
      rcases signs with rfl | rfl | rfl <;> simp [noLetter, noPlus, noMinus, noDigit]

/-- A part of an arithmetic argument. A word is a name with the selection behind it. -/
inductive Lexeme
  | blank (character : Char)
  | numeral (text : List Char)
  | word (name selection : List Char)
  | reference (node : List Char)
  | mark (character : Char)
  deriving DecidableEq

namespace Lexeme

/-- The characters of a lexeme. -/
def chars : Lexeme -> List Char
  | .blank character => [character]
  | .numeral text => text
  | .word name selection => name ++ selection
  | .reference node => '$' :: node
  | .mark character => [character]

/-- The text of lexemes. -/
def written (lexemes : List Lexeme) : List Char :=
  lexemes.flatMap chars

/-- Whether a parenthesis comes next, blanks aside. -/
def called : List Lexeme -> Bool
  | .blank _ :: rest => called rest
  | .mark character :: _ => character == '('
  | _ => false

/-- Whether neither a numeral nor a word comes next. -/
def ends : List Lexeme -> Bool
  | [] => true
  | .blank _ :: _ => true
  | .mark _ :: _ => true
  | _ => false

/-- The words and references that are not called, from left to right. -/
def mentioned : List Lexeme -> List String
  | [] => []
  | .blank _ :: rest => mentioned rest
  | .numeral _ :: rest => mentioned rest
  | .word name selection :: rest =>
      (if called rest then [] else [String.ofList (name ++ selection)]) ++ mentioned rest
  | .reference node :: rest =>
      (if called rest then [] else [String.ofList node]) ++ mentioned rest
  | .mark _ :: rest => mentioned rest

/-- Lexemes of arithmetic. Between two words stands something else, an operator does not
start a longer one, and only names are called. A name is none of the words that are
reserved in the language of expressions. -/
inductive IsArithmetic : List Lexeme -> Prop
  | nil : IsArithmetic []
  | blank
      {character : Char}
      {rest : List Lexeme}
      (isGap : Token.isGap character = true)
      (behind : IsArithmetic rest) : IsArithmetic (.blank character :: rest)
  | numeral
      {text : List Char}
      {rest : List Lexeme}
      (isNumeral : IsNumeral text)
      (ends : ends rest = true)
      (behind : IsArithmetic rest) : IsArithmetic (.numeral text :: rest)
  | word
      {name selection : List Char}
      {rest : List Lexeme}
      (named : Swizzle.isName name = true)
      (unreserved : Token.keywords.contains (String.ofList name) = false)
      (selects : Argument.IsSelection selection)
      (ends : ends rest = true)
      (behind : IsArithmetic rest) : IsArithmetic (.word name selection :: rest)
  | reference
      {node : List Char}
      {rest : List Lexeme}
      (named : Swizzle.isName node = true)
      (stemmed : Reference.stem <+: node)
      (numbered : Reference.stem.length < node.length)
      (ends : ends rest = true)
      (behind : IsArithmetic rest) : IsArithmetic (.reference node :: rest)
  | mark
      {character : Char}
      {rest : List Lexeme}
      (isMark : character ∈ Token.punctuation)
      (alone : character ∈ Token.separators ∨
        rest.head? ≠ some (.mark '*') ∧ rest.head? ≠ some (.mark '/'))
      (free : character = ')' -> called rest = false)
      (behind : IsArithmetic rest) : IsArithmetic (.mark character :: rest)

section Search

variable {character : Char} {text : List Char} {lexemes rest : List Lexeme}

theorem written_cons (lexeme : Lexeme) (rest : List Lexeme) :
    written (lexeme :: rest) = lexeme.chars ++ written rest :=
  List.flatMap_cons

theorem kind_of_isGap (isGap : Token.isGap character = true) :
    Text.isWord character = false ∧ Text.isBlank character = true ∧
      Token.isIdentifierLike character = false ∧ character ∉ ['.', '\'', '"', '\r', '(', '$'] := by
  rw [Token.isGap, Bool.or_eq_true, Bool.or_eq_true, beq_iff_eq, beq_iff_eq, beq_iff_eq] at isGap
  rcases isGap with (rfl | rfl) | rfl <;> decide

theorem kind_of_punctuation (isMark : character ∈ Token.punctuation) :
    Text.isWord character = false ∧ Text.isBlank character = false ∧
      Token.isIdentifierLike character = false ∧ character ∉ ['.', '\'', '"', '\r', '$'] := by
  simp only [Token.punctuation, List.mem_cons, List.not_mem_nil, or_false] at isMark
  rcases isMark with rfl | rfl | rfl | rfl | rfl | rfl | rfl <;> decide

/-- Where neither a numeral nor a word comes next, no word goes on in the text. -/
theorem IsArithmetic.ends_written
    (arithmetic : IsArithmetic rest)
    (ends : ends rest = true) :
    (written rest).head?.any Text.isWord = false ∧
      (written rest).head?.any Token.isIdentifierLike = false ∧
      ∀ character, (written rest).head? = some character ->
        character ≠ '.' ∧ character ≠ '\'' ∧ character ≠ '"' := by
  have next {character : Char} (noWord : Text.isWord character = false)
      (noIdentifier : Token.isIdentifierLike character = false)
      (other : character ∉ ['.', '\'', '"']) :
      (some character).any Text.isWord = false ∧
        (some character).any Token.isIdentifierLike = false ∧
        ∀ leading, some character = some leading ->
          leading ≠ '.' ∧ leading ≠ '\'' ∧ leading ≠ '"' := by
    refine ⟨noWord, noIdentifier, ?_⟩
    rintro _ ⟨⟩
    simpa using other
  cases arithmetic with
  | nil => simp [written]
  | blank isGap _ =>
      obtain ⟨noWord, _, noIdentifier, other⟩ := kind_of_isGap isGap
      rw [written_cons]
      exact next noWord noIdentifier fun present =>
        other (List.mem_append_left ['\r', '(', '$'] present)
  | mark isMark _ _ _ =>
      obtain ⟨noWord, _, noIdentifier, other⟩ := kind_of_punctuation isMark
      rw [written_cons]
      exact next noWord noIdentifier fun present => other (List.mem_append_left ['\r', '$'] present)
  | numeral => cases ends
  | word => cases ends
  | reference => cases ends

/-- A parenthesis comes next among lexemes if it does in the text. -/
theorem IsArithmetic.isCalled_written (arithmetic : IsArithmetic rest) :
    Argument.isCalled (written rest) = called rest := by
  have solid {first : Char} (noBlank : Text.isBlank first = false) (behind : List Char) :
      Argument.isCalled (first :: behind) = (first == '(') := by
    rw [Argument.isCalled, Text.trimStart, List.dropWhile_cons_of_neg (by simp [noBlank])]
    rfl
  induction arithmetic with
  | nil => rfl
  | blank isGap _ inductionHypothesis =>
      obtain ⟨_, isBlank, _⟩ := kind_of_isGap isGap
      rw [written_cons, called, ← inductionHypothesis, Argument.isCalled, Argument.isCalled,
        Text.trimStart, Text.trimStart]
      exact congrArg (fun text => text.head? == some '(') (List.dropWhile_cons_of_pos isBlank)
  | mark isMark _ _ _ =>
      obtain ⟨_, noBlank, _⟩ := kind_of_punctuation isMark
      rw [written_cons]
      exact solid noBlank _
  | @numeral text rest isNumeral _ _ _ =>
      obtain ⟨first, behind, rfl, noBlank, other⟩ := isNumeral.exists_cons
      rw [written_cons]
      exact (solid noBlank _).trans (beq_false_of_ne other)
  | @word name selection rest named _ _ _ _ _ =>
      cases name with
      | nil => cases named
      | cons first name =>
          have part := Argument.isNameRest_of_mem named first List.mem_cons_self
          rw [written_cons]
          exact (solid (Reference.isBlank_of_isWord (Argument.isWord_of_isNameRest part)) _).trans
            (beq_false_of_ne (Token.ne_of_isNameRest part (by decide)))
  | reference =>
      rw [written_cons]
      exact solid (by decide) _

end Search

/-! ## The search for names -/

section Search

variable {before : Option Char} {digits exponent rest : List Char}

theorem isName_of_isDigit
    {first : Char}
    (digit : first.isDigit = true)
    (rest : List Char) : Swizzle.isName (first :: rest) = false := by
  rw [Swizzle.isName, Bool.and_eq_false_iff]
  refine .inl (Bool.eq_false_iff.mpr fun starts => ?_)
  rw [Token.isDigit_of_isNameStart starts] at digit
  cases digit

/-- Digits and letters behind a digit are passed over. -/
theorem scan_digits
    (filled : digits ≠ [])
    (all : digits.all Char.isDigit = true)
    (letters : List Char)
    (words : ∀ letter ∈ letters, Text.isWord letter = true)
    (ends : rest.head?.any Text.isWord = false) :
    Argument.scan before 0 (digits ++ (letters ++ rest)) = Argument.scan none 0 rest := by
  obtain ⟨first, more, rfl⟩ := List.exists_cons_of_ne_nil filled
  rw [List.all_eq_true] at all
  rw [← List.append_assoc]
  refine Argument.scan_unnamed (fun character present => ?_)
    (isName_of_isDigit (all first List.mem_cons_self) _) ends
  rcases List.mem_append.mp present with digit | letter
  · exact Argument.isWord_of_isNameRest (Token.isNameRest_of_isDigit (all character digit))
  · exact words character letter

theorem scan_exponent
    (filled : digits ≠ [])
    (all : digits.all Char.isDigit = true)
    (isExponent : IsExponent exponent)
    (ends : rest.head?.any Text.isWord = false) :
    Argument.scan before 0 (digits ++ (exponent ++ rest)) = Argument.scan none 0 rest := by
  rcases isExponent with rfl | ⟨mark, sign, power, rfl, marks, signs, powerFilled, powerAll⟩
  · exact scan_digits filled all [] (by simp) ends
  have isMark : Text.isWord mark = true := by rcases marks with rfl | rfl <;> decide
  have signed {sign : Char} (noWord : Text.isWord sign = false) :
      Argument.scan before 0 (digits ++ (mark :: ([sign] ++ power) ++ rest)) =
        Argument.scan none 0 rest := by
    have first : Argument.scan before 0 (digits ++ ([mark] ++ sign :: (power ++ rest))) =
        Argument.scan none 0 (sign :: (power ++ rest)) :=
      scan_digits filled all [mark] (by simpa using isMark) noWord
    rw [Argument.scan_other noWord] at first
    exact first.trans (scan_digits powerFilled powerAll [] (by simp) ends)
  rcases signs with rfl | rfl | rfl
  · refine scan_digits filled all (mark :: power) (fun letter present => ?_) ends
    rcases List.mem_cons.mp present with rfl | digit
    · exact isMark
    · exact Argument.isWord_of_isNameRest
        (Token.isNameRest_of_isDigit (List.all_eq_true.mp powerAll letter digit))
  · exact signed (by decide)
  · exact signed (by decide)

/-- In a numeral nothing is found. -/
theorem scan_numeral
    {text : List Char}
    (isNumeral : IsNumeral text)
    (ends : rest.head?.any Text.isWord = false) :
    Argument.scan before 0 (text ++ rest) = Argument.scan none 0 rest := by
  obtain ⟨whole, fraction, exponent, rfl, wholeAll, isExponent, form⟩ := isNumeral
  rcases form with ⟨rfl, filled⟩ | ⟨digits, rfl, digitsAll, form⟩
  · rw [List.nil_append, List.append_assoc]
    exact scan_exponent filled wholeAll isExponent ends
  have pointed (before : Option Char) :
      Argument.scan before 0 ('.' :: (digits ++ (exponent ++ rest))) =
        Argument.scan none 0 rest := by
    rw [Argument.scan_other (by decide)]
    rcases form with filled | ⟨_, rfl⟩
    · exact scan_exponent filled digitsAll isExponent ends
    · cases digits with
      | nil => rfl
      | cons => exact scan_exponent (by simp) digitsAll isExponent ends
  have split : (whole ++ ('.' :: digits ++ exponent)) ++ rest =
      whole ++ ([] ++ '.' :: (digits ++ (exponent ++ rest))) := by simp
  rw [split]
  cases whole with
  | nil => exact pointed before
  | cons => exact (scan_digits (by simp) wholeAll [] (by simp) rfl).trans (pointed none)

end Search

/-- In an arithmetic text the words that are not called are found. -/
theorem IsArithmetic.scan_written
    {lexemes : List Lexeme}
    (arithmetic : IsArithmetic lexemes) :
    Argument.scan none 0 (written lexemes) = mentioned lexemes := by
  have found {name selection : List Char} {rest : List Lexeme}
      (named : Swizzle.isName name = true)
      (selects : Argument.IsSelection selection)
      (behind : IsArithmetic rest)
      (ends : ends rest = true)
      (inductionHypothesis : Argument.scan none 0 (written rest) = mentioned rest) :
      Argument.scan none 0 (name ++ (selection ++ written rest)) =
        (if called rest then [] else [String.ofList (name ++ selection)]) ++ mentioned rest := by
    obtain ⟨endsWord, _, other⟩ := behind.ends_written ends
    have split := Argument.splitSelection_append selects endsWord
      fun point => (other '.' point).1 rfl
    have selectionEnds : (selection ++ written rest).head?.any Text.isWord = false := by
      rcases selects with rfl | ⟨letters, rfl, _⟩
      · exact endsWord
      · rfl
    rw [Argument.scan_name rfl named selectionEnds, split]
    dsimp only
    rw [behind.isCalled_written, inductionHypothesis]
    split <;> rfl
  induction arithmetic with
  | nil => rfl
  | blank isGap _ inductionHypothesis =>
      rw [written_cons, mentioned, ← inductionHypothesis]
      exact Argument.scan_other (kind_of_isGap isGap).1 _
  | mark isMark _ _ _ inductionHypothesis =>
      rw [written_cons, mentioned, ← inductionHypothesis]
      exact Argument.scan_other (kind_of_punctuation isMark).1 _
  | numeral isNumeral ends behind inductionHypothesis =>
      rw [written_cons, mentioned, ← inductionHypothesis]
      exact scan_numeral isNumeral (behind.ends_written ends).1
  | word named _ selects ends behind inductionHypothesis =>
      rw [written_cons, mentioned, chars, List.append_assoc]
      exact found named selects behind ends inductionHypothesis
  | @reference node rest named _ _ ends behind inductionHypothesis =>
      have plain := found named (.inl rfl) behind ends inductionHypothesis
      rw [List.append_nil, List.nil_append] at plain
      rw [written_cons, mentioned, chars, List.cons_append]
      exact (Argument.scan_other (by decide) _).trans plain

/-! ## Tokens -/

/-- A reference starts no token. -/
theorem not_scans_reference
    (rest : List Char)
    (found : List TokenKind) : ¬Token.Scans ('$' :: rest) found := by
  have unmarked : Token.marked? ('$' :: rest) = none :=
    Token.marked?_of_next fun character leads => by
      cases leads
      decide
  have invalid : (Token.cut ('$' :: rest)).kind = .invalid := by
    have noSymbol : Token.symbol? ('$' :: rest) = none := by
      simp [Token.symbol?, Token.symbols, List.isPrefixOf]
    have noIdentifier : Token.isIdentifierLike '$' = false := by decide
    unfold Token.cut
    rw [unmarked]
    simp [noSymbol, noIdentifier]
  rintro ⟨fuel, place, brackets, emptyLine, valid, -⟩
  cases fuel with
  | zero => exact Token.not_areValid place valid
  | succ fuel =>
      rw [Token.scan_token _ _ _ _ (by decide) (by decide), if_pos (.inl invalid)] at valid
      exact Token.not_areValid place valid

/-- The kinds of the tokens of lexemes without references and selections. -/
inductive Spells : List Lexeme -> List TokenKind -> Prop
  | nil : Spells [] [.stop]
  | blank
      {character : Char}
      {rest : List Lexeme}
      {kinds : List TokenKind}
      (behind : Spells rest kinds) : Spells (.blank character :: rest) kinds
  | numeral
      {text : List Char}
      {value : Numeral}
      {rest : List Lexeme}
      {kinds : List TokenKind}
      (behind : Spells rest kinds) : Spells (.numeral text :: rest) (.number value :: kinds)
  | word
      {name : List Char}
      {rest : List Lexeme}
      {kinds : List TokenKind}
      (behind : Spells rest kinds) :
      Spells (.word name [] :: rest) (.identifier (String.ofList name) :: kinds)
  | mark
      {character : Char}
      {rest : List Lexeme}
      {kinds : List TokenKind}
      (behind : Spells rest kinds) :
      Spells (.mark character :: rest) (.symbol (String.singleton character) :: kinds)

theorem isWhole_of_isNumeral
    {text : List Char}
    (isNumeral : IsNumeral text)
    (noPoint : '.' ∉ text) : Token.IsWhole text := by
  obtain ⟨whole, fraction, exponent, rfl, all, isExponent, ⟨rfl, filled⟩ | ⟨_, rfl, _⟩⟩ :=
    isNumeral
  · exact ⟨whole, exponent, rfl, filled, all, isExponent⟩
  · exact absurd (by simp) noPoint

/-- An operator is a symbol by itself where the lexemes behind it start no longer one. -/
theorem IsArithmetic.endsSymbol_written
    {rest : List Lexeme}
    (arithmetic : IsArithmetic rest)
    (times : rest.head? ≠ some (.mark '*'))
    (divides : rest.head? ≠ some (.mark '/')) : Token.endsSymbol (written rest) = true := by
  have other {first : Char} (noSymbol : first ∉ ['=', '>', '*', '/']) (behind : List Char) :
      Token.endsSymbol (first :: behind) = true := by
    simpa [Token.endsSymbol] using noSymbol
  have ofNameRest {first : Char} (part : Text.isNameRest first = true) (behind : List Char) :
      Token.endsSymbol (first :: behind) = true := by
    refine other (fun present => ?_) behind
    have noParts : ∀ mark ∈ ['=', '>', '*', '/'], Text.isNameRest mark = false :=
      List.all_iff_forall_prop.mp (by decide)
    rw [noParts first present] at part
    cases part
  cases arithmetic with
  | nil => rfl
  | blank isGap _ =>
      rw [written_cons]
      refine other (fun present => ?_) _
      have noGaps : ∀ mark ∈ ['=', '>', '*', '/'], Token.isGap mark = false :=
        List.all_iff_forall_prop.mp (by decide)
      rw [noGaps _ present] at isGap
      cases isGap
  | mark isMark _ _ _ =>
      simp only [Token.punctuation, List.mem_cons, List.not_mem_nil, or_false] at isMark
      rw [written_cons]
      rcases isMark with rfl | rfl | rfl | rfl | rfl | rfl | rfl
      case inr.inr.inl => exact absurd rfl times
      case inr.inr.inr.inl => exact absurd rfl divides
      all_goals exact other (by decide) _
  | numeral isNumeral _ _ =>
      obtain ⟨whole, fraction, exponent, rfl, all, _, form⟩ := isNumeral
      rw [written_cons]
      cases whole with
      | cons first whole =>
          exact ofNameRest (Token.isNameRest_of_isDigit
            (List.all_eq_true.mp all first List.mem_cons_self)) _
      | nil =>
          rcases form with ⟨_, filled⟩ | ⟨digits, rfl, _⟩
          · exact absurd rfl filled
          · exact other (by decide) _
  | @word name selection rest named _ _ _ _ =>
      cases name with
      | nil => cases named
      | cons first name =>
          rw [written_cons]
          exact ofNameRest (Argument.isNameRest_of_mem named first List.mem_cons_self) _
  | reference =>
      rw [written_cons]
      exact other (by decide) _

/-- By induction on the lexemes: each of them is found as one token, or as none if it is a
blank. -/
theorem IsArithmetic.spells
    {lexemes : List Lexeme}
    {kinds : List TokenKind}
    (arithmetic : IsArithmetic lexemes)
    (noPoint : '.' ∉ written lexemes)
    (scans : Token.Scans (written lexemes) kinds) : Spells lexemes kinds := by
  induction arithmetic generalizing kinds with
  | nil =>
      rw [scans.nil]
      exact .nil
  | blank isGap _ inductionHypothesis =>
      rw [written_cons, List.mem_append, not_or] at noPoint
      exact .blank (inductionHypothesis noPoint.2 (scans.gap isGap))
  | numeral isNumeral ends behind inductionHypothesis =>
      rw [written_cons, List.mem_append, not_or] at noPoint
      rw [written_cons] at scans
      obtain ⟨endsWord, _, other⟩ := behind.ends_written ends
      obtain ⟨value, others, rfl, rest⟩ := scans.whole (isWhole_of_isNumeral isNumeral noPoint.1)
        (Argument.any_isNameRest_eq_false endsWord) fun point => (other '.' point).1 rfl
      exact .numeral (inductionHypothesis noPoint.2 rest)
  | word named unreserved selects ends behind inductionHypothesis =>
      rw [written_cons, List.mem_append, not_or, chars, List.mem_append, not_or] at noPoint
      obtain rfl : _ = [] := selects.resolve_right fun ⟨letters, pointed, _⟩ =>
        noPoint.1.2 (pointed ▸ List.mem_cons_self)
      rw [written_cons, chars, List.append_nil] at scans
      obtain ⟨_, endsIdentifier, other⟩ := behind.ends_written ends
      obtain ⟨others, rfl, rest⟩ := scans.name named endsIdentifier fun character leads =>
        (other character leads).2
      rw [Token.wordKind_of_isName named, unreserved, if_neg Bool.false_ne_true]
      exact .word (inductionHypothesis noPoint.2 rest)
  | reference =>
      rw [written_cons] at scans
      exact absurd scans (not_scans_reference _ _)
  | mark isMark alone _ behind inductionHypothesis =>
      rw [written_cons, List.mem_append, not_or] at noPoint
      obtain ⟨others, rfl, rest⟩ := scans.punctuation isMark
        (alone.imp_right fun ⟨times, divides⟩ => behind.endsSymbol_written times divides)
      exact .mark (inductionHypothesis noPoint.2 rest)

/-- The tokens open a parenthesis where the lexemes do, and their names that are not called
are the words that are not. -/
theorem Spells.freeNames
    {lexemes : List Lexeme}
    {kinds : List TokenKind}
    (spells : Spells lexemes kinds)
    (number : Nat) :
    Reader.opens (Expression.marksFrom number kinds) = called lexemes ∧
      Reader.freeNames (Expression.marksFrom number kinds) = mentioned lexemes := by
  induction spells generalizing number with
  | nil => exact ⟨rfl, rfl⟩
  | blank _ inductionHypothesis => exact inductionHypothesis number
  | numeral _ inductionHypothesis => exact ⟨rfl, (inductionHypothesis (number + 1)).2⟩
  | word _ inductionHypothesis =>
      obtain ⟨opens, names⟩ := inductionHypothesis (number + 1)
      refine ⟨rfl, ?_⟩
      rw [Expression.marksFrom, mentioned, ← opens, ← names, List.append_nil]
      exact Reader.freeNames_of_identifier rfl
  | @mark character _ _ _ inductionHypothesis =>
      refine ⟨?_, (inductionHypothesis (number + 1)).2⟩
      change decide (TokenKind.symbol (String.singleton character) = .symbol "(") =
        (character == '(')
      by_cases same : character = '('
      · rw [same]
        rfl
      · rw [beq_false_of_ne same]
        refine decide_eq_false fun opening => same ?_
        simpa using congrArg String.toList (TokenKind.symbol.inj opening)

theorem Spells.isArithmetic
    {lexemes : List Lexeme}
    {kinds : List TokenKind}
    (spells : Spells lexemes kinds)
    (arithmetic : IsArithmetic lexemes)
    (number : Nat) : Reader.IsArithmetic (Expression.marksFrom number kinds) := by
  induction spells generalizing number with
  | nil => exact ⟨by simp [Expression.marksFrom, TokenKind.isArithmetic], .singleton _⟩
  | blank _ inductionHypothesis =>
      cases arithmetic with
      | blank _ behind => exact inductionHypothesis behind number
  | numeral _ inductionHypothesis =>
      cases arithmetic with
      | numeral _ _ behind => exact (inductionHypothesis behind _).cons rfl (by rintro ⟨⟩)
  | word _ inductionHypothesis =>
      cases arithmetic with
      | word _ _ _ _ behind => exact (inductionHypothesis behind _).cons rfl (by rintro ⟨⟩)
  | @mark character _ _ spelled inductionHypothesis =>
      cases arithmetic with
      | mark isMark _ free behind =>
          refine (inductionHypothesis behind _).cons ?_ fun closes => ?_
          · change (TokenKind.symbol (String.singleton character)).isArithmetic = true
            simp only [Token.punctuation, List.mem_cons, List.not_mem_nil, or_false] at isMark
            rcases isMark with rfl | rfl | rfl | rfl | rfl | rfl | rfl <;> decide
          · rw [(spelled.freeNames _).1]
            exact free (by simpa using congrArg String.toList (TokenKind.symbol.inj closes))

/-- What is no part of a name does not stand in a word. -/
theorem not_mem_word
    {name selection : List Char}
    {odd : Char}
    (named : Swizzle.isName name = true)
    (selects : Argument.IsSelection selection)
    (noPart : Text.isNameRest odd = false)
    (other : odd ≠ '.') : odd ∉ name ++ selection := by
  have ofParts {text : List Char} (parts : ∀ character ∈ text, Text.isNameRest character = true) :
      odd ∉ text := fun present => by
    rw [parts odd present] at noPart
    cases noPart
  rw [List.mem_append, not_or]
  refine ⟨ofParts (Argument.isNameRest_of_mem named), ?_⟩
  rcases selects with rfl | ⟨letters, rfl, _, parts⟩
  · exact List.not_mem_nil
  · rw [List.mem_cons, not_or]
    exact ⟨other, ofParts parts⟩

theorem IsArithmetic.free_written
    {lexemes : List Lexeme}
    (arithmetic : IsArithmetic lexemes) : '\r' ∉ written lexemes := by
  induction arithmetic with
  | nil => exact List.not_mem_nil
  | blank isGap _ inductionHypothesis =>
      obtain ⟨_, _, _, other⟩ := kind_of_isGap isGap
      rw [written_cons, List.mem_append, not_or]
      refine ⟨fun present => other ?_, inductionHypothesis⟩
      rw [← List.mem_singleton.mp present]
      simp
  | numeral isNumeral _ _ inductionHypothesis =>
      rw [written_cons, List.mem_append, not_or]
      exact ⟨isNumeral.not_mem (by decide) (by decide), inductionHypothesis⟩
  | word named _ selects _ _ inductionHypothesis =>
      rw [written_cons, List.mem_append, not_or]
      exact ⟨not_mem_word named selects (by decide) (by decide), inductionHypothesis⟩
  | @reference node _ named _ _ _ _ inductionHypothesis =>
      rw [written_cons, List.mem_append, not_or]
      have noWord : '\r' ∉ node ++ [] := not_mem_word named (.inl rfl) (by decide) (by decide)
      refine ⟨?_, inductionHypothesis⟩
      simpa [chars] using noWord
  | mark isMark _ _ _ inductionHypothesis =>
      obtain ⟨_, _, _, other⟩ := kind_of_punctuation isMark
      rw [written_cons, List.mem_append, not_or]
      refine ⟨fun present => other ?_, inductionHypothesis⟩
      rw [← List.mem_singleton.mp present]
      simp

/-! ## Readings -/

/-- Lexemes of arithmetic make up the text of an argument, blanks around it aside. -/
structure Compose (lexemes : List Lexeme) (text : String) : Prop where
  arithmetic : IsArithmetic lexemes
  text : Text.trim text.toList = written lexemes

section Readings

variable {lexemes : List Lexeme} {text : String}

theorem Compose.trimmed (compose : Compose lexemes text) :
    Compose lexemes (Text.trimmed text) ∧ (Text.trimmed text).toList = written lexemes := by
  have same : (Text.trimmed text).toList = written lexemes := by
    rw [Text.trimmed, String.toList_ofList, compose.text]
  refine ⟨⟨compose.arithmetic, ?_⟩, same⟩
  rw [Text.trimmed, String.toList_ofList, Text.trim_trim, compose.text]

/-- What the evaluator reads in an arithmetic text without a point are the words that are
not called, apart from its constants. -/
theorem Compose.mem_reads
    {evaluator : Evaluator}
    {names : List String}
    (compose : Compose lexemes text)
    (noPoint : '.' ∉ written lexemes)
    (reading : evaluator.reads text = .ok names)
    (name : String) :
    name ∈ names ↔ name ∈ mentioned lexemes ∧ evaluator.constants.has name = false := by
  obtain ⟨kinds, tree, scans, accepted, rfl⟩ := Evaluator.scans_of_reads reading
  rw [compose.text, Reference.unifyLineBreaks_eq_self compose.arithmetic.free_written] at scans
  have spells := compose.arithmetic.spells noPoint scans
  have mentions :=
    Expression.mentions_of_ofKinds (spells.isArithmetic compose.arithmetic 1) accepted
  rw [(spells.freeNames 1).2] at mentions
  rw [Evaluator.namesOf, Text.mem_sortedNames, List.mem_filter, mentions, Bool.not_eq_true']

/-- An arithmetic text depends on the words that are not called. Of the constants of the
evaluator it need not depend, unless there is a point. -/
theorem Compose.mem_dependencies
    (interpreter : Interpreter)
    (compose : Compose lexemes text)
    (same : text.toList = written lexemes)
    (read : String) :
    (read ∈ interpreter.dependencies text -> read ∈ mentioned lexemes) ∧
      (read ∈ mentioned lexemes -> read ∈ interpreter.dependencies text ∨
        interpreter.evaluator.constants.has read = true ∧ '.' ∉ written lexemes) := by
  have searched : read ∈ Argument.names text ↔ read ∈ mentioned lexemes := by
    rw [Interpreter.mem_names, same, compose.arithmetic.scan_written]
  rw [Interpreter.dependencies]
  split
  case isTrue => exact ⟨searched.mp, fun found => .inl (searched.mpr found)⟩
  case isFalse noPoint =>
    rw [Swizzle.hasPoint, same, List.contains_iff_mem] at noPoint
    split
    case h_1 names reading =>
      rw [compose.mem_reads noPoint reading]
      refine ⟨And.left, fun found => ?_⟩
      cases isConstant : interpreter.evaluator.constants.has read with
      | false => exact .inl ⟨found, rfl⟩
      | true => exact .inr ⟨rfl, noPoint⟩
    case h_2 => exact ⟨searched.mp, fun found => .inl (searched.mpr found)⟩

end Readings
end Lexeme

namespace Argument

/-- A name is found with the selection behind it. -/
theorem scan_selected
    {name selection : List Char}
    (named : Swizzle.isName name = true)
    (selects : IsSelection selection) :
    scan none 0 (name ++ selection) = [String.ofList (name ++ selection)] := by
  have split : splitSelection (selection ++ []) = (selection, []) :=
    splitSelection_append selects rfl (by simp)
  have ends : selection.head?.any Text.isWord = false := by
    rcases selects with rfl | ⟨letters, rfl, _⟩ <;> rfl
  rw [List.append_nil] at split
  rw [scan_name rfl named ends, split]
  rfl

/-- A simple variable is found as it is. -/
theorem scan_of_isSimple
    {text : String}
    (simple : Swizzle.isSimple text = true)
    (solid : text.toList.getLast? ≠ some '\n') : scan none 0 text.toList = [text] := by
  have whole : Swizzle.dropFinalBreak text.toList = text.toList := by
    rw [Swizzle.dropFinalBreak, if_neg (by simpa using solid)]
  rw [Swizzle.isSimple, whole, Bool.or_eq_true, Bool.and_eq_true, Bool.and_eq_true] at simple
  rcases simple with named | ⟨⟨named, filled⟩, letters⟩
  · have found := scan_selected named (.inl rfl)
    rwa [List.append_nil, String.ofList_toList] at found
  · obtain ⟨split, pointed⟩ := Interpreter.split_at_point text.toList
    have selects : IsSelection (text.toList.dropWhile (· != '.')) := by
      refine .inr ⟨Swizzle.selectionChars text.toList, pointed.resolve_left fun none => ?_,
        by simpa using filled, fun letter present => ?_⟩
      · rw [Swizzle.selectionChars, none] at filled
        cases filled
      · have parts : ∀ letter ∈ Swizzle.simpleLetters, Text.isNameRest letter = true :=
          List.all_iff_forall_prop.mp (by decide)
        exact parts letter (List.contains_iff_mem.mp (List.all_eq_true.mp letters letter present))
    have found := scan_selected named selects
    rwa [← split, String.ofList_toList] at found

/-- There is no line break at the end of a trimmed text. -/
theorem scan_trimmed_of_isSimple
    {text : String}
    (simple : Swizzle.isSimple (Text.trimmed text) = true) :
    scan none 0 (Text.trimmed text).toList = [Text.trimmed text] := by
  refine scan_of_isSimple simple ?_
  rw [Text.trimmed, String.toList_ofList, Text.trim, List.getLast?_reverse]
  intro last
  cases Text.isBlank_head?_trimStart last

end Argument

namespace Lexeme

variable {lexemes : List Lexeme} {text : String}

/-- The constants of the evaluator. -/
theorem has_default_constants (name : String) :
    Table.has (Evaluator.constants {}) name = (name == "pi" || name == "e") := by
  rw [Table.has, Evaluator.constants, Table.find?_cons, Table.find?_cons]
  cases name == "pi" <;> cases name == "e" <;> rfl

/-- The only word in the text of a simple variable is the variable. -/
theorem Compose.mentioned_of_isSimple
    (compose : Compose lexemes text)
    (simple : Swizzle.isSimple (Text.trimmed text) = true) :
    mentioned lexemes = [Text.trimmed text] := by
  have found := Argument.scan_trimmed_of_isSimple simple
  rwa [compose.trimmed.2, compose.arithmetic.scan_written] at found

/-- An arithmetic text depends on every word that is not called, unless the word is a
constant of the evaluator in a text without a point. -/
theorem Compose.dependsOn_or_constant
    (builtins : Builtins)
    (compose : Compose lexemes text)
    {read : String}
    (listed : read ∈ mentioned lexemes) :
    Interpreter.DependsOn { builtins } text (Swizzle.base read) ∨
      (read = "pi" ∨ read = "e") ∧ '.' ∉ written lexemes := by
  obtain ⟨trimmed, same⟩ := compose.trimmed
  cases simple : Swizzle.isSimple (Text.trimmed text) with
  | true =>
      rw [compose.mentioned_of_isSimple simple, List.mem_singleton] at listed
      exact .inl ((Interpreter.dependsOn_of_isSimple simple).mpr (by rw [listed]))
  | false =>
      rw [Interpreter.dependsOn_of_not_isSimple simple]
      refine ((trimmed.mem_dependencies { builtins } same read).2 listed).imp
        (fun found => ⟨read, found, rfl⟩) (And.imp_left fun isConstant => ?_)
      rw [has_default_constants, Bool.or_eq_true, beq_iff_eq, beq_iff_eq] at isConstant
      exact isConstant

/-- An arithmetic text depends on nothing but words that are not called. -/
theorem Compose.exists_of_dependsOn
    {builtins : Builtins}
    {name : String}
    (compose : Compose lexemes text)
    (depends : Interpreter.DependsOn { builtins } text name) :
    ∃ read ∈ mentioned lexemes, Swizzle.base read = name := by
  obtain ⟨trimmed, same⟩ := compose.trimmed
  cases simple : Swizzle.isSimple (Text.trimmed text) with
  | true =>
      rw [compose.mentioned_of_isSimple simple]
      exact ⟨_, List.mem_singleton_self _, (Interpreter.dependsOn_of_isSimple simple).mp depends⟩
  | false =>
      obtain ⟨read, listed, isBase⟩ := (Interpreter.dependsOn_of_not_isSimple simple).mp depends
      exact ⟨read, (trimmed.mem_dependencies _ same read).1 listed, isBase⟩

end Lexeme
end ShaderGraph
