import ShaderGraph.Proofs.Expression.Literal
import ShaderGraph.Proofs.Expression.Scanning

/-!
# Tokens of a formula

In a text that spells a formula every piece is one token. Blanks may stand between them,
and line breaks within parentheses, and the parentheses may nest as deep as brackets do in
any expression. The formula is then read from the kinds of its pieces alone.
-/

namespace ShaderGraph

/-- The symbol of an operator. -/
def Connective.symbol : Connective -> String
  | .plus => "+"
  | .minus => "-"
  | .times => "*"
  | .over => "/"
  | .percent => "%"
  | .caret => "^"
  | .stars => "**"

namespace Piece

/-- The number that a literal is. -/
def numeral (text : List Char) : Numeral :=
  match (Token.number text).1 with
  | .number value => value
  | _ => .integer 0

/-- The identifier that a name is. -/
def identifier (name : List Char) : String :=
  String.ofList (Text.normalForm name)

/-- The kind of token that a piece is. -/
def kind : Piece -> TokenKind
  | .literal text => .number (numeral text)
  | .word name _ => .identifier (identifier name)
  | .opening => .symbol "("
  | .closing => .symbol ")"
  | .comma => .symbol ","
  | .sign negative => .symbol (if negative then "-" else "+")
  | .connective mark => .symbol mark.symbol

/-- Whether a piece is one token: a literal is a number, and a word is an identifier that
nothing is selected from. -/
def IsToken : Piece -> Prop
  | .literal text => Token.IsNumber text (numeral text)
  | .word name selection =>
      Token.wordKind name = .identifier (identifier name) ∧ selection = []
  | _ => True

/-- The largest number of open parentheses among pieces. -/
def height : Nat -> List Piece -> Nat
  | depth, [] => depth
  | depth, piece :: rest => max depth (height (piece.depthAfter depth) rest)

theorem le_height (depth : Nat) (pieces : List Piece) : depth ≤ height depth pieces := by
  cases pieces with
  | nil => exact Nat.le_refl _
  | cons => exact Nat.le_max_left _ _

end Piece

namespace Token

variable {rest : List Char}

/-- A word that is no keyword is an identifier. -/
theorem isIdentifier_of_wordKind
    {name : List Char}
    {identifier : String}
    (known : wordKind name = .identifier identifier) : isIdentifier name = true := by
  by_contra other
  rw [wordKind, Bool.eq_false_iff.mpr other] at known
  cases known

/-! ## Tokens -/

/-- What may stand behind a number or an identifier. -/
structure EndsWord (rest : List Char) : Prop where
  noWord : rest.head?.any isIdentifierLike = false
  other : ∀ character, rest.head? = some character ->
    character ≠ '.' ∧ character ≠ '\'' ∧ character ≠ '"'

theorem EndsWord.noPart (ends : EndsWord rest) : rest.head?.any Text.isNameRest = false :=
  head?_any_mono (fun _ part => by rw [isIdentifierLike, part, Bool.true_or]) ends.noWord

theorem EndsWord.noPoint (ends : EndsWord rest) : rest.head? ≠ some '.' :=
  fun leads => (ends.other '.' leads).1 rfl

/-- The first character of a number. -/
theorem IsNumber.exists_cons
    {text : List Char}
    {value : Numeral}
    (isNumber : IsNumber text value) :
    ∃ first more, text = first :: more ∧ first.isAlpha = false ∧ first ≠ '\'' ∧ first ≠ '"' ∧
      isGap first = false ∧ first ∉ ['\n', '\r', '#', '\\', '=', '>', '*', '/'] ∧
      (first.isDigit || (first == '.' && (more.headD ' ').isDigit)) = true := by
  rcases isNumber.1 with digit | ⟨digits, rfl, digit⟩
  · cases text with
    | nil => cases digit
    | cons first more =>
        rw [List.head?_cons, Option.any_some] at digit
        have part := isNameRest_of_isDigit digit
        have noAlpha : first.isAlpha = false := by
          refine Bool.eq_false_iff.mpr fun alpha => ?_
          rw [isDigit_of_isNameStart (by rw [Text.isNameStart, alpha]; rfl)] at digit
          cases digit
        have other (mark : Char) (noPart : Text.isNameRest mark = false) : first ≠ mark :=
          ne_of_isNameRest part noPart
        refine ⟨first, more, rfl, noAlpha, other _ (by decide), other _ (by decide),
          (ne_of_isNameRest_head part).1, ?_, by rw [digit, Bool.true_or]⟩
        simp only [List.mem_cons, List.not_mem_nil, or_false, not_or]
        exact ⟨other _ (by decide), other _ (by decide), other _ (by decide), other _ (by decide),
          other _ (by decide), other _ (by decide), other _ (by decide), other _ (by decide)⟩
  · refine ⟨'.', digits, rfl, by decide, by decide, by decide, by decide, by decide, ?_⟩
    cases digits with
    | nil => cases digit
    | cons => simpa using digit

/-- A number is one token in front of what may stand behind one. -/
theorem cut_number
    {text : List Char}
    {value : Numeral}
    (isNumber : IsNumber text value)
    (ends : EndsWord rest) : cut (text ++ rest) = { kind := .number value, rest } := by
  have number := isNumber.number_append ends.noPart ends.noPoint
  obtain ⟨first, more, rfl, noAlpha, noSingle, noDouble, -, -, starts⟩ := isNumber.exists_cons
  have unmarked : marked? (first :: (more ++ rest)) = none := by
    refine marked?_of_next fun character leads => ?_
    rw [List.dropWhile_cons_of_neg (by simp [noAlpha])] at leads
    cases leads
    exact ⟨noSingle, noDouble⟩
  have startsLonger :
      (first.isDigit || (first == '.' && ((more ++ rest).headD ' ').isDigit)) = true := by
    cases more with
    | cons => exact starts
    | nil =>
        rw [Bool.or_eq_true, Bool.and_eq_true] at starts ⊢
        exact .inl (starts.resolve_right fun pointed => by cases pointed.2)
  rw [List.cons_append] at number ⊢
  unfold cut
  rw [unmarked]
  dsimp only
  rw [if_pos startsLonger, number]

/-- The symbol of an operator is known, and few characters can follow it. -/
theorem followers_connective : ∀ mark ∈ [.plus, .minus, .times, .over, .percent, .caret, .stars],
    symbol? (Connective.chars mark) = some mark.symbol ∧
      followers mark.chars ⊆ ['=', '>', '*', '/'] := by
  decide +kernel

/-- An operator is read as its own symbol. -/
theorem symbol?_connective
    (mark : Connective)
    (ends : endsSymbol rest = true) : symbol? (mark.chars ++ rest) = some mark.symbol := by
  obtain ⟨found, lengthened⟩ := followers_connective mark (by cases mark <;> simp)
  rw [← found]
  exact symbol?_of_endsSymbol lengthened ends

/-- An operator is one token in front of what starts no longer one. -/
theorem cut_connective
    (mark : Connective)
    (ends : endsSymbol rest = true) :
    cut (mark.chars ++ rest) = { kind := .symbol mark.symbol, rest } := by
  have found := symbol?_connective mark ends
  cases mark <;> exact cut_symbol (isSign_of_mem (by decide)) found

end Token

/-! ## Pieces -/

/-- A blank between tokens, or a line break within parentheses. -/
def IsTokenGap (depth : Nat) (character : Char) : Prop :=
  Token.isGap character = true ∨ 0 < depth ∧ character = '\n'

namespace Piece

/-- How a piece starts: with no blank, with no word if it may follow one, and with nothing
that makes an operator longer if it may follow one. -/
structure StartsWith (piece : Piece) (first : Char) : Prop where
  solid : Token.isGap first = false ∧ first ∉ ['\n', '#', '\\']
  behindWord : piece.separates = true ∨ piece = .opening ->
    Token.isIdentifierLike first = false ∧ first ∉ ['.', '\'', '"']
  behindSymbol : piece.starts = true -> first ∉ ['=', '>', '*', '/']

/-- A token starts with a character of its kind. -/
theorem IsToken.exists_startsWith
    {piece : Piece}
    (isToken : piece.IsToken) :
    ∃ first more, piece.chars = first :: more ∧ piece.StartsWith first := by
  cases piece with
  | literal text =>
      obtain ⟨first, more, rfl, -, -, -, noGap, other, -⟩ := isToken.exists_cons
      simp only [List.mem_cons, List.not_mem_nil, or_false, not_or] at other
      refine ⟨first, more, rfl, ⟨noGap, ?_⟩, by simp [separates], fun _ => ?_⟩ <;> simp [other]
  | word name selection =>
      have identifier := Token.isIdentifier_of_wordKind isToken.1
      cases name with
      | nil => cases identifier
      | cons first name =>
          have like := Token.isIdentifierLike_of_isIdentifier identifier first List.mem_cons_self
          have other (mark : Char) (noWord : Token.isIdentifierLike mark = false) : first ≠ mark :=
            Token.ne_of_isIdentifierLike like noWord
          refine ⟨first, _, rfl, ⟨?_, ?_⟩, by simp [separates], fun _ => ?_⟩
          · rw [Token.isGap, beq_false_of_ne (other _ (by decide)),
              beq_false_of_ne (other _ (by decide)), beq_false_of_ne (other _ (by decide))]
            rfl
          · simp [other '\n' (by decide), other '#' (by decide), other '\\' (by decide)]
          · simp [other '=' (by decide), other '>' (by decide), other '*' (by decide),
              other '/' (by decide)]
  | opening => exact ⟨'(', [], rfl, by decide, fun _ => by decide, fun _ => by decide⟩
  | closing => exact ⟨')', [], rfl, by decide, fun _ => by decide, by simp [starts]⟩
  | comma => exact ⟨',', [], rfl, by decide, fun _ => by decide, by simp [starts]⟩
  | sign negative =>
      cases negative <;> exact ⟨_, [], rfl, by decide, fun _ => by decide, fun _ => by decide⟩
  | connective mark =>
      cases mark <;> exact ⟨_, _, rfl, by decide, fun _ => by decide, by simp [starts]⟩

/-- Apart from its marks a piece has characters of words only, and only one mark is a
caret. -/
theorem IsToken.mem_chars
    {piece : Piece}
    (isToken : piece.IsToken)
    {character : Char}
    (present : character ∈ piece.chars) :
    Token.isIdentifierLike character = true ∨
      character ∈ ['.', '+', '-', '(', ')', ',', '*', '/', '%'] ∨
      character = '^' ∧ piece = .connective .caret := by
  cases piece with
  | literal text =>
      by_contra other
      simp only [not_or, List.mem_cons, List.not_mem_nil] at other
      obtain ⟨noWord, marks, -⟩ := other
      rw [Token.isIdentifierLike, Bool.or_eq_true, not_or, Bool.not_eq_true] at noWord
      exact isToken.isLiteral.not_mem noWord.1 (by simp [marks]) present
  | word name selection =>
      obtain ⟨known, rfl⟩ := isToken
      rw [chars, List.append_nil] at present
      exact .inl (Token.isIdentifierLike_of_isIdentifier
        (Token.isIdentifier_of_wordKind known) character present)
  | opening => exact .inr (.inl (by simp [List.mem_singleton.mp present]))
  | closing => exact .inr (.inl (by simp [List.mem_singleton.mp present]))
  | comma => exact .inr (.inl (by simp [List.mem_singleton.mp present]))
  | sign negative =>
      cases negative <;> exact .inr (.inl (by simp [List.mem_singleton.mp present]))
  | connective mark =>
      cases mark
      case caret => exact .inr (.inr ⟨List.mem_singleton.mp present, rfl⟩)
      case stars =>
        have same : character = '*' := by simpa [chars, Connective.chars] using present
        exact .inr (.inl (by simp [same]))
      all_goals exact .inr (.inl (by simp [List.mem_singleton.mp present]))

theorem IsToken.not_mem
    {piece : Piece}
    {odd : Char}
    (isToken : piece.IsToken)
    (noWord : Token.isIdentifierLike odd = false)
    (noMark : odd ∉ ['.', '+', '-', '(', ')', ',', '*', '/', '%', '^']) : odd ∉ piece.chars := by
  intro present
  rcases isToken.mem_chars present with word | mark | ⟨rfl, _⟩
  · exact Bool.false_ne_true (noWord.symm.trans word)
  · exact noMark (List.mem_append_left ['^'] mark)
  · exact noMark (by decide)

end Piece

/-- A blank between tokens, or within parentheses a line break of any kind. -/
def IsSourceGap (depth : Nat) (character : Char) : Prop :=
  Token.isGap character = true ∨ 0 < depth ∧ (character = '\n' ∨ character = '\r')

section Spelling

open Token

variable {depth : Nat} {pieces : List Piece} {text : List Char}

/-- A word ends where the next piece separates. -/
theorem Spaced.endsWord
    (spaced : Spaced IsTokenGap depth pieces text)
    (tokens : ∀ piece ∈ pieces, piece.IsToken)
    (marked : ∀ next, pieces.head? = some next -> next.separates = true ∨ next = .opening) :
    EndsWord text := by
  have next {first : Char} {behind : List Char}
      (noWord : isIdentifierLike first = false)
      (other : first ∉ ['.', '\'', '"']) : EndsWord (first :: behind) := by
    refine ⟨noWord, ?_⟩
    rintro _ ⟨⟩
    simpa using other
  cases spaced with
  | nil => exact ⟨rfl, by simp⟩
  | gap blank _ =>
      rcases blank with blank | ⟨_, rfl⟩
      · obtain ⟨_, _, noWord, other⟩ := Lexeme.kind_of_isGap blank
        exact next noWord fun present => other (List.mem_append_left ['\r', '(', '$'] present)
      · exact next (by decide) (by decide)
  | @piece _ piece _ _ _ =>
      obtain ⟨first, more, same, startsWith⟩ := (tokens piece List.mem_cons_self).exists_startsWith
      obtain ⟨noWord, other⟩ := startsWith.behindWord (marked piece rfl)
      rw [same]
      exact next noWord other

/-- A symbol ends where the next piece starts. -/
theorem Spaced.endsSymbol
    (spaced : Spaced IsTokenGap depth pieces text)
    (tokens : ∀ piece ∈ pieces, piece.IsToken)
    (starts : ∀ next, pieces.head? = some next -> next.starts = true) :
    Token.endsSymbol text = true := by
  have next {first : Char} {behind : List Char}
      (other : first ∉ ['=', '>', '*', '/']) : Token.endsSymbol (first :: behind) = true := by
    simpa [Token.endsSymbol] using other
  cases spaced with
  | nil => rfl
  | @gap _ character _ _ blank _ =>
      refine next fun present => ?_
      have noGaps : ['=', '>', '*', '/'].all (fun mark => !isGap mark && mark != '\n') = true := rfl
      have solid := List.all_eq_true.mp noGaps character present
      rw [Bool.and_eq_true, Bool.not_eq_true', bne_iff_ne] at solid
      rcases blank with blank | ⟨_, same⟩
      · exact Bool.false_ne_true (solid.1.symm.trans blank)
      · exact solid.2 same
  | @piece _ piece _ _ _ =>
      obtain ⟨first, more, same, startsWith⟩ := (tokens piece List.mem_cons_self).exists_startsWith
      rw [same]
      exact next (startsWith.behindSymbol (starts piece rfl))

/-- A piece is one token in front of a text of pieces that fit it. -/
theorem Spaced.cut_piece
    {piece : Piece}
    (spaced : Spaced IsTokenGap depth pieces text)
    (tokens : ∀ next ∈ piece :: pieces, next.IsToken)
    (fits : ∀ next, pieces.head? = some next -> piece.fits next = true) :
    cut (piece.chars ++ text) = { kind := piece.kind, rest := text } := by
  obtain ⟨isToken, behind⟩ := List.forall_mem_cons.mp tokens
  cases piece with
  | literal literal =>
      exact cut_number isToken (spaced.endsWord behind fun next leads => .inl (fits next leads))
  | word name selection =>
      obtain ⟨known, rfl⟩ := isToken
      have ends := spaced.endsWord behind fun next leads =>
        (Piece.fits_word_iff.mp (fits next leads)).imp_right And.left
      rw [Piece.chars, List.append_nil, Piece.kind, ← known]
      exact cut_identifier (isIdentifier_of_wordKind known) ends.noWord
        fun character leads => (ends.other character leads).2
  | opening => exact cut_punctuation (by decide : '(' ∈ punctuation) (.inl (by decide))
  | closing => exact cut_punctuation (by decide : ')' ∈ punctuation) (.inl (by decide))
  | comma => exact cut_punctuation (by decide : ',' ∈ punctuation) (.inl (by decide))
  | sign negative =>
      have ends := spaced.endsSymbol behind fits
      cases negative
      · exact cut_connective .plus ends
      · exact cut_connective .minus ends
  | connective mark => exact cut_connective mark (spaced.endsSymbol behind fits)

/-- A piece leaves as many brackets open behind it as parentheses. -/
theorem length_bracketsAfter_kind (piece : Piece) (place : Place) (brackets : List Nat) :
    (bracketsAfter piece.kind place brackets).length = piece.depthAfter brackets.length := by
  cases piece with
  | sign negative => cases negative <;> rfl
  | connective mark => cases mark <;> rfl
  | closing => exact List.length_drop
  | _ => rfl

theorem Piece.kind_ne_invalid (piece : Piece) : piece.kind ≠ .invalid := by
  cases piece <;> simp [kind]

/-- By induction on the text: a scan finds the tokens of the pieces, if it starts within as
many brackets as the text does and they nest no deeper than brackets may. A scan that finds
valid tokens only has not met deeper ones. -/
theorem Spaced.kinds_scan
    (spaced : Spaced IsTokenGap depth pieces text)
    (tokens : ∀ piece ∈ pieces, piece.IsToken)
    (fit : Fit pieces)
    {fuel : Nat}
    (enough : text.length < fuel)
    (place : Place)
    {brackets : List Nat}
    (opened : brackets.length = depth)
    (emptyLine : Bool)
    (shallow : Piece.height depth pieces ≤ bracketLimit ∨
      AreValid (scan fuel place brackets emptyLine text)) :
    kinds (scan fuel place brackets emptyLine text) = pieces.map Piece.kind ++ [.stop] := by
  induction spaced generalizing fuel place brackets emptyLine with
  | nil =>
      obtain ⟨fuel, rfl⟩ : ∃ more, fuel = more + 1 := ⟨fuel - 1, by omega⟩
      rfl
  | @gap depth character pieces text blank _ inductionHypothesis =>
      obtain ⟨fuel, rfl⟩ : ∃ more, fuel = more + 1 := ⟨fuel - 1, by omega⟩
      rw [List.length_cons, Nat.add_lt_add_iff_right] at enough
      rcases blank with blank | ⟨inside, rfl⟩
      · rw [scan_gap _ _ _ _ blank] at shallow ⊢
        exact inductionHypothesis tokens fit enough _ opened _ shallow
      · have filled : (!brackets.isEmpty) = true := by
          cases brackets with
          | nil => exact absurd inside (by simp [← opened])
          | cons => rfl
        rw [scan_break, if_pos filled] at shallow ⊢
        exact inductionHypothesis tokens fit enough _ opened _ shallow
  | @piece depth piece pieces text behind inductionHypothesis =>
      obtain ⟨fuel, rfl⟩ : ∃ more, fuel = more + 1 := ⟨fuel - 1, by omega⟩
      obtain ⟨fits, fitBehind⟩ := List.isChain_cons.mp fit
      obtain ⟨isToken, tokensBehind⟩ := List.forall_mem_cons.mp tokens
      have isCut := behind.cut_piece tokens fits
      have inner := length_bracketsAfter_kind piece place brackets
      rw [opened] at inner
      obtain ⟨first, more, same, startsWith⟩ := isToken.exists_startsWith
      rw [same, List.cons_append] at isCut enough shallow ⊢
      rw [List.length_cons, List.length_append] at enough
      rw [scan_token _ _ _ _ startsWith.solid.1 startsWith.solid.2, isCut] at shallow ⊢
      rw [Piece.height] at shallow
      have bounded : ¬(piece.kind = .invalid ∨
          bracketLimit < (bracketsAfter piece.kind place brackets).length) := by
        rintro (invalid | deep)
        · exact piece.kind_ne_invalid invalid
        · rcases shallow with shallow | valid
          · have innerShallow := Nat.le_trans (Piece.le_height _ _) (Nat.max_le.mp shallow).2
            omega
          · rw [if_pos (.inr deep)] at valid
            exact not_areValid place valid
      rw [if_neg bounded] at shallow ⊢
      rw [kinds, List.map_cons, List.map_cons, List.cons_append]
      exact congrArg _ (inductionHypothesis tokensBehind fitBehind (by omega) _ inner _
        (shallow.imp (fun low => (Nat.max_le.mp low).2) AreValid.tail))

/-- A text with line feeds for all its line breaks consists of the same pieces. -/
theorem Spaced.unifyLineBreaks
    (spaced : Spaced IsSourceGap depth pieces text)
    (tokens : ∀ piece ∈ pieces, piece.IsToken) :
    Spaced IsTokenGap depth pieces (Text.unifyLineBreaks text) := by
  induction spaced with
  | nil => exact .nil
  | @gap depth character pieces text blank _ inductionHypothesis =>
      have behind := inductionHypothesis tokens
      rcases blank with blank | ⟨inside, rfl | rfl⟩
      · rw [Reference.unifyLineBreaks_cons_of_ne (by rintro rfl; cases blank)]
        exact .gap (.inl blank) behind
      · rw [Reference.unifyLineBreaks_cons_of_ne (by decide)]
        exact .gap (.inr ⟨inside, rfl⟩) behind
      · rw [Reference.unifyLineBreaks_return]
        split
        · exact behind
        · exact .gap (.inr ⟨inside, rfl⟩) behind
  | piece _ inductionHypothesis =>
      obtain ⟨isToken, tokensBehind⟩ := List.forall_mem_cons.mp tokens
      rw [Reference.unifyLineBreaks_append (isToken.not_mem (by decide) (by decide))]
      exact .piece (inductionHypothesis tokensBehind)

/-- The tokens of a text that pieces spell are those of the pieces. -/
theorem Spaced.kinds_all
    (spaced : Spaced IsSourceGap 0 pieces text)
    (tokens : ∀ piece ∈ pieces, piece.IsToken)
    (fit : Fit pieces)
    (shallow : Piece.height 0 pieces ≤ bracketLimit ∨ AreValid (Token.all text)) :
    kinds (Token.all text) = pieces.map Piece.kind ++ [.stop] :=
  (spaced.unifyLineBreaks tokens).kinds_scan tokens fit (Nat.lt_succ_self _) _ rfl _ shallow

end Spelling
end ShaderGraph
