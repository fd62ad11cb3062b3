import ShaderGraph.Proofs.Argument.Arithmetic
import ShaderGraph.Proofs.Expression.Formula

/-!
# Names found in a formula

The search for names knows neither literals nor operators. In a text that spells a formula
it finds the words that are not called, each with its selection, and of a literal whatever
starts like a name behind the point.
-/

namespace ShaderGraph

/-! ## Literals and words -/

/-- Digits and letters, which may end in a power with a sign. -/
def IsSignedRun (text : List Char) : Prop :=
  ∃ run power, text = run ++ power ∧ (∀ character ∈ run, Text.isNameRest character = true) ∧
    (power = [] ∨ ∃ sign digits, power = sign :: digits ∧ (sign = '+' ∨ sign = '-') ∧
      digits.head?.any Char.isDigit = true ∧
      ∀ character ∈ digits, Text.isNameRest character = true)

/-- The shape of a literal: it starts with a digit or with a point, and what stands in front
of a point starts with a digit. -/
def IsLiteral (text : List Char) : Prop :=
  (IsSignedRun text ∧ text.head?.any Char.isDigit = true) ∨
    ∃ whole behind, text = whole ++ '.' :: behind ∧ IsSignedRun behind ∧
      (∀ character ∈ whole, Text.isNameRest character = true) ∧
      (whole = [] ∨ whole.head?.any Char.isDigit = true)

/-- Apart from signs there are only characters of names in a run. -/
theorem IsSignedRun.not_mem
    {text : List Char}
    {odd : Char}
    (isRun : IsSignedRun text)
    (noPart : Text.isNameRest odd = false)
    (noSign : odd ∉ ['+', '-']) : odd ∉ text := by
  have ofParts {part : List Char}
      (parts : ∀ character ∈ part, Text.isNameRest character = true) : odd ∉ part :=
    fun present => Bool.false_ne_true (noPart.symm.trans (parts odd present))
  obtain ⟨run, power, rfl, parts, isPower⟩ := isRun
  rw [List.mem_append, not_or]
  refine ⟨ofParts parts, ?_⟩
  rcases isPower with rfl | ⟨sign, digits, rfl, isSign, _, digitParts⟩
  · exact List.not_mem_nil
  · rw [List.mem_cons, not_or]
    refine ⟨?_, ofParts digitParts⟩
    rintro rfl
    exact noSign (by simpa using isSign)

/-- Apart from points and signs there are only characters of names in a literal. -/
theorem IsLiteral.not_mem
    {text : List Char}
    {odd : Char}
    (isLiteral : IsLiteral text)
    (noPart : Text.isNameRest odd = false)
    (noMark : odd ∉ ['.', '+', '-']) : odd ∉ text := by
  rw [List.mem_cons, not_or] at noMark
  obtain ⟨noPoint, noSign⟩ := noMark
  rcases isLiteral with ⟨isRun, -⟩ | ⟨whole, behind, rfl, isRun, parts, -⟩
  · exact isRun.not_mem noPart noSign
  · rw [List.mem_append, not_or, List.mem_cons, not_or]
    exact ⟨fun present => Bool.false_ne_true (noPart.symm.trans (parts odd present)), noPoint,
      isRun.not_mem noPart noSign⟩

namespace Piece

/-- A literal has the shape of one, and a word is a name with a selection or without. -/
def IsLexical : Piece -> Prop
  | .literal text => IsLiteral text
  | .word name selection => Swizzle.isName name = true ∧ Argument.IsSelection selection
  | _ => True

/-- What starts like a name in a text. -/
def leadingName (text : List Char) : List String :=
  if text.head?.any Text.isNameStart then [String.ofList (text.takeWhile Text.isNameRest)]
  else []

/-- What starts like a name behind the point of a literal. -/
def strays (literal : List Char) : List String :=
  leadingName (Swizzle.selectionChars literal)

/-- The words among pieces that are not called, from left to right, with the names that
belong to a literal. -/
def mentioned (ofLiteral : List Char -> List String) : List Piece -> List String
  | [] => []
  | .literal text :: rest => ofLiteral text ++ mentioned ofLiteral rest
  | .word name selection :: rest =>
      (if rest.head? = some .opening then [] else [String.ofList (name ++ selection)]) ++
        mentioned ofLiteral rest
  | _ :: rest => mentioned ofLiteral rest

end Piece

namespace Piece

/-- A leading name starts with the text. -/
theorem head?_of_mem_leadingName
    {text : List Char}
    {name : String}
    (leads : name ∈ leadingName text) :
    name.toList.head? = text.head? ∧ text.head?.any Text.isNameStart = true := by
  rw [leadingName] at leads
  split at leads
  case isFalse => cases leads
  case isTrue starts =>
    cases text with
    | nil => cases starts
    | cons first rest =>
        obtain rfl := List.mem_singleton.mp leads
        rw [List.takeWhile_cons_of_pos (Argument.isNameRest_of_isNameStart starts),
          String.toList_ofList]
        exact ⟨rfl, starts⟩

end Piece

/-! ## Points -/

namespace Swizzle

variable {text behind : List Char}

theorem chars_of_no_point (noPoint : '.' ∉ text) :
    baseChars text = text ∧ selectionChars text = [] := by
  have whole : ∀ character ∈ text, (character != '.') = true :=
    fun character present => bne_iff_ne.mpr fun same => noPoint (same ▸ present)
  rw [baseChars, selectionChars, List.takeWhile_eq_self_iff.mpr whole,
    List.dropWhile_eq_nil_iff.mpr whole]
  exact ⟨rfl, rfl⟩

/-- The first point parts a base from its selection. -/
theorem chars_append_point (noPoint : '.' ∉ text) :
    baseChars (text ++ '.' :: behind) = text ∧ selectionChars (text ++ '.' :: behind) = behind := by
  have whole : ∀ character ∈ text, (character != '.') = true :=
    fun character present => bne_iff_ne.mpr fun same => noPoint (same ▸ present)
  have ends : ('.' :: behind).head?.any (· != '.') = false := rfl
  obtain ⟨base, rest⟩ := Argument.run_append whole ends
  rw [baseChars, selectionChars, base, rest]
  exact ⟨rfl, rfl⟩

end Swizzle

/-! ## Runs -/

namespace Argument

open Piece

variable {before : Option Char} {run text rest : List Char}

/-- What may stand behind a literal or a word that is not called. -/
structure Ends (rest : List Char) : Prop where
  noWord : rest.head?.any Text.isWord = false
  noPoint : rest.head? ≠ some '.'
  notCalled : isCalled rest = false

/-- A mark that opens nothing ends a name. -/
theorem Ends.of_mark
    {mark : Char}
    (noWord : Text.isWord mark = false)
    (noBlank : Text.isBlank mark = false)
    (other : mark ≠ '.' ∧ mark ≠ '(')
    (rest : List Char) : Ends (mark :: rest) where
  noWord := noWord
  noPoint := by simpa using other.1
  notCalled := by
    rw [isCalled, Text.trimStart, List.dropWhile_cons_of_neg (by simp [noBlank])]
    simpa using other.2

theorem isName_eq_of_forall (parts : ∀ character ∈ run, Text.isNameRest character = true) :
    Swizzle.isName run = run.head?.any Text.isNameStart := by
  cases run with
  | nil => rfl
  | cons first rest =>
      rw [Swizzle.isName, List.all_eq_true.mpr fun character present =>
        parts character (List.mem_cons_of_mem first present), Bool.and_true]
      rfl

/-- A run of name characters leads as a name or not at all. -/
theorem leadingName_append
    (parts : ∀ character ∈ run, Text.isNameRest character = true)
    (stops : rest.head?.any Text.isNameRest = false) :
    leadingName (run ++ rest) = if Swizzle.isName run then [String.ofList run] else [] := by
  rw [leadingName, (run_append parts stops).1, isName_eq_of_forall parts]
  cases run with
  | cons first run => rfl
  | nil =>
      refine if_neg fun starts => ?_
      cases rest with
      | nil => cases starts
      | cons next rest =>
          rw [List.head?_cons, Option.any_some, isNameRest_of_isNameStart starts] at stops
          cases stops

/-- A run of digits and letters is found if it is a name. -/
theorem scan_run
    (parts : ∀ character ∈ run, Text.isNameRest character = true)
    (ends : Ends rest) :
    scan none 0 (run ++ rest) =
      (if Swizzle.isName run then [String.ofList run] else []) ++ scan none 0 rest := by
  cases named : Swizzle.isName run with
  | false =>
      exact scan_unnamed (fun character present => isWord_of_isNameRest (parts character present))
        named ends.noWord
  | true =>
      have split : splitSelection rest = ([], rest) :=
        splitSelection_append (.inl rfl) ends.noWord ends.noPoint
      rw [scan_name rfl named ends.noWord, split, if_neg (by simp [ends.notCalled]),
        List.append_nil]
      rfl

/-- Letters behind a digit are passed over. -/
theorem scan_digit_run
    (digit : run.head?.any Char.isDigit = true)
    (parts : ∀ character ∈ run, Text.isNameRest character = true)
    (noWord : rest.head?.any Text.isWord = false) :
    scan before 0 (run ++ rest) = scan none 0 rest := by
  cases run with
  | nil => cases digit
  | cons first run =>
      exact scan_unnamed (fun character present => isWord_of_isNameRest (parts character present))
        (Lexeme.isName_of_isDigit digit run) noWord

/-- Of a run with a power only a name at its start is found. -/
theorem scan_signedRun
    (isRun : IsSignedRun text)
    (ends : Ends rest) :
    scan none 0 (text ++ rest) = leadingName text ++ scan none 0 rest := by
  obtain ⟨run, power, rfl, parts, rfl | ⟨sign, digits, rfl, isSign, digit, digitParts⟩⟩ := isRun
  · rw [leadingName_append parts rfl, List.append_nil]
    exact scan_run parts ends
  · obtain ⟨noWord, endsRun⟩ : Text.isWord sign = false ∧ Ends (sign :: (digits ++ rest)) := by
      rcases isSign with rfl | rfl
      · exact ⟨by decide, .of_mark (by decide) (by decide) (by decide) _⟩
      · exact ⟨by decide, .of_mark (by decide) (by decide) (by decide) _⟩
    have stops : (sign :: digits).head?.any Text.isNameRest = false :=
      any_isNameRest_eq_false noWord
    rw [leadingName_append parts stops, List.append_assoc, List.cons_append,
      scan_run parts endsRun, scan_other noWord, scan_digit_run digit digitParts ends.noWord]

/-- Of a literal only a name behind its point is found. -/
theorem scan_literal
    (isLiteral : IsLiteral text)
    (ends : Ends rest) :
    scan none 0 (text ++ rest) = strays text ++ scan none 0 rest := by
  rcases isLiteral with ⟨isRun, digit⟩ | ⟨whole, behind, rfl, isRun, parts, starts⟩
  · have noPoint : '.' ∉ text := isRun.not_mem (by decide) (by decide)
    have unnamed : leadingName text = [] := by
      refine if_neg fun starts => ?_
      cases text with
      | nil => cases starts
      | cons first rest =>
          rw [List.head?_cons, Option.any_some, Token.isDigit_of_isNameStart starts] at digit
          cases digit
    rw [strays, (Swizzle.chars_of_no_point noPoint).2, scan_signedRun isRun ends, unnamed]
    rfl
  · have noPoint : '.' ∉ whole :=
      fun present => Token.ne_of_isNameRest (parts '.' present) (by decide) rfl
    rw [strays, (Swizzle.chars_append_point noPoint).2, ← scan_signedRun isRun ends,
      List.append_assoc, List.cons_append]
    rcases starts with rfl | digit
    · exact scan_other (by decide) _
    · rw [scan_digit_run digit parts (by rfl), scan_other (by decide)]

end Argument

/-! ## Texts of pieces -/

namespace Piece

/-- A lexical piece starts with a solid character. -/
theorem IsLexical.exists_chars_cons
    {piece : Piece}
    (lexical : piece.IsLexical) :
    ∃ first rest, piece.chars = first :: rest ∧ Text.isBlank first = false ∧
      (first = '(' ↔ piece = .opening) ∧
      (piece.separates = true ∨ piece = .opening -> Text.isWord first = false ∧ first ≠ '.') := by
  have ofPart {first : Char} (part : Text.isNameRest first = true) :
      Text.isBlank first = false ∧ first ≠ '(' :=
    ⟨Reference.isBlank_of_isWord (Argument.isWord_of_isNameRest part),
      Token.ne_of_isNameRest part (by decide)⟩
  cases piece with
  | literal text =>
      have starts : ∃ first rest, text = first :: rest ∧
          Text.isBlank first = false ∧ first ≠ '(' := by
        have ofDigit {text : List Char} (digit : text.head?.any Char.isDigit = true) :
            ∃ first rest, text = first :: rest ∧ Text.isBlank first = false ∧ first ≠ '(' := by
          cases text with
          | nil => cases digit
          | cons first rest => exact ⟨first, rest, rfl, ofPart (Token.isNameRest_of_isDigit digit)⟩
        rcases lexical with ⟨_, digit⟩ | ⟨whole, behind, rfl, _, _, rfl | digit⟩
        · exact ofDigit digit
        · exact ⟨'.', behind, rfl, by decide, by decide⟩
        · obtain ⟨first, rest, rfl, other⟩ := ofDigit digit
          exact ⟨first, _, rfl, other⟩
      obtain ⟨first, rest, rfl, noBlank, other⟩ := starts
      exact ⟨first, rest, rfl, noBlank, by simp [other], by simp [separates]⟩
  | word name selection =>
      cases name with
      | nil => cases lexical.1
      | cons first name =>
          obtain ⟨noBlank, other⟩ := ofPart
            (Argument.isNameRest_of_mem lexical.1 first List.mem_cons_self)
          exact ⟨first, _, rfl, noBlank, by simp [other], by simp [separates]⟩
  | opening => exact ⟨'(', [], rfl, by decide, by simp, fun _ => by decide⟩
  | closing => exact ⟨')', [], rfl, by decide, by simp, fun _ => by decide⟩
  | comma => exact ⟨',', [], rfl, by decide, by simp, fun _ => by decide⟩
  | sign negative => cases negative <;> exact ⟨_, [], rfl, by decide, by simp, fun _ => by decide⟩
  | connective mark => cases mark <;> exact ⟨_, _, rfl, by decide, by simp, fun _ => by decide⟩

/-- There are no blanks in a piece, and no parentheses in one that is none. -/
theorem IsLexical.solid
    {piece : Piece}
    (lexical : piece.IsLexical) :
    ∀ character ∈ piece.chars, Text.isBlank character = false ∧
      (character = '(' -> piece = .opening) ∧ (character = ')' -> piece = .closing) := by
  intro character present
  have ofPart (part : Text.isNameRest character = true) :
      Text.isBlank character = false ∧ character ≠ '(' ∧ character ≠ ')' :=
    ⟨Reference.isBlank_of_isWord (Argument.isWord_of_isNameRest part),
      Token.ne_of_isNameRest part (by decide), Token.ne_of_isNameRest part (by decide)⟩
  have ofMark (mark : character ∈ ['.', '+', '-', ',', '*', '/', '%', '^']) :
      Text.isBlank character = false ∧ character ≠ '(' ∧ character ≠ ')' := by
    simp only [List.mem_cons, List.not_mem_nil, or_false] at mark
    rcases mark with rfl | rfl | rfl | rfl | rfl | rfl | rfl | rfl <;> decide
  cases piece with
  | literal text =>
      suffices other : Text.isBlank character = false ∧ character ≠ '(' ∧ character ≠ ')' by
        simpa using other
      cases part : Text.isNameRest character with
      | true => exact ofPart part
      | false =>
          by_cases mark : character ∈ ['.', '+', '-']
          · exact ofMark (List.mem_append_left [',', '*', '/', '%', '^'] mark)
          · exact absurd present (lexical.not_mem part mark)
  | word name selection =>
      suffices other : Text.isBlank character = false ∧ character ≠ '(' ∧ character ≠ ')' by
        simpa using other
      obtain ⟨named, selects⟩ := lexical
      rcases List.mem_append.mp present with inName | inSelection
      · exact ofPart (Argument.isNameRest_of_mem named character inName)
      · rcases selects with rfl | ⟨letters, rfl, -, parts⟩
        · cases inSelection
        · rcases List.mem_cons.mp inSelection with rfl | letter
          · exact ofMark (by decide)
          · exact ofPart (parts character letter)
  | opening =>
      obtain rfl := List.mem_singleton.mp present
      decide
  | closing =>
      obtain rfl := List.mem_singleton.mp present
      decide
  | comma =>
      obtain rfl := List.mem_singleton.mp present
      decide
  | sign negative =>
      cases negative <;> obtain rfl := List.mem_singleton.mp present <;> decide
  | connective mark =>
      have other := ofMark (by cases mark <;> simp_all [chars, Connective.chars])
      simpa using other

end Piece

section Search

open Argument

variable {isGap : Nat -> Char -> Prop} {depth : Nat} {pieces : List Piece} {text : List Char}

/-- A parenthesis comes next in a text if it does among the pieces. -/
theorem Spaced.isCalled_eq
    (spaced : Spaced isGap depth pieces text)
    (blanks : ∀ depth character, isGap depth character -> Text.isBlank character = true)
    (lexical : ∀ piece ∈ pieces, piece.IsLexical) :
    isCalled text = decide (pieces.head? = some .opening) := by
  induction spaced with
  | nil => rfl
  | gap blank _ inductionHypothesis =>
      rw [← inductionHypothesis lexical, isCalled, isCalled, Text.trimStart, Text.trimStart,
        List.dropWhile_cons_of_pos (blanks _ _ blank)]
  | @piece _ piece _ _ _ _ =>
      obtain ⟨first, rest, same, noBlank, opens, -⟩ :=
        (lexical piece List.mem_cons_self).exists_chars_cons
      rw [same, List.cons_append, isCalled, Text.trimStart,
        List.dropWhile_cons_of_neg (by simp [noBlank])]
      simp [opens, beq_eq_decide]

/-- In front of a mark neither a word nor a selection goes on. -/
theorem Spaced.noWord
    (spaced : Spaced isGap depth pieces text)
    (blanks : ∀ depth character, isGap depth character -> Text.isBlank character = true)
    (lexical : ∀ piece ∈ pieces, piece.IsLexical)
    (marked : ∀ next, pieces.head? = some next -> next.separates = true ∨ next = .opening) :
    text.head?.any Text.isWord = false ∧ text.head? ≠ some '.' := by
  cases spaced with
  | nil => simp
  | gap blank _ =>
      have isBlank := blanks _ _ blank
      refine ⟨Bool.eq_false_iff.mpr fun word => ?_, ?_⟩
      · rw [Reference.isBlank_of_isWord word] at isBlank
        cases isBlank
      · rintro ⟨⟩
        cases isBlank
  | @piece _ piece _ _ behind =>
      obtain ⟨first, rest, same, -, -, mark⟩ :=
        (lexical piece List.mem_cons_self).exists_chars_cons
      rw [same]
      simpa using mark (marked piece rfl)

/-- A name ends where the next piece separates. -/
theorem Spaced.ends
    (spaced : Spaced isGap depth pieces text)
    (blanks : ∀ depth character, isGap depth character -> Text.isBlank character = true)
    (lexical : ∀ piece ∈ pieces, piece.IsLexical)
    (separated : ∀ next, pieces.head? = some next -> next.separates = true) : Ends text := by
  obtain ⟨noWord, noPoint⟩ := spaced.noWord blanks lexical fun next leads =>
    .inl (separated next leads)
  refine ⟨noWord, noPoint, ?_⟩
  rw [spaced.isCalled_eq blanks lexical]
  refine decide_eq_false fun opens => ?_
  cases separated _ opens

/-- By induction on the text: the search finds the words that are not called and the strays
of the literals. -/
theorem Spaced.scan_eq
    (spaced : Spaced isGap depth pieces text)
    (blanks : ∀ depth character, isGap depth character -> Text.isBlank character = true)
    (lexical : ∀ piece ∈ pieces, piece.IsLexical)
    (fit : Fit pieces) :
    scan none 0 text = Piece.mentioned Piece.strays pieces := by
  induction spaced with
  | nil => rfl
  | gap blank _ inductionHypothesis =>
      rw [← inductionHypothesis lexical fit]
      refine scan_other (Bool.eq_false_iff.mpr fun word => ?_) _
      have isBlank := blanks _ _ blank
      rw [Reference.isBlank_of_isWord word] at isBlank
      cases isBlank
  | @piece _ piece rest text behind inductionHypothesis =>
      obtain ⟨fits, fitBehind⟩ := List.isChain_cons.mp fit
      obtain ⟨lexicalPiece, lexicalBehind⟩ := List.forall_mem_cons.mp lexical
      have searched := inductionHypothesis lexicalBehind fitBehind
      have ofMark {mark : Char} (noWord : Text.isWord mark = false) :
          scan none 0 (mark :: text) = Piece.mentioned Piece.strays rest :=
        (scan_other noWord text).trans searched
      cases piece with
      | literal =>
          rw [Piece.mentioned, ← searched]
          exact scan_literal lexicalPiece (behind.ends blanks lexicalBehind fits)
      | word name selection =>
          obtain ⟨named, selects⟩ := lexicalPiece
          obtain ⟨noWord, noPoint⟩ := behind.noWord blanks lexicalBehind fun next leads =>
            (Piece.fits_word_iff.mp (fits next leads)).imp_right And.left
          have endsName : (selection ++ text).head?.any Text.isWord = false := by
            rcases selects with rfl | ⟨letters, rfl, -, -⟩
            · exact noWord
            · rfl
          rw [Piece.chars, List.append_assoc, scan_name rfl named endsName,
            splitSelection_append selects noWord noPoint, behind.isCalled_eq blanks lexicalBehind,
            Piece.mentioned, ← searched]
          by_cases called : rest.head? = some .opening <;> simp [called]
      | opening => exact ofMark (by decide)
      | closing => exact ofMark (by decide)
      | comma => exact ofMark (by decide)
      | sign negative => cases negative <;> exact ofMark (by decide)
      | connective mark =>
          cases mark
          case stars =>
            rw [Piece.chars, Connective.chars, List.cons_append, scan_other (by decide)]
            exact ofMark (by decide)
          all_goals exact ofMark (by decide)

end Search

/-! ## Names of a formula -/

namespace Formula

mutual

/-- The words of a formula that are not called, from left to right, with the names that
belong to a literal. -/
def mentioned (ofLiteral : List Char -> List String) : Formula -> List String
  | .literal text => ofLiteral text
  | .word name selection => [String.ofList (name ++ selection)]
  | .group inner => inner.mentioned ofLiteral
  | .call _ arguments => mentionedAmong ofLiteral arguments
  | .signed _ operand => operand.mentioned ofLiteral
  | .joined _ left right => left.mentioned ofLiteral ++ right.mentioned ofLiteral

/-- The words of several formulas that are not called. -/
def mentionedAmong (ofLiteral : List Char -> List String) : List Formula -> List String
  | [] => []
  | first :: rest => first.mentioned ofLiteral ++ mentionedAmong ofLiteral rest

end

variable {ofLiteral : List Char -> List String}

mutual

/-- The pieces of a formula mention what the formula does. -/
theorem mentioned_pieces_append
    (formula : Formula)
    {rest : List Piece}
    (free : rest.head? ≠ some .opening) :
    Piece.mentioned ofLiteral (formula.pieces ++ rest) =
      formula.mentioned ofLiteral ++ Piece.mentioned ofLiteral rest := by
  cases formula with
  | literal => rfl
  | word name selection =>
      rw [pieces, List.singleton_append, Piece.mentioned, if_neg free]
      rfl
  | group inner =>
      rw [pieces_group_append]
      exact mentioned_pieces_append inner (by simp)
  | call name arguments =>
      rw [pieces_call_append, Piece.mentioned, List.head?_cons, if_pos rfl]
      exact mentioned_piecesAmong_append arguments (by simp)
  | signed negative operand => exact mentioned_pieces_append operand free
  | joined connective left right =>
      rw [pieces_joined_append, mentioned_pieces_append left (by simp), mentioned,
        List.append_assoc]
      exact congrArg _ (mentioned_pieces_append right free)

theorem mentioned_piecesAmong_append
    (arguments : List Formula)
    {rest : List Piece}
    (free : rest.head? ≠ some .opening) :
    Piece.mentioned ofLiteral (piecesAmong arguments ++ rest) =
      mentionedAmong ofLiteral arguments ++ Piece.mentioned ofLiteral rest := by
  cases arguments with
  | nil => rfl
  | cons first others =>
      obtain ⟨separated, behind⟩ := mentioned_piecesBehind_append others free
      rw [piecesAmong, List.append_assoc, mentioned_pieces_append first separated, behind,
        mentionedAmong, List.append_assoc]

theorem mentioned_piecesBehind_append
    (arguments : List Formula)
    {rest : List Piece}
    (free : rest.head? ≠ some .opening) :
    (piecesBehind arguments ++ rest).head? ≠ some .opening ∧
      Piece.mentioned ofLiteral (piecesBehind arguments ++ rest) =
        mentionedAmong ofLiteral arguments ++ Piece.mentioned ofLiteral rest := by
  cases arguments with
  | nil => exact ⟨free, rfl⟩
  | cons first others =>
      obtain ⟨separated, behind⟩ := mentioned_piecesBehind_append others free
      refine ⟨by simp [piecesBehind], ?_⟩
      rw [piecesBehind, List.cons_append, List.append_assoc, mentionedAmong, List.append_assoc,
        ← behind]
      exact mentioned_pieces_append first separated

end

/-- The pieces of a whole formula mention what the formula does. -/
theorem mentioned_pieces (formula : Formula) :
    Piece.mentioned ofLiteral formula.pieces = formula.mentioned ofLiteral := by
  have whole : Piece.mentioned ofLiteral (formula.pieces ++ []) = _ :=
    formula.mentioned_pieces_append (by simp)
  rwa [List.append_nil, Piece.mentioned, List.append_nil] at whole

end Formula
end ShaderGraph
