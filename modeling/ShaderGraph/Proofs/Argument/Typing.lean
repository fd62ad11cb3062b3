import ShaderGraph.Argument.Reading
import ShaderGraph.Proofs.Argument.Search
import ShaderGraph.Proofs.Call.Nesting

/-!
# Types of formulas

A formula over numbers and vectors has a type if its operands fit each other. The type is
inferred from the text alone: calls are masked, and what a search finds in the rest is looked
up among the built-in variables. Both agree on every formula that has a type, however its
text is spaced and whatever the arguments of its calls are.
-/

namespace ShaderGraph

/-- A text of pieces and any blanks between them. -/
abbrev IsBlankGap (_ : Nat) (character : Char) : Prop :=
  Text.isBlank character = true

/-- A decimal literal: digits with an optional point and an optional exponent. -/
def IsDecimal (text : List Char) : Prop :=
  ∃ whole fraction exponent, text = whole ++ (fraction ++ exponent) ∧
    whole.all Char.isDigit = true ∧ IsExponent exponent ∧
    (fraction = [] ∧ whole ≠ [] ∨
      ∃ digits, fraction = '.' :: digits ∧ digits.all Char.isDigit = true ∧
        (digits ≠ [] ∨ whole ≠ []))

namespace Formula

/-- The operators of vectors. -/
def vectorConnectives : List Connective := [.plus, .minus, .times, .over]

/-- The type of a formula over the built-in variables. A number goes with everything, a
vector only with its like, and a call counts as a number. -/
inductive HasType : Formula -> String -> Prop
  | literal
      {text : List Char}
      (isDecimal : IsDecimal text) : HasType (.literal text) "float"
  | name
      {name : List Char}
      (named : Swizzle.isName name = true)
      (unknown : ({} : Builtins).lookup? (String.ofList name) = none) :
      HasType (.word name []) "float"
  | builtin
      {name : List Char}
      {known : Variable}
      (named : Swizzle.isName name = true)
      (found : ({} : Builtins).lookup? (String.ofList name) = some known) :
      HasType (.word name []) known.type
  | swizzled
      {name letters : List Char}
      {known : Variable}
      (named : Swizzle.isName name = true)
      (found : ({} : Builtins).lookup? (String.ofList name) = some known)
      (alphabetic : letters.all Char.isAlpha = true)
      (filled : 1 ≤ letters.length)
      (few : letters.length ≤ 4) :
      HasType (.word name ('.' :: letters)) (selectionType letters.length)
  | group
      {inner : Formula}
      {type : String}
      (typed : HasType inner type) : HasType (.group inner) type
  | call
      {name : List Char}
      {arguments : List Formula}
      (named : Swizzle.isName name = true)
      (lexical : ∀ argument ∈ arguments, ∀ piece ∈ argument.pieces, piece.IsLexical) :
      HasType (.call name arguments) "float"
  | negated
      {operand : Formula}
      {type : String}
      (typed : HasType operand type) : HasType (.signed true operand) type
  | numberLeft
      {connective : Connective}
      {left right : Formula}
      {type : String}
      (known : connective ∈ vectorConnectives)
      (typedLeft : HasType left "float")
      (typedRight : HasType right type) : HasType (.joined connective left right) type
  | numberRight
      {connective : Connective}
      {left right : Formula}
      {type : String}
      (known : connective ∈ vectorConnectives)
      (typedLeft : HasType left type)
      (typedRight : HasType right "float") : HasType (.joined connective left right) type
  | alike
      {connective : Connective}
      {left right : Formula}
      {type : String}
      (known : connective ∈ vectorConnectives)
      (typedLeft : HasType left type)
      (typedRight : HasType right type) : HasType (.joined connective left right) type

end Formula

/-! ## Masked pieces -/

/-- Pieces with a zero in the place of every outermost call. The number counts the
parentheses that such a call has open. -/
def Piece.masked : Option Nat -> List Piece -> List Piece
  | _, [] => []
  | none, .word name selection :: rest =>
      if rest.head? = some .opening then .literal ['0'] :: masked (some 0) rest
      else .word name selection :: masked none rest
  | none, piece :: rest => piece :: masked none rest
  | some depth, .opening :: rest => masked (some (depth + 1)) rest
  | some depth, .closing :: rest =>
      if depth ≤ 1 then masked none rest else masked (some (depth - 1)) rest
  | some depth, _ :: rest => masked (some depth) rest

/-- A formula with a zero in the place of every outermost call. -/
def Formula.masked : Formula -> Formula
  | .literal text => .literal text
  | .word name selection => .word name selection
  | .group inner => .group inner.masked
  | .call _ _ => .literal ['0']
  | .signed negative operand => .signed negative operand.masked
  | .joined connective left right => .joined connective left.masked right.masked

namespace Call

variable {before : Option Char} {first : Char} {text rest : List Char}

/-- Nothing opens in a text without blanks and parentheses if none comes behind it. -/
theorem opening?_append
    (filled : text ≠ [])
    (solid : ∀ character ∈ text, Text.isBlank character = false ∧ character ≠ '(')
    (ends : Argument.Ends rest) : opening? before (text ++ rest) = none := by
  obtain ⟨first, more, rfl⟩ := List.exists_cons_of_ne_nil filled
  rw [List.cons_append]
  refine opening?_of_head? ?_
  rw [List.dropWhile_append]
  cases stop : more.dropWhile Text.isWord with
  | nil =>
      have notCalled := ends.notCalled
      rw [Argument.isCalled, Text.trimStart, beq_eq_false_iff_ne] at notCalled
      have whole := (Argument.run_append (List.forall_mem_nil _) ends.noWord).2
      rw [List.nil_append] at whole
      rwa [List.isEmpty_nil, if_pos rfl, whole]
  | cons next behind =>
      have present : next ∈ first :: more :=
        List.mem_cons_of_mem _ ((List.dropWhile_suffix _).subset (stop ▸ List.mem_cons_self))
      obtain ⟨noBlank, other⟩ := solid next present
      rw [List.isEmpty_cons, if_neg Bool.false_ne_true, List.cons_append,
        List.dropWhile_cons_of_neg (by simp [noBlank])]
      simpa using other

/-- Where no call opens, a character is kept by masking. -/
theorem maskChars_of_opening?_eq_none
    (closed : opening? before (first :: rest) = none) :
    maskChars (.outside before) (first :: rest) =
      first :: maskChars (.outside (some first)) rest := by
  rw [maskChars, closed]
  rfl

/-- Between words the character before a text does not count. -/
theorem maskChars_boundary (noWord : text.head?.any Text.isWord = false) :
    maskChars (.outside before) text = maskChars (.outside none) text := by
  cases text with
  | nil => rw [maskChars, maskChars]
  | cons first rest =>
      have noStart : Text.isNameStart first = false := by
        rw [List.head?_cons, Option.any_some] at noWord
        rw [Bool.eq_false_iff] at noWord ⊢
        exact fun starts =>
          noWord (Argument.isWord_of_isNameRest (Argument.isNameRest_of_isNameStart starts))
      rw [maskChars_of_opening?_eq_none (opening?_of_not_start noStart rest),
        maskChars_of_opening?_eq_none (opening?_of_not_start noStart rest)]

/-- A word may start behind a character that belongs to none. -/
theorem maskChars_after
    (noWord : Text.isWord first = false)
    (rest : List Char) :
    maskChars (.outside (some first)) rest = maskChars (.outside none) rest := by
  cases rest with
  | nil => rw [maskChars, maskChars]
  | cons next rest =>
      have same : opening? (some first) (next :: rest) = opening? none (next :: rest) := by
        rw [opening?, opening?, Option.any_some, noWord, Option.any_none]
      rw [maskChars, maskChars, same]

/-- A character that belongs to no word is kept. -/
theorem maskChars_other
    (noWord : Text.isWord first = false)
    (rest : List Char) :
    maskChars (.outside before) (first :: rest) = first :: maskChars (.outside none) rest := by
  have noStart : Text.isNameStart first = false := by
    rw [Bool.eq_false_iff] at noWord ⊢
    exact fun starts =>
      noWord (Argument.isWord_of_isNameRest (Argument.isNameRest_of_isNameStart starts))
  rw [maskChars_of_opening?_eq_none (opening?_of_not_start noStart rest),
    maskChars_after noWord]

/-- A text without blanks and parentheses is kept if none comes behind it. -/
theorem maskChars_append
    (solid : ∀ character ∈ text, Text.isBlank character = false ∧ character ≠ '(')
    (ends : Argument.Ends rest) :
    maskChars (.outside before) (text ++ rest) = text ++ maskChars (.outside none) rest := by
  induction text generalizing before with
  | nil => exact maskChars_boundary ends.noWord
  | cons first text inductionHypothesis =>
      have closed : opening? before (first :: text ++ rest) = none :=
        opening?_append (List.cons_ne_nil _ _) solid ends
      rw [List.cons_append] at closed ⊢
      rw [maskChars_of_opening?_eq_none closed,
        inductionHypothesis fun character present =>
          solid character (List.mem_cons_of_mem first present)]
      rfl

/-- Inside of a call everything but parentheses is dropped. -/
theorem maskChars_inside
    {depth : Nat}
    (free : ∀ character ∈ text, character ≠ '(' ∧ character ≠ ')') :
    maskChars (.inside depth) (text ++ rest) = maskChars (.inside depth) rest := by
  induction text with
  | nil => rfl
  | cons first text inductionHypothesis =>
      obtain ⟨⟨noOpening, noClosing⟩, others⟩ := List.forall_mem_cons.mp free
      rw [List.cons_append, maskChars, if_neg (by simpa using noOpening),
        if_neg (by simpa using noClosing)]
      exact inductionHypothesis others

theorem maskChars_opening (depth : Nat) (rest : List Char) :
    maskChars (.inside depth) ('(' :: rest) = maskChars (.inside (depth + 1)) rest := by
  rw [maskChars]
  rfl

/-- The last closing parenthesis ends what is masked. -/
theorem maskChars_closing (depth : Nat) (rest : List Char) :
    maskChars (.inside depth) (')' :: rest) =
      if depth ≤ 1 then maskChars (.outside none) rest
      else maskChars (.inside (depth - 1)) rest := by
  rw [maskChars, maskChars_after (by decide)]
  rfl

/-- A name before a parenthesis becomes a zero. -/
theorem maskChars_call
    {name : List Char}
    (named : Swizzle.isName name = true)
    (noWord : rest.head?.any Text.isWord = false)
    (called : Argument.isCalled rest = true) :
    maskChars (.outside none) (name ++ rest) = '0' :: maskChars (.inside 0) rest := by
  cases name with
  | nil => cases named
  | cons first name =>
      obtain ⟨-, parts⟩ := List.forall_mem_cons.mp (Argument.isNameRest_of_mem named)
      have words : ∀ character ∈ name, Text.isWord character = true :=
        fun character present => Argument.isWord_of_isNameRest (parts character present)
      have behind := (Argument.run_append words noWord).2
      rw [Argument.isCalled, Text.trimStart, beq_iff_eq] at called
      obtain ⟨more, opens⟩ := List.head?_eq_some_iff.mp called
      rw [Swizzle.isName, Bool.and_eq_true] at named
      have found : (opening? none (first :: (name ++ rest))).isSome = true := by
        rw [opening?, named.1, behind, opens]
        rfl
      rw [List.cons_append, maskChars, if_pos found, maskChars_inside fun character present =>
        ⟨Token.ne_of_isNameRest (parts character present) (by decide),
          Token.ne_of_isNameRest (parts character present) (by decide)⟩]

end Call

/-! ## Masked texts -/

section Mask

open Call

variable {depth : Nat} {piece : Piece} {pieces : List Piece} {text : List Char}

/-- What masking knows between two pieces. -/
def maskBetween : Option Nat -> Mask
  | none => .outside none
  | some depth => .inside depth

/-- Masking the text of pieces masks the pieces. -/
def Masks (pieces : List Piece) (text : List Char) : Prop :=
  ∀ state nesting,
    Spaced IsBlankGap nesting (Piece.masked state pieces) (maskChars (maskBetween state) text)

/-- A blank is kept outside of calls and dropped inside. -/
theorem Masks.gap
    {character : Char}
    (blank : Text.isBlank character = true)
    (masks : Masks pieces text) : Masks pieces (character :: text) := by
  rintro (_ | inside) nesting
  · have noWord : Text.isWord character = false := by
      refine Bool.eq_false_iff.mpr fun word => ?_
      rw [Reference.isBlank_of_isWord word] at blank
      cases blank
    rw [maskBetween, maskChars_other noWord]
    exact .gap blank (masks none nesting)
  · have free : ∀ other ∈ [character], other ≠ '(' ∧ other ≠ ')' := by
      intro other present
      obtain rfl := List.mem_singleton.mp present
      constructor <;> rintro rfl <;> cases blank
    have dropped : maskChars (.inside inside) ([_] ++ text) = _ := maskChars_inside free
    rw [List.singleton_append] at dropped
    rw [maskBetween, dropped]
    exact masks (some inside) nesting

/-- Inside of a call a piece is dropped, and a parenthesis is counted. -/
theorem Masks.piece_inside
    (lexical : piece.IsLexical)
    (masks : Masks pieces text)
    (inside nesting : Nat) :
    Spaced IsBlankGap nesting (Piece.masked (some inside) (piece :: pieces))
      (maskChars (.inside inside) (piece.chars ++ text)) := by
  have dropped
      (noOpening : piece ≠ .opening)
      (noClosing : piece ≠ .closing) :
      Spaced IsBlankGap nesting (Piece.masked (some inside) pieces)
        (maskChars (.inside inside) (piece.chars ++ text)) := by
    rw [maskChars_inside fun character present =>
      ⟨fun same => noOpening ((lexical.solid character present).2.1 same),
        fun same => noClosing ((lexical.solid character present).2.2 same)⟩]
    exact masks (some inside) nesting
  cases piece with
  | opening =>
      rw [Piece.masked, Piece.chars, List.singleton_append, maskChars_opening]
      exact masks (some (inside + 1)) nesting
  | closing =>
      rw [Piece.masked, Piece.chars, List.singleton_append, maskChars_closing]
      split
      · exact masks none nesting
      · exact masks (some (inside - 1)) nesting
  | literal => exact dropped (by simp) (by simp)
  | word => exact dropped (by simp) (by simp)
  | comma => exact dropped (by simp) (by simp)
  | sign => exact dropped (by simp) (by simp)
  | connective => exact dropped (by simp) (by simp)

/-- Outside of calls a piece is kept, unless it is the name of a call. -/
theorem Masks.piece_outside
    (behind : Spaced IsBlankGap depth pieces text)
    (lexical : ∀ next ∈ piece :: pieces, next.IsLexical)
    (fits : ∀ next, pieces.head? = some next -> piece.fits next = true)
    (masks : Masks pieces text)
    (nesting : Nat) :
    Spaced IsBlankGap nesting (Piece.masked none (piece :: pieces))
      (maskChars (.outside none) (piece.chars ++ text)) := by
  have blanks : ∀ depth character, IsBlankGap depth character ->
      Text.isBlank character = true := fun _ _ => id
  obtain ⟨lexicalPiece, lexicalBehind⟩ := List.forall_mem_cons.mp lexical
  have kept (same : maskChars (.outside none) (piece.chars ++ text) =
        piece.chars ++ maskChars (.outside none) text) :
      Spaced IsBlankGap nesting (piece :: Piece.masked none pieces)
        (maskChars (.outside none) (piece.chars ++ text)) := by
    rw [same]
    exact .piece (masks none _)
  have operand
      (noOpening : piece ≠ .opening)
      (separated : ∀ next, pieces.head? = some next -> next.separates = true) :
      Spaced IsBlankGap nesting (piece :: Piece.masked none pieces)
        (maskChars (.outside none) (piece.chars ++ text)) :=
    kept (maskChars_append
      (fun character present => ⟨(lexicalPiece.solid character present).1,
        fun same => noOpening ((lexicalPiece.solid character present).2.1 same)⟩)
      (behind.ends blanks lexicalBehind separated))
  cases piece with
  | literal => exact operand (by simp) fits
  | word name selection =>
      have fitsWord := fun next leads => Piece.fits_word_iff.mp (fits next leads)
      by_cases called : pieces.head? = some .opening
      · have noWord := (behind.noWord blanks lexicalBehind fun next leads =>
          (fitsWord next leads).imp_right And.left).1
        obtain rfl : selection = [] :=
          ((fitsWord .opening called).resolve_left (by simp [Piece.separates])).2
        have opens := behind.isCalled_eq blanks lexicalBehind
        rw [decide_eq_true called] at opens
        rw [Piece.masked, if_pos called, Piece.chars, List.append_nil,
          maskChars_call lexicalPiece.1 noWord opens]
        exact @Spaced.piece _ _ (.literal ['0']) _ _ (masks (some 0) _)
      · rw [Piece.masked, if_neg called]
        exact operand (by simp) fun next leads =>
          (fitsWord next leads).resolve_right fun opens => called (opens.1 ▸ leads)
  | opening => exact kept (maskChars_other (by decide) text)
  | closing => exact kept (maskChars_other (by decide) text)
  | comma => exact kept (maskChars_other (by decide) text)
  | sign negative => cases negative <;> exact kept (maskChars_other (by decide) text)
  | connective mark =>
      refine kept ?_
      cases mark
      case stars =>
        exact (maskChars_other (by decide) ('*' :: text)).trans
          (congrArg ('*' :: ·) (maskChars_other (by decide) text))
      all_goals exact maskChars_other (by decide) text

/-- By induction on the text. -/
theorem Spaced.masks
    (spaced : Spaced IsBlankGap depth pieces text)
    (lexical : ∀ piece ∈ pieces, piece.IsLexical)
    (fit : Fit pieces) : Masks pieces text := by
  induction spaced with
  | nil =>
      intro state nesting
      rw [Piece.masked, maskChars]
      exact .nil
  | gap blank _ inductionHypothesis => exact (inductionHypothesis lexical fit).gap blank
  | piece behind inductionHypothesis =>
      obtain ⟨fits, fitBehind⟩ := List.isChain_cons.mp fit
      obtain ⟨lexicalPiece, lexicalBehind⟩ := List.forall_mem_cons.mp lexical
      have masks := inductionHypothesis lexicalBehind fitBehind
      rintro (_ | inside) nesting
      · exact masks.piece_outside behind lexical fits nesting
      · exact masks.piece_inside lexicalPiece inside nesting

end Mask

namespace Formula

mutual

/-- The pieces of an operand are dropped inside of a call. -/
theorem masked_inside_append
    (formula : Formula)
    (depth : Nat)
    (rest : List Piece) :
    Piece.masked (some (depth + 1)) (formula.pieces ++ rest) =
      Piece.masked (some (depth + 1)) rest := by
  cases formula with
  | literal => rfl
  | word => rfl
  | group inner =>
      rw [pieces_group_append, Piece.masked, masked_inside_append inner (depth + 1), Piece.masked]
      exact if_neg (by omega)
  | call name arguments =>
      have dropped := maskedAmong_inside_append arguments (depth + 1) (.closing :: rest)
      rw [pieces_call_append, Piece.masked, Piece.masked, dropped, Piece.masked]
      · exact if_neg (by omega)
      all_goals simp
  | signed negative operand => exact masked_inside_append operand depth rest
  | joined connective left right =>
      rw [pieces_joined_append, masked_inside_append left depth]
      exact masked_inside_append right depth rest

/-- The arguments of a call are masked with it. -/
theorem maskedAmong_inside_append
    (arguments : List Formula)
    (depth : Nat)
    (rest : List Piece) :
    Piece.masked (some (depth + 1)) (piecesAmong arguments ++ rest) =
      Piece.masked (some (depth + 1)) rest := by
  cases arguments with
  | nil => rfl
  | cons first others =>
      rw [piecesAmong, List.append_assoc, masked_inside_append first depth]
      exact maskedBehind_inside_append others depth rest

theorem maskedBehind_inside_append
    (arguments : List Formula)
    (depth : Nat)
    (rest : List Piece) :
    Piece.masked (some (depth + 1)) (piecesBehind arguments ++ rest) =
      Piece.masked (some (depth + 1)) rest := by
  cases arguments with
  | nil => rfl
  | cons first others =>
      rw [piecesBehind, List.cons_append, List.append_assoc]
      refine Eq.trans ?_ (maskedBehind_inside_append others depth rest)
      exact masked_inside_append first depth _

end

/-- Masking the pieces of a formula masks its calls. -/
theorem masked_pieces_append
    (formula : Formula)
    {rest : List Piece}
    (free : rest.head? ≠ some .opening) :
    Piece.masked none (formula.pieces ++ rest) =
      formula.masked.pieces ++ Piece.masked none rest := by
  cases formula with
  | literal => rfl
  | word name selection =>
      rw [pieces, List.singleton_append, Piece.masked, if_neg free]
      rfl
  | group inner =>
      rw [masked, pieces_group_append, pieces_group_append]
      exact congrArg _ (masked_pieces_append inner (by simp))
  | call name arguments =>
      rw [pieces_call_append, Piece.masked, List.head?_cons, if_pos rfl, Piece.masked,
        maskedAmong_inside_append, Piece.masked]
      rfl
  | signed negative operand => exact congrArg _ (masked_pieces_append operand free)
  | joined connective left right =>
      rw [masked, pieces_joined_append, pieces_joined_append, masked_pieces_append left (by simp)]
      exact congrArg _ (congrArg _ (masked_pieces_append right free))

/-- Masking the pieces of a formula masks the formula. -/
theorem masked_pieces (formula : Formula) :
    Piece.masked none formula.pieces = formula.masked.pieces := by
  have whole : Piece.masked none (formula.pieces ++ []) = _ :=
    formula.masked_pieces_append (by simp)
  rwa [List.append_nil, Piece.masked, List.append_nil] at whole

end Formula

/-! ## Decimal literals -/

theorem head?_isDigit_of_all
    {digits : List Char}
    (all : digits.all Char.isDigit = true)
    (filled : digits ≠ []) : digits.head?.any Char.isDigit = true := by
  obtain ⟨first, rest, rfl⟩ := List.exists_cons_of_ne_nil filled
  exact List.all_eq_true.mp all first List.mem_cons_self

/-- Digits with an exponent are one run of a number. -/
theorem isSignedRun_of_isExponent
    {digits exponent : List Char}
    (all : digits.all Char.isDigit = true)
    (isExponent : IsExponent exponent) : IsSignedRun (digits ++ exponent) := by
  have parts {digits : List Char} (all : digits.all Char.isDigit = true) :
      ∀ character ∈ digits, Text.isNameRest character = true :=
    fun character present => Token.isNameRest_of_isDigit (List.all_eq_true.mp all character present)
  rcases isExponent with rfl | ⟨mark, sign, power, rfl, marks, signs, filled, powerAll⟩
  · exact ⟨digits, [], rfl, parts all, .inl rfl⟩
  have isMark : Text.isNameRest mark = true := by rcases marks with rfl | rfl <;> decide
  have marked : ∀ character ∈ digits ++ [mark], Text.isNameRest character = true :=
    List.forall_mem_append.mpr ⟨parts all, by simpa using isMark⟩
  have starts := head?_isDigit_of_all powerAll filled
  rcases signs with rfl | rfl | rfl
  · exact ⟨(digits ++ [mark]) ++ power, [], by simp,
      List.forall_mem_append.mpr ⟨marked, parts powerAll⟩, .inl rfl⟩
  · exact ⟨digits ++ [mark], '+' :: power, by simp, marked,
      .inr ⟨'+', power, rfl, .inl rfl, starts, parts powerAll⟩⟩
  · exact ⟨digits ++ [mark], '-' :: power, by simp, marked,
      .inr ⟨'-', power, rfl, .inr rfl, starts, parts powerAll⟩⟩

namespace IsDecimal

variable {text : List Char}

/-- A decimal number is a literal. -/
theorem isLiteral (isDecimal : IsDecimal text) : IsLiteral text := by
  obtain ⟨whole, fraction, exponent, rfl, all, isExponent, form⟩ := isDecimal
  rcases form with ⟨rfl, filled⟩ | ⟨digits, rfl, digitsAll, -⟩
  · obtain ⟨first, rest, rfl⟩ := List.exists_cons_of_ne_nil filled
    exact .inl ⟨isSignedRun_of_isExponent all isExponent,
      List.all_eq_true.mp all first List.mem_cons_self⟩
  · refine .inr ⟨whole, digits ++ exponent, by simp,
      isSignedRun_of_isExponent digitsAll isExponent, fun character present =>
        Token.isNameRest_of_isDigit (List.all_eq_true.mp all character present), ?_⟩
    exact or_iff_not_imp_left.mpr (head?_isDigit_of_all all)

/-- A stray of a decimal literal is an exponent without digits behind the point. -/
theorem head?_of_mem_strays
    {name : String}
    (isDecimal : IsDecimal text)
    (stray : name ∈ Piece.strays text) :
    name.toList.head? = some 'e' ∨ name.toList.head? = some 'E' := by
  obtain ⟨whole, fraction, exponent, rfl, all, isExponent, form⟩ := isDecimal
  have noPoint {digits : List Char} (all : digits.all Char.isDigit = true) : '.' ∉ digits :=
    fun present => nomatch List.all_eq_true.mp all '.' present
  rcases form with ⟨rfl, -⟩ | ⟨digits, rfl, digitsAll, -⟩
  · have free : '.' ∉ _ :=
      (isSignedRun_of_isExponent all isExponent).not_mem (by decide) (by decide)
    rw [List.nil_append, Piece.strays, (Swizzle.chars_of_no_point free).2] at stray
    cases stray
  · rw [List.cons_append, Piece.strays, (Swizzle.chars_append_point (noPoint all)).2] at stray
    obtain ⟨same, starts⟩ := Piece.head?_of_mem_leadingName stray
    rw [same]
    cases digits with
    | cons first digits =>
        have digit := List.all_eq_true.mp digitsAll first List.mem_cons_self
        rw [List.cons_append, List.head?_cons, Option.any_some] at starts
        rw [Token.isDigit_of_isNameStart starts] at digit
        cases digit
    | nil =>
        rcases isExponent with rfl | ⟨mark, sign, power, rfl, rfl | rfl, -⟩
        · cases starts
        · exact .inl rfl
        · exact .inr rfl

end IsDecimal

/-! ## Types -/

namespace Formula

open Interpreter

/-- The names that carry a type: none tells another one, and only a number needs none. -/
structure Carries (type : String) (names : List String) : Prop where
  only : ∀ name ∈ names, ∀ found, operandType? {} name = some found ->
    found = type ∧ type ≠ "float"
  told : type ≠ "float" -> ∃ name ∈ names, operandType? {} name = some type

/-- The type of names that carry one is found in any order of them. -/
theorem Carries.findSome?_eq
    {type : String}
    {names listed : List String}
    (carries : Carries type names)
    (same : ∀ name, name ∈ listed ↔ name ∈ names) :
    (listed.findSome? (operandType? {})).getD "float" = type := by
  cases found : listed.findSome? (operandType? {}) with
  | none =>
      by_cases number : type = "float"
      · exact number.symm
      · obtain ⟨name, present, told⟩ := carries.told number
        rw [List.findSome?_eq_none_iff.mp found name ((same name).mpr present)] at told
        cases told
  | some other =>
      obtain ⟨name, present, tells⟩ := List.exists_of_findSome?_eq_some found
      exact (carries.only name ((same name).mp present) other tells).1

/-- Names without a type carry no type. -/
theorem Carries.of_quiet
    {names : List String}
    (quiet : ∀ name ∈ names, operandType? {} name = none) : Carries "float" names where
  only name present found told := by
    rw [quiet name present] at told
    cases told
  told number := absurd rfl number

/-- A single name carries the type that is told of it. -/
theorem Carries.singleton
    {type name : String}
    (told : operandType? {} name = if type = "float" then none else some type) :
    Carries type [name] where
  only other present found tells := by
    obtain rfl := List.mem_singleton.mp present
    rw [told] at tells
    split at tells
    case isTrue => cases tells
    case isFalse vector => exact ⟨(Option.some.inj tells).symm, vector⟩
  told vector := ⟨name, List.mem_singleton_self name, told.trans (if_neg vector)⟩

/-- The operands of an operator carry its type if one of them does and the other one does
not differ. -/
theorem Carries.append
    {type left right : String}
    {names others : List String}
    (carriesLeft : Carries left names)
    (carriesRight : Carries right others)
    (leftFits : left = type ∨ left = "float")
    (rightFits : right = type ∨ right = "float")
    (told : left = type ∨ right = type) : Carries type (names ++ others) where
  only name present found tells := by
    rcases List.mem_append.mp present with inLeft | inRight
    · obtain ⟨same, vector⟩ := carriesLeft.only name inLeft found tells
      obtain rfl := leftFits.resolve_right vector
      exact ⟨same, vector⟩
    · obtain ⟨same, vector⟩ := carriesRight.only name inRight found tells
      obtain rfl := rightFits.resolve_right vector
      exact ⟨same, vector⟩
  told vector := by
    rcases told with rfl | rfl
    · obtain ⟨name, present, tells⟩ := carriesLeft.told vector
      exact ⟨name, List.mem_append_left others present, tells⟩
    · obtain ⟨name, present, tells⟩ := carriesRight.told vector
      exact ⟨name, List.mem_append_right names present, tells⟩

/-- A word tells the type that is known of its name. -/
theorem operandType?_word
    {builtins : Builtins}
    {name : List Char}
    (named : Swizzle.isName name = true) :
    operandType? builtins (String.ofList name) =
        ((builtins.lookup? (String.ofList name)).bind fun known =>
          if known.type != "float" then some known.type else none) ∧
      ∀ letters, operandType? builtins (String.ofList (name ++ '.' :: letters)) =
        ((builtins.lookup? (String.ofList name)).bind fun _ =>
          if letters.length > 1 then some (selectionType letters.length) else none) := by
  have noPoint : '.' ∉ name := fun present =>
    Token.ne_of_isNameRest (Argument.isNameRest_of_mem named '.' present) (by decide) rfl
  refine ⟨?_, fun letters => ?_⟩
  · have noSelection : Swizzle.hasPoint (String.ofList name) = false := by
      simpa [Swizzle.hasPoint] using noPoint
    rw [operandType?, Swizzle.base, String.toList_ofList, (Swizzle.chars_of_no_point noPoint).1,
      noSelection]
    cases builtins.lookup? (String.ofList name) <;> rfl
  · obtain ⟨base, selection⟩ : _ ∧ Swizzle.selectionChars (name ++ '.' :: letters) = letters :=
      Swizzle.chars_append_point noPoint
    have selected : Swizzle.hasPoint (String.ofList (name ++ '.' :: letters)) = true := by
      simp [Swizzle.hasPoint]
    rw [operandType?, Swizzle.base, String.toList_ofList, base, selected, Swizzle.selection,
      String.toList_ofList, selection, String.length_ofList]
    cases builtins.lookup? (String.ofList name) <;> rfl

/-- No built-in variable has the name of an exponent. -/
theorem operandType?_of_exponent
    {name : String}
    (leads : name.toList.head? = some 'e' ∨ name.toList.head? = some 'E') :
    operandType? {} name = none := by
  have base : (Swizzle.base name).toList.head? = name.toList.head? := by
    rw [Swizzle.base, String.toList_ofList, Swizzle.baseChars, List.head?_takeWhile]
    rcases leads with leads | leads <;> rw [leads] <;> rfl
  have unknown : ({} : Builtins).lookup? (Swizzle.base name) = none := by
    refine List.find?_eq_none.mpr fun candidate present same => ?_
    have others : ∀ candidate ∈ ({} : Builtins).variableList.reverse,
        candidate.name.toList.head? ≠ some 'e' ∧ candidate.name.toList.head? ≠ some 'E' := by
      decide
    obtain ⟨lower, upper⟩ := others candidate present
    rw [beq_iff_eq.mp same, base] at lower upper
    exact leads.elim lower upper
  rw [operandType?, unknown]

/-- By induction on the typing: the words outside of calls carry the type. -/
theorem HasType.carries
    {formula : Formula}
    {type : String}
    (typed : formula.HasType type) :
    Carries type (formula.masked.mentioned Piece.strays) := by
  induction typed with
  | literal isDecimal =>
      exact .of_quiet fun name present =>
        operandType?_of_exponent (isDecimal.head?_of_mem_strays present)
  | @name name named unknown =>
      rw [masked, mentioned, List.append_nil]
      refine .singleton ?_
      rw [(operandType?_word named).1, unknown]
      rfl
  | @builtin name known named found =>
      rw [masked, mentioned, List.append_nil]
      refine .singleton ?_
      rw [(operandType?_word named).1, found, Option.bind_some]
      by_cases number : known.type = "float" <;> simp [number]
  | @swizzled name letters known named found alphabetic filled few =>
      refine .singleton ?_
      rw [(operandType?_word named).2, found, Option.bind_some]
      have lengths : letters.length = 1 ∨ letters.length = 2 ∨ letters.length = 3 ∨
          letters.length = 4 := by omega
      rcases lengths with same | same | same | same <;> rw [same] <;> decide
  | group _ inductionHypothesis => exact inductionHypothesis
  | call => exact .of_quiet fun name present => by cases present
  | negated _ inductionHypothesis => exact inductionHypothesis
  | numberLeft _ _ _ inductionLeft inductionRight =>
      exact inductionLeft.append inductionRight (.inr rfl) (.inl rfl) (.inr rfl)
  | numberRight _ _ _ inductionLeft inductionRight =>
      exact inductionLeft.append inductionRight (.inl rfl) (.inr rfl) (.inl rfl)
  | alike _ _ _ inductionLeft inductionRight =>
      exact inductionLeft.append inductionRight (.inl rfl) (.inl rfl) (.inl rfl)

/-- Masking calls changes no type. -/
theorem HasType.masked
    {formula : Formula}
    {type : String}
    (typed : formula.HasType type) : formula.masked.HasType type := by
  induction typed with
  | literal isDecimal => exact .literal isDecimal
  | name named unknown => exact .name named unknown
  | builtin named found => exact .builtin named found
  | swizzled named found alphabetic filled few =>
      exact .swizzled named found alphabetic filled few
  | group _ inductionHypothesis => exact .group inductionHypothesis
  | call =>
      exact .literal ⟨['0'], [], [], rfl, rfl, .inl rfl, .inl ⟨rfl, List.cons_ne_nil _ _⟩⟩
  | negated _ inductionHypothesis => exact .negated inductionHypothesis
  | numberLeft known _ _ inductionLeft inductionRight =>
      exact .numberLeft known inductionLeft inductionRight
  | numberRight known _ _ inductionLeft inductionRight =>
      exact .numberRight known inductionLeft inductionRight
  | alike known _ _ inductionLeft inductionRight =>
      exact .alike known inductionLeft inductionRight

/-- The pieces of a word are lexical. -/
theorem lexical_word
    {name selection : List Char}
    (named : Swizzle.isName name = true)
    (selects : Argument.IsSelection selection) :
    ∀ piece ∈ (word name selection).pieces, piece.IsLexical := by
  intro piece present
  obtain rfl := List.mem_singleton.mp present
  exact ⟨named, selects⟩

/-- The pieces of a group are lexical if the inner ones are. -/
theorem lexical_group
    {inner : Formula}
    (lexical : ∀ piece ∈ inner.pieces, piece.IsLexical) :
    ∀ piece ∈ (group inner).pieces, piece.IsLexical := by
  simpa [pieces, or_imp, forall_and, Piece.IsLexical] using lexical

/-- The pieces of a call are lexical if those of its arguments are. -/
theorem lexical_call
    {name : List Char}
    {arguments : List Formula}
    (named : Swizzle.isName name = true)
    (lexical : ∀ argument ∈ arguments, ∀ piece ∈ argument.pieces, piece.IsLexical) :
    ∀ piece ∈ (call name arguments).pieces, piece.IsLexical := by
  have among : ∀ piece ∈ piecesAmong arguments, piece.IsLexical := by
    intro piece present
    rcases mem_piecesAmong present with rfl | ⟨argument, among, inArgument⟩
    · trivial
    · exact lexical argument among piece inArgument
  simpa [pieces, or_imp, forall_and, Piece.IsLexical, named, Argument.IsSelection] using among

theorem lexical_signed
    {negative : Bool}
    {operand : Formula}
    (lexical : ∀ piece ∈ operand.pieces, piece.IsLexical) :
    ∀ piece ∈ (signed negative operand).pieces, piece.IsLexical := by
  simpa [pieces, Piece.IsLexical] using lexical

/-- The pieces of an operation are lexical if those of its operands are. -/
theorem lexical_joined
    {connective : Connective}
    {left right : Formula}
    (lexicalLeft : ∀ piece ∈ left.pieces, piece.IsLexical)
    (lexicalRight : ∀ piece ∈ right.pieces, piece.IsLexical) :
    ∀ piece ∈ (joined connective left right).pieces, piece.IsLexical := by
  simpa [pieces, or_imp, forall_and, Piece.IsLexical] using And.intro lexicalLeft lexicalRight

/-- Letters behind a point are a selection. -/
theorem isSelection_of_letters
    (letters : List Char)
    (alphabetic : letters.all Char.isAlpha = true)
    (filled : letters ≠ []) : Argument.IsSelection ('.' :: letters) := by
  refine .inr ⟨letters, rfl, filled, fun letter present => ?_⟩
  have isAlpha := List.all_eq_true.mp alphabetic letter present
  exact Argument.isNameRest_of_isNameStart (by rw [Text.isNameStart, isAlpha, Bool.true_or])

/-- A typed formula has lexical pieces. -/
theorem HasType.lexical
    {formula : Formula}
    {type : String}
    (typed : formula.HasType type) : ∀ piece ∈ formula.pieces, piece.IsLexical := by
  induction typed with
  | literal isDecimal =>
      intro piece present
      obtain rfl := List.mem_singleton.mp present
      exact isDecimal.isLiteral
  | name named => exact lexical_word named (.inl rfl)
  | builtin named => exact lexical_word named (.inl rfl)
  | swizzled named _ alphabetic filled _ =>
      exact lexical_word named
        (isSelection_of_letters _ alphabetic (List.ne_nil_of_length_pos filled))
  | group _ inductionHypothesis => exact lexical_group inductionHypothesis
  | call named lexical => exact lexical_call named lexical
  | negated _ inductionHypothesis => exact lexical_signed inductionHypothesis
  | numberLeft _ _ _ inductionLeft inductionRight =>
      exact lexical_joined inductionLeft inductionRight
  | numberRight _ _ _ inductionLeft inductionRight =>
      exact lexical_joined inductionLeft inductionRight
  | alike _ _ _ inductionLeft inductionRight =>
      exact lexical_joined inductionLeft inductionRight

end Formula

open Formula

/-- The inferred type of a text is that of the formula it spells, whatever its blanks are. -/
theorem Interpreter.inferType_eq_of_hasType
    {formula : Formula}
    {type text : String}
    (typed : formula.HasType type)
    (spaced : Spaced IsBlankGap 0 formula.pieces text.toList) :
    inferType {} text = type := by
  have masked := spaced.masks typed.lexical formula.fit_pieces none 0
  rw [formula.masked_pieces] at masked
  have found := masked.scan_eq (fun _ _ => id) typed.masked.lexical formula.masked.fit_pieces
  rw [formula.masked.mentioned_pieces] at found
  rw [inferType, Argument.names, Call.mask, String.toList_ofList]
  refine typed.carries.findSome?_eq fun name => ?_
  rw [Text.mem_sortedNames, ← found]
  rfl

/-- A negated vector and a number, which stands in front of a call with vectors in it. -/
def Formula.shifted : Formula :=
  .joined .minus
    (.signed true (.group (.joined .times (.word ['s', 't'] ['.', 'y', 'x'])
      (.literal ['2', '.', 'e', '-', '1']))))
    (.call ['d', 'o', 't'] [.word ['g', 'l', '_', 'F', 'r', 'a', 'g', 'C', 'o', 'o', 'r', 'd'] [],
      .call ['p'] [.word ['s', 't'] []]])

theorem Interpreter.inferType_shifted :
    Formula.shifted.HasType "vec2" ∧
      inferType {} "- (st.yx*2.e-1 )\n-dot\t( gl_FragCoord,p( st ) )" = "vec2" := by
  have typed : Formula.shifted.HasType "vec2" := by
    refine .numberRight (by decide) (.negated (.group (.numberRight (by decide) ?_ ?_))) ?_
    · exact @Formula.HasType.swizzled _ ['y', 'x'] _ (by decide) rfl (by decide) (by decide)
        (by decide)
    · exact .literal ⟨['2'], ['.'], ['e', '-', '1'], rfl, by decide,
        .inr ⟨'e', ['-'], ['1'], rfl, .inl rfl, .inr (.inr rfl), by decide, by decide⟩,
        .inr ⟨[], rfl, rfl, .inr (by decide)⟩⟩
    · refine .call (by decide) fun argument among piece present => ?_
      simp only [List.mem_cons, List.not_mem_nil, or_false] at among
      rcases among with rfl | rfl
      · obtain rfl := List.mem_singleton.mp present
        exact ⟨by decide, .inl rfl⟩
      · simp only [pieces, piecesAmong, piecesBehind, List.append_nil, List.singleton_append,
          List.mem_cons, List.not_mem_nil, or_false] at present
        rcases present with rfl | rfl | rfl | rfl
        · exact ⟨by decide, .inl rfl⟩
        · trivial
        · exact ⟨by decide, .inl rfl⟩
        · trivial
  refine ⟨typed, inferType_eq_of_hasType typed ?_⟩
  refine .piece (.gap rfl (.piece (.piece (.piece (.piece (.gap rfl (.piece (.gap rfl ?_))))))))
  refine .piece (.piece (.gap rfl (.piece (.gap rfl (.piece (.piece (.piece (.piece ?_))))))))
  exact .gap rfl (.piece (.gap rfl (.piece (.gap rfl (.piece .nil)))))

end ShaderGraph
