import ShaderGraph.Proofs.Expression.Cutting
import ShaderGraph.Proofs.Argument.Mention

/-!
# Numerals, names and punctuation as tokens

A numeral or a name that no word goes on behind is one token: what follows it is left
over as it is. The token of a numeral is a number, or it is invalid because of leading
zeros or of its length; the token of a name is an identifier or a keyword. A mark of
arithmetic is a token by itself unless it starts a longer symbol.
-/

namespace ShaderGraph

/-- The exponent of a numeral, which may be left out. -/
def IsExponent (text : List Char) : Prop :=
  text = [] ∨ ∃ mark sign digits, text = mark :: (sign ++ digits) ∧ (mark = 'e' ∨ mark = 'E') ∧
    (sign = [] ∨ sign = ['+'] ∨ sign = ['-']) ∧ digits ≠ [] ∧ digits.all Char.isDigit = true

/-- The text of a number. Its exponent stands behind a digit. -/
def IsNumeral (text : List Char) : Prop :=
  ∃ whole fraction exponent, text = whole ++ (fraction ++ exponent) ∧
    whole.all Char.isDigit = true ∧ IsExponent exponent ∧
    (fraction = [] ∧ whole ≠ [] ∨
      ∃ digits, fraction = '.' :: digits ∧ digits.all Char.isDigit = true ∧
        (digits ≠ [] ∨ whole ≠ [] ∧ exponent = []))

namespace Token

variable {rest : List Char}

/-! ## Digits -/

theorem isDigitOf_ten (character : Char) : isDigitOf 10 character = character.isDigit := by
  rw [isDigitOf, if_neg (by decide)]
  cases digit : character.isDigit with
  | false => rfl
  | true =>
      rw [Char.isDigit, Bool.and_eq_true, decide_eq_true_eq, decide_eq_true_eq] at digit
      obtain ⟨_, high⟩ := digit
      have bound : character.toNat ≤ 57 := UInt32.le_iff_toNat_le.mp high
      simp only [Bool.true_and, decide_eq_true_eq]
      omega

theorem isNameRest_of_isDigit {character : Char} (digit : character.isDigit = true) :
    Text.isNameRest character = true := by
  rw [Text.isNameRest, Char.isAlphanum, digit, Bool.or_true]
  rfl

theorem ne_of_isNameRest
    {character other : Char}
    (part : Text.isNameRest character = true)
    (excluded : Text.isNameRest other = false) : character ≠ other := by
  rintro rfl
  rw [part] at excluded
  cases excluded

theorem isDigit_of_isNameStart
    {character : Char}
    (starts : Text.isNameStart character = true) : character.isDigit = false := by
  rw [Bool.eq_false_iff]
  intro digit
  delta Text.isNameStart Char.isAlpha Char.isUpper Char.isLower at starts
  delta Char.isDigit at digit
  simp only [Bool.or_eq_true, Bool.and_eq_true, decide_eq_true_eq, beq_iff_eq] at starts digit
  obtain ⟨low, high⟩ := digit
  rcases starts with (⟨least, _⟩ | ⟨least, _⟩) | rfl
  · exact absurd (UInt32.le_trans least high) (by decide)
  · exact absurd (UInt32.le_trans least high) (by decide)
  · exact absurd high (by decide)

/-- Digits that no word goes on behind are a run. -/
theorem digitRun_append
    {digits : List Char}
    (all : digits.all Char.isDigit = true)
    (ends : rest.head?.any (fun next => next.isDigit || next == '_') = false) :
    digitRun 10 (digits ++ rest) = (digits, rest) := by
  induction digits with
  | nil =>
      cases rest with
      | nil => rfl
      | cons next behind =>
          rw [List.head?_cons, Option.any_some, Bool.or_eq_false_iff] at ends
          exact digitRun_of_not (by rw [isDigitOf_ten, ends.1]) (by simpa using ends.2) behind
  | cons first digits inductionHypothesis =>
      rw [List.all_cons, Bool.and_eq_true] at all
      rw [List.cons_append, digitRun, if_pos (by rw [isDigitOf_ten, all.1]),
        inductionHypothesis all.2]

/-- A finished number leaves the text behind it, if no word goes on there. -/
theorem finishNumber_of_ends
    (ends : rest.head?.any Text.isNameRest = false)
    (value : TokenKind) : finishNumber value rest = (value, rest) := by
  cases rest with
  | nil => rfl
  | cons next behind =>
      rw [List.head?_cons, Option.any_some] at ends
      have small : (next == 'j') = false := beq_false_of_ne (by rintro rfl; cases ends)
      have capital : (next == 'J') = false := beq_false_of_ne (by rintro rfl; cases ends)
      simp [finishNumber, endsNumber, ends, small, capital]

/-- What ends a wide class of characters ends a narrow one. -/
theorem head?_any_mono
    {narrow wide : Char -> Bool}
    (implied : ∀ character, narrow character = true -> wide character = true)
    (ends : rest.head?.any wide = false) : rest.head?.any narrow = false := by
  cases rest with
  | nil => rfl
  | cons next behind =>
      rw [List.head?_cons, Option.any_some] at ends ⊢
      exact Bool.eq_false_iff.mpr fun is => Bool.eq_false_iff.mp ends (implied next is)

/-- There is no exponent where a name would end. -/
theorem exponent?_of_ends
    (ends : rest.head?.any Text.isNameRest = false) : exponent? rest = none := by
  rw [exponent?, if_neg]
  rw [Bool.not_eq_true]
  refine head?_any_mono (fun character is => ?_) ends
  rw [Bool.or_eq_true, beq_iff_eq, beq_iff_eq] at is
  rcases is with rfl | rfl <;> rfl

theorem ends_digits
    (ends : rest.head?.any Text.isNameRest = false) :
    rest.head?.any (fun next => next.isDigit || next == '_') = false := by
  refine head?_any_mono (fun character is => ?_) ends
  rw [Bool.or_eq_true, beq_iff_eq] at is
  rcases is with digit | rfl
  · exact isNameRest_of_isDigit digit
  · rfl

/-- An exponent is read with its sign and its digits. -/
theorem exponent?_append
    {mark : Char}
    {sign digits : List Char}
    (marks : mark = 'e' ∨ mark = 'E')
    (signs : sign = [] ∨ sign = ['+'] ∨ sign = ['-'])
    (filled : digits ≠ [])
    (all : digits.all Char.isDigit = true)
    (ends : rest.head?.any Text.isNameRest = false) :
    ∃ power, exponent? (mark :: (sign ++ (digits ++ rest))) = some (power, rest) := by
  have run := digitRun_append all (ends_digits ends)
  obtain ⟨first, others, rfl⟩ := List.exists_cons_of_ne_nil filled
  have digit : first.isDigit = true := List.all_eq_true.mp all first List.mem_cons_self
  have noMinus : first ≠ '-' := by rintro rfl; cases digit
  have noPlus : first ≠ '+' := by rintro rfl; cases digit
  have marked : (mark == 'e' || mark == 'E') = true := by
    rcases marks with rfl | rfl <;> rfl
  rw [List.cons_append] at run ⊢
  rcases signs with rfl | rfl | rfl <;>
    simp [exponent?, marked, run, digit, noMinus, noPlus]

/-! ## Numerals -/

/-- The token of a numeral is a number, or an invalid one. -/
def IsNumeric (kind : TokenKind) : Prop :=
  kind = .invalid ∨ ∃ value, kind = .number value

/-- The text of a whole number with an exponent. -/
structure IsWhole (text : List Char) : Prop where
  split : ∃ whole exponent, text = whole ++ exponent ∧ whole ≠ [] ∧
    whole.all Char.isDigit = true ∧ IsExponent exponent

/-- Digits with an exponent are read as one number. -/
theorem decimalNumber_append
    {whole exponent : List Char}
    (all : whole.all Char.isDigit = true)
    (isExponent : IsExponent exponent)
    (ends : rest.head?.any Text.isNameRest = false)
    (noPoint : rest.head? ≠ some '.') :
    IsNumeric (decimalNumber (whole ++ (exponent ++ rest))).1 ∧
      (decimalNumber (whole ++ (exponent ++ rest))).2 = rest := by
  rcases isExponent with rfl | ⟨mark, sign, digits, rfl, marks, signs, filled, digitsAll⟩
  · have noPointNext : rest.head?.any (· == '.') = false := by
      cases rest with
      | nil => rfl
      | cons next behind => simpa using noPoint
    rw [List.nil_append, decimalNumber, digitRun_append all (ends_digits ends)]
    simp only [noPointNext, exponent?_of_ends ends, finishNumber_of_ends ends, Option.isSome_none,
      Bool.false_eq_true, if_false]
    split
    · exact ⟨.inl rfl, rfl⟩
    · exact ⟨.inr ⟨_, rfl⟩, rfl⟩
  · obtain ⟨power, found⟩ := exponent?_append marks signs filled digitsAll ends
    have stops : (mark :: (sign ++ (digits ++ rest))).head?.any
        (fun next => next.isDigit || next == '_') = false := by
      rcases marks with rfl | rfl <;> rfl
    have noPointNext : (mark == '.') = false := by
      rcases marks with rfl | rfl <;> rfl
    rw [List.cons_append, List.append_assoc, decimalNumber, digitRun_append all stops]
    simp only [List.head?_cons, Option.any_some, noPointNext, found, Option.isSome_some,
      Bool.false_eq_true, if_false, if_true, decimalTail, finishNumber_of_ends ends]
    exact ⟨.inr ⟨_, rfl⟩, trivial⟩

/-- A decimal number has no mark of another base behind its first digit. -/
theorem number_eq_decimalNumber
    {first : Char}
    {text : List Char}
    (digit : first.isDigit = true)
    (next : ∀ character, text.head? = some character ->
      character.isDigit = true ∨ character ∈ ['e', 'E'] ∨ Text.isNameRest character = false) :
    number (first :: text) = decimalNumber (first :: text) := by
  have noPoint : (first == '.') = false := beq_false_of_ne (by rintro rfl; cases digit)
  have noBase : text.head?.bind baseOf? = none := by
    cases leads : text.head? with
    | none => rfl
    | some character =>
        have other (mark : Char) (marks : mark ∈ ['x', 'X', 'o', 'O', 'b', 'B']) :
            (character == mark) = false := by
          refine beq_false_of_ne ?_
          rintro rfl
          revert marks
          rcases next _ leads with isDigit | exponent | noPart
          · simp only [List.mem_cons, List.not_mem_nil, or_false]
            rintro (rfl | rfl | rfl | rfl | rfl | rfl) <;> cases isDigit
          · simp only [List.mem_cons, List.not_mem_nil, or_false] at exponent
            rcases exponent with rfl | rfl <;> decide
          · simp only [List.mem_cons, List.not_mem_nil, or_false]
            rintro (rfl | rfl | rfl | rfl | rfl | rfl) <;> cases noPart
        simp [baseOf?, other]
  simp [number, noPoint, noBase]

/-- Where a word starts, no quoted text does, unless a quote follows the letters. -/
theorem marked?_of_next
    {text : List Char}
    (next : ∀ character, (text.dropWhile Char.isAlpha).head? = some character ->
      character ≠ '\'' ∧ character ≠ '"') : marked? text = none := by
  rw [marked?]
  cases leads : text.dropWhile Char.isAlpha with
  | nil => rfl
  | cons character behind =>
      obtain ⟨noSingle, noDouble⟩ := next character (by rw [leads]; rfl)
      simp [noSingle, noDouble]

/-- A whole number is one token, if neither a word nor a point follows it. -/
theorem cut_whole
    {text : List Char}
    (isWhole : IsWhole text)
    (ends : rest.head?.any Text.isNameRest = false)
    (noPoint : rest.head? ≠ some '.') :
    IsNumeric (cut (text ++ rest)).kind ∧ (cut (text ++ rest)).fields = [] ∧
      (cut (text ++ rest)).rest = rest := by
  obtain ⟨whole, exponent, rfl, filled, all, isExponent⟩ := isWhole.split
  obtain ⟨numeric, behind⟩ := decimalNumber_append all isExponent ends noPoint
  obtain ⟨first, others, rfl⟩ := List.exists_cons_of_ne_nil filled
  rw [List.all_cons, Bool.and_eq_true] at all
  obtain ⟨digit, others_all⟩ := all
  have noAlpha : ¬first.isAlpha = true := fun alpha => by
    rw [isDigit_of_isNameStart (by rw [Text.isNameStart, alpha]; rfl)] at digit
    cases digit
  have unmarked : marked? (first :: (others ++ (exponent ++ rest))) = none := by
    refine marked?_of_next fun character leads => ?_
    rw [List.dropWhile_cons_of_neg noAlpha] at leads
    cases leads
    exact ⟨ne_of_isNameRest (isNameRest_of_isDigit digit) (by decide),
      ne_of_isNameRest (isNameRest_of_isDigit digit) (by decide)⟩
  have isDecimal : number (first :: (others ++ (exponent ++ rest))) =
      decimalNumber (first :: (others ++ (exponent ++ rest))) := by
    refine number_eq_decimalNumber digit fun character leads => ?_
    cases others with
    | cons next others =>
        cases leads
        exact .inl (List.all_eq_true.mp others_all _ List.mem_cons_self)
    | nil =>
        rcases isExponent with rfl | ⟨mark, sign, digits, rfl, marks, _⟩
        · change rest.head? = _ at leads
          rw [leads, Option.any_some] at ends
          exact .inr (.inr ends)
        · cases leads
          exact .inr (.inl (by simpa using marks))
  rw [List.cons_append] at numeric behind
  rw [List.append_assoc, List.cons_append]
  unfold cut
  rw [unmarked]
  dsimp only
  rw [digit, Bool.true_or, if_pos rfl, isDecimal]
  exact ⟨numeric, rfl, behind⟩

/-! ## Names -/

theorem ne_of_isIdentifierLike
    {character other : Char}
    (like : isIdentifierLike character = true)
    (excluded : isIdentifierLike other = false) : character ≠ other := by
  rintro rfl
  rw [like] at excluded
  cases excluded

/-- The characters of an identifier are such that one could contain. -/
theorem isIdentifierLike_of_isIdentifier
    {word : List Char}
    (identifier : isIdentifier word = true) :
    ∀ character ∈ word, isIdentifierLike character = true := by
  cases word with
  | nil => cases identifier
  | cons first word =>
      rw [isIdentifier, Bool.and_eq_true, List.all_eq_true] at identifier
      obtain ⟨starts, parts⟩ := identifier
      refine List.forall_mem_cons.mpr ⟨?_, fun character present => ?_⟩
      · rw [Text.isIdentifierStart, Bool.or_eq_true, Bool.and_eq_true] at starts
        rw [isIdentifierLike, Bool.or_eq_true]
        exact starts.imp Argument.isNameRest_of_isNameStart And.left
      · have part := parts character present
        rw [Text.isIdentifierRest, Bool.or_eq_true, Bool.and_eq_true] at part
        rw [isIdentifierLike, Bool.or_eq_true]
        exact part.imp id And.left

/-- An identifier starts with no digit. -/
theorem isDigit_of_isIdentifierStart
    {first : Char}
    (starts : Text.isIdentifierStart first = true) : first.isDigit = false := by
  rw [Text.isIdentifierStart, Bool.or_eq_true, Bool.and_eq_true] at starts
  rcases starts with starts | ⟨wide, _⟩
  · exact isDigit_of_isNameStart starts
  · refine Bool.eq_false_iff.mpr fun digit => ?_
    obtain ⟨_, bound⟩ := Reference.toNat_of_isNameRest (isNameRest_of_isDigit digit)
    rw [decide_eq_true_eq] at wide
    omega

/-- An identifier or a keyword is one token, if neither a word nor a quote follows it. -/
theorem cut_identifier
    {word : List Char}
    (identifier : isIdentifier word = true)
    (ends : rest.head?.any isIdentifierLike = false)
    (noQuote : ∀ character, rest.head? = some character -> character ≠ '\'' ∧ character ≠ '"') :
    cut (word ++ rest) = { kind := wordKind word, rest } := by
  have like := isIdentifierLike_of_isIdentifier identifier
  have unmarked : marked? (word ++ rest) = none := by
    refine marked?_of_next fun character leads => ?_
    rw [List.dropWhile_append] at leads
    split at leads
    case isTrue =>
      have endsAlpha := head?_any_mono (fun _ alpha => isIdentifierLike_of_isAlpha alpha) ends
      cases rest with
      | nil => cases leads
      | cons next behind =>
          rw [List.head?_cons, Option.any_some] at endsAlpha
          rw [List.dropWhile_cons_of_neg (by simp [endsAlpha])] at leads
          exact noQuote character leads
    case isFalse solid =>
      rw [List.head?_append] at leads
      have present : character ∈ word := by
        cases stops : word.dropWhile Char.isAlpha with
        | nil => exact absurd (by rw [stops]; rfl) solid
        | cons next behind =>
            rw [stops] at leads
            cases leads
            exact (List.dropWhile_suffix _).subset (by rw [stops]; exact List.mem_cons_self)
      exact ⟨ne_of_isIdentifierLike (like _ present) (by decide),
        ne_of_isIdentifierLike (like _ present) (by decide)⟩
  obtain ⟨taken, behind⟩ := Argument.run_append like ends
  unfold cut
  rw [unmarked]
  cases word with
  | nil => cases identifier
  | cons first word =>
      rw [isIdentifier, Bool.and_eq_true] at identifier
      have noPoint : (first == '.') = false :=
        beq_false_of_ne (ne_of_isIdentifierLike (like first List.mem_cons_self) (by decide))
      rw [List.cons_append] at taken behind ⊢
      dsimp only
      rw [isDigit_of_isIdentifierStart identifier.1, noPoint, Bool.false_and, Bool.false_or,
        if_neg Bool.false_ne_true, if_pos (like first List.mem_cons_self), taken, behind]

/-- A name of shader code is an identifier. -/
theorem isIdentifier_of_isName
    {word : List Char}
    (named : Swizzle.isName word = true) : isIdentifier word = true := by
  have parts := Argument.isNameRest_of_mem named
  cases word with
  | nil => cases named
  | cons first word =>
      rw [Swizzle.isName, Bool.and_eq_true] at named
      rw [isIdentifier, Text.isIdentifierStart, named.1, Bool.true_or, Bool.true_and,
        List.all_eq_true]
      intro character present
      rw [Text.isIdentifierRest, parts character (List.mem_cons_of_mem first present),
        Bool.true_or]

/-! ## Punctuation -/

/-- The characters of arithmetic that are symbols by themselves. -/
def punctuation : List Char := ['+', '-', '*', '/', '(', ')', ',']

/-- Whether a symbol of one character ends before a text. -/
def endsSymbol (rest : List Char) : Bool :=
  !rest.head?.any ['=', '>', '*', '/'].contains

/-- The marks that start no longer symbol. -/
def separators : List Char := ['(', ')', ',']

/-- A text that ends symbols of one character ends every symbol that only such characters
make longer. -/
theorem symbol?_of_endsSymbol
    {mark : List Char}
    (lengthened : followers mark ⊆ ['=', '>', '*', '/'])
    (ends : endsSymbol rest = true) : symbol? (mark ++ rest) = symbol? mark := by
  refine symbol?_append fun next follows starts => ?_
  rw [endsSymbol, starts, Option.any_some, List.contains_iff_mem.mpr (lengthened follows)] at ends
  cases ends

/-- A mark of punctuation is a symbol, and few others can follow it. -/
theorem followers_punctuation
    {mark : Char}
    (isMark : mark ∈ punctuation) :
    symbol? [mark] = some (String.singleton mark) ∧ followers [mark] ⊆ ['=', '>', '*', '/'] ∧
      (mark ∈ separators -> followers [mark] = []) := by
  simp only [punctuation, List.mem_cons, List.not_mem_nil, or_false] at isMark
  rcases isMark with rfl | rfl | rfl | rfl | rfl | rfl | rfl <;> decide +kernel

/-- A mark of punctuation is read as its own symbol. -/
theorem symbol?_punctuation
    {mark : Char}
    (isMark : mark ∈ punctuation)
    (ends : mark ∈ separators ∨ endsSymbol rest = true) :
    symbol? (mark :: rest) = some (String.singleton mark) := by
  obtain ⟨found, lengthened, alone⟩ := followers_punctuation isMark
  rw [← List.singleton_append, ← found]
  rcases ends with separates | ends
  · refine symbol?_append fun next follows => ?_
    rw [alone separates] at follows
    cases follows
  · exact symbol?_of_endsSymbol lengthened ends

/-- A character that starts nothing but a symbol. -/
structure IsSign (mark : Char) : Prop where
  noAlpha : mark.isAlpha = false
  noDigit : mark.isDigit = false
  noPoint : mark ≠ '.'
  noWord : isIdentifierLike mark = false
  noQuote : mark ≠ '\'' ∧ mark ≠ '"'

theorem isSign_of_mem
    {mark : Char}
    (isMark : mark ∈ '%' :: '^' :: punctuation) : IsSign mark := by
  simp only [punctuation, List.mem_cons, List.not_mem_nil, or_false] at isMark
  rcases isMark with rfl | rfl | rfl | rfl | rfl | rfl | rfl | rfl | rfl <;>
    exact ⟨by decide, by decide, by decide, by decide, by decide⟩

/-- A symbol is cut as a piece of its own. -/
theorem cut_symbol
    {mark : Char}
    {symbol : String}
    (isSign : IsSign mark)
    (found : symbol? (mark :: rest) = some symbol) :
    cut (mark :: rest) = { kind := .symbol symbol, rest := (mark :: rest).drop symbol.length } := by
  have unmarked : marked? (mark :: rest) = none := by
    refine marked?_of_next fun character leads => ?_
    rw [List.dropWhile_cons_of_neg (by simp [isSign.noAlpha])] at leads
    cases leads
    exact isSign.noQuote
  unfold cut
  rw [unmarked]
  dsimp only
  rw [isSign.noDigit, beq_false_of_ne isSign.noPoint, isSign.noWord, found]
  rfl

/-- A mark of punctuation is cut as a piece of its own. -/
theorem cut_punctuation
    {mark : Char}
    (isMark : mark ∈ punctuation)
    (ends : mark ∈ separators ∨ endsSymbol rest = true) :
    cut (mark :: rest) = { kind := .symbol (String.singleton mark), rest } := by
  have isSign := isSign_of_mem (List.mem_cons_of_mem '%' (List.mem_cons_of_mem '^' isMark))
  rw [cut_symbol isSign (symbol?_punctuation isMark ends), String.length_singleton]
  rfl

end Token
end ShaderGraph
