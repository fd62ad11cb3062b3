import ShaderGraph.Proofs.Argument.Search

/-!
# Literals in any accepted form

A literal is a text that is read as one number: digits of any base, with underscores, a
point and an exponent wherever these are accepted. It is read as the same number in front of
a text that goes on with neither a word nor a point, and it has the shape that a search for
names knows literals by.
-/

namespace ShaderGraph
namespace Token

variable {text rest : List Char} {value : Numeral}

/-- A text that is read as a number up to its end. -/
def IsNumber (text : List Char) (value : Numeral) : Prop :=
  (text.head?.any Char.isDigit = true ∨
      ∃ digits, text = '.' :: digits ∧ digits.head?.any Char.isDigit = true) ∧
    number text = (.number value, [])

/-! ## Digits -/

/-- A digit of any base may stand in a name. -/
theorem isNameRest_of_isDigitOf
    {base : Nat}
    {character : Char}
    (digit : isDigitOf base character = true) : Text.isNameRest character = true := by
  rw [isDigitOf] at digit
  split at digit
  case isFalse =>
    rw [Bool.and_eq_true] at digit
    exact isNameRest_of_isDigit digit.1
  case isTrue =>
    have ofAlpha (alpha : character.isAlpha = true) : Text.isNameRest character = true :=
      Argument.isNameRest_of_isNameStart (by rw [Text.isNameStart, alpha, Bool.true_or])
    rw [Bool.or_eq_true, Bool.or_eq_true, Bool.and_eq_true, Bool.and_eq_true, decide_eq_true_eq,
      decide_eq_true_eq, decide_eq_true_eq, decide_eq_true_eq] at digit
    rcases digit with (digit | ⟨low, high⟩) | ⟨low, high⟩
    · exact isNameRest_of_isDigit digit
    · have lower : character.isLower = true := by
        delta Char.isLower
        rw [Bool.and_eq_true, decide_eq_true_eq, decide_eq_true_eq]
        exact ⟨low, UInt32.le_trans high (by decide)⟩
      exact ofAlpha (Bool.or_eq_true_iff.mpr (.inr lower))
    · have upper : character.isUpper = true := by
        delta Char.isUpper
        rw [decide_eq_true_eq]
        exact ⟨low, UInt32.le_trans high (by decide)⟩
      exact ofAlpha (Bool.or_eq_true_iff.mpr (.inl upper))

theorem head?_isDigitOf
    (ends : rest.head?.any Text.isNameRest = false)
    (base : Nat) : rest.head?.any (isDigitOf base) = false :=
  head?_any_mono (fun _ => isNameRest_of_isDigitOf) ends

/-- A run of digits goes on in front of no word. -/
theorem digitRun_append_rest
    (base : Nat)
    (ends : rest.head?.any Text.isNameRest = false)
    (text : List Char) :
    digitRun base (text ++ rest) = ((digitRun base text).1, (digitRun base text).2 ++ rest) := by
  induction text with
  | nil =>
      cases rest with
      | nil => rfl
      | cons next behind =>
          have noDigit := head?_isDigitOf ends base
          rw [List.head?_cons, Option.any_some] at ends noDigit
          exact digitRun_of_not noDigit (by rintro rfl; cases ends) behind
  | cons first text inductionHypothesis =>
      have sameNext : (text ++ rest).head?.any (isDigitOf base) =
          text.head?.any (isDigitOf base) := by
        cases text with
        | nil => exact head?_isDigitOf ends base
        | cons => rfl
      rw [List.cons_append, digitRun, digitRun, sameNext, inductionHypothesis]
      repeat' split
      all_goals rfl

/-- A run of digits is taken from the front of a text. -/
theorem exists_digitRun_append (base : Nat) (text : List Char) :
    ∃ run, text = run ++ (digitRun base text).2 ∧
      ∀ character ∈ run, Text.isNameRest character = true := by
  induction text with
  | nil => exact ⟨[], rfl, by simp⟩
  | cons first text inductionHypothesis =>
      obtain ⟨run, same, parts⟩ := inductionHypothesis
      rw [digitRun]
      split
      case isTrue digit =>
        exact ⟨first :: run, congrArg _ same,
          List.forall_mem_cons.mpr ⟨isNameRest_of_isDigitOf digit, parts⟩⟩
      case isFalse =>
        split
        case isTrue separates =>
          rw [Bool.and_eq_true, beq_iff_eq] at separates
          exact ⟨first :: run, congrArg _ same,
            List.forall_mem_cons.mpr ⟨by rw [separates.1]; rfl, parts⟩⟩
        case isFalse => exact ⟨[], rfl, by simp⟩

/-! ## Ends of numbers -/

/-- A number that takes its whole text ends where its digits do. -/
theorem finishNumber_eq
    {kind : TokenKind}
    (taken : finishNumber kind text = (.number value, [])) :
    text = [] ∧ kind = .number value := by
  rw [finishNumber] at taken
  split at taken
  case isTrue =>
    split at taken <;> cases (Prod.mk.inj taken).1
  case isFalse =>
    obtain ⟨kinds, rfl⟩ := Prod.mk.inj taken
    exact ⟨rfl, kinds⟩

/-- An exponent with its mark, an optional sign, and a digit behind them. -/
structure IsPower (mark : Char) (sign body : List Char) : Prop where
  marks : mark = 'e' ∨ mark = 'E'
  signs : sign = [] ∨ sign = ['+'] ∨ sign = ['-']
  digit : body.head?.any Char.isDigit = true

/-- A power is read with its sign and all its digits. -/
theorem IsPower.exponent?_eq
    {mark : Char}
    {sign body : List Char}
    (isPower : IsPower mark sign body) :
    exponent? (mark :: (sign ++ body)) =
      some (if sign = ['-'] then -(digitsValue 10 (digitRun 10 body).1 : Int)
        else (digitsValue 10 (digitRun 10 body).1 : Int), (digitRun 10 body).2) := by
  obtain ⟨marks, signs, digit⟩ := isPower
  have marked : (mark == 'e' || mark == 'E') = true := by
    rcases marks with rfl | rfl <;> rfl
  cases body with
  | nil => cases digit
  | cons first others =>
      rw [List.head?_cons, Option.any_some] at digit
      have noMinus : first ≠ '-' := by rintro rfl; cases digit
      have noPlus : first ≠ '+' := by rintro rfl; cases digit
      rcases signs with rfl | rfl | rfl <;>
        simp [exponent?, marked, digit, noMinus, noPlus]

/-- What is read as an exponent is a power. -/
theorem exists_isPower
    {found : Int × List Char}
    (taken : exponent? text = some found) :
    ∃ mark sign body, text = mark :: (sign ++ body) ∧ IsPower mark sign body := by
  cases text with
  | nil => cases taken
  | cons mark behind =>
      have marks : mark = 'e' ∨ mark = 'E' := by
        by_contra other
        simp [exponent?, other] at taken
      have marked : (mark == 'e' || mark == 'E') = true := by simpa using marks
      cases behind with
      | nil => simp [exponent?, marked] at taken
      | cons next body =>
          by_cases plus : next = '+'
          · subst plus
            refine ⟨mark, ['+'], body, rfl, marks, .inr (.inl rfl), ?_⟩
            by_contra noDigit
            simp [exponent?, marked, noDigit] at taken
          by_cases minus : next = '-'
          · subst minus
            refine ⟨mark, ['-'], body, rfl, marks, .inr (.inr rfl), ?_⟩
            by_contra noDigit
            simp [exponent?, marked, noDigit] at taken
          · refine ⟨mark, [], next :: body, rfl, marks, .inl rfl, ?_⟩
            by_contra noDigit
            rw [List.head?_cons, Option.any_some] at noDigit
            simp [exponent?, marked, plus, minus, noDigit] at taken

/-- An exponent ends where a name would. -/
theorem exponent?_append_rest
    (ends : rest.head?.any Text.isNameRest = false)
    {power : Int}
    {after : List Char}
    (taken : exponent? text = some (power, after)) :
    exponent? (text ++ rest) = some (power, after ++ rest) := by
  obtain ⟨mark, sign, body, rfl, isPower⟩ := exists_isPower taken
  have longer : IsPower mark sign (body ++ rest) := by
    refine ⟨isPower.marks, isPower.signs, ?_⟩
    cases body with
    | nil => cases isPower.digit
    | cons => exact isPower.digit
  rw [isPower.exponent?_eq] at taken
  rw [List.cons_append, List.append_assoc, longer.exponent?_eq, digitRun_append_rest 10 ends]
  obtain ⟨rfl, rfl⟩ := Prod.mk.inj (Option.some.inj taken)
  rfl

/-- An exponent that takes its whole text makes a run with a power of what stands in front. -/
theorem isSignedRun_of_exponent?
    {power : Int}
    {run : List Char}
    (taken : exponent? text = some (power, []))
    (parts : ∀ character ∈ run, Text.isNameRest character = true) : IsSignedRun (run ++ text) := by
  obtain ⟨mark, sign, body, rfl, isPower⟩ := exists_isPower taken
  rw [isPower.exponent?_eq] at taken
  obtain ⟨digits, same, digitParts⟩ := exists_digitRun_append 10 body
  rw [(Prod.mk.inj (Option.some.inj taken)).2, List.append_nil] at same
  subst same
  have isMark : Text.isNameRest mark = true := by
    rcases isPower.marks with rfl | rfl <;> decide
  have marked : ∀ character ∈ run ++ [mark], Text.isNameRest character = true :=
    List.forall_mem_append.mpr ⟨parts, by simpa using isMark⟩
  rcases isPower.signs with rfl | rfl | rfl
  · exact ⟨(run ++ [mark]) ++ body, [], by simp,
      List.forall_mem_append.mpr ⟨marked, digitParts⟩, .inl rfl⟩
  · exact ⟨run ++ [mark], '+' :: body, by simp, marked,
      .inr ⟨'+', body, rfl, .inl rfl, isPower.digit, digitParts⟩⟩
  · exact ⟨run ++ [mark], '-' :: body, by simp, marked,
      .inr ⟨'-', body, rfl, .inr rfl, isPower.digit, digitParts⟩⟩

/-! ## Decimal numbers -/

/-- A decimal number ends where a name would. -/
theorem decimalTail_append_rest
    {whole fraction : List Char}
    (ends : rest.head?.any Text.isNameRest = false)
    (taken : decimalTail whole fraction text = (.number value, [])) :
    decimalTail whole fraction (text ++ rest) = (.number value, rest) := by
  rw [decimalTail] at taken
  split at taken
  case h_1 power after found =>
    obtain ⟨rfl, kind⟩ := finishNumber_eq taken
    rw [decimalTail, exponent?_append_rest ends found]
    dsimp only
    rw [kind]
    exact finishNumber_of_ends ends _
  case h_2 none =>
    obtain ⟨rfl, kind⟩ := finishNumber_eq taken
    rw [decimalTail, List.nil_append, exponent?_of_ends ends]
    dsimp only
    rw [kind]
    exact finishNumber_of_ends ends _

/-- Behind digits, the end of a decimal number makes a run with a power. -/
theorem isSignedRun_of_decimalTail
    {whole fraction run : List Char}
    (taken : decimalTail whole fraction text = (.number value, []))
    (parts : ∀ character ∈ run, Text.isNameRest character = true) : IsSignedRun (run ++ text) := by
  rw [decimalTail] at taken
  split at taken
  case h_1 power after found =>
    obtain ⟨rfl, _⟩ := finishNumber_eq taken
    exact isSignedRun_of_exponent? found parts
  case h_2 none =>
    obtain ⟨rfl, _⟩ := finishNumber_eq taken
    exact ⟨run, [], rfl, parts, .inl rfl⟩

/-- The digits behind a point, and what follows them. -/
def fraction (text : List Char) : List Char × List Char :=
  if text.head?.any Char.isDigit then digitRun 10 text else ([], text)

/-- A fraction ends where a name would. -/
theorem fraction_append_rest
    (ends : rest.head?.any Text.isNameRest = false)
    (text : List Char) :
    fraction (text ++ rest) = ((fraction text).1, (fraction text).2 ++ rest) := by
  have sameDigit : (text ++ rest).head?.any Char.isDigit = text.head?.any Char.isDigit := by
    cases text with
    | nil => exact head?_any_mono (fun _ => isNameRest_of_isDigit) ends
    | cons => rfl
  rw [fraction, fraction, sameDigit, digitRun_append_rest 10 ends]
  split <;> rfl

/-- A fraction takes characters that may stand in a name. -/
theorem exists_fraction_append (text : List Char) :
    ∃ run, text = run ++ (fraction text).2 ∧
      ∀ character ∈ run, Text.isNameRest character = true := by
  rw [fraction]
  split
  · exact exists_digitRun_append 10 text
  · exact ⟨[], rfl, by simp⟩

section DecimalNumber

variable {whole behind : List Char}

theorem decimalNumber_of_point
    (split : digitRun 10 text = (whole, '.' :: behind)) :
    decimalNumber text = decimalTail whole (fraction behind).1 (fraction behind).2 := by
  rw [decimalNumber, split]
  rfl

theorem decimalNumber_of_no_point
    (split : digitRun 10 text = (whole, behind))
    (noPoint : behind.head? ≠ some '.') :
    decimalNumber text =
      if (exponent? behind).isSome then decimalTail whole [] behind
      else
        let (kind, after) := finishNumber (.number (.integer (digitsValue 10 whole))) behind
        if kind != .imaginary &&
            (whole.head? == some '0' && whole.any (· != '0') ||
              whole.length > digitLimit && whole.any (· != '0')) then (.invalid, after)
        else (kind, after) := by
  have noPointNext : ¬behind.head?.any (· == '.') = true := by
    cases behind with
    | nil => simp
    | cons next more => simpa using noPoint
  rw [decimalNumber, split]
  exact if_neg noPointNext

/-- A decimal number without a point and an exponent is a run of digits. -/
theorem behind_of_decimalNumber
    (split : digitRun 10 text = (whole, behind))
    (noPoint : behind.head? ≠ some '.')
    (noExponent : ¬(exponent? behind).isSome = true)
    (taken : decimalNumber text = (.number value, [])) : behind = [] := by
  rw [decimalNumber_of_no_point split noPoint, if_neg noExponent] at taken
  dsimp only at taken
  split at taken
  case isTrue => cases (Prod.mk.inj taken).1
  case isFalse => exact (finishNumber_eq taken).1

/-- A decimal number without a point behind it ends where a name would. -/
theorem decimalNumber_append_rest
    (ends : rest.head?.any Text.isNameRest = false)
    (noPoint : rest.head? ≠ some '.')
    (taken : decimalNumber text = (.number value, [])) :
    decimalNumber (text ++ rest) = (.number value, rest) := by
  have split : digitRun 10 text = ((digitRun 10 text).1, (digitRun 10 text).2) := rfl
  have longer := digitRun_append_rest 10 ends text
  generalize (digitRun 10 text).1 = whole at split longer
  generalize (digitRun 10 text).2 = behind at split longer
  by_cases pointed : behind.head? = some '.'
  · obtain ⟨more, rfl⟩ := List.head?_eq_some_iff.mp pointed
    rw [decimalNumber_of_point split] at taken
    rw [List.cons_append] at longer
    rw [decimalNumber_of_point longer, fraction_append_rest ends]
    exact decimalTail_append_rest ends taken
  by_cases powered : (exponent? behind).isSome = true
  · rw [decimalNumber_of_no_point split pointed, if_pos powered] at taken
    obtain ⟨found, same⟩ := Option.isSome_iff_exists.mp powered
    obtain ⟨mark, sign, body, rfl, _⟩ := exists_isPower same
    have poweredLonger := exponent?_append_rest ends same
    rw [decimalNumber_of_no_point longer pointed, poweredLonger, Option.isSome_some, if_pos rfl]
    exact decimalTail_append_rest ends taken
  · have noEnd : ([] : List Char).head?.any Text.isNameRest = false := rfl
    obtain rfl := behind_of_decimalNumber split pointed powered taken
    rw [decimalNumber_of_no_point split pointed, if_neg powered] at taken
    rw [List.nil_append] at longer
    rw [decimalNumber_of_no_point longer noPoint, exponent?_of_ends ends, Option.isSome_none,
      if_neg Bool.false_ne_true, finishNumber_of_ends ends]
    rw [finishNumber_of_ends noEnd] at taken
    dsimp only at taken ⊢
    split at taken
    case isTrue => cases (Prod.mk.inj taken).1
    case isFalse valid => rw [if_neg valid, (Prod.mk.inj taken).1]

/-- What is read as a decimal number is a literal. -/
theorem isLiteral_of_decimalNumber
    (digit : text.head?.any Char.isDigit = true)
    (taken : decimalNumber text = (.number value, [])) : IsLiteral text := by
  have split : digitRun 10 text = ((digitRun 10 text).1, (digitRun 10 text).2) := rfl
  obtain ⟨run, same, parts⟩ := exists_digitRun_append 10 text
  generalize (digitRun 10 text).1 = whole at split
  generalize (digitRun 10 text).2 = behind at split same
  by_cases pointed : behind.head? = some '.'
  · obtain ⟨more, rfl⟩ := List.head?_eq_some_iff.mp pointed
    rw [decimalNumber_of_point split] at taken
    obtain ⟨digits, sameMore, digitParts⟩ := exists_fraction_append more
    have isRun := isSignedRun_of_decimalTail taken digitParts
    rw [← sameMore] at isRun
    refine .inr ⟨run, more, same, isRun, parts, ?_⟩
    cases run with
    | nil => exact .inl rfl
    | cons first run =>
        rw [same] at digit
        exact .inr digit
  refine .inl ⟨?_, digit⟩
  by_cases powered : (exponent? behind).isSome = true
  · rw [decimalNumber_of_no_point split pointed, if_pos powered] at taken
    rw [same]
    exact isSignedRun_of_decimalTail taken parts
  · obtain rfl := behind_of_decimalNumber split pointed powered taken
    exact ⟨run, [], same, parts, .inl rfl⟩

end DecimalNumber

/-! ## Numbers in other bases -/

/-- What stands behind an underscore at the start of a text, or the text. -/
def afterSeparator (text : List Char) : List Char :=
  if text.head?.any (· == '_') then text.drop 1 else text

theorem based_def (base : Nat) (text : List Char) :
    based base text =
      if (afterSeparator text).head?.any (isDigitOf base) &&
          endsNumber (digitRun base (afterSeparator text)).2 &&
          !(digitRun base (afterSeparator text)).2.head?.any Char.isDigit then
        (.number (.integer (digitsValue base (digitRun base (afterSeparator text)).1)),
          (digitRun base (afterSeparator text)).2)
      else (.invalid, (digitRun base (afterSeparator text)).2) := rfl

/-- Behind the mark of a base the digits of a number go up to its end. -/
theorem based_eq
    {base : Nat}
    (taken : based base text = (.number value, [])) :
    (afterSeparator text).head?.any (isDigitOf base) = true ∧
      (digitRun base (afterSeparator text)).2 = [] ∧
      .integer (digitsValue base (digitRun base (afterSeparator text)).1) = value := by
  rw [based_def] at taken
  generalize afterSeparator text = body at taken ⊢
  split at taken
  case isFalse => cases (Prod.mk.inj taken).1
  case isTrue complete =>
    rw [Bool.and_eq_true, Bool.and_eq_true] at complete
    obtain ⟨kind, rests⟩ := Prod.mk.inj taken
    exact ⟨complete.1.1, rests, TokenKind.number.inj kind⟩

/-- A number of another base ends where a name would. -/
theorem based_append_rest
    {base : Nat}
    (ends : rest.head?.any Text.isNameRest = false)
    (taken : based base text = (.number value, [])) :
    based base (text ++ rest) = (.number value, rest) := by
  obtain ⟨digit, whole, rfl⟩ := based_eq taken
  have longer : afterSeparator (text ++ rest) = afterSeparator text ++ rest := by
    cases text with
    | nil => cases digit
    | cons first text =>
        rw [List.cons_append, afterSeparator, afterSeparator, List.head?_cons, List.head?_cons]
        split <;> rfl
  have digitLonger : (afterSeparator text ++ rest).head?.any (isDigitOf base) = true := by
    cases body : afterSeparator text with
    | nil => rw [body] at digit; cases digit
    | cons first body => rwa [body] at digit
  have numberEnds : endsNumber rest = true := by
    cases rest with
    | nil => rfl
    | cons next behind =>
        rw [List.head?_cons, Option.any_some] at ends
        rw [endsNumber, ends, Bool.not_false, Bool.or_true]
  have noDigit := head?_any_mono (fun _ => isNameRest_of_isDigit) ends
  rw [based_def, longer, digitRun_append_rest base ends, whole, List.nil_append, digitLonger,
    numberEnds, noDigit]
  rfl

/-- The characters of a number of another base may stand in a name. -/
theorem forall_isNameRest_of_based
    {base : Nat}
    (taken : based base text = (.number value, [])) :
    ∀ character ∈ text, Text.isNameRest character = true := by
  obtain ⟨_, whole, _⟩ := based_eq taken
  obtain ⟨run, same, parts⟩ := exists_digitRun_append base (afterSeparator text)
  rw [whole, List.append_nil] at same
  subst same
  cases text with
  | nil => simp
  | cons first text =>
      rw [afterSeparator] at parts
      split at parts
      case isFalse => exact parts
      case isTrue separates =>
        have isMark : first = '_' := by simpa using separates
        exact List.forall_mem_cons.mpr ⟨by rw [isMark]; rfl, parts⟩

/-! ## Numbers -/

/-- A number that starts with a point is a decimal one. -/
theorem number_of_point (digits : List Char) :
    number ('.' :: digits) =
      decimalTail [] (digitRun 10 digits).1 (digitRun 10 digits).2 := rfl

theorem number_of_base
    {mark : Char}
    {base : Nat}
    (known : baseOf? mark = some base)
    (digits : List Char) : number ('0' :: mark :: digits) = based base digits := by
  simp [number, known]

/-- A number that starts with a digit and no base is a decimal one. -/
theorem number_of_digit
    {first : Char}
    (digit : first.isDigit = true)
    (noBase : first = '0' -> text.head?.bind baseOf? = none) :
    number (first :: text) = decimalNumber (first :: text) := by
  have noPoint : (first == '.') = false := beq_false_of_ne (by rintro rfl; cases digit)
  by_cases zero : first = '0'
  · simp [number, zero, noBase zero]
  · simp [number, noPoint, zero]

/-- What a number starts with, and how it is read for that. -/
inductive Start : List Char -> Prop
  | point (digits : List Char) : Start ('.' :: digits)
  | base
      {mark : Char}
      {base : Nat}
      (known : baseOf? mark = some base)
      (digits : List Char) : Start ('0' :: mark :: digits)
  | digit
      {first : Char}
      {text : List Char}
      (digit : first.isDigit = true)
      (noBase : first = '0' -> text.head?.bind baseOf? = none) : Start (first :: text)

theorem IsNumber.start (isNumber : IsNumber text value) : Start text := by
  rcases isNumber.1 with digit | ⟨digits, rfl, _⟩
  · cases text with
    | nil => cases digit
    | cons first text =>
        by_cases zero : first = '0' ∧ text.head?.bind baseOf? ≠ none
        · obtain ⟨rfl, known⟩ := zero
          obtain ⟨base, known⟩ := Option.ne_none_iff_exists'.mp known
          obtain ⟨mark, leads, known⟩ := Option.bind_eq_some_iff.mp known
          obtain ⟨digits, rfl⟩ := List.head?_eq_some_iff.mp leads
          exact .base known digits
        · exact .digit digit fun same => by_contra fun known => zero ⟨same, known⟩
  · exact .point digits

/-- The mark of a base may stand in a name. -/
theorem isNameRest_of_baseOf?
    {mark : Char}
    {base : Nat}
    (known : baseOf? mark = some base) : Text.isNameRest mark = true := by
  rw [baseOf?] at known
  split at known
  case isTrue same =>
    rw [Bool.or_eq_true, beq_iff_eq, beq_iff_eq] at same
    rcases same with rfl | rfl <;> decide
  split at known
  case isTrue same =>
    rw [Bool.or_eq_true, beq_iff_eq, beq_iff_eq] at same
    rcases same with rfl | rfl <;> decide
  split at known
  case isTrue same =>
    rw [Bool.or_eq_true, beq_iff_eq, beq_iff_eq] at same
    rcases same with rfl | rfl <;> decide
  case isFalse => cases known

/-- A number that takes its whole text is read in front of any text that goes on with
neither a word nor a point. -/
theorem IsNumber.number_append
    (isNumber : IsNumber text value)
    (ends : rest.head?.any Text.isNameRest = false)
    (noPoint : rest.head? ≠ some '.') : number (text ++ rest) = (.number value, rest) := by
  have taken := isNumber.2
  cases isNumber.start with
  | point digits =>
      rw [number_of_point] at taken
      rw [List.cons_append, number_of_point, digitRun_append_rest 10 ends]
      exact decimalTail_append_rest ends taken
  | base known digits =>
      rw [number_of_base known] at taken
      rw [List.cons_append, List.cons_append, number_of_base known]
      exact based_append_rest ends taken
  | @digit first text digit noBase =>
      rw [number_of_digit digit noBase] at taken
      rw [List.cons_append, number_of_digit digit, ← List.cons_append]
      · exact decimalNumber_append_rest ends noPoint taken
      · intro zero
        cases text with
        | cons next text => exact noBase zero
        | nil =>
            cases rest with
            | nil => rfl
            | cons next behind =>
                rw [List.head?_cons, Option.any_some] at ends
                cases known : baseOf? next with
                | none => exact known
                | some base => rw [isNameRest_of_baseOf? known] at ends; cases ends

/-- A number is a literal. -/
theorem IsNumber.isLiteral (isNumber : IsNumber text value) : IsLiteral text := by
  have taken := isNumber.2
  cases isNumber.start with
  | point digits =>
      rw [number_of_point] at taken
      obtain ⟨run, same, parts⟩ := exists_digitRun_append 10 digits
      have isRun := isSignedRun_of_decimalTail taken parts
      rw [← same] at isRun
      exact .inr ⟨[], digits, rfl, isRun, by simp, .inl rfl⟩
  | @base mark _ known digits =>
      rw [number_of_base known] at taken
      have parts : ∀ character ∈ '0' :: mark :: digits, Text.isNameRest character = true :=
        List.forall_mem_cons.mpr ⟨rfl, List.forall_mem_cons.mpr
          ⟨isNameRest_of_baseOf? known, forall_isNameRest_of_based taken⟩⟩
      exact .inl ⟨⟨_, [], (List.append_nil _).symm, parts, .inl rfl⟩, rfl⟩
  | digit digit noBase =>
      rw [number_of_digit digit noBase] at taken
      exact isLiteral_of_decimalNumber digit taken

end Token
end ShaderGraph
