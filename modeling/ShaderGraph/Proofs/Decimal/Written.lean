import Mathlib.Algebra.Ring.Nat
import ShaderGraph.Decimal.Notation
import ShaderGraph.Proofs.Expression.Lexeme

/-!
# Written numbers are numerals

A finite number is written as a numeral, with a minus sign in front if it is negative. The
shortest decimal of a positive number is not zero: its grid is at least as fine as its
leading digit. So a digit stands before every exponent.
-/

namespace ShaderGraph
namespace Decimal

/-! ## Shortest decimals -/

theorem pow_digitCount_le {value : Nat} (positive : 0 < value) :
    10 ^ (digitCount value - 1) ≤ value := by
  rcases Nat.eq_zero_or_pos (digitCount value - 1) with none | some
  · rw [none]
    exact positive
  · refine Nat.le_of_not_lt fun smaller => ?_
    have short := (Nat.length_toDigits_le_iff (by decide) some).mpr smaller
    rw [← digitCount] at short
    omega

theorem ratioPower_pos {base : Nat} (positive : 0 < base) (exponent : Int) :
    0 < (ratioPower base exponent).1 ∧ 0 < (ratioPower base exponent).2 := by
  rw [ratioPower]
  split
  · exact ⟨Nat.one_pos, Nat.pow_pos positive⟩
  · exact ⟨Nat.pow_pos positive, Nat.one_pos⟩

/-- The numbers that are read from bits are positive and not too small. -/
structure Binary.IsPositive (number : Binary) : Prop where
  significand : 0 < number.significand
  exponent : -1074 ≤ number.exponent

/-- The denominator of a positive number has not more than this many digits. -/
theorem Binary.IsPositive.denominator_le
    {number : Binary}
    (positive : number.IsPositive)
    {groups places : Nat}
    (enough : 1074 ≤ 22 * groups)
    (grouped : places = 7 * groups) : (ratioPower 2 number.exponent).2 ≤ 10 ^ places := by
  subst grouped
  have bound := positive.exponent
  rw [ratioPower]
  split
  · calc
      2 ^ number.exponent.natAbs ≤ 2 ^ (22 * groups) :=
        Nat.pow_le_pow_right (by decide) (by omega)
      _ = (2 ^ 22) ^ groups := Nat.pow_mul ..
      _ ≤ (10 ^ 7) ^ groups := Nat.pow_le_pow_left (by decide) groups
      _ = 10 ^ (7 * groups) := (Nat.pow_mul ..).symm
  · exact Nat.one_le_pow _ _ (by decide)

/-- If the digits of a quotient are counted behind some further places, the quotient is
not below the place of its leading digit. -/
theorem mul_ratioPower_le
    {scaled denominator count places : Nat}
    {unit : Int}
    (atLeast : denominator ≤ scaled * 10 ^ places)
    (leads : 10 ^ (count - 1) * denominator ≤ scaled * 10 ^ places)
    (counted : 1 ≤ count)
    (fine : unit ≤ (count : Int) - (places + 1)) :
    denominator * (ratioPower 10 unit).1 ≤ scaled * (ratioPower 10 unit).2 := by
  have positive (power : Nat) : 0 < 10 ^ power := Nat.pow_pos (by decide)
  rw [ratioPower]
  split
  case isTrue negative =>
    rw [Nat.mul_one]
    rcases Nat.le_total places unit.natAbs with beyond | within
    · exact atLeast.trans (Nat.mul_le_mul_left _ (Nat.pow_le_pow_right (by decide) beyond))
    · refine Nat.le_of_mul_le_mul_right ?_ (positive (places - unit.natAbs))
      calc
        denominator * 10 ^ (places - unit.natAbs) ≤ denominator * 10 ^ (count - 1) :=
          Nat.mul_le_mul_left _ (Nat.pow_le_pow_right (by decide) (by omega))
        _ ≤ scaled * 10 ^ places := Nat.mul_comm denominator _ ▸ leads
        _ = scaled * 10 ^ unit.natAbs * 10 ^ (places - unit.natAbs) := by
          rw [Nat.mul_assoc, ← Nat.pow_add, Nat.add_sub_cancel' within]
  case isFalse natural =>
    rw [Nat.mul_one]
    refine Nat.le_of_mul_le_mul_right ?_ (positive places)
    calc
      denominator * 10 ^ unit.natAbs * 10 ^ places ≤ denominator * 10 ^ (count - 1) := by
        rw [Nat.mul_assoc, ← Nat.pow_add]
        exact Nat.mul_le_mul_left _ (Nat.pow_le_pow_right (by decide) (by omega))
      _ ≤ scaled * 10 ^ places := Nat.mul_comm denominator _ ▸ leads

theorem leadingExponent_eq
    {number : Binary}
    {numerator denominator : Nat}
    (ratio : ratioPower 2 number.exponent = (numerator, denominator)) :
    leadingExponent number =
      (digitCount (number.significand * numerator * Nat.pow 10 350 / denominator) : Int) - 351 := by
  unfold leadingExponent
  rw [ratio]

/-- The leading digit is found among those before some further places. How many there are
is kept abstract, so that their power is not computed. -/
theorem exists_leadingExponent_eq (number : Binary) :
    ∃ places, places = 350 ∧
      leadingExponent number =
        (digitCount (number.significand * (ratioPower 2 number.exponent).1 * Nat.pow 10 places /
          (ratioPower 2 number.exponent).2) : Int) - 351 :=
  ⟨350, rfl, leadingExponent_eq rfl⟩

/-- A positive number is not below the place of its leading digit. -/
theorem Binary.IsPositive.reaches
    {number : Binary}
    (positive : number.IsPositive)
    {unit : Int}
    (fine : unit ≤ leadingExponent number) :
    (ratioPower 2 number.exponent).2 * (ratioPower 10 unit).1 ≤
      number.significand * ((ratioPower 2 number.exponent).1 * (ratioPower 10 unit).2) := by
  obtain ⟨places, isPlaces, leading⟩ := exists_leadingExponent_eq number
  have above := positive.denominator_le (show 1074 ≤ 22 * 50 by decide) isPlaces
  have behind : (351 : Int) = places + 1 := by omega
  rw [leading, behind] at fine
  obtain ⟨numeratorPos, denominatorPos⟩ :=
    ratioPower_pos (show 0 < 2 by decide) number.exponent
  have scaledPos := Nat.mul_pos positive.significand numeratorPos
  have atLeast := above.trans (Nat.le_mul_of_pos_left _ scaledPos)
  have quotientPos := Nat.div_pos atLeast denominatorPos
  rw [← Nat.mul_assoc]
  exact mul_ratioPower_le atLeast
    ((Nat.le_div_iff_mul_le denominatorPos).mp (pow_digitCount_le quotientPos))
    Nat.length_toDigits_pos fine

/-- The shortest decimal of a positive number is not zero. -/
theorem Binary.IsPositive.digits_onGrid
    {number : Binary}
    (positive : number.IsPositive)
    {unit : Int}
    (fine : unit ≤ leadingExponent number)
    {found : Scaled}
    (onGrid : onGrid? number unit = some found) : 0 < found.digits := by
  have reaches := positive.reaches fine
  have denominatorPos := Nat.mul_pos (ratioPower_pos (show 0 < 2 by decide) number.exponent).2
    (ratioPower_pos (show 0 < 10 by decide) unit).1
  have below := Nat.div_pos reaches denominatorPos
  have neighbour {lower upper : Bool} {digits : Nat}
      (chosen : (if lower = true then some (Scaled.mk digits unit)
        else if upper = true then some (Scaled.mk (digits + 1) unit) else none) = some found) :
      digits ≤ found.digits := by
    split at chosen
    · cases chosen
      exact Nat.le_refl _
    · split at chosen
      · cases chosen
        exact Nat.le_succ _
      · cases chosen
  exact Nat.lt_of_lt_of_le below (neighbour onGrid)

theorem Binary.IsPositive.digits_shortest
    {number : Binary}
    (positive : number.IsPositive) :
    0 < (shortest number).digits ∨ shortest number = ⟨0, 0⟩ := by
  rw [shortest]
  cases search : (List.range 17).findSome? fun (more : Nat) =>
      onGrid? number (leadingExponent number - more) with
  | none => exact .inr rfl
  | some found =>
      obtain ⟨more, _, onGrid⟩ := List.exists_of_findSome?_eq_some search
      exact .inl (positive.digits_onGrid (by omega) onGrid)

/-! ## Written decimals -/

theorem isDigit_of_mem_significantDigits
    {value : Nat}
    {character : Char}
    (present : character ∈ significantDigits value) : character.isDigit = true := by
  rw [significantDigits, List.mem_reverse] at present
  exact Nat.isDigit_of_mem_toDigits (by decide) (by decide)
    (List.mem_reverse.mp ((List.dropWhile_suffix _).subset present))

/-- A positive number has a digit that is not zero. -/
theorem significantDigits_ne_nil {value : Nat} (positive : 0 < value) :
    significantDigits value ≠ [] := by
  intro none
  rw [significantDigits, List.reverse_eq_nil_iff, List.dropWhile_eq_nil_iff] at none
  have zeros : Nat.toDigits 10 value = List.replicate (Nat.toDigits 10 value).length '0' :=
    List.eq_replicate_iff.mpr ⟨rfl, fun digit present =>
      eq_of_beq (none digit (List.mem_reverse.mpr present))⟩
  have ofZeros (count : Nat) : Nat.ofDigitChars 10 (List.replicate count '0') 0 = 0 := by
    induction count with
    | zero => rfl
    | succ count inductionHypothesis => exact inductionHypothesis
  have same : Nat.ofDigitChars 10 (Nat.toDigits 10 value) 0 = value := Nat.ofDigitChars_ten_toDigits
  rw [zeros, ofZeros] at same
  omega

theorem all_isDigit_replicate (count : Nat) :
    (List.replicate count '0').all Char.isDigit = true := by
  rw [List.all_replicate]
  simp

/-- Positional notation has a digit on both sides of its point. -/
theorem isNumeral_positional
    {digits : List Char}
    (all : digits.all Char.isDigit = true)
    (leading : Int) : IsNumeral (positional digits leading) := by
  have part (whole : Nat) : (digits.drop whole).all Char.isDigit = true ∧
      (digits.take whole).all Char.isDigit = true := by
    rw [List.all_eq_true] at all
    exact ⟨List.all_eq_true.mpr fun digit present => all digit (List.mem_of_mem_drop present),
      List.all_eq_true.mpr fun digit present => all digit (List.mem_of_mem_take present)⟩
  rw [positional]
  split
  · refine ⟨['0'], '.' :: (List.replicate (leading.natAbs - 1) '0' ++ digits), [], by simp,
      by decide, .inl rfl, .inr ⟨_, rfl, ?_, .inr ⟨by simp, rfl⟩⟩⟩
    rw [List.all_append, all_isDigit_replicate, all]
    rfl
  · dsimp only
    refine ⟨_, '.' :: _, [], by rw [List.append_nil], ?_, .inl rfl, .inr ⟨_, rfl, ?_, .inl ?_⟩⟩
    · rw [List.all_append, (part _).2, all_isDigit_replicate]
      rfl
    · split
      · decide
      · exact (part _).1
    · split
      · simp
      case isFalse filled => simpa using filled

/-- A digit stands before the exponent. -/
theorem isNumeral_exponential
    {digits : List Char}
    (filled : digits ≠ [])
    (all : digits.all Char.isDigit = true)
    (leading : Int) : IsNumeral (exponential digits leading) := by
  obtain ⟨first, rest, rfl⟩ := List.exists_cons_of_ne_nil filled
  rw [List.all_cons, Bool.and_eq_true] at all
  have isExponent : IsExponent ('e' :: (if leading < 0 then '-' else '+') ::
      (List.replicate (2 - (Nat.toDigits 10 leading.natAbs).length) '0' ++
        Nat.toDigits 10 leading.natAbs)) := by
    refine .inr ⟨'e', [if leading < 0 then '-' else '+'],
      List.replicate (2 - (Nat.toDigits 10 leading.natAbs).length) '0' ++
        Nat.toDigits 10 leading.natAbs, rfl, .inl rfl, ?_, ?_, ?_⟩
    · split
      · exact .inr (.inr rfl)
      · exact .inr (.inl rfl)
    · simp
    · rw [List.all_append, all_isDigit_replicate, Bool.true_and, List.all_eq_true]
      exact fun digit present => Nat.isDigit_of_mem_toDigits (by decide) (by decide) present
  refine ⟨[first], if rest.isEmpty then [] else '.' :: rest, _, ?_, by simp [all.1], isExponent, ?_⟩
  · simp [exponential]
  · cases rest with
    | nil => exact .inl ⟨rfl, by simp⟩
    | cons next rest => exact .inr ⟨next :: rest, rfl, all.2, .inl (by simp)⟩

theorem isNumeral_writeScaled
    {decimal : Scaled}
    (form : 0 < decimal.digits ∨ decimal = ⟨0, 0⟩) : IsNumeral (writeScaled decimal) := by
  have all : (significantDigits decimal.digits).all Char.isDigit = true :=
    List.all_eq_true.mpr fun _ => isDigit_of_mem_significantDigits
  rw [writeScaled]
  split
  · exact isNumeral_positional all _
  case isFalse wide =>
    rcases form with positive | rfl
    · exact isNumeral_exponential (significantDigits_ne_nil positive) all _
    · exact absurd (by decide) wide

/-! ## Written numbers -/

/-- Whether a number is neither infinite nor undefined. -/
def isFinite (value : Float) : Bool :=
  value.toBits.toNat % Nat.pow 2 63 < 0x7FF0000000000000

theorem isPositive_ofFloat
    {value : Float}
    (positive : value.toBits.toNat % Nat.pow 2 63 ≠ 0) : (Binary.ofFloat value).IsPositive := by
  rw [Binary.ofFloat]
  generalize value.toBits.toNat = bits at positive
  split
  case isTrue small =>
    refine ⟨Nat.pos_of_ne_zero fun none => positive ?_, Int.le_refl _⟩
    dsimp only at none
    have wide : Nat.pow 2 63 = Nat.pow 2 52 * Nat.pow 2 11 := by decide
    rw [wide, Nat.mod_mul, none, small]
  case isFalse => exact ⟨Nat.add_pos_left (by decide) _, by dsimp only; omega⟩

/-- A finite number is written as a numeral, with a sign if it is negative. -/
theorem write_of_isFinite
    {value : Float}
    (finite : isFinite value = true) :
    ∃ sign numeral, (write value).toList = sign ++ numeral ∧ (sign = [] ∨ sign = ['-']) ∧
      IsNumeral numeral := by
  rw [isFinite, decide_eq_true_eq] at finite
  have ofMagnitude {magnitude : List Char} (isNumeral : IsNumeral magnitude) :
      ∃ sign numeral, (String.ofList (if isNegative value then '-' :: magnitude
        else magnitude)).toList = sign ++ numeral ∧ (sign = [] ∨ sign = ['-']) ∧
        IsNumeral numeral := by
    rw [String.toList_ofList]
    split
    · exact ⟨['-'], magnitude, rfl, .inr rfl, isNumeral⟩
    · exact ⟨[], magnitude, rfl, .inl rfl, isNumeral⟩
  have defined : ¬value.toBits.toNat % Nat.pow 2 63 > 0x7FF0000000000000 := by omega
  have bounded : ¬value.toBits.toNat % Nat.pow 2 63 = 0x7FF0000000000000 := by omega
  rw [write, if_neg defined, if_neg bounded]
  split
  · exact ofMagnitude ⟨['0'], ['.', '0'], [], rfl, by decide, .inl rfl,
      .inr ⟨['0'], rfl, by decide, .inl (by simp)⟩⟩
  case isFalse positive =>
    exact ofMagnitude (isNumeral_writeScaled (isPositive_ofFloat positive).digits_shortest)

end Decimal
end ShaderGraph
