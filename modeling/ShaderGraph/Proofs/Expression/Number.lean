import ShaderGraph.Proofs.Expression.Quotation

/-!
# Numbers before replaced references

A number has no dollar sign in it. If the text behind a number does not start with
one either, the same number stands at the start of the text with its references
replaced.
-/

namespace ShaderGraph
namespace Token

open Reference

variable {text changed : List Char}

theorem isDigitOf_sign (base : Nat) : isDigitOf base '$' = false := by
  rw [isDigitOf]
  split <;> rfl

theorem isDigitOf_start (base : Nat) : isDigitOf base 's' = false := by
  rw [isDigitOf]
  split <;> rfl

theorem isDigitOf_sign_eq (base : Nat) : isDigitOf base '$' = isDigitOf base 's' := by
  rw [isDigitOf_sign, isDigitOf_start]

theorem digitRun_of_not
    {base : Nat}
    {first : Char}
    (other : isDigitOf base first = false)
    (solid : first ≠ '_')
    (rest : List Char) : digitRun base (first :: rest) = ([], first :: rest) := by
  simp [digitRun, other, solid]

/-- A run of digits is the same when references are replaced. -/
theorem digitRun_replaces
    (base : Nat)
    (related : Replaces text changed) :
    (digitRun base changed).1 = (digitRun base text).1 ∧
      Replaces (digitRun base text).2 (digitRun base changed).2 := by
  induction related with
  | nil => exact ⟨rfl, .nil⟩
  | keep first related hypothesis =>
      rw [digitRun, digitRun, related.any_head? (isDigitOf_sign_eq base)]
      split
      · exact ⟨congrArg (first :: ·) hypothesis.1, hypothesis.2⟩
      · split
        · exact hypothesis
        · exact ⟨rfl, .keep first related⟩
  | refer isName ends related _ =>
      have whole := Replaces.refer isName ends related
      obtain ⟨more, rfl⟩ := isName.exists_cons
      rw [List.cons_append] at whole ⊢
      rw [List.cons_append, digitRun_of_not (isDigitOf_sign base) (by decide),
        digitRun_of_not (isDigitOf_start base) (by decide)]
      exact ⟨rfl, whole⟩

theorem wordsAfterNumber_free :
    ∀ word ∈ ["and", "else", "for", "if", "in", "is", "or", "not"], '$' ∉ word.toList := by
  decide

/-- A number may end where it may end with its references kept. -/
theorem endsNumber_replaces
    (related : Replaces text changed)
    (solid : text.head? ≠ some '$')
    (ends : endsNumber text = true) : endsNumber changed = true := by
  cases related with
  | nil => rfl
  | refer => exact absurd rfl solid
  | keep next related =>
      rw [endsNumber, Bool.or_eq_true] at ends ⊢
      refine ends.imp (fun word => ?_) id
      rw [isAfterNumber, List.any_eq_true] at word ⊢
      obtain ⟨word, present, starts⟩ := word
      refine ⟨word, present, ?_⟩
      have free : '$' ∉ word.toList := wordsAfterNumber_free word present
      obtain ⟨behind, same⟩ := List.isPrefixOf_iff_prefix.mp starts
      have whole := Replaces.keep next related
      rw [← same] at whole
      obtain ⟨behindChanged, same, _⟩ := whole.of_append free
      rw [same]
      exact List.isPrefixOf_iff_prefix.mpr (List.prefix_append _ _)

/-- A token with the text behind it, which is no reference, is found in both texts. -/
structure KeepsToken (found changed : TokenKind × List Char) : Prop where
  kind : changed.1 = found.1
  rest : Replaces found.2 changed.2

theorem endsNumber_of_valid
    {kind : TokenKind}
    (valid : (if endsNumber text then kind else .invalid) ≠ .invalid) : endsNumber text = true := by
  cases ends : endsNumber text with
  | true => rfl
  | false =>
      rw [ends] at valid
      exact absurd rfl valid

/-- A valid number is finished the same when references are replaced. -/
theorem finishNumber_replaces
    (value : TokenKind)
    (related : Replaces text changed)
    (valid : (finishNumber value text).1 ≠ .invalid)
    (solid : (finishNumber value text).2.head? ≠ some '$') :
    KeepsToken (finishNumber value text) (finishNumber value changed) := by
  rw [finishNumber] at valid solid ⊢
  rw [finishNumber, related.any_head? (by decide)]
  split at valid
  case isTrue imaginary =>
    rw [if_pos imaginary] at solid ⊢
    have behind := related.drop_one (by decide) imaginary
    have ends := endsNumber_of_valid valid
    rw [if_pos imaginary, ends, endsNumber_replaces behind solid ends]
    exact ⟨rfl, behind⟩
  case isFalse real =>
    rw [if_neg real] at solid ⊢
    have ends := endsNumber_of_valid valid
    rw [if_neg real, ends, endsNumber_replaces related solid ends]
    exact ⟨rfl, related⟩

/-- An exponent is the same when references are replaced. -/
theorem exponent?_replaces (related : Replaces text changed) :
    Option.Rel (fun found changed => changed.1 = found.1 ∧ Replaces found.2 changed.2)
      (exponent? text) (exponent? changed) := by
  rw [exponent?, exponent?, related.any_head? (by decide)]
  split
  case isFalse => exact .none
  case isTrue marked =>
    have behind := related.drop_one (by decide) marked
    have bodies := behind.drop_one_if (fun sign => sign == '-' || sign == '+')
      (by decide) (by decide)
    dsimp only
    generalize (if (text.drop 1).head?.any (fun sign => sign == '-' || sign == '+') then
      (text.drop 1).drop 1 else text.drop 1) = body at bodies ⊢
    generalize (if (changed.drop 1).head?.any (fun sign => sign == '-' || sign == '+') then
      (changed.drop 1).drop 1 else changed.drop 1) = bodyChanged at bodies ⊢
    rw [behind.any_head? (by decide), bodies.any_head? (by decide)]
    split
    · have run := digitRun_replaces 10 bodies
      rw [run.1]
      exact .some ⟨rfl, run.2⟩
    · exact .none

/-- A valid decimal number is the same when references are replaced. -/
theorem decimalTail_replaces
    (whole fraction : List Char)
    (related : Replaces text changed)
    (valid : (decimalTail whole fraction text).1 ≠ .invalid)
    (solid : (decimalTail whole fraction text).2.head? ≠ some '$') :
    KeepsToken (decimalTail whole fraction text) (decimalTail whole fraction changed) := by
  have exponents := exponent?_replaces related
  rw [decimalTail] at valid solid ⊢
  rw [decimalTail]
  generalize exponent? text = found at exponents valid solid ⊢
  generalize exponent? changed = foundChanged at exponents ⊢
  cases exponents with
  | none => exact finishNumber_replaces _ related valid solid
  | @some found foundChanged same =>
      obtain ⟨samePower, relatedAfter⟩ := same
      obtain ⟨power, after⟩ := found
      obtain ⟨powerChanged, afterChanged⟩ := foundChanged
      cases samePower
      exact finishNumber_replaces _ relatedAfter valid solid

/-- A valid number of another base is the same when references are replaced. -/
theorem based_replaces
    (base : Nat)
    (related : Replaces text changed)
    (valid : (based base text).1 ≠ .invalid)
    (solid : (based base text).2.head? ≠ some '$') :
    KeepsToken (based base text) (based base changed) := by
  have bodies := related.drop_one_if (· == '_') (by decide) (by decide)
  rw [based] at valid solid ⊢
  rw [based]
  generalize (if text.head?.any (· == '_') then text.drop 1 else text) = body at *
  generalize (if changed.head?.any (· == '_') then changed.drop 1 else changed) = bodyChanged at *
  obtain ⟨digits, rests⟩ := digitRun_replaces base bodies
  dsimp only at valid solid ⊢
  split at valid
  case isFalse => exact absurd rfl valid
  case isTrue complete =>
    rw [if_pos complete] at solid ⊢
    simp only [Bool.and_eq_true] at complete
    obtain ⟨⟨starts, ends⟩, noDigit⟩ := complete
    rw [bodies.any_head? (isDigitOf_sign_eq base), starts, endsNumber_replaces rests solid ends,
      rests.any_head? (by decide), noDigit, digits]
    exact ⟨rfl, rests⟩

/-- A valid number is the same when references are replaced. -/
theorem decimalNumber_replaces
    (related : Replaces text changed)
    (valid : (decimalNumber text).1 ≠ .invalid)
    (solid : (decimalNumber text).2.head? ≠ some '$') :
    KeepsToken (decimalNumber text) (decimalNumber changed) := by
  obtain ⟨whole, rests⟩ := digitRun_replaces 10 related
  have exponents := exponent?_replaces rests
  rw [decimalNumber] at valid solid ⊢
  rw [decimalNumber]
  dsimp only at valid solid ⊢
  rw [whole, rests.any_head? (by decide)]
  split at valid
  case isTrue pointed =>
    rw [if_pos pointed] at solid ⊢
    rw [if_pos pointed]
    have behind := rests.drop_one (by decide) pointed
    obtain ⟨fraction, afters⟩ := digitRun_replaces 10 behind
    rw [behind.any_head? (by decide)]
    split at valid
    case isTrue digits =>
      rw [if_pos digits] at solid ⊢
      rw [if_pos digits, fraction]
      exact decimalTail_replaces _ _ afters valid solid
    case isFalse none =>
      rw [if_neg none] at solid ⊢
      rw [if_neg none]
      exact decimalTail_replaces _ _ behind valid solid
  case isFalse noPoint =>
    rw [if_neg noPoint] at solid ⊢
    rw [if_neg noPoint]
    have sameExponent : (exponent? (digitRun 10 changed).2).isSome =
        (exponent? (digitRun 10 text).2).isSome := by
      generalize exponent? (digitRun 10 text).2 = found at exponents ⊢
      generalize exponent? (digitRun 10 changed).2 = foundChanged at exponents ⊢
      cases exponents <;> rfl
    rw [sameExponent]
    split at valid
    case isTrue powered =>
      rw [if_pos powered] at solid ⊢
      rw [if_pos powered]
      exact decimalTail_replaces _ _ rests valid solid
    case isFalse plain =>
      rw [if_neg plain] at solid ⊢
      rw [if_neg plain]
      split at valid
      case isTrue => exact absurd rfl valid
      case isFalse allowed =>
        rw [if_neg allowed] at solid ⊢
        have finished := finishNumber_replaces _ rests valid solid
        rw [finished.kind, if_neg allowed]
        exact ⟨rfl, finished.rest⟩

/-- The number at the start of a text is found again in front of a text without
references. -/
theorem number_replaces
    (related : Replaces text changed)
    (valid : (number text).1 ≠ .invalid)
    (solid : (number text).2.head? ≠ some '$') :
    KeepsToken (number text) (number changed) := by
  rw [number] at valid solid ⊢
  rw [number, related.any_head? (by decide), related.any_head? (by decide)]
  split at valid
  case isTrue pointed =>
    rw [if_pos pointed] at solid ⊢
    rw [if_pos pointed]
    have run := digitRun_replaces 10 (related.drop_one (by decide) pointed)
    dsimp only at valid solid ⊢
    rw [run.1]
    exact decimalTail_replaces _ _ run.2 valid solid
  case isFalse noPoint =>
    rw [if_neg noPoint] at solid ⊢
    rw [if_neg noPoint]
    split at valid
    case isFalse noZero =>
      rw [if_neg noZero] at solid ⊢
      rw [if_neg noZero]
      exact decimalNumber_replaces related valid solid
    case isTrue zero =>
      rw [if_pos zero] at solid ⊢
      rw [if_pos zero]
      have behind := related.drop_one (by decide) zero
      have sameBase : (changed.drop 1).head?.bind baseOf? = (text.drop 1).head?.bind baseOf? := by
        rcases behind.head?_cases with same | ⟨sign, start⟩
        · rw [same]
        · rw [sign, start]
          rfl
      rw [sameBase]
      cases marked : (text.drop 1).head?.bind baseOf? with
      | none =>
          rw [marked] at valid solid
          exact decimalNumber_replaces related valid solid
      | some base =>
          rw [marked] at valid solid
          have leads : (text.drop 1).head?.any (fun mark => (baseOf? mark).isSome) = true := by
            obtain ⟨mark, first, found⟩ := Option.bind_eq_some_iff.mp marked
            rw [first, Option.any_some, found]
            rfl
          have behindMark := behind.drop_one rfl leads
          rw [List.drop_drop, List.drop_drop] at behindMark
          exact based_replaces base behindMark valid solid

end Token
end ShaderGraph
