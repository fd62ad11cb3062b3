import Mathlib.Data.List.Chain
import ShaderGraph.Text.Category

/-!
# Tables of code points

The intervals of each table ascend, so two tables are found to have no code point in common
by reading both of them once.
-/

namespace ShaderGraph
namespace Text

/-- Every interval of a table starts behind the starts of those before it. -/
def Ranges.Ascends (ranges : Ranges) : Prop :=
  ranges.Pairwise fun range next => range.1 < next.1

/-- Whether no interval of one table meets one of another. Both are read in ascending
order. -/
def Ranges.apart : Nat -> Ranges -> Ranges -> Bool
  | 0, _, _ => false
  | _ + 1, [], _ => true
  | _ + 1, _, [] => true
  | fuel + 1, range :: ranges, other :: others =>
      if range.2 < other.1 then apart fuel ranges (other :: others)
      else other.2 < range.1 && apart fuel (range :: ranges) others

theorem Ranges.contains_cons (range : Nat × Nat) (ranges : Ranges) (code : Nat) :
    contains (range :: ranges) code = true ↔
      (range.1 ≤ code ∧ code ≤ range.2) ∨ contains ranges code = true := by
  rw [contains, contains, List.any_cons, Bool.or_eq_true, Bool.and_eq_true, decide_eq_true_eq,
    decide_eq_true_eq]

/-- A code point before a table lies in none of its intervals. -/
theorem Ranges.not_contains_of_lt
    {ranges : Ranges}
    {code : Nat}
    (before : ∀ range ∈ ranges, code < range.1) : ¬contains ranges code = true := by
  rw [contains, List.any_eq_true]
  rintro ⟨range, present, inside⟩
  have later := before range present
  simp only [Bool.and_eq_true, decide_eq_true_eq] at inside
  omega

/-- Tables whose intervals do not meet have no code point in common. -/
theorem Ranges.not_contains_of_apart
    {fuel : Nat}
    {ranges others : Ranges}
    (ascends : ranges.Ascends)
    (othersAscend : others.Ascends)
    (isApart : apart fuel ranges others = true)
    {code : Nat}
    (inside : contains ranges code = true) : ¬contains others code = true := by
  induction fuel generalizing ranges others with
  | zero => cases isApart
  | succ fuel inductionHypothesis =>
      cases ranges with
      | nil => cases inside
      | cons range ranges =>
          cases others with
          | nil => exact Bool.false_ne_true
          | cons other others =>
              obtain ⟨first, rest⟩ := List.pairwise_cons.mp ascends
              obtain ⟨otherFirst, otherRest⟩ := List.pairwise_cons.mp othersAscend
              rw [apart] at isApart
              split at isApart
              case isTrue before =>
                rcases (contains_cons _ _ _).mp inside with here | later
                · refine not_contains_of_lt (List.forall_mem_cons.mpr ⟨by omega, ?_⟩)
                  intro next present
                  have ascending := otherFirst next present
                  omega
                · exact inductionHypothesis rest othersAscend isApart later
              case isFalse =>
                rw [Bool.and_eq_true, decide_eq_true_eq] at isApart
                rw [contains_cons]
                rintro (here | later)
                · refine not_contains_of_lt (List.forall_mem_cons.mpr ⟨by omega, ?_⟩) inside
                  intro next present
                  have ascending := first next present
                  omega
                · exact inductionHypothesis ascends otherRest isApart.2 inside later

/-! ## The tables -/

theorem letters_ascends : letters.Ascends :=
  List.isChain_iff_pairwise.mp (by decide +kernel)

theorem decimalDigits_ascends : decimalDigits.Ascends :=
  List.isChain_iff_pairwise.mp (by decide +kernel)

theorem letterNumbers_ascends : letterNumbers.Ascends :=
  List.isChain_iff_pairwise.mp (by decide +kernel)

theorem otherNumbers_ascends : otherNumbers.Ascends :=
  List.isChain_iff_pairwise.mp (by decide +kernel)

end Text
end ShaderGraph
