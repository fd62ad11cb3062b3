/-!
# Sorted names

Names in ascending order of their characters, each listed once. A collection of
names whose order carries no meaning is reported this way.
-/

namespace ShaderGraph
namespace Text

/-- Put a name at its place in an ascending list, unless it is there already. -/
def insertName (name : String) : List String -> List String
  | [] => [name]
  | first :: rest =>
      if name < first then name :: first :: rest
      else if name = first then first :: rest
      else first :: insertName name rest

/-- The names of a list in ascending order, each once. -/
def sortedNames (names : List String) : List String :=
  names.foldr insertName []

theorem mem_insertName {name other : String} {names : List String} :
    other ∈ insertName name names ↔ other = name ∨ other ∈ names := by
  induction names with
  | nil => simp [insertName]
  | cons first rest inductionHypothesis =>
      rw [insertName]
      split
      · exact List.mem_cons
      · split
        case isTrue same => simp [same]
        case isFalse =>
          rw [List.mem_cons, inductionHypothesis, List.mem_cons]
          exact or_left_comm

theorem mem_sortedNames {name : String} {names : List String} :
    name ∈ sortedNames names ↔ name ∈ names := by
  induction names with
  | nil => exact Iff.rfl
  | cons first rest inductionHypothesis =>
      rw [sortedNames, List.foldr_cons, mem_insertName, List.mem_cons]
      exact or_congr Iff.rfl inductionHypothesis

/-- A name that is put at its place keeps a list strictly ascending. -/
theorem pairwise_insertName {name : String} {names : List String}
    (ascending : names.Pairwise (· < ·)) : (insertName name names).Pairwise (· < ·) := by
  induction names with
  | nil => exact List.pairwise_singleton _ _
  | cons first rest inductionHypothesis =>
      obtain ⟨behind, others⟩ := List.pairwise_cons.mp ascending
      rw [insertName]
      split
      case isTrue smaller =>
        refine List.pairwise_cons.mpr ⟨fun other present => ?_, ascending⟩
        rcases List.mem_cons.mp present with rfl | later
        · exact smaller
        · exact String.lt_trans smaller (behind other later)
      case isFalse notSmaller =>
        split
        case isTrue => exact ascending
        case isFalse different =>
          refine List.pairwise_cons.mpr ⟨fun other present => ?_, inductionHypothesis others⟩
          rcases mem_insertName.mp present with rfl | later
          · exact Std.lt_of_le_of_ne (String.not_lt.mp notSmaller) (Ne.symm different)
          · exact behind other later

theorem pairwise_sortedNames (names : List String) : (sortedNames names).Pairwise (· < ·) := by
  induction names with
  | nil => exact List.Pairwise.nil
  | cons first rest inductionHypothesis => exact pairwise_insertName inductionHypothesis

end Text
end ShaderGraph
