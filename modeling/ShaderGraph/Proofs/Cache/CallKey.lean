import Mathlib.Data.List.Basic
import ShaderGraph.Cache.Key

/-!
# What the key of a call determines

In a key every backslash stands before the character that it escapes, and every
other underscore ends a part. So the parts of a key can be read back, and calls
with the same key have the same name and the same arguments.
-/

namespace ShaderGraph
namespace Key

/-- The parts that were joined to a key. -/
def readParts : List Char -> List (List Char)
  | [] => [[]]
  | '\\' :: escaped :: rest => (readParts rest).modifyHead (escaped :: ·)
  | first :: rest =>
      if first == '_' then [] :: readParts rest
      else (readParts rest).modifyHead (first :: ·)

theorem readParts_escaped (escaped : Char) (rest : List Char) :
    readParts ('\\' :: escaped :: rest) = (readParts rest).modifyHead (escaped :: ·) := by
  rw [readParts]

theorem readParts_underscore (rest : List Char) :
    readParts ('_' :: rest) = [] :: readParts rest := by
  rw [readParts]
  · rfl
  · simp

/-- A character that needs no escape belongs to the first part. -/
theorem readParts_plain
    {first : Char}
    (rest : List Char)
    (notBackslash : first ≠ '\\')
    (notUnderscore : first ≠ '_') :
    readParts (first :: rest) = (readParts rest).modifyHead (first :: ·) := by
  rw [readParts]
  · simp [notUnderscore]
  · intro _ _ backslash
    exact absurd backslash notBackslash

/-- An escaped part is read back in front of what follows it. -/
theorem readParts_escape_append (part rest : List Char) :
    readParts (escape part ++ rest) = (readParts rest).modifyHead (part ++ ·) := by
  induction part with
  | nil =>
      change readParts rest = (readParts rest).modifyHead id
      rw [List.modifyHead_id]
      rfl
  | cons first others inductionHypothesis =>
      have joined : ((readParts rest).modifyHead (others ++ ·)).modifyHead (first :: ·) =
          (readParts rest).modifyHead (first :: others ++ ·) := by
        rw [List.modifyHead_modifyHead]
        rfl
      rw [escape]
      split
      case isTrue =>
        rw [List.cons_append, List.cons_append, readParts_escaped, inductionHypothesis, joined]
      case isFalse plain =>
        obtain ⟨notBackslash, notUnderscore⟩ : first ≠ '\\' ∧ first ≠ '_' := by simpa using plain
        rw [List.cons_append, readParts_plain _ notBackslash notUnderscore, inductionHypothesis,
          joined]

/-- The parts of a key are those that were joined. -/
theorem readParts_joinParts (part : List Char) (others : List (List Char)) :
    readParts (joinParts (part :: others)) = part :: others := by
  induction others generalizing part with
  | nil =>
      have read := readParts_escape_append part []
      rw [List.append_nil] at read
      rw [joinParts, read]
      simp [readParts]
  | cons next others inductionHypothesis =>
      rw [joinParts, readParts_escape_append, readParts_underscore, inductionHypothesis]
      · simp
      · simp

/-- Calls with the same key have the same name and the same arguments. -/
theorem ofCall_inj
    {leftName rightName : String}
    {leftArguments rightArguments : List String}
    (equal : ofCall leftName leftArguments = ofCall rightName rightArguments) :
    leftName = rightName ∧ leftArguments = rightArguments := by
  have sameText := congrArg (readParts ∘ String.toList) equal
  simp only [ofCall, Function.comp_apply, String.toList_ofList, List.map_cons,
    readParts_joinParts, List.cons.injEq, String.toList_inj] at sameText
  have injective : Function.Injective String.toList := fun _ _ => String.toList_inj.mp
  exact ⟨sameText.1, List.map_injective_iff.mpr injective sameText.2⟩

/-- Parts that end in a backslash or an underscore stay apart. -/
example : ofCall "a\\" ["_b"] ≠ ofCall "a\\_" ["b"] := by decide

end Key
end ShaderGraph
