import Std.Data.String.ToNat
import ShaderGraph.Graph.Assembly

/-!
# Names of generated variables

The result of a node and its temporaries are named by the name of the node. A
temporary ends in its number and a result does not, so no two generated variables
have the same name, whatever the nodes are called: the digits at the end of a name
are the number, and what stands before them is the stem of the node.
-/

namespace ShaderGraph
namespace Shader

/-- The digits at the end of a text, the last one first. -/
def finalDigits (text : List Char) : List Char :=
  text.reverse.takeWhile Char.isDigit

theorem isDigit_of_mem_repr {number : Nat} {character : Char}
    (present : character ∈ (Nat.repr number).toList) : character.isDigit = true := by
  rw [Nat.toList_repr] at present
  exact Nat.isDigit_of_mem_toDigits (by omega) (by omega) present

theorem finalDigits_append_repr
    {last : Char}
    (noDigit : last.isDigit = false)
    (before : List Char)
    (number : Nat) :
    finalDigits (before ++ last :: (Nat.repr number).toList) =
      (Nat.repr number).toList.reverse := by
  rw [finalDigits, List.reverse_append, List.reverse_cons, List.append_assoc,
    List.takeWhile_append_of_pos fun character present =>
      isDigit_of_mem_repr (List.mem_reverse.mp present)]
  simp [noDigit]

theorem toList_temporary (node : String) (number : Nat) :
    (temporary (Assembly.stemOf node) number).toList =
      ('_' :: (node.toList ++ ['_', 'e', 'x', 'p'])) ++ 'r' :: (Nat.repr number).toList := by
  simp [temporary, Assembly.stemOf, toString]

theorem finalDigits_temporary (node : String) (number : Nat) :
    finalDigits (temporary (Assembly.stemOf node) number).toList =
      (Nat.repr number).toList.reverse := by
  rw [toList_temporary]
  exact finalDigits_append_repr (by decide) _ number

theorem finalDigits_resultName (node : String) :
    finalDigits (Reference.resultName node).toList = [] := by
  simp [finalDigits, Reference.resultName, Reference.resultMark]

/-- Temporaries of the same name are the same temporary of the same node. -/
theorem temporary_inj
    {leftNode rightNode : String}
    {leftNumber rightNumber : Nat}
    (equal : temporary (Assembly.stemOf leftNode) leftNumber =
      temporary (Assembly.stemOf rightNode) rightNumber) :
    leftNode = rightNode ∧ leftNumber = rightNumber := by
  have sameDigits := congrArg (finalDigits ∘ String.toList) equal
  simp only [Function.comp_apply, finalDigits_temporary, List.reverse_inj] at sameDigits
  have sameNumber := Nat.repr_injective (String.toList_inj.mp sameDigits)
  subst sameNumber
  have sameText := congrArg String.toList equal
  rw [toList_temporary, toList_temporary] at sameText
  have sameStem := List.append_cancel_right sameText
  rw [List.cons.injEq] at sameStem
  exact ⟨String.toList_inj.mp (List.append_cancel_right sameStem.2), rfl⟩

theorem resultName_injective {left right : String}
    (equal : Reference.resultName left = Reference.resultName right) : left = right :=
  (String.append_left_inj _).mp equal

/-- A temporary ends in a digit. -/
theorem finalDigits_temporary_ne_nil (node : String) (number : Nat) :
    finalDigits (temporary (Assembly.stemOf node) number).toList ≠ [] := by
  rw [finalDigits_temporary]
  intro empty
  exact Nat.repr_ne_empty (String.toList_inj.mp (List.reverse_eq_nil_iff.mp empty))

/-- No temporary has the name of a result. -/
theorem temporary_ne_resultName (node other : String) (number : Nat) :
    temporary (Assembly.stemOf node) number ≠ Reference.resultName other := by
  intro equal
  apply finalDigits_temporary_ne_nil node number
  rw [equal]
  exact finalDigits_resultName other

end Shader
end ShaderGraph
