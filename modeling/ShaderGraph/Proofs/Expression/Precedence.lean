import ShaderGraph.Proofs.Expression.Spelling

/-!
# Precedence

The operators of a formula bind in an order of precedence, and those of one precedence group
from the left, apart from the power with two stars. A formula whose operands are grouped
this way has a tree that its text alone determines: behind an operand follows nothing that
would be read with it.
-/

namespace ShaderGraph

/-! ## Precedence -/

namespace Connective

/-- The place of an operator in the order of precedence. -/
def level : Connective -> Nat
  | .plus => 5
  | .minus => 5
  | .times => 6
  | .over => 6
  | .percent => 6
  | .caret => 2
  | .stars => 7

/-- The least level of a left operand. -/
def leftLevel : Connective -> Nat
  | .stars => 8
  | connective => connective.level

/-- The least level of a right operand. -/
def rightLevel : Connective -> Nat
  | .stars => 7
  | connective => connective.level + 1

theorem level_le (connective : Connective) : connective.level ≤ 7 := by
  cases connective <;> decide

theorem levels_of_ne_stars
    {connective : Connective}
    (infixed : connective ≠ .stars) :
    connective.leftLevel = connective.level ∧ connective.rightLevel = connective.level + 1 ∧
      connective.level ≤ 6 := by
  cases connective
  case stars => exact absurd rfl infixed
  all_goals exact ⟨rfl, rfl, by decide⟩

theorem level_pos (connective : Connective) : 0 < connective.level := by
  cases connective <;> decide

end Connective

namespace Formula

/-- The level of a formula: that of its outermost operator, or beyond all of them. -/
def level : Formula -> Nat
  | .literal _ => 8
  | .word _ _ => 8
  | .group _ => 8
  | .call _ _ => 8
  | .signed _ _ => 7
  | .joined connective _ _ => connective.level

mutual

/-- Whether every operand has the level that its operator asks for. -/
def IsGrouped : Formula -> Prop
  | .literal _ => True
  | .word _ _ => True
  | .group inner => inner.IsGrouped
  | .call _ arguments => AreGrouped arguments
  | .signed _ operand => 7 ≤ operand.level ∧ operand.IsGrouped
  | .joined connective left right =>
      (connective.leftLevel ≤ left.level ∧ connective.rightLevel ≤ right.level) ∧
        left.IsGrouped ∧ right.IsGrouped

/-- Whether all formulas of a list are grouped. -/
def AreGrouped : List Formula -> Prop
  | [] => True
  | first :: rest => first.IsGrouped ∧ AreGrouped rest

end

mutual

/-- The tree of a formula, with the number of the token that each part starts with. -/
def tree (number : Nat) : Formula -> Expression
  | .literal text => .number number (Piece.numeral text)
  | .word name _ => .name number (Piece.identifier name)
  | .group inner => inner.tree (number + 1)
  | .call name arguments =>
      .call number (.name number (Piece.identifier name)) (trees (number + 2) arguments) false
  | .signed negative operand => .signed number negative (operand.tree (number + 1))
  | .joined connective left right =>
      .binary number connective.operator (left.tree number)
        (right.tree (number + left.pieces.length + 1))

/-- The trees of formulas that commas separate. -/
def trees (number : Nat) : List Formula -> List Expression
  | [] => []
  | first :: rest => first.tree number :: trees (number + first.pieces.length + 1) rest

end

end Formula

/-! ## Tokens of pieces -/

namespace Piece

/-- Whether a piece may stand behind an operand of a level and is not read with it. -/
def follows (level : Nat) : Piece -> Bool
  | .closing => true
  | .comma => true
  | .connective mark => mark.leftLevel ≤ level
  | _ => false

end Piece

/-- The pieces behind an operand of a level are not read with it. -/
abbrev Follow (level : Nat) (rest : List Piece) : Prop :=
  ∀ next, rest.head? = some next -> next.follows level = true

theorem Follow.mono
    {level larger : Nat}
    {rest : List Piece}
    (follow : Follow level rest)
    (least : level ≤ larger) : Follow larger rest := by
  intro next leads
  have follows := follow next leads
  cases next with
  | connective mark => exact decide_eq_true (Nat.le_trans (of_decide_eq_true follows) least)
  | closing => rfl
  | comma => rfl
  | _ => cases follows

/-- Whether a token can be that of a piece, or the end. -/
def TokenKind.isWritten : TokenKind -> Bool
  | .number _ => true
  | .identifier _ => true
  | .symbol mark => ["+", "-", "*", "/", "%", "^", "**", "(", ")", ","].contains mark
  | .stop => true
  | _ => false

namespace Piece

theorem isWritten_kind (piece : Piece) : piece.kind.isWritten = true := by
  cases piece with
  | sign negative => cases negative <;> decide
  | connective mark => cases mark <;> decide
  | opening => decide
  | closing => decide
  | comma => decide
  | _ => rfl

/-- Nothing that follows an operand opens a parenthesis. -/
theorem kind_ne_opening_of_follows
    {level : Nat}
    {piece : Piece}
    (follows : piece.follows level = true) : piece.kind ≠ .symbol "(" := by
  cases piece with
  | connective mark => cases mark <;> decide
  | closing => decide
  | comma => decide
  | _ => cases follows

/-- No operand is the base of a power that follows it, unless it is a primary. -/
theorem kind_ne_stars_of_follows
    {piece : Piece}
    (follows : piece.follows 7 = true) : piece.kind ≠ .symbol "**" := by
  cases piece with
  | connective mark =>
      cases mark
      case stars => cases follows
      all_goals decide
  | closing => decide
  | comma => decide
  | _ => cases follows

/-- An operand starts with no other symbol than a sign or a parenthesis. -/
theorem kind_ne_of_starts
    {piece : Piece}
    (starts : piece.starts = true)
    {mark : String}
    (other : mark ∉ ["+", "-", "("]) : piece.kind ≠ .symbol mark := by
  simp only [List.mem_cons, List.not_mem_nil, or_false, not_or] at other
  cases piece with
  | sign negative => cases negative <;> simp [kind, Ne.symm other.1, Ne.symm other.2.1]
  | opening => simp [kind, Ne.symm other.2.2]
  | literal => simp [kind]
  | word => simp [kind]
  | _ => cases starts

end Piece

end ShaderGraph
