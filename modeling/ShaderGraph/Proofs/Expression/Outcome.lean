import ShaderGraph.Proofs.Expression.Reading
import ShaderGraph.Proofs.Expression.Relocation

/-!
# What comes of a text that spells a formula

A text that spells a formula is read as the tree of the formula, up to the columns. So what
the evaluator makes of it depends on that tree alone, and of the spelling nothing matters
but the place at which a fault shows.
-/

namespace ShaderGraph

/-- A text spells a formula whose operands are grouped. Its pieces are tokens, and its
parentheses nest no deeper than brackets do in any expression. -/
structure Formula.Spells (formula : Formula) (text : String) : Prop where
  grouped : formula.IsGrouped
  tokens : ∀ piece ∈ formula.pieces, piece.IsToken
  shallow : Piece.height 0 formula.pieces ≤ Token.bracketLimit
  spaced : Spaced IsSourceGap 0 formula.pieces (Text.trim text.toList)

/-! ## Trees -/

namespace Formula

mutual

/-- The tree of a formula without its columns. -/
def bare : Formula -> Expression
  | .literal text => .number 0 (Piece.numeral text)
  | .word name _ => .name 0 (Piece.identifier name)
  | .group inner => inner.bare
  | .call name arguments => .call 0 (.name 0 (Piece.identifier name)) (bares arguments) false
  | .signed negative operand => .signed 0 negative operand.bare
  | .joined connective left right => .binary 0 connective.operator left.bare right.bare

/-- The trees of formulas without their columns. -/
def bares : List Formula -> List Expression
  | [] => []
  | first :: rest => first.bare :: bares rest

end

mutual

theorem relocate_tree (number : Nat) (formula : Formula) :
    (formula.tree number).relocate (fun _ => 0) = formula.bare := by
  cases formula with
  | literal => rfl
  | word => rfl
  | group inner => exact relocate_tree (number + 1) inner
  | call name arguments =>
      rw [tree, bare, Expression.relocate, relocateAll_trees (number + 2) arguments]
      rfl
  | signed negative operand => rw [tree, bare, Expression.relocate, relocate_tree _ operand]
  | joined connective left right =>
      rw [tree, bare, Expression.relocate, relocate_tree _ left, relocate_tree _ right]

theorem relocateAll_trees (number : Nat) (formulas : List Formula) :
    Expression.relocateAll (fun _ => 0) (trees number formulas) = bares formulas := by
  cases formulas with
  | nil => rfl
  | cons first rest =>
      rw [trees, bares, Expression.relocateAll, relocate_tree number first,
        relocateAll_trees _ rest]

end

end Formula

/-! ## Texts -/

theorem Spaced.not_mem
    {isGap : Nat -> Char -> Prop}
    {depth : Nat}
    {pieces : List Piece}
    {text : List Char}
    (spaced : Spaced isGap depth pieces text)
    {odd : Char}
    (noGap : ∀ depth, ¬isGap depth odd)
    (absent : ∀ piece ∈ pieces, odd ∉ piece.chars) : odd ∉ text := by
  induction spaced with
  | nil => exact List.not_mem_nil
  | @gap depth _ _ _ blank _ inductionHypothesis =>
      refine List.not_mem_cons_of_ne_of_not_mem ?_ (inductionHypothesis absent)
      rintro rfl
      exact noGap depth blank
  | piece _ inductionHypothesis =>
      obtain ⟨absentFirst, absentRest⟩ := List.forall_mem_cons.mp absent
      exact List.not_mem_append absentFirst (inductionHypothesis absentRest)

namespace Formula.Spells

open Evaluator

variable {formula : Formula} {text : String}

theorem isEmpty_trim (spells : formula.Spells text) :
    (Text.trim text.toList).isEmpty = false := by
  obtain ⟨first, rest, same, -⟩ := formula.exists_pieces_cons
  have spaced := spells.spaced
  rw [same] at spaced
  generalize Text.trim text.toList = trimmed at spaced
  cases spaced with
  | gap => rfl
  | piece =>
      have isToken := spells.tokens first (same ▸ List.mem_cons_self)
      obtain ⟨leading, more, chars, -⟩ := isToken.exists_startsWith
      rw [chars]
      rfl

theorem contains_null (spells : formula.Spells text) :
    (Text.trim text.toList).contains '\x00' = false := by
  refine Bool.eq_false_iff.mpr fun present => ?_
  refine spells.spaced.not_mem ?_ ?_ (List.contains_iff_mem.mp present)
  · rintro depth (blank | ⟨-, same | same⟩)
    · exact absurd blank (by decide)
    · exact absurd same (by decide)
    · exact absurd same (by decide)
  · exact fun piece among => (spells.tokens piece among).not_mem (by decide) (by decide)

/-- A text that spells a formula is parsed as the tree of the formula. -/
theorem parse?_eq (spells : formula.Spells text) :
    ∃ place, Expression.parse? (Text.trim text.toList) =
      .ok ((formula.tree 1).relocate place) := by
  have kinds := spells.spaced.kinds_all spells.tokens formula.fit_pieces (.inl spells.shallow)
  have valid : (Token.all (Text.trim text.toList)).find? (fun token => token.kind = .invalid) =
      none := by
    rw [List.find?_eq_none]
    intro token present
    have among : token.kind ∈ formula.pieces.map Piece.kind ++ [.stop] := by
      rw [← kinds]
      exact List.mem_map_of_mem present
    rcases List.mem_append.mp among with inPieces | atEnd
    · obtain ⟨piece, -, same⟩ := List.mem_map.mp inPieces
      simpa [← same] using piece.kind_ne_invalid
    · simp [List.mem_singleton.mp atEnd]
  refine ⟨fun number => (Expression.placeOf (Token.all (Text.trim text.toList)) number).column, ?_⟩
  rw [Expression.parse?, show List.map Token.kind _ = _ from kinds,
    formula.ofKinds_pieces spells.grouped, valid]

/-- A text that spells a formula is read as the tree of the formula, unless that is too
deep. -/
theorem read_eq (spells : formula.Spells text) :
    ∃ place, Evaluator.read text =
      if formula.bare.depth > treeLimit then .error .unreadable
      else .ok ((formula.tree 1).relocate place) := by
  obtain ⟨place, parsed⟩ := spells.parse?_eq
  refine ⟨place, ?_⟩
  rw [Evaluator.read, spells.isEmpty_trim, if_neg Bool.false_ne_true, spells.contains_null,
    if_neg Bool.false_ne_true, parsed]
  dsimp only
  rw [Expression.depth_relocate, ← relocate_tree 1, Expression.depth_relocate]

variable (evaluator : Evaluator)

/-- The outcome of a text that spells a formula, whatever the place of a fault, is that of
its tree. -/
theorem relocated_evaluate (spells : formula.Spells text) (given : Table Quantity) :
    Obstacle.relocated (fun _ => 0) (evaluator.evaluate given text) =
      if formula.bare.depth > treeLimit then .error (.fault .unreadable)
      else (evaluator.value given stepLimit formula.bare).map Operand.value := by
  obtain ⟨place, found⟩ := spells.read_eq
  rw [evaluate, found]
  split
  · rfl
  · change Obstacle.relocated _ (evaluator.value given stepLimit _ >>= fun operand =>
      .ok operand.value) = _
    rw [Obstacle.relocated_bind, ← value_relocate, Expression.relocate_relocate]
    change evaluator.value given stepLimit ((formula.tree 1).relocate fun _ => 0) >>= _ = _
    rw [relocate_tree]
    cases evaluator.value given stepLimit formula.bare <;> rfl

/-- The names of a text that spells a formula are those of its tree. -/
theorem reads_eq (spells : formula.Spells text) :
    evaluator.reads text =
      if formula.bare.depth > treeLimit then .error .unreadable
      else if formula.bare.mentionDepth > stepLimit then .error .tooDeep
      else .ok (evaluator.namesOf formula.bare) := by
  obtain ⟨place, found⟩ := spells.read_eq
  rw [reads, found]
  split
  · rfl
  · have names : evaluator.namesOf ((formula.tree 1).relocate place) =
        evaluator.namesOf formula.bare := by
      rw [← relocate_tree 1, namesOf, namesOf, Expression.mentions_relocate,
        Expression.mentions_relocate]
    change (if _ then _ else _) = _
    rw [names, ← relocate_tree 1, Expression.mentionDepth_relocate,
      Expression.mentionDepth_relocate]
    rfl

end Formula.Spells
end ShaderGraph
