import Mathlib.Data.List.Chain
import ShaderGraph.Expression.Basic

/-!
# Formulas as they are written

A formula is arithmetic together with its parentheses. Its pieces are the literals, words
and marks that it is written with, in their order, and a text spells it if it consists of
these pieces and of blanks. Two pieces that follow each other fit: an operand is followed
by a mark, and an operator by an operand.
-/

namespace ShaderGraph

/-- An operator between two operands, by its spelling. -/
inductive Connective
  | plus
  | minus
  | times
  | over
  | percent
  | caret
  | stars
  deriving DecidableEq

namespace Connective

def chars : Connective -> List Char
  | .plus => ['+']
  | .minus => ['-']
  | .times => ['*']
  | .over => ['/']
  | .percent => ['%']
  | .caret => ['^']
  | .stars => ['*', '*']

/-- The operator that is spelled. Two spellings denote the power. -/
def operator : Connective -> Operator
  | .plus => .add
  | .minus => .subtract
  | .times => .multiply
  | .over => .divide
  | .percent => .modulo
  | .caret => .power
  | .stars => .power

end Connective

/-- A part of a formula between two blanks. -/
inductive Piece
  | literal (text : List Char)
  | word (name selection : List Char)
  | opening
  | closing
  | comma
  | sign (negative : Bool)
  | connective (mark : Connective)
  deriving DecidableEq

namespace Piece

def chars : Piece -> List Char
  | .literal text => text
  | .word name selection => name ++ selection
  | .opening => ['(']
  | .closing => [')']
  | .comma => [',']
  | .sign negative => [if negative then '-' else '+']
  | .connective mark => mark.chars

/-- Whether an operand may start with a piece. -/
def starts : Piece -> Bool
  | .literal _ => true
  | .word _ _ => true
  | .opening => true
  | .sign _ => true
  | _ => false

/-- Whether a piece may follow an operand. -/
def separates : Piece -> Bool
  | .closing => true
  | .comma => true
  | .connective _ => true
  | _ => false

/-- Whether a piece may be followed by another one. Only a name without a selection is
called. -/
def fits : Piece -> Piece -> Bool
  | .literal _, next => next.separates
  | .word _ selection, next => next.separates || (next = .opening && selection = [])
  | .closing, next => next.separates
  | .opening, next => next.starts || next = .closing
  | .comma, next => next.starts
  | .sign _, next => next.starts
  | .connective _, next => next.starts

/-- A word is followed by a separator, or by its arguments if it has no selection. -/
theorem fits_word_iff
    {name selection : List Char}
    {next : Piece} :
    (word name selection).fits next = true ↔
      next.separates = true ∨ next = .opening ∧ selection = [] := by
  simp [fits]

/-- The number of open parentheses behind a piece. -/
def depthAfter (depth : Nat) : Piece -> Nat
  | .opening => depth + 1
  | .closing => depth - 1
  | _ => depth

end Piece

/-- Pieces that fit each other. -/
abbrev Fit (pieces : List Piece) : Prop :=
  pieces.IsChain fun piece next => piece.fits next = true

/-- An arithmetic expression as it is written. A word is a name with the selection behind
it. -/
inductive Formula
  | literal (text : List Char)
  | word (name selection : List Char)
  | group (inner : Formula)
  | call
      (name : List Char)
      (arguments : List Formula)
  | signed
      (negative : Bool)
      (operand : Formula)
  | joined
      (connective : Connective)
      (left right : Formula)

namespace Formula

mutual

/-- The pieces of a formula in the order of the text. -/
def pieces : Formula -> List Piece
  | .literal text => [.literal text]
  | .word name selection => [.word name selection]
  | .group inner => .opening :: (inner.pieces ++ [.closing])
  | .call name arguments => .word name [] :: .opening :: (piecesAmong arguments ++ [.closing])
  | .signed negative operand => .sign negative :: operand.pieces
  | .joined connective left right => left.pieces ++ .connective connective :: right.pieces

/-- The pieces of formulas that commas separate. -/
def piecesAmong : List Formula -> List Piece
  | [] => []
  | first :: rest => first.pieces ++ piecesBehind rest

/-- The pieces of formulas behind others. -/
def piecesBehind : List Formula -> List Piece
  | [] => []
  | first :: rest => .comma :: (first.pieces ++ piecesBehind rest)

end

theorem pieces_group_append (inner : Formula) (rest : List Piece) :
    (group inner).pieces ++ rest = .opening :: (inner.pieces ++ .closing :: rest) := by
  simp [pieces]

theorem pieces_call_append (name : List Char) (arguments : List Formula) (rest : List Piece) :
    (call name arguments).pieces ++ rest =
      .word name [] :: .opening :: (piecesAmong arguments ++ .closing :: rest) := by
  simp [pieces]

theorem pieces_joined_append (connective : Connective) (left right : Formula) (rest : List Piece) :
    (joined connective left right).pieces ++ rest =
      left.pieces ++ .connective connective :: (right.pieces ++ rest) := by
  simp [pieces]

/-- A piece behind an argument is a comma or belongs to a further argument. -/
theorem mem_piecesBehind
    {arguments : List Formula}
    {piece : Piece}
    (present : piece ∈ piecesBehind arguments) :
    piece = .comma ∨ ∃ argument ∈ arguments, piece ∈ argument.pieces := by
  induction arguments with
  | nil => cases present
  | cons first others inductionHypothesis =>
      rw [piecesBehind, List.mem_cons, List.mem_append] at present
      rcases present with rfl | inFirst | behind
      · exact .inl rfl
      · exact .inr ⟨first, List.mem_cons_self, inFirst⟩
      · refine (inductionHypothesis behind).imp_right fun ⟨argument, among, inArgument⟩ => ?_
        exact ⟨argument, List.mem_cons_of_mem first among, inArgument⟩

/-- A piece among arguments is a comma or belongs to one of them. -/
theorem mem_piecesAmong
    {arguments : List Formula}
    {piece : Piece}
    (present : piece ∈ piecesAmong arguments) :
    piece = .comma ∨ ∃ argument ∈ arguments, piece ∈ argument.pieces := by
  cases arguments with
  | nil => cases present
  | cons first others =>
      rw [piecesAmong] at present
      have behind : piece ∈ piecesBehind (first :: others) := by
        rw [piecesBehind]
        exact List.mem_cons_of_mem .comma present
      exact mem_piecesBehind behind

theorem mem_piecesBehind_of_mem
    {arguments : List Formula}
    {argument : Formula}
    {piece : Piece}
    (among : argument ∈ arguments)
    (present : piece ∈ argument.pieces) : piece ∈ piecesBehind arguments := by
  induction arguments with
  | nil => cases among
  | cons first others inductionHypothesis =>
      rw [piecesBehind, List.mem_cons, List.mem_append]
      rcases List.mem_cons.mp among with rfl | behind
      · exact .inr (.inl present)
      · exact .inr (.inr (inductionHypothesis behind))

theorem mem_piecesAmong_of_mem
    {arguments : List Formula}
    {argument : Formula}
    {piece : Piece}
    (among : argument ∈ arguments)
    (present : piece ∈ argument.pieces) : piece ∈ piecesAmong arguments := by
  cases arguments with
  | nil => cases among
  | cons first others =>
      rw [piecesAmong, List.mem_append]
      rcases List.mem_cons.mp among with rfl | behind
      · exact .inl present
      · exact .inr (mem_piecesBehind_of_mem behind present)

/-! ## Neighbours -/

/-- A formula starts with a piece that operands start with. -/
theorem exists_pieces_cons (formula : Formula) :
    ∃ first rest, formula.pieces = first :: rest ∧ first.starts = true := by
  cases formula with
  | literal => exact ⟨_, _, rfl, rfl⟩
  | word => exact ⟨_, _, rfl, rfl⟩
  | group => exact ⟨_, _, rfl, rfl⟩
  | call => exact ⟨_, _, rfl, rfl⟩
  | signed => exact ⟨_, _, rfl, rfl⟩
  | joined connective left right =>
      obtain ⟨first, rest, same, starts⟩ := exists_pieces_cons left
      exact ⟨first, _, by rw [pieces, same]; rfl, starts⟩

/-- What may stand behind a formula. -/
structure Behind (rest : List Piece) : Prop where
  fit : Fit rest
  separates : ∀ next, rest.head? = some next -> next.separates = true

namespace Behind

variable {rest : List Piece}

theorem nil : Behind [] where
  fit := .nil
  separates := by simp

theorem closing (behind : Behind rest) : Behind (.closing :: rest) where
  fit := List.isChain_cons.mpr ⟨behind.separates, behind.fit⟩
  separates := by rintro _ ⟨⟩; rfl

/-- A mark behind an operand stands in front of another one. -/
theorem mark
    {piece : Piece}
    {formula : Formula}
    (separates : piece.separates = true)
    (fits : ∀ next : Piece, next.starts = true -> piece.fits next = true)
    (fit : Fit (formula.pieces ++ rest)) : Behind (piece :: (formula.pieces ++ rest)) where
  fit := by
    refine List.isChain_cons.mpr ⟨fun next leads => fits next ?_, fit⟩
    obtain ⟨first, more, same, starts⟩ := formula.exists_pieces_cons
    rw [same] at leads
    cases leads
    exact starts
  separates := by rintro _ ⟨⟩; exact separates

end Behind

mutual

/-- The pieces of a formula fit each other and what may stand behind them. -/
theorem fit_pieces_append
    (formula : Formula)
    {rest : List Piece}
    (behind : Behind rest) : Fit (formula.pieces ++ rest) := by
  cases formula with
  | literal text => exact List.isChain_cons.mpr ⟨behind.separates, behind.fit⟩
  | word name selection =>
      refine List.isChain_cons.mpr ⟨fun next leads => ?_, behind.fit⟩
      exact Bool.or_eq_true_iff.mpr (.inl (behind.separates next leads))
  | group inner =>
      have closed := fit_pieces_append inner behind.closing
      rw [pieces_group_append]
      refine List.isChain_cons.mpr ⟨fun next leads => ?_, closed⟩
      obtain ⟨first, more, same, starts⟩ := inner.exists_pieces_cons
      rw [same] at leads
      cases leads
      exact Bool.or_eq_true_iff.mpr (.inl starts)
  | call name arguments =>
      rw [pieces_call_append]
      refine List.isChain_cons.mpr ⟨by rintro _ ⟨⟩; rfl, ?_⟩
      exact fit_piecesAmong_append arguments behind.closing (fun next leads => by cases leads; rfl)
  | signed negative operand =>
      refine List.isChain_cons.mpr ⟨fun next leads => ?_, fit_pieces_append operand behind⟩
      obtain ⟨first, more, same, starts⟩ := operand.exists_pieces_cons
      rw [same] at leads
      cases leads
      exact starts
  | joined connective left right =>
      rw [pieces_joined_append]
      exact fit_pieces_append left
        (.mark rfl (fun _ starts => starts) (fit_pieces_append right behind))

/-- The arguments of a call fit the parentheses around them. -/
theorem fit_piecesAmong_append
    (arguments : List Formula)
    {rest : List Piece}
    (behind : Behind rest)
    (closes : ∀ next, rest.head? = some next -> Piece.fits .opening next = true) :
    Fit (.opening :: (piecesAmong arguments ++ rest)) := by
  cases arguments with
  | nil => exact List.isChain_cons.mpr ⟨closes, behind.fit⟩
  | cons first others =>
      rw [piecesAmong, List.append_assoc]
      have whole := fit_pieces_append first (behind_piecesBehind others behind)
      refine List.isChain_cons.mpr ⟨fun next leads => ?_, whole⟩
      obtain ⟨leading, more, same, starts⟩ := first.exists_pieces_cons
      rw [same] at leads
      cases leads
      exact Bool.or_eq_true_iff.mpr (.inl starts)

/-- Further arguments may stand behind an argument. -/
theorem behind_piecesBehind
    (arguments : List Formula)
    {rest : List Piece}
    (behind : Behind rest) : Behind (piecesBehind arguments ++ rest) := by
  cases arguments with
  | nil => exact behind
  | cons first others =>
      rw [piecesBehind, List.cons_append, List.append_assoc]
      exact .mark rfl (fun _ starts => starts)
        (fit_pieces_append first (behind_piecesBehind others behind))

end

/-- The pieces of a formula fit together. -/
theorem fit_pieces (formula : Formula) : Fit formula.pieces := by
  have fit := fit_pieces_append formula .nil
  rwa [List.append_nil] at fit

end Formula

/-! ## Texts -/

/-- A text consists of pieces and of blanks. Which characters are blanks may depend on the
number of open parentheses around them. -/
inductive Spaced (isGap : Nat -> Char -> Prop) : Nat -> List Piece -> List Char -> Prop
  | nil {depth : Nat} : Spaced isGap depth [] []
  | gap
      {depth : Nat}
      {character : Char}
      {pieces : List Piece}
      {text : List Char}
      (blank : isGap depth character)
      (behind : Spaced isGap depth pieces text) : Spaced isGap depth pieces (character :: text)
  | piece
      {depth : Nat}
      {piece : Piece}
      {pieces : List Piece}
      {text : List Char}
      (behind : Spaced isGap (piece.depthAfter depth) pieces text) :
      Spaced isGap depth (piece :: pieces) (piece.chars ++ text)

/-- Pieces with narrower gaps are spaced with wider ones. -/
theorem Spaced.imp
    {isGap isBlank : Nat -> Char -> Prop}
    {depth : Nat}
    {pieces : List Piece}
    {text : List Char}
    (implied : ∀ depth character, isGap depth character -> isBlank depth character)
    (spaced : Spaced isGap depth pieces text) : Spaced isBlank depth pieces text := by
  induction spaced with
  | nil => exact .nil
  | gap blank _ inductionHypothesis => exact .gap (implied _ _ blank) inductionHypothesis
  | piece _ inductionHypothesis => exact .piece inductionHypothesis

end ShaderGraph
