import Mathlib.Data.List.Sort
import ShaderGraph.Argument.Reading
import ShaderGraph.Proofs.Argument.Search
import ShaderGraph.Proofs.Expression.Outcome

/-!
# Arithmetic with a point

A text without a point is read as an expression, and one with a point is searched for names,
even if the point belongs to a literal. Both find the same names in arithmetic, apart from
two things: the search does not know the constants of the evaluator, and it takes letters
behind the point of a literal for a name.
-/

namespace ShaderGraph

namespace Text

/-- Names in ascending order are known by their members. -/
theorem sortedNames_eq_iff {names others : List String} :
    sortedNames names = sortedNames others ↔ ∀ name, name ∈ names ↔ name ∈ others := by
  constructor
  · intro same name
    rw [← mem_sortedNames, same, mem_sortedNames]
  · intro same
    refine (pairwise_sortedNames names).eq_of_mem_iff (pairwise_sortedNames others) fun name => ?_
    rw [mem_sortedNames, mem_sortedNames, same name]

end Text

/-! ## Blanks around a text -/

section Blanks

variable {isGap : Nat -> Char -> Prop} {depth : Nat} {pieces : List Piece} {text : List Char}

theorem Spaced.gaps_append
    (spaced : Spaced isGap depth pieces text)
    {before : List Char}
    (gaps : ∀ blank ∈ before, isGap depth blank) : Spaced isGap depth pieces (before ++ text) := by
  induction before with
  | nil => exact spaced
  | cons first rest inductionHypothesis =>
      obtain ⟨gap, others⟩ := List.forall_mem_cons.mp gaps
      exact .gap gap (inductionHypothesis others)

theorem Spaced.append_gaps
    (spaced : Spaced isGap depth pieces text)
    {after : List Char}
    (gaps : ∀ depth, ∀ blank ∈ after, isGap depth blank) :
    Spaced isGap depth pieces (text ++ after) := by
  induction spaced with
  | @nil depth =>
      have behind := Spaced.nil.gaps_append (gaps depth)
      rwa [List.append_nil] at behind
  | gap blank _ inductionHypothesis => exact .gap blank inductionHypothesis
  | piece _ inductionHypothesis =>
      rw [List.append_assoc]
      exact .piece inductionHypothesis

end Blanks

theorem isBlank_of_isSourceGap
    {depth : Nat}
    {character : Char}
    (isGap : IsSourceGap depth character) : Text.isBlank character = true := by
  rcases isGap with gap | ⟨-, rfl | rfl⟩
  · rw [Token.isGap, Bool.or_eq_true, Bool.or_eq_true, beq_iff_eq, beq_iff_eq, beq_iff_eq] at gap
    rcases gap with (rfl | rfl) | rfl <;> decide
  · decide
  · decide

/-! ## Names -/

namespace Piece

/-- Whether the words among pieces have only letters that the search knows. -/
def IsPlain : Piece -> Prop
  | .word name _ => Swizzle.isName name = true
  | _ => True

theorem IsToken.isLexical
    {piece : Piece}
    (isToken : piece.IsToken)
    (plain : piece.IsPlain) : piece.IsLexical := by
  cases piece with
  | literal => exact Token.IsNumber.isLiteral isToken
  | word => exact ⟨plain, .inl isToken.2⟩
  | _ => trivial

/-- A word is the name that it is written with. -/
theorem IsToken.identifier_eq
    {name selection : List Char}
    (isToken : (word name selection).IsToken)
    (plain : Swizzle.isName name = true) :
    identifier name = String.ofList (name ++ selection) := by
  obtain ⟨known, rfl⟩ := isToken
  rw [Token.wordKind_of_isName plain] at known
  rw [List.append_nil]
  split at known
  · cases known
  · exact (TokenKind.identifier.inj known).symm

/-- The search finds the words at least. -/
theorem mentioned_subset (ofLiteral : List Char -> List String) (pieces : List Piece) :
    mentioned (fun _ => []) pieces ⊆ mentioned ofLiteral pieces := by
  induction pieces with
  | nil => exact List.Subset.refl _
  | cons piece rest inductionHypothesis =>
      cases piece with
      | literal text =>
          exact List.subset_append_of_subset_right (ofLiteral text) inductionHypothesis
      | word name selection =>
          exact List.append_subset.mpr ⟨List.subset_append_left _ _,
            List.subset_append_of_subset_right _ inductionHypothesis⟩
      | _ => exact inductionHypothesis

end Piece

namespace Formula

mutual

/-- The tree of a formula mentions the words of the formula that are not called. -/
theorem mentions_bare
    (formula : Formula)
    (tokens : ∀ piece ∈ formula.pieces, piece.IsToken ∧ piece.IsPlain) :
    formula.bare.mentions = formula.mentioned fun _ => [] := by
  cases formula with
  | literal => rfl
  | word name selection =>
      obtain ⟨isToken, plain⟩ := tokens _ List.mem_cons_self
      exact congrArg (fun name => [name]) (isToken.identifier_eq plain)
  | group inner =>
      rw [pieces, List.forall_mem_cons, List.forall_mem_append] at tokens
      exact mentions_bare inner tokens.2.1
  | call name arguments =>
      rw [pieces, List.forall_mem_cons, List.forall_mem_cons, List.forall_mem_append] at tokens
      exact mentionsAmong_bares arguments fun argument among piece present =>
        tokens.2.2.1 piece (mem_piecesAmong_of_mem among present)
  | signed negative operand =>
      rw [pieces, List.forall_mem_cons] at tokens
      exact mentions_bare operand tokens.2
  | joined connective left right =>
      rw [pieces, List.forall_mem_append, List.forall_mem_cons] at tokens
      rw [bare, mentioned, Expression.mentions, mentions_bare left tokens.1,
        mentions_bare right tokens.2.2]

theorem mentionsAmong_bares
    (arguments : List Formula)
    (tokens : ∀ argument ∈ arguments, ∀ piece ∈ argument.pieces,
      piece.IsToken ∧ piece.IsPlain) :
    Expression.mentionsAmong (bares arguments) = mentionedAmong (fun _ => []) arguments := by
  cases arguments with
  | nil => rfl
  | cons first others =>
      obtain ⟨tokensFirst, tokensOthers⟩ := List.forall_mem_cons.mp tokens
      rw [bares, mentionedAmong, Expression.mentionsAmong, mentions_bare first tokensFirst,
        mentionsAmong_bares others tokensOthers]

end

end Formula

namespace Interpreter

open Evaluator

variable {formula : Formula} {text : String}

/-- A text with a point depends on the words that are not called and on the strays of its
literals. -/
theorem dependencies_of_hasPoint
    (interpreter : Interpreter)
    (spells : formula.Spells text)
    (plain : ∀ piece ∈ formula.pieces, piece.IsPlain)
    (pointed : Swizzle.hasPoint text = true) :
    interpreter.dependencies text = Text.sortedNames (formula.mentioned Piece.strays) := by
  obtain ⟨before, after, whole, blanksBefore, blanksAfter⟩ := Text.exists_eq_append_trim text.toList
  have spaced : Spaced (fun _ character => Text.isBlank character = true) 0 formula.pieces
      text.toList := by
    rw [whole]
    have inner := spells.spaced.imp fun _ _ => isBlank_of_isSourceGap
    exact (inner.gaps_append blanksBefore).append_gaps fun _ => blanksAfter
  have lexical (piece : Piece) (present : piece ∈ formula.pieces) :=
    (spells.tokens piece present).isLexical (plain piece present)
  rw [dependencies, if_pos pointed, Argument.names,
    spaced.scan_eq (fun _ _ => id) lexical formula.fit_pieces, formula.mentioned_pieces]

/-- What is found in arithmetic with a point is what is read, unless a constant is found or
a stray that is no name of the formula. The depths are those that a reading follows. -/
theorem reads_eq_dependencies_iff
    (interpreter : Interpreter)
    (spells : formula.Spells text)
    (plain : ∀ piece ∈ formula.pieces, piece.IsPlain)
    (pointed : Swizzle.hasPoint text = true) :
    interpreter.evaluator.reads text = .ok (interpreter.dependencies text) ↔
      (formula.bare.depth ≤ treeLimit ∧ formula.bare.mentionDepth ≤ stepLimit) ∧
        ∀ name ∈ formula.mentioned Piece.strays,
          name ∈ formula.mentioned (fun _ => []) ∧
            interpreter.evaluator.constants.has name = false := by
  have tokens (piece : Piece) (present : piece ∈ formula.pieces) :=
    And.intro (spells.tokens piece present) (plain piece present)
  have finds : formula.mentioned (fun _ => []) ⊆ formula.mentioned Piece.strays := by
    rw [← formula.mentioned_pieces, ← formula.mentioned_pieces]
    exact Piece.mentioned_subset Piece.strays formula.pieces
  have names : interpreter.evaluator.namesOf formula.bare =
        Text.sortedNames (formula.mentioned Piece.strays) ↔
      ∀ name ∈ formula.mentioned Piece.strays, name ∈ formula.mentioned (fun _ => []) ∧
        interpreter.evaluator.constants.has name = false := by
    rw [namesOf, Text.sortedNames_eq_iff, formula.mentions_bare tokens]
    simp only [List.mem_filter, Bool.not_eq_true']
    exact ⟨fun same name found => (same name).mpr found, fun known name =>
      ⟨fun read => finds read.1, known name⟩⟩
  rw [spells.reads_eq, dependencies_of_hasPoint interpreter spells plain pointed]
  split
  case isTrue deep =>
    exact iff_of_false (by simp) fun known => absurd deep (Nat.not_lt.mpr known.1.1)
  case isFalse low =>
    split
    case isTrue deep =>
      exact iff_of_false (by simp) fun known => absurd deep (Nat.not_lt.mpr known.1.2)
    case isFalse flat =>
      rw [Except.ok.injEq, names]
      exact (and_iff_right ⟨Nat.not_lt.mp low, Nat.not_lt.mp flat⟩).symm

/-- A number with a power of ten, and a call, which have no strays. -/
def damped : Formula :=
  .joined .plus
    (.joined .times (.word ['t'] []) (.literal ['2', '.', '5', 'e', '-', '1']))
    (.call ['s', 'i', 'n'] [.word ['x'] []])

theorem reads_damped :
    damped.Spells "t*2.5e-1 + sin( x)" ∧
      ({} : Interpreter).evaluator.reads "t*2.5e-1 + sin( x)" =
        .ok (({} : Interpreter).dependencies "t*2.5e-1 + sin( x)") := by
  have pieces : ∀ piece ∈ damped.pieces, piece.IsToken ∧ piece.IsPlain := by
    simp only [damped, Formula.pieces, Formula.piecesAmong, Formula.piecesBehind,
      List.append_nil, List.cons_append, List.nil_append, List.forall_mem_cons]
    exact ⟨⟨⟨by decide, rfl⟩, rfl⟩, ⟨trivial, trivial⟩, ⟨⟨.inl rfl, by decide⟩, trivial⟩,
      ⟨trivial, trivial⟩, ⟨⟨by decide, rfl⟩, rfl⟩, ⟨trivial, trivial⟩, ⟨⟨by decide, rfl⟩, rfl⟩,
      ⟨trivial, trivial⟩, List.forall_mem_nil _⟩
  have spells : damped.Spells "t*2.5e-1 + sin( x)" := {
    grouped := ⟨by decide, ⟨by decide, trivial, trivial⟩, trivial, trivial⟩
    tokens := fun piece present => (pieces piece present).1
    shallow := by decide
    spaced := .piece (.piece (.piece (.gap (.inl rfl) (.piece (.gap (.inl rfl)
      (.piece (.piece (.gap (.inl rfl) (.piece (.piece .nil)))))))))) }
  refine ⟨spells, ?_⟩
  have plain (piece : Piece) (present : piece ∈ damped.pieces) := (pieces piece present).2
  exact (reads_eq_dependencies_iff {} spells plain rfl).mpr ⟨by decide, by decide⟩

/-- The power of a literal is found where a point stands in front of it, and a constant of
the evaluator is found by the search alone. -/
theorem reads_ne_dependencies :
    ({} : Interpreter).evaluator.reads "1.e5 + 2" ≠
        .ok (({} : Interpreter).dependencies "1.e5 + 2") ∧
      ({} : Interpreter).evaluator.reads "pi / 2.0" ≠
        .ok (({} : Interpreter).dependencies "pi / 2.0") := by
  constructor
  · have reads : ({} : Interpreter).evaluator.reads "1.e5 + 2" = .ok [] := by decide +kernel
    have found : ({} : Interpreter).dependencies "1.e5 + 2" = ["e5"] := by decide +kernel
    rw [reads, found]
    simp
  · have reads : ({} : Interpreter).evaluator.reads "pi / 2.0" = .ok [] := by decide +kernel
    have found : ({} : Interpreter).dependencies "pi / 2.0" = ["pi"] := by decide +kernel
    rw [reads, found]
    simp

end Interpreter
end ShaderGraph
