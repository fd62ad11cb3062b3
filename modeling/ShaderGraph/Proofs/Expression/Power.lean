import ShaderGraph.Proofs.Expression.Outcome

/-!
# The two spellings of the power

A power is spelled with a caret or with two stars. Both spellings compute the same, but the
caret binds weaker than any other operator and groups from the left, while two stars bind
stronger than any other and group from the right. So an expression keeps its outcome if its
carets are replaced by stars and its operands are still grouped, and in any case if the
operands of the carets are put into parentheses.
-/

namespace ShaderGraph

/-! ## Stars for carets -/

/-- The spelling of a power with stars. -/
def Connective.starred : Connective -> Connective
  | .caret => .stars
  | connective => connective

/-- The piece with stars for a caret. -/
def Piece.starred : Piece -> Piece
  | .connective mark => .connective mark.starred
  | piece => piece

/-- The text with two stars for each caret. -/
def Text.starred (text : List Char) : List Char :=
  text.flatMap fun character => if character = '^' then ['*', '*'] else [character]

namespace Formula

mutual

/-- The formula with stars for carets. -/
def starred : Formula -> Formula
  | .literal text => .literal text
  | .word name selection => .word name selection
  | .group inner => .group inner.starred
  | .call name arguments => .call name (starredAmong arguments)
  | .signed negative operand => .signed negative operand.starred
  | .joined connective left right => .joined connective.starred left.starred right.starred

/-- The formulas with stars for carets. -/
def starredAmong : List Formula -> List Formula
  | [] => []
  | first :: rest => first.starred :: starredAmong rest

end

/-- A power with stars, between operands in parentheses if it was spelled with a caret. -/
def power (connective : Connective) (left right : Formula) : Formula :=
  if connective = .caret then .joined .stars (.group left) (.group right)
  else .joined connective left right

mutual

/-- The formula with stars for carets and with parentheses around their operands. -/
def explicit : Formula -> Formula
  | .literal text => .literal text
  | .word name selection => .word name selection
  | .group inner => .group inner.explicit
  | .call name arguments => .call name (explicitAmong arguments)
  | .signed negative operand => .signed negative operand.explicit
  | .joined connective left right => power connective left.explicit right.explicit

/-- The formulas with such stars and parentheses. -/
def explicitAmong : List Formula -> List Formula
  | [] => []
  | first :: rest => first.explicit :: explicitAmong rest

end

/-! ### Trees -/

/-- Stars are read as the same operator. -/
theorem operator_starred (connective : Connective) :
    connective.starred.operator = connective.operator := by
  cases connective <;> rfl

mutual

/-- Stars for carets leave the tree as it is. -/
theorem bare_starred (formula : Formula) : formula.starred.bare = formula.bare := by
  cases formula with
  | literal => rfl
  | word => rfl
  | group inner => exact bare_starred inner
  | call name arguments => rw [starred, bare, bare, bares_starredAmong arguments]
  | signed negative operand => rw [starred, bare, bare, bare_starred operand]
  | joined connective left right =>
      rw [starred, bare, bare, operator_starred, bare_starred left, bare_starred right]

/-- Writing stars for carets changes the bare arguments nowhere. -/
theorem bares_starredAmong (formulas : List Formula) :
    bares (starredAmong formulas) = bares formulas := by
  cases formulas with
  | nil => rfl
  | cons first rest =>
      rw [starredAmong, bares, bares, bare_starred first, bares_starredAmong rest]

end

/-- A power is read as one operation of its operands. -/
theorem bare_power (connective : Connective) (left right : Formula) :
    (power connective left right).bare = .binary 0 connective.operator left.bare right.bare := by
  rw [power]
  split
  case isTrue caret => rw [caret]; rfl
  case isFalse => rfl

mutual

/-- Parentheses around the operands leave it, too. -/
theorem bare_explicit (formula : Formula) : formula.explicit.bare = formula.bare := by
  cases formula with
  | literal => rfl
  | word => rfl
  | group inner => exact bare_explicit inner
  | call name arguments => rw [explicit, bare, bare, bares_explicitAmong arguments]
  | signed negative operand => rw [explicit, bare, bare, bare_explicit operand]
  | joined connective left right =>
      rw [explicit, bare_power, bare, bare_explicit left, bare_explicit right]

/-- Making powers explicit changes the bare arguments nowhere. -/
theorem bares_explicitAmong (formulas : List Formula) :
    bares (explicitAmong formulas) = bares formulas := by
  cases formulas with
  | nil => rfl
  | cons first rest =>
      rw [explicitAmong, bares, bares, bare_explicit first, bares_explicitAmong rest]

end

/-! ### Pieces -/

mutual

/-- Writing stars for carets changes the pieces one by one. -/
theorem pieces_starred (formula : Formula) :
    formula.starred.pieces = formula.pieces.map Piece.starred := by
  cases formula with
  | literal => rfl
  | word => rfl
  | group inner => simp [starred, pieces, pieces_starred inner, Piece.starred]
  | call name arguments => simp [starred, pieces, piecesAmong_starredAmong arguments, Piece.starred]
  | signed negative operand => simp [starred, pieces, pieces_starred operand, Piece.starred]
  | joined connective left right =>
      simp [starred, pieces, pieces_starred left, pieces_starred right, Piece.starred]

/-- The pieces of arguments are changed one by one. -/
theorem piecesAmong_starredAmong (arguments : List Formula) :
    piecesAmong (starredAmong arguments) = (piecesAmong arguments).map Piece.starred := by
  cases arguments with
  | nil => rfl
  | cons first others =>
      rw [starredAmong, piecesAmong, piecesAmong, List.map_append, pieces_starred first,
        piecesBehind_starredAmong others]

theorem piecesBehind_starredAmong (arguments : List Formula) :
    piecesBehind (starredAmong arguments) = (piecesBehind arguments).map Piece.starred := by
  cases arguments with
  | nil => rfl
  | cons first others =>
      rw [starredAmong, piecesBehind, piecesBehind, List.map_cons, List.map_append,
        pieces_starred first, piecesBehind_starredAmong others]
      rfl

end

/-! ### Parentheses -/

/-- Making powers explicit lowers no rank. -/
theorem level_le_explicit (formula : Formula) : formula.level ≤ formula.explicit.level := by
  cases formula with
  | joined connective left right =>
      rw [explicit, power]
      split
      case isTrue => exact connective.level_le
      case isFalse => exact Nat.le_refl _
  | _ => exact Nat.le_refl _

mutual

/-- Making powers explicit keeps a formula grouped. -/
theorem isGrouped_explicit
    (formula : Formula)
    (grouped : formula.IsGrouped) : formula.explicit.IsGrouped := by
  cases formula with
  | literal => trivial
  | word => trivial
  | group inner => exact isGrouped_explicit inner grouped
  | call name arguments => exact areGrouped_explicitAmong arguments grouped
  | signed negative operand =>
      exact ⟨Nat.le_trans grouped.1 operand.level_le_explicit,
        isGrouped_explicit operand grouped.2⟩
  | joined connective left right =>
      obtain ⟨⟨leftLevel, rightLevel⟩, groupedLeft, groupedRight⟩ := grouped
      have explicitLeft := isGrouped_explicit left groupedLeft
      have explicitRight := isGrouped_explicit right groupedRight
      rw [explicit, power]
      split
      case isTrue => exact ⟨⟨Nat.le_refl 8, Nat.le_succ 7⟩, explicitLeft, explicitRight⟩
      case isFalse =>
        exact ⟨⟨Nat.le_trans leftLevel left.level_le_explicit,
          Nat.le_trans rightLevel right.level_le_explicit⟩, explicitLeft, explicitRight⟩

theorem areGrouped_explicitAmong
    (arguments : List Formula)
    (grouped : AreGrouped arguments) : AreGrouped (explicitAmong arguments) := by
  cases arguments with
  | nil => trivial
  | cons first others =>
      exact ⟨isGrouped_explicit first grouped.1, areGrouped_explicitAmong others grouped.2⟩

end

mutual

/-- With stars and parentheses a formula has no further words and literals. -/
theorem tokens_explicit
    (formula : Formula)
    (tokens : ∀ piece ∈ formula.pieces, piece.IsToken) :
    ∀ piece ∈ formula.explicit.pieces, piece.IsToken := by
  cases formula with
  | literal => exact tokens
  | word => exact tokens
  | group inner =>
      rw [pieces, List.forall_mem_cons, List.forall_mem_append] at tokens
      rw [explicit, pieces, List.forall_mem_cons, List.forall_mem_append]
      exact ⟨trivial, tokens_explicit inner tokens.2.1, tokens.2.2⟩
  | call name arguments =>
      rw [pieces, List.forall_mem_cons, List.forall_mem_cons, List.forall_mem_append] at tokens
      have explicitTokens := tokens_explicitAmong arguments fun argument among piece present =>
        tokens.2.2.1 piece (mem_piecesAmong_of_mem among present)
      rw [explicit, pieces, List.forall_mem_cons, List.forall_mem_cons, List.forall_mem_append]
      refine ⟨tokens.1, trivial, fun piece present => ?_, tokens.2.2.2⟩
      rcases mem_piecesAmong present with rfl | ⟨argument, among, inArgument⟩
      · trivial
      · exact explicitTokens argument among piece inArgument
  | signed negative operand =>
      rw [pieces, List.forall_mem_cons] at tokens
      rw [explicit, pieces, List.forall_mem_cons]
      exact ⟨trivial, tokens_explicit operand tokens.2⟩
  | joined connective left right =>
      rw [pieces, List.forall_mem_append, List.forall_mem_cons] at tokens
      have tokensLeft := tokens_explicit left tokens.1
      have tokensRight := tokens_explicit right tokens.2.2
      rw [explicit, power]
      split
      case isTrue =>
        simp only [pieces, List.forall_mem_append, List.forall_mem_cons]
        exact ⟨⟨trivial, tokensLeft, trivial, List.forall_mem_nil _⟩, trivial, trivial, tokensRight,
          trivial, List.forall_mem_nil _⟩
      case isFalse =>
        rw [pieces, List.forall_mem_append, List.forall_mem_cons]
        exact ⟨tokensLeft, trivial, tokensRight⟩

/-- Making powers explicit keeps the pieces of arguments whole tokens. -/
theorem tokens_explicitAmong
    (arguments : List Formula)
    (tokens : ∀ argument ∈ arguments, ∀ piece ∈ argument.pieces, piece.IsToken) :
    ∀ argument ∈ explicitAmong arguments, ∀ piece ∈ argument.pieces, piece.IsToken := by
  cases arguments with
  | nil => exact List.forall_mem_nil _
  | cons first others =>
      obtain ⟨tokensFirst, tokensOthers⟩ := List.forall_mem_cons.mp tokens
      exact List.forall_mem_cons.mpr
        ⟨tokens_explicit first tokensFirst, tokens_explicitAmong others tokensOthers⟩

end

end Formula

namespace Piece

/-- Stars for a caret are a whole token. -/
theorem IsToken.starred {piece : Piece} (isToken : piece.IsToken) : piece.starred.IsToken := by
  cases piece with
  | connective => trivial
  | _ => exact isToken

theorem depthAfter_starred (depth : Nat) (piece : Piece) :
    piece.starred.depthAfter depth = piece.depthAfter depth := by
  cases piece <;> rfl

/-- Stars for carets leave the nesting as it is. -/
theorem height_map_starred (depth : Nat) (pieces : List Piece) :
    height depth (pieces.map Piece.starred) = height depth pieces := by
  induction pieces generalizing depth with
  | nil => rfl
  | cons piece rest inductionHypothesis =>
      rw [List.map_cons, height, height, depthAfter_starred, inductionHypothesis]

end Piece

/-! ### Texts -/

namespace Text

/-- Stars are written for carets in each part of a text. -/
theorem starred_append (left right : List Char) :
    starred (left ++ right) = starred left ++ starred right :=
  List.flatMap_append

theorem starred_cons_of_ne
    {first : Char}
    (other : first ≠ '^')
    (rest : List Char) : starred (first :: rest) = first :: starred rest := by
  rw [starred, List.flatMap_cons, if_neg other]
  rfl

/-- A text without carets stays as it is. -/
theorem starred_eq_self
    {text : List Char}
    (absent : '^' ∉ text) : starred text = text := by
  induction text with
  | nil => rfl
  | cons first rest inductionHypothesis =>
      rw [List.mem_cons, not_or] at absent
      rw [starred_cons_of_ne (Ne.symm absent.1), inductionHypothesis absent.2]

theorem starred_reverse (text : List Char) : starred text.reverse = (starred text).reverse := by
  induction text with
  | nil => rfl
  | cons first rest inductionHypothesis =>
      rw [List.reverse_cons, starred_append, inductionHypothesis]
      by_cases caret : first = '^'
      · subst caret
        simp [starred]
      · simp [starred, caret]

theorem starred_trimStart (text : List Char) :
    starred (trimStart text) = trimStart (starred text) := by
  induction text with
  | nil => rfl
  | cons first rest inductionHypothesis =>
      by_cases caret : first = '^'
      · subst caret
        rfl
      · rw [starred_cons_of_ne caret, trimStart, trimStart, List.dropWhile_cons,
          List.dropWhile_cons]
        split
        · exact inductionHypothesis
        · exact starred_cons_of_ne caret rest

/-- Writing stars for carets commutes with trimming. -/
theorem starred_trim (text : List Char) : starred (trim text) = trim (starred text) := by
  rw [trim, trim, starred_reverse, starred_trimStart, starred_reverse, starred_trimStart]

end Text

/-- The chars of a token with stars for a caret are those of the token with stars. -/
theorem Piece.IsToken.starred_chars
    {piece : Piece}
    (isToken : piece.IsToken) : Text.starred piece.chars = piece.starred.chars := by
  by_cases caret : piece = .connective .caret
  · subst caret
    rfl
  · have absent : '^' ∉ piece.chars := by
      intro present
      rcases isToken.mem_chars present with word | mark | ⟨-, same⟩
      · exact absurd word (by decide)
      · exact absurd mark (by decide)
      · exact caret same
    have same : piece.starred = piece := by
      cases piece with
      | connective mark =>
          cases mark
          case caret => exact absurd rfl caret
          all_goals rfl
      | _ => rfl
    rw [same, Text.starred_eq_self absent]

/-- Stars for carets keep the gaps between the pieces. -/
theorem Spaced.starred
    {depth : Nat}
    {pieces : List Piece}
    {text : List Char}
    (spaced : Spaced IsSourceGap depth pieces text)
    (tokens : ∀ piece ∈ pieces, piece.IsToken) :
    Spaced IsSourceGap depth (pieces.map Piece.starred) (Text.starred text) := by
  induction spaced with
  | nil => exact .nil
  | gap blank _ inductionHypothesis =>
      rw [Text.starred_cons_of_ne]
      · exact .gap blank (inductionHypothesis tokens)
      · rintro rfl
        rcases blank with blank | ⟨-, same | same⟩
        · exact absurd blank (by decide)
        · exact absurd same (by decide)
        · exact absurd same (by decide)
  | @piece depth piece _ _ _ inductionHypothesis =>
      obtain ⟨isToken, tokensBehind⟩ := List.forall_mem_cons.mp tokens
      rw [Text.starred_append, isToken.starred_chars, List.map_cons]
      have behind := inductionHypothesis tokensBehind
      rw [← Piece.depthAfter_starred] at behind
      exact .piece behind

/-- The text with two stars for each caret spells the formula with stars, if its operands
are still grouped. -/
theorem Formula.Spells.starred
    {formula : Formula}
    {text : String}
    (spells : formula.Spells text)
    (grouped : formula.starred.IsGrouped) :
    formula.starred.Spells (String.ofList (Text.starred text.toList)) where
  grouped
  tokens := by
    rw [formula.pieces_starred]
    exact List.forall_mem_map.mpr fun piece among => (spells.tokens piece among).starred
  shallow := by
    rw [formula.pieces_starred, Piece.height_map_starred]
    exact spells.shallow
  spaced := by
    rw [formula.pieces_starred, String.toList_ofList, ← Text.starred_trim]
    exact spells.spaced.starred spells.tokens

/-- A text of the pieces of the formula with stars and parentheses spells that formula. -/
theorem Formula.Spells.explicit
    {formula : Formula}
    {text written : String}
    (spells : formula.Spells text)
    (shallow : Piece.height 0 formula.explicit.pieces ≤ Token.bracketLimit)
    (spaced : Spaced IsSourceGap 0 formula.explicit.pieces (Text.trim written.toList)) :
    formula.explicit.Spells written :=
  ⟨formula.isGrouped_explicit spells.grouped, formula.tokens_explicit spells.tokens, shallow,
    spaced⟩

namespace Evaluator

/-- Two outcomes that are the same wherever a fault shows. -/
def SameOutcome (first second : Except Obstacle Value) : Prop :=
  Obstacle.relocated (fun _ => 0) first = Obstacle.relocated (fun _ => 0) second

/-- A caret is a power between the operands that it takes by its precedence: stars take its
place where the operands stay grouped, and everywhere if the operands are put into
parentheses. -/
theorem evaluate_caret
    (evaluator : Evaluator)
    (given : Table Quantity)
    {formula : Formula}
    {text : String}
    (spells : formula.Spells text) :
    (formula.starred.IsGrouped ->
      SameOutcome (evaluator.evaluate given (String.ofList (Text.starred text.toList)))
        (evaluator.evaluate given text)) ∧
    ∀ written : String, Piece.height 0 formula.explicit.pieces ≤ Token.bracketLimit ->
      Spaced IsSourceGap 0 formula.explicit.pieces (Text.trim written.toList) ->
      SameOutcome (evaluator.evaluate given written) (evaluator.evaluate given text) := by
  constructor
  · intro grouped
    rw [SameOutcome, (spells.starred grouped).relocated_evaluate, spells.relocated_evaluate,
      formula.bare_starred]
  · intro written shallow spaced
    rw [SameOutcome, (spells.explicit shallow spaced).relocated_evaluate,
      spells.relocated_evaluate, formula.bare_explicit]

/-- The square of a function with a caret. -/
def squared : Formula :=
  .joined .caret (.call ['s', 'i', 'n'] [.word ['x'] []]) (.literal ['2', '.'])

theorem evaluate_squared :
    SameOutcome (({} : Evaluator).evaluate [("x", .integer 3)] "sin(x)**2.")
        (({} : Evaluator).evaluate [("x", .integer 3)] "sin(x)^2.") ∧
      SameOutcome (({} : Evaluator).evaluate [("x", .integer 3)] "( sin(x)) ** (2.)")
        (({} : Evaluator).evaluate [("x", .integer 3)] "sin(x)^2.") := by
  have tokens : ∀ piece ∈ squared.pieces, piece.IsToken := by
    simp only [squared, Formula.pieces, Formula.piecesAmong, Formula.piecesBehind,
      List.append_nil, List.cons_append, List.nil_append, List.forall_mem_cons]
    exact ⟨⟨by decide, rfl⟩, trivial, ⟨by decide, rfl⟩, trivial, trivial, ⟨.inl rfl, by decide⟩,
      List.forall_mem_nil _⟩
  have spells : squared.Spells "sin(x)^2." := {
    grouped := ⟨by decide, ⟨trivial, trivial⟩, trivial⟩
    tokens
    shallow := by decide
    spaced := .piece (.piece (.piece (.piece (.piece (.piece .nil))))) }
  have powers := evaluate_caret {} [("x", .integer 3)] spells
  refine ⟨powers.1 ⟨by decide, ⟨trivial, trivial⟩, trivial⟩, ?_⟩
  refine powers.2 "( sin(x)) ** (2.)" (by decide) ?_
  refine .piece (.gap (.inl rfl) (.piece (.piece (.piece (.piece (.piece (.gap (.inl rfl) ?_)))))))
  exact .piece (.gap (.inl rfl) (.piece (.piece (.piece .nil))))

/-- A remainder is the left operand of a caret, but of two stars it is none. -/
theorem evaluate_remainder_before_caret :
    ¬SameOutcome
      (({} : Evaluator).evaluate [] (String.ofList (Text.starred "1 % 0 ^ 2".toList)))
      (({} : Evaluator).evaluate [] "1 % 0 ^ 2") := by
  have stops : ({} : Evaluator).evaluate [] "1 % 0 ^ 2" = .error .divisionByZero := by
    decide +kernel
  have goesOn : (Obstacle.relocated (fun _ => 0)
      (({} : Evaluator).evaluate [] (String.ofList (Text.starred "1 % 0 ^ 2".toList)))).isOk =
        true := by
    decide +kernel
  intro same
  rw [same, stops] at goesOn
  cases goesOn

end Evaluator
end ShaderGraph
