import ShaderGraph.Proofs.Expression.Precedence
import ShaderGraph.Proofs.Expression.Reader

/-!
# Formulas as the grammar reads them

A grouped formula is read from its tokens as the tree that it is, whatever may stand behind
it. The reader of operators knows its left operand only, so it is told what to do behind the
formula, and what it makes of that is what it makes of the whole.
-/

namespace ShaderGraph

namespace Reader

open Expression

/-- The tokens of pieces with their numbers, and the end behind them. -/
def marksOf (number : Nat) (pieces : List Piece) : List Mark :=
  marksFrom number (pieces.map Piece.kind ++ [.stop])

section Runs

variable {number : Nat} {pieces : List Piece} {kind : TokenKind}

/-- No kind that formulas do not write comes next in their pieces. -/
theorem nextKind_ne (foreign : kind.isWritten = false) :
    nextKind (marksOf number pieces) ≠ kind := by
  rintro rfl
  cases pieces with
  | nil => cases foreign
  | cons piece _ => exact Bool.false_ne_true (foreign.symm.trans piece.isWritten_kind)

theorem run_here_marksOf {next : Nat -> Reader Result} :
    (here >>= next).run (marksOf number pieces) = (next number).run (marksOf number pieces) := by
  cases pieces <;> rfl

variable {next : Bool -> Reader Result}

/-- Another kind than that of the next piece is not accepted. -/
theorem run_accept_cons_of_ne
    {piece : Piece}
    (other : piece.kind ≠ kind) :
    (accept kind >>= next).run (marksOf number (piece :: pieces)) =
      (next false).run (marksOf number (piece :: pieces)) :=
  run_accept_of_ne other

/-- The kind of the next piece is accepted. -/
theorem run_accept_cons
    {piece : Piece}
    (same : piece.kind = kind) :
    (accept kind >>= next).run (marksOf number (piece :: pieces)) =
      (next true).run (marksOf (number + 1) pieces) :=
  run_accept_of_eq same

/-- No comprehension starts in the pieces of a formula. -/
theorem run_isComprehension_marksOf :
    (isComprehension >>= next).run (marksOf number pieces) =
      (next false).run (marksOf number pieces) :=
  run_isComprehension_of_ne (nextKind_ne rfl) (nextKind_ne rfl)

/-- No comparison sign comes next in the pieces of a formula. -/
theorem run_comparison?_marksOf :
    (Grammar.comparison? >>= next).run (marksOf number pieces) =
      (next false).run (marksOf number pieces) := by
  have foreign : ∀ kind ∈ comparisons, kind.isWritten = false := by decide
  exact run_comparison?_of_not_mem fun present => nextKind_ne (foreign _ present) rfl

end Runs

end Reader

/-! ## Operands -/

namespace Formula

open Reader Grammar

/-- A reader takes a formula from tokens in front of pieces that follow an operand of some
level. Sixteen nested calls for each piece are enough, and a reader that is nearer to the
atoms of the grammar can spare more of them. -/
def IsReadBy
    (formula : Formula)
    (reader : Nat -> Reader Expression)
    (level spare : Nat) : Prop :=
  ∀ fuel number rest, Follow level rest -> 16 * formula.pieces.length ≤ fuel + spare ->
    (reader fuel).run (marksOf number (formula.pieces ++ rest)) =
      .ok (formula.tree number, marksOf (number + formula.pieces.length) rest)

/-- Whatever is made of a formula as the first operand, the reader of operators makes it of
the tokens. -/
def IsOperand (formula : Formula) : Prop :=
  ∀ least fuel bound number rest outcome, least ≤ formula.level ->
    Follow (min formula.level 7) rest ->
    (∀ more, bound ≤ more ->
      (operationAfter more least number (formula.tree number)).run
        (marksOf (number + formula.pieces.length) rest) = outcome) ->
    bound + 16 * formula.pieces.length ≤ fuel + 8 ->
    (operation fuel least).run (marksOf number (formula.pieces ++ rest)) = outcome

/-- The readers of operands take a formula of their level. -/
structure IsRead (formula : Formula) : Prop where
  primary : 8 ≤ formula.level -> formula.IsReadBy Grammar.primary 8 12
  factor : 7 ≤ formula.level -> formula.IsReadBy Grammar.factor 7 10
  operand : formula.IsOperand

/-- Every formula is written in some pieces. -/
theorem length_pieces_pos (formula : Formula) : 0 < formula.pieces.length := by
  obtain ⟨first, rest, same, -⟩ := formula.exists_pieces_cons
  rw [same]
  exact Nat.succ_pos _

/-- No operator of a higher level is read behind an operand. -/
theorem operationAfter_follow
    {level least fuel column number : Nat}
    {left : Expression}
    {rest : List Piece}
    (follow : Follow level rest)
    (below : level < least)
    (enough : 0 < fuel) :
    (operationAfter fuel least column left).run (marksOf number rest) =
      .ok (left, marksOf number rest) := by
  obtain ⟨fuel, rfl⟩ : ∃ more, fuel = more + 1 := ⟨fuel - 1, by omega⟩
  rw [operationAfter, run_peek_bind, kind_getD_head?]
  cases rest with
  | nil => rfl
  | cons next rest =>
      have follows := follow next rfl
      cases next with
      | connective mark =>
          have weak : mark.leftLevel ≤ level := of_decide_eq_true follows
          cases mark
          case stars => rfl
          all_goals exact congrFun (if_pos (Nat.lt_of_le_of_lt weak below)) _
      | closing => rfl
      | comma => rfl
      | _ => cases follows

/-- An operator of a level that is read takes its right operand and goes on. -/
theorem operationAfter_connective
    {mark : Connective}
    (infixed : mark ≠ .stars)
    {least fuel column number : Nat}
    (above : least ≤ mark.level)
    {left : Expression}
    {rest : List Piece} :
    (operationAfter (fuel + 1) least column left).run (marksOf number (.connective mark :: rest)) =
      (operation fuel (mark.level + 1) >>= fun right =>
        operationAfter fuel least column (.binary column mark.operator left right)).run
          (marksOf (number + 1) rest) := by
  rw [operationAfter, run_peek_bind, kind_getD_head?]
  cases mark
  case stars => exact absurd rfl infixed
  all_goals exact congrFun (if_neg (Nat.not_lt.mpr above)) _

/-! ## Signs and powers -/

/-- Behind an operand nothing more is selected or called. -/
theorem trailers_follow
    {level fuel column number : Nat}
    {value : Expression}
    {rest : List Piece}
    (follow : Follow level rest)
    (enough : 0 < fuel) :
    (trailers fuel column value).run (marksOf number rest) = .ok (value, marksOf number rest) := by
  obtain ⟨fuel, rfl⟩ : ∃ more, fuel = more + 1 := ⟨fuel - 1, by omega⟩
  have noCall : nextKind (marksOf number rest) ≠ .symbol "(" := by
    cases rest with
    | nil => exact TokenKind.noConfusion
    | cons next rest => exact Piece.kind_ne_opening_of_follows (follow next rfl)
  rw [trailers, run_accept_of_ne (nextKind_ne rfl), if_neg Bool.false_ne_true,
    run_isNext_of_ne noCall, if_neg Bool.false_ne_true, run_accept_of_ne (nextKind_ne rfl)]
  rfl

/-- An operand that is no power and has no sign starts with no sign. -/
theorem exists_pieces_cons_of_level
    {formula : Formula}
    (primary : 8 ≤ formula.level) :
    ∃ first rest, formula.pieces = first :: rest ∧ ∀ mark ∈ ["+", "-"],
      first.kind ≠ .symbol mark := by
  cases formula with
  | literal => exact ⟨_, _, rfl, by simp [Piece.kind]⟩
  | word => exact ⟨_, _, rfl, by simp [Piece.kind]⟩
  | group => exact ⟨_, _, rfl, by decide⟩
  | call => exact ⟨_, _, rfl, by simp [Piece.kind]⟩
  | signed => exact absurd primary (by simp [level])
  | joined connective => exact absurd (Nat.le_trans primary connective.level_le) (by decide)

/-- No operand is waited for. -/
theorem awaited_succ
    {fuel number : Nat}
    {pieces : List Piece} :
    (awaited (fuel + 1)).run (marksOf number pieces) =
      (Grammar.primary fuel).run (marksOf number pieces) := by
  rw [awaited, run_here_marksOf, run_accept_of_ne (nextKind_ne rfl), if_neg Bool.false_ne_true]

/-- Every formula has a rank. -/
theorem level_pos (formula : Formula) : 0 < formula.level := by
  cases formula with
  | joined connective => exact connective.level_pos
  | signed => exact Nat.succ_pos 6
  | _ => exact Nat.succ_pos 7

variable {formula : Formula}

/-- In front of an operand that starts with no sign, the reader of factors reads a primary,
and with it the power that it is the base of. -/
theorem factor_base
    (primary : 8 ≤ formula.level)
    (reads : formula.IsReadBy Grammar.primary 8 12)
    {fuel number : Nat}
    {rest : List Piece}
    (follow : Follow 8 rest)
    (enough : 16 * formula.pieces.length ≤ fuel + 11) :
    (factor (fuel + 1)).run (marksOf number (formula.pieces ++ rest)) =
      (accept (.symbol "**") >>= fun isPower =>
        if isPower = true then do
          let exponent ← factor fuel
          return .binary number .power (formula.tree number) exponent
        else pure (formula.tree number)).run
          (marksOf (number + formula.pieces.length) rest) := by
  have positive := formula.length_pieces_pos
  obtain ⟨fuel, rfl⟩ : ∃ more, fuel = more + 1 := ⟨fuel - 1, by omega⟩
  have taken := reads fuel number rest follow (by omega)
  obtain ⟨first, more, same, noSign⟩ := exists_pieces_cons_of_level primary
  rw [same, List.cons_append] at taken ⊢
  rw [factor, run_here_marksOf, run_accept_cons_of_ne (noSign "+" (by decide)),
    if_neg Bool.false_ne_true, run_accept_cons_of_ne (noSign "-" (by decide)),
    if_neg Bool.false_ne_true, run_accept_of_ne (nextKind_ne rfl), if_neg Bool.false_ne_true]
  exact run_bind (awaited_succ.trans taken)

/-- A formula that is read as a primary is read as a factor. -/
theorem isReadBy_factor_of_primary
    (primary : 8 ≤ formula.level)
    (reads : formula.IsReadBy Grammar.primary 8 12) :
    formula.IsReadBy factor 7 10 := by
  intro fuel number rest follow enough
  have positive := formula.length_pieces_pos
  obtain ⟨fuel, rfl⟩ : ∃ more, fuel = more + 1 := ⟨fuel - 1, by omega⟩
  rw [factor_base primary reads (follow.mono (by decide)) (by omega)]
  have noPower : nextKind (marksOf (number + formula.pieces.length) rest) ≠ .symbol "**" := by
    cases rest with
    | nil => exact TokenKind.noConfusion
    | cons next rest => exact Piece.kind_ne_stars_of_follows (follow next rfl)
  rw [run_accept_of_ne noPower]
  rfl

/-- A sign and a factor behind it are read as a factor. -/
theorem isReadBy_factor_signed
    {operand : Formula}
    (negative : Bool)
    (reads : operand.IsReadBy factor 7 10) :
    (signed negative operand).IsReadBy factor 7 10 := by
  intro fuel number rest follow enough
  rw [pieces, List.length_cons] at enough
  obtain ⟨fuel, rfl⟩ : ∃ more, fuel = more + 1 := ⟨fuel - 1, by omega⟩
  have taken := reads fuel (number + 1) rest follow (by omega)
  rw [pieces, List.cons_append, factor, run_here_marksOf, List.length_cons, tree]
  have behind : number + 1 + operand.pieces.length = number + (operand.pieces.length + 1) := by
    omega
  rw [behind] at taken
  cases negative
  case false =>
    rw [run_accept_cons (by rfl), if_pos rfl]
    exact run_bind taken
  case true =>
    rw [run_accept_cons_of_ne (by decide), if_neg Bool.false_ne_true, run_accept_cons (by rfl),
      if_pos rfl]
    exact run_bind taken

/-- A primary with an exponent is read as a factor. -/
theorem isReadBy_factor_stars
    {left right : Formula}
    (base : 8 ≤ left.level)
    (readsBase : left.IsReadBy Grammar.primary 8 12)
    (readsExponent : right.IsReadBy factor 7 10) :
    (joined .stars left right).IsReadBy factor 7 10 := by
  intro fuel number rest follow enough
  rw [pieces, List.length_append, List.length_cons] at enough
  have positive := left.length_pieces_pos
  obtain ⟨fuel, rfl⟩ : ∃ more, fuel = more + 1 := ⟨fuel - 1, by omega⟩
  have taken := readsExponent fuel (number + left.pieces.length + 1) rest follow (by omega)
  rw [pieces_joined_append, factor_base base readsBase (by rintro _ ⟨⟩; rfl) (by omega),
    run_accept_cons (by rfl), if_pos rfl, pieces, List.length_append, List.length_cons, tree]
  have behind : number + left.pieces.length + 1 + right.pieces.length =
    number + (left.pieces.length + (right.pieces.length + 1)) := by omega
  rw [behind] at taken
  exact run_bind taken

/-! ## Operators -/

/-- A factor is an operand of every operation. -/
theorem isOperand_of_factor (reads : formula.IsReadBy factor 7 10) : formula.IsOperand := by
  intro least fuel bound number rest outcome _ follow makes enough
  have positive := formula.length_pieces_pos
  obtain ⟨fuel, rfl⟩ : ∃ more, fuel = more + 1 := ⟨fuel - 1, by omega⟩
  rw [operation, run_here_marksOf,
    run_bind (reads fuel number rest (follow.mono (Nat.min_le_right _ _)) (by omega))]
  exact makes fuel (by omega)

/-- Behind an operator of some level its right operand ends where an operator of that level
may follow. -/
theorem IsOperand.run_operation
    (isOperand : formula.IsOperand)
    {level least : Nat}
    (fuel number : Nat)
    {rest : List Piece}
    (above : least ≤ formula.level)
    (below : level < least)
    (small : level ≤ 7)
    (follow : Follow level rest)
    (enough : 16 * formula.pieces.length ≤ fuel + 7) :
    (operation fuel least).run (marksOf number (formula.pieces ++ rest)) =
      .ok (formula.tree number, marksOf (number + formula.pieces.length) rest) := by
  refine isOperand least fuel 1 number rest _ above (follow.mono (by omega)) ?_ (by omega)
  exact fun more positive => operationAfter_follow follow below positive

/-- What is made of a joined formula is made of its left operand: behind that the reader of
operators takes the right one and goes on. -/
theorem isOperand_joined
    {connective : Connective}
    {left right : Formula}
    (infixed : connective ≠ .stars)
    (leftLevel : connective.leftLevel ≤ left.level)
    (rightLevel : connective.rightLevel ≤ right.level)
    (isLeft : left.IsOperand)
    (isRight : right.IsOperand) : (joined connective left right).IsOperand := by
  intro least fuel bound number rest outcome above follow makes enough
  obtain ⟨sameLeft, sameRight, small⟩ := Connective.levels_of_ne_stars infixed
  rw [level] at above follow
  rw [sameLeft] at leftLevel
  rw [sameRight] at rightLevel
  rw [pieces, List.length_append, List.length_cons] at makes enough
  rw [pieces_joined_append]
  have positive := right.length_pieces_pos
  refine isLeft least fuel (bound + 16 * right.pieces.length) number _ outcome (by omega) ?_ ?_
    (by omega)
  · rintro _ ⟨⟩
    exact decide_eq_true (by omega)
  · intro more large
    obtain ⟨more, rfl⟩ : ∃ less, more = less + 1 := ⟨more - 1, by omega⟩
    have taken := isRight.run_operation more (number + left.pieces.length + 1) rightLevel
      (Nat.lt_succ_self _) (by omega) (follow.mono (Nat.min_le_left _ _)) (by omega)
    rw [operationAfter_connective infixed above, run_bind taken]
    have behind := makes more (by omega)
    rw [tree] at behind
    rwa [show number + left.pieces.length + 1 + right.pieces.length =
      number + (left.pieces.length + (right.pieces.length + 1)) by omega]

/-! ## Expressions -/

/-- An operand is read as a list of operands if no further one follows. -/
theorem run_operands
    {first : Reader Expression}
    {others : Reader (List Expression)}
    {operand : Expression}
    {marks rest : List Mark}
    (column : Nat)
    (form : Form)
    (taken : first.run marks = .ok (operand, rest))
    (ends : others.run rest = .ok ([], rest)) :
    (first >>= fun operand => others >>= fun operands =>
      if operands.isEmpty = true then pure operand
      else pure (.other column form (operand :: operands))).run marks = .ok (operand, rest) := by
  rw [run_bind taken, run_bind ends]
  rfl

/-- An operand is read where a comparison may stand. -/
theorem isReadBy_inversion (isOperand : formula.IsOperand) :
    formula.IsReadBy inversion 0 6 := by
  intro fuel number rest follow enough
  have positive := formula.length_pieces_pos
  obtain ⟨fuel, rfl⟩ : ∃ more, fuel = more + 2 := ⟨fuel - 2, by omega⟩
  rw [inversion, run_here_marksOf, run_accept_of_ne (nextKind_ne rfl), if_neg Bool.false_ne_true]
  refine run_operands _ _ (isOperand.run_operation _ _ formula.level_pos Nat.one_pos (by decide)
    follow (by omega)) ?_
  rw [compared, run_comparison?_marksOf]
  rfl

/-- What is read as a comparison is read as a conjunction. -/
theorem isReadBy_conjunction (reads : formula.IsReadBy inversion 0 6) :
    formula.IsReadBy conjunction 0 5 := by
  intro fuel number rest follow enough
  have positive := formula.length_pieces_pos
  obtain ⟨fuel, rfl⟩ : ∃ more, fuel = more + 2 := ⟨fuel - 2, by omega⟩
  rw [conjunction, run_here_marksOf]
  refine run_operands _ _ (reads _ _ _ follow (by omega)) ?_
  rw [conjuncts, run_accept_of_ne (nextKind_ne rfl)]
  rfl

/-- What is read as a conjunction is read as a disjunction. -/
theorem isReadBy_disjunction (reads : formula.IsReadBy conjunction 0 5) :
    formula.IsReadBy disjunction 0 4 := by
  intro fuel number rest follow enough
  have positive := formula.length_pieces_pos
  obtain ⟨fuel, rfl⟩ : ∃ more, fuel = more + 2 := ⟨fuel - 2, by omega⟩
  rw [disjunction, run_here_marksOf]
  refine run_operands _ _ (reads _ _ _ follow (by omega)) ?_
  rw [disjuncts, run_accept_of_ne (nextKind_ne rfl)]
  rfl

/-- What is read as a disjunction is read as an expression. -/
theorem isReadBy_expression (reads : formula.IsReadBy disjunction 0 4) :
    formula.IsReadBy expression 0 3 := by
  intro fuel number rest follow enough
  have positive := formula.length_pieces_pos
  obtain ⟨fuel, rfl⟩ : ∃ more, fuel = more + 1 := ⟨fuel - 1, by omega⟩
  rw [expression, run_here_marksOf, run_accept_of_ne (nextKind_ne rfl), if_neg Bool.false_ne_true,
    run_bind (reads _ _ _ follow (by omega)), run_accept_of_ne (nextKind_ne rfl)]
  rfl

theorem isReadBy_namedExpression (reads : formula.IsReadBy expression 0 3) :
    formula.IsReadBy namedExpression 0 2 := by
  intro fuel number rest follow enough
  have positive := formula.length_pieces_pos
  obtain ⟨fuel, rfl⟩ : ∃ more, fuel = more + 1 := ⟨fuel - 1, by omega⟩
  have taken := reads fuel number rest follow (by omega)
  obtain ⟨first, more, same, -⟩ := formula.exists_pieces_cons
  rw [same, List.cons_append] at taken ⊢
  rw [namedExpression, run_here_marksOf, run_peek_bind, kind_getD_head?]
  split
  · have noNaming : nextKind (marksOf (number + 1) (more ++ rest)) ≠ .symbol ":=" :=
      nextKind_ne rfl
    rw [run_peekSecond_bind, kind_getD_head?]
    exact (congrFun (if_neg noNaming) _).trans taken
  · exact taken

theorem isReadBy_starredOrNamed (reads : formula.IsReadBy namedExpression 0 2) :
    formula.IsReadBy starredOrNamed 0 1 := by
  intro fuel number rest follow enough
  have positive := formula.length_pieces_pos
  obtain ⟨fuel, rfl⟩ : ∃ more, fuel = more + 1 := ⟨fuel - 1, by omega⟩
  have taken := reads fuel number rest follow (by omega)
  obtain ⟨first, more, same, starts⟩ := formula.exists_pieces_cons
  rw [same, List.cons_append] at taken ⊢
  rw [starredOrNamed, run_here_marksOf,
    run_accept_cons_of_ne (Piece.kind_ne_of_starts starts (by decide)),
    if_neg Bool.false_ne_true]
  exact taken

/-! ## Operands in parentheses -/

/-- A number is read as a primary. -/
theorem isReadBy_primary_literal (text : List Char) :
    (literal text).IsReadBy Grammar.primary 8 12 := by
  intro fuel number rest follow enough
  rw [pieces, List.length_singleton] at enough
  obtain ⟨fuel, rfl⟩ : ∃ more, fuel = more + 2 := ⟨fuel - 2, by omega⟩
  have taken : (atom (fuel + 1)).run (marksOf number (.literal text :: rest)) =
      .ok (.number number (Piece.numeral text), marksOf (number + 1) rest) := by
    rw [atom, run_here_marksOf, run_peek_bind]
    rfl
  rw [Grammar.primary, pieces, List.singleton_append, run_here_marksOf, run_bind taken,
    trailers_follow follow (Nat.succ_pos _)]
  rfl

/-- A word is read as a name. -/
theorem run_atom_word
    {name selection : List Char}
    {fuel number : Nat}
    {rest : List Piece} :
    (atom (fuel + 1)).run (marksOf number (.word name selection :: rest)) =
      .ok (.name number (Piece.identifier name), marksOf (number + 1) rest) := by
  rw [atom, run_here_marksOf, run_peek_bind]
  rfl

/-- A word is read as a primary. -/
theorem isReadBy_primary_word (name selection : List Char) :
    (word name selection).IsReadBy Grammar.primary 8 12 := by
  intro fuel number rest follow enough
  rw [pieces, List.length_singleton] at enough
  obtain ⟨fuel, rfl⟩ : ∃ more, fuel = more + 2 := ⟨fuel - 2, by omega⟩
  rw [Grammar.primary, pieces, List.singleton_append, run_here_marksOf, run_bind run_atom_word,
    trailers_follow follow (Nat.succ_pos _)]
  rfl

/-- No formula is read as something unpacked. -/
theorem isStarred_tree (formula : Formula) (number : Nat) :
    isStarred (formula.tree number) = false := by
  cases formula with
  | group inner => exact isStarred_tree inner (number + 1)
  | _ => rfl

/-- A formula in parentheses is read as a primary. -/
theorem isReadBy_primary_group (reads : formula.IsReadBy starredOrNamed 0 1) :
    (group formula).IsReadBy Grammar.primary 8 12 := by
  intro fuel number rest follow enough
  rw [pieces, List.length_cons, List.length_append, List.length_singleton] at enough
  obtain ⟨fuel, rfl⟩ : ∃ more, fuel = more + 3 := ⟨fuel - 3, by omega⟩
  have inner := reads fuel (number + 1) (.closing :: rest) (by rintro _ ⟨⟩; rfl) (by omega)
  have taken : (atom (fuel + 2)).run
      (marksOf number (.opening :: (formula.pieces ++ .closing :: rest))) =
      .ok (formula.tree (number + 1), marksOf (number + 1 + formula.pieces.length + 1) rest) := by
    rw [atom, run_here_marksOf, run_peek_bind]
    change (parenthesis (fuel + 1) number).run
      (marksOf (number + 1) (formula.pieces ++ .closing :: rest)) = _
    obtain ⟨first, more, same, starts⟩ := formula.exists_pieces_cons
    rw [same, List.cons_append] at inner ⊢
    rw [parenthesis, run_accept_cons_of_ne (Piece.kind_ne_of_starts starts (by decide)),
      if_neg Bool.false_ne_true, run_isNext_of_ne (nextKind_ne rfl), if_neg Bool.false_ne_true,
      run_bind inner, isStarred_tree, run_isComprehension_marksOf]
    rfl
  rw [Grammar.primary, pieces_group_append, run_here_marksOf, run_bind taken,
    trailers_follow follow (Nat.succ_pos _), tree, pieces, List.length_cons, List.length_append,
    List.length_singleton]
  have behind : number + 1 + formula.pieces.length + 1 =
    number + (formula.pieces.length + 1 + 1) := by omega
  rw [behind]

/-! ## Arguments -/

/-- A comma or the closing parenthesis follows each argument. -/
theorem follow_piecesBehind (arguments : List Formula) (rest : List Piece) :
    Follow 0 (piecesBehind arguments ++ .closing :: rest) := by
  cases arguments <;> rintro _ ⟨⟩ <;> rfl

/-- An argument is read in front of what is read behind it. -/
theorem run_arguments_cons
    (reads : formula.IsReadBy namedExpression 0 2)
    {fuel number : Nat}
    (opening : Nat)
    (isFirst : Bool)
    {behind : List Piece}
    {others : List Expression}
    {marks : List Mark}
    (follow : Follow 0 behind)
    (enough : 16 * formula.pieces.length ≤ fuel + 2)
    (after : (argumentsAfter fuel opening false false).run
      (marksOf (number + formula.pieces.length) behind) = .ok ((others, false), marks)) :
    (arguments (fuel + 2) opening isFirst false false).run
        (marksOf number (formula.pieces ++ behind)) =
      .ok ((formula.tree number :: others, false), marks) := by
  have taken := reads fuel number behind follow enough
  have positional : (positionalArgument (fuel + 1) opening isFirst false false).run
      (marksOf number (formula.pieces ++ behind)) =
        .ok ((formula.tree number :: others, false), marks) := by
    rw [positionalArgument, if_neg Bool.false_ne_true, run_bind taken, run_isComprehension_marksOf,
      Bool.and_false, if_neg Bool.false_ne_true, run_bind after]
    rfl
  obtain ⟨first, more, same, starts⟩ := formula.exists_pieces_cons
  have noStar (mark : String) (other : mark ∉ ["+", "-", "("]) :=
    Piece.kind_ne_of_starts starts other
  rw [same, List.cons_append] at positional ⊢
  rw [arguments, run_accept_cons_of_ne (noStar ")" (by decide)), if_neg Bool.false_ne_true,
    run_here_marksOf, run_peek_bind, kind_getD_head?]
  split
  case h_1 star => exact absurd star (noStar "*" (by decide))
  case h_2 stars => exact absurd stars (noStar "**" (by decide))
  case h_3 =>
    have noValue : nextKind (marksOf (number + 1) (more ++ behind)) ≠ .symbol "=" :=
      nextKind_ne rfl
    rw [run_peekSecond_bind, kind_getD_head?]
    exact (congrFun (if_neg noValue) _).trans positional
  case h_4 => exact positional

/-- By induction on the arguments: each of them is read behind a comma, up to the closing
parenthesis. -/
theorem run_argumentsAfter
    (arguments : List Formula)
    (reads : ∀ argument ∈ arguments, argument.IsReadBy namedExpression 0 2)
    (opening : Nat)
    (rest : List Piece)
    (fuel number : Nat)
    (enough : 16 * (piecesBehind arguments).length + 2 ≤ fuel) :
    (argumentsAfter fuel opening false false).run
        (marksOf number (piecesBehind arguments ++ .closing :: rest)) =
      .ok ((trees (number + 1) arguments, false),
        marksOf (number + (piecesBehind arguments).length + 1) rest) := by
  obtain ⟨fuel, rfl⟩ : ∃ more, fuel = more + 1 := ⟨fuel - 1, by omega⟩
  induction arguments generalizing fuel number with
  | nil =>
      rw [piecesBehind, trees, List.nil_append, argumentsAfter, run_accept_cons_of_ne (by decide)]
      rfl
  | cons first others inductionHypothesis =>
      obtain ⟨readsFirst, readsOthers⟩ := List.forall_mem_cons.mp reads
      rw [piecesBehind, List.length_cons, List.length_append] at enough ⊢
      obtain ⟨fuel, rfl⟩ : ∃ more, fuel = more + 3 := ⟨fuel - 3, by omega⟩
      have after := inductionHypothesis readsOthers (number + 1 + first.pieces.length) fuel
        (by omega)
      have behind : number + 1 + first.pieces.length + (piecesBehind others).length + 1 =
        number + (first.pieces.length + (piecesBehind others).length + 1) + 1 := by omega
      rw [behind] at after
      rw [List.cons_append, List.append_assoc, argumentsAfter, run_accept_cons (by rfl), if_pos rfl]
      exact run_arguments_cons readsFirst opening false (follow_piecesBehind others rest) (by omega)
        after

/-- The arguments of a call are read one by one up to the closing parenthesis. -/
theorem run_arguments
    (arguments : List Formula)
    (reads : ∀ argument ∈ arguments, argument.IsReadBy namedExpression 0 2)
    (opening : Nat)
    (rest : List Piece)
    (fuel number : Nat)
    (enough : 16 * (piecesAmong arguments).length + 4 ≤ fuel) :
    (Grammar.arguments fuel opening true false false).run
        (marksOf number (piecesAmong arguments ++ .closing :: rest)) =
      .ok ((trees number arguments, false),
        marksOf (number + (piecesAmong arguments).length + 1) rest) := by
  obtain ⟨fuel, rfl⟩ : ∃ more, fuel = more + 2 := ⟨fuel - 2, by omega⟩
  cases arguments with
  | nil =>
      rw [piecesAmong, trees, List.nil_append, Grammar.arguments, run_accept_cons (by rfl)]
      rfl
  | cons first others =>
      obtain ⟨readsFirst, readsOthers⟩ := List.forall_mem_cons.mp reads
      rw [piecesAmong, List.length_append] at enough ⊢
      have after := run_argumentsAfter others readsOthers opening rest fuel
        (number + first.pieces.length) (by omega)
      rw [Nat.add_assoc number first.pieces.length (piecesBehind others).length] at after
      rw [List.append_assoc]
      exact run_arguments_cons readsFirst opening true (follow_piecesBehind others rest) (by omega)
        after

/-- A call whose arguments are read is read as a primary. -/
theorem isReadBy_primary_call
    (name : List Char)
    (arguments : List Formula)
    (reads : ∀ argument ∈ arguments, argument.IsReadBy namedExpression 0 2) :
    (call name arguments).IsReadBy Grammar.primary 8 12 := by
  intro fuel number rest follow enough
  rw [pieces, List.length_cons, List.length_cons, List.length_append,
    List.length_singleton] at enough
  obtain ⟨fuel, rfl⟩ : ∃ more, fuel = more + 3 := ⟨fuel - 3, by omega⟩
  have taken := run_arguments arguments reads (number + 1) rest (fuel + 1) (number + 2) (by omega)
  rw [pieces_call_append, Grammar.primary, run_here_marksOf, run_bind run_atom_word, trailers,
    run_accept_of_ne (nextKind_ne rfl), if_neg Bool.false_ne_true]
  change (Grammar.arguments (fuel + 1) (number + 1) true false false >>= fun taken =>
    trailers (fuel + 1) number (.call number _ taken.1 taken.2)).run
      (marksOf (number + 2) (piecesAmong arguments ++ .closing :: rest)) = _
  rw [run_bind taken, trailers_follow follow (Nat.succ_pos _), pieces, List.length_cons,
    List.length_cons, List.length_append, List.length_singleton]
  have behind : number + 2 + (piecesAmong arguments).length + 1 =
    number + ((piecesAmong arguments).length + 1 + 1 + 1) := by omega
  rw [behind]
  rfl

/-! ## Formulas -/

namespace IsRead

theorem ofPrimary
    (level : 8 ≤ formula.level)
    (reads : formula.IsReadBy Grammar.primary 8 12) : formula.IsRead :=
  have factors := isReadBy_factor_of_primary level reads
  ⟨fun _ => reads, fun _ => factors, isOperand_of_factor factors⟩

theorem ofFactor
    (level : formula.level = 7)
    (reads : formula.IsReadBy Grammar.factor 7 10) : formula.IsRead :=
  ⟨fun primary => absurd (level ▸ primary) (by decide), fun _ => reads, isOperand_of_factor reads⟩

theorem expression (isRead : formula.IsRead) : formula.IsReadBy expression 0 3 :=
  isReadBy_expression (isReadBy_disjunction (isReadBy_conjunction
    (isReadBy_inversion isRead.operand)))

theorem namedExpression (isRead : formula.IsRead) : formula.IsReadBy namedExpression 0 2 :=
  isReadBy_namedExpression isRead.expression

end IsRead

mutual

/-- A grouped formula is read as an operand of its level, by recursion on the formula. -/
theorem isRead
    (formula : Formula)
    (grouped : formula.IsGrouped) : formula.IsRead := by
  cases formula with
  | literal text => exact .ofPrimary (Nat.le_refl 8) (isReadBy_primary_literal text)
  | word name selection => exact .ofPrimary (Nat.le_refl 8) (isReadBy_primary_word name selection)
  | group inner =>
      have reads := isReadBy_starredOrNamed (isRead inner grouped).namedExpression
      exact .ofPrimary (Nat.le_refl 8) (isReadBy_primary_group reads)
  | call name arguments =>
      have reads (argument : Formula) (present : argument ∈ arguments) :=
        (areRead arguments grouped argument present).namedExpression
      exact .ofPrimary (Nat.le_refl 8) (isReadBy_primary_call name arguments reads)
  | signed negative operand =>
      obtain ⟨level, groupedOperand⟩ := grouped
      have reads := (isRead operand groupedOperand).factor level
      exact .ofFactor rfl (isReadBy_factor_signed negative reads)
  | joined connective left right =>
      obtain ⟨⟨leftLevel, rightLevel⟩, groupedLeft, groupedRight⟩ := grouped
      have readsLeft := isRead left groupedLeft
      have readsRight := isRead right groupedRight
      by_cases stars : connective = .stars
      · subst stars
        exact .ofFactor rfl (isReadBy_factor_stars leftLevel (readsLeft.primary leftLevel)
          (readsRight.factor rightLevel))
      · have weak := (Connective.levels_of_ne_stars stars).2.2
        refine ⟨fun level => ?_, fun level => ?_, ?_⟩
        · exact absurd (Nat.le_trans level weak) (by decide)
        · exact absurd (Nat.le_trans level weak) (by decide)
        · exact isOperand_joined stars leftLevel rightLevel readsLeft.operand readsRight.operand

/-- The arguments of a call are read if each of them is grouped. -/
theorem areRead
    (arguments : List Formula)
    (grouped : AreGrouped arguments) : ∀ argument ∈ arguments, argument.IsRead := by
  cases arguments with
  | nil => exact List.forall_mem_nil _
  | cons first others =>
      exact List.forall_mem_cons.mpr ⟨isRead first grouped.1, areRead others grouped.2⟩

end

/-- A whole formula is read as its tree, and nothing is left. -/
theorem run_outermost
    (isRead : formula.IsRead)
    {bound : Nat}
    (enough : 16 * formula.pieces.length ≤ bound) :
    (outermost bound).run (marksOf 1 formula.pieces) = .ok (formula.tree 1, []) := by
  have positive := formula.length_pieces_pos
  have taken := isRead.expression bound 1 [] (by rintro _ ⟨⟩) (by omega)
  rw [List.append_nil] at taken
  obtain ⟨bound, rfl⟩ : ∃ more, bound = more + 1 := ⟨bound - 1, by omega⟩
  rw [outermost, run_here_marksOf, run_bind taken]
  rfl

/-- The tokens of a grouped formula are read as its tree. -/
theorem ofKinds_pieces
    (formula : Formula)
    (grouped : formula.IsGrouped) :
    Expression.ofKinds (formula.pieces.map Piece.kind ++ [.stop]) = .ok (formula.tree 1) := by
  have bound : 16 * formula.pieces.length ≤
      32 * ((formula.pieces.map Piece.kind ++ [TokenKind.stop]).length + 2) := by
    rw [List.length_append, List.length_map]
    omega
  have taken := run_outermost (formula.isRead grouped) bound
  rw [Expression.ofKinds, StateT.run']
  exact congrArg (Prod.fst <$> ·) taken

end Formula
end ShaderGraph
