import Mathlib.Data.List.Chain
import ShaderGraph.Proofs.Expression.Reader

/-!
# Names in arithmetic

The tokens of arithmetic are numbers, names, the marks of the four operations,
parentheses and commas. The grammar knows many more forms, but from such tokens it
reads nothing but arithmetic: an expression that is read from them mentions, in the
order of the text, every name that is not called, and no other one. Only names are
called, so a parenthesis does not follow another one that is closed.
-/

namespace ShaderGraph

/-- Whether a token can stand in arithmetic. -/
def TokenKind.isArithmetic : TokenKind -> Bool
  | .number _ => true
  | .identifier _ => true
  | .symbol mark => ["+", "-", "*", "/", "(", ")", ","].contains mark
  | .stop => true
  | _ => false

namespace Reader

/-! ## Tokens of arithmetic -/

/-- Whether the next token opens a parenthesis. -/
def opens (marks : List Mark) : Bool :=
  nextKind marks = .symbol "("

/-- The names that are not called, up to the end of the text. -/
def freeNames : List Mark -> List String
  | [] => []
  | mark :: rest =>
      match mark.kind with
      | .stop => []
      | .identifier name => if opens rest then freeNames rest else name :: freeNames rest
      | _ => freeNames rest

/-- Tokens of arithmetic, in which nothing is called that is in parentheses. -/
structure IsArithmetic (marks : List Mark) : Prop where
  kinds : ∀ mark ∈ marks, mark.kind.isArithmetic = true
  calls : marks.IsChain fun mark next => mark.kind = .symbol ")" -> next.kind ≠ .symbol "("

section Marks

variable {marks rest : List Mark} {names : List String}

/-- A mark of arithmetic stays one in front of others if it closes no parenthesis before a
call. -/
theorem IsArithmetic.cons
    {mark : Mark}
    (behind : IsArithmetic rest)
    (kind : mark.kind.isArithmetic = true)
    (closed : mark.kind = .symbol ")" -> opens rest = false) : IsArithmetic (mark :: rest) where
  kinds := List.forall_mem_cons.mpr ⟨kind, behind.kinds⟩
  calls := by
    refine List.isChain_cons.mpr ⟨fun next leads closes same => ?_, behind.calls⟩
    have opens : Reader.nextKind rest = .symbol "(" := by
      rw [Reader.nextKind, Option.mem_def.mp leads]
      exact same
    exact Bool.false_ne_true ((closed closes).symm.trans (decide_eq_true opens))

/-- The next mark of arithmetic is of its kinds. -/
theorem IsArithmetic.nextKind (arithmetic : IsArithmetic marks) :
    (nextKind marks).isArithmetic = true := by
  cases marks with
  | nil => rfl
  | cons mark rest => exact arithmetic.kinds mark List.mem_cons_self

theorem IsArithmetic.drop (arithmetic : IsArithmetic marks) : IsArithmetic (marks.drop 1) where
  kinds mark present := arithmetic.kinds mark (List.mem_of_mem_drop present)
  calls := arithmetic.calls.drop 1

/-- No foreign mark comes next in arithmetic. -/
theorem IsArithmetic.ne
    (arithmetic : IsArithmetic marks)
    {kind : TokenKind}
    (foreign : kind.isArithmetic = false) : Reader.nextKind marks ≠ kind := by
  rintro rfl
  rw [arithmetic.nextKind] at foreign
  cases foreign

/-- Behind a parenthesis that is closed nothing is called. -/
theorem IsArithmetic.opens_drop
    (arithmetic : IsArithmetic marks)
    (closes : Reader.nextKind marks = .symbol ")") : opens (marks.drop 1) = false := by
  rcases marks with _ | ⟨mark, _ | ⟨next, rest⟩⟩
  · rfl
  · rfl
  · have calls := (List.isChain_cons_cons.mp arithmetic.calls).1 closes
    exact decide_eq_false calls

/-- A symbol adds no name to the free ones. -/
theorem freeNames_of_symbol
    {mark : String}
    (isNext : nextKind marks = .symbol mark) : freeNames marks = freeNames (marks.drop 1) := by
  cases marks with
  | nil => cases isNext
  | cons next rest =>
      change next.kind = _ at isNext
      rw [freeNames, isNext]
      rfl

/-- A number adds no name to the free ones. -/
theorem freeNames_of_number
    {value : Numeral}
    (isNext : nextKind marks = .number value) : freeNames marks = freeNames (marks.drop 1) := by
  cases marks with
  | nil => cases isNext
  | cons next rest =>
      change next.kind = _ at isNext
      rw [freeNames, isNext]
      rfl

/-- An identifier is a free name unless it is called. -/
theorem freeNames_of_identifier
    {name : String}
    (isNext : nextKind marks = .identifier name) :
    freeNames marks =
      (if opens (marks.drop 1) then [] else [name]) ++ freeNames (marks.drop 1) := by
  cases marks with
  | nil => cases isNext
  | cons next rest =>
      change next.kind = _ at isNext
      rw [freeNames, isNext, List.drop_succ_cons, List.drop_zero]
      dsimp only
      split <;> rfl

theorem freeNames_of_stop (isNext : nextKind marks = .stop) : freeNames marks = [] := by
  cases marks with
  | nil => rfl
  | cons next rest =>
      change next.kind = _ at isNext
      rw [freeNames, isNext]

/-- Between two places in tokens of arithmetic stand names, and nothing is called at the
second place. -/
structure Reads (marks : List Mark) (names : List String) (rest : List Mark) : Prop where
  arithmetic : IsArithmetic rest
  names : freeNames marks = names ++ freeNames rest
  closed : opens rest = false

theorem Reads.refl (arithmetic : IsArithmetic marks) (closed : opens marks = false) :
    Reads marks [] marks :=
  ⟨arithmetic, rfl, closed⟩

/-- Readings one after the other find the names of both. -/
theorem Reads.append
    {middle : List Mark}
    {others : List String}
    (first : Reads marks names middle)
    (second : Reads middle others rest) : Reads marks (names ++ others) rest :=
  ⟨second.arithmetic, by rw [first.names, second.names, List.append_assoc], second.closed⟩

/-- A symbol is read without finding a name. -/
theorem Reads.symbol
    {mark : String}
    (reads : Reads (marks.drop 1) names rest)
    (isNext : nextKind marks = .symbol mark) : Reads marks names rest :=
  ⟨reads.arithmetic, (freeNames_of_symbol isNext).trans reads.names, reads.closed⟩

/-- A closing parenthesis is read without finding a name. -/
theorem Reads.closing
    (arithmetic : IsArithmetic marks)
    (closes : nextKind marks = .symbol ")") : Reads marks [] (marks.drop 1) :=
  (Reads.refl arithmetic.drop (arithmetic.opens_drop closes)).symbol closes

end Marks

/-! ## Readers of arithmetic -/

section Foreign

variable {marks : List Mark} {condition : Result -> List Mark -> Prop}
  {next : Bool -> Reader Result}

/-- A foreign mark is not accepted in arithmetic. -/
theorem ensures_accept_foreign
    (arithmetic : IsArithmetic marks)
    {kind : TokenKind}
    (foreign : kind.isArithmetic = false) :
    Ensures (accept kind >>= next) marks condition ↔ Ensures (next false) marks condition := by
  rw [ensures_accept_bind, if_neg (arithmetic.ne foreign)]

/-- A foreign mark is not next in arithmetic. -/
theorem ensures_isNext_foreign
    (arithmetic : IsArithmetic marks)
    {kind : TokenKind}
    (foreign : kind.isArithmetic = false) :
    Ensures (isNext kind >>= next) marks condition ↔ Ensures (next false) marks condition := by
  rw [ensures_isNext_bind, decide_eq_false (arithmetic.ne foreign)]

/-- No comprehension starts in arithmetic. -/
theorem ensures_isComprehension_foreign (arithmetic : IsArithmetic marks) :
    Ensures (isComprehension >>= next) marks condition ↔ Ensures (next false) marks condition :=
  ensures_congr (run_isComprehension_of_ne (arithmetic.ne rfl) (arithmetic.ne rfl))

/-- No comparison sign comes next in arithmetic. -/
theorem ensures_comparison?_foreign (arithmetic : IsArithmetic marks) :
    Ensures (Grammar.comparison? >>= next) marks condition ↔
      Ensures (next false) marks condition := by
  have foreign : ∀ kind ∈ comparisons, kind.isArithmetic = false := by decide
  exact ensures_congr (run_comparison?_of_not_mem fun present =>
    arithmetic.ne (foreign _ present) rfl)

end Foreign

/-- A reader of arithmetic takes names into its value, and nothing is called behind it. -/
def Takes (reader : Reader Value) (mentions : Value -> List String) : Prop :=
  ∀ marks, IsArithmetic marks ->
    Ensures reader marks fun value rest => Reads marks (mentions value) rest

/-- A reader goes on behind an operand, where nothing is called. -/
def Continues (reader : Reader Value) (mentions : Value -> List String) : Prop :=
  ∀ marks, IsArithmetic marks -> opens marks = false ->
    Ensures reader marks fun value rest => Reads marks (mentions value) rest

end Reader

namespace Grammar

open Reader Expression

/-- The readers of arithmetic take every name that is not called, whatever the bound on
their depth. What was read before a trailer or an operator is known. -/
structure IsFaithful (fuel : Nat) : Prop where
  expression : Takes (expression fuel) mentions
  namedExpression : Takes (namedExpression fuel) mentions
  starredOrNamed : Takes (starredOrNamed fuel) mentions
  disjunction : Takes (disjunction fuel) mentions
  disjuncts : Continues (disjuncts fuel) mentionsAmong
  conjunction : Takes (conjunction fuel) mentions
  conjuncts : Continues (conjuncts fuel) mentionsAmong
  inversion : Takes (inversion fuel) mentions
  compared : Continues (compared fuel) mentionsAmong
  operation : ∀ least, Takes (operation fuel least) mentions
  operationAfter : ∀ least column left marks, IsArithmetic marks -> opens marks = false ->
    Ensures (operationAfter fuel least column left) marks fun value rest =>
      ∃ names, value.mentions = left.mentions ++ names ∧ Reads marks names rest
  factor : Takes (factor fuel) mentions
  awaited : Takes (awaited fuel) mentions
  primary : Takes (primary fuel) mentions
  trailers : ∀ column value marks, IsArithmetic marks ->
    Ensures (trailers fuel column value) marks fun result rest =>
      if opens marks then Reads marks result.mentions rest else result = value ∧ rest = marks
  arguments : ∀ opening isFirst named spread,
    Takes (arguments fuel opening isFirst named spread) fun taken => mentionsAmong taken.1
  positionalArgument : ∀ opening isFirst named spread,
    Takes (positionalArgument fuel opening isFirst named spread) fun taken => mentionsAmong taken.1
  argumentsAfter : ∀ opening named spread,
    Takes (argumentsAfter fuel opening named spread) fun taken => mentionsAmong taken.1
  atom : ∀ marks, IsArithmetic marks -> Ensures (atom fuel) marks fun value rest =>
    IsArithmetic rest ∧
      freeNames marks = (if opens rest then [] else value.mentions) ++ freeNames rest
  parenthesis : ∀ column, Takes (parenthesis fuel column) mentions
  elements : Takes (elements fuel (.symbol ")")) mentionsAmong

namespace IsFaithful

variable {fuel : Nat}

/-! ### Expressions -/

/-- An expression mentions the names that are read with it. -/
theorem expression_succ (faithful : IsFaithful fuel) :
    Takes (Grammar.expression (fuel + 1)) mentions := by
  intro marks arithmetic
  rw [Grammar.expression, ensures_here_bind, ensures_accept_foreign arithmetic rfl,
    if_neg Bool.false_ne_true, ensures_bind]
  refine (faithful.disjunction marks arithmetic).imp fun value rest reads => ?_
  rw [ensures_accept_foreign reads.arithmetic rfl, if_neg Bool.false_ne_true, ensures_pure]
  exact reads

theorem namedExpression_succ (faithful : IsFaithful fuel) :
    Takes (Grammar.namedExpression (fuel + 1)) mentions := by
  intro marks arithmetic
  rw [Grammar.namedExpression, ensures_here_bind, ensures_peek_bind]
  split
  · rw [ensures_peekSecond_bind, kind_getD_head?, if_neg (arithmetic.drop.ne rfl)]
    exact faithful.expression marks arithmetic
  · exact faithful.expression marks arithmetic

theorem starredOrNamed_succ (faithful : IsFaithful fuel) :
    Takes (Grammar.starredOrNamed (fuel + 1)) mentions := by
  intro marks arithmetic
  rw [Grammar.starredOrNamed, ensures_here_bind, ensures_accept_bind]
  split
  case isTrue star =>
    rw [if_pos rfl, ensures_bind]
    refine (faithful.operation 1 _ arithmetic.drop).imp fun operand rest reads => ?_
    rw [ensures_pure, mentions, mentionsAmong, mentionsAmong, List.append_nil]
    exact reads.symbol star
  case isFalse =>
    exact faithful.namedExpression marks arithmetic

/-- Where no further operand follows, a list of operands is the first one. -/
theorem takes_operands
    {first : Reader Expression}
    {others : Reader (List Expression)}
    (takes : Takes first mentions)
    (continues : Continues others mentionsAmong)
    (column : Nat)
    (form : Form) :
    Takes
      (first >>= fun operand => others >>= fun operands =>
        if operands.isEmpty = true then pure operand
        else pure (.other column form (operand :: operands)))
      mentions := by
  intro marks arithmetic
  rw [ensures_bind]
  refine (takes marks arithmetic).imp fun operand middle reads => ?_
  rw [ensures_bind]
  refine (continues middle reads.arithmetic reads.closed).imp fun operands rest more => ?_
  cases operands with
  | nil => exact ensures_pure.mpr (List.append_nil operand.mentions ▸ reads.append more)
  | cons => exact ensures_pure.mpr (reads.append more)

/-- Nothing goes on with a token that is foreign to arithmetic. -/
theorem continues_foreign
    {kind : TokenKind}
    {next : Reader (List Expression)}
    (foreign : kind.isArithmetic = false) :
    Continues (accept kind >>= fun accepted => if accepted = true then next else pure [])
      mentionsAmong := by
  intro marks arithmetic closed
  rw [ensures_accept_foreign arithmetic foreign, if_neg Bool.false_ne_true, ensures_pure]
  exact .refl arithmetic closed

theorem disjunction_succ (faithful : IsFaithful fuel) :
    Takes (Grammar.disjunction (fuel + 1)) mentions := by
  intro marks arithmetic
  rw [Grammar.disjunction, ensures_here_bind]
  exact takes_operands faithful.conjunction faithful.disjuncts _ _ marks arithmetic

theorem disjuncts_succ : Continues (Grammar.disjuncts (fuel + 1)) mentionsAmong := by
  rw [Grammar.disjuncts]
  exact continues_foreign rfl

theorem conjunction_succ (faithful : IsFaithful fuel) :
    Takes (Grammar.conjunction (fuel + 1)) mentions := by
  intro marks arithmetic
  rw [Grammar.conjunction, ensures_here_bind]
  exact takes_operands faithful.inversion faithful.conjuncts _ _ marks arithmetic

theorem conjuncts_succ : Continues (Grammar.conjuncts (fuel + 1)) mentionsAmong := by
  rw [Grammar.conjuncts]
  exact continues_foreign rfl

theorem inversion_succ (faithful : IsFaithful fuel) :
    Takes (Grammar.inversion (fuel + 1)) mentions := by
  intro marks arithmetic
  rw [Grammar.inversion, ensures_here_bind, ensures_accept_foreign arithmetic rfl,
    if_neg Bool.false_ne_true]
  exact takes_operands (faithful.operation 1) faithful.compared _ _ marks arithmetic

theorem compared_succ : Continues (Grammar.compared (fuel + 1)) mentionsAmong := by
  intro marks arithmetic closed
  rw [Grammar.compared, ensures_comparison?_foreign arithmetic, if_neg Bool.false_ne_true,
    ensures_pure]
  exact .refl arithmetic closed

/-! ### Operations -/

/-- An operation mentions the names of both operands, in their order. -/
theorem mentions_joined
    (column : Nat)
    (operator : Option Operator)
    (left right : Expression) :
    (joined column operator left right).mentions = left.mentions ++ right.mentions := by
  cases operator with
  | none => simp [joined, mentions, mentionsAmong]
  | some => rfl

/-- An operation mentions the names that are read with it. -/
theorem operation_succ (faithful : IsFaithful fuel) (least : Nat) :
    Takes (Grammar.operation (fuel + 1) least) mentions := by
  intro marks arithmetic
  rw [Grammar.operation, ensures_here_bind, ensures_bind]
  refine (faithful.factor marks arithmetic).imp fun first middle reads => ?_
  refine (faithful.operationAfter least _ first middle reads.arithmetic reads.closed).imp ?_
  rintro value rest ⟨names, same, more⟩
  rw [same]
  exact reads.append more

/-- What follows an operand adds the names that are read with it. -/
theorem operationAfter_succ
    (faithful : IsFaithful fuel)
    (least column : Nat)
    (left : Expression)
    (marks : List Mark)
    (arithmetic : IsArithmetic marks)
    (closed : opens marks = false) :
    Ensures (Grammar.operationAfter (fuel + 1) least column left) marks fun value rest =>
      ∃ names, value.mentions = left.mentions ++ names ∧ Reads marks names rest := by
  have stays : Ensures (pure left) marks fun value rest =>
      ∃ names, value.mentions = left.mentions ++ names ∧ Reads marks names rest :=
    ensures_pure.mpr ⟨[], (List.append_nil _).symm, .refl arithmetic closed⟩
  rw [Grammar.operationAfter, ensures_peek_bind, kind_getD_head?]
  cases found : operatorOf? (nextKind marks) with
  | none => exact stays
  | some entry =>
      obtain ⟨precedence, operator⟩ := entry
      dsimp only
      split
      · exact stays
      · obtain ⟨mark, isNext⟩ : ∃ mark, nextKind marks = .symbol mark := by
          revert found
          cases nextKind marks with
          | symbol mark => exact fun _ => ⟨mark, rfl⟩
          | _ => rintro ⟨⟩
        rw [ensures_advance_bind, ensures_bind]
        refine (faithful.operation _ _ arithmetic.drop).imp fun right middle reads => ?_
        refine (faithful.operationAfter least column _ middle reads.arithmetic reads.closed).imp ?_
        rintro value rest ⟨names, same, more⟩
        rw [mentions_joined, List.append_assoc] at same
        exact ⟨_, same, (reads.symbol isNext).append more⟩

/-- A signed operand or a power mentions the names that are read with it. -/
theorem factor_succ (faithful : IsFaithful fuel) :
    Takes (Grammar.factor (fuel + 1)) mentions := by
  intro marks arithmetic
  have signed (negative : Bool) (column : Nat) {mark : String}
      (isNext : nextKind marks = .symbol mark) :
      Ensures (Grammar.factor fuel >>= fun operand =>
          (pure (Expression.signed column negative operand) : Reader Expression))
        (marks.drop 1) fun value rest => Reads marks value.mentions rest := by
    rw [ensures_bind]
    exact (faithful.factor _ arithmetic.drop).imp fun operand rest reads =>
      ensures_pure.mpr (reads.symbol isNext)
  rw [Grammar.factor, ensures_here_bind, ensures_accept_bind]
  split
  case isTrue plus => exact signed false _ plus
  rw [if_neg Bool.false_ne_true, ensures_accept_bind]
  split
  case isTrue minus => exact signed true _ minus
  rw [if_neg Bool.false_ne_true, ensures_accept_foreign arithmetic rfl,
    if_neg Bool.false_ne_true, ensures_bind]
  refine (faithful.awaited marks arithmetic).imp fun base rest reads => ?_
  rw [ensures_accept_foreign reads.arithmetic rfl, if_neg Bool.false_ne_true, ensures_pure]
  exact reads

theorem awaited_succ (faithful : IsFaithful fuel) :
    Takes (Grammar.awaited (fuel + 1)) mentions := by
  intro marks arithmetic
  rw [Grammar.awaited, ensures_here_bind, ensures_accept_foreign arithmetic rfl,
    if_neg Bool.false_ne_true]
  exact faithful.primary marks arithmetic

/-! ### Calls -/

/-- An atom and its trailers mention the names that are read with them. -/
theorem primary_succ (faithful : IsFaithful fuel) :
    Takes (Grammar.primary (fuel + 1)) mentions := by
  intro marks arithmetic
  rw [Grammar.primary, ensures_here_bind, ensures_bind]
  refine (faithful.atom marks arithmetic).imp ?_
  rintro first middle ⟨behind, names⟩
  refine (faithful.trailers _ first middle behind).imp fun value rest trailed => ?_
  split at trailed
  case isTrue called =>
    rw [if_pos called, List.nil_append] at names
    exact ⟨trailed.arithmetic, names.trans trailed.names, trailed.closed⟩
  case isFalse free =>
    obtain ⟨rfl, rfl⟩ := trailed
    rw [if_neg free] at names
    exact ⟨behind, names, Bool.eq_false_iff.mpr free⟩

/-- A called value mentions the names of its arguments, and one that is not called stays. -/
theorem trailers_succ
    (faithful : IsFaithful fuel)
    (column : Nat)
    (value : Expression)
    (marks : List Mark)
    (arithmetic : IsArithmetic marks) :
    Ensures (Grammar.trailers (fuel + 1) column value) marks fun result rest =>
      if opens marks then Reads marks result.mentions rest else result = value ∧ rest = marks := by
  rw [Grammar.trailers, ensures_accept_foreign arithmetic rfl, if_neg Bool.false_ne_true,
    ensures_isNext_bind]
  change Ensures (if opens marks = true then _ else _) marks _
  split
  case isTrue called =>
    have isNext : nextKind marks = .symbol "(" := of_decide_eq_true called
    rw [ensures_here_bind, ensures_advance_bind, ensures_bind]
    refine (faithful.arguments _ true false false _ arithmetic.drop).imp ?_
    rintro ⟨positional, named⟩ middle reads
    refine (faithful.trailers _ _ middle reads.arithmetic).imp fun result rest trailed => ?_
    rw [if_neg (Bool.eq_false_iff.mp reads.closed)] at trailed
    obtain ⟨rfl, rfl⟩ := trailed
    exact reads.symbol isNext
  case isFalse free =>
    rw [ensures_accept_foreign arithmetic rfl, if_neg Bool.false_ne_true, ensures_pure]
    exact ⟨rfl, rfl⟩

theorem argumentsAfter_succ
    (faithful : IsFaithful fuel)
    (opening : Nat)
    (named spread : Bool) :
    Takes (Grammar.argumentsAfter (fuel + 1) opening named spread) fun taken =>
      mentionsAmong taken.1 := by
  intro marks arithmetic
  rw [Grammar.argumentsAfter, ensures_accept_bind]
  split
  case isTrue comma =>
    rw [if_pos rfl]
    exact (faithful.arguments _ _ _ _ _ arithmetic.drop).imp fun _ _ reads => reads.symbol comma
  case isFalse =>
    rw [if_neg Bool.false_ne_true, ensures_bind, ensures_require]
    exact fun closes => ensures_pure.mpr (.closing arithmetic closes)

theorem positionalArgument_succ
    (faithful : IsFaithful fuel)
    (opening : Nat)
    (isFirst named spread : Bool) :
    Takes (Grammar.positionalArgument (fuel + 1) opening isFirst named spread) fun taken =>
      mentionsAmong taken.1 := by
  intro marks arithmetic
  rw [Grammar.positionalArgument]
  split
  · rw [ensures_peek_bind]
    split
    · rw [ensures_peekSecond_bind]
      rintro _ _ ⟨⟩
    · exact ensures_refuse
  · rw [ensures_bind]
    refine (faithful.namedExpression marks arithmetic).imp fun value middle reads => ?_
    rw [ensures_isComprehension_foreign reads.arithmetic, Bool.and_false,
      if_neg Bool.false_ne_true, ensures_bind]
    refine (faithful.argumentsAfter _ _ _ middle reads.arithmetic).imp ?_
    rintro ⟨others, anyNamed⟩ rest more
    exact ensures_pure.mpr (reads.append more)

/-- The arguments of a call mention the names that are read with them. -/
theorem arguments_succ
    (faithful : IsFaithful fuel)
    (opening : Nat)
    (isFirst named spread : Bool) :
    Takes (Grammar.arguments (fuel + 1) opening isFirst named spread) fun taken =>
      mentionsAmong taken.1 := by
  intro marks arithmetic
  have positional := faithful.positionalArgument opening isFirst named spread marks arithmetic
  rw [Grammar.arguments, ensures_accept_bind]
  split
  case isTrue closes => exact ensures_pure.mpr (.closing arithmetic closes)
  rw [if_neg Bool.false_ne_true, ensures_here_bind, ensures_peek_bind, kind_getD_head?]
  split
  case h_1 star =>
    split
    · exact ensures_refuse
    · rw [ensures_advance_bind, ensures_bind]
      refine (faithful.expression _ arithmetic.drop).imp fun operand middle reads => ?_
      rw [ensures_bind]
      refine (faithful.argumentsAfter _ _ _ middle reads.arithmetic).imp ?_
      rintro ⟨others, anyNamed⟩ rest more
      have starred (column : Nat) : mentionsAmong (.other column .starred [operand] :: others) =
          operand.mentions ++ mentionsAmong others := by
        simp [mentions, mentionsAmong]
      rw [ensures_pure]
      dsimp only
      rw [starred]
      exact (reads.symbol star).append more
  case h_2 power => exact absurd power (arithmetic.ne rfl)
  case h_3 =>
    rw [ensures_peekSecond_bind, kind_getD_head?, if_neg (arithmetic.drop.ne rfl)]
    exact positional
  case h_4 => exact positional

/-! ### Atoms -/

/-- An atom is a name that may be called, a number, or stands in parentheses. -/
theorem atom_succ
    (faithful : IsFaithful fuel)
    (marks : List Mark)
    (arithmetic : IsArithmetic marks) :
    Ensures (Grammar.atom (fuel + 1)) marks fun value rest =>
      IsArithmetic rest ∧
        freeNames marks = (if opens rest then [] else value.mentions) ++ freeNames rest := by
  have kind := arithmetic.nextKind
  rw [Grammar.atom, ensures_here_bind, ensures_peek_bind, kind_getD_head?]
  split
  case h_1 value isNext =>
    rw [ensures_advance_bind, ensures_pure, mentions, ite_self]
    exact ⟨arithmetic.drop, freeNames_of_number isNext⟩
  case h_3 name isNext =>
    rw [ensures_advance_bind, ensures_pure, mentions]
    exact ⟨arithmetic.drop, freeNames_of_identifier isNext⟩
  case h_10 isNext =>
    rw [ensures_advance_bind]
    refine (faithful.parenthesis _ _ arithmetic.drop).imp fun value rest reads => ?_
    rw [reads.closed, if_neg Bool.false_ne_true]
    exact ⟨reads.arithmetic, (reads.symbol isNext).names⟩
  case h_13 => exact ensures_refuse
  all_goals
    rename_i same
    exact absurd same (arithmetic.ne rfl)

/-- What stands in parentheses mentions the names that are read with it. -/
theorem parenthesis_succ (faithful : IsFaithful fuel) (column : Nat) :
    Takes (Grammar.parenthesis (fuel + 1) column) mentions := by
  intro marks arithmetic
  rw [Grammar.parenthesis, ensures_accept_bind]
  split
  case isTrue closes => exact ensures_pure.mpr (.closing arithmetic closes)
  rw [if_neg Bool.false_ne_true, ensures_isNext_foreign arithmetic rfl,
    if_neg Bool.false_ne_true, ensures_bind]
  refine (faithful.starredOrNamed marks arithmetic).imp fun first middle reads => ?_
  rw [ensures_isComprehension_foreign reads.arithmetic, Bool.and_false,
    if_neg Bool.false_ne_true, ensures_isNext_bind]
  split
  · rw [ensures_bind]
    refine (faithful.elements middle reads.arithmetic).imp fun others rest more => ?_
    exact ensures_pure.mpr (reads.append more)
  split
  · exact ensures_refuse
  · rw [ensures_bind, ensures_require]
    intro closes
    rw [ensures_pure, ← List.append_nil first.mentions]
    exact reads.append (.closing reads.arithmetic closes)

/-- The elements in parentheses mention the names that are read with them. -/
theorem elements_succ (faithful : IsFaithful fuel) :
    Takes (Grammar.elements (fuel + 1) (.symbol ")")) mentionsAmong := by
  intro marks arithmetic
  rw [Grammar.elements, ensures_accept_bind]
  split
  case isTrue closes => exact ensures_pure.mpr (.closing arithmetic closes)
  rw [if_neg Bool.false_ne_true, ensures_bind, ensures_require]
  intro comma
  rw [ensures_accept_bind]
  split
  case isTrue closes => exact ensures_pure.mpr ((Reads.closing arithmetic.drop closes).symbol comma)
  rw [if_neg Bool.false_ne_true, ensures_bind]
  refine (faithful.starredOrNamed _ arithmetic.drop).imp fun next middle reads => ?_
  rw [ensures_bind]
  refine (faithful.elements middle reads.arithmetic).imp fun others rest more => ?_
  exact ensures_pure.mpr ((reads.symbol comma).append more)

end IsFaithful

/-- By induction on the bound: every reader calls the others with the next smaller one. -/
theorem isFaithful (fuel : Nat) : IsFaithful fuel := by
  induction fuel with
  | zero =>
      constructor <;>
        simp only [Takes, Continues, Grammar.expression, Grammar.namedExpression,
          Grammar.starredOrNamed, Grammar.disjunction, Grammar.disjuncts, Grammar.conjunction,
          Grammar.conjuncts, Grammar.inversion, Grammar.compared, Grammar.operation,
          Grammar.operationAfter, Grammar.factor, Grammar.awaited, Grammar.primary,
          Grammar.trailers, Grammar.arguments, Grammar.positionalArgument,
          Grammar.argumentsAfter, Grammar.atom, Grammar.parenthesis, Grammar.elements,
          ensures_refuse, implies_true]
  | succ fuel faithful =>
      exact {
        expression := faithful.expression_succ
        namedExpression := faithful.namedExpression_succ
        starredOrNamed := faithful.starredOrNamed_succ
        disjunction := faithful.disjunction_succ
        disjuncts := IsFaithful.disjuncts_succ
        conjunction := faithful.conjunction_succ
        conjuncts := IsFaithful.conjuncts_succ
        inversion := faithful.inversion_succ
        compared := IsFaithful.compared_succ
        operation := faithful.operation_succ
        operationAfter := faithful.operationAfter_succ
        factor := faithful.factor_succ
        awaited := faithful.awaited_succ
        primary := faithful.primary_succ
        trailers := faithful.trailers_succ
        arguments := faithful.arguments_succ
        positionalArgument := faithful.positionalArgument_succ
        argumentsAfter := faithful.argumentsAfter_succ
        atom := faithful.atom_succ
        parenthesis := faithful.parenthesis_succ
        elements := faithful.elements_succ }

/-! ## Whole texts -/

/-- A reading ends where no free names are left. -/
theorem finish_ensures
    (fuel : Nat)
    {marks : List Mark}
    (arithmetic : IsArithmetic marks) :
    Ensures (finish fuel) marks fun _ _ => freeNames marks = [] := by
  cases fuel with
  | zero =>
      rw [finish]
      exact ensures_refuse
  | succ fuel =>
      rw [finish, ensures_accept_foreign arithmetic rfl, if_neg Bool.false_ne_true,
        ensures_require]
      exact freeNames_of_stop

/-- Further elements of the outermost sequence mention the names that are read with them. -/
theorem outermostAfter_continues (bound fuel : Nat) :
    Continues (outermostAfter bound fuel) mentionsAmong := by
  induction fuel with
  | zero =>
      intro _ _ _
      rw [outermostAfter]
      exact ensures_refuse
  | succ fuel inductionHypothesis =>
      intro marks arithmetic closed
      rw [outermostAfter, ensures_accept_bind]
      split
      case isTrue comma =>
        rw [if_pos rfl, ensures_peek_bind, kind_getD_head?]
        split
        case h_1 isEnd =>
          refine ensures_pure.mpr (Reads.symbol (.refl arithmetic.drop ?_) comma)
          rw [opens, isEnd]
          rfl
        case h_2 isBreak => exact absurd isBreak (arithmetic.drop.ne rfl)
        case h_3 =>
          rw [ensures_bind]
          refine ((isFaithful bound).expression _ arithmetic.drop).imp fun next middle reads => ?_
          rw [ensures_bind]
          refine (inductionHypothesis middle reads.arithmetic reads.closed).imp ?_
          exact fun others rest more => ensures_pure.mpr ((reads.symbol comma).append more)
      case isFalse =>
        rw [if_neg Bool.false_ne_true, ensures_pure]
        exact .refl arithmetic closed

/-- What is read from tokens of arithmetic mentions the names that are not called, in the
order of the text. -/
theorem mentions_outermost
    (bound : Nat)
    {marks : List Mark}
    (arithmetic : IsArithmetic marks) :
    Ensures (outermost bound) marks fun value _ => value.mentions = freeNames marks := by
  rw [outermost, ensures_here_bind, ensures_bind]
  refine ((isFaithful bound).expression marks arithmetic).imp fun first middle reads => ?_
  have finishes {value : Expression} {rest : List Mark} (taken : Reads marks value.mentions rest) :
      Ensures (finish bound >>= fun _ => pure value) rest fun value _ =>
        value.mentions = freeNames marks := by
    rw [ensures_bind]
    refine (finish_ensures bound taken.arithmetic).imp fun _ _ done => ensures_pure.mpr ?_
    rw [taken.names, done, List.append_nil]
  rw [ensures_isNext_bind]
  split
  · rw [ensures_bind]
    refine (outermostAfter_continues bound bound middle reads.arithmetic reads.closed).imp ?_
    exact fun others rest more => finishes (reads.append more)
  · exact finishes reads

end Grammar

namespace Expression

open Reader

/-- An expression that is read from arithmetic mentions the names that are not called. -/
theorem mentions_of_ofKinds
    {kinds : List TokenKind}
    {tree : Expression}
    (arithmetic : IsArithmetic (marksFrom 1 kinds))
    (read : ofKinds kinds = .ok tree) : tree.mentions = freeNames (marksFrom 1 kinds) := by
  rw [ofKinds, StateT.run'] at read
  cases taken : Grammar.outermost (32 * (kinds.length + 2)) (marksFrom 1 kinds) with
  | error number =>
      rw [taken] at read
      cases read
  | ok pair =>
      obtain ⟨value, rest⟩ := pair
      rw [taken] at read
      cases read
      exact Grammar.mentions_outermost _ arithmetic _ _ taken

end Expression
end ShaderGraph
