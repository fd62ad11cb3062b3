import ShaderGraph.Proofs.Expression.Origin

/-!
# Names of expressions are read from tokens

Every reader of the grammar goes on from reached tokens to reached tokens, and what it reads
is located where its tokens are. One step is proved for each reader, as if those that it calls
were known, and the induction is on the bound of their depth.
-/

namespace ShaderGraph
namespace Grammar

open Reader Expression

/-- The readers of the grammar reach tokens and trace expressions to them, whatever the bound
on their depth. What was read before a trailer or an operator is known. -/
structure IsTracing (start : List Mark) (fuel : Nat) : Prop where
  expression : Traces start (expression fuel)
  namedExpression : Traces start (namedExpression fuel)
  starredOrNamed : Traces start (starredOrNamed fuel)
  parameters : ∀ state defaults, Passes start (parameters fuel state defaults)
  afterParameter : ∀ state defaults, Passes start (afterParameter fuel state defaults)
  disjunction : Traces start (disjunction fuel)
  disjuncts : Passes start (disjuncts fuel)
  conjunction : Traces start (conjunction fuel)
  conjuncts : Passes start (conjuncts fuel)
  inversion : Traces start (inversion fuel)
  compared : Passes start (compared fuel)
  operation : ∀ least, Traces start (operation fuel least)
  operationAfter : ∀ origin least column left marks, Reached start marks ->
    IsTraced start origin left ->
    Ensures (operationAfter fuel least column left) marks fun value rest =>
      Reached start rest ∧ IsTraced start origin value
  factor : Traces start (factor fuel)
  awaited : Traces start (awaited fuel)
  primary : Traces start (primary fuel)
  trailers : ∀ origin value marks, Reached start origin -> Reached start marks ->
    IsTraced start origin value ->
    Ensures (trailers fuel (nextNumber origin) value) marks fun result rest =>
      Reached start rest ∧ IsTraced start origin result
  arguments : ∀ opening isFirst named spread,
    Keeps start (arguments fuel opening isFirst named spread) fun taken =>
      ∀ argument ∈ taken.1, Located start argument
  positionalArgument : ∀ opening isFirst named spread,
    Keeps start (positionalArgument fuel opening isFirst named spread) fun taken =>
      ∀ argument ∈ taken.1, Located start argument
  argumentsAfter : ∀ opening named spread,
    Keeps start (argumentsAfter fuel opening named spread) fun taken =>
      ∀ argument ∈ taken.1, Located start argument
  slice : Passes start (slice fuel)
  sliceAfter : ∀ column bounds, Passes start (sliceAfter fuel column bounds)
  optionalBound : Passes start (optionalBound fuel)
  slices : Passes start (slices fuel)
  comprehension : Passes start (comprehension fuel)
  conditions : Passes start (conditions fuel)
  targets : Passes start (targets fuel)
  targetsAfter : Passes start (targetsAfter fuel)
  target : Passes start (target fuel)
  atom : Traces start (atom fuel)
  parenthesis : ∀ column, Traces start (parenthesis fuel column)
  brace : ∀ column, Keeps start (brace fuel column) (·.isOther = true)
  elements : ∀ closing, closing.fieldCount = 0 -> Passes start (elements fuel closing)
  entries : Passes start (entries fuel)
  entryValue : Passes start (entryValue fuel)
  yielded : Keeps start (yielded fuel) (·.isOther = true)
  starredExpressions : Passes start (starredExpressions fuel)
  starredExpressionsAfter : Passes start (starredExpressionsAfter fuel)
  starredExpression : Passes start (starredExpression fuel)
  fields : ∀ bodies, Passes start (fields fuel bodies)
  fieldExpressions : ∀ marks, Passes start (fieldExpressions fuel marks)

namespace IsTracing

variable {start : List Mark} {fuel : Nat}

/-! ## Expressions -/

/-- A whole expression, a choice or a function without a name included, is traced. -/
theorem expression_succ (tracing : IsTracing start fuel) :
    Traces start (Grammar.expression (fuel + 1)) := by
  intro marks reached
  rw [Grammar.expression, ensures_here_bind, ensures_accept_bind]
  split
  case isTrue isLambda =>
    rw [if_pos rfl]
    refine Keeps.traced ?_ (reached.drop isLambda rfl)
    exact (tracing.parameters _ _).bind fun _ _ => tracing.expression.keeps.bind fun _ _ =>
      keeps_pure rfl
  rw [if_neg Bool.false_ne_true, ensures_bind]
  refine (tracing.disjunction marks reached).imp ?_
  rintro value rest ⟨behind, traced⟩
  rw [ensures_accept_bind]
  split
  case isTrue isIf =>
    rw [if_pos rfl]
    refine Keeps.traced ?_ (behind.drop isIf rfl)
    exact tracing.disjunction.keeps.bind fun _ _ => (passes_require rfl).bind fun _ _ =>
      tracing.expression.keeps.bind fun _ _ => keeps_pure rfl
  case isFalse => exact ensures_pure.mpr ⟨behind, traced⟩

/-- An expression that may be named is traced. -/
theorem namedExpression_succ (tracing : IsTracing start fuel) :
    Traces start (Grammar.namedExpression (fuel + 1)) := by
  intro marks reached
  rw [Grammar.namedExpression, ensures_here_bind, ensures_peek_bind, kind_getD_head?]
  split
  case h_1 name isName =>
    rw [ensures_peekSecond_bind, kind_getD_head?]
    split
    case isTrue isSign =>
      rw [ensures_advance_bind, ensures_advance_bind]
      refine Keeps.traced ?_ ((reached.drop isName rfl).drop isSign rfl)
      exact tracing.expression.keeps.bind fun _ _ => keeps_pure rfl
    case isFalse => exact tracing.expression marks reached
  case h_2 => exact tracing.expression marks reached

/-- An expression that may be unpacked is traced. -/
theorem starredOrNamed_succ (tracing : IsTracing start fuel) :
    Traces start (Grammar.starredOrNamed (fuel + 1)) := by
  intro marks reached
  rw [Grammar.starredOrNamed, ensures_here_bind, ensures_accept_bind]
  split
  case isTrue isStar =>
    rw [if_pos rfl]
    refine Keeps.traced ?_ (reached.drop isStar rfl)
    exact (tracing.operation 1).keeps.bind fun _ _ => keeps_pure rfl
  case isFalse => exact tracing.namedExpression marks reached

/-! ## Operands -/

/-- Where no further operand follows, a list of operands is the first one. -/
theorem traces_operands
    {first : Reader Expression}
    {others : Reader (List Expression)}
    (traces : Traces start first)
    (passes : Passes start others)
    (column : Nat)
    (form : Form) :
    Traces start
      (first >>= fun operand => others >>= fun operands =>
        if operands.isEmpty = true then pure operand
        else pure (.other column form (operand :: operands))) := by
  intro marks reached
  rw [ensures_bind]
  refine (traces marks reached).imp ?_
  rintro operand middle ⟨behind, traced⟩
  rw [ensures_bind]
  refine (passes middle behind).imp ?_
  rintro operands rest ⟨behind, -⟩
  split
  · exact ensures_pure.mpr ⟨behind, traced⟩
  · exact ensures_pure.mpr ⟨behind, .of_isOther rfl⟩

/-- A disjunction is traced. -/
theorem disjunction_succ (tracing : IsTracing start fuel) :
    Traces start (Grammar.disjunction (fuel + 1)) := by
  intro marks reached
  rw [Grammar.disjunction, ensures_here_bind]
  exact traces_operands tracing.conjunction tracing.disjuncts _ _ marks reached

/-- Further disjuncts only take marks. -/
theorem disjuncts_succ (tracing : IsTracing start fuel) :
    Passes start (Grammar.disjuncts (fuel + 1)) := by
  rw [Grammar.disjuncts]
  exact passes_further rfl tracing.conjunction.keeps.passes tracing.disjuncts

/-- A conjunction is traced. -/
theorem conjunction_succ (tracing : IsTracing start fuel) :
    Traces start (Grammar.conjunction (fuel + 1)) := by
  intro marks reached
  rw [Grammar.conjunction, ensures_here_bind]
  exact traces_operands tracing.inversion tracing.conjuncts _ _ marks reached

theorem conjuncts_succ (tracing : IsTracing start fuel) :
    Passes start (Grammar.conjuncts (fuel + 1)) := by
  rw [Grammar.conjuncts]
  exact passes_further rfl tracing.inversion.keeps.passes tracing.conjuncts

/-- A negated comparison is traced. -/
theorem inversion_succ (tracing : IsTracing start fuel) :
    Traces start (Grammar.inversion (fuel + 1)) := by
  intro marks reached
  rw [Grammar.inversion, ensures_here_bind, ensures_accept_bind]
  split
  case isTrue isNot =>
    rw [if_pos rfl]
    refine Keeps.traced ?_ (reached.drop isNot rfl)
    exact tracing.inversion.keeps.bind fun _ _ => keeps_pure rfl
  case isFalse =>
    exact traces_operands (tracing.operation 1) tracing.compared _ _ marks reached

/-- A comparison sign only takes marks. -/
theorem passes_comparison? : Passes start comparison? := by
  intro marks reached
  rw [comparison?, ensures_peek_bind, kind_getD_head?]
  split
  case h_8 isIs =>
    refine Keeps.advance ?_ reached isIs rfl
    exact (passes_accept rfl).bind fun _ _ => keeps_pure trivial
  case h_9 isNot =>
    refine Keeps.advance ?_ reached isNot rfl
    exact (passes_require rfl).bind fun _ _ => keeps_pure trivial
  case h_10 => exact ensures_pure.mpr ⟨reached, trivial⟩
  all_goals
    rename_i isOperator
    exact Keeps.advance (keeps_pure trivial) reached isOperator rfl

/-- Further comparisons only take marks. -/
theorem compared_succ (tracing : IsTracing start fuel) :
    Passes start (Grammar.compared (fuel + 1)) := by
  rw [Grammar.compared]
  refine passes_comparison?.bind fun found _ => ?_
  split
  · exact (tracing.operation 1).keeps.bind fun _ _ => tracing.compared.bind fun _ _ =>
      keeps_pure trivial
  · exact keeps_pure trivial

/-- Two operands that stand in the marks make an operation that is traced. -/
theorem isTraced_joined
    {origin : List Mark}
    {left right : Expression}
    (locatedLeft : Located start left)
    (locatedRight : Located start right)
    (column : Nat)
    (operator : Option Operator) : IsTraced start origin (joined column operator left right) := by
  cases operator with
  | none => exact .of_isOther rfl
  | some operator => exact ⟨.binary locatedLeft locatedRight column operator, trivial⟩

/-- An operation of any rank is traced. -/
theorem operation_succ (tracing : IsTracing start fuel) (least : Nat) :
    Traces start (Grammar.operation (fuel + 1) least) := by
  intro marks reached
  rw [Grammar.operation, ensures_here_bind, ensures_bind]
  refine (tracing.factor marks reached).imp ?_
  rintro first middle ⟨behind, traced⟩
  exact tracing.operationAfter marks least _ first middle behind traced

/-- Operators are no formatted texts, so they have no fields. -/
theorem fieldCount_of_operatorOf?
    {kind : TokenKind}
    {entry : Nat × Option Operator}
    (found : operatorOf? kind = some entry) : kind.fieldCount = 0 := by
  cases kind with
  | formatted => cases found
  | _ => rfl

/-- What is joined to a traced operand by operators is traced. -/
theorem operationAfter_succ
    (tracing : IsTracing start fuel)
    (origin : List Mark)
    (least column : Nat)
    (left : Expression)
    (marks : List Mark)
    (reached : Reached start marks)
    (traced : IsTraced start origin left) :
    Ensures (Grammar.operationAfter (fuel + 1) least column left) marks fun value rest =>
      Reached start rest ∧ IsTraced start origin value := by
  rw [Grammar.operationAfter, ensures_peek_bind, kind_getD_head?]
  cases found : operatorOf? (nextKind marks) with
  | none => exact ensures_pure.mpr ⟨reached, traced⟩
  | some entry =>
      obtain ⟨precedence, operator⟩ := entry
      dsimp only
      split
      · exact ensures_pure.mpr ⟨reached, traced⟩
      · rw [ensures_advance_bind, ensures_bind]
        refine (tracing.operation _ _ (reached.drop rfl (fieldCount_of_operatorOf? found))).imp ?_
        rintro right middle ⟨behind, tracedRight⟩
        exact tracing.operationAfter origin least column _ middle behind
          (isTraced_joined traced.located tracedRight.located column operator)

/-- A signed operand and a power are traced. -/
theorem factor_succ (tracing : IsTracing start fuel) :
    Traces start (Grammar.factor (fuel + 1)) := by
  intro marks reached
  have signed (negative : Bool) (column : Nat) {mark : String}
      (isNext : nextKind marks = .symbol mark) :
      Ensures (Grammar.factor fuel >>= fun operand =>
          (pure (Expression.signed column negative operand) : Reader Expression))
        (marks.drop 1) fun value rest => Reached start rest ∧ IsTraced start marks value := by
    rw [ensures_bind]
    refine (tracing.factor _ (reached.drop isNext rfl)).imp ?_
    rintro operand rest ⟨behind, traced⟩
    exact ensures_pure.mpr ⟨behind, .signed traced.located column negative, trivial⟩
  rw [Grammar.factor, ensures_here_bind, ensures_accept_bind]
  split
  case isTrue plus => exact signed false _ plus
  rw [if_neg Bool.false_ne_true, ensures_accept_bind]
  split
  case isTrue minus => exact signed true _ minus
  rw [if_neg Bool.false_ne_true, ensures_accept_bind]
  split
  case isTrue tilde =>
    rw [if_pos rfl]
    refine Keeps.traced ?_ (reached.drop tilde rfl)
    exact tracing.factor.keeps.bind fun _ _ => keeps_pure rfl
  rw [if_neg Bool.false_ne_true, ensures_bind]
  refine (tracing.awaited marks reached).imp ?_
  rintro base middle ⟨behind, traced⟩
  rw [ensures_accept_bind]
  split
  case isTrue isPower =>
    rw [if_pos rfl, ensures_bind]
    refine (tracing.factor _ (behind.drop isPower rfl)).imp ?_
    rintro exponent rest ⟨behind, tracedExponent⟩
    exact ensures_pure.mpr
      ⟨behind, .binary traced.located tracedExponent.located _ .power, trivial⟩
  case isFalse => exact ensures_pure.mpr ⟨behind, traced⟩

/-! ## Calls -/

theorem awaited_succ (tracing : IsTracing start fuel) :
    Traces start (Grammar.awaited (fuel + 1)) := by
  intro marks reached
  rw [Grammar.awaited, ensures_here_bind, ensures_accept_bind]
  split
  case isTrue isAwait =>
    rw [if_pos rfl]
    refine Keeps.traced ?_ (reached.drop isAwait rfl)
    exact tracing.primary.keeps.bind fun _ _ => keeps_pure rfl
  case isFalse => exact tracing.primary marks reached

/-- An atom with its trailers is traced. -/
theorem primary_succ (tracing : IsTracing start fuel) :
    Traces start (Grammar.primary (fuel + 1)) := by
  intro marks reached
  rw [Grammar.primary, ensures_here_bind, ensures_bind]
  refine (tracing.atom marks reached).imp ?_
  rintro first middle ⟨behind, traced⟩
  exact tracing.trailers marks first middle reached behind traced

/-- A traced value stays traced behind its calls, subscripts and members. -/
theorem trailers_succ
    (tracing : IsTracing start fuel)
    (origin : List Mark)
    (value : Expression)
    (marks : List Mark)
    (reachedOrigin : Reached start origin)
    (reached : Reached start marks)
    (traced : IsTraced start origin value) :
    Ensures (Grammar.trailers (fuel + 1) (nextNumber origin) value) marks fun result rest =>
      Reached start rest ∧ IsTraced start origin result := by
  rw [Grammar.trailers, ensures_accept_bind]
  split
  case isTrue isPoint =>
    rw [if_pos rfl, ensures_peek_bind, kind_getD_head?]
    split
    case h_1 isName =>
      rw [ensures_advance_bind]
      exact tracing.trailers origin _ _ reachedOrigin
        ((reached.drop isPoint rfl).drop isName rfl) (.of_isOther rfl)
    case h_2 => exact ensures_refuse
  rw [if_neg Bool.false_ne_true, ensures_isNext_bind]
  split
  case isTrue called =>
    have isNext := of_decide_eq_true called
    rw [ensures_here_bind, ensures_advance_bind, ensures_bind]
    refine (tracing.arguments _ true false false _ (reached.drop isNext rfl)).imp ?_
    rintro ⟨positional, named⟩ middle ⟨behind, located⟩
    exact tracing.trailers origin _ middle reachedOrigin behind
      ⟨.call reachedOrigin traced.leads located named, trivial⟩
  rw [ensures_accept_bind]
  split
  case isTrue isBracket =>
    have behind := reached.drop isBracket rfl
    rw [if_pos rfl, ensures_here_bind, ensures_bind]
    refine (tracing.slice _ behind).imp ?_
    rintro first middle ⟨behind, -⟩
    rw [ensures_isNext_bind]
    split
    · rw [ensures_bind]
      refine (tracing.slices _ behind).imp ?_
      rintro others ends ⟨behind, -⟩
      rw [ensures_bind]
      refine (passes_require rfl ends behind).imp ?_
      rintro - rest ⟨behind, -⟩
      exact tracing.trailers origin _ rest reachedOrigin behind (.of_isOther rfl)
    · rw [ensures_bind]
      refine (passes_require rfl middle behind).imp ?_
      rintro - rest ⟨behind, -⟩
      exact tracing.trailers origin _ rest reachedOrigin behind (.of_isOther rfl)
  case isFalse => exact ensures_pure.mpr ⟨reached, traced⟩

/-- The arguments behind a comma stand in the marks. -/
theorem argumentsAfter_succ
    (tracing : IsTracing start fuel)
    (opening : Nat)
    (named spread : Bool) :
    Keeps start (Grammar.argumentsAfter (fuel + 1) opening named spread) fun taken =>
      ∀ argument ∈ taken.1, Located start argument := by
  rw [Grammar.argumentsAfter]
  refine (passes_accept rfl).bind fun _ _ => ?_
  split
  · exact tracing.arguments opening false named spread
  · exact (passes_require rfl).bind fun _ _ => keeps_pure (List.forall_mem_nil _)

/-- An argument without a name and those behind it stand in the marks. -/
theorem positionalArgument_succ
    (tracing : IsTracing start fuel)
    (opening : Nat)
    (isFirst named spread : Bool) :
    Keeps start (Grammar.positionalArgument (fuel + 1) opening isFirst named spread) fun taken =>
      ∀ argument ∈ taken.1, Located start argument := by
  rw [Grammar.positionalArgument]
  split
  · refine passes_peek.bind fun mark _ => ?_
    split
    · exact passes_peekSecond.bind fun _ _ => keeps_throw _
    · exact keeps_refuse
  · refine tracing.namedExpression.keeps.bind fun value located => ?_
    have more : Keeps start
        (Grammar.argumentsAfter fuel opening named spread >>= fun taken =>
          (pure (value :: taken.1, taken.2) : Reader (List Expression × Bool))) fun taken =>
        ∀ argument ∈ taken.1, Located start argument :=
      (tracing.argumentsAfter opening named spread).bind fun _ others =>
        keeps_pure (List.forall_mem_cons.mpr ⟨located, others⟩)
    refine passes_isComprehension.bind fun _ _ => ?_
    split
    · exact tracing.comprehension.bind fun _ _ => (passes_require rfl).bind fun _ _ =>
        keeps_pure (List.forall_mem_singleton.mpr (.other _ _ _))
    · exact more

/-- The arguments of a call stand in the marks. -/
theorem arguments_succ
    (tracing : IsTracing start fuel)
    (opening : Nat)
    (isFirst named spread : Bool) :
    Keeps start (Grammar.arguments (fuel + 1) opening isFirst named spread) fun taken =>
      ∀ argument ∈ taken.1, Located start argument := by
  have positional := tracing.positionalArgument opening isFirst named spread
  intro marks reached
  rw [Grammar.arguments, ensures_accept_bind]
  split
  case isTrue closes =>
    exact ensures_pure.mpr ⟨reached.drop closes rfl, List.forall_mem_nil _⟩
  rw [if_neg Bool.false_ne_true, ensures_here_bind, ensures_peek_bind, kind_getD_head?]
  split
  case h_1 isStar =>
    split
    · exact ensures_refuse
    · refine Keeps.advance ?_ reached isStar rfl
      exact tracing.expression.keeps.bind fun _ _ =>
        (tracing.argumentsAfter opening named spread).bind fun _ others =>
          keeps_pure (List.forall_mem_cons.mpr ⟨.other _ _ _, others⟩)
  case h_2 isSpread =>
    refine Keeps.advance ?_ reached isSpread rfl
    exact tracing.expression.keeps.bind fun _ _ => tracing.argumentsAfter opening true true
  case h_3 isName =>
    rw [ensures_peekSecond_bind, kind_getD_head?]
    split
    case isTrue isSign =>
      rw [ensures_advance_bind]
      refine Keeps.advance ?_ (reached.drop isName rfl) isSign rfl
      exact tracing.expression.keeps.bind fun _ _ => tracing.argumentsAfter opening true spread
    case isFalse => exact positional marks reached
  case h_4 => exact positional marks reached

/-! ## Parameters -/

theorem afterParameter_succ
    (tracing : IsTracing start fuel)
    (state : Parameters)
    (defaults : List Expression) :
    Passes start (Grammar.afterParameter (fuel + 1) state defaults) := by
  rw [Grammar.afterParameter]
  refine (passes_accept rfl).bind fun _ _ => ?_
  split
  · exact tracing.parameters state defaults
  · exact (passes_require rfl).bind fun _ _ => keeps_pure trivial

/-- The parameters of a function without a name only take marks. -/
theorem parameters_succ
    (tracing : IsTracing start fuel)
    (state : Parameters)
    (defaults : List Expression) :
    Passes start (Grammar.parameters (fuel + 1) state defaults) := by
  rw [Grammar.parameters]
  refine Keeps.unless rfl fun _ => ?_
  dsimp only
  split
  · exact keeps_pure trivial
  intro marks reached
  rw [ensures_peek_bind, kind_getD_head?]
  split
  case h_1 isSlash => exact Keeps.advance (tracing.afterParameter _ _) reached isSlash rfl
  case h_2 isStar =>
    rw [ensures_advance_bind, ensures_peek_bind, kind_getD_head?]
    split
    case h_1 isName =>
      exact Keeps.advance (tracing.afterParameter _ _) (reached.drop isStar rfl) isName rfl
    case h_2 isComma =>
      exact Keeps.advance (tracing.parameters _ _) (reached.drop isStar rfl) isComma rfl
    case h_3 => exact ensures_refuse
  case h_3 => exact ensures_refuse
  case h_4 => exact ensures_refuse
  case h_5 isStars _ _ =>
    rw [ensures_advance_bind, ensures_peek_bind, kind_getD_head?]
    split
    case h_1 isName =>
      exact Keeps.advance (tracing.afterParameter _ _) (reached.drop isStars rfl) isName rfl
    case h_2 => exact ensures_refuse
  case h_6 => exact ensures_refuse
  case h_7 defaulted _ _ isName =>
    refine Keeps.advance ?_ reached isName rfl
    refine (passes_accept rfl).bind fun _ _ => ?_
    split
    · exact tracing.expression.keeps.bind fun _ _ => tracing.afterParameter _ _
    · split
      · exact keeps_refuse
      · exact tracing.afterParameter _ _
  case h_8 isName _ _ =>
    refine Keeps.advance ?_ reached isName rfl
    refine (passes_accept rfl).bind fun _ _ => ?_
    split
    · exact tracing.expression.keeps.bind fun _ _ => tracing.afterParameter _ _
    · exact tracing.afterParameter _ _
  case h_9 => exact ensures_refuse

/-! ## Subscripts and comprehensions -/

theorem slice_succ (tracing : IsTracing start fuel) : Passes start (Grammar.slice (fuel + 1)) := by
  rw [Grammar.slice]
  refine passes_here.bind fun _ _ => (passes_accept rfl).bind fun _ _ => ?_
  split
  · exact tracing.expression.keeps.bind fun _ _ => keeps_pure trivial
  refine (passes_accept rfl).bind fun _ _ => ?_
  split
  · exact tracing.sliceAfter _ _
  refine passes_isNaming.bind fun _ _ => tracing.namedExpression.keeps.bind fun _ _ => ?_
  refine Keeps.unless rfl fun _ => ?_
  dsimp only
  split
  · exact tracing.sliceAfter _ _
  · exact keeps_pure trivial

theorem sliceAfter_succ
    (tracing : IsTracing start fuel)
    (column : Nat)
    (bounds : List Expression) :
    Passes start (Grammar.sliceAfter (fuel + 1) column bounds) := by
  rw [Grammar.sliceAfter]
  refine tracing.optionalBound.bind fun _ _ => (passes_accept rfl).bind fun _ _ => ?_
  split
  · exact tracing.optionalBound.bind fun _ _ => keeps_pure trivial
  · exact keeps_pure trivial

theorem optionalBound_succ (tracing : IsTracing start fuel) :
    Passes start (Grammar.optionalBound (fuel + 1)) := by
  rw [Grammar.optionalBound]
  refine passes_peek.bind fun mark _ => ?_
  split
  case h_4 => exact tracing.expression.keeps.bind fun _ _ => keeps_pure trivial
  all_goals exact keeps_pure trivial

/-- A subscript only takes marks. -/
theorem slices_succ (tracing : IsTracing start fuel) :
    Passes start (Grammar.slices (fuel + 1)) := by
  rw [Grammar.slices]
  refine (passes_accept rfl).bind fun _ _ => ?_
  split
  · refine (passes_isNext _).bind fun _ _ => ?_
    split
    · exact keeps_pure trivial
    · exact tracing.slice.bind fun _ _ => tracing.slices.bind fun _ _ => keeps_pure trivial
  · exact keeps_pure trivial

/-- The clauses of a comprehension only take marks. -/
theorem comprehension_succ (tracing : IsTracing start fuel) :
    Passes start (Grammar.comprehension (fuel + 1)) := by
  rw [Grammar.comprehension]
  refine (passes_accept rfl).bind fun _ _ => (passes_require rfl).bind fun _ _ =>
    tracing.targets.bind fun _ _ => (passes_require rfl).bind fun _ _ =>
    tracing.disjunction.keeps.bind fun _ _ => tracing.conditions.bind fun _ _ =>
    passes_isComprehension.bind fun _ _ => ?_
  split
  · exact tracing.comprehension.bind fun _ _ => keeps_pure trivial
  · exact keeps_pure trivial

theorem conditions_succ (tracing : IsTracing start fuel) :
    Passes start (Grammar.conditions (fuel + 1)) := by
  rw [Grammar.conditions]
  exact passes_further rfl tracing.disjunction.keeps.passes tracing.conditions

/-- The targets of a loop only take marks. -/
theorem targets_succ (tracing : IsTracing start fuel) :
    Passes start (Grammar.targets (fuel + 1)) := by
  rw [Grammar.targets]
  refine passes_here.bind fun _ _ => tracing.target.bind fun _ _ =>
    (passes_isNext _).bind fun _ _ => ?_
  split
  · exact tracing.targetsAfter.bind fun _ _ => keeps_pure trivial
  · exact keeps_pure trivial

theorem targetsAfter_succ (tracing : IsTracing start fuel) :
    Passes start (Grammar.targetsAfter (fuel + 1)) := by
  rw [Grammar.targetsAfter]
  refine (passes_accept rfl).bind fun _ _ => ?_
  split
  · refine (passes_isNext _).bind fun _ _ => ?_
    split
    · exact keeps_pure trivial
    · exact tracing.target.bind fun _ _ => tracing.targetsAfter.bind fun _ _ => keeps_pure trivial
  · exact keeps_pure trivial

theorem target_succ (tracing : IsTracing start fuel) :
    Passes start (Grammar.target (fuel + 1)) := by
  rw [Grammar.target]
  refine passes_here.bind fun _ _ => (passes_accept rfl).bind fun _ _ =>
    tracing.primary.keeps.bind fun _ _ => ?_
  split
  · exact keeps_refuse
  split
  · exact keeps_pure trivial
  · exact keeps_pure trivial

/-! ## Lists of elements -/

/-- The elements of a sequence only take marks. -/
theorem elements_succ
    (tracing : IsTracing start fuel)
    (closing : TokenKind)
    (single : closing.fieldCount = 0) :
    Passes start (Grammar.elements (fuel + 1) closing) := by
  rw [Grammar.elements]
  refine (passes_accept single).bind fun _ _ => ?_
  split
  · exact keeps_pure trivial
  refine (passes_require rfl).bind fun _ _ => (passes_accept single).bind fun _ _ => ?_
  split
  · exact keeps_pure trivial
  · exact tracing.starredOrNamed.keeps.bind fun _ _ => (tracing.elements closing single).bind
      fun _ _ => keeps_pure trivial

/-- The entries of a mapping only take marks. -/
theorem entries_succ (tracing : IsTracing start fuel) :
    Passes start (Grammar.entries (fuel + 1)) := by
  rw [Grammar.entries]
  refine (passes_accept rfl).bind fun _ _ => ?_
  split
  · exact keeps_pure trivial
  refine (passes_require rfl).bind fun _ _ => (passes_accept rfl).bind fun _ _ => ?_
  split
  · exact keeps_pure trivial
  refine (passes_accept rfl).bind fun _ _ => ?_
  split
  · exact (tracing.operation 1).keeps.bind fun _ _ => tracing.entries.bind fun _ _ =>
      keeps_pure trivial
  · exact tracing.expression.keeps.bind fun _ _ => (passes_require rfl).bind fun _ _ =>
      tracing.entryValue.bind fun _ _ => tracing.entries.bind fun _ _ => keeps_pure trivial

theorem entryValue_succ (tracing : IsTracing start fuel) :
    Passes start (Grammar.entryValue (fuel + 1)) := by
  rw [Grammar.entryValue]
  refine passes_here.bind fun _ _ => (passes_accept rfl).bind fun _ _ => ?_
  split
  · exact (tracing.operation 1).keeps.bind fun _ _ => keeps_throw _
  · exact tracing.expression.keeps.passes

theorem starredExpression_succ (tracing : IsTracing start fuel) :
    Passes start (Grammar.starredExpression (fuel + 1)) := by
  rw [Grammar.starredExpression]
  refine passes_here.bind fun _ _ => (passes_accept rfl).bind fun _ _ => ?_
  split
  · exact (tracing.operation 1).keeps.bind fun _ _ => keeps_pure trivial
  · exact tracing.expression.keeps.passes

theorem starredExpressions_succ (tracing : IsTracing start fuel) :
    Passes start (Grammar.starredExpressions (fuel + 1)) := by
  rw [Grammar.starredExpressions]
  refine passes_here.bind fun _ _ => tracing.starredExpression.bind fun _ _ =>
    (passes_isNext _).bind fun _ _ => ?_
  split
  · exact tracing.starredExpressionsAfter.bind fun _ _ => keeps_pure trivial
  · exact keeps_pure trivial

theorem starredExpressionsAfter_succ (tracing : IsTracing start fuel) :
    Passes start (Grammar.starredExpressionsAfter (fuel + 1)) := by
  rw [Grammar.starredExpressionsAfter]
  refine (passes_accept rfl).bind fun _ _ => ?_
  split
  · refine passes_peek.bind fun _ _ => ?_
    split
    case h_4 =>
      exact tracing.starredExpression.bind fun _ _ => tracing.starredExpressionsAfter.bind
        fun _ _ => keeps_pure trivial
    all_goals exact keeps_pure trivial
  · exact keeps_pure trivial

theorem yielded_succ (tracing : IsTracing start fuel) :
    Keeps start (Grammar.yielded (fuel + 1)) (·.isOther = true) := by
  rw [Grammar.yielded]
  refine passes_here.bind fun _ _ => (passes_require rfl).bind fun _ _ =>
    (passes_accept rfl).bind fun _ _ => ?_
  split
  · exact tracing.expression.keeps.bind fun _ _ => keeps_pure rfl
  refine (passes_isNext _).bind fun _ _ => ?_
  split
  · exact keeps_pure rfl
  · exact tracing.starredExpressions.bind fun _ _ => keeps_pure rfl

/-! ## Formatted texts -/

/-- The fields of formatted texts only take marks. -/
theorem fields_succ
    (tracing : IsTracing start fuel)
    (bodies : List (Option (List (List Mark)))) :
    Passes start (Grammar.fields (fuel + 1) bodies) := by
  cases bodies with
  | nil =>
      rw [Grammar.fields]
      · exact keeps_pure trivial
      · exact Nat.succ_ne_zero fuel
  | cons body bodies =>
      cases body with
      | none =>
          rw [Grammar.fields]
          · exact keeps_refuse
          · exact Nat.succ_ne_zero fuel
      | some marks =>
          rw [Grammar.fields]
          exact (tracing.fieldExpressions marks).bind fun _ _ => (tracing.fields bodies).bind
            fun _ _ => keeps_pure trivial

/-- A field is read from its own tokens, and then those behind it are read. -/
theorem fieldExpressions_succ
    (tracing : IsTracing start fuel)
    (fields : List (List Mark)) :
    Passes start (Grammar.fieldExpressions (fuel + 1) fields) := by
  cases fields with
  | nil =>
      rw [Grammar.fieldExpressions]
      · exact keeps_pure trivial
      · exact Nat.succ_ne_zero fuel
  | cons marks others =>
      intro outside reached
      rw [Grammar.fieldExpressions]
      change Ensures (Grammar.starredExpressions fuel >>= fun value =>
        set outside >>= fun _ => Grammar.fieldExpressions fuel others >>= fun rest =>
          (pure (value :: rest) : Reader (List Expression))) marks _
      rw [ensures_bind]
      rintro value rest -
      exact ((tracing.fieldExpressions others).bind fun _ _ => keeps_pure trivial) outside reached

/-- Texts that stand side by side only take marks. -/
theorem passes_texts
    (bytes formatted : Bool)
    (bodies : List (Option (List (List Mark))))
    (fuel : Nat) : Passes start (texts bytes formatted bodies fuel) := by
  induction fuel generalizing formatted bodies with
  | zero =>
      rw [texts]
      exact keeps_refuse
  | succ fuel inductionHypothesis =>
      intro marks reached
      rw [texts, ensures_peek_bind, kind_getD_head?]
      split
      case h_1 isText =>
        split
        · exact ensures_refuse
        · exact Keeps.advance (inductionHypothesis _ _) reached isText rfl
      case h_2 isFormatted =>
        split
        · exact ensures_refuse
        · exact Keeps.advance (inductionHypothesis _ _) reached isFormatted rfl
      case h_3 count isFormatted =>
        split
        · exact ensures_refuse
        · obtain ⟨rest, same⟩ := exists_cons_of_nextKind isFormatted (by simp)
          have behindFields : Reached start (behindFields count (marks.drop 1)) := by
            rw [same] at reached ⊢
            exact reached.next
          rw [ensures_advance_bind, ensures_bind]
          refine (ensures_takeFields count _).imp ?_
          rintro fields behind rfl
          exact inductionHypothesis _ _ _ behindFields
      case h_4 => exact ensures_pure.mpr ⟨reached, trivial⟩

/-! ## Atoms -/

/-- What stands in braces is of a foreign form. -/
theorem brace_succ (tracing : IsTracing start fuel) (column : Nat) :
    Keeps start (Grammar.brace (fuel + 1) column) (·.isOther = true) := by
  have closing : Passes start (require (.symbol "\x7d")) := passes_require rfl
  rw [Grammar.brace]
  refine (passes_accept rfl).bind fun _ _ => ?_
  split
  · exact keeps_pure rfl
  refine (passes_accept rfl).bind fun _ _ => ?_
  split
  · exact (tracing.operation 1).keeps.bind fun _ _ => tracing.entries.bind fun _ _ =>
      keeps_pure rfl
  refine passes_isNaming.bind fun _ _ => tracing.starredOrNamed.keeps.bind fun _ _ => ?_
  refine Keeps.unless rfl fun _ => ?_
  dsimp only
  split
  · refine tracing.entryValue.bind fun _ _ => passes_isComprehension.bind fun _ _ => ?_
    split
    · exact tracing.comprehension.bind fun _ _ => closing.bind fun _ _ => keeps_pure rfl
    · exact tracing.entries.bind fun _ _ => keeps_pure rfl
  · refine passes_isComprehension.bind fun _ _ => ?_
    split
    · exact tracing.comprehension.bind fun _ _ => closing.bind fun _ _ => keeps_pure rfl
    · exact (tracing.elements _ rfl).bind fun _ _ => keeps_pure rfl

/-- What stands in parentheses is traced. -/
theorem parenthesis_succ (tracing : IsTracing start fuel) (column : Nat) :
    Traces start (Grammar.parenthesis (fuel + 1) column) := by
  intro marks reached
  rw [Grammar.parenthesis, ensures_accept_bind]
  split
  case isTrue closes => exact ensures_pure.mpr ⟨reached.drop closes rfl, .of_isOther rfl⟩
  rw [if_neg Bool.false_ne_true, ensures_isNext_bind]
  split
  · refine Keeps.traced ?_ reached
    exact tracing.yielded.bind fun _ other => (passes_require rfl).bind fun _ _ => keeps_pure other
  rw [ensures_bind]
  refine (tracing.starredOrNamed marks reached).imp ?_
  rintro first middle ⟨behind, traced⟩
  rw [ensures_bind]
  refine (passes_isComprehension middle behind).imp ?_
  rintro found same ⟨behind, -⟩
  split
  · refine Keeps.traced ?_ behind
    exact tracing.comprehension.bind fun _ _ => (passes_require rfl).bind fun _ _ => keeps_pure rfl
  rw [ensures_isNext_bind]
  split
  · refine Keeps.traced ?_ behind
    exact (tracing.elements _ rfl).bind fun _ _ => keeps_pure rfl
  split
  · exact ensures_refuse
  · rw [ensures_bind, ensures_require]
    exact fun closes => ensures_pure.mpr ⟨behind.drop closes rfl, traced⟩

/-- An atom is traced. -/
theorem atom_succ (tracing : IsTracing start fuel) :
    Traces start (Grammar.atom (fuel + 1)) := by
  intro marks reached
  rw [Grammar.atom, ensures_here_bind, ensures_peek_bind, kind_getD_head?]
  split
  case h_1 value isNumber =>
    rw [ensures_advance_bind, ensures_pure]
    exact ⟨reached.drop isNumber rfl, .number _ _, trivial⟩
  case h_3 name isName =>
    obtain ⟨rest, same⟩ := exists_cons_of_nextKind isName (by simp)
    rw [ensures_advance_bind, ensures_pure]
    exact ⟨reached.drop isName rfl, .name (same ▸ reached), [], rest, same, List.forall_mem_nil _⟩
  case h_8 bytes _ =>
    refine Keeps.traced ?_ reached
    refine (passes_texts bytes false [] fuel).bind fun taken _ => ?_
    dsimp only
    split
    · exact (tracing.fields _).bind fun _ _ => keeps_pure rfl
    · exact keeps_pure rfl
  case h_9 =>
    refine Keeps.traced ?_ reached
    exact (passes_texts false true [] fuel).bind fun _ _ => (tracing.fields _).bind fun _ _ =>
      keeps_pure rfl
  case h_10 opens =>
    rw [ensures_advance_bind]
    refine (tracing.parenthesis _ _ (reached.drop opens rfl)).imp ?_
    rintro value rest ⟨behind, traced⟩
    exact ⟨behind, traced.located, traced.leads.opening opens⟩
  case h_11 opens =>
    rw [ensures_advance_bind]
    refine Keeps.traced ?_ (reached.drop opens rfl)
    refine (passes_accept rfl).bind fun _ _ => ?_
    split
    · exact keeps_pure rfl
    refine tracing.starredOrNamed.keeps.bind fun _ _ => passes_isComprehension.bind fun _ _ => ?_
    split
    · exact tracing.comprehension.bind fun _ _ => (passes_require rfl).bind fun _ _ =>
        keeps_pure rfl
    · exact (tracing.elements _ rfl).bind fun _ _ => keeps_pure rfl
  case h_12 opens =>
    rw [ensures_advance_bind]
    exact (tracing.brace _).traced (reached.drop opens rfl)
  case h_13 => exact ensures_refuse
  all_goals
    rename_i isConstant
    rw [ensures_advance_bind, ensures_pure]
    exact ⟨reached.drop isConstant rfl, .of_isOther rfl⟩

end IsTracing

/-- By induction on the bound: every reader calls the others with the next smaller one. -/
theorem isTracing (start : List Mark) (fuel : Nat) : IsTracing start fuel := by
  induction fuel with
  | zero =>
      constructor <;>
        simp only [Keeps, Traces, Grammar.expression, Grammar.namedExpression,
          Grammar.starredOrNamed, Grammar.parameters, Grammar.afterParameter, Grammar.disjunction,
          Grammar.disjuncts, Grammar.conjunction, Grammar.conjuncts, Grammar.inversion,
          Grammar.compared, Grammar.operation, Grammar.operationAfter, Grammar.factor,
          Grammar.awaited,
          Grammar.primary, Grammar.trailers, Grammar.arguments, Grammar.positionalArgument,
          Grammar.argumentsAfter, Grammar.slice, Grammar.sliceAfter, Grammar.optionalBound,
          Grammar.slices, Grammar.comprehension, Grammar.conditions, Grammar.targets,
          Grammar.targetsAfter, Grammar.target, Grammar.atom, Grammar.parenthesis, Grammar.brace,
          Grammar.elements, Grammar.entries, Grammar.entryValue, Grammar.yielded,
          Grammar.starredExpressions, Grammar.starredExpressionsAfter, Grammar.starredExpression,
          Grammar.fields, Grammar.fieldExpressions, ensures_refuse, implies_true]
  | succ fuel tracing =>
      exact {
        expression := tracing.expression_succ
        namedExpression := tracing.namedExpression_succ
        starredOrNamed := tracing.starredOrNamed_succ
        parameters := tracing.parameters_succ
        afterParameter := tracing.afterParameter_succ
        disjunction := tracing.disjunction_succ
        disjuncts := tracing.disjuncts_succ
        conjunction := tracing.conjunction_succ
        conjuncts := tracing.conjuncts_succ
        inversion := tracing.inversion_succ
        compared := tracing.compared_succ
        operation := tracing.operation_succ
        operationAfter := tracing.operationAfter_succ
        factor := tracing.factor_succ
        awaited := tracing.awaited_succ
        primary := tracing.primary_succ
        trailers := tracing.trailers_succ
        arguments := tracing.arguments_succ
        positionalArgument := tracing.positionalArgument_succ
        argumentsAfter := tracing.argumentsAfter_succ
        slice := tracing.slice_succ
        sliceAfter := tracing.sliceAfter_succ
        optionalBound := tracing.optionalBound_succ
        slices := tracing.slices_succ
        comprehension := tracing.comprehension_succ
        conditions := tracing.conditions_succ
        targets := tracing.targets_succ
        targetsAfter := tracing.targetsAfter_succ
        target := tracing.target_succ
        atom := tracing.atom_succ
        parenthesis := tracing.parenthesis_succ
        brace := tracing.brace_succ
        elements := tracing.elements_succ
        entries := tracing.entries_succ
        entryValue := tracing.entryValue_succ
        yielded := tracing.yielded_succ
        starredExpressions := tracing.starredExpressions_succ
        starredExpressionsAfter := tracing.starredExpressionsAfter_succ
        starredExpression := tracing.starredExpression_succ
        fields := tracing.fields_succ
        fieldExpressions := tracing.fieldExpressions_succ }

/-! ## Whole texts -/

/-- The elements of an outermost sequence only take marks. -/
theorem passes_outermostAfter (start : List Mark) (bound fuel : Nat) :
    Passes start (outermostAfter bound fuel) := by
  induction fuel with
  | zero =>
      rw [outermostAfter]
      exact keeps_refuse
  | succ fuel inductionHypothesis =>
      rw [outermostAfter]
      refine (passes_accept rfl).bind fun _ _ => ?_
      split
      · refine passes_peek.bind fun _ _ => ?_
        split
        · exact keeps_pure trivial
        · exact keeps_pure trivial
        · exact (isTracing start bound).expression.keeps.bind fun _ _ =>
            inductionHypothesis.bind fun _ _ => keeps_pure trivial
      · exact keeps_pure trivial

/-- What is read from all tokens of a text is located among them. -/
theorem located_outermost (bound : Nat) (start : List Mark) :
    Ensures (outermost bound) start fun value _ => Located start value := by
  have finishes {value : Expression} (located : Located start value) (rest : List Mark) :
      Ensures (finish bound >>= fun _ => pure value) rest fun value _ => Located start value := by
    rw [ensures_bind]
    exact fun _ _ _ => ensures_pure.mpr located
  rw [outermost, ensures_here_bind, ensures_bind]
  refine ((isTracing start bound).expression start .start).imp ?_
  rintro first middle ⟨behind, traced⟩
  rw [ensures_isNext_bind]
  split
  · rw [ensures_bind]
    refine (passes_outermostAfter start bound bound middle behind).imp ?_
    exact fun others rest _ => finishes (.other _ _ _) rest
  · exact finishes traced.located middle

end Grammar

namespace Expression

open Reader

/-- An expression that is read from tokens is located among them. -/
theorem located_of_ofKinds
    {kinds : List TokenKind}
    {tree : Expression}
    (read : ofKinds kinds = .ok tree) : Located (marksFrom 1 kinds) tree := by
  rw [ofKinds, StateT.run'] at read
  cases taken : Grammar.outermost (32 * (kinds.length + 2)) (marksFrom 1 kinds) with
  | error number =>
      rw [taken] at read
      cases read
  | ok pair =>
      obtain ⟨value, rest⟩ := pair
      rw [taken] at read
      cases read
      exact Grammar.located_outermost _ _ _ _ taken

end Expression
end ShaderGraph
