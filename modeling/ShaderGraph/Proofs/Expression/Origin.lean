import ShaderGraph.Proofs.Expression.Reader

/-!
# The tokens that names are read from

The grammar reads tokens from left to right and passes over the tokens of the fields of a
formatted text at once. So a name in an expression is read from a token that is reached in
this way, unless it stands in a form without a value, and it stands where this token does. A
call stands where the tokens of what is called start. If that is a name, they are the token
of the name and parentheses that open around it.
-/

namespace ShaderGraph

/-- The number of fields whose tokens stand behind a token. -/
def TokenKind.fieldCount : TokenKind -> Nat
  | .formatted (some count) => count
  | _ => 0

/-- Whether an expression is of a form without a value. -/
def Expression.isOther : Expression -> Bool
  | .other _ _ _ => true
  | _ => false

namespace Reader

/-! ## Reached tokens -/

/-- The tokens behind fields. -/
def behindFields : Nat -> List Mark -> List Mark
  | 0, marks => marks
  | count + 1, marks => behindFields count (splitField 0 marks).2

/-- Tokens are left when others have been read one by one, each with all its fields. -/
inductive Reached (start : List Mark) : List Mark -> Prop
  | start : Reached start start
  | next
      {mark : Mark}
      {rest : List Mark}
      (reached : Reached start (mark :: rest)) :
      Reached start (behindFields mark.kind.fieldCount rest)

/-- The number of the next token. -/
def nextNumber (marks : List Mark) : Nat :=
  (marks.head?.getD ⟨.stop, 0⟩).number

/-- If an expression is a name, tokens lead to it: parentheses open before its own token. -/
def Leads (origin : List Mark) : Expression -> Prop
  | .name column identifier =>
      ∃ opened rest, origin = opened ++ ⟨.identifier identifier, column⟩ :: rest ∧
        ∀ mark ∈ opened, mark.kind = .symbol "("
  | _ => True

/-- The names in an expression that are evaluated, and the calls of names, stand where the
tokens do that they are read from. -/
inductive Located (start : List Mark) : Expression -> Prop
  | number (column : Nat) (value : Numeral) : Located start (.number column value)
  | name
      {column : Nat}
      {identifier : String}
      {rest : List Mark}
      (reached : Reached start (⟨.identifier identifier, column⟩ :: rest)) :
      Located start (.name column identifier)
  | signed
      {operand : Expression}
      (located : Located start operand)
      (column : Nat)
      (negative : Bool) : Located start (.signed column negative operand)
  | binary
      {left right : Expression}
      (locatedLeft : Located start left)
      (locatedRight : Located start right)
      (column : Nat)
      (operator : Operator) : Located start (.binary column operator left right)
  | call
      {origin : List Mark}
      {callee : Expression}
      {arguments : List Expression}
      (reached : Reached start origin)
      (leads : Leads origin callee)
      (located : ∀ argument ∈ arguments, Located start argument)
      (named : Bool) : Located start (.call (nextNumber origin) callee arguments named)
  | other (column : Nat) (form : Form) (parts : List Expression) :
      Located start (.other column form parts)

/-- An expression is read from tokens. -/
structure IsTraced (start origin : List Mark) (value : Expression) : Prop where
  located : Located start value
  leads : Leads origin value

section Marks

variable {start origin marks rest : List Mark} {kind : TokenKind}

/-- The marks behind a mark without fields are reached as well. -/
theorem Reached.drop
    (reached : Reached start marks)
    (isNext : nextKind marks = kind)
    (single : kind.fieldCount = 0) : Reached start (marks.drop 1) := by
  cases marks with
  | nil => exact reached
  | cons mark rest =>
      subst isNext
      have behind := reached.next
      change mark.kind.fieldCount = 0 at single
      rwa [single] at behind

/-- An expression of a foreign form is traced. -/
theorem IsTraced.of_isOther
    {value : Expression}
    (other : value.isOther = true) : IsTraced start origin value := by
  cases value with
  | other column form parts => exact ⟨.other column form parts, trivial⟩
  | _ => cases other

/-- A kind that is next and no stop stands at a mark. -/
theorem exists_cons_of_nextKind
    (isNext : nextKind marks = kind)
    (other : kind ≠ .stop) : ∃ rest, marks = ⟨kind, nextNumber marks⟩ :: rest := by
  cases marks with
  | nil => exact absurd isNext.symm other
  | cons mark rest =>
      subst isNext
      exact ⟨rest, rfl⟩

/-- A parenthesis that opens leads to what the tokens behind it lead to. -/
theorem Leads.opening
    {value : Expression}
    (leads : Leads (marks.drop 1) value)
    (isNext : nextKind marks = .symbol "(") : Leads marks value := by
  cases value with
  | name column identifier =>
      obtain ⟨opened, rest, same, opens⟩ := leads
      obtain ⟨behind, split⟩ := exists_cons_of_nextKind isNext (by simp)
      rw [split, List.drop_succ_cons, List.drop_zero] at same
      rw [split, same]
      exact ⟨_ :: opened, rest, rfl, List.forall_mem_cons.mpr ⟨rfl, opens⟩⟩
  | _ => trivial

end Marks

/-! ## Readers that reach tokens -/

/-- From reached tokens a reader reaches others, and its value satisfies a condition. -/
def Keeps (start : List Mark) (reader : Reader Value) (holds : Value -> Prop) : Prop :=
  ∀ marks, Reached start marks ->
    Ensures reader marks fun value rest => Reached start rest ∧ holds value

/-- From reached tokens a reader reaches others. -/
abbrev Passes (start : List Mark) (reader : Reader Value) : Prop :=
  Keeps start reader fun _ => True

/-- From reached tokens a reader reads an expression. -/
def Traces (start : List Mark) (reader : Reader Expression) : Prop :=
  ∀ marks, Reached start marks ->
    Ensures reader marks fun value rest => Reached start rest ∧ IsTraced start marks value

section Steps

variable {start origin marks : List Mark} {holds : Value -> Prop} {kind : TokenKind}

/-- Readers one after the other keep within the marks. -/
theorem Keeps.bind
    {first : Reader Value}
    {next : Value -> Reader Result}
    {outcome : Result -> Prop}
    (keeps : Keeps start first holds)
    (behind : ∀ value, holds value -> Keeps start (next value) outcome) :
    Keeps start (first >>= next) outcome := by
  intro marks reached
  rw [ensures_bind]
  exact (keeps marks reached).imp fun value rest kept => behind value kept.2 rest kept.1

/-- What keeps within the marks keeps a weaker property. -/
theorem Keeps.imp
    {reader : Reader Value}
    {weaker : Value -> Prop}
    (keeps : Keeps start reader holds)
    (implies : ∀ value, holds value -> weaker value) : Keeps start reader weaker :=
  fun marks reached => (keeps marks reached).imp fun value _ kept => kept.imp_right (implies value)

theorem Keeps.passes
    {reader : Reader Value}
    (keeps : Keeps start reader holds) : Passes start reader :=
  keeps.imp fun _ _ => trivial

/-- A reader that traces keeps within the marks. -/
theorem Traces.keeps
    {reader : Reader Expression}
    (traces : Traces start reader) : Keeps start reader (Located start) :=
  fun marks reached => (traces marks reached).imp fun _ _ kept => kept.imp_right IsTraced.located

/-- What is read in a form without a value may be read from anywhere. -/
theorem Keeps.traced
    {reader : Reader Expression}
    (keeps : Keeps start reader (·.isOther = true))
    (reached : Reached start marks) :
    Ensures reader marks fun value rest => Reached start rest ∧ IsTraced start origin value :=
  (keeps marks reached).imp fun _ _ kept => kept.imp_right .of_isOther

theorem keeps_pure {value : Value} (isValue : holds value) : Keeps start (pure value) holds :=
  fun _ reached => ensures_pure.mpr ⟨reached, isValue⟩

/-- A reader that refuses keeps within the marks. -/
theorem keeps_refuse : Keeps start refuse holds :=
  fun _ _ => ensures_refuse

theorem keeps_throw (number : Nat) : Keeps start (throw number) holds := by
  rintro marks - value rest ⟨⟩

theorem passes_peek : Passes start peek := by
  rintro marks reached value rest taken
  cases marks <;> cases taken <;> exact ⟨reached, trivial⟩

theorem passes_peekSecond : Passes start peekSecond := by
  rintro marks reached value rest taken
  rcases marks with _ | ⟨_, _ | _⟩ <;> cases taken <;> exact ⟨reached, trivial⟩

theorem passes_here : Passes start here :=
  passes_peek.bind fun _ _ => keeps_pure trivial

theorem passes_isNext (kind : TokenKind) : Passes start (isNext kind) :=
  passes_peek.bind fun _ _ => keeps_pure trivial

theorem passes_isComprehension : Passes start isComprehension :=
  passes_peek.bind fun _ _ => passes_peek.bind fun _ _ => keeps_pure trivial

theorem passes_isNaming : Passes start isNaming := by
  refine passes_peek.bind fun mark _ => ?_
  split
  · exact passes_peekSecond.bind fun _ _ => keeps_pure trivial
  · exact keeps_pure trivial

/-- Accepting a kind without fields takes marks only. -/
theorem passes_accept (single : kind.fieldCount = 0) : Passes start (accept kind) := by
  intro marks reached
  rw [← bind_pure (accept kind), ensures_accept_bind]
  split
  case isTrue isNext => exact ensures_pure.mpr ⟨reached.drop isNext single, trivial⟩
  case isFalse => exact ensures_pure.mpr ⟨reached, trivial⟩

/-- Requiring a kind without fields takes marks only. -/
theorem passes_require (single : kind.fieldCount = 0) : Passes start (require kind) := by
  intro marks reached
  rw [ensures_require]
  exact fun isNext => ⟨reached.drop isNext single, trivial⟩

/-- A token of a known kind is taken. -/
theorem Keeps.advance
    {next : Unit -> Reader Value}
    (keeps : Keeps start (next ()) holds)
    (reached : Reached start marks)
    (isNext : nextKind marks = kind)
    (single : kind.fieldCount = 0) :
    Ensures (advance >>= next) marks fun value rest => Reached start rest ∧ holds value :=
  keeps _ (reached.drop isNext single)

/-- A token that is left out under a condition may be taken otherwise. -/
theorem Keeps.unless
    {condition : Prop}
    [Decidable condition]
    {next : Bool -> Reader Value}
    (single : kind.fieldCount = 0)
    (keeps : ∀ accepted, Keeps start (next accepted) holds) :
    Keeps start (if condition then pure false >>= next else accept kind >>= next) holds := by
  split
  · rw [pure_bind]
    exact keeps false
  · exact (passes_accept single).bind fun accepted _ => keeps accepted

/-- Behind a token that is accepted further parts of a list are read. -/
theorem passes_further
    {first : Reader Value}
    {others : Reader (List Value)}
    (single : kind.fieldCount = 0)
    (passesFirst : Passes start first)
    (passesOthers : Passes start others) :
    Passes start
      (accept kind >>= fun accepted =>
        if accepted = true then
          first >>= fun next => others >>= fun rest => pure (next :: rest)
        else pure []) := by
  refine (passes_accept single).bind fun accepted _ => ?_
  split
  · exact passesFirst.bind fun _ _ => passesOthers.bind fun _ _ => keeps_pure trivial
  · exact keeps_pure trivial

/-- Taking fields leads behind them. -/
theorem ensures_takeFields (count : Nat) (marks : List Mark) :
    Ensures (takeFields count) marks fun _ rest => rest = behindFields count marks := by
  induction count generalizing marks with
  | zero => exact ensures_pure.mpr rfl
  | succ count inductionHypothesis =>
      intro fields rest taken
      have others : Ensures (takeFields count >>= fun fields =>
          (pure ((splitField 0 marks).1 :: fields) : Reader _)) (splitField 0 marks).2
          fun _ rest => rest = behindFields count (splitField 0 marks).2 := by
        rw [ensures_bind]
        exact (inductionHypothesis _).imp fun _ _ same => ensures_pure.mpr same
      exact others fields rest taken

end Steps
end Reader
end ShaderGraph
