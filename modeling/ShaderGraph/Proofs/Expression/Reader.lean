import ShaderGraph.Expression.Grammar

/-!
# Readers step by step

A reader starts with one of a few steps that look at the next tokens or take one. What it
does then is what the rest of it does with the tokens that are left, so the outcome of a
reader follows from its steps, whether it is to be known or whatever it ensures.
-/

namespace ShaderGraph

namespace Reader

/-- The kind of the next token. -/
def nextKind (marks : List Mark) : TokenKind :=
  (marks.head?.map Mark.kind).getD .stop

/-- Behind the last mark comes the stop. -/
theorem kind_getD_head? (marks : List Mark) :
    (marks.head?.getD ⟨.stop, 0⟩).kind = nextKind marks := by
  cases marks <;> rfl

/-- The tokens that a comparison starts with. -/
def comparisons : List TokenKind := [
  .symbol "==", .symbol "!=", .symbol "<", .symbol "<=", .symbol ">", .symbol ">=",
  .keyword "in", .keyword "is", .keyword "not"]

section Runs

variable {marks rest : List Mark} {kind : TokenKind}

/-- A reader goes on behind what the first one took. -/
theorem run_bind
    {first : Reader Value}
    {next : Value -> Reader Result}
    {value : Value}
    (taken : first.run marks = .ok (value, rest)) :
    (first >>= next).run marks = (next value).run rest := by
  rw [StateT.run_bind, taken]
  rfl

theorem run_peek_bind {next : Mark -> Reader Result} :
    (peek >>= next).run marks = (next (marks.head?.getD ⟨.stop, 0⟩)).run marks := by
  cases marks <;> rfl

theorem run_here_bind {next : Nat -> Reader Result} :
    (here >>= next).run marks = (next (marks.head?.getD ⟨.stop, 0⟩).number).run marks := by
  cases marks <;> rfl

theorem run_peekSecond_bind {next : Mark -> Reader Result} :
    (peekSecond >>= next).run marks =
      (next ((marks.drop 1).head?.getD ⟨.stop, 0⟩)).run marks := by
  rcases marks with _ | ⟨_, _ | _⟩ <;> rfl

variable {next : Bool -> Reader Result}

theorem run_isNext_bind :
    (isNext kind >>= next).run marks = (next (nextKind marks = kind)).run marks := by
  cases marks <;> rfl

theorem run_isNext_of_ne (other : nextKind marks ≠ kind) :
    (isNext kind >>= next).run marks = (next false).run marks := by
  rw [run_isNext_bind, decide_eq_false other]

/-- What is not next is not accepted. -/
theorem run_accept_of_ne (other : nextKind marks ≠ kind) :
    (accept kind >>= next).run marks = (next false).run marks := by
  rw [accept, bind_assoc, run_isNext_of_ne other]
  rfl

/-- What is next is accepted and taken. -/
theorem run_accept_of_eq (same : nextKind marks = kind) :
    (accept kind >>= next).run marks = (next true).run (marks.drop 1) := by
  rw [accept, bind_assoc, run_isNext_bind, decide_eq_true same]
  rfl

/-- A comprehension starts with one of two words only. -/
theorem run_isComprehension_of_ne
    (noFor : nextKind marks ≠ .keyword "for")
    (noAsync : nextKind marks ≠ .keyword "async") :
    (isComprehension >>= next).run marks = (next false).run marks := by
  rw [isComprehension, bind_assoc, run_peek_bind, bind_assoc, run_peek_bind, kind_getD_head?,
    decide_eq_false noFor, decide_eq_false noAsync]
  rfl

/-- A comparison starts with one of its signs only. -/
theorem run_comparison?_of_not_mem (other : nextKind marks ∉ comparisons) :
    (Grammar.comparison? >>= next).run marks = (next false).run marks := by
  rw [Grammar.comparison?, bind_assoc, run_peek_bind, kind_getD_head?]
  split
  all_goals first
    | rfl
    | (rename_i same; exact absurd (same ▸ by decide) other)

end Runs

/-- Whatever a reader takes from tokens, the value and the tokens behind it satisfy a
condition. -/
def Ensures
    (reader : Reader Value)
    (marks : List Mark)
    (condition : Value -> List Mark -> Prop) : Prop :=
  ∀ value rest, reader.run marks = .ok (value, rest) -> condition value rest

section Steps

variable {marks : List Mark}

/-- Readers with the same outcome ensure the same. -/
theorem ensures_congr
    {reader other : Reader Value}
    {otherMarks : List Mark}
    (same : reader.run marks = other.run otherMarks)
    {condition : Value -> List Mark -> Prop} :
    Ensures reader marks condition ↔ Ensures other otherMarks condition := by
  rw [Ensures, Ensures, same]

/-- Two readers ensure a condition if the second one does behind the first. -/
theorem ensures_bind
    {first : Reader Value}
    {next : Value -> Reader Result}
    {condition : Result -> List Mark -> Prop} :
    Ensures (first >>= next) marks condition ↔
      Ensures first marks fun value rest => Ensures (next value) rest condition := by
  unfold Ensures
  rw [StateT.run_bind]
  cases first.run marks with
  | error number =>
      refine iff_of_true ?_ ?_
      · rintro _ _ ⟨⟩
      · rintro _ _ ⟨⟩
  | ok taken =>
      constructor
      · rintro ensures _ _ ⟨⟩
        exact ensures
      · exact fun ensures => ensures _ _ rfl

/-- What ensures a condition ensures a weaker one. -/
theorem Ensures.imp
    {reader : Reader Value}
    {condition weaker : Value -> List Mark -> Prop}
    (ensures : Ensures reader marks condition)
    (implies : ∀ value rest, condition value rest -> weaker value rest) :
    Ensures reader marks weaker :=
  fun value rest taken => implies value rest (ensures value rest taken)

theorem ensures_pure
    {value : Value}
    {condition : Value -> List Mark -> Prop} :
    Ensures (pure value) marks condition ↔ condition value marks := by
  constructor
  · exact fun ensures => ensures _ _ rfl
  · rintro holds _ _ ⟨⟩
    exact holds

/-- A reader that refuses ensures every condition. -/
theorem ensures_refuse {condition : Value -> List Mark -> Prop} :
    Ensures refuse marks condition := by
  rintro value rest taken
  cases marks <;> cases taken

variable {condition : Result -> List Mark -> Prop}

theorem ensures_peek_bind {next : Mark -> Reader Result} :
    Ensures (peek >>= next) marks condition ↔
      Ensures (next (marks.head?.getD ⟨.stop, 0⟩)) marks condition :=
  ensures_congr run_peek_bind

theorem ensures_here_bind {next : Nat -> Reader Result} :
    Ensures (here >>= next) marks condition ↔
      Ensures (next (marks.head?.getD ⟨.stop, 0⟩).number) marks condition :=
  ensures_congr run_here_bind

theorem ensures_peekSecond_bind {next : Mark -> Reader Result} :
    Ensures (peekSecond >>= next) marks condition ↔
      Ensures (next ((marks.drop 1).head?.getD ⟨.stop, 0⟩)) marks condition :=
  ensures_congr run_peekSecond_bind

theorem ensures_advance_bind {next : Unit -> Reader Result} :
    Ensures (advance >>= next) marks condition ↔
      Ensures (next ()) (marks.drop 1) condition := Iff.rfl

theorem ensures_isNext_bind {kind : TokenKind} {next : Bool -> Reader Result} :
    Ensures (isNext kind >>= next) marks condition ↔
      Ensures (next (nextKind marks = kind)) marks condition :=
  ensures_congr run_isNext_bind

/-- Accepting a kind takes the next mark if it has this kind. -/
theorem ensures_accept_bind {kind : TokenKind} {next : Bool -> Reader Result} :
    Ensures (accept kind >>= next) marks condition ↔
      if nextKind marks = kind then Ensures (next true) (marks.drop 1) condition
      else Ensures (next false) marks condition := by
  split
  case isTrue same => exact ensures_congr (run_accept_of_eq same)
  case isFalse other => exact ensures_congr (run_accept_of_ne other)

/-- Requiring a kind takes the next mark and fails on any other kind. -/
theorem ensures_require
    {kind : TokenKind}
    {condition : Unit -> List Mark -> Prop} :
    Ensures (require kind) marks condition ↔
      (nextKind marks = kind -> condition () (marks.drop 1)) := by
  rw [require, ensures_accept_bind]
  split
  case isTrue same =>
    exact ⟨fun ensures _ => ensures_pure.mp ensures, fun holds => ensures_pure.mpr (holds same)⟩
  case isFalse other => exact iff_of_true ensures_refuse fun same => absurd same other

end Steps

end Reader
end ShaderGraph
