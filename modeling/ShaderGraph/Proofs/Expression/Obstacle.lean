import ShaderGraph.Expression.Evaluation

/-!
# What stops an evaluation

An expression without names either has a value or has a fault, unless one of its
parts stops the evaluation: a whole number beyond the range, or a remainder or a
smooth transition of plain operands whose divisor is zero. The other operators
and functions divide by zero, too, but go on with an infinity or with no number.
-/

namespace ShaderGraph

namespace Primitive

/-- The division of two operands is refused: both are plain and the divisor is zero. -/
def Refused (dividend divisor : Operand) : Prop :=
  (dividend.plain && divisor.plain && divisor.value == 0.0) = true

/-- The distance from one number to another. -/
def distance (start finish : Operand) : Operand :=
  ⟨finish.value - start.value, finish.plain && start.plain⟩

theorem quotient_eq_error_iff {dividend divisor : Operand} {obstacle : Obstacle} :
    quotient dividend divisor = .error obstacle ↔
      obstacle = .divisionByZero ∧ Refused dividend divisor := by
  rw [quotient, Refused]
  split
  case isTrue refused => simp only [refused, and_true, Except.error.injEq, eq_comm]
  case isFalse accepted => simp only [accepted, reduceCtorEq, and_false]

theorem remainder_eq_error_iff {dividend divisor : Operand} {obstacle : Obstacle} :
    remainder dividend divisor = .error obstacle ↔
      obstacle = .divisionByZero ∧ Refused dividend divisor := by
  rw [← quotient_eq_error_iff, remainder]
  cases quotient dividend divisor <;> simp [bind, Except.bind, pure, Except.pure]

theorem transition_eq_error_iff {lower upper value : Operand} {obstacle : Obstacle} :
    transition lower upper value = .error obstacle ↔
      obstacle = .divisionByZero ∧ Refused (distance lower value) (distance lower upper) := by
  rw [← quotient_eq_error_iff, transition]
  change (quotient (distance lower value) (distance lower upper) >>= _) = _ ↔ _
  cases quotient (distance lower value) (distance lower upper) <;>
    simp [bind, Except.bind, pure, Except.pure]

/-- Of the operators only the remainder has no value for some operands. -/
theorem operate_eq_error_iff {operator : Operator} {left right : Operand} {obstacle : Obstacle} :
    operate operator left right = .error obstacle ↔
      operator = .modulo ∧ obstacle = .divisionByZero ∧ Refused left right := by
  cases operator <;> simp [operate, remainder_eq_error_iff]

/-- Of the functions only the remainder and the smooth transition have no value for
some operands. -/
theorem of_result?_eq_error
    {name : String}
    {operands : List Operand}
    {obstacle : Obstacle}
    (stopped : result? name operands = some (.error obstacle)) :
    obstacle = .divisionByZero ∧
      ((name = "mod" ∧ ∃ left right, operands = [left, right] ∧ Refused left right) ∨
        (name = "smoothstep" ∧ ∃ lower upper value, operands = [lower, upper, value] ∧
          Refused (distance lower value) (distance lower upper))) := by
  unfold result? at stopped
  split at stopped
  case h_1 => cases stopped
  case h_2 => cases stopped
  case h_3 =>
    split at stopped
    case h_1 => cases stopped
    case h_2 => cases stopped
    case h_3 =>
      split at stopped
      case h_1 left right _ _ =>
        obtain ⟨rfl, refused⟩ := remainder_eq_error_iff.mp (Option.some.inj stopped)
        exact ⟨rfl, .inl ⟨rfl, left, right, rfl, refused⟩⟩
      case h_5 lower upper value _ _ =>
        obtain ⟨rfl, refused⟩ := transition_eq_error_iff.mp (Option.some.inj stopped)
        exact ⟨rfl, .inr ⟨rfl, lower, upper, value, rfl, refused⟩⟩
      all_goals cases stopped

end Primitive

namespace Expression

mutual

/-- An expression and its operands, at every depth. -/
def parts : Expression -> List Expression
  | .number column value => [.number column value]
  | .name column identifier => [.name column identifier]
  | .signed column negative operand => .signed column negative operand :: operand.parts
  | .binary column operator left right =>
      .binary column operator left right :: (left.parts ++ right.parts)
  | .call column callee arguments named =>
      .call column callee arguments named :: partsAmong arguments
  | .other column form parts => [.other column form parts]

/-- The parts of the expressions of a list. -/
def partsAmong : List Expression -> List Expression
  | [] => []
  | first :: rest => first.parts ++ partsAmong rest

end

end Expression

namespace Evaluator

variable {evaluator : Evaluator} {obstacle : Obstacle}

/-- A whole number that is beyond the range. -/
def IsBeyond (part : Expression) : Prop :=
  ∃ column number, part = .number column (.integer number) ∧ Decimal.ofInteger? number = none

/-- A remainder or a smooth transition whose operands have values but whose division
is refused. -/
inductive Divides (evaluator : Evaluator) : Expression -> Prop
  | operator
      {steps column : Nat}
      {left right : Expression}
      {first second : Operand}
      (firstValue : evaluator.value [] steps left = .ok first)
      (secondValue : evaluator.value [] steps right = .ok second)
      (refused : Primitive.Refused first second) :
      Divides evaluator (.binary column .modulo left right)
  | remainder
      {steps column place : Nat}
      {arguments : List Expression}
      {first second : Operand}
      (operands : evaluator.values [] steps arguments = .ok [first, second])
      (refused : Primitive.Refused first second) :
      Divides evaluator (.call column (.name place "mod") arguments false)
  | transition
      {steps column place : Nat}
      {arguments : List Expression}
      {lower upper value : Operand}
      (operands : evaluator.values [] steps arguments = .ok [lower, upper, value])
      (refused :
        Primitive.Refused (Primitive.distance lower value) (Primitive.distance lower upper)) :
      Divides evaluator (.call column (.name place "smoothstep") arguments false)

/-- Why an evaluation among some parts has no value: a fault of the text, a number
beyond the range, or a division by zero. -/
inductive StopsAmong (evaluator : Evaluator) (parts : List Expression) : Obstacle -> Prop
  | fault (fault : Fault) : StopsAmong evaluator parts (.fault fault)
  | overflow
      {part : Expression}
      (present : part ∈ parts)
      (beyond : IsBeyond part) : StopsAmong evaluator parts .overflow
  | divisionByZero
      {part : Expression}
      (present : part ∈ parts)
      (divides : evaluator.Divides part) : StopsAmong evaluator parts .divisionByZero

theorem StopsAmong.mono
    {parts others : List Expression}
    (stops : evaluator.StopsAmong parts obstacle)
    (subset : parts ⊆ others) : evaluator.StopsAmong others obstacle := by
  cases stops with
  | fault fault => exact .fault fault
  | overflow present beyond => exact .overflow (subset present) beyond
  | divisionByZero present divides => exact .divisionByZero (subset present) divides

theorem bind_eq_error_iff
    {first : Except Obstacle Value}
    {next : Value -> Except Obstacle Result} :
    (first >>= next) = .error obstacle ↔
      first = .error obstacle ∨ ∃ value, first = .ok value ∧ next value = .error obstacle := by
  cases first <;> simp [bind, Except.bind]

section Node

variable {steps column : Nat}

theorem number_stops
    {numeral : Numeral}
    (stopped : evaluator.value [] (steps + 1) (.number column numeral) = .error obstacle) :
    evaluator.StopsAmong [.number column numeral] obstacle := by
  rw [value] at stopped
  cases numeral with
  | decimal number => cases stopped
  | integer number =>
      rw [numeralValue, quantityValue] at stopped
      cases beyond : Decimal.ofInteger? number with
      | some value =>
          rw [beyond] at stopped
          cases stopped
      | none =>
          rw [beyond] at stopped
          cases stopped
          exact .overflow List.mem_cons_self ⟨column, number, rfl, beyond⟩

/-- A name without a given value is a constant or unknown. -/
theorem name_stops
    {name : String}
    (stopped : evaluator.value [] (steps + 1) (.name column name) = .error obstacle) :
    evaluator.StopsAmong [.name column name] obstacle := by
  rw [value, nameValue, show Table.find? [] name = (none : Option Quantity) from rfl] at stopped
  dsimp only at stopped
  split at stopped
  · cases stopped
  · cases stopped
    exact .fault _

theorem binary_stops
    {operator : Operator}
    {left right : Expression}
    (leftStops : ∀ {other}, evaluator.value [] steps left = .error other ->
      evaluator.StopsAmong left.parts other)
    (rightStops : ∀ {other}, evaluator.value [] steps right = .error other ->
      evaluator.StopsAmong right.parts other)
    (stopped : evaluator.value [] (steps + 1) (.binary column operator left right) =
      .error obstacle) :
    evaluator.StopsAmong (Expression.binary column operator left right).parts obstacle := by
  have within : left.parts ++ right.parts ⊆
      (Expression.binary column operator left right).parts := List.subset_cons_self _ _
  rw [value] at stopped
  rcases bind_eq_error_iff.mp stopped with inner | ⟨first, firstValue, rest⟩
  · exact (leftStops inner).mono fun _ present => within (List.mem_append_left _ present)
  rcases bind_eq_error_iff.mp rest with inner | ⟨second, secondValue, operated⟩
  · exact (rightStops inner).mono fun _ present => within (List.mem_append_right _ present)
  obtain ⟨rfl, rfl, refused⟩ := Primitive.operate_eq_error_iff.mp operated
  exact .divisionByZero List.mem_cons_self (.operator firstValue secondValue refused)

theorem call_stops
    {callee : Expression}
    {arguments : List Expression}
    {named : Bool}
    (argumentsStop : ∀ {other}, evaluator.values [] (steps - 1) arguments = .error other ->
      evaluator.StopsAmong (Expression.partsAmong arguments) other)
    (stopped : evaluator.value [] (steps + 1) (.call column callee arguments named) =
      .error obstacle) :
    evaluator.StopsAmong (Expression.call column callee arguments named).parts obstacle := by
  unfold value at stopped
  split at stopped
  case h_1 place name =>
    dsimp only at stopped
    split at stopped
    case isTrue unknown =>
      cases stopped
      exact .fault _
    case isFalse known =>
      rcases bind_eq_error_iff.mp stopped with inner | ⟨operands, operandValues, called⟩
      · exact (argumentsStop inner).mono (List.subset_cons_self _ _)
      split at called
      case h_1 result returned =>
        rw [called] at returned
        rcases Primitive.of_result?_eq_error returned with
          ⟨rfl, ⟨rfl, first, second, rfl, refused⟩ | ⟨rfl, lower, upper, value, rfl, refused⟩⟩
        · exact .divisionByZero List.mem_cons_self (.remainder operandValues refused)
        · exact .divisionByZero List.mem_cons_self (.transition operandValues refused)
      case h_2 =>
        cases called
        exact .fault _
  case h_2 =>
    cases stopped
    exact .fault _

end Node

mutual

/-- An expression without a value has a fault or a part that stops the evaluation. -/
theorem value_stops
    {steps : Nat}
    {expression : Expression}
    {obstacle : Obstacle}
    (stopped : evaluator.value [] steps expression = .error obstacle) :
    evaluator.StopsAmong expression.parts obstacle := by
  cases steps with
  | zero =>
      rw [value] at stopped
      cases stopped
      exact .fault .tooDeep
  | succ steps =>
      cases expression with
      | number column numeral => exact number_stops stopped
      | name column name => exact name_stops stopped
      | signed column negative operand =>
          rw [value] at stopped
          rcases bind_eq_error_iff.mp stopped with inner | ⟨_, _, impossible⟩
          · exact (value_stops inner).mono (List.subset_cons_self _ _)
          · cases impossible
      | binary column operator left right => exact binary_stops value_stops value_stops stopped
      | call column callee arguments named => exact call_stops values_stop stopped
      | other column form parts =>
          rw [value] at stopped
          cases stopped
          exact .fault _

theorem values_stop
    {steps : Nat}
    {expressions : List Expression}
    {obstacle : Obstacle}
    (stopped : evaluator.values [] steps expressions = .error obstacle) :
    evaluator.StopsAmong (Expression.partsAmong expressions) obstacle := by
  cases expressions with
  | nil =>
      rw [values] at stopped
      cases stopped
  | cons first rest =>
      rw [values] at stopped
      rcases bind_eq_error_iff.mp stopped with inner | ⟨operand, _, others⟩
      · exact (value_stops inner).mono fun _ present => List.mem_append_left _ present
      rcases bind_eq_error_iff.mp others with inner | ⟨_, _, impossible⟩
      · exact (values_stop inner).mono fun _ present => List.mem_append_right _ present
      · cases impossible

end

/-- A text whose evaluation has no value has a fault, or it is an expression with a
part that stops the evaluation. -/
theorem evaluate_stops
    {text : String}
    (stopped : evaluator.evaluate [] text = .error obstacle) :
    (∃ fault, obstacle = .fault fault) ∨
      ∃ expression, read text = .ok expression ∧
        evaluator.StopsAmong expression.parts obstacle := by
  rw [evaluate] at stopped
  cases found : read text with
  | error fault =>
      rw [found] at stopped
      cases stopped
      exact .inl ⟨fault, rfl⟩
  | ok expression =>
      rw [found] at stopped
      rcases bind_eq_error_iff.mp stopped with impossible | ⟨_, same, valued⟩
      · cases impossible
      cases same
      rcases bind_eq_error_iff.mp valued with inner | ⟨_, _, impossible⟩
      · exact .inr ⟨expression, rfl, value_stops inner⟩
      · cases impossible

end Evaluator
end ShaderGraph
