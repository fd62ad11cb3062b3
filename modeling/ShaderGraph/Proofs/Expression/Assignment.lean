import Mathlib.Data.List.Basic
import ShaderGraph.Proofs.Expression.Obstacle

/-!
# What an evaluation takes from an assignment

An evaluation looks up the names that its expression mentions, wherever it stops. A name with
neither a value nor a meaning as a constant stops it. So the outcome depends on the values of
the names that the expression reads and of those that spell constants, and no variable is
unknown if all names that are read have values.
-/

namespace ShaderGraph
namespace Evaluator

variable {evaluator : Evaluator} {given first second : Table Quantity} {text : String}

/-! ## Looking up names -/

/-- The value of a name depends on what is assigned to it only. -/
theorem nameValue_congr
    {name : String}
    (agree : first.find? name = second.find? name)
    (column : Nat) :
    evaluator.nameValue first column name = evaluator.nameValue second column name := by
  rw [nameValue, nameValue, agree]

theorem call_congr
    {steps : Nat}
    {arguments : List Expression}
    (same : evaluator.values first (steps - 1) arguments =
      evaluator.values second (steps - 1) arguments)
    (column : Nat)
    (callee : Expression)
    (named : Bool) :
    evaluator.value first (steps + 1) (.call column callee arguments named) =
      evaluator.value second (steps + 1) (.call column callee arguments named) := by
  cases callee with
  | name start name =>
      cases named with
      | true => rfl
      | false => rw [value, value, same]
  | _ => rfl

mutual

/-- The outcome for an expression depends on the names that it mentions. -/
theorem value_congr
    {expression : Expression}
    (agree : ∀ name ∈ expression.mentions, first.find? name = second.find? name)
    (steps : Nat) :
    evaluator.value first steps expression = evaluator.value second steps expression := by
  cases steps with
  | zero => rw [value, value]
  | succ steps =>
      cases expression with
      | number => rfl
      | name column name => exact nameValue_congr (agree name List.mem_cons_self) column
      | signed column negative operand =>
          have agreeOperand : ∀ name ∈ operand.mentions, first.find? name = second.find? name :=
            agree
          rw [value, value, value_congr agreeOperand steps]
      | binary column operator left right =>
          obtain ⟨agreeLeft, agreeRight⟩ := List.forall_mem_append.mp agree
          rw [value, value, value_congr agreeLeft steps, value_congr agreeRight steps]
      | call column callee arguments named =>
          exact call_congr (values_congr agree (steps - 1)) column callee named
      | other => rfl

/-- The values of arguments depend on the names that they mention only. -/
theorem values_congr
    {expressions : List Expression}
    (agree : ∀ name ∈ Expression.mentionsAmong expressions, first.find? name = second.find? name)
    (steps : Nat) :
    evaluator.values first steps expressions = evaluator.values second steps expressions := by
  cases expressions with
  | nil => rfl
  | cons head rest =>
      obtain ⟨agreeHead, agreeRest⟩ := List.forall_mem_append.mp agree
      rw [values, values, value_congr agreeHead steps, values_congr agreeRest steps]

end

/-! ## Unknown variables -/

/-- A name has neither a value nor a meaning as a constant. -/
def IsUnknown (evaluator : Evaluator) (given : Table Quantity) (name : String) : Prop :=
  given.find? name = none ∧ evaluator.constants.find? name = none

section

variable {position : Nat} {name : String}

theorem quantityValue_ne_fault (quantity : Quantity) (fault : Fault) :
    quantityValue quantity ≠ .error (.fault fault) := by
  intro stopped
  cases quantity with
  | real => cases stopped
  | integer value =>
      rw [quantityValue] at stopped
      split at stopped <;> cases stopped

theorem numeralValue_ne_fault (numeral : Numeral) (fault : Fault) :
    numeralValue numeral ≠ .error (.fault fault) := by
  intro stopped
  cases numeral with
  | decimal => cases stopped
  | integer value => exact quantityValue_ne_fault (.integer value) fault stopped

theorem map_eq_error {change : Float -> Operand} {outcome : Except Obstacle Float}
    {obstacle : Obstacle} (stopped : outcome.map change = .error obstacle) :
    outcome = .error obstacle := by
  cases outcome with
  | ok => cases stopped
  | error => exact congrArg Except.error (Except.error.inj stopped)

/-- A name without a value is unknown. -/
theorem isUnknown_of_nameValue
    {column : Nat}
    {mentioned : String}
    (stopped : evaluator.nameValue given column mentioned =
      .error (.fault (.unknownVariable position name))) :
    name = mentioned ∧ evaluator.IsUnknown given name := by
  rw [nameValue] at stopped
  split at stopped
  case h_1 quantity _ => exact absurd (map_eq_error stopped) (quantityValue_ne_fault quantity _)
  case h_2 absent =>
    split at stopped
    case h_1 => cases stopped
    case h_2 noConstant =>
      cases stopped
      exact ⟨rfl, absent, noConstant⟩

/-- A call meets an unknown variable in its arguments only. -/
theorem call_unknown
    {steps column : Nat}
    {callee : Expression}
    {arguments : List Expression}
    {named : Bool}
    (stopped : evaluator.value given (steps + 1) (.call column callee arguments named) =
      .error (.fault (.unknownVariable position name))) :
    evaluator.values given (steps - 1) arguments =
      .error (.fault (.unknownVariable position name)) := by
  unfold value at stopped
  split at stopped
  case h_1 =>
    dsimp only at stopped
    split at stopped
    case isTrue => cases stopped
    case isFalse =>
      rcases bind_eq_error_iff.mp stopped with inner | ⟨operands, _, called⟩
      · exact inner
      split at called
      case h_1 result returned =>
        rw [called] at returned
        cases (Primitive.of_result?_eq_error returned).1
      case h_2 => cases called
  case h_2 => cases stopped

mutual

/-- An unknown variable that stops an evaluation is one that the expression mentions. -/
theorem unknown_of_value
    {steps : Nat}
    {expression : Expression}
    (stopped : evaluator.value given steps expression =
      .error (.fault (.unknownVariable position name))) :
    name ∈ expression.mentions ∧ evaluator.IsUnknown given name := by
  cases steps with
  | zero =>
      rw [value] at stopped
      cases stopped
  | succ steps =>
      cases expression with
      | number column numeral =>
          exact absurd (map_eq_error stopped) (numeralValue_ne_fault numeral _)
      | name column mentioned =>
          obtain ⟨rfl, isUnknown⟩ := isUnknown_of_nameValue stopped
          exact ⟨List.mem_singleton_self _, isUnknown⟩
      | signed column negative operand =>
          rw [value] at stopped
          rcases bind_eq_error_iff.mp stopped with inner | ⟨_, _, impossible⟩
          · have mentioned : name ∈ operand.mentions ∧ evaluator.IsUnknown given name :=
              unknown_of_value inner
            exact mentioned
          · cases impossible
      | binary column operator left right =>
          rw [value] at stopped
          rcases bind_eq_error_iff.mp stopped with inner | ⟨_, _, rest⟩
          · exact (unknown_of_value inner).imp_left (List.mem_append_left _)
          rcases bind_eq_error_iff.mp rest with inner | ⟨_, _, operated⟩
          · exact (unknown_of_value inner).imp_left (List.mem_append_right _)
          cases (Primitive.operate_eq_error_iff.mp operated).2.1
      | call column callee arguments named => exact unknown_of_values (call_unknown stopped)
      | other =>
          rw [value] at stopped
          cases stopped

/-- An unknown name of arguments is mentioned among them. -/
theorem unknown_of_values
    {steps : Nat}
    {expressions : List Expression}
    (stopped : evaluator.values given steps expressions =
      .error (.fault (.unknownVariable position name))) :
    name ∈ Expression.mentionsAmong expressions ∧ evaluator.IsUnknown given name := by
  cases expressions with
  | nil =>
      rw [values] at stopped
      cases stopped
  | cons head rest =>
      rw [values] at stopped
      rcases bind_eq_error_iff.mp stopped with inner | ⟨_, _, others⟩
      · exact (unknown_of_value inner).imp_left (List.mem_append_left _)
      rcases bind_eq_error_iff.mp others with inner | ⟨_, _, impossible⟩
      · exact (unknown_of_values inner).imp_left (List.mem_append_right _)
      · cases impossible

end

end

/-! ## Texts -/

theorem evaluate_of_read
    {expression : Expression}
    (found : read text = .ok expression) :
    evaluator.evaluate given text =
      evaluator.value given stepLimit expression >>= fun operand => pure operand.value := by
  rw [evaluate, found]
  rfl

theorem evaluate_of_read_error
    {fault : Fault}
    (failed : read text = .error fault) :
    evaluator.evaluate given text = .error (.fault fault) := by
  rw [evaluate, failed]
  rfl

/-- The names of an expression are those that it mentions but for the constants. -/
theorem mem_namesOf {expression : Expression} {name : String} :
    name ∈ evaluator.namesOf expression ↔
      name ∈ expression.mentions ∧ evaluator.constants.has name = false := by
  rw [namesOf, Text.mem_sortedNames, List.mem_filter, Bool.not_eq_true']

/-- The names of a text are those of its expression; a text without names has none, or its
expression is nested too deeply. -/
theorem reads_cases (evaluator : Evaluator) (text : String) :
    (∃ fault, read text = .error fault ∧ evaluator.reads text = .error fault) ∨
      ∃ expression, read text = .ok expression ∧
        (evaluator.reads text = .error .tooDeep ∨
          evaluator.reads text = .ok (evaluator.namesOf expression)) := by
  rw [reads]
  cases read text with
  | error fault => exact .inl ⟨fault, rfl, rfl⟩
  | ok expression =>
      refine .inr ⟨expression, rfl, ?_⟩
      by_cases deep : expression.mentionDepth > stepLimit
      · exact .inl (if_pos deep)
      · exact .inr (if_neg deep)

/-- An evaluation takes from an assignment what it gives to the names that the text reads and
to those of constants: where two assignments give them the same, the outcome is the same. If
an assignment gives values to all names that are read, no variable is unknown. A text that is
no expression fails alike whatever is asked of it. -/
theorem evaluate_takes_reads (evaluator : Evaluator) (text : String) :
    (∀ names, evaluator.reads text = .ok names ->
      (∀ first second : Table Quantity,
        (∀ name ∈ names, first.find? name = second.find? name) ->
        (∀ name ∈ evaluator.constants.names, first.find? name = second.find? name) ->
        evaluator.evaluate first text = evaluator.evaluate second text) ∧
      ∀ given : Table Quantity, (∀ name ∈ names, given.has name = true) ->
        ∀ position name,
          evaluator.evaluate given text ≠ .error (.fault (.unknownVariable position name))) ∧
    ∀ fault, evaluator.reads text = .error fault -> fault ≠ .tooDeep ->
      ∀ given, evaluator.evaluate given text = .error (.fault fault) := by
  rcases evaluator.reads_cases text with ⟨fault, failed, same⟩ | ⟨expression, found, reads⟩
  · rw [same]
    constructor
    · rintro _ ⟨⟩
    · rintro _ ⟨⟩ _ given
      exact evaluate_of_read_error failed
  constructor
  · intro names same
    rcases reads with deep | reads
    · cases deep.symm.trans same
    cases reads.symm.trans same
    constructor
    · intro first second agree agreeConstants
      rw [evaluate_of_read found, evaluate_of_read found, value_congr fun name mentioned => ?_]
      cases constant : evaluator.constants.has name with
      | true => exact agreeConstants name (Table.has_iff_mem_names.mp constant)
      | false => exact agree name (mem_namesOf.mpr ⟨mentioned, constant⟩)
    · intro given defined position name stopped
      rw [evaluate_of_read found] at stopped
      rcases bind_eq_error_iff.mp stopped with inner | ⟨_, _, impossible⟩
      · obtain ⟨mentioned, absent, noConstant⟩ := unknown_of_value inner
        have known := defined name (mem_namesOf.mpr ⟨mentioned, by rw [Table.has, noConstant]; rfl⟩)
        rw [Table.has, absent] at known
        cases known
      · cases impossible
  · intro fault same shallow
    rcases reads with deep | reads
    · cases deep.symm.trans same
      exact absurd rfl shallow
    · cases reads.symm.trans same

/-- Values for a constant and two names. -/
def shadowing : Table Quantity := [("pi", .integer 3), ("x", .real 0.5), ("y", .integer 2)]

/-- The same values in another order, with one for a name that is not read. -/
def rearranged : Table Quantity :=
  [("y", .integer 2), ("z", .integer 9), ("x", .real 0.5), ("pi", .integer 3)]

/-- A constant with a value, a name that is read twice, and one in the arguments of a call. -/
theorem shadowing_rearranged_agree :
    ({} : Evaluator).reads "mix(pi, y, x) + -x ^ 2" = .ok ["x", "y"] ∧
      ({} : Evaluator).evaluate shadowing "mix(pi, y, x) + -x ^ 2" =
        ({} : Evaluator).evaluate rearranged "mix(pi, y, x) + -x ^ 2" ∧
      ∀ position name, ({} : Evaluator).evaluate shadowing "mix(pi, y, x) + -x ^ 2" ≠
        .error (.fault (.unknownVariable position name)) := by
  have reads : ({} : Evaluator).reads "mix(pi, y, x) + -x ^ 2" = .ok ["x", "y"] := by
    decide +kernel
  obtain ⟨depends, defined⟩ := (evaluate_takes_reads {} _).1 _ reads
  refine ⟨reads, depends shadowing rearranged ?_ ?_, defined shadowing ?_⟩
  · exact List.forall_mem_cons.mpr ⟨rfl, List.forall_mem_singleton.mpr rfl⟩
  · exact List.forall_mem_cons.mpr ⟨rfl, List.forall_mem_singleton.mpr rfl⟩
  · exact List.forall_mem_cons.mpr ⟨rfl, List.forall_mem_singleton.mpr rfl⟩

end Evaluator
end ShaderGraph
