import Mathlib.Algebra.Ring.Nat
import ShaderGraph.Proofs.Expression.Assignment
import ShaderGraph.Proofs.Expression.Layout
import ShaderGraph.Proofs.Expression.Scanning
import ShaderGraph.Proofs.Expression.Tracing

/-!
# Where faults of names show

An evaluation that stops at an unknown variable, an unknown function or bad arguments tells a
position and a name. The position counts the bytes of the line up to the name, or up to the
first of the parentheses around the name of a function. In one line of ASCII characters it is
the offset in the text.
-/

namespace ShaderGraph

/-- Whether a fault is about a name. -/
def Fault.isNamed : Fault -> Bool
  | .unknownVariable _ _ => true
  | .unknownFunction _ _ => true
  | .badArguments _ _ => true
  | _ => false

/-- Whether a fault is about a call. -/
def Fault.isCall : Fault -> Bool
  | .unknownFunction _ _ => true
  | .badArguments _ _ => true
  | _ => false

namespace Fault

variable (place : Nat -> Nat) (fault : Fault)

@[simp] theorem isNamed_relocate : (fault.relocate place).isNamed = fault.isNamed := by
  cases fault <;> rfl

@[simp] theorem isCall_relocate : (fault.relocate place).isCall = fault.isCall := by
  cases fault <;> rfl

@[simp] theorem token_relocate : (fault.relocate place).token = fault.token := by
  cases fault <;> rfl

variable {fault} in
theorem position_relocate
    (isNamed : fault.isNamed = true) :
    (fault.relocate place).position = place fault.position := by
  cases fault with
  | unknownVariable | unknownFunction | badArguments => rfl
  | _ => cases isNamed

end Fault

/-! ## Positions -/

/-- The column behind passed characters counts the bytes of the last line of them. -/
theorem Place.column_after (passed : List Char) :
    (Place.after ⟨0, 0⟩ passed).column =
      ((passed.reverse.takeWhile (· != '\n')).map Char.utf8Size).sum := by
  induction passed using List.reverseRecOn with
  | nil => rfl
  | append_singleton passed last inductionHypothesis =>
      rw [Token.after_append, List.reverse_append, List.reverse_singleton, List.singleton_append]
      change ((Place.after ⟨0, 0⟩ passed).step last).column = _
      by_cases isBreak : last = '\n'
      · rw [isBreak]
        rfl
      · rw [List.takeWhile_cons_of_pos (by simpa using isBreak), List.map_cons, List.sum_cons,
          ← inductionHypothesis, Place.step, if_neg (by simpa using isBreak)]
        exact Nat.add_comm _ _

namespace Token

/-- Whether a character is one of a line of single bytes. -/
def isPlain (character : Char) : Bool :=
  character != '\n' && character != '\r' && decide (character.toNat < 0x80)

theorem utf8Size_of_isPlain
    {character : Char}
    (plain : isPlain character = true) : character.utf8Size = 1 := by
  simp only [isPlain, Bool.and_eq_true, decide_eq_true_eq] at plain
  rw [Char.utf8Size]
  exact if_pos (Nat.le_of_lt_succ plain.2)

variable {mention : Mention}

/-- Where a mention shows: behind the bytes that stand before it in its line. -/
def Mention.position (mention : Mention) : Nat :=
  ((mention.before.reverse.takeWhile (· != '\n')).map Char.utf8Size).sum

/-- In a line of single bytes as many characters as bytes stand before a mention. -/
theorem Mention.position_of_plain
    (plain : mention.before.all isPlain = true) : mention.position = mention.before.length := by
  have inLine (first : Char) (present : first ∈ mention.before) : first ≠ '\n' := by
    rintro rfl
    cases List.all_eq_true.mp plain '\n' present
  have single : mention.before.reverse.map Char.utf8Size = mention.before.reverse.map fun _ => 1 :=
    List.map_congr_left fun character present =>
      utf8Size_of_isPlain (List.all_eq_true.mp plain character (List.mem_reverse.mp present))
  rw [Mention.position, List.takeWhile_eq_self_iff.mpr fun character present => by
    simpa using inLine character (List.mem_reverse.mp present), single, List.map_const',
    List.sum_replicate_nat, Nat.mul_one, List.length_reverse]

/-- In a line of single bytes a name that nothing leads to is what the text shows. -/
theorem Mention.IsIn.take_position
    {line : List Char}
    {name : String}
    (isIn : mention.IsIn line name)
    (plain : line.all isPlain = true)
    (direct : mention.lead = []) :
    (line.drop mention.position).take name.length = name.toList := by
  obtain ⟨whole, -, -, spells⟩ := isIn
  rw [direct, List.nil_append] at whole
  subst whole
  rw [List.all_append, List.all_append, Bool.and_eq_true, Bool.and_eq_true] at plain
  obtain ⟨before, word, -⟩ := plain
  have spelled : Text.normalForm mention.word = mention.word := by
    rw [Text.normalForm, if_pos]
    rw [List.all_eq_true] at word ⊢
    intro character present
    have single := word character present
    simp only [isPlain, Bool.and_eq_true] at single
    exact single.2
  rw [← spells, spelled, Mention.position_of_plain before, List.drop_left, String.length_ofList,
    List.take_left, String.toList_ofList]

end Token

namespace Evaluator

open Reader

variable {evaluator : Evaluator} {given : Table Quantity} {start : List Mark} {fault : Fault}
  {text : String}

/-! ## Faults and tokens -/

/-- A fault about a name shows at a token: that of a variable, or the first of those that lead
to the name of a function. -/
inductive Blames (start : List Mark) : Fault -> Prop
  | name
      {position : Nat}
      {name : String}
      {rest : List Mark}
      (reached : Reached start (⟨.identifier name, position⟩ :: rest)) :
      Blames start (.unknownVariable position name)
  | call
      {origin : List Mark}
      {column : Nat}
      {fault : Fault}
      (reached : Reached start origin)
      (leads : Leads origin (.name column fault.token))
      (position : fault.position = nextNumber origin)
      (isCall : fault.isCall = true) : Blames start fault
  | other
      {fault : Fault}
      (other : fault.isNamed = false) : Blames start fault

/-- What stops the evaluation of expressions stops that of one of them. -/
theorem exists_of_values
    {steps : Nat}
    {expressions : List Expression}
    {obstacle : Obstacle}
    (stopped : evaluator.values given steps expressions = .error obstacle) :
    ∃ expression ∈ expressions, evaluator.value given steps expression = .error obstacle := by
  induction expressions with
  | nil =>
      rw [values] at stopped
      cases stopped
  | cons head rest inductionHypothesis =>
      rw [values] at stopped
      rcases bind_eq_error_iff.mp stopped with inner | ⟨_, _, others⟩
      · exact ⟨head, List.mem_cons_self, inner⟩
      rcases bind_eq_error_iff.mp others with inner | ⟨_, _, impossible⟩
      · obtain ⟨expression, present, inner⟩ := inductionHypothesis inner
        exact ⟨expression, List.mem_cons_of_mem head present, inner⟩
      · cases impossible

theorem blames_of_nameValue
    {column : Nat}
    {name : String}
    {rest : List Mark}
    (reached : Reached start (⟨.identifier name, column⟩ :: rest))
    (stopped : evaluator.nameValue given column name = .error (.fault fault)) :
    Blames start fault := by
  rw [nameValue] at stopped
  split at stopped
  case h_1 quantity _ => exact absurd (map_eq_error stopped) (quantityValue_ne_fault quantity _)
  case h_2 =>
    split at stopped
    case h_1 => cases stopped
    case h_2 =>
      cases stopped
      exact .name reached

/-- A call stops by a fault of its own or by one of its arguments. -/
theorem blames_of_call
    {steps : Nat}
    {origin : List Mark}
    {callee : Expression}
    {arguments : List Expression}
    {named : Bool}
    (reached : Reached start origin)
    (leads : Leads origin callee)
    (inner : evaluator.values given (steps - 1) arguments = .error (.fault fault) ->
      Blames start fault)
    (stopped : evaluator.value given (steps + 1)
      (.call (nextNumber origin) callee arguments named) = .error (.fault fault)) :
    Blames start fault := by
  unfold value at stopped
  split at stopped
  case h_1 =>
    dsimp only at stopped
    split at stopped
    case isTrue =>
      cases stopped
      exact .call reached leads rfl rfl
    case isFalse =>
      rcases bind_eq_error_iff.mp stopped with within | ⟨operands, _, called⟩
      · exact inner within
      split at called
      case h_1 result returned =>
        rw [called] at returned
        cases (Primitive.of_result?_eq_error returned).1
      case h_2 =>
        cases called
        exact .call reached leads rfl rfl
  case h_2 =>
    cases stopped
    exact .other rfl

/-- A fault that stops the evaluation of an expression shows at a token that it is read from. -/
theorem blames_of_value
    {steps : Nat}
    {expression : Expression}
    (located : Located start expression)
    (stopped : evaluator.value given steps expression = .error (.fault fault)) :
    Blames start fault := by
  induction located generalizing steps with
  | number column numeral =>
      cases steps with
      | zero => cases stopped; exact .other rfl
      | succ steps => exact absurd (map_eq_error stopped) (numeralValue_ne_fault numeral _)
  | name reached =>
      cases steps with
      | zero => cases stopped; exact .other rfl
      | succ steps => exact blames_of_nameValue reached stopped
  | signed _ _ _ inductionHypothesis =>
      cases steps with
      | zero => cases stopped; exact .other rfl
      | succ steps =>
          rw [value] at stopped
          rcases bind_eq_error_iff.mp stopped with inner | ⟨_, _, impossible⟩
          · exact inductionHypothesis inner
          · cases impossible
  | binary _ _ _ _ leftHypothesis rightHypothesis =>
      cases steps with
      | zero => cases stopped; exact .other rfl
      | succ steps =>
          rw [value] at stopped
          rcases bind_eq_error_iff.mp stopped with inner | ⟨_, _, rest⟩
          · exact leftHypothesis inner
          rcases bind_eq_error_iff.mp rest with inner | ⟨_, _, operated⟩
          · exact rightHypothesis inner
          · cases (Primitive.operate_eq_error_iff.mp operated).2.1
  | call reached leads _ _ inductionHypothesis =>
      cases steps with
      | zero => cases stopped; exact .other rfl
      | succ steps =>
          refine blames_of_call reached leads (fun inner => ?_) stopped
          obtain ⟨argument, present, within⟩ := exists_of_values inner
          exact inductionHypothesis argument present within
  | other =>
      cases steps with
      | zero => cases stopped; exact .other rfl
      | succ steps => cases stopped; exact .other rfl

/-! ## Read expressions -/

/-- A text that is no expression has no fault about a name. -/
theorem isNamed_of_read
    (failed : read text = .error fault) : fault.isNamed = false := by
  rw [read] at failed
  split at failed
  · cases failed
    rfl
  split at failed
  · cases failed
    rfl
  split at failed
  · split at failed
    · cases failed
      rfl
    · cases failed
  · cases failed
    rfl

theorem exists_of_relocated
    {place : Nat -> Nat}
    {outcome : Except Obstacle Value}
    (stopped : Obstacle.relocated place outcome = .error (.fault fault)) :
    ∃ cause : Fault, outcome = .error (.fault cause) ∧ cause.relocate place = fault := by
  rcases outcome with (cause | _ | _) | value
  · exact ⟨cause, rfl, Obstacle.fault.inj (Except.error.inj stopped)⟩
  · cases stopped
  · cases stopped
  · cases stopped

/-- An evaluation that stops at a fault about a name stops at a token of the text. -/
theorem exists_blames_of_evaluate
    (stopped : evaluator.evaluate given text = .error (.fault fault))
    (isNamed : fault.isNamed = true) :
    let tokens := Token.all (Text.trim text.toList)
    Token.AreValid tokens ∧
      ∃ cause : Fault, Blames (Expression.marksFrom 1 (Token.kinds tokens)) cause ∧
        fault = cause.relocate fun number => (Expression.placeOf tokens number).column := by
  cases found : read text with
  | error other =>
      rw [evaluate_of_read_error found] at stopped
      cases stopped
      rw [isNamed_of_read found] at isNamed
      cases isNamed
  | ok expression =>
      rw [evaluate_of_read found] at stopped
      rcases bind_eq_error_iff.mp stopped with inner | ⟨_, _, impossible⟩
      · obtain ⟨valid, tree, read, rfl⟩ := Expression.parse?_eq_ok (parse?_of_read found)
        rw [value_relocate] at inner
        obtain ⟨cause, within, rfl⟩ := exists_of_relocated inner
        exact ⟨valid, cause, blames_of_value (Expression.located_of_ofKinds read) within, rfl⟩
      · cases impossible

/-! ## Where faults show -/

/-- The token at which a fault about a name shows is at a mention of the name, or at a
parenthesis before it if the name is called. -/
theorem Blames.exists_mention
    {source : List Char}
    {all : List Token}
    (blames : Blames (Expression.marksFrom 1 (Token.kinds all)) fault)
    (laid : Token.Laid source [] all)
    (isNamed : fault.isNamed = true) :
    ∃ mention : Token.Mention, mention.IsIn source fault.token ∧
      Expression.placeOf all fault.position = Place.after ⟨0, 0⟩ mention.before ∧
      (mention.lead = [] ∨ fault.isCall = true ∧ mention.lead.head? = some '(') := by
  cases blames with
  | name reached =>
      obtain ⟨mention, isIn, -, place, lead⟩ :=
        Token.exists_mention (Token.areLast_of_reached laid reached)
      exact ⟨mention, isIn, place, .inl lead⟩
  | call reached leads position isCall =>
      obtain ⟨opened, rest, rfl, opens⟩ := leads
      obtain ⟨mention, isIn, -, place, lead⟩ :=
        Token.exists_mention_of_leads (Token.areLast_of_reached laid reached) opens
      exact ⟨mention, isIn, position ▸ place, lead.imp_right fun opens => ⟨isCall, opens⟩⟩
  | other unnamed =>
      rw [unnamed] at isNamed
      cases isNamed

/-- An evaluation that stops for a name, of a variable, a function or one with bad arguments,
names a word of the text, and its position counts the bytes before the word in its line. If
the word is called within parentheses, the position is that of the first of them. So in one
line of single bytes the text shows the name at the position, unless it shows a parenthesis. -/
theorem evaluate_shows_name
    (stopped : evaluator.evaluate given text = .error (.fault fault))
    (isNamed : fault.isNamed = true) :
    let stripped := Text.trim text.toList
    (∃ mention : Token.Mention,
      mention.IsIn (Text.unifyLineBreaks stripped) fault.token ∧
        fault.position = mention.position ∧
        (mention.lead = [] ∨ fault.isCall = true ∧ mention.lead.head? = some '(')) ∧
      (stripped.all Token.isPlain = true -> stripped[fault.position]? ≠ some '(' ->
        (stripped.drop fault.position).take fault.token.length = fault.token.toList) := by
  intro stripped
  obtain ⟨valid, cause, blames, rfl⟩ := exists_blames_of_evaluate stopped isNamed
  rw [Fault.isNamed_relocate] at isNamed
  obtain ⟨mention, isIn, place, leads⟩ := blames.exists_mention (Token.laid_all valid) isNamed
  have position : (cause.relocate fun number =>
      (Expression.placeOf (Token.all stripped) number).column).position = mention.position := by
    rw [Fault.position_relocate _ isNamed, place, Place.column_after]
    rfl
  rw [position, Fault.token_relocate, Fault.isCall_relocate]
  refine ⟨⟨mention, isIn, rfl, leads⟩, fun plain noParenthesis => ?_⟩
  have free : '\r' ∉ stripped := fun present => by
    cases List.all_eq_true.mp plain '\r' present
  rw [Reference.unifyLineBreaks_eq_self free] at isIn
  refine isIn.take_position plain (leads.resolve_right fun ⟨_, opens⟩ => noParenthesis ?_)
  have whole := isIn.whole
  have before : mention.before.all Token.isPlain = true := by
    rw [whole, List.all_append, Bool.and_eq_true] at plain
    exact plain.1
  rw [Token.Mention.position_of_plain before, whole,
    List.getElem?_append_right (Nat.le_refl _), Nat.sub_self,
    ← List.head?_eq_getElem?, List.head?_append, opens, Option.some_or]

/-- A function that is unknown, behind blanks, a variable and an operator. -/
theorem evaluate_shows_wave :
    let text := "  x * wave( x ) "
    let stripped := "x * wave( x )".toList
    ({} : Evaluator).evaluate [("x", .integer 2)] text =
        .error (.fault (.unknownFunction 4 "wave")) ∧
      (stripped.drop 4).take 4 = "wave".toList := by
  intro text stripped
  have stopped : ({} : Evaluator).evaluate [("x", .integer 2)] text =
      .error (.fault (.unknownFunction 4 "wave")) := by decide +kernel
  have trimmed : Text.trim text.toList = stripped := by decide +kernel
  have shown := (evaluate_shows_name stopped rfl).2
  rw [trimmed] at shown
  exact ⟨stopped, shown (by decide +kernel) (by decide +kernel)⟩

/-- The text does not show the name at the position if a line breaks before it, if a character
of several bytes stands before it, or if it is called within parentheses. -/
theorem evaluate_shows_elsewhere :
    let stops (text : String) (fault : Fault) : Prop :=
      ({} : Evaluator).evaluate [("é", .integer 1)] text = .error (.fault fault)
    let shows (text : String) (fault : Fault) : Prop :=
      ((Text.trim text.toList).drop fault.position).take fault.token.length = fault.token.toList
    (stops "(pi +\n x)" (.unknownVariable 1 "x") ∧
        ¬shows "(pi +\n x)" (.unknownVariable 1 "x")) ∧
      (stops "é + x" (.unknownVariable 5 "x") ∧ ¬shows "é + x" (.unknownVariable 5 "x")) ∧
      (stops "pi * (wave)(1)" (.unknownFunction 5 "wave") ∧
        ¬shows "pi * (wave)(1)" (.unknownFunction 5 "wave")) := by
  decide +kernel

end Evaluator
end ShaderGraph
