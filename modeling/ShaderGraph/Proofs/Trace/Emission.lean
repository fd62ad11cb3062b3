import ShaderGraph.Graph.Assembly
import ShaderGraph.Plugin.Registry

/-!
# Events of computations

A computation emits allowed events only if each of its steps does. Reading
arguments, analyzing calls and generating shaders emit nothing but records.
-/

namespace ShaderGraph

/-- The program that an event is about. -/
def Event.program? : Event -> Option Nat
  | .programMade number => some number
  | .programReleased number => some number
  | _ => none

/-- An event that is about no program. -/
def Event.IsQuiet (event : Event) : Prop :=
  event.program? = none

theorem Event.isQuiet_record (level : Level) (message : String) :
    (Event.record level message).IsQuiet := rfl

/-- Quiet events make no program and release none. -/
theorem count_eq_zero_of_quiet
    {events : List Event}
    (quiet : ∀ event ∈ events, event.IsQuiet)
    {event : Event}
    (about : event.program?.isSome = true) : events.count event = 0 := by
  refine List.count_eq_zero.mpr fun listed => ?_
  rw [quiet event listed] at about
  cases about

namespace Traced

/-- All events of a computation are allowed. -/
def Emits (allowed : Event -> Prop) (computation : Traced Value) : Prop :=
  ∀ event ∈ computation.trace, allowed event

section Emits

variable {allowed : Event -> Prop}

theorem emits_pure (value : Value) : (pure value : Traced Value).Emits allowed := by
  intro event present
  cases present

/-- Computations one after the other emit what both of them emit. -/
theorem Emits.bind
    {first : Traced Value}
    {next : Value -> Traced Result}
    (firstEmits : first.Emits allowed)
    (nextEmits : ∀ value, (next value).Emits allowed) : (first >>= next).Emits allowed := by
  intro event present
  rcases List.mem_append.mp present with now | later
  · exact firstEmits event now
  · exact nextEmits _ event later

/-- A changed value is emitted with the same events. -/
theorem Emits.map
    {computation : Traced Value}
    (emits : computation.Emits allowed)
    (change : Value -> Result) : (change <$> computation).Emits allowed := by
  intro event present
  rw [trace_map] at present
  exact emits event present

theorem emits_emit {event : Event} (isAllowed : allowed event) : (emit event).Emits allowed := by
  intro other present
  rw [List.mem_singleton.mp present]
  exact isAllowed

/-- A log emits its record. -/
theorem emits_log
    (records : ∀ level message, allowed (.record level message))
    (level : Level)
    (message : String) : (log level message).Emits allowed :=
  emits_emit (records level message)

/-- A fold emits what its steps emit. -/
theorem Emits.foldlM
    {step : State -> Value -> Traced State}
    (stepEmits : ∀ state value, (step state value).Emits allowed)
    (values : List Value)
    (state : State) : (values.foldlM step state).Emits allowed := by
  induction values generalizing state with
  | nil => exact emits_pure state
  | cons value rest inductionHypothesis =>
      rw [List.foldlM_cons]
      exact (stepEmits state value).bind fun changed => inductionHypothesis changed

end Emits

end Traced

namespace Attempt

/-- All events of an attempt are allowed, whatever it ends with. -/
def Emits (allowed : Event -> Prop) (attempt : Attempt Value) : Prop :=
  attempt.run.Emits allowed

section Emits

variable {allowed : Event -> Prop}

theorem emits_pure (value : Value) : (pure value : Attempt Value).Emits allowed :=
  Traced.emits_pure (Except.ok value)

theorem emits_throw (failure : Failure) : (throw failure : Attempt Value).Emits allowed :=
  Traced.emits_pure (Except.error failure)

/-- Computations one after the other emit what both of them emit. -/
theorem Emits.bind
    {first : Attempt Value}
    {next : Value -> Attempt Result}
    (firstEmits : first.Emits allowed)
    (nextEmits : ∀ value, (next value).Emits allowed) : (first >>= next).Emits allowed := by
  refine Traced.Emits.bind firstEmits fun outcome => ?_
  cases outcome with
  | ok value => exact nextEmits value
  | error failure => exact emits_throw failure

/-- A traced computation emits the same within an attempt. -/
theorem emits_liftTraced
    {computation : Traced Value}
    (emits : computation.Emits allowed) : (liftM computation : Attempt Value).Emits allowed :=
  Traced.Emits.map emits Except.ok

theorem emits_liftExcept (outcome : Except Failure Value) :
    (liftM outcome : Attempt Value).Emits allowed :=
  Traced.emits_pure outcome

/-- A fold emits what its steps emit. -/
theorem Emits.foldlM
    {step : State -> Value -> Attempt State}
    (stepEmits : ∀ state value, (step state value).Emits allowed)
    (values : List Value)
    (state : State) : (values.foldlM step state).Emits allowed := by
  induction values generalizing state with
  | nil => exact emits_pure state
  | cons value rest inductionHypothesis =>
      rw [List.foldlM_cons]
      exact (stepEmits state value).bind fun changed => inductionHypothesis changed

/-- A list of attempts emits what each of them emits. -/
theorem Emits.mapM
    {step : Value -> Attempt Result}
    (stepEmits : ∀ value, (step value).Emits allowed)
    (values : List Value) : (values.mapM step).Emits allowed := by
  induction values with
  | nil => exact emits_pure []
  | cons value rest inductionHypothesis =>
      rw [List.mapM_cons]
      refine (stepEmits value).bind fun result => ?_
      exact inductionHypothesis.bind fun results => emits_pure (result :: results)

end Emits

end Attempt

/-! ## Generating shaders -/

section Records

variable {allowed : Event -> Prop}

/-- Extracting calls only logs. -/
theorem Call.emits_extract
    (records : ∀ level message, allowed (.record level message))
    (text : String) : (Call.extract text).Emits allowed := by
  rw [Call.extract]
  induction Call.inText text with
  | nil => exact Traced.emits_pure []
  | cons found rest inductionHypothesis =>
      cases found with
      | call call => exact inductionHypothesis.bind fun others => Traced.emits_pure _
      | unclosed text => exact (Traced.emits_log records _ _).bind fun _ => inductionHypothesis

/-- Discovering calls only logs. -/
theorem Analysis.emits_discover
    (records : ∀ level message, allowed (.record level message))
    (depth : Nat)
    (texts : List String)
    (found : Table Call) : (Analysis.discover depth texts found).Emits allowed := by
  induction depth generalizing texts found with
  | zero => exact Traced.emits_pure found
  | succ depth inductionHypothesis =>
      apply Traced.Emits.foldlM
      intro found text
      refine (Call.emits_extract records text).bind fun calls => ?_
      apply Traced.Emits.foldlM
      intro found call
      exact inductionHypothesis call.arguments _

/-- An analysis only logs. -/
theorem Vocabulary.emits_analyze
    (records : ∀ level message, allowed (.record level message))
    (vocabulary : Vocabulary)
    (name : String)
    (arguments : List String) : (vocabulary.analyze name arguments).Emits allowed := by
  refine (Analysis.emits_discover records _ _ _).bind fun calls => ?_
  dsimp only
  split
  · exact (Traced.emits_log records _ _).bind fun _ => Traced.emits_pure _
  · exact Traced.emits_pure _

/-- Loading a source only logs. -/
theorem Catalogue.emits_loadSource
    (records : ∀ level message, allowed (.record level message))
    (catalogue : Catalogue)
    (files : FileTree)
    (name : String)
    (pluginAlias : Option String) :
    (catalogue.loadSource files name pluginAlias).Emits allowed := by
  unfold Catalogue.loadSource
  split
  · exact Attempt.emits_pure ""
  · split
    · exact Attempt.emits_pure _
    · refine Attempt.Emits.bind ?_ fun _ => Attempt.emits_pure ""
      exact Attempt.emits_liftTraced (Traced.emits_log records _ _)
    · exact Attempt.emits_throw _

/-- A report only logs. -/
theorem Interpreter.emits_report
    (records : ∀ level message, allowed (.record level message))
    (interpreter : Interpreter)
    (text : String) : (interpreter.report text).Emits allowed := by
  unfold Interpreter.report
  split
  · exact Attempt.emits_throw _
  · split
    · exact Attempt.emits_pure _
    · refine Attempt.Emits.bind ?_ fun _ => Attempt.emits_pure _
      exact Attempt.emits_liftTraced (Traced.emits_log records _ _)

/-- A description only logs. -/
theorem Interpreter.emits_describe
    (records : ∀ level message, allowed (.record level message))
    (interpreter : Interpreter)
    (locals : LocalTypes)
    (texts : List String) : (interpreter.describe locals texts).Emits allowed := by
  apply Attempt.Emits.mapM
  intro text
  exact (interpreter.emits_report records text).bind fun reading => Attempt.emits_pure _

/-- Generating a shader only logs. -/
theorem Generator.emits_generate
    (records : ∀ level message, allowed (.record level message))
    (generator : Generator)
    (code name : String)
    (texts : List String) : (generator.generate code name texts).Emits allowed :=
  (generator.interpreter.emits_describe records [] texts).bind fun _ =>
    Attempt.emits_liftExcept _

/-- Adding sources only logs. -/
theorem Assembly.emits_addSources
    (records : ∀ level message, allowed (.record level message))
    (catalogue : Catalogue)
    (files : FileTree)
    (names : List String)
    (assembly : Assembly) :
    (Assembly.addSources catalogue files names assembly).Emits allowed := by
  induction names generalizing assembly with
  | nil => exact Attempt.emits_pure assembly
  | cons name rest inductionHypothesis =>
      rw [Assembly.addSources]
      split
      · exact inductionHypothesis assembly
      · refine (catalogue.emits_loadSource records files name none).bind fun source => ?_
        split
        · exact (Attempt.emits_throw _).bind fun _ => inductionHypothesis _
        · exact inductionHypothesis _

/-- Adding a node only logs. -/
theorem Assembly.emits_addNode
    (records : ∀ level message, allowed (.record level message))
    (generator : Generator)
    (files : FileTree)
    (graph : Graph)
    (assembly : Assembly)
    (node : String) :
    (Assembly.addNode generator files graph assembly node).Emits allowed := by
  unfold Assembly.addNode
  split
  case h_1 => exact Attempt.emits_throw _
  case h_2 found _ =>
    refine (generator.interpreter.emits_describe records _ _).bind fun arguments => ?_
    refine Attempt.Emits.bind ?_ fun analysis => ?_
    · exact Attempt.emits_liftTraced (generator.vocabulary.emits_analyze records _ _)
    · dsimp only
      split
      · refine (Attempt.emits_throw _).bind fun _ => ?_
        refine (Assembly.emits_addSources records _ files _ _).bind fun sourced => ?_
        exact (Attempt.emits_liftExcept _).bind fun _ => Attempt.emits_pure _
      · refine (Assembly.emits_addSources records _ files _ _).bind fun sourced => ?_
        exact (Attempt.emits_liftExcept _).bind fun _ => Attempt.emits_pure _

/-- Unifying a chain only logs. -/
theorem Generator.emits_unify
    (records : ∀ level message, allowed (.record level message))
    (generator : Generator)
    (files : FileTree)
    (graph : Graph)
    (chain : List String) : (generator.unify files graph chain).Emits allowed := by
  refine Attempt.Emits.bind ?_ fun assembly => ?_
  · apply Attempt.Emits.foldlM
    exact Assembly.emits_addNode records generator files graph
  · split
    · exact Attempt.emits_throw _
    · exact Attempt.emits_pure _

end Records

end ShaderGraph
