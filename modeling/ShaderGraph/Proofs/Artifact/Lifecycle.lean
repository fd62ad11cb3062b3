import ShaderGraph.Proofs.Host.Accounting

/-!
# The life of an artifact

An artifact is given sources, compiled, marked, refused and cleaned up in any order. If
every successful compilation brings a program of its own, each of these programs is
released at most once, and the one that the artifact has is the only one that was not
released. The artifact is ready as long as its last compilation lasts: no error was
recorded since, and the program is not released.
-/

namespace ShaderGraph
namespace Artifact

/-! ## Compiling -/

/-- A compiler makes a program of two stages, whose includes leave from a directory, or
tells why there is none. -/
abbrev Compiler := (vertex fragment directory : String) -> Except CompileError Program

/-- Compile an artifact and tell whether it has a new program. The compiler is not asked
unless both stages have a source. -/
def compile (artifact : Artifact) (compiler : Compiler) : Traced (Bool × Artifact) :=
  if artifact.hasSource then
    artifact.receive (compiler artifact.vertex artifact.fragment artifact.directory)
  else do
    return (false, <- artifact.fail "No shader source to compile")

/-- The program that a compilation obtains from the compiler. -/
def compiled? (artifact : Artifact) (compiler : Compiler) : Option Program :=
  if artifact.hasSource then
    (compiler artifact.vertex artifact.fragment artifact.directory).toOption
  else none

section Compile

variable {artifact : Artifact} {compiler : Compiler}

theorem compile_of_compiled?
    {program : Program}
    (made : artifact.compiled? compiler = some program) :
    artifact.compile compiler = artifact.receive (.ok program) := by
  unfold compiled? at made
  unfold compile
  split at made
  case isTrue sourced =>
    rw [if_pos sourced]
    cases outcome : compiler artifact.vertex artifact.fragment artifact.directory with
    | error error =>
        rw [outcome] at made
        cases made
    | ok other =>
        rw [outcome] at made
        cases made
        rfl
  case isFalse => cases made

/-- A compilation without a program records an error and does nothing else. -/
theorem exists_compile_eq_fail (refused : artifact.compiled? compiler = none) :
    ∃ message, artifact.compile compiler = do return (false, <- artifact.fail message) := by
  unfold compiled? at refused
  unfold compile
  split at refused
  case isTrue sourced =>
    rw [if_pos sourced]
    cases outcome : compiler artifact.vertex artifact.fragment artifact.directory with
    | error error => exact ⟨error.message, rfl⟩
    | ok program =>
        rw [outcome] at refused
        cases refused
  case isFalse sourceless =>
    rw [if_neg sourceless]
    exact ⟨_, rfl⟩

/-- A compilation succeeds if it makes a program. -/
theorem isSome_compiled? :
    (artifact.compiled? compiler).isSome = (artifact.compile compiler).value.1 := by
  cases made : artifact.compiled? compiler with
  | none =>
      obtain ⟨message, same⟩ := exists_compile_eq_fail made
      rw [same]
      rfl
  | some program =>
      rw [compile_of_compiled? made]
      rfl

end Compile

/-! ## Operations -/

/-- An operation on an artifact. Each compilation may ask another compiler. -/
inductive Operation
  | setSource (vertex fragment : String)
  | compile (compiler : Compiler)
  | fail (message : String)
  | connect
  | disconnect
  | release
  | cleanUp

namespace Operation

/-- Perform an operation on an artifact. -/
def perform : Operation -> Artifact -> Traced Artifact
  | .setSource vertex fragment, artifact => pure (artifact.setSource vertex fragment)
  | .compile compiler, artifact => Prod.snd <$> artifact.compile compiler
  | .fail message, artifact => artifact.fail message
  | .connect, artifact => pure artifact.connect
  | .disconnect, artifact => pure artifact.disconnect
  | .release, artifact => artifact.release
  | .cleanUp, artifact => artifact.cleanUp

/-- The program that an operation obtains. -/
def obtained? : Operation -> Artifact -> Option Program
  | .compile compiler, artifact => artifact.compiled? compiler
  | _, _ => none

/-- Whether an operation neither compiles nor records an error of its own. -/
def isLasting : Operation -> Bool
  | .compile _ => false
  | .fail _ => false
  | _ => true

variable {operation : Operation} {artifact : Artifact}

/-- A program that was made is that of the artifact. -/
theorem program_perform_of_compiled?
    {compiler : Compiler}
    {program : Program}
    (made : artifact.compiled? compiler = some program) :
    (perform (.compile compiler) artifact).value.program = some program := by
  rw [perform, Traced.value_map, compile_of_compiled? made]
  rfl

/-- An artifact has no program but the one that it had and the one that it obtains. -/
theorem program_perform
    {program : Program}
    (owned : (operation.perform artifact).value.program = some program) :
    artifact.program = some program ∨ operation.obtained? artifact = some program := by
  cases operation with
  | setSource | fail => exact .inl owned
  | compile compiler =>
      cases made : artifact.compiled? compiler with
      | none =>
          obtain ⟨message, same⟩ := exists_compile_eq_fail made
          rw [perform, Traced.value_map, same] at owned
          exact .inl owned
      | some other =>
          rw [program_perform_of_compiled? made] at owned
          exact .inr (made.trans owned)
  | connect => exact .inl (Host.program_connect artifact ▸ owned)
  | disconnect => exact .inl (Host.program_disconnect artifact ▸ owned)
  | release =>
      rw [perform, program_release] at owned
      cases owned
  | cleanUp =>
      rw [perform, program_cleanUp] at owned
      cases owned

/-- What an artifact has and obtains, it has or releases. -/
theorem balance_perform (operation : Operation) (artifact : Artifact) (number : Nat) :
    (artifact.owns number).toNat +
        ((operation.obtained? artifact).toList.map Program.number).count number =
      ((operation.perform artifact).value.owns number).toNat +
        (operation.perform artifact).trace.count (.programReleased number) := by
  have released := (artifact.count_released number).2
  have none_owned {other : Artifact} (none : other.program = none) :
      (other.owns number).toNat = 0 := by rw [owns_none none]; rfl
  cases operation with
  | setSource | fail => rfl
  | connect => simp [perform, obtained?, owns, Host.program_connect]
  | disconnect => simp [perform, obtained?, owns, Host.program_disconnect]
  | release =>
      rw [perform, trace_release, none_owned artifact.program_release, released, Nat.zero_add]
      rfl
  | cleanUp =>
      rw [perform, trace_cleanUp, none_owned artifact.program_cleanUp, released, Nat.zero_add]
      rfl
  | compile compiler =>
      rw [perform, obtained?, Traced.value_map, Traced.trace_map]
      cases made : artifact.compiled? compiler with
      | none =>
          obtain ⟨message, same⟩ := exists_compile_eq_fail made
          rw [same]
          rfl
      | some program =>
          rw [compile_of_compiled? made, receive, Traced.trace_bind, Traced.trace_pure,
            List.append_nil, trace_release, released]
          by_cases same : program.number = number
          · simp [owns, same, Nat.add_comm]
          · simp [owns, same]

/-- As long as its program lasts, an artifact stays ready or not. -/
theorem isReady_perform_of_isLasting
    (lasting : operation.isLasting = true)
    (owned : (operation.perform artifact).value.program.isSome = true) :
    (operation.perform artifact).value.isReady = artifact.isReady := by
  cases operation with
  | setSource => rfl
  | connect => exact isReady_connect artifact
  | disconnect => exact isReady_disconnect artifact
  | release =>
      rw [perform, program_release] at owned
      cases owned
  | cleanUp =>
      rw [perform, program_cleanUp] at owned
      cases owned
  | compile | fail => cases lasting

end Operation

/-! ## Runs -/

/-- Perform operations one after another. -/
def performAll : List Operation -> Artifact -> Traced Artifact
  | [], artifact => pure artifact
  | operation :: rest, artifact => do
      let changed <- operation.perform artifact
      performAll rest changed

/-- The programs that operations obtain one after another. -/
def obtained : List Operation -> Artifact -> List Program
  | [], _ => []
  | operation :: rest, artifact =>
      (operation.obtained? artifact).toList ++ obtained rest (operation.perform artifact).value

/-- Operations one after the other end where the second ones end. -/
theorem value_performAll_append (first second : List Operation) (artifact : Artifact) :
    (performAll (first ++ second) artifact).value =
      (performAll second (performAll first artifact).value).value := by
  induction first generalizing artifact with
  | nil => rfl
  | cons operation rest inductionHypothesis => exact inductionHypothesis _

/-- Operations one after the other obtain the programs of both. -/
theorem obtained_append (first second : List Operation) (artifact : Artifact) :
    obtained (first ++ second) artifact =
      obtained first artifact ++ obtained second (performAll first artifact).value := by
  induction first generalizing artifact with
  | nil => rfl
  | cons operation rest inductionHypothesis =>
      rw [List.cons_append, obtained, inductionHypothesis, ← List.append_assoc]
      rfl

/-- A program is the one before or was obtained. -/
theorem program_performAll
    {operations : List Operation}
    {artifact : Artifact}
    {program : Program}
    (owned : (performAll operations artifact).value.program = some program) :
    artifact.program = some program ∨ program ∈ obtained operations artifact := by
  induction operations generalizing artifact with
  | nil => exact .inl owned
  | cons operation rest inductionHypothesis =>
      rw [obtained, List.mem_append, Option.mem_toList]
      rcases inductionHypothesis owned with before | later
      · exact (operation.program_perform before).imp_right .inl
      · exact .inr (.inr later)

/-- What an artifact has and obtains over a run, it has at the end or releases. -/
theorem balance_performAll (operations : List Operation) (artifact : Artifact) (number : Nat) :
    (artifact.owns number).toNat +
        ((obtained operations artifact).map Program.number).count number =
      ((performAll operations artifact).value.owns number).toNat +
        (performAll operations artifact).trace.count (.programReleased number) := by
  induction operations generalizing artifact with
  | nil => rfl
  | cons operation rest inductionHypothesis =>
      have first := operation.balance_perform artifact number
      have others := inductionHypothesis (operation.perform artifact).value
      rw [obtained, List.map_append, List.count_append, performAll, Traced.value_bind,
        Traced.trace_bind, List.count_append]
      omega

section Lasting

variable {operations : List Operation} {artifact : Artifact}

/-- Without a compilation no program is obtained. -/
theorem obtained_of_isLasting (lasting : ∀ operation ∈ operations, operation.isLasting = true) :
    obtained operations artifact = [] := by
  induction operations generalizing artifact with
  | nil => rfl
  | cons operation rest inductionHypothesis =>
      obtain ⟨first, others⟩ := List.forall_mem_cons.mp lasting
      rw [obtained, inductionHypothesis others, List.append_nil]
      cases operation with
      | compile => cases first
      | _ => rfl

/-- A program that lasts to the end of a run without compilations was there before. -/
theorem program_of_isLasting
    (lasting : ∀ operation ∈ operations, operation.isLasting = true)
    {program : Program}
    (owned : (performAll operations artifact).value.program = some program) :
    artifact.program = some program := by
  refine (program_performAll owned).resolve_right fun listed => ?_
  rw [obtained_of_isLasting lasting] at listed
  cases listed

/-- An artifact that owns its program stays as ready as it is without a compilation or an error. -/
theorem isReady_performAll_of_isLasting
    (lasting : ∀ operation ∈ operations, operation.isLasting = true)
    {program : Program}
    (owned : (performAll operations artifact).value.program = some program) :
    (performAll operations artifact).value.isReady = artifact.isReady := by
  induction operations generalizing artifact with
  | nil => rfl
  | cons operation rest inductionHypothesis =>
      obtain ⟨first, others⟩ := List.forall_mem_cons.mp lasting
      have before : (operation.perform artifact).value.program = some program :=
        program_of_isLasting others owned
      calc (performAll rest (operation.perform artifact).value).value.isReady
          = (operation.perform artifact).value.isReady := inductionHypothesis others owned
        _ = artifact.isReady :=
            operation.isReady_perform_of_isLasting first (Option.isSome_of_eq_some before)

end Lasting

/-- The last compilation of a run succeeds and obtains a program, and no error is recorded
behind it. -/
def LastObtains (operations : List Operation) (artifact : Artifact) (program : Program) : Prop :=
  ∃ before compiler after,
    operations = before ++ .compile compiler :: after ∧
      ((performAll before artifact).value.compile compiler).value.1 = true ∧
      (performAll before artifact).value.compiled? compiler = some program ∧
      ∀ operation ∈ after, operation.isLasting = true

/-- A run has a last compilation or error, unless it has none. -/
theorem exists_last (operations : List Operation) :
    (∀ operation ∈ operations, operation.isLasting = true) ∨
      ∃ before operation after, operations = before ++ operation :: after ∧
        operation.isLasting = false ∧ ∀ later ∈ after, later.isLasting = true := by
  induction operations with
  | nil => exact .inl (List.forall_mem_nil _)
  | cons operation rest inductionHypothesis =>
      rcases inductionHypothesis with lasting | ⟨before, last, after, rfl, ends, lasting⟩
      · cases first : operation.isLasting with
        | true => exact .inl (List.forall_mem_cons.mpr ⟨first, lasting⟩)
        | false => exact .inr ⟨[], operation, rest, rfl, first, lasting⟩
      · exact .inr ⟨operation :: before, last, after, rfl, ends, lasting⟩

section New

variable {operations : List Operation} {artifact : Artifact} {program : Program}

/-- An artifact that is ready has the program of the last compilation, if it had none. -/
theorem exists_lastObtains_of_isReady
    (new : artifact.program = none)
    (ready : (performAll operations artifact).value.isReady = true) :
    ∃ program, LastObtains operations artifact program ∧
      (performAll operations artifact).value.program = some program := by
  obtain ⟨program, owned⟩ := Option.isSome_iff_exists.mp (Bool.and_eq_true_iff.mp ready).1
  rcases exists_last operations with lasting | ⟨before, operation, after, rfl, ends, lasting⟩
  · rw [program_of_isLasting lasting owned] at new
    cases new
  · rw [value_performAll_append] at ready owned
    have ownedThen : (operation.perform (performAll before artifact).value).value.program =
        some program := program_of_isLasting lasting owned
    have readyThen : (operation.perform (performAll before artifact).value).value.isReady = true :=
      (isReady_performAll_of_isLasting lasting owned).symm.trans ready
    cases operation with
    | compile compiler =>
        cases made : (performAll before artifact).value.compiled? compiler with
        | none =>
            obtain ⟨message, same⟩ := exists_compile_eq_fail made
            rw [Operation.perform, Traced.value_map, same] at readyThen
            simp [isReady, fail] at readyThen
        | some other =>
            rw [Operation.program_perform_of_compiled? made] at ownedThen
            cases ownedThen
            have succeeds := isSome_compiled?.symm.trans (Option.isSome_of_eq_some made)
            rw [value_performAll_append]
            exact ⟨program, ⟨before, compiler, after, rfl, succeeds, made, lasting⟩, owned⟩
    | fail message => simp [isReady, Operation.perform, fail] at readyThen
    | _ => cases ends

theorem LastObtains.mem_obtained (last : LastObtains operations artifact program) :
    program ∈ obtained operations artifact := by
  obtain ⟨before, compiler, after, rfl, -, made, -⟩ := last
  rw [obtained_append, obtained]
  refine List.mem_append_right _ (List.mem_append_left _ ?_)
  exact Option.mem_toList.mpr made

/-- An artifact is ready while it owns the last program that it obtained. -/
theorem LastObtains.isReady
    (last : LastObtains operations artifact program)
    (owned : (performAll operations artifact).value.program = some program) :
    (performAll operations artifact).value.isReady = true := by
  obtain ⟨before, compiler, after, rfl, -, made, lasting⟩ := last
  rw [value_performAll_append] at owned ⊢
  refine (isReady_performAll_of_isLasting lasting owned).trans ?_
  rw [Operation.perform, Traced.value_map, compile_of_compiled? made]
  rfl

/-- Each program that was obtained is owned or was released. -/
theorem count_obtained
    (operations : List Operation)
    (new : artifact.program = none)
    (number : Nat) :
    ((obtained operations artifact).map Program.number).count number =
      ((performAll operations artifact).value.owns number).toNat +
        (performAll operations artifact).trace.count (.programReleased number) := by
  have balance := balance_performAll operations artifact number
  rwa [owns_none new, Bool.toNat_false, Nat.zero_add] at balance

variable
  (new : artifact.program = none)
  (fresh : ((obtained operations artifact).map Program.number).Nodup)

include new fresh

/-- No program is released twice. -/
theorem count_released_le (number : Nat) :
    (performAll operations artifact).trace.count (.programReleased number) ≤ 1 := by
  have once := List.nodup_iff_count_le_one.mp fresh number
  have balance := count_obtained operations new number
  omega

/-- The programs that were obtained and not released are the one that the artifact has. -/
theorem unreleased_iff (program : Program) :
    program ∈ obtained operations artifact ∧
        .programReleased program.number ∉ (performAll operations artifact).trace ↔
      (performAll operations artifact).value.program = some program := by
  have balance := count_obtained operations new program.number
  have listed_of_owned {other : Program}
      (owned : (performAll operations artifact).value.program = some other) :
      other ∈ obtained operations artifact :=
    (program_performAll owned).resolve_left (by simp [new])
  constructor
  · rintro ⟨listed, kept⟩
    have counted : 0 < ((obtained operations artifact).map Program.number).count program.number :=
      List.count_pos_iff.mpr (List.mem_map_of_mem listed)
    rw [List.count_eq_zero.mpr kept, Nat.add_zero] at balance
    have owns : (performAll operations artifact).value.owns program.number = true := by
      rw [← Bool.not_eq_false]
      intro lost
      rw [lost, Bool.toNat_false] at balance
      exact Nat.lt_irrefl 0 (balance ▸ counted)
    obtain ⟨other, owned, same⟩ := (Option.any_eq_true _ _).mp owns
    have equal : other = program :=
      List.inj_on_of_nodup_map fresh (listed_of_owned owned) listed (beq_iff_eq.mp same)
    exact equal ▸ owned
  · intro owned
    refine ⟨listed_of_owned owned, fun released => ?_⟩
    have once := List.nodup_iff_count_le_one.mp fresh program.number
    have counted := List.count_pos_iff.mpr released
    have owns : (performAll operations artifact).value.owns program.number = true := by
      rw [Artifact.owns, owned]
      exact beq_self_eq_true program.number
    rw [owns, Bool.toNat_true] at balance
    omega

end New

/-- A compilation that fails leaves the program and records an error. -/
theorem compile_of_failed
    {artifact : Artifact}
    {compiler : Compiler}
    (failed : (artifact.compile compiler).value.1 = false) :
    (artifact.compile compiler).value.2.program = artifact.program ∧
      (artifact.compile compiler).value.2.state = .error ∧
      ∀ number, .programReleased number ∉ (artifact.compile compiler).trace := by
  have refused : artifact.compiled? compiler = none := by
    rw [← isSome_compiled?, Option.isSome_eq_false_iff] at failed
    exact Option.isNone_iff_eq_none.mp failed
  obtain ⟨message, same⟩ := exists_compile_eq_fail refused
  rw [same]
  exact ⟨rfl, rfl, fun number listed => by cases listed with | tail _ more => cases more⟩

/-- Over every sequence of operations on a new artifact whose successful compilations
bring programs of their own, each of these programs is released at most once, and those
that are not released are the program of the artifact. A compilation that fails then
keeps the program and ends in an error. The artifact is ready exactly if its last
compilation succeeded, no error was recorded behind it, and its program is not released. -/
theorem performAll_owns_unreleased
    (function : String)
    (arguments : List String)
    (operations : List Operation)
    (fresh : ((obtained operations { function, arguments }).map Program.number).Nodup) :
    let programs := obtained operations { function, arguments }
    let trace := (performAll operations { function, arguments }).trace
    let artifact := (performAll operations { function, arguments }).value
    (∀ program ∈ programs, trace.count (.programReleased program.number) ≤ 1) ∧
    (∀ program, program ∈ programs ∧ .programReleased program.number ∉ trace ↔
      artifact.program = some program) ∧
    (∀ compiler, (artifact.compile compiler).value.1 = false ->
      (artifact.compile compiler).value.2.program = artifact.program ∧
        (artifact.compile compiler).value.2.state = .error ∧
        ∀ number, .programReleased number ∉ (artifact.compile compiler).trace) ∧
    (artifact.isReady = true ↔ ∃ program,
      LastObtains operations { function, arguments } program ∧
        .programReleased program.number ∉ trace) := by
  have unreleased := unreleased_iff rfl fresh
  refine ⟨fun program _ => count_released_le rfl fresh program.number, unreleased,
    fun compiler => compile_of_failed, ?_, ?_⟩
  · intro ready
    obtain ⟨program, last, owned⟩ := exists_lastObtains_of_isReady rfl ready
    exact ⟨program, last, ((unreleased program).mpr owned).2⟩
  · rintro ⟨program, last, kept⟩
    exact last.isReady ((unreleased program).mp ⟨last.mem_obtained, kept⟩)

/-- Compilations over a live program, one that fails, an error over a live program, and a
release while the artifact is connected. -/
def rehearsal : List Operation := [
  .compile fun _ _ _ => .ok ⟨1, [], []⟩, .setSource "void main() {}" "void main() {}",
  .compile fun _ _ _ => .ok ⟨2, [], []⟩, .connect, .compile fun _ _ _ => .error .noWindow,
  .compile fun _ _ _ => .ok ⟨3, [], []⟩, .fail "lost", .connect, .cleanUp,
  .compile fun _ _ _ => .ok ⟨4, [], []⟩, .connect, .setSource "" ""]

theorem rehearsal_owns_unreleased :
    let artifact := (performAll rehearsal { function := "sin", arguments := ["st"] }).value
    let trace := (performAll rehearsal { function := "sin", arguments := ["st"] }).trace
    (obtained rehearsal { function := "sin", arguments := ["st"] }).map Program.number = [2, 3, 4] ∧
      (∀ program, program ∈ obtained rehearsal { function := "sin", arguments := ["st"] } ∧
        .programReleased program.number ∉ trace ↔ artifact.program = some program) ∧
      artifact.isReady = true ∧
      ∃ program, LastObtains rehearsal { function := "sin", arguments := ["st"] } program ∧
        .programReleased program.number ∉ trace := by
  have numbers : (obtained rehearsal { function := "sin", arguments := ["st"] }).map
      Program.number = [2, 3, 4] := by decide +kernel
  have ready : (performAll rehearsal { function := "sin", arguments := ["st"] }).value.isReady =
      true := by decide +kernel
  obtain ⟨-, unreleased, -, lasts⟩ :=
    performAll_owns_unreleased "sin" ["st"] rehearsal (numbers ▸ by decide)
  exact ⟨numbers, unreleased, ready, lasts.mp ready⟩

end Artifact

/-! ## Artifacts of a host -/

/-- The compiler of a host at a moment. -/
def Host.compiler (host : Host) : Artifact.Compiler := fun vertex fragment directory =>
  ((Graphics.compile host.files host.access vertex fragment directory).run host.graphics).value.1

/-- A host compiles its artifacts with its compiler. -/
theorem Action.compileArtifact_performs
    {host : Host}
    {id : ArtifactId}
    {artifact : Artifact}
    (found : host.artifact? id = some artifact) :
    (compileArtifact id).result host = .ok (artifact.compile host.compiler).value.1 ∧
      ((compileArtifact id).final host).artifact? id =
        some (artifact.compile host.compiler).value.2 ∧
      ∃ events, (compileArtifact id).trace host =
        events ++ (artifact.compile host.compiler).trace := by
  rw [compileArtifact, result_get_bind, trace_get_bind, final_get_bind, found]
  dsimp only
  unfold Artifact.compile
  cases sourced : artifact.hasSource with
  | false =>
      obtain ⟨result, trace, final⟩ :=
        changeArtifact_of_some found (Artifact.fail · "No shader source to compile")
      rw [Bool.not_false, if_pos rfl, result_bind, trace_bind, final_bind, result, trace, final]
      exact ⟨rfl, Action.artifact?_setArtifact_self found _, [], rfl⟩
  | true =>
      obtain ⟨outcome, graphics, result, final, -⟩ :=
        compileStages_compiles artifact.vertex artifact.fragment artifact.directory host
      have same : host.compiler artifact.vertex artifact.fragment artifact.directory = outcome :=
        Except.ok.inj result
      have there : Host.artifact? { host with graphics } id = some artifact := found
      rw [Bool.not_true, if_neg Bool.false_ne_true, result_bind, trace_bind, final_bind, result,
        final, if_pos rfl, same]
      dsimp only
      rw [result_bind, trace_bind, trace_liftTraced, final_bind]
      refine ⟨rfl, Action.artifact?_setArtifact_self there _,
        (compileStages artifact.vertex artifact.fragment artifact.directory).trace host, ?_⟩
      exact congrArg _ (List.append_nil _)

end ShaderGraph
