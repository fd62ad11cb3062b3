import ShaderGraph.Proofs.Host.Forgetting
import ShaderGraph.Proofs.Host.Work

/-!
# Owners of programs

A program is owned by the artifact that received it, until it is released. What
an action makes and releases balances what the artifacts own before and after:
every program that was owned or is made is owned or was released. The compiler
numbers its programs in their order, so each of them is made only once.
-/

namespace ShaderGraph

/-- Whether an artifact owns a program. -/
def Artifact.owns (artifact : Artifact) (number : Nat) : Bool :=
  artifact.program.any fun program => program.number == number

namespace Artifact

/-- What an artifact releases is the program that it owns. -/
theorem count_released (artifact : Artifact) (number : Nat) :
    let events := artifact.program.toList.map fun program => Event.programReleased program.number
    events.count (.programMade number) = 0 ∧
      events.count (.programReleased number) = (artifact.owns number).toNat := by
  unfold owns
  cases artifact.program with
  | none => exact ⟨rfl, rfl⟩
  | some program =>
      by_cases same : program.number = number
      · simp [same]
      · simp [same, beq_false_of_ne same]

theorem program_release (artifact : Artifact) : artifact.release.value.program = none := by
  unfold release
  cases owned : artifact.program with
  | none => exact owned
  | some program => rfl

theorem program_cleanUp (artifact : Artifact) : artifact.cleanUp.value.program = none := by
  rw [cleanUp, Traced.value_bind, Traced.value_pure]
  split
  · exact artifact.program_release
  · exact artifact.program_release

/-! ### Frames -/

theorem program_refresh (artifact : Artifact) (elapsed width height : Float) :
    (artifact.refresh elapsed width height).program = artifact.program := by
  unfold refresh setNumber setPair
  dsimp only
  split <;> split <;> rfl

theorem program_apply (artifact : Artifact) :
    artifact.apply.program = artifact.program.map artifact.applyTo := rfl

/-- Assigning values to uniforms makes no other program. -/
theorem number_applyTo (artifact : Artifact) (program : Program) :
    (artifact.applyTo program).number = program.number := by
  have assigned {Value : Type} (value : Value -> UniformValue) (entries : Table Value)
      (program : Program) :
      (entries.foldl (fun program entry => program.assign entry.1 (value entry.2)) program).number =
        program.number := by
    induction entries generalizing program with
    | nil => rfl
    | cons entry rest inductionHypothesis =>
        rw [List.foldl_cons, inductionHypothesis]
        unfold Program.assign
        split <;> rfl
  rw [applyTo, assigned fun pair : Float × Float => .pair pair.1 pair.2, assigned .number]

theorem owns_none {artifact : Artifact} (none : artifact.program = none) (number : Nat) :
    artifact.owns number = false := by
  rw [owns, none]
  rfl

end Artifact

namespace Host

/-- The number of artifacts that own a program. -/
def owners (host : Host) (number : Nat) : Nat :=
  host.artifacts.countP fun artifact => artifact.owns number

/-- What was made and released balances what is owned, and the programs that were
made are those with the next numbers. -/
structure Balances (host : Host) (events : List Event) (changed : Host) : Prop where
  programs_le : host.graphics.programs ≤ changed.graphics.programs
  made : ∀ number, events.count (.programMade number) =
    if host.graphics.programs < number ∧ number ≤ changed.graphics.programs then 1 else 0
  balance : ∀ number,
    host.owners number + events.count (.programMade number) =
      changed.owners number + events.count (.programReleased number)

/-- Quiet events leave what is owned as it is. -/
theorem Balances.of_quiet
    {host changed : Host}
    {events : List Event}
    (quiet : ∀ event ∈ events, event.IsQuiet)
    (same : changed.holdings = host.holdings) : host.Balances events changed := by
  obtain ⟨artifacts, programs⟩ := Prod.ext_iff.mp same
  change changed.artifacts = host.artifacts at artifacts
  change changed.graphics.programs = host.graphics.programs at programs
  refine ⟨Nat.le_of_eq programs.symm, fun number => ?_, fun number => ?_⟩
  · rw [count_eq_zero_of_quiet quiet rfl, if_neg (by omega)]
  · rw [count_eq_zero_of_quiet quiet rfl, count_eq_zero_of_quiet quiet rfl, owners, owners,
      artifacts]

instance : IsQuietCourse Balances where
  quiet := .of_quiet
  refl host := .of_quiet (by simp) rfl
  trans := by
    rintro host middle changed first second before after
    have firstLe := before.programs_le
    have secondLe := after.programs_le
    refine ⟨Nat.le_trans firstLe secondLe, fun number => ?_, fun number => ?_⟩
    · rw [List.count_append, before.made, after.made]
      split <;> split <;> split <;> omega
    · have firstBalance := before.balance number
      have secondBalance := after.balance number
      rw [List.count_append, List.count_append]
      omega

end Host

namespace Action

open Host

/-! ## Artifacts -/

/-- A change of an artifact gives away no program without its release. -/
def Surrenders (change : Artifact -> Traced Artifact) : Prop :=
  ∀ artifact number,
    (change artifact).trace.count (.programMade number) = 0 ∧
      (artifact.owns number).toNat = ((change artifact).value.owns number).toNat +
        (change artifact).trace.count (.programReleased number)

/-- A quiet change keeps the program, if it does not change its number. -/
theorem Surrenders.of_quiet
    {change : Artifact -> Traced Artifact}
    (quiet : ∀ artifact, (change artifact).Emits Event.IsQuiet)
    (same : ∀ artifact, (change artifact).value.program.map Program.number =
      artifact.program.map Program.number) : Surrenders change := by
  intro artifact number
  have owns : (change artifact).value.owns number = artifact.owns number := by
    have numbers := same artifact
    unfold Artifact.owns
    cases before : artifact.program <;> cases after : (change artifact).value.program <;>
      simp_all
  rw [count_eq_zero_of_quiet (quiet artifact) rfl, count_eq_zero_of_quiet (quiet artifact) rfl,
    owns]
  exact ⟨rfl, rfl⟩

theorem owners_setArtifact
    {host : Host}
    {id : ArtifactId}
    {old : Artifact}
    (found : host.artifact? id = some old)
    (artifact : Artifact)
    (number : Nat) :
    (host.setArtifact id artifact).owners number + (old.owns number).toNat =
      host.owners number + (artifact.owns number).toNat := by
  obtain ⟨bound, rfl⟩ := List.getElem?_eq_some_iff.mp found
  rw [owners, owners, Host.setArtifact, List.countP_set bound]
  have counted (owned : host.artifacts[id].owns number = true) :
      0 < host.artifacts.countP fun artifact => artifact.owns number :=
    List.countP_pos_iff.mpr ⟨_, List.getElem_mem bound, owned⟩
  cases owned : host.artifacts[id].owns number with
  | false => cases artifact.owns number <;> simp
  | true =>
      have positive := counted owned
      cases artifact.owns number <;> simp <;> omega

theorem balances_changeArtifact
    (id : ArtifactId)
    {change : Artifact -> Traced Artifact}
    (surrenders : Surrenders change) : (changeArtifact id change).Follows Balances := by
  intro host
  cases found : host.artifact? id with
  | none =>
      obtain ⟨trace, final⟩ := changeArtifact_of_none found change
      rw [trace, final]
      exact IsCourse.refl host
  | some artifact =>
      obtain ⟨_, trace, final⟩ := changeArtifact_of_some found change
      rw [trace, final]
      refine ⟨Nat.le_refl _, fun number => ?_, fun number => ?_⟩
      · rw [(surrenders artifact number).1, if_neg (by simp [Host.setArtifact])]
      · have owned := owners_setArtifact found (change artifact).value number
        have surrendered := surrenders artifact number
        omega

/-- What an artifact receives and what it had before is owned or released. -/
theorem receive_balances
    (artifact : Artifact)
    {graphics changed : Graphics}
    {outcome : Except CompileError Program}
    {events : List Event}
    (compiles : graphics.Compiles outcome events changed)
    (number : Nat) :
    let received := artifact.receive outcome
    (events ++ received.trace).count (.programMade number) =
        (if graphics.programs < number ∧ number ≤ changed.programs then 1 else 0) ∧
      (artifact.owns number).toNat + (events ++ received.trace).count (.programMade number) =
        (received.value.2.owns number).toNat +
          (events ++ received.trace).count (.programReleased number) := by
  cases compiles with
  | @failed error _ _ quiet same =>
      have allQuiet : ∀ event ∈ events ++ (artifact.receive (.error error)).trace,
          event.IsQuiet := by
        intro event listed
        rcases List.mem_append.mp listed with before | reported
        · exact quiet event before
        · cases List.mem_singleton.mp reported
          exact Event.isQuiet_record _ _
      dsimp only
      rw [count_eq_zero_of_quiet allQuiet rfl, count_eq_zero_of_quiet allQuiet rfl,
        if_neg (by omega)]
      exact ⟨rfl, rfl⟩
  | @made program before _ quiet next counted =>
      obtain ⟨noneMade, released⟩ := artifact.count_released number
      have trace : (artifact.receive (.ok program)).trace =
          artifact.program.toList.map fun program => .programReleased program.number := by
        rw [Artifact.receive, Traced.trace_bind, Traced.trace_pure, List.append_nil,
          Artifact.trace_release]
      have owns : (artifact.receive (.ok program)).value.2.owns number =
          (program.number == number) := rfl
      dsimp only at noneMade released ⊢
      rw [trace, owns, List.count_append, List.count_append, List.count_append, List.count_append,
        count_eq_zero_of_quiet quiet rfl, count_eq_zero_of_quiet quiet rfl, noneMade, released]
      by_cases same : program.number = number
      · simp [same]
        omega
      · simp [same]
        omega

/-- A compilation that does not start is a failure of the artifact. -/
theorem surrenders_fail (message : String) : Surrenders (Artifact.fail · message) := by
  apply Surrenders.of_quiet
  · intro artifact
    exact (Traced.emits_log Event.isQuiet_record _ _).bind fun _ => Traced.emits_pure _
  · intro artifact
    rfl

theorem balances_addArtifact
    {artifact : Artifact}
    (none : artifact.program = none) : (addArtifact artifact).Follows Balances := by
  intro host
  rw [addArtifact, trace_get_bind, final_get_bind]
  change Balances host ([] ++ []) { host with artifacts := host.artifacts ++ [artifact] }
  refine ⟨Nat.le_refl _, fun number => ?_, fun number => ?_⟩
  · rw [if_neg (by simp)]
    rfl
  · simp [owners, List.countP_append, Artifact.owns_none none]

theorem balances_receive
    {host : Host}
    {id : ArtifactId}
    {artifact : Artifact}
    {outcome : Except CompileError Program}
    {events : List Event}
    {graphics : Graphics}
    (found : host.artifact? id = some artifact)
    (compiles : host.graphics.Compiles outcome events graphics) :
    Balances host (events ++ (artifact.receive outcome).trace)
      (Host.setArtifact { host with graphics } id (artifact.receive outcome).value.2) := by
  have there : Host.artifact? { host with graphics } id = some artifact := found
  refine ⟨compiles.programs_le, fun number => ?_, fun number => ?_⟩
  · exact (receive_balances artifact compiles number).1
  · have owned := owners_setArtifact there (artifact.receive outcome).value.2 number
    have balance := (receive_balances artifact compiles number).2
    have same : Host.owners { host with graphics } number = host.owners number := rfl
    omega

instance : IsWork Balances where
  add _ none _ := balances_addArtifact none
  fail id message := balances_changeArtifact id (surrenders_fail message)
  mark id _ _ := balances_changeArtifact id (.of_quiet (fun _ => Traced.emits_pure _) fun _ => rfl)
  receive := balances_receive

end Action
end ShaderGraph
