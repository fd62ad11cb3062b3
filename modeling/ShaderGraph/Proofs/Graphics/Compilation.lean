import ShaderGraph.Graphics.Compilation
import ShaderGraph.Proofs.Trace.Emission

/-!
# What a compilation comes to

A compilation fails without making a program, or makes the next one as the last
thing that it does. A program is made of stages whose includes were resolved.
-/

namespace ShaderGraph

namespace Graphics

/-- What a compilation comes to: it fails quietly, or makes the next program as the
last thing that it does. -/
inductive Compiles (graphics : Graphics) :
    Except CompileError Program -> List Event -> Graphics -> Prop
  | failed
      {error : CompileError}
      {events : List Event}
      {changed : Graphics}
      (quiet : ∀ event ∈ events, event.IsQuiet)
      (same : changed.programs = graphics.programs) :
      Compiles graphics (.error error) events changed
  | made
      {program : Program}
      {events : List Event}
      {changed : Graphics}
      (quiet : ∀ event ∈ events, event.IsQuiet)
      (next : program.number = graphics.programs + 1)
      (counted : changed.programs = graphics.programs + 1) :
      Compiles graphics (.ok program) (events ++ [.programMade program.number]) changed

theorem Compiles.programs_le
    {graphics changed : Graphics}
    {outcome : Except CompileError Program}
    {events : List Event}
    (compiles : graphics.Compiles outcome events changed) :
    graphics.programs ≤ changed.programs := by
  cases compiles with
  | failed quiet same => exact Nat.le_of_eq same.symm
  | made quiet next counted => exact counted ▸ Nat.le_succ _

/-- What happens before a compilation changes nothing in what it comes to. -/
theorem Compiles.after
    {graphics middle changed : Graphics}
    {outcome : Except CompileError Program}
    {before events : List Event}
    (quietBefore : ∀ event ∈ before, event.IsQuiet)
    (sameBefore : middle.programs = graphics.programs)
    (compiles : middle.Compiles outcome events changed) :
    graphics.Compiles outcome (before ++ events) changed := by
  cases compiles with
  | failed quiet same =>
      refine .failed (fun event listed => ?_) (same.trans sameBefore)
      exact (List.mem_append.mp listed).elim (quietBefore event) (quiet event)
  | made quiet next counted =>
      rw [← List.append_assoc]
      refine .made (fun event listed => ?_) (sameBefore ▸ next) (sameBefore ▸ counted)
      exact (List.mem_append.mp listed).elim (quietBefore event) (quiet event)

/-- What follows a quiet step decides what a rendering comes to. -/
theorem Compiles.bind
    {first : Rendering Value}
    {next : Value -> Rendering Program}
    {graphics : Graphics}
    (quiet : ∀ event ∈ (first.run.run graphics).trace, event.IsQuiet)
    (same : (first.run.run graphics).value.2.programs = graphics.programs)
    (continued : ∀ value changed, changed.programs = graphics.programs ->
      let ran := (next value).run.run changed
      changed.Compiles ran.value.1 ran.trace ran.value.2) :
    let ran := (first >>= next).run.run graphics
    graphics.Compiles ran.value.1 ran.trace ran.value.2 := by
  change
    let ran := first.run.run graphics
    let rest := StateT.run (ExceptT.bindCont next ran.value.1) ran.value.2
    graphics.Compiles rest.value.1 (ran.trace ++ rest.trace) rest.value.2
  dsimp only
  cases (first.run.run graphics).value.1 with
  | error error =>
      refine .failed (fun event listed => ?_) same
      rw [List.mem_append] at listed
      exact listed.elim (quiet event) (fun impossible => nomatch impossible)
  | ok value => exact (continued value _ same).after quiet same

/-- Making sure that there is a context makes no program. -/
theorem acquire_quiet (access : Access) (graphics : Graphics) :
    let ran := (acquire access).run.run graphics
    (∀ event ∈ ran.trace, event.IsQuiet) ∧ ran.value.2.programs = graphics.programs := by
  obtain ⟨⟨starts, makesWindow⟩, isShared, programs, last⟩ := graphics
  cases access with
  | given => exact ⟨List.forall_mem_nil _, rfl⟩
  | hidden =>
      cases isShared with
      | true => exact ⟨List.forall_mem_nil _, rfl⟩
      | false =>
          -- The events are known once it is known how far the window system comes.
          cases starts with
          | false =>
              refine ⟨?_, rfl⟩
              change ∀ event ∈ [_], _
              simp [Event.IsQuiet, Event.program?]
          | true =>
              cases makesWindow with
              | false =>
                  refine ⟨?_, rfl⟩
                  change ∀ event ∈ [_, _, _, _, _, _, _, _], _
                  simp [Event.IsQuiet, Event.program?]
              | true =>
                  refine ⟨?_, rfl⟩
                  change ∀ event ∈ [_, _, _, _, _, _, _, _, _], _
                  simp [Event.IsQuiet, Event.program?]

theorem link_compiles (vertex fragment : String) (graphics : Graphics) :
    let ran := (link vertex fragment).run.run graphics
    graphics.Compiles ran.value.1 ran.trace ran.value.2 := by
  unfold link
  cases rejection? fragment.toList with
  | some reason => exact .failed (List.forall_mem_nil _) rfl
  | none =>
      change graphics.Compiles _ ([] ++ [_]) _
      exact .made (List.forall_mem_nil _) rfl rfl

theorem build_compiles
    (files : FileTree)
    (access : Access)
    (vertex fragment directory : String)
    (graphics : Graphics) :
    let ran := (build files access vertex fragment directory).run.run graphics
    graphics.Compiles ran.value.1 ran.trace ran.value.2 := by
  have linked (vertex fragment : String) (graphics : Graphics) :
      let ran := (acquire access >>= fun _ => link vertex fragment : Rendering Program).run.run
        graphics
      graphics.Compiles ran.value.1 ran.trace ran.value.2 := by
    obtain ⟨quiet, same⟩ := acquire_quiet access graphics
    exact .bind quiet same fun _ changed _ => link_compiles vertex fragment changed
  unfold build
  cases Include.resolve files directory vertex with
  | error error => exact .failed (List.forall_mem_nil _) rfl
  | ok vertex =>
      cases Include.resolve files directory fragment with
      | error error => exact .failed (List.forall_mem_nil _) rfl
      | ok fragment => exact linked vertex fragment graphics

theorem compile_compiles
    (files : FileTree)
    (access : Access)
    (vertex fragment directory : String)
    (graphics : Graphics) :
    let ran := (compile files access vertex fragment directory).run graphics
    graphics.Compiles ran.value.1 ran.trace ran.value.2 := by
  have built := build_compiles files access vertex fragment directory graphics
  dsimp only at built
  unfold compile
  rw [StateT.run_bind]
  dsimp only [Traced.value_bind, Traced.trace_bind]
  generalize (build files access vertex fragment directory).run.run graphics = ran at built
  obtain ⟨⟨outcome, changed⟩, events⟩ := ran
  cases built with
  | @failed error _ _ quiet same =>
      refine .failed (fun event listed => ?_) same
      rcases List.mem_append.mp listed with before | reported
      · exact quiet event before
      · rw [List.mem_singleton.mp reported]
        exact Event.isQuiet_record _ _
  | made quiet next counted =>
      change graphics.Compiles _ (_ ++ []) _
      rw [List.append_nil]
      exact .made quiet next counted

/-! ## Stages that are handed over -/

theorem link_handsOver
    {vertex fragment : String}
    {graphics changed : Graphics}
    {program : Program}
    (made : ((link vertex fragment).run.run graphics).value = (.ok program, changed)) :
    changed.last = some (vertex, fragment) := by
  unfold link at made
  cases found : rejection? fragment.toList with
  | some reason =>
      rw [found] at made
      cases made
  | none =>
      rw [found] at made
      cases made
      rfl

theorem build_handsOver
    {files : FileTree}
    {access : Access}
    {vertex fragment directory : String}
    {graphics changed : Graphics}
    {program : Program}
    (made : ((build files access vertex fragment directory).run.run graphics).value =
      (.ok program, changed)) :
    ∃ vertexText fragmentText, Include.resolve files directory vertex = .ok vertexText ∧
      Include.resolve files directory fragment = .ok fragmentText ∧
      changed.last = some (vertexText, fragmentText) := by
  unfold build at made
  cases vertexResolved : Include.resolve files directory vertex with
  | error error =>
      rw [vertexResolved] at made
      cases made
  | ok vertexText =>
      rw [vertexResolved] at made
      cases fragmentResolved : Include.resolve files directory fragment with
      | error error =>
          rw [fragmentResolved] at made
          cases made
      | ok fragmentText =>
          rw [fragmentResolved] at made
          refine ⟨vertexText, fragmentText, rfl, rfl, ?_⟩
          change (StateT.run (ExceptT.bindCont (fun _ => link vertexText fragmentText)
            ((acquire access).run.run graphics).value.1)
            ((acquire access).run.run graphics).value.2).value = _ at made
          cases acquired : ((acquire access).run.run graphics).value.1 with
          | error error =>
              rw [acquired] at made
              cases made
          | ok context =>
              rw [acquired] at made
              exact link_handsOver made

/-- A program is made of stages whose includes were resolved from the directory, and which
were the last ones that were handed to the driver. -/
theorem resolved_of_compile
    {files : FileTree}
    {access : Access}
    {vertex fragment directory : String}
    {graphics changed : Graphics}
    {program : Program}
    (made : ((compile files access vertex fragment directory).run graphics).value =
      (.ok program, changed)) :
    ∃ vertexText fragmentText, Include.resolve files directory vertex = .ok vertexText ∧
      Include.resolve files directory fragment = .ok fragmentText ∧
      changed.last = some (vertexText, fragmentText) := by
  unfold compile at made
  rw [StateT.run_bind, Traced.value_bind] at made
  obtain ⟨⟨outcome, after⟩, built⟩ :
    ∃ built, ((build files access vertex fragment directory).run.run graphics).value = built :=
  ⟨_, rfl⟩
  rw [built] at made
  cases outcome with
  | error error => cases made
  | ok program =>
      cases made
      exact build_handsOver built
end Graphics

end ShaderGraph
