import ShaderGraph.Host.Commands
import ShaderGraph.Proofs.Graphics.Compilation
import ShaderGraph.Proofs.Host.Course
import ShaderGraph.Proofs.Host.GraphWork

/-!
# The work of requests

A request for a shader registers its call, reads and generates without touching an
artifact, adds new artifacts, fails or compiles them, and marks what they refresh.
A course that allows all of this is followed by every request for a shader, however
it ends.
-/

namespace ShaderGraph

namespace Host

/-- The artifacts, and the number of programs that were made. -/
def holdings (host : Host) : List Artifact × Nat :=
  (host.artifacts, host.graphics.programs)

/-- The artifacts and the caches that own them. -/
def stock (host : Host) : List Artifact × Table ArtifactId × Table ArtifactId :=
  (host.artifacts, host.calls.cache, host.graphCache)

end Host

/-- A course that allows quiet events which leave what is owned as it is. -/
class IsQuietCourse (course : Host -> List Event -> Host -> Prop) : Prop
    extends IsCourse course where
  quiet {host changed : Host} {events : List Event} :
    (∀ event ∈ events, event.IsQuiet) -> changed.holdings = host.holdings ->
      course host events changed

/-- A course that allows the steps of which the work on shaders consists. -/
class IsWork (course : Host -> List Event -> Host -> Prop) : Prop
    extends IsQuietCourse course where
  add (artifact : Artifact) :
    artifact.program = none -> artifact.state = .created ->
      (Action.addArtifact artifact).Follows course
  fail (id : ArtifactId) (message : String) :
    (Action.changeArtifact id (Artifact.fail · message)).Follows course
  mark (id : ArtifactId) (time resolution : Bool) :
    (Action.changeArtifact id fun artifact => pure
      { artifact with refreshesTime := time, refreshesResolution := resolution }).Follows course
  receive
      {host : Host}
      {id : ArtifactId}
      {artifact : Artifact}
      {outcome : Except CompileError Program}
      {events : List Event}
      {graphics : Graphics} :
    host.artifact? id = some artifact -> host.graphics.Compiles outcome events graphics ->
      course host (events ++ (artifact.receive outcome).trace)
        (Host.setArtifact { host with graphics } id (artifact.receive outcome).value.2)

namespace Action

/-! ## Compiling artifacts -/

/-- Compiling stages changes the graphics alone and is accounted for there. -/
theorem compileStages_compiles (vertex fragment directory : String) (host : Host) :
    ∃ outcome graphics,
      (compileStages vertex fragment directory).result host = .ok outcome ∧
      (compileStages vertex fragment directory).final host = { host with graphics } ∧
      host.graphics.Compiles outcome ((compileStages vertex fragment directory).trace host)
        graphics := by
  have compiles := Graphics.compile_compiles host.files host.access vertex fragment directory
    host.graphics
  refine ⟨_, _, rfl, rfl, ?_⟩
  rw [compileStages, trace_get_bind, trace_bind, trace_liftTraced]
  change host.graphics.Compiles _ (_ ++ []) _
  rw [List.append_nil]
  exact compiles

/-- What the compilation of an artifact comes to: it fails without a source, or it
receives the outcome of a compilation. -/
inductive CompilesArtifact (host : Host) (id : ArtifactId) (artifact : Artifact) :
    Except Failure Bool -> List Event -> Host -> Prop
  | sourceless (message : String) :
      CompilesArtifact host id artifact (.ok false) (artifact.fail message).trace
        (host.setArtifact id (artifact.fail message).value)
  | compiled
      {outcome : Except CompileError Program}
      {events : List Event}
      {graphics : Graphics}
      (compiles : host.graphics.Compiles outcome events graphics) :
      CompilesArtifact host id artifact (.ok (artifact.receive outcome).value.1)
        (events ++ (artifact.receive outcome).trace)
        (Host.setArtifact { host with graphics } id (artifact.receive outcome).value.2)

/-- Compiling an artifact hands its stages to the driver once. -/
theorem compileArtifact_compiles
    {host : Host}
    {id : ArtifactId}
    {artifact : Artifact}
    (found : host.artifact? id = some artifact) :
    CompilesArtifact host id artifact ((compileArtifact id).result host)
      ((compileArtifact id).trace host) ((compileArtifact id).final host) := by
  rw [compileArtifact, result_get_bind, trace_get_bind, final_get_bind, found]
  dsimp only
  split
  case isTrue =>
    obtain ⟨result, trace, final⟩ :=
      changeArtifact_of_some found (Artifact.fail · "No shader source to compile")
    rw [result_bind, trace_bind, final_bind, result, trace, final]
    change CompilesArtifact host id artifact _ (_ ++ []) _
    rw [List.append_nil]
    exact .sourceless _
  case isFalse =>
    obtain ⟨outcome, graphics, result, final, compiles⟩ :=
      compileStages_compiles artifact.vertex artifact.fragment artifact.directory host
    rw [result_bind, trace_bind, final_bind, result, final]
    dsimp only
    rw [result_bind, trace_bind, trace_liftTraced, final_bind]
    change CompilesArtifact host id artifact _ (_ ++ (_ ++ [])) _
    rw [List.append_nil]
    exact .compiled compiles

/-! ## Steps of the work -/

variable {course : Host -> List Event -> Host -> Prop}

section Quiet

variable [IsQuietCourse course]

/-- A change that leaves what is owned follows every quiet course. -/
theorem follows_modify
    {change : Host -> Host}
    (same : ∀ host, (change host).holdings = host.holdings) :
    (modify change : Action Unit).Follows course := by
  intro host
  change course host [] (change host)
  exact IsQuietCourse.quiet (by simp) (same host)

/-- A computation with quiet events follows every quiet course. -/
theorem follows_liftTraced
    {computation : Traced Value}
    (emits : computation.Emits Event.IsQuiet) :
    (liftM computation : Action Value).Follows course := by
  intro host
  rw [trace_liftTraced]
  exact IsQuietCourse.quiet emits rfl

theorem follows_log (level : Level) (message : String) :
    (log level message).Follows course :=
  follows_liftTraced (Traced.emits_log Event.isQuiet_record level message)

theorem follows_attempt
    {computation : Attempt Value}
    (emits : computation.Emits Event.IsQuiet) : (attempt computation).Follows course := by
  refine (follows_liftTraced emits).bind fun outcome => ?_
  cases outcome with
  | ok value => exact follows_pure value
  | error failure => exact follows_throw failure

theorem follows_settle
    {computation : Attempt Value}
    (emits : computation.Emits Event.IsQuiet) : (settle computation).Follows course := by
  refine (follows_liftTraced emits).bind fun outcome => ?_
  cases outcome with
  | ok value => exact follows_pure (Except.ok value)
  | error failure =>
      dsimp only
      split
      · exact follows_pure (Except.error failure)
      · exact follows_throw failure

end Quiet

section Work

variable [IsWork course]

/-! ## Shaders of single calls -/

/-- Compiling an artifact follows every course of work. -/
theorem follows_compileArtifact (id : ArtifactId) : (compileArtifact id).Follows course := by
  intro host
  cases found : host.artifact? id with
  | none =>
      rw [compileArtifact, trace_get_bind, final_get_bind, found]
      exact follows_pure false host
  | some artifact =>
      have compiled := compileArtifact_compiles found
      revert compiled
      generalize (compileArtifact id).result host = result
      generalize (compileArtifact id).trace host = trace
      generalize (compileArtifact id).final host = changed
      rintro (message | compiles)
      · obtain ⟨_, failed, changed⟩ := changeArtifact_of_some found (Artifact.fail · message)
        have fails : course host _ _ := IsWork.fail id message host
        rwa [failed, changed] at fails
      · exact IsWork.receive found compiles

/-- Adding a failed artifact follows every course of work. -/
theorem follows_addFailed (name : String) (arguments : List String) (message : String) :
    (addFailed name arguments message).Follows course := by
  refine (IsWork.add _ rfl rfl).bind fun id => ?_
  exact (IsWork.fail id message).bind fun _ => follows_pure id

/-- Collecting sources follows every quiet course. -/
theorem follows_collectSources (name pluginAlias : String) (nested : List String) :
    (collectSources name pluginAlias nested).Follows course := by
  have prepends (catalogue : Catalogue) (files : FileTree) (names : List String) (code : String) :
      (prependSources catalogue files names code).Emits Event.IsQuiet := by
    induction names generalizing code with
    | nil => exact Attempt.emits_pure _
    | cons other rest inductionHypothesis =>
        rw [prependSources]
        refine (catalogue.emits_loadSource Event.isQuiet_record files other none).bind
          fun source => ?_
        split
        · exact Attempt.emits_pure _
        · exact inductionHypothesis _
  refine follows_get.bind fun host => ?_
  refine (follows_attempt (Catalogue.emits_loadSource Event.isQuiet_record _ _ _ _)).bind
    fun code => ?_
  split
  · exact follows_pure _
  · exact follows_attempt (prepends _ _ _ _)

/-- Looking for a variable emits quiet events only. -/
theorem emits_readsVariable (interpreter : Interpreter) (name : String) (texts : List String) :
    (readsVariable interpreter name texts).Emits Event.IsQuiet := by
  induction texts with
  | nil => exact Attempt.emits_pure false
  | cons text rest inductionHypothesis =>
      rw [readsVariable]
      split
      · exact Attempt.emits_pure true
      · split
        · refine (interpreter.emits_report Event.isQuiet_record text).bind fun reading => ?_
          split
          · exact Attempt.emits_pure true
          · exact inductionHypothesis
        · exact inductionHypothesis

/-- Setting what refreshes an artifact follows every quiet course. -/
theorem follows_setRefreshing (id : ArtifactId) (arguments : List String) :
    (setRefreshing id arguments).Follows course := by
  refine follows_get.bind fun host => ?_
  refine (follows_attempt (emits_readsVariable _ _ _)).bind fun time => ?_
  refine (follows_attempt (emits_readsVariable _ _ _)).bind fun resolution => ?_
  exact IsWork.mark id time resolution

/-- Compiling a call follows every course of work. -/
theorem follows_compileCall
    (key name pluginAlias code : String)
    (arguments : List String) :
    (compileCall key name pluginAlias code arguments).Follows course := by
  refine follows_get.bind fun host => ?_
  refine (follows_attempt (Generator.emits_generate Event.isQuiet_record _ _ _ _)).bind
    fun shader => ?_
  refine (IsWork.add _ rfl rfl).bind fun id => ?_
  refine (follows_compileArtifact id).bind fun compiled => ?_
  split
  · refine (follows_setRefreshing id arguments).bind fun _ => ?_
    refine Follows.bind (follows_modify fun _ => rfl) fun _ => ?_
    exact (follows_log _ _).bind fun _ => follows_pure id
  · exact (follows_log _ _).bind fun _ => follows_pure id

/-- Making a shader follows every course of work. -/
theorem follows_makeShader (key name : String) (arguments : List String) :
    (makeShader key name arguments).Follows course := by
  refine follows_get.bind fun host => ?_
  split
  · exact follows_addFailed _ _ _
  · have warns (pluginAlias : String) : (warnConflict name pluginAlias).Follows course := by
      refine follows_get.bind fun later => ?_
      split
      · exact follows_log _ _
      · exact follows_pure ()
    refine (warns _).bind fun _ => ?_
    refine (follows_liftTraced (Vocabulary.emits_analyze Event.isQuiet_record _ _ _)).bind
      fun analysis => ?_
    split
    · exact follows_addFailed _ _ _
    · refine (follows_collectSources _ _ _).bind fun sources => ?_
      cases sources with
      | error missing => exact follows_addFailed _ _ _
      | ok code => exact follows_compileCall _ _ _ _ _

/-- A call follows every course of work. -/
theorem follows_createShader (name : String) (texts : List String) :
    (createShader name texts).Follows course := by
  refine (follows_log _ _).bind fun _ => follows_get.bind fun host => ?_
  split
  · exact follows_addFailed _ _ _
  · dsimp only
    split
    · exact (follows_log _ _).bind fun _ => follows_pure _
    · exact follows_makeShader _ _ _

theorem follows_createShaderAs (id name : String) (texts : List String) :
    (createShaderAs id name texts).Follows course := by
  refine (follows_createShader name texts).bind fun artifact => follows_get.bind fun host => ?_
  split
  · exact Follows.bind (follows_modify fun _ => rfl) fun _ => follows_pure artifact
  · exact follows_pure artifact

/-! ## Shaders of graphs -/

/-- Registering a node follows every quiet course. -/
theorem follows_registerNode (name : String) (arguments : List String) :
    (registerNode name arguments).Follows course := by
  refine follows_get.bind fun host => ?_
  split
  · exact (follows_log _ _).bind fun _ => follows_pure none
  · split
    · exact (follows_log _ _).bind fun _ => follows_pure none
    · refine Follows.bind (follows_modify fun _ => rfl) fun _ => ?_
      split
      · exact (follows_log _ _).bind fun _ => follows_pure _
      · exact follows_pure _

theorem follows_removeNode (name : String) : (removeNode name).Follows course :=
  follows_get.bind fun _ => Follows.bind (follows_modify fun _ => rfl) fun _ => follows_pure _

/-- Compiling a chain follows every course of work. -/
theorem follows_compileChain
    (output key : String)
    (chain : List String)
    (shader : Shader) : (compileChain output key chain shader).Follows course := by
  refine follows_get.bind fun host => (follows_liftExcept _).bind fun nodes => ?_
  refine (IsWork.add _ rfl rfl).bind fun id => ?_
  refine (follows_compileArtifact id).bind fun compiled => ?_
  split
  · refine (follows_setRefreshing id _).bind fun _ => ?_
    refine Follows.bind (follows_modify fun _ => rfl) fun _ => ?_
    exact (follows_log _ _).bind fun _ => follows_pure _
  · exact (follows_log _ _).bind fun _ => follows_pure _

/-- A compilation of a graph follows every course of work. -/
theorem follows_compileGraph (output : String) : (compileGraph output).Follows course := by
  have makes (key : String) (chain : List String) :
      (makeGraph output key chain).Follows course := by
    refine follows_get.bind fun host => ?_
    refine (follows_settle (Generator.emits_unify Event.isQuiet_record _ _ _ _)).bind
      fun outcome => ?_
    cases outcome with
    | error failure => exact (follows_log _ _).bind fun _ => follows_pure _
    | ok shader =>
        dsimp only
        split
        · exact (follows_log _ _).bind fun _ => follows_compileChain output key chain shader
        · exact follows_compileChain output key chain shader
  have analyzes : (analyzeGraph output).Follows course :=
    follows_get.bind fun _ => Follows.bind (follows_modify fun _ => rfl) fun _ => follows_pure _
  refine analyzes.bind fun outcome => ?_
  cases outcome with
  | error failure =>
      dsimp only
      split
      · exact (follows_log _ _).bind fun _ => follows_pure _
      · exact follows_throw failure
  | ok chain =>
      refine follows_get.bind fun host => (follows_liftExcept _).bind fun key => ?_
      split
      · exact (follows_log _ _).bind fun _ => follows_pure _
      · exact makes key chain

/-! ## Requests -/

theorem follows_create (name raw : String) : (create name raw).Follows course := by
  have serves (node : String) (arguments : List String) :
      (serve node name arguments).Follows course := by
    refine follows_get.bind fun host => ?_
    dsimp only
    split
    · exact (follows_compileGraph node).bind fun _ => follows_pure _
    · refine (follows_createShaderAs node name arguments).bind fun id => ?_
      exact follows_get.bind fun _ => follows_pure _
  refine follows_get.bind fun host => ?_
  dsimp only
  split
  · exact follows_pure _
  · refine (follows_registerNode name _).bind fun registered => ?_
    cases registered with
    | none => exact follows_pure _
    | some node =>
        refine (serves node _).bind fun (artifact, reason) => follows_get.bind fun later => ?_
        dsimp only
        split
        · exact (follows_removeNode node).bind fun _ => follows_pure _
        · exact Follows.bind (follows_modify fun _ => rfl) fun _ => follows_pure _

end Work

/-! ## Relations between the states around a request -/

/-- A request for a shader changes the artifacts and the caches only by creating a
shader of a call or by compiling a graph. -/
theorem respects_create
    {relation : Host -> Host -> Prop}
    [IsPreorder Host relation]
    (others : ∀ host changed, changed.stock = host.stock -> relation host changed)
    (shaders : ∀ name texts, (createShader name texts).Respects relation)
    (graphs : ∀ output, (compileGraph output).Respects relation)
    (name raw : String) : (create name raw).Respects relation := by
  have changes {change : Host -> Host} (same : ∀ host, (change host).stock = host.stock) :
      (modify change : Action Unit).Respects relation :=
    respects_modify fun host => others host _ (same host)
  have creates (id : String) (texts : List String) :
      (createShaderAs id name texts).Respects relation := by
    refine (shaders name texts).bind fun artifact => respects_get.bind fun host => ?_
    split
    · exact Respects.bind (changes fun _ => rfl) fun _ => respects_pure artifact
    · exact respects_pure artifact
  have serves (node : String) (arguments : List String) :
      (serve node name arguments).Respects relation := by
    refine respects_get.bind fun host => ?_
    dsimp only
    split
    · exact (graphs node).bind fun _ => respects_pure _
    · exact (creates node arguments).bind fun _ => respects_get.bind fun _ => respects_pure _
  have registers (arguments : List String) : (registerNode name arguments).Respects relation := by
    intro host
    rcases registerNode_effect name arguments host with ⟨_, same⟩ | ⟨_, same⟩
    · exact others host _ (by rw [same])
    · exact others host _ (by rw [same]; rfl)
  refine respects_get.bind fun host => ?_
  dsimp only
  split
  · exact respects_pure _
  · refine (registers _).bind fun registered => ?_
    cases registered with
    | none => exact respects_pure _
    | some node =>
        refine (serves node _).bind fun (artifact, reason) => respects_get.bind fun later => ?_
        dsimp only
        split
        · refine Respects.bind ?_ fun _ => respects_pure _
          refine respects_get.bind fun _ => ?_
          exact Respects.bind (changes fun _ => rfl) fun _ => respects_pure _
        · exact Respects.bind (changes fun _ => rfl) fun _ => respects_pure _

end Action
end ShaderGraph
