import ShaderGraph.Proofs.Host.Connection
import ShaderGraph.Proofs.Host.Life
import ShaderGraph.Proofs.Host.Reloading
import ShaderGraph.Proofs.Host.Session
import ShaderGraph.Proofs.Text.Bytes

/-!
# What is shown

The artifact at the output is the only connected one. It is ready, and the id at the
output is the one under which it is served. The counts of connections and
disconnections tell whether something is shown. Requests that add artifacts leave
the old ones alone, freeing and reloading disconnect before anything is forgotten,
and so all of this holds throughout the life of a host.
-/

namespace ShaderGraph

namespace Host

/-! ## What holds of the output -/

/-- What is shown is ready, connected and served under the id at the output, and
nothing else is connected. The counts tell whether something is shown. Shaders are
served under names that were given. -/
structure IsConsistent (host : Host) : Prop where
  ready : ∀ id, host.output.current = some id -> host.isReady id = true
  connected : ∀ id, host.output.current = some id -> host.isConnected id = true
  only : ∀ id, host.isConnected id = true -> host.output.current = some id
  served : ∀ id, host.output.current = some id -> host.served.find? host.output.id = some id
  counted : host.output.connections =
    host.output.disconnections + if host.output.current.isSome then 1 else 0
  named : ∀ id, host.served.has id = true ->
    ∃ number ≤ host.graph.registered, id = Graph.nodeName number

/-- Nothing is shown, and all is well. -/
structure IsIdle (host : Host) : Prop extends IsConsistent host where
  hidden : host.output.current = none

/-- The output and what is served are the same, and nothing else is connected. -/
structure LeavesOutput (host changed : Host) : Prop where
  output : changed.output = host.output
  served : changed.served = host.served
  registered : host.graph.registered ≤ changed.graph.registered
  only : ∀ id, changed.isConnected id = true -> host.isConnected id = true

instance : IsPreorder Host LeavesOutput where
  refl _ := ⟨rfl, rfl, Nat.le_refl _, fun _ connected => connected⟩
  trans _ _ _ left right :=
    ⟨right.output.trans left.output, right.served.trans left.served,
      Nat.le_trans left.registered right.registered,
      fun id connected => left.only id (right.only id connected)⟩

/-- What is shown has to stay ready and connected. -/
theorem IsConsistent.of_leavesOutput
    {host changed : Host}
    (consistent : host.IsConsistent)
    (leaves : LeavesOutput host changed)
    (stays : ∀ id, host.output.current = some id ->
      changed.isReady id = true ∧ changed.isConnected id = true) : changed.IsConsistent where
  ready id shown := (stays id (leaves.output ▸ shown)).1
  connected id shown := (stays id (leaves.output ▸ shown)).2
  only id connected := by
    rw [leaves.output]
    exact consistent.only id (leaves.only id connected)
  served id shown := by
    rw [leaves.output] at shown ⊢
    rw [leaves.served]
    exact consistent.served id shown
  counted := by
    rw [leaves.output]
    exact consistent.counted
  named id present := by
    rw [leaves.served] at present
    obtain ⟨number, known, named⟩ := consistent.named id present
    exact ⟨number, Nat.le_trans known leaves.registered, named⟩

/-- What leaves the output keeps an idle host idle. -/
theorem IsIdle.of_leavesOutput
    {host changed : Host}
    (idle : host.IsIdle)
    (leaves : LeavesOutput host changed) : changed.IsIdle where
  toIsConsistent := idle.toIsConsistent.of_leavesOutput leaves fun id shown => by
    rw [idle.hidden] at shown
    cases shown
  hidden := leaves.output ▸ idle.hidden

/-! ## The output -/

/-- A consistent host is idle when its output is disconnected. -/
theorem IsConsistent.disconnected {host : Host} (consistent : host.IsConsistent) :
    host.disconnected.IsIdle := by
  unfold Host.disconnected
  cases shown : host.output.current with
  | none => exact ⟨consistent, shown⟩
  | some id =>
      refine ⟨⟨?_, ?_, fun other connected => ?_, ?_, ?_, consistent.named⟩, rfl⟩
      · rintro _ ⟨⟩
      · rintro _ ⟨⟩
      · -- Only what was shown could be connected, and that is disconnected now.
        obtain ⟨artifact, found, state⟩ := isConnected_iff.mp connected
        rw [artifact?_modify] at found
        split at found
        case isTrue =>
          obtain ⟨old, _, rfl⟩ := Option.map_eq_some_iff.mp found
          exact absurd state old.state_disconnect
        case isFalse different =>
          have before := consistent.only other (isConnected_iff.mpr ⟨artifact, found, state⟩)
          exact absurd (Option.some.inj (shown.symm.trans before)) different
      · rintro _ ⟨⟩
      · have counted := consistent.counted
        rw [shown] at counted
        exact counted

/-- Disconnecting leaves every artifact as ready as it is. -/
theorem isReady_disconnected (host : Host) (id : ArtifactId) :
    host.disconnected.isReady id = host.isReady id := by
  unfold Host.disconnected
  split
  · rfl
  · exact any_artifact?_modify Artifact.isReady_disconnect host _ _ id

/-- The host with an artifact at its output. -/
def showing (host : Host) (id : String) (artifact : ArtifactId) : Host :=
  { host with
    artifacts := host.artifacts.modify artifact Artifact.connect
    output :=
      { host.output with
        current := some artifact, id, connections := host.output.connections + 1 } }

/-- An idle host that connects a ready artifact is consistent. -/
theorem IsIdle.showing
    {host : Host}
    {id : String}
    {artifact : ArtifactId}
    (idle : host.IsIdle)
    (served : host.served.find? id = some artifact)
    (ready : host.isReady artifact = true) : (host.showing id artifact).IsConsistent := by
  obtain ⟨old, found, oldReady⟩ := isReady_iff.mp ready
  have there : (host.showing id artifact).artifact? artifact = some old.connect := by
    rw [Host.showing, artifact?_modify, if_pos rfl, found]
    rfl
  refine ⟨?_, ?_, fun other connected => ?_, ?_, ?_, idle.named⟩
  · rintro _ ⟨⟩
    exact isReady_iff.mpr ⟨_, there, old.isReady_connect.trans oldReady⟩
  · rintro _ ⟨⟩
    exact isConnected_iff.mpr ⟨_, there, Artifact.state_connect oldReady⟩
  · -- Nothing was connected before.
    obtain ⟨new, foundNew, state⟩ := isConnected_iff.mp connected
    rw [Host.showing, artifact?_modify] at foundNew
    split at foundNew
    case isTrue same => exact congrArg some same
    case isFalse =>
      have before := idle.only other (isConnected_iff.mpr ⟨new, foundNew, state⟩)
      rw [idle.hidden] at before
      cases before
  · rintro _ ⟨⟩
    exact served
  · have counted := idle.counted
    rw [idle.hidden] at counted
    exact congrArg (· + 1) counted

/-- A consistent host stays so without some nodes. -/
theorem IsConsistent.without
    {host : Host}
    (consistent : host.IsConsistent)
    (names : List String) : (host.without names).IsConsistent := by
  have narrows {hidden : Host} (well : hidden.IsConsistent) (served : hidden.served = host.served)
      (graph : hidden.graph = host.graph)
      (stays : hidden.output.current.isSome -> hidden.output.id ∉ names) :
      Host.IsConsistent { hidden with
        graph := host.graph.without names
        served := host.served.without names
        calls := { host.calls with active := host.calls.active.without names } } := by
    refine ⟨well.ready, well.connected, well.only, fun id shown => ?_, well.counted, ?_⟩
    · have kept := stays (by rw [shown]; rfl)
      change (host.served.without names).find? hidden.output.id = some id
      rw [Table.find?_without, if_neg (by simpa using kept), ← served]
      exact well.served id shown
    · intro id present
      obtain ⟨number, known, named⟩ :=
        well.named id (served ▸ (Table.has_without.mp present).1)
      exact ⟨number, graph ▸ known, named⟩
  unfold Host.without
  dsimp only
  split
  case isTrue shown =>
    have idle := consistent.disconnected
    have keeps : host.disconnected.served = host.served ∧
        host.disconnected.graph = host.graph := by
      unfold Host.disconnected
      split <;> exact ⟨rfl, rfl⟩
    refine narrows idle.toIsConsistent keeps.1 keeps.2 fun some => ?_
    rw [idle.hidden] at some
    cases some
  case isFalse other =>
    exact narrows consistent rfl rfl fun _ present => other (List.contains_iff_mem.mpr present)

/-- A shader can be served under a name that is not in use. -/
theorem IsConsistent.serving
    {host : Host}
    {number : Nat}
    (consistent : host.IsConsistent)
    (known : number ≤ host.graph.registered)
    (fresh : host.served.has (Graph.nodeName number) = false)
    (id : ArtifactId)
    (calls : CallShaders) :
    Host.IsConsistent
      { host with calls, served := host.served.set (Graph.nodeName number) id } where
  ready := consistent.ready
  connected := consistent.connected
  only := consistent.only
  counted := consistent.counted
  served other shown := by
    have found := consistent.served other shown
    have different : (host.output.id == Graph.nodeName number) = false := by
      refine beq_false_of_ne fun same => ?_
      rw [← same, Table.has, found] at fresh
      cases fresh
    change (host.served.set (Graph.nodeName number) id).find? host.output.id = some other
    rw [Table.find?_set, different]
    exact found
  named other present := by
    rcases (Table.has_set _ _ _ _).mp present with rfl | before
    · exact ⟨number, known, rfl⟩
    · exact consistent.named other before

/-! ## Requests -/

/-- A request for a shader keeps a host consistent. -/
theorem IsConsistent.create
    {host : Host}
    (consistent : host.IsConsistent)
    (name raw : String) : ((Action.create name raw).final host).IsConsistent := by
  have connectsNone : ConnectsNone host _ _ := Action.follows_create name raw host
  have keeps := Action.keepsArtifacts_create name raw host
  have effect := Action.create_effect name raw host
  unfold Action.Meets at effect
  revert connectsNone keeps effect
  generalize (Action.create name raw).result host = outcome
  generalize (Action.create name raw).final host = changed
  intro connectsNone keeps effect
  -- What is shown was there before, so it is not touched.
  have stays (id : ArtifactId) (shown : host.output.current = some id) :
      changed.isReady id = true ∧ changed.isConnected id = true := by
    obtain ⟨artifact, found, _⟩ := isReady_iff.mp (consistent.ready id shown)
    have same := keeps.kept id (List.getElem?_eq_some_iff.mp found).1
    rw [isReady, isConnected, same]
    exact ⟨consistent.ready id shown, consistent.connected id shown⟩
  have leaves {worked : Host} (works : Action.Works (Action.registering name raw host) worked)
      (graph : Graph) (same : graph.registered = worked.graph.registered)
      (artifacts : worked.artifacts = changed.artifacts) :
      LeavesOutput host { worked with graph } := by
    have serving := SameServing.of_works works
    refine ⟨serving.output, serving.served, ?_, fun id connected => connectsNone id ?_⟩
    · rw [same, works.registered]
      exact Nat.le_succ _
    · rw [isConnected, artifact?, artifacts] at connected
      exact connected
  cases effect with
  | refused => exact consistent
  | withdrawn works => exact consistent.of_leavesOutput (leaves works _ rfl rfl) stays
  | raised works grounded => exact consistent.of_leavesOutput (leaves works _ rfl rfl) stays
  | @created id worked _ active works same grounded =>
      subst same
      have before : worked.IsConsistent :=
        consistent.of_leavesOutput (leaves works worked.graph rfl rfl) stays
      refine before.serving (Nat.le_of_eq works.registered.symm) ?_ id _
      rw [(SameServing.of_works works).served]
      refine Bool.eq_false_iff.mpr fun present => ?_
      obtain ⟨number, known, named⟩ := consistent.named _ present
      have equal : host.graph.registered + 1 = number := Graph.nodeName_injective named
      omega

/-- What comes of a request to connect a shader: it is refused, or the shader that
is served under the id takes the place of the one before. -/
inductive Connects (id : String) (host : Host) : Except Failure Reply -> Host -> Prop
  | refused (reason : String) : Connects id host (.ok (.error reason)) host
  | accepted
      {artifact : ArtifactId}
      (served : host.served.find? id = some artifact)
      (ready : host.isReady artifact = true) :
      Connects id host (.ok (.ok id)) (host.disconnected.showing id artifact)

/-- A request to connect connects an artifact that is ready, or leaves the host. -/
theorem connects (id : String) (host : Host) :
    (Action.connect id).Meets host (Connects id host) := by
  rw [Action.connect, Action.meets_get_bind]
  cases served : host.served.find? id with
  | none => exact .refused _
  | some artifact =>
      dsimp only
      rw [Action.meets_bind, Action.connectOutput, Action.meets_get_bind]
      cases ready : (some artifact).filter host.isReady with
      | none => exact Action.meets_log_bind.mpr (.refused _)
      | some shown =>
          obtain ⟨same, isReady⟩ := Option.filter_eq_some_iff.mp ready
          cases same
          dsimp only
          rw [Action.meets_bind]
          refine (Action.releaseOutput_effect host).imp ?_
          rintro _ _ ⟨rfl, rfl⟩
          rw [Action.before_ok, Action.meets_bind]
          refine (Action.changeArtifact_pure_effect artifact _ _).imp ?_
          rintro _ _ ⟨rfl, rfl⟩
          exact .accepted served isReady

theorem served_disconnected (host : Host) : host.disconnected.served = host.served := by
  unfold Host.disconnected
  split <;> rfl

/-- A request to connect keeps a host consistent. -/
theorem IsConsistent.connect
    {host : Host}
    (consistent : host.IsConsistent)
    (id : String) : ((Action.connect id).final host).IsConsistent := by
  have effect := connects id host
  unfold Action.Meets at effect
  revert effect
  generalize (Action.connect id).result host = outcome
  generalize (Action.connect id).final host = changed
  rintro (_ | ⟨served, ready⟩)
  · exact consistent
  · refine consistent.disconnected.showing ?_ ?_
    · rw [served_disconnected]
      exact served
    · rw [isReady_disconnected]
      exact ready

/-- Freeing a node keeps a host consistent. -/
theorem IsConsistent.free
    {host : Host}
    (consistent : host.IsConsistent)
    (id : String) : ((Action.free id).final host).IsConsistent := by
  rcases Action.free_effect id host with same | frees
  · rw [same]
    exact consistent
  · obtain ⟨freed, without, _⟩ := frees.exists_cascade
    rw [without]
    exact consistent.without freed

/-! ## Frames, the start and the end -/

/-- A change of an artifact that keeps its state and whether it is ready. -/
theorem IsConsistent.modify
    {host : Host}
    {change : Artifact -> Artifact}
    (consistent : host.IsConsistent)
    (id : ArtifactId)
    (ready : ∀ artifact, (change artifact).isReady = artifact.isReady)
    (state : ∀ artifact, (change artifact).state = artifact.state) :
    Host.IsConsistent { host with artifacts := host.artifacts.modify id change } := by
  have sameReady (other : ArtifactId) :
      Host.isReady { host with artifacts := host.artifacts.modify id change } other =
        host.isReady other :=
    any_artifact?_modify ready host id host.output other
  have sameConnected (other : ArtifactId) :
      Host.isConnected { host with artifacts := host.artifacts.modify id change } other =
        host.isConnected other := by
    refine any_artifact?_modify (fun artifact => ?_) host id host.output other
    rw [state artifact]
  refine consistent.of_leavesOutput ⟨rfl, rfl, Nat.le_refl _, fun other connected => ?_⟩ ?_
  · rwa [sameConnected] at connected
  · intro other shown
    rw [sameReady, sameConnected]
    exact ⟨consistent.ready other shown, consistent.connected other shown⟩

end Host

namespace Action

open Host

/-- Cleaning up leaves the output. -/
theorem leavesOutput_cleanUpEach (ids : List ArtifactId) :
    (cleanUpEach ids).Respects LeavesOutput := by
  have cleansUp (id : ArtifactId) : (changeArtifact id Artifact.cleanUp).Respects LeavesOutput := by
    intro host
    have only := respects_changeArtifact id Artifact.cleanUp host
    have connectsNone : (changeArtifact id Artifact.cleanUp).Follows ConnectsNone :=
      connectsNone_changeArtifact id fun artifact connected =>
        absurd connected artifact.state_cleanUp
    refine ⟨?_, ?_, ?_, connectsNone host⟩
    · rw [only.others]
    · rw [only.others]
    · exact Nat.le_of_eq (congrArg Graph.registered only.graph_eq.symm)
  induction ids with
  | nil => exact respects_pure ()
  | cons id rest inductionHypothesis => exact (cleansUp id).bind fun _ => inductionHypothesis

/-- Clearing the calls leaves the output. -/
theorem leavesOutput_clearCalls : clearCalls.Respects LeavesOutput := by
  refine respects_get.bind fun _ => (leavesOutput_cleanUpEach _).bind fun _ => ?_
  refine Respects.bind (respects_modify fun host => ?_) fun _ => respects_liftTraced _
  exact ⟨rfl, rfl, Nat.le_refl _, fun _ connected => connected⟩

theorem leavesOutput_clearGraphs : clearGraphs.Respects LeavesOutput := by
  refine respects_get.bind fun _ => (leavesOutput_cleanUpEach _).bind fun _ => ?_
  exact respects_modify fun host => ⟨rfl, rfl, Nat.le_refl _, fun _ connected => connected⟩

theorem leavesOutput_outside (host : Host) (registry : Registry) (watcher : Option Watcher) :
    LeavesOutput host { host with registry, watcher } :=
  ⟨rfl, rfl, Nat.le_refl _, fun _ connected => connected⟩

theorem maintains_outside (host : Host) (registry : Registry) (watcher : Option Watcher) :
    Maintains IsConsistent host { host with registry, watcher } :=
  fun consistent => consistent.of_leavesOutput (leavesOutput_outside host registry watcher)
    fun id shown => ⟨consistent.ready id shown, consistent.connected id shown⟩

/-- The output is disconnected before anything is forgotten. -/
theorem maintains_forgetShaders (pluginAlias : String) :
    (forgetShaders pluginAlias).Respects (Maintains IsConsistent) := by
  intro host consistent
  have meets : (forgetShaders pluginAlias).Meets host fun _ changed => changed.IsIdle := by
    rw [forgetShaders, meets_log_bind, meets_bind]
    refine (releaseOutput_effect host).imp ?_
    rintro _ _ ⟨rfl, rfl⟩
    have clears := leavesOutput_clearCalls.bind fun _ => leavesOutput_clearGraphs
    exact consistent.disconnected.of_leavesOutput (clears host.disconnected)
  exact meets.toIsConsistent

/-- A tick keeps a host consistent. -/
theorem maintains_tick (elapsed width height : Float) :
    (tick elapsed width height).Respects (Maintains IsConsistent) := by
  refine (respects_poll maintains_outside maintains_forgetShaders).bind fun _ => ?_
  intro host consistent
  have meets : (refreshOutput elapsed width height).Meets host fun _ changed =>
      changed.IsConsistent := by
    rw [refreshOutput, meets_get_bind]
    split
    · exact consistent
    · refine (changeArtifact_pure_effect _ _ host).imp ?_
      rintro _ _ ⟨rfl, rfl⟩
      refine consistent.modify _ (fun artifact => ?_) fun artifact =>
        artifact.state_refresh elapsed width height
      rw [Artifact.isReady, Artifact.isReady, artifact.state_refresh, Artifact.program_apply,
        Artifact.program_refresh, Option.isSome_map]
  exact meets

/-- Shutting down keeps a host consistent. -/
theorem maintains_shutDown : shutDown.Respects (Maintains IsConsistent) := by
  refine (respects_changeWatcher maintains_outside _).bind fun _ => ?_
  intro host consistent
  have clearsNodes : clearNodes.Respects LeavesOutput := by
    refine Respects.bind (respects_modify fun host => ?_) fun _ => leavesOutput_clearGraphs
    exact ⟨rfl, rfl, Nat.le_refl _, fun _ connected => connected⟩
  have meets : (releaseOutput >>= fun _ => clearCalls >>= fun _ => clearNodes >>= fun _ =>
      unloadPlugins).Meets host fun _ changed => changed.IsIdle := by
    rw [meets_bind]
    refine (releaseOutput_effect host).imp ?_
    rintro _ _ ⟨rfl, rfl⟩
    have ends := leavesOutput_clearCalls.bind fun _ => clearsNodes.bind fun _ =>
      respects_unloadPlugins leavesOutput_outside
    exact consistent.disconnected.of_leavesOutput (ends host.disconnected)
  exact meets.toIsConsistent

end Action

namespace Host

/-- A step of a life keeps the host consistent. -/
theorem LifeStep.isConsistent
    {host changed : Host}
    {events : List Event}
    (step : LifeStep host events changed)
    (consistent : host.IsConsistent) : changed.IsConsistent := by
  cases step with
  | create name raw => exact consistent.create name raw
  | connect id => exact consistent.connect id
  | free id => exact consistent.free id
  | tick elapsed width height => exact Action.maintains_tick elapsed width height host consistent
  | shutDown => exact Action.maintains_shutDown host consistent
  | outside =>
      exact ⟨consistent.ready, consistent.connected, consistent.only, consistent.served,
        consistent.counted, consistent.named⟩

/-- The host is consistent throughout its life. -/
theorem Life.isConsistent
    {trace : List Event}
    {host : Host}
    (life : Life trace host) : host.IsConsistent := by
  induction life with
  | start files access graphics directory watches =>
      refine Action.respects_boot Action.maintains_outside directory watches _ ?_
      refine ⟨?_, ?_, ?_, ?_, rfl, ?_⟩
      · rintro _ ⟨⟩
      · rintro _ ⟨⟩
      · rintro _ ⟨⟩
      · rintro _ ⟨⟩
      · rintro _ ⟨⟩
  | step life next inductionHypothesis => exact next.isConsistent inductionHypothesis

/-- An artifact that is ready holds a program that was made and not released. -/
theorem Life.holds_program
    {trace : List Event}
    {host : Host}
    {id : ArtifactId}
    (life : Life trace host)
    (ready : host.isReady id = true) :
    ∃ artifact program, host.artifact? id = some artifact ∧ artifact.program = some program ∧
      .programMade program.number ∈ trace ∧ .programReleased program.number ∉ trace := by
  obtain ⟨artifact, found, isReady⟩ := isReady_iff.mp ready
  obtain ⟨program, owned⟩ := Option.isSome_iff_exists.mp (Bool.and_eq_true_iff.mp isReady).1
  have owners : 0 < host.owners program.number := by
    refine List.countP_pos_iff.mpr ⟨artifact, List.mem_of_getElem? found, ?_⟩
    simp [Artifact.owns, owned]
  obtain ⟨once, balance⟩ := life.owners program.number
  refine ⟨artifact, program, found, owned, List.count_pos_iff.mp (by omega), ?_⟩
  exact List.count_eq_zero.mp (by omega)

/-- Throughout the life of a host, what is shown is ready and connected, holds a
program that was made and not released, and is served under the id at the output.
No other artifact is connected, and there was one more connection than there were
disconnections exactly if something is shown. A shader that is refused leaves the
host as it was. -/
theorem life_shows_one_ready_artifact
    {trace : List Event}
    {host : Host}
    (life : Life trace host) :
    (∀ id, host.output.current = some id ->
      host.isReady id = true ∧ host.isConnected id = true ∧
        host.served.find? host.output.id = some id ∧
        ∃ artifact program, host.artifact? id = some artifact ∧
          artifact.program = some program ∧
          .programMade program.number ∈ trace ∧ .programReleased program.number ∉ trace) ∧
    (∀ id, host.isConnected id = true -> host.output.current = some id) ∧
    host.output.connections =
      host.output.disconnections + (if host.output.current.isSome then 1 else 0) ∧
    ∀ id reason, (Action.connect id).result host = .ok (.error reason) ->
      (Action.connect id).final host = host := by
  have consistent := life.isConsistent
  refine ⟨fun id shown => ?_, consistent.only, consistent.counted, fun id reason refused => ?_⟩
  · have ready := consistent.ready id shown
    exact ⟨ready, consistent.connected id shown, consistent.served id shown,
      life.holds_program ready⟩
  · have effect := connects id host
    unfold Action.Meets at effect
    rw [refused] at effect
    generalize (Action.connect id).final host = changed at effect
    cases effect
    rfl

/-- A host that shows a shader. -/
def onStage : Host :=
  (Action.connect "shader_1").final
    ((Action.create "abs" "time").final ((Action.boot none false).final {}))

theorem onStage_shows_one_ready_artifact :
    ∃ trace, Life trace onStage ∧ onStage.output.current = some 0 ∧
      (∃ artifact program, onStage.artifact? 0 = some artifact ∧
        artifact.program = some program ∧
        .programMade program.number ∈ trace ∧ .programReleased program.number ∉ trace) ∧
      onStage.output.connections = onStage.output.disconnections + 1 ∧
      (Action.connect "shader_2").final onStage = onStage := by
  have life : Life _ onStage :=
    (Life.start {} .given {} none false).step (.create _ "abs" "time")
      |>.step (.connect _ "shader_1")
  have evaluated : onStage.output.current = some 0 ∧
      (Action.connect "shader_2").result onStage =
        .ok (.error "Unknown shader id 'shader_2'") := by
    unfold onStage Action.create Action.serve Action.compileGraph Action.makeGraph
      Action.compileChain Action.compileArtifact Action.compileStages Graphics.compile
      Graphics.build Graphics.link Include.resolve
    rw [Text.toList_eq_fromBytes, Text.ofList_eq_toBytes]
    decide +kernel
  obtain ⟨shown, refused⟩ := evaluated
  obtain ⟨current, _, counted, unchanged⟩ := life_shows_one_ready_artifact life
  obtain ⟨_, _, _, holds⟩ := current 0 shown
  rw [shown, Option.isSome_some, if_pos rfl] at counted
  exact ⟨_, life, shown, holds, counted, unchanged _ _ refused⟩

end Host
end ShaderGraph
