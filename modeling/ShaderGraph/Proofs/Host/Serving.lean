import ShaderGraph.Proofs.Host.Accounting
import ShaderGraph.Proofs.Host.Polling
import ShaderGraph.Proofs.Text.Bytes

/-!
# Shaders that can be connected

A shader is served under its id with a ready artifact, and every request and every
frame leaves ready what is ready, unless the frame loads a plugin again. Then no
artifact is ready any more, but the ids are still served. So the shaders that can be
connected are those that were served since the last such frame.
-/

namespace ShaderGraph

namespace Artifact

/-- An artifact as it was before it was compiled. -/
def uncompiled (artifact : Artifact) : Artifact where
  function := artifact.function
  arguments := artifact.arguments
  vertex := artifact.vertex
  fragment := artifact.fragment
  code := artifact.code
  directory := artifact.directory
  returnType := artifact.returnType

/-- Connecting an artifact leaves what it was made of. -/
@[simp] theorem uncompiled_connect (artifact : Artifact) :
    artifact.connect.uncompiled = artifact.uncompiled := by
  unfold connect
  split <;> rfl

/-- Disconnecting an artifact leaves what it was made of. -/
@[simp] theorem uncompiled_disconnect (artifact : Artifact) :
    artifact.disconnect.uncompiled = artifact.uncompiled := by
  unfold disconnect
  split <;> rfl

/-- Cleaning up an artifact leaves what it was made of. -/
@[simp] theorem uncompiled_cleanUp (artifact : Artifact) :
    artifact.cleanUp.value.uncompiled = artifact.uncompiled := by
  have released : artifact.release.value.uncompiled = artifact.uncompiled := by
    unfold release
    split <;> rfl
  rw [cleanUp, Traced.value_bind, Traced.value_pure]
  split
  · exact released
  · exact released

/-- Refreshing an artifact leaves what it was made of. -/
@[simp] theorem uncompiled_refresh (artifact : Artifact) (elapsed width height : Float) :
    (artifact.refresh elapsed width height).apply.uncompiled = artifact.uncompiled := by
  unfold refresh
  dsimp only
  split <;> split <;> rfl

end Artifact

namespace Action

open Host

/-! ## What stays ready -/

/-- No artifact is dropped, and those that were there are as ready as before. -/
structure KeepsReadiness (host changed : Host) : Prop where
  length_le : host.artifacts.length ≤ changed.artifacts.length
  kept : ∀ id < host.artifacts.length, changed.isReady id = host.isReady id

/-- Where no readiness changes, readiness is kept. -/
theorem keepsReadiness_of_isReady_eq
    {host changed : Host}
    (length : changed.artifacts.length = host.artifacts.length)
    (same : ∀ id, changed.isReady id = host.isReady id) : KeepsReadiness host changed :=
  ⟨Nat.le_of_eq length.symm, fun id _ => same id⟩

theorem length_artifacts_disconnected (host : Host) :
    host.disconnected.artifacts.length = host.artifacts.length := by
  unfold Host.disconnected
  split
  · rfl
  · exact List.length_modify ..

/-- Connecting an artifact leaves all artifacts as ready as they are. -/
theorem keepsReadiness_connect (id : String) (host : Host) :
    KeepsReadiness host ((connect id).final host) := by
  have effect := connects id host
  unfold Meets at effect
  revert effect
  generalize (connect id).result host = outcome
  generalize (connect id).final host = changed
  rintro (_ | ⟨_, _⟩)
  · exact keepsReadiness_of_isReady_eq rfl fun _ => rfl
  · refine keepsReadiness_of_isReady_eq ?_ fun other => ?_
    · exact (List.length_modify ..).trans (length_artifacts_disconnected host)
    · exact (any_artifact?_modify Artifact.isReady_connect _ _ _ other).trans
        (isReady_disconnected host other)

/-- Leaving out nodes leaves all artifacts as ready as they are. -/
theorem keepsReadiness_without (host : Host) (names : List String) :
    KeepsReadiness host (host.without names) := by
  unfold Host.without
  dsimp only
  split
  · exact keepsReadiness_of_isReady_eq (length_artifacts_disconnected host)
      (isReady_disconnected host)
  · exact keepsReadiness_of_isReady_eq rfl fun _ => rfl

/-- Refreshing the screen leaves all artifacts as ready as they are. -/
theorem keepsReadiness_refreshOutput (elapsed width height : Float) (host : Host) :
    KeepsReadiness host ((refreshOutput elapsed width height).final host) := by
  have meets : (refreshOutput elapsed width height).Meets host fun _ changed =>
      KeepsReadiness host changed := by
    rw [refreshOutput, meets_get_bind]
    split
    · exact keepsReadiness_of_isReady_eq rfl fun _ => rfl
    · refine (changeArtifact_pure_effect _ _ host).imp ?_
      rintro _ _ ⟨rfl, rfl⟩
      refine keepsReadiness_of_isReady_eq (List.length_modify ..) fun other => ?_
      refine any_artifact?_modify (fun artifact => ?_) host _ host.output other
      rw [Artifact.isReady, Artifact.isReady, artifact.state_refresh, Artifact.program_apply,
        Artifact.program_refresh, Option.isSome_map]
  exact meets

/-- A frame that loads no plugin again keeps what is ready. -/
theorem keepsReadiness_tick
    {host : Host}
    (none : poll.result host = .ok 0)
    (elapsed width height : Float) :
    KeepsReadiness host ((tick elapsed width height).final host) := by
  obtain ⟨count, result, quiet⟩ := poll_effect host
  obtain ⟨registry, watcher, final, _⟩ := quiet (Except.ok.inj (result.symm.trans none))
  rw [tick, final_bind, none, final]
  have refreshed := keepsReadiness_refreshOutput elapsed width height
    { host with registry, watcher }
  exact ⟨refreshed.length_le, refreshed.kept⟩

/-! ## What artifacts were made from -/

/-- No artifact is dropped, and none is another one than before, whatever became of
its program. -/
def KeepsSources (host changed : Host) : Prop :=
  host.artifacts.map Artifact.uncompiled <+: changed.artifacts.map Artifact.uncompiled

instance : IsPreorder Host KeepsSources where
  refl _ := List.prefix_rfl
  trans _ _ _ := List.IsPrefix.trans

/-- Where the sources are kept, no artifact is dropped. -/
theorem KeepsSources.length_le {host changed : Host} (keeps : KeepsSources host changed) :
    host.artifacts.length ≤ changed.artifacts.length := by
  simpa using List.IsPrefix.length_le keeps

/-- Where the artifacts are made of the same, their sources are kept. -/
theorem keepsSources_of_map_eq
    {host changed : Host}
    (same : changed.artifacts.map Artifact.uncompiled = host.artifacts.map Artifact.uncompiled) :
    KeepsSources host changed :=
  ⟨[], (List.append_nil _).trans same.symm⟩

/-- A change of what became of one artifact. -/
theorem keepsSources_of_modify
    {host changed : Host}
    {change : Artifact -> Artifact}
    {id : ArtifactId}
    (same : ∀ artifact, (change artifact).uncompiled = artifact.uncompiled)
    (artifacts : changed.artifacts = host.artifacts.modify id change) :
    KeepsSources host changed := by
  have kept : changed.artifacts.map Artifact.uncompiled =
      host.artifacts.map Artifact.uncompiled := by
    refine List.ext_getElem? fun index => ?_
    rw [artifacts, List.getElem?_map, List.getElem?_modify, List.getElem?_map,
      Option.map_eq_map, Option.map_map]
    congr 1
    funext artifact
    dsimp only [Function.comp_apply]
    split
    · exact same artifact
    · rfl
  exact keepsSources_of_map_eq kept

theorem keepsSources_disconnected (host : Host) : KeepsSources host host.disconnected := by
  unfold Host.disconnected
  split
  · exact List.prefix_rfl
  · exact keepsSources_of_modify Artifact.uncompiled_disconnect rfl

/-- Cleaning up keeps what the artifacts were made of. -/
theorem keepsSources_cleanUpEach (ids : List ArtifactId) :
    (cleanUpEach ids).Respects KeepsSources := by
  have cleans (id : ArtifactId) : (changeArtifact id Artifact.cleanUp).Respects KeepsSources := by
    intro host
    cases found : host.artifact? id with
    | none =>
        rw [(changeArtifact_of_none found _).2]
        exact List.prefix_rfl
    | some artifact =>
        rw [(changeArtifact_of_some found _).2.2]
        have modified : host.artifacts.set id artifact.cleanUp.value =
            host.artifacts.modify id fun artifact => artifact.cleanUp.value := by
          rw [List.modify_eq_set_getElem?, show host.artifacts[id]? = some artifact from found]
          rfl
        exact keepsSources_of_modify Artifact.uncompiled_cleanUp modified
  induction ids with
  | nil => exact respects_pure ()
  | cons id rest inductionHypothesis => exact (cleans id).bind fun _ => inductionHypothesis

theorem keepsSources_refreshOutput (elapsed width height : Float) :
    (refreshOutput elapsed width height).Respects KeepsSources := by
  refine respects_get.bind fun host => ?_
  split
  · exact respects_pure ()
  · intro later
    rw [(changeArtifact_pure_effect _ _ later).2]
    exact keepsSources_of_modify (fun artifact => artifact.uncompiled_refresh ..) rfl

/-- Clearing the calls keeps what the artifacts were made of. -/
theorem keepsSources_clearCalls : clearCalls.Respects KeepsSources := by
  refine respects_get.bind fun host => (keepsSources_cleanUpEach _).bind fun _ => ?_
  refine Respects.bind (respects_modify fun _ => ?_) fun _ => respects_liftTraced _
  exact List.prefix_rfl

theorem keepsSources_clearGraphs : clearGraphs.Respects KeepsSources :=
  respects_get.bind fun _ => (keepsSources_cleanUpEach _).bind fun _ =>
    respects_modify fun _ => List.prefix_rfl

/-- A tick keeps what the artifacts were made of. -/
theorem keepsSources_tick (elapsed width height : Float) :
    (tick elapsed width height).Respects KeepsSources := by
  have forgets (pluginAlias : String) : (forgetShaders pluginAlias).Respects KeepsSources := by
    refine (respects_liftTraced _).bind fun _ => Respects.bind ?_ fun _ =>
      keepsSources_clearCalls.bind fun _ => keepsSources_clearGraphs
    intro host
    rw [(releaseOutput_effect host).2]
    exact keepsSources_disconnected host
  exact (respects_poll (fun _ _ _ => List.prefix_rfl) forgets).bind fun _ =>
    keepsSources_refreshOutput elapsed width height

/-! ## What is served -/

/-- A shader that is created is served with a ready artifact. -/
theorem create_serves_ready (name raw : String) (host : Host) :
    (create name raw).Meets host fun outcome changed => ∀ id, outcome = .ok (.ok id) ->
      ∃ artifact, changed.served.find? id = some artifact ∧ changed.isReady artifact = true := by
  rw [create, meets_get_bind]
  split
  case h_1 => exact fun _ impossible => by cases impossible
  case h_2 =>
    have registers : (registerNode name (Call.splitArguments raw)).Meets host fun _ _ => True :=
      trivial
    rw [meets_bind]
    refine registers.imp ?_
    rintro (failure | _ | node) registered -
    · exact fun _ impossible => by cases impossible
    · exact fun _ impossible => by cases impossible
    · have serves : (serve node name (Call.splitArguments raw)).Meets registered
          fun _ _ => True := trivial
      rw [before_ok, meets_bind]
      refine serves.imp ?_
      rintro (failure | ⟨artifact, reason⟩) served -
      · exact fun _ impossible => by cases impossible
      · rw [before_ok, meets_get_bind]
        cases found : artifact.filter served.isReady with
        | none => exact meets_bind.mpr fun _ impossible => by cases impossible
        | some id =>
            obtain ⟨_, ready⟩ := Option.filter_eq_some_iff.mp found
            rw [meets_modify_bind, meets_pure]
            rintro _ ⟨⟩
            exact ⟨id, by rw [Table.find?_set, beq_self_eq_true]; rfl, ready⟩

/-- A served shader is connected if its artifact is ready, and else refused. -/
theorem connect_of_served
    {id : String}
    {artifact : ArtifactId}
    {host : Host}
    (served : host.served.find? id = some artifact) :
    (connect id).result host =
      .ok (if host.isReady artifact then .ok id else .error s!"Shader '{id}' is not ready") := by
  have meets : (connect id).Meets host fun outcome _ => outcome =
      .ok (if host.isReady artifact then .ok id else .error s!"Shader '{id}' is not ready") := by
    rw [connect, meets_get_bind, served]
    dsimp only
    rw [meets_bind, connectOutput, meets_get_bind]
    cases ready : host.isReady artifact with
    | false =>
        rw [Option.filter_some, ready]
        rfl
    | true =>
        rw [Option.filter_some, ready]
        dsimp only
        rw [if_pos rfl, meets_bind]
        refine (releaseOutput_effect host).imp ?_
        rintro _ _ ⟨rfl, rfl⟩
        rw [before_ok, meets_bind]
        refine (changeArtifact_pure_effect artifact _ _).imp ?_
        rintro _ _ ⟨rfl, rfl⟩
        rfl
  exact meets

end Action

namespace Host

/-! ## Sessions without reloading -/

/-- A frame that loads a plugin again. -/
def Reloads (host changed : Host) : Prop :=
  ∃ elapsed width height count, Action.poll.result host = .ok (count + 1) ∧
    changed = (Action.tick elapsed width height).final host

/-- Any number of requests and frames that load no plugin again. -/
def QuietSession : Host -> Host -> Prop :=
  Relation.ReflTransGen fun host changed => SessionStep host changed ∧ ¬Reloads host changed

/-- No artifact is dropped, and nothing new is served but a ready artifact under the
next name. -/
structure ServesOn (host changed : Host) : Prop where
  count : host.artifacts.length ≤ changed.artifacts.length
  registered : host.graph.registered ≤ changed.graph.registered
  served : ∀ id artifact, changed.served.find? id = some artifact ->
    host.served.find? id = some artifact ∨
      (id = host.graph.nextName ∧ changed.isReady artifact = true ∧
        host.graph.registered < changed.graph.registered)

theorem ServesOn.of_keepsOffer
    {host changed : Host}
    (count : host.artifacts.length ≤ changed.artifacts.length)
    (keeps : Action.KeepsOffer host changed) : ServesOn host changed := by
  obtain ⟨graph, served⟩ := Prod.ext_iff.mp keeps
  change changed.graph = host.graph at graph
  change changed.served = host.served at served
  exact ⟨count, Nat.le_of_eq (congrArg Graph.registered graph.symm),
    fun id artifact found => .inl (served ▸ found)⟩

/-- A request serves nothing new but a ready artifact under the next name. -/
theorem servesOn_create (host : Host) (name raw : String) :
    ServesOn host ((Action.create name raw).final host) := by
  have count := (Action.keepsArtifacts_create name raw host).length_le
  have effect := Action.create_effect name raw host
  have ready := Action.create_serves_ready name raw host
  unfold Action.Meets at effect ready
  revert count effect ready
  generalize (Action.create name raw).result host = outcome
  generalize (Action.create name raw).final host = changed
  intro count effect ready
  cases effect with
  | refused => exact ⟨count, Nat.le_refl _, fun _ _ found => .inl found⟩
  | withdrawn works =>
      refine ⟨count, ?_, fun _ _ found => .inl ((SameServing.of_works works).served ▸ found)⟩
      exact Nat.le_trans (Nat.le_succ _) (Nat.le_of_eq works.registered.symm)
  | raised works grounded =>
      refine ⟨count, ?_, fun _ _ found => .inl ((SameServing.of_works works).served ▸ found)⟩
      exact Nat.le_trans (Nat.le_succ _) (Nat.le_of_eq works.registered.symm)
  | created works same grounded =>
      have later : host.graph.registered < changed.graph.registered := by
        rw [same]
        exact Nat.lt_of_lt_of_eq (Nat.lt_succ_self _) works.registered.symm
      refine ⟨count, Nat.le_of_lt later, fun id artifact found => ?_⟩
      obtain ⟨served, foundServed, isReady⟩ := ready _ rfl
      by_cases next : id = host.graph.nextName
      · subst next
        cases found.symm.trans foundServed
        exact .inr ⟨rfl, isReady, later⟩
      · rw [same, Table.find?_set, beq_false_of_ne next] at found
        exact .inl ((SameServing.of_works works).served ▸ found)

/-- A step serves nothing new but a ready artifact under the next name. -/
theorem SessionStep.servesOn
    {host changed : Host}
    (step : SessionStep host changed) : ServesOn host changed := by
  cases step with
  | create name raw => exact servesOn_create host name raw
  | connect id =>
      exact .of_keepsOffer (Action.keepsReadiness_connect id host).length_le
        (Action.keepsOffer_connect id host)
  | free id =>
      rcases Action.free_effect id host with same | frees
      · rw [same]
        exact .of_keepsOffer (Nat.le_refl _) rfl
      · obtain ⟨freed, without, _⟩ := frees.exists_cascade
        rw [without]
        refine ⟨(Action.keepsReadiness_without host freed).length_le, Nat.le_refl _, ?_⟩
        intro other artifact found
        change (host.served.without freed).find? other = some artifact at found
        rw [Table.find?_without] at found
        split at found
        · cases found
        · exact .inl found
  | tick elapsed width height =>
      exact .of_keepsOffer (Action.keepsSources_tick elapsed width height host).length_le
        (Action.keepsOffer_tick elapsed width height host)
  | outside => exact .of_keepsOffer (Nat.le_refl _) rfl

/-- A step without a reload leaves all artifacts as ready as they are. -/
theorem SessionStep.keepsReadiness
    {host changed : Host}
    (step : SessionStep host changed)
    (quiet : ¬Reloads host changed) : Action.KeepsReadiness host changed := by
  cases step with
  | create name raw =>
      have keeps := Action.keepsArtifacts_create name raw host
      exact ⟨keeps.length_le, fun id before => keeps.isReady_eq before⟩
  | connect id => exact Action.keepsReadiness_connect id host
  | free id =>
      rcases Action.free_effect id host with same | frees
      · rw [same]
        exact Action.keepsReadiness_of_isReady_eq rfl fun _ => rfl
      · obtain ⟨freed, without, _⟩ := frees.exists_cascade
        rw [without]
        exact Action.keepsReadiness_without host freed
  | tick elapsed width height =>
      obtain ⟨count, result, _⟩ := Action.poll_effect host
      cases count with
      | zero => exact Action.keepsReadiness_tick result elapsed width height
      | succ count => exact absurd ⟨elapsed, width, height, count, result, rfl⟩ quiet
  | outside => exact Action.keepsReadiness_of_isReady_eq rfl fun _ => rfl

/-- A step of a session keeps the host stocked. -/
theorem SessionStep.isStocked
    {host changed : Host}
    (step : SessionStep host changed)
    (stocked : host.IsStocked) : changed.IsStocked := by
  cases step with
  | create name raw => exact Action.maintains_create name raw host stocked
  | connect id => exact stocked.connect id
  | free id => exact stocked.free id
  | tick elapsed width height =>
      exact Action.maintains_tick_stocked elapsed width height host stocked
  | outside => exact ⟨stocked.nodup, stocked.ready, stocked.kept⟩

theorem IsFresh.isStocked {host : Host} (fresh : host.IsFresh) : host.IsStocked := by
  obtain ⟨files, access, graphics, directory, watches, rfl⟩ := fresh
  exact (Life.start files access graphics directory watches).isStocked

/-- A host that starts fresh stays stocked throughout its session. -/
theorem Session.isStocked
    {start host : Host}
    (session : Session start host)
    (fresh : start.IsFresh) : host.IsStocked := by
  induction session with
  | refl => exact fresh.isStocked
  | tail _ step inductionHypothesis => exact step.isStocked inductionHypothesis

/-- A fresh host serves nothing. -/
theorem IsFresh.served_eq_nil {host : Host} (fresh : host.IsFresh) : host.served = [] := by
  obtain ⟨files, access, graphics, directory, watches, rfl⟩ := fresh
  exact congrArg Prod.snd (Action.keepsOffer_boot directory watches { files, access, graphics })

/-- What is served has an artifact. -/
theorem Session.served_lt_length
    {start host : Host}
    (session : Session start host)
    (fresh : start.IsFresh) :
    ∀ id artifact, host.served.find? id = some artifact -> artifact < host.artifacts.length := by
  induction session with
  | refl =>
      intro id artifact found
      rw [fresh.served_eq_nil] at found
      cases found
  | tail _ step inductionHypothesis =>
      intro id artifact found
      rcases step.servesOn.served id artifact found with before | ⟨_, ready, _⟩
      · exact Nat.lt_of_lt_of_le (inductionHypothesis id artifact before) step.servesOn.count
      · exact lt_length_of_hasProgram (hasProgram_of_isReady ready)

/-! ## Shaders that were served since a moment -/

/-- The served shaders that are ready are those that were not served at an earlier
moment. -/
structure IsReadySince (since host : Host) : Prop where
  sound : since.IsSound
  registered : since.graph.registered ≤ host.graph.registered
  bounded : ∀ id artifact, host.served.find? id = some artifact ->
    artifact < host.artifacts.length
  ready : ∀ id artifact, host.served.find? id = some artifact ->
    host.isReady artifact = !since.served.has id

/-- The moment may be one at which nothing that is served is ready. -/
theorem IsReadySince.start
    {host : Host}
    (sound : host.IsSound)
    (bounded : ∀ id artifact, host.served.find? id = some artifact ->
      artifact < host.artifacts.length)
    (none : ∀ id artifact, host.served.find? id = some artifact ->
      host.isReady artifact = false) : IsReadySince host host where
  sound := sound
  registered := Nat.le_refl _
  bounded := bounded
  ready id artifact found := by rw [none id artifact found, Table.has, found]; rfl

/-- What was ready since a moment stays so over a step that keeps it. -/
theorem IsReadySince.step
    {since host changed : Host}
    (readySince : IsReadySince since host)
    (serves : ServesOn host changed)
    (keeps : Action.KeepsReadiness host changed) : IsReadySince since changed where
  sound := readySince.sound
  registered := Nat.le_trans readySince.registered serves.registered
  bounded := by
    intro id artifact found
    rcases serves.served id artifact found with before | ⟨_, ready, _⟩
    · exact Nat.lt_of_lt_of_le (readySince.bounded id artifact before) serves.count
    · exact lt_length_of_hasProgram (hasProgram_of_isReady ready)
  ready := by
    intro id artifact found
    rcases serves.served id artifact found with before | ⟨rfl, ready, _⟩
    · rw [keeps.kept artifact (readySince.bounded id artifact before)]
      exact readySince.ready id artifact before
    · -- A number is given once, so the new name was not served at the earlier moment.
      have fresh : since.served.has host.graph.nextName = false := by
        refine Bool.eq_false_iff.mpr fun served => ?_
        have there := readySince.sound.served _ served
        rw [Graph.has_eq_isSome_call?] at there
        obtain ⟨call, known⟩ := Option.isSome_iff_exists.mp there
        obtain ⟨number, before, named⟩ := readySince.sound.numbered _ call known
        have same : host.graph.registered + 1 = number := Graph.nodeName_injective named
        have := readySince.registered
        omega
      rw [ready, fresh]
      rfl

/-- Nothing is ready in a host that was emptied. -/
theorem IsEmptied.isReady_eq_false
    {host : Host}
    (emptied : host.IsEmptied)
    (id : ArtifactId) : host.isReady id = false := by
  refine Bool.eq_false_iff.mpr fun ready => ?_
  have listed := emptied.kept id (hasProgram_of_isReady ready)
  rw [slots, emptied.calls, emptied.graphs] at listed
  cases listed

/-- Every moment of a session has a last one before it at which nothing that is served
was ready: the start, or the last frame that loaded a plugin again. -/
theorem Session.exists_since
    {start host : Host}
    (session : Session start host)
    (fresh : start.IsFresh) :
    ∃ since, (since = start ∨ ∃ before, Session start before ∧ Reloads before since) ∧
      QuietSession since host ∧ IsReadySince since host := by
  induction session with
  | refl =>
      refine ⟨start, .inl rfl, .refl,
        .start fresh.isSound (Session.served_lt_length .refl fresh) ?_⟩
      intro id artifact found
      rw [fresh.served_eq_nil] at found
      cases found
  | @tail host changed session step inductionHypothesis =>
      by_cases reloads : Reloads host changed
      · refine ⟨changed, .inr ⟨host, session, reloads⟩, .refl, ?_⟩
        obtain ⟨elapsed, width, height, count, reloaded, rfl⟩ := reloads
        have emptied :=
          Action.tick_empties (Session.isStocked session fresh) reloaded elapsed width height
        have next : Session start _ := session.tail step
        exact .start (Session.isSound next fresh) (Session.served_lt_length next fresh)
          fun _ artifact _ => emptied.isReady_eq_false artifact
      · obtain ⟨since, moment, quiet, readySince⟩ := inductionHypothesis
        exact ⟨since, moment, quiet.tail ⟨step, reloads⟩,
          readySince.step step.servesOn (step.keepsReadiness reloads)⟩

/-- At every moment of a session a served shader can be connected exactly if it was
not served already when a plugin was loaded again for the last time. Before the first
such frame every served shader can be connected. -/
theorem session_connects_since
    {start host : Host}
    (fresh : start.IsFresh)
    (session : Session start host) :
    ∃ since, (since = start ∧ (∀ id, since.served.has id = false) ∨
        ∃ before, Session start before ∧ Reloads before since) ∧
      QuietSession since host ∧
      ∀ id, host.served.has id = true -> (Action.connect id).result host =
        .ok (if since.served.has id then .error s!"Shader '{id}' is not ready" else .ok id) := by
  obtain ⟨since, moment, quiet, readySince⟩ := session.exists_since fresh
  refine ⟨since, moment.imp_left fun same => ⟨same, fun id => ?_⟩, quiet, fun id served => ?_⟩
  · rw [same, fresh.served_eq_nil]
    rfl
  · obtain ⟨artifact, found⟩ := Option.isSome_iff_exists.mp served
    rw [Action.connect_of_served found, readySince.ready id artifact found]
    cases since.served.has id <;> rfl

/-- A host with a shader that was created before a plugin was loaded again, and one
that was created afterwards. -/
def renewed : Host :=
  (Action.create "abs" "st.x").final ((Action.tick 0.0 1.0 1.0).final beforeReload)

theorem session_renewed : Session ((Action.boot none false).final {}) renewed := by
  have working : Session ((Action.boot none false).final {}) working :=
    .single (.create _ "abs" "time")
  have pending : Session ((Action.boot none false).final {}) beforeReload :=
    working.tail (.outside _ _ _ _)
  exact (pending.tail (.tick _ 0.0 1.0 1.0)).tail (.create _ "abs" "st.x")

theorem renewed_evaluated :
    renewed.served.names = ["shader_1", "shader_2"] ∧
      (Action.connect "shader_1").result renewed =
        .ok (.error "Shader 'shader_1' is not ready") ∧
      (Action.connect "shader_2").result renewed = .ok (.ok "shader_2") := by
  unfold renewed beforeReload working Action.create Action.serve Action.compileGraph
    Action.makeGraph Action.compileChain Action.compileArtifact Action.compileStages
    Graphics.compile Graphics.build Graphics.link Include.resolve
  rw [Text.toList_eq_fromBytes, Text.ofList_eq_toBytes]
  decide +kernel

theorem renewed_served {id : String} (listed : id ∈ ["shader_1", "shader_2"]) :
    renewed.served.has id = true :=
  Table.has_iff_mem_names.mpr (renewed_evaluated.1 ▸ listed)

theorem renewed_connects_since :
    IsFresh ((Action.boot none false).final {}) ∧
      Session ((Action.boot none false).final {}) renewed ∧
      ∃ since, QuietSession since renewed ∧
        since.served.has "shader_1" = true ∧ since.served.has "shader_2" = false := by
  have fresh : IsFresh ((Action.boot none false).final {}) := ⟨_, _, _, none, false, rfl⟩
  obtain ⟨_, first, second⟩ := renewed_evaluated
  obtain ⟨since, _, quiet, connects⟩ := session_connects_since fresh session_renewed
  refine ⟨fresh, session_renewed, since, quiet, ?_, ?_⟩
  · have same := (connects "shader_1" (renewed_served (by decide))).symm.trans first
    cases before : since.served.has "shader_1" with
    | true => rfl
    | false => rw [before] at same; cases same
  · have same := (connects "shader_2" (renewed_served (by decide))).symm.trans second
    cases before : since.served.has "shader_2" with
    | false => rfl
    | true => rw [before] at same; cases same

/-- A shader that is served need not be ready to be connected. -/
theorem renewed_refuses_served :
    ¬(∀ start host, IsFresh start -> Session start host ->
      ∀ id, host.served.has id = true -> (Action.connect id).result host = .ok (.ok id)) := by
  intro connects
  have same := connects _ _ ⟨_, _, _, none, false, rfl⟩ session_renewed "shader_1"
    (renewed_served (by decide))
  cases renewed_evaluated.2.1.symm.trans same

end Host
end ShaderGraph
