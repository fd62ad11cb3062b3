import ShaderGraph.Proofs.Host.Showing
import ShaderGraph.Proofs.Host.Stock
import ShaderGraph.Proofs.Text.Bytes

/-!
# Accounts of programs

Throughout the life of a host the programs that were made and not released are those
in the slots of the caches, each in one slot. Forgetting shaders and ending all work
empty the slots, and so every program that was made is released once.
-/

namespace ShaderGraph

namespace Host

/-- A program is had by an artifact that is there. -/
theorem hasProgram_iff {host : Host} {id : ArtifactId} :
    host.hasProgram id = true ↔
      ∃ artifact, host.artifact? id = some artifact ∧ artifact.program.isSome = true := by
  simp [hasProgram, Option.any_eq_true]

/-! ## Changes of what is shown -/

/-- Disconnecting an artifact keeps its program. -/
theorem program_disconnect (artifact : Artifact) :
    artifact.disconnect.program = artifact.program := by
  unfold Artifact.disconnect
  split <;> rfl

/-- Connecting an artifact keeps its program. -/
theorem program_connect (artifact : Artifact) : artifact.connect.program = artifact.program := by
  unfold Artifact.connect
  split <;> rfl

/-- A change of an artifact that keeps whether it is ready and has a program. -/
theorem IsStocked.modify
    {host : Host}
    {change : Artifact -> Artifact}
    (stocked : host.IsStocked)
    (id : ArtifactId)
    (output : Output)
    (ready : ∀ artifact, (change artifact).isReady = artifact.isReady)
    (program : ∀ artifact, (change artifact).program.isSome = artifact.program.isSome) :
    Host.IsStocked { host with artifacts := host.artifacts.modify id change, output } := by
  refine stocked.of_same rfl (funext fun other => ?_) (funext fun other => ?_)
  · exact any_artifact?_modify ready host id output other
  · exact any_artifact?_modify program host id output other

/-- A stocked host stays stocked when its output is disconnected. -/
theorem IsStocked.disconnected {host : Host} (stocked : host.IsStocked) :
    host.disconnected.IsStocked := by
  unfold Host.disconnected
  split
  · exact stocked
  · refine stocked.modify _ _ Artifact.isReady_disconnect fun artifact => ?_
    rw [program_disconnect]

/-- A stocked host stays stocked when an artifact is connected. -/
theorem IsStocked.connect
    {host : Host}
    (stocked : host.IsStocked)
    (id : String) : ((Action.connect id).final host).IsStocked := by
  have effect := connects id host
  unfold Action.Meets at effect
  revert effect
  generalize (Action.connect id).result host = outcome
  generalize (Action.connect id).final host = changed
  rintro (_ | ⟨_, _⟩)
  · exact stocked
  · refine stocked.disconnected.modify _ _ Artifact.isReady_connect fun artifact => ?_
    rw [program_connect]

/-- A stocked host stays stocked when a node is freed. -/
theorem IsStocked.free
    {host : Host}
    (stocked : host.IsStocked)
    (id : String) : ((Action.free id).final host).IsStocked := by
  rcases Action.free_effect id host with same | frees
  · rw [same]
    exact stocked
  · obtain ⟨freed, without, _⟩ := frees.exists_cascade
    have calls : host.disconnected.calls = host.calls := by
      unfold Host.disconnected
      split <;> rfl
    rw [without, Host.without]
    dsimp only
    split
    · refine stocked.disconnected.of_same ?_ rfl rfl
      rw [slots, slots, calls]
    · exact stocked.of_same rfl rfl rfl

/-! ## Clearing the caches -/

/-- The caches are empty, and all is accounted for. -/
structure IsEmptied (host : Host) : Prop extends IsStocked host where
  calls : host.calls.cache = []
  graphs : host.graphCache = []

/-- Plugins and the watcher do not matter to the stock. -/
theorem IsStocked.outside
    {host : Host}
    (stocked : host.IsStocked)
    (registry : Registry)
    (watcher : Option Watcher) : Host.IsStocked { host with registry, watcher } :=
  ⟨stocked.nodup, stocked.ready, stocked.kept⟩

/-- The caches are cleared one after the other: what they owned has no program any
more, and the rest is as it was. -/
theorem IsStocked.cleared
    {host changed : Host}
    {ids : List ArtifactId}
    (stocked : host.IsStocked)
    (slots : host.slots.Perm (ids ++ changed.slots))
    (cleaned : ∀ id ∈ ids, changed.hasProgram id = false)
    (others : ∀ id, id ∉ ids -> changed.artifact? id = host.artifact? id) :
    changed.IsStocked := by
  obtain ⟨_, nodup, disjoint⟩ := List.nodup_append'.mp (slots.nodup_iff.mp stocked.nodup)
  refine ⟨nodup, fun id listed => ?_, fun id has => ?_⟩
  · rw [isReady, others id fun owned => disjoint owned listed]
    exact stocked.ready id (slots.mem_iff.mpr (List.mem_append_right ids listed))
  · have notCleaned : id ∉ ids := fun owned => by
      rw [cleaned id owned] at has
      cases has
    rw [hasProgram, others id notCleaned] at has
    exact (List.mem_append.mp (slots.mem_iff.mp (stocked.kept id has))).resolve_left notCleaned

end Host

namespace Action

open Host

/-- Cleaning up takes the programs of the artifacts that are listed, and only of these. -/
theorem cleanUpEach_effect (ids : List ArtifactId) (host : Host) :
    (cleanUpEach ids).Meets host fun outcome changed =>
      outcome = .ok () ∧ (∀ id ∈ ids, changed.hasProgram id = false) ∧
        ∀ id, id ∉ ids -> changed.artifact? id = host.artifact? id := by
  induction ids generalizing host with
  | nil => exact ⟨rfl, by simp, fun _ _ => rfl⟩
  | cons first rest inductionHypothesis =>
      have cleans : (changeArtifact first Artifact.cleanUp).Meets host fun outcome changed =>
          outcome = .ok () ∧ changed.hasProgram first = false ∧
            ∀ id, id ≠ first -> changed.artifact? id = host.artifact? id := by
        rw [changeArtifact, meets_get_bind]
        cases found : host.artifact? first with
        | none =>
            refine ⟨rfl, ?_, fun _ _ => rfl⟩
            change (host.artifact? first).any _ = false
            rw [found]
            rfl
        | some artifact =>
            refine ⟨rfl, ?_, fun id different => List.getElem?_set_ne different.symm⟩
            change ((host.setArtifact first artifact.cleanUp.value).artifact? first).any _ = false
            rw [artifact?_setArtifact_self found, Option.any_some, artifact.program_cleanUp]
            rfl
      rw [cleanUpEach, meets_bind]
      refine cleans.imp ?_
      rintro _ middle ⟨rfl, cleaned, others⟩
      refine before_ok.mpr ((inductionHypothesis middle).imp ?_)
      rintro _ changed ⟨rfl, cleanedRest, othersRest⟩
      refine ⟨rfl, fun id listed => ?_, fun id unlisted => ?_⟩
      · rcases List.mem_cons.mp listed with rfl | later
        · by_cases again : id ∈ rest
          · exact cleanedRest id again
          · rw [hasProgram, othersRest id again]
            exact cleaned
        · exact cleanedRest id later
      · rw [List.mem_cons, not_or] at unlisted
        exact (othersRest id unlisted.2).trans (others id unlisted.1)

/-- Clearing the calls keeps a host stocked and forgets all of them. -/
theorem clearCalls_stays_stocked {host : Host} (stocked : host.IsStocked) :
    clearCalls.Meets host fun outcome changed =>
      outcome = .ok () ∧ changed.IsStocked ∧ changed.calls.cache = [] ∧
        changed.graphCache = host.graphCache := by
  rw [clearCalls, meets_get_bind, meets_bind]
  refine ((respects_cleanUpEach _).meets (cleanUpEach_effect _ host)).imp ?_
  rintro _ changed ⟨only, rfl, cleaned, others⟩
  refine before_ok.mpr (meets_modify_bind.mpr ⟨rfl, ?_, rfl, only.graphCache_eq⟩)
  refine stocked.cleared (.of_eq ?_) cleaned others
  exact congrArg (host.calls.cache.contents ++ Table.contents ·) only.graphCache_eq.symm

/-- Clearing the graphs keeps a host stocked and forgets all chains. -/
theorem clearGraphs_stays_stocked {host : Host} (stocked : host.IsStocked) :
    clearGraphs.Meets host fun outcome changed =>
      outcome = .ok () ∧ changed.IsStocked ∧ changed.calls.cache = host.calls.cache ∧
        changed.graphCache = [] := by
  rw [clearGraphs, meets_get_bind, meets_bind]
  refine ((respects_cleanUpEach _).meets (cleanUpEach_effect _ host)).imp ?_
  rintro _ changed ⟨only, rfl, cleaned, others⟩
  have calls : changed.calls = host.calls := by rw [only.others]
  refine before_ok.mpr (meets_modify.mpr ⟨rfl, ?_, congrArg CallShaders.cache calls, rfl⟩)
  refine stocked.cleared ?_ cleaned others
  change List.Perm _ (_ ++ (changed.calls.cache.contents ++ []))
  rw [calls, List.append_nil]
  exact List.perm_append_comm

/-- Forgetting all shaders empties a stocked host. -/
theorem forgetShaders_effect
    {host : Host}
    (stocked : host.IsStocked)
    (pluginAlias : String) :
    (forgetShaders pluginAlias).Meets host fun _ changed =>
      changed.IsEmptied := by
  rw [forgetShaders, meets_log_bind, meets_bind]
  refine (releaseOutput_effect host).imp ?_
  rintro _ _ ⟨rfl, rfl⟩
  rw [before_ok, meets_bind]
  refine (clearCalls_stays_stocked stocked.disconnected).imp ?_
  rintro _ middle ⟨rfl, middleStocked, cleared, _⟩
  refine before_ok.mpr ((clearGraphs_stays_stocked middleStocked).imp ?_)
  rintro _ changed ⟨rfl, changedStocked, same, clearedGraphs⟩
  exact ⟨changedStocked, same.trans cleared, clearedGraphs⟩

/-! ## Frames -/

theorem stocked_outside (host : Host) (registry : Registry) (watcher : Option Watcher) :
    Maintains IsStocked host { host with registry, watcher } :=
  fun stocked => stocked.outside registry watcher

theorem emptied_outside (host : Host) (registry : Registry) (watcher : Option Watcher) :
    Maintains IsEmptied host { host with registry, watcher } :=
  fun emptied => ⟨emptied.toIsStocked.outside registry watcher, emptied.calls, emptied.graphs⟩

/-- Forgetting all shaders keeps a host stocked. -/
theorem maintains_forgetShaders_stocked (pluginAlias : String) :
    (forgetShaders pluginAlias).Respects (Maintains IsStocked) :=
  fun _ stocked => (forgetShaders_effect stocked pluginAlias).toIsStocked

/-- Forgetting all shaders keeps a host empty. -/
theorem maintains_forgetShaders_emptied (pluginAlias : String) :
    (forgetShaders pluginAlias).Respects (Maintains IsEmptied) :=
  fun _ emptied => forgetShaders_effect emptied.toIsStocked pluginAlias

/-- A file that was loaded again leaves nothing in the caches. -/
theorem reloadFile_empties {host : Host} (stocked : host.IsStocked) (path : String) :
    (reloadFile true path).Meets host fun outcome changed =>
      outcome = .ok true -> changed.IsEmptied := by
  have loads (middle : Host) (stocked : middle.IsStocked) :
      (loadPlugin path (some (Plugin.aliasOf path)) >>= fun loaded =>
        if loaded = true then
          if true = true then forgetShaders (Plugin.aliasOf path) >>= fun _ => pure true
          else pure true
        else pure false : Action Bool).Meets middle fun outcome changed =>
          outcome = .ok true -> changed.IsEmptied := by
    have maintains :
        (loadPlugin path (some (Plugin.aliasOf path))).Respects (Maintains IsStocked) :=
      respects_changeRegistry stocked_outside fun host => host.registry.load _ _ _ _
    refine maintains.meets_bind (fun _ _ _ impossible => nomatch impossible) ?_
    intro loaded later maintained
    split
    · rw [if_pos rfl, meets_bind]
      have emptied := forgetShaders_effect (maintained stocked) (Plugin.aliasOf path)
      unfold Meets at emptied ⊢
      cases (forgetShaders (Plugin.aliasOf path)).result later with
      | error failure => exact fun impossible => nomatch impossible
      | ok _ => exact fun _ => emptied
    · exact fun impossible => nomatch impossible
  rw [reloadFile, meets_get_bind]
  split
  · exact fun impossible => nomatch impossible
  · rw [meets_log_bind, meets_get_bind]
    dsimp only
    split
    · have maintains : (unloadPlugin (Plugin.aliasOf path)).Respects (Maintains IsStocked) :=
        respects_changeRegistry stocked_outside fun host => host.registry.unload _
      refine maintains.meets_bind (fun _ _ _ impossible => nomatch impossible) ?_
      exact fun _ middle maintained => loads middle (maintained stocked)
    · exact loads host stocked

/-- Reloading a file empties a stocked host. -/
theorem reloadFiles_empties {host : Host} (stocked : host.IsStocked) (paths : List String) :
    (reloadFiles true paths).Meets host fun outcome changed =>
      ∀ count, outcome = .ok (count + 1) -> changed.IsEmptied := by
  have keepsEmptied (paths : List String) :
      (reloadFiles true paths).Respects (Maintains IsEmptied) :=
    respects_reloadFiles emptied_outside maintains_forgetShaders_emptied paths
  induction paths generalizing host with
  | nil =>
      intro count impossible
      cases impossible
  | cons path rest inductionHypothesis =>
      have reloads := respects_reloadFile stocked_outside maintains_forgetShaders_stocked path
      rw [reloadFiles, meets_bind]
      refine (reloads.meets (reloadFile_empties stocked path)).imp ?_
      rintro reloaded middle ⟨maintained, empties⟩
      rcases reloaded with failure | reloaded
      · exact fun _ impossible => nomatch impossible
      rw [before_ok, meets_bind]
      refine ((keepsEmptied rest).meets (inductionHypothesis (maintained stocked))).imp ?_
      rintro counted changed ⟨keeps, restEmpties⟩
      rcases counted with failure | counted
      · exact fun _ impossible => nomatch impossible
      refine before_ok.mpr (meets_pure.mpr fun count same => ?_)
      cases reloaded with
      | true => exact keeps (empties rfl)
      | false => exact restEmpties count (by simpa using same)

/-- Polling that loads a plugin again leaves nothing in the caches. -/
theorem poll_empties {host : Host} (stocked : host.IsStocked) :
    poll.Meets host fun outcome changed =>
      ∀ count, outcome = .ok (count + 1) -> changed.IsEmptied := by
  rw [poll, meets_get_bind]
  split
  · intro count impossible
    cases impossible
  · exact meets_modify_bind.mpr (reloadFiles_empties (stocked.outside _ _) _)

/-- Refreshing what is shown changes nothing about the caches. -/
theorem refreshOutput_effect (elapsed width height : Float) (host : Host) :
    (refreshOutput elapsed width height).Meets host fun _ changed =>
      (host.IsStocked -> changed.IsStocked) ∧ (host.IsEmptied -> changed.IsEmptied) := by
  have refreshes {output : ArtifactId} (stocked : host.IsStocked) :
      Host.IsStocked { host with artifacts := host.artifacts.modify output fun artifact =>
        (artifact.refresh elapsed width height).apply } := by
    have program (artifact : Artifact) :
        (artifact.refresh elapsed width height).apply.program.isSome =
          artifact.program.isSome := by
      rw [Artifact.program_apply, Artifact.program_refresh, Option.isSome_map]
    refine stocked.modify output host.output (fun artifact => ?_) program
    rw [Artifact.isReady, Artifact.isReady, artifact.state_refresh, program]
  rw [refreshOutput, meets_get_bind]
  split
  · exact ⟨id, id⟩
  · refine (changeArtifact_pure_effect _ _ host).imp ?_
    rintro _ _ ⟨rfl, rfl⟩
    exact ⟨refreshes, fun emptied => ⟨refreshes emptied.toIsStocked, emptied.calls, emptied.graphs⟩⟩

/-- A tick keeps a host stocked. -/
theorem maintains_tick_stocked (elapsed width height : Float) :
    (tick elapsed width height).Respects (Maintains IsStocked) :=
  (respects_poll stocked_outside maintains_forgetShaders_stocked).bind fun _ host =>
    (refreshOutput_effect elapsed width height host).1

/-- A tick that reloads a file empties a stocked host. -/
theorem tick_empties
    {host : Host}
    {count : Nat}
    (stocked : host.IsStocked)
    (reloaded : poll.result host = .ok (count + 1))
    (elapsed width height : Float) :
    ((tick elapsed width height).final host).IsEmptied := by
  rw [tick, final_bind, reloaded]
  exact (refreshOutput_effect elapsed width height _).2 (poll_empties stocked count reloaded)

/-! ## The start and the end -/

theorem changeWatcher_succeeds (change : Watcher -> Traced Watcher) (host : Host) :
    (changeWatcher change).Meets host fun outcome _ => outcome = .ok () := by
  rw [changeWatcher, meets_get_bind]
  split
  · rfl
  · exact meets_liftTraced_bind.mpr rfl

/-- Shutting down empties a stocked host. -/
theorem shutDown_empties {host : Host} (stocked : host.IsStocked) :
    (shutDown.final host).IsEmptied := by
  have meets : shutDown.Meets host fun _ changed => changed.IsEmptied := by
    rw [shutDown, meets_bind]
    refine ((respects_changeWatcher stocked_outside _).meets
      (changeWatcher_succeeds Watcher.stop host)).imp ?_
    rintro _ stopped ⟨maintained, rfl⟩
    rw [before_ok, meets_bind]
    refine (releaseOutput_effect stopped).imp ?_
    rintro _ _ ⟨rfl, rfl⟩
    rw [before_ok, meets_bind]
    refine (clearCalls_stays_stocked (maintained stocked).disconnected).imp ?_
    rintro _ middle ⟨rfl, middleStocked, cleared, _⟩
    have unregistered : Host.IsStocked { middle with graph := middle.graph.clear } :=
      middleStocked.of_same rfl rfl rfl
    rw [before_ok, clearNodes, bind_assoc, meets_modify_bind, meets_bind]
    refine (clearGraphs_stays_stocked unregistered).imp ?_
    rintro _ changed ⟨rfl, changedStocked, same, clearedGraphs⟩
    exact respects_unloadPlugins emptied_outside changed
      ⟨changedStocked, same.trans cleared, clearedGraphs⟩
  exact meets

end Action

namespace Host

/-- A step of a life keeps the host stocked. -/
theorem LifeStep.isStocked
    {host changed : Host}
    {events : List Event}
    (step : LifeStep host events changed)
    (stocked : host.IsStocked) : changed.IsStocked := by
  cases step with
  | create name raw => exact Action.maintains_create name raw host stocked
  | connect id => exact stocked.connect id
  | free id => exact stocked.free id
  | tick elapsed width height =>
      exact Action.maintains_tick_stocked elapsed width height host stocked
  | shutDown => exact (Action.shutDown_empties stocked).toIsStocked
  | outside => exact ⟨stocked.nodup, stocked.ready, stocked.kept⟩

/-- The host is stocked throughout its life. -/
theorem Life.isStocked
    {trace : List Event}
    {host : Host}
    (life : Life trace host) : host.IsStocked := by
  induction life with
  | start files access graphics directory watches =>
      refine Action.respects_boot Action.stocked_outside directory watches _ ?_
      refine ⟨List.nodup_nil, fun id listed => ?_, fun id has => ?_⟩
      · cases listed
      · exact absurd (lt_length_of_hasProgram has) (Nat.not_lt_zero id)
  | step life next inductionHypothesis => exact next.isStocked inductionHypothesis

/-! ## Accounts -/

/-- Whether an artifact of a host owns a program. -/
def holds (host : Host) (number : Nat) (id : ArtifactId) : Bool :=
  (host.artifact? id).any fun artifact => artifact.owns number

/-- The owners of a program are found under their numbers. -/
theorem owners_eq_countP_range (host : Host) (number : Nat) :
    host.owners number = (List.range host.artifacts.length).countP (host.holds number) := by
  have listed : (List.range host.artifacts.length).map host.artifact? =
      host.artifacts.map some := by
    apply List.ext_getElem
    · simp
    · intro position _ _
      simp [artifact?]
  have counted := congrArg
    (List.countP fun artifact? => Option.any (Artifact.owns · number) artifact?) listed
  rw [List.countP_map, List.countP_map] at counted
  exact counted.symm

/-- The owners of a program are the holders in the slots. -/
theorem IsStocked.owners_eq
    {host : Host}
    (stocked : host.IsStocked)
    (number : Nat) : host.owners number = host.slots.countP (host.holds number) := by
  have bounded (id : ArtifactId) (holds : host.holds number id = true) :
      id < host.artifacts.length ∧ id ∈ host.slots := by
    obtain ⟨artifact, found, owns⟩ := (Option.any_eq_true _ _).mp holds
    obtain ⟨program, owned, _⟩ := (Option.any_eq_true _ _).mp owns
    have has : host.hasProgram id = true :=
      hasProgram_iff.mpr ⟨artifact, found, by rw [owned]; rfl⟩
    exact ⟨lt_length_of_hasProgram has, stocked.kept id has⟩
  rw [owners_eq_countP_range, List.countP_eq_length_filter, List.countP_eq_length_filter]
  refine ((List.perm_ext_iff_of_nodup (List.nodup_range.filter _)
    (stocked.nodup.filter _)).mpr fun id => ?_).length_eq
  rw [List.mem_filter, List.mem_filter, List.mem_range]
  constructor
  · rintro ⟨_, holds⟩
    exact ⟨(bounded id holds).2, holds⟩
  · rintro ⟨_, holds⟩
    exact ⟨(bounded id holds).1, holds⟩

/-- Once the caches are empty, every program that was made was released once. -/
theorem Life.released_of_isEmptied
    {trace : List Event}
    {host : Host}
    {number : Nat}
    (life : Life trace host)
    (emptied : host.IsEmptied)
    (made : .programMade number ∈ trace) : trace.count (.programReleased number) = 1 := by
  obtain ⟨once, balance⟩ := life.owners number
  have present := List.count_pos_iff.mpr made
  have none : host.owners number = 0 := by
    rw [emptied.toIsStocked.owners_eq, slots, emptied.calls, emptied.graphs]
    rfl
  omega

/-- Throughout the life of a host no program is released twice, and the programs that
were made and not released are those of the artifacts in the slots of the caches: each
of them is owned by one artifact, which stands in one slot. A frame that loads a plugin
again and the end of all work leave every program that was made released once. -/
theorem life_accounts_for_programs
    {trace : List Event}
    {host : Host}
    (life : Life trace host) :
    (∀ number,
      trace.count (.programReleased number) ≤ 1 ∧
        host.slots.countP (host.holds number) =
          (if .programMade number ∈ trace ∧ .programReleased number ∉ trace then 1 else 0) ∧
        host.owners number = host.slots.countP (host.holds number)) ∧
    (∀ elapsed width height count, Action.poll.result host = .ok (count + 1) ->
      ∀ number, .programMade number ∈ trace ++ (Action.tick elapsed width height).trace host ->
        (trace ++ (Action.tick elapsed width height).trace host).count
          (.programReleased number) = 1) ∧
    ∀ number, .programMade number ∈ trace ++ Action.shutDown.trace host ->
      (trace ++ Action.shutDown.trace host).count (.programReleased number) = 1 := by
  have stocked := life.isStocked
  refine ⟨fun number => ?_, fun elapsed width height count reloaded number made => ?_,
    fun number made => ?_⟩
  · obtain ⟨once, balance⟩ := life.owners number
    have owners := stocked.owners_eq number
    refine ⟨by omega, ?_, owners⟩
    simp only [← owners, ← List.count_pos_iff]
    split <;> omega
  · exact (life.step (.tick host elapsed width height)).released_of_isEmptied
      (Action.tick_empties stocked reloaded elapsed width height) made
  · exact (life.step (.shutDown host)).released_of_isEmptied (Action.shutDown_empties stocked) made

/-- The files of a host change, and what its watcher saw of them. -/
theorem LifeStep.changeFiles
    (host : Host)
    (files : FileTree)
    (watcher : Option Watcher) : LifeStep host [] { host with files, watcher } :=
  .outside host files host.graphics.windows host.graphics.isShared watcher host.isVerbose

/-- A host with one shader. -/
def working : Host :=
  (Action.create "abs" "time").final ((Action.boot none false).final {})

/-- The same host after one plugin file changed. -/
def beforeReload : Host :=
  { working with
    files := { entries := [(["waves.py"], .module { version := .returns (.integer 1) })] }
    watcher := some { root := ".", pending := ["waves.py"] } }

theorem beforeReload_accounts_for_programs :
    ∃ trace number, Life trace beforeReload ∧
      .programMade number ∈ trace ∧ .programReleased number ∉ trace ∧
      beforeReload.slots.countP (beforeReload.holds number) = 1 ∧
      (trace ++ (Action.tick 0.0 1.0 1.0).trace beforeReload).count (.programReleased number) = 1 ∧
      (trace ++ Action.shutDown.trace beforeReload).count (.programReleased number) = 1 := by
  have created : Life _ working :=
    (Life.start {} .given {} none false).step (.create _ "abs" "time")
  have life : Life _ beforeReload := created.step (.changeFiles working _ _)
  have evaluated : beforeReload.isReady 0 = true ∧ Action.poll.result beforeReload = .ok 1 := by
    unfold beforeReload working Action.create Action.serve Action.compileGraph Action.makeGraph
      Action.compileChain Action.compileArtifact Action.compileStages Graphics.compile
      Graphics.build Graphics.link Include.resolve
    rw [Text.toList_eq_fromBytes, Text.ofList_eq_toBytes]
    decide +kernel
  obtain ⟨ready, reloaded⟩ := evaluated
  obtain ⟨_, program, _, _, made, kept⟩ := life.holds_program ready
  obtain ⟨accounts, afterReload, afterEnd⟩ := life_accounts_for_programs life
  obtain ⟨_, held, _⟩ := accounts program.number
  refine ⟨_, program.number, life, made, kept, ?_, ?_, ?_⟩
  · rw [held, if_pos ⟨made, kept⟩]
  · exact afterReload 0.0 1.0 1.0 0 reloaded program.number (List.mem_append_left _ made)
  · exact afterEnd program.number (List.mem_append_left _ made)

end Host
end ShaderGraph
