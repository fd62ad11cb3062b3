import ShaderGraph.Host.Watching
import ShaderGraph.Proofs.Host.Ownership

/-!
# The life of a host

A host starts, serves requests and frames, and may be shut down and used on, while
the world around it changes. Whatever it does, programs that were made are owned by
one artifact or were released once.
-/

namespace ShaderGraph

/-! ## Quiet work on plugins -/

namespace Library

/-- Destroying a plugin emits quiet events only. -/
theorem emits_destroy (library : Library) (name : String) :
    (library.destroy name).Emits Event.IsQuiet := by
  unfold destroy
  split
  · exact Traced.emits_emit rfl
  · exact Traced.emits_emit rfl
  · exact Traced.Emits.bind (Traced.emits_emit rfl) fun _ =>
      Traced.emits_log Event.isQuiet_record _ _

theorem emits_close (library : Library) : library.close.Emits Event.IsQuiet :=
  Traced.emits_emit rfl

/-- Starting a plugin emits quiet events only. -/
theorem emits_start
    (library : Library)
    (expected : Int)
    (pluginAlias : Option String)
    (taken : String -> Bool) :
    (library.start expected pluginAlias taken).Emits Event.IsQuiet := by
  have discards (name : String) (outcome : Except LoadError (String × Registration)) : (do
      library.destroy name
      library.close
      return outcome : Traced (Except LoadError (String × Registration))).Emits Event.IsQuiet :=
    (library.emits_destroy name).bind fun _ => library.emits_close.bind fun _ =>
      Traced.emits_pure outcome
  unfold start
  split
  · exact library.emits_close.bind fun _ => Traced.emits_pure _
  · exact library.emits_close.bind fun _ => Traced.emits_pure _
  · exact Traced.Emits.bind (Traced.emits_emit rfl) fun _ => discards _ _
  · refine Traced.Emits.bind (Traced.emits_emit rfl) fun _ => ?_
    dsimp only
    split
    · exact discards _ _
    · exact Traced.emits_pure _

end Library

namespace Registry

/-- Trying to load a plugin emits quiet events only. -/
theorem emits_tryLoad
    (registry : Registry)
    (files : FileTree)
    (expected : Int)
    (path : String)
    (pluginAlias : Option String) :
    (registry.tryLoad files expected path pluginAlias).Emits Event.IsQuiet := by
  unfold tryLoad
  split
  · exact Traced.emits_pure _
  · refine Traced.Emits.bind (Traced.emits_emit rfl) fun _ => ?_
    refine (Library.emits_start _ _ _ _).bind fun outcome => ?_
    split
    · exact Traced.emits_pure _
    · exact Traced.emits_pure _

theorem emits_warnConflicts
    (builtins : Builtins)
    (pluginAlias : String)
    (plugin : Plugin) : (warnConflicts builtins pluginAlias plugin).Emits Event.IsQuiet := by
  refine Traced.Emits.bind ?_ fun _ => ?_
  · intro event listed
    obtain ⟨name, _, rfl⟩ := List.mem_map.mp listed
    exact Event.isQuiet_record _ _
  · split
    · exact Traced.emits_log Event.isQuiet_record _ _
    · exact Traced.emits_pure ()

/-- Loading a plugin emits quiet events only. -/
theorem emits_load
    (registry : Registry)
    (files : FileTree)
    (builtins : Option Builtins)
    (path : String)
    (pluginAlias : Option String)
    (expected : Int) :
    (registry.load files builtins path pluginAlias expected).Emits Event.IsQuiet := by
  refine (registry.emits_tryLoad files expected path pluginAlias).bind fun (outcome, changed) => ?_
  cases outcome with
  | error error =>
      exact (Traced.emits_log Event.isQuiet_record _ _).bind fun _ => Traced.emits_pure _
  | ok entry =>
      refine (Traced.emits_log Event.isQuiet_record _ _).bind fun _ => ?_
      cases builtins with
      | none => exact Traced.emits_pure _
      | some builtins =>
          exact (emits_warnConflicts builtins _ _).bind fun _ => Traced.emits_pure _

theorem emits_loadEach
    (files : FileTree)
    (builtins : Option Builtins)
    (paths : List String)
    (count : Nat)
    (registry : Registry) :
    (loadEach files builtins paths count registry).Emits Event.IsQuiet := by
  induction paths generalizing count registry with
  | nil => exact Traced.emits_pure _
  | cons path rest inductionHypothesis =>
      exact (registry.emits_load files builtins path _ _).bind fun (loaded, changed) =>
        inductionHypothesis _ changed

/-- Loading all plugins emits quiet events only. -/
theorem emits_loadAll
    (registry : Registry)
    (files : FileTree)
    (builtins : Option Builtins)
    (root : String) : (registry.loadAll files builtins root).Emits Event.IsQuiet := by
  have finds : (Plugin.findFiles files root).Emits Event.IsQuiet := by
    unfold Plugin.findFiles
    dsimp only
    split
    · exact Traced.emits_pure _
    · exact (Traced.emits_log Event.isQuiet_record _ _).bind fun _ => Traced.emits_pure _
  refine finds.bind fun paths => ?_
  refine (emits_loadEach files builtins paths 0 registry).bind fun (count, changed) => ?_
  exact (Traced.emits_log Event.isQuiet_record _ _).bind fun _ => Traced.emits_pure _

/-- Unloading a plugin emits quiet events only. -/
theorem emits_unload (registry : Registry) (pluginAlias : String) :
    (registry.unload pluginAlias).Emits Event.IsQuiet := by
  unfold unload
  split
  · exact (Traced.emits_log Event.isQuiet_record _ _).bind fun _ => Traced.emits_pure _
  · refine (Library.emits_destroy _ _).bind fun _ => (Library.emits_close _).bind fun _ => ?_
    exact (Traced.emits_log Event.isQuiet_record _ _).bind fun _ => Traced.emits_pure _

/-- Unloading all plugins emits quiet events only. -/
theorem emits_unloadAll (registry : Registry) : registry.unloadAll.Emits Event.IsQuiet := by
  unfold unloadAll
  generalize registry.registrations.names = aliases
  induction aliases generalizing registry with
  | nil => exact Traced.emits_pure registry
  | cons pluginAlias rest inductionHypothesis =>
      exact (registry.emits_unload pluginAlias).bind fun (_, changed) =>
        inductionHypothesis changed

end Registry

namespace Action

open Host

/-! ## Requests -/

/-- A change of an artifact without events that keeps its program. -/
theorem balances_changeArtifact_pure
    (id : ArtifactId)
    {change : Artifact -> Artifact}
    (same : ∀ artifact, (change artifact).program.map Program.number =
      artifact.program.map Program.number) :
    (changeArtifact id fun artifact => pure (change artifact)).Follows Balances := by
  apply balances_changeArtifact
  exact .of_quiet (fun _ => Traced.emits_pure _) same

/-- Disconnecting the output keeps the account of programs. -/
theorem balances_disconnectOutput : disconnectOutput.Follows Balances := by
  refine follows_get.bind fun host => ?_
  dsimp only
  split
  · exact (follows_log _ _).bind fun _ => follows_pure false
  · refine (balances_changeArtifact_pure _ fun artifact => ?_).bind fun _ => ?_
    · unfold Artifact.disconnect
      split <;> rfl
    · refine (follows_log _ _).bind fun _ => ?_
      exact Follows.bind (follows_modify fun _ => rfl) fun _ => follows_pure true

theorem balances_releaseOutput : releaseOutput.Follows Balances := by
  refine follows_get.bind fun host => ?_
  split
  · exact balances_disconnectOutput.bind fun _ => follows_pure ()
  · exact follows_pure ()

/-- Connecting an artifact keeps the account of programs. -/
theorem balances_connect (id : String) : (connect id).Follows Balances := by
  have connects (artifact : Option ArtifactId) : (connectOutput id artifact).Follows Balances := by
    refine follows_get.bind fun host => ?_
    split
    · exact (follows_log _ _).bind fun _ => follows_pure false
    · refine balances_releaseOutput.bind fun _ => ?_
      refine (balances_changeArtifact_pure _ fun artifact => ?_).bind fun _ => ?_
      · unfold Artifact.connect
        split <;> rfl
      · refine follows_get.bind fun later => Follows.bind (follows_modify fun _ => rfl) fun _ => ?_
        exact (follows_log _ _).bind fun _ => follows_pure true
  refine follows_get.bind fun host => ?_
  split
  · exact follows_pure _
  · refine (connects _).bind fun connected => ?_
    split
    · exact follows_pure _
    · exact follows_pure _

/-- Dropping a node accounts for the programs that it releases. -/
theorem balances_dropNode (id : String) : (dropNode id).Follows Balances := by
  have forgets : (do
      let _ <- removeActive id
      let _ <- removeNode id : Action Unit).Follows Balances := by
    refine Follows.bind ?_ fun _ => (follows_removeNode id).bind fun _ => follows_pure ()
    exact follows_get.bind fun _ =>
      Follows.bind (follows_modify fun _ => rfl) fun _ => follows_pure _
  refine Follows.bind (follows_modify fun _ => rfl) fun _ => follows_get.bind fun host => ?_
  dsimp only
  split
  · exact balances_disconnectOutput.bind fun _ => forgets
  · exact forgets

/-- Freeing a node and those behind it accounts for the programs that are released. -/
theorem balances_freeNode (bound : Nat) (id : String) : (freeNode bound id).Follows Balances := by
  induction bound generalizing id with
  | zero => exact follows_pure ()
  | succ bound inductionHypothesis =>
      refine follows_get.bind fun host => (balances_dropNode id).bind fun _ => ?_
      generalize host.graph.dependents id = dependents
      induction dependents with
      | nil => exact follows_pure ()
      | cons dependent rest restBalances =>
          rw [List.forM]
          refine Follows.bind ?_ fun _ => restBalances
          exact (follows_log _ _).bind fun _ => inductionHypothesis dependent

theorem balances_free (id : String) : (free id).Follows Balances := by
  refine follows_get.bind fun host => ?_
  split
  · exact follows_pure _
  · exact (balances_freeNode _ id).bind fun _ => follows_pure _

/-! ## Frames -/

/-- Cleaning up accounts for the programs that it releases. -/
theorem balances_cleanUpEach (ids : List ArtifactId) : (cleanUpEach ids).Follows Balances := by
  have surrenders : Surrenders Artifact.cleanUp := by
    intro artifact number
    obtain ⟨noneMade, released⟩ := artifact.count_released number
    rw [Artifact.trace_cleanUp, Artifact.owns_none artifact.program_cleanUp]
    exact ⟨noneMade, by rw [released]; exact (Nat.zero_add _).symm⟩
  induction ids with
  | nil => exact follows_pure ()
  | cons id rest inductionHypothesis =>
      exact (balances_changeArtifact id surrenders).bind fun _ => inductionHypothesis

/-- Clearing the calls accounts for the programs that it releases. -/
theorem balances_clearCalls : clearCalls.Follows Balances := by
  refine follows_get.bind fun host => (balances_cleanUpEach _).bind fun _ => ?_
  exact Follows.bind (follows_modify fun _ => rfl) fun _ => follows_log _ _

theorem balances_clearGraphs : clearGraphs.Follows Balances :=
  follows_get.bind fun _ => (balances_cleanUpEach _).bind fun _ => follows_modify fun _ => rfl

/-- A change of the registry is quiet, and nothing is owned by it. -/
theorem balances_changeRegistry
    {operation : Host -> Traced (Value × Registry)}
    (quiet : ∀ host, (operation host).Emits Event.IsQuiet) :
    (do
      let (value, registry) <- liftM (operation (<- get))
      modify fun host => { host with registry }
      return value : Action Value).Follows Balances :=
  follows_get.bind fun host => (follows_liftTraced (quiet host)).bind fun _ =>
    Follows.bind (follows_modify fun _ => rfl) fun _ => follows_pure _

/-- Reloading files accounts for the programs that it releases. -/
theorem balances_reloadFiles (forgets : Bool) (paths : List String) :
    (reloadFiles forgets paths).Follows Balances := by
  have loads (path : String) : (loadPlugin path (some (Plugin.aliasOf path)) >>= fun loaded =>
      if loaded = true then
        if forgets = true then forgetShaders (Plugin.aliasOf path) >>= fun _ => pure true
        else pure true
      else pure false : Action Bool).Follows Balances := by
    refine Follows.bind ?_ fun loaded => ?_
    · exact balances_changeRegistry fun host => host.registry.emits_load _ _ _ _ _
    · split
      · split
        · refine Follows.bind ?_ fun _ => follows_pure true
          exact (follows_log _ _).bind fun _ => balances_releaseOutput.bind fun _ =>
            balances_clearCalls.bind fun _ => balances_clearGraphs
        · exact follows_pure true
      · exact follows_pure false
  have reloads (path : String) : (reloadFile forgets path).Follows Balances := by
    refine follows_get.bind fun host => ?_
    split
    · exact follows_pure false
    · refine (follows_log _ _).bind fun _ => follows_get.bind fun later => ?_
      dsimp only
      split
      · refine Follows.bind ?_ fun _ => loads path
        exact balances_changeRegistry fun host => host.registry.emits_unload _
      · exact loads path
  induction paths with
  | nil => exact follows_pure 0
  | cons path rest inductionHypothesis =>
      exact (reloads path).bind fun _ => inductionHypothesis.bind fun _ => follows_pure _

/-- A poll of the watcher keeps the account of programs. -/
theorem balances_poll : poll.Follows Balances := by
  refine follows_get.bind fun host => ?_
  split
  · exact follows_pure 0
  · exact Follows.bind (follows_modify fun _ => rfl) fun _ => balances_reloadFiles true _

/-- A tick keeps the account of programs. -/
theorem balances_tick (elapsed width height : Float) :
    (tick elapsed width height).Follows Balances := by
  refine balances_poll.bind fun _ => follows_get.bind fun host => ?_
  split
  · exact follows_pure ()
  · apply balances_changeArtifact_pure
    intro artifact
    rw [Artifact.program_apply, Artifact.program_refresh, Option.map_map]
    congr 1
    funext program
    exact Artifact.number_applyTo _ program

/-! ## The start and the end -/

/-- A change of the watcher keeps the account of programs. -/
theorem balances_changeWatcher
    {change : Watcher -> Traced Watcher}
    (quiet : ∀ watcher, (change watcher).Emits Event.IsQuiet) :
    (changeWatcher change).Follows Balances := by
  refine follows_get.bind fun host => ?_
  split
  · exact follows_pure ()
  · exact (follows_liftTraced (quiet _)).bind fun _ => follows_modify fun _ => rfl

/-- Booting keeps the account of programs. -/
theorem balances_boot (directory : Option String) (watches : Bool) :
    (boot directory watches).Follows Balances := by
  have starts (watcher : Watcher) : watcher.start.Emits Event.IsQuiet := by
    unfold Watcher.start
    split
    · exact Traced.emits_pure watcher
    · refine Traced.Emits.bind (Traced.emits_emit rfl) fun _ => ?_
      refine Traced.Emits.bind (Traced.emits_emit rfl) fun _ => ?_
      exact (Traced.emits_log Event.isQuiet_record _ _).bind fun _ => Traced.emits_pure _
  unfold boot
  split
  · exact follows_pure ()
  · refine Follows.bind ?_ fun _ => ?_
    · exact balances_changeRegistry fun host => host.registry.emits_loadAll _ _ _
    · split
      · exact Follows.bind (follows_modify fun _ => rfl) fun _ => balances_changeWatcher starts
      · exact follows_pure ()

/-- Shutting down accounts for the programs that it releases. -/
theorem balances_shutDown : shutDown.Follows Balances := by
  have stops (watcher : Watcher) : watcher.stop.Emits Event.IsQuiet := by
    unfold Watcher.stop
    split
    · exact Traced.emits_pure watcher
    · refine Traced.Emits.bind (Traced.emits_emit rfl) fun _ => ?_
      refine Traced.Emits.bind (Traced.emits_emit rfl) fun _ => ?_
      exact Traced.emits_pure _
  refine (balances_changeWatcher stops).bind fun _ => balances_releaseOutput.bind fun _ => ?_
  refine balances_clearCalls.bind fun _ => Follows.bind ?_ fun _ => ?_
  · exact Follows.bind (follows_modify fun _ => rfl) fun _ => balances_clearGraphs
  · refine follows_get.bind fun host => (follows_liftTraced ?_).bind fun _ => ?_
    · exact host.registry.emits_unloadAll
    · exact follows_modify fun _ => rfl

end Action

namespace Host

/-! ## Lives -/

/-- One request or frame, the end of all work, or a change of what is outside of the
host, with the events on the way. A request that fails leaves a state, too. Windows
may come and go, but programs are made by the host only. -/
inductive LifeStep : Host -> List Event -> Host -> Prop
  | create (host : Host) (name raw : String) :
      LifeStep host ((Action.create name raw).trace host) ((Action.create name raw).final host)
  | connect (host : Host) (id : String) :
      LifeStep host ((Action.connect id).trace host) ((Action.connect id).final host)
  | free (host : Host) (id : String) :
      LifeStep host ((Action.free id).trace host) ((Action.free id).final host)
  | tick (host : Host) (elapsed width height : Float) :
      LifeStep host ((Action.tick elapsed width height).trace host)
        ((Action.tick elapsed width height).final host)
  | shutDown (host : Host) :
      LifeStep host (Action.shutDown.trace host) (Action.shutDown.final host)
  | outside
      (host : Host)
      (files : FileTree)
      (windows : WindowSystem)
      (isShared : Bool)
      (watcher : Option Watcher)
      (isVerbose : Bool) :
      LifeStep host []
        { host with
          files, graphics := { host.graphics with windows, isShared }, watcher, isVerbose }

/-- A host that was started on any files and graphics, after any number of steps,
with the events since its start. -/
inductive Life : List Event -> Host -> Prop
  | start
      (files : FileTree)
      (access : Access)
      (graphics : Graphics)
      (directory : Option String)
      (watches : Bool) :
      Life ((Action.boot directory watches).trace { files, access, graphics })
        ((Action.boot directory watches).final { files, access, graphics })
  | step
      {trace events : List Event}
      {host changed : Host}
      (life : Life trace host)
      (next : LifeStep host events changed) : Life (trace ++ events) changed

/-- Each step of a life keeps the account of programs. -/
theorem LifeStep.balances
    {host changed : Host}
    {events : List Event}
    (step : LifeStep host events changed) : host.Balances events changed := by
  cases step with
  | create name raw => exact Action.follows_create name raw host
  | connect id => exact Action.balances_connect id host
  | free id => exact Action.balances_free id host
  | tick elapsed width height => exact Action.balances_tick elapsed width height host
  | shutDown => exact Action.balances_shutDown host
  | outside => exact .of_quiet (by simp) rfl

/-- A whole life accounts for all programs from a host without artifacts on. -/
theorem Life.balances
    {trace : List Event}
    {host : Host}
    (life : Life trace host) :
    ∃ start : Host, start.artifacts = [] ∧ start.Balances trace host := by
  induction life with
  | start files access graphics directory watches =>
      exact ⟨{ files, access, graphics }, rfl, Action.balances_boot directory watches _⟩
  | step life next inductionHypothesis =>
      obtain ⟨start, empty, balances⟩ := inductionHypothesis
      exact ⟨start, empty, IsCourse.trans balances next.balances⟩

/-- Throughout a life every program is made at most once, and a program that was
made is owned by one artifact or was released once, but not both. -/
theorem Life.owners
    {trace : List Event}
    {host : Host}
    (life : Life trace host)
    (number : Nat) :
    trace.count (.programMade number) ≤ 1 ∧
      trace.count (.programMade number) =
        host.owners number + trace.count (.programReleased number) := by
  obtain ⟨start, empty, balances⟩ := life.balances
  have balance := balances.balance number
  have none : start.owners number = 0 := by
    rw [Host.owners, empty]
    rfl
  rw [none, Nat.zero_add] at balance
  refine ⟨?_, balance⟩
  rw [balances.made number]
  split <;> simp

end Host
end ShaderGraph
