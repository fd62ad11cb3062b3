import Mathlib.Logic.Relation
import ShaderGraph.Host.Watching
import ShaderGraph.Proofs.Host.Reloading
import ShaderGraph.Proofs.Host.Request

/-!
# Sessions

A session starts with a new host and serves requests and frames in any order,
while files change. Requests that fail are part of it. At every moment the
references of all nodes lead to registered nodes with smaller numbers, and every
served shader is a node: a node is added only behind what it refers to, and
dropped only with whatever refers to it, and nothing else changes the nodes.
-/

namespace ShaderGraph

namespace Host

/-- The nodes and the served shaders. -/
def offer (host : Host) : Graph × Table ArtifactId := (host.graph, host.served)

end Host

namespace Action

/-- The nodes and the served shaders are the same. -/
abbrev KeepsOffer : Host -> Host -> Prop := Unchanged Host.offer

/-- Forgetting shaders keeps what is on offer. -/
theorem Forgets.keepsOffer {host changed : Host} (forgets : Forgets host changed) :
    KeepsOffer host changed := by
  rw [forgets]
  rfl

theorem keepsOffer_modify
    {change : Host -> Host}
    (same : ∀ host, (change host).offer = host.offer) :
    (modify change : Action Unit).Respects KeepsOffer :=
  same

/-- Plugins and the watcher do not change what is on offer. -/
theorem keepsOffer_outside (host : Host) (registry : Registry) (watcher : Option Watcher) :
    KeepsOffer host { host with registry, watcher } := rfl

/-! ## The output -/

theorem keepsOffer_changeArtifact (id : ArtifactId) (change : Artifact -> Traced Artifact) :
    (changeArtifact id change).Respects KeepsOffer :=
  (forgets_changeArtifact id change).imp fun _ _ forgets => forgets.keepsOffer

theorem keepsOffer_connectOutput (id : String) (artifact : Option ArtifactId) :
    (connectOutput id artifact).Respects KeepsOffer := by
  refine respects_get.bind fun host => ?_
  split
  · exact (respects_liftTraced _).bind fun _ => respects_pure false
  · refine (forgets_releaseOutput.imp fun _ _ forgets => forgets.keepsOffer).bind fun _ => ?_
    refine (keepsOffer_changeArtifact _ _).bind fun _ => respects_get.bind fun later => ?_
    dsimp only
    refine Respects.bind (keepsOffer_modify fun _ => rfl) fun _ => ?_
    exact (respects_liftTraced _).bind fun _ => respects_pure true

/-- Connecting an artifact keeps what is on offer. -/
theorem keepsOffer_connect (id : String) : (connect id).Respects KeepsOffer := by
  refine respects_get.bind fun host => ?_
  split
  · exact respects_pure _
  · refine (keepsOffer_connectOutput id _).bind fun connected => ?_
    split
    · exact respects_pure _
    · exact respects_pure _

/-- Refreshing the screen keeps what is on offer. -/
theorem keepsOffer_refreshOutput (elapsed width height : Float) :
    (refreshOutput elapsed width height).Respects KeepsOffer := by
  refine respects_get.bind fun host => ?_
  split
  · exact respects_pure ()
  · exact keepsOffer_changeArtifact _ _

/-! ## Frames -/

/-- A tick keeps what is on offer. -/
theorem keepsOffer_tick (elapsed width height : Float) :
    (tick elapsed width height).Respects KeepsOffer := by
  have polls : poll.Respects KeepsOffer :=
    respects_poll keepsOffer_outside fun pluginAlias =>
      (forgets_forgetShaders pluginAlias).imp fun _ _ forgets => forgets.keepsOffer
  exact polls.bind fun _ => keepsOffer_refreshOutput elapsed width height

theorem keepsOffer_boot (directory : Option String) (watches : Bool) :
    (boot directory watches).Respects KeepsOffer :=
  respects_boot keepsOffer_outside directory watches

end Action

namespace Host

/-! ## Sessions -/

/-- One request or frame of a session, or a change of what is outside of the host.
A request that fails leaves a state, too. -/
inductive SessionStep : Host -> Host -> Prop
  | create (host : Host) (name raw : String) :
      SessionStep host ((Action.create name raw).final host)
  | connect (host : Host) (id : String) : SessionStep host ((Action.connect id).final host)
  | free (host : Host) (id : String) : SessionStep host ((Action.free id).final host)
  | tick (host : Host) (elapsed width height : Float) :
      SessionStep host ((Action.tick elapsed width height).final host)
  | outside (host : Host) (files : FileTree) (graphics : Graphics) (watcher : Option Watcher) :
      SessionStep host { host with files, graphics, watcher }

/-- Any number of requests and frames. -/
def Session : Host -> Host -> Prop :=
  Relation.ReflTransGen SessionStep

/-- A host that was just started, on any files and graphics. -/
def IsFresh (host : Host) : Prop :=
  ∃ files access graphics directory watches,
    host = (Action.boot directory watches).final { files, access, graphics }

/-! ## What holds throughout a session -/

/-- References lead to registered nodes with smaller numbers, and every served
shader is a node. -/
structure IsSound (host : Host) : Prop where
  numbered : host.graph.IsNumbered
  descends : host.graph.Descends
  served : ∀ id, host.served.has id = true -> host.graph.has id = true

/-- A sound host stays sound where the offer is kept. -/
theorem IsSound.of_keepsOffer
    {host changed : Host}
    (sound : host.IsSound)
    (keeps : Action.KeepsOffer host changed) : changed.IsSound := by
  obtain ⟨graph, served⟩ := Prod.ext_iff.mp keeps
  change changed.graph = host.graph at graph
  change changed.served = host.served at served
  exact ⟨graph ▸ sound.numbered, graph ▸ sound.descends, by rw [graph, served]; exact sound.served⟩

/-- A sound host stays sound where the calls of its nodes are the same. -/
theorem IsSound.of_sameCalls
    {host changed : Host}
    (sound : host.IsSound)
    (same : Graph.SameCalls host.graph changed.graph)
    (registered : host.graph.registered ≤ changed.graph.registered)
    (served : changed.served = host.served) : changed.IsSound where
  numbered := by
    intro name call found
    obtain ⟨number, known, named⟩ := sound.numbered name call ((same name).trans found)
    exact ⟨number, Nat.le_trans known registered, named⟩
  descends := sound.descends.of_sameCalls same
  served := by
    intro id present
    rw [served] at present
    rw [← same.has_eq]
    exact sound.served id present

/-- Work on artifacts keeps a host sound. -/
theorem IsSound.of_works
    {host changed : Host}
    (sound : host.IsSound)
    (works : Action.Works host changed) : changed.IsSound :=
  sound.of_sameCalls works.calls (Nat.le_of_eq works.registered.symm)
    (SameServing.of_works works).served

/-- A call whose references were found can be registered. -/
theorem IsSound.registering
    {host : Host}
    {name raw : String}
    (sound : host.IsSound)
    (grounded : Action.IsGrounded (host.graph.add name (Call.splitArguments raw))
      host.graph.nextName (Call.splitArguments raw)) :
    (Action.registering name raw host).IsSound where
  numbered := sound.numbered.add name _
  descends := by
    refine sound.descends.add sound.numbered name ?_
    rcases grounded with none | ⟨chain, analyzed⟩
    · simp [none]
    · exact Graph.has_of_analyze_add analyzed
  served := fun id present => (Graph.has_add name _ id).mpr (.inr (sound.served id present))

/-- A request for a shader keeps a host sound. -/
theorem IsSound.create
    {host : Host}
    (sound : host.IsSound)
    (name raw : String) : ((Action.create name raw).final host).IsSound := by
  have meets : (Action.create name raw).Meets host fun _ changed => changed.IsSound := by
    refine (Action.create_effect name raw host).imp fun outcome changed effect => ?_
    cases effect with
    | refused => exact sound
    | withdrawn works =>
        -- The calls are those of before; only the number was given.
        have undone := Graph.sameCalls_remove_add (Graph.not_has_nextName sound.numbered) name
          (Call.splitArguments raw)
        refine sound.of_sameCalls (undone.trans (works.calls.remove _)) ?_
          (SameServing.of_works works).served
        exact Nat.le_trans (Nat.le_succ _) (Nat.le_of_eq works.registered.symm)
    | raised works grounded => exact (sound.registering grounded).of_works works
    | created works same grounded =>
        have worked := (sound.registering grounded).of_works works
        rw [same]
        refine ⟨worked.numbered, worked.descends, fun id present => ?_⟩
        rcases (Table.has_set _ _ _ _).mp present with rfl | before
        · rw [← works.calls.has_eq]
          exact (Graph.has_add name _ _).mpr (.inl rfl)
        · exact worked.served id before
  exact meets

/-- Freeing a node keeps a host sound. -/
theorem IsSound.free
    {host : Host}
    (sound : host.IsSound)
    (id : String) : ((Action.free id).final host).IsSound := by
  rcases Action.free_effect id host with same | frees
  · rw [same]
    exact sound
  · obtain ⟨freed, without, cascade⟩ := frees.exists_cascade
    rw [without]
    exact {
      numbered := (host.graph.narrows_without freed).isNumbered sound.numbered
      descends := sound.descends.without cascade.closed
      served := by
        intro other present
        obtain ⟨before, kept⟩ := Table.has_without.mp present
        exact Graph.has_without.mpr ⟨sound.served other before, kept⟩ }

/-- A step of a session keeps a host sound. -/
theorem IsSound.step
    {host changed : Host}
    (sound : host.IsSound)
    (step : SessionStep host changed) : changed.IsSound := by
  cases step with
  | create name raw => exact sound.create name raw
  | connect id => exact sound.of_keepsOffer (Action.keepsOffer_connect id host)
  | free id => exact sound.free id
  | tick elapsed width height =>
      exact sound.of_keepsOffer (Action.keepsOffer_tick elapsed width height host)
  | outside => exact ⟨sound.numbered, sound.descends, sound.served⟩

theorem IsFresh.isSound {host : Host} (fresh : host.IsFresh) : host.IsSound := by
  obtain ⟨files, access, graphics, directory, watches, rfl⟩ := fresh
  refine IsSound.of_keepsOffer ?_ (Action.keepsOffer_boot directory watches _)
  refine ⟨fun _ _ found => (nomatch found), ?_, fun _ impossible => (nomatch impossible)⟩
  rintro source target ⟨node, impossible, _⟩
  cases impossible

/-- A host that starts fresh stays sound throughout its session. -/
theorem Session.isSound
    {start host : Host}
    (session : Session start host)
    (fresh : start.IsFresh) : host.IsSound := by
  induction session with
  | refl => exact fresh.isSound
  | tail _ step inductionHypothesis => exact inductionHypothesis.step step

/-- At every moment of a session, whatever failed before, each reference leads
to a registered node with a smaller number, every served shader is a node, and
the analysis of every node finds a chain. -/
theorem session_finds_every_chain
    {start host : Host}
    (fresh : start.IsFresh)
    (session : Session start host) :
    (∀ source target, host.graph.Refers source target ->
      ∃ high low, source = Graph.nodeName high ∧ target = Graph.nodeName low ∧ low < high ∧
        host.graph.has target = true) ∧
    (∀ id, host.served.has id = true -> host.graph.has id = true) ∧
    ∀ output, host.graph.has output = true ->
      ∃ chain, (host.graph.analyze output).1 = .ok chain := by
  have sound := session.isSound fresh
  exact ⟨sound.descends, sound.served, fun _ registered => sound.descends.exists_chain registered⟩

/-- A host after a request failed in a way that leaves its node behind, and
another one that refers to that node did so, too. -/
def littered : Host :=
  (Action.create "max" "$shader_1, 0.5").final
    ((Action.create "sin" "1 % 0").final ((Action.boot none false).final {}))

theorem littered_finds_every_chain :
    IsFresh ((Action.boot none false).final {}) ∧
      Session ((Action.boot none false).final {}) littered ∧
      littered.graph.Refers "shader_2" "shader_1" ∧
      ∃ chain, (littered.graph.analyze "shader_2").1 = .ok chain := by
  have fresh : IsFresh ((Action.boot none false).final {}) := ⟨_, _, _, none, false, rfl⟩
  have session : Session ((Action.boot none false).final {}) littered := by
    rw [littered]
    exact Relation.ReflTransGen.refl
      |>.tail (.create _ "sin" "1 % 0")
      |>.tail (.create _ "max" "$shader_1, 0.5")
  have found := session_finds_every_chain fresh session
  have evaluated : littered.graph.has "shader_2" = true ∧
      (littered.graph.find? "shader_2").any (·.references.contains "shader_1") = true := by
    decide +kernel
  obtain ⟨registered, mentions⟩ := evaluated
  obtain ⟨node, known, present⟩ := (Option.any_eq_true _ _).mp mentions
  exact ⟨fresh, session, ⟨node, known, List.contains_iff_mem.mp present⟩,
    found.2.2 "shader_2" registered⟩

end Host
end ShaderGraph
