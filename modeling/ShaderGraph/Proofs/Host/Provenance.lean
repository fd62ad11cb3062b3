import ShaderGraph.Proofs.Host.Serving
import ShaderGraph.Proofs.Text.Bytes

/-!
# Where cached shaders come from

A shader is cached by the request that made it, when the plugins were those that its
text was taken from. A frame that loads a plugin again leaves nothing in the caches.
So since a cached shader was made plugins were dropped only: those of changed files
that a frame found and could not load.
-/

namespace ShaderGraph

namespace Host

/-! ## What the caches retain -/

/-- No artifact is dropped, and only artifacts that are new get into the caches. -/
structure Retains (host changed : Host) : Prop where
  sources : Action.KeepsSources host changed
  slots : ∀ id ∈ changed.slots, id ∈ host.slots ∨ host.artifacts.length ≤ id

/-- What is stocked stays so, and the caches are retained. -/
def KeepsStock (host changed : Host) : Prop :=
  host.IsStocked -> changed.IsStocked ∧ host.Retains changed

theorem Retains.refl (host : Host) : host.Retains host :=
  ⟨List.prefix_rfl, fun _ listed => .inl listed⟩

theorem Retains.trans
    {first second third : Host}
    (left : first.Retains second)
    (right : second.Retains third) : first.Retains third where
  sources := left.sources.trans right.sources
  slots := by
    intro id listed
    rcases right.slots id listed with before | new
    · exact left.slots id before
    · exact .inr (Nat.le_trans left.sources.length_le new)

instance : IsPreorder Host KeepsStock where
  refl host stocked := ⟨stocked, .refl host⟩
  trans _ _ _ left right stocked :=
    have ⟨middle, retains⟩ := left stocked
    have ⟨last, others⟩ := right middle
    ⟨last, retains.trans others⟩

/-- Where an artifact is made, the caches retain theirs. -/
theorem Retains.of_produces
    {host changed : Host}
    (produces : Produces host changed) : host.Retains changed := by
  have sources (keeps : KeepsArtifacts host changed) : Action.KeepsSources host changed := by
    refine List.IsPrefix.map _ (List.prefix_iff_getElem?.mpr fun id before => ?_)
    exact (keeps.kept id before).trans (List.getElem?_eq_getElem before)
  cases produces with
  | useless keeps slots none => exact ⟨sources keeps, fun id listed => .inl (slots ▸ listed)⟩
  | stored keeps slots ready none =>
      refine ⟨sources keeps, fun id listed => ?_⟩
      rcases List.mem_cons.mp (slots.mem_iff.mp listed) with rfl | before
      · exact .inr (Nat.le_refl _)
      · exact .inl before

/-- Where an artifact is made, the stock is kept. -/
theorem keepsStock_of_produces
    {host changed : Host}
    (produces : host.IsStocked -> Produces host changed) : host.KeepsStock changed :=
  fun stocked => ⟨stocked.produces (produces stocked), .of_produces (produces stocked)⟩

/-- Where the stock is the same, it is kept. -/
theorem keepsStock_of_stock
    {host changed : Host}
    (same : changed.stock = host.stock) : host.KeepsStock changed :=
  keepsStock_of_produces fun _ => .of_stock same

/-- Disconnecting an artifact leaves the caches. -/
theorem slots_disconnected (host : Host) : host.disconnected.slots = host.slots := by
  unfold Host.disconnected
  split <;> rfl

theorem registry_disconnected (host : Host) : host.disconnected.registry = host.registry := by
  unfold Host.disconnected
  split <;> rfl

theorem registry_without (host : Host) (names : List String) :
    (host.without names).registry = host.registry := by
  unfold Host.without
  dsimp only
  split
  · exact host.registry_disconnected
  · rfl

/-- Leaving out nodes leaves the caches. -/
theorem slots_without (host : Host) (names : List String) :
    (host.without names).slots = host.slots := by
  unfold Host.without Host.disconnected
  dsimp only
  split
  · split <;> rfl
  · rfl

end Host

namespace Action

open Host

/-- A call keeps the stock. -/
theorem keepsStock_createShader (name : String) (texts : List String) :
    (createShader name texts).Respects KeepsStock :=
  fun _ => keepsStock_of_produces fun stocked => createShader_produces stocked name texts

/-- A compilation of a graph keeps the stock. -/
theorem keepsStock_compileGraph (output : String) : (compileGraph output).Respects KeepsStock :=
  fun _ => keepsStock_of_produces fun stocked => compileGraph_produces stocked output

theorem keepsStock_create (name raw : String) : (create name raw).Respects KeepsStock :=
  respects_create (fun _ _ => keepsStock_of_stock) keepsStock_createShader
    keepsStock_compileGraph name raw

theorem keepsStock_createShaderAs (id name : String) (texts : List String) :
    (createShaderAs id name texts).Respects KeepsStock := by
  refine (keepsStock_createShader name texts).bind fun artifact => respects_get.bind fun host => ?_
  split
  · refine Respects.bind (respects_modify fun _ => ?_) fun _ => respects_pure artifact
    exact keepsStock_of_stock rfl
  · exact respects_pure artifact

/-- Connecting an artifact keeps the stock. -/
theorem keepsStock_connect (id : String) : (connect id).Respects KeepsStock := by
  intro host stocked
  refine ⟨stocked.connect id, ?_⟩
  have retains : (connect id).Meets host fun _ changed => host.Retains changed := by
    refine (connects id host).imp fun _ changed effect => ?_
    cases effect with
    | refused => exact .refl host
    | accepted served ready =>
        refine ⟨?_, fun other listed => .inl ?_⟩
        · exact (keepsSources_disconnected host).trans
            (keepsSources_of_modify Artifact.uncompiled_connect rfl)
        · exact host.slots_disconnected ▸ listed
  exact retains

/-- Freeing a node keeps the stock. -/
theorem keepsStock_free (id : String) : (free id).Respects KeepsStock := by
  intro host stocked
  refine ⟨stocked.free id, ?_⟩
  rcases free_effect id host with same | frees
  · rw [same]
    exact .refl host
  · obtain ⟨freed, without, _⟩ := frees.exists_cascade
    rw [without]
    refine ⟨?_, fun other listed => .inl (host.slots_without freed ▸ listed)⟩
    unfold Host.without
    dsimp only
    split
    · exact keepsSources_disconnected host
    · exact List.prefix_rfl

/-- Clearing the calls keeps the stock. -/
theorem keepsStock_clearCalls : clearCalls.Respects KeepsStock := by
  intro host stocked
  obtain ⟨_, changedStocked, cleared, same⟩ := clearCalls_stays_stocked stocked
  refine ⟨changedStocked, keepsSources_clearCalls host, fun id listed => .inl ?_⟩
  rw [slots, cleared, same] at listed
  exact List.mem_append_right _ listed

theorem keepsStock_clearGraphs : clearGraphs.Respects KeepsStock := by
  intro host stocked
  obtain ⟨_, changedStocked, same, cleared⟩ := clearGraphs_stays_stocked stocked
  refine ⟨changedStocked, keepsSources_clearGraphs host, fun id listed => .inl ?_⟩
  rw [slots, cleared, same] at listed
  exact List.mem_append_left _ ((List.mem_append.mp listed).resolve_right List.not_mem_nil)

/-- Registering a node keeps the stock. -/
theorem keepsStock_registerNode (name : String) (arguments : List String) :
    (registerNode name arguments).Respects KeepsStock := by
  intro host
  rcases registerNode_effect name arguments host with ⟨_, same⟩ | ⟨_, same⟩
  · rw [same]
    exact refl_of KeepsStock host
  · rw [same]
    exact keepsStock_of_stock rfl

/-- Resolving a node changes the graph and nothing else. -/
theorem final_resolveNode (name : String) (host : Host) :
    (resolveNode name).final host = { host with graph := (host.graph.resolve name).2 } := by
  have meets : (resolveNode name).Meets host fun _ changed =>
      changed = { host with graph := (host.graph.resolve name).2 } := by
    rw [resolveNode, meets_get_bind, meets_modify_bind]
    cases (host.graph.resolve name).1 <;> rfl
  exact meets

theorem keepsStock_resolveNode (name : String) : (resolveNode name).Respects KeepsStock := by
  intro host
  rw [final_resolveNode]
  exact keepsStock_of_stock rfl

/-! ## What keeps the plugins -/

/-- Work on artifacts leaves the registry. -/
theorem Works.registry_eq {host changed : Host} (works : Works host changed) :
    changed.registry = host.registry := by
  rw [works.others]

/-- Forgetting leaves the registry. -/
theorem Forgets.registry_eq {host changed : Host} (forgets : Forgets host changed) :
    changed.registry = host.registry := by
  rw [forgets]

/-- Creating a shader registers no plugin and drops none. -/
theorem registry_create (name raw : String) :
    (create name raw).Respects (Unchanged Host.registry) := by
  intro host
  have creates : (create name raw).Meets host fun _ changed =>
      changed.registry = host.registry := by
    refine (create_effect name raw host).imp fun _ changed effect => ?_
    cases effect with
    | refused => rfl
    | withdrawn works => exact works.registry_eq
    | raised works grounded => exact works.registry_eq
    | created works same grounded =>
        rw [same]
        exact works.registry_eq
  exact creates

theorem registry_connect (id : String) :
    (connect id).Respects (Unchanged Host.registry) := by
  intro host
  have connected : (connect id).Meets host fun _ changed =>
      changed.registry = host.registry := by
    refine (connects id host).imp fun _ changed effect => ?_
    cases effect with
    | refused => rfl
    | accepted served ready => exact host.registry_disconnected
  exact connected

/-- Freeing a node registers no plugin and drops none. -/
theorem registry_free (id : String) : (free id).Respects (Unchanged Host.registry) := by
  intro host
  rcases free_effect id host with same | frees
  · rw [same]
    rfl
  · obtain ⟨freed, without, _⟩ := frees.exists_cascade
    rw [without]
    exact host.registry_without freed

theorem registry_createShaderAs (id name : String) (texts : List String) :
    (createShaderAs id name texts).Respects (Unchanged Host.registry) := by
  intro host
  obtain ⟨worked, works, ⟨final, _⟩ | ⟨_, _, _, final⟩⟩ := createShaderAs_effect id name texts host
  · rw [final]
    exact works.registry_eq
  · rw [final]
    exact works.registry_eq

/-- Registering a node registers no plugin and drops none. -/
theorem registry_registerNode (name : String) (arguments : List String) :
    (registerNode name arguments).Respects (Unchanged Host.registry) := by
  intro host
  rcases registerNode_effect name arguments host with ⟨_, same⟩ | ⟨_, same⟩
  · rw [same]
    rfl
  · rw [same]
    rfl

theorem registry_resolveNode (name : String) :
    (resolveNode name).Respects (Unchanged Host.registry) := by
  intro host
  rw [final_resolveNode]
  rfl

end Action

namespace Host

/-! ## Requests -/

/-- A request to a host, to the shaders of calls, or to the graph. -/
inductive Request
  | create (name raw : String)
  | connect (id : String)
  | free (id : String)
  | createShader (name : String) (texts : List String)
  | createShaderAs (id name : String) (texts : List String)
  | removeActive (id : String)
  | clearCalls
  | registerNode (name : String) (arguments : List String)
  | removeNode (name : String)
  | resolveNode (name : String)
  | analyzeGraph (output : String)
  | compileGraph (output : String)
  | clearGraphs
  | clearNodes

/-- The state that a request leaves, whether it fails or not. -/
def Request.perform (host : Host) : Request -> Host
  | create name raw => (Action.create name raw).final host
  | connect id => (Action.connect id).final host
  | free id => (Action.free id).final host
  | createShader name texts => (Action.createShader name texts).final host
  | createShaderAs id name texts => (Action.createShaderAs id name texts).final host
  | removeActive id => (Action.removeActive id).final host
  | clearCalls => Action.clearCalls.final host
  | registerNode name arguments => (Action.registerNode name arguments).final host
  | removeNode name => (Action.removeNode name).final host
  | resolveNode name => (Action.resolveNode name).final host
  | analyzeGraph output => (Action.analyzeGraph output).final host
  | compileGraph output => (Action.compileGraph output).final host
  | clearGraphs => Action.clearGraphs.final host
  | clearNodes => Action.clearNodes.final host

/-- Every request keeps the stock. -/
theorem Request.keepsStock (request : Request) (host : Host) :
    host.KeepsStock (request.perform host) := by
  cases request with
  | create name raw => exact Action.keepsStock_create name raw host
  | connect id => exact Action.keepsStock_connect id host
  | free id => exact Action.keepsStock_free id host
  | createShader name texts => exact Action.keepsStock_createShader name texts host
  | createShaderAs id name texts => exact Action.keepsStock_createShaderAs id name texts host
  | removeActive id => exact keepsStock_of_stock rfl
  | clearCalls => exact Action.keepsStock_clearCalls host
  | registerNode name arguments => exact Action.keepsStock_registerNode name arguments host
  | removeNode name => exact keepsStock_of_stock rfl
  | resolveNode name => exact Action.keepsStock_resolveNode name host
  | analyzeGraph output => exact keepsStock_of_stock rfl
  | compileGraph output => exact Action.keepsStock_compileGraph output host
  | clearGraphs => exact Action.keepsStock_clearGraphs host
  | clearNodes =>
      have forgotten : host.KeepsStock { host with graph := host.graph.clear } :=
        keepsStock_of_stock rfl
      exact trans_of KeepsStock forgotten (Action.keepsStock_clearGraphs _)

/-- A request keeps the plugins. -/
theorem Request.registry_perform (request : Request) (host : Host) :
    (request.perform host).registry = host.registry := by
  cases request with
  | create name raw => exact Action.registry_create name raw host
  | connect id => exact Action.registry_connect id host
  | free id => exact Action.registry_free id host
  | createShader name texts => exact (Action.respects_createShader name texts host).registry_eq
  | createShaderAs id name texts => exact Action.registry_createShaderAs id name texts host
  | removeActive id => rfl
  | clearCalls => exact (Action.forgets_clearCalls host).registry_eq
  | registerNode name arguments => exact Action.registry_registerNode name arguments host
  | removeNode name => rfl
  | resolveNode name => exact Action.registry_resolveNode name host
  | analyzeGraph output => rfl
  | compileGraph output => exact (Action.respects_compileGraph output host).registry_eq
  | clearGraphs => exact (Action.forgets_clearGraphs host).registry_eq
  | clearNodes =>
      exact (Action.forgets_clearGraphs { host with graph := host.graph.clear }).registry_eq

/-! ## Steps that load no plugin again -/

/-- One request, one frame that loads no plugin again, or a change of what is outside
of a host, with the aliases of the plugins that the frame drops. -/
inductive QuietStep : Host -> List String -> Host -> Prop
  | request (host : Host) (request : Request) : QuietStep host [] (request.perform host)
  | frame
      {host : Host}
      (none : Action.poll.result host = .ok 0)
      (elapsed width height : Float) :
      QuietStep host host.dropping ((Action.tick elapsed width height).final host)
  | outside
      (host : Host)
      (files : FileTree)
      (graphics : Graphics)
      (watcher : Option Watcher)
      (isVerbose : Bool) :
      QuietStep host [] { host with files, graphics, watcher, isVerbose }

/-- Any number of such steps, with the aliases of the plugins that were dropped. -/
inductive QuietRun : Host -> List String -> Host -> Prop
  | refl (host : Host) : QuietRun host [] host
  | tail
      {since host changed : Host}
      {lost dropped : List String}
      (run : QuietRun since lost host)
      (step : QuietStep host dropped changed) : QuietRun since (lost ++ dropped) changed

/-- One request or frame of a host in service, or a change of what is outside of it. -/
inductive ServiceStep : Host -> Host -> Prop
  | quiet {host changed : Host} {dropped : List String} (step : QuietStep host dropped changed) :
      ServiceStep host changed
  | frame (host : Host) (elapsed width height : Float) :
      ServiceStep host ((Action.tick elapsed width height).final host)

/-- Any number of requests and frames of a host in service. -/
def Service : Host -> Host -> Prop :=
  Relation.ReflTransGen ServiceStep

/-- A frame that loads no plugin again keeps everything but the artifacts, the
watcher, and the plugins of the changed files. -/
theorem quietFrame_effect
    {host : Host}
    (none : Action.poll.result host = .ok 0)
    (elapsed width height : Float) :
    ((Action.tick elapsed width height).final host).slots = host.slots ∧
      ((Action.tick elapsed width height).final host).registry.registrations =
        host.registry.registrations.without host.dropping := by
  obtain ⟨count, result, quiet⟩ := Action.poll_effect host
  obtain ⟨registry, watcher, final, registrations⟩ :=
    quiet (Except.ok.inj (result.symm.trans none))
  have refreshes : (Action.refreshOutput elapsed width height).Respects fun before changed =>
      changed.slots = before.slots ∧ changed.registry = before.registry := by
    intro before
    have meets : (Action.refreshOutput elapsed width height).Meets before fun _ changed =>
        changed.slots = before.slots ∧ changed.registry = before.registry := by
      rw [Action.refreshOutput, Action.meets_get_bind]
      split
      · exact ⟨rfl, rfl⟩
      · refine (Action.changeArtifact_pure_effect _ _ before).imp ?_
        rintro _ _ ⟨_, rfl⟩
        exact ⟨rfl, rfl⟩
    exact meets
  rw [Action.tick, Action.final_bind, none, final]
  obtain ⟨slots, registryKept⟩ := refreshes { host with registry, watcher }
  exact ⟨slots, (congrArg Registry.registrations registryKept).trans registrations⟩

/-- A quiet step drops registrations and adds none. -/
theorem QuietStep.registrations
    {host changed : Host}
    {dropped : List String}
    (step : QuietStep host dropped changed) :
    changed.registry.registrations = host.registry.registrations.without dropped := by
  cases step with
  | request request => rw [request.registry_perform, Table.without_nil]
  | frame none elapsed width height => exact (quietFrame_effect none elapsed width height).2
  | outside => exact (Table.without_nil _).symm

theorem QuietStep.keepsStock
    {host changed : Host}
    {dropped : List String}
    (step : QuietStep host dropped changed) : host.KeepsStock changed := by
  cases step with
  | request request => exact request.keepsStock host
  | frame none elapsed width height =>
      intro stocked
      refine ⟨Action.maintains_tick_stocked elapsed width height host stocked,
        Action.keepsSources_tick elapsed width height host, fun id listed => .inl ?_⟩
      exact (quietFrame_effect none elapsed width height).1 ▸ listed
  | outside => exact keepsStock_of_stock rfl

/-- Throughout a quiet run registrations are dropped and none is added. -/
theorem QuietRun.registrations
    {since host : Host}
    {lost : List String}
    (run : QuietRun since lost host) :
    host.registry.registrations = since.registry.registrations.without lost := by
  induction run with
  | refl => exact (Table.without_nil _).symm
  | tail _ step inductionHypothesis =>
      rw [step.registrations, inductionHypothesis, Table.without_without]

/-- Throughout a quiet run the stock is kept. -/
theorem QuietRun.keepsStock
    {since host : Host}
    {lost : List String}
    (run : QuietRun since lost host) : since.KeepsStock host := by
  induction run with
  | refl => exact refl_of KeepsStock _
  | tail _ step inductionHypothesis =>
      exact trans_of KeepsStock inductionHypothesis step.keepsStock

theorem ServiceStep.isStocked
    {host changed : Host}
    (step : ServiceStep host changed)
    (stocked : host.IsStocked) : changed.IsStocked := by
  cases step with
  | quiet step => exact (step.keepsStock stocked).1
  | frame elapsed width height =>
      exact Action.maintains_tick_stocked elapsed width height host stocked

/-- A host that starts fresh stays stocked throughout its service. -/
theorem Service.isStocked
    {start host : Host}
    (service : Service start host)
    (fresh : start.IsFresh) : host.IsStocked := by
  induction service with
  | refl => exact fresh.isStocked
  | tail _ step inductionHypothesis => exact step.isStocked inductionHypothesis

/-! ## The origin of a cached shader -/

/-- A request made an artifact that was cached, and no plugin was loaded again since
then, but those with the given aliases were dropped. -/
structure ComesFrom
    (origin : Host)
    (request : Request)
    (lost : List String)
    (host : Host)
    (id : ArtifactId) : Prop where
  new : origin.artifacts.length ≤ id
  cached : id ∈ (request.perform origin).slots
  since : QuietRun (request.perform origin) lost host

/-- What a quiet step brings into the caches comes of a request. -/
theorem QuietStep.origins
    {host changed : Host}
    {dropped : List String}
    (step : QuietStep host dropped changed)
    (stocked : host.IsStocked) :
    ∀ id ∈ changed.slots, id ∈ host.slots ∨ ∃ request, ComesFrom host request [] changed id := by
  intro id listed
  have retains := (step.keepsStock stocked).2
  cases step with
  | request request =>
      exact (retains.slots id listed).imp_right fun new => ⟨request, new, listed, .refl _⟩
  | frame none elapsed width height =>
      exact .inl ((quietFrame_effect none elapsed width height).1 ▸ listed)
  | outside => exact .inl listed

/-- Nothing is in the caches of a fresh host. -/
theorem IsFresh.slots_eq_nil {host : Host} (fresh : host.IsFresh) : host.slots = [] := by
  obtain ⟨files, access, graphics, directory, watches, rfl⟩ := fresh
  have boots : (Action.boot directory watches).Respects (Action.Unchanged Host.slots) :=
    Action.respects_boot (fun _ _ _ => rfl) directory watches
  exact boots { files, access, graphics }

/-- Every cached shader was made by a request of the service since which no plugin was
loaded again. -/
theorem Service.exists_origin
    {start host : Host}
    (service : Service start host)
    (fresh : start.IsFresh) :
    ∀ id ∈ host.slots, ∃ origin request lost,
      Service start origin ∧ ComesFrom origin request lost host id := by
  induction service with
  | refl =>
      intro id listed
      rw [fresh.slots_eq_nil] at listed
      cases listed
  | @tail host changed service step inductionHypothesis =>
      intro id listed
      have stocked := Service.isStocked service fresh
      have quietly {dropped : List String} (quiet : QuietStep host dropped changed) :
          ∃ origin request lost, Service start origin ∧
            ComesFrom origin request lost changed id := by
        rcases quiet.origins stocked id listed with before | ⟨request, comes⟩
        · obtain ⟨origin, request, lost, reached, comes⟩ := inductionHypothesis id before
          exact ⟨origin, request, _, reached, comes.new, comes.cached, comes.since.tail quiet⟩
        · exact ⟨host, request, [], service, comes⟩
      cases step with
      | quiet quiet => exact quietly quiet
      | frame elapsed width height =>
          obtain ⟨count, result, _⟩ := Action.poll_effect host
          cases count with
          | zero => exact quietly (.frame result elapsed width height)
          | succ count =>
              have emptied := Action.tick_empties stocked result elapsed width height
              rw [slots, emptied.calls, emptied.graphs] at listed
              cases listed

/-- At every moment of a service each cached shader is ready and has the text that was
generated for it by a request. The plugins are those of the moment of that request,
without those whose changed files were found since then and could not be loaded. -/
theorem service_caches_since
    {start host : Host}
    (fresh : start.IsFresh)
    (service : Service start host) :
    ∀ id ∈ host.slots, host.isReady id = true ∧
      ∃ origin request lost, Service start origin ∧ ComesFrom origin request lost host id ∧
        (host.artifact? id).map Artifact.uncompiled =
          ((request.perform origin).artifact? id).map Artifact.uncompiled ∧
        host.registry.registrations = origin.registry.registrations.without lost := by
  intro id listed
  refine ⟨(service.isStocked fresh).ready id listed, ?_⟩
  obtain ⟨origin, request, lost, reached, comes⟩ := service.exists_origin fresh id listed
  have made := (request.keepsStock origin (reached.isStocked fresh)).1
  have kept := (comes.since.keepsStock made).2.sources
  refine ⟨origin, request, lost, reached, comes, ?_, ?_⟩
  · have before : id < ((request.perform origin).artifacts.map Artifact.uncompiled).length := by
      rw [List.length_map]
      exact lt_length_of_hasProgram (hasProgram_of_isReady (made.ready id comes.cached))
    rw [artifact?, artifact?, ← List.getElem?_map, ← List.getElem?_map,
      List.prefix_iff_getElem?.mp kept id before, List.getElem?_eq_getElem before]
  · rw [comes.since.registrations, request.registry_perform]

/-- A root with one plugin. -/
def wavesRoot : FileTree where
  entries := [
    (["plugins"], .directory),
    (["plugins", "waves"], .directory),
    (["plugins", "waves", "waves_plugin.py"], .module (moduleOf "waves" [
      ⟨"wave", "wave.glsl", "math", [⟨"float", ["float"]⟩]⟩])),
    (["plugins", "waves", "wave.glsl"], .text "float wave(float x) { return x; }")]

/-- A host that watches this root. -/
def watching : Host :=
  (Action.boot (some "plugins") true).final { files := wavesRoot }

/-- The same host with a cached shader, after a change of the module that makes it one
of another version. -/
def beforeFailure : Host :=
  { (Action.createShader "wave" ["time"]).final watching with
    files := wavesRoot.write "plugins/waves/waves_plugin.py"
      (.module { version := .returns (.integer 2) })
    watcher := some { root := "plugins", pending := ["plugins/waves/waves_plugin.py"] } }

/-- The same host after a frame, which cannot load the plugin again. -/
def bereft : Host :=
  (Action.tick 0.0 1.0 1.0).final beforeFailure

theorem service_bereft : Service watching bereft := by
  have created : Service watching ((Action.createShader "wave" ["time"]).final watching) :=
    .single (.quiet (.request _ (.createShader "wave" ["time"])))
  have changed : Service watching beforeFailure :=
    created.tail (.quiet (.outside _ _ _ _ _))
  exact changed.tail (.frame _ 0.0 1.0 1.0)

private theorem bereft_serves :
    bereft.slots = [0] ∧ bereft.calls.cache.contents = [0] ∧
      bereft.registry.registrations.isEmpty = true ∧ bereft.isReady 0 = true ∧
      (bereft.artifact? 0).map Artifact.function = some "wave" ∧
      (Action.createShader "wave" ["time"]).result bereft = .ok 0 := by
  unfold bereft beforeFailure Action.createShader Action.makeShader Action.compileCall
    Action.compileArtifact Action.compileStages Graphics.compile Graphics.build Graphics.link
    Include.resolve
  rw [Text.toList_eq_fromBytes, Text.ofList_eq_toBytes]
  decide +kernel

theorem bereft_caches_since :
    IsFresh watching ∧ Service watching bereft ∧ 0 ∈ bereft.slots ∧
      ∃ origin request lost, Service watching origin ∧ ComesFrom origin request lost bereft 0 ∧
        origin.registry.registrations.without lost = [] := by
  have fresh : IsFresh watching := ⟨_, _, _, some "plugins", true, rfl⟩
  obtain ⟨slots, _, unloaded, _⟩ := bereft_serves
  have listed : 0 ∈ bereft.slots := slots ▸ List.mem_singleton_self 0
  obtain ⟨_, origin, request, lost, reached, comes, _, registrations⟩ :=
    service_caches_since fresh service_bereft 0 listed
  refine ⟨fresh, service_bereft, listed, origin, request, lost, reached, comes, ?_⟩
  rw [← registrations, List.isEmpty_iff.mp unloaded]

/-- A shader can be served from the cache although the plugin with its function was
unloaded since it was made. -/
theorem bereft_serves_unloaded :
    ((Action.createShader "wave" ["time"]).result bereft = .ok 0 ∧ bereft.isReady 0 = true) ∧
    ¬(∀ start host, IsFresh start -> Service start host ->
      ∀ id ∈ host.calls.cache.contents, ∀ artifact, host.artifact? id = some artifact ->
        (host.registry.catalogue.owner? artifact.function).isSome = true) := by
  obtain ⟨_, cached, unloaded, ready, made, serves⟩ := bereft_serves
  refine ⟨⟨serves, ready⟩, fun provided => ?_⟩
  obtain ⟨artifact, found, _⟩ := Option.map_eq_some_iff.mp made
  have loaded := provided _ _ ⟨_, _, _, some "plugins", true, rfl⟩ service_bereft 0
    (cached ▸ List.mem_singleton_self 0) artifact found
  rw [Registry.catalogue, List.isEmpty_iff.mp unloaded] at loaded
  cases loaded

end Host
end ShaderGraph
