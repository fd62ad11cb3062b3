import ShaderGraph.Host.Commands
import ShaderGraph.Proofs.Graph.Descent
import ShaderGraph.Proofs.Host.CallWork
import ShaderGraph.Proofs.Host.GraphWork

/-!
# Requests for shaders

A request registers its call before it makes the shader. If it is declined
afterwards, the node is removed again; but a failure that passes through the
request leaves the node behind. The nodes that stay refer to nodes that were
there before, because a shader is only made once the chain of its node was found.
-/

namespace ShaderGraph

namespace Action

/-! ## References -/

/-- The name of a node starts with the stem of names. -/
theorem stem_prefix_of_nodeName?
    {text : List Char}
    {name : String}
    (found : Reference.nodeName? text = some name) : Reference.stem <+: text := by
  unfold Reference.nodeName? at found
  dsimp only at found
  split at found
  case isTrue named =>
    have stem := (Bool.and_eq_true_iff.mp named).1
    exact (List.isPrefixOf_iff_prefix.mp stem).trans (List.takeWhile_prefix _)
  case isFalse => cases found

/-- A text that mentions no node refers to none. -/
theorem scan_eq_nil_of_mentionsNode
    {text : List Char}
    (silent : mentionsNode text = false) : Reference.scan text = [] := by
  induction text with
  | nil => rfl
  | cons first rest inductionHypothesis =>
      obtain ⟨here, later⟩ := Bool.or_eq_false_iff.mp silent
      have none : (if first == '$' then Reference.nodeName? rest else none) = none := by
        by_contra some
        obtain ⟨name, found⟩ := Option.ne_none_iff_exists'.mp some
        split at found
        case isTrue dollar =>
          have stem := List.isPrefixOf_iff_prefix.mpr (stem_prefix_of_nodeName? found)
          rw [dollar, stem] at here
          cases here
        case isFalse => cases found
      rw [Reference.scan, none]
      exact inductionHypothesis later

/-! ## The work on shaders -/

/-- Only the artifacts, the graphics, the caches and the records of inputs differ. -/
structure Works (host changed : Host) : Prop where
  others : changed =
    { host with
      artifacts := changed.artifacts
      graphics := changed.graphics
      graph := changed.graph
      graphCache := changed.graphCache
      calls := { host.calls with cache := changed.calls.cache } }
  calls : Graph.SameCalls host.graph changed.graph
  registered : changed.graph.registered = host.graph.registered

instance : IsPreorder Host Works where
  refl _ := ⟨rfl, .refl _, rfl⟩
  trans _ _ _ left right :=
    ⟨by rw [right.others, left.others], left.calls.trans right.calls,
      right.registered.trans left.registered⟩

/-- A change of artifacts is work on them. -/
theorem OnlyArtifacts.works {host changed : Host} (only : OnlyArtifacts host changed) :
    Works host changed := by
  rw [only.others]
  exact ⟨rfl, .refl _, rfl⟩

/-- An analysis of a graph only works on it. -/
theorem respects_analyzeGraph (output : String) : (analyzeGraph output).Respects Works := by
  intro host
  obtain ⟨calls, registered⟩ := host.graph.analyze_keeps output
  exact ⟨rfl, calls, registered⟩

theorem respects_addArtifact (artifact : Artifact) : (addArtifact artifact).Respects Works :=
  fun host => (addArtifact_effect artifact host).2.1.onlyArtifacts.works

theorem respects_compileChain
    (output key : String)
    (chain : List String)
    (shader : Shader) : (compileChain output key chain shader).Respects Works := by
  refine respects_get.bind fun host => (respects_of_final_eq fun _ => rfl).bind fun nodes => ?_
  refine (respects_addArtifact _).bind fun id => ?_
  refine ((respects_compileArtifact id).imp fun _ _ only => only.works).bind fun compiled => ?_
  split
  · refine ((respects_setRefreshing id _).imp fun _ _ only => only.works).bind fun _ => ?_
    refine (respects_modify fun host => ⟨rfl, .refl _, rfl⟩).bind fun _ => ?_
    exact (respects_liftTraced _).bind fun _ => respects_pure _
  · exact (respects_liftTraced _).bind fun _ => respects_pure _

/-- What an analysis and the compilation of its chain respect, the whole compilation of an
output respects. -/
theorem respects_compileGraph_of
    {relation : Host -> Host -> Prop}
    [IsPreorder Host relation]
    {output : String}
    (analyzes : (analyzeGraph output).Respects relation)
    (compiles : ∀ key chain shader, (compileChain output key chain shader).Respects relation) :
    (compileGraph output).Respects relation := by
  have makes (key : String) (chain : List String) :
      (makeGraph output key chain).Respects relation := by
    refine respects_get.bind fun host => (respects_settle _).bind fun outcome => ?_
    cases outcome with
    | error failure => exact (respects_liftTraced _).bind fun _ => respects_pure _
    | ok shader =>
        dsimp only
        split
        · exact (respects_liftTraced _).bind fun _ => compiles key chain shader
        · exact compiles key chain shader
  refine analyzes.bind fun outcome => ?_
  cases outcome with
  | error failure =>
      dsimp only
      split
      · exact (respects_liftTraced _).bind fun _ => respects_pure _
      · exact respects_of_final_eq fun _ => rfl
  | ok chain =>
      refine respects_get.bind fun host => (respects_of_final_eq fun _ => rfl).bind fun key => ?_
      split
      · exact (respects_liftTraced _).bind fun _ => respects_pure _
      · exact makes key chain

/-- A compilation of a graph only works on artifacts. -/
theorem respects_compileGraph (output : String) : (compileGraph output).Respects Works :=
  respects_compileGraph_of (respects_analyzeGraph output) (respects_compileChain output)

/-- A call only works on artifacts. -/
theorem respects_createShader (name : String) (texts : List String) :
    (createShader name texts).Respects Works := by
  intro host
  rcases createShader_effect name texts host with declines | ⟨_, finds | ⟨_, stores⟩⟩
  · exact declines.only.onlyArtifacts.works
  · rw [finds.same]
    exact refl_of Works host
  · rw [stores.others]
    exact ⟨rfl, .refl _, rfl⟩

/-- A shader of a call becomes active only if it is ready and returned. -/
theorem createShaderAs_effect (id name : String) (texts : List String) (host : Host) :
    (createShaderAs id name texts).Meets host fun outcome changed =>
      ∃ worked, Works host worked ∧
        ((changed = worked ∧
            ∀ artifact, outcome = .ok artifact -> worked.isReady artifact = false) ∨
          ∃ artifact, outcome = .ok artifact ∧ worked.isReady artifact = true ∧
            changed =
              { worked with
                calls := { worked.calls with
                  active := worked.calls.active.set id artifact } }) := by
  rw [createShaderAs]
  refine (respects_createShader name texts).meets_bind ?_ ?_
  · exact fun failure worked works => ⟨worked, works, .inl ⟨rfl, by simp⟩⟩
  · intro artifact worked works
    rw [meets_get_bind]
    split
    case isTrue ready => exact ⟨worked, works, .inr ⟨artifact, rfl, ready, rfl⟩⟩
    case isFalse notReady =>
      refine ⟨worked, works, .inl ⟨rfl, fun other same => ?_⟩⟩
      cases same
      simpa using notReady

/-! ## Serving a registered call -/

/-- The arguments of a registered call refer to no node, or its chain is found. -/
def IsGrounded (graph : Graph) (node : String) (arguments : List String) : Prop :=
  arguments.flatMap Reference.inText = [] ∨ ∃ chain, (graph.analyze node).1 = .ok chain

/-- What comes of serving a registered call: a failure that passes through, no
ready shader, or a ready one, which may have become active. The references of the
call were found unless there is no ready shader. -/
inductive Serves (node : String) (arguments : List String) (host : Host) :
    Except Failure (Option ArtifactId × String) -> Host -> Prop
  | raised
      {failure : Failure}
      {changed : Host}
      (works : Works host changed)
      (grounded : IsGrounded host.graph node arguments) :
      Serves node arguments host (.error failure) changed
  | declined
      {artifact : Option ArtifactId}
      {reason : String}
      {changed : Host}
      (works : Works host changed)
      (notReady : artifact.filter changed.isReady = none) :
      Serves node arguments host (.ok (artifact, reason)) changed
  | served
      {id : ArtifactId}
      {reason : String}
      {worked changed : Host}
      {active : Table ArtifactId}
      (works : Works host worked)
      (same : changed = { worked with calls := { worked.calls with active } })
      (ready : changed.isReady id = true)
      (grounded : IsGrounded host.graph node arguments) :
      Serves node arguments host (.ok (some id, reason)) changed

/-- Where a call was worked on without a ready shader, or its references were found, it is
served. -/
theorem Serves.of_works
    {node reason : String}
    {arguments : List String}
    {artifact : Option ArtifactId}
    {host changed : Host}
    (works : Works host changed)
    (grounded : artifact = none ∨ IsGrounded host.graph node arguments) :
    Serves node arguments host (.ok (artifact, reason)) changed := by
  cases ready : artifact.filter changed.isReady with
  | none => exact .declined works ready
  | some id =>
      obtain ⟨rfl, isReady⟩ := Option.filter_eq_some_iff.mp ready
      exact .served works rfl isReady (grounded.resolve_left (by simp))

/-- A compilation returns nothing unless the chain of its output is found. -/
theorem compileGraph_analyzes
    {output : String}
    {host : Host}
    (registered : host.graph.has output = true) :
    (compileGraph output).Meets host fun outcome _ =>
      outcome = .ok none ∨ ∃ chain, (host.graph.analyze output).1 = .ok chain := by
  cases analysis : (host.graph.analyze output).1 with
  | ok chain => exact .inr ⟨chain, rfl⟩
  | error failure =>
      rw [compileGraph, meets_bind]
      refine (analyzeGraph_effect output host).imp ?_
      rintro _ analyzed ⟨rfl, _⟩
      rw [before_ok, analysis]
      dsimp only
      rw [Graph.isDomestic_of_analyze registered analysis]
      exact .inl rfl

/-- A registered node is served. -/
theorem serve_effect
    {node : String}
    {host : Host}
    (name : String)
    (arguments : List String)
    (registered : host.graph.has node = true) :
    (serve node name arguments).Meets host (Serves node arguments host) := by
  rw [serve, meets_get_bind]
  dsimp only
  split
  case isTrue isGraph =>
    rw [meets_bind]
    -- Failures of the analysis are reported, so any other outcome comes behind a chain.
    refine ((respects_compileGraph node).meets (compileGraph_analyzes registered)).imp ?_
    rintro outcome changed ⟨works, analyzed⟩
    cases outcome with
    | error failure => exact .raised works (.inr (analyzed.resolve_left (by simp)))
    | ok artifact =>
        refine before_ok.mpr (meets_pure.mpr (.of_works works ?_))
        exact analyzed.imp (fun none => Except.ok.inj none) .inr
  case isFalse isCall =>
    -- On this way nothing is analyzed, but the arguments mention no node.
    have grounded : IsGrounded host.graph node arguments := by
      refine .inl (List.flatMap_eq_nil_iff.mpr fun argument present => ?_)
      refine scan_eq_nil_of_mentionsNode (Bool.eq_false_iff.mpr fun mentions => isCall ?_)
      exact Bool.or_eq_true_iff.mpr (.inr (List.any_eq_true.mpr ⟨argument, present, mentions⟩))
    rw [meets_bind]
    refine (createShaderAs_effect node name arguments host).imp ?_
    rintro outcome changed ⟨worked, works, ⟨rfl, notReady⟩ | ⟨id, rfl, ready, rfl⟩⟩
    · cases outcome with
      | error failure => exact .raised works grounded
      | ok id =>
          rw [before_ok, meets_get_bind]
          refine meets_pure.mpr (.declined works ?_)
          simp [Option.filter, notReady id rfl]
    · rw [before_ok, meets_get_bind]
      exact meets_pure.mpr (.served works rfl ready grounded)

/-! ## Creating a shader -/

/-- The host with a call registered as the next node. -/
def registering (name raw : String) (host : Host) : Host :=
  { host with graph := host.graph.add name (Call.splitArguments raw) }

/-- What comes of a request to create a shader: it is refused without a node; its
node is removed again; a failure passes through and leaves the node; or the
shader of the node is served. -/
inductive Creates (name raw : String) (host : Host) : Except Failure Reply -> Host -> Prop
  | refused {reason : String} : Creates name raw host (.ok (.error reason)) host
  | withdrawn
      {reason : String}
      {worked : Host}
      (works : Works (registering name raw host) worked) :
      Creates name raw host (.ok (.error reason))
        { worked with graph := worked.graph.remove host.graph.nextName }
  | raised
      {failure : Failure}
      {changed : Host}
      (works : Works (registering name raw host) changed)
      (grounded : IsGrounded (host.graph.add name (Call.splitArguments raw)) host.graph.nextName
        (Call.splitArguments raw)) :
      Creates name raw host (.error failure) changed
  | created
      {id : ArtifactId}
      {worked changed : Host}
      {active : Table ArtifactId}
      (works : Works (registering name raw host) worked)
      (same : changed =
        { worked with
          calls := { worked.calls with active }
          served := worked.served.set host.graph.nextName id })
      (grounded : IsGrounded (host.graph.add name (Call.splitArguments raw)) host.graph.nextName
        (Call.splitArguments raw)) :
      Creates name raw host (.ok (.ok host.graph.nextName)) changed

/-- A request for a shader creates it or is answered with the reason. -/
theorem create_effect (name raw : String) (host : Host) :
    (create name raw).Meets host (Creates name raw host) := by
  rw [create, meets_get_bind]
  dsimp only
  split
  case h_1 => exact .refused
  case h_2 =>
    rw [meets_bind]
    refine (registerNode_effect name _ host).imp ?_
    rintro _ added (⟨rfl, rfl⟩ | ⟨rfl, same⟩)
    · exact .refused
    rw [Call.map_trimmed_splitArguments] at same
    subst same
    have there : (registering name raw host).graph.has host.graph.nextName = true :=
      (Graph.has_add name _ _).mpr (.inl rfl)
    rw [before_ok, meets_bind]
    refine (serve_effect name (Call.splitArguments raw) there).imp ?_
    rintro _ _ (⟨works, grounded⟩ | ⟨works, notReady⟩ | ⟨works, same, ready, grounded⟩)
    · exact .raised works grounded
    · rw [before_ok, meets_get_bind, notReady]
      exact .withdrawn works
    · rw [before_ok, meets_get_bind, Option.filter_eq_some_iff.mpr ⟨rfl, ready⟩]
      exact .created works (by rw [same]; rfl) grounded

end Action

namespace Host

/-! ## Requests without a shader -/

/-- The served shaders, the active ids and the output are the same. -/
structure SameServing (host changed : Host) : Prop where
  served : changed.served = host.served
  active : changed.calls.active = host.calls.active
  output : changed.output = host.output

theorem SameServing.of_works {host changed : Host} (works : Action.Works host changed) :
    host.SameServing changed := by
  rw [works.others]
  exact ⟨rfl, rfl, rfl⟩

/-- A request that is declined leaves the nodes and their calls, the served
shaders, the active ids and the output as they were. A failure that passes
through a request leaves them so, too, but for the node that was registered. -/
theorem create_without_shader
    (host : Host)
    (name raw : String)
    (fresh : host.graph.has host.graph.nextName = false) :
    (∀ reason, (Action.create name raw).result host = .ok (.error reason) ->
      Graph.SameCalls host.graph ((Action.create name raw).final host).graph ∧
        host.SameServing ((Action.create name raw).final host)) ∧
    (∀ failure, (Action.create name raw).result host = .error failure ->
      Graph.SameCalls (host.graph.add name (Call.splitArguments raw))
          ((Action.create name raw).final host).graph ∧
        host.SameServing ((Action.create name raw).final host)) := by
  have meets : (Action.create name raw).Meets host fun outcome changed =>
      (∀ reason, outcome = .ok (.error reason) ->
        Graph.SameCalls host.graph changed.graph ∧ host.SameServing changed) ∧
      (∀ failure, outcome = .error failure ->
        Graph.SameCalls (host.graph.add name (Call.splitArguments raw)) changed.graph ∧
          host.SameServing changed) := by
    refine (Action.create_effect name raw host).imp fun outcome changed effect => ?_
    cases effect with
    | refused => exact ⟨fun _ _ => ⟨.refl _, rfl, rfl, rfl⟩, by simp⟩
    | withdrawn works =>
        obtain ⟨served, active, output⟩ := SameServing.of_works works
        have undone := Graph.sameCalls_remove_add fresh name (Call.splitArguments raw)
        exact ⟨fun _ _ => ⟨undone.trans (works.calls.remove _), served, active, output⟩, by simp⟩
    | raised works grounded =>
        obtain ⟨served, active, output⟩ := SameServing.of_works works
        exact ⟨by simp, fun _ _ => ⟨works.calls, served, active, output⟩⟩
    | created works same grounded => exact ⟨by simp, by simp⟩
  exact meets

/-- A failure that passes through a request leaves a node behind: a remainder of
constants is computed while the call is compiled, when its node is registered. -/
theorem remainder_by_zero_leaves_node :
    (Action.create "sin" "1 % 0").result {} = .error .divisionByZero ∧
      Graph.has {} "shader_1" = false ∧
      ((Action.create "sin" "1 % 0").final {}).graph.has "shader_1" = true := by
  decide +kernel

theorem remainder_by_zero_without_shader :
    Graph.has {} (Graph.nextName {}) = false ∧
      (Action.create "sin" "1 % 0").result {} = .error .divisionByZero ∧
      Graph.SameCalls (Graph.add {} "sin" ["1 % 0"])
        ((Action.create "sin" "1 % 0").final {}).graph ∧
      SameServing {} ((Action.create "sin" "1 % 0").final {}) := by
  have fresh : Graph.has {} (Graph.nextName {}) = false := by decide +kernel
  have failed : (Action.create "sin" "1 % 0").result {} = .error .divisionByZero := by
    decide +kernel
  have split : Call.splitArguments "1 % 0" = ["1 % 0"] := by decide +kernel
  have kept := (create_without_shader {} "sin" "1 % 0" fresh).2 .divisionByZero failed
  exact ⟨fresh, failed, split ▸ kept⟩

end Host
end ShaderGraph
