import ShaderGraph.Proofs.Host.Submission

/-!
# One call, two ways to a shader

A call of a function of a plugin may be served as a single call, or be registered as
a node and compiled as a graph. Nothing of the two ways is shared but the reading of
arguments; still each of them comes to the compiler exactly if the call has a recipe,
and hands over a shader that this recipe makes.
-/

namespace ShaderGraph

namespace Action

/-- Register a call as a node and compile the graph of this node. -/
def createGraph (name : String) (texts : List String) : Action (Option ArtifactId) := do
  match <- registerNode name texts with
  | none => return none
  | some node => compileGraph node

end Action

namespace Host

open ShaderGraph.Action

/-- A way to a shader realizes the recipes that are wanted: it hands an artifact to the
compiler if there is one, and otherwise none. -/
structure Realizes
    (layout : Layout)
    (wanted : Recipe -> Prop)
    (host changed : Host) : Prop where
  submits : ∀ recipe, wanted recipe -> ∃ artifact, host.Submits changed artifact
  made : ∀ artifact, host.Submits changed artifact ->
    ∃ recipe, wanted recipe ∧ recipe.Makes layout artifact

/-- What submits nothing realizes a recipe that is not wanted. -/
theorem Realizes.of_none
    {layout : Layout}
    {wanted : Recipe -> Prop}
    {host changed : Host}
    (none : ∀ artifact, ¬host.Submits changed artifact)
    (unwanted : ∀ recipe, ¬wanted recipe) : host.Realizes layout wanted changed where
  submits recipe isWanted := absurd isWanted (unwanted recipe)
  made artifact submits := absurd submits (none artifact)

/-- What submits the artifact of a wanted recipe realizes it. -/
theorem Realizes.of_made
    {layout : Layout}
    {wanted : Recipe -> Prop}
    {host changed : Host}
    {recipe : Recipe}
    {artifact : Artifact}
    (isWanted : wanted recipe)
    (submits : host.Submits changed artifact)
    (makes : recipe.Makes layout artifact) : host.Realizes layout wanted changed where
  submits _ _ := ⟨artifact, submits⟩
  made other otherSubmits := by
    cases Option.some.inj (submits.stored.symm.trans otherSubmits.stored)
    exact ⟨recipe, isWanted, makes⟩

theorem Realizes.of_graph
    {layout : Layout}
    {wanted : Recipe -> Prop}
    {host changed : Host}
    {graph : Graph}
    (realizes : Realizes layout wanted { host with graph } changed) :
    host.Realizes layout wanted changed where
  submits recipe isWanted :=
    (realizes.submits recipe isWanted).imp fun _ => submits_graph_iff.mp
  made artifact submits := realizes.made artifact (submits_graph_iff.mpr submits)

/-- An artifact that carries a shader written by a recipe is made by the recipe. -/
theorem makes_of_carries
    {interpreter : Interpreter}
    {arguments : List String}
    {recipe : Recipe}
    {layout : Layout}
    {shader : Shader}
    {artifact : Artifact}
    (carries : Carries interpreter arguments recipe.directory shader artifact)
    (vertex : shader.vertex = Shader.vertexStage)
    (writes : recipe.Writes layout shader.fragment)
    (returnType : shader.returnType = recipe.returnType)
    (readsTime : Attempt.outcome
      (readsVariable interpreter "time" arguments) = .ok recipe.refreshesTime)
    (readsResolution : Attempt.outcome
      (readsVariable interpreter "st" arguments) = .ok recipe.refreshesResolution) :
    recipe.Makes layout artifact where
  vertex := carries.vertex.trans vertex
  fragment := carries.fragment ▸ writes
  returnType := carries.returnType.trans returnType
  directory := carries.directory
  time := by
    obtain ⟨reads, known, marked⟩ := carries.time
    cases Except.ok.inj (known.symm.trans readsTime)
    exact marked
  resolution := by
    obtain ⟨reads, known, marked⟩ := carries.resolution
    cases Except.ok.inj (known.symm.trans readsResolution)
    exact marked

/-! ## Recipes -/

section Generator

variable {generator : Generator} {files : FileTree} {name : String} {texts : List String}

/-- A call whose arguments can be described has a recipe if its sources can be read. -/
theorem exists_isRecipe
    {arguments : List Argument}
    {overload : Option Overload}
    (accepted : firstRefusal? generator.vocabulary.builtins texts = none)
    (described : Attempt.outcome (generator.interpreter.describe [] texts) = .ok arguments)
    (chosen : generator.chooseOverload name arguments = .ok overload)
    (valid : (generator.vocabulary.analyze name texts).value.isValid = true)
    (available : ∀ function ∈ generator.needed name texts,
      (generator.sourceOf files function).isEmpty = false) :
    ∃ recipe, generator.IsRecipe files name texts recipe ∧ recipe.arguments = arguments := by
  have reports := reports_of_describe described
  obtain ⟨time, readsTime⟩ := readsVariable_of_reports reports "time"
  obtain ⟨resolution, readsResolution⟩ := readsVariable_of_reports reports "st"
  let recipe : Recipe := {
    builtins := generator.vocabulary.builtins
    function := name
    arguments
    overload
    sources := (generator.needed name texts).map fun function =>
      (function, generator.sourceOf files function)
    directory := ((generator.vocabulary.catalogue.sourcePath? name).map Path.directory).getD ""
    refreshesTime := time
    refreshesResolution := resolution }
  refine ⟨recipe, ?_, rfl⟩
  exact {
    accepted
    builtins := rfl
    function := rfl
    described
    chosen
    valid
    sources := rfl
    available := by
      rintro _ listed
      obtain ⟨function, present, rfl⟩ := List.mem_map.mp listed
      exact available function present
    directory := rfl
    time := readsTime
    resolution := readsResolution }

end Generator

/-! ## The way of a single call -/

section Ways

variable {host : Host} {name pluginAlias : String} {texts : List String}

/-- The sources that the shader of a call embeds are those of its recipe. -/
theorem perm_embedded
    {recipe : Recipe}
    (isRecipe : host.generator.IsRecipe host.files name texts recipe)
    (listed : name ∈ host.generator.needed name texts) :
    List.Perm
      ((host.generator.embedded name texts).map fun function =>
        (function, host.generator.sourceOf host.files function))
      recipe.sources := by
  rw [isRecipe.sources]
  have first := List.perm_cons_erase listed
  rw [(Generator.nodup_needed _ _ _).erase_eq_filter] at first
  refine List.Perm.map _ (List.perm_append_comm.trans ?_)
  exact ((List.reverse_perm _).cons _).trans first.symm

/-- A call whose sources were collected realizes its recipe. -/
theorem compileCall_realizes
    (offered : host.registry.catalogue.owner? name = some pluginAlias)
    (listed : name ∈ host.generator.needed name texts)
    (accepted : firstRefusal? host.builtins texts = none)
    (valid : (host.generator.vocabulary.analyze name texts).value.isValid = true)
    (available : ∀ function ∈ host.generator.embedded name texts,
      (host.generator.sourceOf host.files function).isEmpty = false)
    (key : String) :
    (compileCall key name pluginAlias ("\n".intercalate
      ((host.generator.embedded name texts).map (host.generator.sourceOf host.files))) texts).Meets
      host fun _ changed => host.Realizes (.ofCall name)
        (host.generator.IsRecipe host.files name texts) changed := by
  have code : (host.generator.embedded name texts).map (host.generator.sourceOf host.files) =
      ((host.generator.embedded name texts).map fun function =>
        (function, host.generator.sourceOf host.files function)).map Prod.snd := by
    rw [List.map_map]
    rfl
  rw [code]
  refine (compileCall_effect offered key _).imp ?_
  rintro _ changed (⟨failed, none⟩ | ⟨shader, made, generated, submits, carries⟩)
  · refine .of_none none fun recipe isRecipe => ?_
    obtain ⟨shader, assembled, _⟩ := isRecipe.assemble (perm_embedded isRecipe listed)
    exact failed shader (Generator.generate_eq_ok_iff.mpr ⟨_, isRecipe.described, assembled⟩)
  · obtain ⟨arguments, described, assembled⟩ := Generator.generate_eq_ok_iff.mp generated
    obtain ⟨overload, _, _, chosen, _⟩ := Generator.shape_of_assemble assembled
    obtain ⟨recipe, isRecipe, rfl⟩ := exists_isRecipe accepted described chosen valid
      fun function needed => available function (Generator.mem_embedded.mpr (.inr needed))
    obtain ⟨same, isSame, vertex, returnType, writes⟩ :=
      isRecipe.assemble (perm_embedded isRecipe listed)
    cases Except.ok.inj (isSame.symm.trans assembled)
    exact .of_made isRecipe submits (makes_of_carries (isRecipe.directory ▸ carries) vertex writes
      returnType isRecipe.time isRecipe.resolution)

/-- A function that plugins offer and that is not built in is among those that its calls
depend on. -/
theorem mem_needed
    (callable : host.builtins.isCallable name = false)
    (offered : host.registry.catalogue.owner? name = some pluginAlias)
    (texts : List String) : name ∈ host.generator.needed name texts :=
  Generator.mem_needed callable offered texts

/-- A call realizes its recipe. -/
theorem makeShader_realizes
    (callable : host.builtins.isCallable name = false)
    (offered : host.registry.catalogue.owner? name = some pluginAlias)
    (accepted : firstRefusal? host.builtins texts = none)
    (key : String) :
    (makeShader key name texts).Meets host fun _ changed =>
      host.Realizes (.ofCall name) (host.generator.IsRecipe host.files name texts) changed := by
  have listed := mem_needed callable offered texts
  have fails
      (unwanted : ∀ recipe, ¬host.generator.IsRecipe host.files name texts recipe)
      (message : String) :
      (addFailed name texts message).Meets host fun _ changed =>
        host.Realizes (.ofCall name) (host.generator.IsRecipe host.files name texts) changed :=
    (addFailed_submits_none _ _ _ host).imp fun _ _ none => .of_none none unwanted
  rw [makeShader, meets_get_bind, offered]
  dsimp only
  rw [meets_bind]
  refine (warnConflict_effect name pluginAlias host).imp ?_
  rintro _ _ ⟨rfl, rfl⟩
  rw [before_ok, meets_liftTraced_bind]
  split
  case isTrue invalid =>
    refine fails (fun recipe isRecipe => ?_) _
    rw [show (host.vocabulary.analyze name texts).value.isValid = true from isRecipe.valid]
      at invalid
    cases invalid
  case isFalse valid =>
    have isValid : (host.vocabulary.analyze name texts).value.isValid = true := by
      simpa using valid
    rw [meets_bind]
    refine (collectSources_effect offered texts).imp ?_
    rintro outcome _ ⟨rfl, ⟨available, rfl⟩ | ⟨⟨function, needed, empty⟩, failed⟩⟩
    · exact compileCall_realizes offered listed accepted isValid available key
    · have unwanted (recipe : Recipe) : ¬host.generator.IsRecipe host.files name texts recipe := by
        intro isRecipe
        have present : function ∈ host.generator.needed name texts :=
          (Generator.mem_embedded.mp needed).elim (fun same => same ▸ listed) id
        rw [isRecipe.available_of_mem present] at empty
        cases empty
      cases outcome with
      | error failure => exact .of_none (not_submits_of_same rfl) unwanted
      | ok sources =>
          cases sources with
          | error missing => exact fails unwanted _
          | ok code => exact absurd rfl (failed code)

/-- With an empty cache a single call comes to the compiler exactly if it has a recipe,
by which its shader is made. -/
theorem createShader_realizes
    (callable : host.builtins.isCallable name = false)
    (offered : host.registry.catalogue.owner? name = some pluginAlias)
    (empty : host.calls.cache = [])
    (texts : List String) :
    (createShader name texts).Meets host fun _ changed =>
      host.Realizes (.ofCall name)
        (host.generator.IsRecipe host.files name (texts.map Text.trimmed)) changed := by
  rw [createShader, meets_log_bind, meets_get_bind]
  cases accepted : firstRefusal? host.builtins (texts.map Text.trimmed) with
  | some refusal =>
      refine (addFailed_submits_none _ _ _ host).imp fun _ changed none => .of_none none ?_
      intro recipe isRecipe
      cases accepted.symm.trans isRecipe.accepted
  | none =>
      dsimp only
      rw [empty]
      exact makeShader_realizes callable offered accepted _

/-! ## The way of a graph -/

/-- A text without a reference sign refers to no node. -/
theorem inText_of_plain {text : String} (plain : '$' ∉ text.toList) :
    Reference.inText text = [] := by
  refine scan_eq_nil_of_mentionsNode ?_
  generalize text.toList = chars at plain
  induction chars with
  | nil => rfl
  | cons first rest inductionHypothesis =>
      obtain ⟨other, later⟩ := not_or.mp (List.mem_cons.not.mp plain)
      rw [mentionsNode, beq_false_of_ne (Ne.symm other), inductionHypothesis later]
      rfl

theorem references_of_plain
    {call : Node}
    (plain : ∀ text ∈ call.arguments, '$' ∉ text.toList) : call.references = [] :=
  List.flatMap_eq_nil_iff.mpr fun text listed => inText_of_plain (plain text listed)

/-- A text without a reference sign stays as it is. -/
theorem substitute_of_plain
    {texts : List String}
    (plain : ∀ text ∈ texts, '$' ∉ text.toList) : texts.map Reference.substitute = texts := by
  refine (List.map_congr_left fun text listed => ?_).trans (List.map_id texts)
  rw [Reference.substitute, (Reference.replaces_replace text.toList).eq_of_free (plain text listed),
    String.ofList_toList]
  rfl

/-- The only node of a graph without references is its own chain. -/
theorem analyze_single
    {graph : Graph}
    {node : String}
    {call : Node}
    (nodes : graph.nodes = [(node, call)])
    (plain : call.references = []) :
    graph.analyze node = (.ok [node],
      { graph with nodes := [(node, { call with inputs := [], isResolved := true })] }) := by
  have found : graph.find? node = some call := by
    rw [Graph.find?, nodes, Table.find?_cons, beq_self_eq_true]
    rfl
  have resolved : graph.resolve node = (.ok (),
      { graph with nodes := [(node, { call with inputs := [], isResolved := true })] }) := by
    rw [Graph.resolve, found]
    simp [plain, nodes, Table.set, Table.has, Table.find?_cons]
  rw [Graph.analyze, Graph.resolveAll, nodes]
  simp only [Table.names, List.map_cons, List.map_nil, Graph.resolveEach, resolved]
  simp [Graph.orderOf, Graph.visit, Graph.find?, Table.find?_cons, bind, Except.bind, pure,
    Except.pure]

theorem nodesOf_single
    {graph : Graph}
    {node : String}
    {call : Node}
    (found : graph.find? node = some call) : nodesOf graph [node] = .ok [call] := by
  rw [nodesOf, List.mapM_cons, found]
  rfl

/-- A chain of one node realizes its recipe. -/
theorem compileChain_realizes
    {node : String}
    {call : Node}
    {shader : Shader}
    (callable : host.builtins.isCallable name = false)
    (offered : host.registry.catalogue.owner? name = some pluginAlias)
    (accepted : firstRefusal? host.builtins texts = none)
    (plain : ∀ text ∈ texts, '$' ∉ text.toList)
    (found : host.graph.find? node = some call)
    (called : call.function = name)
    (arguments : call.arguments = texts)
    (unified : Attempt.outcome (host.generator.unify host.files host.graph [node]) = .ok shader)
    (key : String) :
    (compileChain node key [node] shader).Meets host fun _ changed =>
      host.Realizes (.ofNode name node) (host.generator.IsRecipe host.files name texts)
        changed := by
  have listed := mem_needed callable offered texts
  have substituted : call.arguments.map Reference.substitute = texts := by
    rw [arguments, substitute_of_plain plain]
  obtain ⟨described, overload, isDescribed, chosen, valid, available⟩ :=
    Generator.described_of_unify unified found called substituted listed
  obtain ⟨recipe, isRecipe, rfl⟩ := exists_isRecipe accepted isDescribed chosen valid available
  obtain ⟨same, isSame, vertex, returnType, writes⟩ :=
    isRecipe.unify listed found called substituted
  cases Except.ok.inj (isSame.symm.trans unified)
  have joined : [call].flatMap Node.arguments = texts := by
    rw [List.flatMap_singleton, arguments]
  have directory : includeDirectory host.registry.catalogue [call] = recipe.directory := by
    rw [isRecipe.directory, includeDirectory, List.findSome?_singleton, called]
    rfl
  refine (compileChain_effect (nodesOf_single found) unified node key).imp ?_
  rintro _ changed ⟨made, submits, carries⟩
  rw [joined, directory] at carries
  exact .of_made isRecipe submits (makes_of_carries carries vertex writes returnType isRecipe.time
    isRecipe.resolution)

/-- The shader of the only node of a graph realizes the recipe of its call. -/
theorem makeGraph_realizes
    {node : String}
    {call : Node}
    (callable : host.builtins.isCallable name = false)
    (offered : host.registry.catalogue.owner? name = some pluginAlias)
    (accepted : firstRefusal? host.builtins texts = none)
    (plain : ∀ text ∈ texts, '$' ∉ text.toList)
    (found : host.graph.find? node = some call)
    (called : call.function = name)
    (arguments : call.arguments = texts)
    (key : String) :
    (makeGraph node key [node]).Meets host fun _ changed =>
      host.Realizes (.ofNode name node) (host.generator.IsRecipe host.files name texts)
        changed := by
  have listed := mem_needed callable offered texts
  have substituted : call.arguments.map Reference.substitute = texts := by
    rw [arguments, substitute_of_plain plain]
  have fails
      (unwanted : ∀ recipe, ¬host.generator.IsRecipe host.files name texts recipe) :
      host.Realizes (.ofNode name node) (host.generator.IsRecipe host.files name texts) host :=
    .of_none (not_submits_of_same rfl) unwanted
  rw [makeGraph, meets_get_bind, meets_bind]
  refine (settle_effect _ host).imp ?_
  rintro settled _ ⟨rfl, unified⟩
  have unwanted
      (failed : ∀ shader, settled ≠ .ok (.ok shader))
      (recipe : Recipe) : ¬host.generator.IsRecipe host.files name texts recipe := by
    intro isRecipe
    obtain ⟨shader, success, _⟩ := isRecipe.unify listed found called substituted
    exact failed shader ((unified shader).mpr success)
  rcases settled with failure | failure | shader
  · exact fails (unwanted (by simp))
  · rw [before_ok]
    exact meets_log_bind.mpr (fails (unwanted (by simp)))
  · have compiles := compileChain_realizes callable offered accepted plain found called arguments
      ((unified shader).mp rfl) key
    rw [before_ok]
    dsimp only
    split
    · exact meets_log_bind.mpr compiles
    · exact compiles

/-- Selections are checked without the blanks around an argument. -/
theorem firstRefusal?_trimmed (builtins : Builtins) (texts : List String) :
    firstRefusal? builtins (texts.map Text.trimmed) = firstRefusal? builtins texts := by
  have same : Swizzle.check builtins ∘ Text.trimmed = Swizzle.check builtins := by
    funext text
    unfold Function.comp Swizzle.check
    rw [Text.trimmed, String.toList_ofList, Text.trim_trim]
  rw [firstRefusal?, List.findSome?_map, same]
  rfl

/-- A function that a plugin offers is registered. -/
theorem registerNode_of_offered
    (callable : host.builtins.isCallable name = false)
    (offered : host.registry.catalogue.owner? name = some pluginAlias)
    (texts : List String) :
    (registerNode name texts).Meets host fun outcome changed =>
      (firstRefusal? host.builtins texts ≠ none ∧ outcome = .ok none ∧ host = changed) ∨
        firstRefusal? host.builtins texts = none ∧ outcome = .ok (some host.graph.nextName) ∧
          changed = { host with graph := host.graph.add name (texts.map Text.trimmed) } := by
  have known : ¬host.vocabulary.classify name = .unknown := by
    rw [Vocabulary.classify, show host.vocabulary.builtins.isCallable name = false from callable,
      show host.vocabulary.catalogue.owner? name = some pluginAlias from offered]
    simp
  rw [registerNode, meets_get_bind, if_neg known]
  cases firstRefusal? host.builtins texts with
  | some refusal => exact meets_log_bind.mpr (meets_pure.mpr (.inl ⟨by simp, rfl, rfl⟩))
  | none =>
      rw [meets_modify_bind]
      dsimp only
      split
      · exact meets_log_bind.mpr (meets_pure.mpr (.inr ⟨rfl, rfl, rfl⟩))
      · exact meets_pure.mpr (.inr ⟨rfl, rfl, rfl⟩)

/-- Without nodes and with an empty cache a call that is registered comes to the compiler
exactly if it has a recipe, by which the shader of its graph is made. -/
theorem createGraph_realizes
    (callable : host.builtins.isCallable name = false)
    (offered : host.registry.catalogue.owner? name = some pluginAlias)
    (plain : ∀ text ∈ texts, '$' ∉ text.toList)
    (noNodes : host.graph.nodes = [])
    (empty : host.graphCache = []) :
    (createGraph name texts).Meets host fun _ changed =>
      host.Realizes (.ofNode name host.graph.nextName)
        (host.generator.IsRecipe host.files name (texts.map Text.trimmed)) changed := by
  have plainTrimmed : ∀ text ∈ texts.map Text.trimmed, '$' ∉ text.toList := by
    intro _ listed
    obtain ⟨text, present, rfl⟩ := List.mem_map.mp listed
    obtain ⟨before, after, split, _⟩ := Text.exists_eq_append_trim text.toList
    intro sign
    rw [Text.trimmed, String.toList_ofList] at sign
    refine plain text present ?_
    rw [split]
    exact List.mem_append_left _ (List.mem_append_right _ sign)
  rw [createGraph, meets_bind]
  refine (registerNode_of_offered callable offered texts).imp ?_
  rintro _ registered (⟨refused, rfl, rfl⟩ | ⟨accepted, rfl, rfl⟩)
  · refine .of_none (not_submits_of_same rfl) fun recipe isRecipe => refused ?_
    rw [← firstRefusal?_trimmed]
    exact isRecipe.accepted
  · rw [← firstRefusal?_trimmed] at accepted
    have nodes : (host.graph.add name (texts.map Text.trimmed)).nodes =
        [(host.graph.nextName, { function := name, arguments := texts.map Text.trimmed })] := by
      rw [Graph.add, noNodes]
      rfl
    rw [before_ok]
    dsimp only
    rw [compileGraph, meets_bind]
    refine (analyzeGraph_effect _ _).imp ?_
    rintro _ analyzed ⟨rfl, same⟩
    rw [analyze_single nodes (references_of_plain plainTrimmed)] at same
    have found : analyzed.graph.find? host.graph.nextName = some
        { function := name, arguments := texts.map Text.trimmed, isResolved := true } := by
      rw [same, Graph.find?, Table.find?_cons, beq_self_eq_true]
      rfl
    rw [analyze_single nodes (references_of_plain plainTrimmed), before_ok]
    dsimp only
    rw [meets_get_bind, meets_liftExcept_bind, graphKey, nodesOf_single found]
    have noCache : analyzed.graphCache = [] := by rw [same, empty]
    dsimp only [bind, Except.bind, pure, Except.pure]
    rw [before_ok, noCache]
    have stillCallable : analyzed.builtins.isCallable name = false := by rw [same, callable]
    have stillOffered : analyzed.registry.catalogue.owner? name = some pluginAlias := by
      rw [same, offered]
    have stillAccepted :
        firstRefusal? analyzed.builtins (texts.map Text.trimmed) = none := by
      rw [same, accepted]
    refine Meets.imp (makeGraph_realizes stillCallable stillOffered stillAccepted plainTrimmed
      found rfl rfl _) fun _ changed realizes => ?_
    -- Nothing that recipes and compilers read depends on the nodes.
    obtain ⟨graph, rfl⟩ : ∃ graph, analyzed = { host with graph } := ⟨_, same⟩
    exact realizes.of_graph

end Ways

/-! ## Both ways -/

/-- A function of a plugin that is not built in is called with arguments without
references. With nothing cached and no node registered, its shader comes to the compiler
as that of a single call exactly if it does so as that of a graph. Then both artifacts
are made by one recipe, whose sources are listed once each: apart from the names and the
separators of the two layouts they have the same fragment stage, and they have the same
return type, the same directory of includes and the same refreshed uniforms. -/
theorem single_call_agrees_with_graph
    {host : Host}
    {name pluginAlias : String}
    {texts : List String}
    (offered : host.registry.catalogue.owner? name = some pluginAlias)
    (callable : host.builtins.isCallable name = false)
    (plain : ∀ text ∈ texts, '$' ∉ text.toList)
    (noShaders : host.calls.cache = [])
    (noNodes : host.graph.nodes = [])
    (noGraphs : host.graphCache = []) :
    ((∃ artifact, host.Submits ((createShader name texts).final host) artifact) ↔
      ∃ artifact, host.Submits ((createGraph name texts).final host) artifact) ∧
    ∀ single graphed,
      host.Submits ((createShader name texts).final host) single ->
      host.Submits ((createGraph name texts).final host) graphed ->
      ∃ recipe, host.generator.IsRecipe host.files name (texts.map Text.trimmed) recipe ∧
        (recipe.sources.map Prod.fst).Nodup ∧
        recipe.Makes (.ofCall name) single ∧
        recipe.Makes (.ofNode name host.graph.nextName) graphed := by
  have called := createShader_realizes callable offered noShaders texts
  have compiled := createGraph_realizes callable offered plain noNodes noGraphs
  refine ⟨⟨?_, ?_⟩, ?_⟩
  · rintro ⟨artifact, submits⟩
    obtain ⟨recipe, isRecipe, _⟩ := called.made artifact submits
    exact compiled.submits recipe isRecipe
  · rintro ⟨artifact, submits⟩
    obtain ⟨recipe, isRecipe, _⟩ := compiled.made artifact submits
    exact called.submits recipe isRecipe
  · intro single graphed submitsSingle submitsGraphed
    obtain ⟨recipe, isRecipe, makes⟩ := called.made single submitsSingle
    obtain ⟨other, isOther, makesGraphed⟩ := compiled.made graphed submitsGraphed
    cases isRecipe.unique isOther
    exact ⟨recipe, isRecipe, isRecipe.nodup, makes, makesGraphed⟩

theorem exists_isRecipe_equipped
    {texts : List String}
    (accepted : firstRefusal? equipped.generator.vocabulary.builtins texts = none)
    (evaluated :
      (Attempt.outcome (equipped.generator.interpreter.describe [] texts)).toBool = true ∧
      (equipped.generator.vocabulary.analyze "noise" texts).value.isValid = true ∧
      ∀ function ∈ equipped.generator.needed "noise" texts,
        (equipped.generator.sourceOf equipped.files function).isEmpty = false) :
    ∃ recipe, equipped.generator.IsRecipe equipped.files "noise" texts recipe := by
  obtain ⟨described, valid, available⟩ := evaluated
  cases outcome : Attempt.outcome (equipped.generator.interpreter.describe [] texts) with
  | error failure =>
      rw [outcome] at described
      cases described
  | ok arguments =>
      obtain ⟨recipe, isRecipe, _⟩ := exists_isRecipe accepted outcome rfl valid available
      exact ⟨recipe, isRecipe⟩

/-- Arguments that go through an adapter, one of which needs a temporary. -/
def adaptedTexts : List String := ["st.x * 2.0", " time"]

theorem equipped_agrees_with_graph :
    ∃ single graphed recipe,
      equipped.Submits ((createShader "noise" adaptedTexts).final equipped) single ∧
      equipped.Submits ((createGraph "noise" adaptedTexts).final equipped) graphed ∧
      equipped.generator.IsRecipe equipped.files "noise" ["st.x * 2.0", "time"] recipe ∧
      (recipe.sources.map Prod.fst).Nodup ∧
      recipe.Makes (.ofCall "noise") single ∧
        recipe.Makes (.ofNode "noise" "shader_1") graphed := by
  have offered : equipped.registry.catalogue.owner? "noise" = some "noise" := by decide +kernel
  have callable : equipped.builtins.isCallable "noise" = false := by decide +kernel
  have plain : ∀ text ∈ adaptedTexts, '$' ∉ text.toList := by decide +kernel
  obtain ⟨both, agree⟩ := single_call_agrees_with_graph offered callable plain rfl rfl rfl
  have trimmed : adaptedTexts.map Text.trimmed = ["st.x * 2.0", "time"] := by decide +kernel
  rw [trimmed] at agree
  obtain ⟨recipe, isRecipe⟩ : ∃ recipe,
      equipped.generator.IsRecipe equipped.files "noise" ["st.x * 2.0", "time"] recipe :=
    exists_isRecipe_equipped (by decide +kernel) (by decide +kernel)
  rw [← trimmed] at isRecipe
  have submits := (createShader_realizes callable offered rfl adaptedTexts).submits recipe isRecipe
  obtain ⟨single, submitsSingle⟩ := submits
  obtain ⟨graphed, submitsGraphed⟩ := both.mp ⟨single, submitsSingle⟩
  obtain ⟨recipe, isRecipe, nodup, makes, makesGraphed⟩ :=
    agree single graphed submitsSingle submitsGraphed
  exact ⟨single, graphed, recipe, submitsSingle, submitsGraphed, isRecipe, nodup, makes,
    makesGraphed⟩

end Host
end ShaderGraph
