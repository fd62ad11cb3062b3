import ShaderGraph.Proofs.Host.CallRun
import ShaderGraph.Proofs.Host.Request
import ShaderGraph.Proofs.Host.Stock
import ShaderGraph.Proofs.Shader.Embedding

/-!
# What comes to the compiler

A request for a shader hands one new artifact with sources to the compiler, or none.
Whatever is handed over carries a shader that was generated for the call or for the
chain of the graph, with the directory that its includes leave from, and is marked
with the uniforms that its arguments read.
-/

namespace ShaderGraph

namespace Host

open ShaderGraph.Action

/-- A new artifact with sources was handed to the compiler: it has the program that
came of it, and the graphics are those behind the compilation. -/
structure Submits (host changed : Host) (artifact : Artifact) : Prop where
  stored : changed.artifact? host.artifacts.length = some artifact
  sourced : artifact.hasSource = true
  program : artifact.program = (compilation host artifact).1.toOption
  graphics : changed.graphics = (compilation host artifact).2

/-- At most one artifact is submitted. -/
theorem Submits.unique
    {host changed : Host}
    {artifact other : Artifact}
    (submits : host.Submits changed artifact)
    (otherSubmits : host.Submits changed other) : artifact = other :=
  Option.some.inj (submits.stored.symm.trans otherSubmits.stored)

/-- What is handed to the compiler does not depend on the nodes. -/
theorem submits_graph_iff
    {host changed : Host}
    {graph : Graph}
    {artifact : Artifact} :
    Submits { host with graph } changed artifact ↔ host.Submits changed artifact :=
  ⟨fun submits => ⟨submits.stored, submits.sourced, submits.program, submits.graphics⟩,
    fun submits => ⟨submits.stored, submits.sourced, submits.program, submits.graphics⟩⟩

/-- Nothing is handed to the compiler where no artifact is added. -/
theorem not_submits_of_same
    {host changed : Host}
    (same : changed.artifacts = host.artifacts)
    (artifact : Artifact) : ¬host.Submits changed artifact := by
  intro submits
  have stored := submits.stored
  rw [artifact?, same, List.getElem?_eq_none (Nat.le_refl _)] at stored
  cases stored

/-- An artifact that only reports an error is not handed to the compiler. -/
theorem addFailed_submits_none
    (name : String)
    (arguments : List String)
    (message : String)
    (host : Host) :
    (addFailed name arguments message).Meets host fun _ changed =>
      ∀ artifact, ¬host.Submits changed artifact := by
  rw [addFailed, meets_bind]
  change Before _ _ (.ok host.artifacts.length)
    { host with artifacts := host.artifacts ++ [{ function := name, arguments }] }
  have found : Host.artifact?
      { host with artifacts := host.artifacts ++ [{ function := name, arguments }] }
      host.artifacts.length = some { function := name, arguments } :=
    List.getElem?_concat_length
  obtain ⟨result, _, final⟩ := changeArtifact_of_some found (Artifact.fail · message)
  rw [before_ok, meets_bind, Meets, result, final]
  intro artifact submits
  have stored := submits.stored
  change (setArtifact _ _ _).artifact? _ = _ at stored
  rw [artifact?_setArtifact_self found] at stored
  cases stored
  exact absurd submits.sourced (by simp [Artifact.fail, Artifact.hasSource])

theorem isEmpty_append_of_solid
    (text : String)
    {ending : String}
    (solid : ending.isEmpty = false) : (text ++ ending).isEmpty = false := by
  rw [String.isEmpty_eq_false_iff] at *
  simp [solid]

/-- What receives the outcome of a compilation has the same sources and marks. -/
structure SameSource (artifact made : Artifact) : Prop where
  vertex : made.vertex = artifact.vertex
  fragment : made.fragment = artifact.fragment
  returnType : made.returnType = artifact.returnType
  directory : made.directory = artifact.directory

/-- Receiving an outcome keeps the source and takes the program. -/
theorem receive_effect
    {artifact : Artifact}
    (none : artifact.program = none)
    (outcome : Except CompileError Program) :
    SameSource artifact (artifact.receive outcome).value.2 ∧
      (artifact.receive outcome).value.2.program = outcome.toOption ∧
      (artifact.receive outcome).value.2.refreshesTime = artifact.refreshesTime ∧
      (artifact.receive outcome).value.2.refreshesResolution = artifact.refreshesResolution := by
  cases outcome with
  | error error => exact ⟨⟨rfl, rfl, rfl, rfl⟩, none, rfl, rfl⟩
  | ok program =>
      rw [Artifact.receive, Artifact.release, none]
      exact ⟨⟨rfl, rfl, rfl, rfl⟩, rfl, rfl, rfl⟩

theorem SameSource.compilation_eq
    {artifact made : Artifact}
    (same : SameSource artifact made)
    (host : Host) : compilation host made = compilation host artifact := by
  rw [compilation, same.vertex, same.fragment, same.directory]
  rfl

/-- An artifact carries a shader that was generated for arguments, with the directory of
its includes. If it has a program, it refreshes the uniforms that the arguments read. -/
structure Carries
    (interpreter : Interpreter)
    (arguments : List String)
    (directory : String)
    (shader : Shader)
    (artifact : Artifact) : Prop where
  vertex : artifact.vertex = shader.vertex
  fragment : artifact.fragment = shader.fragment
  returnType : artifact.returnType = shader.returnType
  directory : artifact.directory = directory
  time : ∃ reads,
    Attempt.outcome (readsVariable interpreter "time" arguments) = .ok reads ∧
      artifact.refreshesTime = (artifact.program.isSome && reads)
  resolution : ∃ reads,
    Attempt.outcome (readsVariable interpreter "st" arguments) = .ok reads ∧
      artifact.refreshesResolution = (artifact.program.isSome && reads)

/-- An artifact with sources that is added, compiled and stored is handed to the
compiler, and what becomes of it carries its shader. -/
theorem submits_of_store
    {host : Host}
    {shader : Shader}
    {artifact : Artifact}
    {arguments : List String}
    {time resolution : Bool}
    {store : ArtifactId -> Host -> Host}
    {success failure : ArtifactId -> Action Result}
    (fresh : artifact.program = none ∧ artifact.refreshesTime = false ∧
      artifact.refreshesResolution = false)
    (carried : artifact.vertex = shader.vertex ∧ artifact.fragment = shader.fragment ∧
      artifact.returnType = shader.returnType)
    (sourced : artifact.hasSource = true)
    (readsTime : Attempt.outcome
      (readsVariable host.generator.interpreter "time" arguments) = .ok time)
    (readsResolution : Attempt.outcome
      (readsVariable host.generator.interpreter "st" arguments) = .ok resolution)
    (stores : ∀ id changed, (store id changed).artifacts = changed.artifacts ∧
      (store id changed).graphics = changed.graphics)
    (succeeds : ∀ id, (success id).Respects Eq)
    (fails : ∀ id, (failure id).Respects Eq) :
    (addArtifact artifact >>= fun id => compileArtifact id >>= fun compiled =>
      if compiled = true then setRefreshing id arguments >>= fun _ =>
        (modify (store id) : Action Unit) >>= fun _ => success id
      else failure id).Meets host fun _ changed =>
        ∃ made, host.Submits changed made ∧
          Carries host.generator.interpreter arguments artifact.directory shader made := by
  obtain ⟨none, noTime, noResolution⟩ := fresh
  obtain ⟨vertex, fragment, returnType⟩ := carried
  refine (store_effect none readsTime readsResolution succeeds fails).imp ?_
  rintro _ changed ⟨made, graphics, compiled, isMade, rfl⟩
  obtain ⟨rfl, rfl⟩ := isMade.received sourced
  obtain ⟨same, program, keptTime, keptResolution⟩ :=
    receive_effect none (compilation host artifact).1
  have useless := isMade.useless
  have ready := isMade.ready
  clear isMade
  generalize (artifact.receive (compilation host artifact).1).value.2 = made at *
  have compiles := same.compilation_eq host
  have stillSourced : made.hasSource = true := by
    rw [Artifact.hasSource, same.vertex, same.fragment]
    exact sourced
  cases compiled with
  | false =>
      refine ⟨made, ⟨List.getElem?_concat_length, stillSourced, by rw [compiles, program],
        by rw [compiles]; rfl⟩, ⟨same.vertex.trans vertex, same.fragment.trans fragment,
        same.returnType.trans returnType, same.directory, ⟨_, readsTime, ?_⟩,
        ⟨_, readsResolution, ?_⟩⟩⟩
      · rw [keptTime, noTime, useless rfl]
        rfl
      · rw [keptResolution, noResolution, useless rfl]
        rfl
  | true =>
      have some : made.program.isSome = true := (Bool.and_eq_true_iff.mp (ready rfl)).1
      obtain ⟨artifacts, sameGraphics⟩ := stores host.artifacts.length
        { host with
          artifacts := host.artifacts ++ [{ made with
            refreshesTime := time
            refreshesResolution := resolution }]
          graphics := (compilation host artifact).2 }
      refine ⟨{ made with refreshesTime := time, refreshesResolution := resolution },
        ⟨?_, stillSourced, ?_, ?_⟩, ⟨same.vertex.trans vertex, same.fragment.trans fragment,
        same.returnType.trans returnType, same.directory, ⟨_, readsTime, ?_⟩,
        ⟨_, readsResolution, ?_⟩⟩⟩
      · rw [if_pos rfl, artifact?, artifacts]
        exact List.getElem?_concat_length
      · exact program.trans (by rw [← compiles]; rfl)
      · rw [if_pos rfl, sameGraphics, ← compiles]
        rfl
      · rw [some]
        rfl
      · rw [some]
        rfl

/-- A stage that is assembled is a source. -/
theorem hasSource_of_fragmentStage
    {artifact : Artifact}
    {uniforms functions : String}
    {lines : List String}
    (vertex : artifact.vertex = Shader.vertexStage)
    (fragment : artifact.fragment = Shader.fragmentStage uniforms functions lines) :
    artifact.hasSource = true := by
  have solidVertex : Shader.vertexStage.isEmpty = false :=
    isEmpty_append_of_solid _ (by decide)
  have solidFragment : (Shader.fragmentStage uniforms functions lines).isEmpty = false :=
    isEmpty_append_of_solid _ (by decide)
  rw [Artifact.hasSource, vertex, fragment, solidVertex, solidFragment]
  rfl

/-! ## Single calls -/

theorem warnConflict_effect (name pluginAlias : String) (host : Host) :
    (warnConflict name pluginAlias).Meets host fun outcome changed =>
      outcome = .ok () ∧ host = changed := by
  rw [warnConflict, meets_get_bind]
  split
  · exact ⟨rfl, rfl⟩
  · exact ⟨rfl, rfl⟩

/-- A function is looked up in the plugin that offers it, with the alias or without. -/
theorem sourcePath?_owner
    {catalogue : Catalogue}
    {name pluginAlias : String}
    (offered : catalogue.owner? name = some pluginAlias) :
    catalogue.sourcePath? name (some pluginAlias) = catalogue.sourcePath? name := by
  have same : catalogue.aliasFor? name (some pluginAlias) = catalogue.aliasFor? name none := by
    rw [Catalogue.aliasFor?, Catalogue.aliasFor?, offered]
    exact ite_self _
  rw [Catalogue.sourcePath?, Catalogue.sourcePath?, same]

theorem loadSource_owner
    {catalogue : Catalogue}
    {name pluginAlias : String}
    (offered : catalogue.owner? name = some pluginAlias)
    (files : FileTree) :
    catalogue.loadSource files name (some pluginAlias) = catalogue.loadSource files name := by
  rw [Catalogue.loadSource, Catalogue.loadSource, sourcePath?_owner offered]

/-- The sources of nested functions are put before the source of the called one, the last
one first. -/
theorem prependSources_of_available
    {catalogue : Catalogue}
    {files : FileTree}
    {names : List String}
    (available : ∀ name ∈ names, (catalogue.sourceOf files name).isEmpty = false)
    (code : String) :
    Attempt.outcome (prependSources catalogue files names code) = .ok (.ok ("\n".intercalate
      ((names.map (catalogue.sourceOf files)).reverse ++ [code]))) := by
  induction names generalizing code with
  | nil => simp [prependSources]
  | cons name rest inductionHypothesis =>
      obtain ⟨solid, others⟩ := List.forall_mem_cons.mp available
      refine Attempt.outcome_bind_eq_ok_iff.mpr ⟨_, Catalogue.outcome_of_sourceOf solid, ?_⟩
      rw [solid, if_neg (by simp), inductionHypothesis others, intercalate_join, List.map_cons,
        List.reverse_cons, List.append_assoc]
      rfl

/-- Sources that were put together could be read. -/
theorem available_of_prependSources
    {catalogue : Catalogue}
    {files : FileTree}
    {names : List String}
    {code joined : String}
    (success : Attempt.outcome (prependSources catalogue files names code) = .ok (.ok joined)) :
    ∀ name ∈ names, (catalogue.sourceOf files name).isEmpty = false := by
  induction names generalizing code with
  | nil => exact List.forall_mem_nil _
  | cons name rest inductionHypothesis =>
      obtain ⟨source, loaded, continued⟩ := Attempt.outcome_bind_eq_ok_iff.mp success
      obtain rfl := Catalogue.sourceOf_of_outcome loaded
      split at continued
      case isTrue => cases continued
      case isFalse solid =>
        exact List.forall_mem_cons.mpr
          ⟨Bool.eq_false_iff.mpr solid, inductionHypothesis continued⟩

/-- What is collected for a call of a function that a plugin offers. -/
theorem collectSources_effect
    {host : Host}
    {name pluginAlias : String}
    (offered : host.registry.catalogue.owner? name = some pluginAlias)
    (texts : List String) :
    (collectSources name pluginAlias (host.generator.needed name texts)).Meets host
      fun outcome changed =>
        let functions := host.generator.embedded name texts
        let source := host.generator.sourceOf host.files
        host = changed ∧
          ((∀ function ∈ functions, (source function).isEmpty = false) ∧
              outcome = .ok (.ok ("\n".intercalate (functions.map source))) ∨
            (∃ function ∈ functions, (source function).isEmpty = true) ∧
              ∀ code, outcome ≠ .ok (.ok code)) := by
  let others := (host.generator.needed name texts).filter fun other => !(other == name)
  have name_mem : name ∈ host.generator.embedded name texts := Generator.mem_embedded.mpr (.inl rfl)
  rw [collectSources, meets_get_bind]
  dsimp only
  rw [loadSource_owner offered, meets_bind]
  refine (attempt_effect _ host).imp ?_
  rintro _ _ ⟨rfl, rfl⟩
  cases loaded : Attempt.outcome (host.registry.catalogue.loadSource host.files name) with
  | error failure =>
      have empty : host.generator.sourceOf host.files name = "" := by
        change Catalogue.sourceOf host.registry.catalogue host.files name = ""
        rw [Catalogue.sourceOf, loaded]
      exact ⟨rfl, .inr ⟨⟨name, name_mem, by rw [empty]; rfl⟩, by simp⟩⟩
  | ok code =>
      obtain rfl : host.generator.sourceOf host.files name = code :=
        Catalogue.sourceOf_of_outcome loaded
      rw [before_ok]
      split
      case isTrue empty =>
        exact ⟨rfl, .inr ⟨⟨name, name_mem, empty⟩, fun _ success => by cases success⟩⟩
      case isFalse solid =>
        refine (attempt_effect _ host).imp ?_
        rintro _ _ ⟨rfl, rfl⟩
        refine ⟨rfl, ?_⟩
        by_cases available : ∀ function ∈ others,
            (host.generator.sourceOf host.files function).isEmpty = false
        · refine .inl ⟨fun function listed => ?_, ?_⟩
          · rcases List.mem_append.mp listed with before | last
            · exact available function (List.mem_reverse.mp before)
            · rw [List.mem_singleton.mp last]
              exact Bool.eq_false_iff.mpr solid
          · rw [Generator.embedded, List.map_append, List.map_reverse]
            exact prependSources_of_available available _
        · refine .inr ⟨?_, fun joined success => available (available_of_prependSources success)⟩
          simp only [not_forall, Bool.not_eq_false] at available
          obtain ⟨function, listed, empty⟩ := available
          exact ⟨function, List.mem_append_left _ (List.mem_reverse.mpr listed), empty⟩

section Ways

variable {host : Host} {name pluginAlias : String} {texts : List String}

/-- A shader is generated for a call from sources that can all be read. -/
structure IsCallShader
    (host : Host)
    (name : String)
    (texts : List String)
    (shader : Shader) : Prop where
  available : ∀ function ∈ host.generator.embedded name texts,
    (host.generator.sourceOf host.files function).isEmpty = false
  generated : Attempt.outcome (host.generator.generate
    ("\n".intercalate ((host.generator.embedded name texts).map
      (host.generator.sourceOf host.files))) name texts) = .ok shader

/-- Whatever a call hands to the compiler carries the shader of the call, the includes of
which leave from the directory of the called function. -/
def SubmitsCall (host : Host) (name : String) (texts : List String) (changed : Host) : Prop :=
  ∀ artifact, host.Submits changed artifact -> ∃ shader, host.IsCallShader name texts shader ∧
    Carries host.generator.interpreter texts
      (((host.registry.catalogue.sourcePath? name).map Path.directory).getD "") shader artifact

/-- If a shader can be generated for a call, an artifact that carries it is handed to the
compiler, and otherwise none. -/
theorem compileCall_effect
    (offered : host.registry.catalogue.owner? name = some pluginAlias)
    (key code : String) :
    (compileCall key name pluginAlias code texts).Meets host fun _ changed =>
      (∀ shader, Attempt.outcome (host.generator.generate code name texts) ≠ .ok shader) ∧
          (∀ artifact, ¬host.Submits changed artifact) ∨
        ∃ shader made, Attempt.outcome (host.generator.generate code name texts) = .ok shader ∧
          host.Submits changed made ∧ Carries host.generator.interpreter texts
            (((host.registry.catalogue.sourcePath? name).map Path.directory).getD "")
            shader made := by
  rw [compileCall, meets_get_bind, meets_bind]
  refine (attempt_effect _ host).imp ?_
  rintro _ _ ⟨rfl, rfl⟩
  cases generated : Attempt.outcome (host.generator.generate code name texts) with
  | error failure => exact .inl ⟨by simp, not_submits_of_same rfl⟩
  | ok shader =>
      obtain ⟨arguments, described, assembled⟩ := Generator.generate_eq_ok_iff.mp generated
      obtain ⟨_, _, functions, _, vertex, _, fragment⟩ := Generator.shape_of_assemble assembled
      obtain ⟨time, readsTime⟩ := readsVariable_of_reports (reports_of_describe described) "time"
      obtain ⟨resolution, readsResolution⟩ :=
        readsVariable_of_reports (reports_of_describe described) "st"
      rw [before_ok]
      refine Meets.imp (submits_of_store ⟨rfl, rfl, rfl⟩ ⟨rfl, rfl, rfl⟩
        (hasSource_of_fragmentStage vertex fragment) readsTime readsResolution
        (fun _ _ => ⟨rfl, rfl⟩) ?_ ?_) ?_
      · exact fun _ => (respects_liftTraced _).bind fun _ => respects_pure _
      · exact fun _ => (respects_liftTraced _).bind fun _ => respects_pure _
      · rintro _ changed ⟨made, submits, carries⟩
        have none : Path.directory "" = "" := by decide
        have same : Path.directory
            ((host.registry.catalogue.sourcePath? name (some pluginAlias)).getD "") =
            ((host.registry.catalogue.sourcePath? name).map Path.directory).getD "" := by
          rw [sourcePath?_owner offered]
          exact (Option.getD_map Path.directory "" _).symm.trans (by rw [none])
        exact .inr ⟨shader, made, rfl, submits, same ▸ carries⟩

/-- A call submits its shader from the directory of its function. -/
theorem makeShader_submits (key name : String) (texts : List String) (host : Host) :
    (makeShader key name texts).Meets host fun _ changed =>
      host.SubmitsCall name texts changed := by
  have fails (message : String) : (addFailed name texts message).Meets host fun _ changed =>
      host.SubmitsCall name texts changed :=
    (addFailed_submits_none _ _ _ host).imp fun _ _ none artifact submits =>
      absurd submits (none artifact)
  rw [makeShader, meets_get_bind]
  cases offered : host.registry.catalogue.owner? name with
  | none => exact fails _
  | some pluginAlias =>
      dsimp only
      rw [meets_bind]
      refine (warnConflict_effect name pluginAlias host).imp ?_
      rintro _ _ ⟨rfl, rfl⟩
      rw [before_ok, meets_liftTraced_bind]
      split
      · exact fails _
      rw [meets_bind]
      refine (collectSources_effect offered texts).imp ?_
      rintro outcome _ ⟨rfl, ⟨available, rfl⟩ | ⟨_, failed⟩⟩
      · rw [before_ok]
        refine (compileCall_effect offered key _).imp ?_
        rintro _ changed (⟨_, none⟩ | ⟨shader, made, generated, submits, carries⟩) artifact other
        · exact absurd other (none artifact)
        · cases submits.unique other
          exact ⟨shader, ⟨available, generated⟩, carries⟩
      · cases outcome with
        | error failure =>
            exact fun artifact submits => absurd submits (not_submits_of_same rfl artifact)
        | ok sources =>
            cases sources with
            | error missing => exact fails _
            | ok code => exact absurd rfl (failed code)

/-- A request for a call submits its shader or nothing. -/
theorem createShader_submits (name : String) (texts : List String) (host : Host) :
    (createShader name texts).Meets host fun _ changed =>
      host.SubmitsCall name (texts.map Text.trimmed) changed := by
  rw [createShader, meets_log_bind, meets_get_bind]
  split
  · exact (addFailed_submits_none _ _ _ host).imp fun _ _ none artifact submits =>
      absurd submits (none artifact)
  · dsimp only
    split
    · exact meets_log_bind.mpr (meets_pure.mpr fun artifact submits =>
        absurd submits (not_submits_of_same rfl artifact))
    · exact makeShader_submits _ _ _ _

/-! ## Graphs -/

/-- A shader is generated for the chain that an output depends on. -/
structure IsGraphShader
    (host : Host)
    (output : String)
    (chain : List String)
    (nodes : List Node)
    (shader : Shader) : Prop where
  analyzed : (host.graph.analyze output).1 = .ok chain
  nodes : nodesOf (host.graph.analyze output).2 chain = .ok nodes
  unified : Attempt.outcome
    (host.generator.unify host.files (host.graph.analyze output).2 chain) = .ok shader

/-- Whatever a graph hands to the compiler carries the shader of the chain of its output,
the includes of which leave from the first directory of a function in the chain. -/
def SubmitsGraph (host : Host) (output : String) (changed : Host) : Prop :=
  ∀ artifact, host.Submits changed artifact -> ∃ chain nodes shader,
    host.IsGraphShader output chain nodes shader ∧
      Carries host.generator.interpreter (nodes.flatMap Node.arguments)
        (includeDirectory host.registry.catalogue nodes) shader artifact

/-- The generated shader of a chain is handed to the compiler. -/
theorem compileChain_effect
    {chain : List String}
    {nodes : List Node}
    {shader : Shader}
    (found : nodesOf host.graph chain = .ok nodes)
    (unified : Attempt.outcome (host.generator.unify host.files host.graph chain) = .ok shader)
    (output key : String) :
    (compileChain output key chain shader).Meets host fun _ changed =>
      ∃ made, host.Submits changed made ∧
        Carries host.generator.interpreter (nodes.flatMap Node.arguments)
          (includeDirectory host.registry.catalogue nodes) shader made := by
  obtain ⟨assembly, last, _, _, finished⟩ := Generator.finish_of_unify unified
  have reports := reports_of_unify unified found
  obtain ⟨time, readsTime⟩ := readsVariable_of_reports reports "time"
  obtain ⟨resolution, readsResolution⟩ := readsVariable_of_reports reports "st"
  rw [compileChain, meets_get_bind, meets_liftExcept_bind, found, before_ok]
  refine submits_of_store ⟨rfl, rfl, rfl⟩ ⟨rfl, rfl, rfl⟩ ?_ readsTime
    readsResolution (fun _ _ => ⟨rfl, rfl⟩) ?_ ?_
  · rw [finished]
    exact hasSource_of_fragmentStage rfl rfl
  · exact fun _ => (respects_liftTraced _).bind fun _ => respects_pure _
  · exact fun _ => (respects_liftTraced _).bind fun _ => respects_pure _

/-- A compilation of a graph submits the shader of its chain or nothing. -/
theorem compileGraph_submits (output : String) (host : Host) :
    (compileGraph output).Meets host fun _ changed => host.SubmitsGraph output changed := by
  rw [compileGraph, meets_bind]
  refine (analyzeGraph_effect output host).imp ?_
  rintro _ analyzed ⟨rfl, same⟩
  have nothing : host.SubmitsGraph output analyzed := fun artifact submits =>
    absurd submits (not_submits_of_same (by rw [same]) artifact)
  rw [before_ok]
  cases analysis : (host.graph.analyze output).1 with
  | error failure =>
      dsimp only
      split
      · exact meets_log_bind.mpr (meets_pure.mpr nothing)
      · exact meets_throw.mpr nothing
  | ok chain =>
      dsimp only
      rw [meets_get_bind, meets_liftExcept_bind, graphKey]
      cases found : nodesOf analyzed.graph chain with
      | error failure => exact nothing
      | ok nodes =>
          dsimp only [bind, Except.bind, pure, Except.pure]
          rw [before_ok]
          generalize Key.ofGraph _ = key
          split
          · exact meets_log_bind.mpr (meets_pure.mpr nothing)
          · rw [makeGraph, meets_get_bind, meets_bind]
            refine (settle_effect _ analyzed).imp ?_
            rintro settled _ ⟨rfl, success⟩
            rcases settled with failure | failure | shader
            · exact nothing
            · rw [before_ok]
              exact meets_log_bind.mpr (meets_pure.mpr nothing)
            · have compiles : (compileChain output key chain shader).Meets analyzed
                  fun _ changed => host.SubmitsGraph output changed := by
                have unified := (success shader).mp rfl
                refine (compileChain_effect found unified output key).imp ?_
                rintro _ changed ⟨made, submits, carries⟩ artifact other
                subst same
                cases (submits_graph_iff.mp submits).unique other
                exact ⟨chain, nodes, shader, ⟨analysis, found, unified⟩, carries⟩
              rw [before_ok]
              dsimp only
              split
              · exact meets_log_bind.mpr compiles
              · exact compiles

end Ways

end Host
end ShaderGraph
