import ShaderGraph.Proofs.Shader.Include
import ShaderGraph.Proofs.Shader.Recipe

/-!
# Sources in shaders

The shader of a call embeds the source of the called function behind those of the
functions that its arguments call. The shader of a graph embeds the sources of all
functions of plugins that the calls of its nodes depend on. Either way every source
stands in the fragment stage in lines of its own.
-/

namespace ShaderGraph

/-! ## Texts in lines of their own -/

theorem HoldsLines.refl (text : List Char) : HoldsLines text text :=
  ⟨[], [], by simp, .inl rfl, .inl rfl⟩

theorem endsLine_append
    (text : String)
    {ending : String}
    (ends : ending.toList.getLast? = some '\n') : EndsLine (text ++ ending).toList := by
  rw [String.toList_append]
  exact .inr (by rw [List.getLast?_append, ends]; rfl)

theorem startsLine_append
    {start : String}
    (starts : start.toList.head? = some '\n')
    (text : String) : StartsLine (start ++ text).toList := by
  rw [String.toList_append]
  exact .inr (by rw [List.head?_append, starts]; rfl)

theorem holdsLines_append
    {before after : String}
    (ends : EndsLine before.toList)
    (part : String)
    (starts : StartsLine after.toList) :
    HoldsLines (before ++ (part ++ after)).toList part.toList :=
  ⟨before.toList, after.toList, by rw [String.toList_append, String.toList_append], ends, starts⟩

/-- Texts that are joined by line breaks stand in lines of their own. -/
theorem holdsLines_intercalate
    {separator : String}
    (starts : separator.toList.head? = some '\n')
    (ends : separator.toList.getLast? = some '\n')
    {texts : List String}
    {text : String}
    (listed : text ∈ texts) : HoldsLines (separator.intercalate texts).toList text.toList := by
  induction texts with
  | nil => cases listed
  | cons first rest inductionHypothesis =>
      cases rest with
      | nil =>
          rw [List.mem_singleton.mp listed, String.intercalate_singleton]
          exact .refl _
      | cons second others =>
          rw [String.intercalate_cons_cons, String.append_assoc]
          rcases List.mem_cons.mp listed with rfl | later
          · exact ⟨[], _, by rw [String.toList_append]; rfl, .inl rfl, startsLine_append starts _⟩
          · refine HoldsLines.trans
              ⟨(first ++ separator).toList, [], ?_, endsLine_append first ends,
              .inl rfl⟩ (inductionHypothesis later)
            simp only [String.toList_append, List.append_nil, List.append_assoc]

/-- The functions of a fragment stage stand in lines of their own. -/
theorem holdsLines_fragmentStage (uniforms functions : String) (lines : List String) :
    HoldsLines (Shader.fragmentStage uniforms functions lines).toList functions.toList := by
  have regroup (header separator opening body closing : String) :
      header ++ uniforms ++ separator ++ functions ++ opening ++ body ++ closing =
        header ++ uniforms ++ separator ++ (functions ++ (opening ++ (body ++ closing))) := by
    simp only [String.append_assoc]
  unfold Shader.fragmentStage
  rw [regroup]
  exact holdsLines_append (endsLine_append _ (by decide)) functions
    (startsLine_append (by decide) _)

/-! ## The shader of a call -/

namespace Generator

variable {generator : Generator} {files : FileTree} {name : String} {texts : List String}

/-- The functions whose sources the shader of a call embeds, in their order. -/
def embedded (generator : Generator) (name : String) (texts : List String) : List String :=
  ((generator.needed name texts).filter fun other => !(other == name)).reverse ++ [name]

theorem mem_embedded {function : String} :
    function ∈ generator.embedded name texts ↔
      function = name ∨ function ∈ generator.needed name texts := by
  rw [embedded, List.mem_append, List.mem_reverse, List.mem_filter, List.mem_singleton]
  by_cases same : function = name
  · simp [same]
  · simp [same]

/-- A shader of a call has the uniforms that its arguments ask for, its sources with the
adapter, if there is one, and lines that declare what the arguments need, call the
function and show the result. -/
theorem shape_of_assemble
    {code : String}
    {arguments : List Argument}
    {shader : Shader}
    (assembled : generator.assemble code name arguments = .ok shader) :
    ∃ overload callee functions,
      generator.chooseOverload name arguments = .ok overload ∧
      shader.vertex = Shader.vertexStage ∧
      HoldsLines functions.toList code.toList ∧
      shader.fragment = Shader.fragmentStage
        (Shader.uniformBlock generator.vocabulary.builtins
          (Shader.uniforms generator.vocabulary.builtins [] arguments))
        functions
        (paragraph (Shader.declarations generator.vocabulary.builtins
            (Shader.usedVariables generator.vocabulary.builtins arguments)) ++
          paragraph (Shader.temporaries defaultStem 0 arguments) ++
          [callStatement (returnType overload) "result" callee
              (Shader.passedAll defaultStem 0 arguments),
            "    " ++ Shader.outputStatement (returnType overload) "result"]) := by
  rw [assemble] at assembled
  cases chosen : generator.chooseOverload name arguments with
  | error failure =>
      rw [chosen] at assembled
      cases assembled
  | ok overload =>
      rw [chosen] at assembled
      cases assembled
      refine ⟨overload, _, _, rfl, rfl, ?_, rfl⟩
      cases adapter? overload name (Overload.adapterName name) arguments with
      | none => exact .refl _
      | some adapter =>
          refine ⟨[],
            ("\n\n// Generated wrapper function to adapt arguments\n" ++ adapter).toList, ?_,
            .inl rfl, startsLine_append (by decide) adapter⟩
          dsimp only
          rw [String.append_assoc, String.toList_append]
          rfl

theorem generate_eq_ok_iff
    {code : String}
    {shader : Shader} :
    Attempt.outcome (generator.generate code name texts) = .ok shader ↔
      ∃ arguments, Attempt.outcome (generator.interpreter.describe [] texts) = .ok arguments ∧
        generator.assemble code name arguments = .ok shader :=
  Attempt.outcome_bind_eq_ok_iff

/-- The shader of a call has each of its sources in lines of their own. -/
theorem holdsLines_of_generate
    {sources : List String}
    {source : String}
    {shader : Shader}
    (generated : Attempt.outcome
      (generator.generate ("\n".intercalate sources) name texts) = .ok shader)
    (listed : source ∈ sources) : HoldsLines shader.fragment.toList source.toList := by
  obtain ⟨arguments, _, assembled⟩ := generate_eq_ok_iff.mp generated
  obtain ⟨_, _, functions, _, _, holds, fragment⟩ := shape_of_assemble assembled
  rw [fragment]
  exact ((holdsLines_fragmentStage _ functions _).trans holds).trans
    (holdsLines_intercalate (by decide) (by decide) listed)

end Generator

/-! ## The shader of a graph -/

namespace Assembly

variable {generator : Generator} {files : FileTree}

/-- The text of every function that was added is among those of the assembly. -/
def ListsSources (catalogue : Catalogue) (files : FileTree) (assembly : Assembly) : Prop :=
  ∀ name ∈ assembly.emitted,
    s!"// {name}\n{catalogue.sourceOf files name}" ∈ assembly.functions

/-- Behind the addition of functions all of them are there, and none is lost. -/
theorem ListsSources.addSources
    {catalogue : Catalogue}
    {names : List String}
    {assembly changed : Assembly}
    (lists : assembly.ListsSources catalogue files)
    (success : Attempt.outcome (addSources catalogue files names assembly) = .ok changed) :
    changed.ListsSources catalogue files ∧ assembly.emitted ⊆ changed.emitted ∧
      names ⊆ changed.emitted := by
  induction names generalizing assembly with
  | nil =>
      cases success
      exact ⟨lists, List.Subset.refl _, List.nil_subset _⟩
  | cons name rest inductionHypothesis =>
      rw [Assembly.addSources] at success
      split at success
      case isTrue contained =>
        obtain ⟨listed, kept, added⟩ := inductionHypothesis lists success
        have known := kept (List.contains_iff_mem.mp contained)
        exact ⟨listed, kept, List.cons_subset.mpr ⟨known, added⟩⟩
      case isFalse =>
        obtain ⟨source, loaded, continued⟩ := Attempt.outcome_bind_eq_ok_iff.mp success
        obtain rfl := Catalogue.sourceOf_of_outcome loaded
        split at continued
        · cases continued
        · obtain ⟨listed, kept, added⟩ := inductionHypothesis (by
            intro other present
            rcases List.mem_append.mp present with before | last
            · exact List.mem_append_left _ (lists other before)
            · rw [List.mem_singleton.mp last]
              exact List.mem_append_right _ List.mem_cons_self) continued
          have all := List.append_subset.mp kept
          exact ⟨listed, all.1, List.cons_subset.mpr ⟨all.2 List.mem_cons_self, added⟩⟩

/-- Behind the addition of a node all functions that its call depends on are there. -/
theorem ListsSources.addNode
    {graph : Graph}
    {assembly changed : Assembly}
    {node : String}
    (lists : assembly.ListsSources generator.vocabulary.catalogue files)
    (success : Attempt.outcome (addNode generator files graph assembly node) = .ok changed) :
    changed.ListsSources generator.vocabulary.catalogue files ∧
      assembly.emitted ⊆ changed.emitted ∧
      ∀ call, graph.find? node = some call ->
        generator.needed call.function (call.arguments.map Reference.substitute) ⊆
          changed.emitted := by
  cases found : graph.find? node with
  | none =>
      rw [Assembly.addNode, found] at success
      cases success
  | some call =>
      obtain ⟨arguments, sourced, type, adapter, _, _, added, _, rfl⟩ :=
        (addNode_eq_ok_iff found).mp success
      obtain ⟨listed, kept, all⟩ := ListsSources.addSources (by exact lists) added
      refine ⟨fun name present => ?_, kept, ?_⟩
      · exact List.mem_append_left _ (listed name present)
      · rintro _ ⟨⟩
        exact all

/-- By induction on the chain: all functions that the calls of its nodes depend on are
there behind the addition of its nodes. -/
theorem ListsSources.foldlM
    {graph : Graph}
    {chain : List String}
    {assembly changed : Assembly}
    (lists : assembly.ListsSources generator.vocabulary.catalogue files)
    (success : Attempt.outcome
      (chain.foldlM (Assembly.addNode generator files graph) assembly) = .ok changed) :
    changed.ListsSources generator.vocabulary.catalogue files ∧
      assembly.emitted ⊆ changed.emitted ∧
      ∀ node ∈ chain, ∀ call, graph.find? node = some call ->
        generator.needed call.function (call.arguments.map Reference.substitute) ⊆
          changed.emitted := by
  induction chain generalizing assembly with
  | nil =>
      cases success
      exact ⟨lists, List.Subset.refl _, by simp⟩
  | cons first rest inductionHypothesis =>
      rw [List.foldlM_cons] at success
      obtain ⟨next, added, others⟩ := Attempt.outcome_bind_eq_ok_iff.mp success
      obtain ⟨nextLists, kept, own⟩ := lists.addNode added
      obtain ⟨changedLists, keptBehind, all⟩ := inductionHypothesis nextLists others
      refine ⟨changedLists, List.Subset.trans kept keptBehind, fun node listed call found => ?_⟩
      rcases List.mem_cons.mp listed with rfl | later
      · exact List.Subset.trans (own call found) keptBehind
      · exact all node later call found

end Assembly

/-- The shader of a graph is what its nodes add up to. -/
theorem Generator.finish_of_unify
    {generator : Generator}
    {files : FileTree}
    {graph : Graph}
    {chain : List String}
    {shader : Shader}
    (unified : Attempt.outcome (generator.unify files graph chain) = .ok shader) :
    ∃ assembly last,
      Attempt.outcome (chain.foldlM (Assembly.addNode generator files graph) {}) = .ok assembly ∧
      chain.getLast? = some last ∧
      shader = assembly.finish generator.vocabulary.builtins last := by
  obtain ⟨assembly, assembled, finished⟩ := Attempt.outcome_bind_eq_ok_iff.mp unified
  split at finished
  case h_1 => cases finished
  case h_2 last isLast =>
    cases finished
    exact ⟨assembly, last, assembled, isLast, rfl⟩

/-- The shader of a graph has the source of each function that a call of its nodes
depends on in lines of its own. -/
theorem Generator.holdsLines_of_unify
    {generator : Generator}
    {files : FileTree}
    {graph : Graph}
    {chain : List String}
    {node function : String}
    {call : Node}
    {shader : Shader}
    (unified : Attempt.outcome (generator.unify files graph chain) = .ok shader)
    (listed : node ∈ chain)
    (found : graph.find? node = some call)
    (needs : function ∈
      generator.needed call.function (call.arguments.map Reference.substitute)) :
    HoldsLines shader.fragment.toList (generator.sourceOf files function).toList := by
  obtain ⟨assembly, last, assembled, _, rfl⟩ := finish_of_unify unified
  have none : Assembly.ListsSources generator.vocabulary.catalogue files {} :=
    fun _ => (nomatch ·)
  obtain ⟨lists, _, all⟩ := none.foldlM assembled
  have present := lists function (all node listed call found needs)
  have stands := holdsLines_fragmentStage
    (Shader.uniformBlock generator.vocabulary.builtins assembly.uniforms)
    ("\n\n".intercalate assembly.functions)
  refine ((stands _).trans (holdsLines_intercalate (by decide) (by decide) present)).trans ?_
  refine ⟨("// " ++ function ++ "\n").toList, [], ?_, endsLine_append _ (by decide), .inl rfl⟩
  rw [List.append_nil, ← String.toList_append]
  rfl

end ShaderGraph
