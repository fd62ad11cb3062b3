import ShaderGraph.Proofs.Call.Site
import ShaderGraph.Proofs.Shader.Embedding

/-!
# Definitions in the shader of a graph

The functions of the shader of a chain are the sources of the functions of plugins that the
calls of its nodes depend on, each of them once, and the adapters of these calls. Each time
a node stands in the chain it has an adapter if the chosen overload has other parameters than
the types of its arguments, and that adapter stands behind the source of the function that it
calls.
-/

namespace ShaderGraph

/-! ## Steps of a chain -/

namespace Block

/-- The types of the results of blocks. The result of a node that was named before is given
the type that it has now. -/
def results (blocks : List Block) : LocalTypes :=
  blocks.foldl (fun locals block => locals.set block.result block.type) []

/-- A further block adds its result. -/
theorem results_concat (blocks : List Block) (block : Block) :
    results (blocks ++ [block]) = (results blocks).set block.result block.type := by
  rw [results, List.foldl_append]
  rfl

/-- The arguments of a block, with results in the place of references. -/
def texts (block : Block) : List String :=
  block.call.arguments.map Reference.substitute

/-- A function is called by a block: it is the function of its node, or a call of it stands
in one of the arguments, at any depth. -/
def Calls (block : Block) (function : String) : Prop :=
  function = block.call.function ∨
    ∃ text ∈ block.texts, ∃ site : Call.Site,
      site.IsCallIn text.toList ∧ site.call.name = function

/-- A block needs the source of a function that it calls, that is not built in and that a
plugin offers. -/
def Needs (vocabulary : Vocabulary) (block : Block) (function : String) : Prop :=
  block.Calls function ∧ vocabulary.builtins.isCallable function = false ∧
    ∃ pluginAlias, vocabulary.catalogue.owner? function = some pluginAlias

/-- An overload is chosen for the call of a block, which is one of a function that is not
built in. -/
def Selects (generator : Generator) (block : Block) (overload : Overload) : Prop :=
  generator.vocabulary.builtins.isCallable block.call.function = false ∧
    generator.chooseOverload block.call.function block.arguments = .ok (some overload)

/-- A text is the adapter of a block: the parameters of the chosen overload have other types
than the arguments, and the text passes the arguments on to them. -/
def Adapts (generator : Generator) (block : Block) (text : String) : Prop :=
  ∃ overload, block.Selects generator overload ∧
    overload.parameters ≠ block.arguments.map Argument.type ∧
    text = overload.adapter block.call.function
      (Assembly.adapterName block.call.function block.node) block.arguments

/-- A block stands behind others: its node is registered, its arguments are described by the
types that the results have there, all functions that it calls are known, and its call has
the type and the adapter that were found for it. -/
structure StandsBehind
    (generator : Generator)
    (graph : Graph)
    (before : List Block)
    (block : Block) : Prop where
  found : graph.find? block.node = some block.call
  described : Attempt.outcome
    (generator.interpreter.describe (results before) block.texts) = .ok block.arguments
  known : ∀ function, block.Calls function -> generator.vocabulary.Knows function
  targeted : Assembly.target generator
    (generator.vocabulary.analyze block.call.function block.texts).value
    block.node block.arguments = .ok (block.type, block.adapter)

variable {generator : Generator} {graph : Graph} {before : List Block} {block : Block}
  {function : String}

/-- What a block calls is what one search of its arguments finds. -/
theorem calls_iff :
    block.Calls function ↔
      function ∈ block.call.function :: (Vocabulary.searched block.texts).map Call.name := by
  rw [Calls, List.mem_cons, Vocabulary.searched, List.map_flatMap]
  simp only [List.mem_flatMap, List.mem_map, Call.mem_value_extract_iff]
  refine or_congr_right (exists_congr fun text => and_congr_right fun _ => ?_)
  constructor
  · rintro ⟨site, isCall, rfl⟩
    exact ⟨site.call, ⟨site, isCall, rfl⟩, rfl⟩
  · rintro ⟨_, ⟨site, isCall, rfl⟩, same⟩
    exact ⟨site, isCall, same⟩

namespace StandsBehind

/-- What is called and not built in is offered by a plugin. -/
theorem exists_owner
    (stands : block.StandsBehind generator graph before)
    (calls : block.Calls function)
    (notBuiltIn : generator.vocabulary.builtins.isCallable function = false) :
    ∃ pluginAlias, generator.vocabulary.catalogue.owner? function = some pluginAlias :=
  (stands.known function calls).resolve_left (by rw [notBuiltIn]; exact Bool.false_ne_true)

/-- The functions of plugins that the analysis lists are those whose sources are needed. -/
theorem mem_needed_iff (stands : block.StandsBehind generator graph before) :
    function ∈ generator.needed block.call.function block.texts ↔
      block.Needs generator.vocabulary function := by
  have divides := Vocabulary.divides_analyze fun needed listed =>
    stands.known needed (calls_iff.mpr listed)
  rw [Generator.needed, divides.plugins, ← calls_iff, Needs]
  exact and_congr_right fun calls => (and_iff_left_of_imp (stands.exists_owner calls)).symm

/-- The called function itself is needed unless it is built in. -/
theorem needs_function
    (stands : block.StandsBehind generator graph before)
    (notBuiltIn : generator.vocabulary.builtins.isCallable block.call.function = false) :
    block.Needs generator.vocabulary block.call.function :=
  ⟨.inl rfl, notBuiltIn, stands.exists_owner (.inl rfl) notBuiltIn⟩

/-- A function that is built in is called without an adapter. -/
theorem adapter_of_isCallable
    (stands : block.StandsBehind generator graph before)
    (builtIn : generator.vocabulary.builtins.isCallable block.call.function = true) :
    block.adapter = none := by
  have notListed : block.call.function ∉ generator.needed block.call.function block.texts := by
    rw [stands.mem_needed_iff, Needs, builtIn]
    rintro ⟨_, impossible, _⟩
    cases impossible
  have skips : ¬(generator.needed block.call.function block.texts).contains
      block.call.function = true := mt List.contains_iff_mem.mp notListed
  have main : (generator.vocabulary.analyze block.call.function block.texts).value.main =
      block.call.function := by
    rw [Vocabulary.value_analyze]
  have targeted := stands.targeted
  rw [Generator.needed] at skips
  rw [Assembly.target, main, if_neg skips] at targeted
  exact (Prod.mk.inj (Except.ok.inj targeted)).2.symm

/-- A function of a plugin is called as the chosen overload asks for. -/
theorem adapter_of_plugin
    (stands : block.StandsBehind generator graph before)
    (notBuiltIn : generator.vocabulary.builtins.isCallable block.call.function = false) :
    ∃ overload, generator.chooseOverload block.call.function block.arguments = .ok overload ∧
      block.adapter = Generator.adapter? overload block.call.function
        (Assembly.adapterName block.call.function block.node) block.arguments := by
  have listed := stands.mem_needed_iff.mpr (stands.needs_function notBuiltIn)
  obtain ⟨overload, chosen, -, adapter⟩ := (Generator.target_eq_ok_iff listed).mp stands.targeted
  exact ⟨overload, chosen, adapter⟩

/-- A block has an adapter if the overload that is chosen for it asks for one. -/
theorem adapter_eq_some_iff
    (stands : block.StandsBehind generator graph before)
    {text : String} : block.adapter = some text ↔ block.Adapts generator text := by
  cases builtIn : generator.vocabulary.builtins.isCallable block.call.function with
  | true =>
      rw [stands.adapter_of_isCallable builtIn]
      constructor
      · intro impossible
        cases impossible
      · rintro ⟨_, ⟨notBuiltIn, _⟩, _⟩
        rw [builtIn] at notBuiltIn
        cases notBuiltIn
  | false =>
      obtain ⟨chosen?, chosen, adapter⟩ := stands.adapter_of_plugin builtIn
      rw [adapter, Adapts]
      simp only [Selects, builtIn, chosen, true_and]
      cases chosen? with
      | none => simp [Generator.adapter?]
      | some overload =>
          rw [Generator.adapter?, Overload.needsAdapter]
          constructor
          · intro written
            split at written
            case isTrue differs =>
              cases written
              exact ⟨overload, rfl, bne_iff_ne.mp differs, rfl⟩
            case isFalse => cases written
          · rintro ⟨_, ⟨⟩, differs, rfl⟩
            exact if_pos (bne_iff_ne.mpr differs)

end StandsBehind
end Block

/-! ## Definitions -/

/-- What is written among the functions of a shader: the source of a function under its name,
or the adapter of a block. -/
inductive Definition
  | source (function : String)
  | adapter (block : Block)

namespace Definition

/-- The text of a definition. -/
def text (generator : Generator) (files : FileTree) : Definition -> String
  | .source function => s!"// {function}\n{generator.sourceOf files function}"
  | .adapter block => block.adapter.getD ""

/-- The functions whose sources are among definitions, in their order. -/
def sources (definitions : List Definition) : List String :=
  definitions.filterMap fun
    | .source function => some function
    | .adapter _ => none

/-- The blocks whose adapters are among definitions, in their order. -/
def adapters (definitions : List Definition) : List Block :=
  definitions.filterMap fun
    | .source _ => none
    | .adapter block => some block

/-- An adapter stands behind the source of the function that it calls. -/
def StandsBehind (before : List Definition) : Definition -> Prop
  | .source _ => True
  | .adapter block => block.call.function ∈ sources before

/-- What a block adds: the sources that are not there yet, and its adapter. -/
def added (functions : List String) (block : Block) : List Definition :=
  functions.map .source ++ if block.adapter.isSome then [.adapter block] else []

variable {functions : List String} {block : Block}

/-- The sources of two lists are those of both. -/
theorem sources_append (definitions others : List Definition) :
    sources (definitions ++ others) = sources definitions ++ sources others :=
  List.filterMap_append

theorem adapters_append (definitions others : List Definition) :
    adapters (definitions ++ others) = adapters definitions ++ adapters others :=
  List.filterMap_append

theorem sources_map_source (functions : List String) :
    sources (functions.map .source) = functions := by
  rw [sources, List.filterMap_map]
  exact List.filterMap_some

theorem adapters_map_source (functions : List String) : adapters (functions.map .source) = [] := by
  rw [adapters, List.filterMap_map]
  exact List.filterMap_eq_nil_iff.mpr fun _ _ => rfl

/-- The functions that are added for a block are its sources. -/
theorem sources_added (functions : List String) (block : Block) :
    sources (added functions block) = functions := by
  rw [added, sources_append, sources_map_source]
  split <;> exact List.append_nil functions

theorem adapters_added (functions : List String) (block : Block) :
    adapters (added functions block) = [block].filter fun block => block.adapter.isSome := by
  rw [added, adapters_append, adapters_map_source, List.nil_append, List.filter_singleton]
  cases block.adapter.isSome <;> rfl

/-- The texts that are added for a block are its sources and its adapter. -/
theorem map_text_added (generator : Generator) (files : FileTree) :
    (added functions block).map (text generator files) =
      functions.map (fun function => s!"// {function}\n{generator.sourceOf files function}") ++
        block.adapter.toList := by
  rw [added, List.map_append, List.map_map]
  refine congrArg₂ _ rfl ?_
  cases adapter : block.adapter with
  | none => rfl
  | some written => simp [text, adapter]

end Definition

/-! ## What a chain defines -/

/-- Definitions are those of the blocks of a chain. -/
structure Defines
    (generator : Generator)
    (files : FileTree)
    (graph : Graph)
    (blocks : List Block)
    (definitions : List Definition) : Prop where
  /-- Every block comes from its node. -/
  stands : Stepwise (Block.StandsBehind generator graph) blocks
  /-- No source is written twice. -/
  once : (Definition.sources definitions).Nodup
  /-- Written are the sources that some block needs, and no others. -/
  needed : ∀ function, function ∈ Definition.sources definitions ↔
    ∃ block ∈ blocks, block.Needs generator.vocabulary function
  /-- A source is written in full, as it stands in the file of its function. -/
  full : ∀ function ∈ Definition.sources definitions, ∃ path source,
    generator.vocabulary.catalogue.sourcePath? function = some path ∧
      files.read path = .ok source ∧ source ≠ "" ∧
      (Definition.source function).text generator files = s!"// {function}\n{source}"
  /-- The adapter of every block that has one is written once, in the order of the blocks. -/
  adapters : Definition.adapters definitions = blocks.filter fun block => block.adapter.isSome
  /-- A block has an adapter if the overload that is chosen for it has other parameters than
  the types of its arguments. -/
  adapted : ∀ block ∈ blocks, ∀ text, block.adapter = some text ↔ block.Adapts generator text
  /-- An adapter is written behind the source of the function that it calls. -/
  behind : Stepwise Definition.StandsBehind definitions

/-- A source that is not empty was read from its file. -/
theorem Generator.exists_read_of_sourceOf
    {generator : Generator}
    {files : FileTree}
    {function : String}
    (solid : (generator.sourceOf files function).isEmpty = false) :
    ∃ path source, generator.vocabulary.catalogue.sourcePath? function = some path ∧
      files.read path = .ok source ∧ source ≠ "" ∧ generator.sourceOf files function = source := by
  rw [sourceOf, Catalogue.sourceOf, Catalogue.loadSource] at solid ⊢
  cases place : generator.vocabulary.catalogue.sourcePath? function with
  | none =>
      rw [place] at solid
      cases solid
  | some path =>
      rw [place] at solid
      dsimp only at solid ⊢
      cases found : files.read path with
      | error error =>
          rw [found] at solid
          cases error <;> cases solid
      | ok source =>
          rw [found] at solid
          refine ⟨path, source, rfl, found, ?_, rfl⟩
          rintro rfl
          cases solid

section

variable {generator : Generator} {files : FileTree} {graph : Graph} {blocks : List Block}
  {definitions : List Definition} {functions : List String} {block : Block}

theorem Defines.nil (generator : Generator) (files : FileTree) (graph : Graph) :
    Defines generator files graph [] [] where
  stands := Stepwise.nil
  once := .nil
  needed := by simp [Definition.sources]
  full := by simp [Definition.sources]
  adapters := rfl
  adapted := by simp
  behind := Stepwise.nil

/-- Whatever sources a block adds, its adapter stands behind the one that it calls. -/
theorem stepwise_added
    (behind : Stepwise Definition.StandsBehind definitions)
    (present : block.adapter.isSome = true ->
      block.call.function ∈ Definition.sources definitions ++ functions) :
    Stepwise Definition.StandsBehind (definitions ++ Definition.added functions block) := by
  rw [Definition.added, ← List.append_assoc]
  have sourced : Stepwise Definition.StandsBehind (definitions ++ functions.map .source) := by
    refine behind.append fun before definition after split => ?_
    obtain ⟨function, _, rfl⟩ := List.mem_map.mp
      (split ▸ List.mem_append_right before List.mem_cons_self : definition ∈ functions.map .source)
    trivial
  split
  case isTrue adapted =>
    refine Stepwise.concat_iff.mpr ⟨sourced, ?_⟩
    rw [Definition.StandsBehind, Definition.sources_append, Definition.sources_map_source]
    exact present adapted
  case isFalse =>
    rw [List.append_nil]
    exact sourced

/-- A chain goes on with a block, which adds the sources that are not there yet and its
adapter. -/
theorem Defines.concat
    (defines : Defines generator files graph blocks definitions)
    (stands : block.StandsBehind generator graph blocks)
    (nodup : functions.Nodup)
    (members : ∀ function, function ∈ functions ↔
      block.Needs generator.vocabulary function ∧ function ∉ Definition.sources definitions)
    (solid : ∀ function ∈ functions, (generator.sourceOf files function).isEmpty = false) :
    Defines generator files graph (blocks ++ [block])
      (definitions ++ Definition.added functions block) where
  stands := Stepwise.concat_iff.mpr ⟨defines.stands, stands⟩
  once := by
    rw [Definition.sources_append, Definition.sources_added]
    exact List.nodup_append'.mpr ⟨defines.once, nodup, fun function earlier later =>
      ((members function).mp later).2 earlier⟩
  needed function := by
    rw [Definition.sources_append, Definition.sources_added, List.mem_append, members,
      defines.needed]
    simp only [List.mem_append, List.mem_singleton, or_and_right, exists_or, exists_eq_left]
    constructor
    · exact Or.imp_right And.left
    · rintro (earlier | needs)
      · exact .inl earlier
      · exact (em _).imp_right fun absent => ⟨needs, absent⟩
  full := by
    rw [Definition.sources_append, Definition.sources_added]
    refine List.forall_mem_append.mpr ⟨defines.full, fun function listed => ?_⟩
    obtain ⟨path, source, place, found, written, same⟩ :=
      Generator.exists_read_of_sourceOf (solid function listed)
    exact ⟨path, source, place, found, written, by rw [Definition.text, same]⟩
  adapters := by
    rw [Definition.adapters_append, Definition.adapters_added, defines.adapters,
      List.filter_append]
  adapted := List.forall_mem_append.mpr ⟨defines.adapted,
    List.forall_mem_singleton.mpr fun _ => stands.adapter_eq_some_iff⟩
  behind := by
    refine stepwise_added defines.behind fun adapted => ?_
    obtain ⟨text, written⟩ := Option.isSome_iff_exists.mp adapted
    obtain ⟨_, ⟨notBuiltIn, _⟩, _⟩ := stands.adapter_eq_some_iff.mp written
    rw [List.mem_append, members]
    exact (em _).imp_right fun absent => ⟨stands.needs_function notBuiltIn, absent⟩

end

namespace Assembly

variable {generator : Generator} {files : FileTree} {graph : Graph} {blocks : List Block}
  {definitions : List Definition} {assembly changed : Assembly}

/-- The functions of an assembly are definitions of the blocks of its chain. -/
structure IsDefinedBy
    (generator : Generator)
    (files : FileTree)
    (graph : Graph)
    (blocks : List Block)
    (definitions : List Definition)
    (assembly : Assembly) : Prop where
  defines : Defines generator files graph blocks definitions
  locals : assembly.locals = Block.results blocks
  emitted : assembly.emitted = Definition.sources definitions
  functions : assembly.functions = definitions.map (Definition.text generator files)

theorem isDefinedBy_nil (generator : Generator) (files : FileTree) (graph : Graph) :
    IsDefinedBy generator files graph [] [] {} where
  defines := .nil generator files graph
  locals := rfl
  emitted := rfl
  functions := rfl

/-- Behind the addition of functions those are there that were not there before. -/
theorem exists_added_of_addSources
    {names : List String}
    (success : Attempt.outcome
      (addSources generator.vocabulary.catalogue files names assembly) = .ok changed) :
    ∃ added : List String, added.Nodup ∧
      (∀ name, name ∈ added ↔ name ∈ names ∧ name ∉ assembly.emitted) ∧
      (∀ name ∈ added, (generator.sourceOf files name).isEmpty = false) ∧
      changed.emitted = assembly.emitted ++ added ∧
      changed.functions = assembly.functions ++
        added.map fun name => s!"// {name}\n{generator.sourceOf files name}" := by
  induction names generalizing assembly with
  | nil =>
      cases success
      exact ⟨[], .nil, by simp, by simp, by simp, by simp⟩
  | cons name rest inductionHypothesis =>
      rw [addSources] at success
      split at success
      case isTrue contained =>
        obtain ⟨added, nodup, members, solid, emitted, functions⟩ := inductionHypothesis success
        have present : name ∈ assembly.emitted := List.contains_iff_mem.mp contained
        refine ⟨added, nodup, fun other => ?_, solid, emitted, functions⟩
        rw [members, List.mem_cons]
        refine and_congr_left fun absent => (or_iff_right ?_).symm
        rintro rfl
        exact absent present
      case isFalse fresh =>
        obtain ⟨source, loaded, continued⟩ := Attempt.outcome_bind_eq_ok_iff.mp success
        obtain rfl := Catalogue.sourceOf_of_outcome loaded
        split at continued
        · cases continued
        case isFalse written =>
          obtain ⟨added, nodup, members, solid, emitted, functions⟩ :=
            inductionHypothesis continued
          have absent : name ∉ assembly.emitted := fun present =>
            fresh (List.contains_iff_mem.mpr present)
          refine ⟨name :: added, List.nodup_cons.mpr ⟨fun repeated => ?_, nodup⟩, fun other => ?_,
            List.forall_mem_cons.mpr ⟨Bool.eq_false_iff.mpr written, solid⟩, ?_, ?_⟩
          · exact ((members name).mp repeated).2 (List.mem_append_right _ List.mem_cons_self)
          · rw [List.mem_cons, List.mem_cons, members, List.mem_append, List.mem_singleton]
            by_cases same : other = name
            · simp [same, absent]
            · simp [same]
          · rw [emitted, List.append_assoc, List.singleton_append]
          · rw [functions, List.append_assoc]
            rfl

/-- A node adds its block with the definitions that the block needs. -/
theorem IsDefinedBy.addNode
    {node : String}
    (isDefined : IsDefinedBy generator files graph blocks definitions assembly)
    (success : Attempt.outcome (addNode generator files graph assembly node) = .ok changed) :
    ∃ block added, block.node = node ∧
      IsDefinedBy generator files graph (blocks ++ [block]) (definitions ++ added) changed := by
  cases found : graph.find? node with
  | none =>
      rw [Assembly.addNode, found] at success
      cases success
  | some call =>
      obtain ⟨arguments, sourced, type, adapter, described, noUnknown, collected, targeted, rfl⟩ :=
        (addNode_eq_ok_iff found).mp success
      let block : Block := ⟨node, call, arguments, type, adapter⟩
      have stands : block.StandsBehind generator graph blocks := {
        found
        described := by rw [← isDefined.locals]; exact described
        known := fun function calls => by
          have valid := Option.isNone_iff_eq_none.mpr noUnknown
          exact Vocabulary.isValid_analyze_iff.mp valid function (Block.calls_iff.mp calls)
        targeted }
      obtain ⟨functions, nodup, members, solid, emitted, written⟩ :=
        exists_added_of_addSources collected
      refine ⟨block, Definition.added functions block, rfl, ?_, ?_, ?_, ?_⟩
      · refine isDefined.defines.concat stands nodup (fun function => ?_) solid
        rw [members, ← isDefined.emitted, ← stands.mem_needed_iff]
        rfl
      · rw [Block.results_concat, ← isDefined.locals, addSources_keeps collected]
        rfl
      · rw [Definition.sources_append, Definition.sources_added, ← isDefined.emitted]
        exact emitted
      · rw [List.map_append, Definition.map_text_added, ← isDefined.functions, ← List.append_assoc]
        exact congrArg (· ++ adapter.toList) written

/-- By induction on the chain: the assembly of a chain has one block for each time that a node
stands in it. -/
theorem IsDefinedBy.foldlM
    {chain : List String}
    (isDefined : IsDefinedBy generator files graph blocks definitions assembly)
    (success : Attempt.outcome
      (chain.foldlM (Assembly.addNode generator files graph) assembly) = .ok changed) :
    ∃ all written, all.map Block.node = blocks.map Block.node ++ chain ∧
      IsDefinedBy generator files graph all written changed := by
  induction chain generalizing blocks definitions assembly with
  | nil =>
      cases success
      exact ⟨blocks, definitions, (List.append_nil _).symm, isDefined⟩
  | cons node rest inductionHypothesis =>
      rw [List.foldlM_cons] at success
      obtain ⟨next, added, others⟩ := Attempt.outcome_bind_eq_ok_iff.mp success
      obtain ⟨block, new, rfl, isNext⟩ := isDefined.addNode added
      obtain ⟨all, written, nodes, isLast⟩ := inductionHypothesis isNext others
      refine ⟨all, written, nodes.trans ?_, isLast⟩
      rw [List.map_append, List.map_singleton, List.append_assoc, List.singleton_append]

end Assembly

/-- The functions of the shader of a chain are the sources that its calls depend on, each of
them once, and an adapter for each time that a node with other argument types stands in the
chain, behind the source that it calls. In a chain without repetition no node has two. -/
theorem Generator.unify_defines_once
    {generator : Generator}
    {files : FileTree}
    {graph : Graph}
    {chain : List String}
    {shader : Shader}
    (unified : Attempt.outcome (generator.unify files graph chain) = .ok shader) :
    ∃ (blocks : List Block) (definitions : List Definition) (uniforms : String)
      (lines : List String),
      blocks.map Block.node = chain ∧
      Defines generator files graph blocks definitions ∧
      (chain.Nodup -> ((Definition.adapters definitions).map Block.node).Nodup) ∧
      shader.fragment = Shader.fragmentStage uniforms
        ("\n\n".intercalate (definitions.map (Definition.text generator files))) lines := by
  obtain ⟨assembly, last, assembled, _, rfl⟩ := finish_of_unify unified
  obtain ⟨blocks, definitions, nodes, isDefined⟩ :=
    (Assembly.isDefinedBy_nil generator files graph).foldlM assembled
  rw [List.map_nil, List.nil_append] at nodes
  subst nodes
  refine ⟨blocks, definitions,
    Shader.uniformBlock generator.vocabulary.builtins assembly.uniforms,
    paragraph (Shader.declarations generator.vocabulary.builtins assembly.mentioned) ++
      assembly.body ++
      ["    " ++ Shader.outputStatement assembly.returnType (Reference.resultName last)],
    rfl, isDefined.defines, fun nodup => ?_, ?_⟩
  · rw [isDefined.defines.adapters]
    exact (List.filter_sublist.map Block.node).nodup nodup
  · rw [Assembly.finish, isDefined.functions]

/-- Two plugins with a function each. -/
def tinted : Generator where
  vocabulary :=
    { catalogue := [
        ("palettes",
          { functions := [⟨"palette", "palette.glsl", "palette", [⟨"vec3", ["float"]⟩]⟩]
            path := "plugins/palettes" }),
        ("waves",
          { functions := [⟨"ripple", "ripple.glsl", "ripple", [⟨"float", ["vec2"]⟩]⟩]
            path := "plugins/waves" })] }

/-- The sources of the functions of `tinted`. -/
def tintedSources : FileTree where
  entries := [
    (["plugins"], .directory),
    (["plugins", "palettes"], .directory),
    (["plugins", "palettes", "palette.glsl"],
      .text "vec3 palette(float at) \x7b return vec3(at); \x7d"),
    (["plugins", "waves"], .directory),
    (["plugins", "waves", "ripple.glsl"], .text "float ripple(vec2 at) \x7b return at.x; \x7d")]

/-- A node that passes two numbers for one, and a node that needs both functions, one of them
for an argument of the other. -/
def tintedGraph : Graph :=
  (Graph.add {} "palette" ["st"]).add "palette" ["ripple(st * $shader_1.xy)"]

theorem tinted_defines_once :
    ∃ (shader : Shader) (blocks : List Block) (definitions : List Definition) (uniforms : String)
      (lines : List String),
      Attempt.outcome (tinted.unify tintedSources tintedGraph ["shader_1", "shader_2"]) =
        .ok shader ∧
      blocks.map Block.node = ["shader_1", "shader_2"] ∧
      Defines tinted tintedSources tintedGraph blocks definitions ∧
      ((Definition.adapters definitions).map Block.node).Nodup ∧
      shader.fragment = Shader.fragmentStage uniforms
        ("\n\n".intercalate (definitions.map (Definition.text tinted tintedSources))) lines := by
  have accepted : (Attempt.outcome
      (tinted.unify tintedSources tintedGraph ["shader_1", "shader_2"])).toBool = true := by
    decide +kernel
  cases unified : Attempt.outcome
      (tinted.unify tintedSources tintedGraph ["shader_1", "shader_2"]) with
  | error failure =>
      rw [unified] at accepted
      cases accepted
  | ok shader =>
      obtain ⟨blocks, definitions, uniforms, lines, nodes, defines, single, fragment⟩ :=
        Generator.unify_defines_once unified
      exact ⟨shader, blocks, definitions, uniforms, lines, rfl, nodes, defines,
        single (by decide), fragment⟩

/-- In a chain that names a node twice its adapter is written twice, though the source that the
adapter calls is written once. -/
theorem repeated_adapts_twice :
    (Attempt.outcome (tinted.unify tintedSources tintedGraph ["shader_1", "shader_1"])).map
        Shader.fragment =
      .ok (Shader.fragmentStage "uniform vec2 resolution;"
        ("\n\n".intercalate [
          "// palette\nvec3 palette(float at) \x7b return vec3(at); \x7d",
          "vec3 palette_shader_1(vec2 arg0) \x7b\n    return palette(arg0.x);\n\x7d\n",
          "vec3 palette_shader_1(vec2 arg0) \x7b\n    return palette(arg0.x);\n\x7d\n"])
        [ "    vec2 st = gl_FragCoord.xy / resolution;", "",
          "    vec3 shader_1_result = palette_shader_1(st);",
          "    vec3 shader_1_result = palette_shader_1(st);",
          "    outputColor = vec4(shader_1_result, 1.0);"]) := by
  decide +kernel

end ShaderGraph
