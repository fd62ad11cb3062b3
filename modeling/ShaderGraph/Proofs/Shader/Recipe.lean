import ShaderGraph.Host.Basic
import ShaderGraph.Proofs.Call.Discovery
import ShaderGraph.Proofs.Graph.Assembly

/-!
# What the shader of a call is made of

A call of a function of a plugin becomes a shader in two ways: as the shader of one
call, and as the shader of a graph with one node. Each way has its own names for
what it generates and its own manner of putting sources together, which are its
layout. Everything else is determined by the call, and is its recipe.
-/

namespace ShaderGraph

/-- How generated names are spelled, and what stands before and between the sources
of functions. -/
structure Layout where
  stem : String
  result : String
  adapterName : String
  separator : String
  heading : String -> String
  adapterHeading : String

/-- The layout of the shader of one call. -/
def Layout.ofCall (function : String) : Layout where
  stem := Generator.defaultStem
  result := "result"
  adapterName := Overload.adapterName function
  separator := "\n"
  heading := fun _ => ""
  adapterHeading := "\n\n// Generated wrapper function to adapt arguments\n"

/-- The layout of the shader of a graph whose only node has the given name. -/
def Layout.ofNode (function node : String) : Layout where
  stem := Assembly.stemOf node
  result := Reference.resultName node
  adapterName := Assembly.adapterName function node
  separator := "\n\n"
  heading := fun name => s!"// {name}\n"
  adapterHeading := "\n\n"

/-- What a call asks of its shader: the described arguments, the overload that the
call goes to, the functions of plugins with their sources, the directory of
includes, and the uniforms that are refreshed with every frame. -/
structure Recipe where
  builtins : Builtins
  function : String
  arguments : List Argument
  overload : Option Overload
  sources : List (String × String)
  directory : String
  refreshesTime : Bool
  refreshesResolution : Bool

namespace Recipe

/-- The type of the result. -/
def returnType (recipe : Recipe) : String :=
  Generator.returnType recipe.overload

/-- The declarations of the uniforms that the arguments ask for. -/
def uniforms (recipe : Recipe) : String :=
  Shader.uniformBlock recipe.builtins (Shader.uniforms recipe.builtins [] recipe.arguments)

/-- The adapter of the call under the name that a layout gives it, if it needs one. -/
def adapter? (recipe : Recipe) (layout : Layout) : Option String :=
  Generator.adapter? recipe.overload recipe.function layout.adapterName recipe.arguments

/-- The function that is called: the adapter, if there is one. -/
def callee (recipe : Recipe) (layout : Layout) : String :=
  if (recipe.adapter? layout).isSome then layout.adapterName else recipe.function

/-- The lines that call the function and show the result. -/
def closing (recipe : Recipe) (layout : Layout) : List String :=
  [Generator.callStatement recipe.returnType layout.result (recipe.callee layout)
      (Shader.passedAll layout.stem 0 recipe.arguments),
    "    " ++ Shader.outputStatement recipe.returnType layout.result]

/-- The lines of the main function, empty ones aside. -/
def lines (recipe : Recipe) (layout : Layout) : List String :=
  Shader.declarations recipe.builtins
      (Shader.usedVariables recipe.builtins recipe.arguments) ++
    Shader.temporaries layout.stem 0 recipe.arguments ++ recipe.closing layout

/-- The text of listed sources, with the adapter behind them. -/
def functions (recipe : Recipe) (layout : Layout) (listed : List (String × String)) : String :=
  layout.separator.intercalate (listed.map fun source => layout.heading source.1 ++ source.2) ++
    match recipe.adapter? layout with
    | none => ""
    | some adapter => layout.adapterHeading ++ adapter

/-- A fragment stage has the uniforms of a recipe, each of its sources once and in any
order, and the lines of its main function with empty lines between them. -/
def Writes (recipe : Recipe) (layout : Layout) (fragment : String) : Prop :=
  ∃ (listed : List (String × String)) (lines : List String),
    listed.Perm recipe.sources ∧
    lines.filter (fun line => !line.isEmpty) = recipe.lines layout ∧
    fragment = Shader.fragmentStage recipe.uniforms (recipe.functions layout listed) lines

/-- An artifact is made by a recipe. It refreshes uniforms only if it has a program. -/
structure Makes (recipe : Recipe) (layout : Layout) (artifact : Artifact) : Prop where
  vertex : artifact.vertex = Shader.vertexStage
  fragment : recipe.Writes layout artifact.fragment
  returnType : artifact.returnType = recipe.returnType
  directory : artifact.directory = recipe.directory
  time : artifact.refreshesTime = (artifact.program.isSome && recipe.refreshesTime)
  resolution :
    artifact.refreshesResolution = (artifact.program.isSome && recipe.refreshesResolution)

end Recipe

/-- The functions of plugins that a call depends on. -/
def Generator.needed (generator : Generator) (name : String) (texts : List String) :
    List String :=
  (generator.vocabulary.analyze name texts).value.pluginFunctions

/-- The source of a function, which is empty if it cannot be read. -/
def Catalogue.sourceOf (catalogue : Catalogue) (files : FileTree) (function : String) : String :=
  match Attempt.outcome (catalogue.loadSource files function) with
  | .ok source => source
  | .error _ => ""

theorem Catalogue.sourceOf_of_outcome
    {catalogue : Catalogue}
    {files : FileTree}
    {function source : String}
    (loaded : Attempt.outcome (catalogue.loadSource files function) = .ok source) :
    catalogue.sourceOf files function = source := by
  rw [sourceOf, loaded]

/-- A source that is not empty was loaded. -/
theorem Catalogue.outcome_of_sourceOf
    {catalogue : Catalogue}
    {files : FileTree}
    {function : String}
    (solid : (catalogue.sourceOf files function).isEmpty = false) :
    Attempt.outcome (catalogue.loadSource files function) =
      .ok (catalogue.sourceOf files function) := by
  rw [sourceOf] at solid ⊢
  cases loaded : Attempt.outcome (catalogue.loadSource files function) with
  | ok source => rfl
  | error failure =>
      rw [loaded] at solid
      cases solid

/-- The source of a function for a generator. -/
def Generator.sourceOf (generator : Generator) (files : FileTree) (function : String) : String :=
  generator.vocabulary.catalogue.sourceOf files function

/-- The recipe of a call: its selections are accepted, its arguments can be described,
and the sources of all functions that it depends on can be read. -/
structure Generator.IsRecipe
    (generator : Generator)
    (files : FileTree)
    (name : String)
    (texts : List String)
    (recipe : Recipe) : Prop where
  accepted : Action.firstRefusal? generator.vocabulary.builtins texts = none
  builtins : recipe.builtins = generator.vocabulary.builtins
  function : recipe.function = name
  described : Attempt.outcome (generator.interpreter.describe [] texts) = .ok recipe.arguments
  chosen : generator.chooseOverload name recipe.arguments = .ok recipe.overload
  valid : (generator.vocabulary.analyze name texts).value.isValid = true
  sources : recipe.sources =
    (generator.needed name texts).map fun function =>
      (function, generator.sourceOf files function)
  available : ∀ source ∈ recipe.sources, source.2.isEmpty = false
  directory : recipe.directory =
    ((generator.vocabulary.catalogue.sourcePath? name).map Path.directory).getD ""
  time : Attempt.outcome (Action.readsVariable generator.interpreter "time" texts) =
    .ok recipe.refreshesTime
  resolution : Attempt.outcome (Action.readsVariable generator.interpreter "st" texts) =
    .ok recipe.refreshesResolution

namespace Generator

variable {generator : Generator} {files : FileTree} {name : String} {texts : List String}

/-- A call has one recipe at most. -/
theorem IsRecipe.unique
    {left right : Recipe}
    (isLeft : generator.IsRecipe files name texts left)
    (isRight : generator.IsRecipe files name texts right) : left = right := by
  have arguments : left.arguments = right.arguments :=
    Except.ok.inj (isLeft.described.symm.trans isRight.described)
  have overload : left.overload = right.overload := by
    refine Except.ok.inj (isLeft.chosen.symm.trans ?_)
    rw [arguments]
    exact isRight.chosen
  have time := Except.ok.inj (isLeft.time.symm.trans isRight.time)
  have resolution := Except.ok.inj (isLeft.resolution.symm.trans isRight.resolution)
  have builtins := isLeft.builtins.trans isRight.builtins.symm
  have function := isLeft.function.trans isRight.function.symm
  have sources := isLeft.sources.trans isRight.sources.symm
  have directory := isLeft.directory.trans isRight.directory.symm
  cases left
  cases right
  simp_all

theorem nodup_needed (generator : Generator) (name : String) (texts : List String) :
    (generator.needed name texts).Nodup :=
  (Text.pairwise_sortedNames _).imp String.ne_of_lt

/-- No function is listed twice among the sources. -/
theorem IsRecipe.nodup
    {recipe : Recipe}
    (isRecipe : generator.IsRecipe files name texts recipe) :
    (recipe.sources.map Prod.fst).Nodup := by
  rw [isRecipe.sources, List.map_map]
  change ((generator.needed name texts).map id).Nodup
  rw [List.map_id]
  exact nodup_needed generator name texts

end Generator

/-! ## Lines -/

namespace Shader

theorem isEmpty_statement (code : String) : (statement code).isEmpty = false := by
  simp [statement, ToString.toString]

theorem isEmpty_of_mem_declarations
    {builtins : Builtins}
    {names : List String}
    {line : String}
    (listed : line ∈ declarations builtins names) : line.isEmpty = false := by
  obtain ⟨name, _, declared⟩ := List.mem_filterMap.mp listed
  rw [declaration?] at declared
  split at declared
  · cases declared
  · split at declared
    · cases declared
      exact isEmpty_statement _
    · cases declared

theorem isEmpty_of_mem_temporaries
    {stem : String}
    {number : Nat}
    {arguments : List Argument}
    {line : String}
    (listed : line ∈ temporaries stem number arguments) : line.isEmpty = false := by
  induction arguments generalizing number with
  | nil => cases listed
  | cons argument rest inductionHypothesis =>
      rw [temporaries] at listed
      split at listed
      · rcases List.mem_cons.mp listed with rfl | later
        · exact isEmpty_statement _
        · exact inductionHypothesis later
      · exact inductionHypothesis listed

end Shader

theorem Recipe.isEmpty_of_mem_closing
    {recipe : Recipe}
    {layout : Layout}
    {line : String}
    (listed : line ∈ recipe.closing layout) : line.isEmpty = false := by
  rcases List.mem_cons.mp listed with rfl | last
  · exact Shader.isEmpty_statement _
  · rw [List.mem_singleton.mp last]
    simp

/-- Lines without the empty ones among them. -/
theorem filter_solid
    {lines : List String}
    (solid : ∀ line ∈ lines, line.isEmpty = false) :
    lines.filter (fun line => !line.isEmpty) = lines := by
  refine List.filter_eq_self.mpr fun line listed => ?_
  rw [solid line listed]
  rfl

theorem Recipe.filter_closing (recipe : Recipe) (layout : Layout) :
    (recipe.closing layout).filter (fun line => !line.isEmpty) = recipe.closing layout :=
  filter_solid fun _ => isEmpty_of_mem_closing

theorem Generator.filter_paragraph
    {lines : List String}
    (solid : ∀ line ∈ lines, line.isEmpty = false) :
    (paragraph lines).filter (fun line => !line.isEmpty) = lines := by
  rw [paragraph]
  split
  case isTrue none => exact (List.isEmpty_iff.mp none).symm
  case isFalse =>
    rw [List.filter_append, filter_solid solid]
    exact List.append_nil lines

/-! ## Sources -/

/-- What stands behind the last separator of a text. -/
theorem intercalate_concat
    (separator : String)
    {texts : List String}
    (some : texts ≠ [])
    (last : String) :
    separator.intercalate (texts ++ [last]) =
      separator.intercalate texts ++ separator ++ last := by
  induction texts with
  | nil => exact absurd rfl some
  | cons first rest inductionHypothesis =>
      cases rest with
      | nil => simp [String.intercalate_cons_cons]
      | cons second others =>
          have joined := inductionHypothesis (by simp)
          simp only [List.cons_append] at joined ⊢
          rw [String.intercalate_cons_cons, joined, String.intercalate_cons_cons]
          simp only [String.append_assoc]

/-- Two texts that end a list may be joined. -/
theorem intercalate_join
    (separator first second : String)
    (texts : List String) :
    separator.intercalate (texts ++ [first ++ separator ++ second]) =
      separator.intercalate (texts ++ [first, second]) := by
  induction texts with
  | nil => simp [String.intercalate_cons_cons]
  | cons text rest inductionHypothesis =>
      cases rest with
      | nil => simp [String.intercalate_cons_cons]
      | cons next others =>
          simp only [List.cons_append] at inductionHypothesis ⊢
          rw [String.intercalate_cons_cons, inductionHypothesis, String.intercalate_cons_cons]

namespace Assembly

variable {catalogue : Catalogue} {files : FileTree}

/-- Sources that can be read are added under their headings. -/
theorem addSources_of_available
    {names : List String}
    {assembly : Assembly}
    (fresh : ∀ name ∈ names, name ∉ assembly.emitted)
    (nodup : names.Nodup)
    (available : ∀ name ∈ names, (catalogue.sourceOf files name).isEmpty = false) :
    Attempt.outcome (addSources catalogue files names assembly) = .ok
      { assembly with
        functions := assembly.functions ++
          names.map fun name => s!"// {name}\n" ++ catalogue.sourceOf files name
        emitted := assembly.emitted ++ names } := by
  induction names generalizing assembly with
  | nil => simp [addSources]
  | cons name rest inductionHypothesis =>
      obtain ⟨different, others⟩ := List.nodup_cons.mp nodup
      have notYet : assembly.emitted.contains name = false := by
        simpa using fresh name List.mem_cons_self
      have solid := available name List.mem_cons_self
      rw [addSources, if_neg (by simpa using notYet)]
      refine Attempt.outcome_bind_eq_ok_iff.mpr ⟨_, Catalogue.outcome_of_sourceOf solid, ?_⟩
      rw [if_neg (by simpa using solid)]
      refine (inductionHypothesis (fun other listed => ?_) others fun other listed =>
        available other (List.mem_cons_of_mem name listed)).trans ?_
      · rw [List.mem_append, List.mem_singleton, not_or]
        exact ⟨fresh other (List.mem_cons_of_mem name listed),
          fun same => different (same ▸ listed)⟩
      · simp [ToString.toString, String.append_assoc]

/-- Sources that were added could be read. -/
theorem available_of_addSources
    {names : List String}
    {assembly changed : Assembly}
    (success : Attempt.outcome (addSources catalogue files names assembly) = .ok changed) :
    ∀ name ∈ names, name ∉ assembly.emitted ->
      (catalogue.sourceOf files name).isEmpty = false := by
  induction names generalizing assembly with
  | nil => simp
  | cons first rest inductionHypothesis =>
      intro name listed fresh
      rw [addSources] at success
      split at success
      case isTrue contained =>
        rcases List.mem_cons.mp listed with rfl | later
        · exact absurd (by simpa using contained) fresh
        · exact inductionHypothesis success name later fresh
      case isFalse =>
        obtain ⟨source, loaded, continued⟩ := Attempt.outcome_bind_eq_ok_iff.mp success
        obtain rfl := Catalogue.sourceOf_of_outcome loaded
        split at continued
        · cases continued
        case isFalse solid =>
          by_cases same : name = first
          · subst same
            simpa using solid
          · refine inductionHypothesis continued name ?_ ?_
            · exact (List.mem_cons.mp listed).resolve_left same
            · rw [List.mem_append, List.mem_singleton, not_or]
              exact ⟨fresh, same⟩

end Assembly

/-! ## The shader of one call -/

theorem Recipe.writes_fragmentStage
    {recipe : Recipe}
    {layout : Layout}
    {listed : List (String × String)}
    {functions : String}
    {lines : List String}
    (perm : listed.Perm recipe.sources)
    (embedded : functions = recipe.functions layout listed)
    (solid : lines.filter (fun line => !line.isEmpty) = recipe.lines layout) :
    recipe.Writes layout (Shader.fragmentStage recipe.uniforms functions lines) :=
  ⟨listed, lines, perm, solid, by rw [embedded]⟩

namespace Generator

variable {generator : Generator} {files : FileTree} {name : String} {texts : List String}
  {recipe : Recipe}

/-- The shader of one call is written by its recipe. -/
theorem IsRecipe.assemble
    {listed : List (String × String)}
    (isRecipe : generator.IsRecipe files name texts recipe)
    (perm : listed.Perm recipe.sources) :
    ∃ shader, generator.assemble ("\n".intercalate (listed.map Prod.snd)) name
        recipe.arguments = .ok shader ∧
      shader.vertex = Shader.vertexStage ∧ shader.returnType = recipe.returnType ∧
      recipe.Writes (Layout.ofCall name) shader.fragment := by
  obtain rfl := isRecipe.function
  have builtins := isRecipe.builtins
  rw [Generator.assemble, isRecipe.chosen, ← builtins]
  refine ⟨_, rfl, rfl, rfl, Recipe.writes_fragmentStage perm ?_ ?_⟩
  · rw [Recipe.functions, Recipe.adapter?, Layout.ofCall]
    dsimp only
    cases Generator.adapter? recipe.overload recipe.function
        (Overload.adapterName recipe.function) recipe.arguments with
    | none => simp
    | some adapter => simp [String.append_assoc]
  · rw [List.filter_append, List.filter_append, filter_paragraph, filter_paragraph]
    · exact congrArg _ (recipe.filter_closing (.ofCall recipe.function))
    · exact fun line => Shader.isEmpty_of_mem_temporaries
    · exact fun line => Shader.isEmpty_of_mem_declarations

/-! ## The shader of a graph with one node -/

/-- A function that only plugins offer is among those that its calls depend on. -/
theorem mem_needed
    {pluginAlias : String}
    (callable : generator.vocabulary.builtins.isCallable name = false)
    (offered : generator.vocabulary.catalogue.owner? name = some pluginAlias)
    (texts : List String) :
    name ∈ generator.needed name texts := by
  have classified : ∃ origin, generator.vocabulary.classify name = .plugin origin := by
    rw [Vocabulary.classify, callable, offered]
    exact ⟨_, rfl⟩
  obtain ⟨origin, isPlugin⟩ := classified
  rw [needed, Analysis.pluginFunctions, Text.mem_sortedNames, Vocabulary.value_analyze]
  dsimp only
  rw [Analysis.classifyAll, isPlugin]
  simp [Origin.isPlugin]

/-- The call of a function of a plugin goes to the chosen overload. -/
theorem target_eq_ok_iff
    {node type : String}
    {adapter : Option String}
    {arguments : List Argument}
    (listed : name ∈ generator.needed name texts) :
    Assembly.target generator (generator.vocabulary.analyze name texts).value node arguments =
        .ok (type, adapter) ↔
      ∃ overload, generator.chooseOverload name arguments = .ok overload ∧
        type = Generator.returnType overload ∧
        adapter = Generator.adapter? overload name (Assembly.adapterName name node) arguments := by
  have main : (generator.vocabulary.analyze name texts).value.main = name := by
    rw [Vocabulary.value_analyze]
  rw [Assembly.target, main, if_pos (List.contains_iff_mem.mpr (by exact listed))]
  cases generator.chooseOverload name arguments with
  | error failure => simp [bind, Except.bind]
  | ok overload => simp [bind, Except.bind, pure, Except.pure, eq_comm]

/-- The functions of plugins that a call with a recipe depends on have sources. -/
theorem IsRecipe.available_of_mem
    (isRecipe : generator.IsRecipe files name texts recipe)
    {function : String}
    (listed : function ∈ generator.needed name texts) :
    (generator.sourceOf files function).isEmpty = false := by
  refine isRecipe.available (function, _) ?_
  rw [isRecipe.sources]
  exact List.mem_map_of_mem listed

/-- What the only node of a graph adds, if its call has a recipe. -/
theorem IsRecipe.addNode
    {graph : Graph}
    {node : String}
    {call : Node}
    (isRecipe : generator.IsRecipe files name texts recipe)
    (listed : name ∈ generator.needed name texts)
    (found : graph.find? node = some call)
    (called : call.function = name)
    (plain : call.arguments.map Reference.substitute = texts) :
    ∃ assembly, Attempt.outcome (Assembly.addNode generator files graph {} node) = .ok assembly ∧
      assembly.uniforms = Shader.uniforms recipe.builtins [] recipe.arguments ∧
      assembly.mentioned = Shader.usedVariables recipe.builtins recipe.arguments ∧
      assembly.functions =
        (recipe.sources.map fun source => (Layout.ofNode name node).heading source.1 ++ source.2) ++
          (recipe.adapter? (.ofNode name node)).toList ∧
      assembly.body ++
          ["    " ++ Shader.outputStatement assembly.returnType (Reference.resultName node)] =
        Shader.temporaries (Assembly.stemOf node) 0 recipe.arguments ++
          recipe.closing (.ofNode name node) ∧
      assembly.returnType = recipe.returnType := by
  subst called
  have builtins := isRecipe.builtins
  have known : (generator.vocabulary.analyze call.function texts).value.unknown? = none :=
    Option.isNone_iff_eq_none.mp isRecipe.valid
  -- The assembly is empty before its only node is added, and no source is in it yet.
  have fresh : ∀ function ∈ generator.needed call.function texts,
      function ∉ (Assembly.addMentions {} recipe.builtins recipe.arguments).emitted :=
    fun _ _ => List.not_mem_nil
  obtain ⟨sourced, isSourced, functions⟩ : ∃ sourced,
      Attempt.outcome (Assembly.addSources generator.vocabulary.catalogue files
        (generator.needed call.function texts)
        (Assembly.addMentions {} recipe.builtins recipe.arguments)) = .ok sourced ∧
      sourced.functions = recipe.sources.map fun source =>
        (Layout.ofNode call.function node).heading source.1 ++ source.2 := by
    refine ⟨_, Assembly.addSources_of_available fresh
      (nodup_needed _ _ _) fun _ => isRecipe.available_of_mem, ?_⟩
    rw [isRecipe.sources, List.map_map]
    rfl
  have target : Assembly.target generator (generator.vocabulary.analyze call.function texts).value
      node recipe.arguments =
      .ok (recipe.returnType, recipe.adapter? (.ofNode call.function node)) :=
    (target_eq_ok_iff listed).mpr
      ⟨recipe.overload, isRecipe.chosen, rfl, by rw [Recipe.adapter?, isRecipe.function]; rfl⟩
  have kept := Assembly.addSources_keeps isSourced
  let adapter := recipe.adapter? (.ofNode call.function node)
  refine ⟨sourced.addCall node call.function recipe.returnType adapter recipe.arguments,
    (Assembly.addNode_eq_ok_iff found).mpr
      ⟨recipe.arguments, sourced, recipe.returnType, adapter, ?_⟩, ?_⟩
  · rw [plain, ← builtins]
    exact ⟨isRecipe.described, known, isSourced, target, rfl⟩
  · rw [kept]
    refine ⟨rfl, rfl, ?_, ?_, rfl⟩
    · rw [← functions]
      rfl
    · rw [Recipe.closing, Recipe.callee, isRecipe.function]
      exact List.append_assoc _ _ _

/-- A recipe of a call of a node gives the shader of the graph, which it writes. -/
theorem IsRecipe.unify
    {graph : Graph}
    {node : String}
    {call : Node}
    (isRecipe : generator.IsRecipe files name texts recipe)
    (listed : name ∈ generator.needed name texts)
    (found : graph.find? node = some call)
    (called : call.function = name)
    (plain : call.arguments.map Reference.substitute = texts) :
    ∃ shader, Attempt.outcome (generator.unify files graph [node]) = .ok shader ∧
      shader.vertex = Shader.vertexStage ∧ shader.returnType = recipe.returnType ∧
      recipe.Writes (Layout.ofNode name node) shader.fragment := by
  obtain ⟨assembly, added, uniforms, mentioned, functions, body, returnType⟩ :=
    isRecipe.addNode listed found called plain
  have assembled : Attempt.outcome
      ([node].foldlM (Assembly.addNode generator files graph) {}) = .ok assembly := by
    rw [List.foldlM_cons]
    exact Attempt.outcome_bind_eq_ok_iff.mpr ⟨assembly, added, rfl⟩
  refine ⟨assembly.finish generator.vocabulary.builtins node,
    Attempt.outcome_bind_eq_ok_iff.mpr ⟨assembly, assembled, rfl⟩, rfl, returnType, ?_⟩
  rw [Assembly.finish, ← isRecipe.builtins, uniforms, mentioned]
  refine Recipe.writes_fragmentStage (.refl _) ?_ ?_
  · have some : (recipe.sources.map fun source =>
        (Layout.ofNode name node).heading source.1 ++ source.2) ≠ [] := by
      rw [isRecipe.sources]
      intro none
      rw [List.map_eq_nil_iff.mp (List.map_eq_nil_iff.mp none)] at listed
      cases listed
    rw [functions, Recipe.functions]
    cases recipe.adapter? (.ofNode name node) with
    | none => simp [Layout.ofNode]
    | some adapter =>
        rw [Option.toList_some, intercalate_concat _ some, String.append_assoc]
        rfl
  · rw [List.append_assoc, body, List.filter_append, filter_paragraph, List.filter_append,
      recipe.filter_closing, filter_solid, ← List.append_assoc]
    · rfl
    · exact fun line => Shader.isEmpty_of_mem_temporaries
    · exact fun line => Shader.isEmpty_of_mem_declarations

/-- The shader of a graph with one node is generated only if the arguments of its call
can be described, its overload can be chosen, and all sources can be read. -/
theorem described_of_unify
    {graph : Graph}
    {node : String}
    {call : Node}
    {shader : Shader}
    (success : Attempt.outcome (generator.unify files graph [node]) = .ok shader)
    (found : graph.find? node = some call)
    (called : call.function = name)
    (plain : call.arguments.map Reference.substitute = texts)
    (listed : name ∈ generator.needed name texts) :
    ∃ arguments overload,
      Attempt.outcome (generator.interpreter.describe [] texts) = .ok arguments ∧
      generator.chooseOverload name arguments = .ok overload ∧
      (generator.vocabulary.analyze name texts).value.isValid = true ∧
      ∀ function ∈ generator.needed name texts,
        (generator.sourceOf files function).isEmpty = false := by
  subst called
  obtain ⟨assembly, assembled, _⟩ := Attempt.outcome_bind_eq_ok_iff.mp success
  rw [List.foldlM_cons] at assembled
  obtain ⟨_, added, _⟩ := Attempt.outcome_bind_eq_ok_iff.mp assembled
  obtain ⟨arguments, sourced, type, adapter, described, known, isSourced, targeted, _⟩ :=
    (Assembly.addNode_eq_ok_iff found).mp added
  rw [plain] at described known isSourced targeted
  obtain ⟨overload, chosen, _⟩ := (target_eq_ok_iff listed).mp targeted
  refine ⟨arguments, overload, described, chosen, Option.isNone_iff_eq_none.mpr known, ?_⟩
  exact fun function present =>
    Assembly.available_of_addSources isSourced function present List.not_mem_nil

end Generator

end ShaderGraph
