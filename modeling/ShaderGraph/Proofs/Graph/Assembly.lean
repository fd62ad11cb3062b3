import ShaderGraph.Proofs.Graph.Order
import ShaderGraph.Proofs.Shader.Block
import ShaderGraph.Proofs.Shader.Declarations

/-!
# What the shader of a graph declares

An assembly is made of one block for every node so far: its types are those of the
results of the blocks, its lines those of their declarations, and its uniforms and
mentioned variables those that the arguments of the blocks ask for. A chain lists
every node behind its inputs, so each block refers to results of earlier blocks
only, with the types that they are declared with.
-/

namespace ShaderGraph

/-- A block comes from its node: the arguments are described among the results of
the blocks before it, and the call has the type and the adapter that were found
for it. -/
structure Block.Follows
    (generator : Generator)
    (graph : Graph)
    (before : List Block)
    (block : Block) : Prop where
  found : graph.find? block.node = some block.call
  described : Attempt.outcome (generator.interpreter.describe (Block.environment before)
    (block.call.arguments.map Reference.substitute)) = .ok block.arguments
  targeted : Assembly.target generator
    (generator.vocabulary.analyze block.call.function
      (block.call.arguments.map Reference.substitute)).value
    block.node block.arguments = .ok (block.type, block.adapter)

namespace Assembly

/-- An assembly is made of blocks. -/
structure IsMadeOf
    (generator : Generator)
    (graph : Graph)
    (blocks : List Block)
    (assembly : Assembly) : Prop where
  follows : Stepwise (Block.Follows generator graph) blocks
  locals : assembly.locals = Block.environment blocks
  body : assembly.body = (blocks.flatMap Block.locals).map Local.line
  uniforms : ∀ name, name ∈ assembly.uniforms ↔
    ∃ before block after, blocks = before ++ block :: after ∧
      name ∈ Shader.uniforms generator.vocabulary.builtins (before.map Block.result) block.arguments
  mentioned : assembly.mentioned = blocks.flatMap fun block =>
    Shader.usedVariables generator.vocabulary.builtins block.arguments
  returnType : ∀ last ∈ blocks.getLast?, assembly.returnType = last.type

theorem isMadeOf_nil (generator : Generator) (graph : Graph) :
    IsMadeOf generator graph [] {} where
  follows := Stepwise.nil
  locals := rfl
  body := rfl
  uniforms := by simp
  mentioned := rfl
  returnType := by simp

/-! ## Adding nodes -/

/-- Adding sources changes nothing but the sources. -/
theorem addSources_keeps
    {catalogue : Catalogue}
    {files : FileTree}
    {names : List String}
    {assembly changed : Assembly}
    (success : Attempt.outcome (addSources catalogue files names assembly) = .ok changed) :
    changed = { assembly with functions := changed.functions, emitted := changed.emitted } := by
  induction names generalizing assembly with
  | nil =>
      cases success
      rfl
  | cons name rest inductionHypothesis =>
      rw [addSources] at success
      split at success
      · exact inductionHypothesis success
      · obtain ⟨source, _, continued⟩ := Attempt.outcome_bind_eq_ok_iff.mp success
        split at continued
        · cases continued
        · have kept := inductionHypothesis continued
          exact kept

/-- A node is added if its arguments can be described, all functions that it calls are
known and have sources, and its overload can be chosen. -/
theorem addNode_eq_ok_iff
    {generator : Generator}
    {files : FileTree}
    {graph : Graph}
    {assembly changed : Assembly}
    {node : String}
    {call : Node}
    (found : graph.find? node = some call) :
    Attempt.outcome (addNode generator files graph assembly node) = .ok changed ↔
      ∃ arguments sourced type adapter,
        let texts := call.arguments.map Reference.substitute
        let analysis := (generator.vocabulary.analyze call.function texts).value
        Attempt.outcome (generator.interpreter.describe assembly.locals texts) = .ok arguments ∧
        analysis.unknown? = none ∧
        Attempt.outcome (addSources generator.vocabulary.catalogue files analysis.pluginFunctions
          (assembly.addMentions generator.vocabulary.builtins arguments)) = .ok sourced ∧
        target generator analysis node arguments = .ok (type, adapter) ∧
        changed = sourced.addCall node call.function type adapter arguments := by
  rw [addNode, found]
  constructor
  · intro success
    obtain ⟨arguments, described, analyzed⟩ := Attempt.outcome_bind_eq_ok_iff.mp success
    obtain ⟨analysis, isAnalysis, checked⟩ := Attempt.outcome_bind_eq_ok_iff.mp analyzed
    rw [Attempt.outcome_liftTraced] at isAnalysis
    cases isAnalysis
    dsimp only at checked
    split at checked
    case h_1 unknown _ =>
      obtain ⟨_, impossible, _⟩ := Attempt.outcome_bind_eq_ok_iff.mp checked
      cases impossible
    case h_2 known =>
      obtain ⟨sourced, addedSources, targeted⟩ := Attempt.outcome_bind_eq_ok_iff.mp checked
      obtain ⟨⟨type, adapter⟩, isTarget, added⟩ := Attempt.outcome_bind_eq_ok_iff.mp targeted
      cases added
      exact ⟨arguments, sourced, type, adapter, described,
        Option.eq_none_iff_forall_ne_some.mpr known,
        addedSources, isTarget, rfl⟩
  · rintro ⟨arguments, sourced, type, adapter, described, known, addedSources, targeted, rfl⟩
    refine Attempt.outcome_bind_eq_ok_iff.mpr ⟨arguments, described, ?_⟩
    refine Attempt.outcome_bind_eq_ok_iff.mpr ⟨_, Attempt.outcome_liftTraced _, ?_⟩
    rw [known]
    refine Attempt.outcome_bind_eq_ok_iff.mpr ⟨sourced, addedSources, ?_⟩
    exact Attempt.outcome_bind_eq_ok_iff.mpr ⟨(type, adapter), targeted, rfl⟩

/-- What a node adds. -/
theorem addNode_cases
    {generator : Generator}
    {files : FileTree}
    {graph : Graph}
    {assembly changed : Assembly}
    {node : String}
    (success : Attempt.outcome (addNode generator files graph assembly node) = .ok changed) :
    ∃ call arguments type adapter functions emitted,
      graph.find? node = some call ∧
      Attempt.outcome (generator.interpreter.describe assembly.locals
        (call.arguments.map Reference.substitute)) = .ok arguments ∧
      target generator
        (generator.vocabulary.analyze call.function
          (call.arguments.map Reference.substitute)).value node arguments = .ok (type, adapter) ∧
      changed = addCall
        { assembly.addMentions generator.vocabulary.builtins arguments with functions, emitted }
        node call.function type adapter arguments := by
  cases found : graph.find? node with
  | none =>
      rw [addNode, found] at success
      cases success
  | some call =>
      obtain ⟨arguments, sourced, type, adapter, described, _, addedSources, isTarget, rfl⟩ :=
        (addNode_eq_ok_iff found).mp success
      rw [addSources_keeps addedSources]
      exact ⟨call, arguments, type, adapter, sourced.functions, sourced.emitted, rfl, described,
        isTarget, rfl⟩

/-- Behind blocks of other nodes, a node adds its block. -/
theorem IsMadeOf.addNode
    {generator : Generator}
    {files : FileTree}
    {graph : Graph}
    {blocks : List Block}
    {assembly changed : Assembly}
    {node : String}
    (madeOf : IsMadeOf generator graph blocks assembly)
    (fresh : node ∉ blocks.map Block.node)
    (success : Attempt.outcome (addNode generator files graph assembly node) = .ok changed) :
    ∃ block, block.node = node ∧ IsMadeOf generator graph (blocks ++ [block]) changed := by
  obtain ⟨call, arguments, type, adapter, functions, emitted, found, described, targeted, rfl⟩ :=
    addNode_cases success
  let block : Block := ⟨node, call, arguments, type, adapter⟩
  refine ⟨block, rfl, ?_⟩
  exact {
    follows := by
      refine Stepwise.concat_iff.mpr ⟨madeOf.follows, found, ?_, targeted⟩
      rw [← madeOf.locals]
      exact described
    locals := by
      change assembly.locals.set block.result block.type = _
      rw [madeOf.locals]
      exact Block.set_environment fresh
    body := by
      rw [List.flatMap_append, List.flatMap_singleton, List.map_append, ← madeOf.body,
        block.lines_locals, ← List.append_assoc]
      rfl
    uniforms := by
      intro name
      rw [exists_split_concat_iff, ← madeOf.uniforms, ← Block.names_environment, ← madeOf.locals]
      exact List.mem_append
    mentioned := by
      rw [List.flatMap_append, List.flatMap_singleton, ← madeOf.mentioned]
      rfl
    returnType := by
      simp [addCall, block] }

/-- A chain without repetition adds a block for each of its nodes. -/
theorem IsMadeOf.foldlM
    {generator : Generator}
    {files : FileTree}
    {graph : Graph}
    {blocks : List Block}
    {assembly changed : Assembly}
    {chain : List String}
    (madeOf : IsMadeOf generator graph blocks assembly)
    (nodup : (blocks.map Block.node ++ chain).Nodup)
    (success : Attempt.outcome
      (chain.foldlM (Assembly.addNode generator files graph) assembly) = .ok changed) :
    ∃ all, all.map Block.node = blocks.map Block.node ++ chain ∧
      IsMadeOf generator graph all changed := by
  induction chain generalizing blocks assembly with
  | nil =>
      cases success
      exact ⟨blocks, (List.append_nil _).symm, madeOf⟩
  | cons node rest inductionHypothesis =>
      rw [List.foldlM_cons] at success
      obtain ⟨next, added, others⟩ := Attempt.outcome_bind_eq_ok_iff.mp success
      have fresh : node ∉ blocks.map Block.node := fun repeated =>
        (List.nodup_append'.mp nodup).2.2 repeated List.mem_cons_self
      obtain ⟨block, rfl, nextMadeOf⟩ := madeOf.addNode fresh added
      have regrouped : (blocks ++ [block]).map Block.node ++ rest =
          blocks.map Block.node ++ block.node :: rest := by simp
      rw [← regrouped] at nodup ⊢
      exact inductionHypothesis nextMadeOf nodup others

end Assembly

/-! ## Shaders of chains -/

/-- Blocks that compute the results of a chain. -/
structure IsProgram
    (generator : Generator)
    (graph : Graph)
    (chain : List String)
    (blocks : List Block) : Prop where
  /-- There is one block for every node, in the order of the chain. -/
  nodes : blocks.map Block.node = chain
  /-- Every block comes from its node. -/
  follows : Stepwise (Block.Follows generator graph) blocks
  /-- The results that a node refers to have types, which are those they are
  declared with. -/
  known : Stepwise (fun before block => ∀ reference ∈ block.call.references,
    ∃ earlier ∈ before, earlier.node = reference ∧
      Table.find? (Block.environment before) (Reference.resultName reference) =
        some earlier.type) blocks
  /-- An argument that is a result has the type that the result is declared with. -/
  typed : Stepwise (fun before block => ∀ argument ∈ block.arguments, argument.isSimple = true ->
    ∀ earlier ∈ before, argument.code = earlier.result -> argument.type = earlier.type) blocks
  /-- An argument that needs a temporary is passed as one that its block declares
  with the type and the text of the argument. -/
  passed : ∀ block ∈ blocks, ∀ index argument, block.arguments[index]? = some argument ->
    Shader.needsTemporary argument = true ->
      block.passed[index]? = some (Shader.temporary (Assembly.stemOf block.node) index) ∧
        ∃ declared ∈ block.temporaries, declared.type = argument.type ∧
          declared.name = Shader.temporary (Assembly.stemOf block.node) index ∧
          declared.value = argument.code
  /-- Every result and every temporary is declared once. -/
  nodup : ((blocks.flatMap Block.locals).map Local.name).Nodup
  /-- What is read was declared before. -/
  declared : DeclaredBeforeUse (blocks.flatMap Block.locals)

theorem Block.Follows.type_eq
    {generator : Generator}
    {graph : Graph}
    {before : List Block}
    {block earlier : Block}
    {argument : Argument}
    (follows : block.Follows generator graph before)
    (nodup : (before.map Block.node).Nodup)
    (listed : argument ∈ block.arguments)
    (simple : argument.isSimple = true)
    (present : earlier ∈ before)
    (same : argument.code = earlier.result) : argument.type = earlier.type := by
  obtain ⟨text, _, described⟩ := Attempt.exists_of_mem_mapM follows.described listed
  obtain ⟨reading, _, retyped⟩ := Attempt.outcome_bind_eq_ok_iff.mp described
  cases retyped
  rw [Argument.isSimple_retype] at simple
  rw [Argument.code_retype] at same
  refine Argument.type_retype simple ?_
  rw [same]
  exact Block.find?_environment nodup present

/-- The blocks of a chain refer to earlier blocks. -/
theorem stepwise_references
    {generator : Generator}
    {graph analyzed : Graph}
    {output : String}
    {blocks : List Block}
    (chainOf : graph.IsChainOf output (blocks.map Block.node))
    (same : Graph.SameCalls graph analyzed)
    (follows : Stepwise (Block.Follows generator analyzed) blocks) :
    Stepwise (fun before block => ∀ reference ∈ block.call.references,
      reference ∈ before.map Block.node) blocks := by
  intro before block after split reference present
  have refers : graph.Refers block.node reference := by
    rw [same.refers_eq]
    exact ⟨block.call, (follows before block after split).found, present⟩
  exact chainOf.ordered _ _ (after.map Block.node) (by simp [split]) _ refers

/-- The blocks of a chain compute the results of the chain. -/
theorem isProgram_of_isMadeOf
    {generator : Generator}
    {graph analyzed : Graph}
    {output : String}
    {chain : List String}
    {blocks : List Block}
    {assembly : Assembly}
    (chainOf : graph.IsChainOf output chain)
    (same : Graph.SameCalls graph analyzed)
    (nodes : blocks.map Block.node = chain)
    (madeOf : Assembly.IsMadeOf generator analyzed blocks assembly) :
    IsProgram generator analyzed chain blocks := by
  subst nodes
  have nodup := Block.stepwise_nodup chainOf.nodup
  have listed := stepwise_references chainOf same madeOf.follows
  have known : Stepwise (fun before block => ∀ reference ∈ block.call.references,
      ∃ earlier ∈ before, earlier.node = reference ∧
        Table.find? (Block.environment before) (Reference.resultName reference) =
          some earlier.type) blocks := by
    intro before block after split reference present
    exact Block.exists_known (nodup before block after split)
      (listed before block after split reference present)
  refine {
    nodes := rfl
    follows := madeOf.follows
    known
    typed := ?_
    passed := fun _ _ _ _ found needed => Block.passed_temporary found needed
    nodup := Block.nodup_names_flatMap chainOf.nodup
    declared := Block.declaredBeforeUse ?_ }
  · intro before block after split argument present simple earlier isEarlier code
    exact (madeOf.follows before block after split).type_eq (nodup before block after split)
      present simple isEarlier code
  · refine listed.imp fun before block earlier => ?_
    rintro _ read
    obtain ⟨reference, present, rfl⟩ := List.mem_map.mp read
    obtain ⟨source, isEarlier, rfl⟩ := List.mem_map.mp (earlier reference present)
    exact List.mem_map_of_mem isEarlier

/-- The bases of the names that the arguments of blocks depend on. -/
def Block.recorded (blocks : List Block) : List String :=
  blocks.flatMap fun block => Shader.mentionedBases block.arguments

/-- The lines of a main function: the variables that are computed from others, the
declarations of the blocks, and the output of the last result. -/
def Block.mainLines (builtins : Builtins) (blocks : List Block) (last : Block) : List String :=
  Generator.paragraph
      (Shader.declarations builtins ((Block.recorded blocks).filter builtins.isVariable)) ++
    (blocks.flatMap Block.locals).map Local.line ++
    ["    " ++ Shader.outputStatement last.type last.result]

theorem Block.mentioned_eq (builtins : Builtins) (blocks : List Block) :
    (blocks.flatMap fun block => Shader.usedVariables builtins block.arguments) =
      (Block.recorded blocks).filter builtins.isVariable := by
  rw [Block.recorded, List.filter_flatMap]
  rfl

/-- Whenever a chain is analyzed and a shader of it is generated, its main function
declares the results and the temporaries of the chain, each of them once, before it
is read, and with the type that is known where it is read. The uniforms are listed
in ascending order. With the variables that every shader can use, they are those
that the arguments depend on and that are no earlier results, apart from the one
that needs none, and with the resolution for the coordinate, which is declared
first where it is mentioned. -/
theorem unify_declares_before_use
    {generator : Generator}
    {files : FileTree}
    {graph : Graph}
    {output : String}
    {chain : List String}
    {shader : Shader}
    (analyzed : (graph.analyze output).1 = .ok chain)
    (generated : Attempt.outcome
      (generator.unify files (graph.analyze output).2 chain) = .ok shader) :
    ∃ (blocks : List Block) (last : Block) (functions : String) (uniforms : List String),
      IsProgram generator (graph.analyze output).2 chain blocks ∧
      blocks.getLast? = some last ∧ last.node = output ∧
      shader.fragment = Shader.fragmentStage
        ("\n".intercalate
          (uniforms.map (Shader.uniformLine generator.vocabulary.builtins)))
        functions (Block.mainLines generator.vocabulary.builtins blocks last) ∧
      uniforms.Pairwise (· < ·) ∧
      (generator.vocabulary.builtins = {} ->
        (∀ name, name ∈ uniforms ↔
          ∃ before block after, blocks = before ++ block :: after ∧
            ∃ base ∈ Shader.mentionedBases block.arguments,
              base ∉ before.map Block.result ∧ base ≠ "gl_FragCoord" ∧
              name = if base = "st" then "resolution" else base) ∧
        Shader.declarations {} ((Block.recorded blocks).filter (Builtins.isVariable {})) =
          if "st" ∈ Block.recorded blocks then [Shader.coordinateLine] else []) := by
  have chainOf := Graph.isChainOf_of_analyze analyzed
  obtain ⟨assembly, assembled, finished⟩ := Attempt.outcome_bind_eq_ok_iff.mp generated
  obtain ⟨blocks, nodes, madeOf⟩ :=
    (Assembly.isMadeOf_nil generator (graph.analyze output).2).foldlM chainOf.nodup assembled
  rw [List.map_nil, List.nil_append] at nodes
  rw [chainOf.last] at finished
  have lastNode : (blocks.getLast?).map Block.node = some output := by
    rw [← List.getLast?_map, nodes, chainOf.last]
  obtain ⟨last, isLast, rfl⟩ := Option.map_eq_some_iff.mp lastNode
  cases finished
  refine ⟨blocks, last, "\n\n".intercalate assembly.functions,
    Text.sortedNames assembly.uniforms,
    isProgram_of_isMadeOf chainOf (graph.analyze_keeps last.node).1 nodes madeOf, isLast, rfl,
    ?_, Text.pairwise_sortedNames _, ?_⟩
  · rw [Assembly.finish, madeOf.mentioned, Block.mentioned_eq, madeOf.body,
      madeOf.returnType last isLast]
    rfl
  · intro isDefault
    constructor
    · intro name
      rw [Text.mem_sortedNames, madeOf.uniforms, isDefault]
      simp only [Shader.mem_uniforms_default]
    · rw [Shader.declarations_default]
      have known : Builtins.isVariable {} "st" = true := by decide
      simp [List.mem_filter, known]

/-- Two calls, the second of which reads the result of the first one as a whole and
in an expression. -/
def mixed : Graph :=
  (Graph.add {} "sin" ["st.x"]).add "mix" ["$shader_1", "$shader_1 * 2.0", "time"]

theorem mixed_declares_before_use :
    (mixed.analyze "shader_2").1 = .ok ["shader_1", "shader_2"] ∧
    ∃ (shader : Shader) (blocks : List Block) (last : Block) (functions : String)
      (uniforms : List String),
      Attempt.outcome (Generator.unify {} {} (mixed.analyze "shader_2").2
        ["shader_1", "shader_2"]) = .ok shader ∧
      IsProgram {} (mixed.analyze "shader_2").2 ["shader_1", "shader_2"] blocks ∧
      blocks.getLast? = some last ∧ last.node = "shader_2" ∧
      shader.fragment = Shader.fragmentStage
        ("\n".intercalate (uniforms.map (Shader.uniformLine {}))) functions
        (Block.mainLines {} blocks last) ∧
      uniforms.Pairwise (· < ·) ∧
      (∀ name, name ∈ uniforms ↔
        ∃ before block after, blocks = before ++ block :: after ∧
          ∃ base ∈ Shader.mentionedBases block.arguments,
            base ∉ before.map Block.result ∧ base ≠ "gl_FragCoord" ∧
            name = if base = "st" then "resolution" else base) ∧
      Shader.declarations {} ((Block.recorded blocks).filter (Builtins.isVariable {})) =
        if "st" ∈ Block.recorded blocks then [Shader.coordinateLine] else [] := by
  have analyzed : (mixed.analyze "shader_2").1 = .ok ["shader_1", "shader_2"] := by
    decide +kernel
  have accepted : (Attempt.outcome (Generator.unify {} {} (mixed.analyze "shader_2").2
      ["shader_1", "shader_2"])).toBool = true := by
    decide +kernel
  cases generated : Attempt.outcome (Generator.unify {} {} (mixed.analyze "shader_2").2
      ["shader_1", "shader_2"]) with
  | error failure =>
      rw [generated] at accepted
      cases accepted
  | ok shader =>
      obtain ⟨blocks, last, functions, uniforms, program, isLast, lastNode, fragment, ascending,
        defaults⟩ := unify_declares_before_use analyzed generated
      obtain ⟨asked, declared⟩ := defaults rfl
      exact ⟨analyzed, shader, blocks, last, functions, uniforms, rfl, program, isLast, lastNode,
        fragment, ascending, asked, declared⟩

end ShaderGraph
