import ShaderGraph.Proofs.Argument.Results
import ShaderGraph.Proofs.Host.Agreement
import ShaderGraph.Proofs.Text.Bytes

/-!
# Refreshed uniforms

What a shader declares depends on the readings of its arguments, with results in the
place of references. What is refreshed with every frame depends on a search of the
arguments as they are. The time is declared where it is refreshed. The resolution is
refreshed for the coordinate that is computed from it, but not for an argument that reads
the resolution itself, although its uniform is declared then as well.
-/

namespace ShaderGraph

namespace Shader

/-- Uniforms of different names have different declarations. -/
theorem uniformLine_injective : Function.Injective (uniformLine {}) := by
  have typed (name : String) : ∃ type ∈ ["float", "vec2", "vec4"],
      uniformLine {} name = "uniform " ++ type ++ " " ++ name ++ ";" := by
    refine ⟨((Builtins.lookup? {} name).map Variable.type).getD "float", ?_, rfl⟩
    rw [lookup?_default]
    repeat' split
    all_goals decide
  intro left right same
  obtain ⟨leftType, leftListed, leftText⟩ := typed left
  obtain ⟨rightType, rightListed, rightText⟩ := typed right
  rw [leftText, rightText, ← String.toList_inj] at same
  simp only [List.mem_cons, List.not_mem_nil, or_false] at leftListed rightListed
  rcases leftListed with rfl | rfl | rfl <;> rcases rightListed with rfl | rfl | rfl <;>
    simp at same
  all_goals exact String.toList_inj.mp same

theorem mem_map_uniformLine {names : List String} {name : String} :
    uniformLine {} name ∈ names.map (uniformLine {}) ↔ name ∈ names :=
  List.mem_map_of_injective uniformLine_injective

end Shader

namespace Interpreter

/-- One of some texts depends on a name. -/
def Reads (texts : List String) (name : String) : Prop :=
  ∃ text ∈ texts, DependsOn {} text name

/-- One of some texts starts with a name and calls a member of it. -/
def CallsMemberOf (texts : List String) (name : String) : Prop :=
  ∃ text ∈ texts, CallsMember text name

/-- Uniforms are asked for by some texts: the time where it is read, and the resolution
where it or the coordinate is read. -/
structure Asks (texts uniforms : List String) : Prop where
  time : "time" ∈ uniforms ↔ Reads texts "time"
  resolution : "resolution" ∈ uniforms ↔ Reads texts "st" ∨ Reads texts "resolution"

theorem asks_of_describe
    {locals : LocalTypes}
    {texts excluded : List String}
    {arguments : List Argument}
    (described : Attempt.outcome (describe {} locals texts) = .ok arguments)
    (included : ∀ name ∈ ["time", "st", "resolution"], name ∉ excluded) :
    Asks texts (Shader.uniforms {} excluded arguments) := by
  simp only [List.forall_mem_cons, List.not_mem_nil, false_imp_iff, forall_const, and_true]
    at included
  obtain ⟨time, coordinate, resolution⟩ := included
  refine ⟨?_, ?_⟩
  · rw [Reads, ← mem_mentionedBases described, Shader.mem_uniforms_default]
    constructor
    · rintro ⟨base, mentioned, _, _, same⟩
      by_cases isCoordinate : base = "st"
      · rw [if_pos isCoordinate] at same
        exact absurd same (by decide)
      · rw [if_neg isCoordinate] at same
        rwa [same]
    · exact fun mentioned => ⟨"time", mentioned, time, by decide, rfl⟩
  · rw [Reads, Reads, ← mem_mentionedBases described, ← mem_mentionedBases described,
      Shader.mem_uniforms_default]
    constructor
    · rintro ⟨base, mentioned, _, _, same⟩
      by_cases isCoordinate : base = "st"
      · exact .inl (isCoordinate ▸ mentioned)
      · rw [if_neg isCoordinate] at same
        exact .inr (same ▸ mentioned)
    · rintro (mentioned | mentioned)
      · exact ⟨"st", mentioned, coordinate, by decide, rfl⟩
      · exact ⟨"resolution", mentioned, resolution, by decide, rfl⟩

end Interpreter

/-! ## The shader of a graph -/

namespace Assembly

open Interpreter

/-- No result is called like a variable that every shader can use. -/
theorem not_mem_results
    (blocks : List Block) :
    ∀ name ∈ ["time", "st", "resolution"], name ∉ blocks.map Block.result := by
  have unmarked : ∀ name ∈ ["time", "st", "resolution"],
      Reference.resultMark.isSuffixOf name.toList = false :=
    List.all_iff_forall_prop.mp (by decide)
  intro name listed present
  obtain ⟨block, _, rfl⟩ := List.mem_map.mp present
  have marked : Reference.resultMark.isSuffixOf block.result.toList = true := by
    rw [List.isSuffixOf_iff_suffix, Block.result, Reference.resultName, String.toList_append,
      String.toList_ofList]
    exact List.suffix_append _ _
  rw [unmarked _ listed] at marked
  cases marked

/-- The texts that the arguments of blocks are read as. -/
def texts (blocks : List Block) : List String :=
  (blocks.flatMap fun block => block.call.arguments).map Reference.substitute

/-- An assembly asks for what the arguments of its blocks read. -/
theorem IsMadeOf.asks
    {generator : Generator}
    {graph : Graph}
    {blocks : List Block}
    {assembly : Assembly}
    (isDefault : generator.vocabulary.builtins = {})
    (madeOf : IsMadeOf generator graph blocks assembly) :
    Asks (texts blocks) assembly.uniforms := by
  have interpreter : generator.interpreter = {} := by rw [Generator.interpreter, isDefault]
  have asks {before after : List Block} {block : Block}
      (split : blocks = before ++ block :: after) :
      Asks (block.call.arguments.map Reference.substitute)
        (Shader.uniforms {} (before.map Block.result) block.arguments) :=
    asks_of_describe (interpreter ▸ (madeOf.follows before block after split).described)
      (not_mem_results before)
  have reads {name : String} : Reads (texts blocks) name ↔
      ∃ before block after, blocks = before ++ block :: after ∧
        Reads (block.call.arguments.map Reference.substitute) name := by
    constructor
    · rintro ⟨_, listed, depends⟩
      obtain ⟨text, present, rfl⟩ := List.mem_map.mp listed
      obtain ⟨block, isBlock, here⟩ := List.mem_flatMap.mp present
      obtain ⟨before, after, split⟩ := List.append_of_mem isBlock
      exact ⟨before, block, after, split, _, List.mem_map_of_mem here, depends⟩
    · rintro ⟨before, block, after, rfl, _, listed, depends⟩
      obtain ⟨text, here, rfl⟩ := List.mem_map.mp listed
      exact ⟨_, List.mem_map_of_mem (List.mem_flatMap.mpr ⟨block, by simp, here⟩), depends⟩
  have all {name : String} {asked : List String -> Prop}
      (each : ∀ texts uniforms, Asks texts uniforms -> (name ∈ uniforms ↔ asked texts)) :
      name ∈ assembly.uniforms ↔ ∃ before block after, blocks = before ++ block :: after ∧
        asked (block.call.arguments.map Reference.substitute) := by
    rw [madeOf.uniforms, isDefault]
    exact exists_congr fun before => exists_congr fun block => exists_congr fun after =>
      and_congr_right fun split => each _ _ (asks split)
  refine ⟨?_, ?_⟩
  · rw [reads]
    exact all fun _ _ => Asks.time
  · rw [reads, reads, all fun _ _ => Asks.resolution]
    simp only [and_or_left, exists_or]

/-- The nodes of a chain are the calls of its blocks. -/
theorem nodesOf_blocks
    {graph : Graph}
    {blocks : List Block}
    (found : ∀ block ∈ blocks, graph.find? block.node = some block.call) :
    Action.nodesOf graph (blocks.map Block.node) = .ok (blocks.map Block.call) := by
  induction blocks with
  | nil => rfl
  | cons block rest inductionHypothesis =>
      obtain ⟨here, later⟩ := List.forall_mem_cons.mp found
      have others := inductionHypothesis later
      rw [Action.nodesOf] at others
      rw [Action.nodesOf, List.map_cons, List.mapM_cons, here, others]
      rfl

end Assembly

/-! ## Declarations and marks -/

namespace Artifact

open Interpreter

/-- The lines that declare the uniforms of an artifact are those that some texts ask for,
and the uniforms that it refreshes are those that a search of other texts finds. -/
structure Refreshes (lines declaring searched : List String) (artifact : Artifact) : Prop where
  declaresTime : "uniform float time;" ∈ lines ↔ Reads declaring "time"
  declaresResolution : "uniform vec2 resolution;" ∈ lines ↔
    Reads declaring "st" ∨ Reads declaring "resolution"
  time : artifact.refreshesTime = true ↔ Reads searched "time" ∨ CallsMemberOf searched "time"
  resolution : artifact.refreshesResolution = true ↔
    Reads searched "st" ∨ CallsMemberOf searched "st"

/-- What an artifact declares it refreshes, and the other way around, apart from a text
that reads the resolution by its own name, and one that calls a member of a variable. -/
structure Agrees (lines texts : List String) (artifact : Artifact) : Prop where
  time : artifact.refreshesTime = true ↔
    "uniform float time;" ∈ lines ∨ CallsMemberOf texts "time"
  resolution : artifact.refreshesResolution = true ∨ Reads texts "resolution" ↔
    "uniform vec2 resolution;" ∈ lines ∨ CallsMemberOf texts "st"

theorem Refreshes.agrees
    {lines declaring searched : List String}
    {artifact : Artifact}
    (refreshes : artifact.Refreshes lines declaring searched)
    (same : ∀ name ∈ ["time", "st", "resolution"], Reads declaring name ↔ Reads searched name) :
    artifact.Agrees lines searched where
  time := by rw [refreshes.time, refreshes.declaresTime, same "time" (by simp)]
  resolution := by
    rw [refreshes.resolution, refreshes.declaresResolution, same "st" (by simp),
      same "resolution" (by simp), or_right_comm]

end Artifact

namespace Host

open ShaderGraph.Action Interpreter

variable {host : Host} {artifact : Artifact}

theorem refreshes_of_asks
    {texts searched uniforms main : List String}
    {directory functions : String}
    {shader : Shader}
    (asks : Asks texts uniforms)
    (fragment : shader.fragment =
      Shader.fragmentStage (Shader.uniformBlock {} uniforms) functions main)
    (carries : Carries {} searched directory shader artifact)
    (compiled : artifact.program.isSome = true) :
    ∃ (lines main : List String) (functions : String),
      artifact.fragment = Shader.fragmentStage ("\n".intercalate lines) functions main ∧
      artifact.Refreshes lines texts searched := by
  refine ⟨_, main, functions, carries.fragment.trans fragment, ?_⟩
  have declares (name : String) : Shader.uniformLine {} name ∈
      (Text.sortedNames uniforms).map (Shader.uniformLine {}) ↔ name ∈ uniforms :=
    Shader.mem_map_uniformLine.trans Text.mem_sortedNames
  have marked {name : String} {mark : Bool}
      (named : Swizzle.isName name.toList = true)
      (carried : ∃ reads, Attempt.outcome (readsVariable {} name searched) = .ok reads ∧
        mark = (artifact.program.isSome && reads)) :
      mark = true ↔ Reads searched name ∨ CallsMemberOf searched name := by
    obtain ⟨reads, found, rfl⟩ := carried
    rw [compiled, Bool.true_and, readsVariable_eq_ok named found]
    simp only [Reads, CallsMemberOf, and_or_left, exists_or]
  exact {
    declaresTime := (declares "time").trans asks.time
    declaresResolution := (declares "resolution").trans asks.resolution
    time := marked rfl carries.time
    resolution := marked rfl carries.resolution }

/-- A graph refreshes what is read in the arguments of its chain. -/
theorem IsGraphShader.refreshes
    {output directory : String}
    {chain : List String}
    {nodes : List Node}
    {shader : Shader}
    (isDefault : host.builtins = {})
    (made : host.IsGraphShader output chain nodes shader)
    (carries : Carries {} (nodes.flatMap Node.arguments) directory shader artifact)
    (compiled : artifact.program.isSome = true) :
    ∃ (lines main : List String) (functions : String),
      artifact.fragment = Shader.fragmentStage ("\n".intercalate lines) functions main ∧
      artifact.Refreshes lines ((nodes.flatMap Node.arguments).map Reference.substitute)
        (nodes.flatMap Node.arguments) := by
  obtain ⟨assembly, last, assembled, _, rfl⟩ := Generator.finish_of_unify made.unified
  obtain ⟨blocks, rfl, madeOf⟩ := (Assembly.isMadeOf_nil host.generator _).foldlM
    (Graph.isChainOf_of_analyze made.analyzed).nodup assembled
  have found : ∀ block ∈ blocks,
      (host.graph.analyze output).2.find? block.node = some block.call := by
    intro block listed
    obtain ⟨before, after, split⟩ := List.append_of_mem listed
    exact (madeOf.follows before block after split).found
  cases made.nodes.symm.trans (Assembly.nodesOf_blocks found)
  have default : host.generator.vocabulary.builtins = {} := isDefault
  have asks := madeOf.asks default
  rw [Assembly.texts, ← List.flatMap_map] at asks
  rw [default] at carries
  have fragment : (assembly.finish {} last).fragment =
      Shader.fragmentStage (Shader.uniformBlock {} assembly.uniforms) _ _ := rfl
  exact refreshes_of_asks asks fragment carries compiled

/-- An argument without references, and an arithmetic one, depends on the variables that
every shader can use as it does with results in the place of references. -/
theorem reads_substitute
    {texts : List String}
    (plain : ∀ text ∈ texts, '$' ∉ text.toList ∨ ∃ lexemes, Lexeme.Compose lexemes text) :
    ∀ name ∈ ["time", "st", "resolution"],
      Reads (texts.map Reference.substitute) name ↔ Reads texts name := by
  have unstemmed : ∀ name ∈ ["time", "st", "resolution"],
      ¬Reference.stem <+: name.toList ∧ name ≠ "pi" ∧ name ≠ "e" :=
    List.forall_mem_cons.mpr ⟨by decide, List.forall_mem_cons.mpr ⟨by decide,
      List.forall_mem_singleton.mpr (by decide)⟩⟩
  intro name listed
  obtain ⟨noNode, noConstant⟩ := unstemmed name listed
  have same : ∀ text ∈ texts,
      DependsOn {} (Reference.substitute text) name ↔ DependsOn {} text name := by
    intro text present
    rcases plain text present with free | ⟨lexemes, compose⟩
    · rw [Reference.substitute, Reference.replace_of_free free, String.ofList_toList]
    · exact compose.dependsOn_substitute {} noNode noConstant
  simp only [Reads, List.mem_map, exists_exists_and_eq_and]
  exact exists_congr fun text => and_congr_right (same text)

/-- Whatever `createShader` or `compileGraph` compiles to a program declares the time and
the resolution for the arguments that read them, and refreshes them for the arguments in
which they are found. Both agree on the time, and on the resolution as long as it is read
through the coordinate. For a graph this takes arguments that have no references or are
arithmetic. -/
theorem compiled_refreshes_found (isDefault : host.builtins = {}) :
    (∀ name texts, (createShader name texts).Meets host fun _ changed =>
      ∀ artifact, host.Submits changed artifact -> artifact.program.isSome = true ->
        ∃ (lines main : List String) (functions : String),
          artifact.fragment = Shader.fragmentStage ("\n".intercalate lines) functions main ∧
          artifact.Refreshes lines (texts.map Text.trimmed) (texts.map Text.trimmed) ∧
          artifact.Agrees lines (texts.map Text.trimmed)) ∧
    (∀ output, (compileGraph output).Meets host fun _ changed =>
      ∀ artifact, host.Submits changed artifact -> artifact.program.isSome = true ->
        ∃ (chain : List String) (nodes : List Node) (lines main : List String)
          (functions : String),
          (host.graph.analyze output).1 = .ok chain ∧
          nodesOf (host.graph.analyze output).2 chain = .ok nodes ∧
          artifact.fragment = Shader.fragmentStage ("\n".intercalate lines) functions main ∧
          artifact.Refreshes lines ((nodes.flatMap Node.arguments).map Reference.substitute)
            (nodes.flatMap Node.arguments) ∧
          ((∀ text ∈ nodes.flatMap Node.arguments,
              '$' ∉ text.toList ∨ ∃ lexemes, Lexeme.Compose lexemes text) ->
            artifact.Agrees lines (nodes.flatMap Node.arguments))) := by
  have interpreter : host.generator.interpreter = {} := by
    rw [Generator.interpreter, generator, vocabulary, isDefault]
  refine ⟨fun name texts => ?_, fun output => ?_⟩
  · refine (createShader_submits name texts host).imp
      fun _ changed carried artifact submits compiled => ?_
    obtain ⟨shader, made, carries⟩ := carried artifact submits
    obtain ⟨arguments, described, assembled⟩ := Generator.generate_eq_ok_iff.mp made.generated
    obtain ⟨_, _, functions, _, _, _, fragment⟩ := Generator.shape_of_assemble assembled
    rw [interpreter] at described carries
    rw [show host.generator.vocabulary.builtins = {} from isDefault] at fragment
    obtain ⟨lines, main, functions, isFragment, refreshes⟩ :=
      refreshes_of_asks (asks_of_describe described (by simp)) fragment carries compiled
    exact ⟨lines, main, functions, isFragment, refreshes, refreshes.agrees fun _ _ => Iff.rfl⟩
  · refine (compileGraph_submits output host).imp
      fun _ changed carried artifact submits compiled => ?_
    obtain ⟨chain, nodes, shader, made, carries⟩ := carried artifact submits
    rw [interpreter] at carries
    obtain ⟨lines, main, functions, isFragment, refreshes⟩ :=
      made.refreshes isDefault carries compiled
    exact ⟨chain, nodes, lines, main, functions, made.analyzed, made.nodes, isFragment, refreshes,
      fun plain => refreshes.agrees (reads_substitute plain)⟩

/-! ## An argument that reads the resolution -/

/-- An argument that reads the resolution by its own name. -/
def stretched : List String := ["resolution * time"]

theorem equipped_stretched :
    (createShader "noise" stretched).result equipped = .ok 0 ∧
    (((createShader "noise" stretched).final equipped).artifact? 0).map (fun artifact =>
        (artifact.fragment, artifact.isReady, artifact.refreshesTime,
          artifact.refreshesResolution)) =
      some (Shader.fragmentStage
        ("\n".intercalate ["uniform vec2 resolution;", "uniform float time;"])
        "float noise(vec2 at) { return fract(at.x); }"
        ["    vec2 _expr0 = resolution * time;", "", "    float result = noise(_expr0);",
          "    outputColor = vec4(vec3(result), 1.0);"], true, true, false) := by
  unfold createShader makeShader compileCall compileArtifact compileStages Graphics.compile
    Graphics.build Graphics.link Include.resolve
  rw [Text.toList_eq_fromBytes, Text.ofList_eq_toBytes]
  decide +kernel

theorem stretched_refreshes_found :
    equipped.builtins = {} ∧
    ∃ (artifact : Artifact) (lines main : List String) (functions : String),
      equipped.Submits ((createShader "noise" stretched).final equipped) artifact ∧
      artifact.program.isSome = true ∧
      artifact.fragment = Shader.fragmentStage ("\n".intercalate lines) functions main ∧
      artifact.Refreshes lines (stretched.map Text.trimmed) (stretched.map Text.trimmed) ∧
      artifact.Agrees lines (stretched.map Text.trimmed) := by
  have callable : equipped.builtins.isCallable "noise" = false := by decide +kernel
  have offered : equipped.registry.catalogue.owner? "noise" = some "noise" := by decide +kernel
  have trimmed : stretched.map Text.trimmed = stretched := by decide +kernel
  obtain ⟨recipe, isRecipe⟩ : ∃ recipe,
      equipped.generator.IsRecipe equipped.files "noise" stretched recipe :=
    exists_isRecipe_equipped (by decide +kernel) (by decide +kernel)
  rw [← trimmed] at isRecipe
  obtain ⟨artifact, submits⟩ :=
    (createShader_realizes callable offered rfl stretched).submits recipe isRecipe
  have ready := equipped_stretched.2
  have stored : ((createShader "noise" stretched).final equipped).artifact? 0 = some artifact :=
    submits.stored
  rw [stored] at ready
  have compiled : artifact.program.isSome = true :=
    (Bool.and_eq_true_iff.mp (congrArg (·.2.1) (Option.some.inj ready))).1
  obtain ⟨lines, main, functions, found⟩ :=
    (compiled_refreshes_found rfl).1 "noise" stretched artifact submits compiled
  exact ⟨rfl, artifact, lines, main, functions, submits, compiled, found⟩

/-- A shader declares the resolution and does not refresh it. -/
theorem stretched_keeps_resolution_stale :
    equipped.builtins = {} ∧
    ∃ (artifact : Artifact) (main : List String) (functions : String),
      (createShader "noise" stretched).result equipped = .ok 0 ∧
      ((createShader "noise" stretched).final equipped).artifact? 0 = some artifact ∧
      artifact.isReady = true ∧
      artifact.fragment = Shader.fragmentStage
        ("\n".intercalate ["uniform vec2 resolution;", "uniform float time;"]) functions main ∧
      artifact.refreshesTime = true ∧ artifact.refreshesResolution = false := by
  obtain ⟨served, shown⟩ := equipped_stretched
  obtain ⟨artifact, stored, same⟩ := Option.map_eq_some_iff.mp shown
  simp only [Prod.mk.injEq] at same
  obtain ⟨fragment, ready, time, resolution⟩ := same
  exact ⟨rfl, artifact, _, _, served, stored, ready, fragment, time, resolution⟩

end Host
end ShaderGraph
