import Mathlib.Logic.Relation
import ShaderGraph.Proofs.Graph.Numbering
import ShaderGraph.Proofs.Host.GraphWork
import ShaderGraph.Proofs.Text.Bytes

/-!
# Runs of the work on graphs

Between two moments of a run no number is given twice and no node gets another
call, so the graphs of any two moments agree, and chains with the same key are
those of the same graph. Everything in the cache was made by a compilation of the
same run and has the key of the chain that was compiled then, so what is returned
from the cache was made for the same graph.
-/

namespace ShaderGraph

namespace Graph

/-- The parts of a graph that hold at every moment of a run. -/
structure IsRegular (graph : Graph) : Prop where
  numbered : graph.IsNumbered
  plain : graph.IsPlain

/-- A graph after one operation: nothing was registered, or one call was, with a
name that opens no parenthesis and arguments that were listed in a text. -/
inductive Changes (graph changed : Graph) : Prop
  | narrows (narrows : graph.Narrows changed)
  | adds
      (name raw : String)
      (plain : '(' ∉ name.toList)
      (added : changed = graph.add name (Call.splitArguments raw))

theorem Changes.precedes {graph changed : Graph} (changes : graph.Changes changed) :
    graph.Precedes changed := by
  cases changes with
  | narrows narrows => exact narrows.precedes
  | adds name raw plain added =>
      rw [added]
      exact graph.precedes_add name (Call.splitArguments raw)

theorem Changes.isRegular
    {graph changed : Graph}
    (changes : graph.Changes changed)
    (regular : graph.IsRegular) : changed.IsRegular := by
  cases changes with
  | narrows narrows =>
      refine ⟨narrows.isNumbered regular.numbered, fun name call found => ?_⟩
      exact regular.plain name call (narrows.calls name call found)
  | adds name raw plain added =>
      rw [added]
      refine ⟨regular.numbered.add name (Call.splitArguments raw), fun other call found => ?_⟩
      rw [call?_add] at found
      split at found
      · cases found
        exact ⟨plain, raw, rfl⟩
      · exact regular.plain other call found

end Graph

namespace Host

/-! ## Runs -/

/-- One operation on the graph of a host. Names that are registered open no
parenthesis, and arguments come from a text. Other work on the host keeps the
graph and its cache and drops no artifact. -/
inductive GraphStep : Host -> Host -> Prop
  | register (host : Host) (name raw : String) (plain : '(' ∉ name.toList) :
      GraphStep host ((Action.registerNode name (Call.splitArguments raw)).final host)
  | remove (host : Host) (name : String) :
      GraphStep host ((Action.removeNode name).final host)
  | analyze (host : Host) (output : String) :
      GraphStep host ((Action.analyzeGraph output).final host)
  | compile (host : Host) (output : String) :
      GraphStep host ((Action.compileGraph output).final host)
  | clear (host : Host) :
      GraphStep host (Action.clearNodes.final host)
  | other
      (host changed : Host)
      (graph : changed.graph = host.graph)
      (cache : changed.graphCache = host.graphCache)
      (artifacts : host.artifacts.length ≤ changed.artifacts.length) :
      GraphStep host changed

/-- Any number of operations on the graph of a host. -/
def GraphRun : Host -> Host -> Prop :=
  Relation.ReflTransGen GraphStep

/-- A compilation of an output that made the artifact of a number and cached it
under a key. -/
structure Compiled
    (host : Host)
    (output : String)
    (chain : List String)
    (key : String)
    (id : ArtifactId) : Prop where
  key : Action.HasKey host.graph output chain key
  number : host.artifacts.length = id
  returned : (Action.compileGraph output).result host = .ok (some id)

/-- A cache after one operation: nothing was cached, or a compilation cached what
it made. -/
inductive CacheChanges (host changed : Host) : Prop
  | narrows
      (cached : ∀ key id,
        changed.graphCache.find? key = some id -> host.graphCache.find? key = some id)
  | adds
      (output key : String)
      (chain : List String)
      (compiled : host.Compiled output chain key host.artifacts.length)
      (added : changed.graphCache = host.graphCache.set key host.artifacts.length)

theorem GraphStep.changes {host changed : Host} (step : GraphStep host changed) :
    host.graph.Changes changed.graph := by
  cases step with
  | register name raw plain =>
      have effect := Action.registerNode_effect name (Call.splitArguments raw) host
      rw [Call.map_trimmed_splitArguments] at effect
      rcases effect with ⟨_, same⟩ | ⟨_, added⟩
      · rw [same]
        exact .narrows (Graph.SameCalls.narrows (.refl _) rfl)
      · rw [added]
        exact .adds name raw plain rfl
  | remove name => exact .narrows (host.graph.narrows_remove name)
  | analyze output =>
      have keeps := host.graph.analyze_keeps output
      exact .narrows (keeps.1.narrows keeps.2)
  | compile output =>
      have keeps := host.graph.analyze_keeps output
      rcases Action.compileGraph_effect output host with kept | made
      · rw [kept.graph]
        exact .narrows (keeps.1.narrows keeps.2)
      · rw [made.graph]
        exact .narrows (keeps.1.narrows keeps.2)
  | clear =>
      rw [(Action.clearNodes_effect host).1]
      exact .narrows host.graph.narrows_clear
  | other _ graph cache artifacts =>
      rw [graph]
      exact .narrows (Graph.SameCalls.narrows (.refl _) rfl)

theorem GraphStep.cacheChanges {host changed : Host} (step : GraphStep host changed) :
    host.CacheChanges changed := by
  cases step with
  | register name raw plain =>
      refine .narrows fun key id found => ?_
      rcases Action.registerNode_effect name (Call.splitArguments raw) host with
        ⟨_, same⟩ | ⟨_, added⟩
      · rwa [same] at found
      · rwa [added] at found
  | remove name => exact .narrows fun key id found => found
  | analyze output => exact .narrows fun key id found => found
  | compile output =>
      rcases Action.compileGraph_effect output host with kept | made
      · refine .narrows fun key id found => ?_
        rwa [kept.cache] at found
      · obtain ⟨chain, key, hasKey, cached⟩ := made.cached
        exact .adds output key chain ⟨hasKey, rfl, made.returned⟩ cached
  | clear =>
      refine .narrows fun key id found => ?_
      rw [(Action.clearNodes_effect host).2.1] at found
      cases found
  | other _ graph cache artifacts =>
      refine .narrows fun key id found => ?_
      rwa [cache] at found

/-! ## What holds throughout a run -/

namespace GraphRun

theorem precedes {first second : Host} (run : GraphRun first second) :
    first.graph.Precedes second.graph := by
  induction run with
  | refl => exact .refl _
  | tail _ step inductionHypothesis => exact inductionHypothesis.trans step.changes.precedes

theorem isRegular
    {first second : Host}
    (run : GraphRun first second)
    (regular : first.graph.IsRegular) : second.graph.IsRegular := by
  induction run with
  | refl => exact regular
  | tail _ step inductionHypothesis => exact step.changes.isRegular inductionHypothesis

/-- What is cached under a key was made by a compilation of the run, of a chain
with that key. -/
theorem exists_compiled
    {start host : Host}
    {key : String}
    {id : ArtifactId}
    (empty : start.graphCache = [])
    (run : GraphRun start host)
    (cached : host.graphCache.find? key = some id) :
    ∃ moment output chain, GraphRun start moment ∧ GraphRun moment host ∧
      moment.Compiled output chain key id := by
  induction run generalizing key id with
  | refl =>
      rw [empty] at cached
      cases cached
  | @tail before after earlier step inductionHypothesis =>
      have survives : before.graphCache.find? key = some id ->
          ∃ moment output chain, GraphRun start moment ∧ GraphRun moment after ∧
            moment.Compiled output chain key id := by
        intro found
        obtain ⟨moment, output, chain, fromStart, toBefore, compiled⟩ := inductionHypothesis found
        exact ⟨moment, output, chain, fromStart, toBefore.tail step, compiled⟩
      cases step.cacheChanges with
      | narrows remains => exact survives (remains key id cached)
      | adds output newKey chain compiled added =>
          rw [added, Table.find?_set] at cached
          split at cached
          case isTrue same =>
            cases cached
            cases eq_of_beq same
            exact ⟨before, output, chain, earlier, .single step, compiled⟩
          case isFalse => exact survives cached

end GraphRun

theorem isRegular_empty : Graph.IsRegular {} :=
  ⟨fun _ _ found => (nomatch found), fun _ _ found => (nomatch found)⟩

/-- Chains of two moments of a run that have the same key are those of the same
graph. -/
theorem GraphRun.chainsAgree
    {start first second : Host}
    {leftOutput rightOutput : String}
    {leftChain rightChain : List String}
    (empty : start.graph = {})
    (before : GraphRun start first)
    (after : GraphRun first second)
    (leftAnalysis : (first.graph.analyze leftOutput).1 = .ok leftChain)
    (rightAnalysis : (second.graph.analyze rightOutput).1 = .ok rightChain)
    (same : Action.graphKey first.graph leftChain = Action.graphKey second.graph rightChain) :
    Graph.ChainsAgree first.graph leftChain second.graph rightChain := by
  have regular := before.isRegular (empty ▸ isRegular_empty)
  exact Graph.chainsAgree_of_graphKey_eq (after.precedes.agrees regular.numbered) regular.plain
    (after.isRegular regular).plain leftAnalysis rightAnalysis same

/-- Two chains of a run that have the same key are those of the same graph, at
whatever moments they were found. So an artifact that a compilation returns, from
the cache or not, was made for the same graph. -/
theorem graphKey_determines_graph
    {start first second : Host}
    (empty : start.graph = {})
    (uncached : start.graphCache = [])
    (before : GraphRun start first)
    (after : GraphRun first second) :
    (∀ leftOutput rightOutput leftChain rightChain,
      (first.graph.analyze leftOutput).1 = .ok leftChain ->
      (second.graph.analyze rightOutput).1 = .ok rightChain ->
      Action.graphKey first.graph leftChain = Action.graphKey second.graph rightChain ->
        Graph.ChainsAgree first.graph leftChain second.graph rightChain) ∧
    (∀ output id, (Action.compileGraph output).result second = .ok (some id) ->
      ∃ chain moment madeOutput madeChain key,
        (second.graph.analyze output).1 = .ok chain ∧
        GraphRun start moment ∧ GraphRun moment second ∧
        moment.Compiled madeOutput madeChain key id ∧
        Graph.ChainsAgree moment.graph madeChain second.graph chain) := by
  constructor
  · intro leftOutput rightOutput leftChain rightChain leftAnalysis rightAnalysis same
    exact before.chainsAgree empty after leftAnalysis rightAnalysis same
  · intro output id returned
    have run : GraphRun start second := before.trans after
    rcases Action.compileGraph_effect output second with kept | made
    · obtain ⟨chain, key, hasKey, cached⟩ := kept.served id returned
      obtain ⟨moment, madeOutput, madeChain, fromStart, toSecond, compiled⟩ :=
        run.exists_compiled uncached cached
      refine ⟨chain, moment, madeOutput, madeChain, key, hasKey.analysis, fromStart, toSecond,
        compiled, fromStart.chainsAgree empty toSecond compiled.key.analysis hasKey.analysis ?_⟩
      rw [compiled.key.keyOf, hasKey.keyOf]
    · obtain ⟨chain, key, hasKey, _⟩ := made.cached
      rw [made.returned] at returned
      cases returned
      refine ⟨chain, second, output, chain, key, hasKey.analysis, run, .refl,
        ⟨hasKey, rfl, made.returned⟩, ?_⟩
      exact run.chainsAgree empty .refl hasKey.analysis hasKey.analysis rfl

/-- A host with two calls, one of the result of the other. -/
def nested : Host :=
  (Action.registerNode "abs" (Call.splitArguments "$shader_1")).final
    ((Action.registerNode "abs" (Call.splitArguments "time")).final {})

/-- The same host after the outer call was compiled, removed and registered
again, under another number. -/
def nestedAgain : Host :=
  (Action.registerNode "abs" (Call.splitArguments "$shader_1")).final
    ((Action.removeNode "shader_2").final ((Action.compileGraph "shader_2").final nested))

theorem nested_nestedAgain_agree :
    Graph.ChainsAgree nested.graph ["shader_1", "shader_2"]
      nestedAgain.graph ["shader_1", "shader_3"] ∧
    ∃ chain moment madeOutput madeChain key,
      (nestedAgain.graph.analyze "shader_3").1 = .ok chain ∧
      GraphRun {} moment ∧ GraphRun moment nestedAgain ∧
      moment.Compiled madeOutput madeChain key 0 ∧
      Graph.ChainsAgree moment.graph madeChain nestedAgain.graph chain := by
  have before : GraphRun {} nested :=
    Relation.ReflTransGen.refl
      |>.tail (.register _ "abs" "time" (by decide))
      |>.tail (.register _ "abs" "$shader_1" (by decide))
  have after : GraphRun nested nestedAgain :=
    Relation.ReflTransGen.refl
      |>.tail (.compile _ "shader_2")
      |>.tail (.remove _ "shader_2")
      |>.tail (.register _ "abs" "$shader_1" (by decide))
  have evaluated :
      (nested.graph.analyze "shader_2").1 = .ok ["shader_1", "shader_2"] ∧
      (nestedAgain.graph.analyze "shader_3").1 = .ok ["shader_1", "shader_3"] ∧
      Action.graphKey nested.graph ["shader_1", "shader_2"] =
        Action.graphKey nestedAgain.graph ["shader_1", "shader_3"] ∧
      (Action.compileGraph "shader_3").result nestedAgain = .ok (some 0) := by
    unfold nestedAgain Action.compileGraph Action.makeGraph Action.compileChain
      Action.compileArtifact Action.compileStages Graphics.compile Graphics.build Graphics.link
      Include.resolve
    rw [Text.toList_eq_fromBytes, Text.ofList_eq_toBytes]
    decide +kernel
  obtain ⟨nestedAnalysis, againAnalysis, sameKey, returned⟩ := evaluated
  have determined := graphKey_determines_graph rfl rfl before after
  exact ⟨determined.1 "shader_2" "shader_3" _ _ nestedAnalysis againAnalysis sameKey,
    determined.2 "shader_3" 0 returned⟩

end Host
end ShaderGraph
