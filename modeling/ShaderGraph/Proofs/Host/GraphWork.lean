import ShaderGraph.Proofs.Cache.GraphKey
import ShaderGraph.Proofs.Host.Effect

/-!
# What the work on graphs does

Registering adds at most one node, and everything else adds none and keeps all
calls that stay. Only a compilation adds to the cache: it caches the artifact
that it made, whose number is new, under the key of the chain it was made for.
-/

namespace ShaderGraph

namespace Action

/-- A call that is registered becomes the next node, and one that is refused
changes nothing. -/
theorem registerNode_effect (name : String) (arguments : List String) (host : Host) :
    (registerNode name arguments).Meets host fun outcome changed =>
      (outcome = .ok none ∧ changed = host) ∨
        (outcome = .ok (some host.graph.nextName) ∧
          changed = { host with graph := host.graph.add name (arguments.map Text.trimmed) }) := by
  rw [registerNode, meets_get_bind]
  split
  · rw [meets_log_bind, meets_pure]
    exact .inl ⟨rfl, rfl⟩
  · split
    · rw [meets_log_bind, meets_pure]
      exact .inl ⟨rfl, rfl⟩
    · rw [meets_modify_bind]
      split
      · rw [meets_log_bind, meets_pure]
        exact .inr ⟨rfl, rfl⟩
      · exact .inr ⟨rfl, rfl⟩

/-- Clearing forgets the nodes and the cache, and drops no artifact. -/
theorem clearNodes_effect (host : Host) :
    (clearNodes).Meets host fun _ changed =>
      changed.graph = host.graph.clear ∧ changed.graphCache = [] ∧
        host.artifacts.length ≤ changed.artifacts.length := by
  rw [clearNodes, meets_modify_bind, clearGraphs, meets_get_bind, meets_bind]
  have respected := respects_cleanUpEach host.graphCache.contents
    { host with graph := host.graph.clear }
  have succeeds := cleanUpEach_succeeds host.graphCache.contents
    { host with graph := host.graph.clear }
  unfold Meets at succeeds ⊢
  rw [succeeds]
  exact ⟨respected.graph_eq, rfl, respected.length_le⟩

/-- A new artifact in the cache, under the number that comes next. -/
structure Caches (key : String) (host changed : Host) : Prop where
  graph : changed.graph = host.graph
  cache : changed.graphCache = host.graphCache.set key host.artifacts.length
  artifacts : host.artifacts.length < changed.artifacts.length

/-- The artifact of a chain is cached and returned only if it could be compiled. -/
theorem compileChain_effect
    (output key : String)
    (chain : List String)
    (shader : Shader)
    (host : Host) :
    (compileChain output key chain shader).Meets host fun outcome changed =>
      (OnlyArtifacts host changed ∧ ∀ id, outcome ≠ .ok (some id)) ∨
        (Caches key host changed ∧ outcome = .ok (some host.artifacts.length)) := by
  rw [compileChain, meets_get_bind, meets_liftExcept_bind]
  cases nodesOf host.graph chain with
  | error failure => exact .inl ⟨refl_of OnlyArtifacts host, by simp⟩
  | ok nodes =>
      rw [before_ok, meets_bind]
      refine (addArtifact_effect _ host).imp ?_
      rintro _ added ⟨rfl, onlyAddedFrom, longer⟩
      have onlyAdded : OnlyArtifacts host added := onlyAddedFrom.onlyArtifacts
      refine before_ok.mpr ((respects_compileArtifact host.artifacts.length).meets_bind ?_ ?_)
      · exact fun failure changed compiled => .inl ⟨trans_of _ onlyAdded compiled, by simp⟩
      · intro success compiledHost compiled
        cases success with
        | false =>
            refine meets_log_bind.mpr (meets_pure.mpr (.inl ⟨trans_of _ onlyAdded compiled, ?_⟩))
            simp
        | true =>
            refine (respects_setRefreshing host.artifacts.length _).meets_bind ?_ ?_
            · exact fun failure changed marked =>
                .inl ⟨trans_of _ onlyAdded (trans_of _ compiled marked), by simp⟩
            · intro _ changed marked
              have only := trans_of _ onlyAdded (trans_of _ compiled marked)
              refine meets_modify_bind.mpr (meets_log_bind.mpr (meets_pure.mpr (.inr ⟨?_, rfl⟩)))
              refine ⟨only.graph_eq, ?_, ?_⟩
              · dsimp only
                rw [only.graphCache_eq]
              · exact Nat.lt_of_lt_of_le longer (trans_of _ compiled marked).length_le

/-- A chain that is not cached is cached only if its artifact could be compiled. -/
theorem makeGraph_effect
    (output key : String)
    (chain : List String)
    (host : Host) :
    (makeGraph output key chain).Meets host fun outcome changed =>
      (OnlyArtifacts host changed ∧ ∀ id, outcome ≠ .ok (some id)) ∨
        (Caches key host changed ∧ outcome = .ok (some host.artifacts.length)) := by
  have settled : (settle (host.generator.unify host.files host.graph chain)).Respects Eq :=
    respects_settle _
  rw [makeGraph, meets_get_bind]
  refine settled.meets_bind ?_ ?_
  · rintro failure _ rfl
    exact .inl ⟨refl_of OnlyArtifacts host, by simp⟩
  · rintro outcome _ rfl
    cases outcome with
    | error failure =>
        refine meets_log_bind.mpr (meets_pure.mpr (.inl ⟨refl_of OnlyArtifacts host, ?_⟩))
        simp
    | ok shader =>
        dsimp only
        split
        · exact meets_log_bind.mpr (compileChain_effect output key chain shader host)
        · exact compileChain_effect output key chain shader host

theorem analyzeGraph_effect (output : String) (host : Host) :
    (analyzeGraph output).Meets host fun outcome changed =>
      outcome = .ok (host.graph.analyze output).1 ∧
        changed = { host with graph := (host.graph.analyze output).2 } :=
  ⟨rfl, rfl⟩

/-- The chain of an output and its key. -/
structure HasKey (graph : Graph) (output : String) (chain : List String) (key : String) :
    Prop where
  analysis : (graph.analyze output).1 = .ok chain
  keyOf : graphKey graph chain = .ok key

/-- A compilation leaves the cache as it is, and returns an artifact only if it
is cached under the key of the chain. -/
structure Keeps
    (output : String)
    (host : Host)
    (outcome : Except Failure (Option ArtifactId))
    (changed : Host) : Prop where
  graph : changed.graph = (host.graph.analyze output).2
  cache : changed.graphCache = host.graphCache
  artifacts : host.artifacts.length ≤ changed.artifacts.length
  served : ∀ id, outcome = .ok (some id) ->
    ∃ chain key, HasKey host.graph output chain key ∧ host.graphCache.find? key = some id

/-- A compilation caches a new artifact under the key of the chain and returns
it. -/
structure Makes
    (output : String)
    (host : Host)
    (outcome : Except Failure (Option ArtifactId))
    (changed : Host) : Prop where
  graph : changed.graph = (host.graph.analyze output).2
  artifacts : host.artifacts.length < changed.artifacts.length
  cached : ∃ chain key, HasKey host.graph output chain key ∧
    changed.graphCache = host.graphCache.set key host.artifacts.length
  returned : outcome = .ok (some host.artifacts.length)

theorem Keeps.of_onlyArtifacts
    {output : String}
    {host changed : Host}
    {outcome : Except Failure (Option ArtifactId)}
    (only : OnlyArtifacts { host with graph := (host.graph.analyze output).2 } changed)
    (served : ∀ id, outcome = .ok (some id) ->
      ∃ chain key, HasKey host.graph output chain key ∧ host.graphCache.find? key = some id) :
    Keeps output host outcome changed :=
  ⟨only.graph_eq, only.graphCache_eq, only.length_le, served⟩

/-- What a compilation returns was cached under the key of its chain before, or is
new and cached under that key. -/
theorem compileGraph_effect (output : String) (host : Host) :
    (compileGraph output).Meets host fun outcome changed =>
      Keeps output host outcome changed ∨ Makes output host outcome changed := by
  rw [compileGraph, meets_bind]
  refine (analyzeGraph_effect output host).imp ?_
  rintro _ analyzed ⟨rfl, rfl⟩
  have only : OnlyArtifacts { host with graph := (host.graph.analyze output).2 }
      { host with graph := (host.graph.analyze output).2 } := refl_of OnlyArtifacts _
  rw [before_ok]
  cases analysis : (host.graph.analyze output).1 with
  | error failure =>
      dsimp only
      split
      · exact meets_log_bind.mpr (meets_pure.mpr (.inl (.of_onlyArtifacts only (by simp))))
      · exact meets_throw.mpr (.inl (.of_onlyArtifacts only (by simp)))
  | ok chain =>
      have keyEq : graphKey (host.graph.analyze output).2 chain = graphKey host.graph chain :=
        (Graph.graphKey_of_sameCalls (host.graph.analyze_keeps output).1
          (Graph.isChainOf_of_analyze analysis).registered).symm
      dsimp only
      rw [meets_get_bind, meets_liftExcept_bind]
      cases keyOf : graphKey (host.graph.analyze output).2 chain with
      | error failure => exact .inl (.of_onlyArtifacts only (by simp))
      | ok key =>
          rw [keyEq] at keyOf
          rw [before_ok]
          split
          case h_1 id cached =>
              refine meets_log_bind.mpr (meets_pure.mpr (.inl (.of_onlyArtifacts only ?_)))
              intro _ served
              cases served
              exact ⟨chain, key, ⟨analysis, keyOf⟩, (Option.filter_eq_some_iff.mp cached).1⟩
          case h_2 =>
              refine (makeGraph_effect output key chain _).imp ?_
              rintro outcome changed (⟨onlyMade, failed⟩ | ⟨caches, rfl⟩)
              · exact .inl (.of_onlyArtifacts onlyMade fun id success => absurd success (failed id))
              · exact .inr ⟨caches.graph, caches.artifacts, ⟨chain, key, ⟨analysis, keyOf⟩,
                  caches.cache⟩, rfl⟩

end Action
end ShaderGraph
