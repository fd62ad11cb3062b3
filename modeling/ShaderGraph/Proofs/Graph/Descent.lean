import ShaderGraph.Proofs.Graph.Numbering
import ShaderGraph.Proofs.Graph.Order
import ShaderGraph.Proofs.Graph.Removal

/-!
# References to earlier nodes

A graph descends if every reference leads to a registered node with a smaller
number. Registering a call keeps that as long as its references are found, and
dropping nodes as long as whatever refers to them goes with them. In such a graph
no reference closes a cycle, so every analysis finds a chain.
-/

namespace ShaderGraph
namespace Graph

variable {graph : Graph}

/-! ## Registering a call -/

theorem not_has_nextName (numbered : graph.IsNumbered) : graph.has graph.nextName = false := by
  cases there : graph.has graph.nextName with
  | false => rfl
  | true =>
      rw [has_eq_isSome_call?] at there
      obtain ⟨call, found⟩ := Option.isSome_iff_exists.mp there
      obtain ⟨number, known, same⟩ := numbered _ call found
      have next := nodeName_injective same
      omega

theorem has_add (function : String) (arguments : List String) (name : String) :
    (graph.add function arguments).has name = true ↔
      name = graph.nextName ∨ graph.has name = true := by
  rw [has_eq_isSome_call?, call?_add, has_eq_isSome_call?]
  split <;> simp_all

theorem refers_add {function source target : String} {arguments : List String} :
    (graph.add function arguments).Refers source target ↔
      if source = graph.nextName then target ∈ arguments.flatMap Reference.inText
      else graph.Refers source target := by
  rw [refers_iff_call?, call?_add]
  split
  · simp
  · exact refers_iff_call?.symm

theorem call?_remove (graph : Graph) (name other : String) :
    (graph.remove name).call? other = if other = name then none else graph.call? other := by
  rw [call?, find?, remove, Table.find?_erase]
  split <;> simp_all [call?, find?]

theorem SameCalls.remove
    {left right : Graph}
    (same : SameCalls left right)
    (name : String) : SameCalls (left.remove name) (right.remove name) := by
  intro other
  rw [call?_remove, call?_remove, same other]

/-- Removing the node that was registered last undoes the registration. -/
theorem sameCalls_remove_add
    (fresh : graph.has graph.nextName = false)
    (function : String)
    (arguments : List String) :
    SameCalls graph ((graph.add function arguments).remove graph.nextName) := by
  intro other
  rw [call?_remove, call?_add]
  split
  case isTrue same =>
    rw [has_eq_isSome_call?] at fresh
    simpa [same] using fresh
  case isFalse => rfl

theorem narrows_without (graph : Graph) (names : List String) :
    graph.Narrows (graph.without names) := by
  refine ⟨rfl, fun name call found => ?_⟩
  rw [call?, find?, without, Table.find?_without] at found
  split at found
  · cases found
  · exact found

/-- A new node whose chain is found refers to nodes that were there before. -/
theorem has_of_analyze_add
    {function : String}
    {arguments chain : List String}
    (analyzed : ((graph.add function arguments).analyze graph.nextName).1 = .ok chain) :
    ∀ reference ∈ arguments.flatMap Reference.inText, graph.has reference = true := by
  intro reference present
  have chainOf := isChainOf_of_analyze analyzed
  have refers : (graph.add function arguments).Refers graph.nextName reference :=
    refers_add.mpr (by rwa [if_pos rfl])
  have listed := chainOf.ordered.mem_of_refers chainOf.output_mem refers
  have different : reference ≠ graph.nextName := by
    rintro rfl
    exact chainOf.ordered.not_onCycle chainOf.output_mem (.single refers)
  exact ((has_add function arguments reference).mp (chainOf.registered _ listed)).resolve_left
    different

/-! ## Failures of an analysis -/

theorem resolveEach_error
    {names : List String}
    {failure : Failure}
    (registered : ∀ name ∈ names, graph.has name = true)
    (failed : (resolveEach names graph).1 = .error failure) :
    ∃ node reference, failure = .unresolvedReference node reference := by
  induction names generalizing graph with
  | nil => cases failed
  | cons name rest inductionHypothesis =>
      rw [resolveEach_cons] at failed
      have same := graph.sameCalls_resolve name
      cases outcome : (graph.resolve name).1 with
      | error other =>
          obtain ⟨reference, rfl, _⟩ := resolve_error (registered name List.mem_cons_self) outcome
          rw [outcome] at failed
          cases failed
          exact ⟨name, reference, rfl⟩
      | ok value =>
          rw [outcome] at failed
          refine inductionHypothesis (fun other present => ?_) failed
          rw [← same.has_eq]
          exact registered other (List.mem_cons_of_mem name present)

/-- The analysis of a registered node fails only in ways that are reported. -/
theorem isDomestic_of_analyze
    {output : String}
    {failure : Failure}
    (registered : graph.has output = true)
    (failed : (graph.analyze output).1 = .error failure) : failure.isDomestic = true := by
  obtain ⟨same, ⟨other, unresolved, equal⟩ | ⟨_, resolved, _⟩⟩ := graph.analyze_cases output
  · cases equal.symm.trans failed
    obtain ⟨node, reference, rfl⟩ :=
      resolveEach_error (fun _ present => has_iff_mem_names.mpr present) unresolved
    rfl
  · rcases analyze_of_isClosed (same.symm.isClosed resolved.isClosed) registered with
      ⟨chain, analyzed⟩ | ⟨other, circular, source, target, rfl, _⟩
    · cases analyzed.symm.trans failed
    · cases circular.symm.trans failed
      rfl

/-! ## Graphs that descend -/

/-- Every reference leads to a registered node with a smaller number. -/
def Descends (graph : Graph) : Prop :=
  ∀ source target, graph.Refers source target ->
    ∃ high low, source = nodeName high ∧ target = nodeName low ∧ low < high ∧
      graph.has target = true

theorem Descends.of_sameCalls
    {changed : Graph}
    (descends : graph.Descends)
    (same : SameCalls graph changed) : changed.Descends := by
  intro source target refers
  rw [← same.refers_eq] at refers
  rw [← same.has_eq]
  exact descends source target refers

/-- Registering a call whose references are registered. -/
theorem Descends.add
    {arguments : List String}
    (descends : graph.Descends)
    (numbered : graph.IsNumbered)
    (function : String)
    (known : ∀ reference ∈ arguments.flatMap Reference.inText, graph.has reference = true) :
    (graph.add function arguments).Descends := by
  intro source target refers
  rw [refers_add] at refers
  split at refers
  case isTrue same =>
    have registered := known target refers
    obtain ⟨call, found⟩ :=
      Option.isSome_iff_exists.mp (has_eq_isSome_call? graph target ▸ registered)
    obtain ⟨number, before, named⟩ := numbered target call found
    exact ⟨graph.registered + 1, number, same, named, Nat.lt_succ_of_le before,
      (has_add function arguments target).mpr (.inr registered)⟩
  case isFalse =>
    obtain ⟨high, low, sourceEq, targetEq, less, registered⟩ := descends source target refers
    exact ⟨high, low, sourceEq, targetEq, less,
      (has_add function arguments target).mpr (.inr registered)⟩

/-- Dropping nodes together with all that refer to them. -/
theorem Descends.without
    {names : List String}
    (descends : graph.Descends)
    (closed : ∀ source target, graph.Refers source target -> target ∈ names -> source ∈ names) :
    (graph.without names).Descends := by
  intro source target refers
  obtain ⟨before, kept⟩ := refers_without.mp refers
  obtain ⟨high, low, sourceEq, targetEq, less, registered⟩ := descends source target before
  have targetKept : target ∉ names := fun dropped => kept (closed source target before dropped)
  exact ⟨high, low, sourceEq, targetEq, less, has_without.mpr ⟨registered, targetKept⟩⟩

/-- Following references leads to ever smaller numbers. -/
theorem Descends.lt_of_leads
    {source target : String}
    (descends : graph.Descends)
    (leads : Relation.TransGen graph.Refers source target) :
    ∃ high low, source = nodeName high ∧ target = nodeName low ∧ low < high := by
  induction leads with
  | single refers =>
      obtain ⟨high, low, sourceEq, targetEq, less, _⟩ := descends _ _ refers
      exact ⟨high, low, sourceEq, targetEq, less⟩
  | tail _ refers inductionHypothesis =>
      obtain ⟨high, middle, sourceEq, middleEq, less⟩ := inductionHypothesis
      obtain ⟨again, low, againEq, targetEq, lessAgain, _⟩ := descends _ _ refers
      cases nodeName_injective (middleEq.symm.trans againEq)
      exact ⟨high, low, sourceEq, targetEq, Nat.lt_trans lessAgain less⟩

theorem Descends.not_onCycle
    {name : String}
    (descends : graph.Descends) : ¬graph.OnCycle name := by
  intro cycle
  obtain ⟨high, low, same, again, less⟩ := descends.lt_of_leads cycle
  exact Nat.ne_of_lt less (nodeName_injective (again.symm.trans same))

/-- In a graph that descends every registered node has a chain. -/
theorem Descends.exists_chain
    {output : String}
    (descends : graph.Descends)
    (registered : graph.has output = true) :
    ∃ chain, (graph.analyze output).1 = .ok chain := by
  have closed : graph.IsClosed := fun source target refers => by
    obtain ⟨_, _, _, _, _, found⟩ := descends source target refers
    exact found
  rcases analyze_of_isClosed closed registered with
    analyzed | ⟨failure, _, source, target, _, refers, _, back⟩
  · exact analyzed
  · exact absurd (Relation.TransGen.head' refers back) descends.not_onCycle

end Graph
end ShaderGraph
