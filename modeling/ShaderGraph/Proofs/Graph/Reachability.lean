import Mathlib.Logic.Relation
import ShaderGraph.Graph.Order

/-!
# References, reachability and resolution

The calls of a graph decide which nodes refer to which; the inputs that were
found for a node are a record of its references. Finding the inputs of all nodes
keeps every call and leaves every node with exactly the nodes that it refers to,
or names a reference to a node that is not there.
-/

namespace ShaderGraph
namespace Graph

/-- The call of a node: its function and its arguments. -/
def call? (graph : Graph) (name : String) : Option (String × List String) :=
  (graph.find? name).map fun node => (node.function, node.arguments)

/-- A registered node refers to another one in its arguments. -/
def Refers (graph : Graph) (source target : String) : Prop :=
  ∃ node, graph.find? source = some node ∧ target ∈ node.references

/-- Following references leads from one node to another. -/
def Reaches (graph : Graph) : String -> String -> Prop :=
  Relation.ReflTransGen graph.Refers

/-- Following at least one reference leads from a node back to itself. -/
def OnCycle (graph : Graph) (name : String) : Prop :=
  Relation.TransGen graph.Refers name name

/-- Every reference of a registered node names a registered node. -/
def IsClosed (graph : Graph) : Prop :=
  ∀ source target, graph.Refers source target -> graph.has target = true

/-- Two graphs have the same nodes with the same calls. -/
def SameCalls (left right : Graph) : Prop :=
  ∀ name, left.call? name = right.call? name

/-- A node is registered if it is found. -/
theorem has_iff_exists {graph : Graph} {name : String} :
    graph.has name = true ↔ ∃ node, graph.find? name = some node :=
  Option.isSome_iff_exists

theorem has_iff_mem_names {graph : Graph} {name : String} :
    graph.has name = true ↔ name ∈ graph.nodes.names :=
  Table.has_iff_mem_names

theorem has_eq_isSome_call? (graph : Graph) (name : String) :
    graph.has name = (graph.call? name).isSome := by
  simp [has, call?, find?, Table.has]

/-- A node refers to what the arguments of its call name. -/
theorem refers_iff_call? {graph : Graph} {source target : String} :
    graph.Refers source target ↔
      ∃ call, graph.call? source = some call ∧ target ∈ call.2.flatMap Reference.inText := by
  constructor
  · rintro ⟨node, found, present⟩
    exact ⟨(node.function, node.arguments), by rw [call?, found]; rfl, present⟩
  · rintro ⟨call, found, present⟩
    obtain ⟨node, registered, rfl⟩ := Option.map_eq_some_iff.mp found
    exact ⟨node, registered, present⟩

/-- A graph is closed if all its entries refer to registered nodes. -/
theorem isClosed_of_forall_mem
    {graph : Graph}
    (known : ∀ entry ∈ graph.nodes, ∀ reference ∈ entry.2.references,
      graph.has reference = true) : graph.IsClosed := by
  rintro source target ⟨node, found, present⟩
  exact known (source, node) (Table.mem_of_find? found) target present

namespace SameCalls

theorem refl (graph : Graph) : SameCalls graph graph := fun _ => rfl

theorem symm {left right : Graph} (same : SameCalls left right) : SameCalls right left :=
  fun name => (same name).symm

theorem trans
    {first second third : Graph}
    (left : SameCalls first second)
    (right : SameCalls second third) : SameCalls first third :=
  fun name => (left name).trans (right name)

/-- Graphs with the same calls have the same nodes. -/
theorem has_eq {left right : Graph} (same : SameCalls left right) (name : String) :
    left.has name = right.has name := by
  rw [has_eq_isSome_call?, has_eq_isSome_call?, same name]

/-- Graphs with the same calls have the same references. -/
theorem refers_eq {left right : Graph} (same : SameCalls left right) :
    left.Refers = right.Refers := by
  funext source target
  rw [refers_iff_call?, refers_iff_call?, same source]

/-- Graphs with the same calls reach the same. -/
theorem reaches_eq {left right : Graph} (same : SameCalls left right) :
    left.Reaches = right.Reaches := by
  unfold Reaches
  rw [same.refers_eq]

/-- A graph with the calls of a closed one is closed. -/
theorem isClosed {left right : Graph} (same : SameCalls left right) (closed : left.IsClosed) :
    right.IsClosed := by
  intro source target refers
  rw [← same.has_eq]
  rw [← same.refers_eq] at refers
  exact closed source target refers

end SameCalls

/-! ## Finding inputs -/

/-- A node has exactly the inputs that its references name, all of them
registered. -/
def Resolved (graph : Graph) (name : String) : Prop :=
  ∃ node, graph.find? name = some node ∧ node.inputs = node.references.eraseDups ∧
    ∀ reference ∈ node.references, graph.has reference = true

/-- Finding the inputs of a node changes nothing but the record of that node. -/
theorem resolve_changes (graph : Graph) (name : String) :
    (graph.resolve name).2 = graph ∨
      ∃ node inputs isResolved, graph.find? name = some node ∧
        (graph.resolve name).2 =
          { graph with nodes := graph.nodes.set name { node with inputs, isResolved } } := by
  unfold resolve
  split
  case h_1 => exact .inl rfl
  case h_2 node found =>
    split
    case h_1 => exact .inr ⟨node, _, _, found, rfl⟩
    case h_2 => exact .inr ⟨node, _, _, found, rfl⟩

/-- Resolving a node leaves all others. -/
theorem find?_resolve_of_ne
    (graph : Graph)
    {name other : String}
    (different : other ≠ name) :
    (graph.resolve name).2.find? other = graph.find? other := by
  rcases graph.resolve_changes name with same | ⟨node, inputs, isResolved, _, changed⟩
  · rw [same]
  · rw [changed]
    simp [find?, Table.find?_set, different]

/-- Resolving a node leaves the calls. -/
theorem sameCalls_resolve (graph : Graph) (name : String) :
    SameCalls graph (graph.resolve name).2 := by
  intro other
  rcases graph.resolve_changes name with same | ⟨node, inputs, isResolved, found, changed⟩
  · rw [same]
  · rw [changed]
    by_cases equal : other = name
    · subst equal
      rw [call?, call?, found]
      simp [find?, Table.find?_set]
    · simp [call?, find?, Table.find?_set, equal]

/-- Resolving a node keeps the names and their order. -/
theorem names_resolve (graph : Graph) (name : String) :
    (graph.resolve name).2.nodes.names = graph.nodes.names := by
  rcases graph.resolve_changes name with same | ⟨node, inputs, isResolved, found, changed⟩
  · rw [same]
  · rw [changed]
    exact Table.names_set_of_has (has_iff_exists.mpr ⟨node, found⟩) _

theorem registered_resolve (graph : Graph) (name : String) :
    (graph.resolve name).2.registered = graph.registered := by
  rcases graph.resolve_changes name with same | ⟨node, inputs, isResolved, _, changed⟩
  · rw [same]
  · rw [changed]

/-- A node whose inputs were found is resolved. -/
theorem resolved_of_resolve
    {graph : Graph}
    {name : String}
    (success : (graph.resolve name).1 = .ok ()) :
    (graph.resolve name).2.Resolved name := by
  have sameHas := (graph.sameCalls_resolve name).has_eq
  revert success sameHas
  unfold resolve
  split
  case h_1 => intro impossible; cases impossible
  case h_2 node found =>
    split
    case h_1 => intro impossible; cases impossible
    case h_2 missing =>
      intro _ sameHas
      refine ⟨{ node with inputs := node.references.eraseDups, isResolved := true },
        by simp [find?, Table.find?_set], rfl, ?_⟩
      intro reference present
      have known := List.find?_eq_none.mp missing reference present
      simpa [← sameHas reference] using known

/-- Inputs can only fail to be found for a reference to a node that is not
registered. -/
theorem resolve_error
    {graph : Graph}
    {name : String}
    {failure : Failure}
    (registered : graph.has name = true)
    (failed : (graph.resolve name).1 = .error failure) :
    ∃ reference, failure = .unresolvedReference name reference ∧
      graph.Refers name reference ∧ graph.has reference = false := by
  obtain ⟨node, found⟩ := has_iff_exists.mp registered
  revert failed
  simp only [resolve, found]
  split
  case h_1 reference missing =>
    intro failed
    cases failed
    have absent := List.find?_some missing
    exact ⟨reference, rfl, ⟨node, found, List.mem_of_find?_eq_some missing⟩, by simpa using absent⟩
  case h_2 => intro impossible; cases impossible

/-- Finding the inputs of a node keeps the nodes that are resolved already. -/
theorem Resolved.resolve
    {graph : Graph}
    {name other : String}
    (resolved : graph.Resolved other)
    (success : (graph.resolve name).1 = .ok ()) :
    (graph.resolve name).2.Resolved other := by
  by_cases equal : other = name
  · subst equal
    exact resolved_of_resolve success
  · obtain ⟨node, found, inputs, known⟩ := resolved
    refine ⟨node, by rw [graph.find?_resolve_of_ne equal, found], inputs, ?_⟩
    intro reference present
    rw [← (graph.sameCalls_resolve name).has_eq]
    exact known reference present

/-- Nodes are resolved one by one up to the first failure. -/
theorem resolveEach_cons (graph : Graph) (name : String) (rest : List String) :
    resolveEach (name :: rest) graph =
      match (graph.resolve name).1 with
      | .error failure => (.error failure, (graph.resolve name).2)
      | .ok _ => resolveEach rest (graph.resolve name).2 := by
  rw [resolveEach]
  rcases graph.resolve name with ⟨outcome | outcome, changed⟩ <;> rfl

/-- Finding inputs one by one keeps all calls and the count of registrations. -/
theorem resolveEach_keeps (names : List String) (graph : Graph) :
    SameCalls graph (resolveEach names graph).2 ∧
      (resolveEach names graph).2.nodes.names = graph.nodes.names ∧
      (resolveEach names graph).2.registered = graph.registered := by
  induction names generalizing graph with
  | nil => exact ⟨.refl graph, rfl, rfl⟩
  | cons name rest inductionHypothesis =>
      rw [resolveEach_cons]
      have calls := graph.sameCalls_resolve name
      have names := graph.names_resolve name
      have registered := graph.registered_resolve name
      cases (graph.resolve name).1 with
      | error failure => exact ⟨calls, names, registered⟩
      | ok value =>
          obtain ⟨laterCalls, laterNames, laterRegistered⟩ :=
            inductionHypothesis (graph.resolve name).2
          exact ⟨calls.trans laterCalls, laterNames.trans names, laterRegistered.trans registered⟩

/-- When inputs were found one by one, the nodes that were resolved before and
those in the list are resolved. -/
theorem resolved_of_resolveEach
    {names : List String}
    {graph changed : Graph}
    (success : resolveEach names graph = (.ok (), changed))
    {name : String}
    (listed : name ∈ names ∨ graph.Resolved name) :
    changed.Resolved name := by
  induction names generalizing graph with
  | nil =>
      cases success
      exact listed.resolve_left (List.not_mem_nil)
  | cons first rest inductionHypothesis =>
      rw [resolveEach_cons] at success
      cases outcome : (graph.resolve first).1 with
      | error failure => rw [outcome] at success; cases success
      | ok value =>
          rw [outcome] at success
          apply inductionHypothesis success
          rcases listed with inList | before
          · rcases List.mem_cons.mp inList with equal | later
            · subst equal
              exact .inr (resolved_of_resolve outcome)
            · exact .inl later
          · exact .inr (before.resolve outcome)

/-- In a closed graph the inputs of all nodes can be found. -/
theorem resolveEach_of_isClosed
    {names : List String}
    {graph : Graph}
    (closed : graph.IsClosed)
    (registered : ∀ name ∈ names, graph.has name = true) :
    (resolveEach names graph).1 = .ok () := by
  induction names generalizing graph with
  | nil => rfl
  | cons name rest inductionHypothesis =>
      rw [resolveEach_cons]
      have same := graph.sameCalls_resolve name
      cases outcome : (graph.resolve name).1 with
      | error failure =>
          obtain ⟨reference, _, refers, absent⟩ :=
            resolve_error (registered name List.mem_cons_self) outcome
          rw [closed name reference refers] at absent
          cases absent
      | ok value =>
          refine inductionHypothesis (same.isClosed closed) fun other present => ?_
          rw [← same.has_eq]
          exact registered other (List.mem_cons_of_mem name present)

/-- When the inputs of all nodes were found, every registered node is resolved. -/
theorem resolved_of_resolveAll
    {graph changed : Graph}
    (success : graph.resolveAll = (.ok (), changed))
    {name : String}
    (registered : changed.has name = true) :
    changed.Resolved name := by
  refine resolved_of_resolveEach success (.inl ?_)
  have same := (resolveEach_keeps graph.nodes.names graph).1
  change SameCalls graph graph.resolveAll.2 at same
  rw [success] at same
  rw [← has_iff_mem_names, same.has_eq]
  exact registered

end Graph
end ShaderGraph
