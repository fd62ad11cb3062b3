import Mathlib.Data.List.Nodup
import Mathlib.Data.List.Perm.Subperm
import ShaderGraph.Proofs.Graph.Reachability

/-!
# The order of dependencies

A traversal keeps the nodes that it is done with apart from those on its way, and
lists each of them once and behind everything that it refers to. An analysis
therefore lists exactly the nodes that the output reaches. The nodes on the way
lead from the output to the node in visit, so that an analysis of a closed graph
fails exactly when the output reaches a cycle, and then names an edge of one.
-/

namespace ShaderGraph
namespace Graph

/-- Every member of a list stands behind all nodes that it refers to. -/
def Ordered (graph : Graph) (order : List String) : Prop :=
  ∀ before member after, order = before ++ member :: after ->
    ∀ reference, graph.Refers member reference -> reference ∈ before

namespace Ordered

theorem nil (graph : Graph) : graph.Ordered [] := by
  intro before member after impossible
  simp at impossible

/-- A node may follow when everything that it refers to is listed. -/
theorem concat
    {graph : Graph}
    {order : List String}
    {name : String}
    (ordered : graph.Ordered order)
    (listed : ∀ reference, graph.Refers name reference -> reference ∈ order) :
    graph.Ordered (order ++ [name]) := by
  intro before member after split reference refers
  rcases List.eq_nil_or_concat after with rfl | ⟨others, last, rfl⟩
  · obtain ⟨sameBefore, sameMember⟩ := List.append_inj' split rfl
    cases sameMember
    exact sameBefore ▸ listed reference refers
  · have regrouped : order ++ [name] = (before ++ member :: others) ++ [last] := by
      simpa using split
    exact ordered before member others (List.append_inj' regrouped rfl).1 reference refers

/-- The start of an ordered list is ordered. -/
theorem of_append
    {graph : Graph}
    {order others : List String}
    (ordered : graph.Ordered (order ++ others)) : graph.Ordered order := by
  intro before member after split
  exact ordered before member (after ++ others) (by simp [split])

/-- An ordered list has what its members refer to. -/
theorem mem_of_refers
    {graph : Graph}
    {order : List String}
    {member reference : String}
    (ordered : graph.Ordered order)
    (present : member ∈ order)
    (refers : graph.Refers member reference) : reference ∈ order := by
  obtain ⟨before, after, equal⟩ := List.append_of_mem present
  rw [equal]
  exact List.mem_append_left _ (ordered before member after equal reference refers)

/-- An ordered list has what its members reach. -/
theorem mem_of_reaches
    {graph : Graph}
    {order : List String}
    {member name : String}
    (ordered : graph.Ordered order)
    (present : member ∈ order)
    (reaches : graph.Reaches member name) : name ∈ order := by
  induction reaches with
  | refl => exact present
  | tail _ refers inductionHypothesis => exact ordered.mem_of_refers inductionHypothesis refers

/-- What a member refers to stands before it. -/
theorem idxOf_lt_of_refers
    {graph : Graph}
    {order : List String}
    {member reference : String}
    (ordered : graph.Ordered order)
    (present : member ∈ order)
    (refers : graph.Refers member reference) :
    order.idxOf reference < order.idxOf member := by
  obtain ⟨before, after, equal, first⟩ := List.eq_append_cons_of_mem present
  have earlier := ordered before member after equal reference refers
  rw [equal, List.idxOf_append_of_mem earlier, List.idxOf_append_of_notMem first]
  exact Nat.lt_of_lt_of_le (List.idxOf_lt_length_of_mem earlier) (Nat.le_add_right _ _)

/-- No member of an ordered list lies on a cycle: every reference leads to a
smaller position. -/
theorem not_onCycle
    {graph : Graph}
    {order : List String}
    {name : String}
    (ordered : graph.Ordered order)
    (present : name ∈ order) : ¬graph.OnCycle name := by
  have descends : ∀ other, Relation.TransGen graph.Refers name other ->
      other ∈ order ∧ order.idxOf other < order.idxOf name := by
    intro other leads
    induction leads with
    | single refers =>
        exact ⟨ordered.mem_of_refers present refers, ordered.idxOf_lt_of_refers present refers⟩
    | tail _ refers inductionHypothesis =>
        exact ⟨ordered.mem_of_refers inductionHypothesis.1 refers, Nat.lt_trans
          (ordered.idxOf_lt_of_refers inductionHypothesis.1 refers) inductionHypothesis.2⟩
  intro cycle
  exact Nat.lt_irrefl _ (descends name cycle).2

end Ordered

/-! ## Successful visits -/

/-- The inputs of every registered node are known. -/
def IsResolved (graph : Graph) : Prop :=
  ∀ name, graph.has name = true -> graph.Resolved name

/-- The inputs of a resolved node are its references, each once. -/
theorem IsResolved.inputs_eq
    {graph : Graph}
    {name : String}
    {node : Node}
    (resolved : graph.IsResolved)
    (found : graph.find? name = some node) : node.inputs = node.references.eraseDups := by
  obtain ⟨same, sameFound, inputs, _⟩ := resolved name (has_iff_exists.mpr ⟨node, found⟩)
  cases found.symm.trans sameFound
  exact inputs

/-- The inputs of a resolved node are the nodes that it refers to. -/
theorem IsResolved.mem_inputs
    {graph : Graph}
    {name : String}
    {node : Node}
    (resolved : graph.IsResolved)
    (found : graph.find? name = some node)
    (reference : String) : reference ∈ node.inputs ↔ graph.Refers name reference := by
  rw [resolved.inputs_eq found, List.mem_eraseDups]
  constructor
  · exact fun present => ⟨node, found, present⟩
  · rintro ⟨other, otherFound, present⟩
    cases found.symm.trans otherFound
    exact present

/-- A resolved graph is closed. -/
theorem IsResolved.isClosed {graph : Graph} (resolved : graph.IsResolved) : graph.IsClosed := by
  rintro source target ⟨node, found, present⟩
  obtain ⟨same, sameFound, _, registered⟩ := resolved source (has_iff_exists.mpr ⟨node, found⟩)
  cases found.symm.trans sameFound
  exact registered target present

/-- Visit several nodes on behalf of the same node. -/
def visitEach
    (graph : Graph)
    (bound : Nat)
    (parent : String)
    (names : List String)
    (traversal : Traversal) : Except Failure Traversal :=
  names.foldlM (fun traversal name => graph.visit bound parent name traversal) traversal

/-- What a successful visit does: nothing for a node that is done, and otherwise
it visits the inputs of the node and is then done with it. -/
theorem visit_ok_cases
    {graph : Graph}
    {bound : Nat}
    {parent name : String}
    {traversal next : Traversal}
    (visited : graph.visit (bound + 1) parent name traversal = .ok next) :
    ∃ node, graph.find? name = some node ∧ name ∉ traversal.path ∧
      ((name ∈ traversal.order ∧ next = traversal) ∨
        (name ∉ traversal.order ∧ ∃ inner,
          graph.visitEach bound name node.inputs
            { traversal with path := name :: traversal.path } = .ok inner ∧
          next = { path := traversal.path, order := inner.order ++ [name] })) := by
  rw [visit] at visited
  split at visited
  case h_1 => cases visited
  case h_2 node found =>
    refine ⟨node, found, ?_⟩
    split_ifs at visited with onPath isDone
    · refine ⟨by simpa using onPath, .inl ⟨by simpa using isDone, ?_⟩⟩
      cases visited
      rfl
    · refine ⟨by simpa using onPath, .inr ⟨by simpa using isDone, ?_⟩⟩
      change (graph.visitEach bound name node.inputs _ >>= _) = _ at visited
      cases inner : graph.visitEach bound name node.inputs
          { traversal with path := name :: traversal.path } with
      | error failure => rw [inner] at visited; cases visited
      | ok innermost =>
          rw [inner] at visited
          cases visited
          exact ⟨innermost, rfl, rfl⟩

/-- What a failed visit met: a node that is not registered or that is on the way
already, or a failed visit of an input behind successful ones. -/
theorem visit_error_cases
    {graph : Graph}
    {bound : Nat}
    {parent name : String}
    {traversal : Traversal}
    {failure : Failure}
    (failed : graph.visit (bound + 1) parent name traversal = .error failure) :
    graph.has name = false ∨
      (name ∈ traversal.path ∧ failure = .circular parent name) ∨
      ∃ node, graph.find? name = some node ∧ name ∉ traversal.path ∧ name ∉ traversal.order ∧
        graph.visitEach bound name node.inputs
          { traversal with path := name :: traversal.path } = .error failure := by
  rw [visit] at failed
  split at failed
  case h_1 missing => exact .inl (congrArg Option.isSome missing)
  case h_2 node found =>
    split_ifs at failed with onPath isDone
    · cases failed
      exact .inr (.inl ⟨by simpa using onPath, rfl⟩)
    · refine .inr (.inr ⟨node, found, by simpa using onPath, by simpa using isDone, ?_⟩)
      change (graph.visitEach bound name node.inputs _ >>= _) = _ at failed
      cases inner : graph.visitEach bound name node.inputs
          { traversal with path := name :: traversal.path } with
      | error other => rw [inner] at failed; cases failed; rfl
      | ok inner => rw [inner] at failed; cases failed

/-- Nodes are visited one after the other. -/
theorem visitEach_cons
    (graph : Graph)
    (bound : Nat)
    (parent name : String)
    (rest : List String)
    (traversal : Traversal) :
    graph.visitEach bound parent (name :: rest) traversal =
      (graph.visit bound parent name traversal >>= graph.visitEach bound parent rest) := by
  rw [visitEach, List.foldlM_cons]
  rfl

/-- The nodes that are done are listed once and in order, apart from those on the
way. -/
structure IsProgress (graph : Graph) (traversal : Traversal) : Prop where
  nodup : traversal.order.Nodup
  ordered : graph.Ordered traversal.order
  apart : ∀ name ∈ traversal.path, name ∉ traversal.order

theorem IsProgress.nil (graph : Graph) : graph.IsProgress {} where
  nodup := List.nodup_nil
  ordered := .nil graph
  apart := by simp

/-- A node that is not done may be put on the way. -/
theorem IsProgress.push
    {graph : Graph}
    {traversal : Traversal}
    {name : String}
    (progress : graph.IsProgress traversal)
    (notDone : name ∉ traversal.order) :
    graph.IsProgress { traversal with path := name :: traversal.path } where
  nodup := progress.nodup
  ordered := progress.ordered
  apart := by
    intro other present
    rcases List.mem_cons.mp present with rfl | before
    · exact notDone
    · exact progress.apart other before

/-- A traversal went on to another one: the way is the same, and all that it is
done with in addition is reached from the given nodes, with which it is done. -/
structure Advances
    (graph : Graph)
    (names : List String)
    (traversal next : Traversal) : Prop where
  progress : graph.IsProgress next
  path : next.path = traversal.path
  grows : traversal.order <+: next.order
  done : ∀ name ∈ names, name ∈ next.order
  reached : ∀ member ∈ next.order,
    member ∈ traversal.order ∨ ∃ name ∈ names, graph.Reaches name member

theorem IsProgress.advances_nil
    {graph : Graph}
    {traversal : Traversal}
    (progress : graph.IsProgress traversal) : graph.Advances [] traversal traversal where
  progress := progress
  path := rfl
  grows := List.prefix_rfl
  done := by simp
  reached := fun member present => .inl present

/-- Visits of a node and then of others are a visit of all of them. -/
theorem Advances.cons
    {graph : Graph}
    {name : String}
    {rest : List String}
    {traversal middle next : Traversal}
    (first : graph.Advances [name] traversal middle)
    (others : graph.Advances rest middle next) :
    graph.Advances (name :: rest) traversal next where
  progress := others.progress
  path := others.path.trans first.path
  grows := first.grows.trans others.grows
  done := by
    intro other present
    rcases List.mem_cons.mp present with rfl | later
    · exact others.grows.subset (first.done other List.mem_cons_self)
    · exact others.done other later
  reached := by
    intro member present
    rcases others.reached member present with before | ⟨other, listed, reaches⟩
    · rcases first.reached member before with earlier | ⟨same, listed, reaches⟩
      · exact .inl earlier
      · cases List.mem_singleton.mp listed
        exact .inr ⟨name, List.mem_cons_self, reaches⟩
    · exact .inr ⟨other, List.mem_cons_of_mem name listed, reaches⟩

/-- Being done with the inputs of a node, a traversal is done with the node. -/
theorem Advances.complete
    {graph : Graph}
    {name : String}
    {node : Node}
    {traversal inner : Traversal}
    (resolved : graph.IsResolved)
    (found : graph.find? name = some node)
    (offPath : name ∉ traversal.path)
    (advances : graph.Advances node.inputs
      { traversal with path := name :: traversal.path } inner) :
    graph.Advances [name] traversal
      { path := traversal.path, order := inner.order ++ [name] } where
  progress := by
    have notDone : ∀ other ∈ name :: traversal.path, other ∉ inner.order := by
      intro other present
      exact advances.progress.apart other (advances.path ▸ present)
    refine ⟨?_, ?_, ?_⟩
    · exact List.nodup_append'.mpr ⟨advances.progress.nodup, List.nodup_singleton name,
        List.disjoint_singleton.mpr (notDone name List.mem_cons_self)⟩
    · refine advances.progress.ordered.concat fun reference refers => ?_
      exact advances.done reference ((resolved.mem_inputs found reference).mpr refers)
    · intro other present listed
      rcases List.mem_append.mp listed with before | last
      · exact notDone other (List.mem_cons_of_mem name present) before
      · exact offPath (List.mem_singleton.mp last ▸ present)
  path := rfl
  grows := advances.grows.trans (List.prefix_append _ _)
  done := by simp
  reached := by
    intro member present
    rcases List.mem_append.mp present with innermost | last
    · rcases advances.reached member innermost with before | ⟨input, listed, reaches⟩
      · exact .inl before
      · have refers := (resolved.mem_inputs found input).mp listed
        exact .inr ⟨name, List.mem_cons_self, .head refers reaches⟩
    · cases List.mem_singleton.mp last
      exact .inr ⟨name, List.mem_cons_self, .refl⟩

/-- Successful visits one after another advance a traversal if single ones do. -/
theorem visitEach_advances
    {graph : Graph}
    {bound : Nat}
    {parent : String}
    {names : List String}
    {traversal next : Traversal}
    (single : ∀ name traversal next, graph.IsProgress traversal ->
      graph.visit bound parent name traversal = .ok next ->
        graph.Advances [name] traversal next)
    (progress : graph.IsProgress traversal)
    (visited : graph.visitEach bound parent names traversal = .ok next) :
    graph.Advances names traversal next := by
  induction names generalizing traversal with
  | nil =>
      cases visited
      exact progress.advances_nil
  | cons name rest inductionHypothesis =>
      rw [visitEach_cons] at visited
      cases first : graph.visit bound parent name traversal with
      | error failure => rw [first] at visited; cases visited
      | ok middle =>
          rw [first] at visited
          have start := single name traversal middle progress first
          exact start.cons (inductionHypothesis start.progress visited)

/-- A successful visit advances a traversal to one that is done with the node. -/
theorem visit_advances
    {graph : Graph}
    {bound : Nat}
    {parent name : String}
    {traversal next : Traversal}
    (resolved : graph.IsResolved)
    (progress : graph.IsProgress traversal)
    (visited : graph.visit bound parent name traversal = .ok next) :
    graph.Advances [name] traversal next := by
  induction bound generalizing parent name traversal next with
  | zero => cases visited
  | succ bound inductionHypothesis =>
      obtain ⟨node, found, offPath, ⟨isDone, rfl⟩ | ⟨notDone, inner, each, rfl⟩⟩ :=
        visit_ok_cases visited
      · exact {
          progress
          path := rfl
          grows := List.prefix_rfl
          done := fun other present => List.mem_singleton.mp present ▸ isDone
          reached := fun member present => .inl present }
      · have advances := visitEach_advances
          (fun _ _ _ progress visited => inductionHypothesis progress visited)
          (progress.push notDone) each
        exact advances.complete resolved found offPath

/-! ## Failed visits -/

/-- The nodes on the way are registered and different from each other, and lead
from the output to the parent of the node in visit. -/
structure IsWay (graph : Graph) (output parent : String) (path : List String) : Prop where
  nodup : path.Nodup
  registered : ∀ member ∈ path, graph.has member = true
  leads : ∀ member ∈ path, graph.Reaches member parent
  reached : graph.Reaches output parent

/-- A way is at most as long as the list of nodes. -/
theorem IsWay.length_le
    {graph : Graph}
    {output parent : String}
    {path : List String}
    (way : graph.IsWay output parent path) : path.length ≤ graph.nodes.length := by
  have contained : path ⊆ graph.nodes.names :=
    fun member present => has_iff_mem_names.mp (way.registered member present)
  have bounded := (List.subperm_of_subset way.nodup contained).length_le
  simpa [Table.names] using bounded

/-- A way goes on to a registered node that its last one refers to. -/
theorem IsWay.cons
    {graph : Graph}
    {output parent name : String}
    {path : List String}
    (way : graph.IsWay output parent path)
    (registered : graph.has name = true)
    (fresh : name ∉ path)
    (edge : (path = [] ∧ name = parent) ∨ graph.Refers parent name) :
    graph.IsWay output name (name :: path) where
  nodup := List.nodup_cons.mpr ⟨fresh, way.nodup⟩
  registered := by
    intro member present
    rcases List.mem_cons.mp present with rfl | before
    · exact registered
    · exact way.registered member before
  leads := by
    intro member present
    rcases List.mem_cons.mp present with rfl | before
    · exact .refl
    · rcases edge with ⟨empty, _⟩ | refers
      · simp [empty] at before
      · exact (way.leads member before).tail refers
  reached := by
    rcases edge with ⟨_, same⟩ | refers
    · exact same ▸ way.reached
    · exact way.reached.tail refers

/-- A failure that names an edge of a cycle that the output reaches. -/
def NamesCycle (graph : Graph) (output : String) (failure : Failure) : Prop :=
  ∃ source target, failure = .circular source target ∧ graph.Refers source target ∧
    graph.Reaches output source ∧ graph.Reaches target source

/-- One of several visits fails if they fail together, behind successful ones. -/
theorem visitEach_error
    {graph : Graph}
    {bound : Nat}
    {parent : String}
    {names : List String}
    {traversal : Traversal}
    {failure : Failure}
    (resolved : graph.IsResolved)
    (progress : graph.IsProgress traversal)
    (failed : graph.visitEach bound parent names traversal = .error failure) :
    ∃ name ∈ names, ∃ middle, graph.IsProgress middle ∧ middle.path = traversal.path ∧
      graph.visit bound parent name middle = .error failure := by
  induction names generalizing traversal with
  | nil => cases failed
  | cons name rest inductionHypothesis =>
      rw [visitEach_cons] at failed
      cases first : graph.visit bound parent name traversal with
      | error other =>
          rw [first] at failed
          cases failed
          exact ⟨name, List.mem_cons_self, traversal, progress, rfl, first⟩
      | ok middle =>
          rw [first] at failed
          have advances := visit_advances resolved progress first
          obtain ⟨later, present, last, lastProgress, path, lastFailed⟩ :=
            inductionHypothesis advances.progress failed
          exact ⟨later, List.mem_cons_of_mem name present, last, lastProgress,
            path.trans advances.path, lastFailed⟩

/-- With a bound beyond the number of nodes, a visit of a registered node fails
only where it closes a cycle. -/
theorem visit_namesCycle
    {graph : Graph}
    {bound : Nat}
    {output parent name : String}
    {traversal : Traversal}
    {failure : Failure}
    (resolved : graph.IsResolved)
    (progress : graph.IsProgress traversal)
    (way : graph.IsWay output parent traversal.path)
    (enough : graph.nodes.length < traversal.path.length + bound)
    (registered : graph.has name = true)
    (edge : (traversal.path = [] ∧ name = parent) ∨ graph.Refers parent name)
    (failed : graph.visit bound parent name traversal = .error failure) :
    graph.NamesCycle output failure := by
  induction bound generalizing parent name traversal with
  | zero =>
      have := way.length_le
      omega
  | succ bound inductionHypothesis =>
      rcases visit_error_cases failed with
        missing | ⟨onPath, rfl⟩ | ⟨node, found, offPath, notDone, each⟩
      · rw [registered] at missing
        cases missing
      · rcases edge with ⟨empty, _⟩ | refers
        · simp [empty] at onPath
        · exact ⟨parent, name, rfl, refers, way.reached, way.leads name onPath⟩
      · obtain ⟨input, listed, middle, middleProgress, path, inputFailed⟩ :=
          visitEach_error resolved (progress.push notDone) each
        have refers := (resolved.mem_inputs found input).mp listed
        have longer := way.cons registered offPath edge
        refine inductionHypothesis middleProgress ?_ ?_
          (resolved.isClosed name input refers) (.inr refers) inputFailed
        · rw [path]
          exact longer
        · rw [path, List.length_cons]
          omega

/-! ## Analyses -/

/-- An analysis keeps all calls and the count of registrations. -/
theorem analyze_keeps (graph : Graph) (output : String) :
    SameCalls graph (graph.analyze output).2 ∧
      (graph.analyze output).2.registered = graph.registered := by
  have keeps := resolveEach_keeps graph.nodes.names graph
  change SameCalls graph graph.resolveAll.2 ∧ _ ∧ graph.resolveAll.2.registered = _ at keeps
  unfold analyze
  rcases equal : graph.resolveAll with ⟨failure | value, changed⟩
  · rw [equal] at keeps
    exact ⟨keeps.1, keeps.2.2⟩
  · rw [equal] at keeps
    exact ⟨keeps.1, keeps.2.2⟩

/-- What an analysis does: it finds the inputs of all nodes, and then orders the
nodes that the output depends on. -/
theorem analyze_cases (graph : Graph) (output : String) :
    SameCalls graph (graph.analyze output).2 ∧
      ((∃ failure, graph.resolveAll.1 = .error failure ∧
          (graph.analyze output).1 = .error failure) ∨
        (graph.resolveAll.1 = .ok () ∧ (graph.analyze output).2.IsResolved ∧
          (graph.analyze output).1 = (graph.analyze output).2.orderOf output)) := by
  refine ⟨(graph.analyze_keeps output).1, ?_⟩
  unfold analyze
  rcases equal : graph.resolveAll with ⟨failure | value, changed⟩
  · exact .inl ⟨failure, rfl, rfl⟩
  · exact .inr ⟨rfl, fun name registered => resolved_of_resolveAll equal registered, rfl⟩

/-- A chain is the order behind a visit of its output. -/
theorem orderOf_eq_ok_iff {graph : Graph} {output : String} {chain : List String} :
    graph.orderOf output = .ok chain ↔
      ∃ traversal, graph.visit (graph.nodes.length + 1) output output {} = .ok traversal ∧
        traversal.order = chain := by
  unfold orderOf
  rcases graph.visit (graph.nodes.length + 1) output output {} with failure | traversal
  · constructor
    · intro impossible; cases impossible
    · rintro ⟨_, impossible, _⟩; cases impossible
  · constructor
    · intro equal; cases equal; exact ⟨traversal, rfl, rfl⟩
    · rintro ⟨_, equal, rfl⟩; cases equal; rfl

/-- There is no chain if the visit of the output fails. -/
theorem orderOf_eq_error_iff {graph : Graph} {output : String} {failure : Failure} :
    graph.orderOf output = .error failure ↔
      graph.visit (graph.nodes.length + 1) output output {} = .error failure := by
  unfold orderOf
  rcases graph.visit (graph.nodes.length + 1) output output {} with other | traversal
  · constructor
    · intro equal; cases equal; rfl
    · intro equal; cases equal; rfl
  · constructor
    · intro impossible; cases impossible
    · intro impossible; cases impossible

/-- A list of the nodes that an output reaches: each once, behind all that it
refers to, and the output last. -/
structure IsChainOf (graph : Graph) (output : String) (chain : List String) : Prop where
  nodup : chain.Nodup
  last : chain.getLast? = some output
  mem_iff : ∀ name, name ∈ chain ↔ graph.Reaches output name
  registered : ∀ name ∈ chain, graph.has name = true
  ordered : graph.Ordered chain

/-- A chain ends with its output. -/
theorem IsChainOf.eq_dropLast_append
    {graph : Graph}
    {output : String}
    {chain : List String}
    (chainOf : graph.IsChainOf output chain) : chain = chain.dropLast ++ [output] := by
  obtain ⟨init, rfl⟩ := List.getLast?_eq_some_iff.mp chainOf.last
  rw [List.dropLast_concat]

/-- Every member of a chain is the call of a node. -/
theorem IsChainOf.exists_call
    {graph : Graph}
    {output name : String}
    {chain : List String}
    (chainOf : graph.IsChainOf output chain)
    (present : name ∈ chain) : ∃ call, graph.call? name = some call := by
  have registered := chainOf.registered name present
  rw [has_eq_isSome_call?] at registered
  exact Option.isSome_iff_exists.mp registered

theorem IsChainOf.output_mem
    {graph : Graph}
    {output : String}
    {chain : List String}
    (chainOf : graph.IsChainOf output chain) : output ∈ chain :=
  List.mem_of_getLast? chainOf.last

/-- The calls of a graph decide what its chains are. -/
theorem IsChainOf.of_sameCalls
    {left right : Graph}
    {output : String}
    {chain : List String}
    (chainOf : left.IsChainOf output chain)
    (same : SameCalls left right) : right.IsChainOf output chain where
  nodup := chainOf.nodup
  last := chainOf.last
  mem_iff := same.reaches_eq ▸ chainOf.mem_iff
  registered := fun name present => same.has_eq name ▸ chainOf.registered name present
  ordered := by
    unfold Ordered
    rw [← same.refers_eq]
    exact chainOf.ordered

/-- In a closed graph all that is reached is registered. -/
theorem IsClosed.has_of_reaches
    {graph : Graph}
    {source target : String}
    (closed : graph.IsClosed)
    (registered : graph.has source = true)
    (reaches : graph.Reaches source target) : graph.has target = true := by
  cases reaches with
  | refl => exact registered
  | tail _ refers => exact closed _ target refers

/-- The chain of an output is what is done with its inputs, and the output. -/
theorem orderOf_cases
    {graph : Graph}
    {output : String}
    {chain : List String}
    (success : graph.orderOf output = .ok chain) :
    ∃ node inner, graph.find? output = some node ∧
      graph.visitEach graph.nodes.length output node.inputs { path := [output] } = .ok inner ∧
      chain = inner.order ++ [output] := by
  obtain ⟨traversal, visited, rfl⟩ := orderOf_eq_ok_iff.mp success
  obtain ⟨node, found, _, ⟨impossible, _⟩ | ⟨_, inner, each, rfl⟩⟩ := visit_ok_cases visited
  · simp at impossible
  · exact ⟨node, inner, found, each, rfl⟩

/-- The order of a resolved graph is a chain of its output. -/
theorem isChainOf_of_orderOf
    {graph : Graph}
    {output : String}
    {chain : List String}
    (resolved : graph.IsResolved)
    (success : graph.orderOf output = .ok chain) : graph.IsChainOf output chain := by
  obtain ⟨node, inner, found, _, chainEq⟩ := orderOf_cases success
  obtain ⟨traversal, visited, rfl⟩ := orderOf_eq_ok_iff.mp success
  have advances := visit_advances resolved (.nil graph) visited
  have reached : ∀ name ∈ traversal.order, graph.Reaches output name := by
    intro name present
    rcases advances.reached name present with impossible | ⟨other, listed, reaches⟩
    · simp at impossible
    · exact List.mem_singleton.mp listed ▸ reaches
  exact {
    nodup := advances.progress.nodup
    last := by simp [chainEq]
    mem_iff := fun name => ⟨reached name,
      advances.progress.ordered.mem_of_reaches (advances.done output List.mem_cons_self)⟩
    registered := fun name present => resolved.isClosed.has_of_reaches
      (has_iff_exists.mpr ⟨node, found⟩) (reached name present)
    ordered := advances.progress.ordered }

/-- A successful analysis has found all inputs and orders the nodes. -/
theorem analyze_eq_ok
    {graph : Graph}
    {output : String}
    {chain : List String}
    (analyzed : (graph.analyze output).1 = .ok chain) :
    SameCalls graph (graph.analyze output).2 ∧ (graph.analyze output).2.IsResolved ∧
      (graph.analyze output).2.orderOf output = .ok chain := by
  obtain ⟨same, ⟨failure, _, failed⟩ | ⟨_, resolved, ordered⟩⟩ := graph.analyze_cases output
  · cases failed.symm.trans analyzed
  · exact ⟨same, resolved, ordered.symm.trans analyzed⟩

/-- A successful analysis finds a chain of the output. -/
theorem isChainOf_of_analyze
    {graph : Graph}
    {output : String}
    {chain : List String}
    (analyzed : (graph.analyze output).1 = .ok chain) : graph.IsChainOf output chain := by
  obtain ⟨same, resolved, ordered⟩ := analyze_eq_ok analyzed
  exact (isChainOf_of_orderOf resolved ordered).of_sameCalls same.symm

/-- In a closed graph the analysis of a registered node finds a chain or names an
edge of a cycle. -/
theorem analyze_of_isClosed
    {graph : Graph}
    {output : String}
    (closed : graph.IsClosed)
    (registered : graph.has output = true) :
    (∃ chain, (graph.analyze output).1 = .ok chain) ∨
      ∃ failure, (graph.analyze output).1 = .error failure ∧ graph.NamesCycle output failure := by
  have found : graph.resolveAll.1 = .ok () :=
    resolveEach_of_isClosed closed fun _ present => has_iff_mem_names.mpr present
  obtain ⟨same, ⟨failure, failed, _⟩ | ⟨_, resolved, ordered⟩⟩ := graph.analyze_cases output
  · cases found.symm.trans failed
  rw [ordered]
  cases outcome : (graph.analyze output).2.orderOf output with
  | ok chain => exact .inl ⟨chain, rfl⟩
  | error failure =>
      refine .inr ⟨failure, rfl, ?_⟩
      have way : (graph.analyze output).2.IsWay output output [] :=
        ⟨List.nodup_nil, by simp, by simp, .refl⟩
      obtain ⟨source, target, named, refers, reached, back⟩ :=
        visit_namesCycle resolved (.nil _) way (by simp) (by rw [← same.has_eq, registered])
          (.inl ⟨rfl, rfl⟩) (orderOf_eq_error_iff.mp outcome)
      rw [← same.refers_eq] at refers
      rw [← same.reaches_eq] at reached back
      exact ⟨source, target, named, refers, reached, back⟩

/-- The chain of an output lists each node that the output reaches once, behind
all that the node refers to, and the output last. -/
theorem analyze_lists_reachable_in_order
    {graph : Graph}
    {output : String}
    {chain : List String}
    (analyzed : (graph.analyze output).1 = .ok chain) :
    chain.Nodup ∧ chain.getLast? = some output ∧
      (∀ name, name ∈ chain ↔ graph.Reaches output name) ∧
      ∀ before member after, chain = before ++ member :: after ->
        ∀ reference, graph.Refers member reference -> reference ∈ before := by
  have chainOf := isChainOf_of_analyze analyzed
  exact ⟨chainOf.nodup, chainOf.last, chainOf.mem_iff, chainOf.ordered⟩

/-- Two nodes that refer to a third one, the second of them twice, below an
output that refers to both, and a node apart from them. -/
def diamond : Graph where
  nodes := [
    ("shader_1", { function := "sin", arguments := ["st.x"] }),
    ("shader_2", { function := "cos", arguments := ["$shader_1"] }),
    ("shader_3", { function := "tan", arguments := ["$shader_1 + $shader_1"] }),
    ("shader_4", { function := "mix", arguments := ["$shader_3", "$shader_2", "0.5"] }),
    ("shader_5", { function := "sin", arguments := ["time"] })]
  registered := 5

theorem diamond_chain :
    (diamond.analyze "shader_4").1 =
        .ok ["shader_1", "shader_3", "shader_2", "shader_4"] ∧
      diamond.Reaches "shader_4" "shader_1" ∧ ¬diamond.Reaches "shader_4" "shader_5" := by
  have analyzed : (diamond.analyze "shader_4").1 =
      .ok ["shader_1", "shader_3", "shader_2", "shader_4"] := by decide +kernel
  have mem_iff := (analyze_lists_reachable_in_order analyzed).2.2.1
  refine ⟨analyzed, (mem_iff _).mp (by simp), fun reaches => ?_⟩
  exact absurd ((mem_iff _).mpr reaches) (by simp)

/-- In a closed graph the analysis of a registered output fails with a cycle
exactly when the output reaches a node on a cycle, and otherwise it finds a
chain. The edge that it names leads from a node that the output reaches to one
that reaches that node. -/
theorem analyze_circular_iff_reaches_cycle
    {graph : Graph}
    {output : String}
    (closed : graph.IsClosed)
    (registered : graph.has output = true) :
    ((∃ source target, (graph.analyze output).1 = .error (.circular source target)) ↔
        ∃ name, graph.Reaches output name ∧ graph.OnCycle name) ∧
      ((¬∃ name, graph.Reaches output name ∧ graph.OnCycle name) ->
        ∃ chain, (graph.analyze output).1 = .ok chain) ∧
      ∀ source target, (graph.analyze output).1 = .error (.circular source target) ->
        graph.Refers source target ∧ graph.Reaches output source ∧
          graph.Reaches target source := by
  have acyclic : ∀ chain, (graph.analyze output).1 = .ok chain ->
      ¬∃ name, graph.Reaches output name ∧ graph.OnCycle name := by
    rintro chain analyzed ⟨name, reached, cycle⟩
    have chainOf := isChainOf_of_analyze analyzed
    exact chainOf.ordered.not_onCycle ((chainOf.mem_iff name).mpr reached) cycle
  rcases analyze_of_isClosed closed registered with
    ⟨chain, analyzed⟩ | ⟨_, failed, source, target, rfl, refers, reached, back⟩
  · refine ⟨⟨?_, fun cyclic => absurd cyclic (acyclic chain analyzed)⟩,
      fun _ => ⟨chain, analyzed⟩, ?_⟩
    · rintro ⟨source, target, failed⟩
      cases analyzed.symm.trans failed
    · intro source target failed
      cases analyzed.symm.trans failed
  · have cyclic : ∃ name, graph.Reaches output name ∧ graph.OnCycle name :=
      ⟨source, reached, Relation.TransGen.head' refers back⟩
    refine ⟨⟨fun _ => cyclic, fun _ => ⟨source, target, failed⟩⟩,
      fun none => absurd cyclic none, ?_⟩
    intro otherSource otherTarget otherFailed
    cases failed.symm.trans otherFailed
    exact ⟨refers, reached, back⟩

/-- Two nodes that refer to each other, below an output that refers to another
node before them. -/
def entangled : Graph where
  nodes := [
    ("shader_1", { function := "sin", arguments := ["time"] }),
    ("shader_2", { function := "cos", arguments := ["$shader_1 + $shader_3"] }),
    ("shader_3", { function := "tan", arguments := ["$shader_2"] }),
    ("shader_4", { function := "max", arguments := ["$shader_1", "$shader_3"] })]
  registered := 4

theorem entangled_circular :
    entangled.IsClosed ∧ entangled.has "shader_4" = true ∧
      (entangled.analyze "shader_4").1 = .error (.circular "shader_2" "shader_3") ∧
      ∃ name, entangled.Reaches "shader_4" name ∧ entangled.OnCycle name := by
  have closed : entangled.IsClosed := isClosed_of_forall_mem (by decide +kernel)
  have registered : entangled.has "shader_4" = true := by decide +kernel
  have failed : (entangled.analyze "shader_4").1 = .error (.circular "shader_2" "shader_3") := by
    decide +kernel
  exact ⟨closed, registered, failed,
    (analyze_circular_iff_reaches_cycle closed registered).1.mp ⟨_, _, failed⟩⟩

end Graph
end ShaderGraph
