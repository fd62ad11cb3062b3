import Mathlib.Data.List.Basic
import ShaderGraph.Proofs.Graph.Reachability

/-!
# Graphs without some of their nodes

A graph without the nodes of a list has the references of the nodes that stay.
When a node goes, whatever refers to it goes as well. Walking from the nodes that
go to those that refer to them takes at most two steps for each node, because a
name that is met again is gone and leads on only to names that are still there.
-/

namespace ShaderGraph

namespace Table

/-- The entries of a table whose names are not listed. -/
def without (table : Table Value) (names : List String) : Table Value :=
  table.filter fun entry => !names.contains entry.1

theorem erase_eq_without (table : Table Value) (name : String) :
    table.erase name = table.without [name] := by
  refine List.filter_congr fun entry _ => ?_
  rw [List.contains_cons, List.contains_nil, Bool.or_false]

theorem without_nil (table : Table Value) : table.without [] = table :=
  List.filter_eq_self.mpr fun _ _ => rfl

/-- Names are left out together or one after the other. -/
theorem without_without (table : Table Value) (names others : List String) :
    (table.without names).without others = table.without (names ++ others) := by
  simp [without, List.filter_filter, Bool.and_comm]

/-- What is left keeps its order. -/
theorem names_without_sublist (table : Table Value) (names : List String) :
    (table.without names).names.Sublist table.names :=
  List.filter_sublist.map Prod.fst

/-- A name that is left out is not found, and all others are found as before. -/
theorem find?_without (table : Table Value) (names : List String) (name : String) :
    (table.without names).find? name = if name ∈ names then none else table.find? name := by
  induction table with
  | nil => simp [without, find?]
  | cons entry rest inductionHypothesis =>
      rw [without, List.filter_cons]
      rw [without] at inductionHypothesis
      split
      case isTrue kept => rw [find?_cons, find?_cons, inductionHypothesis]; grind
      case isFalse dropped => rw [find?_cons, inductionHypothesis]; grind

theorem has_without {table : Table Value} {names : List String} {name : String} :
    (table.without names).has name = true ↔ table.has name = true ∧ name ∉ names := by
  rw [has, find?_without, has]
  split <;> simp_all

/-- Leaving out a name makes a table shorter. -/
theorem length_without_lt {table : Table Value} {names : List String} {name : String}
    (known : table.has name = true) (listed : name ∈ names) :
    (table.without names).length < table.length := by
  obtain ⟨entry, present, rfl⟩ := List.mem_map.mp (has_iff_mem_names.mp known)
  exact List.length_filter_lt_length_iff_exists.mpr ⟨entry, present, by simpa using listed⟩

/-- In a table of different names every entry is found. -/
theorem find?_of_mem {table : Table Value} {name : String} {value : Value}
    (distinct : table.names.Nodup) (present : (name, value) ∈ table) :
    table.find? name = some value := by
  induction table with
  | nil => cases present
  | cons entry rest inductionHypothesis =>
      obtain ⟨fresh, restDistinct⟩ := List.nodup_cons.mp distinct
      rw [find?_cons]
      rcases List.mem_cons.mp present with rfl | later
      · simp
      · have different : name ≠ entry.1 := by
          rintro rfl
          exact fresh (List.mem_map.mpr ⟨_, later, rfl⟩)
        rw [beq_false_of_ne different]
        exact inductionHypothesis restDistinct later

end Table

namespace Graph

/-- The graph without the nodes of a list. -/
def without (graph : Graph) (names : List String) : Graph :=
  { graph with nodes := graph.nodes.without names }

variable {graph : Graph} {names : List String}

theorem has_without {name : String} :
    (graph.without names).has name = true ↔ graph.has name = true ∧ name ∉ names :=
  Table.has_without

/-- Nodes that are left out refer to nothing. -/
theorem refers_without {source target : String} :
    (graph.without names).Refers source target ↔ graph.Refers source target ∧ source ∉ names := by
  rw [Refers, find?, without, Table.find?_without, Refers]
  split <;> simp_all [find?]

/-- What is reached without some nodes is reached with them. -/
theorem reaches_of_reaches_without
    {source target : String}
    (reaches : (graph.without names).Reaches source target) : graph.Reaches source target :=
  Relation.ReflTransGen.mono (fun _ _ refers => (refers_without.mp refers).1) _ _ reaches

/-- What refers to a node is among its dependents. -/
theorem mem_dependents_of_refers
    {source target : String}
    (refers : graph.Refers source target) : source ∈ graph.dependents target := by
  obtain ⟨node, found, present⟩ := refers
  refine List.mem_map.mpr ⟨(source, node), List.mem_filter.mpr ⟨Table.mem_of_find? found, ?_⟩, rfl⟩
  exact List.contains_iff_mem.mpr present

theorem has_of_mem_dependents
    {source target : String}
    (present : source ∈ graph.dependents target) : graph.has source = true := by
  obtain ⟨entry, listed, rfl⟩ := List.mem_map.mp present
  exact has_iff_mem_names.mpr (List.mem_map_of_mem (List.mem_filter.mp listed).1)

/-- The dependents of a node refer to it. -/
theorem refers_of_mem_dependents
    {source target : String}
    (distinct : graph.nodes.names.Nodup)
    (present : source ∈ graph.dependents target) : graph.Refers source target := by
  obtain ⟨⟨_, node⟩, listed, rfl⟩ := List.mem_map.mp present
  obtain ⟨registered, refers⟩ := List.mem_filter.mp listed
  exact ⟨node, Table.find?_of_mem distinct registered, List.contains_iff_mem.mp refers⟩

/-! ## Cascades -/

/-- The nodes that go when some nodes go: those themselves, and whatever refers to
a node that goes. Everything that goes leads to one of the nodes that went first. -/
structure IsCascade (graph : Graph) (ids freed : List String) : Prop where
  starts : ids ⊆ freed
  closed : ∀ source target, graph.Refers source target -> target ∈ freed -> source ∈ freed
  leads : graph.nodes.names.Nodup ->
    ∀ name ∈ freed, ∃ id ∈ ids, graph.Reaches name id

namespace IsCascade

theorem nil (graph : Graph) : graph.IsCascade [] [] where
  starts := List.nil_subset []
  closed := fun _ _ _ impossible => nomatch impossible
  leads := fun _ _ impossible => nomatch impossible

section Cons

variable {id : String} {rest inner outer : List String}

/-- What refers to a node that goes is among the nodes that refer to the first
one, or still there when the others go. -/
theorem closed_cons
    (dependents : (graph.without [id]).IsCascade (graph.dependents id) inner)
    (others : (graph.without (id :: inner)).IsCascade rest outer)
    (source target : String)
    (refers : graph.Refers source target)
    (present : target ∈ id :: inner ++ outer) : source ∈ id :: inner ++ outer := by
  by_cases dropped : source ∈ id :: inner
  · exact List.mem_append_left outer dropped
  have apart : source ∉ [id] ∧ source ∉ inner := by simpa using dropped
  rcases List.mem_append.mp present with first | later
  · rcases List.mem_cons.mp first with rfl | inside
    · exact absurd (dependents.starts (mem_dependents_of_refers refers)) apart.2
    · have refersStill := refers_without.mpr ⟨refers, apart.1⟩
      exact absurd (dependents.closed source target refersStill inside) apart.2
  · -- The source outlives the first cascade, so it still refers to the target then.
    have refersStill := refers_without.mpr ⟨refers, dropped⟩
    exact List.mem_append_right _ (others.closed source target refersStill later)

/-- All that is dropped in a cascade leads to the node that starts it. -/
theorem leads_cons
    (dependents : (graph.without [id]).IsCascade (graph.dependents id) inner)
    (others : (graph.without (id :: inner)).IsCascade rest outer)
    (distinct : graph.nodes.names.Nodup)
    (name : String)
    (present : name ∈ id :: inner ++ outer) :
    ∃ start ∈ id :: rest, graph.Reaches name start := by
  have stillDistinct (names : List String) : (graph.without names).nodes.names.Nodup :=
    distinct.sublist (graph.nodes.names_without_sublist names)
  rcases List.mem_append.mp present with first | later
  · refine ⟨id, List.mem_cons_self, ?_⟩
    rcases List.mem_cons.mp first with rfl | inside
    · exact .refl
    · obtain ⟨dependent, listed, reaches⟩ := dependents.leads (stillDistinct _) name inside
      exact (reaches_of_reaches_without reaches).tail (refers_of_mem_dependents distinct listed)
  · obtain ⟨start, listed, reaches⟩ := others.leads (stillDistinct _) name later
    exact ⟨start, List.mem_cons_of_mem id listed, reaches_of_reaches_without reaches⟩

/-- A node goes, then whatever referred to it, and then the other nodes. -/
theorem cons
    (dependents : (graph.without [id]).IsCascade (graph.dependents id) inner)
    (others : (graph.without (id :: inner)).IsCascade rest outer) :
    graph.IsCascade (id :: rest) (id :: inner ++ outer) where
  starts := by
    intro name present
    rcases List.mem_cons.mp present with rfl | later
    · exact List.mem_cons_self
    · exact List.mem_append_right _ (others.starts later)
  closed := closed_cons dependents others
  leads := leads_cons dependents others

end Cons

/-- What goes with one node is what leads to it. -/
theorem mem_iff
    {id name : String}
    {freed : List String}
    (cascade : graph.IsCascade [id] freed)
    (distinct : graph.nodes.names.Nodup) : name ∈ freed ↔ graph.Reaches name id := by
  constructor
  · intro present
    obtain ⟨only, listed, reaches⟩ := cascade.leads distinct name present
    rwa [List.mem_singleton.mp listed] at reaches
  · intro reaches
    induction reaches using Relation.ReflTransGen.head_induction_on with
    | refl => exact cascade.starts List.mem_cons_self
    | head refers _ inductionHypothesis => exact cascade.closed _ _ refers inductionHypothesis

end IsCascade

/-! ## The bound -/

variable {bound : Nat}

/-- A bound is large enough to free a name: two steps for each node, and one more
for a name that is gone. -/
def IsWithin (graph : Graph) (bound : Nat) (id : String) : Prop :=
  2 * graph.nodes.length + (if graph.has id then 0 else 1) ≤ bound

/-- A cascade ends within twice as many steps as there are nodes. -/
theorem isWithin_of_gone
    {id : String}
    (steps : 2 * graph.nodes.length + 1 ≤ bound) : graph.IsWithin bound id := by
  unfold IsWithin
  split <;> omega

/-- Dropping nodes asks for no larger bound: a name that goes takes a node with it. -/
theorem IsWithin.without
    {id : String}
    (within : graph.IsWithin bound id)
    (names : List String) : (graph.without names).IsWithin bound id := by
  have shorter : (graph.without names).nodes.length ≤ graph.nodes.length :=
    List.length_filter_le _ _
  unfold IsWithin at within ⊢
  cases there : (graph.without names).has id with
  | true =>
      rw [if_pos (has_without.mp there).1] at within
      rw [if_pos rfl]
      omega
  | false =>
      rw [if_neg Bool.false_ne_true]
      by_cases before : graph.has id
      · have listed : id ∈ names := by
          by_contra kept
          rw [has_without.mpr ⟨before, kept⟩] at there
          cases there
        have less : (graph.without names).nodes.length < graph.nodes.length :=
          Table.length_without_lt before listed
        rw [if_pos before] at within
        omega
      · rw [if_neg before] at within
        omega

/-- What refers to a dropped node is within the next smaller bound: either the
node was there, or what refers to it still is. -/
theorem IsWithin.dependent
    {id dependent : String}
    (within : graph.IsWithin (bound + 1) id)
    (listed : dependent ∈ graph.dependents id) : (graph.without [id]).IsWithin bound dependent := by
  unfold IsWithin at within
  by_cases there : graph.has id
  · have less : (graph.without [id]).nodes.length < graph.nodes.length :=
      Table.length_without_lt there List.mem_cons_self
    rw [if_pos there] at within
    exact isWithin_of_gone (by omega)
  · rw [if_neg there] at within
    have same : graph.IsWithin bound dependent := by
      rw [IsWithin, if_pos (has_of_mem_dependents listed)]
      omega
    exact same.without [id]

theorem not_isWithin_zero (graph : Graph) (id : String) : ¬graph.IsWithin 0 id := by
  intro within
  unfold IsWithin at within
  by_cases there : graph.has id
  · have present := has_iff_mem_names.mp there
    have some : 0 < graph.nodes.names.length := List.length_pos_of_mem present
    rw [Table.names, List.length_map] at some
    omega
  · rw [if_neg there] at within
    omega

end Graph

end ShaderGraph
