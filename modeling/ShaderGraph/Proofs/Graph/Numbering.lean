import Std.Data.String.ToNat
import ShaderGraph.Proofs.Graph.Agreement

/-!
# Numbers of nodes

A node is named by the number of its registration and no number is given twice.
What happens to a graph between two moments can remove nodes and register others
under greater numbers, but gives no node another call, so the graphs of the two
moments agree.
-/

namespace ShaderGraph
namespace Graph

/-- Different numbers make different names. -/
theorem nodeName_injective : Function.Injective nodeName := by
  intro left right equal
  exact Nat.repr_injective (String.append_right_inj _ |>.mp equal)

/-- Every node is named by the number of a registration. -/
def IsNumbered (graph : Graph) : Prop :=
  ∀ name call, graph.call? name = some call ->
    ∃ number, number ≤ graph.registered ∧ name = nodeName number

/-- A graph from which another one comes: the numbers given before stand for the
same calls, or for none. -/
structure Precedes (earlier later : Graph) : Prop where
  registered : earlier.registered ≤ later.registered
  calls : ∀ number call, number ≤ earlier.registered ->
    later.call? (nodeName number) = some call -> earlier.call? (nodeName number) = some call

/-- Nothing was registered, and nodes may be missing. -/
structure Narrows (graph changed : Graph) : Prop where
  registered : changed.registered = graph.registered
  calls : ∀ name call, changed.call? name = some call -> graph.call? name = some call

theorem Precedes.refl (graph : Graph) : graph.Precedes graph :=
  ⟨Nat.le_refl _, fun _ _ _ found => found⟩

theorem Precedes.trans
    {first second third : Graph}
    (left : first.Precedes second)
    (right : second.Precedes third) : first.Precedes third where
  registered := Nat.le_trans left.registered right.registered
  calls := fun number call known found =>
    left.calls number call known
      (right.calls number call (Nat.le_trans known left.registered) found)

/-- A graph agrees with every graph that comes from it. -/
theorem Precedes.agrees
    {earlier later : Graph}
    (precedes : earlier.Precedes later)
    (numbered : earlier.IsNumbered) : earlier.Agrees later := by
  intro name earlierCall laterCall found laterFound
  obtain ⟨number, known, rfl⟩ := numbered name earlierCall found
  rw [precedes.calls number laterCall known laterFound] at found
  cases found
  rfl

/-! ## Changes of a graph -/

/-- A graph with the same calls has no further ones. -/
theorem SameCalls.narrows
    {graph changed : Graph}
    (same : SameCalls graph changed)
    (registered : changed.registered = graph.registered) : graph.Narrows changed :=
  ⟨registered, fun name _ found => (same name).trans found⟩

theorem narrows_remove (graph : Graph) (name : String) : graph.Narrows (graph.remove name) := by
  refine ⟨rfl, fun other call found => ?_⟩
  rw [call?, find?, remove, Table.find?_erase] at found
  split at found
  · cases found
  · exact found

theorem narrows_clear (graph : Graph) : graph.Narrows graph.clear :=
  ⟨rfl, fun _ _ found => nomatch found⟩

/-- A node that is added is found under its name. -/
theorem call?_add (graph : Graph) (function : String) (arguments : List String) (name : String) :
    (graph.add function arguments).call? name =
      if name = graph.nextName then some (function, arguments) else graph.call? name := by
  rw [call?, find?, add, Table.find?_set]
  by_cases same : name = graph.nextName
  · simp [same]
  · simp [same, call?, find?]

theorem Narrows.precedes {graph changed : Graph} (narrows : graph.Narrows changed) :
    graph.Precedes changed :=
  ⟨Nat.le_of_eq narrows.registered.symm, fun _ call _ found => narrows.calls _ call found⟩

/-- A graph that narrows stays numbered. -/
theorem Narrows.isNumbered
    {graph changed : Graph}
    (narrows : graph.Narrows changed)
    (numbered : graph.IsNumbered) : changed.IsNumbered := by
  intro name call found
  rw [narrows.registered]
  exact numbered name call (narrows.calls name call found)

theorem precedes_add (graph : Graph) (function : String) (arguments : List String) :
    graph.Precedes (graph.add function arguments) := by
  refine ⟨Nat.le_succ _, fun number call known found => ?_⟩
  have different : nodeName number ≠ graph.nextName := by
    intro same
    have next := nodeName_injective same
    omega
  rw [call?_add, if_neg different] at found
  exact found

/-- A graph stays numbered when a node is added. -/
theorem IsNumbered.add
    {graph : Graph}
    (numbered : graph.IsNumbered)
    (function : String)
    (arguments : List String) : (graph.add function arguments).IsNumbered := by
  intro name call found
  rw [call?_add] at found
  split at found
  case isTrue same => exact ⟨graph.registered + 1, Nat.le_refl _, same⟩
  case isFalse =>
    obtain ⟨number, known, same⟩ := numbered name call found
    exact ⟨number, Nat.le_succ_of_le known, same⟩

end Graph
end ShaderGraph
