import Mathlib.Data.List.Find
import ShaderGraph.Proofs.Graph.Descent

/-!
# Outputs apart from a removed node

An analysis first finds the inputs of every node and only then walks from the
output. The walk does not notice the removal of a node that the output does not
reach, neither in the order that it finds nor in the cycle that it names. Finding
the inputs does: a node anywhere in the graph that refers to the removed one makes
the analysis of every output fail.
-/

namespace ShaderGraph
namespace Graph

/-! ## Walks in two graphs -/

/-- A visit leads back to the path that it started from. -/
theorem visit_path
    {graph : Graph}
    {bound : Nat}
    {parent name : String}
    {traversal next : Traversal}
    (visited : graph.visit bound parent name traversal = .ok next) :
    next.path = traversal.path := by
  cases bound with
  | zero => cases visited
  | succ bound =>
      obtain ⟨_, _, _, ⟨_, rfl⟩ | ⟨_, _, _, rfl⟩⟩ := visit_ok_cases visited
      · rfl
      · rfl

/-- Visits one after another are the same in two graphs if single ones are. The
way stays the same from one to the next. -/
theorem visitEach_eq
    {left right : Graph}
    {leftBound rightBound : Nat}
    {parent : String}
    {names path : List String}
    {traversal : Traversal}
    (single : ∀ name ∈ names, ∀ traversal : Traversal, traversal.path = path ->
      left.visit leftBound parent name traversal = right.visit rightBound parent name traversal)
    (onWay : traversal.path = path) :
    left.visitEach leftBound parent names traversal =
      right.visitEach rightBound parent names traversal := by
  induction names generalizing traversal with
  | nil => rfl
  | cons name rest inductionHypothesis =>
      rw [visitEach_cons, visitEach_cons,
        ← single name List.mem_cons_self traversal onWay]
      cases first : left.visit leftBound parent name traversal with
      | error failure => rfl
      | ok middle =>
          exact inductionHypothesis
            (fun other later => single other (List.mem_cons_of_mem name later))
            ((visit_path first).trans onWay)

/-- A visit of a found node turns to its inputs unless it is on the path or done. -/
theorem visit_succ
    {graph : Graph}
    {bound : Nat}
    {parent name : String}
    {traversal : Traversal}
    {node : Node}
    (found : graph.find? name = some node) :
    graph.visit (bound + 1) parent name traversal =
      if traversal.path.contains name then .error (.circular parent name)
      else if traversal.order.contains name then .ok traversal
      else do
        let inner <- graph.visitEach bound name node.inputs
          { traversal with path := name :: traversal.path }
        return { path := traversal.path, order := inner.order ++ [name] } := by
  rw [visit, found]
  rfl

/-- Two graphs have the same calls wherever following references leads from an
output. -/
def AgreesFrom (left right : Graph) (output : String) : Prop :=
  ∀ name, left.Reaches output name -> left.call? name = right.call? name

/-- Graphs that agree from an output have the same references there. -/
theorem AgreesFrom.refers
    {left right : Graph}
    {output source target : String}
    (agrees : left.AgreesFrom right output)
    (reached : left.Reaches output source)
    (refers : left.Refers source target) : right.Refers source target := by
  rw [refers_iff_call?] at refers ⊢
  rwa [← agrees source reached]

/-- A node that an output reaches has the same inputs in both graphs. -/
theorem AgreesFrom.exists_inputs
    {left right : Graph}
    {output name : String}
    (agrees : left.AgreesFrom right output)
    (leftResolved : left.IsResolved)
    (rightResolved : right.IsResolved)
    (reached : left.Reaches output name)
    (registered : left.has name = true) :
    ∃ leftNode rightNode, left.find? name = some leftNode ∧ right.find? name = some rightNode ∧
      leftNode.inputs = rightNode.inputs := by
  obtain ⟨leftNode, leftFound⟩ := has_iff_exists.mp registered
  have sameCall := agrees name reached
  rw [call?, call?, leftFound, Option.map_some] at sameCall
  obtain ⟨rightNode, rightFound, call⟩ := Option.map_eq_some_iff.mp sameCall.symm
  have arguments : rightNode.arguments = leftNode.arguments := congrArg Prod.snd call
  refine ⟨leftNode, rightNode, leftFound, rightFound, ?_⟩
  rw [leftResolved.inputs_eq leftFound, rightResolved.inputs_eq rightFound, Node.references,
    Node.references, arguments]

/-- A visit takes the same course in two graphs that agree on all that the output
reaches, also where it closes a cycle. The bounds may differ as long as both are
beyond the number of nodes. -/
theorem visit_eq
    {left right : Graph}
    {leftBound rightBound : Nat}
    {output parent name : String}
    {traversal : Traversal}
    (agrees : left.AgreesFrom right output)
    (leftResolved : left.IsResolved)
    (rightResolved : right.IsResolved)
    (leftWay : left.IsWay output parent traversal.path)
    (rightWay : right.IsWay output parent traversal.path)
    (leftEnough : left.nodes.length < traversal.path.length + leftBound)
    (rightEnough : right.nodes.length < traversal.path.length + rightBound)
    (registered : left.has name = true)
    (edge : (traversal.path = [] ∧ name = parent) ∨ left.Refers parent name) :
    left.visit leftBound parent name traversal = right.visit rightBound parent name traversal := by
  induction leftBound generalizing rightBound parent name traversal with
  | zero =>
      have := leftWay.length_le
      omega
  | succ leftBound inductionHypothesis =>
      cases rightBound with
      | zero =>
          have := rightWay.length_le
          omega
      | succ rightBound =>
          have reached : left.Reaches output name := by
            rcases edge with ⟨_, rfl⟩ | refers
            · exact leftWay.reached
            · exact leftWay.reached.tail refers
          obtain ⟨leftNode, rightNode, leftFound, rightFound, inputs⟩ :=
            agrees.exists_inputs leftResolved rightResolved reached registered
          rw [visit_succ leftFound, visit_succ rightFound, ← inputs]
          by_cases onPath : name ∈ traversal.path
          · simp only [List.contains_iff_mem.mpr onPath, if_true]
          have rightEdge : (traversal.path = [] ∧ name = parent) ∨ right.Refers parent name :=
            edge.imp_right (agrees.refers leftWay.reached)
          have leftLonger := leftWay.cons registered onPath edge
          have rightLonger :=
            rightWay.cons (has_iff_exists.mpr ⟨rightNode, rightFound⟩) onPath rightEdge
          have inner : left.visitEach leftBound name leftNode.inputs
                { traversal with path := name :: traversal.path } =
              right.visitEach rightBound name leftNode.inputs
                { traversal with path := name :: traversal.path } := by
            refine visitEach_eq (fun input listed middle onWay => ?_) rfl
            have refers := (leftResolved.mem_inputs leftFound input).mp listed
            refine inductionHypothesis (onWay ▸ leftLonger) (onWay ▸ rightLonger) ?_ ?_
              (leftResolved.isClosed name input refers) (.inr refers)
            · rw [onWay, List.length_cons]
              omega
            · rw [onWay, List.length_cons]
              omega
          rw [inner]

/-- The order behind an output depends on nothing that the output does not reach. -/
theorem orderOf_eq
    {left right : Graph}
    {output : String}
    (agrees : left.AgreesFrom right output)
    (leftResolved : left.IsResolved)
    (rightResolved : right.IsResolved)
    (registered : left.has output = true) : left.orderOf output = right.orderOf output := by
  have start (graph : Graph) : graph.IsWay output output [] :=
    ⟨List.nodup_nil, by simp, by simp, .refl⟩
  have same : left.visit (left.nodes.length + 1) output output {} =
      right.visit (right.nodes.length + 1) output output {} :=
    visit_eq agrees leftResolved rightResolved (start left) (start right) (by simp) (by simp)
      registered (.inl ⟨rfl, rfl⟩)
  rw [orderOf, orderOf, same]

/-! ## Failures to find inputs -/

/-- How finding the inputs of a node fails, by its first reference to a node that
is not registered. -/
def complaint? (graph : Graph) (name : String) : Option Failure := do
  let call <- graph.call? name
  let reference <- (call.2.flatMap Reference.inText).find? fun reference => !graph.has reference
  return .unresolvedReference name reference

/-- A node complains of its first reference to nothing. -/
theorem complaint?_of_find?
    {graph : Graph}
    {name : String}
    {node : Node}
    (found : graph.find? name = some node) :
    graph.complaint? name = (node.references.find? fun reference => !graph.has reference).map
      (.unresolvedReference name) := by
  rw [complaint?, call?, found]
  exact Option.map_eq_bind.symm

/-- A complaint names a reference to nothing. -/
theorem complaint?_eq_some
    {graph : Graph}
    {name : String}
    {failure : Failure}
    (complains : graph.complaint? name = some failure) :
    ∃ reference, failure = .unresolvedReference name reference ∧
      graph.Refers name reference ∧ graph.has reference = false := by
  obtain ⟨call, found, rest⟩ := Option.bind_eq_some_iff.mp complains
  obtain ⟨reference, missing, equal⟩ := Option.bind_eq_some_iff.mp rest
  cases equal
  exact ⟨reference, rfl,
    refers_iff_call?.mpr ⟨call, found, List.mem_of_find?_eq_some missing⟩,
    by simpa using List.find?_some missing⟩

/-- A node with a reference to a node that is not registered fails. -/
theorem exists_complaint
    {graph : Graph}
    {name reference : String}
    (refers : graph.Refers name reference)
    (missing : graph.has reference = false) : ∃ failure, graph.complaint? name = some failure := by
  obtain ⟨call, found, present⟩ := refers_iff_call?.mp refers
  have some : ((call.2.flatMap Reference.inText).find? fun reference =>
      !graph.has reference).isSome = true :=
    List.find?_isSome.mpr ⟨reference, present, by simp [missing]⟩
  obtain ⟨first, firstMissing⟩ := Option.isSome_iff_exists.mp some
  refine ⟨.unresolvedReference name first, ?_⟩
  rw [complaint?, found, Option.bind_eq_bind, Option.bind_some, firstMissing]
  rfl

/-- Graphs with the same calls complain of the same. -/
theorem SameCalls.complaint?_eq
    {left right : Graph}
    (same : SameCalls left right)
    (name : String) : left.complaint? name = right.complaint? name := by
  have known : left.has = right.has := funext same.has_eq
  rw [complaint?, complaint?, same name, known]

/-- Resolving a node fails with its complaint. -/
theorem resolve_outcome
    {graph : Graph}
    {name : String}
    (registered : graph.has name = true) :
    (graph.resolve name).1 = match graph.complaint? name with
      | some failure => .error failure
      | none => .ok () := by
  obtain ⟨node, found⟩ := has_iff_exists.mp registered
  rw [complaint?_of_find? found, resolve, found]
  cases first : node.references.find? fun reference => !graph.has reference with
  | none => simp only [first, Option.map_none]
  | some reference => simp only [first, Option.map_some]

/-- Finding inputs one by one fails as the first node fails that does. -/
theorem resolveEach_outcome
    {names : List String}
    {graph : Graph}
    (registered : ∀ name ∈ names, graph.has name = true) :
    (resolveEach names graph).1 = match names.findSome? graph.complaint? with
      | some failure => .error failure
      | none => .ok () := by
  induction names generalizing graph with
  | nil => rfl
  | cons name rest inductionHypothesis =>
      have same := graph.sameCalls_resolve name
      have stillRegistered : ∀ other ∈ rest, (graph.resolve name).2.has other = true :=
        fun other present =>
          same.has_eq other ▸ registered other (List.mem_cons_of_mem name present)
      have later := inductionHypothesis stillRegistered
      rw [resolveEach_cons, resolve_outcome (registered name List.mem_cons_self),
        List.findSome?_cons]
      cases graph.complaint? name with
      | some failure => rfl
      | none =>
          rw [← funext same.complaint?_eq] at later
          exact later

/-- An analysis fails as the first node fails whose inputs cannot be found; only
without such a node it goes on to the order behind the output. -/
theorem analyze_outcome (graph : Graph) (output : String) :
    (∃ failure, graph.nodes.names.findSome? graph.complaint? = some failure ∧
        (graph.analyze output).1 = .error failure) ∨
      (graph.nodes.names.findSome? graph.complaint? = none ∧ graph.resolveAll.2.IsResolved ∧
        (graph.analyze output).1 = graph.resolveAll.2.orderOf output) := by
  have outcome : graph.resolveAll.1 = _ :=
    resolveEach_outcome fun name present => has_iff_mem_names.mpr present
  unfold analyze
  rcases equal : graph.resolveAll with ⟨failure | value, changed⟩
  · rw [equal] at outcome
    cases complains : graph.nodes.names.findSome? graph.complaint? with
    | none => rw [complains] at outcome; cases outcome
    | some first => rw [complains] at outcome; cases outcome; exact .inl ⟨_, rfl, rfl⟩
  · rw [equal] at outcome
    cases complains : graph.nodes.names.findSome? graph.complaint? with
    | some first => rw [complains] at outcome; cases outcome
    | none => exact .inr ⟨rfl, fun name => resolved_of_resolveAll equal, rfl⟩

/-! ## Removal -/

section Removal

variable {graph : Graph} {name output : String}

theorem has_remove (other : String) :
    (graph.remove name).has other = true ↔ other ≠ name ∧ graph.has other = true := by
  rw [has_eq_isSome_call?, call?_remove, has_eq_isSome_call?]
  split <;> simp_all

/-- Without a node all references are left but its own. -/
theorem refers_remove {source target : String} :
    (graph.remove name).Refers source target ↔ source ≠ name ∧ graph.Refers source target := by
  rw [refers_iff_call?, call?_remove, refers_iff_call?]
  split <;> simp_all

theorem names_remove (graph : Graph) (name : String) :
    (graph.remove name).nodes.names = graph.nodes.names.filter fun other => !(other == name) := by
  simp only [remove, Table.erase, Table.names, List.filter_map]
  rfl

theorem agreesFrom_remove
    (apart : ¬graph.Reaches output name) : graph.AgreesFrom (graph.remove name) output := by
  intro other reached
  rw [call?_remove, if_neg]
  rintro rfl
  exact apart reached

theorem AgreesFrom.of_sameCalls
    {left right otherLeft otherRight : Graph}
    (agrees : left.AgreesFrom right output)
    (sameLeft : SameCalls left otherLeft)
    (sameRight : SameCalls right otherRight) : otherLeft.AgreesFrom otherRight output := by
  intro other reached
  rw [← sameLeft other, ← sameRight other]
  exact agrees other (sameLeft.reaches_eq ▸ reached)

/-- A node that does not refer to the removed one fails as before. -/
theorem complaint?_remove
    {other : String}
    (different : other ≠ name)
    (indifferent : ¬graph.Refers other name) :
    (graph.remove name).complaint? other = graph.complaint? other := by
  rw [complaint?, complaint?, call?_remove, if_neg different]
  cases found : graph.call? other with
  | none => rfl
  | some call =>
      have sameFirst : (call.2.flatMap Reference.inText).find?
            (fun reference => !(graph.remove name).has reference) =
          (call.2.flatMap Reference.inText).find? fun reference => !graph.has reference := by
        refine List.find?_congr fun reference present => ?_
        have kept : reference ≠ name := by
          rintro rfl
          exact indifferent (refers_iff_call?.mpr ⟨call, found, present⟩)
        rw [Bool.eq_iff_iff, Bool.not_eq_true', Bool.not_eq_true', ← Bool.not_eq_true,
          ← Bool.not_eq_true, has_remove]
        simp [kept]
      simp only [Option.bind_eq_bind, Option.bind_some, sameFirst]

/-- When no node but the removed one refers to it, what fails first is what failed
first before, unless it was the removed node. -/
theorem findSome?_complaint?_remove
    (names : List String)
    (alone : ∀ source, graph.Refers source name -> source = name) :
    (names.filter fun other => !(other == name)).findSome? (graph.remove name).complaint? =
        names.findSome? graph.complaint? ∨
      ∃ failure, graph.complaint? name = some failure ∧
        names.findSome? graph.complaint? = some failure := by
  induction names with
  | nil => exact .inl rfl
  | cons first rest inductionHypothesis =>
      by_cases removed : first = name
      · subst removed
        cases complains : graph.complaint? first with
        | some failure =>
            exact .inr ⟨failure, rfl, by rw [List.findSome?_cons, complains]⟩
        | none =>
            rw [List.findSome?_cons, complains, List.filter_cons_of_neg (by simp)]
            rw [complains] at inductionHypothesis
            exact inductionHypothesis
      · have kept : ¬graph.Refers first name := fun refers => removed (alone first refers)
        rw [List.filter_cons_of_pos (by simpa using removed), List.findSome?_cons,
          List.findSome?_cons, complaint?_remove removed kept]
        cases graph.complaint? first with
        | some failure => exact .inl rfl
        | none => exact inductionHypothesis

/-- A node that no other node refers to can be removed without changing the result
for an output that does not reach it, unless it was the first node whose inputs
could not be found. -/
theorem analyze_remove_of_alone
    (registered : graph.has output = true)
    (apart : ¬graph.Reaches output name)
    (alone : ∀ source, graph.Refers source name -> source = name) :
    ((graph.remove name).analyze output).1 = (graph.analyze output).1 ∨
      ∃ reference, (graph.analyze output).1 = .error (.unresolvedReference name reference) ∧
        graph.Refers name reference ∧ graph.has reference = false := by
  rcases findSome?_complaint?_remove graph.nodes.names alone with
    sameFirst | ⟨failure, complains, first⟩
  · left
    rw [← names_remove] at sameFirst
    rcases graph.analyze_outcome output with ⟨failure, first, failed⟩ | ⟨none, resolved, ordered⟩
    · rcases (graph.remove name).analyze_outcome output with
        ⟨other, otherFirst, otherFailed⟩ | ⟨otherNone, _⟩
      · cases (sameFirst.trans first).symm.trans otherFirst
        rw [failed, otherFailed]
      · cases (sameFirst.symm.trans otherNone).symm.trans first
    · rcases (graph.remove name).analyze_outcome output with
        ⟨other, otherFirst, _⟩ | ⟨_, otherResolved, otherOrdered⟩
      · cases (sameFirst.trans none).symm.trans otherFirst
      · have before := (resolveEach_keeps graph.nodes.names graph).1
        have after := (resolveEach_keeps (graph.remove name).nodes.names (graph.remove name)).1
        have agrees := (agreesFrom_remove apart).of_sameCalls before after
        rw [ordered, otherOrdered]
        refine (orderOf_eq agrees resolved otherResolved ?_).symm
        exact before.has_eq output ▸ registered
  · right
    obtain ⟨reference, rfl, refers, missing⟩ := complaint?_eq_some complains
    rcases graph.analyze_outcome output with ⟨other, otherFirst, failed⟩ | ⟨none, _⟩
    · cases first.symm.trans otherFirst
      exact ⟨reference, failed, refers, missing⟩
    · cases first.symm.trans none

/-- Without a node that another one refers to every analysis fails, with a reference
of a remaining node to the removed one or to one that was not there before. -/
theorem analyze_remove_of_refers
    {source : String}
    (refers : graph.Refers source name)
    (different : source ≠ name)
    (output : String) :
    ∃ source reference, source ≠ name ∧ graph.Refers source reference ∧
      (reference = name ∨ graph.has reference = false) ∧
      ((graph.remove name).analyze output).1 =
        .error (.unresolvedReference source reference) := by
  have still := refers_remove.mpr ⟨different, refers⟩
  have gone : (graph.remove name).has name = false := by
    rw [← Bool.not_eq_true, has_remove]
    simp
  obtain ⟨_, complains⟩ := exists_complaint still gone
  have present : source ∈ (graph.remove name).nodes.names := by
    obtain ⟨node, found, _⟩ := still
    exact has_iff_mem_names.mp (has_iff_exists.mpr ⟨node, found⟩)
  rcases (graph.remove name).analyze_outcome output with ⟨failure, first, failed⟩ | ⟨none, _⟩
  · obtain ⟨referrer, _, firstComplains⟩ := List.exists_of_findSome?_eq_some first
    obtain ⟨reference, rfl, refersNow, missing⟩ := complaint?_eq_some firstComplains
    obtain ⟨remaining, refersBefore⟩ := refers_remove.mp refersNow
    refine ⟨referrer, reference, remaining, refersBefore, ?_, failed⟩
    by_contra known
    rw [not_or, Bool.not_eq_false] at known
    cases missing.symm.trans ((has_remove reference).mpr known)
  · cases (List.findSome?_eq_none_iff.mp none source present).symm.trans complains

/-- Removing a node is noticed by the analysis of an output that does not reach it
only through the search for inputs. If no other node refers to the removed one, the
result is the same as before, unless the removed node was the first whose inputs
could not be found. If another node does, the analysis fails with a reference of a
remaining node that leads to the removed one or to one that was not there. -/
theorem analyze_remove_of_not_reaches
    (registered : graph.has output = true)
    (apart : ¬graph.Reaches output name) :
    ((∀ source, graph.Refers source name -> source = name) ->
        ((graph.remove name).analyze output).1 = (graph.analyze output).1 ∨
          ∃ reference, (graph.analyze output).1 = .error (.unresolvedReference name reference) ∧
            graph.Refers name reference ∧ graph.has reference = false) ∧
      ((∃ source, graph.Refers source name ∧ source ≠ name) ->
        ∃ source reference, source ≠ name ∧ graph.Refers source reference ∧
          (reference = name ∨ graph.has reference = false) ∧
          ((graph.remove name).analyze output).1 =
            .error (.unresolvedReference source reference)) := by
  refine ⟨analyze_remove_of_alone registered apart, ?_⟩
  rintro ⟨source, refers, different⟩
  exact analyze_remove_of_refers refers different output

end Removal

theorem diamond_without_apart :
    ((diamond.remove "shader_5").analyze "shader_4").1 =
      .ok ["shader_1", "shader_3", "shader_2", "shader_4"] := by
  have analyzed : (diamond.analyze "shader_4").1 =
      .ok ["shader_1", "shader_3", "shader_2", "shader_4"] := by decide +kernel
  have apart : ¬diamond.Reaches "shader_4" "shader_5" := fun reaches =>
    absurd ((isChainOf_of_analyze analyzed).mem_iff _ |>.mpr reaches) (by simp)
  have alone : ∀ source, diamond.Refers source "shader_5" -> source = "shader_5" := by
    rintro source ⟨node, found, present⟩
    have none : ∀ entry ∈ diamond.nodes, "shader_5" ∉ entry.2.references := by decide +kernel
    exact absurd present (none _ (Table.mem_of_find? found))
  rcases (analyze_remove_of_not_reaches (by decide +kernel) apart).1 alone with
    same | ⟨_, failed, _⟩
  · rw [same, analyzed]
  · cases analyzed.symm.trans failed

/-- A node that refers to the first one, and a node apart from both. -/
def bystander : Graph where
  nodes := [
    ("shader_1", { function := "sin", arguments := ["time"] }),
    ("shader_2", { function := "sin", arguments := ["$shader_1"] }),
    ("shader_3", { function := "cos", arguments := ["time"] })]
  registered := 3

/-- Removing a node can make the analysis of a registered output fail that does
not reach it. -/
theorem bystander_fails :
    ¬(∀ (graph : Graph) (name output : String),
      graph.has name = true -> graph.has output = true -> ¬graph.Reaches output name ->
        ((graph.remove name).analyze output).1 = (graph.analyze output).1) := by
  intro unchanged
  have analyzed : (bystander.analyze "shader_3").1 = .ok ["shader_3"] := by decide +kernel
  have apart : ¬bystander.Reaches "shader_3" "shader_1" := fun reaches =>
    absurd ((isChainOf_of_analyze analyzed).mem_iff _ |>.mpr reaches) (by simp)
  have after : ((bystander.remove "shader_1").analyze "shader_3").1 =
      .error (.unresolvedReference "shader_2" "shader_1") := by decide +kernel
  have same := unchanged bystander "shader_1" "shader_3" (by decide +kernel) (by decide +kernel)
    apart
  rw [analyzed, after] at same
  cases same

end Graph
end ShaderGraph
