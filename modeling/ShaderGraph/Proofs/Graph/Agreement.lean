import ShaderGraph.Proofs.Graph.Order

/-!
# Graphs that agree

Two graphs agree if no node has different calls in them. What both of them order
behind the same inputs is the same, so the chains of two outputs with the same
arguments differ in the outputs alone.
-/

namespace ShaderGraph
namespace Graph

/-- No node has different calls in two graphs. -/
def Agrees (left right : Graph) : Prop :=
  ∀ name leftCall rightCall,
    left.call? name = some leftCall -> right.call? name = some rightCall -> leftCall = rightCall

theorem Agrees.symm {left right : Graph} (agrees : left.Agrees right) : right.Agrees left :=
  fun name leftCall rightCall found other => (agrees name rightCall leftCall other found).symm

theorem Agrees.of_sameCalls
    {left right otherLeft otherRight : Graph}
    (agrees : left.Agrees right)
    (sameLeft : SameCalls left otherLeft)
    (sameRight : SameCalls right otherRight) : otherLeft.Agrees otherRight := by
  intro name leftCall rightCall found otherFound
  rw [← sameLeft name] at found
  rw [← sameRight name] at otherFound
  exact agrees name leftCall rightCall found otherFound

/-- A node that two agreeing graphs have has the same call in both. -/
theorem Agrees.call?_eq
    {left right : Graph}
    {name : String}
    (agrees : left.Agrees right)
    (leftRegistered : left.has name = true)
    (rightRegistered : right.has name = true) :
    left.call? name = right.call? name := by
  rw [has_eq_isSome_call?] at leftRegistered rightRegistered
  obtain ⟨leftCall, leftFound⟩ := Option.isSome_iff_exists.mp leftRegistered
  obtain ⟨rightCall, rightFound⟩ := Option.isSome_iff_exists.mp rightRegistered
  rw [leftFound, rightFound, agrees name leftCall rightCall leftFound rightFound]

/-- A node that two agreeing graphs have refers to the same nodes in both. -/
theorem Agrees.refers
    {left right : Graph}
    {source target : String}
    (agrees : left.Agrees right)
    (registered : right.has source = true)
    (refers : left.Refers source target) : right.Refers source target := by
  obtain ⟨call, found, present⟩ := refers_iff_call?.mp refers
  rw [has_eq_isSome_call?] at registered
  obtain ⟨other, otherFound⟩ := Option.isSome_iff_exists.mp registered
  cases agrees source call other found otherFound
  exact refers_iff_call?.mpr ⟨call, otherFound, present⟩

/-- A node that was resolved in two agreeing graphs has the same inputs in both. -/
theorem Agrees.inputs_eq
    {left right : Graph}
    {name : String}
    {leftNode rightNode : Node}
    (agrees : left.Agrees right)
    (leftResolved : left.IsResolved)
    (rightResolved : right.IsResolved)
    (leftFound : left.find? name = some leftNode)
    (rightFound : right.find? name = some rightNode) : leftNode.inputs = rightNode.inputs := by
  have sameCall := agrees name _ _ (Option.map_eq_some_iff.mpr ⟨leftNode, leftFound, rfl⟩)
    (Option.map_eq_some_iff.mpr ⟨rightNode, rightFound, rfl⟩)
  have sameArguments : leftNode.arguments = rightNode.arguments := congrArg Prod.snd sameCall
  rw [leftResolved.inputs_eq leftFound, rightResolved.inputs_eq rightFound, Node.references,
    Node.references, sameArguments]

/-! ## Chains behind the same inputs -/

/-- Successful visits of the same nodes order the same nodes. The ways may differ:
they only decide whether a visit fails. -/
theorem visitEach_order_eq
    {left right : Graph}
    {leftBound rightBound : Nat}
    {leftParent rightParent : String}
    {names : List String}
    {leftStart rightStart leftNext rightNext : Traversal}
    (single : ∀ name leftStart rightStart leftNext rightNext,
      left.visit leftBound leftParent name leftStart = .ok leftNext ->
      right.visit rightBound rightParent name rightStart = .ok rightNext ->
      leftStart.order = rightStart.order -> leftNext.order = rightNext.order)
    (leftVisited : left.visitEach leftBound leftParent names leftStart = .ok leftNext)
    (rightVisited : right.visitEach rightBound rightParent names rightStart = .ok rightNext)
    (same : leftStart.order = rightStart.order) : leftNext.order = rightNext.order := by
  induction names generalizing leftStart rightStart with
  | nil =>
      cases leftVisited
      cases rightVisited
      exact same
  | cons name rest inductionHypothesis =>
      rw [visitEach_cons] at leftVisited rightVisited
      cases leftFirst : left.visit leftBound leftParent name leftStart with
      | error failure => rw [leftFirst] at leftVisited; cases leftVisited
      | ok leftMiddle =>
          cases rightFirst : right.visit rightBound rightParent name rightStart with
          | error failure => rw [rightFirst] at rightVisited; cases rightVisited
          | ok rightMiddle =>
              rw [leftFirst] at leftVisited
              rw [rightFirst] at rightVisited
              exact inductionHypothesis leftVisited rightVisited
                (single name _ _ _ _ leftFirst rightFirst same)

theorem visit_order_eq
    {left right : Graph}
    {leftBound rightBound : Nat}
    {leftParent rightParent name : String}
    {leftStart rightStart leftNext rightNext : Traversal}
    (agrees : left.Agrees right)
    (leftResolved : left.IsResolved)
    (rightResolved : right.IsResolved)
    (leftVisited : left.visit leftBound leftParent name leftStart = .ok leftNext)
    (rightVisited : right.visit rightBound rightParent name rightStart = .ok rightNext)
    (same : leftStart.order = rightStart.order) : leftNext.order = rightNext.order := by
  induction leftBound generalizing
    rightBound leftParent rightParent name leftStart rightStart leftNext rightNext with
  | zero => cases leftVisited
  | succ leftBound inductionHypothesis =>
      cases rightBound with
      | zero => cases rightVisited
      | succ rightBound =>
          obtain ⟨leftNode, leftFound, _, leftDone⟩ := visit_ok_cases leftVisited
          obtain ⟨rightNode, rightFound, _, rightDone⟩ := visit_ok_cases rightVisited
          have inputs := agrees.inputs_eq leftResolved rightResolved leftFound rightFound
          rcases leftDone with ⟨isDone, rfl⟩ | ⟨notDone, leftInner, leftEach, rfl⟩
          · rcases rightDone with ⟨_, rfl⟩ | ⟨notDone, _⟩
            · exact same
            · exact absurd (same ▸ isDone) notDone
          · rcases rightDone with ⟨isDone, _⟩ | ⟨_, rightInner, rightEach, rfl⟩
            · exact absurd (same ▸ isDone) notDone
            · rw [← inputs] at rightEach
              have inner := visitEach_order_eq
                (fun _ _ _ _ _ => inductionHypothesis) leftEach rightEach same
              exact congrArg (· ++ [name]) inner

/-- The chains of two outputs with the same arguments differ in the outputs
alone. -/
theorem dropLast_eq_of_arguments_eq
    {left right : Graph}
    {leftOutput rightOutput : String}
    {leftChain rightChain : List String}
    {leftCall rightCall : String × List String}
    (agrees : left.Agrees right)
    (leftAnalyzed : (left.analyze leftOutput).1 = .ok leftChain)
    (rightAnalyzed : (right.analyze rightOutput).1 = .ok rightChain)
    (leftFound : left.call? leftOutput = some leftCall)
    (rightFound : right.call? rightOutput = some rightCall)
    (sameArguments : leftCall.2 = rightCall.2) :
    leftChain.dropLast = rightChain.dropLast := by
  obtain ⟨sameLeft, leftResolved, leftOrdered⟩ := analyze_eq_ok leftAnalyzed
  obtain ⟨sameRight, rightResolved, rightOrdered⟩ := analyze_eq_ok rightAnalyzed
  obtain ⟨leftNode, leftInner, leftNodeFound, leftEach, rfl⟩ := orderOf_cases leftOrdered
  obtain ⟨rightNode, rightInner, rightNodeFound, rightEach, rfl⟩ := orderOf_cases rightOrdered
  have agreesResolved := agrees.of_sameCalls sameLeft sameRight
  have inputs : leftNode.inputs = rightNode.inputs := by
    rw [sameLeft, call?, leftNodeFound] at leftFound
    rw [sameRight, call?, rightNodeFound] at rightFound
    cases leftFound
    cases rightFound
    rw [leftResolved.inputs_eq leftNodeFound, rightResolved.inputs_eq rightNodeFound,
      Node.references, Node.references]
    exact congrArg (fun arguments => (List.flatMap Reference.inText arguments).eraseDups)
      sameArguments
  rw [← inputs] at rightEach
  rw [List.dropLast_concat, List.dropLast_concat]
  exact visitEach_order_eq
    (fun _ _ _ _ _ => visit_order_eq agreesResolved leftResolved rightResolved)
    leftEach rightEach rfl

/-! ## Chains behind fewer references -/

/-- What an output of one graph leads to, an output of an agreeing graph leads to
if it refers to the same nodes at least. -/
theorem IsChainOf.dropLast_subset
    {left right : Graph}
    {leftOutput rightOutput : String}
    {leftChain rightChain : List String}
    (leftChainOf : left.IsChainOf leftOutput leftChain)
    (rightChainOf : right.IsChainOf rightOutput rightChain)
    (agrees : left.Agrees right)
    (references : ∀ reference, left.Refers leftOutput reference ->
      right.Refers rightOutput reference) :
    leftChain.dropLast ⊆ rightChain.dropLast := by
  have leftSplit := leftChainOf.eq_dropLast_append
  have rightSplit := rightChainOf.eq_dropLast_append
  have ordered : right.Ordered (rightChain.dropLast ++ [rightOutput]) :=
    rightSplit ▸ rightChainOf.ordered
  have follows : ∀ name, Relation.TransGen left.Refers leftOutput name ->
      name ∈ rightChain.dropLast := by
    intro name leads
    induction leads with
    | single refers =>
        exact ordered _ rightOutput [] rfl _ (references _ refers)
    | @tail middle last _ refers inductionHypothesis =>
        have registered :=
          rightChainOf.registered middle (List.dropLast_subset _ inductionHypothesis)
        exact ordered.of_append.mem_of_refers inductionHypothesis
          (agrees.refers registered refers)
  intro name present
  have reaches := (leftChainOf.mem_iff name).mp (List.dropLast_subset _ present)
  rcases Relation.reflTransGen_iff_eq_or_transGen.mp reaches with same | leads
  · have nodup := leftSplit ▸ leftChainOf.nodup
    have apart := List.disjoint_singleton.mp (List.nodup_append'.mp nodup).2.2
    exact absurd (same ▸ present) apart
  · exact follows name leads

end Graph
end ShaderGraph
