import Mathlib.Data.List.Flatten
import Mathlib.Data.List.Perm.Basic
import ShaderGraph.Host.Graphs
import ShaderGraph.Proofs.Call.ArgumentList
import ShaderGraph.Proofs.Graph.Agreement

/-!
# What the key of a graph determines

The key of a graph joins the written calls of its chain without the names of the
nodes, and no part of it is escaped. All the same, of two chains with the same
key the one with the longer last call refers to all that the other one refers
to. Among graphs that agree it then has all its nodes, so the last calls are of
the same length, hence the same, and lead to the same nodes.
-/

namespace ShaderGraph

/-! ## References in joined arguments -/

namespace Reference

/-- The references of the end of a text are references of the text. -/
theorem scan_suffix {ending text : List Char} (isSuffix : ending <:+ text) :
    scan ending <:+ scan text := by
  induction text with
  | nil =>
      cases List.suffix_nil.mp isSuffix
      exact List.suffix_rfl
  | cons first rest inductionHypothesis =>
      rcases List.suffix_cons_iff.mp isSuffix with rfl | shorter
      · exact List.suffix_rfl
      · refine (inductionHypothesis shorter).trans ?_
        rw [scan]
        split
        · exact List.suffix_rfl
        · exact List.suffix_cons _ _

/-- A character that belongs to no word ends every name before it. -/
theorem nodeName?_append_cons
    {separator : Char}
    (separates : Text.isWord separator = false)
    (text rest : List Char) : nodeName? (text ++ separator :: rest) = nodeName? text := by
  have sameName : (text ++ separator :: rest).takeWhile Text.isWord =
      text.takeWhile Text.isWord := by
    induction text with
    | nil => simp [separates]
    | cons first others inductionHypothesis => simp [List.takeWhile_cons, inductionHypothesis]
  rw [nodeName?, nodeName?, sameName]

theorem scan_append_cons
    {separator : Char}
    (separates : Text.isWord separator = false)
    (noReference : separator ≠ '$')
    (text rest : List Char) : scan (text ++ separator :: rest) = scan text ++ scan rest := by
  induction text with
  | nil => simp [scan, noReference]
  | cons first others inductionHypothesis =>
      rw [List.cons_append, scan, scan, nodeName?_append_cons separates, inductionHypothesis]
      split <;> rfl

theorem scan_intercalate (texts : List (List Char)) :
    scan ([','].intercalate texts) = texts.flatMap scan := by
  induction texts with
  | nil => rfl
  | cons text others inductionHypothesis =>
      cases others with
      | nil => simp [List.intercalate_singleton]
      | cons next others =>
          rw [List.intercalate_cons_cons, List.append_assoc, List.singleton_append,
            scan_append_cons (by decide) (by decide), inductionHypothesis]
          rfl

end Reference

/-! ## Written calls -/

namespace Key

/-- The arguments of a call as they are written. -/
def writtenArguments (arguments : List String) : List Char :=
  [','].intercalate (arguments.map String.toList)

theorem toList_written (name : String) (arguments : List String) :
    (written name arguments).toList =
      name.toList ++ '(' :: (writtenArguments arguments ++ [')']) := by
  simp [written, writtenArguments]

theorem scan_writtenArguments (arguments : List String) :
    Reference.scan (writtenArguments arguments) = arguments.flatMap Reference.inText := by
  rw [writtenArguments, Reference.scan_intercalate, List.flatMap_map]
  rfl

/-- What stands behind a separator stands behind the first one as well. -/
theorem suffix_of_append_cons_eq
    {separator : Char}
    {text rest first behind : List Char}
    (absent : separator ∉ first)
    (equal : text ++ separator :: rest = first ++ separator :: behind) : rest <:+ behind := by
  rcases List.append_eq_append_iff.mp equal with
    ⟨others, firstEq, restEq⟩ | ⟨others, textEq, behindEq⟩
  · cases others with
    | nil =>
        cases restEq
        exact List.suffix_rfl
    | cons character more =>
        cases restEq
        exact absurd (firstEq ▸ List.mem_append_right _ List.mem_cons_self) absent
  · cases others with
    | nil =>
        cases behindEq
        exact List.suffix_rfl
    | cons character more =>
        cases behindEq
        exact (List.suffix_cons separator rest).trans (List.suffix_append more _)

/-- The end of a written call that is a written call holds no other references. -/
theorem references_subset_of_suffix
    {leftName rightName : String}
    {leftArguments rightArguments : List String}
    (plain : '(' ∉ rightName.toList)
    (isSuffix : (written leftName leftArguments).toList <:+
      (written rightName rightArguments).toList) :
    leftArguments.flatMap Reference.inText ⊆ rightArguments.flatMap Reference.inText := by
  obtain ⟨before, equal⟩ := isSuffix
  rw [toList_written, toList_written, ← List.append_assoc] at equal
  obtain ⟨more, ends⟩ := suffix_of_append_cons_eq plain equal
  rw [← List.append_assoc] at ends
  have shorter : writtenArguments leftArguments <:+ writtenArguments rightArguments :=
    ⟨more, (List.append_inj' ends rfl).1⟩
  rw [← scan_writtenArguments, ← scan_writtenArguments]
  exact (Reference.scan_suffix shorter).subset

/-- Written calls are equal only for the same function with the same written
arguments. -/
theorem written_inj
    {leftName rightName : String}
    {leftArguments rightArguments : List String}
    (leftPlain : '(' ∉ leftName.toList)
    (rightPlain : '(' ∉ rightName.toList)
    (equal : written leftName leftArguments = written rightName rightArguments) :
    leftName = rightName ∧ ",".intercalate leftArguments = ",".intercalate rightArguments := by
  have sameText := congrArg String.toList equal
  rw [toList_written, toList_written] at sameText
  have sameEnd : writtenArguments leftArguments ++ [')'] =
      writtenArguments rightArguments ++ [')'] :=
    (suffix_of_append_cons_eq rightPlain sameText).eq_of_length_le
      (suffix_of_append_cons_eq leftPlain sameText.symm).length_le
  have sameName := List.append_inj_left' sameText (by rw [sameEnd])
  refine ⟨String.toList_inj.mp sameName, String.toList_inj.mp ?_⟩
  rw [String.toList_intercalate, String.toList_intercalate]
  exact (List.append_inj' sameEnd rfl).1

end Key

/-! ## Keys of chains -/

namespace Graph

/-- A call as it is written in a key, and nothing for no call. -/
def writtenText (call? : Option (String × List String)) : List Char :=
  (call?.map fun call => (Key.written call.1 call.2).toList).getD []

/-- The call of a node as it is written in a key. -/
def writtenCall (graph : Graph) (name : String) : List Char :=
  writtenText (graph.call? name)

/-- The nodes of a chain of registered nodes. -/
theorem nodesOf_eq_ok
    {graph : Graph}
    {chain : List String}
    (registered : ∀ name ∈ chain, graph.has name = true) :
    ∃ nodes, Action.nodesOf graph chain = .ok nodes ∧
      chain.map graph.call? = nodes.map fun node => some (node.function, node.arguments) := by
  induction chain with
  | nil => exact ⟨[], rfl, rfl⟩
  | cons name rest inductionHypothesis =>
      obtain ⟨node, found⟩ := has_iff_exists.mp (registered name List.mem_cons_self)
      obtain ⟨nodes, success, others⟩ := inductionHypothesis fun other present =>
        registered other (List.mem_cons_of_mem name present)
      refine ⟨node :: nodes, ?_, by rw [List.map_cons, call?, found, others]; rfl⟩
      rw [Action.nodesOf, List.mapM_cons, found]
      rw [Action.nodesOf] at success
      rw [success]
      rfl

/-- The key of a chain of registered nodes holds their written calls. -/
theorem graphKey_eq_ok
    {graph : Graph}
    {chain : List String}
    (registered : ∀ name ∈ chain, graph.has name = true) :
    ∃ key, Action.graphKey graph chain = .ok key ∧
      key.toList = "graph_".toList ++ ['_'].intercalate (chain.map graph.writtenCall) := by
  obtain ⟨nodes, success, found⟩ := nodesOf_eq_ok registered
  refine ⟨Key.ofGraph (nodes.map fun node => (node.function, node.arguments)), ?_, ?_⟩
  · rw [Action.graphKey, success]
    rfl
  · have calls : chain.map graph.writtenCall =
        nodes.map fun node => (Key.written node.function node.arguments).toList := by
      have written := congrArg (List.map writtenText) found
      rw [List.map_map, List.map_map] at written
      exact written
    rw [Key.ofGraph, String.toList_append, String.toList_intercalate, calls, List.map_map,
      List.map_map]
    rfl

/-- The key of a chain reads the calls of its nodes only. -/
theorem graphKey_of_sameCalls
    {left right : Graph}
    {chain : List String}
    (same : SameCalls left right)
    (registered : ∀ name ∈ chain, left.has name = true) :
    Action.graphKey left chain = Action.graphKey right chain := by
  obtain ⟨leftKey, leftSuccess, leftText⟩ := graphKey_eq_ok registered
  have rightRegistered : ∀ name ∈ chain, right.has name = true :=
    fun name present => (same.has_eq name).symm.trans (registered name present)
  obtain ⟨rightKey, rightSuccess, rightText⟩ := graphKey_eq_ok rightRegistered
  have sameWritten : left.writtenCall = right.writtenCall := by
    funext name
    rw [writtenCall, writtenCall, same name]
  rw [sameWritten, ← rightText] at leftText
  rw [leftSuccess, rightSuccess, String.toList_inj.mp leftText]

/-- Two chains are those of the same graph: they have the same nodes with the same
calls in the same order, and outputs with the same call. -/
structure ChainsAgree
    (left : Graph)
    (leftChain : List String)
    (right : Graph)
    (rightChain : List String) : Prop where
  length : leftChain.length = rightChain.length
  inner : leftChain.dropLast = rightChain.dropLast
  calls : ∀ name ∈ leftChain.dropLast, left.call? name = right.call? name
  last : ∃ call, leftChain.getLast?.bind left.call? = some call ∧
    rightChain.getLast?.bind right.call? = some call

/-- The names of the functions of a graph open no parenthesis, and their arguments
were listed in a text. -/
def IsPlain (graph : Graph) : Prop :=
  ∀ name call, graph.call? name = some call ->
    '(' ∉ call.1.toList ∧ ∃ raw, call.2 = Call.splitArguments raw

/-- What stands in a key before the call of the output. -/
def writtenInner (graph : Graph) (names : List String) : List Char :=
  names.flatMap fun name => graph.writtenCall name ++ ['_']

theorem intercalate_writtenCall_concat (graph : Graph) (names : List String) (last : String) :
    ['_'].intercalate ((names ++ [last]).map graph.writtenCall) =
      graph.writtenInner names ++ graph.writtenCall last := by
  induction names with
  | nil => simp [writtenInner, List.intercalate_singleton]
  | cons name rest inductionHypothesis =>
      rw [List.cons_append, List.map_cons, List.intercalate_cons_of_ne_nil (by simp),
        inductionHypothesis]
      simp [writtenInner]

theorem length_writtenInner_le
    {graph : Graph}
    {names others : List String}
    (nodup : names.Nodup)
    (contained : names ⊆ others) :
    (graph.writtenInner names).length ≤ (graph.writtenInner others).length := by
  obtain ⟨arranged, permuted, isSublist⟩ := List.subperm_of_subset nodup contained
  unfold writtenInner
  rw [← (permuted.flatMap_right _).length_eq]
  exact (isSublist.flatMap _).length_le

/-- Of two chains with the same key, the one with the longer last call refers to
all that the other one refers to, so the last calls are the same. -/
theorem writtenCall_output_eq
    {left right : Graph}
    {leftOutput rightOutput : String}
    {leftChain rightChain : List String}
    (agrees : left.Agrees right)
    (rightPlain : right.IsPlain)
    (leftChainOf : left.IsChainOf leftOutput leftChain)
    (rightChainOf : right.IsChainOf rightOutput rightChain)
    (sameText : left.writtenInner leftChain.dropLast ++ left.writtenCall leftOutput =
      right.writtenInner rightChain.dropLast ++ right.writtenCall rightOutput)
    (shorter : (left.writtenCall leftOutput).length ≤ (right.writtenCall rightOutput).length) :
    left.writtenCall leftOutput = right.writtenCall rightOutput := by
  obtain ⟨rightCall, rightFound⟩ := rightChainOf.exists_call rightChainOf.output_mem
  have references : ∀ reference, left.Refers leftOutput reference ->
      right.Refers rightOutput reference := by
    intro reference refers
    obtain ⟨leftCall, leftFound, present⟩ := refers_iff_call?.mp refers
    have isSuffix : left.writtenCall leftOutput <:+ right.writtenCall rightOutput :=
      List.suffix_of_suffix_length_le ⟨_, sameText⟩ ⟨_, rfl⟩ shorter
    rw [writtenCall, writtenCall, leftFound, rightFound] at isSuffix
    exact refers_iff_call?.mpr ⟨rightCall, rightFound,
      Key.references_subset_of_suffix (rightPlain _ _ rightFound).1 isSuffix present⟩
  have contained := leftChainOf.dropLast_subset rightChainOf agrees references
  have sameInner : left.writtenInner leftChain.dropLast =
      right.writtenInner leftChain.dropLast := by
    apply List.flatMap_congr
    intro name present
    rw [writtenCall, writtenCall, agrees.call?_eq
      (leftChainOf.registered name (List.dropLast_subset _ present))
      (rightChainOf.registered name (List.dropLast_subset _ (contained present)))]
  have innerLength := right.length_writtenInner_le
    (leftChainOf.nodup.sublist (List.dropLast_sublist leftChain)) contained
  have sameLength := congrArg List.length sameText
  rw [List.length_append, List.length_append, sameInner] at sameLength
  exact (List.append_inj' sameText (by omega)).2

/-- What stands in the same key for two chains, apart from its start. -/
theorem writtenText_eq_of_graphKey_eq
    {left right : Graph}
    {leftOutput rightOutput : String}
    {leftChain rightChain : List String}
    (leftChainOf : left.IsChainOf leftOutput leftChain)
    (rightChainOf : right.IsChainOf rightOutput rightChain)
    (sameKey : Action.graphKey left leftChain = Action.graphKey right rightChain) :
    left.writtenInner leftChain.dropLast ++ left.writtenCall leftOutput =
      right.writtenInner rightChain.dropLast ++ right.writtenCall rightOutput := by
  obtain ⟨leftKey, leftSuccess, leftText⟩ := graphKey_eq_ok leftChainOf.registered
  obtain ⟨rightKey, rightSuccess, rightText⟩ := graphKey_eq_ok rightChainOf.registered
  cases leftSuccess.symm.trans (sameKey.trans rightSuccess)
  rw [leftChainOf.eq_dropLast_append, intercalate_writtenCall_concat] at leftText
  rw [rightChainOf.eq_dropLast_append, intercalate_writtenCall_concat] at rightText
  exact List.append_cancel_left (leftText.symm.trans rightText)

/-- Calls of plain graphs that are written alike are the same. -/
theorem call_eq_of_writtenCall_eq
    {left right : Graph}
    {leftName rightName : String}
    {leftCall rightCall : String × List String}
    (leftPlain : left.IsPlain)
    (rightPlain : right.IsPlain)
    (leftFound : left.call? leftName = some leftCall)
    (rightFound : right.call? rightName = some rightCall)
    (sameWritten : left.writtenCall leftName = right.writtenCall rightName) :
    leftCall = rightCall := by
  rw [writtenCall, writtenCall, leftFound, rightFound] at sameWritten
  obtain ⟨leftOpens, leftRaw, leftArguments⟩ := leftPlain _ _ leftFound
  obtain ⟨rightOpens, rightRaw, rightArguments⟩ := rightPlain _ _ rightFound
  obtain ⟨sameFunction, sameJoined⟩ :=
    Key.written_inj leftOpens rightOpens (String.toList_inj.mp sameWritten)
  rw [leftArguments, rightArguments] at sameJoined
  refine Prod.ext sameFunction ?_
  rw [leftArguments, rightArguments, Call.splitArguments_eq_of_intercalate_eq sameJoined]

/-- Chains of agreeing graphs with the same key are those of the same graph. -/
theorem chainsAgree_of_graphKey_eq
    {left right : Graph}
    {leftOutput rightOutput : String}
    {leftChain rightChain : List String}
    (agrees : left.Agrees right)
    (leftPlain : left.IsPlain)
    (rightPlain : right.IsPlain)
    (leftAnalyzed : (left.analyze leftOutput).1 = .ok leftChain)
    (rightAnalyzed : (right.analyze rightOutput).1 = .ok rightChain)
    (sameKey : Action.graphKey left leftChain = Action.graphKey right rightChain) :
    ChainsAgree left leftChain right rightChain := by
  have leftChainOf := isChainOf_of_analyze leftAnalyzed
  have rightChainOf := isChainOf_of_analyze rightAnalyzed
  obtain ⟨leftCall, leftFound⟩ := leftChainOf.exists_call leftChainOf.output_mem
  obtain ⟨rightCall, rightFound⟩ := rightChainOf.exists_call rightChainOf.output_mem
  have sameText := writtenText_eq_of_graphKey_eq leftChainOf rightChainOf sameKey
  have sameWritten : left.writtenCall leftOutput = right.writtenCall rightOutput := by
    rcases Nat.le_total (left.writtenCall leftOutput).length
      (right.writtenCall rightOutput).length with shorter | longer
    · exact writtenCall_output_eq agrees rightPlain leftChainOf rightChainOf sameText shorter
    · exact (writtenCall_output_eq agrees.symm leftPlain rightChainOf leftChainOf
        sameText.symm longer).symm
  cases call_eq_of_writtenCall_eq leftPlain rightPlain leftFound rightFound sameWritten
  have sameInner :=
    dropLast_eq_of_arguments_eq agrees leftAnalyzed rightAnalyzed leftFound rightFound rfl
  exact {
    length := by
      rw [leftChainOf.eq_dropLast_append, rightChainOf.eq_dropLast_append, sameInner]
      simp
    inner := sameInner
    calls := fun name present => agrees.call?_eq
      (leftChainOf.registered name (List.dropLast_subset _ present))
      (rightChainOf.registered name (List.dropLast_subset _ (sameInner ▸ present)))
    last := ⟨leftCall, by rw [leftChainOf.last]; exact leftFound,
      by rw [rightChainOf.last]; exact rightFound⟩ }

end Graph
end ShaderGraph
