import Mathlib.Data.List.Forall2
import ShaderGraph.Proofs.Call.ArgumentList

/-!
# Joined arguments

An argument closes as many parentheses as it opens, has no comma where as many are closed as
are opened, and neither starts nor ends with a blank. Arguments that are joined by commas,
with any blanks around them, are listed by the joined text. What any text lists is listed by
its joined text as well, although its last item may leave parentheses open.
-/

namespace ShaderGraph
namespace Call

variable {depth : Int} {text padded : List Char}

/-! ## Depths as numbers of parentheses -/

/-- How many more parentheses a text opens than it closes. -/
def netDepth (text : List Char) : Int :=
  text.count '(' - text.count ')'

theorem netDepth_append (left right : List Char) :
    netDepth (left ++ right) = netDepth left + netDepth right := by
  simp only [netDepth, List.count_append]
  omega

theorem depthAfter_eq (depth : Int) (character : Char) :
    depthAfter depth character = depth + netDepth [character] := by
  rw [depthAfter, netDepth, List.count_singleton, List.count_singleton]
  by_cases opening : character = '('
  · subst opening
    rfl
  · by_cases closing : character = ')'
    · subst closing
      rfl
    · simp [opening, closing]

/-- The depth behind a text is counted by its parentheses. -/
theorem depthBehind_eq (depth : Int) (text : List Char) :
    depthBehind depth text = depth + netDepth text := by
  induction text generalizing depth with
  | nil => exact (Int.add_zero depth).symm
  | cons first rest inductionHypothesis =>
      change depthBehind (depthAfter depth first) rest = _
      rw [inductionHypothesis, depthAfter_eq, Int.add_assoc, ← netDepth_append,
        List.singleton_append]

/-- A text is whole if none of its commas stands where the depth is zero. -/
theorem isWhole_iff :
    IsWhole depth text ↔
      ∀ before after, text = before ++ ',' :: after -> depth + netDepth before ≠ 0 := by
  constructor
  · rintro whole before after rfl
    have comma := (isWhole_cons_iff.mp (isWhole_append_iff.mp whole).2).1
    rw [depthBehind_eq] at comma
    exact fun zero => comma ⟨rfl, zero⟩
  · intro nested
    induction text generalizing depth with
    | nil => exact isWhole_nil depth
    | cons first rest inductionHypothesis =>
        refine isWhole_cons_iff.mpr ⟨?_, inductionHypothesis fun before after split => ?_⟩
        · rintro ⟨rfl, zero⟩
          exact nested [] rest rfl (by rw [zero]; rfl)
        · have deeper := nested (first :: before) after (by rw [split, List.cons_append])
          rwa [depthAfter_eq, Int.add_assoc, ← netDepth_append, List.singleton_append]

/-- Blanks have no commas. -/
theorem isWhole_of_isBlank
    {blanks : List Char}
    (areBlank : ∀ blank ∈ blanks, Text.isBlank blank = true)
    (depth : Int) : IsWhole depth blanks := by
  refine isWhole_iff.mpr fun before after split => ?_
  have isBlank := areBlank ',' (split ▸ List.mem_append_right before List.mem_cons_self)
  cases isBlank

/-! ## Arguments -/

/-- A text that can be passed as one argument. -/
structure IsArgument (argument : String) : Prop where
  notEmpty : argument ≠ ""
  trimmed : Text.trimmed argument = argument
  closed : netDepth argument.toList = 0
  nested : ∀ before after, argument.toList = before ++ ',' :: after -> netDepth before ≠ 0

theorem isArgument_iff {argument : String} :
    IsArgument argument ↔ argument ≠ "" ∧ Text.trimmed argument = argument ∧
      netDepth argument.toList = 0 ∧ parts 0 argument.toList = [argument.toList] := by
  have whole : IsWhole 0 argument.toList ↔
      ∀ before after, argument.toList = before ++ ',' :: after -> netDepth before ≠ 0 := by
    rw [isWhole_iff]
    simp only [Int.zero_add]
  constructor
  · exact fun isArgument =>
      ⟨isArgument.notEmpty, isArgument.trimmed, isArgument.closed, whole.mpr isArgument.nested⟩
  · rintro ⟨notEmpty, trimmed, closed, alone⟩
    exact ⟨notEmpty, trimmed, closed, whole.mp alone⟩

instance : DecidablePred IsArgument := fun _ => decidable_of_iff _ isArgument_iff.symm

/-- A text with blanks before and behind it. -/
def IsPadded (text padded : List Char) : Prop :=
  ∃ before after, (∀ blank ∈ before, Text.isBlank blank = true) ∧
    (∀ blank ∈ after, Text.isBlank blank = true) ∧ padded = before ++ text ++ after

namespace IsPadded

theorem trim (isPadded : IsPadded text padded) (trimmed : Text.trim text = text) :
    Text.trim padded = text := by
  obtain ⟨before, after, blankBefore, blankAfter, rfl⟩ := isPadded
  refine Text.trim_append_append blankBefore blankAfter ?_ ?_
  · rw [← trimmed]
    exact fun _ => Text.isBlank_head?_trim
  · rw [← trimmed]
    exact fun _ => Text.isBlank_getLast?_trim

theorem depthBehind (isPadded : IsPadded text padded) (depth : Int) :
    depthBehind depth padded = depthBehind depth text := by
  obtain ⟨before, after, blankBefore, blankAfter, rfl⟩ := isPadded
  rw [depthBehind_append, depthBehind_append, depthBehind_of_isBlank depth blankBefore,
    depthBehind_of_isBlank _ blankAfter]

theorem isWhole (isPadded : IsPadded text padded) (whole : IsWhole depth text) :
    IsWhole depth padded := by
  obtain ⟨before, after, blankBefore, blankAfter, rfl⟩ := isPadded
  rw [isWhole_append_iff, isWhole_append_iff, depthBehind_of_isBlank depth blankBefore]
  exact ⟨⟨isWhole_of_isBlank blankBefore depth, whole⟩, isWhole_of_isBlank blankAfter _⟩

end IsPadded

/-! ## Joining and splitting -/

/-- What a joined text lists are the listed texts, without blanks around them and without
empty ones. -/
theorem IsListing.splitChars_intercalate_eq
    {texts : List (List Char)}
    (listing : IsListing 0 texts) :
    splitChars ([','].intercalate texts) =
      (texts.map Text.trim).filter fun part => !part.isEmpty := by
  cases texts with
  | nil => rfl
  | cons part others => rw [splitChars, listing.parts_intercalate]

/-- Arguments with blanks around them can be listed. -/
theorem isListing_of_isPadded
    {arguments : List String}
    {texts : List (List Char)}
    (areArguments : ∀ argument ∈ arguments, IsArgument argument)
    (arePadded :
      List.Forall₂ (fun argument text => IsPadded argument.toList text) arguments texts) :
    IsListing 0 texts ∧ texts.map Text.trim = arguments.map String.toList := by
  induction arePadded with
  | nil => exact ⟨trivial, rfl⟩
  | @cons argument text arguments texts isPadded _ inductionHypothesis =>
      obtain ⟨isArgument, others⟩ := List.forall_mem_cons.mp areArguments
      obtain ⟨notEmpty, trimmed, closed, whole⟩ := isArgument_iff.mp isArgument
      obtain ⟨listing, same⟩ := inductionHypothesis others
      have trimmedChars : Text.trim argument.toList = argument.toList := by
        conv => rhs; rw [← trimmed, Text.trimmed, String.toList_ofList]
      refine ⟨.cons (isPadded.isWhole whole) (fun _ => ?_) listing, ?_⟩
      · rw [isPadded.depthBehind, depthBehind_eq, closed, Int.add_zero]
      · rw [List.map_cons, List.map_cons, same, isPadded.trim trimmedChars]

theorem splitArguments_of_isPadded
    {arguments padded : List String}
    (areArguments : ∀ argument ∈ arguments, IsArgument argument)
    (arePadded : List.Forall₂ (fun argument text => IsPadded argument.toList text.toList)
      arguments padded) :
    splitArguments (",".intercalate padded) = arguments := by
  obtain ⟨listing, same⟩ := isListing_of_isPadded areArguments
    (List.forall₂_map_right_iff.mpr arePadded)
  have solid : ∀ chars ∈ arguments.map String.toList, (!chars.isEmpty) = true := by
    intro chars present
    obtain ⟨argument, listed, rfl⟩ := List.mem_map.mp present
    have notEmpty := (areArguments argument listed).notEmpty
    simpa using notEmpty
  have joined : (",".intercalate padded).toList = [','].intercalate (padded.map String.toList) :=
    String.toList_intercalate
  rw [splitArguments, joined, listing.splitChars_intercalate_eq, same,
    List.filter_eq_self.mpr solid]
  simp [Function.comp_def]

/-- Splitting undoes joining. Arguments that are joined by commas with any blanks around them
are listed by the joined text, and what any text lists, whether or not it closes its
parentheses, is listed by its comma join. -/
theorem splitArguments_undoes_joining :
    (∀ arguments padded : List String, (∀ argument ∈ arguments, IsArgument argument) ->
      List.Forall₂ (fun argument text => IsPadded argument.toList text.toList) arguments padded ->
      splitArguments (",".intercalate padded) = arguments) ∧
    ∀ raw, splitArguments (",".intercalate (splitArguments raw)) = splitArguments raw :=
  ⟨fun _ _ => splitArguments_of_isPadded, splitArguments_intercalate⟩

/-- A call with a comma of its own, an argument that closes a parenthesis before it opens
one, and a name, with line breaks, tabs and spaces around the commas. -/
theorem spread_arguments_listed :
    (∀ argument ∈ ["f(a, b)", ")x,y(", "st"], IsArgument argument) ∧
      List.Forall₂ (fun argument text => IsPadded argument.toList text.toList)
        ["f(a, b)", ")x,y(", "st"] ["f(a, b)\t", " )x,y(\n", "  st"] ∧
      splitArguments (",".intercalate ["f(a, b)\t", " )x,y(\n", "  st"]) =
        ["f(a, b)", ")x,y(", "st"] := by
  have areArguments : ∀ argument ∈ ["f(a, b)", ")x,y(", "st"], IsArgument argument := by
    decide +kernel
  have tab : Text.isBlank '\t' = true := by decide
  have lineBreak : Text.isBlank '\n' = true := by decide
  have space : Text.isBlank ' ' = true := by decide
  have arePadded : List.Forall₂ (fun argument text => IsPadded argument.toList text.toList)
      ["f(a, b)", ")x,y(", "st"] ["f(a, b)\t", " )x,y(\n", "  st"] :=
    .cons ⟨[], ['\t'], by simp, by simp [tab], rfl⟩
      (.cons ⟨[' '], ['\n'], by simp [space], by simp [lineBreak], rfl⟩
        (.cons ⟨[' ', ' '], [], by simp [space], by simp, rfl⟩ .nil))
  exact ⟨areArguments, arePadded, splitArguments_undoes_joining.1 _ _ areArguments arePadded⟩

end Call
end ShaderGraph
