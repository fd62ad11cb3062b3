import ShaderGraph.Call

/-!
# Lists of arguments

The arguments that a text lists hold no comma at depth zero, and all but the last
close every parenthesis that they open. Joined by commas they list themselves
again, so lists of arguments with the same joined text are equal.
-/

namespace ShaderGraph
namespace Call

/-! ## Parts -/

/-- The depth behind a text. -/
def depthBehind (depth : Int) (text : List Char) : Int :=
  text.foldl depthAfter depth

/-- Every text has a part, if an empty one. -/
theorem parts_ne_nil (depth : Int) (text : List Char) : parts depth text ≠ [] := by
  cases text with
  | nil => simp [parts]
  | cons first rest =>
      rw [parts]
      split
      · simp
      · split <;> simp

/-- A character that does not separate belongs to the first part. -/
theorem parts_cons
    {depth : Int}
    {first : Char}
    {rest part : List Char}
    {others : List (List Char)}
    (joined : ¬(first = ',' ∧ depth = 0))
    (behind : parts (depthAfter depth first) rest = part :: others) :
    parts depth (first :: rest) = (first :: part) :: others := by
  have notBreak : (first == ',' && decide (depth = 0)) = false := by simpa using joined
  rw [parts, notBreak, behind]
  rfl

/-- An outermost comma ends a part. -/
theorem parts_comma (rest : List Char) : parts 0 (',' :: rest) = [] :: parts 0 rest := by
  simp [parts]

/-- A text is whole from a depth on if no comma of it stands at depth zero. -/
def IsWhole (depth : Int) (text : List Char) : Prop :=
  parts depth text = [text]

theorem isWhole_nil (depth : Int) : IsWhole depth [] := rfl

/-- A text is whole if no outermost comma stands in it. -/
theorem isWhole_cons_iff {depth : Int} {first : Char} {rest : List Char} :
    IsWhole depth (first :: rest) ↔
      ¬(first = ',' ∧ depth = 0) ∧ IsWhole (depthAfter depth first) rest := by
  unfold IsWhole
  obtain ⟨part, others, behind⟩ :=
    List.exists_cons_of_ne_nil (parts_ne_nil (depthAfter depth first) rest)
  by_cases breaks : first = ',' ∧ depth = 0
  · obtain ⟨rfl, rfl⟩ := breaks
    simp [parts_comma]
  · rw [parts_cons breaks behind, behind]
    simp [breaks]

/-- Two texts are whole together if the second one is whole from the depth behind the first. -/
theorem isWhole_append_iff {depth : Int} {left right : List Char} :
    IsWhole depth (left ++ right) ↔
      IsWhole depth left ∧ IsWhole (depthBehind depth left) right := by
  induction left generalizing depth with
  | nil => simp [isWhole_nil, depthBehind]
  | cons first rest inductionHypothesis =>
      rw [List.cons_append, isWhole_cons_iff, isWhole_cons_iff, inductionHypothesis, and_assoc]
      rfl

/-- A whole text that ends at depth zero is the first part before a comma. -/
theorem parts_append_comma
    {depth : Int}
    {text : List Char}
    (whole : IsWhole depth text)
    (closed : depthBehind depth text = 0)
    (rest : List Char) : parts depth (text ++ ',' :: rest) = text :: parts 0 rest := by
  induction text generalizing depth with
  | nil =>
      cases closed
      exact parts_comma rest
  | cons first others inductionHypothesis =>
      obtain ⟨joined, behind⟩ := isWhole_cons_iff.mp whole
      exact parts_cons joined (inductionHypothesis behind closed)

/-! ## Listings -/

/-- Texts that can be listed from a depth on: each of them is whole, and all but
the last end at depth zero. -/
def IsListing : Int -> List (List Char) -> Prop
  | _, [] => True
  | depth, [part] => IsWhole depth part
  | depth, part :: next :: others =>
      IsWhole depth part ∧ depthBehind depth part = 0 ∧ IsListing 0 (next :: others)

/-- The first part of a listing is whole. -/
theorem IsListing.head
    {depth : Int}
    {part : List Char}
    {others : List (List Char)}
    (listing : IsListing depth (part :: others)) : IsWhole depth part := by
  cases others with
  | nil => exact listing
  | cons next others => exact listing.1

/-- The parts behind the first one are a listing. -/
theorem IsListing.tail
    {depth : Int}
    {part : List Char}
    {others : List (List Char)}
    (listing : IsListing depth (part :: others)) : IsListing 0 others := by
  cases others with
  | nil => trivial
  | cons next others => exact listing.2.2

/-- A text may come first if it is whole and, before others, ends at depth zero. -/
theorem IsListing.cons
    {depth : Int}
    {part : List Char}
    {others : List (List Char)}
    (whole : IsWhole depth part)
    (closed : others ≠ [] -> depthBehind depth part = 0)
    (listing : IsListing 0 others) : IsListing depth (part :: others) := by
  cases others with
  | nil => exact whole
  | cons next others => exact ⟨whole, closed (by simp), listing⟩

/-- All parentheses of a part are closed before the comma behind it. -/
theorem IsListing.closed
    {depth : Int}
    {part : List Char}
    {others : List (List Char)}
    (listing : IsListing depth (part :: others))
    (more : others ≠ []) : depthBehind depth part = 0 := by
  cases others with
  | nil => exact absurd rfl more
  | cons next others => exact listing.2.1

/-- The parts of a text can be listed. -/
theorem isListing_parts (depth : Int) (text : List Char) :
    IsListing depth (parts depth text) := by
  induction text generalizing depth with
  | nil => exact isWhole_nil depth
  | cons first rest inductionHypothesis =>
      by_cases breaks : first = ',' ∧ depth = 0
      · obtain ⟨rfl, rfl⟩ := breaks
        rw [parts_comma]
        exact .cons (isWhole_nil 0) (fun _ => rfl) (inductionHypothesis 0)
      · obtain ⟨part, others, behind⟩ :=
          List.exists_cons_of_ne_nil (parts_ne_nil (depthAfter depth first) rest)
        have listing := inductionHypothesis (depthAfter depth first)
        rw [behind] at listing
        rw [parts_cons breaks behind]
        exact .cons (isWhole_cons_iff.mpr ⟨breaks, listing.head⟩) listing.closed listing.tail

/-- Texts that can be listed are the parts of their joined text. -/
theorem IsListing.parts_intercalate
    {depth : Int}
    {part : List Char}
    {others : List (List Char)}
    (listing : IsListing depth (part :: others)) :
    parts depth ([','].intercalate (part :: others)) = part :: others := by
  induction others generalizing depth part with
  | nil =>
      rw [List.intercalate_singleton]
      exact listing.head
  | cons next others inductionHypothesis =>
      rw [List.intercalate_cons_cons, List.append_assoc, List.singleton_append,
        parts_append_comma listing.head (listing.closed (by simp)),
        inductionHypothesis listing.tail]

/-! ## Blanks around parts -/

theorem depthAfter_of_isBlank (depth : Int) {blank : Char} (isBlank : Text.isBlank blank = true) :
    depthAfter depth blank = depth := by
  have notOpening : blank ≠ '(' := by rintro rfl; cases isBlank
  have notClosing : blank ≠ ')' := by rintro rfl; cases isBlank
  simp [depthAfter, notOpening, notClosing]

/-- Blanks leave the depth as it is. -/
theorem depthBehind_of_isBlank
    (depth : Int)
    {blanks : List Char}
    (areBlank : ∀ blank ∈ blanks, Text.isBlank blank = true) :
    depthBehind depth blanks = depth := by
  induction blanks with
  | nil => rfl
  | cons blank rest inductionHypothesis =>
      change depthBehind (depthAfter depth blank) rest = depth
      rw [depthAfter_of_isBlank depth (areBlank blank List.mem_cons_self)]
      exact inductionHypothesis fun other present =>
        areBlank other (List.mem_cons_of_mem blank present)

/-- The depth behind two texts is that of the second one behind the first. -/
theorem depthBehind_append (depth : Int) (left right : List Char) :
    depthBehind depth (left ++ right) = depthBehind (depthBehind depth left) right :=
  List.foldl_append

theorem depthBehind_trim (depth : Int) (text : List Char) :
    depthBehind depth (Text.trim text) = depthBehind depth text := by
  obtain ⟨before, after, split, blankBefore, blankAfter⟩ := Text.exists_eq_append_trim text
  conv => rhs; rw [split]
  rw [depthBehind_append, depthBehind_append, depthBehind_of_isBlank depth blankBefore,
    depthBehind_of_isBlank _ blankAfter]

/-- A whole text stays whole when it is trimmed. -/
theorem IsWhole.trim
    {depth : Int}
    {text : List Char}
    (whole : IsWhole depth text) : IsWhole depth (Text.trim text) := by
  obtain ⟨before, after, split, blankBefore, blankAfter⟩ := Text.exists_eq_append_trim text
  rw [split, isWhole_append_iff, isWhole_append_iff,
    depthBehind_of_isBlank depth blankBefore] at whole
  exact whole.1.2

/-- Trimmed parts are still a listing. -/
theorem IsListing.map_trim
    {depth : Int}
    {texts : List (List Char)}
    (listing : IsListing depth texts) : IsListing depth (texts.map Text.trim) := by
  induction texts generalizing depth with
  | nil => trivial
  | cons part others inductionHypothesis =>
      refine .cons listing.head.trim (fun more => ?_) (inductionHypothesis listing.tail)
      rw [depthBehind_trim]
      exact listing.closed fun empty => more (by simp [empty])

/-- Parts that are left of a listing are still a listing. -/
theorem IsListing.filter
    {texts : List (List Char)}
    (listing : IsListing 0 texts)
    (kept : List Char -> Bool) : IsListing 0 (texts.filter kept) := by
  induction texts with
  | nil => trivial
  | cons part others inductionHypothesis =>
      have rest := inductionHypothesis listing.tail
      rw [List.filter_cons]
      split
      · refine .cons listing.head (fun more => ?_) rest
        exact listing.closed fun empty => more (by simp [empty])
      · exact rest

/-! ## Splitting joined arguments -/

/-- Splitting gives a listing. -/
theorem isListing_splitChars (text : List Char) : IsListing 0 (splitChars text) :=
  (isListing_parts 0 text).map_trim.filter _

/-- Arguments that are split are trimmed. -/
theorem trim_of_mem_splitChars
    {text part : List Char}
    (present : part ∈ splitChars text) : Text.trim part = part := by
  obtain ⟨source, _, rfl⟩ := List.mem_map.mp (List.mem_filter.mp present).1
  exact Text.trim_trim source

/-- No argument that is split is empty. -/
theorem ne_nil_of_mem_splitChars
    {text part : List Char}
    (present : part ∈ splitChars text) : part ≠ [] := by
  simpa using (List.mem_filter.mp present).2

/-- Texts that can be listed, without blanks around them and not empty, are the
arguments that their joined text lists. -/
theorem IsListing.splitChars_intercalate
    {texts : List (List Char)}
    (listing : IsListing 0 texts)
    (trimmed : ∀ text ∈ texts, Text.trim text = text)
    (notEmpty : ∀ text ∈ texts, text ≠ []) :
    splitChars ([','].intercalate texts) = texts := by
  cases texts with
  | nil => rfl
  | cons part others =>
      rw [splitChars, listing.parts_intercalate, List.map_congr_left trimmed, List.map_id',
        List.filter_eq_self]
      intro text present
      simpa using notEmpty text present

/-- Arguments that are joined again are split the same. -/
theorem splitArguments_intercalate (raw : String) :
    splitArguments (",".intercalate (splitArguments raw)) = splitArguments raw := by
  have same := (isListing_splitChars raw.toList).splitChars_intercalate
    (fun _ => trim_of_mem_splitChars) (fun _ => ne_nil_of_mem_splitChars)
  unfold splitArguments
  rw [String.toList_intercalate, List.map_map]
  have identity : (String.toList ∘ String.ofList) = id := by
    funext text
    simp
  rw [identity, List.map_id]
  exact congrArg (List.map String.ofList) same

/-- Lists of arguments with the same joined text are equal. -/
theorem splitArguments_eq_of_intercalate_eq
    {left right : String}
    (equal : ",".intercalate (splitArguments left) = ",".intercalate (splitArguments right)) :
    splitArguments left = splitArguments right := by
  rw [← splitArguments_intercalate left, equal, splitArguments_intercalate]

theorem map_trimmed_splitArguments (raw : String) :
    (splitArguments raw).map Text.trimmed = splitArguments raw := by
  unfold splitArguments
  rw [List.map_map]
  apply List.map_congr_left
  intro part present
  simp [Text.trimmed, trim_of_mem_splitChars present]

end Call
end ShaderGraph
