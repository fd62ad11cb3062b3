import ShaderGraph.Text.Character

/-!
# Texts without the blanks around them

Trimming drops the blanks at both ends of a text and keeps everything between
the first and the last character that is no blank.
-/

namespace ShaderGraph
namespace Text

/-- A list of characters without the blanks at its start. -/
def trimStart (text : List Char) : List Char :=
  text.dropWhile isBlank

/-- A list of characters without the blanks at both ends. -/
def trim (text : List Char) : List Char :=
  (trimStart (trimStart text).reverse).reverse

/-- A text without the blanks at both ends. -/
def trimmed (text : String) : String :=
  String.ofList (trim text.toList)

theorem isBlank_of_mem_takeWhile
    {text : List Char}
    {blank : Char}
    (present : blank ∈ text.takeWhile isBlank) : isBlank blank = true :=
  List.all_eq_true.mp List.all_takeWhile blank present

theorem trimStart_eq_self
    {text : List Char}
    (solid : ∀ first, text.head? = some first -> isBlank first = false) :
    trimStart text = text := by
  cases text with
  | nil => rfl
  | cons first rest => simp [trimStart, solid first rfl]

theorem isBlank_head?_trimStart
    {text : List Char}
    {first : Char}
    (leads : (trimStart text).head? = some first) : isBlank first = false := by
  have solid := List.head?_dropWhile_not isBlank text
  rw [← trimStart, leads] at solid
  simpa using solid

/-- A text without blanks at its start is its trimmed text before blanks. -/
theorem trim_append_takeWhile (text : List Char) :
    trim text ++ ((trimStart text).reverse.takeWhile isBlank).reverse = trimStart text := by
  rw [trim, trimStart, ← List.reverse_append, List.takeWhile_append_dropWhile,
    List.reverse_reverse]

/-- A text is its trimmed text between blanks. -/
theorem exists_eq_append_trim (text : List Char) :
    ∃ before after, text = before ++ trim text ++ after ∧
      (∀ blank ∈ before, isBlank blank = true) ∧ ∀ blank ∈ after, isBlank blank = true := by
  refine ⟨text.takeWhile isBlank, ((trimStart text).reverse.takeWhile isBlank).reverse,
    ?_, fun blank => isBlank_of_mem_takeWhile, fun blank present => ?_⟩
  · rw [List.append_assoc, trim_append_takeWhile, trimStart, List.takeWhile_append_dropWhile]
  · exact isBlank_of_mem_takeWhile (List.mem_reverse.mp present)

theorem isBlank_head?_trim
    {text : List Char}
    {first : Char}
    (leads : (trim text).head? = some first) : isBlank first = false := by
  have sameHead : (trimStart text).head? = some first := by
    rw [← trim_append_takeWhile, List.head?_append, leads]
    rfl
  exact isBlank_head?_trimStart sameHead

theorem isBlank_getLast?_trim
    {text : List Char}
    {last : Char}
    (ends : (trim text).getLast? = some last) : isBlank last = false := by
  rw [trim, List.getLast?_reverse] at ends
  exact isBlank_head?_trimStart ends

theorem trimStart_append
    {before text : List Char}
    (blanks : ∀ blank ∈ before, isBlank blank = true) :
    trimStart (before ++ text) = trimStart text :=
  List.dropWhile_append_of_pos blanks

/-- A text that neither starts nor ends with a blank is left between blanks. -/
theorem trim_append_append
    {before text after : List Char}
    (beforeBlank : ∀ blank ∈ before, isBlank blank = true)
    (afterBlank : ∀ blank ∈ after, isBlank blank = true)
    (starts : ∀ first, text.head? = some first -> isBlank first = false)
    (ends : ∀ last, text.getLast? = some last -> isBlank last = false) :
    trim (before ++ text ++ after) = text := by
  rw [trim, List.append_assoc, trimStart_append beforeBlank]
  cases text with
  | nil =>
      rw [List.nil_append, ← List.append_nil after, trimStart_append afterBlank]
      rfl
  | cons first rest =>
      have solid : trimStart (first :: rest ++ after) = first :: rest ++ after :=
        trimStart_eq_self fun _ leads => starts _ leads
      have solidEnd : trimStart (first :: rest).reverse = (first :: rest).reverse :=
        trimStart_eq_self fun last leads => ends last (List.head?_reverse ▸ leads)
      rw [solid, List.reverse_append,
        trimStart_append fun blank present => afterBlank blank (List.mem_reverse.mp present),
        solidEnd, List.reverse_reverse]

/-- Trimming a trimmed text changes nothing. -/
theorem trim_trim (text : List Char) : trim (trim text) = trim text := by
  have alone : trim ([] ++ trim text ++ []) = trim text :=
    trim_append_append (by simp) (by simp) (fun _ => isBlank_head?_trim)
      fun _ => isBlank_getLast?_trim
  rwa [List.nil_append, List.append_nil] at alone

end Text
end ShaderGraph
