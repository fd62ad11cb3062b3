import ShaderGraph.Graph.Reference
import ShaderGraph.Proofs.Text.Ranges
import ShaderGraph.Text.Lines
import ShaderGraph.Text.Trim

/-!
# Replaced references

A text and the text with its references replaced are equal up to the references:
there the dollar sign is gone, and the name goes on with the mark of a result.
This module describes the pair by a relation and follows it through what scanners
do with a text: taking characters from its start, passing over a run of them,
unifying line breaks and trimming.
-/

namespace ShaderGraph
namespace Reference

/-- A word that may be the name of a node. -/
structure IsNodeName (name : List Char) : Prop where
  stemmed : stem <+: name
  words : ∀ character ∈ name, Text.isWord character = true

/-- A text and what it becomes when its references are replaced. The name that is
referred to takes all word characters behind the dollar sign. -/
inductive Replaces : List Char -> List Char -> Prop
  | nil : Replaces [] []
  | keep
      (first : Char)
      {text changed : List Char}
      (rest : Replaces text changed) : Replaces (first :: text) (first :: changed)
  | refer
      {name text changed : List Char}
      (isName : IsNodeName name)
      (ends : text.head?.any Text.isWord = false)
      (rest : Replaces text changed) :
      Replaces ('$' :: (name ++ text)) (name ++ (resultMark ++ changed))

/-- The name of a node has two letters in front of its number. -/
theorem IsNodeName.exists_cons
    {name : List Char}
    (isName : IsNodeName name) : ∃ more, name = 's' :: 'h' :: more := by
  obtain ⟨more, rfl⟩ := isName.stemmed
  exact ⟨_, rfl⟩

/-- The mark of a result consists of characters of words. -/
theorem isWord_of_mem_resultMark : ∀ character ∈ resultMark, Text.isWord character = true :=
  List.all_eq_true.mp (by decide)

/-- What stands for a reference is made of word characters. -/
theorem IsNodeName.isWord_append
    {name : List Char}
    (isName : IsNodeName name) :
    ∀ character ∈ name ++ resultMark, Text.isWord character = true := by
  intro character present
  rcases List.mem_append.mp present with present | present
  · exact isName.words character present
  · exact isWord_of_mem_resultMark character present

/-- A character of a word is not one that no word has. -/
theorem ne_of_isWord
    {character other : Char}
    (word : Text.isWord character = true)
    (excluded : Text.isWord other = false) : character ≠ other := by
  rintro rfl
  rw [word] at excluded
  cases excluded

/-! ## The replacement -/

/-- Inside of a name the word characters are kept, and the mark stands behind them. -/
theorem replace_true (text : List Char) :
    replace true text =
      text.takeWhile Text.isWord ++ (resultMark ++ replace false (text.dropWhile Text.isWord)) := by
  induction text with
  | nil => simp [replace]
  | cons first rest hypothesis =>
      cases word : Text.isWord first with
      | true =>
          have noReference : (first == '$') = false :=
            beq_false_of_ne (ne_of_isWord word (by decide))
          simp [replace, word, noReference, hypothesis]
      | false =>
          by_cases refers : first == '$' && (nodeName? rest).isSome <;>
            simp [replace, word, refers]

/-- A reference starts with the name of a node. -/
theorem isNodeName_takeWhile
    {text : List Char}
    (named : (nodeName? text).isSome) : IsNodeName (text.takeWhile Text.isWord) := by
  rw [nodeName?] at named
  split at named
  case isTrue found =>
    rw [Bool.and_eq_true] at found
    exact ⟨List.isPrefixOf_iff_prefix.mp found.1, fun _ => List.all_eq_true.mp List.all_takeWhile _⟩
  case isFalse => cases named

/-- Replacing the references of a text relates it to the result. -/
theorem replaces_replace (text : List Char) : Replaces text (replace false text) := by
  match text with
  | [] => exact .nil
  | first :: rest =>
      by_cases refers : first == '$' && (nodeName? rest).isSome
      · rw [Bool.and_eq_true, beq_iff_eq] at refers
        obtain ⟨rfl, named⟩ := refers
        have ends : (rest.dropWhile Text.isWord).head?.any Text.isWord = false := by
          have solid := List.head?_dropWhile_not Text.isWord rest
          cases leads : (rest.dropWhile Text.isWord).head? with
          | none => rfl
          | some next =>
              rw [leads] at solid
              simpa using solid
        have shorter : (rest.dropWhile Text.isWord).length < rest.length + 1 :=
          Nat.lt_succ_of_le (List.dropWhile_suffix _).length_le
        have related :=
          Replaces.refer (isNodeName_takeWhile named) ends
            (replaces_replace (rest.dropWhile Text.isWord))
        rw [List.takeWhile_append_dropWhile] at related
        rw [replace]
        simpa [named, replace_true] using related
      · have related := Replaces.keep first (replaces_replace rest)
        rw [replace]
        simpa [refers] using related
termination_by text.length

namespace Replaces

variable {text changed : List Char}

/-! ## The start of a text -/

/-- A character that is no dollar sign is kept. -/
theorem of_cons
    {first : Char}
    (related : Replaces (first :: text) changed)
    (other : first ≠ '$') :
    ∃ behind, changed = first :: behind ∧ Replaces text behind := by
  cases related with
  | keep _ rest => exact ⟨_, rfl, rest⟩
  | refer => exact absurd rfl other

/-- The first character is kept, or it is the dollar sign of a reference. -/
theorem head?_cases (related : Replaces text changed) :
    changed.head? = text.head? ∨ text.head? = some '$' ∧ changed.head? = some 's' := by
  cases related with
  | nil => exact .inl rfl
  | keep => exact .inl rfl
  | refer isName =>
      obtain ⟨more, rfl⟩ := isName.exists_cons
      exact .inr ⟨rfl, rfl⟩

theorem isEmpty_eq (related : Replaces text changed) : changed.isEmpty = text.isEmpty := by
  cases related with
  | nil => rfl
  | keep => rfl
  | refer isName =>
      obtain ⟨more, rfl⟩ := isName.exists_cons
      rfl

/-- A kind of character that has neither the dollar sign nor the start of a name
stands at the start of both texts or of none. -/
theorem any_head?
    (related : Replaces text changed)
    {isKind : Char -> Bool}
    (same : isKind '$' = isKind 's') :
    changed.head?.any isKind = text.head?.any isKind := by
  rcases related.head?_cases with leads | ⟨leads, changes⟩
  · rw [leads]
  · rw [leads, changes]
    exact same.symm

/-- A first character of a kind that no reference starts with is kept. -/
theorem drop_one
    (related : Replaces text changed)
    {isKind : Char -> Bool}
    (noSign : isKind '$' = false)
    (leads : text.head?.any isKind = true) : Replaces (text.drop 1) (changed.drop 1) := by
  cases related with
  | nil => exact .nil
  | keep first related => exact related
  | refer =>
      rw [List.head?_cons, Option.any_some, noSign] at leads
      cases leads

/-- A character that is no sign of a reference is dropped from both texts. -/
theorem drop_one_if
    (related : Replaces text changed)
    (isKind : Char -> Bool)
    (noSign : isKind '$' = false)
    (noName : isKind 's' = false) :
    Replaces (if text.head?.any isKind then text.drop 1 else text)
      (if changed.head?.any isKind then changed.drop 1 else changed) := by
  rw [related.any_head? (noSign.trans noName.symm)]
  split
  case isTrue leads => exact related.drop_one noSign leads
  case isFalse => exact related

/-- What starts with a pattern free of dollar signs still does. -/
theorem of_append
    {before : List Char}
    (related : Replaces (before ++ text) changed)
    (free : '$' ∉ before) :
    ∃ behind, changed = before ++ behind ∧ Replaces text behind := by
  induction before generalizing changed with
  | nil => exact ⟨changed, rfl, related⟩
  | cons first rest hypothesis =>
      obtain ⟨middle, rfl, relatedRest⟩ := related.of_cons fun same => free (by simp [same])
      obtain ⟨behind, rfl, relatedBehind⟩ :=
        hypothesis relatedRest fun present => free (List.mem_cons_of_mem first present)
      exact ⟨behind, rfl, relatedBehind⟩

/-- A pattern that no reference could start with is at the start of both texts or
of none. -/
theorem isPrefixOf_eq
    (related : Replaces text changed)
    {pattern : List Char}
    (noSign : '$' ∉ pattern)
    (noName : 's' ∉ pattern) :
    pattern.isPrefixOf changed = pattern.isPrefixOf text := by
  induction pattern generalizing text changed with
  | nil => rw [List.isPrefixOf_nil_left, List.isPrefixOf_nil_left]
  | cons first rest hypothesis =>
      cases related with
      | nil => rfl
      | keep next related =>
          have rests := hypothesis related (fun present => noSign (List.mem_cons_of_mem _ present))
            fun present => noName (List.mem_cons_of_mem _ present)
          rw [List.isPrefixOf_cons_cons, List.isPrefixOf_cons_cons, rests]
      | refer isName =>
          obtain ⟨more, rfl⟩ := isName.exists_cons
          have sign : (first == '$') = false :=
            beq_false_of_ne fun same => noSign (by simp [same])
          have name : (first == 's') = false :=
            beq_false_of_ne fun same => noName (by simp [same])
          rw [List.cons_append, List.isPrefixOf_cons_cons, List.isPrefixOf_cons_cons, sign, name,
            Bool.false_and, Bool.false_and]

/-! ## Runs of characters -/

/-- Texts that are replaced are replaced side by side if no name goes on between them. -/
theorem append
    {after changedAfter : List Char}
    (related : Replaces text changed)
    (ends : after.head?.any Text.isWord = false)
    (relatedAfter : Replaces after changedAfter) :
    Replaces (text ++ after) (changed ++ changedAfter) := by
  induction related with
  | nil => exact relatedAfter
  | keep first _ hypothesis => exact .keep first hypothesis
  | @refer name text changed isName endsName _ hypothesis =>
      have endsBoth : (text ++ after).head?.any Text.isWord = false := by
        cases text with
        | nil => exact ends
        | cons first rest => exact endsName
      have joined := Replaces.refer isName endsBoth hypothesis
      simpa using joined

/-- A run that a reference interrupts is the same in both texts. -/
theorem dropWhile_of_excludes
    {isKind : Char -> Bool}
    (related : Replaces text changed)
    (noSign : isKind '$' = false)
    (stops : (text.dropWhile isKind).head? ≠ some '$' ∨ isKind 's' = false) :
    changed.takeWhile isKind = text.takeWhile isKind ∧
      Replaces (text.dropWhile isKind) (changed.dropWhile isKind) := by
  induction related with
  | nil => exact ⟨rfl, .nil⟩
  | keep first related hypothesis =>
      cases kind : isKind first with
      | true =>
          simp only [List.takeWhile_cons_of_pos kind, List.dropWhile_cons_of_pos kind] at stops ⊢
          exact ⟨congrArg _ (hypothesis stops).1, (hypothesis stops).2⟩
      | false =>
          have not : ¬isKind first = true := by simp [kind]
          rw [List.takeWhile_cons_of_neg not, List.takeWhile_cons_of_neg not,
            List.dropWhile_cons_of_neg not, List.dropWhile_cons_of_neg not]
          exact ⟨rfl, .keep first related⟩
  | refer isName ends related _ =>
      have not : ¬isKind '$' = true := by simp [noSign]
      have notName : isKind 's' = false := by
        rcases stops with stops | stops
        · exact absurd (by rw [List.dropWhile_cons_of_neg not]; rfl) stops
        · exact stops
      have whole := Replaces.refer isName ends related
      obtain ⟨more, rfl⟩ := isName.exists_cons
      have notName' : ¬isKind 's' = true := by simp [notName]
      rw [List.cons_append] at whole ⊢
      rw [List.takeWhile_cons_of_neg not, List.dropWhile_cons_of_neg not,
        List.cons_append, List.takeWhile_cons_of_neg notName', List.dropWhile_cons_of_neg notName']
      exact ⟨rfl, whole⟩

/-- A run that goes on over references is related to the run of the changed text. -/
theorem dropWhile_of_includes
    (isKind : Char -> Bool)
    (related : Replaces text changed)
    (sign : isKind '$' = true)
    (words : ∀ character, Text.isWord character = true -> isKind character = true) :
    Replaces (text.takeWhile isKind) (changed.takeWhile isKind) ∧
      Replaces (text.dropWhile isKind) (changed.dropWhile isKind) := by
  induction related with
  | nil => exact ⟨.nil, .nil⟩
  | keep first related hypothesis =>
      cases kind : isKind first with
      | true =>
          rw [List.takeWhile_cons_of_pos kind, List.takeWhile_cons_of_pos kind,
            List.dropWhile_cons_of_pos kind, List.dropWhile_cons_of_pos kind]
          exact ⟨.keep first hypothesis.1, hypothesis.2⟩
      | false =>
          have not : ¬isKind first = true := by simp [kind]
          rw [List.takeWhile_cons_of_neg not, List.takeWhile_cons_of_neg not,
            List.dropWhile_cons_of_neg not, List.dropWhile_cons_of_neg not]
          exact ⟨.nil, .keep first related⟩
  | @refer name text changed isName ends related hypothesis =>
      have named : ∀ character ∈ name, isKind character = true :=
        fun character present => words character (isName.words character present)
      have marked : ∀ character ∈ resultMark, isKind character = true :=
        fun character present => words character (isWord_of_mem_resultMark character present)
      have endsRun : (text.takeWhile isKind).head?.any Text.isWord = false := by
        cases text with
        | nil => rfl
        | cons first rest =>
            by_cases kind : isKind first = true
            · rw [List.takeWhile_cons_of_pos kind]
              exact ends
            · rw [List.takeWhile_cons_of_neg kind]
              rfl
      rw [List.takeWhile_cons_of_pos sign, List.dropWhile_cons_of_pos sign,
        List.takeWhile_append_of_pos named, List.dropWhile_append_of_pos named,
        List.takeWhile_append_of_pos named, List.dropWhile_append_of_pos named,
        List.takeWhile_append_of_pos marked, List.dropWhile_append_of_pos marked]
      exact ⟨.refer isName endsRun hypothesis.1, hypothesis.2⟩

/-! ## The characters of a text -/

/-- Replacing references makes a text no shorter. -/
theorem length_le (related : Replaces text changed) : text.length ≤ changed.length := by
  induction related with
  | nil => exact Nat.le_refl 0
  | keep _ _ hypothesis => simpa using hypothesis
  | refer _ _ _ hypothesis =>
      simp only [List.length_cons, List.length_append, resultMark, List.length_nil]
      omega

/-- The characters of the changed text are those of the text and of names. -/
theorem mem_or_isWord
    (related : Replaces text changed)
    {character : Char}
    (present : character ∈ changed) : character ∈ text ∨ Text.isWord character = true := by
  induction related with
  | nil => cases present
  | keep first _ hypothesis =>
      rcases List.mem_cons.mp present with rfl | present
      · exact .inl List.mem_cons_self
      · exact (hypothesis present).imp (List.mem_cons_of_mem first) id
  | refer isName _ _ hypothesis =>
      rw [← List.append_assoc] at present
      rcases List.mem_append.mp present with present | present
      · exact .inr (isName.isWord_append character present)
      · refine (hypothesis present).imp (fun present => ?_) id
        exact List.mem_cons_of_mem _ (List.mem_append_right _ present)

/-- All characters but the dollar sign are found again. -/
theorem mem_of_mem
    (related : Replaces text changed)
    {character : Char}
    (present : character ∈ text)
    (other : character ≠ '$') : character ∈ changed := by
  induction related with
  | nil => cases present
  | keep first _ hypothesis =>
      rcases List.mem_cons.mp present with rfl | present
      · exact List.mem_cons_self
      · exact List.mem_cons_of_mem _ (hypothesis present)
  | refer _ _ _ hypothesis =>
      rcases List.mem_cons.mp present with same | present
      · exact absurd same other
      · rcases List.mem_append.mp present with present | present
        · exact List.mem_append_left _ present
        · exact List.mem_append_right _ (List.mem_append_right _ (hypothesis present))

/-- A character that belongs to no name is in both texts or in none. -/
theorem contains_eq
    (related : Replaces text changed)
    {character : Char}
    (excluded : Text.isWord character = false)
    (other : character ≠ '$') : changed.contains character = text.contains character := by
  rw [Bool.eq_iff_iff, List.contains_iff_mem, List.contains_iff_mem]
  refine ⟨fun present => ?_, fun present => related.mem_of_mem present other⟩
  rcases related.mem_or_isWord present with present | word
  · exact present
  · rw [excluded] at word
    cases word

/-- Replacing references keeps a class of characters that has none of theirs. -/
theorem all_eq_of_excludes
    {isKind : Char -> Bool}
    (related : Replaces text changed)
    (noSign : isKind '$' = false)
    (noName : isKind 's' = false) : changed.all isKind = text.all isKind := by
  induction related with
  | nil => rfl
  | keep first _ hypothesis => rw [List.all_cons, List.all_cons, hypothesis]
  | refer isName _ _ _ =>
      obtain ⟨more, rfl⟩ := isName.exists_cons
      rw [List.cons_append, List.all_cons, List.all_cons, noSign, noName, Bool.false_and,
        Bool.false_and]

/-- A text without references stays as it is. -/
theorem eq_of_free
    (related : Replaces text changed)
    (free : '$' ∉ text) : changed = text := by
  induction related with
  | nil => rfl
  | keep first _ hypothesis =>
      rw [hypothesis fun present => free (List.mem_cons_of_mem first present)]
  | refer => exact absurd List.mem_cons_self free

end Replaces

/-! ## Line breaks and blanks -/

theorem unifyLineBreaks_cons_of_ne
    {first : Char}
    (other : first ≠ '\r')
    (rest : List Char) :
    Text.unifyLineBreaks (first :: rest) = first :: Text.unifyLineBreaks rest := by
  rw [Text.unifyLineBreaks]
  · rw [if_neg (by simpa using other)]
  · rintro _ rfl
    exact absurd rfl other

/-- A carriage return before a line feed goes, any other one becomes a line feed. -/
theorem unifyLineBreaks_return (rest : List Char) :
    Text.unifyLineBreaks ('\r' :: rest) =
      if rest.head?.any (· == '\n') then Text.unifyLineBreaks rest
      else '\n' :: Text.unifyLineBreaks rest := by
  cases rest with
  | nil => rfl
  | cons next behind =>
      by_cases same : next = '\n'
      · subst same
        simp [Text.unifyLineBreaks]
      · rw [Text.unifyLineBreaks]
        · simp [same]
        · rintro _ - ⟨⟩
          exact same rfl

/-- Line breaks are unified apart where no carriage return comes before. -/
theorem unifyLineBreaks_append
    {before : List Char}
    (free : '\r' ∉ before)
    (text : List Char) :
    Text.unifyLineBreaks (before ++ text) = before ++ Text.unifyLineBreaks text := by
  induction before with
  | nil => rfl
  | cons first rest hypothesis =>
      rw [List.cons_append, unifyLineBreaks_cons_of_ne fun same => free (by simp [same]),
        hypothesis fun present => free (List.mem_cons_of_mem first present), List.cons_append]

/-- A text without carriage returns keeps its line breaks. -/
theorem unifyLineBreaks_eq_self
    {text : List Char}
    (free : '\r' ∉ text) : Text.unifyLineBreaks text = text := by
  have unified := unifyLineBreaks_append free []
  rwa [List.append_nil, Text.unifyLineBreaks, List.append_nil] at unified

theorem any_head?_unifyLineBreaks (text : List Char) :
    (Text.unifyLineBreaks text).head?.any Text.isWord = text.head?.any Text.isWord := by
  induction text with
  | nil => rfl
  | cons first rest hypothesis =>
      by_cases other : first = '\r'
      · subst other
        have noWord : Text.isWord '\n' = Text.isWord '\r' := by decide
        rw [unifyLineBreaks_return]
        split
        case isTrue broken =>
          rw [hypothesis]
          cases rest with
          | nil => rfl
          | cons next behind =>
              have same : next = '\n' := by simpa using broken
              rw [same]
              exact noWord
        case isFalse => exact noWord
      · rw [unifyLineBreaks_cons_of_ne other]
        rfl

/-- Unifying line breaks commutes with replacing references. -/
theorem Replaces.unifyLineBreaks
    {text changed : List Char}
    (related : Replaces text changed) :
    Replaces (Text.unifyLineBreaks text) (Text.unifyLineBreaks changed) := by
  induction related with
  | nil => exact .nil
  | keep first rest hypothesis =>
      by_cases other : first = '\r'
      · subst other
        rw [unifyLineBreaks_return, unifyLineBreaks_return, rest.any_head? (by decide)]
        split
        · exact hypothesis
        · exact .keep _ hypothesis
      · rw [unifyLineBreaks_cons_of_ne other, unifyLineBreaks_cons_of_ne other]
        exact .keep first hypothesis
  | @refer name text changed isName ends rest hypothesis =>
      have free : '\r' ∉ name ++ resultMark := fun present =>
        ne_of_isWord (isName.isWord_append _ present) (by decide) rfl
      have freeName : '\r' ∉ name := fun present => free (List.mem_append_left _ present)
      rw [unifyLineBreaks_cons_of_ne (by decide), unifyLineBreaks_append freeName,
        ← List.append_assoc, unifyLineBreaks_append free, List.append_assoc]
      exact .refer isName (by rw [any_head?_unifyLineBreaks, ends]) hypothesis

/-- A list of characters without the blanks at its end. -/
def trimEnd (text : List Char) : List Char :=
  (Text.trimStart text.reverse).reverse

theorem trimEnd_cons (first : Char) (rest : List Char) :
    trimEnd (first :: rest) =
      if (trimEnd rest).isEmpty && Text.isBlank first then [] else first :: trimEnd rest := by
  simp only [trimEnd, Text.trimStart, List.reverse_cons, List.dropWhile_append,
    List.isEmpty_reverse]
  cases found : (rest.reverse.dropWhile Text.isBlank).isEmpty with
  | true =>
      rw [List.isEmpty_iff] at found
      cases blank : Text.isBlank first <;> simp [found, blank]
  | false => simp

/-- Trimming stops at a solid character. -/
theorem trimEnd_append_of_solid
    {last : Char}
    (solid : Text.isBlank last = false)
    (before text : List Char) :
    trimEnd (before ++ last :: text) = before ++ last :: trimEnd text := by
  induction before with
  | nil => rw [List.nil_append, trimEnd_cons, solid, Bool.and_false]; rfl
  | cons first rest hypothesis =>
      have found : (rest ++ last :: trimEnd text).isEmpty = false := by simp
      rw [List.cons_append, trimEnd_cons, hypothesis, found]
      rfl

/-- The blanks beyond the smallest code points. -/
def wideBlanks : List Nat := [
  0x85, 0xA0, 0x1680, 0x2000, 0x2001, 0x2002, 0x2003, 0x2004, 0x2005, 0x2006, 0x2007, 0x2008,
  0x2009, 0x200A, 0x2028, 0x2029, 0x202F, 0x205F, 0x3000]

/-- The tables of characters of words list no blank. -/
theorem wideBlanks_not_in_words
    {code : Nat}
    (blank : code ∈ wideBlanks) :
    (Text.letters.contains code || Text.decimalDigits.contains code ||
      Text.letterNumbers.contains code || Text.otherNumbers.contains code) = false := by
  let blanks : Text.Ranges := wideBlanks.map fun code => (code, code)
  have listed : blanks.contains code = true :=
    List.any_eq_true.mpr ⟨(code, code), List.mem_map_of_mem blank, by simp⟩
  have outside {table : Text.Ranges}
      (ascends : table.Ascends)
      (isApart : Text.Ranges.apart 1000 blanks table = true) : table.contains code = false :=
    Bool.eq_false_iff.mpr (Text.Ranges.not_contains_of_apart
      (List.isChain_iff_pairwise.mp (by decide)) ascends isApart listed)
  rw [outside Text.letters_ascends (by decide +kernel),
    outside Text.decimalDigits_ascends (by decide +kernel),
    outside Text.letterNumbers_ascends (by decide +kernel),
    outside Text.otherNumbers_ascends (by decide +kernel)]
  rfl

/-- The characters of a name are visible ones of the basic range. -/
theorem toNat_of_isNameRest
    {character : Char}
    (part : Text.isNameRest character = true) :
    0x21 <= character.toNat ∧ character.toNat < 0x80 := by
  delta Text.isNameRest Char.isAlphanum Char.isAlpha Char.isUpper Char.isLower Char.isDigit at part
  simp only [Bool.or_eq_true, Bool.and_eq_true, decide_eq_true_eq, beq_iff_eq,
    UInt32.le_iff_toNat_le, ge_iff_le] at part
  rcases part with ((⟨low, high⟩ | ⟨low, high⟩) | ⟨low, high⟩) | rfl
  · exact ⟨Nat.le_trans (by decide) low, Nat.lt_of_le_of_lt high (by decide)⟩
  · exact ⟨Nat.le_trans (by decide) low, Nat.lt_of_le_of_lt high (by decide)⟩
  · exact ⟨Nat.le_trans (by decide) low, Nat.lt_of_le_of_lt high (by decide)⟩
  · decide

/-- A blank is below the visible characters or a wide one. -/
theorem toNat_of_isBlank
    {character : Char}
    (blank : Text.isBlank character = true) :
    character.toNat < 0x21 ∨ character.toNat ∈ wideBlanks := by
  simp only [Text.isBlank, Bool.or_eq_true, Bool.and_eq_true, decide_eq_true_eq,
    beq_iff_eq, or_assoc] at blank
  rcases blank with narrow | narrow | same | same | same | ⟨low, high⟩ | same | same | same |
    same | same
  case inr.inr.inr.inr.inr.inl =>
    have consecutive : ∀ offset ≤ 10, 0x2000 + offset ∈ wideBlanks := by decide
    obtain ⟨offset, same⟩ := Nat.exists_eq_add_of_le low
    exact .inr (same ▸ consecutive offset (by omega))
  · exact .inl (by omega)
  · exact .inl (by omega)
  all_goals exact .inr (same ▸ by decide)

/-- A character of a word is no blank. -/
theorem isBlank_of_isWord
    {character : Char}
    (word : Text.isWord character = true) : Text.isBlank character = false := by
  rw [Bool.eq_false_iff]
  intro blank
  rw [Text.isWord, Bool.or_eq_true, Bool.and_eq_true, decide_eq_true_eq] at word
  rcases word with part | ⟨wide, word⟩
  · obtain ⟨low, high⟩ := toNat_of_isNameRest part
    rcases toNat_of_isBlank blank with narrow | present
    · omega
    · have least : ∀ code ∈ wideBlanks, 0x80 <= code := by decide
      exact absurd (least _ present) (by omega)
  · rcases toNat_of_isBlank blank with narrow | present
    · omega
    · rw [wideBlanks_not_in_words present] at word
      cases word

theorem any_head?_trimEnd
    {text : List Char}
    (ends : text.head?.any Text.isWord = false) :
    (trimEnd text).head?.any Text.isWord = false := by
  cases text with
  | nil => rfl
  | cons first rest =>
      rw [trimEnd_cons]
      split
      · rfl
      · exact ends

/-- Trimming the end commutes with replacing references. -/
theorem Replaces.trimEnd
    {text changed : List Char}
    (related : Replaces text changed) :
    Replaces (trimEnd text) (trimEnd changed) := by
  induction related with
  | nil => exact .nil
  | @keep first text changed _ hypothesis =>
      rw [trimEnd_cons, trimEnd_cons, hypothesis.isEmpty_eq]
      split
      · exact .nil
      · exact .keep first hypothesis
  | @refer name text changed isName ends rest hypothesis =>
      obtain ⟨before, last, rfl⟩ : ∃ before last, name = before ++ [last] := by
        rcases List.eq_nil_or_concat name with rfl | ⟨before, last, rfl⟩
        · exact absurd isName.stemmed (by decide)
        · exact ⟨before, last, by simp⟩
      have solid := isBlank_of_isWord (isName.words last (by simp))
      have trimmed : Reference.trimEnd ('$' :: (before ++ [last] ++ text)) =
          '$' :: (before ++ [last] ++ Reference.trimEnd text) := by
        simpa using trimEnd_append_of_solid solid ('$' :: before) text
      have trimmedChanged : Reference.trimEnd (before ++ [last] ++ (resultMark ++ changed)) =
          before ++ [last] ++ (resultMark ++ Reference.trimEnd changed) := by
        have solidMark : Text.isBlank 't' = false := by decide
        simpa [resultMark] using
          trimEnd_append_of_solid solidMark
            (before ++ [last, '_', 'r', 'e', 's', 'u', 'l']) changed
      rw [trimmed, trimmedChanged]
      exact .refer isName (any_head?_trimEnd ends) hypothesis

/-- Trimming commutes with replacing references. -/
theorem Replaces.trim
    {text changed : List Char}
    (related : Replaces text changed) :
    Replaces (Text.trim text) (Text.trim changed) :=
  (related.dropWhile_of_excludes (by decide) (.inr (by decide))).2.trimEnd

end Reference
end ShaderGraph
