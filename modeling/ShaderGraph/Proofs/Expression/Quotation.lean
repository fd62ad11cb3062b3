import ShaderGraph.Expression.Field
import ShaderGraph.Proofs.Graph.Replacement

/-!
# Quoted texts with replaced references

Inside of quotes a dollar sign and the characters of a name have no meaning, so a
scanner passes over them one by one. Scanners that split a stretch from the start
of a text therefore find related stretches before and after references are
replaced, or none in either text.
-/

namespace ShaderGraph

open Reference

/-- Two splits of texts of which the parts are related. -/
def ReplacesParts (parts changedParts : List Char × List Char) : Prop :=
  Replaces parts.1 changedParts.1 ∧ Replaces parts.2 changedParts.2

/-- Both texts are split into related parts, or none is split. -/
abbrev ReplacesSplit := Option.Rel ReplacesParts

/-- A dollar sign or a character of a word, which have no meaning inside of quotes. -/
def IsPlain (character : Char) : Prop :=
  character = '$' ∨ Text.isWord character = true

/-- The quotes of a text. -/
def IsQuote (character : Char) : Prop :=
  character = '\'' ∨ character = '"'

/-- A plain character is no sign and none outside of words. -/
theorem IsPlain.ne
    {character other : Char}
    (plain : IsPlain character)
    (excluded : other ≠ '$')
    (noWord : Text.isWord other = false) : character ≠ other := by
  rcases plain with rfl | word
  · exact excluded.symm
  · exact ne_of_isWord word noWord

theorem IsQuote.isWord_eq_false
    {quote : Char}
    (isQuote : IsQuote quote) : Text.isWord quote = false := by
  rcases isQuote with rfl | rfl <;> decide

theorem IsQuote.ne_sign
    {quote : Char}
    (isQuote : IsQuote quote) : quote ≠ '$' := by
  rcases isQuote with rfl | rfl <;> decide

namespace Reference.IsNodeName

variable {name : List Char}

/-- The characters of a reference are plain. -/
theorem isPlain_cons
    (isName : IsNodeName name) : ∀ character ∈ '$' :: name, IsPlain character := by
  intro character present
  rcases List.mem_cons.mp present with rfl | present
  · exact .inl rfl
  · exact .inr (isName.words character present)

/-- The characters of a result are plain. -/
theorem isPlain_append
    (isName : IsNodeName name) : ∀ character ∈ name ++ resultMark, IsPlain character :=
  fun character present => .inr (isName.isWord_append character present)

end Reference.IsNodeName

namespace Field

/-- Put characters in front of a stretch that was found behind them. -/
def keepAll (before : List Char) (found : Option (List Char × List Char)) :
    Option (List Char × List Char) :=
  found.map fun (stretch, after) => (before ++ stretch, after)

theorem keepAll_nil (found : Option (List Char × List Char)) : keepAll [] found = found := by
  cases found <;> rfl

theorem keepAll_singleton
    (first : Char)
    (found : Option (List Char × List Char)) : keepAll [first] found = keep first found := rfl

theorem keep_keepAll
    (first : Char)
    (before : List Char)
    (found : Option (List Char × List Char)) :
    keep first (keepAll before found) = keepAll (first :: before) found := by
  cases found <;> rfl

theorem keepAll_keepAll
    (before between : List Char)
    (found : Option (List Char × List Char)) :
    keepAll before (keepAll between found) = keepAll (before ++ between) found := by
  cases found with
  | none => rfl
  | some parts => simp [keepAll]

/-- What is kept in front of a stretch stands at its start. -/
theorem keepAll_eq_some
    {before stretch after : List Char}
    {found : Option (List Char × List Char)}
    (kept : keepAll before found = some (stretch, after)) :
    ∃ behind, found = some (behind, after) ∧ stretch = before ++ behind := by
  cases found with
  | none => cases kept
  | some parts =>
      cases kept
      exact ⟨parts.1, rfl, rfl⟩

theorem keep_eq_some
    {first : Char}
    {found : Option (List Char × List Char)}
    {stretch after : List Char}
    (kept : keep first found = some (stretch, after)) :
    ∃ behind, found = some (behind, after) ∧ stretch = first :: behind := by
  rw [← keepAll_singleton] at kept
  exact keepAll_eq_some kept

end Field

namespace ReplacesSplit

open ShaderGraph.Field

variable {found changed : Option (List Char × List Char)}

/-- Related splits stay related behind a character that both keep. -/
theorem keep
    (first : Char)
    (related : ReplacesSplit found changed) :
    ReplacesSplit (Field.keep first found) (Field.keep first changed) := by
  cases related with
  | none => exact .none
  | some parts => exact .some ⟨.keep first parts.1, parts.2⟩

/-- Stretches that start with a text and its change. The one found behind them does
not go on with a word. -/
theorem keepAll
    {before changedBefore : List Char}
    (starts : Replaces before changedBefore)
    (ends : ∀ stretch after, found = some (stretch, after) ->
      stretch.head?.any Text.isWord = false)
    (related : ReplacesSplit found changed) :
    ReplacesSplit (Field.keepAll before found) (Field.keepAll changedBefore changed) := by
  cases related with
  | none => exact .none
  | some parts => exact .some ⟨starts.append (ends _ _ rfl) parts.1, parts.2⟩

/-- Stretches that start with a reference and with what stands for it. -/
theorem refer
    {name : List Char}
    (isName : IsNodeName name)
    (ends : ∀ stretch after, found = some (stretch, after) ->
      stretch.head?.any Text.isWord = false)
    (related : ReplacesSplit found changed) :
    ReplacesSplit (Field.keepAll ('$' :: name) found)
      (Field.keepAll (name ++ resultMark) changed) := by
  have starts : Replaces ('$' :: name) (name ++ resultMark) := by
    have single : Replaces ('$' :: (name ++ [])) (name ++ (resultMark ++ [])) :=
      .refer isName rfl .nil
    simpa using single
  exact related.keepAll starts ends

end ReplacesSplit

/-- A stretch goes on with a name only if its text does. -/
theorem any_head?_of_prefix
    {stretch text : List Char}
    (starts : stretch <+: text)
    (ends : text.head?.any Text.isWord = false) : stretch.head?.any Text.isWord = false := by
  obtain ⟨after, rfl⟩ := starts
  cases stretch with
  | nil => rfl
  | cons first rest => exact ends

namespace Token

/-! ## The body of a text -/

section Body

variable {quote : Char} {more text : List Char} {breaks : Bool}

/-- An escaped character does not end a body. -/
theorem bodyUntil_escape (closing : List Char) (breaks : Bool) (next : Char) (rest : List Char) :
    bodyUntil closing breaks ('\\' :: next :: rest) =
      Field.keepAll ['\\', next] (bodyUntil closing breaks rest) := by
  rw [bodyUntil]
  rfl

theorem bodyUntil_cons
    (closing : List Char)
    (breaks : Bool)
    {first : Char}
    (other : first ≠ '\\')
    (rest : List Char) :
    bodyUntil closing breaks (first :: rest) =
      if closing.isPrefixOf (first :: rest) then some ([], rest.drop (closing.length - 1))
      else if first == '\n' && !breaks then none
      else Field.keep first (bodyUntil closing breaks rest) := by
  rw [bodyUntil]
  · rfl
  · rintro _ _ rfl
    exact absurd rfl other

/-- Characters without a meaning belong to the body. -/
theorem bodyUntil_append
    (isQuote : IsQuote quote)
    {before : List Char}
    (plain : ∀ character ∈ before, IsPlain character)
    (text : List Char) :
    bodyUntil (quote :: more) breaks (before ++ text) =
      Field.keepAll before (bodyUntil (quote :: more) breaks text) := by
  induction before with
  | nil => rw [Field.keepAll_nil]; rfl
  | cons first rest hypothesis =>
      have isPlain := plain first List.mem_cons_self
      have noClosing : (quote == first) = false :=
        beq_false_of_ne (isPlain.ne isQuote.ne_sign isQuote.isWord_eq_false).symm
      have noBreak : (first == '\n') = false :=
        beq_false_of_ne (isPlain.ne (by decide) (by decide))
      rw [List.cons_append, bodyUntil_cons _ _ (isPlain.ne (by decide) (by decide)),
        List.isPrefixOf_cons_cons, noClosing, noBreak, ← Field.keep_keepAll,
        ← hypothesis fun character present => plain character (List.mem_cons_of_mem _ present)]
      rfl

/-- So do characters without a meaning behind a backslash. -/
theorem bodyUntil_escape_append
    (isQuote : IsQuote quote)
    (first : Char)
    {before : List Char}
    (plain : ∀ character ∈ before, IsPlain character)
    (text : List Char) :
    bodyUntil (quote :: more) breaks ('\\' :: first :: (before ++ text)) =
      Field.keep '\\'
        (Field.keepAll (first :: before) (bodyUntil (quote :: more) breaks text)) := by
  rw [bodyUntil_escape, bodyUntil_append isQuote plain, Field.keepAll_keepAll, Field.keep_keepAll]
  rfl

/-- A body is the start of its text. -/
theorem prefix_of_bodyUntil
    {closing body after : List Char}
    (found : bodyUntil closing breaks text = some (body, after)) : body <+: text := by
  fun_induction bodyUntil closing breaks text generalizing body after with
  | case1 => cases found
  | case2 next rest hypothesis =>
      have kept : Field.keepAll ['\\', next] (bodyUntil closing breaks rest) =
          some (body, after) := found
      obtain ⟨inner, behind, rfl⟩ := Field.keepAll_eq_some kept
      exact (List.prefix_append_right_inj ['\\', next]).mpr (hypothesis behind)
  | case3 =>
      cases found
      exact List.nil_prefix
  | case4 => cases found
  | case5 first rest _ _ _ hypothesis =>
      obtain ⟨inner, behind, rfl⟩ := Field.keep_eq_some found
      exact (List.prefix_append_right_inj [first]).mpr (hypothesis behind)

/-- Quotes that close a text close it before and after references are replaced, and
what stands between and behind the quotes is related. -/
theorem bodyUntil_replaces
    (isQuote : IsQuote quote)
    (allQuotes : ∀ character ∈ more, character = quote)
    {text changed : List Char}
    (related : Replaces text changed) :
    ReplacesSplit (bodyUntil (quote :: more) breaks text)
      (bodyUntil (quote :: more) breaks changed) := by
  have noSign : '$' ∉ quote :: more := by
    intro present
    have same : '$' = quote := (List.mem_cons.mp present).elim id (allQuotes '$')
    exact isQuote.ne_sign same.symm
  have noName : 's' ∉ quote :: more := by
    intro present
    have same : 's' = quote := (List.mem_cons.mp present).elim id (allQuotes 's')
    exact absurd isQuote.isWord_eq_false (by rw [← same]; decide)
  match related with
  | .nil => rw [bodyUntil]; exact .none
  | .refer isName ends rest =>
      have whole := bodyUntil_replaces isQuote allQuotes rest
      rw [← List.cons_append, bodyUntil_append isQuote isName.isPlain_cons, ← List.append_assoc,
        bodyUntil_append isQuote isName.isPlain_append]
      exact whole.refer isName fun _ _ found => any_head?_of_prefix (prefix_of_bodyUntil found) ends
  | .keep first related =>
      by_cases escapes : first = '\\'
      · subst escapes
        cases related with
        | nil =>
            have noClosing : (quote == '\\') = false := by
              rcases isQuote with rfl | rfl <;> decide
            have none : bodyUntil (quote :: more) breaks ['\\'] = none := by
              rw [bodyUntil, List.isPrefixOf_cons_cons, noClosing]
              · rfl
              · intro _ _ _ same
                cases same
            rw [none]
            exact .none
        | keep next related =>
            have whole := bodyUntil_replaces isQuote allQuotes related
            simp only [bodyUntil_escape, ← Field.keep_keepAll, Field.keepAll_nil]
            exact (whole.keep next).keep '\\'
        | refer isName ends related =>
            have whole := (bodyUntil_replaces isQuote allQuotes related).refer isName
              fun _ _ found => any_head?_of_prefix (prefix_of_bodyUntil found) ends
            have named := fun character present => isName.isPlain_cons character
              (List.mem_cons_of_mem _ present)
            rw [bodyUntil_escape_append isQuote '$' named, ← List.append_assoc]
            obtain ⟨tail, rfl⟩ := isName.exists_cons
            have marked : ∀ character ∈ 'h' :: tail ++ resultMark, IsPlain character :=
              fun character present =>
                isName.isPlain_append character (List.mem_cons_of_mem 's' present)
            rw [List.cons_append, List.cons_append, bodyUntil_escape_append isQuote 's' marked]
            exact whole.keep '\\'
      · have whole := bodyUntil_replaces isQuote allQuotes related
        rw [bodyUntil_cons _ _ escapes, bodyUntil_cons _ _ escapes,
          (Replaces.keep first related).isPrefixOf_eq noSign noName]
        split
        case isTrue closes =>
          obtain ⟨after, same⟩ := List.isPrefixOf_iff_prefix.mp closes
          obtain ⟨rfl, rfl⟩ := List.cons.inj same
          obtain ⟨behind, rfl, relatedAfter⟩ :=
            related.of_append fun present => noSign (List.mem_cons_of_mem _ present)
          simp only [List.append_eq, List.length_cons, Nat.add_sub_cancel, List.drop_left']
          exact .some ⟨.nil, relatedAfter⟩
        case isFalse =>
          split
          · exact .none
          · exact whole.keep first
termination_by text.length
decreasing_by all_goals simp only [List.length_cons, List.length_append]; omega

/-- A quoted text is found before and after references are replaced. -/
theorem body?_replaces
    (isQuote : IsQuote quote)
    {text changed : List Char}
    (related : Replaces text changed) :
    ReplacesSplit (body? (quote :: text)) (body? (quote :: changed)) := by
  have noSign : '$' ∉ [quote, quote] := by
    rcases isQuote with rfl | rfl <;> decide
  have noName : 's' ∉ [quote, quote] := by
    rcases isQuote with rfl | rfl <;> decide
  rw [body?, body?, related.isPrefixOf_eq noSign noName]
  split
  case isTrue opens =>
    obtain ⟨rest, rfl⟩ := List.isPrefixOf_iff_prefix.mp opens
    obtain ⟨behind, rfl, relatedBehind⟩ := related.of_append noSign
    exact bodyUntil_replaces isQuote (by simp) relatedBehind
  case isFalse => exact bodyUntil_replaces isQuote (by simp) related

end Body

/-! ## Escape sequences -/

/-- Characters without a meaning start no escape sequence. -/
theorem escapesComplete_append
    (bytes : Bool)
    {before : List Char}
    (plain : ∀ character ∈ before, IsPlain character)
    (text : List Char) :
    escapesComplete bytes .outside (before ++ text) = escapesComplete bytes .outside text := by
  induction before with
  | nil => rfl
  | cons first rest hypothesis =>
      have noEscape : (first == '\\') = false :=
        beq_false_of_ne ((plain first List.mem_cons_self).ne (by decide) (by decide))
      rw [List.cons_append, escapesComplete, noEscape]
      exact hypothesis fun character present => plain character (List.mem_cons_of_mem _ present)

/-- Nor do they behind a backslash, unless the first one does. -/
theorem escapesComplete_started_append
    (bytes : Bool)
    (first : Char)
    (starts : first ∉ ['x', 'u', 'U', 'N'])
    {before : List Char}
    (plain : ∀ character ∈ before, IsPlain character)
    (text : List Char) :
    escapesComplete bytes .started (first :: (before ++ text)) =
      escapesComplete bytes .outside text := by
  simp only [List.mem_cons, List.not_mem_nil, or_false, not_or] at starts
  obtain ⟨noByte, noShort, noLong, noName⟩ := starts
  simp only [escapesComplete, beq_false_of_ne noByte, beq_false_of_ne noShort,
    beq_false_of_ne noLong, beq_false_of_ne noName, Bool.false_eq_true, if_false, ite_self,
    escapesComplete_append bytes plain]

/-- The name of a character goes on with characters without a meaning. -/
theorem escapesComplete_insideName_append
    (bytes empty : Bool)
    {before : List Char}
    (plain : ∀ character ∈ before, IsPlain character)
    (some : before ≠ [])
    (text : List Char) :
    escapesComplete bytes (.insideName empty) (before ++ text) =
      escapesComplete bytes (.insideName false) text := by
  induction before generalizing empty with
  | nil => exact absurd rfl some
  | cons first rest hypothesis =>
      have goesOn : (first == '\x7d') = false :=
        beq_false_of_ne ((plain first List.mem_cons_self).ne (by decide) (by decide))
      rw [List.cons_append, escapesComplete, goesOn]
      by_cases last : rest = []
      · subst last
        rfl
      · exact hypothesis false (fun character present =>
          plain character (List.mem_cons_of_mem _ present)) last

/-- The escape sequences of a text are complete before and after references are
replaced, or in neither case. -/
theorem escapesComplete_replaces
    (bytes : Bool)
    (state : Escape)
    {text changed : List Char}
    (related : Replaces text changed) :
    escapesComplete bytes state changed = escapesComplete bytes state text := by
  induction related generalizing state with
  | nil => rfl
  | keep first _ hypothesis => cases state <;> simp only [escapesComplete, hypothesis]
  | @refer name text changed isName _ _ hypothesis =>
      have named := isName.isPlain_cons
      have marked := isName.isPlain_append
      rw [← List.append_assoc, ← List.cons_append]
      cases state with
      | outside =>
          rw [escapesComplete_append bytes named, escapesComplete_append bytes marked, hypothesis]
      | insideName empty =>
          rw [escapesComplete_insideName_append bytes empty named (by simp),
            escapesComplete_insideName_append bytes empty marked (by simp [resultMark]), hypothesis]
      | started =>
          have behindSign := escapesComplete_started_append bytes '$' (by decide)
            (fun character present => named character (List.mem_cons_of_mem _ present)) text
          obtain ⟨more, rfl⟩ := isName.exists_cons
          have behindStart := escapesComplete_started_append bytes 's' (by decide)
            (fun character present => marked character (List.mem_cons_of_mem 's' present)) changed
          exact behindStart.trans ((hypothesis .outside).trans behindSign.symm)
      | hexadecimal missing value =>
          obtain ⟨more, rfl⟩ := isName.exists_cons
          rfl
      | nameStart =>
          obtain ⟨more, rfl⟩ := isName.exists_cons
          rfl

end Token
end ShaderGraph
