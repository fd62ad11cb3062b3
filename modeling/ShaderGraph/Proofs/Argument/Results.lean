import ShaderGraph.Proofs.Argument.Arithmetic
import ShaderGraph.Proofs.Graph.Replacement

/-!
# Results in arithmetic arguments

With the variables of results in the place of its references, an arithmetic argument is
arithmetic again, with the same words. So it depends on the same names, apart from the
names of nodes and of their results.
-/

namespace ShaderGraph

namespace Reference

theorem replace_of_free {text : List Char} (free : '$' ∉ text) : replace false text = text :=
  (replaces_replace text).eq_of_free free

/-- A text without a reference sign is kept before others. -/
theorem replace_append
    {before : List Char}
    (free : '$' ∉ before)
    (rest : List Char) : replace false (before ++ rest) = before ++ replace false rest := by
  induction before with
  | nil => rfl
  | cons first before inductionHypothesis =>
      obtain ⟨other, later⟩ := not_or.mp (List.mem_cons.not.mp free)
      rw [List.cons_append, replace, beq_false_of_ne (Ne.symm other)]
      exact congrArg (first :: ·) (inductionHypothesis later)

/-- The name of a node is kept behind a reference sign, with the mark of its result. -/
theorem replace_reference
    {node rest : List Char}
    (stemmed : stem <+: node)
    (numbered : stem.length < node.length)
    (words : ∀ character ∈ node, Text.isWord character = true)
    (ends : rest.head?.any Text.isWord = false) :
    replace false ('$' :: (node ++ rest)) = node ++ resultMark ++ replace false rest := by
  have taken : (node ++ rest).takeWhile Text.isWord = node ∧
      (node ++ rest).dropWhile Text.isWord = rest := by
    rw [List.takeWhile_append_of_pos words, List.dropWhile_append_of_pos words]
    cases rest with
    | nil => simp
    | cons first rest =>
        have noWord : Text.isWord first = false := by simpa using ends
        simp [noWord]
  have named : (nodeName? (node ++ rest)).isSome = true := by
    rw [nodeName?, taken.1, List.isPrefixOf_iff_prefix.mpr stemmed, decide_eq_true numbered]
    rfl
  rw [replace, named, replace_true, taken.1, taken.2, List.append_assoc]
  rfl

/-- The end of a text is kept, or it is that of the variable of a result. -/
theorem Replaces.getLast?_cases
    {text changed : List Char}
    (related : Replaces text changed) :
    changed.getLast? = text.getLast? ∨ changed.getLast? = some 't' := by
  induction related with
  | nil => exact .inl rfl
  | @keep first text changed rest inductionHypothesis =>
      have empty := rest.isEmpty_eq
      cases text with
      | nil => exact .inl (by rw [List.isEmpty_iff.mp empty])
      | cons second text =>
          cases changed with
          | nil => cases empty
          | cons _ changed => simpa only [List.getLast?_cons_cons] using inductionHypothesis
  | @refer name text changed isName ends rest inductionHypothesis =>
      have empty := rest.isEmpty_eq
      cases text with
      | nil =>
          rw [List.isEmpty_iff.mp empty]
          exact .inr (by simp [resultMark])
      | cons second text =>
          cases changed with
          | nil => cases empty
          | cons third changed =>
              have behind (before : List Char) :
                  (before ++ second :: text).getLast? = (second :: text).getLast? ∧
                    (before ++ third :: changed).getLast? = (third :: changed).getLast? :=
                ⟨List.getLast?_append_cons .., List.getLast?_append_cons ..⟩
              rw [← List.append_assoc, (behind _).2, ← List.cons_append, (behind _).1]
              exact inductionHypothesis

end Reference

namespace Lexeme

/-- A lexeme with the variable of a result in the place of a reference. -/
def substituted : Lexeme -> Lexeme
  | .reference node => .word (node ++ Reference.resultMark) []
  | lexeme => lexeme

section Substituted

variable {lexemes : List Lexeme}

theorem ends_map (lexemes : List Lexeme) : ends (lexemes.map substituted) = ends lexemes := by
  cases lexemes with
  | nil => rfl
  | cons lexeme _ => cases lexeme <;> rfl

theorem called_map (lexemes : List Lexeme) : called (lexemes.map substituted) = called lexemes := by
  induction lexemes with
  | nil => rfl
  | cons lexeme _ inductionHypothesis =>
      cases lexeme with
      | blank => exact inductionHypothesis
      | _ => rfl

theorem head?_map_ne
    {character : Char}
    (other : lexemes.head? ≠ some (.mark character)) :
    (lexemes.map substituted).head? ≠ some (.mark character) := by
  cases lexemes with
  | nil => simp
  | cons lexeme _ =>
      cases lexeme with
      | reference => simp [substituted]
      | _ => exact other

theorem isName_append_resultMark
    {node : List Char}
    (named : Swizzle.isName node = true) :
    Swizzle.isName (node ++ Reference.resultMark) = true := by
  cases node with
  | nil => cases named
  | cons first node =>
      rw [Swizzle.isName, Bool.and_eq_true] at named
      rw [List.cons_append, Swizzle.isName, List.all_append, named.1, named.2]
      decide

/-- No reserved word starts like the name of a node. -/
theorem unreserved_of_stem
    {name : List Char}
    (stemmed : Reference.stem <+: name) :
    Token.keywords.contains (String.ofList name) = false := by
  have none : ∀ keyword ∈ Token.keywords, Reference.stem.isPrefixOf keyword.toList = false :=
    List.all_iff_forall_prop.mp (by decide)
  rw [Bool.eq_false_iff, Ne, List.contains_iff_mem]
  intro listed
  have absent := none _ listed
  rw [String.toList_ofList, List.isPrefixOf_iff_prefix.mpr stemmed] at absent
  cases absent

/-- Arithmetic stays arithmetic. -/
theorem IsArithmetic.map_substituted (arithmetic : IsArithmetic lexemes) :
    IsArithmetic (lexemes.map substituted) := by
  induction arithmetic with
  | nil => exact .nil
  | blank isGap _ inductionHypothesis => exact .blank isGap inductionHypothesis
  | numeral isNumeral ends _ inductionHypothesis =>
      exact .numeral isNumeral ((ends_map _).trans ends) inductionHypothesis
  | word named unreserved selects ends _ inductionHypothesis =>
      exact .word named unreserved selects ((ends_map _).trans ends) inductionHypothesis
  | reference named stemmed _ ends _ inductionHypothesis =>
      exact .word (isName_append_resultMark named)
        (unreserved_of_stem (stemmed.trans (List.prefix_append _ _))) (.inl rfl)
        ((ends_map _).trans ends) inductionHypothesis
  | mark isMark alone free _ inductionHypothesis =>
      refine .mark isMark (alone.imp_right fun ⟨times, divides⟩ =>
        ⟨head?_map_ne times, head?_map_ne divides⟩) (fun closes => ?_) inductionHypothesis
      rw [called_map]
      exact free closes

theorem IsArithmetic.head?_written_append
    (arithmetic : IsArithmetic lexemes)
    (ends : ends lexemes = true)
    {after : List Char}
    (blanks : ∀ blank ∈ after, Text.isBlank blank = true) :
    (written lexemes ++ after).head?.any Text.isWord = false := by
  cases whole : written lexemes with
  | nil =>
      cases after with
      | nil => rfl
      | cons first after =>
          rw [List.nil_append, List.head?_cons, Option.any_some, Bool.eq_false_iff]
          intro word
          have blank := blanks first List.mem_cons_self
          rw [Reference.isBlank_of_isWord word] at blank
          cases blank
  | cons first rest =>
      have noWord := (arithmetic.ends_written ends).1
      rwa [whole] at noWord

/-- Replacing the references of a text replaces those among its lexemes. -/
theorem IsArithmetic.replace_written
    (arithmetic : IsArithmetic lexemes)
    {after : List Char}
    (blanks : ∀ blank ∈ after, Text.isBlank blank = true) :
    Reference.replace false (written lexemes ++ after) =
      written (lexemes.map substituted) ++ after := by
  have kept {lexeme : Lexeme} {rest : List Lexeme}
      (same : lexeme.substituted = lexeme)
      (free : '$' ∉ lexeme.chars)
      (inductionHypothesis : Reference.replace false (written rest ++ after) =
        written (rest.map substituted) ++ after) :
      Reference.replace false (written (lexeme :: rest) ++ after) =
        written ((lexeme :: rest).map substituted) ++ after := by
    rw [List.map_cons, same, written_cons, written_cons, List.append_assoc, List.append_assoc,
      Reference.replace_append free, inductionHypothesis]
  induction arithmetic with
  | nil =>
      refine Reference.replace_of_free fun present => ?_
      have blank := blanks '$' present
      revert blank
      decide
  | blank isGap _ inductionHypothesis =>
      obtain ⟨_, _, _, other⟩ := kind_of_isGap isGap
      exact kept rfl (fun present => other (by simp [← List.mem_singleton.mp present]))
        inductionHypothesis
  | numeral isNumeral _ _ inductionHypothesis =>
      exact kept rfl (isNumeral.not_mem (by decide) (by decide)) inductionHypothesis
  | word named _ selects _ _ inductionHypothesis =>
      exact kept rfl (not_mem_word named selects (by decide) (by decide)) inductionHypothesis
  | mark isMark _ _ _ inductionHypothesis =>
      obtain ⟨_, _, _, other⟩ := kind_of_punctuation isMark
      exact kept rfl (fun present => other (by simp [← List.mem_singleton.mp present]))
        inductionHypothesis
  | @reference node rest named stemmed numbered ends behind inductionHypothesis =>
      have words : ∀ character ∈ node, Text.isWord character = true := fun character present =>
        Argument.isWord_of_isNameRest (Argument.isNameRest_of_mem named character present)
      rw [List.map_cons, written_cons, written_cons, List.append_assoc, List.append_assoc,
        ← inductionHypothesis]
      refine (Reference.replace_reference stemmed numbered words
        (behind.head?_written_append ends blanks)).trans ?_
      simp [substituted, chars]

/-- A text that is made of lexemes is made of those with the variables of results when its
references are replaced. -/
theorem Compose.substitute
    {text : String}
    (compose : Compose lexemes text) :
    Compose (lexemes.map substituted) (Reference.substitute text) where
  arithmetic := compose.arithmetic.map_substituted
  text := by
    obtain ⟨before, after, whole, beforeBlank, afterBlank⟩ :=
      Text.exists_eq_append_trim text.toList
    have free : '$' ∉ before := fun present => by
      have blank := beforeBlank '$' present
      revert blank
      decide
    have related := Reference.replaces_replace (written lexemes)
    have noneBehind : ∀ blank ∈ ([] : List Char), Text.isBlank blank = true := by simp
    have alone := compose.arithmetic.replace_written noneBehind
    rw [List.append_nil, List.append_nil] at alone
    rw [alone] at related
    rw [compose.text, List.append_assoc] at whole
    rw [Reference.substitute, String.toList_ofList, whole, Reference.replace_append free,
      compose.arithmetic.replace_written afterBlank, ← List.append_assoc]
    refine Text.trim_append_append beforeBlank afterBlank (fun first leads => ?_)
      fun last ends => ?_
    · rcases related.head?_cases with same | ⟨_, starts⟩
      · rw [same, ← compose.text] at leads
        exact Text.isBlank_head?_trim leads
      · cases starts.symm.trans leads
        decide
    · rcases related.getLast?_cases with same | closes
      · rw [same, ← compose.text] at ends
        exact Text.isBlank_getLast?_trim ends
      · cases closes.symm.trans ends
        decide

end Substituted

/-! ## Dependence -/

variable {lexemes : List Lexeme} {text : String} {name : String}

/-- What does not start like the name of a node is mentioned as before. -/
theorem mem_mentioned_map
    {read : String}
    (plain : ¬Reference.stem <+: read.toList)
    (arithmetic : IsArithmetic lexemes) :
    read ∈ mentioned (lexemes.map substituted) ↔ read ∈ mentioned lexemes := by
  induction arithmetic with
  | nil => rfl
  | blank _ _ inductionHypothesis => exact inductionHypothesis
  | numeral _ _ _ inductionHypothesis => exact inductionHypothesis
  | mark _ _ _ _ inductionHypothesis => exact inductionHypothesis
  | @word name selection rest _ _ _ _ _ inductionHypothesis =>
      change read ∈ mentioned (.word name selection :: rest.map substituted) ↔ _
      rw [mentioned, mentioned, called_map, List.mem_append, List.mem_append, inductionHypothesis]
  | @reference node rest _ stemmed _ _ _ inductionHypothesis =>
      have noNode (more : List Char) : read ≠ String.ofList (node ++ more) := by
        rintro rfl
        rw [String.toList_ofList] at plain
        exact plain (stemmed.trans (List.prefix_append _ _))
      have noReference : read ≠ String.ofList node := by
        simpa using noNode []
      rw [List.map_cons, substituted, mentioned, mentioned, called_map, List.mem_append,
        List.mem_append, inductionHypothesis, List.append_nil]
      split
      · rfl
      · simp only [List.mem_singleton, noNode, noReference]

theorem not_stem_of_base
    {read : String}
    (base : Swizzle.base read = name)
    (plain : ¬Reference.stem <+: name.toList) : ¬Reference.stem <+: read.toList := by
  rintro ⟨rest, whole⟩
  refine plain ⟨rest.takeWhile (· != '.'), ?_⟩
  have noPoint : Reference.stem.all (· != '.') = true := by decide
  rw [← base, Swizzle.base, Swizzle.baseChars, String.toList_ofList, ← whole,
    List.takeWhile_append_of_pos (List.all_eq_true.mp noPoint)]

/-- On a name that is neither that of a node nor a constant of the evaluator, an
arithmetic text depends with references as it does with results in their place. -/
theorem Compose.dependsOn_substitute
    (builtins : Builtins)
    (compose : Compose lexemes text)
    (plain : ¬Reference.stem <+: name.toList)
    (noConstant : name ≠ "pi" ∧ name ≠ "e") :
    Interpreter.DependsOn { builtins } (Reference.substitute text) name ↔
      Interpreter.DependsOn { builtins } text name := by
  have depends {lexemes : List Lexeme} {text : String} (compose : Compose lexemes text)
      {read : String} (listed : read ∈ mentioned lexemes) (base : Swizzle.base read = name) :
      Interpreter.DependsOn { builtins } text name := by
    rw [← base]
    refine (compose.dependsOn_or_constant builtins listed).resolve_right fun ⟨constant, _⟩ => ?_
    rcases constant with rfl | rfl
    · exact noConstant.1 base.symm
    · exact noConstant.2 base.symm
  constructor
  · intro found
    obtain ⟨read, listed, base⟩ := compose.substitute.exists_of_dependsOn found
    exact depends compose
      ((mem_mentioned_map (not_stem_of_base base plain) compose.arithmetic).mp listed) base
  · intro found
    obtain ⟨read, listed, base⟩ := compose.exists_of_dependsOn found
    exact depends compose.substitute
      ((mem_mentioned_map (not_stem_of_base base plain) compose.arithmetic).mpr listed) base

end Lexeme
end ShaderGraph
