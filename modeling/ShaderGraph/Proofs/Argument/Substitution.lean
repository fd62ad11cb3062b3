import ShaderGraph.Proofs.Argument.Report
import ShaderGraph.Proofs.Expression.Lexeme
import ShaderGraph.Proofs.Expression.Relocation

/-!
# Readings with replaced references

References are replaced before an argument is read. Only a text without names whose
value cannot be computed has no reading, and then it has no reference outside of
quotes and comments. So a text that has no reading with its references has none with
their replacements either.
-/

namespace ShaderGraph

open Reference

/-! ## Expressions -/

namespace Expression

variable {text changed : List Char}

/-- An expression is found again when references are replaced, at other columns. -/
theorem parse?_replaces
    (related : Replaces text changed)
    {expression : Expression}
    (found : parse? text = .ok expression) :
    Token.AreValid (Token.all text) ∧
      ∃ tree place changedPlace, expression = relocate place tree ∧
        parse? changed = .ok (relocate changedPlace tree) := by
  rw [parse?] at found
  split at found
  case h_1 => cases found
  case h_2 => cases found
  case h_3 tree read noInvalid =>
    have valid : Token.AreValid (Token.all text) := by
      rw [List.find?_eq_none] at noInvalid
      exact fun token present => by simpa using noInvalid token present
    have kinds := Token.kinds_all_of_replaces related valid
    have changedValid : (Token.all changed).find? (fun token => decide (token.kind = .invalid)) =
        none := by
      rw [List.find?_eq_none]
      intro token present
      have listed : token.kind ∈ Token.kinds (Token.all text) := by
        rw [← kinds]
        exact List.mem_map_of_mem present
      obtain ⟨original, originalPresent, same⟩ := List.mem_map.mp listed
      rw [← same]
      simpa using valid original originalPresent
    refine ⟨valid, tree, _, fun number => (placeOf (Token.all changed) number).column,
      (Except.ok.inj found).symm, ?_⟩
    rw [Token.kinds] at kinds
    rw [parse?, kinds, read, changedValid]

end Expression

namespace Evaluator

variable {text changed : String}

/-- So is the expression that a text is read as. -/
theorem read_replaces
    (related : Replaces text.toList changed.toList)
    {expression : Expression}
    (found : read text = .ok expression) :
    Token.AreValid (Token.all (Text.trim text.toList)) ∧
      ∃ (tree : Expression) (place changedPlace : Nat -> Nat), expression = tree.relocate place ∧
        read changed = .ok (tree.relocate changedPlace) := by
  have trimmed := related.trim
  rw [read] at found
  split at found
  · cases found
  case isFalse filled =>
    split at found
    · cases found
    case isFalse noNull =>
      split at found
      case h_2 => cases found
      case h_1 parsed =>
        obtain ⟨valid, tree, place, changedPlace, rfl, changedParsed⟩ :=
          Expression.parse?_replaces trimmed parsed
        rw [Expression.depth_relocate] at found
        split at found
        · cases found
        case isFalse shallow =>
          refine ⟨valid, tree, place, changedPlace, (Except.ok.inj found).symm, ?_⟩
          rw [read, trimmed.isEmpty_eq, if_neg filled, trimmed.contains_eq (by decide) (by decide),
            if_neg noNull, changedParsed]
          dsimp only
          rw [Expression.depth_relocate, if_neg shallow]

/-- What stops the evaluation of a text stops it when references are replaced. -/
theorem evaluate_replaces
    {evaluator : Evaluator}
    {obstacle : Obstacle}
    (related : Replaces text.toList changed.toList)
    (stopped : evaluator.evaluate [] text = .error obstacle)
    (noFault : ∀ fault, obstacle ≠ .fault fault) :
    Token.AreValid (Token.all (Text.trim text.toList)) ∧
      evaluator.evaluate [] changed = .error obstacle := by
  rw [evaluate] at stopped
  cases found : read text with
  | error fault =>
      rw [found] at stopped
      cases stopped
      exact absurd rfl (noFault fault)
  | ok expression =>
      obtain ⟨valid, tree, place, changedPlace, rfl, changedFound⟩ := read_replaces related found
      refine ⟨valid, ?_⟩
      rw [found] at stopped
      have valued : evaluator.value [] stepLimit (tree.relocate place) = .error obstacle := by
        rcases bind_eq_error_iff.mp stopped with impossible | ⟨_, same, valued⟩
        · cases impossible
        · cases same
          rcases bind_eq_error_iff.mp valued with stopped | ⟨_, _, impossible⟩
          · exact stopped
          · cases impossible
      rw [value_relocate, Obstacle.relocated_eq_error_iff place noFault,
        ← Obstacle.relocated_eq_error_iff changedPlace noFault, ← value_relocate] at valued
      rw [evaluate, changedFound]
      exact bind_eq_error_iff.mpr (.inr ⟨_, rfl, bind_eq_error_iff.mpr (.inl valued)⟩)

/-- An expression reads the same names when references are replaced. -/
theorem reads_replaces
    {evaluator : Evaluator}
    (related : Replaces text.toList changed.toList)
    {expression : Expression}
    (found : read text = .ok expression) :
    evaluator.reads changed = evaluator.reads text := by
  obtain ⟨-, tree, place, changedPlace, rfl, changedFound⟩ := read_replaces related found
  have names (place : Nat -> Nat) :
      evaluator.namesOf (tree.relocate place) = evaluator.namesOf tree := by
    rw [namesOf, namesOf, Expression.mentions_relocate]
  rw [reads, reads, found, changedFound]
  simp only [bind, Except.bind, Expression.mentionDepth_relocate, names]

end Evaluator

/-! ## Simple variables -/

namespace Token

variable {word rest : List Char}

/-- A name before a dollar sign is a word of its own. -/
theorem cut_word
    (named : Swizzle.isName word = true)
    (rest : List Char) : (cut (word ++ '$' :: rest)).rest = '$' :: rest := by
  rw [cut_identifier (isIdentifier_of_isName named) rfl]
  rintro _ ⟨⟩
  exact ⟨by decide, by decide⟩

/-- A text that starts with a name before a dollar sign has an invalid token. -/
theorem not_areValid_scan_word
    (named : word = [] ∨ Swizzle.isName word = true)
    (fuel : Nat)
    (place : Place)
    (brackets : List Nat)
    (emptyLine : Bool)
    (rest : List Char) :
    ¬AreValid (scan fuel place brackets emptyLine (word ++ '$' :: rest)) := by
  rcases named with rfl | named
  · exact not_areValid_scan_sign fuel place brackets emptyLine rest
  · cases fuel with
    | zero => exact not_areValid place
    | succ fuel =>
        have parts := Argument.isNameRest_of_mem named
        have behind := cut_word named rest
        cases word with
        | nil => cases named
        | cons first word =>
            have part := parts first List.mem_cons_self
            have noGap : isGap first = false := by
              rw [isGap, beq_false_of_ne (ne_of_isNameRest part (by decide)),
                beq_false_of_ne (ne_of_isNameRest part (by decide)),
                beq_false_of_ne (ne_of_isNameRest part (by decide))]
              rfl
            have other : first ∉ ['\n', '#', '\\'] := by
              simp only [List.mem_cons, List.not_mem_nil, or_false, not_or]
              exact ⟨ne_of_isNameRest part (by decide), ne_of_isNameRest part (by decide),
                ne_of_isNameRest part (by decide)⟩
            rw [List.cons_append] at behind ⊢
            rw [scan_token fuel place brackets emptyLine noGap other]
            split
            · exact not_areValid place
            · intro valid
              have tail := valid.tail
              rw [AreValid, List.forall_mem_append, behind] at tail
              exact not_areValid_scan_sign _ _ _ _ _ tail.2

end Token

namespace Reference

/-- A dollar sign that is gone was one of a reference. -/
theorem Replaces.exists_refer
    {text changed : List Char}
    (related : Replaces text changed)
    (present : '$' ∈ text)
    (gone : '$' ∉ changed) :
    ∃ before name rest changedRest, IsNodeName name ∧
      text = before ++ '$' :: rest ∧ changed = before ++ (name ++ changedRest) := by
  induction related with
  | nil => cases present
  | @keep first text changed related hypothesis =>
      have other : '$' ≠ first := fun same => gone (List.mem_cons.mpr (.inl same))
      obtain ⟨before, name, rest, changedRest, isName, rfl, rfl⟩ :=
        hypothesis ((List.mem_cons.mp present).resolve_left other)
          fun present => gone (List.mem_cons_of_mem _ present)
      exact ⟨first :: before, name, rest, changedRest, isName, rfl, rfl⟩
  | @refer name text changed isName _ _ _ => exact ⟨[], name, _, _, isName, rfl, rfl⟩

end Reference

namespace Swizzle

/-- A simple variable is a name before letters of components, of which none is the
second letter of a node. -/
theorem exists_name_of_isSimple
    {text : String}
    (simple : isSimple text = true) :
    ∃ name rest, text.toList = name ++ rest ∧ isName name = true ∧
      ∀ character ∈ rest, character ∈ '.' :: '\n' :: simpleLetters := by
  have broken : ∃ ending, text.toList = dropFinalBreak text.toList ++ ending ∧
      ∀ character ∈ ending, character = '\n' := by
    rw [dropFinalBreak]
    split
    case isTrue last =>
      refine ⟨['\n'], ?_, by simp⟩
      rw [beq_iff_eq] at last
      exact (List.dropLast_append_getLast? '\n' last).symm
    case isFalse => exact ⟨[], by simp, by simp⟩
  obtain ⟨ending, whole, breaks⟩ := broken
  rw [isSimple] at simple
  generalize dropFinalBreak text.toList = chars at whole simple
  have inEnding : ∀ character ∈ ending, character ∈ '.' :: '\n' :: simpleLetters := by
    intro character present
    rw [breaks character present]
    decide
  rw [Bool.or_eq_true] at simple
  rcases simple with named | selected
  · exact ⟨chars, ending, whole, named, inEnding⟩
  · simp only [Bool.and_eq_true] at selected
    obtain ⟨⟨named, -⟩, letters⟩ := selected
    refine ⟨baseChars chars, chars.dropWhile (· != '.') ++ ending, ?_, named, ?_⟩
    · rw [whole, ← List.append_assoc, baseChars, List.takeWhile_append_dropWhile]
    · rw [List.forall_mem_append]
      refine ⟨?_, inEnding⟩
      have leads := List.head?_dropWhile_not (· != '.') chars
      rw [selectionChars] at letters
      generalize chars.dropWhile (· != '.') = selected at leads letters
      cases selected with
      | nil => simp
      | cons point selection =>
          have isPoint : point = '.' := by simpa using leads
          rw [List.drop_succ_cons, List.drop_zero, List.all_eq_true] at letters
          rw [isPoint, List.forall_mem_cons]
          refine ⟨List.mem_cons_self, fun letter present => ?_⟩
          have listed := List.contains_iff_mem.mp (letters letter present)
          exact List.mem_cons_of_mem _ (List.mem_cons_of_mem _ listed)

/-- A text of valid tokens that becomes a simple variable is one already: a reference
behind a name is an invalid token, and the name of a node stands behind no selection. -/
theorem eq_of_isSimple
    {text changed : String}
    (related : Replaces text.toList changed.toList)
    (valid : Token.AreValid (Token.all text.toList))
    (simple : isSimple changed = true) : changed = text := by
  obtain ⟨word, letters, whole, named, selects⟩ := exists_name_of_isSimple simple
  have parts := Argument.isNameRest_of_mem named
  have gone : '$' ∉ changed.toList := by
    rw [whole, List.mem_append, not_or]
    exact ⟨fun present => absurd (parts _ present) (by decide),
      fun present => absurd (selects _ present) (by decide)⟩
  by_cases present : '$' ∈ text.toList
  · obtain ⟨before, name, rest, changedRest, isNodeName, same, changedSame⟩ :=
      related.exists_refer present gone
    obtain ⟨more, rfl⟩ := isNodeName.exists_cons
    have within : before <+: word := by
      rw [whole] at changedSame
      rcases List.append_eq_append_iff.mp changedSame with ⟨behind, rfl, start⟩ | ⟨behind, rfl, _⟩
      · have start : 'h' ∈ letters := by
          rw [start]
          simp
        exact absurd (selects 'h' start) (by decide)
      · exact List.prefix_append before behind
    have namedBefore : before = [] ∨ isName before = true := by
      obtain ⟨behind, rfl⟩ := within
      cases before with
      | nil => exact .inl rfl
      | cons first before =>
          refine .inr ?_
          rw [List.cons_append, isName, Bool.and_eq_true, List.all_append,
            Bool.and_eq_true] at named
          rw [isName, named.1, named.2.1]
          rfl
    have free : '\r' ∉ before := fun present =>
      absurd (parts '\r' (within.subset present)) (by decide)
    rw [Token.all, same, unifyLineBreaks_append free,
      unifyLineBreaks_cons_of_ne (by decide)] at valid
    exact absurd valid (Token.not_areValid_scan_word namedBefore _ _ _ _ _)
  · exact String.toList_inj.mp (related.eq_of_free present)

end Swizzle

/-! ## Readings -/

namespace Argument

/-- A text without names has none when references are replaced. -/
theorem names_replaces
    {text changed : String}
    (related : Replaces text.toList changed.toList)
    (nothing : names text = []) : names changed = [] := by
  have sorted (found : List String) : Text.sortedNames found = [] ↔ found = [] := by
    simp only [List.eq_nil_iff_forall_not_mem, Text.mem_sortedNames]
  rw [names, sorted] at nothing ⊢
  exact scan_replaces related nothing

end Argument

namespace Interpreter

variable {interpreter : Interpreter} {text changed : String}

/-- An expression without names has none when references are replaced. -/
theorem dependencies_replaces
    (related : Replaces text.toList changed.toList)
    {expression : Expression}
    (found : Evaluator.read text = .ok expression)
    (nothing : interpreter.dependencies text = []) : interpreter.dependencies changed = [] := by
  have samePoint : Swizzle.hasPoint changed = Swizzle.hasPoint text :=
    related.contains_eq (by decide) (by decide)
  have sameReads : interpreter.evaluator.reads changed = interpreter.evaluator.reads text :=
    Evaluator.reads_replaces related found
  rw [dependencies] at nothing ⊢
  rw [samePoint, sameReads]
  split at nothing
  case isTrue pointed =>
    rw [if_pos pointed]
    exact Argument.names_replaces related nothing
  case isFalse noPoint =>
    rw [if_neg noPoint]
    split at nothing
    case h_1 => exact nothing
    case h_2 => exact Argument.names_replaces related nothing

theorem compound_of_evaluate
    {obstacle : Obstacle}
    (nothing : interpreter.dependencies text = [])
    (stopped : interpreter.evaluator.evaluate [] text = .error obstacle) :
    interpreter.compound text = .error obstacle := by
  rw [compound, nothing, stopped]
  rfl

/-- If a text has a reading once references are replaced, it has one before. -/
theorem report_of_substitute
    {interpreter : Interpreter}
    {text : String}
    {reading : Reading}
    (success : Attempt.outcome (interpreter.report (Reference.substitute text)) = .ok reading) :
    ∃ reading, Attempt.outcome (interpreter.report text) = .ok reading := by
  rcases report_cases interpreter text with
    ⟨_, outcome, _⟩ | ⟨compounded, ⟨_, _, outcome, _⟩ | ⟨_, _, outcome, _⟩ |
      ⟨obstacle, stopped, noFault, _⟩⟩
  · exact ⟨_, outcome⟩
  · exact ⟨_, outcome⟩
  · exact ⟨_, outcome⟩
  have related : Replaces (Text.trimmed text).toList
      (Text.trimmed (Reference.substitute text)).toList := by
    rw [Text.trimmed, Text.trimmed, Reference.substitute, String.toList_ofList,
      String.toList_ofList, String.toList_ofList]
    exact (replaces_replace text.toList).trim
  obtain ⟨nothing, evaluation⟩ := compound_eq_error stopped
  obtain ⟨valid, changedEvaluation⟩ := Evaluator.evaluate_replaces related evaluation noFault
  rw [Text.trimmed, String.toList_ofList, Text.trim_trim, ← String.toList_ofList (l := Text.trim _),
    ← Text.trimmed] at valid
  have changedStopped : interpreter.compound (Text.trimmed (Reference.substitute text)) =
      .error obstacle := by
    rcases Evaluator.evaluate_stops evaluation with ⟨fault, same⟩ | ⟨expression, found, _⟩
    · exact absurd same (noFault fault)
    · exact compound_of_evaluate (dependencies_replaces related found nothing) changedEvaluation
  rcases report_cases interpreter (Reference.substitute text) with
    ⟨simple, _⟩ | ⟨_, ⟨_, found, _⟩ | ⟨fault, found, _⟩ | ⟨_, _, _, outcome⟩⟩
  · rw [Swizzle.eq_of_isSimple related valid simple, compounded] at simple
    cases simple
  · rw [changedStopped] at found
    cases found
  · rw [changedStopped] at found
    exact absurd (Except.error.inj found) (noFault fault)
  · rw [outcome] at success
    cases success

end Interpreter
end ShaderGraph
