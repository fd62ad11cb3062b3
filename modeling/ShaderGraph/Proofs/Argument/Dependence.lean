import ShaderGraph.Host.Basic
import ShaderGraph.Proofs.Argument.Report
import ShaderGraph.Proofs.Expression.Scanning
import ShaderGraph.Proofs.Shader.Declarations

/-!
# Names that arguments depend on

A shader declares what the readings of its arguments depend on. Its marks are found out
by another search: a text whose part before the first point is the name counts, and so
does a compound text whose reading depends on the name. Both agree on every text, except
on one that starts with the name and calls a member of it: the search counts such a text,
but nothing in it reads the name.
-/

namespace ShaderGraph

namespace Interpreter

variable {interpreter : Interpreter} {text name : String}

/-- A text is read as one that depends on a name, with a selection or without. -/
def DependsOn (interpreter : Interpreter) (text name : String) : Prop :=
  ∃ reading, Attempt.outcome (interpreter.report text) = .ok reading ∧
    ∃ read ∈ reading.argument.dependencies, Swizzle.base read = name

/-- A text starts with a name and calls a member of it. -/
def CallsMember (text name : String) : Prop :=
  ∃ member behind, (Text.trimmed text).toList = name.toList ++ '.' :: (member ++ behind) ∧
    member ≠ [] ∧ (∀ letter ∈ member, Text.isNameRest letter = true) ∧
    Argument.isCalled behind = true

theorem dependsOn_of_isSimple
    (simple : Swizzle.isSimple (Text.trimmed text) = true) :
    interpreter.DependsOn text name ↔ Swizzle.base (Text.trimmed text) = name := by
  rcases interpreter.report_cases text with ⟨_, read, _⟩ | ⟨compound, _⟩
  · rw [DependsOn, read]
    constructor
    · rintro ⟨_, ⟨⟩, read, listed, same⟩
      rwa [List.mem_singleton.mp listed] at same
    · exact fun same => ⟨_, rfl, _, List.mem_singleton_self _, same⟩
  · rw [simple] at compound
    cases compound

theorem dependsOn_of_not_isSimple
    (compound : Swizzle.isSimple (Text.trimmed text) = false) :
    interpreter.DependsOn text name ↔
      ∃ read ∈ interpreter.dependencies (Text.trimmed text), Swizzle.base read = name := by
  rcases interpreter.report_cases text with ⟨simple, _⟩ | ⟨_, ⟨argument, compounded, read, _⟩ |
    ⟨fault, faulty, read, _⟩ | ⟨obstacle, stopped, _, read⟩⟩
  · rw [simple] at compound
    cases compound
  · rw [DependsOn, read, ← (compound_keeps compounded).2.1]
    exact ⟨fun ⟨_, same, found⟩ => by cases same; exact found, fun found => ⟨_, rfl, found⟩⟩
  · rw [DependsOn, read, (compound_eq_error faulty).1]
    constructor
    · rintro ⟨_, ⟨⟩, _, listed, _⟩
      cases listed
    · rintro ⟨_, listed, _⟩
      cases listed
  · rw [DependsOn, read, (compound_eq_error stopped).1]
    constructor
    · rintro ⟨_, impossible, _⟩
      cases impossible
    · rintro ⟨_, listed, _⟩
      cases listed

theorem mem_names {text read : String} :
    read ∈ Argument.names text ↔ read ∈ Argument.scan none 0 text.toList :=
  Text.mem_sortedNames

/-- Nothing is found in a text in which no name starts. -/
theorem scan_of_no_start
    {before : Option Char}
    {text : List Char}
    (noStart : ∀ character ∈ text, Text.isNameStart character = false) :
    Argument.scan before 0 text = [] := by
  induction text generalizing before with
  | nil => rfl
  | cons first rest inductionHypothesis =>
      obtain ⟨noFirst, noRest⟩ := List.forall_mem_cons.mp noStart
      rw [Argument.scan_of_dotted?_eq_none (Argument.dotted?_of_no_start (.inl noFirst))]
      exact inductionHypothesis noRest

theorem names_of_isLiteralChars
    (isLiteral : Swizzle.isLiteralChars text.toList = true) : Argument.names text = [] := by
  have noStart : ∀ character ∈ text.toList, Text.isNameStart character = false := by
    intro character present
    rw [Bool.eq_false_iff]
    intro starts
    rcases Swizzle.mem_of_isLiteralChars isLiteral character present with digit | mark
    · have noIdentifier := Text.isIdentifierStart_of_isDecimalDigit digit
      rw [Text.isIdentifierStart, starts, Bool.true_or] at noIdentifier
      cases noIdentifier
    · have noNames : ∀ mark ∈ ['.', '-'], Text.isNameStart mark = false :=
        List.all_iff_forall_prop.mp (by decide)
      rw [noNames character mark] at starts
      cases starts
  rw [List.eq_nil_iff_forall_not_mem]
  intro read listed
  rw [mem_names, scan_of_no_start noStart] at listed
  cases listed

/-- A literal depends on nothing. -/
theorem dependencies_of_isLiteralChars
    (isLiteral : Swizzle.isLiteralChars (Text.trimmed text).toList = true) :
    interpreter.dependencies (Text.trimmed text) = [] := by
  have trimmed : Text.trim (Text.trimmed text).toList = (Text.trimmed text).toList := by
    rw [Text.trimmed, String.toList_ofList, Text.trim_trim]
  have none := names_of_isLiteralChars isLiteral
  rw [dependencies]
  split
  · exact none
  case isFalse noPoint =>
    split
    case h_1 names read =>
      rw [← trimmed] at isLiteral
      refine Evaluator.reads_of_isLiteralChars isLiteral ?_ read
      rw [trimmed]
      simpa [Swizzle.hasPoint] using noPoint
    case h_2 => exact none

/-- A name is a simple variable. -/
theorem isSimple_of_isName
    (named : Swizzle.isName text.toList = true) : Swizzle.isSimple text = true := by
  have noBreak : text.toList.getLast? ≠ some '\n' := fun last =>
    absurd (Argument.isNameRest_of_mem named '\n' (List.mem_of_getLast? last)) (by decide)
  rw [Swizzle.isSimple, Swizzle.dropFinalBreak, if_neg (by simpa using noBreak), named,
    Bool.true_or]

/-- A text is what stands before its first point and the rest from the point on. -/
theorem split_at_point (chars : List Char) :
    chars = Swizzle.baseChars chars ++ chars.dropWhile (· != '.') ∧
      (chars.dropWhile (· != '.') = [] ∨
        chars.dropWhile (· != '.') = '.' :: Swizzle.selectionChars chars) := by
  refine ⟨List.takeWhile_append_dropWhile.symm, ?_⟩
  have leads := List.head?_dropWhile_not (· != '.') chars
  rw [Swizzle.selectionChars]
  cases stops : chars.dropWhile (· != '.') with
  | nil => exact .inl rfl
  | cons point rest =>
      rw [stops] at leads
      have isPoint : point = '.' := by simpa using leads
      rw [isPoint]
      exact .inr rfl

/-- A name with a selection is found as it is. -/
theorem names_of_isSwizzled
    (swizzled : Swizzle.isSwizzled text.toList = true) :
    Swizzle.hasPoint text = true ∧ ∀ read ∈ Argument.names text, read = text := by
  rw [Swizzle.isSwizzled, Bool.and_eq_true, Bool.and_eq_true, Bool.not_eq_true',
    List.all_eq_true] at swizzled
  obtain ⟨⟨named, filled⟩, letters⟩ := swizzled
  obtain ⟨whole, pointed⟩ := split_at_point text.toList
  have pointed : text.toList.dropWhile (· != '.') = '.' :: Swizzle.selectionChars text.toList := by
    refine pointed.resolve_left fun none => ?_
    rw [Swizzle.selectionChars, none] at filled
    cases filled
  rw [pointed] at whole
  generalize Swizzle.baseChars text.toList = word at whole named
  generalize Swizzle.selectionChars text.toList = selection at whole filled letters
  have parts : ∀ letter ∈ selection, Text.isNameRest letter = true := fun letter present =>
    Argument.isNameRest_of_isNameStart
      (by rw [Text.isNameStart, letters letter present, Bool.true_or])
  have selects : Argument.IsSelection ('.' :: selection) :=
    .inr ⟨selection, rfl, by simpa using filled, parts⟩
  have split : Argument.splitSelection ('.' :: selection ++ []) = ('.' :: selection, []) :=
    Argument.splitSelection_append selects rfl (by simp)
  rw [List.append_nil] at split
  refine ⟨?_, fun read listed => ?_⟩
  · rw [Swizzle.hasPoint, whole]
    simp
  · rw [mem_names, whole, Argument.scan_name rfl named rfl, split] at listed
    change read ∈ [String.ofList (word ++ '.' :: selection)] at listed
    rw [List.mem_singleton.mp listed, ← whole, String.ofList_toList]

/-- Only a name and a name with a selection depend on a name without being compound, and
they start with it. -/
theorem base_of_dependsOn
    (plain : Swizzle.isCompound text = false)
    (depends : interpreter.DependsOn text name) : Swizzle.base (Text.trimmed text) = name := by
  cases simple : Swizzle.isSimple (Text.trimmed text) with
  | true => exact (dependsOn_of_isSimple simple).mp depends
  | false =>
      obtain ⟨read, listed, same⟩ := (dependsOn_of_not_isSimple simple).mp depends
      have chars : Text.trim text.toList = (Text.trimmed text).toList := by
        rw [Text.trimmed, String.toList_ofList]
      rw [Swizzle.isCompound, chars] at plain
      cases isLiteral : Swizzle.isLiteralChars (Text.trimmed text).toList with
      | true =>
          rw [dependencies_of_isLiteralChars isLiteral] at listed
          cases listed
      | false =>
          cases named : Swizzle.isName (Text.trimmed text).toList with
          | true =>
              rw [isSimple_of_isName named] at simple
              cases simple
          | false =>
              have swizzled : Swizzle.isSwizzled (Text.trimmed text).toList = true := by
                simpa [isLiteral, named] using plain
              obtain ⟨point, found⟩ := names_of_isSwizzled swizzled
              rw [dependencies, if_pos point] at listed
              rw [← same, found read listed]

/-- What stands before the first point of a name with a selection is the name. -/
theorem base_append
    {word selection : List Char}
    (named : Swizzle.isName word = true)
    (selects : selection = [] ∨ ∃ rest, selection = '.' :: rest) :
    Swizzle.base (String.ofList (word ++ selection)) = String.ofList word := by
  have noPoint : ∀ character ∈ word, (character != '.') = true := fun character present =>
    bne_iff_ne.mpr (Token.ne_of_isNameRest (Argument.isNameRest_of_mem named character present)
      (by decide))
  rw [Swizzle.base, Swizzle.baseChars, String.toList_ofList,
    List.takeWhile_append_of_pos noPoint]
  rcases selects with rfl | ⟨rest, rfl⟩ <;> simp

/-- A text that starts with a name depends on it, unless it calls a member of it. -/
theorem dependsOn_or_callsMember
    (named : Swizzle.isName name.toList = true)
    (starts : Swizzle.base (Text.trimmed text) = name) :
    interpreter.DependsOn text name ∨ CallsMember text name := by
  cases simple : Swizzle.isSimple (Text.trimmed text) with
  | true => exact .inl ((dependsOn_of_isSimple simple).mpr starts)
  | false =>
      rw [dependsOn_of_not_isSimple simple]
      obtain ⟨whole, rest⟩ := split_at_point (Text.trimmed text).toList
      have word : Swizzle.baseChars (Text.trimmed text).toList = name.toList := by
        rw [← starts, Swizzle.base, String.toList_ofList]
      rw [word] at whole
      rcases rest with none | pointed
      · rw [none, List.append_nil] at whole
        rw [isSimple_of_isName (by rw [whole, named])] at simple
        cases simple
      rw [pointed] at whole
      generalize Swizzle.selectionChars (Text.trimmed text).toList = after at whole
      have point : Swizzle.hasPoint (Text.trimmed text) = true := by
        rw [Swizzle.hasPoint, whole]
        simp
      have outside : ('.' :: after).head?.any Text.isWord = false := rfl
      have noWord : Option.none.any Text.isWord = false := rfl
      have found := Argument.scan_name noWord named outside
      obtain ⟨split, selects, _⟩ := Argument.splitSelection_spec outside
      generalize (Argument.splitSelection ('.' :: after)).1 = selection at found split selects
      generalize (Argument.splitSelection ('.' :: after)).2 = behind at found split
      cases called : Argument.isCalled behind with
      | false =>
          refine .inl ⟨String.ofList (name.toList ++ selection), ?_, ?_⟩
          · rw [dependencies, if_pos point, mem_names, whole, found, called,
              if_neg Bool.false_ne_true]
            exact List.mem_cons_self
          · rw [base_append named (selects.imp id fun ⟨letters, same, _⟩ => ⟨letters, same⟩),
              String.ofList_toList]
      | true =>
          rcases selects with rfl | ⟨letters, rfl, filled, parts⟩
          · rw [← show '.' :: after = behind from split.symm] at called
            cases called
          · rw [← split] at whole
            exact .inr ⟨letters, behind, whole, filled, parts, called⟩

theorem base_of_callsMember
    (named : Swizzle.isName name.toList = true)
    (calls : CallsMember text name) : Swizzle.base (Text.trimmed text) = name := by
  obtain ⟨member, behind, whole, _⟩ := calls
  rw [← String.ofList_toList (s := Text.trimmed text), whole,
    base_append named (.inr ⟨_, rfl⟩), String.ofList_toList]

end Interpreter

/-! ## The search for a name -/

namespace Action

open Interpreter

variable {interpreter : Interpreter} {name : String}

/-- By induction on the texts: the search finds a name if a text depends on it or calls a
member of it. -/
theorem readsVariable_eq_ok
    (named : Swizzle.isName name.toList = true)
    {texts : List String}
    {found : Bool}
    (searched : Attempt.outcome (readsVariable interpreter name texts) = .ok found) :
    found = true ↔ ∃ text ∈ texts, interpreter.DependsOn text name ∨ CallsMember text name := by
  induction texts with
  | nil =>
      cases searched
      simp
  | cons text rest inductionHypothesis =>
      rw [readsVariable] at searched
      rw [List.exists_mem_cons_iff]
      split at searched
      case isTrue starts =>
        cases searched
        exact iff_of_true rfl (.inl (dependsOn_or_callsMember named (eq_of_beq starts)))
      case isFalse starts =>
        have noMember : ¬CallsMember text name := fun calls =>
          starts (beq_iff_eq.mpr (base_of_callsMember named calls))
        have later (searched : Attempt.outcome (readsVariable interpreter name rest) = .ok found)
            (independent : ¬interpreter.DependsOn text name) :
            found = true ↔ (interpreter.DependsOn text name ∨ CallsMember text name) ∨
              ∃ text ∈ rest, interpreter.DependsOn text name ∨ CallsMember text name := by
          rw [inductionHypothesis searched, or_iff_right (not_or.mpr ⟨independent, noMember⟩)]
        split at searched
        case isTrue compound =>
          obtain ⟨reading, read, continued⟩ := Attempt.outcome_bind_eq_ok_iff.mp searched
          have depends : interpreter.DependsOn text name ↔
              (reading.argument.dependencies.any fun read => Swizzle.base read == name) = true := by
            rw [Interpreter.DependsOn, read, List.any_eq_true]
            constructor
            · rintro ⟨_, ⟨⟩, mention, listed, same⟩
              exact ⟨mention, listed, beq_iff_eq.mpr same⟩
            · rintro ⟨mention, listed, same⟩
              exact ⟨reading, rfl, mention, listed, eq_of_beq same⟩
          split at continued
          case isTrue mentions =>
            cases continued
            exact iff_of_true rfl (.inl (.inl (depends.mpr mentions)))
          case isFalse mentions => exact later continued (mt depends.mp mentions)
        case isFalse plain =>
          exact later searched fun depends =>
            starts (beq_iff_eq.mpr (base_of_dependsOn (Bool.eq_false_iff.mpr plain) depends))

end Action

/-! ## Declared uniforms -/

namespace Interpreter

variable {interpreter : Interpreter} {locals : LocalTypes} {texts : List String}
  {arguments : List Argument} {name : String}

/-- The bases that described arguments mention are the names that their texts depend on. -/
theorem mem_mentionedBases
    (described : Attempt.outcome (interpreter.describe locals texts) = .ok arguments) :
    name ∈ Shader.mentionedBases arguments ↔ ∃ text ∈ texts, interpreter.DependsOn text name := by
  rw [Shader.mentionedBases, List.mem_flatMap]
  constructor
  · rintro ⟨argument, listed, mentions⟩
    obtain ⟨text, present, outcome⟩ := Attempt.exists_of_mem_mapM described listed
    obtain ⟨reading, read, retyped⟩ := Attempt.outcome_bind_eq_ok_iff.mp outcome
    cases retyped
    obtain ⟨mention, isListed, same⟩ := List.mem_map.mp mentions
    rw [Argument.dependencies_retype] at isListed
    exact ⟨text, present, reading, read, mention, isListed, same⟩
  · rintro ⟨text, present, reading, read, mention, isListed, same⟩
    obtain ⟨argument, listed, outcome⟩ := Attempt.exists_outcome_of_mapM described present
    obtain ⟨_, alsoRead, retyped⟩ := Attempt.outcome_bind_eq_ok_iff.mp outcome
    cases read.symm.trans alsoRead
    cases retyped
    refine ⟨_, listed, List.mem_map.mpr ⟨mention, ?_, same⟩⟩
    rw [Argument.dependencies_retype]
    exact isListed

end Interpreter
end ShaderGraph
