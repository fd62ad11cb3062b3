import ShaderGraph.Proofs.Argument.Report
import ShaderGraph.Proofs.Decimal.Written
import ShaderGraph.Proofs.Shader.Block

/-!
# Constants in calls

A constant argument is passed by its value. The shading language has literals for finite
numbers only: a finite value is written as one, with a point or an exponent, while an
infinite value or no number at all is written as a word that is no literal.
-/

namespace ShaderGraph

/-- There is a digit in a numeral. -/
theorem IsNumeral.exists_digit
    {text : List Char}
    (isNumeral : IsNumeral text) : ∃ digit ∈ text, digit.isDigit = true := by
  have leading {digits : List Char} (filled : digits ≠ []) (all : digits.all Char.isDigit = true) :
      ∃ digit ∈ digits, digit.isDigit = true := by
    obtain ⟨first, rest, rfl⟩ := List.exists_cons_of_ne_nil filled
    exact ⟨first, List.mem_cons_self, List.all_eq_true.mp all first List.mem_cons_self⟩
  obtain ⟨whole, fraction, exponent, rfl, all, _, form⟩ := isNumeral
  have ofWhole (filled : whole ≠ []) :
      ∃ digit ∈ whole ++ (fraction ++ exponent), digit.isDigit = true := by
    obtain ⟨digit, present, isDigit⟩ := leading filled all
    exact ⟨digit, List.mem_append_left _ present, isDigit⟩
  rcases form with ⟨_, filled⟩ | ⟨digits, rfl, digitsAll, filled | ⟨filled, _⟩⟩
  · exact ofWhole filled
  · obtain ⟨digit, present, isDigit⟩ := leading filled digitsAll
    refine ⟨digit, List.mem_append_right _ (List.mem_append_left _ ?_), isDigit⟩
    exact List.mem_cons_of_mem _ present
  · exact ofWhole filled

namespace Decimal

/-- The marks that tell a floating-point number from a whole one. -/
def floatMarks : List Char := ['.', 'e', 'E']

/-- A positive decimal is written with a point or with an exponent. -/
theorem exists_mark_writeScaled (decimal : Scaled) :
    ∃ mark ∈ floatMarks, mark ∈ writeScaled decimal := by
  rw [writeScaled]
  split
  case isTrue =>
    refine ⟨'.', by decide, ?_⟩
    rw [positional]
    split
    · exact List.mem_cons_of_mem _ List.mem_cons_self
    · exact List.mem_append_right _ List.mem_cons_self
  case isFalse =>
    refine ⟨'e', by decide, ?_⟩
    rw [exponential]
    exact List.mem_append_right _ List.mem_cons_self

/-- A finite number is written with a point or with an exponent. -/
theorem exists_mark_write
    {value : Float}
    (finite : isFinite value = true) : ∃ mark ∈ floatMarks, mark ∈ (write value).toList := by
  rw [isFinite, decide_eq_true_eq] at finite
  have signed {magnitude : List Char} (marked : ∃ mark ∈ floatMarks, mark ∈ magnitude) :
      ∃ mark ∈ floatMarks, mark ∈
        (String.ofList (if isNegative value then '-' :: magnitude else magnitude)).toList := by
    obtain ⟨mark, listed, present⟩ := marked
    refine ⟨mark, listed, ?_⟩
    rw [String.toList_ofList]
    split
    · exact List.mem_cons_of_mem _ present
    · exact present
  have defined : ¬value.toBits.toNat % Nat.pow 2 63 > 0x7FF0000000000000 := by omega
  have bounded : ¬value.toBits.toNat % Nat.pow 2 63 = 0x7FF0000000000000 := by omega
  rw [write, if_neg defined, if_neg bounded]
  refine signed ?_
  split
  · exact ⟨'.', by decide, by decide⟩
  · exact exists_mark_writeScaled _

/-- The words that are written for what is not finite. -/
def endlessWords : List String := ["nan", "inf", "-inf"]

theorem write_of_not_isFinite
    {value : Float}
    (endless : isFinite value = false) : write value ∈ endlessWords := by
  rw [isFinite, decide_eq_false_iff_not] at endless
  rw [write]
  split
  case isTrue => decide
  case isFalse defined =>
    have bounded : value.toBits.toNat % Nat.pow 2 63 = 0x7FF0000000000000 := by omega
    rw [if_pos bounded]
    split <;> decide

end Decimal

namespace Shader

/-- The text of a floating-point literal of the shading language: an optional minus sign
and digits with a point or an exponent. -/
def IsFloatLiteral (text : List Char) : Prop :=
  ∃ sign numeral, text = sign ++ numeral ∧ (sign = [] ∨ sign = ['-']) ∧ IsNumeral numeral ∧
    ∃ mark ∈ Decimal.floatMarks, mark ∈ numeral

/-- The words for what is not finite are no literals: they have no digits. -/
theorem not_isFloatLiteral_of_word
    {word : String}
    (listed : word ∈ Decimal.endlessWords) : ¬IsFloatLiteral word.toList := by
  rintro ⟨sign, numeral, written, _, isNumeral, _⟩
  have letters : ∀ word ∈ Decimal.endlessWords, word.toList.all (!·.isDigit) = true := by
    decide
  obtain ⟨digit, present, isDigit⟩ := isNumeral.exists_digit
  have noDigit := List.all_eq_true.mp (letters word listed) digit
    (written ▸ List.mem_append_right sign present)
  rw [isDigit] at noDigit
  cases noDigit

/-- Exactly the finite numbers are written as literals. -/
theorem isFloatLiteral_write_iff (value : Float) :
    IsFloatLiteral (Decimal.write value).toList ↔ Decimal.isFinite value = true := by
  constructor
  · intro literal
    by_contra endless
    exact not_isFloatLiteral_of_word
      (Decimal.write_of_not_isFinite (Bool.eq_false_iff.mpr endless)) literal
  · intro finite
    obtain ⟨sign, numeral, written, signs, isNumeral⟩ := Decimal.write_of_isFinite finite
    obtain ⟨mark, listed, present⟩ := Decimal.exists_mark_write finite
    refine ⟨sign, numeral, written, signs, isNumeral, mark, listed, ?_⟩
    rw [written] at present
    refine (List.mem_append.mp present).resolve_left fun inSign => ?_
    rcases signs with rfl | rfl
    · cases inSign
    · rw [List.mem_singleton.mp inSign] at listed
      exact absurd listed (by decide)

end Shader

namespace Interpreter

variable {interpreter : Interpreter} {locals : LocalTypes} {texts : List String}
variable {arguments : List Argument}

/-- Whatever constant an argument is, it is passed by the value of its text, and what is
passed is a literal exactly if the value is finite. Otherwise it is one of three words. -/
theorem describe_passes_literal_iff
    (described : Attempt.outcome (interpreter.describe locals texts) = .ok arguments)
    {index : Nat}
    {argument : Argument}
    (found : arguments[index]? = some argument)
    (constant : argument.isConstant = true)
    (stem : String)
    (number : Nat) :
    ∃ text written, texts[index]? = some text ∧
      interpreter.evaluator.evaluate [] (Text.trimmed text) = .ok argument.value ∧
      (Shader.passedAll stem number arguments)[index]? = some written ∧
      (Shader.IsFloatLiteral written.toList ↔ Decimal.isFinite argument.value = true) ∧
      (Decimal.isFinite argument.value = false -> written ∈ Decimal.endlessWords) := by
  obtain ⟨sameLength, each⟩ := Attempt.getElem?_of_mapM described
  obtain ⟨text, isText⟩ : ∃ text, texts[index]? = some text := by
    obtain ⟨bound, _⟩ := List.getElem?_eq_some_iff.mp found
    exact ⟨_, List.getElem?_eq_getElem (sameLength ▸ bound)⟩
  obtain ⟨same, isSame, outcome⟩ := each index text isText
  cases isSame.symm.trans found
  obtain ⟨reading, read, retyped⟩ := Attempt.outcome_bind_eq_ok_iff.mp outcome
  cases retyped
  rw [Argument.isConstant_retype] at constant
  have value : (reading.argument.retype locals).value = reading.argument.value := by
    rw [Argument.retype_eq]
  have passed := getElem?_passedAll stem number found
  rw [Shader.passed, Argument.isConstant_retype, if_pos constant] at passed
  refine ⟨text, _, isText, ?_, passed, Shader.isFloatLiteral_write_iff _,
    Decimal.write_of_not_isFinite⟩
  rw [value]
  exact ((report_keeps read).2 constant).2

/-- A folded sum is passed as a literal. -/
theorem sum_passes_literal :
    ∃ arguments argument written,
      Attempt.outcome (describe {} [] ["time", "-2.0 * 3.5 + 1 / 4"]) = .ok arguments ∧
      arguments[1]? = some argument ∧ argument.isConstant = true ∧
      Decimal.isFinite argument.value = true ∧
      (Shader.passedAll "_expr" 0 arguments)[1]? = some written ∧
      Shader.IsFloatLiteral written.toList := by
  have folded : (Attempt.outcome (describe {} [] ["time", "-2.0 * 3.5 + 1 / 4"])).toOption.map
      (fun arguments => arguments[1]?.map fun argument =>
        (argument.isConstant, Decimal.isFinite argument.value)) = some (some (true, true)) := by
    decide +kernel
  cases described : Attempt.outcome (describe {} [] ["time", "-2.0 * 3.5 + 1 / 4"]) with
  | error failure =>
      rw [described] at folded
      cases folded
  | ok arguments =>
      rw [described] at folded
      obtain ⟨argument, found, kept⟩ := Option.map_eq_some_iff.mp (Option.some.inj folded)
      obtain ⟨constant, finite⟩ := Prod.mk.inj kept
      obtain ⟨_, written, _, _, passed, literal, _⟩ :=
        describe_passes_literal_iff described found constant "_expr" 0
      exact ⟨arguments, argument, written, rfl, found, constant, finite, passed,
        literal.mpr finite⟩

/-- A quotient by zero and a number beyond the range are constant, and the words that are
passed for them are no literals. -/
theorem endless_constants_pass_words :
    (Attempt.outcome (describe {} [] ["1 / 0", "0 / 0", "-1e999"])).toOption.map
        (fun arguments => (arguments.map Argument.isConstant,
          Shader.passedAll "_expr" 0 arguments)) =
      some ([true, true, true], ["inf", "nan", "-inf"]) ∧
    ∀ word ∈ ["inf", "nan", "-inf"], ¬Shader.IsFloatLiteral word.toList := by
  refine ⟨by decide +kernel, fun word listed => Shader.not_isFloatLiteral_of_word ?_⟩
  have words : ∀ word ∈ ["inf", "nan", "-inf"], word ∈ Decimal.endlessWords := by decide
  exact words word listed

end Interpreter
end ShaderGraph
