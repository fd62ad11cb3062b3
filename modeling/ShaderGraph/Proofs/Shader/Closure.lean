import ShaderGraph.Proofs.Argument.Arithmetic
import ShaderGraph.Proofs.Decimal.Written
import ShaderGraph.Proofs.Shader.Embedding

/-!
# Names in the main function

The arguments of a call come into the main function as they are written, apart from
constants, which come in by value. The names in them are declared: what an argument
depends on is a uniform, a variable that is computed first, or a variable of the shading
language. The evaluator's own constants are no dependencies of a text that it reads, so a
text with one of them is written with a name that nothing declares.
-/

namespace ShaderGraph

theorem Generator.mem_paragraph {lines : List String} {line : String} (listed : line ∈ lines) :
    line ∈ paragraph lines := by
  rw [paragraph, if_neg (by simpa using List.ne_nil_of_mem listed)]
  exact List.mem_append_left _ listed

namespace Shader

/-- A name has a meaning in a fragment stage: it is a uniform, or a variable that is
computed beforehand, from a uniform if it needs one, or it is part of the language. -/
inductive Declares
    (builtins : Builtins)
    (uniforms declarations : List String)
    (name : String) : Prop
  | uniform (listed : name ∈ uniforms)
  | computed
      {known : Variable}
      (found : builtins.lookup? name = some known)
      (needed : known.needsDeclaration = true)
      (declared : statement known.declaration ∈ declarations)
      (asked : known.needsUniform = true ->
        (if name = "st" then "resolution" else name) ∈ uniforms)
  | provided
      {known : Variable}
      (found : builtins.lookup? name = some known)
      (needless : known.needsUniform = false ∧ known.needsDeclaration = false)

/-- The coordinate is computed and not handed over. -/
def ComputesCoordinate (builtins : Builtins) : Prop :=
  ∀ known, builtins.lookup? "st" = some known -> known.needsUniform = true ->
    known.needsDeclaration = true

/-- Of the variables that every shader can use, one is computed and one is part of the
language. -/
theorem declares_default_iff {uniforms declarations : List String} {name : String} :
    Declares {} uniforms declarations name ↔
      name ∈ uniforms ∨
        name = "st" ∧ coordinateLine ∈ declarations ∧ "resolution" ∈ uniforms ∨
        name = "gl_FragCoord" := by
  constructor
  · rintro (listed | @⟨known, found, needed, declared, asked⟩ | @⟨known, found, needless⟩)
    · exact .inl listed
    · have same : name = "st" := by
        rw [lookup?_default] at found
        grind
      subst same
      cases found
      exact .inr (.inl ⟨rfl, declared, asked rfl⟩)
    · rw [lookup?_default] at found
      have same : name = "gl_FragCoord" := by grind
      exact .inr (.inr same)
  · rintro (listed | ⟨rfl, declared, listed⟩ | rfl)
    · exact .uniform listed
    · exact .computed (lookup?_default "st") rfl declared fun _ => listed
    · exact .provided (lookup?_default "gl_FragCoord") ⟨rfl, rfl⟩

/-- What arguments depend on is declared. -/
theorem declares_of_mem_mentionedBases
    {builtins : Builtins}
    {arguments : List Argument}
    {base : String}
    (computed : ComputesCoordinate builtins)
    (mentioned : base ∈ mentionedBases arguments) :
    Declares builtins (Text.sortedNames (uniforms builtins [] arguments))
      (Generator.paragraph (declarations builtins (usedVariables builtins arguments))) base := by
  have asks {name : String} (asked : uniformOf? builtins base = some name) :
      name ∈ Text.sortedNames (uniforms builtins [] arguments) :=
    Text.mem_sortedNames.mpr (List.mem_filterMap.mpr
      ⟨base, List.mem_filter.mpr ⟨mentioned, by simp⟩, asked⟩)
  cases found : builtins.lookup? base with
  | none => exact .uniform (asks (by rw [uniformOf?, found]))
  | some known =>
      have asked (uniform : known.needsUniform = true) :
          (if base = "st" then "resolution" else base) ∈
            Text.sortedNames (uniforms builtins [] arguments) := by
        refine asks ?_
        rw [uniformOf?, found]
        simp only [uniform, Bool.not_true, Bool.false_eq_true, if_false, beq_iff_eq]
        split <;> rfl
      cases needed : known.needsDeclaration with
      | true =>
          refine .computed found needed (Generator.mem_paragraph ?_) asked
          refine List.mem_filterMap.mpr ⟨base, Text.mem_sortedNames.mpr ?_, ?_⟩
          · exact List.mem_filter.mpr ⟨mentioned, by rw [Builtins.isVariable, found]; rfl⟩
          · rw [declaration?, found]
            exact if_pos needed
      | false =>
          cases uniform : known.needsUniform with
          | false => exact .provided found ⟨uniform, needed⟩
          | true =>
              have other : base ≠ "st" := by
                rintro rfl
                rw [computed known found uniform] at needed
                cases needed
              have listed := asked uniform
              rw [if_neg other] at listed
              exact .uniform listed

end Shader

namespace Generator

/-- What is written of an argument is passed, or it is the value of a temporary that is
passed. -/
def Writes (main passed : List String) (index : Nat) (written : String) : Prop :=
  passed[index]? = some written ∨
    passed[index]? = some (Shader.temporary defaultStem index) ∧
      ∃ type : String,
        Shader.statement s!"{type} {Shader.temporary defaultStem index} = {written}" ∈ main

theorem length_passedAll (stem : String) (number : Nat) (arguments : List Argument) :
    (Shader.passedAll stem number arguments).length = arguments.length := by
  induction arguments generalizing number with
  | nil => rfl
  | cons argument rest inductionHypothesis =>
      exact congrArg Nat.succ (inductionHypothesis (number + 1))

variable {generator : Generator} {texts : List String} {arguments : List Argument}

/-- An argument is passed by its value, or it is written as it is. -/
theorem passed_or_writes
    {rest : List String}
    {index : Nat}
    {argument : Argument}
    (found : arguments[index]? = some argument) :
    argument.isConstant = true ∧
        (Shader.passedAll defaultStem 0 arguments)[index]? = some (Decimal.write argument.value) ∨
      Writes (paragraph (Shader.temporaries defaultStem 0 arguments) ++ rest)
        (Shader.passedAll defaultStem 0 arguments) index argument.code := by
  have passed := getElem?_passedAll defaultStem 0 found
  rw [Shader.passed, Nat.zero_add] at passed
  cases constant : argument.isConstant with
  | true =>
      rw [constant, if_pos rfl] at passed
      exact .inl ⟨rfl, passed⟩
  | false =>
      rw [constant, if_neg Bool.false_ne_true] at passed
      cases simple : argument.isSimple with
      | true =>
          rw [simple, if_pos rfl] at passed
          exact .inr (.inl passed)
      | false =>
          rw [simple, if_neg Bool.false_ne_true] at passed
          refine .inr (.inr ⟨passed, argument.type, List.mem_append_left _ (mem_paragraph ?_)⟩)
          rw [← lines_temporaryLocals defaultStem [] 0 arguments]
          refine List.mem_map.mpr ⟨⟨argument.type, Shader.temporary defaultStem index,
            argument.code, []⟩, mem_temporaryLocals.mpr ⟨index, argument, found, ?_, ?_⟩, rfl⟩
          · rw [Shader.needsTemporary, simple, constant]
            rfl
          · rw [Nat.zero_add]

/-- Whenever a shader of a call is generated, every argument is written as it is, or it is
a constant that is passed by its value, which is written as a numeral if it is finite. In
an arithmetic argument all names that are not called are declared beforehand, apart from
constants of the evaluator in a text without a point. -/
theorem generate_declares_written
    {code name : String}
    {shader : Shader}
    (computed : Shader.ComputesCoordinate generator.vocabulary.builtins)
    (generated : Attempt.outcome (generator.generate code name texts) = .ok shader) :
    ∃ (uniforms declarations main passed : List String) (type callee functions : String),
      shader.fragment = Shader.fragmentStage
        ("\n".intercalate (uniforms.map (Shader.uniformLine generator.vocabulary.builtins)))
        functions (declarations ++ main) ∧
      callStatement type "result" callee passed ∈ main ∧ passed.length = texts.length ∧
      ∀ (index : Nat) (text : String), texts[index]? = some text ->
        (Writes main passed index (Text.trimmed text) ∧
          ∀ lexemes, Lexeme.Compose lexemes text -> ∀ read ∈ Lexeme.mentioned lexemes,
            Shader.Declares generator.vocabulary.builtins uniforms declarations
                (Swizzle.base read) ∨
              (read = "pi" ∨ read = "e") ∧ '.' ∉ Lexeme.written lexemes) ∨
        ((∀ lexemes, Lexeme.Compose lexemes text -> ∀ read ∈ Lexeme.mentioned lexemes,
            read = "pi" ∨ read = "e") ∧
          ∃ value, passed[index]? = some (Decimal.write value) ∧
            (Decimal.isFinite value = true ->
              ∃ sign numeral, (Decimal.write value).toList = sign ++ numeral ∧
                (sign = [] ∨ sign = ['-']) ∧ IsNumeral numeral)) := by
  obtain ⟨arguments, described, assembled⟩ := generate_eq_ok_iff.mp generated
  obtain ⟨overload, callee, functions, _, _, _, fragment⟩ := shape_of_assemble assembled
  obtain ⟨sameLength, each⟩ := Attempt.getElem?_of_mapM described
  rw [List.append_assoc] at fragment
  refine ⟨_, _, _, _, _, callee, functions, fragment, List.mem_append_right _ List.mem_cons_self,
    (length_passedAll _ _ _).trans sameLength, fun index text found => ?_⟩
  obtain ⟨argument, isArgument, outcome⟩ := each index text found
  obtain ⟨reading, read, retyped⟩ := Attempt.outcome_bind_eq_ok_iff.mp outcome
  cases retyped
  obtain ⟨code, constant⟩ := Interpreter.report_keeps read
  rcases passed_or_writes isArgument with ⟨isConstant, passed⟩ | writes
  · refine .inr ⟨fun lexemes compose mention listed => ?_, _, passed,
      Decimal.write_of_isFinite⟩
    rw [Argument.isConstant_retype] at isConstant
    rcases compose.dependsOn_or_constant generator.vocabulary.builtins listed with
      ⟨_, sameRead, depends⟩ | ⟨isConstant, _⟩
    · cases read.symm.trans sameRead
      rw [(constant isConstant).1] at depends
      simp at depends
    · exact isConstant
  · rw [Argument.code_retype, code] at writes
    refine .inl ⟨writes, fun lexemes compose mention listed => ?_⟩
    refine (compose.dependsOn_or_constant generator.vocabulary.builtins listed).imp_left
      fun depends => Shader.declares_of_mem_mentionedBases computed ?_
    exact (Interpreter.mem_mentionedBases described).mpr
      ⟨text, List.mem_of_getElem? found, depends⟩

end Generator

/-! ## A constant among the names -/

namespace Lexeme

/-- The coordinate times a name. -/
def scaled : List Lexeme :=
  [.word ['s', 't'] ['.', 'x'], .blank ' ', .mark '*', .blank ' ', .word ['f', 'o', 'o'] []]

theorem compose_scaled : Compose scaled "st.x * foo" where
  arithmetic :=
    .word rfl (by decide) (.inr ⟨['x'], rfl, by simp, by simp; decide⟩) rfl <| .blank rfl <|
      .mark (by decide) (.inr (by decide)) (by rintro ⟨⟩) <| .blank rfl <|
        .word rfl (by decide) (.inl rfl) rfl .nil
  text := by decide

/-- The time times a constant of the evaluator. -/
def turned : List Lexeme :=
  [.word ['t', 'i', 'm', 'e'] [], .blank ' ', .mark '*', .blank ' ', .word ['p', 'i'] []]

theorem compose_turned : Compose turned "time * pi" where
  arithmetic :=
    .word rfl (by decide) (.inl rfl) rfl <| .blank rfl <|
      .mark (by decide) (.inr (by decide)) (by rintro ⟨⟩) <| .blank rfl <|
        .word rfl (by decide) (.inl rfl) rfl .nil
  text := by decide

end Lexeme

namespace Generator

theorem scaled_declares_written :
    Shader.ComputesCoordinate {} ∧
    ∃ (shader : Shader) (uniforms declarations main passed : List String) (functions : String),
      Attempt.outcome (generate {} "" "palette" ["st.x * foo"]) = .ok shader ∧
      shader.fragment = Shader.fragmentStage
        ("\n".intercalate (uniforms.map (Shader.uniformLine {}))) functions
        (declarations ++ main) ∧
      Writes main passed 0 "st.x * foo" ∧
      Shader.Declares {} uniforms declarations "st" ∧
      Shader.Declares {} uniforms declarations "foo" := by
  have computed : Shader.ComputesCoordinate {} := by
    intro known found _
    cases found
    rfl
  have accepted : (Attempt.outcome (generate {} "" "palette" ["st.x * foo"])).toBool = true := by
    decide +kernel
  cases generated : Attempt.outcome (generate {} "" "palette" ["st.x * foo"]) with
  | error failure =>
      rw [generated] at accepted
      cases accepted
  | ok shader =>
      obtain ⟨uniforms, declarations, main, passed, _, _, functions, fragment, _, _, written⟩ :=
        generate_declares_written computed generated
      have listed : ∀ read ∈ ["st.x", "foo"], read ∈ Lexeme.mentioned Lexeme.scaled := by
        decide
      rcases written 0 "st.x * foo" rfl with ⟨writes, declares⟩ | ⟨constants, _⟩
      · refine ⟨computed, shader, uniforms, declarations, main, passed, functions, rfl, fragment,
          writes, ?_, ?_⟩
        · exact (declares _ Lexeme.compose_scaled _ (listed "st.x" (by simp))).resolve_right
            fun ⟨isConstant, _⟩ => absurd isConstant (by decide)
        · exact (declares _ Lexeme.compose_scaled _ (listed "foo" (by simp))).resolve_right
            fun ⟨isConstant, _⟩ => absurd isConstant (by decide)
      · exact absurd (constants _ Lexeme.compose_scaled _ (listed "foo" (by simp))) (by decide)

/-- A constant of the evaluator stands in the main function, and nothing declares it. -/
theorem turned_leaves_constant_undeclared :
    ∃ (shader : Shader) (main passed : List String),
      Attempt.outcome (generate {} "" "palette" ["time * pi"]) = .ok shader ∧
      shader.fragment = Shader.fragmentStage
        ("\n".intercalate (["time"].map (Shader.uniformLine {}))) "" main ∧
      callStatement "vec3" "result" "palette" passed ∈ main ∧
      Writes main passed 0 "time * pi" ∧
      Lexeme.Compose Lexeme.turned "time * pi" ∧ "pi" ∈ Lexeme.mentioned Lexeme.turned ∧
      ¬Shader.Declares {} ["time"] main "pi" := by
  have fragment : (Attempt.outcome (generate {} "" "palette" ["time * pi"])).toOption.map
      Shader.fragment = some (Shader.fragmentStage
        ("\n".intercalate (["time"].map (Shader.uniformLine {}))) ""
        ["    float _expr0 = time * pi;", "", "    vec3 result = palette(_expr0);",
          "    outputColor = vec4(result, 1.0);"]) := by
    decide +kernel
  cases generated : Attempt.outcome (generate {} "" "palette" ["time * pi"]) with
  | error failure =>
      rw [generated] at fragment
      cases fragment
  | ok shader =>
      rw [generated] at fragment
      refine ⟨shader, _, ["_expr0"], rfl, Option.some.inj fragment, by decide,
        .inr ⟨rfl, "float", by decide⟩, Lexeme.compose_turned, by decide, ?_⟩
      rw [Shader.declares_default_iff]
      decide

end Generator
end ShaderGraph
