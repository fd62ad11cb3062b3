import ShaderGraph.Argument.Description
import ShaderGraph.Proofs.Argument.Points
import ShaderGraph.Proofs.Argument.Results
import ShaderGraph.Proofs.Argument.Typing

/-!
# Types of earlier results

An argument may be the result of an earlier node, some components of it, or arithmetic of
one of these with numbers. Results are typed by a table, in which only whole names are
found. So a description has the type of a result right wherever the result stands, but it
takes any selection of components for a number, also one of several components.
-/

namespace ShaderGraph

/-! ## Reading without a point -/

/-- A piece that means the same in an expression as in a shader: it is one token, and as an
operator it is one of the four of both. -/
def Piece.IsCommon : Piece -> Prop
  | .connective mark => mark ∈ Formula.vectorConnectives
  | piece => piece.IsToken

theorem Piece.IsCommon.isToken
    {piece : Piece}
    (common : piece.IsCommon) : piece.IsToken := by
  cases piece with
  | connective => trivial
  | _ => exact common

/-- The parentheses are known by their tokens. -/
theorem Piece.kind_parenthesis (piece : Piece) :
    (piece.kind = .symbol "(" ↔ piece = .opening) ∧
      (piece.kind = .symbol ")" ↔ piece = .closing) := by
  cases piece with
  | sign negative => cases negative <;> decide
  | connective mark => cases mark <;> decide
  | _ => simp [kind]

namespace Reader

variable {pieces : List Piece}

/-- A call opens where an opening piece comes next. -/
theorem opens_marksOf (number : Nat) (pieces : List Piece) :
    opens (marksOf number pieces) = true ↔ pieces.head? = some .opening := by
  rw [opens, decide_eq_true_iff]
  cases pieces with
  | nil => exact ⟨by rintro ⟨⟩, by rintro ⟨⟩⟩
  | cons piece rest =>
      rw [List.head?_cons, Option.some.injEq]
      exact piece.kind_parenthesis.1

/-- The names of the tokens that are not called are the words that are not. -/
theorem freeNames_marksOf
    (number : Nat)
    (tokens : ∀ piece ∈ pieces, piece.IsToken ∧ piece.IsPlain) :
    freeNames (marksOf number pieces) = Piece.mentioned (fun _ => []) pieces := by
  induction pieces generalizing number with
  | nil => rfl
  | cons piece rest inductionHypothesis =>
      obtain ⟨⟨isToken, plain⟩, behind⟩ := List.forall_mem_cons.mp tokens
      have names := inductionHypothesis (number + 1) behind
      cases piece with
      | word name selection =>
          have found : freeNames (marksOf number (.word name selection :: rest)) = _ :=
            freeNames_of_identifier rfl
          rw [found, isToken.identifier_eq plain, Piece.mentioned, ← names]
          exact congrArg (· ++ _) (if_congr (opens_marksOf (number + 1) rest) rfl rfl)
      | _ => exact names

/-- By induction on the pieces. -/
theorem isArithmetic_marksOf
    (number : Nat)
    (common : ∀ piece ∈ pieces, piece.IsCommon)
    (fit : Fit pieces) : IsArithmetic (marksOf number pieces) := by
  induction pieces generalizing number with
  | nil => exact ⟨by simp [marksOf, Expression.marksFrom, TokenKind.isArithmetic], .singleton _⟩
  | cons piece rest inductionHypothesis =>
      obtain ⟨first, behind⟩ := List.forall_mem_cons.mp common
      obtain ⟨fits, fitBehind⟩ := List.isChain_cons.mp fit
      refine (inductionHypothesis (number + 1) behind fitBehind).cons ?_ fun closes => ?_
      · change piece.kind.isArithmetic = true
        cases piece with
        | sign negative => cases negative <;> decide
        | connective mark =>
            have all : ∀ mark ∈ Formula.vectorConnectives,
                (Piece.connective mark).kind.isArithmetic = true := by decide
            exact all mark first
        | _ => rfl
      · rw [Bool.eq_false_iff, Ne, opens_marksOf]
        intro opening
        have impossible := fits _ opening
        rw [piece.kind_parenthesis.2.mp closes] at impossible
        cases impossible

end Reader

theorem Piece.IsLexical.isPlain
    {piece : Piece}
    (lexical : piece.IsLexical) : piece.IsPlain := by
  cases piece with
  | word name selection => exact lexical.1
  | _ => trivial

/-- What is read from a text of pieces includes every word of them that is neither called nor
a constant. -/
theorem Spaced.mem_of_reads
    {evaluator : Evaluator}
    {pieces : List Piece}
    {text name : String}
    {names : List String}
    (spaced : Spaced IsSourceGap 0 pieces (Text.trim text.toList))
    (common : ∀ piece ∈ pieces, piece.IsCommon)
    (lexical : ∀ piece ∈ pieces, piece.IsLexical)
    (fit : Fit pieces)
    (reading : evaluator.reads text = .ok names)
    (mentioned : name ∈ Piece.mentioned (fun _ => []) pieces)
    (noConstant : evaluator.constants.has name = false) : name ∈ names := by
  obtain ⟨valid, tree, accepted, rfl⟩ := Evaluator.exists_tree_of_reads reading
  have tokens (piece : Piece) (present : piece ∈ pieces) := (common piece present).isToken
  rw [spaced.kinds_all tokens fit (.inr valid)] at accepted
  have mentions := Expression.mentions_of_ofKinds (Reader.isArithmetic_marksOf 1 common fit)
    accepted
  have free := Reader.freeNames_marksOf 1 fun piece present =>
    ⟨tokens piece present, (lexical piece present).isPlain⟩
  rw [Reader.marksOf, ← mentions] at free
  rw [Evaluator.namesOf, Text.mem_sortedNames, List.mem_filter, free, noConstant]
  exact ⟨mentioned, rfl⟩

/-! ## Names outside of calls -/

/-- What masking leaves of pieces, and the zeros that it puts in, are literals and words. -/
theorem Piece.lexical_masked
    {pieces : List Piece}
    (lexical : ∀ piece ∈ pieces, piece.IsLexical)
    (state : Option Nat) : ∀ piece ∈ masked state pieces, piece.IsLexical := by
  have zero : (literal ['0']).IsLexical := by
    exact .inl ⟨⟨['0'], [], rfl, List.forall_mem_singleton.mpr rfl, .inl rfl⟩, rfl⟩
  fun_induction masked state pieces with
  | case1 => exact List.forall_mem_nil _
  | case2 name selection rest opens hypothesis =>
      exact List.forall_mem_cons.mpr ⟨zero, hypothesis (List.forall_mem_cons.mp lexical).2⟩
  | case3 name selection rest free hypothesis =>
      obtain ⟨first, behind⟩ := List.forall_mem_cons.mp lexical
      exact List.forall_mem_cons.mpr ⟨first, hypothesis behind⟩
  | case4 piece rest other hypothesis =>
      obtain ⟨first, behind⟩ := List.forall_mem_cons.mp lexical
      exact List.forall_mem_cons.mpr ⟨first, hypothesis behind⟩
  | case5 depth rest hypothesis => exact hypothesis (List.forall_mem_cons.mp lexical).2
  | case6 depth rest closed hypothesis => exact hypothesis (List.forall_mem_cons.mp lexical).2
  | case7 depth rest inside hypothesis => exact hypothesis (List.forall_mem_cons.mp lexical).2
  | case8 depth piece rest noOpening noClosing hypothesis =>
      exact hypothesis (List.forall_mem_cons.mp lexical).2

/-- Outside of the calls of a text that spells a formula, a search finds what the formula
mentions there. -/
theorem Formula.mem_names_mask
    {formula : Formula}
    {text : String}
    (lexical : ∀ piece ∈ formula.pieces, piece.IsLexical)
    (spaced : Spaced IsBlankGap 0 formula.pieces text.toList)
    (name : String) :
    name ∈ Argument.names (Call.mask text) ↔ name ∈ formula.masked.mentioned Piece.strays := by
  have masked := spaced.masks lexical formula.fit_pieces none 0
  have lexicalMasked := Piece.lexical_masked lexical none
  rw [formula.masked_pieces] at masked lexicalMasked
  have found := masked.scan_eq (fun _ _ => id) lexicalMasked formula.masked.fit_pieces
  rw [formula.masked.mentioned_pieces] at found
  rw [Interpreter.mem_names, Call.mask, String.toList_ofList, ← found]
  rfl

/-! ## Results -/

/-- The name of the variable with the result of a node. -/
def Reference.IsResult (name : List Char) : Prop :=
  ∃ node, stem <+: node ∧ Swizzle.isName node = true ∧ name = node ++ resultMark

/-- The local names are results, which are numbers or vectors. -/
def LocalTypes.AreResults (locals : LocalTypes) : Prop :=
  ∀ entry ∈ locals, Reference.IsResult entry.1.toList ∧
    entry.2 ∈ ["float", "vec2", "vec3", "vec4"]

namespace Reference.IsResult

variable {name : List Char}

/-- A result is named by a name. -/
theorem isName (result : IsResult name) : Swizzle.isName name = true := by
  obtain ⟨node, -, named, rfl⟩ := result
  exact Lexeme.isName_append_resultMark named

theorem not_mem (result : IsResult name) : '.' ∉ name := fun present =>
  Token.ne_of_isNameRest (Argument.isNameRest_of_mem result.isName '.' present) (by decide) rfl

theorem stemmed (result : IsResult name) : stem <+: name := by
  obtain ⟨node, stemmed, -, rfl⟩ := result
  exact stemmed.trans (List.prefix_append node resultMark)

/-- A result is none of the names without its stem. -/
theorem ne_of_stemless
    (result : IsResult name)
    {other : String}
    (stemless : stem.isPrefixOf other.toList = false)
    (behind : List Char) : other ≠ String.ofList (name ++ behind) := by
  rintro rfl
  have starts := result.stemmed.trans (List.prefix_append name behind)
  rw [String.toList_ofList, List.isPrefixOf_iff_prefix.mpr starts] at stemless
  cases stemless

/-- No built-in variable is called like a result. -/
theorem lookup? (result : IsResult name) :
    ({} : Builtins).lookup? (String.ofList name) = none := by
  have others : ∀ candidate ∈ ({} : Builtins).variableList.reverse,
      stem.isPrefixOf candidate.name.toList = false :=
    List.all_iff_forall_prop.mp (by decide)
  refine List.find?_eq_none.mpr fun candidate present same => ?_
  have other := result.ne_of_stemless (others candidate present) []
  rw [List.append_nil] at other
  exact other (beq_iff_eq.mp same)

/-- No constant of the evaluator starts like a result. -/
theorem has_constants (result : IsResult name) (behind : List Char) :
    ({} : Evaluator).constants.has (String.ofList (name ++ behind)) = false := by
  rw [Lexeme.has_default_constants, Bool.or_eq_false_iff]
  exact ⟨beq_false_of_ne (result.ne_of_stemless (by decide) behind).symm,
    beq_false_of_ne (result.ne_of_stemless (by decide) behind).symm⟩

end Reference.IsResult

namespace LocalTypes

variable {locals : LocalTypes}

/-- What is known of a result is one of the types of results. -/
theorem AreResults.of_find?
    (results : locals.AreResults)
    {name type : String}
    (known : locals.find? name = some type) :
    Reference.IsResult name.toList ∧ type ∈ ["float", "vec2", "vec3", "vec4"] :=
  results (name, type) (Table.mem_of_find? known)

/-- A name with a selection is no local name. -/
theorem AreResults.find?_selected
    (results : locals.AreResults)
    (name behind : List Char) : locals.find? (String.ofList (name ++ '.' :: behind)) = none := by
  cases known : locals.find? (String.ofList (name ++ '.' :: behind)) with
  | none => rfl
  | some type =>
      have noPoint := (results.of_find? known).1.not_mem
      rw [String.toList_ofList] at noPoint
      exact absurd (List.mem_append_right name List.mem_cons_self) noPoint

/-- The type that a mention of a local name has for an expression around it. -/
def vector? (locals : LocalTypes) (name : String) : Option String :=
  (locals.find? name).filter fun type => 1 < componentCount type

/-- The vector of a text is that of its first name that has one. -/
theorem localVector?_eq_findSome? (locals : LocalTypes) (text : String) :
    Argument.localVector? locals text =
      (Argument.names (Call.mask text)).findSome? locals.vector? := by
  rw [Argument.localVector?]
  congr 1
  funext name
  rw [vector?]
  cases locals.find? name with
  | none => rfl
  | some type => simp [Option.filter]

/-- A name that tells no vector type, neither as a built-in variable nor as a local name. -/
def IsSilent (locals : LocalTypes) (name : String) : Prop :=
  Interpreter.operandType? {} name = none ∧ locals.vector? name = none

end LocalTypes

namespace Formula

open Interpreter

variable {locals : LocalTypes} {formula operand : Formula}

/-- A number among local names: a literal, a variable that has not another type, one
component of any variable, a call, which counts as a number, or arithmetic of numbers. -/
inductive IsNumber (locals : LocalTypes) : Formula -> Prop
  | literal
      {text : List Char}
      (isDecimal : IsDecimal text) : IsNumber locals (.literal text)
  | name
      {name : List Char}
      (named : Swizzle.isName name = true)
      (builtin : ∀ known, ({} : Builtins).lookup? (String.ofList name) = some known ->
        known.type = "float")
      (result : ∀ type, locals.find? (String.ofList name) = some type -> type = "float") :
      IsNumber locals (.word name [])
  | component
      {name : List Char}
      {letter : Char}
      (named : Swizzle.isName name = true)
      (alphabetic : letter.isAlpha = true) : IsNumber locals (.word name ['.', letter])
  | group
      {inner : Formula}
      (number : IsNumber locals inner) : IsNumber locals (.group inner)
  | call
      {name : List Char}
      {arguments : List Formula}
      (named : Swizzle.isName name = true)
      (lexical : ∀ argument ∈ arguments, ∀ piece ∈ argument.pieces, piece.IsLexical) :
      IsNumber locals (.call name arguments)
  | signed
      {negative : Bool}
      {operand : Formula}
      (number : IsNumber locals operand) : IsNumber locals (.signed negative operand)
  | joined
      {connective : Connective}
      {left right : Formula}
      (known : connective ∈ vectorConnectives)
      (numberLeft : IsNumber locals left)
      (numberRight : IsNumber locals right) : IsNumber locals (.joined connective left right)

/-- A formula is an operand by itself or arithmetic of the operand and numbers. -/
inductive Scales (locals : LocalTypes) (operand : Formula) : Formula -> Prop
  | alone : Scales locals operand operand
  | group
      {inner : Formula}
      (scales : Scales locals operand inner) : Scales locals operand (.group inner)
  | signed
      {negative : Bool}
      {inner : Formula}
      (scales : Scales locals operand inner) : Scales locals operand (.signed negative inner)
  | numberLeft
      {connective : Connective}
      {left right : Formula}
      (known : connective ∈ vectorConnectives)
      (number : IsNumber locals left)
      (scales : Scales locals operand right) :
      Scales locals operand (.joined connective left right)
  | numberRight
      {connective : Connective}
      {left right : Formula}
      (known : connective ∈ vectorConnectives)
      (scales : Scales locals operand left)
      (number : IsNumber locals right) :
      Scales locals operand (.joined connective left right)

/-- The pieces of a number are lexical. -/
theorem IsNumber.lexical (number : formula.IsNumber locals) :
    ∀ piece ∈ formula.pieces, piece.IsLexical := by
  induction number with
  | literal isDecimal =>
      intro piece present
      obtain rfl := List.mem_singleton.mp present
      exact isDecimal.isLiteral
  | name named => exact lexical_word named (.inl rfl)
  | @component _ letter named alphabetic =>
      exact lexical_word named
        (isSelection_of_letters [letter] (by simpa using alphabetic) (by simp))
  | group _ inductionHypothesis => exact lexical_group inductionHypothesis
  | call named lexical => exact lexical_call named lexical
  | signed _ inductionHypothesis => exact lexical_signed inductionHypothesis
  | joined _ _ _ inductionLeft inductionRight =>
      exact lexical_joined inductionLeft inductionRight

/-- By induction on the number: none of its words outside of calls tells a vector type. -/
theorem IsNumber.silent
    (number : formula.IsNumber locals)
    (results : locals.AreResults) :
    ∀ name ∈ formula.masked.mentioned Piece.strays, locals.IsSilent name := by
  induction number with
  | literal isDecimal =>
      intro name stray
      have leads := isDecimal.head?_of_mem_strays stray
      have unknown : locals.find? name = none := by
        cases known : locals.find? name with
        | none => rfl
        | some type =>
            obtain ⟨behind, same⟩ := (results.of_find? known).1.stemmed
            rw [← same] at leads
            rcases leads with leads | leads <;> cases leads
      exact ⟨operandType?_of_exponent leads, by rw [LocalTypes.vector?, unknown]; rfl⟩
  | @name name named builtin result =>
      intro mention present
      obtain rfl := List.mem_singleton.mp present
      rw [List.append_nil]
      constructor
      · rw [(operandType?_word named).1]
        cases found : ({} : Builtins).lookup? (String.ofList name) with
        | none => rfl
        | some known => simp [builtin known found]
      · rw [LocalTypes.vector?]
        cases found : locals.find? (String.ofList name) with
        | none => rfl
        | some type =>
            rw [result type found]
            rfl
  | @component name letter named alphabetic =>
      intro mention present
      obtain rfl := List.mem_singleton.mp present
      constructor
      · rw [(operandType?_word named).2]
        cases ({} : Builtins).lookup? (String.ofList name) <;> rfl
      · rw [LocalTypes.vector?, results.find?_selected]
        rfl
  | group _ inductionHypothesis => exact inductionHypothesis
  | call => exact List.forall_mem_nil _
  | signed _ inductionHypothesis => exact inductionHypothesis
  | joined _ _ _ inductionLeft inductionRight =>
      exact List.forall_mem_append.mpr ⟨inductionLeft, inductionRight⟩

/-- The pieces of a scaled operand are lexical if those of the operand are. -/
theorem Scales.lexical
    (scales : Scales locals operand formula)
    (lexical : ∀ piece ∈ operand.pieces, piece.IsLexical) :
    ∀ piece ∈ formula.pieces, piece.IsLexical := by
  induction scales with
  | alone => exact lexical
  | group _ inductionHypothesis => exact lexical_group inductionHypothesis
  | signed _ inductionHypothesis => exact lexical_signed inductionHypothesis
  | numberLeft _ number _ inductionHypothesis =>
      exact lexical_joined number.lexical inductionHypothesis
  | numberRight _ _ number inductionHypothesis =>
      exact lexical_joined inductionHypothesis number.lexical

/-- By induction on the arithmetic: outside of calls it mentions what its operand mentions,
and nothing else that tells a vector type. -/
theorem Scales.mentioned_masked
    (scales : Scales locals operand formula)
    (results : locals.AreResults) :
    operand.masked.mentioned Piece.strays ⊆ formula.masked.mentioned Piece.strays ∧
      ∀ name ∈ formula.masked.mentioned Piece.strays,
        name ∈ operand.masked.mentioned Piece.strays ∨ locals.IsSilent name := by
  induction scales with
  | alone => exact ⟨List.Subset.refl _, fun _ => .inl⟩
  | group _ inductionHypothesis => exact inductionHypothesis
  | signed _ inductionHypothesis => exact inductionHypothesis
  | numberLeft _ number _ inductionHypothesis =>
      exact ⟨List.subset_append_of_subset_right _ inductionHypothesis.1,
        List.forall_mem_append.mpr
          ⟨fun name present => .inr (number.silent results name present), inductionHypothesis.2⟩⟩
  | numberRight _ _ number inductionHypothesis =>
      exact ⟨List.subset_append_of_subset_left _ inductionHypothesis.1,
        List.forall_mem_append.mpr
          ⟨inductionHypothesis.2, fun name present => .inr (number.silent results name present)⟩⟩

/-- A scaled operand mentions what the operand does. -/
theorem Scales.mentioned_subset
    (scales : Scales locals operand formula)
    (ofLiteral : List Char -> List String) :
    operand.mentioned ofLiteral ⊆ formula.mentioned ofLiteral := by
  induction scales with
  | alone => exact List.Subset.refl _
  | group _ inductionHypothesis => exact inductionHypothesis
  | signed _ inductionHypothesis => exact inductionHypothesis
  | numberLeft _ _ _ inductionHypothesis =>
      exact List.subset_append_of_subset_right _ inductionHypothesis
  | numberRight _ _ _ inductionHypothesis =>
      exact List.subset_append_of_subset_left _ inductionHypothesis

end Formula

/-! ## Descriptions -/

/-- A name with letters behind it, which a point sets apart if there are any. -/
def Formula.selected (name letters : List Char) : Formula :=
  .word name (if letters = [] then [] else '.' :: letters)

/-- The type of a variable in a shader with components selected, if any are. -/
def selectedType (type : String) (letters : List Char) : String :=
  if letters = [] then type else selectionType letters.length

namespace Argument

/-- A number that is not constant gets the type of the first local vector in it. -/
theorem type_retype_of_float
    {locals : LocalTypes}
    {argument : Argument}
    (number : argument.type = "float")
    (changing : argument.isConstant = false)
    (unknown : argument.isSimple = true -> locals.find? argument.code = none) :
    (argument.retype locals).type = (localVector? locals argument.code).getD "float" := by
  have none : (if argument.isSimple then locals.find? argument.code else none) = none := by
    split
    · exact unknown ‹_›
    · rfl
  rw [retype]
  simp only [none, changing, number, bne_self_eq_false, Bool.or_self, Bool.false_eq_true, if_false]
  cases localVector? locals argument.code with
  | none => exact number
  | some type => rfl

/-- A search that is told one thing only finds that. -/
theorem findSome?_eq_of_told
    {tell : String -> Option String}
    {names : List String}
    {told : Option String}
    (only : ∀ name ∈ names, tell name = none ∨ tell name = told)
    (telling : ∃ name ∈ names, tell name = told) : names.findSome? tell = told := by
  cases found : names.findSome? tell with
  | none =>
      obtain ⟨name, present, tells⟩ := telling
      rw [← tells, List.findSome?_eq_none_iff.mp found name present]
  | some type =>
      obtain ⟨name, present, tells⟩ := List.exists_of_findSome?_eq_some found
      rcases only name present with silent | same
      · rw [silent] at tells
        cases tells
      · exact tells.symm.trans same

end Argument

/-- Blanks around a text have no points. -/
theorem Swizzle.hasPoint_trimmed (text : String) :
    hasPoint (Text.trimmed text) = hasPoint text := by
  obtain ⟨before, after, whole, blanksBefore, blanksAfter⟩ := Text.exists_eq_append_trim text.toList
  have noPoint {blanks : List Char}
      (all : ∀ character ∈ blanks, Text.isBlank character = true) : '.' ∉ blanks :=
    fun present => nomatch all '.' present
  rw [hasPoint, hasPoint, Text.trimmed, String.toList_ofList]
  conv => rhs; rw [whole]
  simp [noPoint blanksBefore, noPoint blanksAfter]

/-- A text spells a formula in a shader and in an expression alike. -/
structure Formula.IsCommon (formula : Formula) (text : String) : Prop where
  spaced : Spaced IsSourceGap 0 formula.pieces (Text.trim text.toList)
  common : ∀ piece ∈ formula.pieces, piece.IsCommon

/-- A text spells arithmetic of a name, or of components of it, and numbers. If it has no
point and is read as an expression, it is spelled the same way there. -/
structure Formula.SpellsScaled
    (formula : Formula)
    (locals : LocalTypes)
    (name letters : List Char)
    (text : String) : Prop where
  alphabetic : letters.all Char.isAlpha = true
  few : letters.length ≤ 4
  scales : Formula.Scales locals (Formula.selected name letters) formula
  spaced : Spaced IsBlankGap 0 formula.pieces (Text.trim text.toList)
  common : Swizzle.hasPoint text = false ->
    ∀ names, ({} : Evaluator).reads (Text.trimmed text) = .ok names -> formula.IsCommon text

namespace Formula.SpellsScaled

open Interpreter

variable {locals : LocalTypes} {formula : Formula} {name letters : List Char}
  {text type : String}

/-- The name as it is written with the letters behind it. -/
def written (name letters : List Char) : String :=
  String.ofList (name ++ if letters = [] then [] else '.' :: letters)

/-- The pieces of a spelled formula are lexical. -/
theorem lexical
    (spells : formula.SpellsScaled locals name letters text)
    (named : Swizzle.isName name = true) : ∀ piece ∈ formula.pieces, piece.IsLexical := by
  refine spells.scales.lexical (lexical_word named ?_)
  split
  case isTrue => exact .inl rfl
  case isFalse filled => exact isSelection_of_letters letters spells.alphabetic filled

/-- A spelled formula is spaced in its trimmed text. -/
theorem spaced_trimmed (spells : formula.SpellsScaled locals name letters text) :
    Spaced IsBlankGap 0 formula.pieces (Text.trimmed text).toList := by
  rw [Text.trimmed, String.toList_ofList]
  exact spells.spaced

/-- The search finds the name with its letters. -/
theorem mem_names
    (spells : formula.SpellsScaled locals name letters text)
    (named : Swizzle.isName name = true) :
    written name letters ∈ Argument.names (Text.trimmed text) := by
  have found := spells.spaced_trimmed.scan_eq (fun _ _ => id) (spells.lexical named)
    formula.fit_pieces
  rw [Interpreter.mem_names, found, formula.mentioned_pieces]
  exact spells.scales.mentioned_subset _ (List.mem_singleton_self _)

/-- Outside of calls the search finds the name with its letters, and beside it nothing that
tells a vector type. -/
theorem names_mask
    (spells : formula.SpellsScaled locals name letters text)
    (named : Swizzle.isName name = true)
    (results : locals.AreResults) :
    written name letters ∈ Argument.names (Call.mask (Text.trimmed text)) ∧
      ∀ other ∈ Argument.names (Call.mask (Text.trimmed text)),
        other = written name letters ∨ locals.IsSilent other := by
  have found := formula.mem_names_mask (spells.lexical named) spells.spaced_trimmed
  obtain ⟨operand, others⟩ := spells.scales.mentioned_masked results
  refine ⟨(found _).mpr (operand (List.mem_singleton_self _)), fun other present => ?_⟩
  exact (others other ((found other).mp present)).imp_left List.mem_singleton.mp

/-- A result is no built-in variable, so that as a built-in variable it tells no type. -/
theorem operandType?_written (result : Reference.IsResult name) :
    operandType? {} (written name letters) = none := by
  obtain ⟨whole, selected⟩ := @operandType?_word {} name result.isName
  rw [written]
  split
  case isTrue => rw [List.append_nil, whole, result.lookup?, Option.bind_none]
  case isFalse => rw [selected, result.lookup?, Option.bind_none]

/-- No built-in variable tells a type. -/
theorem inferType_eq
    (spells : formula.SpellsScaled locals name letters text)
    (result : Reference.IsResult name)
    (results : locals.AreResults) : inferType {} (Text.trimmed text) = "float" := by
  obtain ⟨-, others⟩ := spells.names_mask result.isName results
  have silent : (Argument.names (Call.mask (Text.trimmed text))).findSome? (operandType? {}) =
      none := by
    refine List.findSome?_eq_none_iff.mpr fun other present => ?_
    rcases others other present with rfl | silent
    · exact operandType?_written result
    · exact silent.1
  rw [inferType, silent]
  rfl

/-- The result tells its type if it stands there without letters. With letters it is not
found among the local names. -/
theorem localVector?_eq
    (spells : formula.SpellsScaled locals name letters text)
    (results : locals.AreResults)
    (known : locals.find? (String.ofList name) = some type) :
    (Argument.localVector? locals (Text.trimmed text)).getD "float" =
      if letters = [] then type else "float" := by
  obtain ⟨result, vector⟩ := results.of_find? known
  rw [String.toList_ofList] at result
  obtain ⟨present, others⟩ := spells.names_mask result.isName results
  have told : locals.vector? (written name letters) =
      if letters = [] then (some type).filter (fun type => 1 < componentCount type) else none := by
    rw [LocalTypes.vector?, written]
    split
    case isTrue => rw [List.append_nil, known]
    case isFalse =>
      rw [results.find?_selected]
      rfl
  have found := Argument.findSome?_eq_of_told
    (fun other listed => (others other listed).symm.imp And.right fun same => by rw [same, told])
    ⟨_, present, told⟩
  rw [LocalTypes.localVector?_eq_findSome?, found]
  split
  case isTrue =>
    have numbers : ∀ type ∈ ["float", "vec2", "vec3", "vec4"],
        ((some type).filter fun type => 1 < componentCount type).getD "float" = type := by decide
    exact numbers type vector
  case isFalse => rfl

/-- An expression depends on the result in it. -/
theorem mem_dependencies
    (spells : formula.SpellsScaled locals name letters text)
    (result : Reference.IsResult name) :
    written name letters ∈ ({} : Interpreter).dependencies (Text.trimmed text) := by
  have searched := spells.mem_names result.isName
  rw [dependencies]
  split
  case isTrue => exact searched
  case isFalse noPoint =>
    split
    case h_2 => exact searched
    case h_1 names reading =>
      -- The evaluator has read the text, so its pieces are the tokens that it was read from.
      rw [Swizzle.hasPoint_trimmed, Bool.not_eq_true] at noPoint
      obtain ⟨spaced, common⟩ := spells.common noPoint names reading
      rw [← Text.trim_trim, ← String.toList_ofList (l := Text.trim text.toList)] at spaced
      refine Spaced.mem_of_reads spaced common (spells.lexical result.isName)
        formula.fit_pieces reading ?_ (result.has_constants _)
      rw [formula.mentioned_pieces]
      exact spells.scales.mentioned_subset _ (List.mem_singleton_self _)

/-- A simple variable is the result itself, with its letters. -/
theorem trimmed_eq_of_isSimple
    (spells : formula.SpellsScaled locals name letters text)
    (named : Swizzle.isName name = true)
    (simple : Swizzle.isSimple (Text.trimmed text) = true) :
    Text.trimmed text = written name letters := by
  have found := spells.mem_names named
  rw [Interpreter.mem_names, Argument.scan_trimmed_of_isSimple simple, List.mem_singleton] at found
  exact found.symm

end Formula.SpellsScaled

namespace Interpreter

variable {locals : LocalTypes} {formula : Formula} {name letters : List Char}
  {text type : String}

/-- An expression that depends on anything has a reading, which is not constant. -/
theorem compound_of_mem
    {interpreter : Interpreter}
    {name : String}
    (depends : name ∈ interpreter.dependencies text) :
    ∃ argument, interpreter.compound text = .ok argument ∧ argument.code = text ∧
      argument.type = inferType interpreter.builtins text ∧ argument.isConstant = false ∧
      argument.isSimple = false := by
  have filled : (interpreter.dependencies text).isEmpty = false := by
    rw [List.isEmpty_eq_false_iff]
    exact List.ne_nil_of_mem depends
  refine ⟨{ text, code := text, type := inferType interpreter.builtins text,
            dependencies := interpreter.dependencies text }, ?_,
    by dsimp only, by dsimp only, by dsimp only, by dsimp only⟩
  rw [compound, filled, if_neg Bool.false_ne_true]
  rfl

/-- A text with a reading is described by itself, and in the same way among others. -/
theorem describe_of_report
    (locals : LocalTypes)
    {interpreter : Interpreter}
    {reading : Reading}
    (read : Attempt.outcome (interpreter.report text) = .ok reading) :
    Attempt.outcome (interpreter.describe locals [text]) =
        .ok [reading.argument.retype locals] ∧
      ∀ (texts : List String) (arguments : List Argument) (index : Nat),
        Attempt.outcome (interpreter.describe locals texts) = .ok arguments ->
        texts[index]? = some text ->
        arguments[index]? = some (reading.argument.retype locals) := by
  constructor
  · rw [describe, List.mapM_cons]
    refine Attempt.outcome_bind_eq_ok_iff.mpr ⟨_, ?_, rfl⟩
    exact Attempt.outcome_bind_eq_ok_iff.mpr ⟨reading, read, rfl⟩
  · intro texts arguments index described found
    obtain ⟨argument, present, outcome⟩ := (Attempt.getElem?_of_mapM described).2 index text found
    obtain ⟨other, otherRead, retyped⟩ := Attempt.outcome_bind_eq_ok_iff.mp outcome
    cases read.symm.trans otherRead
    cases retyped
    exact present

/-- A simple variable is retyped by the table if it is a result, and it is a number if
components of one are selected. -/
theorem type_retype_simple
    (results : locals.AreResults)
    (known : locals.find? (String.ofList name) = some type)
    (spells : formula.SpellsScaled locals name letters text)
    (isSimple : Swizzle.isSimple (Text.trimmed text) = true) :
    ((simple ({} : Interpreter).builtins (Text.trimmed text)).retype locals).type =
      if letters = [] then type else "float" := by
  obtain ⟨result, -⟩ := results.of_find? known
  rw [String.toList_ofList] at result
  have whole := spells.trimmed_eq_of_isSimple result.isName isSimple
  have code : (simple {} (Text.trimmed text)).code = Text.trimmed text := rfl
  by_cases plain : letters = []
  · rw [if_pos plain]
    refine Argument.type_retype rfl ?_
    rw [code, whole, Formula.SpellsScaled.written, if_pos plain, List.append_nil, known]
  · -- The table is asked for the name with its selection, which it does not have.
    have unknown : locals.find? (Text.trimmed text) = none := by
      rw [whole, Formula.SpellsScaled.written, if_neg plain, results.find?_selected]
    have number : (simple {} (Text.trimmed text)).type = "float" := by
      have selects := base_append result.isName (.inr ⟨letters, rfl⟩)
      rw [simple, whole, Formula.SpellsScaled.written, if_neg plain, selects, result.lookup?]
    have changing : (simple {} (Text.trimmed text)).isConstant = false := rfl
    rw [Argument.type_retype_of_float number changing fun _ => unknown, code]
    exact spells.localVector?_eq results known

/-- The reading of arithmetic with a result is retyped to the type of the result if no
components of it are selected, and to a number otherwise. -/
theorem report_retypes_result
    (results : locals.AreResults)
    (known : locals.find? (String.ofList name) = some type)
    (spells : formula.SpellsScaled locals name letters text) :
    ∃ reading, Attempt.outcome (({} : Interpreter).report text) = .ok reading ∧
      (reading.argument.retype locals).type = if letters = [] then type else "float" := by
  obtain ⟨result, -⟩ := results.of_find? known
  rw [String.toList_ofList] at result
  -- Something is depended on, so nothing is evaluated that could stop the reading.
  obtain ⟨argument, compounded, code, inferred, changing, compound⟩ :=
    compound_of_mem (spells.mem_dependencies result)
  rcases report_cases {} text with ⟨isSimple, read, -⟩ | ⟨-, compounds⟩
  · refine ⟨_, read, ?_⟩
    dsimp only
    exact type_retype_simple results known spells isSimple
  rcases compounds with ⟨other, same, read, -⟩ | ⟨fault, stopped, -⟩ | ⟨obstacle, stopped, -⟩
  · cases compounded.symm.trans same
    refine ⟨_, read, ?_⟩
    have number := inferred.trans (spells.inferType_eq result results)
    have unknown (simple : argument.isSimple = true) : locals.find? argument.code = none := by
      rw [compound] at simple
      cases simple
    rw [Argument.type_retype_of_float number changing unknown, code]
    exact spells.localVector?_eq results known
  · cases compounded.symm.trans stopped
  · cases compounded.symm.trans stopped

/-- A result, or arithmetic of one and numbers, is described with the type that it has in a
shader if no components of the result or only one are selected. With several components it
is described as a number. -/
theorem describe_result_typed_iff
    (results : locals.AreResults)
    (known : locals.find? (String.ofList name) = some type)
    (spells : formula.SpellsScaled locals name letters text) :
    ∃ argument, Attempt.outcome (({} : Interpreter).describe locals [text]) = .ok [argument] ∧
      (∀ (texts : List String) (arguments : List Argument) (index : Nat),
        Attempt.outcome (({} : Interpreter).describe locals texts) = .ok arguments ->
        texts[index]? = some text -> arguments[index]? = some argument) ∧
      argument.type = (if letters = [] then type else "float") ∧
      (argument.type = selectedType type letters ↔ letters.length ≤ 1) := by
  obtain ⟨reading, read, typed⟩ := report_retypes_result results known spells
  obtain ⟨alone, among⟩ := describe_of_report locals read
  refine ⟨_, alone, among, typed, ?_⟩
  rw [typed, selectedType]
  by_cases plain : letters = []
  · simp [plain]
  · rw [if_neg plain, if_neg plain]
    have filled := List.length_pos_iff.mpr plain
    have lengths : letters.length = 1 ∨ letters.length = 2 ∨ letters.length = 3 ∨
        letters.length = 4 := by
      have few := spells.few
      omega
    rcases lengths with same | same | same | same <;> rw [same] <;> decide

/-- A result times the difference of a built-in variable and a literal. -/
def faded : Formula :=
  .joined .times
    (.group (.joined .minus (.word ['t', 'i', 'm', 'e'] []) (.literal ['2'])))
    (.word "shader_1_result".toList [])

theorem describe_faded_typed :
    faded.SpellsScaled [("shader_1_result", "vec3")] "shader_1_result".toList []
        "(time - 2) *\tshader_1_result " ∧
      ∃ argument,
        Attempt.outcome (({} : Interpreter).describe [("shader_1_result", "vec3")]
          ["(time - 2) *\tshader_1_result "]) = .ok [argument] ∧ argument.type = "vec3" := by
  have results : LocalTypes.AreResults [("shader_1_result", "vec3")] := by
    intro entry listed
    obtain rfl := List.mem_singleton.mp listed
    exact ⟨⟨"shader_1".toList, by decide, by decide, by decide⟩, by decide⟩
  have number : Formula.IsNumber [("shader_1_result", "vec3")]
      (.group (.joined .minus (.word ['t', 'i', 'm', 'e'] []) (.literal ['2']))) := by
    refine .group (.joined (by decide) (.name (by decide) ?_ (by rintro type ⟨⟩)) ?_)
    · rintro known ⟨⟩
      rfl
    · exact .literal ⟨['2'], [], [], rfl, by decide, .inl rfl, .inl ⟨rfl, by decide⟩⟩
  have common : ∀ piece ∈ faded.pieces, piece.IsCommon := by
    have minus : .minus ∈ Formula.vectorConnectives := by decide
    have times : .times ∈ Formula.vectorConnectives := by decide
    simp only [faded, Formula.pieces, List.cons_append, List.nil_append, List.forall_mem_cons]
    exact ⟨trivial, ⟨by decide +kernel, rfl⟩, minus, ⟨.inl rfl, by decide⟩, trivial, times,
      ⟨by decide +kernel, rfl⟩, List.forall_mem_nil _⟩
  have spaced : Spaced IsSourceGap 0 faded.pieces
      (Text.trim "(time - 2) *\tshader_1_result ".toList) :=
    .piece (.piece (.gap (.inl rfl) (.piece (.gap (.inl rfl) (.piece (.piece
      (.gap (.inl rfl) (.piece (.gap (.inl rfl) (.piece .nil))))))))))
  have spells : faded.SpellsScaled [("shader_1_result", "vec3")] "shader_1_result".toList []
      "(time - 2) *\tshader_1_result " := {
    alphabetic := rfl
    few := by decide
    scales := .numberLeft (by decide) number .alone
    spaced := spaced.imp fun _ _ => isBlank_of_isSourceGap
    common := fun _ _ _ => ⟨spaced, common⟩ }
  obtain ⟨argument, described, -, typed, -⟩ := describe_result_typed_iff results rfl spells
  exact ⟨spells, argument, described, typed⟩

/-- Two components of a result are described as a number, alone and times a number. -/
theorem describe_components_untyped :
    (Attempt.outcome (({} : Interpreter).describe [("shader_1_result", "vec3")]
        ["shader_1_result.xy", "shader_1_result.xy * 2.0"])).toOption.map
      (List.map Argument.type) = some ["float", "float"] ∧
    selectedType "vec3" ['x', 'y'] = "vec2" := by
  decide +kernel

end Interpreter
end ShaderGraph
