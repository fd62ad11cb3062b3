import ShaderGraph.Proofs.Expression.Lexeme
import ShaderGraph.Proofs.Expression.Relocation

/-!
# Scanned texts

A text that is read as an expression is scanned into tokens that are all valid. What the
scan finds does not depend on where it starts, so the tokens of a text are found lexeme by
lexeme. A literal is scanned into a number, with a sign or without, and reads no names.
-/

namespace ShaderGraph
namespace Token

variable {rest : List Char}

/-! ## Scanned texts -/

/-- The kinds of the tokens of a text, all of which are valid, as a scan finds them from
some place on. -/
def Scans (text : List Char) (found : List TokenKind) : Prop :=
  ∃ fuel place brackets emptyLine, AreValid (scan fuel place brackets emptyLine text) ∧
    kinds (scan fuel place brackets emptyLine text) = found

namespace Scans

variable {found : List TokenKind} {first : Char}

theorem of_valid {text : List Char} (valid : AreValid (all text)) :
    Scans (Text.unifyLineBreaks text) (kinds (all text)) :=
  ⟨_, _, _, _, valid, rfl⟩

theorem nil (scans : Scans [] found) : found = [.stop] := by
  obtain ⟨fuel, place, brackets, emptyLine, valid, rfl⟩ := scans
  cases fuel with
  | zero => exact absurd valid (not_areValid place)
  | succ => rfl

theorem gap
    (isGap : isGap first = true)
    (scans : Scans (first :: rest) found) : Scans rest found := by
  obtain ⟨fuel, place, brackets, emptyLine, valid, rfl⟩ := scans
  cases fuel with
  | zero => exact absurd valid (not_areValid place)
  | succ fuel =>
      rw [scan_gap _ _ _ _ isGap] at valid ⊢
      exact ⟨_, _, _, _, valid, rfl⟩

/-- A token without fields is followed by the tokens of the text behind it. -/
theorem token
    (word : List Char)
    (noGap : isGap first = false)
    (other : first ∉ ['\n', '#', '\\'])
    (fields : (cut (first :: word ++ rest)).fields = [])
    (behind : (cut (first :: word ++ rest)).rest = rest)
    (scans : Scans (first :: word ++ rest) found) :
    (cut (first :: word ++ rest)).kind ≠ .invalid ∧
      ∃ others, found = (cut (first :: word ++ rest)).kind :: others ∧ Scans rest others := by
  obtain ⟨fuel, place, brackets, emptyLine, valid, rfl⟩ := scans
  cases fuel with
  | zero => exact absurd valid (not_areValid place)
  | succ fuel =>
      rw [List.cons_append] at valid fields behind ⊢
      rw [scan_token _ _ _ _ noGap other, fields, behind] at valid ⊢
      split at valid
      case isTrue => exact absurd valid (not_areValid place)
      case isFalse accepted =>
        rw [if_neg accepted]
        exact ⟨fun invalid => accepted (.inl invalid), _, rfl, _, _, _, _, valid.tail, rfl⟩

end Scans

/-! ## Lexemes -/

theorem ne_of_isNameRest_head
    {first : Char}
    (part : Text.isNameRest first = true) :
    isGap first = false ∧ first ∉ ['\n', '#', '\\'] := by
  refine ⟨?_, ?_⟩
  · rw [isGap, beq_false_of_ne (ne_of_isNameRest part (by decide)),
      beq_false_of_ne (ne_of_isNameRest part (by decide)),
      beq_false_of_ne (ne_of_isNameRest part (by decide))]
    rfl
  · simp only [List.mem_cons, List.not_mem_nil, or_false, not_or]
    exact ⟨ne_of_isNameRest part (by decide), ne_of_isNameRest part (by decide),
      ne_of_isNameRest part (by decide)⟩

namespace Scans

variable {found : List TokenKind} {first : Char}

/-- A whole number in front of neither a word nor a point is found as a number. -/
theorem whole
    {text : List Char}
    (isWhole : IsWhole text)
    (ends : rest.head?.any Text.isNameRest = false)
    (noPoint : rest.head? ≠ some '.')
    (scans : Scans (text ++ rest) found) :
    ∃ value others, found = .number value :: others ∧ Scans rest others := by
  obtain ⟨numeric, fields, behind⟩ := cut_whole isWhole ends noPoint
  obtain ⟨digits, exponent, rfl, filled, all, _⟩ := isWhole.split
  obtain ⟨first, more, rfl⟩ := List.exists_cons_of_ne_nil filled
  have digit : first.isDigit = true := List.all_eq_true.mp all first List.mem_cons_self
  obtain ⟨noGap, other⟩ := ne_of_isNameRest_head (isNameRest_of_isDigit digit)
  obtain ⟨valid, others, rfl, othersScans⟩ := scans.token (more ++ exponent) noGap other
    fields behind
  obtain ⟨value, same⟩ := numeric.resolve_left valid
  exact ⟨value, others, congrArg (· :: others) same, othersScans⟩

/-- A name in front of neither a word nor a quote is found as a word. -/
theorem name
    {word : List Char}
    (named : Swizzle.isName word = true)
    (ends : rest.head?.any isIdentifierLike = false)
    (noQuote : ∀ character, rest.head? = some character -> character ≠ '\'' ∧ character ≠ '"')
    (scans : Scans (word ++ rest) found) :
    ∃ others, found = wordKind word :: others ∧ Scans rest others := by
  have isCut := cut_identifier (isIdentifier_of_isName named) ends noQuote
  have parts := Argument.isNameRest_of_mem named
  cases word with
  | nil => cases named
  | cons first word =>
      obtain ⟨noGap, other⟩ := ne_of_isNameRest_head (parts first List.mem_cons_self)
      obtain ⟨_, others, rfl, othersScans⟩ := scans.token word noGap other (by rw [isCut])
        (by rw [isCut])
      exact ⟨others, by rw [isCut], othersScans⟩

/-- A mark that starts no longer symbol is found as a symbol. -/
theorem punctuation
    (isMark : first ∈ Token.punctuation)
    (ends : first ∈ separators ∨ endsSymbol rest = true)
    (scans : Scans (first :: rest) found) :
    ∃ others, found = .symbol (String.singleton first) :: others ∧ Scans rest others := by
  have isCut := cut_punctuation isMark ends
  have solid : isGap first = false ∧ first ∉ ['\n', '#', '\\'] := by
    simp only [Token.punctuation, List.mem_cons, List.not_mem_nil, or_false] at isMark
    rcases isMark with rfl | rfl | rfl | rfl | rfl | rfl | rfl <;> decide
  have whole : cut (first :: [] ++ rest) = _ := isCut
  obtain ⟨_, others, rfl, othersScans⟩ := scans.token [] solid.1 solid.2 (by rw [whole])
    (by rw [whole])
  exact ⟨others, by rw [whole], othersScans⟩

end Scans

/-- A name is an identifier as it is written, unless it is a keyword. -/
theorem wordKind_of_isName
    {word : List Char}
    (named : Swizzle.isName word = true) :
    wordKind word =
      if keywords.contains (String.ofList word) then .keyword (String.ofList word)
      else .identifier (String.ofList word) := by
  have parts := Argument.isNameRest_of_mem named
  have plain : Text.normalForm word = word := by
    rw [Text.normalForm, if_pos]
    rw [List.all_eq_true]
    intro character present
    obtain ⟨_, bound⟩ := Reference.toNat_of_isNameRest (parts character present)
    exact decide_eq_true bound
  rw [wordKind, isIdentifier_of_isName named, plain]
  rfl

end Token

/-! ## Expressions -/

/-- An expression comes of valid tokens that the grammar accepts, with their columns. -/
theorem Expression.parse?_eq_ok
    {text : List Char}
    {expression : Expression}
    (found : parse? text = .ok expression) :
    Token.AreValid (Token.all text) ∧
      ∃ tree, ofKinds (Token.kinds (Token.all text)) = .ok tree ∧
        expression = tree.relocate fun number => (placeOf (Token.all text) number).column := by
  rw [parse?] at found
  split at found
  case h_1 => cases found
  case h_2 => cases found
  case h_3 tree read noInvalid =>
    rw [List.find?_eq_none] at noInvalid
    exact ⟨fun token present => by simpa using noInvalid token present, tree, read,
      (Except.ok.inj found).symm⟩

namespace Evaluator

variable {evaluator : Evaluator} {text : String}

theorem parse?_of_read
    {expression : Expression}
    (found : read text = .ok expression) :
    Expression.parse? (Text.trim text.toList) = .ok expression := by
  rw [read] at found
  split at found
  · cases found
  split at found
  · cases found
  split at found
  case h_1 parsed =>
    split at found
    · cases found
    · rw [parsed, Except.ok.inj found]
  case h_2 => cases found

/-- What is read comes of valid tokens that the grammar accepts. -/
theorem exists_tree_of_reads
    {names : List String}
    (reading : evaluator.reads text = .ok names) :
    Token.AreValid (Token.all (Text.trim text.toList)) ∧
      ∃ tree, Expression.ofKinds (Token.kinds (Token.all (Text.trim text.toList))) = .ok tree ∧
        names = evaluator.namesOf tree := by
  rw [reads] at reading
  cases found : read text with
  | error fault =>
      rw [found] at reading
      cases reading
  | ok expression =>
      obtain ⟨valid, tree, accepted, rfl⟩ :=
        Expression.parse?_eq_ok (parse?_of_read found)
      refine ⟨valid, tree, accepted, ?_⟩
      rw [found] at reading
      change (if _ then _ else _) = _ at reading
      split at reading
      · cases reading
      · cases reading
        rw [namesOf, namesOf, Expression.mentions_relocate]

/-- What is read is scanned into valid tokens that the grammar accepts. -/
theorem scans_of_reads
    {names : List String}
    (reading : evaluator.reads text = .ok names) :
    ∃ kinds tree, Token.Scans (Text.unifyLineBreaks (Text.trim text.toList)) kinds ∧
      Expression.ofKinds kinds = .ok tree ∧ names = evaluator.namesOf tree := by
  obtain ⟨valid, tree, accepted, same⟩ := exists_tree_of_reads reading
  exact ⟨_, tree, .of_valid valid, accepted, same⟩

end Evaluator

/-! ## Literals -/

namespace Text

/-- A decimal digit is no letter. -/
theorem isIdentifierStart_of_isDecimalDigit
    {character : Char}
    (digit : isDecimalDigit character = true) : isIdentifierStart character = false := by
  have outside (table : Ranges)
      (ascends : table.Ascends)
      (isApart : Ranges.apart 1000 decimalDigits table = true)
      (inside : decimalDigits.contains character.toNat = true) :
      table.contains character.toNat = false :=
    Bool.eq_false_iff.mpr
      (Ranges.not_contains_of_apart decimalDigits_ascends ascends isApart inside)
  have noLetter := outside letters letters_ascends (by decide +kernel)
  have noNumber := outside letterNumbers letterNumbers_ascends (by decide +kernel)
  have noStart := outside grandfatheredStarts (List.isChain_iff_pairwise.mp (by decide +kernel))
    (by decide +kernel)
  rw [isDecimalDigit, Bool.or_eq_true, Bool.and_eq_true, decide_eq_true_eq] at digit
  have noName : isNameStart character = false := by
    rw [Bool.eq_false_iff]
    intro starts
    rcases digit with ascii | ⟨wide, _⟩
    · rw [Token.isDigit_of_isNameStart starts] at ascii
      cases ascii
    · have part := Argument.isNameRest_of_isNameStart starts
      have bound := (Reference.toNat_of_isNameRest part).2
      omega
  rw [isIdentifierStart, noName, Bool.false_or]
  rcases digit with ascii | ⟨_, listed⟩
  · have bound := (Reference.toNat_of_isNameRest (Token.isNameRest_of_isDigit ascii)).2
    rw [decide_eq_false (by omega), Bool.false_and]
  · simp [noLetter listed, noNumber listed, noStart listed]

end Text

namespace Token

theorem toNat_of_isDecimalDigit
    {character : Char}
    (digit : Text.isDecimalDigit character = true)
    (wide : character.isDigit = false) : 0x80 ≤ character.toNat := by
  rw [Text.isDecimalDigit, wide, Bool.false_or, Bool.and_eq_true, decide_eq_true_eq] at digit
  exact digit.1

/-- A digit that is not ASCII starts no token. -/
theorem not_scans_digit
    {first : Char}
    (digit : Text.isDecimalDigit first = true)
    (wide : first.isDigit = false)
    (rest : List Char)
    (found : List TokenKind) : ¬Scans (first :: rest) found := by
  have bound := toNat_of_isDecimalDigit digit wide
  have ne {other : Char} (narrow : other.toNat < 0x80) : first ≠ other := by
    rintro rfl
    omega
  have noGap : isGap first = false := by
    rw [isGap, beq_false_of_ne (ne (by decide)), beq_false_of_ne (ne (by decide)),
      beq_false_of_ne (ne (by decide))]
    rfl
  have other : first ∉ ['\n', '#', '\\'] := by
    simp only [List.mem_cons, List.not_mem_nil, or_false, not_or]
    exact ⟨ne (by decide), ne (by decide), ne (by decide)⟩
  have noAlpha : first.isAlpha = false := by
    rw [Bool.eq_false_iff]
    intro alpha
    have starts : Text.isNameStart first = true := by rw [Text.isNameStart, alpha, Bool.true_or]
    have part := (Reference.toNat_of_isNameRest (Argument.isNameRest_of_isNameStart starts)).2
    omega
  have unmarked : marked? (first :: rest) = none := by
    refine marked?_of_next fun character leads => ?_
    rw [List.dropWhile_cons_of_neg (by simp [noAlpha])] at leads
    cases leads
    exact ⟨ne (by decide), ne (by decide)⟩
  have like : isIdentifierLike first = true := by
    rw [isIdentifierLike, decide_eq_true bound, Bool.or_true]
  have invalid : (cut (first :: rest)).kind = .invalid := by
    unfold cut
    rw [unmarked]
    dsimp only
    rw [wide, beq_false_of_ne (ne (by decide)), Bool.false_and, Bool.false_or,
      if_neg Bool.false_ne_true, if_pos like, List.takeWhile_cons_of_pos like, wordKind,
      isIdentifier, Text.isIdentifierStart_of_isDecimalDigit digit]
    rfl
  rintro ⟨fuel, place, brackets, emptyLine, valid, -⟩
  cases fuel with
  | zero => exact not_areValid place valid
  | succ fuel =>
      rw [scan_token _ _ _ _ noGap other, if_pos (.inl invalid)] at valid
      exact not_areValid place valid

/-- Decimal digits are scanned into a number. -/
theorem Scans.digits
    {text : List Char}
    {found : List TokenKind}
    (filled : text ≠ [])
    (all : ∀ character ∈ text, Text.isDecimalDigit character = true)
    (scans : Scans text found) : ∃ value, found = [.number value, .stop] := by
  have split := List.takeWhile_append_dropWhile (p := Char.isDigit) (l := text)
  have ascii : (text.takeWhile Char.isDigit).all Char.isDigit = true := List.all_takeWhile
  have stops := List.head?_dropWhile_not Char.isDigit text
  generalize text.takeWhile Char.isDigit = digits at split ascii
  generalize text.dropWhile Char.isDigit = behind at split stops
  subst split
  cases behind with
  | nil =>
      rw [List.append_nil] at filled
      have isWhole : IsWhole digits :=
        ⟨digits, [], (List.append_nil _).symm, filled, ascii, .inl rfl⟩
      obtain ⟨value, others, rfl, behind⟩ := scans.whole isWhole rfl (by simp)
      exact ⟨value, by rw [behind.nil]⟩
  | cons first rest =>
      have wide : first.isDigit = false := by simpa using stops
      have digit : Text.isDecimalDigit first = true := all first (by simp)
      have noScan (found : List TokenKind) := not_scans_digit digit wide rest found
      cases digits with
      | nil => exact absurd scans (noScan _)
      | cons next digits =>
          have isWhole : IsWhole (next :: digits) :=
            ⟨next :: digits, [], (List.append_nil _).symm, by simp, ascii, .inl rfl⟩
          have bound := toNat_of_isDecimalDigit digit wide
          have ends : Text.isNameRest first = false := by
            rw [Bool.eq_false_iff]
            intro part
            have narrow := (Reference.toNat_of_isNameRest part).2
            omega
          have noPoint : first ≠ '.' := by
            rintro rfl
            revert bound
            decide
          obtain ⟨_, others, _, behind⟩ := scans.whole isWhole (by simpa using ends)
            (by simpa using noPoint)
          exact absurd behind (noScan _)

end Token

namespace Expression

theorem ofKinds_number (value : Numeral) :
    ofKinds [.number value, .stop] = .ok (.number 1 value) := by
  with_unfolding_all rfl

theorem ofKinds_negative (value : Numeral) :
    ofKinds [.symbol "-", .number value, .stop] = .ok (.signed 1 true (.number 2 value)) := by
  with_unfolding_all rfl

end Expression

/-- Digits without a point are decimal digits, at least one. -/
theorem Swizzle.digits_of_isDigits
    {text : List Char}
    (digits : isDigits text = true)
    (noPoint : '.' ∉ text) :
    text ≠ [] ∧ ∀ character ∈ text, Text.isDecimalDigit character = true := by
  rw [isDigits] at digits
  split at digits
  case h_1 all =>
    have whole := List.dropWhile_eq_nil_iff.mp all
    refine ⟨?_, whole⟩
    rintro rfl
    cases digits
  case h_2 fraction stops =>
    have point : '.' ∈ text.dropWhile Text.isDecimalDigit := stops ▸ List.mem_cons_self
    exact absurd ((List.dropWhile_suffix _).subset point) noPoint
  case h_3 => cases digits

/-- A literal is made of decimal digits, a point and a sign. -/
theorem Swizzle.mem_of_isLiteralChars
    {text : List Char}
    (isLiteral : isLiteralChars text = true) :
    ∀ character ∈ text, Text.isDecimalDigit character = true ∨ character ∈ ['.', '-'] := by
  have plain {text : List Char} (digits : isDigits text = true) :
      ∀ character ∈ text, Text.isDecimalDigit character = true ∨ character ∈ ['.', '-'] := by
    intro character present
    rw [← List.takeWhile_append_dropWhile (p := Text.isDecimalDigit) (l := text),
      List.mem_append] at present
    rcases present with before | behind
    · exact .inl (List.all_eq_true.mp List.all_takeWhile character before)
    rw [isDigits] at digits
    split at digits
    case h_1 all =>
      rw [all] at behind
      cases behind
    case h_2 fraction point =>
      rw [Bool.and_eq_true, List.all_eq_true] at digits
      rw [point] at behind
      rcases List.mem_cons.mp behind with rfl | later
      · exact .inr (by decide)
      · exact .inl (digits.1 character later)
    case h_3 => cases digits
  rw [isLiteralChars.eq_def] at isLiteral
  split at isLiteral
  · exact List.forall_mem_cons.mpr ⟨.inr (by decide), plain isLiteral⟩
  · exact plain isLiteral

/-- A literal without a point is scanned into a number, which may have a sign. -/
theorem Token.Scans.literal
    {text : List Char}
    {found : List TokenKind}
    (isLiteral : Swizzle.isLiteralChars text = true)
    (noPoint : '.' ∉ text)
    (scans : Scans text found) :
    ∃ value, found = [.number value, .stop] ∨ found = [.symbol "-", .number value, .stop] := by
  rw [Swizzle.isLiteralChars.eq_def] at isLiteral
  split at isLiteral
  case h_1 rest =>
    obtain ⟨filled, all⟩ := Swizzle.digits_of_isDigits isLiteral fun present =>
      noPoint (List.mem_cons_of_mem _ present)
    have ends : endsSymbol rest = true := by
      obtain ⟨next, behind, rfl⟩ := List.exists_cons_of_ne_nil filled
      have digit := all next List.mem_cons_self
      rw [endsSymbol, List.head?_cons, Option.any_some, Bool.not_eq_true', Bool.eq_false_iff]
      intro longer
      have mark : next ∈ ['=', '>', '*', '/'] := List.contains_iff_mem.mp longer
      have noDigits : ∀ mark ∈ ['=', '>', '*', '/'], Text.isDecimalDigit mark = false :=
        List.all_iff_forall_prop.mp (by decide)
      rw [noDigits next mark] at digit
      cases digit
    obtain ⟨others, rfl, behind⟩ := scans.punctuation (by decide) (.inr ends)
    obtain ⟨value, rfl⟩ := behind.digits filled all
    exact ⟨value, .inr rfl⟩
  case h_2 =>
    obtain ⟨filled, all⟩ := Swizzle.digits_of_isDigits isLiteral noPoint
    obtain ⟨value, rfl⟩ := scans.digits filled all
    exact ⟨value, .inl rfl⟩

/-- A literal without a point reads no names. -/
theorem Evaluator.reads_of_isLiteralChars
    {evaluator : Evaluator}
    {text : String}
    {names : List String}
    (literal : Swizzle.isLiteralChars (Text.trim text.toList) = true)
    (noPoint : '.' ∉ Text.trim text.toList)
    (reading : evaluator.reads text = .ok names) : names = [] := by
  obtain ⟨kinds, tree, scans, accepted, rfl⟩ := scans_of_reads reading
  have mentions : tree.mentions = [] := by
    have free : '\r' ∉ Text.trim text.toList := fun present =>
      absurd (Swizzle.mem_of_isLiteralChars literal '\r' present) (by decide)
    rw [Reference.unifyLineBreaks_eq_self free] at scans
    obtain ⟨value, rfl | rfl⟩ := scans.literal literal noPoint
    · rw [Expression.ofKinds_number] at accepted
      cases accepted
      rfl
    · rw [Expression.ofKinds_negative] at accepted
      cases accepted
      rfl
  rw [namesOf, mentions]
  rfl

end ShaderGraph
