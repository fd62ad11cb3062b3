import ShaderGraph.Proofs.Expression.Origin
import ShaderGraph.Proofs.Expression.Quotation

/-!
# Tokens cut from a text

A token is cut from the front of a text: a quoted text, a number, a word or a symbol. What is
left is always an end of the text. A name is cut from a text that starts with an identifier,
and a parenthesis from one that starts with it.
-/

namespace ShaderGraph

/-- Whether a token may be a number: it is one, or it is invalid. -/
def TokenKind.isNumeric : TokenKind -> Bool
  | .number _ => true
  | .imaginary => true
  | .invalid => true
  | _ => false

/-- Whether a token may be a number or a quoted text. -/
def TokenKind.isLiteral : TokenKind -> Bool
  | .text _ => true
  | .formatted _ => true
  | kind => kind.isNumeric

namespace Token

variable {text : List Char}

/-! ## What a token leaves -/

/-- Behind a run of digits stands the rest of the text. -/
theorem digitRun_suffix (base : Nat) (text : List Char) : (digitRun base text).2 <:+ text := by
  fun_induction digitRun base text with
  | case1 => exact List.suffix_rfl
  | case2 first rest _ hypothesis => exact hypothesis.trans (List.suffix_cons first rest)
  | case3 first rest _ _ hypothesis => exact hypothesis.trans (List.suffix_cons first rest)
  | case4 => exact List.suffix_rfl

/-- A number that was taken from the front of a text. -/
structure IsNumberOf (text : List Char) (taken : TokenKind × List Char) : Prop where
  kind : taken.1.isNumeric = true
  rest : taken.2 <:+ text

/-- A number of the end of a text is one of the text. -/
theorem IsNumberOf.of_suffix
    {shorter : List Char}
    {taken : TokenKind × List Char}
    (isNumber : IsNumberOf shorter taken)
    (suffix : shorter <:+ text) : IsNumberOf text taken :=
  ⟨isNumber.kind, isNumber.rest.trans suffix⟩

/-- A finished number leaves the rest of the text. -/
theorem isNumberOf_finishNumber
    {value : TokenKind}
    (numeric : value.isNumeric = true)
    (rest : List Char) : IsNumberOf rest (finishNumber value rest) := by
  rw [finishNumber]
  split
  · refine ⟨?_, List.drop_suffix 1 rest⟩
    dsimp only
    split <;> rfl
  · refine ⟨?_, List.suffix_rfl⟩
    dsimp only
    split
    · exact numeric
    · rfl

/-- Behind an exponent stands the rest of the text. -/
theorem exponent?_suffix
    {power : Int}
    {after : List Char}
    (found : exponent? text = some (power, after)) : after <:+ text := by
  have body : (if (text.drop 1).head?.any (fun sign => sign == '-' || sign == '+') then
      (text.drop 1).drop 1 else text.drop 1) <:+ text := by
    split
    · exact (List.drop_suffix 1 _).trans (List.drop_suffix 1 text)
    · exact List.drop_suffix 1 text
  rw [exponent?] at found
  split at found
  case isFalse => cases found
  case isTrue =>
    dsimp only at found
    generalize (if (text.drop 1).head?.any (fun sign => sign == '-' || sign == '+') then
      (text.drop 1).drop 1 else text.drop 1) = digits at body found
    split at found
    case isFalse => cases found
    case isTrue =>
      cases found
      exact (digitRun_suffix 10 digits).trans body

/-- A decimal number leaves the rest of the text. -/
theorem isNumberOf_decimalTail (whole fraction rest : List Char) :
    IsNumberOf rest (decimalTail whole fraction rest) := by
  rw [decimalTail]
  split
  case h_1 power after found =>
    exact (isNumberOf_finishNumber rfl after).of_suffix (exponent?_suffix found)
  case h_2 => exact isNumberOf_finishNumber rfl rest

/-- A number of another base leaves the rest of the text. -/
theorem isNumberOf_based (base : Nat) (text : List Char) : IsNumberOf text (based base text) := by
  have body : (if text.head?.any (· == '_') then text.drop 1 else text) <:+ text := by
    split
    · exact List.drop_suffix 1 text
    · exact List.suffix_rfl
  rw [based]
  dsimp only
  generalize (if text.head?.any (· == '_') then text.drop 1 else text) = digits at body ⊢
  split
  · exact ⟨rfl, (digitRun_suffix base digits).trans body⟩
  · exact ⟨rfl, (digitRun_suffix base digits).trans body⟩

theorem isNumberOf_decimalNumber (text : List Char) : IsNumberOf text (decimalNumber text) := by
  have whole := digitRun_suffix 10 text
  rw [decimalNumber]
  dsimp only
  split
  · refine (isNumberOf_decimalTail _ _ _).of_suffix ?_
    have point := (List.drop_suffix 1 (digitRun 10 text).2).trans whole
    split
    · exact (digitRun_suffix 10 _).trans point
    · exact point
  split
  · exact (isNumberOf_decimalTail _ _ _).of_suffix whole
  · have finished : IsNumberOf text (finishNumber
        (.number (.integer (digitsValue 10 (digitRun 10 text).1))) (digitRun 10 text).2) :=
      (isNumberOf_finishNumber rfl _).of_suffix whole
    split
    · exact ⟨rfl, finished.rest⟩
    · exact finished

/-- Every number leaves the rest of the text. -/
theorem isNumberOf_number (text : List Char) : IsNumberOf text (number text) := by
  rw [number]
  split
  · exact (isNumberOf_decimalTail _ _ _).of_suffix
      ((digitRun_suffix 10 _).trans (List.drop_suffix 1 text))
  split
  · split
    · exact (isNumberOf_based _ _).of_suffix (List.drop_suffix 2 text)
    · exact isNumberOf_decimalNumber text
  · exact isNumberOf_decimalNumber text

/-- Behind the body of a quotation stands the rest of the text. -/
theorem suffix_of_bodyUntil
    {closing body after : List Char}
    {breaks : Bool}
    (found : bodyUntil closing breaks text = some (body, after)) : after <:+ text := by
  fun_induction bodyUntil closing breaks text generalizing body after with
  | case1 => cases found
  | case2 next rest hypothesis =>
      have kept : Field.keepAll ['\\', next] (bodyUntil closing breaks rest) =
          some (body, after) := found
      obtain ⟨inner, behind, rfl⟩ := Field.keepAll_eq_some kept
      exact (hypothesis behind).trans (List.suffix_append ['\\', next] rest)
  | case3 =>
      cases found
      exact (List.drop_suffix _ _).trans (List.suffix_cons _ _)
  | case4 => cases found
  | case5 first rest _ _ _ hypothesis =>
      obtain ⟨inner, behind, rfl⟩ := Field.keep_eq_some found
      exact (hypothesis behind).trans (List.suffix_cons first rest)

theorem suffix_of_body?
    {body after : List Char}
    (found : body? text = some (body, after)) : after <:+ text := by
  cases text with
  | nil => cases found
  | cons quote text =>
      rw [body?] at found
      split at found
      · exact ((suffix_of_bodyUntil found).trans (List.drop_suffix 2 text)).trans
          (List.suffix_cons quote text)
      · exact (suffix_of_bodyUntil found).trans (List.suffix_cons quote text)

/-- Behind the mark of a quotation stands the rest of the text. -/
theorem suffix_of_marked?
    {mark opening : List Char}
    (found : marked? text = some (mark, opening)) : opening <:+ text := by
  rw [marked?] at found
  split at found
  case h_1 quote behind leads =>
    split at found
    · cases found
      exact leads ▸ List.dropWhile_suffix Char.isAlpha
    · cases found
  case h_2 => cases found

/-- What may be cut from the front of a text: a quoted text, a number, a word or a symbol. What
is none of them is invalid. -/
inductive IsCutFrom (text : List Char) : Piece -> Prop
  | quoted
      {rest : List Char}
      (suffix : rest <:+ text)
      (mark body : List Char) : IsCutFrom text (quoted mark body rest)
  | number
      {kind : TokenKind}
      {rest : List Char}
      (isNumber : IsNumberOf text (kind, rest)) : IsCutFrom text { kind, rest }
  | word :
      IsCutFrom text
        { kind := wordKind (text.takeWhile isIdentifierLike)
          rest := text.dropWhile isIdentifierLike }
  | symbol
      {symbol : String}
      (found : symbol? text = some symbol) :
      IsCutFrom text { kind := .symbol symbol, rest := text.drop symbol.length }
  | invalid
      {rest : List Char}
      (suffix : rest <:+ text) : IsCutFrom text { kind := .invalid, rest }

/-- A piece is cut from the start of a text. -/
theorem isCutFrom_cut (first : Char) (rest : List Char) :
    IsCutFrom (first :: rest) (cut (first :: rest)) := by
  unfold cut
  split
  case h_1 mark opening marked =>
    split
    case h_1 body after found =>
      exact .quoted ((suffix_of_body? found).trans (suffix_of_marked? marked)) mark body
    case h_2 => exact .invalid List.nil_suffix
  case h_2 =>
    dsimp only
    split
    · exact .number (isNumberOf_number (first :: rest))
    split
    · exact .word
    split
    case h_1 symbol found => exact .symbol found
    case h_2 => exact .invalid (List.suffix_cons first rest)

section Piece

variable {piece : Piece}

/-- Behind a piece stands the rest of the text. -/
theorem IsCutFrom.suffix (isCut : IsCutFrom text piece) : piece.rest <:+ text := by
  cases isCut with
  | quoted suffix mark body =>
      rw [Token.quoted]
      split
      · split <;> exact suffix
      split
      · exact suffix
      split <;> exact suffix
  | number isNumber => exact isNumber.rest
  | word => exact List.dropWhile_suffix _
  | symbol => exact List.drop_suffix _ _
  | invalid suffix => exact suffix

/-- A token has the fields that its kind tells of. -/
theorem IsCutFrom.length_fields (isCut : IsCutFrom text piece) :
    piece.fields.length = piece.kind.fieldCount := by
  cases isCut with
  | quoted suffix mark body =>
      rw [Token.quoted]
      split
      · split <;> rfl
      split
      · rfl
      split <;> rfl
  | @number kind rest isNumber =>
      have numeric := isNumber.kind
      cases kind with
      | formatted => cases numeric
      | _ => rfl
  | word =>
      rw [wordKind]
      split
      · rfl
      split <;> rfl
  | symbol => rfl
  | invalid => rfl

/-- What is neither a number nor a quoted text is a word or a symbol. -/
theorem IsCutFrom.of_not_isLiteral
    (isCut : IsCutFrom text piece)
    (other : piece.kind.isLiteral = false) :
    (piece.kind = wordKind (text.takeWhile isIdentifierLike) ∧
        piece.rest = text.dropWhile isIdentifierLike) ∨
      ∃ symbol, piece.kind = .symbol symbol ∧ symbol? text = some symbol ∧
        piece.rest = text.drop symbol.length := by
  cases isCut with
  | @quoted rest suffix mark body =>
      have literal : (Token.quoted mark body rest).kind.isLiteral = true := by
        rw [Token.quoted]
        split
        · split <;> rfl
        split
        · rfl
        split <;> rfl
      rw [literal] at other
      cases other
  | @number kind rest isNumber =>
      have numeric : kind.isNumeric = true := isNumber.kind
      have literal : kind.isLiteral = true := by
        rw [TokenKind.isLiteral, numeric] <;> (rintro _ rfl; cases numeric)
      cases other.symm.trans literal
  | word => exact .inl ⟨rfl, rfl⟩
  | @symbol symbol found => exact .inr ⟨symbol, rfl, found, rfl⟩
  | invalid => cases other

/-- A word is a keyword, an identifier or invalid. -/
theorem wordKind_cases (word : List Char) :
    wordKind word = .invalid ∨ (∃ keyword, wordKind word = .keyword keyword) ∨
      isIdentifier word = true ∧
        wordKind word = .identifier (String.ofList (Text.normalForm word)) := by
  rw [wordKind]
  split
  · exact .inl rfl
  case isFalse identifier =>
    split
    · exact .inr (.inl ⟨_, rfl⟩)
    · exact .inr (.inr ⟨by simpa using identifier, rfl⟩)

/-- No piece is the stop. -/
theorem IsCutFrom.ne_stop (isCut : IsCutFrom text piece) : piece.kind ≠ .stop := by
  intro isStop
  rcases isCut.of_not_isLiteral (by rw [isStop]; rfl) with ⟨isWord, -⟩ | ⟨symbol, isSymbol, -⟩
  · rw [isStop] at isWord
    rcases wordKind_cases (text.takeWhile isIdentifierLike) with kind | ⟨_, kind⟩ | ⟨-, kind⟩ <;>
      cases isWord.trans kind
  · cases isStop.symm.trans isSymbol

/-- A text starts with a name: an identifier, which no further character of one follows. -/
structure StartsWithName (text : List Char) (name : String) (word rest : List Char) : Prop where
  whole : text = word ++ rest
  identifier : isIdentifier word = true
  ends : rest.head?.any isIdentifierLike = false
  spells : String.ofList (Text.normalForm word) = name

/-- An identifier is cut from a name. -/
theorem IsCutFrom.name
    {name : String}
    (isCut : IsCutFrom text piece)
    (isName : piece.kind = .identifier name) :
    ∃ word, StartsWithName text name word piece.rest := by
  rcases isCut.of_not_isLiteral (by rw [isName]; rfl) with ⟨isWord, rest⟩ | ⟨symbol, isSymbol, -⟩
  · rw [isName] at isWord
    rcases wordKind_cases (text.takeWhile isIdentifierLike) with
      kind | ⟨_, kind⟩ | ⟨identifier, kind⟩
    · cases isWord.trans kind
    · cases isWord.trans kind
    rw [rest]
    refine ⟨_, List.takeWhile_append_dropWhile.symm, identifier, ?_,
      (TokenKind.identifier.inj (isWord.trans kind)).symm⟩
    have stops := List.head?_dropWhile_not isIdentifierLike text
    cases leads : text.dropWhile isIdentifierLike with
    | nil => rfl
    | cons first rest =>
        rw [leads] at stops
        simpa using stops
  · cases isName.symm.trans isSymbol

/-- An opening parenthesis is cut from itself. -/
theorem IsCutFrom.opening
    (isCut : IsCutFrom text piece)
    (isOpening : piece.kind = .symbol "(") : text = '(' :: piece.rest := by
  rcases isCut.of_not_isLiteral (by rw [isOpening]; rfl) with
    ⟨isWord, -⟩ | ⟨symbol, isSymbol, found, rest⟩
  · rw [isOpening] at isWord
    rcases wordKind_cases (text.takeWhile isIdentifierLike) with kind | ⟨_, kind⟩ | ⟨-, kind⟩ <;>
      cases isWord.trans kind
  · obtain rfl := TokenKind.symbol.inj (isOpening.symm.trans isSymbol)
    have starts : "(".toList.isPrefixOf text = true := by
      simpa using List.find?_some found
    obtain ⟨behind, rfl⟩ := List.isPrefixOf_iff_prefix.mp starts
    rw [rest]
    rfl

end Piece

end Token
end ShaderGraph
