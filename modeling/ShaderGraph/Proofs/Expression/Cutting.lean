import Mathlib.Data.List.Find
import ShaderGraph.Expression.Scan
import ShaderGraph.Proofs.Expression.Field
import ShaderGraph.Proofs.Expression.Number

/-!
# Tokens before replaced references

No token starts with a dollar sign, so a text of which all tokens are valid has its
references inside of quotes and comments only. Its tokens are then found again, one
by one and of the same kinds, when the references are replaced.
-/

namespace ShaderGraph

open Reference

namespace Reference.Replaces

variable {text changed : List Char}

/-- A kind of character that is neither the dollar sign nor in the mark of a result
is in both texts or in none. -/
theorem any_eq
    {isKind : Char -> Bool}
    (related : Replaces text changed)
    (noSign : isKind '$' = false)
    (noMark : resultMark.any isKind = false) : changed.any isKind = text.any isKind := by
  induction related with
  | nil => rfl
  | keep first _ hypothesis => rw [List.any_cons, List.any_cons, hypothesis]
  | refer _ _ _ hypothesis =>
      rw [List.any_cons, noSign, Bool.false_or, List.any_append, List.any_append, List.any_append,
        noMark, Bool.false_or, hypothesis]

/-- A run of letters is the same in both texts, or a reference ends it. The letters
of the name go on up to its first underscore. -/
theorem dropWhile_isAlpha (related : Replaces text changed) :
    (changed.takeWhile Char.isAlpha = text.takeWhile Char.isAlpha ∧
        Replaces (text.dropWhile Char.isAlpha) (changed.dropWhile Char.isAlpha)) ∨
      ((text.dropWhile Char.isAlpha).head? = some '$' ∧
        (changed.dropWhile Char.isAlpha).head? = some '_') := by
  induction related with
  | nil => exact .inl ⟨rfl, .nil⟩
  | @keep first text changed related hypothesis =>
      cases kind : first.isAlpha with
      | true =>
          simp only [List.takeWhile_cons_of_pos kind, List.dropWhile_cons_of_pos kind]
          exact hypothesis.imp (fun same => ⟨congrArg _ same.1, same.2⟩) id
      | false =>
          have other : ¬first.isAlpha = true := by simp [kind]
          simp only [List.takeWhile_cons_of_neg other, List.dropWhile_cons_of_neg other]
          exact .inl ⟨trivial, .keep first related⟩
  | refer isName =>
      obtain ⟨more, rfl⟩ := isName.stemmed
      exact .inr ⟨rfl, rfl⟩

end Reference.Replaces

namespace Token

variable {text changed : List Char}

/-! ## Quoted texts -/

/-- Two texts that a quote opens, behind the same marks. -/
structure KeepsOpening (found changed : List Char × List Char) : Prop where
  mark : changed.1 = found.1
  opening : ∃ quote rest changedRest, IsQuote quote ∧ found.2 = quote :: rest ∧
    changed.2 = quote :: changedRest ∧ Replaces rest changedRest

/-- The mark of a quotation is the same when references are replaced. -/
theorem marked?_replaces (related : Replaces text changed) :
    Option.Rel KeepsOpening (marked? text) (marked? changed) := by
  rw [marked?, marked?]
  rcases related.dropWhile_isAlpha with ⟨marks, rests⟩ | ⟨sign, underscore⟩
  · rw [marks]
    generalize text.dropWhile Char.isAlpha = rest at rests ⊢
    generalize changed.dropWhile Char.isAlpha = changedRest at rests ⊢
    cases rests with
    | nil => exact .none
    | keep quote rests =>
        dsimp only
        split
        case isTrue quoted =>
          have isQuote : IsQuote quote := by
            simpa [IsQuote] using (Bool.and_eq_true_iff.mp quoted).1
          exact .some ⟨rfl, quote, _, _, isQuote, rfl, rfl, rests⟩
        case isFalse => exact .none
    | refer isName =>
        obtain ⟨more, rfl⟩ := isName.stemmed
        exact .none
  · obtain ⟨behind, same⟩ := List.head?_eq_some_iff.mp sign
    obtain ⟨changedBehind, sameChanged⟩ := List.head?_eq_some_iff.mp underscore
    rw [same, sameChanged]
    exact .none

/-- A piece of a text is found again in the changed text. -/
structure KeepsPiece (found changed : Piece) : Prop where
  kind : changed.kind = found.kind
  fields : List.Forall₂ Replaces found.fields changed.fields
  rest : Replaces found.rest changed.rest

/-- A quoted text is of the same kind when references in it are replaced. -/
theorem quoted_replaces
    (mark : List Char)
    {body changedBody rest changedRest : List Char}
    (bodies : Replaces body changedBody)
    (rests : Replaces rest changedRest) :
    KeepsPiece (quoted mark body rest) (quoted mark changedBody changedRest) := by
  have wide : changedBody.any (fun character => decide (character.toNat >= 0x80)) =
      body.any fun character => decide (character.toNat >= 0x80) :=
    bodies.any_eq rfl rfl
  have sources : Option.Rel Field.ReplacesSources
      (Field.sources? (mark.any fun found => found.toLower == 'r') (body.length + 1) 0 body)
      (Field.sources? (mark.any fun found => found.toLower == 'r') (changedBody.length + 1) 0
        changedBody) :=
    Field.sources?_replaces _ (Nat.lt_succ_self _) (Nat.lt_succ_self _) bodies
  rw [quoted, quoted]
  dsimp only
  rw [wide, escapesComplete_replaces _ _ bodies]
  split
  · generalize Field.sources? _ (body.length + 1) 0 body = found at sources ⊢
    generalize Field.sources? _ (changedBody.length + 1) 0 changedBody = foundChanged at sources ⊢
    cases sources with
    | none => exact ⟨rfl, .nil, rests⟩
    | @some found changed sources =>
        obtain ⟨fields, after⟩ := found
        obtain ⟨changedFields, changedAfter⟩ := changed
        obtain ⟨fieldsRelated, aftersRelated⟩ := sources
        have empties := aftersRelated.isEmpty_eq
        dsimp only at fieldsRelated aftersRelated empties ⊢
        cases after with
        | nil =>
            rw [List.isEmpty_iff.mp empties]
            exact ⟨by simp [fieldsRelated.length_eq], fieldsRelated, rests⟩
        | cons first after =>
            cases changedAfter with
            | nil => cases empties
            | cons => exact ⟨rfl, .nil, rests⟩
  · repeat' split
    all_goals exact ⟨rfl, .nil, rests⟩

/-! ## The token at the start of a text -/

/-- A dollar sign starts no token. -/
theorem cut_sign (rest : List Char) : (cut ('$' :: rest)).kind = .invalid := by
  rfl

/-- No symbol is a part of a reference. -/
theorem symbols_free : ∀ symbol ∈ symbols, '$' ∉ symbol.toList ∧ 's' ∉ symbol.toList := by
  decide

/-- The symbol is the same when references are replaced. -/
theorem symbol?_replaces (related : Replaces text changed) : symbol? changed = symbol? text :=
  List.find?_congr fun symbol listed =>
    related.isPrefixOf_eq (symbols_free symbol listed).1 (symbols_free symbol listed).2

/-- The characters that make a longer symbol of a text that one starts with. -/
def followers (mark : List Char) : List Char :=
  symbols.filterMap fun symbol =>
    if mark.isPrefixOf symbol.toList then (symbol.toList.drop mark.length).head? else none

/-- A symbol is found alone as before a text that makes no longer one of it. -/
theorem symbol?_append
    {mark rest : List Char}
    (ends : ∀ next ∈ followers mark, rest.head? ≠ some next) :
    symbol? (mark ++ rest) = symbol? mark := by
  refine List.find?_congr fun symbol listed => ?_
  rw [Bool.eq_iff_iff, List.isPrefixOf_iff_prefix, List.isPrefixOf_iff_prefix]
  refine ⟨fun starts => ?_, fun starts => starts.trans (List.prefix_append mark rest)⟩
  rcases List.prefix_or_prefix_of_prefix starts (List.prefix_append mark rest) with
    within | ⟨behind, same⟩
  · exact within
  · rw [← same] at starts ⊢
    cases behind with
    | nil => exact ⟨[], by simp⟩
    | cons next more =>
        obtain ⟨after, rfl⟩ := (List.prefix_append_right_inj mark).mp starts
        refine absurd rfl (ends next (List.mem_filterMap.mpr ⟨symbol, listed, ?_⟩))
        rw [if_pos (List.isPrefixOf_iff_prefix.mpr ⟨_, same⟩), ← same, List.drop_left]
        rfl

theorem isIdentifierLike_of_isAlpha
    {character : Char}
    (alpha : character.isAlpha = true) : isIdentifierLike character = true := by
  rw [isIdentifierLike, Text.isNameRest, Char.isAlphanum, alpha]
  rfl

/-- The token at the start of a text is found again, if what follows it is no
reference. -/
theorem cut_replaces
    (related : Replaces text changed)
    (valid : (cut text).kind ≠ .invalid)
    (solid : (cut text).rest.head? ≠ some '$') : KeepsPiece (cut text) (cut changed) := by
  have openings := marked?_replaces related
  unfold cut at valid solid ⊢
  generalize marked? text = found at openings valid solid ⊢
  generalize marked? changed = foundChanged at openings ⊢
  cases openings with
  | @some found foundChanged opening =>
      obtain ⟨mark, opening⟩ := found
      obtain ⟨changedMark, changedOpening⟩ := foundChanged
      obtain ⟨rfl, quote, rest, changedRest, isQuote, rfl, rfl, rests⟩ := opening
      have bodies := body?_replaces isQuote rests
      dsimp only at valid solid bodies ⊢
      generalize body? (quote :: rest) = found at bodies valid solid ⊢
      generalize body? (quote :: changedRest) = foundChanged at bodies ⊢
      cases bodies with
      | none => exact absurd rfl valid
      | some bodies => exact quoted_replaces _ bodies.1 bodies.2
  | none =>
      cases related with
      | nil => exact ⟨rfl, .nil, .nil⟩
      | refer => exact absurd rfl valid
      | @keep first text changed related =>
          have whole := Replaces.keep first related
          have digit : (changed.headD ' ').isDigit = (text.headD ' ').isDigit := by
            rw [List.headD_eq_head?_getD, List.headD_eq_head?_getD]
            rcases related.head?_cases with same | ⟨sign, start⟩
            · rw [same]
            · rw [sign, start]
              rfl
          dsimp only at valid solid ⊢
          rw [digit, symbol?_replaces whole]
          split at valid
          case isTrue numeric =>
            rw [if_pos numeric] at solid ⊢
            rw [if_pos numeric]
            have numbers := number_replaces whole valid solid
            exact ⟨numbers.kind, .nil, numbers.rest⟩
          case isFalse notNumeric =>
            rw [if_neg notNumeric] at solid ⊢
            rw [if_neg notNumeric]
            split at valid
            case isTrue word =>
              rw [if_pos word] at solid ⊢
              rw [if_pos word]
              obtain ⟨words, rests⟩ := whole.dropWhile_of_excludes (by decide) (.inl solid)
              exact ⟨congrArg wordKind words, .nil, rests⟩
            case isFalse noWord =>
              rw [if_neg noWord] at solid ⊢
              rw [if_neg noWord]
              split at valid
              case h_1 symbol found =>
                have starts : symbol.toList.isPrefixOf (first :: text) = true := by
                  simpa using List.find?_some found
                obtain ⟨behind, same⟩ := List.isPrefixOf_iff_prefix.mp starts
                have free := (symbols_free symbol (List.mem_of_find?_eq_some found)).1
                rw [← same] at whole
                obtain ⟨changedBehind, sameChanged, rests⟩ := whole.of_append free
                refine ⟨rfl, .nil, ?_⟩
                simp only [← same, sameChanged, ← String.length_toList, List.drop_left']
                exact rests
              case h_2 => exact absurd rfl valid

/-! ## The tokens of a text -/

/-- Whether all tokens of a list are valid. -/
def AreValid (tokens : List Token) : Prop :=
  ∀ token ∈ tokens, token.kind ≠ .invalid

theorem not_areValid (place : Place) : ¬AreValid [⟨.invalid, place⟩] :=
  fun valid => valid _ List.mem_cons_self rfl

theorem AreValid.tail
    {first : Token}
    {rest : List Token}
    (valid : AreValid (first :: rest)) : AreValid rest :=
  fun token present => valid token (List.mem_cons_of_mem first present)

section Scan

variable (fuel : Nat) (place : Place) (brackets : List Nat) (emptyLine : Bool)
variable {first : Char}

/-- A gap is skipped. -/
theorem scan_gap
    (gap : isGap first = true)
    (rest : List Char) :
    scan (fuel + 1) place brackets emptyLine (first :: rest) =
      scan fuel (place.step first) brackets emptyLine rest := by
  rw [scan.eq_def]
  exact if_pos gap

/-- What follows a line break outside of brackets. -/
def following (rest : List Char) : List Token :=
  if isIndented rest then [⟨.invalid, place.step '\n'⟩]
  else scan fuel (place.step '\n') brackets true rest

/-- A line break ends a line unless it is empty or in brackets. -/
theorem scan_break (rest : List Char) :
    scan (fuel + 1) place brackets emptyLine ('\n' :: rest) =
      if !brackets.isEmpty then scan fuel (place.step '\n') brackets emptyLine rest
      else if emptyLine then following fuel place brackets rest
      else ⟨.lineBreak, place⟩ :: following fuel place brackets rest := by
  rw [scan.eq_def]
  rfl

/-- A comment is skipped up to its line break. -/
theorem scan_comment (rest : List Char) :
    scan (fuel + 1) place brackets emptyLine ('#' :: rest) =
      scan fuel place brackets emptyLine (rest.dropWhile (· != '\n')) := by
  rw [scan.eq_def]
  rfl

/-- A backslash joins two lines, or is no token. -/
theorem scan_backslash (rest : List Char) :
    (∃ next after, rest = '\n' :: next :: after ∧
        scan (fuel + 1) place brackets emptyLine ('\\' :: rest) =
          scan fuel (place.after ['\\', '\n']) brackets emptyLine (next :: after)) ∨
      scan (fuel + 1) place brackets emptyLine ('\\' :: rest) = [⟨.invalid, place⟩] := by
  rw [scan.eq_def]
  dsimp only
  rw [if_neg (by decide), if_neg (by decide), if_neg (by decide), if_pos (by decide)]
  split
  case h_1 next after => exact .inl ⟨next, after, rfl, rfl⟩
  case h_2 => exact .inr rfl

/-- Any other character starts a token. -/
theorem scan_token
    (noGap : isGap first = false)
    (other : first ∉ ['\n', '#', '\\'])
    (rest : List Char) :
    scan (fuel + 1) place brackets emptyLine (first :: rest) =
      if (cut (first :: rest)).kind = .invalid ∨
          (bracketsAfter (cut (first :: rest)).kind place brackets).length > bracketLimit then
        [⟨.invalid, place⟩]
      else
        ⟨(cut (first :: rest)).kind, place⟩ ::
          (((cut (first :: rest)).fields.flatMap fun source =>
              scan fuel ⟨0, 0⟩ [] true ('(' :: source ++ [')'])) ++
            scan fuel
              (place.after
                ((first :: rest).take (rest.length + 1 - (cut (first :: rest)).rest.length)))
              (bracketsAfter (cut (first :: rest)).kind place brackets) false
              (cut (first :: rest)).rest) := by
  simp only [List.mem_cons, List.not_mem_nil, or_false, not_or] at other
  rw [scan.eq_def]
  simp [noGap, other]

end Scan

/-- A dollar sign outside of all tokens is an invalid one. -/
theorem not_areValid_scan_sign
    (fuel : Nat)
    (place : Place)
    (brackets : List Nat)
    (emptyLine : Bool)
    (rest : List Char) : ¬AreValid (scan fuel place brackets emptyLine ('$' :: rest)) := by
  cases fuel with
  | zero => exact not_areValid place
  | succ fuel =>
      rw [scan_token fuel place brackets emptyLine (by decide) (by decide),
        if_pos (.inl (cut_sign rest))]
      exact not_areValid place

/-- A line is indented before and after its references are replaced. -/
theorem isIndented_replaces (related : Replaces text changed) :
    isIndented changed = isIndented text := by
  have stops : isGap 's' = false := rfl
  obtain ⟨gaps, rests⟩ := related.dropWhile_of_excludes rfl (.inr stops)
  rw [isIndented, isIndented, gaps]
  generalize text.dropWhile isGap = rest at rests ⊢
  generalize changed.dropWhile isGap = changedRest at rests ⊢
  cases rests with
  | nil => rfl
  | keep => rfl
  | refer isName =>
      obtain ⟨more, rfl⟩ := isName.stemmed
      rfl

/-- A token leaves as many brackets open as it found open before, up to its kind. -/
theorem length_bracketsAfter
    (kind : TokenKind)
    (place changedPlace : Place)
    {brackets changedBrackets : List Nat}
    (depth : changedBrackets.length = brackets.length) :
    (bracketsAfter kind changedPlace changedBrackets).length =
      (bracketsAfter kind place brackets).length := by
  rw [bracketsAfter, bracketsAfter]
  repeat' split
  all_goals simp [depth]

/-- The kinds of tokens. -/
abbrev kinds (tokens : List Token) : List TokenKind := tokens.map Token.kind

/-- The tokens of related fields are of the same kinds, if those of each are. -/
theorem kinds_flatMap
    {scanned changedScanned : List Char -> List Token}
    {fields changedFields : List (List Char)}
    (related : List.Forall₂ Replaces fields changedFields)
    (alike : ∀ {source changedSource}, Replaces source changedSource ->
      AreValid (scanned source) -> kinds (changedScanned changedSource) = kinds (scanned source))
    (valid : AreValid (fields.flatMap scanned)) :
    kinds (changedFields.flatMap changedScanned) = kinds (fields.flatMap scanned) := by
  induction related with
  | nil => rfl
  | cons related _ hypothesis =>
      rw [List.flatMap_cons] at valid
      have first := alike related fun token present => valid token (List.mem_append_left _ present)
      have others := hypothesis fun token present => valid token (List.mem_append_right _ present)
      rw [List.flatMap_cons, List.flatMap_cons, kinds, kinds, List.map_append, List.map_append]
      exact congrArg₂ _ first others

/-- With two amounts of fuel, a text of valid tokens only has tokens of the same kinds
before and after its references are replaced. -/
def ScansAlike (fuel moreFuel : Nat) : Prop :=
  ∀ {text changed : List Char} {place changedPlace : Place} {brackets changedBrackets : List Nat}
    {emptyLine : Bool},
    Replaces text changed -> changedBrackets.length = brackets.length ->
    AreValid (scan fuel place brackets emptyLine text) ->
    kinds (scan moreFuel changedPlace changedBrackets emptyLine changed) =
      kinds (scan fuel place brackets emptyLine text)

namespace ScansAlike

variable {fuel moreFuel : Nat} {place changedPlace : Place} {brackets changedBrackets : List Nat}
  {emptyLine : Bool}

/-- Behind a line break scans go on alike. -/
theorem following
    (alike : ScansAlike fuel moreFuel)
    (related : Replaces text changed)
    (depth : changedBrackets.length = brackets.length)
    (valid : AreValid (following fuel place brackets text)) :
    kinds (Token.following moreFuel changedPlace changedBrackets changed) =
      kinds (Token.following fuel place brackets text) := by
  rw [Token.following] at valid ⊢
  rw [Token.following, isIndented_replaces related]
  split at valid
  case isTrue => exact absurd valid (not_areValid _)
  case isFalse level =>
    rw [if_neg level, if_neg level]
    exact alike related depth valid

/-- A line break is scanned alike when references are replaced. -/
theorem lineBreak
    (alike : ScansAlike fuel moreFuel)
    (related : Replaces text changed)
    (depth : changedBrackets.length = brackets.length)
    (valid : AreValid (scan (fuel + 1) place brackets emptyLine ('\n' :: text))) :
    kinds (scan (moreFuel + 1) changedPlace changedBrackets emptyLine ('\n' :: changed)) =
      kinds (scan (fuel + 1) place brackets emptyLine ('\n' :: text)) := by
  have sameDepth : changedBrackets.isEmpty = brackets.isEmpty := by
    rw [Bool.eq_iff_iff, List.isEmpty_iff_length_eq_zero, List.isEmpty_iff_length_eq_zero, depth]
  rw [scan_break] at valid ⊢
  rw [scan_break, sameDepth]
  split at valid
  case isTrue inside =>
    rw [if_pos inside, if_pos inside]
    exact alike related depth valid
  case isFalse outside =>
    rw [if_neg outside, if_neg outside]
    split at valid
    case isTrue empty =>
      rw [if_pos empty, if_pos empty]
      exact alike.following related depth valid
    case isFalse filled =>
      rw [if_neg filled, if_neg filled]
      exact congrArg (.lineBreak :: ·) (alike.following related depth valid.tail)

/-- A comment is scanned alike when references are replaced. -/
theorem comment
    (alike : ScansAlike fuel moreFuel)
    (related : Replaces text changed)
    (depth : changedBrackets.length = brackets.length)
    (valid : AreValid (scan (fuel + 1) place brackets emptyLine ('#' :: text))) :
    kinds (scan (moreFuel + 1) changedPlace changedBrackets emptyLine ('#' :: changed)) =
      kinds (scan (fuel + 1) place brackets emptyLine ('#' :: text)) := by
  rw [scan_comment] at valid ⊢
  rw [scan_comment]
  have rests := (related.dropWhile_of_includes (· != '\n') (by decide)
    fun character word => by simpa using ne_of_isWord word (by decide)).2
  exact alike rests depth valid

/-- A backslash is scanned alike when references are replaced. -/
theorem backslash
    (alike : ScansAlike fuel moreFuel)
    (related : Replaces text changed)
    (depth : changedBrackets.length = brackets.length)
    (valid : AreValid (scan (fuel + 1) place brackets emptyLine ('\\' :: text))) :
    kinds (scan (moreFuel + 1) changedPlace changedBrackets emptyLine ('\\' :: changed)) =
      kinds (scan (fuel + 1) place brackets emptyLine ('\\' :: text)) := by
  rcases scan_backslash fuel place brackets emptyLine text with
    ⟨next, after, rfl, joined⟩ | invalid
  · obtain ⟨behind, rfl, relatedBehind⟩ := related.of_cons (by decide)
    cases behind with
    | nil => cases relatedBehind.isEmpty_eq
    | cons changedNext changedAfter =>
        rw [joined] at valid ⊢
        exact alike relatedBehind depth valid
  · rw [invalid] at valid
    exact absurd valid (not_areValid place)

/-- A token is found again, and behind it and in its fields scans go on alike. -/
theorem token
    (alike : ScansAlike fuel moreFuel)
    {first : Char}
    (noGap : isGap first = false)
    (other : first ∉ ['\n', '#', '\\'])
    (related : Replaces text changed)
    (depth : changedBrackets.length = brackets.length)
    (valid : AreValid (scan (fuel + 1) place brackets emptyLine (first :: text))) :
    kinds (scan (moreFuel + 1) changedPlace changedBrackets emptyLine (first :: changed)) =
      kinds (scan (fuel + 1) place brackets emptyLine (first :: text)) := by
  rw [scan_token _ _ _ _ noGap other] at valid ⊢
  rw [scan_token _ _ _ _ noGap other]
  split at valid
  case isTrue => exact absurd valid (not_areValid place)
  case isFalse accepted =>
    have behind := valid.tail
    rw [AreValid, List.forall_mem_append] at behind
    obtain ⟨inFields, behind⟩ := behind
    have solid : (cut (first :: text)).rest.head? ≠ some '$' := by
      intro sign
      obtain ⟨rest, same⟩ := List.head?_eq_some_iff.mp sign
      rw [same] at behind
      exact not_areValid_scan_sign _ _ _ _ _ behind
    have piece := cut_replaces (.keep first related) (fun invalid => accepted (.inl invalid)) solid
    have inner := length_bracketsAfter (cut (first :: text)).kind place changedPlace depth
    rw [if_neg accepted, piece.kind, inner, if_neg accepted]
    have inField {source changedSource : List Char}
        (related : Replaces source changedSource)
        (valid : AreValid (scan fuel ⟨0, 0⟩ [] true ('(' :: source ++ [')']))) :
        kinds (scan moreFuel ⟨0, 0⟩ [] true ('(' :: changedSource ++ [')'])) =
          kinds (scan fuel ⟨0, 0⟩ [] true ('(' :: source ++ [')'])) :=
      alike (.keep '(' (related.append rfl (.keep ')' .nil))) rfl valid
    have fields := kinds_flatMap piece.fields inField inFields
    rw [kinds, kinds, List.map_cons, List.map_cons, List.map_append, List.map_append]
    exact congrArg _ (congrArg₂ _ fields (alike piece.rest inner behind))

end ScansAlike

/-- A text of valid tokens only has tokens of the same kinds when its references are
replaced. The induction is on the fuel, so that it reaches the sources of fields, too. -/
theorem scansAlike {fuel moreFuel : Nat} (enough : fuel ≤ moreFuel) :
    ScansAlike fuel moreFuel := by
  induction fuel generalizing moreFuel with
  | zero => exact fun _ _ valid => absurd valid (not_areValid _)
  | succ fuel hypothesis =>
      obtain ⟨moreFuel, rfl⟩ : ∃ more, moreFuel = more + 1 := ⟨moreFuel - 1, by omega⟩
      have alike : ScansAlike fuel moreFuel := hypothesis (Nat.le_of_succ_le_succ enough)
      intro text changed place changedPlace brackets changedBrackets emptyLine related depth valid
      cases related with
      | nil => rfl
      | refer => exact absurd valid (not_areValid_scan_sign _ _ _ _ _)
      | @keep first text changed related =>
          cases gap : isGap first with
          | true =>
              rw [scan_gap _ _ _ _ gap] at valid ⊢
              rw [scan_gap _ _ _ _ gap]
              exact alike related depth valid
          | false =>
              by_cases other : first ∉ ['\n', '#', '\\']
              · exact alike.token gap other related depth valid
              · simp only [List.mem_cons, List.not_mem_nil, or_false, not_not] at other
                rcases other with rfl | rfl | rfl
                · exact alike.lineBreak related depth valid
                · exact alike.comment related depth valid
                · exact alike.backslash related depth valid

/-- Replacing the references of a text of valid tokens only changes no kind of token. -/
theorem kinds_all_of_replaces
    (related : Replaces text changed)
    (valid : AreValid (all text)) : kinds (all changed) = kinds (all text) := by
  have unified := related.unifyLineBreaks
  exact scansAlike (Nat.succ_le_succ unified.length_le) unified rfl valid

end Token
end ShaderGraph
