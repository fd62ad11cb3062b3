import ShaderGraph.Proofs.Expression.Cutting
import ShaderGraph.Proofs.Expression.Piece

/-!
# Where the tokens of a text stand

A scan cuts tokens from the front of a text, with blanks, comments and line breaks between
them. A token stands behind all characters that were passed before, and the place noted with
it is the place behind these characters. The tokens of the fields of a formatted text stand
between it and the next token of the text, and a reader passes over them.
-/

namespace ShaderGraph
namespace Token

variable {text : List Char}

/-! ## Scanned tokens -/

/-- The tokens that a scan finds in a text from a place on. Between them stand blanks, comments
and line breaks, of which some are tokens. -/
inductive Scanned : Place -> List Char -> List Token -> Prop
  | stop (place last : Place) : Scanned place [] [⟨.stop, last⟩]
  | blank
      {place : Place}
      {first : Char}
      {rest : List Char}
      {tokens : List Token}
      (scanned : Scanned (place.step first) rest tokens) : Scanned place (first :: rest) tokens
  | lineBreak
      {place : Place}
      {rest : List Char}
      {tokens : List Token}
      (scanned : Scanned (place.step '\n') rest tokens) :
      Scanned place ('\n' :: rest) (⟨.lineBreak, place⟩ :: tokens)
  | comment
      {place : Place}
      {rest : List Char}
      {tokens : List Token}
      (scanned : Scanned place (rest.dropWhile (· != '\n')) tokens) :
      Scanned place ('#' :: rest) tokens
  | token
      {place : Place}
      {first : Char}
      {rest : List Char}
      {blocks : List Char -> List Token}
      {tokens : List Token}
      (filled : first ≠ '\n')
      (valid : (cut (first :: rest)).kind ≠ .invalid)
      (fields : ∀ source ∈ (cut (first :: rest)).fields,
        Scanned ⟨0, 0⟩ ('(' :: source ++ [')']) (blocks source))
      (behind : Scanned
        (place.after ((first :: rest).take (rest.length + 1 - (cut (first :: rest)).rest.length)))
        (cut (first :: rest)).rest tokens) :
      Scanned place (first :: rest)
        (⟨(cut (first :: rest)).kind, place⟩ ::
          ((cut (first :: rest)).fields.flatMap blocks ++ tokens))

/-- A scan whose tokens are all valid finds them one after the other. -/
theorem scanned_scan
    (fuel : Nat)
    {place : Place}
    {brackets : List Nat}
    {emptyLine : Bool}
    (valid : AreValid (scan fuel place brackets emptyLine text)) :
    Scanned place text (scan fuel place brackets emptyLine text) := by
  induction fuel generalizing text place brackets emptyLine with
  | zero => exact absurd valid (not_areValid _)
  | succ fuel hypothesis =>
      have behindBreak {rest : List Char}
          (valid : AreValid (following fuel place brackets rest)) :
          Scanned (place.step '\n') rest (following fuel place brackets rest) := by
        rw [following] at valid ⊢
        split at valid
        case isTrue => exact absurd valid (not_areValid _)
        case isFalse level =>
          rw [if_neg level]
          exact hypothesis valid
      cases text with
      | nil => exact .stop _ _
      | cons first rest =>
          cases gap : isGap first with
          | true =>
              rw [scan_gap _ _ _ _ gap] at valid ⊢
              exact .blank (hypothesis valid)
          | false =>
              by_cases other : first ∉ ['\n', '#', '\\']
              · have filled : first ≠ '\n' := fun same => other (same ▸ List.mem_cons_self)
                rw [scan_token _ _ _ _ gap other] at valid ⊢
                split at valid
                case isTrue => exact absurd valid (not_areValid _)
                case isFalse accepted =>
                  rw [if_neg accepted]
                  obtain ⟨inFields, behind⟩ := List.forall_mem_append.mp valid.tail
                  refine .token filled (fun invalid => accepted (.inl invalid))
                    (fun source present => hypothesis fun token found => ?_) (hypothesis behind)
                  exact inFields token (List.mem_flatMap.mpr ⟨source, present, found⟩)
              · simp only [List.mem_cons, List.not_mem_nil, or_false, not_not] at other
                rcases other with rfl | rfl | rfl
                · rw [scan_break] at valid ⊢
                  split at valid
                  case isTrue inside =>
                    rw [if_pos inside]
                    exact .blank (hypothesis valid)
                  case isFalse outside =>
                    rw [if_neg outside]
                    split at valid
                    case isTrue isEmpty =>
                      rw [if_pos isEmpty]
                      exact .blank (behindBreak valid)
                    case isFalse filled =>
                      rw [if_neg filled]
                      exact .lineBreak (behindBreak valid.tail)
                · rw [scan_comment] at valid ⊢
                  exact .comment (hypothesis valid)
                · rcases scan_backslash fuel place brackets emptyLine rest with
                    ⟨next, after, rfl, joined⟩ | invalid
                  · rw [joined] at valid ⊢
                    exact .blank (.blank (hypothesis valid))
                  · rw [invalid] at valid
                    exact absurd valid (not_areValid _)

/-! ## The tokens of fields -/

section Fields

open Reader

variable {mark : Mark} {marks rest : List Mark}

theorem splitField_cons
    (noStop : mark.kind ≠ .stop)
    (valid : mark.kind ≠ .invalid)
    (inner : Nat)
    (rest : List Mark) :
    (splitField inner (mark :: rest)).2 =
      (splitField (inner + mark.kind.fieldCount) rest).2 := by
  obtain ⟨kind, number⟩ := mark
  cases kind with
  | stop => exact absurd rfl noStop
  | invalid => exact absurd rfl valid
  | formatted fields => cases fields <;> rfl
  | _ => rfl

/-- Tokens end one field: a search for its end stops behind them. -/
structure EndsField (marks : List Mark) : Prop where
  last : ∀ rest, (splitField 0 (marks ++ rest)).2 = rest
  inner : ∀ count rest, (splitField (count + 1) (marks ++ rest)).2 = (splitField count rest).2

theorem endsField_stop
    (isStop : mark.kind = .stop) : EndsField [mark] where
  last rest := by
    obtain ⟨kind, number⟩ := mark
    subst isStop
    rfl
  inner count rest := by
    obtain ⟨kind, number⟩ := mark
    subst isStop
    rfl

/-- Behind fields one after the other a search goes on for the fields around them. -/
theorem splitField_flatten
    {fields : List (List Mark)}
    (ends : ∀ field ∈ fields, EndsField field)
    (inner : Nat)
    (rest : List Mark) :
    (splitField (inner + fields.length) (fields.flatten ++ rest)).2 =
      (splitField inner rest).2 := by
  induction fields with
  | nil => rfl
  | cons field fields inductionHypothesis =>
      obtain ⟨first, others⟩ := List.forall_mem_cons.mp ends
      rw [List.flatten_cons, List.append_assoc, List.length_cons, ← Nat.add_assoc, first.inner,
        inductionHypothesis others]

theorem behindFields_flatten
    {fields : List (List Mark)}
    (ends : ∀ field ∈ fields, EndsField field)
    (rest : List Mark) : behindFields fields.length (fields.flatten ++ rest) = rest := by
  induction fields with
  | nil => rfl
  | cons field fields inductionHypothesis =>
      obtain ⟨first, others⟩ := List.forall_mem_cons.mp ends
      rw [List.flatten_cons, List.append_assoc, List.length_cons, behindFields, first.last,
        inductionHypothesis others]

/-- Behind a token that is not the end a search goes on in the fields of the token. -/
theorem EndsField.cons
    {fields : List (List Mark)}
    (noStop : mark.kind ≠ .stop)
    (valid : mark.kind ≠ .invalid)
    (count : fields.length = mark.kind.fieldCount)
    (endFields : ∀ field ∈ fields, EndsField field)
    (ends : EndsField marks) : EndsField (mark :: (fields.flatten ++ marks)) where
  last rest := by
    rw [List.cons_append, List.append_assoc, splitField_cons noStop valid, ← count,
      splitField_flatten endFields, ends.last]
  inner inner rest := by
    rw [List.cons_append, List.append_assoc, splitField_cons noStop valid, ← count,
      splitField_flatten endFields, ends.inner]

/-- The marks of the tokens of fields are split between the fields. -/
theorem exists_flatten
    {sources : List (List Char)}
    {blocks : List Char -> List Token}
    (same : marks.map Mark.kind = kinds (sources.flatMap blocks)) :
    ∃ fields : List (List Mark), marks = fields.flatten ∧ fields.length = sources.length ∧
      ∀ field ∈ fields, ∃ source ∈ sources, field.map Mark.kind = kinds (blocks source) := by
  induction sources generalizing marks with
  | nil => exact ⟨[], List.map_eq_nil_iff.mp same, rfl, List.forall_mem_nil _⟩
  | cons source sources inductionHypothesis =>
      rw [List.flatMap_cons, kinds, List.map_append] at same
      obtain ⟨field, others, rfl, ofField, ofOthers⟩ := List.map_eq_append_iff.mp same
      obtain ⟨fields, rfl, length, split⟩ := inductionHypothesis ofOthers
      refine ⟨field :: fields, rfl, congrArg (· + 1) length, List.forall_mem_cons.mpr ⟨?_, ?_⟩⟩
      · exact ⟨source, List.mem_cons_self, ofField⟩
      · intro other present
        obtain ⟨from', listed, ofOther⟩ := split other present
        exact ⟨from', List.mem_cons_of_mem source listed, ofOther⟩

/-- The tokens that a scan finds end one field. -/
theorem Scanned.endsField
    {place : Place}
    {tokens : List Token}
    (scanned : Scanned place text tokens)
    (same : marks.map Mark.kind = kinds tokens) : EndsField marks := by
  induction scanned generalizing marks with
  | stop =>
      obtain ⟨mark, rfl, isStop⟩ := List.map_eq_singleton_iff.mp same
      exact endsField_stop isStop
  | blank _ inductionHypothesis => exact inductionHypothesis same
  | comment _ inductionHypothesis => exact inductionHypothesis same
  | lineBreak _ inductionHypothesis =>
      obtain ⟨mark, marks, rfl, isBreak, others⟩ := List.map_eq_cons_iff.mp same
      have ends : EndsField (mark :: ([].flatten ++ marks)) :=
        .cons (by simp [isBreak]) (by simp [isBreak]) (by rw [isBreak]; rfl)
          (List.forall_mem_nil _) (inductionHypothesis others)
      exact ends
  | @token place first rest blocks tokens _ valid _ _ fieldsHypothesis inductionHypothesis =>
      have isCut := isCutFrom_cut first rest
      rw [kinds, List.map_cons] at same
      obtain ⟨mark, behind, rfl, isKind, same⟩ := List.map_eq_cons_iff.mp same
      rw [List.map_append] at same
      obtain ⟨inFields, others, rfl, ofFields, ofOthers⟩ := List.map_eq_append_iff.mp same
      obtain ⟨fields, rfl, length, split⟩ := exists_flatten ofFields
      refine EndsField.cons (isKind ▸ isCut.ne_stop) (isKind ▸ valid) ?_ ?_
        (inductionHypothesis ofOthers)
      · rw [length, isKind]
        exact isCut.length_fields
      · intro field present
        obtain ⟨source, listed, ofField⟩ := split field present
        exact fieldsHypothesis source listed ofField

end Fields

/-! ## Places in the text -/

section Places

open Reader

/-- Tokens stand in a text behind a part of it, each at its place, and between them only what
is passed over or is the text of a field. -/
inductive Laid (text : List Char) : List Char -> List Token -> Prop
  | nil (passed : List Char) : Laid text passed []
  | foreign
      {passed : List Char}
      {kind : TokenKind}
      {place : Place}
      {tokens : List Token}
      (isForeign : kind = .stop ∨ kind = .lineBreak)
      (behind : Laid text passed tokens) : Laid text passed (⟨kind, place⟩ :: tokens)
  | token
      {passed start word after : List Char}
      {kind : TokenKind}
      {fields tokens : List Token}
      (later : passed <+: start)
      (whole : text = start ++ (word ++ after))
      {piece : Piece}
      (isCut : IsCutFrom (word ++ after) piece)
      (isKind : piece.kind = kind)
      (isRest : piece.rest = after)
      (inFields : ∀ (marks others : List Mark), marks.map Mark.kind = kinds fields ->
        behindFields kind.fieldCount (marks ++ others) = others)
      (behind : Laid text (start ++ word) tokens) :
      Laid text passed (⟨kind, Place.after ⟨0, 0⟩ start⟩ :: (fields ++ tokens))

variable {passed start rest : List Char} {place : Place} {tokens all : List Token}

theorem Laid.of_earlier
    (laid : Laid text start tokens)
    (earlier : passed <+: start) : Laid text passed tokens := by
  induction laid with
  | nil => exact .nil passed
  | foreign isForeign _ inductionHypothesis =>
      exact .foreign isForeign (inductionHypothesis earlier)
  | token later whole isCut isKind isRest inFields behind =>
      exact .token (earlier.trans later) whole isCut isKind isRest inFields behind

theorem after_append (place : Place) (passed word : List Char) :
    place.after (passed ++ word) = (place.after passed).after word :=
  List.foldl_append

/-- A scan notes with every token the place behind the characters before it. Only behind a
comment it does not know its place, up to the next line break. -/
theorem Scanned.laid
    (scanned : Scanned place rest tokens)
    (whole : text = passed ++ rest)
    (placed : place = Place.after ⟨0, 0⟩ passed ∨
      ∀ first, rest.head? = some first -> first = '\n') : Laid text passed tokens := by
  induction scanned generalizing passed with
  | stop => exact .foreign (.inl rfl) (.nil passed)
  | @blank place first rest tokens _ inductionHypothesis =>
      refine (inductionHypothesis (whole.trans (List.append_cons passed first rest))
        (.inl ?_)).of_earlier (List.prefix_append passed [first])
      rw [after_append]
      rcases placed with rfl | isBreak
      · rfl
      · rw [isBreak first rfl]
        rfl
  | @lineBreak place rest tokens _ inductionHypothesis =>
      refine .foreign (.inr rfl) ?_
      refine (inductionHypothesis (whole.trans (List.append_cons passed '\n' rest))
        (.inl ?_)).of_earlier (List.prefix_append passed ['\n'])
      rw [after_append]
      rfl
  | @comment place rest tokens _ inductionHypothesis =>
      have split : passed ++ '#' :: rest =
          (passed ++ '#' :: rest.takeWhile (· != '\n')) ++ rest.dropWhile (· != '\n') := by
        rw [List.append_assoc, List.cons_append, List.takeWhile_append_dropWhile]
      refine (inductionHypothesis (whole.trans split) (.inr fun first leads => ?_)).of_earlier
        (List.prefix_append passed _)
      have stops := List.head?_dropWhile_not (· != '\n') rest
      rw [leads] at stops
      simpa using stops
  | @token place first rest blocks tokens filled valid fields _ _ inductionHypothesis =>
      have isCut := isCutFrom_cut first rest
      obtain ⟨word, split⟩ := isCut.suffix
      have isCutWord : IsCutFrom (word ++ (cut (first :: rest)).rest) (cut (first :: rest)) := by
        rw [split]
        exact isCut
      have taken : (first :: rest).take (rest.length + 1 - (cut (first :: rest)).rest.length) =
          word := by
        have length := congrArg List.length split
        rw [List.length_append, List.length_cons] at length
        rw [← length, Nat.add_sub_cancel, ← split, List.take_left]
      obtain rfl : place = Place.after ⟨0, 0⟩ passed :=
        placed.resolve_right fun isBreak => filled (isBreak first rfl)
      rw [← split] at whole
      refine .token (List.prefix_refl passed) whole isCutWord rfl rfl ?_
        (inductionHypothesis (whole.trans (List.append_assoc _ _ _).symm) (.inl ?_))
      · intro marks others ofFields
        obtain ⟨inFields, rfl, length, each⟩ := exists_flatten ofFields
        rw [← isCut.length_fields, ← length]
        refine behindFields_flatten (fun field present => ?_) others
        obtain ⟨source, listed, ofField⟩ := each field present
        exact (fields source listed).endsField ofField
      · rw [taken, after_append]

/-- The tokens of a text stand in it. -/
theorem laid_all (valid : AreValid (Token.all text)) :
    Laid (Text.unifyLineBreaks text) [] (Token.all text) :=
  (scanned_scan _ valid).laid rfl (.inl rfl)

/-! ## Numbered tokens -/

theorem marksFrom_append (number : Nat) (left right : List TokenKind) :
    Expression.marksFrom number (left ++ right) =
      Expression.marksFrom number left ++ Expression.marksFrom (number + left.length) right := by
  induction left generalizing number with
  | nil => rfl
  | cons kind left inductionHypothesis =>
      rw [List.cons_append, Expression.marksFrom, inductionHypothesis, Expression.marksFrom,
        List.cons_append, List.length_cons, Nat.add_assoc, Nat.add_comm 1]

theorem kind_marksFrom (number : Nat) (kinds : List TokenKind) :
    (Expression.marksFrom number kinds).map Mark.kind = kinds := by
  induction kinds generalizing number with
  | nil => rfl
  | cons kind kinds inductionHypothesis =>
      rw [Expression.marksFrom, List.map_cons, inductionHypothesis]

theorem placeOf_append (early : List Token) (token : Token) (others : List Token) :
    Expression.placeOf (early ++ token :: others) (early.length + 1) = token.place := by
  simp [Expression.placeOf]

/-- Marks are those of the last of all tokens, which stand in a text behind a part of it. -/
def AreLast (text passed : List Char) (all : List Token) (marks : List Mark) : Prop :=
  ∃ early tokens, all = early ++ tokens ∧
    marks = Expression.marksFrom (early.length + 1) (kinds tokens) ∧ Laid text passed tokens

variable {mark : Mark} {marks others : List Mark}

/-- A token stands in a text behind a part of it, and others behind it. -/
structure Stands (text passed : List Char) (all : List Token) (mark : Mark) (others : List Mark)
    (start word after : List Char) : Prop where
  later : passed <+: start
  whole : text = start ++ (word ++ after)
  isCut : ∃ piece, IsCutFrom (word ++ after) piece ∧ piece.kind = mark.kind ∧ piece.rest = after
  place : Expression.placeOf all mark.number = Place.after ⟨0, 0⟩ start
  behind : AreLast text (start ++ word) all (behindFields mark.kind.fieldCount others)

/-- The first of the last tokens stands in the text, unless it is a line break or the end. -/
theorem AreLast.cases
    (areLast : AreLast text passed all (mark :: others)) :
    (mark.kind = .stop ∨ mark.kind = .lineBreak) ∧ AreLast text passed all others ∨
      ∃ start word after, Stands text passed all mark others start word after := by
  obtain ⟨early, tokens, rfl, same, laid⟩ := areLast
  cases laid with
  | nil => cases same
  | @foreign _ kind place tokens isForeign behind =>
      cases same
      refine .inl ⟨isForeign, early ++ [⟨kind, place⟩], tokens, List.append_cons _ _ _, ?_, behind⟩
      rw [List.length_append, List.length_singleton]
  | @token _ start word after kind fields tokens later whole piece isCut isKind isRest inFields
      behind =>
      cases same
      refine .inr ⟨start, word, after, later, whole, ⟨piece, isCut, isKind, isRest⟩,
        placeOf_append _ _ _, early ++ ⟨kind, Place.after ⟨0, 0⟩ start⟩ :: fields, tokens, ?_, ?_,
        behind⟩
      · rw [List.append_assoc, List.cons_append]
      · have split : Expression.marksFrom (early.length + 1 + 1)
              ((fields ++ tokens).map Token.kind) =
            Expression.marksFrom (early.length + 1 + 1) (kinds fields) ++
              Expression.marksFrom (early.length + 1 + 1 + fields.length) (kinds tokens) := by
          rw [List.map_append, marksFrom_append, List.length_map]
        rw [split, inFields _ _ (kind_marksFrom _ _), List.length_append, List.length_cons]
        congr 1
        omega

theorem AreLast.of_earlier
    (areLast : AreLast text start all marks)
    (earlier : passed <+: start) : AreLast text passed all marks := by
  obtain ⟨early, tokens, split, same, laid⟩ := areLast
  exact ⟨early, tokens, split, same, laid.of_earlier earlier⟩

/-- Reached tokens are the last of all. -/
theorem areLast_of_reached
    (laid : Laid text [] all)
    (reached : Reached (Expression.marksFrom 1 (kinds all)) marks) :
    AreLast text [] all marks := by
  induction reached with
  | start => exact ⟨[], all, rfl, rfl, laid⟩
  | @next mark rest _ areLast =>
      rcases areLast.cases with ⟨isForeign, behind⟩ | ⟨start, word, after, stands⟩
      · rcases isForeign with isStop | isBreak
        · rw [isStop]
          exact behind
        · rw [isBreak]
          exact behind
      · exact stands.behind.of_earlier List.nil_prefix

/-! ## Names in the text -/

/-- A place of a name in a text: what stands before it, what leads to it, the name as it is
written, and what stands behind it. -/
structure Mention where
  before : List Char
  lead : List Char
  word : List Char
  after : List Char

/-- A name is mentioned at a place of a text. -/
structure Mention.IsIn (mention : Mention) (text : List Char) (name : String) : Prop where
  whole : text = mention.before ++ (mention.lead ++ (mention.word ++ mention.after))
  identifier : isIdentifier mention.word = true
  ends : mention.after.head?.any isIdentifierLike = false
  spells : String.ofList (Text.normalForm mention.word) = name

/-- The token of a name stands where the name does. -/
theorem exists_mention
    {name : String}
    {column : Nat}
    (areLast : AreLast text passed all (⟨.identifier name, column⟩ :: others)) :
    ∃ mention : Mention, mention.IsIn text name ∧ passed <+: mention.before ∧
      Expression.placeOf all column = Place.after ⟨0, 0⟩ mention.before ∧ mention.lead = [] := by
  rcases areLast.cases with ⟨isForeign, -⟩ | ⟨start, word, after, stands⟩
  · rcases isForeign with isStop | isBreak
    · cases isStop
    · cases isBreak
  obtain ⟨piece, isCut, isName, rfl⟩ := stands.isCut
  obtain ⟨written, named⟩ := isCut.name isName
  obtain rfl : word = written := List.append_cancel_right named.whole
  exact ⟨⟨start, [], word, piece.rest⟩,
    ⟨stands.whole, named.identifier, named.ends, named.spells⟩, stands.later, stands.place, rfl⟩

/-- Tokens that lead to a name stand where the name does or where a parenthesis before it
opens. -/
theorem exists_mention_of_leads
    {name : String}
    {column : Nat}
    {opened : List Mark}
    (areLast : AreLast text passed all (opened ++ ⟨.identifier name, column⟩ :: others))
    (opens : ∀ mark ∈ opened, mark.kind = .symbol "(") :
    ∃ mention : Mention, mention.IsIn text name ∧ passed <+: mention.before ∧
      Expression.placeOf all (nextNumber (opened ++ ⟨.identifier name, column⟩ :: others)) =
        Place.after ⟨0, 0⟩ mention.before ∧
      (mention.lead = [] ∨ mention.lead.head? = some '(') := by
  induction opened generalizing passed with
  | nil =>
      obtain ⟨mention, isIn, later, place, lead⟩ := exists_mention areLast
      exact ⟨mention, isIn, later, place, .inl lead⟩
  | cons mark opened inductionHypothesis =>
      obtain ⟨isOpening, opens⟩ := List.forall_mem_cons.mp opens
      rcases areLast.cases with ⟨isForeign, -⟩ | ⟨start, word, after, stands⟩
      · rw [isOpening] at isForeign
        rcases isForeign with isStop | isBreak
        · cases isStop
        · cases isBreak
      obtain ⟨piece, isCut, isKind, rfl⟩ := stands.isCut
      obtain rfl : word = ['('] :=
        List.append_cancel_right (isCut.opening (isKind.trans isOpening))
      have behind := stands.behind
      rw [isOpening] at behind
      obtain ⟨⟨before, lead, word, after⟩, isIn, ⟨more, rfl⟩, -, -⟩ :=
        inductionHypothesis behind opens
      refine ⟨⟨start, '(' :: (more ++ lead), word, after⟩,
        ⟨?_, isIn.identifier, isIn.ends, isIn.spells⟩, stands.later, stands.place, .inr rfl⟩
      rw [isIn.whole]
      simp only [List.append_assoc, List.cons_append, List.nil_append]

end Places

end Token
end ShaderGraph
