import Mathlib.Data.Bool.AllAny
import Mathlib.Data.List.Forall2
import ShaderGraph.Proofs.Expression.Quotation

/-!
# Replacement fields with replaced references

The fields of a formatted text are found at the same marks before and after
references are replaced, and their sources are related.
-/

namespace ShaderGraph
namespace Field

open Reference

variable {text changed : List Char}

/-! ## The source of a field -/

/-- The mark that ends a quoted text inside of a field is a quote. -/
def Quoting.IsProper : Quoting -> Prop
  | .none => True
  | .short quote => IsQuote quote
  | .long quote => IsQuote quote

/-- A move goes on inside of a source as it may be: only quotes open quoted texts, and few
characters are taken unseen. -/
def Move.IsProper : Move -> Prop
  | .go unseen quoting _ => unseen <= 2 ∧ quoting.IsProper
  | .refuse => True
  | .stop => True

theorem isProper_ite
    {condition : Prop}
    [Decidable condition]
    {left right : Move}
    (met : condition -> left.IsProper)
    (unmet : ¬condition -> right.IsProper) : (if condition then left else right).IsProper := by
  split
  case isTrue holds => exact met holds
  case isFalse fails => exact unmet fails

/-- A move within a field leaves the quoting proper. -/
theorem isProper_move
    {unseen : Nat}
    {quoting : Quoting}
    (bound : unseen <= 2)
    (proper : quoting.IsProper)
    (brackets : List Char)
    (first : Char)
    (rest : List Char) : (move unseen quoting brackets first rest).IsProper := by
  have few : unseen - 1 <= 2 := Nat.le_trans (Nat.sub_le _ _) bound
  unfold move
  refine isProper_ite (fun _ => trivial) fun _ => isProper_ite (fun _ => ⟨few, proper⟩) fun _ => ?_
  cases quoting with
  | none =>
      refine isProper_ite (fun quotes => ?_) fun _ => ?_
      · have isQuote : IsQuote first := by simpa [IsQuote] using quotes
        exact isProper_ite (fun _ => ⟨Nat.le_refl _, isQuote⟩) fun _ => ⟨Nat.zero_le _, isQuote⟩
      refine isProper_ite (fun _ => ?_) fun _ => isProper_ite (fun _ => trivial) fun _ => ?_
      · exact isProper_ite (fun _ => trivial) fun _ => ⟨Nat.zero_le _, trivial⟩
      cases brackets with
      | nil =>
          refine isProper_ite (fun _ => ⟨by decide, trivial⟩) fun _ => ?_
          refine isProper_ite (fun _ => trivial) fun _ => ?_
          refine isProper_ite (fun _ => trivial) fun _ => ?_
          exact ⟨Nat.zero_le _, trivial⟩
      | cons expected outer =>
          refine isProper_ite (fun _ => ?_) fun _ => ⟨Nat.zero_le _, trivial⟩
          exact isProper_ite (fun _ => ⟨Nat.zero_le _, trivial⟩) fun _ => trivial
  | short quote =>
      refine ⟨Nat.zero_le _, ?_⟩
      split
      · exact trivial
      · exact proper
  | long quote =>
      exact isProper_ite (fun _ => ⟨Nat.le_refl _, trivial⟩) fun _ => ⟨Nat.zero_le _, proper⟩

/-- A character without a meaning belongs to the source. -/
theorem move_of_isPlain
    (unseen : Nat)
    {quoting : Quoting}
    (proper : quoting.IsProper)
    (brackets : List Char)
    {first : Char}
    (plain : IsPlain first)
    (rest : List Char) :
    move unseen quoting brackets first rest = .go (unseen - 1) quoting brackets := by
  have excluded (other : Char) (noSign : other ≠ '$') (noWord : Text.isWord other = false) :
      (first == other) = false := beq_false_of_ne (plain.ne noSign noWord)
  cases unseen with
  | succ unseen => simp [move, excluded '\\' (by decide) (by decide)]
  | zero =>
      cases quoting with
      | short quote =>
          simp [move, excluded '\\' (by decide) (by decide),
            excluded quote proper.ne_sign proper.isWord_eq_false]
      | long quote =>
          simp [move, excluded '\\' (by decide) (by decide),
            excluded quote proper.ne_sign proper.isWord_eq_false]
      | none =>
          have noMark : ∀ mark ∈ ['\\', '\'', '"', '(', '[', '\x7b', '#', '!', '=', '<', '>', ':',
              '\x7d', ')', ']'], (first == mark) = false := by
            intro mark present
            have facts : mark ≠ '$' ∧ Text.isWord mark = false := by
              revert mark
              exact List.all_iff_forall_prop.mp (by decide)
            exact excluded mark facts.1 facts.2
          simp only [List.forall_mem_cons] at noMark
          obtain ⟨h1, h2, h3, h4, h5, h6, h7, h8, h9, h10, h11, h12, h13, h14, h15, -⟩ := noMark
          cases brackets <;> simp [move, isComparison, *]

/-- The move depends on what follows only by characters that are no part of a
reference. -/
theorem move_replaces
    (unseen : Nat)
    (quoting : Quoting)
    (proper : quoting.IsProper)
    (brackets : List Char)
    (first : Char)
    {rest changed : List Char}
    (related : Replaces rest changed) :
    move unseen quoting brackets first changed = move unseen quoting brackets first rest := by
  by_cases plain : IsPlain first
  · rw [move_of_isPlain unseen proper brackets plain, move_of_isPlain unseen proper brackets plain]
  · have noSign : first ≠ '$' := fun same => plain (.inl same)
    have noName : first ≠ 's' := by
      rintro rfl
      exact plain (.inr (by decide))
    have pair : [first, first].isPrefixOf changed = [first, first].isPrefixOf rest :=
      related.isPrefixOf_eq (by simp [noSign.symm]) (by simp [noName.symm])
    have comparison : isComparison first changed = isComparison first rest := by
      rw [isComparison, isComparison]
      rcases related.head?_cases with same | ⟨sign, start⟩
      · rw [same]
      · rw [sign, start]
        rfl
    cases quoting <;> cases brackets <;> simp only [move, pair, comparison]

/-- What a source is split into makes up the text. -/
theorem append_of_source?
    {unseen : Nat}
    {quoting : Quoting}
    {brackets stretch after : List Char}
    (found : source? unseen quoting brackets text = some (stretch, after)) :
    stretch ++ after = text := by
  induction text generalizing unseen quoting brackets stretch with
  | nil => cases found
  | cons first rest hypothesis =>
      rw [source?] at found
      split at found
      · cases found
      · cases found
        rfl
      · obtain ⟨behind, foundBehind, rfl⟩ := keep_eq_some found
        rw [List.cons_append, hypothesis foundBehind]

/-- Characters without a meaning belong to the source. -/
theorem source?_append
    (unseen : Nat)
    {quoting : Quoting}
    (proper : quoting.IsProper)
    (brackets : List Char)
    {before : List Char}
    (plain : ∀ character ∈ before, IsPlain character)
    (text : List Char) :
    source? unseen quoting brackets (before ++ text) =
      keepAll before (source? (unseen - before.length) quoting brackets text) := by
  induction before generalizing unseen with
  | nil => rw [keepAll_nil]; rfl
  | cons first rest hypothesis =>
      rw [List.cons_append, source?, move_of_isPlain unseen proper brackets
        (plain first List.mem_cons_self)]
      dsimp only
      rw [hypothesis _ fun character present => plain character (List.mem_cons_of_mem _ present),
        keep_keepAll, Nat.sub_sub, Nat.add_comm 1, List.length_cons]

/-- The source of a field is cut at the same place when references are replaced. -/
theorem source?_replaces
    {unseen : Nat}
    (bound : unseen <= 2)
    {quoting : Quoting}
    (proper : quoting.IsProper)
    (brackets : List Char)
    {text changed : List Char}
    (related : Replaces text changed) :
    ReplacesSplit (source? unseen quoting brackets text)
      (source? unseen quoting brackets changed) := by
  induction related generalizing unseen quoting brackets with
  | nil => exact .none
  | @keep first rest changed related hypothesis =>
      rw [source?, source?, move_replaces unseen quoting proper brackets first related]
      cases moved : move unseen quoting brackets first rest with
      | refuse => exact .none
      | stop => exact .some ⟨.nil, .keep first related⟩
      | go next nextQuoting nextBrackets =>
          have goes := isProper_move bound proper brackets first rest
          rw [moved] at goes
          exact (hypothesis goes.1 goes.2 nextBrackets).keep first
  | @refer name text changed isName ends related hypothesis =>
      have long : 2 <= name.length := by
        obtain ⟨more, rfl⟩ := isName.exists_cons
        simp
      have seen : unseen - ('$' :: name).length = 0 := by
        rw [List.length_cons]
        omega
      have seenMark : unseen - (name ++ resultMark).length = 0 := by
        rw [List.length_append]
        omega
      rw [← List.cons_append, source?_append unseen proper brackets isName.isPlain_cons,
        ← List.append_assoc, source?_append unseen proper brackets isName.isPlain_append,
        seen, seenMark]
      refine (hypothesis (Nat.zero_le 2) proper brackets).refer isName fun _ _ found => ?_
      exact any_head?_of_prefix ⟨_, append_of_source? found⟩ ends

/-! ## Literal stretches -/

/-- A literal stretch and what is behind it make the text. -/
theorem append_of_literal?
    {raw format : Bool}
    {unseen : Nat}
    {stretch after : List Char}
    (found : literal? raw format unseen text = some (stretch, after)) :
    stretch ++ after = text := by
  induction text generalizing unseen stretch with
  | nil =>
      cases found
      rfl
  | cons first rest hypothesis =>
      have kept {unseen : Nat}
          (found : keep first (literal? raw format unseen rest) = some (stretch, after)) :
          stretch ++ after = first :: rest := by
        obtain ⟨behind, foundBehind, rfl⟩ := keep_eq_some found
        rw [List.cons_append, hypothesis foundBehind]
      rw [literal?] at found
      repeat' split at found
      all_goals first
        | exact kept found
        | cases found
      all_goals rfl

/-- Characters that are taken unseen are put in front of what is found behind them. -/
theorem literal?_unseen (raw format : Bool) (unseen : Nat) (text : List Char) :
    literal? raw format unseen text =
      keepAll (text.take unseen) (literal? raw format 0 (text.drop unseen)) := by
  induction text generalizing unseen with
  | nil => cases unseen <;> rfl
  | cons first rest hypothesis =>
      cases unseen with
      | zero => rw [List.take_zero, List.drop_zero, keepAll_nil]
      | succ unseen =>
          rw [literal?, if_pos (Nat.succ_pos unseen), Nat.add_sub_cancel, hypothesis,
            keep_keepAll, List.take_succ_cons, List.drop_succ_cons]

/-- Characters without a meaning belong to a literal stretch. -/
theorem literal?_append
    (raw format : Bool)
    {before : List Char}
    (plain : ∀ character ∈ before, IsPlain character)
    (text : List Char) :
    literal? raw format 0 (before ++ text) = keepAll before (literal? raw format 0 text) := by
  induction before with
  | nil => rw [keepAll_nil]; rfl
  | cons first rest hypothesis =>
      have excluded (other : Char) (noSign : other ≠ '$') (noWord : Text.isWord other = false) :
          (first == other) = false :=
        beq_false_of_ne ((plain first List.mem_cons_self).ne noSign noWord)
      rw [List.cons_append, literal?]
      simp only [Nat.lt_irrefl, gt_iff_lt, if_false, excluded '\\' (by decide) (by decide),
        excluded '\x7b' (by decide) (by decide), excluded '\x7d' (by decide) (by decide),
        Bool.false_and, Bool.false_eq_true]
      rw [hypothesis fun character present => plain character (List.mem_cons_of_mem _ present),
        keep_keepAll]

/-- An escape by name reaches to its closing brace. -/
theorem escapeLength_eq_name
    {text : List Char}
    (named : ['N', '\x7b'].isPrefixOf text = true) :
    escapeLength text = (text.takeWhile (· != '\x7d')).length + 1 :=
  if_pos named

theorem escapeLength_eq
    {text : List Char}
    (unnamed : ['N', '\x7b'].isPrefixOf text = false) :
    escapeLength text =
      if text.head?.any (fun first => first == '\x7b' || first == '\x7d') then 0 else 1 := by
  rw [escapeLength, unnamed]
  cases text with
  | nil => rfl
  | cons first rest => simp

/-- Characters that were seen before are kept in front of a stretch. -/
theorem literal?_unseen_append
    (raw format : Bool)
    (unseen : Nat)
    (before text : List Char) :
    literal? raw format (before.length + unseen) (before ++ text) =
      keepAll before (literal? raw format unseen text) := by
  rw [literal?_unseen, literal?_unseen raw format unseen, keepAll_keepAll,
    List.take_length_add_append, List.drop_length_add_append]

/-- The name of a character is taken up to the brace that closes it. -/
theorem literal?_name (raw format : Bool) (text : List Char) :
    literal? raw format ((text.takeWhile (· != '\x7d')).length + 1) text =
      keepAll (text.takeWhile (· != '\x7d'))
        (literal? raw format 1 (text.dropWhile (· != '\x7d'))) := by
  rw [← literal?_unseen_append, List.takeWhile_append_dropWhile]

/-- A character taken unseen belongs to the stretch, and so do those behind it that
have no meaning. -/
theorem literal?_one_append
    (raw format : Bool)
    (first : Char)
    {before : List Char}
    (plain : ∀ character ∈ before, IsPlain character)
    (text : List Char) :
    literal? raw format 1 (first :: (before ++ text)) =
      keepAll (first :: before) (literal? raw format 0 text) := by
  rw [literal?_unseen, List.take_succ_cons, List.drop_succ_cons, List.take_zero, List.drop_zero,
    literal?_append raw format plain, keepAll_keepAll]
  rfl

/-- An escape sequence takes related characters of both texts. The stretches behind
it are related if those of all shorter texts are. -/
theorem literal?_escape_replaces
    (raw format : Bool)
    {text changed : List Char}
    (related : Replaces text changed)
    (recur : ∀ {rest changedRest}, rest.length <= text.length -> Replaces rest changedRest ->
      ReplacesSplit (literal? raw format 0 rest) (literal? raw format 0 changedRest)) :
    ReplacesSplit (literal? raw format (escapeLength text) text)
      (literal? raw format (escapeLength changed) changed) := by
  have sameName : ['N', '\x7b'].isPrefixOf changed = ['N', '\x7b'].isPrefixOf text :=
    related.isPrefixOf_eq (by decide) (by decide)
  cases named : ['N', '\x7b'].isPrefixOf text with
  | true =>
      obtain ⟨relatedName, relatedRest⟩ :=
        related.dropWhile_of_includes (· != '\x7d') (by decide) fun character word => by
          simpa using ne_of_isWord word (by decide)
      have closes := List.head?_dropWhile_not (· != '\x7d') text
      have shorter : (text.dropWhile (· != '\x7d')).length <= text.length :=
        (List.dropWhile_suffix _).length_le
      rw [escapeLength_eq_name named, escapeLength_eq_name (sameName.trans named), literal?_name,
        literal?_name]
      generalize text.dropWhile (· != '\x7d') = rest at relatedRest closes shorter ⊢
      generalize changed.dropWhile (· != '\x7d') = changedRest at relatedRest ⊢
      cases relatedRest with
      | nil =>
          refine ReplacesSplit.keepAll relatedName (fun _ _ found => ?_) (.some ⟨.nil, .nil⟩)
          cases found
          rfl
      | keep first related =>
          have closing : first = '\x7d' := by simpa using closes
          subst closing
          have behind := (recur (by simp at shorter; omega) related).keep '\x7d'
          rw [literal?_unseen, literal?_unseen raw format 1]
          refine ReplacesSplit.keepAll relatedName (fun _ _ found => ?_) behind
          obtain ⟨_, _, rfl⟩ := keep_eq_some found
          rfl
      | refer => simp at closes
  | false =>
      rw [escapeLength_eq named, escapeLength_eq (sameName.trans named),
        related.any_head? (by decide)]
      split
      · exact recur (Nat.le_refl _) related
      · cases related with
        | nil => exact .some ⟨.nil, .nil⟩
        | keep first related =>
            rw [literal?_unseen, literal?_unseen raw format 1]
            exact (recur (by simp) related).keep first
        | @refer name rest changed isName ends related =>
            have whole := (recur (by simp; omega) related).refer isName fun _ _ found =>
              any_head?_of_prefix ⟨_, append_of_literal? found⟩ ends
            have named := fun character present =>
              isName.isPlain_cons character (List.mem_cons_of_mem _ present)
            rw [literal?_one_append raw format '$' named, ← List.append_assoc]
            obtain ⟨more, rfl⟩ := isName.exists_cons
            have marked : ∀ character ∈ 'h' :: more ++ resultMark, IsPlain character :=
              fun character present =>
                isName.isPlain_append character (List.mem_cons_of_mem 's' present)
            rw [List.cons_append, List.cons_append, literal?_one_append raw format 's' marked]
            exact whole

/-- A literal stretch is cut at the same place when references are replaced. -/
theorem literal?_replaces
    (raw format : Bool)
    {text changed : List Char}
    (related : Replaces text changed) :
    ReplacesSplit (literal? raw format 0 text) (literal? raw format 0 changed) := by
  match related with
  | .nil => exact .some ⟨.nil, .nil⟩
  | .refer isName ends rest =>
      rw [← List.cons_append, literal?_append raw format isName.isPlain_cons, ← List.append_assoc,
        literal?_append raw format isName.isPlain_append]
      refine (literal?_replaces raw format rest).refer isName fun _ _ found => ?_
      exact any_head?_of_prefix ⟨_, append_of_literal? found⟩ ends
  | @Replaces.keep first rest changed related =>
      have behind := literal?_replaces raw format related
      have escaped := literal?_escape_replaces raw format related
        fun shorter related => literal?_replaces raw format related
      by_cases plain : IsPlain first
      · have alone : ∀ character ∈ [first], IsPlain character := by simpa using plain
        have kept (text : List Char) :
            literal? raw format 0 (first :: text) = keep first (literal? raw format 0 text) :=
          literal?_append raw format alone text
        rw [kept, kept]
        exact behind.keep first
      · have noSign : first ≠ '$' := fun same => plain (.inl same)
        have noName : first ≠ 's' := by
          rintro rfl
          exact plain (.inr (by decide))
        have doubled : (changed.head? == some first) = (rest.head? == some first) := by
          rcases related.head?_cases with same | ⟨sign, start⟩
          · rw [same]
          · rw [sign, start]
            exact (beq_false_of_ne (by simpa using noName.symm)).trans
              (beq_false_of_ne (by simpa using noSign.symm)).symm
        have doubles (leads : rest.head? = some first) :
            ReplacesSplit (literal? raw format 1 rest) (literal? raw format 1 changed) := by
          cases related with
          | nil => cases leads
          | keep next related =>
              rw [literal?_unseen, literal?_unseen raw format 1]
              exact (literal?_replaces raw format related).keep next
          | refer => exact absurd (Option.some.inj leads).symm noSign
        rw [literal?, literal?, doubled]
        simp only [Nat.lt_irrefl, gt_iff_lt, if_false]
        repeat' split
        all_goals first
          | exact escaped.keep first
          | exact .some ⟨.nil, .keep first related⟩
          | exact .none
          | exact behind.keep first
          | exact (doubles (by simp_all)).keep first
termination_by text.length
decreasing_by all_goals simp only [List.length_cons, List.length_append]; omega

/-! ## The end of a field -/

/-- Two lists of sources, each with what follows them, of which all are related. -/
def ReplacesSources (found changed : List (List Char) × List Char) : Prop :=
  List.Forall₂ Replaces found.1 changed.1 ∧ Replaces found.2 changed.2

/-- Related results are both absent or both there. -/
theorem relatedCases
    {First FirstChanged : Type}
    {related : First -> FirstChanged -> Prop}
    {found : Option First}
    {changed : Option FirstChanged}
    (both : Option.Rel related found changed) :
    found = none ∧ changed = none ∨
      ∃ first firstChanged, found = some first ∧ changed = some firstChanged ∧
        related first firstChanged := by
  cases both with
  | none => exact .inl ⟨rfl, rfl⟩
  | some same => exact .inr ⟨_, _, rfl, rfl, same⟩

/-- Related results lead to related ones. -/
theorem relatedBind
    {First FirstChanged Second SecondChanged : Type}
    {related : First -> FirstChanged -> Prop}
    {relatedNext : Second -> SecondChanged -> Prop}
    {found : Option First}
    {changed : Option FirstChanged}
    {next : First -> Option Second}
    {nextChanged : FirstChanged -> Option SecondChanged}
    (start : Option.Rel related found changed)
    (goesOn : ∀ first firstChanged, found = some first -> changed = some firstChanged ->
      related first firstChanged ->
        Option.Rel relatedNext (next first) (nextChanged firstChanged)) :
    Option.Rel relatedNext (found >>= next) (changed >>= nextChanged) := by
  cases start with
  | none => exact .none
  | some same => exact goesOn _ _ rfl rfl same

/-- What stands behind a mark is shorter. -/
theorem length_of_behind?
    {mark : Char}
    {rest : List Char}
    (found : behind? mark text = some rest) : rest.length < text.length := by
  cases text with
  | nil => cases found
  | cons first text =>
      rw [behind?] at found
      split at found
      · cases found
        exact Nat.lt_succ_self _
      · cases found

/-- A mark that is no part of a reference is passed over in both texts or in none. -/
theorem behind?_replaces
    (mark : Char)
    (noSign : mark ≠ '$')
    (noName : mark ≠ 's')
    {text changed : List Char}
    (related : Replaces text changed) :
    Option.Rel Replaces (behind? mark text) (behind? mark changed) := by
  cases related with
  | nil => exact .none
  | keep first related =>
      rw [behind?, behind?]
      split
      · exact .some related
      · exact .none
  | refer isName =>
      obtain ⟨more, rfl⟩ := isName.exists_cons
      simp only [List.cons_append, behind?, beq_false_of_ne noSign.symm,
        beq_false_of_ne noName.symm]
      exact .none

theorem length_afterEquals (text : List Char) : (afterEquals text).length <= text.length := by
  rw [afterEquals]
  split
  case h_1 found =>
    exact Nat.le_trans (List.dropWhile_suffix _).length_le (Nat.le_of_lt (length_of_behind? found))
  case h_2 => exact Nat.le_refl _

/-- What stands behind an equals sign is the same when references are replaced. -/
theorem afterEquals_replaces
    {text changed : List Char}
    (related : Replaces text changed) : Replaces (afterEquals text) (afterEquals changed) := by
  have marks := behind?_replaces '=' (by decide) (by decide) related
  rw [afterEquals, afterEquals]
  generalize behind? '=' text = found at marks
  generalize behind? '=' changed = foundChanged at marks
  cases marks with
  | none => exact related
  | some related => exact (related.dropWhile_of_excludes (by decide) (.inr (by decide))).2

/-- What stands behind a conversion is no longer. -/
theorem length_of_conversion?
    {text rest : List Char}
    (found : conversion? text = some rest) : rest.length <= text.length := by
  rw [conversion?] at found
  repeat' split at found
  · cases found
    exact Nat.le_refl _
  · cases found
  · case isTrue marked _ =>
    have shorter := length_of_behind? marked
    cases found
    exact Nat.le_of_lt (Nat.lt_of_succ_lt shorter)
  · cases found

/-- A conversion mark is passed over in both texts. Where a reference stands in its
place, what follows ends no field. -/
theorem conversion?_replaces
    {text changed : List Char}
    (related : Replaces text changed) :
    Option.Rel Replaces (conversion? text) (conversion? changed) ∨
      conversion? text = none ∧ ∃ rest, conversion? changed = some ('h' :: rest) := by
  have marks := behind?_replaces '!' (by decide) (by decide) related
  rw [conversion?, conversion?]
  generalize behind? '!' text = found at marks
  generalize behind? '!' changed = foundChanged at marks
  cases marks with
  | none => exact .inl (.some related)
  | some related =>
      cases related with
      | nil => exact .inl .none
      | keep mark related =>
          left
          dsimp only
          split
          · exact .some related
          · exact .none
      | refer isName =>
          obtain ⟨more, rfl⟩ := isName.exists_cons
          exact .inr ⟨rfl, _, rfl⟩

section FieldEnd

variable {nested? nestedChanged? : List Char -> Option (List (List Char) × List Char)}

/-- What stands behind a format is no longer. -/
theorem length_of_format?
    {sources : List (List Char)}
    {after : List Char}
    (shorter : ∀ {body sources after}, nested? body = some (sources, after) ->
      after.length <= body.length)
    (found : format? nested? text = some (sources, after)) : after.length <= text.length := by
  rw [format?] at found
  split at found
  case h_1 opened => exact Nat.le_trans (shorter found) (Nat.le_of_lt (length_of_behind? opened))
  case h_2 =>
    cases found
    exact Nat.le_refl _

/-- A format is cut at the same place when references are replaced. -/
theorem format?_replaces
    {text changed : List Char}
    (related : Replaces text changed)
    (alike : ∀ {body bodyChanged : List Char}, body.length <= text.length ->
      bodyChanged.length <= changed.length -> Replaces body bodyChanged ->
      Option.Rel ReplacesSources (nested? body) (nestedChanged? bodyChanged)) :
    Option.Rel ReplacesSources (format? nested? text) (format? nestedChanged? changed) := by
  have marks := behind?_replaces ':' (by decide) (by decide) related
  rcases relatedCases marks with ⟨closed, closedChanged⟩ |
    ⟨body, bodyChanged, opened, openedChanged, relatedBody⟩
  · rw [format?, format?, closed, closedChanged]
    exact .some ⟨.nil, related⟩
  · rw [format?, format?, opened, openedChanged]
    exact alike (Nat.le_of_lt (length_of_behind? opened))
      (Nat.le_of_lt (length_of_behind? openedChanged)) relatedBody

/-- What follows a field is shorter than what stands behind its source. -/
theorem length_of_fieldEnd?
    {sources : List (List Char)}
    {after : List Char}
    (shorter : ∀ {body sources after}, nested? body = some (sources, after) ->
      after.length <= body.length)
    (found : fieldEnd? nested? text = some (sources, after)) : after.length < text.length := by
  simp only [fieldEnd?, Option.bind_eq_bind, Option.bind_eq_some_iff] at found
  obtain ⟨afterMark, marked, ⟨nested, afterFormat⟩, formatted, behind, closed, same⟩ := found
  have closing : behind.length < afterFormat.length := length_of_behind? closed
  cases same
  have format := length_of_format? shorter formatted
  have mark := length_of_conversion? marked
  have equals := length_afterEquals text
  omega

/-- A field ends in both texts or in none, if formats are read alike. -/
theorem fieldEnd?_replaces
    {text changed : List Char}
    (related : Replaces text changed)
    (alike : ∀ {body bodyChanged : List Char}, body.length <= text.length ->
      bodyChanged.length <= changed.length -> Replaces body bodyChanged ->
      Option.Rel ReplacesSources (nested? body) (nestedChanged? bodyChanged)) :
    Option.Rel ReplacesSources (fieldEnd? nested? text) (fieldEnd? nestedChanged? changed) := by
  rcases conversion?_replaces (afterEquals_replaces related) with marks | ⟨none, rest, marked⟩
  · refine relatedBind marks fun afterMark afterMarkChanged found foundChanged related => ?_
    have mark := length_of_conversion? found
    have markChanged := length_of_conversion? foundChanged
    have equals := length_afterEquals text
    have equalsChanged := length_afterEquals changed
    have formats : Option.Rel ReplacesSources (format? nested? afterMark)
        (format? nestedChanged? afterMarkChanged) :=
      format?_replaces related fun bound boundChanged => alike (by omega) (by omega)
    refine relatedBind formats fun nested nestedChanged _ _ nestedRelated => ?_
    refine relatedBind (behind?_replaces '\x7d' (by decide) (by decide) nestedRelated.2)
      fun _ _ _ _ relatedBehind => ?_
    exact .some ⟨nestedRelated.1, relatedBehind⟩
  · rw [fieldEnd?, fieldEnd?, none, marked]
    exact .none

end FieldEnd

/-! ## The sources of a formatted text -/

/-- What follows the sources is a part of the text. -/
theorem length_of_sources?
    {raw : Bool}
    {fuel format : Nat}
    {sources : List (List Char)}
    {after : List Char}
    (found : sources? raw fuel format text = some (sources, after)) :
    after.length <= text.length := by
  induction fuel generalizing format text sources after with
  | zero => cases found
  | succ fuel hypothesis =>
      rw [sources?, Option.bind_eq_bind, Option.bind_eq_some_iff] at found
      obtain ⟨⟨stretch, rest⟩, literal, found⟩ := found
      have whole := congrArg List.length (append_of_literal? literal)
      rw [List.length_append] at whole
      dsimp only at found
      repeat' split at found
      · cases found
      · cases found
        omega
      · cases found
      case h_2 opened _ =>
        have shorterInside := length_of_behind? opened
        simp only [Option.bind_eq_bind, Option.bind_eq_some_iff] at found
        obtain ⟨⟨source, afterSource⟩, sourced, found⟩ := found
        have wholeSource := congrArg List.length (append_of_source? sourced)
        rw [List.length_append] at wholeSource
        dsimp only at found
        split at found
        · cases found
        · simp only [Option.bind_eq_some_iff] at found
          obtain ⟨⟨nested, behind⟩, ended, ⟨others, final⟩, further, same⟩ := found
          have shorterEnd : behind.length < afterSource.length :=
            length_of_fieldEnd? (fun found => hypothesis found) ended
          have shorterRest : final.length <= behind.length := hypothesis further
          obtain rfl : final = after := congrArg Prod.snd (Option.some.inj same)
          omega

/-- The sources of a formatted text are the same but for replaced references. -/
theorem sources?_replaces
    (raw : Bool)
    {fuel moreFuel format : Nat}
    {text changed : List Char}
    (enough : text.length < fuel)
    (enoughMore : changed.length < moreFuel)
    (related : Replaces text changed) :
    Option.Rel ReplacesSources (sources? raw fuel format text)
      (sources? raw moreFuel format changed) := by
  induction fuel generalizing moreFuel format text changed with
  | zero => omega
  | succ fuel hypothesis =>
      cases moreFuel with
      | zero => omega
      | succ moreFuel =>
          rw [sources?, sources?]
          refine relatedBind (literal?_replaces raw (format > 0) related)
            fun (stretch, rest) (stretchChanged, restChanged) literal literalChanged
              ⟨stretches, rests⟩ => ?_
          have whole := congrArg List.length (append_of_literal? literal)
          have wholeChanged := congrArg List.length (append_of_literal? literalChanged)
          rw [List.length_append] at whole wholeChanged
          dsimp only at stretches rests ⊢
          rw [Token.escapesComplete_replaces false .outside stretches]
          split
          · exact .none
          · have marks := behind?_replaces '\x7b' (by decide) (by decide) rests
            rcases relatedCases marks with ⟨closed, closedChanged⟩ |
              ⟨inside, insideChanged, opened, openedChanged, related⟩
            · rw [closed, closedChanged]
              exact .some ⟨.nil, rests⟩
            · have shorterInside := length_of_behind? opened
              have shorterInsideChanged := length_of_behind? openedChanged
              rw [opened, openedChanged]
              dsimp only
              split
              · exact .none
              · have proper : Quoting.none.IsProper := trivial
                refine relatedBind (source?_replaces (Nat.zero_le 2) proper [] related)
                  fun (source, afterSource) (sourceChanged, afterChanged) sourced sourcedChanged
                    ⟨sources, afters⟩ => ?_
                have wholeSource := congrArg List.length (append_of_source? sourced)
                have wholeSourceChanged := congrArg List.length (append_of_source? sourcedChanged)
                rw [List.length_append] at wholeSource wholeSourceChanged
                dsimp only at sources afters ⊢
                rw [sources.all_eq_of_excludes (by decide) (by decide)]
                split
                · exact .none
                · have ends : Option.Rel ReplacesSources
                      (fieldEnd? (sources? raw fuel (format + 1)) afterSource)
                      (fieldEnd? (sources? raw moreFuel (format + 1)) afterChanged) :=
                    fieldEnd?_replaces afters fun _ _ => hypothesis (by omega) (by omega)
                  refine relatedBind ends fun (nested, behind) (nestedChanged, behindChanged)
                    ended endedChanged ⟨nestedRelated, behindRelated⟩ => ?_
                  have shorter : behind.length < afterSource.length :=
                    length_of_fieldEnd? (fun found => length_of_sources? found) ended
                  have shorterChanged : behindChanged.length < afterChanged.length :=
                    length_of_fieldEnd? (fun found => length_of_sources? found) endedChanged
                  have others : Option.Rel ReplacesSources (sources? raw fuel format behind)
                      (sources? raw moreFuel format behindChanged) :=
                    hypothesis (by omega) (by omega) behindRelated
                  refine relatedBind others fun _ _ _ _ ⟨othersRelated, restRelated⟩ => ?_
                  exact .some ⟨List.rel_append (.cons sources nestedRelated) othersRelated,
                    restRelated⟩

end Field
end ShaderGraph
