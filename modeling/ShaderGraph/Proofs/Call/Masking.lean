import ShaderGraph.Proofs.Argument.Typing
import ShaderGraph.Proofs.Call.Site

/-!
# Masked calls

Masking and searching go through a text on their own: the one deletes a call and goes on
behind it, the other lists a call and goes on inside of it. Where all parentheses of calls
are closed both agree on the calls: masking replaces the ones that stand within no other.
What masking leaves has no calls, since no name runs into a zero and none is joined with a
parenthesis that did not follow it before.
-/

namespace ShaderGraph
namespace Call

variable {before : Option Char} {position : Nat} {passed text left right : List Char}
  {call : Call} {calls : List Call}

/-! ## Places where calls open -/

/-- A place where a call may open in a text: what stands before it, its name, the blanks
behind the name, and what stands behind the parenthesis. -/
structure Opening where
  before : List Char
  name : List Char
  gap : List Char
  behind : List Char

namespace Opening

/-- The text from the name of the call on. -/
def rest (opening : Opening) : List Char :=
  opening.name ++ (opening.gap ++ '(' :: opening.behind)

/-- A call opens at a place of a text: its name is there, and not as the end of a longer
word, and only blanks stand between it and the parenthesis. -/
structure IsIn (opening : Opening) (text : List Char) : Prop where
  whole : text = opening.before ++ opening.rest
  boundary : opening.before.getLast?.any Text.isWord = false
  starts : opening.name.head?.any Text.isNameStart = true
  words : ∀ character ∈ opening.name, Text.isWord character = true
  blanks : ∀ character ∈ opening.gap, Text.isBlank character = true

/-- The parenthesis that a call opens is closed. -/
def IsClosed (opening : Opening) : Prop :=
  ∃ inner after, opening.behind = inner ++ ')' :: after ∧ IsBalanced inner

theorem IsIn.opening?_rest
    {opening : Opening}
    (isIn : opening.IsIn text) :
    opening? opening.before.getLast? opening.rest =
      some (opening.name, opening.name.length + opening.gap.length) := by
  have starts := isIn.starts
  have words := isIn.words
  rw [rest]
  cases named : opening.name with
  | nil =>
      rw [named] at starts
      cases starts
  | cons first more =>
      rw [named] at starts words
      exact opening?_of_opens
        ⟨rfl, fun character present => words character (List.mem_cons_of_mem first present),
          isIn.blanks⟩ starts isIn.boundary

/-- A call that opens a text and is closed there stands at a site. -/
theorem exists_isCallIn
    {first : Char}
    {rest : List Char}
    {opened : List Char × Nat}
    (closed : ∀ opening : Opening, opening.IsIn (passed ++ first :: rest) -> opening.IsClosed)
    (found : opening? passed.getLast? (first :: rest) = some opened) :
    ∃ site : Site, site.before = passed ∧ site.IsCallIn (passed ++ first :: rest) := by
  obtain ⟨name, offset⟩ := opened
  obtain ⟨starts, boundary⟩ := Site.starts_of_opening? found
  obtain ⟨more, gap, behind, -, opens, -⟩ := exists_opens found
  have words : ∀ character ∈ first :: more, Text.isWord character = true :=
    List.forall_mem_cons.mpr ⟨isWord_of_opening? found, opens.words⟩
  have whole : passed ++ first :: rest = passed ++ (first :: more ++ (gap ++ '(' :: behind)) := by
    rw [opens.text]
    rfl
  obtain ⟨inner, after, rfl, balanced⟩ :=
    closed ⟨passed, first :: more, gap, behind⟩ ⟨whole, boundary, starts, words, opens.blanks⟩
  exact ⟨⟨passed, first :: more, gap, inner, after⟩, rfl,
    ⟨whole, boundary, starts, words, opens.blanks, balanced⟩⟩

end Opening

variable {rest : List Char}

/-! ## Reported calls -/

/-- Where nothing is reported, every call that opens is found as a closed one. -/
theorem found?_ne_unclosed
    (passed left : List Char)
    (silent : (collect (findAll passed.getLast? passed.length (left ++ right))).trace = [])
    (unclosed : List Char) :
    found? (passed ++ left).getLast? (passed ++ left).length right ≠ some (.unclosed unclosed) := by
  intro found
  induction left generalizing passed with
  | nil =>
      rw [List.append_nil] at found
      cases right with
      | nil => cases found
      | cons first right =>
          rw [List.nil_append, findAll, found] at silent
          cases silent
  | cons first left inductionHypothesis =>
      refine inductionHypothesis (passed ++ [first]) ?_ (by rwa [← List.append_cons])
      rw [List.getLast?_concat, List.length_append, List.length_singleton]
      rw [List.cons_append, findAll] at silent
      split at silent
      case h_1 other _ =>
        cases other with
        | call call => exact (List.append_eq_nil_iff.mp silent).1
        | unclosed rest => cases silent
      case h_2 => exact silent

/-- A call that is not closed is reported by the search. -/
theorem Opening.IsIn.isClosed
    {text : String}
    {opening : Opening}
    (isIn : opening.IsIn text.toList)
    (silent : (extract text).trace = []) : opening.IsClosed := by
  cases closed : closing? 1 opening.behind with
  | some length =>
      obtain ⟨inner, after, split, -, closes⟩ := exists_of_closing? 0 closed
      exact ⟨inner, after, split, isBalanced_iff.mpr closes⟩
  | none =>
      rw [extract, inText, isIn.whole] at silent
      refine absurd ?_ (found?_ne_unclosed [] opening.before silent
        (opening.rest.drop (opening.name.length + opening.gap.length - 1)))
      have parenthesis : opening.rest.drop (opening.name.length + opening.gap.length) =
          '(' :: opening.behind := by
        rw [Opening.rest, ← List.append_assoc, ← List.length_append, List.drop_left]
      rw [List.nil_append, found?, isIn.opening?_rest]
      dsimp only
      rw [parenthesis, closing?_opening, Int.zero_add, closed]
      rfl

/-! ## Texts without calls -/

/-- No call opens in a text behind a character. -/
def IsFree (before : Option Char) : List Char -> Prop
  | [] => True
  | first :: rest => opening? before (first :: rest) = none ∧ IsFree (some first) rest

theorem IsFree.of_append (free : IsFree before (left ++ right)) :
    IsFree (left.getLast?.or before) right := by
  induction left generalizing before with
  | nil => exact free
  | cons first left inductionHypothesis =>
      have same : (first :: left).getLast?.or before = left.getLast?.or (some first) := by
        rw [List.getLast?_cons]
        cases left.getLast? <;> rfl
      rw [same]
      exact inductionHypothesis free.2

theorem IsFree.not_isIn
    (free : IsFree none text)
    (opening : Opening) : ¬opening.IsIn text := by
  intro isIn
  have found := isIn.opening?_rest
  rw [isIn.whole] at free
  have behind := free.of_append
  rw [Option.or_none] at behind
  cases rest : opening.rest with
  | nil =>
      rw [rest] at found
      cases found
  | cons first more =>
      rw [rest] at found behind
      rw [behind.1] at found
      cases found

/-- A text without calls is kept. -/
theorem IsFree.maskChars_eq (free : IsFree before text) :
    maskChars (.outside before) text = text := by
  induction text generalizing before with
  | nil => rw [maskChars]
  | cons first rest inductionHypothesis =>
      rw [maskChars_of_opening?_eq_none free.1, inductionHypothesis free.2]

/-! ## What masking leaves -/

/-- Where a parenthesis follows in the masked text behind blanks, it did so before. -/
theorem head?_dropWhile_isBlank_maskChars
    (opens : ((maskChars (.outside before) text).dropWhile Text.isBlank).head? = some '(') :
    (text.dropWhile Text.isBlank).head? = some '(' := by
  induction text generalizing before with
  | nil =>
      rw [maskChars] at opens
      exact opens
  | cons first rest inductionHypothesis =>
      cases found : opening? before (first :: rest) with
      | some opened =>
          rw [maskChars, found, Option.isSome_some, if_pos rfl,
            List.dropWhile_cons_of_neg (by decide)] at opens
          cases opens
      | none =>
          rw [maskChars_of_opening?_eq_none found] at opens
          by_cases blank : Text.isBlank first = true
          · rw [List.dropWhile_cons_of_pos blank] at opens ⊢
            exact inductionHypothesis opens
          · rwa [List.dropWhile_cons_of_neg blank] at opens ⊢

/-- Where a parenthesis follows in the masked text behind a word and blanks, it did so before,
or a call is masked there. -/
theorem head?_dropWhile_isWord_maskChars
    (opens : (((maskChars (.outside before) text).dropWhile Text.isWord).dropWhile
      Text.isBlank).head? = some '(') :
    ((text.dropWhile Text.isWord).dropWhile Text.isBlank).head? = some '(' := by
  induction text generalizing before with
  | nil =>
      rw [maskChars] at opens
      exact opens
  | cons first rest inductionHypothesis =>
      cases found : opening? before (first :: rest) with
      | some opened =>
          obtain ⟨name, offset⟩ := opened
          by_contra other
          have isWord := isWord_of_opening? found
          rw [List.dropWhile_cons_of_pos isWord] at other
          rw [opening?_of_head? other] at found
          cases found
      | none =>
          by_cases isWord : Text.isWord first = true
          · rw [maskChars_of_opening?_eq_none found, List.dropWhile_cons_of_pos isWord] at opens
            rw [List.dropWhile_cons_of_pos isWord]
            exact inductionHypothesis opens
          · have kept := maskChars_of_opening?_eq_none found
            rw [kept, List.dropWhile_cons_of_neg isWord, ← kept] at opens
            rw [List.dropWhile_cons_of_neg isWord]
            exact head?_dropWhile_isBlank_maskChars opens

/-- A character that opens no call opens none before the masked rest, also behind a zero. -/
theorem opening?_maskChars
    {context : Option Char}
    {first : Char}
    (found : opening? before (first :: rest) = none)
    (inside : before.any Text.isWord = true -> context.any Text.isWord = true) :
    opening? context (first :: maskChars (.outside (some first)) rest) = none := by
  by_contra opens
  obtain ⟨opened, opens⟩ := Option.ne_none_iff_exists'.mp opens
  obtain ⟨starts, boundary⟩ := Site.starts_of_opening? opens
  have outside : before.any Text.isWord = false := by
    rw [Bool.eq_false_iff] at boundary ⊢
    exact mt inside boundary
  have follows : ((rest.dropWhile Text.isWord).dropWhile Text.isBlank).head? = some '(' := by
    by_contra other
    rw [opening?_of_head? (mt head?_dropWhile_isWord_maskChars other)] at opens
    cases opens
  obtain ⟨behind, same⟩ := List.head?_eq_some_iff.mp follows
  rw [opening?, starts, outside, same] at found
  cases found

/-- A masked text may stand behind a character: a word of the text that goes on does so there. -/
def Mask.Suits (context : Option Char) : Mask -> Prop
  | .outside before => before.any Text.isWord = true -> context.any Text.isWord = true
  | .inside _ => True

/-- What a text is masked to has no calls. Behind a masked call the zero goes on with a word
where the call did not. -/
theorem isFree_maskChars
    (mask : Mask)
    (text : List Char)
    {context : Option Char}
    (suits : mask.Suits context) : IsFree context (maskChars mask text) := by
  induction text generalizing mask context with
  | nil =>
      rw [maskChars]
      trivial
  | cons first rest inductionHypothesis =>
      cases mask with
      | outside before =>
          cases found : opening? before (first :: rest) with
          | some opened =>
              rw [maskChars, found, Option.isSome_some, if_pos rfl]
              exact ⟨opening?_of_not_start (by decide) _, inductionHypothesis (.inside 0) trivial⟩
          | none =>
              rw [maskChars_of_opening?_eq_none found]
              exact ⟨opening?_maskChars found suits, inductionHypothesis (.outside _) id⟩
      | inside depth =>
          rw [maskChars]
          split
          · exact inductionHypothesis (.inside _) trivial
          · split
            · split
              · exact inductionHypothesis (.outside _) fun within => by cases within
              · exact inductionHypothesis (.inside _) trivial
            · exact inductionHypothesis (.inside _) trivial

theorem isFree_mask (text : String) : IsFree none (mask text).toList := by
  rw [mask, String.toList_ofList]
  exact isFree_maskChars (.outside none) text.toList id

/-! ## Outermost calls -/

/-- A call stands within another one. -/
def IsWithin (inner outer : Call) : Prop :=
  outer.start < inner.start ∧ inner.stop ≤ outer.stop

instance (inner outer : Call) : Decidable (inner.IsWithin outer) :=
  inferInstanceAs (Decidable (_ ∧ _))

/-- The calls that stand within no other. -/
def outermost (calls : List Call) : List Call :=
  calls.filter fun call => ∀ other ∈ calls, ¬call.IsWithin other

/-- A text from a position on with a zero in the place of each of the calls. -/
def withZeros (position : Nat) : List Call -> List Char -> List Char
  | [], text => text
  | call :: calls, text =>
      text.take (call.start - position) ++
        '0' :: withZeros call.stop calls (text.drop (call.stop - position))

/-- A call in front of others leaves those that start behind it. -/
theorem outermost_cons
    {inside later : List Call}
    (first : ∀ other ∈ inside ++ later, call.start < other.start)
    (ended : ∀ other ∈ inside, other.stop ≤ call.stop)
    (apart : ∀ other ∈ later, call.stop ≤ other.start ∧ other.start < other.stop) :
    outermost (call :: (inside ++ later)) = call :: outermost later := by
  obtain ⟨starts, startsLater⟩ := List.forall_mem_append.mp first
  have outer : ∀ other ∈ call :: (inside ++ later), ¬call.IsWithin other :=
    List.forall_mem_cons.mpr ⟨fun within => Nat.lt_irrefl _ within.1,
      fun other present within => Nat.lt_asymm within.1 (first other present)⟩
  have dropped : inside.filter (fun inner =>
      ∀ other ∈ call :: (inside ++ later), ¬inner.IsWithin other) = [] := by
    refine List.filter_eq_nil_iff.mpr fun inner present free => ?_
    exact of_decide_eq_true free call List.mem_cons_self
      ⟨starts inner present, ended inner present⟩
  have kept : later.filter (fun inner =>
      ∀ other ∈ call :: (inside ++ later), ¬inner.IsWithin other) = outermost later := by
    refine List.filter_congr fun inner present => decide_eq_decide.mpr ?_
    obtain ⟨behind, filled⟩ := apart inner present
    rw [List.forall_mem_cons, List.forall_mem_append]
    refine ⟨fun all => all.2.2, fun all => ⟨fun within => ?_, fun other listed within => ?_, all⟩⟩
    · exact Nat.not_le_of_lt (Nat.lt_of_le_of_lt behind filled) within.2
    · have ends := ended other listed
      have inner := within.2
      omega
  rw [outermost, List.filter_cons, if_pos (decide_eq_true outer), List.filter_append, dropped, kept,
    List.nil_append]

/-- A character in front of all calls is kept. -/
theorem withZeros_cons
    {first : Char}
    (starts : ∀ call ∈ calls, position < call.start ∧ call.start < call.stop)
    (rest : List Char) :
    withZeros position calls (first :: rest) = first :: withZeros (position + 1) calls rest := by
  cases calls with
  | nil => rfl
  | cons call calls =>
      obtain ⟨behind, filled⟩ := starts call List.mem_cons_self
      have next : call.start - position = call.start - (position + 1) + 1 := by omega
      have last : call.stop - position = call.stop - (position + 1) + 1 := by omega
      rw [withZeros, next, last]
      rfl

/-- A call ends where its text does. -/
theorem Site.stop_call (site : Site) : site.call.stop = (site.before ++ site.span).length := by
  simp only [call, closing, opening, start, span, List.length_append, List.length_cons,
    List.length_nil]
  omega

/-! ## The calls of the rest of a text -/

/-- The calls that are listed from a place of a text on. -/
def callsFrom (passed rest : List Char) : List Call :=
  (collect (findAll passed.getLast? passed.length rest)).value

theorem exists_of_mem_callsFrom (listed : call ∈ callsFrom passed rest) :
    ∃ site : Site, site.IsCallIn (passed ++ rest) ∧ site.call = call := by
  obtain ⟨left, right, rfl, found⟩ := (mem_collect_findAll_iff passed).mp listed
  rw [← List.append_assoc]
  exact Site.exists_of_found? found

theorem bounds_of_mem_callsFrom (listed : call ∈ callsFrom passed rest) :
    passed.length ≤ call.start ∧ call.start < call.stop := by
  refine ⟨(pairwise_collect_findAll _ _ rest).1 call listed, ?_⟩
  obtain ⟨site, -, rfl⟩ := exists_of_mem_callsFrom listed
  simp only [Site.call, Site.closing, Site.opening]
  omega

theorem callsFrom_cons
    (first : Char)
    (found : opening? passed.getLast? (first :: rest) = none) :
    callsFrom passed (first :: rest) = callsFrom (passed ++ [first]) rest := by
  rw [callsFrom, callsFrom, value_collect_findAll_cons, found?, found, List.getLast?_concat,
    List.length_append]
  rfl

/-- The calls that start in one part of a text come before those that start in the next. -/
theorem callsFrom_append (passed left right : List Char) :
    ∃ early, callsFrom passed (left ++ right) = early ++ callsFrom (passed ++ left) right ∧
      ∀ call ∈ early, call.start < (passed ++ left).length := by
  induction left generalizing passed with
  | nil => exact ⟨[], by rw [List.append_nil]; rfl, List.forall_mem_nil _⟩
  | cons first left inductionHypothesis =>
      obtain ⟨early, split, starts⟩ := inductionHypothesis (passed ++ [first])
      rw [← List.append_cons] at split starts
      rw [List.cons_append, callsFrom, value_collect_findAll_cons]
      rw [callsFrom, List.getLast?_concat, List.length_append, List.length_singleton] at split
      rw [split, ← List.append_assoc]
      refine ⟨_, rfl, List.forall_mem_append.mpr ⟨fun call listed => ?_, starts⟩⟩
      split at listed
      case h_1 other found =>
        obtain rfl := List.mem_singleton.mp listed
        rw [start_of_found? found, List.length_append, List.length_cons]
        omega
      case h_2 => cases listed

/-- Behind a call that opens a text are listed the calls within it and those behind it. -/
theorem exists_callsFrom_eq
    {site : Site}
    (isCall : site.IsCallIn (site.before ++ site.rest)) :
    ∃ inside, callsFrom site.before site.rest =
        site.call :: (inside ++ callsFrom (site.before ++ site.span) site.after) ∧
      (∀ other ∈ inside ++ callsFrom (site.before ++ site.span) site.after,
        site.call.start < other.start) ∧
      ∀ other ∈ inside, other.stop ≤ site.call.stop := by
  obtain ⟨first, more, named, -⟩ := isCall.exists_name
  obtain ⟨tail, written⟩ : ∃ tail, site.span = first :: tail := ⟨_, by rw [Site.span, named]; rfl⟩
  have whole : site.rest = first :: (tail ++ site.after) := by rw [Site.rest_eq, written]; rfl
  obtain ⟨inside, split, starts⟩ := callsFrom_append (site.before ++ [first]) tail site.after
  rw [← List.append_cons, ← written] at split starts
  have listed : callsFrom site.before site.rest =
      site.call :: (inside ++ callsFrom (site.before ++ site.span) site.after) := by
    have found := isCall.found?_rest
    rw [whole] at found ⊢
    rw [callsFrom, value_collect_findAll_cons]
    change found? site.before.getLast? site.before.length (first :: (tail ++ site.after)) = _
      at found
    rw [found, ← split, callsFrom, List.getLast?_concat, List.length_append]
    rfl
  have ascending : (callsFrom site.before site.rest).Pairwise
      fun earlier later => earlier.start < later.start := (pairwise_collect_findAll _ _ _).2
  rw [listed] at ascending
  refine ⟨inside, listed, (List.pairwise_cons.mp ascending).1, fun other present => ?_⟩
  -- A call that starts in the text of another one does not stand behind it.
  have member := List.mem_append_left (callsFrom (site.before ++ site.span) site.after) present
  obtain ⟨inner, innerIsCall, rfl⟩ := exists_of_mem_callsFrom
    (listed ▸ List.mem_cons_of_mem site.call member)
  have behind := starts inner.call present
  have after := (List.pairwise_cons.mp ascending).1 inner.call member
  rw [← site.stop_call] at behind
  rcases Site.apart isCall innerIsCall after with apart | ⟨-, ended⟩
  · have same : inner.call.start = inner.start := rfl
    omega
  · exact ended.trans (Nat.le_succ _)

/-! ## Masking outermost calls -/

/-- Masking goes on behind the parenthesis that closes a call. -/
theorem maskChars_of_nested
    {depth : Nat}
    {inner : List Char}
    (closes : nested depth inner = some 0)
    (after : List Char) :
    maskChars (.inside (depth + 1)) (inner ++ ')' :: after) = maskChars (.outside none) after := by
  induction inner generalizing depth with
  | nil =>
      cases closes
      rw [List.nil_append, maskChars_closing, if_pos (Nat.le_refl 1)]
  | cons first inner inductionHypothesis =>
      rw [List.cons_append]
      by_cases opening : first = '('
      · subst opening
        rw [maskChars_opening]
        exact inductionHypothesis closes
      by_cases closing : first = ')'
      · subst closing
        cases depth with
        | zero => cases closes
        | succ depth =>
            rw [maskChars_closing, if_neg (by omega)]
            exact inductionHypothesis closes
      rw [nested_plain opening closing] at closes
      have dropped := @maskChars_inside [first] (inner ++ ')' :: after) (depth + 1)
        (by simpa using ⟨opening, closing⟩)
      rw [List.singleton_append] at dropped
      rw [dropped, inductionHypothesis closes]

/-- A call is masked by a zero. -/
theorem maskChars_rest
    {site : Site}
    (isCall : site.IsCallIn text) :
    maskChars (.outside site.before.getLast?) site.rest =
      '0' :: maskChars (.outside (site.before ++ site.span).getLast?) site.after := by
  have found := isCall.opening?_rest
  obtain ⟨first, more, named, -⟩ := isCall.exists_name
  have opens : Opens (more ++ (site.gap ++ '(' :: (site.inner ++ ')' :: site.after))) more site.gap
      (site.inner ++ ')' :: site.after) :=
    ⟨rfl, fun character present =>
      isCall.words character (named ▸ List.mem_cons_of_mem first present), isCall.blanks⟩
  have last : (site.before ++ site.span).getLast? = some ')' := by
    rw [Site.span, ← List.append_assoc, ← List.append_assoc, ← List.cons_append,
      ← List.append_assoc, List.getLast?_concat]
  rw [last, maskChars_after (by decide), Site.rest, named, List.cons_append]
  rw [Site.rest, named, List.cons_append] at found
  rw [maskChars, found, Option.isSome_some, if_pos rfl, ← List.append_assoc more,
    maskChars_inside opens.plain, maskChars_opening,
    maskChars_of_nested (isBalanced_iff.mp isCall.balanced)]

/-- If all calls of a text are closed, masking the rest of it replaces the outermost of the
calls that are listed there. -/
theorem maskChars_eq_withZeros
    (passed : List Char)
    (closed : ∀ opening : Opening, opening.IsIn (passed ++ text) -> opening.IsClosed) :
    maskChars (.outside passed.getLast?) text =
      withZeros passed.length (outermost (callsFrom passed text)) text := by
  induction size : text.length using Nat.strong_induction_on generalizing passed text with
  | _ size inductionHypothesis =>
      subst size
      cases text with
      | nil =>
          rw [maskChars]
          rfl
      | cons first rest =>
          cases found : opening? passed.getLast? (first :: rest) with
          | none =>
              have next := inductionHypothesis rest.length (Nat.lt_succ_self _)
                (passed ++ [first]) (by rwa [← List.append_cons]) rfl
              rw [List.getLast?_concat, List.length_append, List.length_singleton] at next
              rw [maskChars_of_opening?_eq_none found, next, callsFrom_cons first found,
                withZeros_cons]
              intro call present
              have bounds := bounds_of_mem_callsFrom (List.mem_of_mem_filter present)
              rwa [List.length_append] at bounds
          | some opened =>
              obtain ⟨site, rfl, isCall⟩ := Opening.exists_isCallIn closed found
              have same : first :: rest = site.rest := List.append_cancel_left isCall.whole
              have whole : site.before ++ site.rest = (site.before ++ site.span) ++ site.after := by
                rw [Site.rest_eq, List.append_assoc]
              rw [same] at closed isCall ⊢
              obtain ⟨inside, listed, starts, ended⟩ := exists_callsFrom_eq isCall
              have filled : site.after.length < (first :: rest).length := by
                simp only [same, Site.rest, List.length_append, List.length_cons]
                omega
              have next := inductionHypothesis site.after.length filled
                (site.before ++ site.span) (whole ▸ closed) rfl
              rw [maskChars_rest isCall, next, listed,
                outermost_cons starts ended fun other present =>
                site.stop_call ▸ bounds_of_mem_callsFrom present, withZeros, site.stop_call]
              have front : site.call.start - site.before.length = 0 := Nat.sub_self _
              rw [front, List.length_append, Nat.add_sub_cancel_left, Site.rest_eq, List.drop_left]
              rfl

/-- Masking a text ends in one in which no call opens, so that masking again changes nothing.
If all calls that open in the text are closed, a zero stands in the place of each one that is
listed for the text and within no other, and all else is kept. -/
theorem mask_replaces_outermost (text : String) :
    (∀ opening : Opening, ¬opening.IsIn (mask text).toList) ∧
      mask (mask text) = mask text ∧
      ((∀ opening : Opening, opening.IsIn text.toList -> opening.IsClosed) ->
        (mask text).toList = withZeros 0 (outermost (extract text).value) text.toList) := by
  refine ⟨(isFree_mask text).not_isIn, ?_, fun closed => ?_⟩
  · rw [mask, (isFree_mask text).maskChars_eq, String.ofList_toList]
  · rw [mask, String.toList_ofList]
    exact maskChars_eq_withZeros [] closed

/-- Calls side by side, within each other and right behind each other. -/
theorem mask_replaces_outermost_nested :
    let text := "f(g(x), 2)h(1) + k (y)*a(b(c))(2)"
    (∀ opening : Opening, opening.IsIn text.toList -> opening.IsClosed) ∧
      outermost (extract text).value =
        [⟨"f", 0, 10, ["g(x)", "2"]⟩, ⟨"h", 10, 14, ["1"]⟩, ⟨"k", 17, 22, ["y"]⟩,
          ⟨"a", 23, 30, ["b(c)"]⟩] ∧
      (mask text).toList = withZeros 0 (outermost (extract text).value) text.toList ∧
      mask text = "00 + 0*0(2)" := by
  intro text
  have closed : ∀ opening : Opening, opening.IsIn text.toList -> opening.IsClosed :=
    fun opening isIn => isIn.isClosed (by decide +kernel)
  exact ⟨closed, by decide +kernel, (mask_replaces_outermost text).2.2 closed, by decide +kernel⟩

/-- A call that is not closed hides the rest of the text. -/
example : mask "a(1) + f(g(x)" = "0 + 0" := by
  decide +kernel

end Call
end ShaderGraph
