import ShaderGraph.Proofs.Call.Discovery
import ShaderGraph.Proofs.Call.Joining

/-!
# Where calls stand

A call stands in a text where a word starts with the name of a function, blanks and a
parenthesis follow, and that parenthesis is closed behind a balanced text. The search lists
exactly these calls, from left to right. Of two of them the later one starts behind the
other or stands between its parentheses.
-/

namespace ShaderGraph
namespace Call

/-! ## Balanced texts -/

/-- A text closes every parenthesis that it opens, and no other. -/
structure IsBalanced (text : List Char) : Prop where
  start : ∀ start, start <+: text -> 0 ≤ netDepth start
  whole : netDepth text = 0

section

variable {depth : Nat} {first : Char} {text rest inner : List Char}

/-- The depth of a text is that of its first character and of the rest. -/
theorem netDepth_cons (first : Char) (rest : List Char) :
    netDepth (first :: rest) = netDepth [first] + netDepth rest :=
  netDepth_append [first] rest

theorem netDepth_plain (notOpening : first ≠ '(') (notClosing : first ≠ ')') :
    netDepth [first] = 0 := by
  simp [netDepth, notOpening, notClosing]

theorem nested_opening (depth : Nat) (rest : List Char) :
    nested depth ('(' :: rest) = nested (depth + 1) rest := rfl

theorem nested_closing (depth : Nat) (rest : List Char) :
    nested (depth + 1) (')' :: rest) = nested depth rest := rfl

/-- No start of a text brings a depth below zero if this holds behind its first character. -/
theorem starts_cons_iff (outer : Nat) (same : (outer : Int) = depth + netDepth [first]) :
    (∀ start, start <+: first :: rest -> 0 ≤ depth + netDepth start) ↔
      ∀ start, start <+: rest -> 0 ≤ outer + netDepth start := by
  constructor
  · intro all start isStart
    have longer := all (first :: start) ((List.prefix_cons_inj first).mpr isStart)
    rw [netDepth_cons] at longer
    omega
  · intro all start isStart
    rcases List.prefix_cons_iff.mp isStart with rfl | ⟨shorter, rfl, isRest⟩
    · exact Int.add_nonneg (Int.natCast_nonneg depth) (Int.le_refl 0)
    · have inside := all shorter isRest
      rw [netDepth_cons]
      omega

/-- A text closes only what is open if its starts never bring the depth below zero. The
depth behind it is counted by its parentheses. -/
theorem nested_eq_some_iff {behind : Nat} :
    nested depth text = some behind ↔
      (∀ start, start <+: text -> 0 ≤ depth + netDepth start) ∧
        (behind : Int) = depth + netDepth text := by
  induction text generalizing depth with
  | nil =>
      have whole : (depth : Int) + netDepth [] = depth := Int.add_zero _
      simp only [nested, Option.some.injEq, List.prefix_nil, forall_eq, whole]
      omega
  | cons first rest inductionHypothesis =>
      rw [netDepth_cons]
      by_cases opening : first = '('
      · subst opening
        have one : netDepth ['('] = 1 := rfl
        rw [nested_opening, inductionHypothesis, starts_cons_iff (depth + 1) (by omega)]
        exact and_congr_right fun _ => by omega
      by_cases closing : first = ')'
      · subst closing
        have minus : netDepth [')'] = -1 := rfl
        cases depth with
        | zero =>
            constructor
            · intro closes
              cases closes
            · rintro ⟨all, _⟩
              have negative := all [')'] (List.prefix_append [')'] rest)
              omega
        | succ depth =>
            rw [nested_closing, inductionHypothesis, starts_cons_iff depth (by omega)]
            exact and_congr_right fun _ => by omega
      have zero := netDepth_plain opening closing
      rw [nested_plain opening closing, inductionHypothesis, starts_cons_iff depth (by omega)]
      exact and_congr_right fun _ => by omega

/-- A text is balanced if it never closes more than it opened and ends where it started. -/
theorem isBalanced_iff : IsBalanced text ↔ nested 0 text = some 0 := by
  rw [nested_eq_some_iff]
  simp only [Int.natCast_zero, Int.zero_add]
  constructor
  · rintro ⟨start, whole⟩
    exact ⟨start, whole.symm⟩
  · rintro ⟨start, whole⟩
    exact ⟨start, whole.symm⟩

/-- Behind a text that closes all parentheses the next one that closes is the end. -/
theorem closing?_of_nested
    (closes : nested depth inner = some 0)
    (after : List Char) :
    closing? (depth + 1 : Nat) (inner ++ ')' :: after) = some inner.length := by
  induction inner generalizing depth with
  | nil =>
      cases closes
      rfl
  | cons first inner inductionHypothesis =>
      rw [List.cons_append, List.length_cons]
      by_cases opening : first = '('
      · subst opening
        rw [closing?_opening]
        exact congrArg (Option.map (· + 1)) (@inductionHypothesis (depth + 1) closes)
      by_cases closing : first = ')'
      · subst closing
        cases depth with
        | zero => cases closes
        | succ depth =>
            have outer : ((depth + 1 + 1 : Nat) : Int) - 1 = (depth + 1 : Nat) := by omega
            rw [closing?_closing (by omega), outer]
            exact congrArg (Option.map (· + 1)) (@inductionHypothesis depth closes)
      rw [nested_plain opening closing] at closes
      rw [closing?_plain opening closing, inductionHypothesis closes]
      rfl

end

/-! ## Sites -/

/-- A place for a call in a text: what stands before it, its name, the blanks behind the
name, what stands between its parentheses, and what stands behind it. -/
structure Site where
  before : List Char
  name : List Char
  gap : List Char
  inner : List Char
  after : List Char

namespace Site

/-- The call as it is written, from its name to its closing parenthesis. -/
def span (site : Site) : List Char :=
  site.name ++ (site.gap ++ '(' :: (site.inner ++ [')']))

/-- The text from the name of the call on. -/
def rest (site : Site) : List Char :=
  site.name ++ (site.gap ++ '(' :: (site.inner ++ ')' :: site.after))

/-- The position of the name. -/
def start (site : Site) : Nat :=
  site.before.length

/-- The position of the opening parenthesis. -/
def opening (site : Site) : Nat :=
  site.start + site.name.length + site.gap.length

/-- The position of the closing parenthesis. -/
def closing (site : Site) : Nat :=
  site.opening + site.inner.length + 1

/-- The call that stands there. -/
def call (site : Site) : Call where
  name := String.ofList site.name
  start := site.start
  stop := site.closing + 1
  arguments := splitArguments (String.ofList site.inner)

/-- A call stands at a site of a text: its name is there, and not as the end of a longer
word, and its parentheses match. -/
structure IsCallIn (site : Site) (text : List Char) : Prop where
  whole : text = site.before ++ site.rest
  boundary : site.before.getLast?.any Text.isWord = false
  starts : site.name.head?.any Text.isNameStart = true
  words : ∀ character ∈ site.name, Text.isWord character = true
  blanks : ∀ character ∈ site.gap, Text.isBlank character = true
  balanced : IsBalanced site.inner

variable {site : Site} {text : List Char}

/-- What stands from a call on is its span and what follows. -/
theorem rest_eq (site : Site) : site.rest = site.span ++ site.after := by
  simp [rest, span]

/-- The text between the two positions of the call is the call as it is written. -/
theorem IsCallIn.slice (isCall : site.IsCallIn text) :
    (text.drop site.call.start).take (site.call.stop - site.call.start) = site.span := by
  have length : site.call.stop - site.call.start = site.span.length := by
    simp only [call, closing, opening, span, List.length_append, List.length_cons,
      List.length_nil]
    omega
  rw [length, isCall.whole, call, start, List.drop_left, rest_eq, List.take_left]

/-- A call has a name. -/
theorem IsCallIn.exists_name (isCall : site.IsCallIn text) :
    ∃ first more, site.name = first :: more ∧ Text.isNameStart first = true := by
  have starts := isCall.starts
  cases named : site.name with
  | nil =>
      rw [named] at starts
      cases starts
  | cons first more =>
      rw [named] at starts
      exact ⟨first, more, rfl, starts⟩

/-- A call opens at its site. -/
theorem IsCallIn.opening?_rest (isCall : site.IsCallIn text) :
    opening? site.before.getLast? site.rest =
      some (site.name, site.name.length + site.gap.length) := by
  obtain ⟨first, more, named, starts⟩ := isCall.exists_name
  have words : ∀ character ∈ more, Text.isWord character = true := fun character present =>
    isCall.words character (named ▸ List.mem_cons_of_mem first present)
  rw [rest, named]
  exact opening?_of_opens ⟨rfl, words, isCall.blanks⟩ starts isCall.boundary

/-- The search finds the call of a site where the name starts. -/
theorem IsCallIn.found?_rest (isCall : site.IsCallIn text) :
    found? site.before.getLast? site.start site.rest = some (.call site.call) := by
  have parenthesis : site.rest.drop (site.name.length + site.gap.length) =
      '(' :: (site.inner ++ ')' :: site.after) := by
    rw [rest, ← List.append_assoc, ← List.length_append, List.drop_left]
  have inside : site.rest.drop (site.name.length + site.gap.length + 1) =
      site.inner ++ ')' :: site.after := by
    rw [← List.drop_drop, parenthesis]
    rfl
  have closed : closing? 1 (site.inner ++ ')' :: site.after) = some site.inner.length :=
    closing?_of_nested (isBalanced_iff.mp isCall.balanced) site.after
  rw [found?, isCall.opening?_rest]
  dsimp only
  rw [parenthesis, closing?_opening, Int.zero_add, closed, Option.map_some]
  dsimp only
  rw [inside, Nat.add_sub_cancel, List.take_left]
  simp only [call, closing, opening, splitArguments, String.toList_ofList]
  congr 3
  omega

/-- Where a call opens, a name starts and no word goes on. -/
theorem starts_of_opening?
    {before : Option Char}
    {first : Char}
    {rest : List Char}
    {opened : List Char × Nat}
    (opening : opening? before (first :: rest) = some opened) :
    Text.isNameStart first = true ∧ before.any Text.isWord = false := by
  rw [opening?] at opening
  split at opening
  case isTrue starts =>
    rw [Bool.and_eq_true, Bool.not_eq_true'] at starts
    exact starts
  case isFalse => cases opening

/-- What the search finds behind a text is the call of a site there. -/
theorem exists_of_found?
    {passed rest : List Char}
    {call : Call}
    (found : found? passed.getLast? passed.length rest = some (.call call)) :
    ∃ site : Site, site.IsCallIn (passed ++ rest) ∧ site.call = call := by
  cases rest with
  | nil => cases found
  | cons first rest =>
      cases opened : opening? passed.getLast? (first :: rest) with
      | none =>
          rw [found?, opened] at found
          cases found
      | some named =>
          obtain ⟨name, offset⟩ := named
          obtain ⟨starts, boundary⟩ := starts_of_opening? opened
          have firstWord := isWord_of_opening? opened
          obtain ⟨more, gap, behind, rfl, opens, same⟩ := exists_opens opened
          have parenthesis : (first :: rest).drop offset = '(' :: behind := by
            rw [opens.text, same, ← List.cons_append, ← List.append_assoc, ← List.length_append,
              List.drop_left]
          cases closed : closing? 1 behind with
          | none =>
              rw [found?, opened] at found
              dsimp only at found
              rw [parenthesis, closing?_opening, Int.zero_add, closed] at found
              cases found
          | some length =>
              obtain ⟨inner, after, rfl, -, closes⟩ := exists_of_closing? 0 closed
              let site : Site := ⟨passed, first :: more, gap, inner, after⟩
              have isCall : site.IsCallIn (passed ++ first :: rest) := {
                whole := by rw [opens.text]; rfl
                boundary
                starts
                words := List.forall_mem_cons.mpr ⟨firstWord, opens.words⟩
                blanks := opens.blanks
                balanced := isBalanced_iff.mpr closes }
              have again := isCall.found?_rest
              rw [← List.append_cancel_left isCall.whole] at again
              exact ⟨site, isCall, Found.call.inj (Option.some.inj (again.symm.trans found))⟩

/-- At one position of a text stands one call. -/
theorem call_eq_of_start
    {other : Site}
    (isCall : site.IsCallIn text)
    (otherIsCall : other.IsCallIn text)
    (same : site.start = other.start) : site.call = other.call := by
  obtain ⟨sameBefore, sameRest⟩ :=
    List.append_inj (isCall.whole.symm.trans otherIsCall.whole) same
  have found := isCall.found?_rest
  rw [sameBefore, sameRest, same, otherIsCall.found?_rest] at found
  exact (Found.call.inj (Option.some.inj found)).symm

end Site

/-! ## The search -/

section

variable {before : Option Char} {position : Nat} {passed text rest : List Char} {call : Call}

theorem value_collect_call (call : Call) (others : List Found) :
    (collect (.call call :: others)).value = call :: (collect others).value := rfl

theorem value_collect_unclosed (unclosed : List Char) (others : List Found) :
    (collect (.unclosed unclosed :: others)).value = (collect others).value := rfl

/-- What is listed from a text on: the closed call that opens there, and what is listed from
the next character on. -/
theorem value_collect_findAll_cons (before : Option Char) (position : Nat) (first : Char)
    (rest : List Char) :
    (collect (findAll before position (first :: rest))).value =
      (match found? before position (first :: rest) with
        | some (.call call) => [call]
        | _ => []) ++ (collect (findAll (some first) (position + 1) rest)).value := by
  rw [findAll]
  cases found? before position (first :: rest) with
  | none => rfl
  | some found =>
      cases found with
      | call call => exact value_collect_call call _
      | unclosed unclosed => exact value_collect_unclosed unclosed _

/-- A call is found at the position where it starts. -/
theorem start_of_found? (found : found? before position text = some (.call call)) :
    call.start = position := by
  rw [found?] at found
  split at found
  case h_1 => cases found
  case h_2 =>
    split at found
    case h_1 => cases found
    case h_2 =>
      cases found
      rfl

/-- Calls are listed in the order in which they start. -/
theorem pairwise_collect_findAll (before : Option Char) (position : Nat) (text : List Char) :
    let calls := (collect (findAll before position text)).value
    (∀ call ∈ calls, position ≤ call.start) ∧
      calls.Pairwise fun earlier later => earlier.start < later.start := by
  induction text generalizing before position with
  | nil => exact ⟨List.forall_mem_nil _, .nil⟩
  | cons first rest inductionHypothesis =>
      obtain ⟨behind, ascending⟩ := inductionHypothesis (some first) (position + 1)
      have later := fun call listed => Nat.le_of_succ_le (behind call listed)
      dsimp only
      rw [value_collect_findAll_cons]
      split
      case h_1 call found =>
        have starts := start_of_found? found
        refine ⟨List.forall_mem_cons.mpr ⟨Nat.le_of_eq starts.symm, later⟩, ?_⟩
        exact List.pairwise_cons.mpr ⟨fun other listed => starts ▸ behind other listed, ascending⟩
      case h_2 => exact ⟨later, ascending⟩

/-- The listed calls are those that are found somewhere. -/
theorem mem_collect_findAll_iff (passed : List Char) :
    call ∈ (collect (findAll passed.getLast? passed.length rest)).value ↔
      ∃ left right, rest = left ++ right ∧
        found? (passed ++ left).getLast? (passed ++ left).length right = some (.call call) := by
  induction rest generalizing passed with
  | nil =>
      refine iff_of_false List.not_mem_nil ?_
      rintro ⟨left, right, split, found⟩
      rw [(List.append_eq_nil_iff.mp split.symm).2] at found
      cases found
  | cons first rest inductionHypothesis =>
      have next := inductionHypothesis (passed ++ [first])
      rw [List.getLast?_concat, List.length_append, List.length_singleton] at next
      have here : call ∈ (match found? passed.getLast? passed.length (first :: rest) with
          | some (.call call) => [call]
          | _ => []) ↔
            found? passed.getLast? passed.length (first :: rest) = some (.call call) := by
        split
        case h_1 other found => rw [found, List.mem_singleton]; simp [eq_comm]
        case h_2 none => exact iff_of_false List.not_mem_nil (none call)
      rw [value_collect_findAll_cons, List.mem_append, here, next]
      constructor
      · rintro (found | ⟨left, right, rfl, found⟩)
        · exact ⟨[], first :: rest, rfl, by rwa [List.append_nil]⟩
        · refine ⟨first :: left, right, rfl, ?_⟩
          rwa [List.append_cons]
      · rintro ⟨left, right, split, found⟩
        cases left with
        | nil =>
            rw [List.nil_append] at split
            rw [List.append_nil, ← split] at found
            exact .inl found
        | cons other left =>
            cases split
            rw [List.append_cons] at found
            exact .inr ⟨left, right, rfl, found⟩

/-- The listed calls are those that stand at sites of the text. -/
theorem mem_value_extract_iff {text : String} :
    call ∈ (extract text).value ↔
      ∃ site : Site, site.IsCallIn text.toList ∧ site.call = call := by
  refine (mem_collect_findAll_iff []).trans ⟨?_, ?_⟩
  · rintro ⟨left, right, split, found⟩
    rw [split]
    exact Site.exists_of_found? found
  · rintro ⟨site, isCall, rfl⟩
    exact ⟨site.before, site.rest, isCall.whole, isCall.found?_rest⟩

end

/-! ## Two calls -/

/-- A text that starts with none of the characters of a run does not start inside of it. -/
theorem exists_behind_run
    (run : List Char)
    {behind middle rest : List Char}
    (same : run ++ behind = middle ++ rest)
    (other : ∀ character ∈ run, rest.head? ≠ some character) :
    ∃ left, middle = run ++ left ∧ behind = left ++ rest := by
  rcases List.append_eq_append_iff.mp same with ⟨left, rfl, split⟩ | ⟨inside, rfl, rfl⟩
  · exact ⟨left, rfl, split⟩
  · cases inside with
    | nil => exact ⟨[], by simp, rfl⟩
    | cons first more =>
        exact absurd rfl (other first (List.mem_append_right middle List.mem_cons_self))

namespace Site

variable {earlier later site : Site} {text : List Char}

/-- A call starts with the start of a name. -/
theorem IsCallIn.head?_rest (isCall : site.IsCallIn text) {character : Char}
    (noStart : Text.isNameStart character = false) : site.rest.head? ≠ some character := by
  obtain ⟨first, more, named, starts⟩ := isCall.exists_name
  rw [rest, named]
  rintro ⟨⟩
  rw [noStart] at starts
  cases starts

/-- A call that starts behind the start of another one starts behind its parenthesis. -/
theorem exists_behind_opening
    {middle : List Char}
    (isEarlier : earlier.IsCallIn text)
    (isLater : later.IsCallIn text)
    (passed : later.before = earlier.before ++ middle)
    (moved : middle ≠ [])
    (whole : earlier.rest = middle ++ later.rest) :
    ∃ left, middle = earlier.name ++ (earlier.gap ++ '(' :: left) ∧
      earlier.inner ++ ')' :: earlier.after = left ++ later.rest := by
  -- The name is one word, and the later call starts a word.
  obtain ⟨behindName, named, fromGap⟩ : ∃ left, middle = earlier.name ++ left ∧
      earlier.gap ++ '(' :: (earlier.inner ++ ')' :: earlier.after) = left ++ later.rest := by
    rcases List.append_eq_append_iff.mp whole with ⟨left, rfl, split⟩ | ⟨inside, named, _⟩
    · exact ⟨left, rfl, split⟩
    · have boundary := isLater.boundary
      have isWord := isEarlier.words _ (named ▸ List.mem_append_left _ (List.getLast_mem moved))
      rw [passed, List.getLast?_append_of_ne_nil _ moved, List.getLast?_eq_some_getLast moved,
        Option.any_some, isWord] at boundary
      cases boundary
  obtain ⟨behindGap, rfl, fromOpening⟩ :=
    exists_behind_run earlier.gap fromGap fun blank present =>
      isLater.head?_rest (isNameStart_of_not_isWord (not_isWord_of_isBlank
        (isEarlier.blanks blank present)))
  obtain ⟨left, rfl, fromInner⟩ :=
    exists_behind_run ['('] fromOpening fun character present => by
      rw [List.mem_singleton.mp present]
      exact isLater.head?_rest (by decide)
  exact ⟨left, named, fromInner⟩

/-- A call that starts inside of a text that closes all parentheses ends inside of it. -/
theorem IsCallIn.length_span_le
    {outer : Nat}
    {inside after : List Char}
    (isCall : site.IsCallIn text)
    (closes : nested outer inside = some 0)
    (same : site.rest = inside ++ ')' :: after) : site.span.length ≤ inside.length := by
  have opens : Opens site.rest site.name site.gap (site.inner ++ ')' :: site.after) :=
    ⟨rfl, isCall.words, isCall.blanks⟩
  have plain := opens.plain
  obtain ⟨deeper, rfl, behind⟩ : ∃ deeper, inside = (site.name ++ site.gap) ++ deeper ∧
      '(' :: (site.inner ++ ')' :: site.after) = deeper ++ ')' :: after := by
    refine exists_behind_run (site.name ++ site.gap) (by rw [← same, rest, List.append_assoc])
      fun character present => ?_
    rintro ⟨⟩
    exact (plain _ present).2 rfl
  cases deeper with
  | nil => cases behind
  | cons parenthesis deeper =>
      obtain ⟨rfl, fromInner⟩ := List.cons.inj behind
      rw [nested_append, nested_of_forall plain, Option.bind_some, nested_opening] at closes
      -- Both searches for the closing parenthesis go through the same text.
      obtain ⟨length, found⟩ := exists_closing? 0 closes
      obtain ⟨inner, others, rfl, rfl, -⟩ := exists_of_closing? 0 found
      have ends : closing? 1 (site.inner ++ ')' :: site.after) = some site.inner.length :=
        closing?_of_nested (isBalanced_iff.mp isCall.balanced) site.after
      rw [fromInner] at ends
      have sameLength := Option.some.inj ((closing?_append found _).symm.trans ends)
      simp only [span, List.length_append, List.length_cons, List.length_nil]
      omega

/-- A call that starts behind another one stands behind it or between its parentheses. -/
theorem apart
    (isEarlier : earlier.IsCallIn text)
    (isLater : later.IsCallIn text)
    (starts : earlier.start < later.start) :
    earlier.call.stop ≤ later.start ∨
      earlier.opening < later.start ∧ later.call.stop ≤ earlier.closing := by
  obtain ⟨middle, passed, same⟩ : ∃ middle, later.before = earlier.before ++ middle ∧
      earlier.rest = middle ++ later.rest := by
    rcases List.append_eq_append_iff.mp (isEarlier.whole.symm.trans isLater.whole) with
      ⟨middle, passed, same⟩ | ⟨middle, passed, _⟩
    · exact ⟨middle, passed, same⟩
    · have shorter := congrArg List.length passed
      rw [List.length_append] at shorter
      simp only [start] at starts
      omega
  have length := congrArg List.length passed
  rw [List.length_append] at length
  simp only [call, closing, opening, start] at starts ⊢
  have moved : middle ≠ [] := by
    rintro rfl
    rw [List.length_nil] at length
    omega
  obtain ⟨left, rfl, behind⟩ := exists_behind_opening isEarlier isLater passed moved same
  simp only [List.length_append, List.length_cons] at length
  rcases List.append_eq_append_iff.mp behind with ⟨ended, rfl, closes⟩ | ⟨right, inner, ends⟩
  · cases ended with
    | nil =>
        have closed : later.rest.head? = some ')' := (congrArg List.head? closes).symm
        exact absurd closed (isLater.head?_rest (by decide))
    | cons parenthesis others =>
        simp only [List.length_append, List.length_cons] at length
        exact .inl (by omega)
  · have balanced := isBalanced_iff.mp isEarlier.balanced
    rw [inner, nested_append] at balanced
    obtain ⟨outer, -, closes⟩ := Option.bind_eq_some_iff.mp balanced
    have ended := isLater.length_span_le closes ends
    have sizes := congrArg List.length inner
    simp only [span, List.length_append, List.length_cons, List.length_nil] at ended sizes
    exact .inr ⟨by omega, by omega⟩

end Site

/-! ## All calls of a text -/

/-- Calls are those of a text, in their order. -/
structure Lists (text : List Char) (calls : List Call) : Prop where
  /-- They are listed in the order in which they start, and no two start together. -/
  ascending : calls.Pairwise fun earlier later => earlier.start < later.start
  /-- Listed are the calls of all sites of the text, and no others. -/
  complete : ∀ call, call ∈ calls ↔ ∃ site : Site, site.IsCallIn text ∧ site.call = call
  /-- Where a call stands, one call is listed. -/
  once : ∀ site : Site, site.IsCallIn text -> ∃! call, call ∈ calls ∧ call.start = site.start
  /-- A call reaches from its name to the parenthesis that closes it. -/
  slice : ∀ site : Site, site.IsCallIn text ->
    (text.drop site.call.start).take (site.call.stop - site.call.start) = site.span
  /-- Two calls are apart, or the later one stands between the parentheses of the other. -/
  apart : ∀ earlier later : Site, earlier.IsCallIn text -> later.IsCallIn text ->
    earlier.start < later.start ->
      earlier.call.stop ≤ later.start ∨
        earlier.opening < later.start ∧ later.call.stop ≤ earlier.closing

/-- The search lists the calls of a text: the one of every place where a name, blanks and a
parenthesis that is closed start a word, in the order of these places. -/
theorem lists_extract (text : String) : Lists text.toList (extract text).value where
  ascending := (pairwise_collect_findAll none 0 text.toList).2
  complete _ := mem_value_extract_iff
  once site isCall := by
    refine ⟨site.call, ⟨mem_value_extract_iff.mpr ⟨site, isCall, rfl⟩, rfl⟩, ?_⟩
    rintro other ⟨listed, starts⟩
    obtain ⟨otherSite, otherIsCall, rfl⟩ := mem_value_extract_iff.mp listed
    exact Site.call_eq_of_start otherIsCall isCall starts
  slice _ isCall := isCall.slice
  apart _ _ := Site.apart

/-- A call that is not closed is left out, and those in it are listed. -/
example : (extract "f(g(x), h (y)").value = [⟨"g", 2, 6, ["x"]⟩, ⟨"h", 8, 13, ["y"]⟩] := by
  decide +kernel

end Call
end ShaderGraph
