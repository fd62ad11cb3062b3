import Mathlib.Data.List.Basic
import ShaderGraph.Proofs.Argument.Mention
import ShaderGraph.Proofs.Call.ArgumentList

/-!
# Calls within calls

A call that is closed closes every call in its arguments. So the calls found between its
parentheses are those found in its arguments one by one, with the same arguments of their
own, and they come right behind it: where a text is searched, the calls in the arguments of
a call follow the call.
-/

namespace ShaderGraph
namespace Call

variable {before : Option Char} {first : Char} {text rest name : List Char} {length depth : Nat}

/-! ## What opens -/

/-- No call opens where no name starts. -/
theorem opening?_of_not_start
    (noStart : Text.isNameStart first = false)
    (rest : List Char) : opening? before (first :: rest) = none := by
  rw [opening?, noStart, Bool.false_and]
  rfl

/-- No call opens where no parenthesis follows the word. -/
theorem opening?_of_head?
    (other : ((rest.dropWhile Text.isWord).dropWhile Text.isBlank).head? ≠ some '(') :
    opening? before (first :: rest) = none := by
  rw [opening?]
  split
  case isFalse => rfl
  case isTrue =>
    dsimp only
    split
    case h_1 same => exact absurd (by rw [same]; rfl) other
    case h_2 => rfl

/-- What belongs to no word starts no name. -/
theorem isNameStart_of_not_isWord (noWord : Text.isWord first = false) :
    Text.isNameStart first = false := by
  rw [Bool.eq_false_iff] at noWord ⊢
  exact fun starts =>
    noWord (Argument.isWord_of_isNameRest (Argument.isNameRest_of_isNameStart starts))

/-- What opens a text: the rest of a name, blanks and a parenthesis. -/
structure Opens (text name gap inner : List Char) : Prop where
  text : text = name ++ (gap ++ '(' :: inner)
  words : ∀ character ∈ name, Text.isWord character = true
  blanks : ∀ character ∈ gap, Text.isBlank character = true

theorem not_isWord_of_isBlank
    {blank : Char}
    (isBlank : Text.isBlank blank = true) : Text.isWord blank = false :=
  Bool.eq_false_iff.mpr fun isWord => by
    rw [Reference.isBlank_of_isWord isWord] at isBlank
    cases isBlank

/-- A blank is no parenthesis. -/
theorem plain_of_isBlank {blank : Char} (isBlank : Text.isBlank blank = true) :
    blank ≠ '(' ∧ blank ≠ ')' := by
  constructor <;> (rintro rfl; cases isBlank)

/-- No parenthesis stands in front of the one that opens. -/
theorem Opens.plain
    {gap inner : List Char}
    (opens : Opens text name gap inner) :
    ∀ character ∈ name ++ gap, character ≠ '(' ∧ character ≠ ')' := by
  refine List.forall_mem_append.mpr ⟨fun character present => ?_, fun character present => ?_⟩
  · exact ⟨Reference.ne_of_isWord (opens.words _ present) (by decide),
      Reference.ne_of_isWord (opens.words _ present) (by decide)⟩
  · exact plain_of_isBlank (opens.blanks _ present)

/-- The name ends before the blanks. -/
theorem Opens.boundary
    {gap inner : List Char}
    (opens : Opens text name gap inner) :
    (gap ++ '(' :: inner).head?.any Text.isWord = false := by
  cases gap with
  | nil => rfl
  | cons blank others => exact not_isWord_of_isBlank (opens.blanks blank List.mem_cons_self)

/-- A call opens with a character of a word. -/
theorem isWord_of_opening?
    {opened : List Char × Nat}
    (opening : opening? before (first :: rest) = some opened) : Text.isWord first = true := by
  refine Bool.not_eq_false _ |>.mp fun noWord => ?_
  rw [opening?_of_not_start (isNameStart_of_not_isWord noWord)] at opening
  cases opening

/-- A call that opens has a name, a gap and an inner text. -/
theorem exists_opens
    {offset : Nat}
    (opening : opening? before (first :: rest) = some (name, offset)) :
    ∃ more gap inner, name = first :: more ∧ Opens rest more gap inner ∧
      offset = name.length + gap.length := by
  rw [opening?] at opening
  split at opening
  case isFalse => cases opening
  case isTrue =>
    dsimp only at opening
    split at opening
    case h_2 => cases opening
    case h_1 inner same =>
      cases opening
      refine ⟨_, _, inner, rfl, ⟨?_, fun _ => ?_, fun _ => Text.isBlank_of_mem_takeWhile⟩, rfl⟩
      · rw [← same, List.takeWhile_append_dropWhile, List.takeWhile_append_dropWhile]
      · exact List.all_eq_true.mp List.all_takeWhile _

/-- A name at the start of a word opens a call if blanks and a parenthesis follow. -/
theorem opening?_of_opens
    {gap inner : List Char}
    (opens : Opens rest name gap inner)
    (starts : Text.isNameStart first = true)
    (boundary : before.any Text.isWord = false) :
    opening? before (first :: rest) =
      some (first :: name, (first :: name).length + gap.length) := by
  have noBlank : ('(' :: inner).head?.any Text.isBlank = false := rfl
  obtain ⟨word, behind⟩ := Argument.run_append opens.words opens.boundary
  obtain ⟨blanks, parenthesis⟩ := Argument.run_append opens.blanks noBlank
  rw [opens.text, opening?, starts, boundary, word, behind, blanks, parenthesis]
  rfl

/-- What may stand behind a text in which calls are searched: no word goes on, and no
parenthesis comes next. -/
structure Stops (rest : List Char) : Prop where
  noWord : rest.head?.any Text.isWord = false
  notOpened : (rest.dropWhile Text.isBlank).head? ≠ some '('

/-- A mark that opens nothing stops a name. -/
theorem stops_mark
    {mark : Char}
    (noWord : Text.isWord mark = false)
    (noBlank : Text.isBlank mark = false)
    (other : mark ≠ '(')
    (rest : List Char) : Stops (mark :: rest) where
  noWord := noWord
  notOpened := by
    rw [List.dropWhile_cons_of_neg (by simp [noBlank])]
    simpa using other

/-- Blanks with nothing behind them stop a name. -/
theorem stops_blanks
    {blanks : List Char}
    (areBlank : ∀ blank ∈ blanks, Text.isBlank blank = true) : Stops blanks where
  noWord := by
    cases blanks with
    | nil => rfl
    | cons blank others =>
        exact not_isWord_of_isBlank (areBlank blank List.mem_cons_self)
  notOpened := by
    rw [List.dropWhile_eq_nil_iff.mpr areBlank]
    simp

/-- A text opens the same call before others if these cannot go on with it. -/
theorem opening?_append_of_stops
    (stops : Stops rest)
    (text : List Char) :
    opening? before (first :: (text ++ rest)) = opening? before (first :: text) := by
  obtain ⟨ended, behind⟩ : rest.takeWhile Text.isWord = [] ∧ rest.dropWhile Text.isWord = rest :=
    Argument.run_append (List.forall_mem_nil _) stops.noWord
  rw [opening?, opening?]
  congr 1
  have name : (text ++ rest).takeWhile Text.isWord = text.takeWhile Text.isWord := by
    rw [List.takeWhile_append]
    split
    case isTrue whole => rw [ended, List.append_nil, (List.takeWhile_prefix _).eq_of_length whole]
    case isFalse => rfl
  have after : (text ++ rest).dropWhile Text.isWord = text.dropWhile Text.isWord ++ rest := by
    rw [List.dropWhile_append]
    split
    case isTrue whole => rw [behind, List.isEmpty_iff.mp whole, List.nil_append]
    case isFalse => rfl
  rw [name, after]
  generalize text.dropWhile Text.isWord = gap
  cases opens : gap.dropWhile Text.isBlank with
  | nil =>
      have nothing : (gap ++ rest).dropWhile Text.isBlank = rest.dropWhile Text.isBlank := by
        rw [List.dropWhile_append, opens, List.isEmpty_nil, if_pos rfl]
      rw [nothing]
      dsimp only
      split
      case h_1 same => exact absurd (by rw [same]; rfl) stops.notOpened
      case h_2 => rfl
  | cons next inner =>
      have blanks : (gap ++ rest).takeWhile Text.isBlank = gap.takeWhile Text.isBlank := by
        have shorter : (gap.takeWhile Text.isBlank).length ≠ gap.length := fun whole => by
          rw [List.dropWhile_eq_nil_iff.mpr] at opens
          · cases opens
          · rw [← (List.takeWhile_prefix _).eq_of_length whole]
            exact fun _ => Text.isBlank_of_mem_takeWhile
        rw [List.takeWhile_append, if_neg shorter]
      have same : (gap ++ rest).dropWhile Text.isBlank = next :: (inner ++ rest) := by
        rw [List.dropWhile_append, opens, List.isEmpty_cons, if_neg Bool.false_ne_true,
          List.cons_append]
      rw [blanks, same]
      dsimp only
      split
      case h_1 opened => cases opened; rfl
      case h_2 other =>
        split
        case h_1 opened => cases opened; exact absurd rfl (other _)
        case h_2 => rfl

/-! ## What closes -/

/-- The number of parentheses that are open behind a text, if it closes only parentheses
that are open. -/
def nested (depth : Nat) : List Char -> Option Nat
  | [] => some depth
  | first :: rest =>
      if first == '(' then nested (depth + 1) rest
      else if first == ')' then
        if depth = 0 then none else nested (depth - 1) rest
      else nested depth rest

theorem nested_plain
    (notOpening : first ≠ '(')
    (notClosing : first ≠ ')')
    (depth : Nat)
    (rest : List Char) : nested depth (first :: rest) = nested depth rest := by
  rw [nested, beq_false_of_ne notOpening, beq_false_of_ne notClosing]
  rfl

theorem closing?_opening (depth : Int) (rest : List Char) :
    closing? depth ('(' :: rest) = (closing? (depth + 1) rest).map (· + 1) := rfl

theorem closing?_closing
    {depth : Int}
    (deeper : depth ≠ 1)
    (rest : List Char) :
    closing? depth (')' :: rest) = (closing? (depth - 1) rest).map (· + 1) := by
  rw [closing?, if_neg (by decide), if_pos (by decide), if_neg deeper]

theorem closing?_plain
    (notOpening : first ≠ '(')
    (notClosing : first ≠ ')')
    (depth : Int)
    (rest : List Char) :
    closing? depth (first :: rest) = (closing? depth rest).map (· + 1) := by
  rw [closing?, beq_false_of_ne notOpening, beq_false_of_ne notClosing]
  rfl

/-- The depth behind two texts is that of the second one behind the first. -/
theorem nested_append (depth : Nat) (left right : List Char) :
    nested depth (left ++ right) = (nested depth left).bind (nested · right) := by
  induction left generalizing depth with
  | nil => rfl
  | cons first left inductionHypothesis =>
      rw [List.cons_append, nested, nested]
      split
      · exact inductionHypothesis (depth + 1)
      · split
        · split
          · rfl
          · exact inductionHypothesis (depth - 1)
        · exact inductionHypothesis depth

/-- A text without parentheses keeps the depth. -/
theorem nested_of_forall
    (plain : ∀ character ∈ text, character ≠ '(' ∧ character ≠ ')')
    (depth : Nat) : nested depth text = some depth := by
  induction text with
  | nil => rfl
  | cons first text inductionHypothesis =>
      obtain ⟨⟨notOpening, notClosing⟩, plain⟩ := List.forall_mem_cons.mp plain
      rw [nested_plain notOpening notClosing]
      exact inductionHypothesis plain

/-- A text that closes only what is open ends at the depth that is counted for it. -/
theorem depthBehind_of_nested
    {behind : Nat}
    (closes : nested depth text = some behind) : depthBehind depth text = behind := by
  induction text generalizing depth with
  | nil =>
      cases closes
      rfl
  | cons first text inductionHypothesis =>
      rw [nested] at closes
      change depthBehind (depthAfter depth first) text = behind
      rw [depthAfter]
      split at closes
      case isTrue opening =>
        rw [if_pos opening]
        exact inductionHypothesis closes
      case isFalse opening =>
        rw [if_neg opening]
        split at closes
        case isTrue closing =>
          rw [if_pos closing]
          split at closes
          case isTrue => cases closes
          case isFalse deeper =>
            have outer : (depth : Int) - 1 = ((depth - 1 : Nat) : Int) := by omega
            rw [outer]
            exact inductionHypothesis closes
        case isFalse closing =>
          rw [if_neg closing]
          exact inductionHypothesis closes

/-- The parenthesis that brings a depth back to zero stands behind a text that closes the
others. -/
theorem exists_of_closing?
    (depth : Nat)
    (closed : closing? (depth + 1 : Nat) text = some length) :
    ∃ inner after, text = inner ++ ')' :: after ∧ inner.length = length ∧
      nested depth inner = some 0 := by
  induction text generalizing depth length with
  | nil => cases closed
  | cons first text inductionHypothesis =>
      by_cases opening : first = '('
      · subst opening
        obtain ⟨before, found, rfl⟩ := Option.map_eq_some_iff.mp closed
        obtain ⟨inner, after, rfl, rfl, closes⟩ := inductionHypothesis (depth + 1) found
        exact ⟨'(' :: inner, after, rfl, rfl, closes⟩
      by_cases closing : first = ')'
      · subst closing
        cases depth with
        | zero =>
            cases closed
            exact ⟨[], text, rfl, rfl, rfl⟩
        | succ depth =>
            rw [closing?_closing (by omega)] at closed
            obtain ⟨before, found, rfl⟩ := Option.map_eq_some_iff.mp closed
            have outer : ((depth + 1 + 1 : Nat) : Int) - 1 = (depth + 1 : Nat) := by omega
            rw [outer] at found
            obtain ⟨inner, after, rfl, rfl, closes⟩ := inductionHypothesis _ found
            exact ⟨')' :: inner, after, rfl, rfl, closes⟩
      rw [closing?_plain opening closing] at closed
      obtain ⟨before, found, rfl⟩ := Option.map_eq_some_iff.mp closed
      obtain ⟨inner, after, rfl, rfl, closes⟩ := inductionHypothesis _ found
      exact ⟨first :: inner, after, rfl, rfl, (nested_plain opening closing _ _).trans closes⟩

/-- What stands behind the closing parenthesis does not matter. -/
theorem closing?_append
    {depth : Int}
    (closed : closing? depth text = some length)
    (rest : List Char) : closing? depth (text ++ rest) = some length := by
  induction text generalizing depth length with
  | nil => cases closed
  | cons first text inductionHypothesis =>
      rw [closing?] at closed
      rw [List.cons_append, closing?]
      split at closed
      case isTrue opening =>
        obtain ⟨before, found, rfl⟩ := Option.map_eq_some_iff.mp closed
        rw [if_pos opening, inductionHypothesis found, Option.map_some]
      case isFalse opening =>
        rw [if_neg opening]
        split at closed
        case isTrue closing =>
          rw [if_pos closing]
          split at closed
          case isTrue last => rw [if_pos last, closed]
          case isFalse deeper =>
            obtain ⟨before, found, rfl⟩ := Option.map_eq_some_iff.mp closed
            rw [if_neg deeper, inductionHypothesis found, Option.map_some]
        case isFalse closing =>
          obtain ⟨before, found, rfl⟩ := Option.map_eq_some_iff.mp closed
          rw [if_neg closing, inductionHypothesis found, Option.map_some]

/-- A text that closes all parentheses closes each of them. -/
theorem exists_closing?
    {outer : Nat}
    (depth : Nat)
    (closes : nested (outer + (depth + 1)) text = some 0) :
    ∃ length, closing? (depth + 1 : Nat) text = some length := by
  induction text generalizing depth with
  | nil => cases closes
  | cons first text inductionHypothesis =>
      by_cases opening : first = '('
      · subst opening
        obtain ⟨length, found⟩ := inductionHypothesis (depth + 1) closes
        exact ⟨length + 1, Option.map_eq_some_iff.mpr ⟨length, found, rfl⟩⟩
      by_cases closing : first = ')'
      · subst closing
        cases depth with
        | zero => exact ⟨0, rfl⟩
        | succ depth =>
            obtain ⟨length, found⟩ := inductionHypothesis depth closes
            have before : ((depth + 1 + 1 : Nat) : Int) - 1 = (depth + 1 : Nat) := by omega
            rw [closing?_closing (by omega), before]
            exact ⟨length + 1, Option.map_eq_some_iff.mpr ⟨length, found, rfl⟩⟩
      rw [nested_plain opening closing] at closes
      obtain ⟨length, found⟩ := inductionHypothesis _ closes
      rw [closing?_plain opening closing]
      exact ⟨length + 1, Option.map_eq_some_iff.mpr ⟨length, found, rfl⟩⟩

/-! ## Calls without their places -/

/-- The name and the arguments of the call that opens a text, if it is closed. -/
def frontCall? (before : Option Char) (text : List Char) : Option (String × List String) :=
  match found? before 0 text with
  | some (.call call) => some (call.name, call.arguments)
  | _ => none

/-- The names and the arguments of the calls in a text, from left to right. -/
def entries (before : Option Char) : List Char -> List (String × List String)
  | [] => []
  | first :: rest => (frontCall? before (first :: rest)).toList ++ entries (some first) rest

/-- No call stands in front where none opens. -/
theorem frontCall?_of_opening?_eq_none
    (nothing : opening? before text = none) : frontCall? before text = none := by
  rw [frontCall?, found?, nothing]

/-- What opens a text lists the arguments before its closing parenthesis. -/
theorem frontCall?_of_opens
    {offset : Nat}
    {more gap inner : List Char}
    (opening : opening? before (first :: rest) = some (name, offset))
    (opens : Opens rest more gap inner)
    (whole : name = first :: more)
    (behind : offset = name.length + gap.length) :
    frontCall? before (first :: rest) = (closing? 1 inner).map fun length =>
      (String.ofList name, (splitChars (inner.take length)).map String.ofList) := by
  have text : first :: rest = (name ++ gap) ++ '(' :: inner := by
    rw [opens.text, whole, List.append_assoc, List.cons_append]
  have parenthesis : (first :: rest).drop offset = '(' :: inner := by
    rw [text, behind, ← List.length_append, List.drop_left]
  have inside : (first :: rest).drop (offset + 1) = inner := by
    rw [← List.drop_drop, parenthesis]
    rfl
  rw [frontCall?, found?, opening]
  dsimp only
  rw [parenthesis, inside, closing?_opening, Int.zero_add]
  cases closing? 1 inner with
  | none => rfl
  | some length => rfl

/-! ## Searching one text after another -/

/-- Where no call opens, the search goes on behind the character. -/
theorem entries_of_opening?_eq_none
    (nothing : opening? before (first :: rest) = none) :
    entries before (first :: rest) = entries (some first) rest := by
  rw [entries, frontCall?_of_opening?_eq_none nothing]
  rfl

/-- Of the character before a text only counts whether it belongs to a word. -/
theorem entries_congr
    {other : Option Char}
    (same : before.any Text.isWord = other.any Text.isWord)
    (text : List Char) : entries before text = entries other text := by
  cases text with
  | nil => rfl
  | cons first rest =>
      have opens : opening? before (first :: rest) = opening? other (first :: rest) := by
        rw [opening?, opening?, same]
      rw [entries, entries, frontCall?, frontCall?, found?, found?, opens]

/-- Behind a character that belongs to no word the search starts anew. -/
theorem entries_other
    (noWord : Text.isWord first = false)
    (rest : List Char) : entries before (first :: rest) = entries none rest := by
  rw [entries_of_opening?_eq_none (opening?_of_not_start (isNameStart_of_not_isWord noWord) rest)]
  exact entries_congr (by simpa using noWord) rest

/-- Between words the character before a text does not count. -/
theorem entries_boundary (boundary : text.head?.any Text.isWord = false) :
    entries before text = entries none text := by
  cases text with
  | nil => rfl
  | cons first rest => rw [entries_other boundary, entries_other boundary]

/-- Blanks in front of a text hold no call. -/
theorem entries_blanks
    {blanks : List Char}
    (areBlank : ∀ blank ∈ blanks, Text.isBlank blank = true)
    (rest : List Char) : entries none (blanks ++ rest) = entries none rest := by
  induction blanks with
  | nil => rfl
  | cons blank blanks inductionHypothesis =>
      obtain ⟨isBlank, areBlank⟩ := List.forall_mem_cons.mp areBlank
      rw [List.cons_append, entries_other (not_isWord_of_isBlank isBlank)]
      exact inductionHypothesis areBlank

/-- Inside of a word no call opens. -/
theorem entries_inside
    {word : List Char}
    (inside : before.any Text.isWord = true)
    (words : ∀ character ∈ word, Text.isWord character = true)
    (boundary : rest.head?.any Text.isWord = false) :
    entries before (word ++ rest) = entries none rest := by
  induction word generalizing before with
  | nil => exact entries_boundary boundary
  | cons first word inductionHypothesis =>
      obtain ⟨isWord, words⟩ := List.forall_mem_cons.mp words
      have nothing : opening? before (first :: (word ++ rest)) = none := by
        rw [opening?, inside, Bool.not_true, Bool.and_false]
        rfl
      rw [List.cons_append, entries_of_opening?_eq_none nothing]
      exact inductionHypothesis isWord words

/-- A closed call in front of others is the one that opens without them. -/
theorem frontCall?_append
    {outer : Nat}
    (closes : nested outer text = some 0)
    (stops : Stops rest) :
    frontCall? before (first :: (text ++ rest)) = frontCall? before (first :: text) := by
  have same : opening? before (first :: (text ++ rest)) = opening? before (first :: text) :=
    opening?_append_of_stops stops text
  cases opening : opening? before (first :: text) with
  | none =>
      rw [frontCall?_of_opening?_eq_none opening,
        frontCall?_of_opening?_eq_none (same.trans opening)]
  | some opened =>
      obtain ⟨name, offset⟩ := opened
      obtain ⟨more, gap, inner, whole, opens, behind⟩ := exists_opens opening
      have longer : Opens (text ++ rest) more gap (inner ++ rest) :=
        ⟨by rw [opens.text]; simp, opens.words, opens.blanks⟩
      rw [frontCall?_of_opens opening opens whole behind,
        frontCall?_of_opens (same.trans opening) longer whole behind]
      have inside : nested (outer + 1) inner = some 0 := by
        rw [opens.text, ← List.append_assoc, nested_append, nested_of_forall opens.plain] at closes
        exact closes
      -- The call is closed within the text, so the search does not go on to what follows.
      obtain ⟨length, closed⟩ := exists_closing? 0 inside
      obtain ⟨argumentText, after, rfl, rfl, -⟩ := exists_of_closing? 0 closed
      have alone : closing? 1 (argumentText ++ ')' :: after) = some argumentText.length := closed
      rw [closing?_append alone, alone, Option.map_some, Option.map_some, List.append_assoc,
        List.take_left, List.take_left]

/-- What closes behind a character closes from the depth there. -/
theorem exists_nested_of_cons
    {behind : Nat}
    (closes : nested depth (first :: text) = some behind) :
    ∃ outer, nested outer text = some behind := by
  rw [nested] at closes
  split at closes
  · exact ⟨_, closes⟩
  · split at closes
    · split at closes
      · cases closes
      · exact ⟨_, closes⟩
    · exact ⟨_, closes⟩

/-- The calls of a text that closes all parentheses are found apart from what follows. -/
theorem entries_append
    {outer : Nat}
    (closes : nested outer text = some 0)
    (stops : Stops rest) :
    entries before (text ++ rest) = entries before text ++ entries none rest := by
  induction text generalizing before outer with
  | nil => exact entries_boundary stops.noWord
  | cons first text inductionHypothesis =>
      obtain ⟨behind, closes⟩ := exists_nested_of_cons closes
      rw [List.cons_append, entries, entries, frontCall?_append closes stops,
        inductionHypothesis closes, List.append_assoc]

/-! ## Calls in arguments -/

/-- The parts of a text, joined by commas, are the text. -/
theorem intercalate_parts (depth : Int) (text : List Char) :
    [','].intercalate (parts depth text) = text := by
  induction text generalizing depth with
  | nil => rfl
  | cons first rest inductionHypothesis =>
      by_cases breaks : first = ',' ∧ depth = 0
      · obtain ⟨rfl, rfl⟩ := breaks
        obtain ⟨part, others, behind⟩ := List.exists_cons_of_ne_nil (parts_ne_nil 0 rest)
        have joined := inductionHypothesis 0
        rw [behind] at joined
        rw [parts_comma, behind, List.intercalate_cons_cons, joined]
        rfl
      · obtain ⟨part, others, behind⟩ :=
          List.exists_cons_of_ne_nil (parts_ne_nil (depthAfter depth first) rest)
        have joined := inductionHypothesis (depthAfter depth first)
        rw [behind] at joined
        rw [parts_cons breaks behind, ← joined]
        cases others with
        | nil => simp
        | cons next others => simp

/-- Blanks around a text that closes all parentheses hide no call of it. -/
theorem entries_trim (closes : nested 0 text = some 0) :
    entries none (Text.trim text) = entries none text := by
  obtain ⟨before, after, split, beforeBlank, afterBlank⟩ := Text.exists_eq_append_trim text
  have inside : nested 0 (Text.trim text) = some 0 := by
    rw [split, nested_append, nested_append,
      nested_of_forall fun _ => plain_of_isBlank ∘ beforeBlank _,
      Option.bind_some] at closes
    obtain ⟨behind, inside, ends⟩ := Option.bind_eq_some_iff.mp closes
    rw [nested_of_forall fun _ => plain_of_isBlank ∘ afterBlank _] at ends
    rw [inside, ends]
  have nothing : entries none after = [] := by
    rw [← List.append_nil after, entries_blanks afterBlank]
    rfl
  conv => rhs; rw [split]
  rw [List.append_assoc, entries_blanks beforeBlank,
    entries_append inside (stops_blanks afterBlank),
    nothing, List.append_nil]

/-- The calls of texts joined by commas are those of each text in turn. -/
theorem entries_intercalate
    {texts : List (List Char)}
    (listing : IsListing 0 texts)
    (closes : nested 0 ([','].intercalate texts) = some 0) :
    (∀ text ∈ texts, nested 0 text = some 0) ∧
      entries none ([','].intercalate texts) = texts.flatMap (entries none) := by
  induction texts with
  | nil => exact ⟨List.forall_mem_nil _, rfl⟩
  | cons text others inductionHypothesis =>
      cases others with
      | nil =>
          rw [List.intercalate_singleton] at closes ⊢
          simpa using closes
      | cons next others =>
          rw [List.intercalate_cons_cons, List.append_assoc, List.singleton_append,
            nested_append] at closes
          obtain ⟨behind, first, rest⟩ := Option.bind_eq_some_iff.mp closes
          have ends : depthBehind 0 text = behind := depthBehind_of_nested first
          rw [listing.closed (by simp)] at ends
          obtain rfl : behind = 0 := by omega
          obtain ⟨closed, calls⟩ := inductionHypothesis listing.tail rest
          refine ⟨List.forall_mem_cons.mpr ⟨first, closed⟩, ?_⟩
          rw [List.intercalate_cons_cons, List.append_assoc, List.singleton_append,
            entries_append first (stops_mark (by decide) (by decide) (by decide) _),
            entries_other (by decide), calls]
          rfl

/-- Empty texts hold no call. -/
theorem flatMap_entries_filter (texts : List (List Char)) :
    (texts.filter fun text => !text.isEmpty).flatMap (entries none) =
      texts.flatMap (entries none) := by
  induction texts with
  | nil => rfl
  | cons text others inductionHypothesis =>
      cases text with
      | nil => exact inductionHypothesis
      | cons first rest =>
          rw [List.filter_cons_of_pos rfl, List.flatMap_cons, List.flatMap_cons,
            inductionHypothesis]

/-- The calls in a text that closes all parentheses are those in the arguments that it
lists. -/
theorem entries_eq_flatMap_splitChars (closes : nested 0 text = some 0) :
    entries none text = (splitChars text).flatMap (entries none) := by
  have joined := intercalate_parts 0 text
  obtain ⟨closed, calls⟩ :=
    entries_intercalate (isListing_parts 0 text) (joined.symm ▸ closes)
  have trimmed : (parts 0 text).flatMap (entries none) =
      ((parts 0 text).map Text.trim).flatMap (entries none) := by
    rw [List.flatMap_map]
    exact List.flatMap_congr fun part present => (entries_trim (closed part present)).symm
  rw [joined, trimmed] at calls
  rw [calls, splitChars, flatMap_entries_filter]

/-- Where a call is closed, the calls in its arguments follow it. -/
theorem exists_entries_eq_append
    {calls : String × List String}
    (called : frontCall? before (first :: text) = some calls) :
    ∃ behind, entries (some first) text =
      (calls.2.flatMap fun argument => entries none argument.toList) ++ behind := by
  cases opening : opening? before (first :: text) with
  | none =>
      rw [frontCall?_of_opening?_eq_none opening] at called
      cases called
  | some opened =>
      obtain ⟨name, offset⟩ := opened
      obtain ⟨more, gap, inner, whole, opens, behind⟩ := exists_opens opening
      rw [frontCall?_of_opens opening opens whole behind] at called
      obtain ⟨length, closed, rfl⟩ := Option.map_eq_some_iff.mp called
      obtain ⟨arguments, after, rfl, rfl, closes⟩ := exists_of_closing? 0 closed
      refine ⟨entries none (')' :: after), ?_⟩
      have inside : (some first).any Text.isWord = true := isWord_of_opening? opening
      rw [opens.text, entries_inside inside opens.words opens.boundary,
        entries_blanks opens.blanks, entries_other (by decide),
        entries_append closes (stops_mark (by decide) (by decide) (by decide) _),
        entries_eq_flatMap_splitChars closes, List.take_left, List.flatMap_map]
      simp only [String.toList_ofList]

/-- The calls of texts, one text after another. -/
def entriesOf (texts : List String) : List (String × List String) :=
  texts.flatMap fun text => entries none text.toList

/-- Calls with those in the arguments of each of them right behind it. -/
inductive Nests : List (String × List String) -> Prop
  | nil : Nests []
  | cons
      {call : String × List String}
      {rest : List (String × List String)}
      (follow : entriesOf call.2 <+: rest)
      (nests : Nests rest) : Nests (call :: rest)

/-- The calls of a text nest. -/
theorem nests_entries (before : Option Char) (text : List Char) : Nests (entries before text) := by
  induction text generalizing before with
  | nil => exact .nil
  | cons first rest inductionHypothesis =>
      rw [entries]
      cases called : frontCall? before (first :: rest) with
      | none => exact inductionHypothesis (some first)
      | some call =>
          obtain ⟨behind, split⟩ := exists_entries_eq_append called
          exact .cons ⟨behind, split.symm⟩ (inductionHypothesis (some first))

/-! ## Arguments are shorter -/

/-- A part of a text is at most as long as the text. -/
theorem length_le_of_mem_parts
    {depth : Int}
    {part : List Char}
    (present : part ∈ parts depth text) : part.length ≤ text.length := by
  induction text generalizing depth part with
  | nil =>
      obtain rfl := List.mem_singleton.mp present
      exact Nat.le_refl _
  | cons first rest inductionHypothesis =>
      by_cases breaks : first = ',' ∧ depth = 0
      · obtain ⟨rfl, rfl⟩ := breaks
        rw [parts_comma] at present
        rcases List.mem_cons.mp present with rfl | later
        · exact Nat.zero_le _
        · exact (inductionHypothesis later).trans (Nat.le_succ _)
      · obtain ⟨head, others, behind⟩ :=
          List.exists_cons_of_ne_nil (parts_ne_nil (depthAfter depth first) rest)
        rw [parts_cons breaks behind] at present
        have shorter (other : List Char) (listed : other ∈ head :: others) :
            other.length ≤ rest.length :=
          inductionHypothesis (behind ▸ listed)
        rcases List.mem_cons.mp present with rfl | later
        · exact Nat.succ_le_succ (shorter head List.mem_cons_self)
        · exact (shorter part (List.mem_cons_of_mem head later)).trans (Nat.le_succ _)

theorem length_trim_le (text : List Char) : (Text.trim text).length ≤ text.length := by
  obtain ⟨before, after, split, -, -⟩ := Text.exists_eq_append_trim text
  have length := congrArg List.length split
  simp only [List.length_append] at length
  omega

/-- An argument is at most as long as the list it stands in. -/
theorem length_le_of_mem_splitChars
    {part : List Char}
    (present : part ∈ splitChars text) : part.length ≤ text.length := by
  obtain ⟨source, listed, rfl⟩ := List.mem_map.mp (List.mem_filter.mp present).1
  exact (length_trim_le source).trans (length_le_of_mem_parts listed)

/-- The arguments of a call are shorter than a text that it opens. -/
theorem length_lt_of_frontCall?
    {call : String × List String}
    {argument : String}
    (called : frontCall? before (first :: rest) = some call)
    (present : argument ∈ call.2) : argument.length < (first :: rest).length := by
  cases opening : opening? before (first :: rest) with
  | none =>
      rw [frontCall?_of_opening?_eq_none opening] at called
      cases called
  | some opened =>
      obtain ⟨name, offset⟩ := opened
      obtain ⟨more, gap, inner, whole, opens, behind⟩ := exists_opens opening
      rw [frontCall?_of_opens opening opens whole behind] at called
      obtain ⟨length, -, rfl⟩ := Option.map_eq_some_iff.mp called
      obtain ⟨part, listed, rfl⟩ := List.mem_map.mp present
      have shorter := length_le_of_mem_splitChars listed
      have inside := List.length_take_le' length inner
      rw [String.length_ofList, opens.text]
      simp only [List.length_cons, List.length_append]
      omega

/-- The arguments of a call are shorter than the text that holds it. -/
theorem length_lt_of_mem_entries
    {call : String × List String}
    {argument : String}
    (listed : call ∈ entries before text)
    (present : argument ∈ call.2) : argument.length < text.length := by
  induction text generalizing before with
  | nil => cases listed
  | cons first rest inductionHypothesis =>
      rw [entries, List.mem_append, Option.mem_toList] at listed
      rcases listed with called | later
      · exact length_lt_of_frontCall? called present
      · exact (inductionHypothesis later).trans (Nat.lt_succ_self _)

end Call
end ShaderGraph
