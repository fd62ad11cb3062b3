import Mathlib.Data.List.TakeWhile
import ShaderGraph.Argument.Names
import ShaderGraph.Proofs.Graph.Replacement
import ShaderGraph.Swizzle

/-!
# Names mentioned in a text

The search for names takes a text word by word. A word that is no name and any other
character are passed over; a name, with the selection behind it, is found unless a
parenthesis follows. A text in which nothing is found is quiet, and it stays quiet
when its references are replaced.
-/

namespace ShaderGraph
namespace Argument

open Reference

variable {before : Option Char} {text rest word : List Char} {first : Char}

/-! ## Words -/

/-- The characters of names are those of words. -/
theorem isWord_of_isNameRest
    {character : Char}
    (part : Text.isNameRest character = true) : Text.isWord character = true := by
  rw [Text.isWord, part, Bool.true_or]

theorem isNameRest_of_isNameStart
    {character : Char}
    (starts : Text.isNameStart character = true) : Text.isNameRest character = true := by
  rw [Text.isNameStart, Bool.or_eq_true] at starts
  rw [Text.isNameRest, Char.isAlphanum, Bool.or_eq_true, Bool.or_eq_true]
  exact starts.imp .inl id

/-- The characters of a name continue a name. -/
theorem isNameRest_of_mem
    (named : Swizzle.isName word = true) :
    ∀ character ∈ word, Text.isNameRest character = true := by
  cases word with
  | nil => cases named
  | cons first rest =>
      rw [Swizzle.isName, Bool.and_eq_true, List.all_eq_true] at named
      exact List.forall_mem_cons.mpr ⟨isNameRest_of_isNameStart named.1, named.2⟩

theorem isWord_of_mem
    (named : Swizzle.isName word = true) : ∀ character ∈ word, Text.isWord character = true :=
  fun character present => isWord_of_isNameRest (isNameRest_of_mem named character present)

/-- No reference stands in a word. -/
theorem free_of_isWord
    (words : ∀ character ∈ word, Text.isWord character = true) : '$' ∉ word :=
  fun present => ne_of_isWord (words _ present) (by decide) rfl

/-- A word ends where no character of words comes next. -/
theorem endsWord_iff : endsWord rest = true ↔ rest.head?.any Text.isWord = false := by
  rw [endsWord, Bool.not_eq_true']

/-- A run of characters of a kind ends where the text behind it starts with none. -/
theorem run_append
    {isKind : Char -> Bool}
    (kind : ∀ character ∈ word, isKind character = true)
    (ends : rest.head?.any isKind = false) :
    (word ++ rest).takeWhile isKind = word ∧ (word ++ rest).dropWhile isKind = rest := by
  rw [List.takeWhile_append_of_pos kind, List.dropWhile_append_of_pos kind]
  cases rest with
  | nil => exact ⟨List.append_nil _, rfl⟩
  | cons next behind =>
      have other : ¬isKind next = true := by simpa using ends
      rw [List.takeWhile_cons_of_neg other, List.dropWhile_cons_of_neg other]
      exact ⟨List.append_nil _, rfl⟩

theorem any_isNameRest_eq_false
    (ends : rest.head?.any Text.isWord = false) : rest.head?.any Text.isNameRest = false := by
  cases rest with
  | nil => rfl
  | cons next behind =>
      rw [List.head?_cons, Option.any_some] at ends ⊢
      rw [Text.isWord, Bool.or_eq_false_iff] at ends
      exact ends.1

/-! ## Steps of the search -/

/-- What is found at a place depends on whether a word goes on there. -/
theorem dotted?_congr
    {other : Option Char}
    (same : before.any Text.isWord = other.any Text.isWord)
    (text : List Char) : dotted? before text = dotted? other text := by
  cases text with
  | nil => rfl
  | cons first rest => rw [dotted?, dotted?, same]

/-- Of the character before a text only counts whether it belongs to a word. -/
theorem scan_congr
    {other : Option Char}
    (same : before.any Text.isWord = other.any Text.isWord)
    (text : List Char) : scan before 0 text = scan other 0 text := by
  cases text with
  | nil => rfl
  | cons first rest => rw [scan, scan, dotted?_congr same]

/-- The scan goes on where nothing is found. -/
theorem scan_of_dotted?_eq_none
    (none : dotted? before (first :: rest) = none) :
    scan before 0 (first :: rest) = scan (some first) 0 rest := by
  rw [scan, none]

theorem dotted?_of_no_start
    (noName : Text.isNameStart first = false ∨ before.any Text.isWord = true) :
    dotted? before (first :: rest) = none := by
  rw [dotted?]
  rcases noName with noStart | inside
  · rw [noStart]
    rfl
  · rw [inside, Bool.not_true, Bool.and_false]
    rfl

/-- Between words the character before a text does not count. -/
theorem scan_boundary
    (boundary : text.head?.any Text.isWord = false) : scan before 0 text = scan none 0 text := by
  cases text with
  | nil => rfl
  | cons first rest =>
      have noStart : Text.isNameStart first = false := by
        rw [List.head?_cons, Option.any_some] at boundary
        rw [Bool.eq_false_iff] at boundary ⊢
        exact fun starts => boundary (isWord_of_isNameRest (isNameRest_of_isNameStart starts))
      rw [scan_of_dotted?_eq_none (dotted?_of_no_start (.inl noStart)),
        scan_of_dotted?_eq_none (dotted?_of_no_start (.inl noStart))]

/-- A character that belongs to no word is passed over. -/
theorem scan_other
    (noWord : Text.isWord first = false)
    (rest : List Char) : scan before 0 (first :: rest) = scan none 0 rest := by
  have boundary : (first :: rest).head?.any Text.isWord = false := noWord
  have noStart : Text.isNameStart first = false := by
    rw [Bool.eq_false_iff] at noWord ⊢
    exact fun starts => noWord (isWord_of_isNameRest (isNameRest_of_isNameStart starts))
  rw [scan_of_dotted?_eq_none (dotted?_of_no_start (.inl noStart))]
  exact scan_congr (by simpa using noWord) rest

/-- Inside of a word nothing is found. -/
theorem scan_inside
    (inside : before.any Text.isWord = true)
    (words : ∀ character ∈ word, Text.isWord character = true)
    (ends : rest.head?.any Text.isWord = false) :
    scan before 0 (word ++ rest) = scan none 0 rest := by
  induction word generalizing before with
  | nil => exact scan_boundary ends
  | cons first word hypothesis =>
      rw [List.cons_append, scan_of_dotted?_eq_none (dotted?_of_no_start (.inr inside))]
      exact hypothesis (words first List.mem_cons_self) fun character present =>
        words character (List.mem_cons_of_mem first present)

/-- The selection behind a name, with its point, and what follows it. -/
def splitSelection (rest : List Char) : List Char × List Char :=
  match rest with
  | '.' :: behind =>
      if !(behind.takeWhile Text.isNameRest).isEmpty &&
          endsWord (behind.dropWhile Text.isNameRest) then
        ('.' :: behind.takeWhile Text.isNameRest, behind.dropWhile Text.isNameRest)
      else ([], rest)
  | _ => ([], rest)

/-- Without a point there is no selection. -/
theorem splitSelection_of_no_point
    (noPoint : ∀ behind, rest ≠ '.' :: behind) : splitSelection rest = ([], rest) := by
  rw [splitSelection]
  exact fun behind same => noPoint behind same

theorem drop_length_takeWhile (isKind : Char -> Bool) (text : List Char) :
    text.drop (text.takeWhile isKind).length = text.dropWhile isKind := by
  calc
    text.drop (text.takeWhile isKind).length =
        (text.takeWhile isKind ++ text.dropWhile isKind).drop (text.takeWhile isKind).length := by
      rw [List.takeWhile_append_dropWhile]
    _ = text.dropWhile isKind := List.drop_left

/-- Where a name may start, it is found if a word ends behind it. -/
theorem dotted?_start
    (outside : before.any Text.isWord = false)
    (starts : Text.isNameStart first = true)
    (rest : List Char) :
    dotted? before (first :: rest) =
      if endsWord (rest.dropWhile Text.isNameRest) then
        some
          (first :: rest.takeWhile Text.isNameRest ++
              (splitSelection (rest.dropWhile Text.isNameRest)).1,
            (splitSelection (rest.dropWhile Text.isNameRest)).2)
      else none := by
  rw [dotted?, starts, outside]
  simp only [Bool.not_false, Bool.and_self, if_true]
  generalize rest.dropWhile Text.isNameRest = after
  by_cases pointed : ∃ behind, after = '.' :: behind
  · obtain ⟨behind, rfl⟩ := pointed
    have ends : endsWord ('.' :: behind) = true := rfl
    rw [ends, splitSelection]
    simp only [List.drop_succ_cons, drop_length_takeWhile]
    split <;> simp
  · rw [splitSelection_of_no_point fun behind same => pointed ⟨behind, same⟩]
    split
    case h_1 behind => exact absurd ⟨behind, rfl⟩ pointed
    case h_2 => simp

/-- A word that is no name is passed over. -/
theorem scan_unnamed
    (words : ∀ character ∈ word, Text.isWord character = true)
    (unnamed : Swizzle.isName word = false)
    (ends : rest.head?.any Text.isWord = false) :
    scan before 0 (word ++ rest) = scan none 0 rest := by
  cases word with
  | nil => exact scan_boundary ends
  | cons first word =>
      obtain ⟨isWord, words⟩ := List.forall_mem_cons.mp words
      suffices none : dotted? before (first :: (word ++ rest)) = none by
        rw [List.cons_append, scan_of_dotted?_eq_none none]
        exact scan_inside isWord words ends
      by_cases noName : Text.isNameStart first = false ∨ before.any Text.isWord = true
      · exact dotted?_of_no_start noName
      · simp only [not_or, Bool.not_eq_false, Bool.not_eq_true] at noName
        obtain ⟨starts, outside⟩ := noName
        rw [Swizzle.isName, starts, Bool.true_and] at unnamed
        rw [dotted?_start outside starts, if_neg]
        have stops : (word.dropWhile Text.isNameRest).isEmpty = false := by
          rw [Bool.eq_false_iff, Ne, List.isEmpty_iff, List.dropWhile_eq_nil_iff,
            ← List.all_eq_true, unnamed]
          exact Bool.false_ne_true
        rw [List.dropWhile_append, stops, if_neg Bool.false_ne_true, endsWord_iff,
          List.head?_append]
        cases stop : word.dropWhile Text.isNameRest with
        | nil => rw [stop] at stops; cases stops
        | cons next behind =>
            have present : next ∈ word :=
              (List.dropWhile_suffix _).subset (by rw [stop]; exact List.mem_cons_self)
            simpa using words next present

/-- A name is found with the selection behind it. -/
theorem dotted?_of_isName
    (outside : before.any Text.isWord = false)
    (named : Swizzle.isName word = true)
    (ends : rest.head?.any Text.isWord = false) :
    dotted? before (word ++ rest) =
      some (word ++ (splitSelection rest).1, (splitSelection rest).2) := by
  cases word with
  | nil => cases named
  | cons first word =>
      have parts := isNameRest_of_mem named
      rw [Swizzle.isName, Bool.and_eq_true] at named
      obtain ⟨run, behind⟩ := run_append
        (fun character present => parts character (List.mem_cons_of_mem first present))
        (any_isNameRest_eq_false ends)
      rw [List.cons_append, dotted?_start outside named.1, run, behind,
        if_pos (endsWord_iff.mpr ends)]

/-- The characters of a name found before are passed over. -/
theorem scan_taken
    {last : Char}
    (ends : (first :: word).getLast? = some last)
    (rest : List Char) :
    scan (some first) word.length (word ++ rest) = scan (some last) 0 rest := by
  induction word generalizing first with
  | nil =>
      cases ends
      rfl
  | cons next word hypothesis =>
      rw [List.cons_append, List.length_cons, scan]
      exact hypothesis (by simpa using ends)

/-- A selection with its point, or nothing. -/
def IsSelection (selection : List Char) : Prop :=
  selection = [] ∨ ∃ letters, selection = '.' :: letters ∧ letters ≠ [] ∧
    ∀ letter ∈ letters, Text.isNameRest letter = true

/-- No reference stands in a selection. -/
theorem IsSelection.free
    {selection : List Char}
    (selects : IsSelection selection) : '$' ∉ selection := by
  rcases selects with rfl | ⟨letters, rfl, -, parts⟩
  · exact List.not_mem_nil
  · have free := free_of_isWord fun letter present => isWord_of_isNameRest (parts letter present)
    simpa using free

/-- A text is split into a selection and what follows it, and no word goes on between
the two. -/
theorem splitSelection_spec
    (ends : rest.head?.any Text.isWord = false) :
    (splitSelection rest).1 ++ (splitSelection rest).2 = rest ∧
      IsSelection (splitSelection rest).1 ∧
      (splitSelection rest).2.head?.any Text.isWord = false := by
  by_cases pointed : ∃ behind, rest = '.' :: behind
  · obtain ⟨behind, rfl⟩ := pointed
    rw [splitSelection]
    split
    case isTrue selected =>
      rw [Bool.and_eq_true, endsWord_iff, Bool.not_eq_true', Bool.eq_false_iff, Ne,
        List.isEmpty_iff] at selected
      have whole := List.takeWhile_append_dropWhile (p := Text.isNameRest) (l := behind)
      exact ⟨congrArg ('.' :: ·) whole, .inr ⟨_, rfl, selected.1,
        fun _ => List.all_eq_true.mp List.all_takeWhile _⟩, selected.2⟩
    case isFalse => exact ⟨rfl, .inl rfl, ends⟩
  · rw [splitSelection_of_no_point fun behind same => pointed ⟨behind, same⟩]
    exact ⟨rfl, .inl rfl, ends⟩

/-- A selection in front of a text that goes on with neither a word nor a point. -/
theorem splitSelection_append
    {selection : List Char}
    (selects : IsSelection selection)
    (ends : rest.head?.any Text.isWord = false)
    (noPoint : rest.head? ≠ some '.') : splitSelection (selection ++ rest) = (selection, rest) := by
  rcases selects with rfl | ⟨letters, rfl, some, parts⟩
  · refine splitSelection_of_no_point fun behind same => noPoint ?_
    rw [← List.nil_append rest, same]
    rfl
  · obtain ⟨run, behind⟩ := run_append parts (any_isNameRest_eq_false ends)
    have filled : letters.isEmpty = false := by
      rw [Bool.eq_false_iff, Ne, List.isEmpty_iff]
      exact some
    rw [List.cons_append, splitSelection]
    simp only [run, behind, filled, endsWord_iff.mpr ends, Bool.not_false, Bool.and_self, if_true]

/-- A name is found with the selection behind it, unless a parenthesis follows. -/
theorem scan_name
    (outside : before.any Text.isWord = false)
    (named : Swizzle.isName word = true)
    (ends : rest.head?.any Text.isWord = false) :
    scan before 0 (word ++ rest) =
      if isCalled (splitSelection rest).2 then scan none 0 (splitSelection rest).2
      else
        String.ofList (word ++ (splitSelection rest).1) :: scan none 0 (splitSelection rest).2 := by
  obtain ⟨whole, -, endsBehind⟩ := splitSelection_spec ends
  have found := dotted?_of_isName outside named ends
  generalize (splitSelection rest).1 = selection at whole found ⊢
  generalize (splitSelection rest).2 = behind at whole endsBehind found ⊢
  subst whole
  cases word with
  | nil => cases named
  | cons first word =>
      obtain ⟨last, endsName⟩ : ∃ last, (first :: (word ++ selection)).getLast? = some last :=
        ⟨_, List.getLast?_eq_some_getLast (by simp)⟩
      have passed : scan (some first) (word ++ selection).length (word ++ (selection ++ behind)) =
          scan none 0 behind := by
        rw [← List.append_assoc]
        exact (scan_taken endsName behind).trans (scan_boundary endsBehind)
      rw [List.cons_append] at found ⊢
      rw [scan, found]
      dsimp only
      rw [List.cons_append, List.length_cons, Nat.add_sub_cancel, passed]

/-! ## Texts without names -/

theorem head?_of_isCalled
    (called : isCalled rest = true) :
    ∃ next, rest.head? = some next ∧ (Text.isBlank next = true ∨ next = '(') := by
  cases rest with
  | nil => cases called
  | cons next behind =>
      refine ⟨next, rfl, ?_⟩
      cases blank : Text.isBlank next with
      | true => exact .inl rfl
      | false =>
          rw [isCalled, Text.trimStart, List.dropWhile_cons_of_neg (by simp [blank])] at called
          exact .inr (by simpa using called)

/-- A name that is called ends in front of its arguments. -/
theorem ends_of_isCalled
    (called : isCalled rest = true) :
    rest.head?.any Text.isWord = false ∧ rest.head? ≠ some '.' := by
  obtain ⟨next, leads, blank | rfl⟩ := head?_of_isCalled called
  · rw [leads]
    refine ⟨?_, ?_⟩
    · rw [Option.any_some, Bool.eq_false_iff]
      intro word
      rw [isBlank_of_isWord word] at blank
      cases blank
    · rintro ⟨⟩
      cases blank
  · rw [leads]
    exact ⟨by decide, by decide⟩

/-- A text in which every name is called, as it is seen from the start of a word. -/
inductive Quiet : List Char -> Prop
  | nil : Quiet []
  | other
      {first : Char}
      {rest : List Char}
      (noWord : Text.isWord first = false)
      (behind : Quiet rest) : Quiet (first :: rest)
  | word
      {word rest : List Char}
      (words : ∀ character ∈ word, Text.isWord character = true)
      (unnamed : Swizzle.isName word = false)
      (ends : rest.head?.any Text.isWord = false)
      (behind : Quiet rest) : Quiet (word ++ rest)
  | name
      {word selection rest : List Char}
      (named : Swizzle.isName word = true)
      (selects : IsSelection selection)
      (called : isCalled rest = true)
      (behind : Quiet rest) : Quiet (word ++ (selection ++ rest))

/-- Nothing is found in a text if it is quiet. -/
theorem Quiet.scan_eq_nil
    (quiet : Quiet text)
    {before : Option Char}
    (boundary : before.any Text.isWord = false ∨ text.head?.any Text.isWord = false) :
    scan before 0 text = [] := by
  induction quiet generalizing before with
  | nil => rfl
  | other noWord _ hypothesis =>
      rw [scan_other noWord]
      exact hypothesis (.inl rfl)
  | word words unnamed ends _ hypothesis =>
      rw [scan_unnamed words unnamed ends]
      exact hypothesis (.inl rfl)
  | @name word selection rest named selects called _ hypothesis =>
      obtain ⟨ends, noPoint⟩ := ends_of_isCalled called
      have split := splitSelection_append selects ends noPoint
      have endsWord : (selection ++ rest).head?.any Text.isWord = false := by
        rcases selects with rfl | ⟨letters, rfl, -, -⟩
        · exact ends
        · rfl
      have outside : before.any Text.isWord = false := by
        refine boundary.elim id fun boundary => ?_
        cases word with
        | nil => cases named
        | cons first word =>
            rw [List.cons_append, List.head?_cons, Option.any_some,
              isWord_of_mem named first List.mem_cons_self] at boundary
            cases boundary
      rw [scan_name outside named endsWord, split, if_pos called]
      exact hypothesis (.inl rfl)

/-- The word at the start of a text and the text behind it. -/
theorem exists_word (text : List Char) :
    ∃ word rest, text = word ++ rest ∧ (∀ character ∈ word, Text.isWord character = true) ∧
      rest.head?.any Text.isWord = false := by
  refine ⟨text.takeWhile Text.isWord, text.dropWhile Text.isWord,
    List.takeWhile_append_dropWhile.symm, fun _ => List.all_eq_true.mp List.all_takeWhile _, ?_⟩
  have stops := List.head?_dropWhile_not Text.isWord text
  cases leads : (text.dropWhile Text.isWord).head? with
  | none => rfl
  | some next =>
      rw [leads] at stops
      simpa using stops

/-- A text is quiet if nothing is found in it. -/
theorem Quiet.of_scan
    {before : Option Char}
    {text : List Char}
    (boundary : before.any Text.isWord = false ∨ text.head?.any Text.isWord = false)
    (nothing : scan before 0 text = []) : Quiet text := by
  obtain ⟨word, rest, same, words, ends⟩ := exists_word text
  have length : text.length = word.length + rest.length := by rw [same, List.length_append]
  rw [same] at boundary nothing ⊢
  cases word with
  | nil =>
      cases rest with
      | nil => exact .nil
      | cons first rest =>
          rw [List.nil_append, scan_other ends] at nothing
          have shorter : rest.length < text.length := by simp [length]
          exact .other ends (of_scan (.inl rfl) nothing)
  | cons first word =>
      have shorter : rest.length < text.length := by simp [length]
      cases named : Swizzle.isName (first :: word) with
      | false =>
          rw [scan_unnamed words named ends] at nothing
          exact .word words named ends (of_scan (.inl rfl) nothing)
      | true =>
          have outside : before.any Text.isWord = false := by
            refine boundary.elim id fun boundary => ?_
            rw [List.cons_append, List.head?_cons, Option.any_some,
              words first List.mem_cons_self] at boundary
            cases boundary
          obtain ⟨whole, selects, -⟩ := splitSelection_spec ends
          rw [scan_name outside named ends] at nothing
          have evenShorter : (splitSelection rest).2.length < text.length := by
            have parts := congrArg List.length whole
            rw [List.length_append] at parts
            omega
          split at nothing
          case isFalse => cases nothing
          case isTrue called =>
            have behind := of_scan (.inl rfl) nothing
            rw [← whole]
            exact .name named selects called behind
termination_by text.length

/-! ## Replaced references -/

/-- Texts that are replaced stay so behind a common start. -/
theorem keep_append
    {changed : List Char}
    (related : Replaces text changed)
    (before : List Char) : Replaces (before ++ text) (before ++ changed) := by
  induction before with
  | nil => exact related
  | cons first _ hypothesis => exact .keep first hypothesis

/-- A word in front of a text that does not start one makes no name out of it. -/
theorem Quiet.prepend
    (words : ∀ character ∈ word, Text.isWord character = true)
    (unnamed : Swizzle.isName word = false)
    (quiet : Quiet text) : Quiet (word ++ text) := by
  by_cases empty : word = []
  · rw [empty]
    exact quiet
  have longer (more : List Char) : Swizzle.isName (word ++ more) = false := by
    cases word with
    | nil => exact absurd rfl empty
    | cons first word =>
        rw [Swizzle.isName, Bool.and_eq_false_iff] at unnamed
        rw [List.cons_append, Swizzle.isName, List.all_append]
        rcases unnamed with noStart | other
        · rw [noStart, Bool.false_and]
        · rw [other, Bool.false_and, Bool.and_false]
  cases quiet with
  | nil => exact .word words unnamed rfl .nil
  | other noWord behind => exact .word words unnamed noWord (.other noWord behind)
  | @word next rest nextWords _ ends behind =>
      rw [← List.append_assoc]
      exact .word (List.forall_mem_append.mpr ⟨words, nextWords⟩) (longer next) ends behind
  | @name name selection rest named selects called behind =>
      have nameWords := isWord_of_mem named
      obtain ⟨ends, _⟩ := ends_of_isCalled called
      rw [← List.append_assoc]
      refine .word (List.forall_mem_append.mpr ⟨words, nameWords⟩) (longer name) ?_ ?_
      · rcases selects with rfl | ⟨letters, rfl, -, -⟩
        · exact ends
        · rfl
      · rcases selects with rfl | ⟨letters, rfl, -, parts⟩
        · exact behind
        · have lettersWords := fun letter present => isWord_of_isNameRest (parts letter present)
          refine .other (by decide) ?_
          cases letterNamed : Swizzle.isName letters with
          | false => exact .word lettersWords letterNamed ends behind
          | true => exact .name letterNamed (.inl rfl) called behind

/-- A word that starts with given word characters, from a text that does. -/
theorem exists_eq_append_of_word
    {name rest behind : List Char}
    (words : ∀ character ∈ name, Text.isWord character = true)
    (ends : rest.head?.any Text.isWord = false)
    (same : name ++ behind = word ++ rest) :
    ∃ more, word = name ++ more ∧ behind = more ++ rest := by
  rcases List.append_eq_append_iff.mp same with ⟨more, rfl, rfl⟩ | ⟨more, rfl, rfl⟩
  · exact ⟨more, rfl, rfl⟩
  · cases more with
    | nil => exact ⟨[], by simp, rfl⟩
    | cons next more =>
        have isWord := words next (by simp)
        rw [List.cons_append, List.head?_cons, Option.any_some, isWord] at ends
        cases ends

/-- The mark of a result makes no name of a word that is none, and of a name another
one. -/
theorem isName_insert_mark
    {name : List Char}
    (isNodeName : IsNodeName name)
    (more : List Char) :
    Swizzle.isName (name ++ (resultMark ++ more)) = Swizzle.isName (name ++ more) := by
  have mark : resultMark.all Text.isNameRest = true := by decide
  obtain ⟨tail, rfl⟩ := isNodeName.exists_cons
  simp only [List.cons_append, Swizzle.isName, List.all_cons, List.all_append, mark,
    Bool.true_and]

/-- What stands for a reference is as quiet as the name of the node is. -/
theorem Quiet.insert_mark
    {name behind : List Char}
    (isNodeName : IsNodeName name)
    (quiet : Quiet (name ++ behind)) : Quiet (name ++ (resultMark ++ behind)) := by
  have marked (more : List Char) (words : ∀ character ∈ name ++ more,
      Text.isWord character = true) :
      ∀ character ∈ name ++ (resultMark ++ more), Text.isWord character = true := by
    simp only [List.forall_mem_append] at words ⊢
    exact ⟨words.1, isWord_of_mem_resultMark, words.2⟩
  generalize whole : name ++ behind = text at quiet
  cases quiet with
  | nil =>
      obtain ⟨more, rfl⟩ := isNodeName.exists_cons
      cases whole
  | other noWord =>
      obtain ⟨more, rfl⟩ := isNodeName.exists_cons
      cases whole
      cases noWord
  | @word word rest words unnamed ends quiet =>
      obtain ⟨more, rfl, rfl⟩ := exists_eq_append_of_word isNodeName.words ends whole
      have quietWord := Quiet.word (marked more words)
        ((isName_insert_mark isNodeName more).trans unnamed) ends quiet
      simpa using quietWord
  | @name word selection rest named selects called quiet =>
      have ends : (selection ++ rest).head?.any Text.isWord = false := by
        rcases selects with rfl | ⟨letters, rfl, -, -⟩
        · exact (ends_of_isCalled called).1
        · rfl
      obtain ⟨more, rfl, rfl⟩ := exists_eq_append_of_word isNodeName.words ends whole
      have quietName := Quiet.name ((isName_insert_mark isNodeName more).trans named) selects
        called quiet
      simpa using quietName

/-- A parenthesis behind blanks is found behind them before and after references are
replaced. -/
theorem isCalled_replaces
    {changed : List Char}
    (related : Replaces text changed)
    (called : isCalled text = true) : isCalled changed = true := by
  have stops : Text.isBlank 's' = false := by decide
  obtain ⟨-, rests⟩ := related.dropWhile_of_excludes (by decide) (.inr stops)
  rw [isCalled, Text.trimStart] at called ⊢
  generalize text.dropWhile Text.isBlank = rest at rests called
  generalize changed.dropWhile Text.isBlank = changedRest at rests ⊢
  cases rests with
  | nil => exact called
  | keep => exact called
  | refer => cases called

/-- A quiet text stays quiet when its references are replaced. -/
theorem Quiet.replaces
    {changed : List Char}
    (quiet : Quiet text)
    (related : Replaces text changed) : Quiet changed := by
  induction quiet generalizing changed with
  | nil =>
      cases related
      exact .nil
  | other noWord behind hypothesis =>
      cases related with
      | keep first related => exact .other noWord (hypothesis related)
      | @refer name text changed isNodeName ends related =>
          exact (hypothesis (keep_append related name)).insert_mark isNodeName
  | word words unnamed ends _ hypothesis =>
      obtain ⟨changedRest, rfl, relatedRest⟩ := related.of_append (free_of_isWord words)
      exact (hypothesis relatedRest).prepend words unnamed
  | name named selects called _ hypothesis =>
      obtain ⟨changedBehind, rfl, relatedBehind⟩ :=
        related.of_append (free_of_isWord (isWord_of_mem named))
      obtain ⟨changedRest, rfl, relatedRest⟩ := relatedBehind.of_append selects.free
      exact .name named selects (isCalled_replaces relatedRest called) (hypothesis relatedRest)

/-- No name is found in a text with replaced references if none is found before. -/
theorem scan_replaces
    {changed : List Char}
    (related : Replaces text changed)
    (nothing : scan none 0 text = []) : scan none 0 changed = [] :=
  ((Quiet.of_scan (.inl rfl) nothing).replaces related).scan_eq_nil (.inl rfl)

end Argument
end ShaderGraph
