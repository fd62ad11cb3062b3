import Mathlib.Data.List.TakeWhile
import ShaderGraph.Shader.Include

/-!
# Include lines of embedded texts

A text may hold another one in lines of its own. An include directive that stands alone
on a line of the inner text is then a directive of the outer text as well: what stands
before it may reach into the line break in front of it, but never into the line. So a
directive of an embedded source is replaced like every other directive of the shader,
from the one directory that the shader is resolved against.
-/

namespace ShaderGraph

/-! ## Lines -/

/-- What stands before a line ends with a line break, if there is anything. -/
def EndsLine (before : List Char) : Prop :=
  before = [] ∨ before.getLast? = some '\n'

/-- What stands behind a line starts with a line break, if there is anything. -/
def StartsLine (after : List Char) : Prop :=
  after = [] ∨ after.head? = some '\n'

/-- A text holds another one in lines of its own. -/
def HoldsLines (text part : List Char) : Prop :=
  ∃ before after, text = before ++ (part ++ after) ∧ EndsLine before ∧ StartsLine after

/-- Texts one after the other end a line if both do. -/
theorem EndsLine.append
    {before inner : List Char}
    (ends : EndsLine before)
    (innerEnds : EndsLine inner) : EndsLine (before ++ inner) := by
  rcases innerEnds with rfl | last
  · rwa [List.append_nil]
  · exact .inr (by rw [List.getLast?_append, last]; rfl)

theorem EndsLine.tail
    {first : Char}
    {rest : List Char}
    (ends : EndsLine (first :: rest)) :
    EndsLine rest ∧ (rest = [] -> first = '\n') := by
  have last := ends.resolve_left (by simp)
  cases rest with
  | nil => exact ⟨.inl rfl, fun _ => Option.some.inj last⟩
  | cons next others => exact ⟨.inr (by rwa [List.getLast?_cons_cons] at last), by simp⟩

/-- Texts one after the other start a line if both do. -/
theorem StartsLine.append
    {inner after : List Char}
    (innerStarts : StartsLine inner)
    (starts : StartsLine after) : StartsLine (inner ++ after) := by
  rcases innerStarts with rfl | first
  · exact starts
  · exact .inr (by rw [List.head?_append, first]; rfl)

/-- Lines that are held are held by what holds the holder. -/
theorem HoldsLines.trans
    {text part inner : List Char}
    (holds : HoldsLines text part)
    (holdsInner : HoldsLines part inner) : HoldsLines text inner := by
  obtain ⟨before, after, rfl, ends, starts⟩ := holds
  obtain ⟨innerBefore, innerAfter, rfl, innerEnds, innerStarts⟩ := holdsInner
  exact ⟨before ++ innerBefore, innerAfter ++ after, by simp, ends.append innerEnds,
    innerStarts.append starts⟩

namespace Directive

/-- A line is an include directive for a target. -/
structure IsLine (line target : List Char) : Prop where
  written : ∃ lead gap trail,
    line = lead ++ (word ++ (gap ++ '"' :: (target ++ '"' :: trail))) ∧
    lead.all Text.isBlank = true ∧ gap ≠ [] ∧ gap.all Text.isBlank = true ∧
    trail.all Text.isBlank = true
  named : target ≠ []
  plain : '"' ∉ target
  single : '\n' ∉ line

/-! ## Reading a directive -/

theorem behind?_append (expected text : List Char) :
    behind? expected (expected ++ text) = some text := by
  induction expected with
  | nil => rfl
  | cons first rest inductionHypothesis =>
      rw [List.cons_append, behind?, if_pos (beq_self_eq_true first), inductionHypothesis]

/-- A word without line breaks ends before the last line break of a text. -/
theorem behind?_before
    {expected text after left : List Char}
    (noBreak : '\n' ∉ expected)
    (last : text.getLast? = some '\n')
    (found : behind? expected (text ++ after) = some left) :
    ∃ kept, left = kept ++ after ∧ kept.getLast? = some '\n' := by
  induction expected generalizing text with
  | nil =>
      cases found
      exact ⟨text, rfl, last⟩
  | cons first rest inductionHypothesis =>
      cases text with
      | nil => cases last
      | cons character others =>
          obtain ⟨other, restNoBreak⟩ := not_or.mp (List.mem_cons.not.mp noBreak)
          rw [List.cons_append, behind?] at found
          split at found
          case isTrue same =>
            refine inductionHypothesis restNoBreak ?_ found
            cases others with
            | nil =>
                rw [beq_iff_eq] at same
                cases last
                exact absurd same other
            | cons next more => rwa [List.getLast?_cons_cons] at last
          case isFalse => cases found

/-- Blanks end a line in front of a line break. -/
theorem lineEnd?_isSome
    {trail after : List Char}
    (blank : trail.all Text.isBlank = true)
    (starts : StartsLine after) : ∃ left, lineEnd? (trail ++ after) = some left := by
  rw [lineEnd?]
  split
  · exact ⟨[], rfl⟩
  case isFalse solid =>
    rcases starts with rfl | first
    · rw [List.append_nil] at solid
      exact absurd blank solid
    · obtain ⟨rest, rfl⟩ := List.head?_eq_some_iff.mp first
      have gap : ((trail ++ '\n' :: rest).takeWhile Text.isBlank).contains '\n' = true := by
        rw [List.takeWhile_append_of_pos (List.all_eq_true.mp blank),
          List.takeWhile_cons_of_pos (by decide)]
        simp
      exact ⟨_, if_pos gap⟩

/-- Nothing ends a line between a line and a quotation mark. -/
theorem lineEnd?_quoted
    {text : List Char}
    (single : '\n' ∉ text)
    (more : List Char) : lineEnd? (text ++ '"' :: more) = none := by
  have solid : (text ++ '"' :: more).all Text.isBlank = false := by
    rw [List.all_append, List.all_cons, show Text.isBlank '"' = false by decide]
    simp
  have gap : ((text ++ '"' :: more).takeWhile Text.isBlank).contains '\n' = false := by
    refine Bool.eq_false_iff.mpr fun contained => single ?_
    have present := List.contains_iff_mem.mp contained
    rw [List.takeWhile_append] at present
    split at present
    · rw [List.takeWhile_cons_of_neg (by decide), List.append_nil] at present
      exact present
    · exact (List.takeWhile_prefix _).subset present
  rw [lineEnd?, if_neg (by simp [solid])]
  exact if_neg (Bool.eq_false_iff.mp gap)

/-- The blanks at the start of a text reach at most to the end of a blank line in front
of a solid character. -/
theorem takeWhile_isBlank_before
    {lead : List Char}
    {first : Char}
    (text after : List Char)
    (blank : lead.all Text.isBlank = true)
    (solid : Text.isBlank first = false) :
    (text.all Text.isBlank = true ∧
        (text ++ (lead ++ first :: after)).takeWhile Text.isBlank = text ++ lead) ∨
      ((text ++ (lead ++ first :: after)).takeWhile Text.isBlank).length < text.length := by
  have gap : (lead ++ first :: after).takeWhile Text.isBlank = lead := by
    rw [List.takeWhile_append_of_pos (List.all_eq_true.mp blank),
      List.takeWhile_cons_of_neg (by simp [solid]), List.append_nil]
  rw [List.takeWhile_append, gap]
  split
  case isTrue all =>
    have whole := (List.takeWhile_prefix Text.isBlank).eq_of_length all
    exact .inl ⟨whole ▸ List.all_takeWhile, rfl⟩
  case isFalse shorter =>
    exact .inr (Nat.lt_of_le_of_ne (List.takeWhile_prefix Text.isBlank).length_le shorter)

/-- The end of a directive leaves the line break before a line. -/
theorem lineEnd?_before
    {text lead after left : List Char}
    {first : Char}
    (last : text.getLast? = some '\n')
    (blank : lead.all Text.isBlank = true)
    (single : '\n' ∉ lead)
    (solid : Text.isBlank first = false)
    (found : lineEnd? (text ++ (lead ++ first :: after)) = some left) :
    ∃ kept, kept ≠ [] ∧ left = kept ++ (lead ++ first :: after) := by
  have notAll : (text ++ (lead ++ first :: after)).all Text.isBlank = false := by
    simp [solid]
  rw [lineEnd?, if_neg (by simp [notAll])] at found
  dsimp only at found
  split at found
  · cases found
    -- However far the blanks reach, the line break before the line is not dropped.
    have short : ((text ++ (lead ++ first :: after)).takeWhile Text.isBlank).length -
        (((text ++ (lead ++ first :: after)).takeWhile Text.isBlank).reverse.takeWhile
          (· != '\n')).length - 1 < text.length := by
      rcases takeWhile_isBlank_before text after blank solid with ⟨_, whole⟩ | shorter
      · obtain ⟨start, rfl⟩ := List.getLast?_eq_some_iff.mp last
        have line : ∀ character ∈ lead.reverse, (character != '\n') = true := by
          intro character listed
          rw [bne_iff_ne]
          rintro rfl
          exact single (List.mem_reverse.mp listed)
        rw [whole, List.reverse_append, List.takeWhile_append_of_pos line,
          List.reverse_concat, List.takeWhile_cons_of_neg (by simp)]
        simp only [List.length_append, List.length_reverse, List.length_singleton, List.length_nil]
        omega
      · omega
    refine ⟨text.drop _, ?_, List.drop_append_of_le_length (Nat.le_of_lt short)⟩
    rw [ne_eq, List.drop_eq_nil_iff]
    exact Nat.not_le.mpr short
  · cases found

theorem getLast?_dropWhile
    {text : List Char}
    {skips : Char -> Bool}
    (last : text.getLast? = some '\n')
    (stops : text.dropWhile skips ≠ []) : (text.dropWhile skips).getLast? = some '\n' := by
  obtain ⟨before, split⟩ := List.dropWhile_suffix (l := text) skips
  rw [← split, List.getLast?_append, List.getLast?_eq_some_getLast stops] at last
  rwa [List.getLast?_eq_some_getLast stops]

/-- What is skipped of a text that is not skipped as a whole. -/
theorem dropWhile_append_of_solid
    {text : List Char}
    {skips : Char -> Bool}
    (solid : text.all skips = false)
    (after : List Char) :
    (text ++ after).dropWhile skips = text.dropWhile skips ++ after ∧
      text.dropWhile skips ≠ [] := by
  have some : text.dropWhile skips ≠ [] := fun none =>
    Bool.eq_false_iff.mp solid (List.all_eq_true.mpr (List.dropWhile_eq_nil_iff.mp none))
  rw [List.dropWhile_append, if_neg (by simpa using some)]
  exact ⟨rfl, some⟩

/-- A directive is read at the start of its line, also behind blank lines. -/
theorem read?_of_isLine
    {blanks line target after : List Char}
    (isLine : IsLine line target)
    (blank : blanks.all Text.isBlank = true)
    (starts : StartsLine after) :
    ∃ left, read? (blanks ++ (line ++ after)) = some (target, left) := by
  obtain ⟨lead, gap, trail, rfl, leadBlank, gapSome, gapBlank, trailBlank⟩ := isLine.written
  obtain ⟨left, ended⟩ := lineEnd?_isSome trailBlank starts
  have skipped : (blanks ++ (lead ++ (word ++ (gap ++ '"' :: (target ++ '"' :: trail))) ++
      after)).dropWhile Text.isBlank =
      word ++ (gap ++ '"' :: (target ++ '"' :: (trail ++ after))) := by
    rw [List.dropWhile_append_of_pos (List.all_eq_true.mp blank), List.append_assoc,
      List.dropWhile_append_of_pos (List.all_eq_true.mp leadBlank)]
    simp [word, show Text.isBlank '#' = false by decide]
  have taken :
      (gap ++ '"' :: (target ++ '"' :: (trail ++ after))).takeWhile Text.isBlank = gap := by
    rw [List.takeWhile_append_of_pos (List.all_eq_true.mp gapBlank),
      List.takeWhile_cons_of_neg (by decide), List.append_nil]
  have quoted : (gap ++ '"' :: (target ++ '"' :: (trail ++ after))).dropWhile Text.isBlank =
      '"' :: (target ++ '"' :: (trail ++ after)) := by
    rw [List.dropWhile_append_of_pos (List.all_eq_true.mp gapBlank),
      List.dropWhile_cons_of_neg (by decide)]
  have plain : ∀ character ∈ target, (character != '"') = true := by
    intro character listed
    rw [bne_iff_ne]
    rintro rfl
    exact isLine.plain listed
  have named : (target ++ '"' :: (trail ++ after)).takeWhile (· != '"') = target := by
    rw [List.takeWhile_append_of_pos plain, List.takeWhile_cons_of_neg (by decide),
      List.append_nil]
  have rest : (target ++ '"' :: (trail ++ after)).dropWhile (· != '"') =
      '"' :: (trail ++ after) := by
    rw [List.dropWhile_append_of_pos plain, List.dropWhile_cons_of_neg (by decide)]
  obtain ⟨blankFirst, blankRest, rfl⟩ := List.exists_cons_of_ne_nil gapSome
  obtain ⟨nameFirst, nameRest, rfl⟩ := List.exists_cons_of_ne_nil isLine.named
  refine ⟨left, ?_⟩
  rw [read?, skipped, behind?_append]
  simp only [Option.bind_eq_bind, Option.bind_some, taken, quoted, named, rest, ended,
    Option.map_some]

/-- The first character of a line of a directive that is not blank. -/
theorem IsLine.solid
    {line target : List Char}
    (isLine : IsLine line target)
    (after : List Char) :
    ∃ lead rest, line ++ after = lead ++ '#' :: rest ∧ lead.all Text.isBlank = true ∧
      '\n' ∉ lead := by
  obtain ⟨lead, gap, trail, rfl, blank, _⟩ := isLine.written
  refine ⟨lead, _, List.append_assoc _ _ _, blank, fun listed => isLine.single ?_⟩
  exact List.mem_append_left _ listed

/-- A quotation mark that is open before the line of a directive is closed before it, or
what stands behind its target is no end of a line. -/
theorem closed_before_line
    {text line target after left : List Char}
    (isLine : IsLine line target)
    (last : text.getLast? = some '\n')
    (closes : (text ++ (line ++ after)).dropWhile (· != '"') = '"' :: left)
    {ended : List Char}
    (ends : lineEnd? left = some ended) :
    ∃ rest, left = rest ++ (line ++ after) ∧ rest.getLast? = some '\n' := by
  cases open? : text.all (· != '"') with
  | false =>
      obtain ⟨split, some⟩ := dropWhile_append_of_solid open? (line ++ after)
      have stillLast := getLast?_dropWhile last some
      rw [split] at closes
      obtain ⟨first, rest, shape⟩ := List.exists_cons_of_ne_nil some
      rw [shape] at closes stillLast
      cases closes
      refine ⟨rest, rfl, ?_⟩
      cases rest with
      | nil => cases stillLast
      | cons next others => rwa [List.getLast?_cons_cons] at stillLast
  | true =>
      -- The target ends at the quotation mark before the one of the line.
      obtain ⟨lead, gap, trail, rfl, leadBlank, _, gapBlank, _⟩ := isLine.written
      have unquoted (blanks : List Char) (blank : blanks.all Text.isBlank = true) :
          ∀ character ∈ blanks, (character != '"') = true := by
        intro character listed
        rw [bne_iff_ne]
        rintro rfl
        exact absurd (List.all_eq_true.mp blank _ listed) (by decide)
      rw [List.dropWhile_append_of_pos (List.all_eq_true.mp open?), List.append_assoc,
        List.dropWhile_append_of_pos (unquoted lead leadBlank), List.append_assoc,
        List.dropWhile_append_of_pos (List.all_eq_true.mp (by decide)), List.append_assoc,
        List.dropWhile_append_of_pos (unquoted gap gapBlank)] at closes
      cases closes
      have single : '\n' ∉ target := fun listed => isLine.single (by simp [listed])
      change lineEnd? (target ++ '"' :: trail ++ after) = _ at ends
      rw [List.append_assoc, List.cons_append, lineEnd?_quoted single] at ends
      cases ends

/-- What is read before the line of a directive leaves this line, with what stands
between. -/
theorem read?_before_line
    {text line target after : List Char}
    {found : List Char × List Char}
    (isLine : IsLine line target)
    (last : text.getLast? = some '\n')
    (solid : text.all Text.isBlank = false)
    (read : read? (text ++ (line ++ after)) = some found) :
    ∃ kept, kept ≠ [] ∧ found.2 = kept ++ (line ++ after) := by
  obtain ⟨lead, rest, shape, leadBlank, single⟩ := isLine.solid after
  obtain ⟨split, some⟩ := dropWhile_append_of_solid solid (line ++ after)
  rw [read?, split] at read
  obtain ⟨afterWord, behind, quoted⟩ := Option.bind_eq_some_iff.mp read
  obtain ⟨kept, rfl, keptLast⟩ := behind?_before (by decide) (getLast?_dropWhile last some) behind
  split at quoted
  case h_2 => cases quoted
  case h_1 opens =>
    cases blank : kept.all Text.isBlank with
    | true =>
        -- The word is the last of its line, and the next line does not start with a quote.
        rw [shape, List.dropWhile_append_of_pos (List.all_eq_true.mp blank),
          List.dropWhile_append_of_pos (List.all_eq_true.mp leadBlank),
          List.dropWhile_cons_of_neg (by decide)] at opens
        cases opens
    | false =>
        obtain ⟨keptSplit, keptSome⟩ := dropWhile_append_of_solid blank (line ++ after)
        have quotedLast := getLast?_dropWhile keptLast keptSome
        rw [keptSplit] at opens
        obtain ⟨first, others, opened⟩ := List.exists_cons_of_ne_nil keptSome
        rw [opened] at opens quotedLast
        cases opens
        have othersLast : others.getLast? = .some '\n' := by
          cases others with
          | nil => cases quotedLast
          | cons next more => rwa [List.getLast?_cons_cons] at quotedLast
        dsimp only at quoted
        split at quoted
        case h_2 => cases quoted
        case h_1 closes =>
          obtain ⟨left, ended, rfl⟩ := Option.map_eq_some_iff.mp quoted
          obtain ⟨behindQuote, rfl, behindLast⟩ :=
            closed_before_line isLine othersLast closes ended
          rw [shape] at ended ⊢
          exact lineEnd?_before behindLast leadBlank single (by decide) ended

/-! ## The parts of a text -/

/-- Among the parts of a text is every directive that stands on a line of it: no
directive before it reaches into its line. -/
theorem mem_pieces
    {text line target after : List Char}
    {lineStarts : Bool}
    {taken : Nat}
    (isLine : IsLine line target)
    (starts : StartsLine after)
    (ends : EndsLine text)
    (fresh : text = [] -> lineStarts = true)
    (short : taken = 0 ∨ taken < text.length) :
    Piece.directive (String.ofList target) ∈ pieces lineStarts taken (text ++ (line ++ after)) := by
  have isRead {text left : List Char}
      (read : read? text = some (target, left)) :
      Piece.directive (String.ofList target) ∈ pieces true 0 text := by
    cases text with
    | nil => cases read
    | cons first rest =>
        rw [pieces, if_pos rfl, read]
        exact List.mem_cons_self
  induction text generalizing lineStarts taken with
  | nil =>
      obtain rfl := fresh rfl
      obtain rfl : taken = 0 := short.resolve_right (Nat.not_lt_zero _)
      obtain ⟨left, read⟩ :=
        read?_of_isLine isLine (List.all_nil : [].all Text.isBlank = true) starts
      exact isRead read
  | cons first rest inductionHypothesis =>
      obtain ⟨restEnds, single⟩ := ends.tail
      have nextFresh : rest = [] -> (first == '\n') = true := fun none =>
        beq_iff_eq.mpr (single none)
      cases taken with
      | succ taken =>
          refine inductionHypothesis restEnds nextFresh (.inr ?_)
          exact Nat.lt_of_succ_lt_succ (short.resolve_left (Nat.succ_ne_zero taken))
      | zero =>
          rw [List.cons_append, pieces]
          split
          case h_1 =>
            exact List.mem_cons_of_mem _ (inductionHypothesis restEnds nextFresh (.inl rfl))
          case h_2 found left read =>
            split at read
            case isFalse => cases read
            cases blank : (first :: rest).all Text.isBlank with
            | true =>
                obtain ⟨_, own⟩ := read?_of_isLine isLine blank starts
                cases read.symm.trans own
                exact List.mem_cons_self
            | false =>
                have last := ends.resolve_left (by simp)
                obtain ⟨kept, some, rfl⟩ := read?_before_line isLine last blank read
                refine List.mem_cons_of_mem _ (inductionHypothesis restEnds nextFresh ?_)
                have keptSome := List.length_pos_iff.mpr some
                simp only [List.length_append]
                omega

/-- A text that holds a line of a directive has this directive among its parts. -/
theorem mem_split
    {text line target : List Char}
    (holds : HoldsLines text line)
    (isLine : IsLine line target) : Piece.directive (String.ofList target) ∈ split text := by
  obtain ⟨before, after, rfl, ends, starts⟩ := holds
  exact mem_pieces isLine starts ends (fun _ => rfl) (.inl rfl)

end Directive
/-! ## Resolution -/

namespace Include

variable {files : FileTree}

/-- Two computations succeed if the second one does behind the first. -/
theorem run_bind_eq_ok_iff
    {computation : Inclusion First}
    {next : First -> Inclusion Second}
    {seen : List String}
    {result : Second × List String} :
    (computation >>= next).run seen = .ok result ↔
      ∃ value between, computation.run seen = .ok (value, between) ∧
        (next value).run between = .ok result := by
  rw [StateT.run_bind]
  cases computation.run seen with
  | error error => simp [bind, Except.bind]
  | ok outcome =>
      constructor
      · exact fun success => ⟨outcome.1, outcome.2, rfl, success⟩
      · rintro ⟨_, _, ⟨⟩, success⟩
        exact success

/-- Every path stands for a file that can be read. -/
def AllReadable (files : FileTree) (paths : List String) : Prop :=
  ∀ path ∈ paths, ∃ text, files.read path = .ok text

/-- Where a computation succeeds, all that it included can be read. -/
def KeepsReadable (files : FileTree) (computation : Inclusion Value) : Prop :=
  ∀ seen value changed, computation.run seen = .ok (value, changed) ->
    AllReadable files seen -> AllReadable files changed

/-- What a directive is replaced by: nothing if its file was included before, and
otherwise the text of its file, whose own directives leave from the directory of the
file, down to the given depth. -/
inductive Replaced
    (files : FileTree)
    (depth : Nat)
    (directory target : String)
    (seen : List String) : List Char -> List String -> Prop
  | again (known : pathOf directory target ∈ seen) :
      Replaced files depth directory target seen [] seen
  | first {text : String} {part : List Char} {changed : List String}
      (read : files.read (pathOf directory target) = .ok text)
      (expanded : (expand files depth (Path.directory (pathOf directory target)) text.toList).run
        (pathOf directory target :: seen) = .ok (part, changed)) :
      Replaced files depth directory target seen part changed

/-- A directive that is expanded is replaced. -/
theorem replaced_of_expandPiece
    {depth : Nat}
    {directory target : String}
    {seen changed : List String}
    {part : List Char}
    (success : (expandPiece files (expand files depth) directory (.directive target)).run seen =
      .ok (part, changed)) : Replaced files depth directory target seen part changed := by
  obtain ⟨_, _, known, continued⟩ := run_bind_eq_ok_iff.mp success
  cases known
  split at continued
  case isTrue contained =>
    cases continued
    exact .again (List.contains_iff_mem.mp contained)
  case isFalse =>
    obtain ⟨_, _, added, opened⟩ := run_bind_eq_ok_iff.mp continued
    cases added
    split at opened
    case h_1 => cases opened
    case h_2 text read => exact .first read opened

/-- A part includes only files that can be read, if expanded texts do. -/
theorem keepsReadable_expandPiece
    {depth : Nat}
    (keeps : ∀ directory text, KeepsReadable files (expand files depth directory text))
    (directory : String)
    (piece : Directive.Piece) :
    KeepsReadable files (expandPiece files (expand files depth) directory piece) := by
  intro seen part changed success readable
  cases piece with
  | character value =>
      cases success
      exact readable
  | directive target =>
      cases replaced_of_expandPiece success with
      | again => exact readable
      | first read expanded =>
          refine keeps _ _ _ _ _ expanded fun path listed => ?_
          rcases List.mem_cons.mp listed with rfl | before
          · exact ⟨_, read⟩
          · exact readable path before

/-- A list of parts includes only files that can be read, if each of them does. -/
theorem keepsReadable_mapM
    {step : Item -> Inclusion Value}
    (keeps : ∀ item, KeepsReadable files (step item))
    (items : List Item) : KeepsReadable files (items.mapM step) := by
  induction items with
  | nil =>
      rintro seen _ _ ⟨⟩
      exact id
  | cons item rest inductionHypothesis =>
      intro seen values changed success readable
      rw [List.mapM_cons] at success
      obtain ⟨value, between, stepped, continued⟩ := run_bind_eq_ok_iff.mp success
      obtain ⟨others, _, mapped, last⟩ := run_bind_eq_ok_iff.mp continued
      cases last
      exact inductionHypothesis _ _ _ mapped (keeps item _ _ _ stepped readable)

/-- By induction on the depth: a text includes only files that can be read. -/
theorem keepsReadable_expand (depth : Nat) (directory : String) (text : List Char) :
    KeepsReadable files (expand files depth directory text) := by
  induction depth generalizing directory text with
  | zero => exact fun _ _ _ failed => (nomatch failed)
  | succ depth inductionHypothesis =>
      rw [expand]
      split
      · rintro seen _ _ ⟨⟩
        exact id
      · intro seen value changed success readable
        obtain ⟨parts, _, mapped, last⟩ := run_bind_eq_ok_iff.mp success
        cases last
        exact keepsReadable_mapM (keepsReadable_expandPiece inductionHypothesis directory) _ _ _ _
          mapped readable

/-- Without a directory nothing is included. -/
theorem resolve_of_isEmpty
    {directory : String}
    (none : directory.isEmpty = true)
    (source : String)
    (limit : Nat) : resolve files directory source limit = .ok source := by
  rw [resolve, expand, if_pos none]
  exact congrArg Except.ok String.ofList_toList

/-- In a resolved source every directive is replaced by what its target leads to from
the directory of the whole source. -/
theorem replaced_of_resolve
    {directory source text target : String}
    {limit : Nat}
    (some : directory.isEmpty = false)
    (listed : Directive.Piece.directive target ∈ Directive.split source.toList)
    (resolved : resolve files directory source limit = .ok text) :
    ∃ front part back seen changed, text.toList = front ++ (part ++ back) ∧
      AllReadable files seen ∧ Replaced files limit directory target seen part changed := by
  rw [resolve, expand, if_neg (by simp [some])] at resolved
  split at resolved
  case h_1 => cases resolved
  case h_2 whole seen success =>
    cases resolved
    obtain ⟨parts, _, mapped, last⟩ := run_bind_eq_ok_iff.mp success
    cases last
    obtain ⟨before, after, split⟩ := List.append_of_mem listed
    rw [split, List.mapM_append] at mapped
    obtain ⟨front, between, frontMapped, continued⟩ := run_bind_eq_ok_iff.mp mapped
    obtain ⟨back, _, backMapped, last⟩ := run_bind_eq_ok_iff.mp continued
    cases last
    rw [List.mapM_cons] at backMapped
    obtain ⟨part, changed, replaced, others⟩ := run_bind_eq_ok_iff.mp backMapped
    obtain ⟨rest, _, _, last⟩ := run_bind_eq_ok_iff.mp others
    cases last
    refine ⟨front.flatten, part, rest.flatten, between, changed, ?_, ?_,
      replaced_of_expandPiece replaced⟩
    · simp
    · refine keepsReadable_mapM (keepsReadable_expandPiece (keepsReadable_expand _) directory)
        _ _ _ _ frontMapped ?_
      simp [AllReadable]

/-- What a directive leads to can be read where the directive was replaced. -/
theorem Replaced.readable
    {depth : Nat}
    {directory target : String}
    {seen changed : List String}
    {part : List Char}
    (replaced : Replaced files depth directory target seen part changed)
    (readable : AllReadable files seen) :
    ∃ text, files.read (pathOf directory target) = .ok text := by
  cases replaced with
  | again known => exact readable _ known
  | first read => exact ⟨_, read⟩

end Include
end ShaderGraph
