import ShaderGraph.Proofs.Shader.Resolution
import ShaderGraph.Text.Lines

/-!
# Directives that a resolution leaves

A resolved text is made of lines of the source and of texts of files. A line of the source
that is kept is no directive, and texts that end with a line break keep their lines apart. So
the only directives that are left are those of files whose paths have no directory. Their
texts are inserted as they are, since without a directory nothing is included.
-/

namespace ShaderGraph

variable {text rest left line : List Char}

/-! ## Lines of a text -/

namespace Text

theorem lines_ne_nil (text : List Char) : lines text ≠ [] := by
  cases text with
  | nil => exact List.cons_ne_nil _ _
  | cons first rest =>
      rw [lines]
      split
      · exact List.cons_ne_nil _ _
      · split <;> exact List.cons_ne_nil _ _

/-- A character that breaks no line belongs to the first one. -/
theorem lines_cons
    {first : Char}
    {others : List (List Char)}
    (noBreak : first ≠ '\n')
    (behind : lines rest = line :: others) : lines (first :: rest) = (first :: line) :: others := by
  rw [lines, beq_false_of_ne noBreak, behind]
  rfl

/-- The lines on both sides of a line break are those of the texts there. -/
theorem lines_append (text rest : List Char) :
    lines (text ++ '\n' :: rest) = lines text ++ lines rest := by
  induction text with
  | nil => rfl
  | cons first text inductionHypothesis =>
      by_cases breaks : first = '\n'
      · subst breaks
        exact congrArg ([] :: ·) inductionHypothesis
      · obtain ⟨head, others, behind⟩ := List.exists_cons_of_ne_nil (lines_ne_nil text)
        rw [behind] at inductionHypothesis
        rw [List.cons_append, lines_cons breaks inductionHypothesis, lines_cons breaks behind]
        rfl

/-- A text without line breaks is one line. -/
theorem lines_of_not_mem (single : '\n' ∉ line) : lines line = [line] := by
  induction line with
  | nil => rfl
  | cons first line inductionHypothesis =>
      obtain ⟨other, behind⟩ := not_or.mp (List.mem_cons.not.mp single)
      exact lines_cons (Ne.symm other) (inductionHypothesis behind)

end Text

/-- The end of a text that ends a line ends it as well. -/
theorem EndsLine.of_append
    {before : List Char}
    (ends : EndsLine (before ++ text)) : EndsLine text := by
  by_cases filled : text = []
  · exact .inl filled
  · have last := ends.resolve_left (by simp [filled])
    rw [List.getLast?_append, List.getLast?_eq_some_getLast filled] at last
    exact .inr ((List.getLast?_eq_some_getLast filled).trans last)

namespace Directive

/-! ## Texts with directives -/

/-- A line of a text is a directive. -/
def HasDirective (text : List Char) : Prop :=
  ∃ line ∈ Text.lines text, ∃ target, IsLine line target

/-- A stretch of a line that is the whole line of no directive. -/
structure IsPlain (line : List Char) : Prop where
  single : '\n' ∉ line
  noDirective : ∀ target, ¬IsLine line target

theorem isPlain_nil : IsPlain [] where
  single := List.not_mem_nil
  noDirective target isLine := by
    obtain ⟨lead, gap, trail, written, -⟩ := isLine.written
    simp [word] at written

theorem not_hasDirective_of_isPlain (plain : IsPlain line) : ¬HasDirective line := by
  rintro ⟨other, listed, target, isLine⟩
  rw [Text.lines_of_not_mem plain.single, List.mem_singleton] at listed
  exact plain.noDirective target (listed ▸ isLine)

/-- A line break keeps the directives of both sides apart. -/
theorem hasDirective_append_break (text rest : List Char) :
    HasDirective (text ++ '\n' :: rest) ↔ HasDirective text ∨ HasDirective rest := by
  simp only [HasDirective, Text.lines_append, List.mem_append, or_and_right, exists_or]

/-- Behind a text that ends with a line break another line starts. -/
theorem hasDirective_append
    (ends : EndsLine text)
    (rest : List Char) :
    HasDirective (text ++ rest) ↔ HasDirective text ∨ HasDirective rest := by
  rcases ends with rfl | last
  · exact (or_iff_right (not_hasDirective_of_isPlain isPlain_nil)).symm
  · obtain ⟨before, rfl⟩ := List.getLast?_eq_some_iff.mp last
    have alone : HasDirective (before ++ ['\n']) ↔ HasDirective before := by
      rw [hasDirective_append_break]
      exact or_iff_left (not_hasDirective_of_isPlain isPlain_nil)
    rw [List.append_assoc, List.singleton_append, hasDirective_append_break, alone]

/-! ## What a directive leaves -/

theorem behind?_suffix
    {expected : List Char}
    (found : behind? expected text = some left) : left <:+ text := by
  induction expected generalizing text with
  | nil =>
      cases found
      exact List.suffix_refl _
  | cons first others inductionHypothesis =>
      cases text with
      | nil => cases found
      | cons character rest =>
          rw [behind?] at found
          split at found
          case isTrue => exact (inductionHypothesis found).trans (List.suffix_cons _ _)
          case isFalse => cases found

/-- The blanks of a text up to their last line break, which is left. -/
theorem exists_last_break
    {gap : List Char}
    (breaks : '\n' ∈ gap) :
    gap.drop (gap.length - (gap.reverse.takeWhile (· != '\n')).length - 1) =
      '\n' :: (gap.reverse.takeWhile (· != '\n')).reverse := by
  have whole := List.takeWhile_append_dropWhile (p := (· != '\n')) (l := gap.reverse)
  generalize gap.reverse.takeWhile (· != '\n') = kept at whole ⊢
  cases stop : gap.reverse.dropWhile (· != '\n') with
  | nil =>
      have kind := List.dropWhile_eq_nil_iff.mp stop _ (List.mem_reverse.mpr breaks)
      exact absurd kind (by decide)
  | cons first more =>
      have isBreak := List.head?_dropWhile_not (· != '\n') gap.reverse
      rw [stop] at isBreak whole
      obtain rfl : first = '\n' := by simpa using isBreak
      have split : gap = more.reverse ++ '\n' :: kept.reverse := by
        rw [← List.reverse_reverse gap, ← whole]
        simp
      have length : gap.length - kept.length - 1 = more.reverse.length := by
        rw [split]
        simp only [List.length_append, List.length_cons, List.length_reverse]
        omega
      rw [length, split, List.drop_left]

/-- The end of a directive leaves nothing or the line break behind it. -/
theorem lineEnd?_suffix (ended : lineEnd? text = some left) : left <:+ text ∧ StartsLine left := by
  rw [lineEnd?] at ended
  split at ended
  case isTrue =>
    cases ended
    exact ⟨List.nil_suffix, .inl rfl⟩
  case isFalse =>
    dsimp only at ended
    split at ended
    case isFalse => cases ended
    case isTrue breaks =>
      cases ended
      refine ⟨List.drop_suffix _ _, .inr ?_⟩
      have last := exists_last_break (List.contains_iff_mem.mp breaks)
      have whole := List.takeWhile_append_dropWhile (p := Text.isBlank) (l := text)
      generalize text.takeWhile Text.isBlank = gap at whole last ⊢
      rw [← whole, List.drop_append_of_le_length (by omega), last]
      rfl

/-- A directive takes some of a text and leaves the line break behind its line. -/
theorem read?_suffix
    {target : List Char}
    (read : read? text = some (target, left)) :
    ∃ taken, taken ≠ [] ∧ text = taken ++ left ∧ StartsLine left := by
  rw [read?] at read
  obtain ⟨afterWord, found, quoted⟩ := Option.bind_eq_some_iff.mp read
  have behind := (behind?_suffix found).trans (List.dropWhile_suffix _)
  split at quoted
  case h_2 => cases quoted
  case h_1 gapFirst gapRest inside _ opens =>
    dsimp only at quoted
    split at quoted
    case h_2 => cases quoted
    case h_1 nameFirst nameRest after _ closes =>
      obtain ⟨ended, lineEnd, same⟩ := Option.map_eq_some_iff.mp quoted
      cases same
      obtain ⟨isSuffix, starts⟩ := lineEnd?_suffix lineEnd
      have insideSuffix : '"' :: inside <:+ text :=
        (opens ▸ List.dropWhile_suffix _).trans behind
      have afterSuffix : '"' :: after <:+ inside := closes ▸ List.dropWhile_suffix _
      have whole : left <:+ inside := (isSuffix.trans (List.suffix_cons _ _)).trans afterSuffix
      obtain ⟨before, split⟩ := insideSuffix
      obtain ⟨name, rfl⟩ := whole
      exact ⟨before ++ '"' :: name, by simp, by rw [← split]; simp, starts⟩

/-! ## Where the parts of a text stand -/

/-- Parts behind the start of a line: characters continue the line, and a directive stands at
its start. No line without a directive could be one, and the last one is empty if the text
ends with a line break. -/
inductive Laid (ended : Bool) : List Char -> List Piece -> Prop
  | nil
      {start : List Char}
      (plain : IsPlain start)
      (closed : ended = true -> start = []) : Laid ended start []
  | character
      {start : List Char}
      {value : Char}
      {rest : List Piece}
      (noBreak : value ≠ '\n')
      (behind : Laid ended (start ++ [value]) rest) : Laid ended start (.character value :: rest)
  | lineBreak
      {start : List Char}
      {rest : List Piece}
      (plain : IsPlain start)
      (behind : Laid ended [] rest) : Laid ended start (.character '\n' :: rest)
  | directive
      {target : String}
      {rest : List Piece}
      (behind : Laid ended [] rest) : Laid ended [] (.directive target :: rest)

/-- The characters of a directive are skipped. -/
theorem pieces_append
    (flag : Bool)
    (taken left : List Char) :
    ∃ starts, pieces flag taken.length (taken ++ left) = pieces starts 0 left := by
  induction taken generalizing flag with
  | nil => exact ⟨flag, rfl⟩
  | cons first taken inductionHypothesis => exact inductionHypothesis (first == '\n')

/-- A directive that is read is the first part. -/
theorem pieces_of_read?
    {target : List Char}
    (read : read? text = some (target, left)) :
    ∃ starts, pieces true 0 text = .directive (String.ofList target) :: pieces starts 0 left := by
  obtain ⟨taken, filled, rfl, -⟩ := read?_suffix read
  obtain ⟨first, more, rfl⟩ := List.exists_cons_of_ne_nil filled
  obtain ⟨starts, skipped⟩ := pieces_append (first == '\n') more left
  have length : (more ++ left).length - left.length = more.length := by
    rw [List.length_append, Nat.add_sub_cancel]
  refine ⟨starts, ?_⟩
  rw [List.cons_append] at read ⊢
  rw [pieces, if_pos rfl, read]
  dsimp only
  rw [length, skipped]

/-- Where no directive is read, the line goes on with characters. -/
theorem pieces_of_read?_eq_none
    (read : read? text = none) : pieces true 0 text = pieces false 0 text := by
  cases text with
  | nil => rfl
  | cons first rest =>
      rw [pieces, pieces, if_pos rfl, read]
      rfl

/-- A line on which no directive is read is plain. -/
theorem isPlain_of_read?_eq_none
    (single : '\n' ∉ line)
    (starts : StartsLine rest)
    (read : read? (line ++ rest) = none) : IsPlain line where
  single := single
  noDirective target isLine := by
    obtain ⟨left, found⟩ :=
      read?_of_isLine isLine (List.all_nil : [].all Text.isBlank = true) starts
    cases read.symm.trans found

/-- The rest of a line is laid if everything behind it is. -/
theorem laid_line
    {ended : Bool}
    {start : List Char}
    (single : '\n' ∉ start)
    (read : read? (start ++ text) = none)
    (ends : ended = true -> EndsLine (start ++ text))
    (behind : ∀ rest, rest.length < text.length -> (ended = true -> EndsLine rest) ->
      Laid ended [] (pieces true 0 rest)) : Laid ended start (pieces false 0 text) := by
  induction text generalizing start with
  | nil =>
      refine .nil (isPlain_of_read?_eq_none single (.inl rfl) read) fun closed => ?_
      rw [List.append_nil] at ends
      refine (ends closed).resolve_right fun last => single ?_
      exact List.mem_of_getLast? last
  | cons first rest inductionHypothesis =>
      have later := fun more shorter => behind more (Nat.lt_succ_of_lt shorter)
      by_cases breaks : first = '\n'
      · subst breaks
        refine .lineBreak (isPlain_of_read?_eq_none single (.inr rfl) read)
          (behind rest (Nat.lt_succ_self _) fun closed => ?_)
        exact (ends closed).of_append.tail.1
      · have joined : start ++ first :: rest = (start ++ [first]) ++ rest := by simp
        have noBreak : (first == '\n') = false := beq_false_of_ne breaks
        rw [joined] at read ends
        refine .character breaks ?_
        rw [noBreak]
        exact inductionHypothesis (by simp [single, Ne.symm breaks]) read ends later

/-- The parts of a text are laid from the start of its first line. -/
theorem laid_pieces
    (ended : Bool)
    (text : List Char)
    (ends : ended = true -> EndsLine text) : Laid ended [] (pieces true 0 text) := by
  induction length : text.length using Nat.strongRecOn generalizing text with
  | ind _ shorter =>
      subst length
      cases read : read? text with
      | none =>
          rw [pieces_of_read?_eq_none read]
          exact laid_line List.not_mem_nil read ends fun rest less closed =>
            shorter rest.length less rest closed rfl
      | some found =>
          obtain ⟨target, left⟩ := found
          obtain ⟨starts, same⟩ := pieces_of_read? read
          obtain ⟨taken, filled, rfl, startsLine⟩ := read?_suffix read
          rw [same]
          refine .directive ?_
          have less : left.length < (taken ++ left).length := by
            rw [List.length_append]
            exact Nat.lt_add_of_pos_left (List.length_pos_iff.mpr filled)
          have leftEnds (closed : ended = true) : EndsLine left := (ends closed).of_append
          rcases startsLine with rfl | isBreak
          · exact .nil isPlain_nil fun _ => rfl
          · obtain ⟨more, rfl⟩ := List.head?_eq_some_iff.mp isBreak
            cases starts with
            | true => exact shorter _ less _ leftEnds rfl
            | false =>
                have moreLess := (Nat.lt_succ_self more.length).trans less
                exact .lineBreak isPlain_nil
                  (shorter _ moreLess _ (fun closed => (leftEnds closed).tail.1) rfl)

end Directive

namespace Include

open Directive

variable {files : FileTree} {directory : String} {depth : Nat}

/-! ## What is left of a source -/

/-- A file whose path has no directory has a directive. -/
def KeepsDirective (files : FileTree) (path : String) : Prop :=
  (Path.directory path).isEmpty = true ∧
    ∃ text, files.read path = .ok text ∧ HasDirective text.toList

/-- The texts at paths end with line breaks, where they are not empty. -/
def AllEndLines (files : FileTree) (paths : List String) : Prop :=
  ∀ path ∈ paths, ∀ text, files.read path = .ok text -> EndsLine text.toList

/-- Where characters are all there is, nothing is visited and they are kept. -/
theorem Follows.eq_of_characters
    {text : List Char}
    {visits : List Visit}
    {outcome : Except Failure (List Char)}
    (follows : Follows files depth directory (text.map .character) visits outcome) :
    visits = [] ∧ outcome = .ok text := by
  induction text generalizing visits outcome with
  | nil =>
      cases follows
      exact ⟨rfl, rfl⟩
  | cons first rest inductionHypothesis =>
      cases follows with
      | character behind =>
          obtain ⟨rfl, rfl⟩ := inductionHypothesis behind
          exact ⟨rfl, rfl⟩

/-- A changed text comes of a text. -/
theorem exists_of_map_eq_ok
    {outcome : Except Failure (List Char)}
    {change : List Char -> List Char}
    {result : List Char}
    (success : outcome.map change = .ok result) :
    ∃ text, outcome = .ok text ∧ change text = result := by
  cases outcome with
  | error error => cases success
  | ok text => exact ⟨text, rfl, Except.ok.inj success⟩

/-- A text has a directive if an opened file without a directory has one. -/
def Leaves (files : FileTree) (visits : List Visit) (text : List Char) : Prop :=
  HasDirective text ↔ ∃ path ∈ openedPaths visits, KeepsDirective files path

/-- A text that ends with a line break and what follows it leave their directives apart. -/
theorem Leaves.append
    {visits more : List Visit}
    (leaves : Leaves files visits text)
    (ends : EndsLine text)
    (leavesRest : Leaves files more rest) : Leaves files (visits ++ more) (text ++ rest) := by
  rw [Leaves] at leaves leavesRest ⊢
  rw [hasDirective_append ends, leaves, leavesRest, openedPaths_append]
  simp only [List.mem_append, or_and_right, exists_or]

/-- What an opened file is replaced by leaves its directives if its path has no directory,
and those of the files that it includes. -/
theorem leaves_inserted
    {path text : String}
    {inner : List Visit}
    {replaced : List Char}
    (read : files.read path = .ok text)
    (ends : EndsLine text.toList)
    (inside : Follows files depth (Path.directory path)
      (partsIn (Path.directory path) text.toList) inner (.ok replaced))
    (split : Laid true [] (partsIn (Path.directory path) text.toList) ->
      Leaves files inner replaced ∧ EndsLine replaced) :
    Leaves files (⟨path, true⟩ :: inner) replaced ∧ EndsLine replaced := by
  have opened : openedPaths (⟨path, true⟩ :: inner) = path :: openedPaths inner := rfl
  rw [Leaves, opened, List.exists_mem_cons_iff]
  cases root : (Path.directory path).isEmpty with
  | true =>
      rw [partsIn, root] at inside
      obtain ⟨rfl, same⟩ := inside.eq_of_characters
      cases same
      refine ⟨⟨fun left => .inl ⟨root, text, read, left⟩, ?_⟩, ends⟩
      rintro (⟨_, other, again, left⟩ | ⟨_, listed, _⟩)
      · cases read.symm.trans again
        exact left
      · cases listed
  | false =>
      have laid : Laid true [] (partsIn (Path.directory path) text.toList) := by
        rw [partsIn, root]
        exact laid_pieces _ _ fun _ => ends
      obtain ⟨leaves, replacedEnds⟩ := split laid
      have inDirectory : ¬KeepsDirective files path := by
        rintro ⟨isRoot, -⟩
        rw [root] at isRoot
        cases isRoot
      exact ⟨leaves.trans (or_iff_right inDirectory).symm, replacedEnds⟩

/-- Parts that are laid leave the directives of files without a directory and no other ones,
if the texts of all files end with line breaks. -/
theorem Follows.hasDirective_iff
    {parts : List Directive.Piece}
    {visits : List Visit}
    {outcome : Except Failure (List Char)}
    {ended : Bool}
    {start result : List Char}
    (follows : Follows files depth directory parts visits outcome)
    (success : outcome = .ok result)
    (allEnd : AllEndLines files (openedPaths visits))
    (laid : Laid ended start parts) :
    Leaves files visits (start ++ result) ∧ (ended = true -> EndsLine (start ++ result)) := by
  induction follows generalizing ended start result with
  | nil =>
      cases success
      cases laid with
      | nil plain closed =>
          rw [List.append_nil]
          refine ⟨iff_of_false (not_hasDirective_of_isPlain plain) ?_, fun isEnded => ?_⟩
          · rintro ⟨_, listed, _⟩
            cases listed
          · exact .inl (closed isEnded)
  | @character _ _ value _ _ _ _ inductionHypothesis =>
      obtain ⟨rest, behind, rfl⟩ := exists_of_map_eq_ok success
      cases laid with
      | character noBreak laidBehind =>
          have joined : start ++ value :: rest = (start ++ [value]) ++ rest := by simp
          rw [joined]
          exact inductionHypothesis behind allEnd laidBehind
      | lineBreak plain laidBehind =>
          obtain ⟨leaves, ends⟩ := inductionHypothesis behind allEnd laidBehind
          refine ⟨?_, fun isEnded => ?_⟩
          · rw [Leaves, hasDirective_append_break,
              or_iff_right (not_hasDirective_of_isPlain plain)]
            exact leaves
          · have startEnds : EndsLine (start ++ ['\n']) := .inr (by simp)
            have whole := startEnds.append (ends isEnded)
            simpa using whole
  | @first _ directory target text replaced _ inner visits _ read inside _ ofInside ofBehind =>
      obtain ⟨rest, behind, rfl⟩ := exists_of_map_eq_ok success
      rw [openedPaths_opened, openedPaths_append] at allEnd
      obtain ⟨textEnds, filesEnd⟩ := List.forall_mem_cons.mp allEnd
      obtain ⟨innerEnd, behindEnd⟩ := List.forall_mem_append.mp filesEnd
      cases laid with
      | directive laidBehind =>
          have split (laidInside : Laid true [] _) :
              Leaves files inner replaced ∧ EndsLine replaced :=
            have whole := ofInside rfl innerEnd laidInside
            ⟨whole.1, whole.2 rfl⟩
          obtain ⟨leaves, replacedEnds⟩ := leaves_inserted read (textEnds text read) inside split
          obtain ⟨leavesBehind, restEnds⟩ := ofBehind behind behindEnd laidBehind
          exact ⟨leaves.append replacedEnds leavesBehind,
            fun isEnded => replacedEnds.append (restEnds isEnded)⟩
  | failed => cases success
  | tooDeep => cases success
  | unreadable => cases success
  | later _ inductionHypothesis =>
      cases laid with
      | directive laidBehind => exact inductionHypothesis success allEnd laidBehind

/-- Of a source that is resolved against a directory exactly the directives of files without
a directory are left, if the texts of all included files end with line breaks. -/
theorem hasDirective_resolve_iff
    {source result : String}
    {limit : Nat}
    (named : directory.isEmpty = false)
    (resolved : resolve files directory source limit = .ok result) :
    ∃ visits,
      Follows files limit directory (Directive.split source.toList) visits (.ok result.toList) ∧
      OpensFirst [] visits ∧
      (AllEndLines files (openedPaths visits) ->
        (HasDirective result.toList ↔
          ∃ path ∈ openedPaths visits, KeepsDirective files path)) := by
  obtain ⟨visits, follows, opens⟩ := exists_follows_resolve files directory source limit
  rw [resolved, partsIn, named] at follows
  refine ⟨visits, follows, opens, fun allEnd => ?_⟩
  exact (follows.hasDirective_iff rfl allEnd (laid_pieces false _ (by simp))).1

/-- Two files in a directory, of which one includes the other. -/
def nestedFiles : FileTree where
  entries := [(["shaders"], .directory), (["shaders", "a.glsl"], .text "#include \"b.glsl\"\n"),
    (["shaders", "b.glsl"], .text "B\n")]

theorem nestedFiles_leave_none :
    resolve nestedFiles "shaders" "#include \"a.glsl\"\n" = .ok "B\n" ∧
      ∃ visits, Follows nestedFiles depthLimit "shaders"
          (Directive.split "#include \"a.glsl\"\n".toList) visits
          (.ok "B\n".toList) ∧
        OpensFirst [] visits ∧
        (AllEndLines nestedFiles (openedPaths visits) ->
          (HasDirective "B\n".toList ↔
            ∃ path ∈ openedPaths visits, KeepsDirective nestedFiles path)) :=
  ⟨by decide +kernel, hasDirective_resolve_iff (by decide) (by decide +kernel)⟩

/-- The same two files in the working directory. -/
def rootFiles : FileTree where
  entries := [(["a.glsl"], .text "#include \"b.glsl\"\n"), (["b.glsl"], .text "B\n")]

/-- The directive of a file in the working directory is left where the source is resolved
there. -/
theorem rootFiles_leave_directive :
    ".".isEmpty = false ∧
      resolve rootFiles "." "#include \"a.glsl\"\n" = .ok "#include \"b.glsl\"\n" ∧
      HasDirective "#include \"b.glsl\"\n".toList := by
  refine ⟨by decide, by decide +kernel, "#include \"b.glsl\"".toList, by decide +kernel,
    "b.glsl".toList, ?_, by decide, by decide, by decide⟩
  exact ⟨[], [' '], [], by decide, by decide, by decide, by decide, by decide⟩

/-- Two files whose texts make a line of a directive where nothing keeps them apart. -/
def unendedFiles : FileTree where
  entries := [(["shaders"], .directory), (["shaders", "a.glsl"], .text "#include "),
    (["shaders", "b.glsl"], .text "\"c.glsl\"\n")]

-- A blank line between two directives belongs to the first one of them.
example :
    resolve unendedFiles "shaders" "#include \"a.glsl\"\n\n#include \"b.glsl\"\n" =
      .ok "#include \"c.glsl\"\n" := by
  decide +kernel

end Include
end ShaderGraph
