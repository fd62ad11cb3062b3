import Mathlib.Data.List.Basic
import ShaderGraph.Files.Path

/-!
# Normalized paths

A path in its shortest form is a single point, or slashes or steps up come first and names
follow. Only a relative path keeps steps up.
-/

namespace ShaderGraph

namespace Path

/-! ## Segments -/

/-- Every text has a segment, if an empty one. -/
theorem segmentChars_ne_nil (text : List Char) : segmentChars text ≠ [] := by
  cases text with
  | nil => exact List.cons_ne_nil _ _
  | cons first rest =>
      rw [segmentChars]
      split
      · exact List.cons_ne_nil _ _
      · split <;> exact List.cons_ne_nil _ _

/-- A character that is no slash belongs to the first segment. -/
theorem segmentChars_cons
    {first : Char}
    {rest segment : List Char}
    {others : List (List Char)}
    (noSlash : first ≠ '/')
    (behind : segmentChars rest = segment :: others) :
    segmentChars (first :: rest) = (first :: segment) :: others := by
  rw [segmentChars, beq_false_of_ne noSlash, behind]
  rfl

/-- No segment has a slash. -/
theorem noSlash_of_mem_segmentChars
    {text segment : List Char}
    (present : segment ∈ segmentChars text) : '/' ∉ segment := by
  induction text generalizing segment with
  | nil =>
      obtain rfl := List.mem_singleton.mp present
      exact List.not_mem_nil
  | cons first rest inductionHypothesis =>
      by_cases slash : first = '/'
      · subst slash
        rcases List.mem_cons.mp present with rfl | later
        · exact List.not_mem_nil
        · exact inductionHypothesis later
      · obtain ⟨head, others, behind⟩ := List.exists_cons_of_ne_nil (segmentChars_ne_nil rest)
        rw [segmentChars_cons slash behind] at present
        have inside (other : List Char) (listed : other ∈ head :: others) : '/' ∉ other :=
          inductionHypothesis (behind ▸ listed)
        rcases List.mem_cons.mp present with rfl | later
        · exact List.not_mem_cons_of_ne_of_not_mem (Ne.symm slash) (inside head List.mem_cons_self)
        · exact inside segment (List.mem_cons_of_mem head later)

/-- The stretches on both sides of a slash are those of the texts there. -/
theorem segmentChars_append (text rest : List Char) :
    segmentChars (text ++ '/' :: rest) = segmentChars text ++ segmentChars rest := by
  induction text with
  | nil => rfl
  | cons first text inductionHypothesis =>
      by_cases slash : first = '/'
      · subst slash
        exact congrArg ([] :: ·) inductionHypothesis
      · obtain ⟨head, others, behind⟩ := List.exists_cons_of_ne_nil (segmentChars_ne_nil text)
        rw [behind] at inductionHypothesis
        rw [List.cons_append, segmentChars_cons slash inductionHypothesis,
          segmentChars_cons slash behind]
        rfl

/-- A text without slashes is one segment. -/
theorem segmentChars_of_noSlash
    {segment : List Char}
    (noSlash : '/' ∉ segment) : segmentChars segment = [segment] := by
  induction segment with
  | nil => rfl
  | cons first others inductionHypothesis =>
      obtain ⟨other, inside⟩ := not_or.mp (List.mem_cons.not.mp noSlash)
      exact segmentChars_cons (Ne.symm other) (inductionHypothesis inside)

/-- Segments joined by slashes are split into themselves. -/
theorem segmentChars_intercalate
    {segment : List Char}
    {others : List (List Char)}
    (noSlash : ∀ part ∈ segment :: others, '/' ∉ part) :
    segmentChars (['/'].intercalate (segment :: others)) = segment :: others := by
  induction others generalizing segment with
  | nil =>
      rw [List.intercalate_singleton]
      exact segmentChars_of_noSlash (noSlash segment List.mem_cons_self)
  | cons next others inductionHypothesis =>
      obtain ⟨first, rest⟩ := List.forall_mem_cons.mp noSlash
      rw [List.intercalate_cons_cons, List.append_assoc, List.singleton_append,
        segmentChars_append, segmentChars_of_noSlash first, inductionHypothesis rest]
      rfl

/-- Names that are joined by slashes are the segments of their path. -/
theorem segments_ofSegments
    {names : List String}
    (some : names ≠ [])
    (noSlash : ∀ name ∈ names, '/' ∉ name.toList) : segments (ofSegments names) = names := by
  obtain ⟨name, others, rfl⟩ := List.exists_cons_of_ne_nil some
  have joined : (ofSegments (name :: others)).toList =
      ['/'].intercalate (name.toList :: others.map String.toList) := String.toList_intercalate
  rw [segments, joined, segmentChars_intercalate]
  · simp
  · simpa using noSlash

/-- A path behind a directory has the segments of both. -/
theorem segments_append (text rest : String) :
    segments (text ++ "/" ++ rest) = segments text ++ segments rest := by
  have slash : "/".toList = ['/'] := rfl
  rw [segments, String.toList_append, String.toList_append, slash, List.append_assoc,
    List.singleton_append, segmentChars_append, List.map_append]
  rfl

/-- A path that starts with a slash starts with an empty segment. -/
theorem segments_slash (rest : String) : segments ("/" ++ rest) = "" :: segments rest := by
  have split := segments_append "" rest
  rwa [String.empty_append] at split

theorem intercalate_segmentChars (text : List Char) :
    ['/'].intercalate (segmentChars text) = text := by
  induction text with
  | nil => rfl
  | cons first rest inductionHypothesis =>
      obtain ⟨head, others, behind⟩ := List.exists_cons_of_ne_nil (segmentChars_ne_nil rest)
      by_cases slash : first = '/'
      · subst slash
        have split : segmentChars ('/' :: rest) = [] :: head :: others := congrArg ([] :: ·) behind
        rw [split, List.intercalate_cons_cons, ← behind, inductionHypothesis]
        rfl
      · rw [behind] at inductionHypothesis
        rw [segmentChars_cons slash behind, ← inductionHypothesis]
        cases others with
        | nil => rfl
        | cons next others => rfl

/-- The segments of a path, joined by slashes, are the path. -/
theorem ofSegments_segments (path : String) : ofSegments (segments path) = path := by
  apply String.toList_injective
  have slash : "/".toList = ['/'] := rfl
  have texts : (segments path).map String.toList = segmentChars path.toList := by simp [segments]
  rw [ofSegments, String.toList_intercalate, texts, slash, intercalate_segmentChars]

/-! ## Moves of a normalized path -/

/-- A move goes somewhere and is one segment. -/
structure IsMove (move : String) : Prop where
  filled : move ≠ ""
  moves : move ≠ "."
  noSlash : '/' ∉ move.toList

/-- The moves of a path are what their name says. -/
theorem isMove_of_mem_moves {path move : String} (present : move ∈ moves path) : IsMove move := by
  obtain ⟨listed, kept⟩ := List.mem_filter.mp present
  obtain ⟨segment, isSegment, rfl⟩ := List.mem_map.mp listed
  rw [Bool.and_eq_true, bne_iff_ne, bne_iff_ne] at kept
  exact ⟨kept.1, kept.2, by simpa using noSlash_of_mem_segmentChars isSegment⟩

/-- Moves, the last one first, where only steps up come before a step up. -/
structure Climbs (stack : List String) : Prop where
  isMove : ∀ move ∈ stack, IsMove move
  stepsFirst : stack.Pairwise fun later earlier => later = ".." -> earlier = ".."

/-- A step up comes behind steps up only. -/
theorem Climbs.cons
    {stack : List String}
    {move : String}
    (climbs : Climbs stack)
    (isMove : IsMove move)
    (stepsFirst : move = ".." -> ∀ earlier ∈ stack, earlier = "..") : Climbs (move :: stack) where
  isMove := List.forall_mem_cons.mpr ⟨isMove, climbs.isMove⟩
  stepsFirst := List.pairwise_cons.mpr
    ⟨fun earlier present up => stepsFirst up earlier present, climbs.stepsFirst⟩

/-- A name is pushed upon all moves before it. -/
theorem pushMove_of_ne
    {move : String}
    (notUp : move ≠ "..")
    (absolute : Bool)
    (stack : List String) : pushMove absolute stack move = move :: stack := by
  cases stack <;> rw [pushMove, beq_false_of_ne notUp] <;> rfl

/-- A move keeps the steps up first. -/
theorem Climbs.pushMove
    {stack : List String}
    {move : String}
    (climbs : Climbs stack)
    (isMove : IsMove move)
    (absolute : Bool) : Climbs (pushMove absolute stack move) := by
  by_cases up : move = ".."
  case neg =>
    rw [pushMove_of_ne up]
    exact climbs.cons isMove fun same => absurd same up
  subst up
  cases stack with
  | nil =>
      cases absolute with
      | true => exact climbs
      | false => exact climbs.cons isMove fun _ => List.forall_mem_nil _
  | cons previous earlier =>
      obtain ⟨first, rest⟩ := List.pairwise_cons.mp climbs.stepsFirst
      rw [Path.pushMove, if_pos (beq_self_eq_true _)]
      split
      case isTrue last =>
        obtain rfl := beq_iff_eq.mp last
        exact climbs.cons isMove fun _ => List.forall_mem_cons.mpr
          ⟨rfl, fun move present => first move present rfl⟩
      case isFalse => exact ⟨(List.forall_mem_cons.mp climbs.isMove).2, rest⟩

/-- Moves that are pushed one by one keep the steps up first. -/
theorem climbs_foldl
    {moves stack : List String}
    (areMoves : ∀ move ∈ moves, IsMove move)
    (climbs : Climbs stack)
    (absolute : Bool) : Climbs (moves.foldl (pushMove absolute) stack) := by
  induction moves generalizing stack with
  | nil => exact climbs
  | cons move moves inductionHypothesis =>
      obtain ⟨first, others⟩ := List.forall_mem_cons.mp areMoves
      exact inductionHypothesis others (climbs.pushMove first absolute)

/-- The moves that the shortest form of a path keeps. -/
def kept (path : String) : List String :=
  ((moves path).foldl (pushMove (isAbsolute path)) []).reverse

/-- The moves that a path keeps have the steps up first. -/
theorem climbs_kept (path : String) : Climbs (kept path).reverse := by
  rw [kept, List.reverse_reverse]
  exact climbs_foldl (fun _ => isMove_of_mem_moves) ⟨List.forall_mem_nil _, .nil⟩ _

/-- Moves with the steps up first are a number of steps up and names behind them. -/
theorem Climbs.exists_replicate
    {moves : List String}
    (climbs : Climbs moves.reverse) :
    ∃ count names, moves = List.replicate count ".." ++ names ∧
      ∀ name ∈ names, IsMove name ∧ name ≠ ".." := by
  have areMoves (move : String) (present : move ∈ moves) : IsMove move :=
    climbs.isMove move (List.mem_reverse.mpr present)
  have stepsFirst := List.pairwise_reverse.mp climbs.stepsFirst
  clear climbs
  induction moves with
  | nil => exact ⟨0, [], rfl, List.forall_mem_nil _⟩
  | cons first rest inductionHypothesis =>
      obtain ⟨behind, restFirst⟩ := List.pairwise_cons.mp stepsFirst
      by_cases up : first = ".."
      · obtain ⟨count, names, rfl, named⟩ := inductionHypothesis
          (fun move present => areMoves move (List.mem_cons_of_mem first present)) restFirst
        exact ⟨count + 1, names, by rw [up]; rfl, named⟩
      · refine ⟨0, first :: rest, rfl, fun name present => ⟨areMoves name present, ?_⟩⟩
        rintro rfl
        rcases List.mem_cons.mp present with same | later
        · exact up same.symm
        · exact up (behind _ later rfl)

/-- From the root no move leaves a step up. -/
theorem not_up_foldl
    {moves stack : List String}
    (none : ".." ∉ stack) : ".." ∉ moves.foldl (pushMove true) stack := by
  induction moves generalizing stack with
  | nil => exact none
  | cons next moves inductionHypothesis =>
      refine inductionHypothesis ?_
      by_cases up : next = ".."
      · subst up
        cases stack with
        | nil => exact none
        | cons previous earlier =>
            obtain ⟨other, before⟩ := not_or.mp (List.mem_cons.not.mp none)
            rw [pushMove, if_pos (beq_self_eq_true _), if_neg (by simpa using Ne.symm other)]
            exact before
      · rw [pushMove_of_ne up]
        exact List.not_mem_cons_of_ne_of_not_mem (Ne.symm up) none

/-- An absolute path keeps no step up. -/
theorem not_up_of_mem_kept
    {path move : String}
    (absolute : isAbsolute path = true)
    (present : move ∈ kept path) : move ≠ ".." := by
  rw [kept, List.mem_reverse, absolute] at present
  rintro rfl
  exact not_up_foldl List.not_mem_nil present

theorem leadingSlashes_of_not_isAbsolute
    {path : String}
    (relative : isAbsolute path = false) : leadingSlashes path = "" := by
  rw [leadingSlashes]
  rw [isAbsolute] at relative
  split
  case h_1 same => rw [same] at relative; cases relative
  case h_2 same => rw [same] at relative; cases relative
  case h_3 same => rw [same] at relative; cases relative
  case h_4 => rfl

theorem leadingSlashes_of_isAbsolute
    {path : String}
    (absolute : isAbsolute path = true) :
    leadingSlashes path = "/" ∨ leadingSlashes path = "//" := by
  rw [isAbsolute, beq_iff_eq] at absolute
  obtain ⟨rest, same⟩ := List.head?_eq_some_iff.mp absolute
  rw [leadingSlashes, same]
  split
  case h_1 => exact .inl rfl
  case h_2 => exact .inr rfl
  case h_3 => exact .inl rfl
  case h_4 other => exact absurd rfl (other rest)

/-- A path in its shortest form is a point, or its slashes and the moves that it keeps. -/
theorem normalize_eq_or (path : String) :
    normalize path = "." ∨
      normalize path = leadingSlashes path ++ ofSegments (kept path) ∧
        (isAbsolute path = true ∨ kept path ≠ []) := by
  have shape : normalize path =
      if (leadingSlashes path ++ ofSegments (kept path)).isEmpty then "."
      else leadingSlashes path ++ ofSegments (kept path) := rfl
  rw [shape]
  split
  case isTrue => exact .inl rfl
  case isFalse filled =>
    refine .inr ⟨rfl, (Bool.eq_false_or_eq_true (isAbsolute path)).imp id fun relative none => ?_⟩
    rw [leadingSlashes_of_not_isAbsolute relative, none] at filled
    exact filled rfl

/-- Names are pushed one by one and none is taken back. -/
theorem foldl_pushMove_of_names
    {names : List String}
    (named : ∀ name ∈ names, name ≠ "..")
    (absolute : Bool)
    (stack : List String) : names.foldl (pushMove absolute) stack = names.reverse ++ stack := by
  induction names generalizing stack with
  | nil => rfl
  | cons name names inductionHypothesis =>
      obtain ⟨first, others⟩ := List.forall_mem_cons.mp named
      rw [List.foldl_cons, pushMove_of_ne first, inductionHypothesis others, List.reverse_cons,
        List.append_assoc]
      rfl

/-- Steps up at the start of a relative path are kept. -/
theorem foldl_pushMove_of_replicate (count more : Nat) :
    (List.replicate count "..").foldl (pushMove false) (List.replicate more "..") =
      List.replicate (count + more) ".." := by
  induction count generalizing more with
  | zero => rw [Nat.zero_add]; rfl
  | succ count inductionHypothesis =>
      have pushed : pushMove false (List.replicate more "..") ".." =
          List.replicate (more + 1) ".." := by
        cases more <;> rfl
      rw [List.replicate_succ, List.foldl_cons, pushed, inductionHypothesis]
      congr 1
      omega

/-- Steps up and names behind them are a relative path in its shortest form. -/
theorem normalize_of_segments
    {path : String}
    {count : Nat}
    {names : List String}
    (split : segments path = List.replicate count ".." ++ names)
    (named : ∀ name ∈ names, IsMove name ∧ name ≠ "..")
    (relative : isAbsolute path = false)
    (filled : path.isEmpty = false) : normalize path = path := by
  have all : moves path = segments path := by
    refine List.filter_eq_self.mpr fun segment listed => ?_
    rw [split] at listed
    rcases List.mem_append.mp listed with up | name
    · rw [List.eq_of_mem_replicate up]
      rfl
    · simp [(named segment name).1.filled, (named segment name).1.moves]
  have kept : kept path = segments path := by
    have steps := foldl_pushMove_of_replicate count 0
    rw [List.replicate_zero, Nat.add_zero] at steps
    rw [Path.kept, all, split, relative, List.foldl_append, steps,
      foldl_pushMove_of_names fun name present => (named name present).2, List.reverse_append,
      List.reverse_reverse, List.reverse_replicate]
  have text : leadingSlashes path ++ ofSegments (Path.kept path) = path := by
    rw [leadingSlashes_of_not_isAbsolute relative, kept, ofSegments_segments, String.empty_append]
  change (if (leadingSlashes path ++ ofSegments (Path.kept path)).isEmpty then "." else _) = path
  rw [text, filled]
  exact text

/-- Moves make a relative path. -/
theorem isAbsolute_ofSegments
    {moves : List String}
    (areMoves : ∀ move ∈ moves, IsMove move) : isAbsolute (ofSegments moves) = false := by
  cases moves with
  | nil => rfl
  | cons move moves =>
      obtain ⟨isMove, -⟩ := List.forall_mem_cons.mp areMoves
      have joined : (ofSegments (move :: moves)).toList =
          ['/'].intercalate (move.toList :: moves.map String.toList) := String.toList_intercalate
      obtain ⟨first, rest, shape⟩ : ∃ first rest, move.toList = first :: rest :=
        List.exists_cons_of_ne_nil (by simpa using isMove.filled)
      have noSlash : first ≠ '/' := by
        rintro rfl
        exact isMove.noSlash (shape ▸ List.mem_cons_self)
      rw [isAbsolute, joined, shape]
      cases moves with
      | nil => simpa using noSlash
      | cons next others =>
          rw [List.map_cons, List.intercalate_cons_cons]
          simpa using noSlash

/-- How many steps up a path starts with. -/
def stepsUp (path : String) : Nat :=
  ((segments path).takeWhile (· == "..")).length

/-- A path starts with the steps up that stand before its names. -/
theorem stepsUp_of_segments
    {path : String}
    {count : Nat}
    {names : List String}
    (split : segments path = List.replicate count ".." ++ names)
    (named : ∀ name ∈ names, IsMove name ∧ name ≠ "..") : stepsUp path = count := by
  have stops : names.takeWhile (· == "..") = [] := by
    cases names with
    | nil => rfl
    | cons name names =>
        exact List.takeWhile_cons_of_neg (by simpa using (named name List.mem_cons_self).2)
  rw [stepsUp, split, List.takeWhile_append_of_pos (by simp), stops, List.append_nil,
    List.length_replicate]

/-! ## Directories -/

/-- The directory of a name in a directory. -/
theorem directory_append
    {parent name : String}
    {last : Char}
    (ends : parent.toList.getLast? = some last)
    (noSlash : last ≠ '/')
    (single : '/' ∉ name.toList) : directory (parent ++ "/" ++ name) = parent := by
  obtain ⟨before, split⟩ := List.getLast?_eq_some_iff.mp ends
  have characters : (parent ++ "/" ++ name).toList.reverse =
      name.toList.reverse ++ '/' :: parent.toList.reverse := by
    rw [String.toList_append, String.toList_append, List.reverse_append, List.reverse_append]
    rfl
  have skipped : (name.toList.reverse ++ '/' :: parent.toList.reverse).dropWhile (· != '/') =
      '/' :: parent.toList.reverse := by
    rw [List.dropWhile_append_of_pos, List.dropWhile_cons_of_neg (by decide)]
    intro character listed
    rw [bne_iff_ne]
    rintro rfl
    exact single (List.mem_reverse.mp listed)
  have solid : ('/' :: parent.toList.reverse).reverse.all (· == '/') = false := by
    simp [split, noSlash]
  have stripped : ('/' :: parent.toList.reverse).dropWhile (· == '/') = parent.toList.reverse := by
    rw [List.dropWhile_cons_of_pos (by decide), split, List.reverse_concat,
      List.dropWhile_cons_of_neg (by simpa using noSlash)]
  rw [directory, characters, skipped]
  rw [if_neg (Bool.eq_false_iff.mp solid), List.reverse_reverse, stripped, List.reverse_reverse]
  exact String.ofList_toList

end Path
end ShaderGraph
