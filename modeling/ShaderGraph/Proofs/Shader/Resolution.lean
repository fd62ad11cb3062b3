import Mathlib.Data.List.Perm.Subperm
import ShaderGraph.Proofs.Files.Reading
import ShaderGraph.Proofs.Shader.Following

/-!
# Resolution of include directives

The resolution of a source follows its directives and those of the files that it includes,
and opens each path where it is visited first. A file that was opened before is not read
again, also if it includes itself. So files are nested only as deep as there are paths to
open: a tree has few of them, but for those that climb above its root.
-/

namespace ShaderGraph
namespace Include

variable {files : FileTree} {directory : String} {depth : Nat} {seen : List String}

/-! ## The resolution -/

/-- What comes of the directives of parts when some paths were included before: visits that
are followed, with the paths that are included behind them. -/
def Traces
    (files : FileTree)
    (depth : Nat)
    (directory : String)
    (parts : List Directive.Piece)
    (seen : List String)
    (outcome : Except Failure (List Char × List String)) : Prop :=
  ∃ visits, Follows files depth directory parts visits (outcome.map Prod.fst) ∧
    OpensFirst seen visits ∧
      ∀ text changed, outcome = .ok (text, changed) ->
        ∀ path, path ∈ changed ↔ path ∈ visits.map Visit.path ++ seen

/-- The texts that computations give for items, joined. -/
def joined (step : Item -> Inclusion (List Char)) (items : List Item) : Inclusion (List Char) := do
  return (<- items.mapM step).flatten

theorem run_joined_cons
    (step : Item -> Inclusion (List Char))
    (item : Item)
    (items : List Item)
    (seen : List String) :
    (joined step (item :: items)).run seen =
      ((step item).run seen).bind fun first =>
        ((joined step items).run first.2).map fun rest => (first.1 ++ rest.1, rest.2) := by
  rw [joined, joined, List.mapM_cons]
  simp only [StateT.run_bind, bind_assoc]
  cases (step item).run seen with
  | error error => rfl
  | ok first =>
      change ((items.mapM step).run first.2 >>= _) = ((items.mapM step).run first.2 >>= _).map _
      cases (items.mapM step).run first.2 with
      | error error => rfl
      | ok rest => rfl

theorem run_expandPiece_later
    {expand : String -> List Char -> Inclusion (List Char)}
    {target : String}
    (known : pathOf directory target ∈ seen) :
    (expandPiece files expand directory (.directive target)).run seen = .ok ([], seen) := by
  change StateT.run (if seen.contains (pathOf directory target) then _ else _) seen = _
  rw [if_pos (List.contains_iff_mem.mpr known)]
  rfl

theorem run_expandPiece_fresh
    {expand : String -> List Char -> Inclusion (List Char)}
    {target : String}
    (fresh : pathOf directory target ∉ seen) :
    (expandPiece files expand directory (.directive target)).run seen =
      match files.read (pathOf directory target) with
      | .error error => .error (failureOf directory target error)
      | .ok text => (expand (Path.directory (pathOf directory target)) text.toList).run
          (pathOf directory target :: seen) := by
  rw [expandPiece, StateT.run_bind, StateT.run_get, pure_bind,
    if_neg (List.contains_iff_mem.not.mpr fresh), StateT.run_bind, StateT.run_modify, pure_bind]
  cases files.read (pathOf directory target) with
  | error error => rfl
  | ok text => rfl

/-- The visits of a part come before those of the parts behind it. -/
theorem Traces.cons
    {part : Directive.Piece}
    {rest : List Directive.Piece}
    (visits : List Visit)
    {text : List Char}
    {between : List String}
    {outcome : Except Failure (List Char × List String)}
    (follows : ∀ others other, Follows files depth directory rest others other ->
      Follows files depth directory (part :: rest) (visits ++ others) (other.map (text ++ ·)))
    (opens : OpensFirst seen visits)
    (included : ∀ path, path ∈ between ↔ path ∈ visits.map Visit.path ++ seen)
    (traces : Traces files depth directory rest between outcome) :
    Traces files depth directory (part :: rest) seen
      (outcome.map fun result => (text ++ result.1, result.2)) := by
  obtain ⟨others, followsBehind, opensBehind, includedBehind⟩ := traces
  refine ⟨visits ++ others, ?_, opensFirst_append_iff.mpr ⟨opens, opensBehind.congr included⟩, ?_⟩
  · have whole := follows others _ followsBehind
    cases outcome with
    | error error => exact whole
    | ok result => exact whole
  · intro whole changed same path
    cases outcome with
    | error error => cases same
    | ok result =>
        cases same
        rw [includedBehind _ _ rfl path]
        simp only [List.map_append, List.mem_append, included]
        tauto

/-- The visits of a file that is opened come before those of the parts behind its
directive. -/
theorem Traces.first
    {target text : String}
    {rest : List Directive.Piece}
    {inner : Except Failure (List Char × List String)}
    {outer : List String -> Except Failure (List Char × List String)}
    (fresh : pathOf directory target ∉ seen)
    (read : files.read (pathOf directory target) = .ok text)
    (inside : Traces files depth (Path.directory (pathOf directory target))
      (partsIn (Path.directory (pathOf directory target)) text.toList)
      (pathOf directory target :: seen) inner)
    (behind : ∀ between, Traces files (depth + 1) directory rest between (outer between)) :
    Traces files (depth + 1) directory (.directive target :: rest) seen
      (inner.bind fun first =>
        (outer first.2).map fun rest => (first.1 ++ rest.1, rest.2)) := by
  obtain ⟨visits, follows, opens, included⟩ := inside
  cases inner with
  | error error =>
      refine ⟨⟨pathOf directory target, true⟩ :: visits, .failed read follows,
        opensFirst_opened_iff.mpr ⟨fresh, opens⟩, fun _ _ same => ?_⟩
      cases same
  | ok result =>
      have changed (path : String) : path ∈ result.2 ↔
          path ∈ (Visit.mk (pathOf directory target) true :: visits).map Visit.path ++ seen := by
        rw [included result.1 result.2 rfl]
        simp only [List.map_cons, List.cons_append, List.mem_append, List.mem_cons, or_left_comm]
      exact .cons (⟨pathOf directory target, true⟩ :: visits)
        (fun _ _ followsBehind => .first read follows followsBehind)
        (opensFirst_opened_iff.mpr ⟨fresh, opens⟩) changed (behind result.2)

/-- A directive whose path was visited before is replaced by nothing. -/
theorem Traces.later
    {target : String}
    {rest : List Directive.Piece}
    {outcome : Except Failure (List Char × List String)}
    (known : pathOf directory target ∈ seen)
    (behind : Traces files depth directory rest seen outcome) :
    Traces files depth directory (.directive target :: rest) seen
      (outcome.map fun result => ([] ++ result.1, result.2)) := by
  refine .cons [⟨pathOf directory target, false⟩]
    (fun others other follows => ?_) (opensFirst_later_iff.mpr ⟨known, trivial⟩)
    (fun path => ?_) behind
  · cases other <;> exact follows.later
  · simp only [List.map_cons, List.map_nil, List.singleton_append, List.mem_cons]
    exact ⟨.inr, fun listed => listed.elim (fun same => same ▸ known) id⟩

/-- A path that is opened without its text being followed is the last one. -/
theorem Traces.last
    {target : String}
    {rest : List Directive.Piece}
    {failure : Failure}
    (fresh : pathOf directory target ∉ seen)
    (follows : Follows files depth directory (.directive target :: rest)
      [⟨pathOf directory target, true⟩] (.error failure)) :
    Traces files depth directory (.directive target :: rest) seen (.error failure) := by
  refine ⟨[⟨pathOf directory target, true⟩], follows,
    opensFirst_opened_iff.mpr ⟨fresh, trivial⟩, fun _ _ same => ?_⟩
  cases same

/-- If texts are traced where fewer files can be nested, all parts of a text are traced. -/
theorem traces_joined
    (deeper : ∀ lower < depth, ∀ directory text seen,
      Traces files lower directory (partsIn directory text) seen
        ((expand files (lower + 1) directory text).run seen))
    (directory : String)
    (parts : List Directive.Piece)
    (seen : List String) :
    Traces files depth directory parts seen
      ((joined (expandPiece files (expand files depth) directory) parts).run seen) := by
  induction parts generalizing seen with
  | nil =>
      refine ⟨[], .nil, trivial, fun text changed same path => ?_⟩
      cases same
      exact Iff.rfl
  | cons part rest behind =>
      rw [run_joined_cons]
      cases part with
      | character value =>
          have follows (others : List Visit) (other : Except Failure (List Char))
              (followsBehind : Follows files depth directory rest others other) :
              Follows files depth directory (.character value :: rest) ([] ++ others)
                (other.map ([value] ++ ·)) := followsBehind.character
          exact .cons [] follows trivial (fun _ => Iff.rfl) (behind seen)
      | directive target =>
          by_cases known : pathOf directory target ∈ seen
          · rw [run_expandPiece_later known]
            exact .later known (behind seen)
          · rw [run_expandPiece_fresh known]
            cases read : files.read (pathOf directory target) with
            | error error => exact .last known (.unreadable read)
            | ok text =>
                cases depth with
                | zero => exact .last known (.tooDeep read)
                | succ lower =>
                    exact .first known read (deeper lower (Nat.lt_succ_self lower) _ _ _) behind

/-- Characters alone are followed without visits. -/
theorem follows_characters
    (files : FileTree)
    (depth : Nat)
    (directory : String)
    (text : List Char) :
    Follows files depth directory (text.map .character) [] (.ok text) := by
  induction text with
  | nil => exact .nil
  | cons first rest inductionHypothesis => exact inductionHypothesis.character

/-- By induction on how deep files can be nested: every text is traced. -/
theorem traces_expand
    (depth : Nat)
    (directory : String)
    (text : List Char)
    (seen : List String) :
    Traces files depth directory (partsIn directory text) seen
      ((expand files (depth + 1) directory text).run seen) := by
  induction depth using Nat.strongRecOn generalizing directory text seen with
  | ind depth deeper =>
      rw [partsIn, expand]
      cases directory.isEmpty with
      | true =>
          refine ⟨[], follows_characters files depth directory text, trivial, fun _ _ same _ => ?_⟩
          cases same
          exact Iff.rfl
      | false => exact traces_joined deeper directory (Directive.split text) seen

theorem resolve_eq_map (files : FileTree) (directory source : String) (limit : Nat) :
    (resolve files directory source limit).map String.toList =
      ((expand files (limit + 1) directory source.toList).run []).map Prod.fst := by
  rw [resolve]
  split
  case h_1 failed => rw [failed]; rfl
  case h_2 succeeded =>
    rw [succeeded]
    exact congrArg Except.ok String.toList_ofList

/-- A resolution visits the directives of its source and of the files that it includes. -/
theorem exists_follows_resolve (files : FileTree) (directory source : String) (limit : Nat) :
    ∃ visits, Follows files limit directory (partsIn directory source.toList) visits
        ((resolve files directory source limit).map String.toList) ∧ OpensFirst [] visits := by
  have traces : Traces files limit directory (partsIn directory source.toList) []
      ((expand files (limit + 1) directory source.toList).run []) := traces_expand _ _ _ _
  obtain ⟨visits, follows, opens, -⟩ := traces
  rw [← resolve_eq_map] at follows
  exact ⟨visits, follows, opens⟩

theorem toList_map_injective :
    Function.Injective (Except.map String.toList : Except Failure String -> _) := by
  intro outcome other same
  cases outcome with
  | error failure => exact (map_eq_error_iff.mp same.symm).symm
  | ok text =>
      cases other with
      | error failure => cases same
      | ok text' => exact congrArg Except.ok (String.toList_injective (Except.ok.inj same))

/-- Following directives from the start tells what the resolution comes to. -/
theorem Follows.resolve_eq
    {source : String}
    {limit : Nat}
    {visits : List Visit}
    {outcome : Except Failure String}
    (follows : Follows files limit directory (partsIn directory source.toList) visits
      (outcome.map String.toList))
    (opens : OpensFirst [] visits) : resolve files directory source limit = outcome := by
  obtain ⟨others, followsOther, opensOther⟩ := exists_follows_resolve files directory source limit
  exact toList_map_injective (follows.unique opens followsOther opensOther).2

/-! ## How deep files are nested -/

/-- Of the different paths of files that can be read, all but those that climb above the root
are among the paths of the tree. -/
theorem length_le_of_allReadable
    {opened : List String}
    (nodup : opened.Nodup)
    (readable : AllReadable files opened)
    (normalized : ∀ path ∈ opened, ∃ other, path = Path.normalize other) :
    opened.length ≤ files.paths.length + opened.countP (files.ClimbsAbove ·) := by
  have stay : (opened.filter fun path => ¬files.ClimbsAbove path) ⊆ files.paths := by
    intro path kept
    obtain ⟨present, stays⟩ := List.mem_filter.mp kept
    obtain ⟨text, read⟩ := readable path present
    obtain ⟨other, rfl⟩ := normalized path present
    exact FileTree.mem_paths_of_read read (of_decide_eq_true stays)
  have few := (List.subperm_of_subset (nodup.filter _) stay).length_le
  have split := List.length_eq_countP_add_countP (fun path => files.ClimbsAbove path) (l := opened)
  rw [← List.countP_eq_length_filter] at few
  simp only [decide_eq_true_eq] at split
  omega

/-- Files that are nested too deep are more than a tree has paths, or some of their paths
climb above its root. -/
theorem Follows.lt_of_nested
    {parts : List Directive.Piece}
    {visits : List Visit}
    (follows : Follows files depth directory parts visits (.error .tooDeep))
    (opens : OpensFirst seen visits) :
    depth < files.entries.length * (files.workingDirectory.length + 3) +
      (openedPaths visits).countP (files.ClimbsAbove ·) := by
  have readable : AllReadable files (openedPaths visits) := by
    rcases follows.ends.tooDeep_or with ⟨_, other⟩ | ⟨_, other⟩ | ⟨-, readable⟩
    · cases other
    · cases other
    · exact readable
  rw [← FileTree.length_paths]
  exact (follows.lt_of_tooDeep rfl).trans_le
    (length_le_of_allReadable opens.nodup readable follows.normalized)

/-! ## What a resolution comes to -/

/-- What a source comes to that is resolved in a directory, where files are nested at most
as deep as a limit. -/
structure ResolvesBy
    (files : FileTree)
    (directory source : String)
    (limit : Nat)
    (visits : List Visit) : Prop where
  /-- The directives are followed in the order in which they are read. -/
  follows : Follows files limit directory (partsIn directory source.toList) visits
    ((resolve files directory source limit).map String.toList)
  /-- A file is opened where its path is visited first. -/
  opensFirst : OpensFirst [] visits
  /-- No path is opened twice. -/
  opensOnce : (openedPaths visits).Nodup
  /-- There is no other way to follow the directives. -/
  only : ∀ others outcome,
    Follows files limit directory (partsIn directory source.toList) others outcome ->
    OpensFirst [] others ->
    others = visits ∧ outcome = (resolve files directory source limit).map String.toList
  /-- The compilation fails where the file system refuses an opened path, and only there. -/
  refused : (∃ error, resolve files directory source limit = .error (.compilation error)) ↔
    ∃ path ∈ openedPaths visits, ∃ error, files.read path = .error (.refused error)
  /-- An opened path that can be no path, or whose file is no text, fails as such. -/
  malformed : ∀ format, resolve files directory source limit = .error (.malformed format) ↔
    ∃ path ∈ openedPaths visits, files.read path = .error (.malformed format)
  /-- Nothing else fails, but for files that are nested too deep. -/
  otherwise : ∀ failure, resolve files directory source limit = .error failure ->
    (∃ error, failure = .compilation error) ∨ (∃ format, failure = .malformed format) ∨
      failure = .tooDeep
  /-- Only paths that climb above the root can nest files deeper than there are paths. -/
  nested : resolve files directory source limit = .error .tooDeep ->
    limit < files.entries.length * (files.workingDirectory.length + 3) +
      (openedPaths visits).countP (files.ClimbsAbove ·)
  /-- Where files are not nested too deep, a higher limit changes nothing. -/
  settled : resolve files directory source limit ≠ .error .tooDeep -> ∀ higher, limit ≤ higher ->
    resolve files directory source higher = resolve files directory source limit

/-- The resolution of a source follows its directives and those of the files that it
includes. It opens each path where it is visited first, and no path twice; how it fails tells
which of these paths cannot be read; and it ends unless ever more of them climb above the
root. -/
theorem resolve_follows
    (files : FileTree)
    (directory source : String)
    (limit : Nat) : ∃ visits, ResolvesBy files directory source limit visits := by
  obtain ⟨visits, follows, opens⟩ := exists_follows_resolve files directory source limit
  have ends := follows.ends
  exact ⟨visits, {
    follows := follows
    opensFirst := opens
    opensOnce := opens.nodup
    only := fun others outcome followsOther opensOther =>
      follows.unique opens followsOther opensOther
    refused := by
      rw [← ends.refused_iff]
      exact exists_congr fun error => map_eq_error_iff.symm
    malformed := fun format => map_eq_error_iff.symm.trans (ends.malformed_iff format)
    otherwise := fun failure failed => by
      rw [failed] at ends
      exact ends.tooDeep_or.imp id (Or.imp id And.left)
    nested := fun tooDeep => by
      rw [tooDeep] at follows
      exact follows.lt_of_nested opens
    settled := fun shallow higher below =>
      (follows.deepen (map_eq_error_iff.not.mpr shallow) below).resolve_eq opens }⟩

end Include
end ShaderGraph
