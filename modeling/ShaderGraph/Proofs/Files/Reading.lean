import ShaderGraph.Files.Tree
import ShaderGraph.Proofs.Files.Normal

/-!
# Files that can be read

The names of a normalized path lead from the root, or from a place above the working
directory, to the place of a file. So a file has few normalized paths, as many as the working
directory is deep and three more: two absolute ones, and one for each number of steps up
to the root. Further steps up stay at the root, so the paths that climb above it are
endlessly many.
-/

namespace ShaderGraph

namespace FileTree

variable {files : FileTree} {path : String}

/-! ## Following a normalized path -/

theorem isDirectoryAt_nil (files : FileTree) : files.isDirectoryAt [] = true := rfl

/-- Names lead from a place to the place below it that they are. -/
theorem follow_of_forall_ne
    {place names result : List String}
    (areMoves : ∀ name ∈ names, Path.IsMove name ∧ name ≠ "..")
    (followed : files.follow path place names = .ok result) : result = place ++ names := by
  induction names generalizing place with
  | nil =>
      cases followed
      exact (List.append_nil _).symm
  | cons name names inductionHypothesis =>
      obtain ⟨⟨isMove, notUp⟩, others⟩ := List.forall_mem_cons.mp areMoves
      rw [follow] at followed
      split at followed
      case isTrue => cases followed
      case isFalse =>
        rw [if_neg (by simp [isMove.filled, isMove.moves]), if_neg (by simp [notUp])] at followed
        split at followed
        case isTrue => simpa using inductionHypothesis others followed
        case isFalse => cases followed

/-- Steps up take back the last segments of a place, and stay at the root if they are
more than those. -/
theorem follow_of_replicate
    {count : Nat}
    {place names result : List String}
    (areMoves : ∀ name ∈ names, Path.IsMove name ∧ name ≠ "..")
    (followed : files.follow path place (List.replicate count ".." ++ names) = .ok result) :
    result = place.take (place.length - count) ++ names := by
  induction count generalizing place with
  | zero =>
      rw [Nat.sub_zero, List.take_length]
      exact follow_of_forall_ne areMoves followed
  | succ count inductionHypothesis =>
      rw [List.replicate_succ, List.cons_append, follow] at followed
      split at followed
      case isTrue => cases followed
      case isFalse =>
        rw [if_neg (by decide), if_pos (by decide)] at followed
        have shorter : place.length - 1 - count = place.length - (count + 1) := by omega
        rw [inductionHypothesis followed, List.length_dropLast, shorter, List.dropLast_eq_take,
          List.take_take, Nat.min_eq_left (by omega)]

theorem follow_empty (path : String) (rest : List String) :
    files.follow path [] ("" :: rest) = files.follow path [] rest := by
  rw [follow, isDirectoryAt_nil]
  rfl

theorem follow_absolute
    {slashes : String}
    {moves : List String}
    (path : String)
    (isSlashes : slashes = "/" ∨ slashes = "//")
    (areMoves : ∀ move ∈ moves, Path.IsMove move) :
    files.follow path (files.origin (slashes ++ Path.ofSegments moves))
        (Path.segments (slashes ++ Path.ofSegments moves)) =
      files.follow path [] moves := by
  have followed : files.follow path [] (Path.segments (Path.ofSegments moves)) =
      files.follow path [] moves := by
    by_cases none : moves = []
    · subst none
      exact follow_empty path []
    · rw [Path.segments_ofSegments none fun move present => (areMoves move present).noSlash]
  have absolute (rest : String) : files.origin ("/" ++ rest) = [] := by
    rw [origin, Path.isAbsolute, String.toList_append]
    rfl
  rcases isSlashes with rfl | rfl
  · rw [absolute, Path.segments_slash, follow_empty, followed]
  · have twice : "//" ++ Path.ofSegments moves = "/" ++ ("/" ++ Path.ofSegments moves) := by
      rw [← String.append_assoc]
      rfl
    rw [twice, absolute, Path.segments_slash, Path.segments_slash, follow_empty, follow_empty,
      followed]

/-- A point leads to the working directory. -/
theorem isDirectoryAt_of_point
    {place : List String}
    (followed : files.follow "." (files.origin ".") (Path.segments ".") = .ok place) :
    files.isDirectoryAt place = true := by
  have segments : Path.segments "." = ["."] := by decide
  rw [segments, follow] at followed
  split at followed
  case isTrue => cases followed
  case isFalse isDirectory =>
    cases followed
    simpa using isDirectory

/-- A file that can be read stands at the place of an entry. -/
theorem exists_place_of_read
    {text : String}
    (read : files.read path = .ok text) :
    ∃ place, files.follow path (files.origin path) (Path.segments path) = .ok place ∧
      files.isDirectoryAt place = false ∧ ∃ entry ∈ files.entries, entry.1 = place := by
  rw [FileTree.read] at read
  split at read
  case isTrue => cases read
  case isFalse =>
    split at read
    case h_1 => cases read
    case h_2 place located =>
      rw [locate] at located
      split at located
      case isTrue => cases located
      case isFalse =>
        refine ⟨place, located, ?_⟩
        cases found : files.content? place with
        | none =>
            rw [found] at read
            cases read
        | some content =>
            rw [found] at read
            have file : files.isDirectoryAt place = false := by
              rw [isDirectoryAt, found]
              cases content with
              | directory => cases read
              | _ => rfl
            have below : place ≠ [] := by
              rintro rfl
              cases file
            rw [content?, if_neg (by simpa using below)] at found
            obtain ⟨before, after, split, -⟩ := List.lookup_eq_some_iff.mp found
            exact ⟨file, (place, content), by simp [split], rfl⟩

/-! ## The paths of a file -/

/-- A path starts with more steps up than lead to the root. -/
def ClimbsAbove (files : FileTree) (path : String) : Prop :=
  files.workingDirectory.length < Path.stepsUp path

instance (files : FileTree) : DecidablePred files.ClimbsAbove :=
  fun path => inferInstanceAs (Decidable (files.workingDirectory.length < Path.stepsUp path))

/-- The normalized paths that lead to a place and do not climb above the root: two absolute
ones, and one for each number of steps up from the working directory. -/
def pathsTo (files : FileTree) (place : List String) : List String :=
  let depth := files.workingDirectory.length
  ["/" ++ Path.ofSegments place, "//" ++ Path.ofSegments place] ++
    (List.range (depth + 1)).map fun count =>
      Path.ofSegments (List.replicate count ".." ++ place.drop (depth - count))

/-- The normalized paths of all entries that do not climb above the root. -/
def paths (files : FileTree) : List String :=
  files.entries.flatMap fun entry => files.pathsTo entry.1

theorem length_paths (files : FileTree) :
    files.paths.length = files.entries.length * (files.workingDirectory.length + 3) := by
  have each (place : List String) :
      (files.pathsTo place).length = files.workingDirectory.length + 3 := by
    simp only [pathsTo, List.length_append, List.length_cons, List.length_nil, List.length_map,
      List.length_range]
    omega
  rw [paths, List.length_flatMap]
  simp [each, List.map_const']

/-- Slashes and names that lead to a place are one of its absolute paths. -/
theorem mem_pathsTo_of_absolute
    {slashes : String}
    {names place : List String}
    (isSlashes : slashes = "/" ∨ slashes = "//")
    (areNames : ∀ name ∈ names, Path.IsMove name ∧ name ≠ "..")
    (followed : files.follow path (files.origin (slashes ++ Path.ofSegments names))
      (Path.segments (slashes ++ Path.ofSegments names)) = .ok place) :
    slashes ++ Path.ofSegments names ∈ files.pathsTo place := by
  rw [follow_absolute path isSlashes fun name present => (areNames name present).1] at followed
  have same := follow_of_forall_ne areNames followed
  rw [List.nil_append] at same
  subst same
  rcases isSlashes with rfl | rfl
  · exact List.mem_cons_self
  · exact List.mem_cons_of_mem _ List.mem_cons_self

/-- Steps up and names that lead to a place without climbing above the root are one of its
relative paths. -/
theorem mem_pathsTo_of_relative
    {moves place : List String}
    (climbs : Path.Climbs moves.reverse)
    (some : moves ≠ [])
    (followed : files.follow path (files.origin (Path.ofSegments moves))
      (Path.segments (Path.ofSegments moves)) = .ok place)
    (stays : ¬files.ClimbsAbove (Path.ofSegments moves)) :
    Path.ofSegments moves ∈ files.pathsTo place := by
  have areMoves (move : String) (present : move ∈ moves) : Path.IsMove move :=
    climbs.isMove move (List.mem_reverse.mpr present)
  have segments := Path.segments_ofSegments some fun move present => (areMoves move present).noSlash
  rw [origin, Path.isAbsolute_ofSegments areMoves, segments] at followed
  obtain ⟨count, names, rfl, named⟩ := climbs.exists_replicate
  have same := follow_of_replicate named followed
  rw [ClimbsAbove, Path.stepsUp_of_segments segments named, Nat.not_lt] at stays
  have rest : place.drop (files.workingDirectory.length - count) = names := by
    rw [same]
    exact List.drop_left' (by simp)
  refine List.mem_append_right _ (List.mem_map.mpr ⟨count, ?_, by rw [rest]⟩)
  exact List.mem_range.mpr (Nat.lt_succ_of_le stays)

/-- A normalized path that can be read is one of the few of its file, unless it climbs above
the root. -/
theorem mem_paths_of_read
    {text : String}
    (read : files.read (Path.normalize path) = .ok text)
    (stays : ¬files.ClimbsAbove (Path.normalize path)) : Path.normalize path ∈ files.paths := by
  obtain ⟨place, followed, file, entry, listed, rfl⟩ := exists_place_of_read read
  refine List.mem_flatMap.mpr ⟨entry, listed, ?_⟩
  have climbs := Path.climbs_kept path
  rcases Path.normalize_eq_or path with point | ⟨shape, filled⟩
  · rw [point] at followed
    rw [isDirectoryAt_of_point followed] at file
    cases file
  rw [shape] at followed stays ⊢
  cases absolute : Path.isAbsolute path with
  | true =>
      refine mem_pathsTo_of_absolute (Path.leadingSlashes_of_isAbsolute absolute)
        (fun name present => ⟨?_, Path.not_up_of_mem_kept absolute present⟩) followed
      exact climbs.isMove name (List.mem_reverse.mpr present)
  | false =>
      rw [Path.leadingSlashes_of_not_isAbsolute absolute, String.empty_append] at followed stays ⊢
      exact mem_pathsTo_of_relative climbs (filled.resolve_left (by simp [absolute])) followed stays

end FileTree
end ShaderGraph
