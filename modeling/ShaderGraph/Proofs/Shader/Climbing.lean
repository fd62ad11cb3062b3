import ShaderGraph.Proofs.Shader.Resolution

/-!
# Files that are included without end

A step up from the root stays there. So a file at the root that includes itself from the
directory above its own is opened under ever new paths, and its resolution comes to no text
however deep files may be nested.
-/

namespace ShaderGraph
namespace Include

/-- A file at the root that includes itself from the directory above its own. -/
def climbingFiles : FileTree where
  entries := [(["b"], .text "#include \"../b\"\n")]

/-- The directory that one step up and some more lead to. -/
def above : Nat -> String
  | 0 => ".."
  | count + 1 => above count ++ "/" ++ ".."

/-- The path of the file in such a directory. -/
def climbingPath (count : Nat) : String :=
  above count ++ "/" ++ "b"

/-! ## The paths -/

theorem toList_above_ends (count : Nat) : (above count).toList.getLast? = some '.' := by
  cases count with
  | zero => decide
  | succ count => simp [above]

theorem isEmpty_above (count : Nat) : (above count).isEmpty = false := by
  cases count <;> simp [above]

/-- Each of the paths has one step up more. -/
theorem segments_climbingPath (count : Nat) :
    Path.segments (climbingPath count) = List.replicate (count + 1) ".." ++ ["b"] := by
  have last : Path.segments "b" = ["b"] := by decide
  have steps : Path.segments (above count) = List.replicate (count + 1) ".." := by
    induction count with
    | zero => decide
    | succ count inductionHypothesis =>
        have up : Path.segments ".." = [".."] := by decide
        rw [above, Path.segments_append, inductionHypothesis, up, ← List.replicate_succ']
  rw [climbingPath, Path.segments_append, steps, last]

theorem isMove_b : ∀ name ∈ ["b"], Path.IsMove name ∧ name ≠ ".." :=
  List.forall_mem_singleton.mpr ⟨⟨by decide, by decide, by decide⟩, by decide⟩

theorem stepsUp_climbingPath (count : Nat) : Path.stepsUp (climbingPath count) = count + 1 :=
  Path.stepsUp_of_segments (segments_climbingPath count) isMove_b

theorem isAbsolute_climbingPath (count : Nat) : Path.isAbsolute (climbingPath count) = false := by
  rw [← Path.ofSegments_segments (climbingPath count), segments_climbingPath]
  refine Path.isAbsolute_ofSegments fun move present => ?_
  rcases List.mem_append.mp present with up | name
  · rw [List.eq_of_mem_replicate up]
    exact ⟨by decide, by decide, by decide⟩
  · exact (isMove_b move name).1

theorem isEmpty_climbingPath (count : Nat) : (climbingPath count).isEmpty = false := by
  simp [climbingPath]

/-- From the directory of one of the paths the file leads to the next one. -/
theorem pathOf_above (count : Nat) : pathOf (above count) "../b" = climbingPath (count + 1) := by
  have joined : Path.join (above count) "../b" = climbingPath (count + 1) := by
    have relative : Path.isAbsolute "../b" = false := by decide
    have target : "../b" = ".." ++ ("/" ++ "b") := by decide
    rw [Path.join, relative, isEmpty_above, toList_above_ends, climbingPath, above, target]
    simp [String.append_assoc]
  rw [pathOf, joined]
  exact Path.normalize_of_segments (segments_climbingPath _) isMove_b (isAbsolute_climbingPath _)
    (isEmpty_climbingPath _)

/-- The directory of one of the paths is the one above. -/
theorem directory_climbingPath (count : Nat) :
    Path.directory (climbingPath count) = above count :=
  Path.directory_append (toList_above_ends count) (by decide) (by decide)

/-! ## The file -/

/-- However many steps lead up, the file at the root is found. -/
theorem follow_climbingFiles (path : String) (count : Nat) :
    climbingFiles.follow path [] (List.replicate count ".." ++ ["b"]) = .ok ["b"] := by
  induction count with
  | zero => rfl
  | succ count inductionHypothesis => exact inductionHypothesis

theorem hasNull_climbingPath (count : Nat) : Path.hasNull (climbingPath count) = false := by
  have noNull : '\x00' ∉ (above count).toList := by
    induction count with
    | zero => decide
    | succ count inductionHypothesis => simpa [above] using inductionHypothesis
  simpa [Path.hasNull, climbingPath] using noNull

/-- The file is read under each of its paths. -/
theorem read_climbingPath (count : Nat) :
    climbingFiles.read (climbingPath count) = .ok "#include \"../b\"\n" := by
  have located : climbingFiles.locate (climbingPath count) = .ok ["b"] := by
    rw [FileTree.locate, isEmpty_climbingPath, hasNull_climbingPath, FileTree.origin,
      isAbsolute_climbingPath, segments_climbingPath]
    exact follow_climbingFiles _ _
  have content : climbingFiles.content? ["b"] = some (.text "#include \"../b\"\n") := rfl
  have text : String.ofList (Text.unifyLineBreaks "#include \"../b\"\n".toList) =
      "#include \"../b\"\n" := by decide
  rw [FileTree.read, hasNull_climbingPath, located]
  simp only [content, text, Bool.false_eq_true, if_false]

/-- In each of its directories the file has one directive, for the next path. -/
theorem partsIn_above (count : Nat) :
    partsIn (above count) "#include \"../b\"\n".toList = [.directive "../b"] := by
  have split : Directive.split "#include \"../b\"\n".toList = [.directive "../b"] := by
    decide +kernel
  rw [partsIn, isEmpty_above, split]
  rfl

/-- A path that climbs higher than all before is not among them. -/
theorem climbingPath_not_mem
    {earlier : List String}
    {count : Nat}
    (low : ∀ path ∈ earlier, Path.stepsUp path ≤ count) : climbingPath count ∉ earlier :=
  fun listed => by
    have steps := low _ listed
    rw [stepsUp_climbingPath] at steps
    omega

/-- By induction on how deep files may be nested: the paths that are opened climb higher and
higher, until one of them is nested too deep. -/
theorem follows_climbingFiles (depth count : Nat) :
    ∃ visits, Follows climbingFiles depth (above count) [.directive "../b"] visits
        (.error .tooDeep) ∧
      ∀ earlier, (∀ path ∈ earlier, Path.stepsUp path ≤ count + 1) ->
        OpensFirst earlier visits := by
  have read := read_climbingPath (count + 1)
  rw [← pathOf_above] at read
  induction depth generalizing count with
  | zero =>
      refine ⟨[⟨pathOf (above count) "../b", true⟩], .tooDeep read, fun earlier low => ?_⟩
      rw [pathOf_above]
      exact opensFirst_opened_iff.mpr ⟨climbingPath_not_mem low, trivial⟩
  | succ depth inductionHypothesis =>
      have next := read_climbingPath (count + 2)
      rw [← pathOf_above] at next
      obtain ⟨inner, follows, opens⟩ := inductionHypothesis (count + 1) next
      refine ⟨⟨pathOf (above count) "../b", true⟩ :: inner, .failed read ?_, fun earlier low => ?_⟩
      · rwa [pathOf_above, directory_climbingPath, partsIn_above]
      · rw [pathOf_above]
        refine opensFirst_opened_iff.mpr ⟨climbingPath_not_mem low, opens _ ?_⟩
        refine List.forall_mem_cons.mpr ⟨(stepsUp_climbingPath _).le, fun path listed => ?_⟩
        exact (low path listed).trans (Nat.le_succ _)

/-- However deep files may be nested, these are nested deeper. -/
theorem resolve_climbingFiles (limit : Nat) :
    resolve climbingFiles ".." "#include \"../b\"\n" limit = .error .tooDeep := by
  obtain ⟨visits, follows, opens⟩ := follows_climbingFiles limit 0
  have first := partsIn_above 0
  rw [above] at first
  rw [above, ← first] at follows
  exact follows.resolve_eq (opens [] (List.forall_mem_nil _))

/-- A directive for a target that no path can have. -/
def nullSource : String := "#include \"a\x00b\"\n"

/-- A resolution can fail where the file system refuses no path: the target may be no path,
and files may be nested without end. -/
theorem resolve_fails_without_refusal :
    (Follows {} depthLimit "." (partsIn "." nullSource.toList) [⟨"a\x00b", true⟩]
        (.error (.malformed .nullCharacter)) ∧
      FileTree.read {} "a\x00b" = .error (.malformed .nullCharacter) ∧
      resolve {} "." nullSource = .error (.malformed .nullCharacter)) ∧
    ∀ limit, resolve climbingFiles ".." "#include \"../b\"\n" limit = .error .tooDeep := by
  have parts : partsIn "." nullSource.toList = [.directive "a\x00b"] := by decide +kernel
  have path : pathOf "." "a\x00b" = "a\x00b" := by decide +kernel
  have read : FileTree.read {} "a\x00b" = .error (.malformed .nullCharacter) := by decide +kernel
  have follows : Follows {} depthLimit "." (partsIn "." nullSource.toList) [⟨"a\x00b", true⟩]
      (.error (.malformed .nullCharacter)) := by
    rw [parts, ← path]
    exact .unreadable (path.symm ▸ read)
  have opens : OpensFirst [] [⟨"a\x00b", true⟩] :=
    opensFirst_opened_iff.mpr ⟨List.not_mem_nil, trivial⟩
  exact ⟨⟨follows, read, follows.resolve_eq opens⟩, resolve_climbingFiles⟩

end Include
end ShaderGraph
