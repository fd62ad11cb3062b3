import ShaderGraph.Proofs.Shader.Include

/-!
# Directives that are followed

The directives of a source and of the files that it includes are visited in the order in
which they are read: behind a directive that opens its file come the directives of the file,
and then the ones behind it. Where each path is opened when it is visited first, the order of
reading leaves no choice. Following ends with a text, with the first file that cannot be
read, or where a file is nested too deep.
-/

namespace ShaderGraph
namespace Include

variable {files : FileTree} {directory : String} {seen : List String}

/-! ## Visits -/

/-- A directive that was met: the path that its target leads to, and whether the file there
was opened. -/
structure Visit where
  path : String
  opened : Bool
  deriving DecidableEq

/-- Each visit opens its file if its path is not among the ones before. -/
def OpensFirst : List String -> List Visit -> Prop
  | _, [] => True
  | earlier, visit :: rest =>
      (visit.opened = true ↔ visit.path ∉ earlier) ∧ OpensFirst (visit.path :: earlier) rest

/-- The paths that visits open, in their order. -/
def openedPaths (visits : List Visit) : List String :=
  (visits.filter Visit.opened).map Visit.path

theorem openedPaths_opened (path : String) (visits : List Visit) :
    openedPaths (⟨path, true⟩ :: visits) = path :: openedPaths visits := rfl

theorem openedPaths_singleton (path : String) : openedPaths [⟨path, true⟩] = [path] := rfl

/-- Visits one after the other open the paths of both. -/
theorem openedPaths_append (visits more : List Visit) :
    openedPaths (visits ++ more) = openedPaths visits ++ openedPaths more := by
  rw [openedPaths, List.filter_append, List.map_append]
  rfl

/-- A visit that opens its file is the first one of its path. -/
theorem opensFirst_opened_iff {earlier : List String} {path : String} {visits : List Visit} :
    OpensFirst earlier (⟨path, true⟩ :: visits) ↔
      path ∉ earlier ∧ OpensFirst (path :: earlier) visits := by
  simp only [OpensFirst, true_iff]

/-- A visit that passes its file over is not the first one of its path. -/
theorem opensFirst_later_iff {earlier : List String} {path : String} {visits : List Visit} :
    OpensFirst earlier (⟨path, false⟩ :: visits) ↔
      path ∈ earlier ∧ OpensFirst (path :: earlier) visits := by
  simp only [OpensFirst, Bool.false_eq_true, false_iff, not_not]

/-- Only which paths come before matters to what is opened. -/
theorem OpensFirst.congr
    {earlier others : List String}
    {visits : List Visit}
    (opens : OpensFirst earlier visits)
    (same : ∀ path, path ∈ earlier ↔ path ∈ others) : OpensFirst others visits := by
  induction visits generalizing earlier others with
  | nil => trivial
  | cons visit rest inductionHypothesis =>
      refine ⟨opens.1.trans (same visit.path).not, inductionHypothesis opens.2 fun path => ?_⟩
      rw [List.mem_cons, List.mem_cons, same]

/-- Visits one after the other open first what was not visited before them. -/
theorem opensFirst_append_iff {earlier : List String} {visits more : List Visit} :
    OpensFirst earlier (visits ++ more) ↔
      OpensFirst earlier visits ∧ OpensFirst (visits.map Visit.path ++ earlier) more := by
  induction visits generalizing earlier with
  | nil => exact (true_and _).symm ▸ Iff.rfl
  | cons visit rest inductionHypothesis =>
      have moved : OpensFirst (rest.map Visit.path ++ visit.path :: earlier) more ↔
          OpensFirst ((visit :: rest).map Visit.path ++ earlier) more :=
        ⟨fun opens => opens.congr fun path => by simp [or_left_comm],
          fun opens => opens.congr fun path => by simp [or_left_comm]⟩
      rw [List.cons_append, OpensFirst, OpensFirst, inductionHypothesis, moved, and_assoc]

/-- An opened path was not visited before. -/
theorem OpensFirst.not_mem_of_mem
    {earlier : List String}
    {visits : List Visit}
    {path : String}
    (opens : OpensFirst earlier visits)
    (present : path ∈ openedPaths visits) : path ∉ earlier := by
  induction visits generalizing earlier with
  | nil => cases present
  | cons visit rest inductionHypothesis =>
      rw [openedPaths, List.filter_cons] at present
      split at present
      case isTrue opened =>
        rcases List.mem_cons.mp present with rfl | later
        · exact opens.1.mp opened
        · exact fun listed => inductionHypothesis opens.2 later (List.mem_cons_of_mem _ listed)
      case isFalse =>
        exact fun listed => inductionHypothesis opens.2 present (List.mem_cons_of_mem _ listed)

/-- No path is opened twice. -/
theorem OpensFirst.nodup
    {earlier : List String}
    {visits : List Visit}
    (opens : OpensFirst earlier visits) : (openedPaths visits).Nodup := by
  induction visits generalizing earlier with
  | nil => exact List.nodup_nil
  | cons visit rest inductionHypothesis =>
      rw [openedPaths, List.filter_cons]
      split
      · refine List.nodup_cons.mpr ⟨fun again => ?_, inductionHypothesis opens.2⟩
        exact opens.2.not_mem_of_mem again List.mem_cons_self
      · exact inductionHypothesis opens.2

/-! ## Following directives -/

/-- The parts of a text that is resolved in a directory. Without a directory it has no
directives. -/
def partsIn (directory : String) (text : List Char) : List Directive.Piece :=
  if directory.isEmpty then text.map .character else Directive.split text

/-- Following the directives of parts in a directory, where files are nested at most as deep
as given: the visits in the order in which the directives are read, and the text that comes
of it or the failure. What an opened file is replaced by is its text with the directives
followed in the directory of the file. -/
inductive Follows (files : FileTree) :
    Nat -> String -> List Directive.Piece -> List Visit -> Except Failure (List Char) -> Prop
  | nil
      {depth : Nat}
      {directory : String} : Follows files depth directory [] [] (.ok [])
  | character
      {depth : Nat}
      {directory : String}
      {value : Char}
      {rest : List Directive.Piece}
      {visits : List Visit}
      {outcome : Except Failure (List Char)}
      (behind : Follows files depth directory rest visits outcome) :
      Follows files depth directory (.character value :: rest) visits
        (outcome.map (value :: ·))
  | first
      {depth : Nat}
      {directory target text : String}
      {replaced : List Char}
      {rest : List Directive.Piece}
      {inner visits : List Visit}
      {outcome : Except Failure (List Char)}
      (read : files.read (pathOf directory target) = .ok text)
      (inside : Follows files depth (Path.directory (pathOf directory target))
        (partsIn (Path.directory (pathOf directory target)) text.toList) inner (.ok replaced))
      (behind : Follows files (depth + 1) directory rest visits outcome) :
      Follows files (depth + 1) directory (.directive target :: rest)
        (⟨pathOf directory target, true⟩ :: (inner ++ visits)) (outcome.map (replaced ++ ·))
  | failed
      {depth : Nat}
      {directory target text : String}
      {rest : List Directive.Piece}
      {inner : List Visit}
      {failure : Failure}
      (read : files.read (pathOf directory target) = .ok text)
      (inside : Follows files depth (Path.directory (pathOf directory target))
        (partsIn (Path.directory (pathOf directory target)) text.toList) inner (.error failure)) :
      Follows files (depth + 1) directory (.directive target :: rest)
        (⟨pathOf directory target, true⟩ :: inner) (.error failure)
  | tooDeep
      {directory target text : String}
      {rest : List Directive.Piece}
      (read : files.read (pathOf directory target) = .ok text) :
      Follows files 0 directory (.directive target :: rest) [⟨pathOf directory target, true⟩]
        (.error .tooDeep)
  | unreadable
      {depth : Nat}
      {directory target : String}
      {rest : List Directive.Piece}
      {error : ReadError}
      (read : files.read (pathOf directory target) = .error error) :
      Follows files depth directory (.directive target :: rest) [⟨pathOf directory target, true⟩]
        (.error (failureOf directory target error))
  | later
      {depth : Nat}
      {directory target : String}
      {rest : List Directive.Piece}
      {visits : List Visit}
      {outcome : Except Failure (List Char)}
      (behind : Follows files depth directory rest visits outcome) :
      Follows files depth directory (.directive target :: rest)
        (⟨pathOf directory target, false⟩ :: visits) outcome

/-- A target leads to a path in its shortest form. -/
theorem exists_normalize_pathOf (directory target : String) :
    ∃ other, pathOf directory target = Path.normalize other :=
  ⟨Path.join directory target, rfl⟩

/-- Every path that is opened is in its shortest form. -/
theorem Follows.normalized
    {depth : Nat}
    {parts : List Directive.Piece}
    {visits : List Visit}
    {outcome : Except Failure (List Char)}
    (follows : Follows files depth directory parts visits outcome) :
    ∀ path ∈ openedPaths visits, ∃ other, path = Path.normalize other := by
  induction follows with
  | nil => exact List.forall_mem_nil _
  | character _ behind => exact behind
  | first _ _ _ inside behind =>
      rw [openedPaths_opened, openedPaths_append]
      exact List.forall_mem_cons.mpr
        ⟨exists_normalize_pathOf _ _, List.forall_mem_append.mpr ⟨inside, behind⟩⟩
  | failed _ _ inside =>
      rw [openedPaths_opened]
      exact List.forall_mem_cons.mpr ⟨exists_normalize_pathOf _ _, inside⟩
  | tooDeep =>
      rw [openedPaths_singleton]
      exact List.forall_mem_singleton.mpr (exists_normalize_pathOf _ _)
  | unreadable =>
      rw [openedPaths_singleton]
      exact List.forall_mem_singleton.mpr (exists_normalize_pathOf _ _)
  | later _ behind => exact behind

/-! ## How following ends -/

/-- A changed value fails as the value does. -/
theorem map_eq_error_iff
    {outcome : Except Failure Value}
    {change : Value -> Other}
    {failure : Failure} : outcome.map change = .error failure ↔ outcome = .error failure := by
  cases outcome with
  | error other => simp [Except.map]
  | ok value => simp [Except.map]

/-- All opened files can be read where a text comes of them or one is nested too deep. Any
other failure is that of the last opened file, the only one that cannot be read. -/
inductive Ends (files : FileTree) : List String -> Except Failure (List Char) -> Prop
  | resolved
      {opened : List String}
      {text : List Char}
      (readable : AllReadable files opened) : Ends files opened (.ok text)
  | tooDeep
      {opened : List String}
      (readable : AllReadable files opened) : Ends files opened (.error .tooDeep)
  | unreadable
      {opened : List String}
      {directory target : String}
      {error : ReadError}
      (readable : AllReadable files opened)
      (read : files.read (pathOf directory target) = .error error) :
      Ends files (opened ++ [pathOf directory target])
        (.error (failureOf directory target error))

theorem Ends.map
    {opened : List String}
    {outcome : Except Failure (List Char)}
    (ends : Ends files opened outcome)
    (change : List Char -> List Char) : Ends files opened (outcome.map change) := by
  cases ends with
  | resolved readable => exact .resolved readable
  | tooDeep readable => exact .tooDeep readable
  | unreadable readable read => exact .unreadable readable read

/-- Where a text comes of them, all opened files can be read. -/
theorem Ends.readable
    {opened : List String}
    {text : List Char}
    (ends : Ends files opened (.ok text)) : AllReadable files opened := by
  cases ends with
  | resolved readable => exact readable

/-- Readable paths in front do not change how following ends. -/
theorem Ends.append
    {before opened : List String}
    {outcome : Except Failure (List Char)}
    (readable : AllReadable files before)
    (ends : Ends files opened outcome) : Ends files (before ++ opened) outcome := by
  cases ends with
  | resolved others => exact .resolved (List.forall_mem_append.mpr ⟨readable, others⟩)
  | tooDeep others => exact .tooDeep (List.forall_mem_append.mpr ⟨readable, others⟩)
  | unreadable others read =>
      rw [← List.append_assoc]
      exact .unreadable (List.forall_mem_append.mpr ⟨readable, others⟩) read

theorem allReadable_singleton
    {path text : String}
    (read : files.read path = .ok text) : AllReadable files [path] :=
  List.forall_mem_singleton.mpr ⟨text, read⟩

/-- Following directives ends in one of these ways. -/
theorem Follows.ends
    {depth : Nat}
    {parts : List Directive.Piece}
    {visits : List Visit}
    {outcome : Except Failure (List Char)}
    (follows : Follows files depth directory parts visits outcome) :
    Ends files (openedPaths visits) outcome := by
  induction follows with
  | nil => exact .resolved (List.forall_mem_nil _)
  | character _ behind => exact behind.map _
  | first read _ _ inside behind =>
      rw [openedPaths_opened, openedPaths_append, ← List.cons_append]
      exact .append (List.forall_mem_cons.mpr ⟨⟨_, read⟩, inside.readable⟩) (behind.map _)
  | failed read _ inside =>
      rw [openedPaths_opened, ← List.singleton_append]
      exact .append (allReadable_singleton read) inside
  | tooDeep read =>
      rw [openedPaths_singleton]
      exact .tooDeep (allReadable_singleton read)
  | unreadable read =>
      rw [openedPaths_singleton, ← List.nil_append [_]]
      exact .unreadable (List.forall_mem_nil _) read
  | later _ behind => exact behind

/-- A property that an outcome takes over from failed reads is had by the outcome where an
opened path has it. -/
theorem Ends.failed_iff
    {opened : List String}
    {outcome : Except Failure (List Char)}
    (ends : Ends files opened outcome)
    (failed : Except Failure (List Char) -> Prop)
    (fails : Except ReadError String -> Prop)
    (read_ok : ∀ text, ¬fails (.ok text))
    (resolved : ∀ text, ¬failed (.ok text))
    (nested : ¬failed (.error .tooDeep))
    (taken : ∀ directory target error,
      failed (.error (failureOf directory target error)) ↔ fails (.error error)) :
    failed outcome ↔ ∃ path ∈ opened, fails (files.read path) := by
  have none {paths : List String} (readable : AllReadable files paths) :
      ¬∃ path ∈ paths, fails (files.read path) := by
    rintro ⟨path, present, unread⟩
    obtain ⟨text, read⟩ := readable path present
    exact read_ok text (read ▸ unread)
  cases ends with
  | resolved readable => exact iff_of_false (resolved _) (none readable)
  | tooDeep readable => exact iff_of_false nested (none readable)
  | unreadable readable read =>
      simp only [List.mem_append, List.mem_singleton, or_and_right, exists_or, exists_eq_left]
      rw [or_iff_right (none readable), read, taken]

/-- The compilation fails where the file system refuses an opened path, and only there. -/
theorem Ends.refused_iff
    {opened : List String}
    {outcome : Except Failure (List Char)}
    (ends : Ends files opened outcome) :
    (∃ error, outcome = .error (.compilation error)) ↔
      ∃ path ∈ opened, ∃ error, files.read path = .error (.refused error) := by
  refine ends.failed_iff (fun outcome => ∃ error, outcome = .error (.compilation error))
    (fun read => ∃ error, read = .error (.refused error))
    (by simp) (by simp) (by simp) ?_
  rintro directory target (error | error) <;> simp [failureOf]

/-- A path or bytes that can be no text fail as such, and nothing else does. -/
theorem Ends.malformed_iff
    {opened : List String}
    {outcome : Except Failure (List Char)}
    (ends : Ends files opened outcome)
    (format : FormatError) :
    outcome = .error (.malformed format) ↔
      ∃ path ∈ opened, files.read path = .error (.malformed format) := by
  refine ends.failed_iff (· = .error (.malformed format)) (· = .error (.malformed format))
    (by simp) (by simp) (by simp) ?_
  rintro directory target (error | error) <;> simp [failureOf]

/-- Nothing else fails, but for files that are nested too deep. All files that were opened
until then can be read. -/
theorem Ends.tooDeep_or
    {opened : List String}
    {failure : Failure}
    (ends : Ends files opened (.error failure)) :
    (∃ error, failure = .compilation error) ∨ (∃ error, failure = .malformed error) ∨
      failure = .tooDeep ∧ AllReadable files opened := by
  cases ends with
  | tooDeep readable => exact .inr (.inr ⟨rfl, readable⟩)
  | @unreadable _ directory target error readable read =>
      cases error with
      | refused error => exact .inl ⟨_, rfl⟩
      | malformed error => exact .inr (.inl ⟨error, rfl⟩)

/-! ## Depth -/

theorem failureOf_ne_tooDeep (directory target : String) (error : ReadError) :
    failureOf directory target error ≠ .tooDeep := by
  cases error <;> exact Failure.noConfusion

/-- Files that are nested too deep were all opened. -/
theorem Follows.lt_of_tooDeep
    {depth : Nat}
    {parts : List Directive.Piece}
    {visits : List Visit}
    {outcome : Except Failure (List Char)}
    (follows : Follows files depth directory parts visits outcome)
    (tooDeep : outcome = .error .tooDeep) : depth < (openedPaths visits).length := by
  induction follows with
  | nil => cases tooDeep
  | character _ behind => exact behind (map_eq_error_iff.mp tooDeep)
  | @first depth _ _ _ _ _ inner visits _ _ _ _ _ behind =>
      have deeper := behind (map_eq_error_iff.mp tooDeep)
      rw [openedPaths_opened, openedPaths_append, List.length_cons, List.length_append]
      omega
  | failed _ _ inside => exact Nat.succ_lt_succ (inside tooDeep)
  | tooDeep => exact Nat.zero_lt_one
  | unreadable => exact absurd (Except.error.inj tooDeep) (failureOf_ne_tooDeep _ _ _)
  | later _ behind => exact behind tooDeep

/-- Where files are not nested too deep, more depth changes nothing. -/
theorem Follows.deepen
    {depth deeper : Nat}
    {parts : List Directive.Piece}
    {visits : List Visit}
    {outcome : Except Failure (List Char)}
    (follows : Follows files depth directory parts visits outcome)
    (shallow : outcome ≠ .error .tooDeep)
    (below : depth ≤ deeper) : Follows files deeper directory parts visits outcome := by
  induction follows generalizing deeper with
  | nil => exact .nil
  | character _ behind => exact (behind (map_eq_error_iff.not.mp shallow) below).character
  | first read _ _ inside behind =>
      obtain ⟨deeper, rfl⟩ := Nat.exists_eq_add_one_of_ne_zero (Nat.ne_zero_of_lt below)
      exact .first read (inside (by simp) (Nat.le_of_succ_le_succ below))
        (behind (map_eq_error_iff.not.mp shallow) below)
  | failed read _ inside =>
      obtain ⟨deeper, rfl⟩ := Nat.exists_eq_add_one_of_ne_zero (Nat.ne_zero_of_lt below)
      exact .failed read (inside shallow (Nat.le_of_succ_le_succ below))
  | tooDeep => exact absurd rfl shallow
  | unreadable read => exact .unreadable read
  | later _ behind => exact (behind shallow below).later

/-! ## The order of reading -/

/-- A path is not both opened and passed over. -/
theorem OpensFirst.not_later
    {earlier : List String}
    {path : String}
    {visits others : List Visit}
    (opens : OpensFirst earlier (⟨path, true⟩ :: visits))
    (passes : OpensFirst earlier (⟨path, false⟩ :: others)) : False :=
  (opensFirst_opened_iff.mp opens).1 (opensFirst_later_iff.mp passes).1

/-- The order of reading leaves no choice: what opens each path where it is visited first
makes the same visits and comes to the same end. -/
theorem Follows.unique
    {depth : Nat}
    {parts : List Directive.Piece}
    {earlier : List String}
    {visits others : List Visit}
    {outcome other : Except Failure (List Char)}
    (follows : Follows files depth directory parts visits outcome)
    (opens : OpensFirst earlier visits)
    (followsOther : Follows files depth directory parts others other)
    (opensOther : OpensFirst earlier others) : others = visits ∧ other = outcome := by
  induction follows generalizing earlier others other with
  | nil =>
      cases followsOther
      exact ⟨rfl, rfl⟩
  | character _ behind =>
      cases followsOther with
      | character again =>
          obtain ⟨rfl, rfl⟩ := behind opens again opensOther
          exact ⟨rfl, rfl⟩
  | first read _ _ inside behind =>
      obtain ⟨opensInside, opensBehind⟩ := opensFirst_append_iff.mp opens.2
      cases followsOther with
      | first readAgain insideAgain behindAgain =>
          obtain rfl := Except.ok.inj (read.symm.trans readAgain)
          obtain ⟨otherInside, otherBehind⟩ := opensFirst_append_iff.mp opensOther.2
          obtain ⟨rfl, same⟩ := inside opensInside insideAgain otherInside
          obtain rfl := Except.ok.inj same
          obtain ⟨rfl, rfl⟩ := behind opensBehind behindAgain otherBehind
          exact ⟨rfl, rfl⟩
      | failed readAgain insideAgain =>
          obtain rfl := Except.ok.inj (read.symm.trans readAgain)
          cases (inside opensInside insideAgain opensOther.2).2
      | unreadable unread => cases read.symm.trans unread
      | later => exact (opens.not_later opensOther).elim
  | failed read _ inside =>
      cases followsOther with
      | first readAgain insideAgain =>
          obtain rfl := Except.ok.inj (read.symm.trans readAgain)
          cases (inside opens.2 insideAgain (opensFirst_append_iff.mp opensOther.2).1).2
      | failed readAgain insideAgain =>
          obtain rfl := Except.ok.inj (read.symm.trans readAgain)
          obtain ⟨rfl, same⟩ := inside opens.2 insideAgain opensOther.2
          exact ⟨rfl, same⟩
      | unreadable unread => cases read.symm.trans unread
      | later => exact (opens.not_later opensOther).elim
  | tooDeep read =>
      cases followsOther with
      | tooDeep => exact ⟨rfl, rfl⟩
      | unreadable unread => cases read.symm.trans unread
      | later => exact (opens.not_later opensOther).elim
  | unreadable unread =>
      cases followsOther with
      | first readAgain => cases readAgain.symm.trans unread
      | failed readAgain => cases readAgain.symm.trans unread
      | tooDeep readAgain => cases readAgain.symm.trans unread
      | unreadable again =>
          obtain rfl := Except.error.inj (unread.symm.trans again)
          exact ⟨rfl, rfl⟩
      | later => exact (opens.not_later opensOther).elim
  | later _ behind =>
      cases followsOther with
      | first => exact (opensOther.not_later opens).elim
      | failed => exact (opensOther.not_later opens).elim
      | tooDeep => exact (opensOther.not_later opens).elim
      | unreadable => exact (opensOther.not_later opens).elim
      | later again =>
          obtain ⟨rfl, rfl⟩ := behind opens.2 again opensOther.2
          exact ⟨rfl, rfl⟩

end Include
end ShaderGraph
