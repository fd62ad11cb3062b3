import ShaderGraph.Dependency
import ShaderGraph.Proofs.Call.Nesting

/-!
# Discovering the functions of a call

The functions that a call depends on are found by searching its arguments, the arguments of
the calls found there and so on. One search of the arguments finds the same calls, and the
first one of every name as well. So a call is valid if its function and all the functions
called in its arguments are known.
-/

namespace ShaderGraph

theorem Traced.value_foldlM
    (step : State -> Item -> Traced State)
    (items : List Item)
    (state : State) :
    (items.foldlM step state).value =
      items.foldl (fun state item => (step state item).value) state := by
  induction items generalizing state with
  | nil => rfl
  | cons item items inductionHypothesis =>
      rw [List.foldlM_cons, Traced.value_bind, inductionHypothesis]
      rfl

namespace Call

/-- The calls that are collected are the ones that are found, wherever the text starts. -/
theorem value_collect_findAll (before : Option Char) (position : Nat) (text : List Char) :
    (collect (findAll before position text)).value.map (fun call => (call.name, call.arguments)) =
      entries before text := by
  induction text generalizing before position with
  | nil => rfl
  | cons first rest inductionHypothesis =>
      rw [entries, ← inductionHypothesis (some first) (position + 1), findAll, frontCall?, found?,
        found?]
      cases opening? before (first :: rest) with
      | none => rfl
      | some opened =>
          dsimp only
          cases closing? 0 ((first :: rest).drop opened.2) with
          | none => rfl
          | some length => rfl

/-- The calls of a text with their arguments. -/
theorem value_extract (text : String) :
    (extract text).value.map (fun call => (call.name, call.arguments)) =
      entries none text.toList :=
  value_collect_findAll none 0 text.toList

/-- The first call of a name, with its arguments. -/
theorem find?_map (calls : List Call) (name : String) :
    Table.find? (calls.map fun call => (call.name, call.arguments)) name =
      (calls.find? fun call => call.name == name).map Call.arguments := by
  induction calls with
  | nil => rfl
  | cons call calls inductionHypothesis =>
      rw [List.map_cons, Table.find?_cons, List.find?_cons, inductionHypothesis, BEq.comm]
      cases call.name == name <;> rfl

end Call

namespace Analysis

variable {table : Table (List String)} {calls : List (String × List String)}

/-! ## The first call of every name -/

/-- Keep a call unless the table has its name. -/
def keep (table : Table (List String)) (call : String × List String) : Table (List String) :=
  if table.has call.1 then table else table ++ [call]

/-- Keep the first call of every name. -/
def gather (table : Table (List String)) (calls : List (String × List String)) :
    Table (List String) :=
  calls.foldl keep table

/-- A kept call is found under its name unless another one was found before. -/
theorem find?_keep (table : Table (List String)) (call : String × List String) (name : String) :
    (keep table call).find? name = (table.find? name).or (Table.find? [call] name) := by
  rw [keep]
  split
  case isTrue known =>
    cases found : table.find? name with
    | some arguments => rfl
    | none =>
        have other : (name == call.1) = false := beq_false_of_ne fun same => by
          rw [Table.has, ← same, found] at known
          cases known
        rw [Table.find?_cons, other]
        rfl
  case isFalse =>
    rw [Table.find?, List.lookup_append]
    rfl

/-- What is gathered is what was there before and the first call of every other name. -/
theorem find?_gather (table : Table (List String)) (calls : List (String × List String))
    (name : String) :
    (gather table calls).find? name = (table.find? name).or (Table.find? calls name) := by
  induction calls generalizing table with
  | nil => exact (Option.or_none).symm
  | cons call calls inductionHypothesis =>
      have split : Table.find? (call :: calls) name =
          (Table.find? [call] name).or (Table.find? calls name) := by
        rw [Table.find?, Table.find?, Table.find?, ← List.lookup_append]
        rfl
      change (gather (keep table call) calls).find? name = _
      rw [inductionHypothesis, find?_keep, split, Option.or_assoc]

/-- The gathered names are those of the table and of the calls. -/
theorem has_gather_iff {name : String} :
    (gather table calls).has name = true ↔ table.has name = true ∨ name ∈ Table.names calls := by
  rw [Table.has, find?_gather, Option.isSome_or, Bool.or_eq_true, ← Table.has_iff_mem_names]
  rfl

theorem gather_append (table : Table (List String)) (calls others : List (String × List String)) :
    gather table (calls ++ others) = gather (gather table calls) others :=
  List.foldl_append

/-- A name that is known keeps its first call. -/
theorem keep_of_has
    {call : String × List String}
    (known : table.has call.1 = true) : keep table call = table := by
  rw [keep, if_pos known]

theorem has_keep (table : Table (List String)) (call : String × List String) :
    (keep table call).has call.1 = true := by
  rw [Table.has, find?_keep, Option.isSome_or, Table.find?_cons, beq_self_eq_true, if_pos rfl,
    Option.isSome_some, Bool.or_true]

/-- Calls of known names are not kept. -/
theorem gather_of_forall_has
    (known : ∀ call ∈ calls, table.has call.1 = true) : gather table calls = table := by
  induction calls with
  | nil => rfl
  | cons call calls inductionHypothesis =>
      obtain ⟨first, rest⟩ := List.forall_mem_cons.mp known
      change gather (keep table call) calls = table
      rw [keep_of_has first]
      exact inductionHypothesis rest

/-- Gathering again what was gathered changes nothing. -/
theorem gather_again
    {others : List (String × List String)}
    (sub : others ⊆ calls) : gather (gather table calls) others = gather table calls :=
  gather_of_forall_has fun _ present =>
    has_gather_iff.mpr (.inr (List.mem_map_of_mem (sub present)))

/-- Of two prefixes gathered one after the other the longer one counts. -/
theorem exists_gather_gather
    {first second : List (String × List String)}
    (isPrefix : first <+: calls)
    (isOther : second <+: calls)
    (table : Table (List String)) :
    ∃ longer, longer <+: calls ∧ gather (gather table first) second = gather table longer := by
  rcases List.prefix_or_prefix_of_prefix isPrefix isOther with ⟨more, rfl⟩ | shorter
  · refine ⟨_, isOther, ?_⟩
    rw [gather_append, gather_append, gather_again (List.Subset.refl first)]
  · exact ⟨first, isPrefix, gather_again shorter.subset⟩

/-- Where calls nest, gathering with every call those in its arguments finds no more than
gathering the calls, also behind calls with which they start. -/
theorem foldl_gather
    {start : List (String × List String)}
    (nests : Call.Nests calls)
    (isStart : start <+: calls)
    (table : Table (List String)) :
    calls.foldl (fun table call => gather (keep table call) (Call.entriesOf call.2))
        (gather table start) =
      gather table calls := by
  induction nests generalizing table start with
  | nil =>
      obtain rfl := List.prefix_nil.mp isStart
      rfl
  | @cons call rest follow nests inductionHypothesis =>
      rw [List.foldl_cons]
      cases start with
      | nil => exact inductionHypothesis follow (keep table call)
      | cons first start =>
          obtain ⟨rfl, isRest⟩ := List.cons_prefix_cons.mp isStart
          obtain ⟨longer, isLonger, same⟩ :=
            exists_gather_gather isRest follow (keep table first)
          have known : (gather (keep table first) start).has first.1 = true :=
            has_gather_iff.mpr (.inl (has_keep table first))
          change List.foldl _ (gather (keep (gather (keep table first) start) first) _) rest = _
          rw [keep_of_has known, same]
          exact inductionHypothesis isLonger (keep table first)

/-! ## Discovered calls -/

/-- The arguments that a table has for every name. -/
def recorded (found : Table Call) : Table (List String) :=
  found.map fun entry => (entry.1, entry.2.arguments)

/-- What is recorded of a call are its arguments. -/
theorem find?_recorded (found : Table Call) (name : String) :
    (recorded found).find? name = (found.find? name).map Call.arguments := by
  induction found with
  | nil => rfl
  | cons entry found inductionHypothesis =>
      change Table.find? ((entry.1, entry.2.arguments) :: recorded found) name = _
      rw [Table.find?_cons, Table.find?_cons, inductionHypothesis]
      split <;> rfl

theorem names_recorded (found : Table Call) : (recorded found).names = found.names := by
  rw [recorded, Table.names, Table.names, List.map_map]
  rfl

/-- Noting a call keeps its arguments unless its name is known. -/
theorem recorded_note (found : Table Call) (call : Call) :
    recorded (note found call) = keep (recorded found) (call.name, call.arguments) := by
  have same : (recorded found).has call.name = found.has call.name := by
    rw [Table.has, find?_recorded, Option.isSome_map]
    rfl
  rw [note, keep, same]
  split
  · rfl
  · rw [recorded, List.map_append]
    rfl

/-- What texts add to a table, each text and each call in it in turn. -/
theorem value_discover_succ (depth : Nat) (texts : List String) (found : Table Call) :
    (discover (depth + 1) texts found).value =
      texts.foldl (fun found text => (Call.extract text).value.foldl
        (fun found call => (discover depth call.arguments (note found call)).value) found)
        found := by
  rw [discover, Traced.value_foldlM]
  simp only [Traced.value_bind, Traced.value_foldlM]

/-- What calls add to a table if the search in the arguments of each gathers the calls
there. -/
theorem recorded_foldl
    {depth : Nat}
    {calls : List Call}
    (search : ∀ call ∈ calls, ∀ found,
      recorded (discover depth call.arguments found).value =
        gather (recorded found) (Call.entriesOf call.arguments))
    (found : Table Call) :
    recorded (calls.foldl
        (fun found call => (discover depth call.arguments (note found call)).value) found) =
      (calls.map fun call => (call.name, call.arguments)).foldl
        (fun table call => gather (keep table call) (Call.entriesOf call.2)) (recorded found) := by
  induction calls generalizing found with
  | nil => rfl
  | cons call calls inductionHypothesis =>
      obtain ⟨first, others⟩ := List.forall_mem_cons.mp search
      rw [List.foldl_cons, inductionHypothesis others, first, recorded_note]
      rfl

/-- Deep enough, every call in texts is found, and the first one of its name is kept. -/
theorem recorded_discover
    {depth : Nat}
    {texts : List String}
    (shallow : ∀ text ∈ texts, text.length < depth)
    (found : Table Call) :
    recorded (discover depth texts found).value =
      gather (recorded found) (Call.entriesOf texts) := by
  induction depth generalizing texts found with
  | zero =>
      cases texts with
      | nil => rfl
      | cons text texts => exact absurd (shallow text List.mem_cons_self) (Nat.not_lt_zero _)
  | succ depth deeper =>
      rw [value_discover_succ]
      induction texts generalizing found with
      | nil => rfl
      | cons text texts inductionHypothesis =>
          obtain ⟨short, others⟩ := List.forall_mem_cons.mp shallow
          have search : ∀ call ∈ (Call.extract text).value, ∀ found,
              recorded (discover depth call.arguments found).value =
                gather (recorded found) (Call.entriesOf call.arguments) := by
            intro call present found
            -- An argument is shorter than the text of its call, so one level less is enough.
            refine deeper (fun argument listed => ?_) found
            have shorter := Call.length_lt_of_mem_entries
              (Call.value_extract text ▸ List.mem_map_of_mem present) listed
            rw [String.length_toList] at shorter
            exact Nat.lt_of_lt_of_le shorter (Nat.le_of_lt_succ short)
          have gathered := foldl_gather (Call.nests_entries none text.toList) List.nil_prefix
            (recorded found)
          have joined : Call.entriesOf (text :: texts) =
              Call.entries none text.toList ++ Call.entriesOf texts := rfl
          rw [List.foldl_cons, inductionHypothesis others, recorded_foldl search,
            Call.value_extract, joined, gather_append, ← gathered]
          rfl

/-- The bound is more than the length of each text. -/
theorem lt_depthBound
    {texts : List String}
    {text : String}
    (present : text ∈ texts) : text.length < depthBound texts := by
  rw [depthBound, Nat.lt_succ_iff]
  induction texts with
  | nil => cases present
  | cons first texts inductionHypothesis =>
      rw [List.map_cons, List.foldr_cons]
      rcases List.mem_cons.mp present with rfl | later
      · exact Nat.le_max_left _ _
      · exact (inductionHypothesis later).trans (Nat.le_max_right _ _)

/-- The calls that one search of texts finds, with the first one of every name. -/
theorem recorded_value_discover (texts : List String) :
    recorded (discover (depthBound texts) texts []).value = gather [] (Call.entriesOf texts) :=
  recorded_discover (fun _ => lt_depthBound) []

/-! ## Classified names -/

variable {vocabulary : Vocabulary} {names : List String}

/-- The first unknown entry is the first name that is unknown. -/
theorem map_fst_unknown?_classifyAll (vocabulary : Vocabulary) (names : List String) :
    (List.find? (fun entry => entry.2 == Origin.unknown) (classifyAll vocabulary names)).map
        Prod.fst =
      names.find? fun name => vocabulary.classify name == .unknown := by
  induction names with
  | nil => rfl
  | cons name names inductionHypothesis =>
      rw [classifyAll, List.find?_cons]
      cases origin : vocabulary.classify name with
      | unknown => rfl
      | builtin => exact inductionHypothesis
      | plugin pluginAlias => exact inductionHypothesis

/-- Names are all classified if none of them is unknown. -/
theorem classifyAll_of_forall
    (known : ∀ name ∈ names, vocabulary.classify name ≠ .unknown) :
    classifyAll vocabulary names = names.map fun name => (name, vocabulary.classify name) := by
  induction names with
  | nil => rfl
  | cons name names inductionHypothesis =>
      obtain ⟨first, others⟩ := List.forall_mem_cons.mp known
      rw [classifyAll, List.map_cons, ← inductionHypothesis others]
      cases origin : vocabulary.classify name with
      | unknown => exact absurd origin first
      | builtin => rfl
      | plugin pluginAlias => rfl

end Analysis

namespace Vocabulary

variable {vocabulary : Vocabulary} {name : String}

/-- A name is known if it is built in or a plugin offers it. -/
def Knows (vocabulary : Vocabulary) (name : String) : Prop :=
  vocabulary.builtins.isCallable name = true ∨
    ∃ pluginAlias, vocabulary.catalogue.owner? name = some pluginAlias

/-- The built-in names are the callable ones. -/
theorem classify_eq_builtin_iff :
    vocabulary.classify name = .builtin ↔ vocabulary.builtins.isCallable name = true := by
  rw [classify]
  split
  case isTrue callable => simp [callable]
  case isFalse other =>
    split <;> simp [other]

/-- The unknown names are those that the vocabulary does not know. -/
theorem classify_eq_unknown_iff : vocabulary.classify name = .unknown ↔ ¬vocabulary.Knows name := by
  rw [classify, Knows]
  split
  case isTrue callable => simp [callable]
  case isFalse other =>
    cases vocabulary.catalogue.owner? name <;> simp [other]

/-- What an error names: the called function if it is unknown, and the least unknown function
called in the arguments otherwise. -/
inductive Reports (vocabulary : Vocabulary) (name : String) (called : List String) : String -> Prop
  | main
      (unknown : ¬vocabulary.Knows name) : Reports vocabulary name called name
  | called
      {missing : String}
      (known : vocabulary.Knows name)
      (listed : missing ∈ called)
      (unknown : ¬vocabulary.Knows missing)
      (least : ∀ other ∈ called, ¬vocabulary.Knows other -> missing ≤ other) :
      Reports vocabulary name called missing

/-- A report depends only on which names are called. -/
theorem Reports.congr
    {called others : List String}
    {missing : String}
    (reports : vocabulary.Reports name called missing)
    (same : ∀ other, other ∈ called ↔ other ∈ others) :
    vocabulary.Reports name others missing := by
  cases reports with
  | main unknown => exact .main unknown
  | called known listed unknown least =>
      exact .called known ((same missing).mp listed) unknown fun other present =>
        least other ((same other).mpr present)

/-- The functions that an analysis lists are all that are needed, the built-in ones on one
side and those of plugins on the other. -/
structure Divides
    (vocabulary : Vocabulary)
    (needed : List String)
    (analysis : Analysis) : Prop where
  builtins : ∀ function, function ∈ analysis.builtinFunctions ↔
    function ∈ needed ∧ vocabulary.builtins.isCallable function = true
  plugins : ∀ function, function ∈ analysis.pluginFunctions ↔
    function ∈ needed ∧ vocabulary.builtins.isCallable function = false
  once : (analysis.builtinFunctions ++ analysis.pluginFunctions).Nodup

/-- What the analysis of a call finds, apart from the trace. -/
theorem value_analyze (vocabulary : Vocabulary) (name : String) (texts : List String) :
    (vocabulary.analyze name texts).value =
      let calls := (Analysis.discover (Analysis.depthBound texts) texts []).value
      { main := name, arguments := texts, calls,
        classified := Analysis.classifyAll vocabulary
          (name :: (Text.sortedNames calls.names).filter fun other => !(other == name)) } := by
  rw [Vocabulary.analyze, Traced.value_bind]
  dsimp only
  split <;> rfl

/-- The names that are classified: the called function, and the other ones in ascending
order. -/
def classifiedNames (name : String) (called : List String) : List String :=
  name :: (Text.sortedNames called).filter fun other => !(other == name)

/-- The names that are classified are the function itself and those that it calls. -/
theorem mem_classifiedNames {called : List String} {other : String} :
    other ∈ classifiedNames name called ↔ other ∈ name :: called := by
  rw [classifiedNames, List.mem_cons, List.mem_cons, List.mem_filter, Text.mem_sortedNames]
  by_cases same : other = name <;> simp [same]

theorem classify_beq_unknown :
    (vocabulary.classify name == .unknown) = true ↔ ¬vocabulary.Knows name := by
  rw [beq_iff_eq, classify_eq_unknown_iff]

/-- The first unknown name is the one that an error names. -/
theorem reports_of_find?
    {called : List String}
    {missing : String}
    (found : (classifiedNames name called).find?
        (fun other => vocabulary.classify other == .unknown)
      = some missing) : vocabulary.Reports name called missing := by
  rw [classifiedNames, List.find?_cons] at found
  split at found
  case h_1 unknown =>
    cases found
    exact .main (classify_beq_unknown.mp unknown)
  case h_2 known =>
    have mainKnown : vocabulary.Knows name := by
      by_contra unknown
      rw [classify_beq_unknown.mpr unknown] at known
      cases known
    obtain ⟨unknown, before, after, split, earlier⟩ := List.find?_eq_some_iff_append.mp found
    have ascending : (before ++ missing :: after).Pairwise (· < ·) :=
      split ▸ (Text.pairwise_sortedNames called).filter _
    have listed : missing ∈ name :: called :=
      mem_classifiedNames.mp (List.mem_cons_of_mem _ (split ▸ by simp))
    rcases List.mem_cons.mp listed with rfl | listed
    · exact absurd mainKnown (classify_beq_unknown.mp unknown)
    refine .called mainKnown listed (classify_beq_unknown.mp unknown) fun other present lost => ?_
    have classified : other ∈ before ++ missing :: after := by
      rw [← split, List.mem_filter, Text.mem_sortedNames]
      refine ⟨present, ?_⟩
      simp only [Bool.not_eq_true', beq_eq_false_iff_ne, ne_eq]
      rintro rfl
      exact lost mainKnown
    rcases List.mem_append.mp classified with early | late
    · have noEarlier := earlier other early
      rw [classify_beq_unknown.mpr lost] at noEarlier
      cases noEarlier
    · rcases List.mem_cons.mp late with rfl | behind
      · exact String.le_refl _
      · have later := (List.pairwise_cons.mp (List.pairwise_append.mp ascending).2.1).1
        exact Std.le_of_lt (later other behind)

/-- A known name that is not built in belongs to a plugin. -/
theorem isPlugin_classify (known : vocabulary.Knows name) :
    (vocabulary.classify name).isPlugin = !vocabulary.builtins.isCallable name := by
  rw [classify]
  split
  case isTrue callable =>
    rw [callable]
    rfl
  case isFalse other =>
    obtain ⟨pluginAlias, offered⟩ := known.resolve_left other
    rw [offered, Bool.not_eq_true _ |>.mp other]
    rfl

/-- The names of one kind of origin are listed. -/
theorem mem_sortedNames_filter
    (kept : Origin -> Bool)
    {names : List String}
    {function : String} :
    function ∈ Text.sortedNames ((List.filter (fun entry => kept entry.2)
        (names.map fun other => (other, vocabulary.classify other))).map Prod.fst) ↔
      function ∈ names ∧ kept (vocabulary.classify function) = true := by
  rw [Text.mem_sortedNames, List.filter_map, List.map_map, List.mem_map]
  constructor
  · rintro ⟨other, present, rfl⟩
    exact List.mem_filter.mp present
  · exact fun listed => ⟨function, List.mem_filter.mpr listed, rfl⟩

/-- If all names are known, the listed functions are these names. -/
theorem divides_of_forall
    {listed needed : List String}
    {analysis : Analysis}
    (classified : analysis.classified =
      listed.map fun other => (other, vocabulary.classify other))
    (members : ∀ other, other ∈ listed ↔ other ∈ needed)
    (known : ∀ other ∈ needed, vocabulary.Knows other) :
    vocabulary.Divides needed analysis := by
  have builtins (function : String) : function ∈ analysis.builtinFunctions ↔
      function ∈ needed ∧ vocabulary.builtins.isCallable function = true := by
    rw [Analysis.builtinFunctions, classified, mem_sortedNames_filter (· == Origin.builtin),
      beq_iff_eq, classify_eq_builtin_iff, members]
  have plugins (function : String) : function ∈ analysis.pluginFunctions ↔
      function ∈ needed ∧ vocabulary.builtins.isCallable function = false := by
    rw [Analysis.pluginFunctions, classified, mem_sortedNames_filter, members]
    refine and_congr_right fun present => ?_
    rw [isPlugin_classify (known function present), Bool.not_eq_true']
  refine ⟨builtins, plugins, List.nodup_append.mpr ⟨?_, ?_, ?_⟩⟩
  · exact (Text.pairwise_sortedNames _).imp String.ne_of_lt
  · exact (Text.pairwise_sortedNames _).imp String.ne_of_lt
  · rintro function builtin _ plugin rfl
    have callable := ((builtins function).mp builtin).2
    rw [((plugins function).mp plugin).2] at callable
    cases callable

/-! ## One search of the arguments -/

/-- The calls that one search of texts finds. -/
def searched (texts : List String) : List Call :=
  texts.flatMap fun text => (Call.extract text).value

/-- A search from text to text finds the calls of all texts. -/
theorem map_searched (texts : List String) :
    (searched texts).map (fun call => (call.name, call.arguments)) = Call.entriesOf texts := by
  rw [searched, List.map_flatMap]
  exact List.flatMap_congr fun text _ => Call.value_extract text

/-- An analysis records the calls of all texts, each name once. -/
theorem recorded_calls_analyze (vocabulary : Vocabulary) (name : String) (texts : List String) :
    Analysis.recorded (vocabulary.analyze name texts).value.calls =
      Analysis.gather [] (Call.entriesOf texts) := by
  rw [value_analyze]
  exact Analysis.recorded_value_discover texts

/-- The names of an analysis are those of the calls that are found. -/
theorem mem_names_analyze_iff {texts : List String} {other : String} :
    other ∈ (vocabulary.analyze name texts).value.calls.names ↔
      other ∈ (searched texts).map Call.name := by
  rw [← Analysis.names_recorded, ← Table.has_iff_mem_names, recorded_calls_analyze,
    Analysis.has_gather_iff, ← map_searched, Table.names, List.map_map]
  exact or_iff_right Bool.false_ne_true

/-- An analysis keeps the arguments of the first call of each name. -/
theorem find?_calls_analyze (texts : List String) (other : String) :
    ((vocabulary.analyze name texts).value.calls.find? other).map Call.arguments =
      ((searched texts).find? fun call => call.name == other).map Call.arguments := by
  rw [← Analysis.find?_recorded, recorded_calls_analyze, Analysis.find?_gather, ← map_searched,
    Call.find?_map]
  rfl

/-- An analysis classifies the function and all that it calls. -/
theorem classified_analyze (vocabulary : Vocabulary) (name : String) (texts : List String) :
    (vocabulary.analyze name texts).value.classified =
      Analysis.classifyAll vocabulary
        (classifiedNames name (vocabulary.analyze name texts).value.calls.names) := by
  rw [value_analyze]
  rfl

/-- The names that are classified are those of the call and of the calls in its arguments. -/
theorem mem_classified_iff {texts : List String} {other : String} :
    other ∈ classifiedNames name (vocabulary.analyze name texts).value.calls.names ↔
      other ∈ name :: (searched texts).map Call.name := by
  rw [mem_classifiedNames, List.mem_cons, List.mem_cons, mem_names_analyze_iff]

/-- The unknown name of an analysis is the first one that is not known. -/
theorem unknown?_analyze (vocabulary : Vocabulary) (name : String) (texts : List String) :
    (vocabulary.analyze name texts).value.unknown? =
      (classifiedNames name (vocabulary.analyze name texts).value.calls.names).find?
        (fun other => vocabulary.classify other == .unknown) := by
  rw [Analysis.unknown?, classified_analyze, Analysis.map_fst_unknown?_classifyAll]

/-- An analysis is valid if every name that is needed is known. -/
theorem isValid_analyze_iff {texts : List String} :
    (vocabulary.analyze name texts).value.isValid = true ↔
      ∀ needed ∈ name :: (searched texts).map Call.name, vocabulary.Knows needed := by
  rw [Analysis.isValid, unknown?_analyze, Option.isNone_iff_eq_none, List.find?_eq_none]
  simp only [classify_beq_unknown, Classical.not_not, mem_classified_iff]

/-- If all functions are known, they are divided between the built-in ones and those of
plugins. -/
theorem divides_analyze
    {texts : List String}
    (known : ∀ needed ∈ name :: (searched texts).map Call.name, vocabulary.Knows needed) :
    vocabulary.Divides (name :: (searched texts).map Call.name)
      (vocabulary.analyze name texts).value := by
  have members (other : String) :
      other ∈ classifiedNames name (vocabulary.analyze name texts).value.calls.names ↔
        other ∈ name :: (searched texts).map Call.name := mem_classified_iff
  refine divides_of_forall ((classified_analyze vocabulary name texts).trans ?_) members known
  exact Analysis.classifyAll_of_forall fun other listed =>
    mt classify_eq_unknown_iff.mp (not_not.mpr (known other (mem_classified_iff.mp listed)))

/-- The analysis of a call finds what one search of its arguments finds. It keeps the first
call of every name, is valid if all functions are known, and names the missing one
otherwise. -/
theorem analyze_eq_single_search
    (vocabulary : Vocabulary)
    (name : String)
    (arguments : List String) :
    let calls := searched arguments
    let called := calls.map Call.name
    let analysis := (vocabulary.analyze name arguments).value
    (∀ other, other ∈ analysis.calls.names ↔ other ∈ called) ∧
      (∀ other, (analysis.calls.find? other).map Call.arguments =
        (calls.find? fun call => call.name == other).map Call.arguments) ∧
      (analysis.isValid = true ↔ ∀ needed ∈ name :: called, vocabulary.Knows needed) ∧
      (analysis.isValid = true ∧ vocabulary.Divides (name :: called) analysis ∨
        ∃ missing, analysis.isValid = false ∧ vocabulary.Reports name called missing ∧
          analysis.message = (Failure.functionNotFound missing).message) := by
  intro calls called analysis
  refine ⟨fun _ => mem_names_analyze_iff, find?_calls_analyze arguments, isValid_analyze_iff, ?_⟩
  cases found : analysis.unknown? with
  | none =>
      have isValid : analysis.isValid = true := by
        rw [Analysis.isValid, found]
        rfl
      exact .inl ⟨isValid, divides_analyze (isValid_analyze_iff.mp isValid)⟩
  | some missing =>
      have isInvalid : analysis.isValid = false := by
        rw [Analysis.isValid, found]
        rfl
      have first := (unknown?_analyze vocabulary name arguments).symm.trans found
      refine .inr ⟨missing, isInvalid, (reports_of_find? first).congr fun _ => ?_, ?_⟩
      · exact mem_names_analyze_iff
      · rw [Analysis.message, found]

end Vocabulary
end ShaderGraph
