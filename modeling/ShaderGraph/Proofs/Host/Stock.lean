import ShaderGraph.Proofs.Argument.Substitution
import ShaderGraph.Proofs.Graph.Assembly
import ShaderGraph.Proofs.Host.Connection
import ShaderGraph.Proofs.Host.Reloading

/-!
# What the caches own

Every artifact with a program is ready and stands in one slot of one cache. A new
artifact is compiled and put into a slot in one go: whatever could fail behind the
compilation was read before it.
-/

namespace ShaderGraph

namespace Host

/-- The artifacts in the slots of both caches. -/
def slots (host : Host) : List ArtifactId :=
  host.calls.cache.contents ++ host.graphCache.contents

/-- Whether an artifact has a program. -/
def hasProgram (host : Host) (id : ArtifactId) : Bool :=
  (host.artifact? id).any fun artifact => artifact.program.isSome

/-- The artifacts with a program are those in the slots, all of them are ready, and
none of them is in two slots. -/
structure IsStocked (host : Host) : Prop where
  nodup : host.slots.Nodup
  ready : ∀ id ∈ host.slots, host.isReady id = true
  kept : ∀ id, host.hasProgram id = true -> id ∈ host.slots

/-- An artifact that is ready has a program. -/
theorem hasProgram_of_isReady {host : Host} {id : ArtifactId} (ready : host.isReady id = true) :
    host.hasProgram id = true := by
  obtain ⟨artifact, found, isReady⟩ := isReady_iff.mp ready
  rw [hasProgram, found]
  exact (Bool.and_eq_true_iff.mp isReady).1

theorem lt_length_of_hasProgram
    {host : Host}
    {id : ArtifactId}
    (has : host.hasProgram id = true) : id < host.artifacts.length := by
  obtain ⟨artifact, found, _⟩ := Option.any_eq_true _ _ |>.mp has
  exact (List.getElem?_eq_some_iff.mp found).1

/-- What the caches own is seen in the slots and the programs of the artifacts. -/
theorem IsStocked.of_same
    {host changed : Host}
    (stocked : host.IsStocked)
    (slots : changed.slots = host.slots)
    (ready : changed.isReady = host.isReady)
    (hasProgram : changed.hasProgram = host.hasProgram) : changed.IsStocked where
  nodup := slots ▸ stocked.nodup
  ready := by
    rw [slots, ready]
    exact stocked.ready
  kept := by
    rw [slots, hasProgram]
    exact stocked.kept

/-! ## New artifacts -/

/-- Of what was done to make an artifact there remain new artifacts without programs,
or one new artifact that is ready and stands in a new slot. -/
inductive Produces (host changed : Host) : Prop
  | useless
      (keeps : KeepsArtifacts host changed)
      (slots : changed.slots = host.slots)
      (none : ∀ id, host.artifacts.length ≤ id -> changed.hasProgram id = false)
  | stored
      (keeps : KeepsArtifacts host changed)
      (slots : changed.slots.Perm (host.artifacts.length :: host.slots))
      (ready : changed.isReady host.artifacts.length = true)
      (none : ∀ id, host.artifacts.length < id -> changed.hasProgram id = false)

/-- Where the stock is the same, nothing is produced. -/
theorem Produces.of_stock {host changed : Host} (same : changed.stock = host.stock) :
    Produces host changed := by
  obtain ⟨artifacts, caches⟩ := Prod.ext_iff.mp same
  obtain ⟨cache, graphCache⟩ := Prod.ext_iff.mp caches
  change changed.artifacts = host.artifacts at artifacts
  change changed.calls.cache = host.calls.cache at cache
  change changed.graphCache = host.graphCache at graphCache
  refine .useless (Action.keepsArtifacts_of_same artifacts) ?_ fun id beyond => ?_
  · rw [slots, slots, cache, graphCache]
  · refine Bool.eq_false_iff.mpr fun has => ?_
    have bound := lt_length_of_hasProgram has
    rw [artifacts] at bound
    exact absurd bound (Nat.not_lt.mpr beyond)

theorem Produces.refl (host : Host) : Produces host host :=
  .of_stock rfl

/-- What the work produces is told from what the host owned before. -/
theorem Produces.of_same_stock
    {start host changed : Host}
    (produces : Produces host changed)
    (same : host.stock = start.stock) : Produces start changed := by
  obtain ⟨artifacts, caches⟩ := Prod.ext_iff.mp same
  obtain ⟨cache, graphCache⟩ := Prod.ext_iff.mp caches
  change host.artifacts = start.artifacts at artifacts
  change host.calls.cache = start.calls.cache at cache
  change host.graphCache = start.graphCache at graphCache
  have sameSlots : host.slots = start.slots := by rw [slots, slots, cache, graphCache]
  have before := Action.keepsArtifacts_of_same artifacts
  cases produces with
  | useless keeps slots none =>
      exact .useless (trans_of KeepsArtifacts before keeps) (slots.trans sameSlots)
        (artifacts ▸ none)
  | stored keeps slots ready none =>
      refine .stored (trans_of KeepsArtifacts before keeps) ?_ (artifacts ▸ ready)
        (artifacts ▸ none)
      rw [← sameSlots, ← artifacts]
      exact slots

/-- An artifact that is kept stays as ready as it was. -/
theorem KeepsArtifacts.isReady_eq
    {host changed : Host}
    {id : ArtifactId}
    (keeps : KeepsArtifacts host changed)
    (before : id < host.artifacts.length) : changed.isReady id = host.isReady id := by
  rw [isReady, keeps.kept id before, isReady]

/-- An artifact that is kept keeps its program. -/
theorem KeepsArtifacts.hasProgram_eq
    {host changed : Host}
    {id : ArtifactId}
    (keeps : KeepsArtifacts host changed)
    (before : id < host.artifacts.length) : changed.hasProgram id = host.hasProgram id := by
  rw [hasProgram, keeps.kept id before, hasProgram]

/-- A host stays stocked where an artifact is produced. -/
theorem IsStocked.produces
    {host changed : Host}
    (stocked : host.IsStocked)
    (produces : Produces host changed) : changed.IsStocked := by
  have bound {id : ArtifactId} (listed : id ∈ host.slots) : id < host.artifacts.length :=
    lt_length_of_hasProgram (hasProgram_of_isReady (stocked.ready id listed))
  cases produces with
  | useless keeps slots none =>
      refine ⟨slots ▸ stocked.nodup, fun id listed => ?_, fun id has => ?_⟩
      · rw [slots] at listed
        exact (keeps.isReady_eq (bound listed)).trans (stocked.ready id listed)
      · rcases Nat.lt_or_ge id host.artifacts.length with before | beyond
        · rw [slots]
          exact stocked.kept id ((keeps.hasProgram_eq before).symm.trans has)
        · rw [none id beyond] at has
          cases has
  | stored keeps slots ready none =>
      have fresh : host.artifacts.length ∉ host.slots := fun listed =>
        absurd (bound listed) (Nat.lt_irrefl _)
      refine ⟨slots.nodup_iff.mpr (List.nodup_cons.mpr ⟨fresh, stocked.nodup⟩), fun id listed => ?_,
        fun id has => slots.mem_iff.mpr ?_⟩
      · rcases List.mem_cons.mp (slots.mem_iff.mp listed) with rfl | before
        · exact ready
        · exact (keeps.isReady_eq (bound before)).trans (stocked.ready id before)
      · rcases Nat.lt_trichotomy id host.artifacts.length with before | same | beyond
        · rw [keeps.hasProgram_eq before] at has
          exact List.mem_cons_of_mem _ (stocked.kept id has)
        · exact same ▸ List.mem_cons_self
        · rw [none id beyond] at has
          cases has

/-- Artifacts that are added keep those before them. -/
theorem keepsArtifacts_append
    {host changed : Host}
    {others : List Artifact}
    (artifacts : changed.artifacts = host.artifacts ++ others) : KeepsArtifacts host changed := by
  refine ⟨by simp [artifacts], fun id before => ?_⟩
  rw [artifact?, artifacts, List.getElem?_append_left before]
  rfl

/-- One new artifact without a program, or with one and in a slot. -/
theorem Produces.of_append
    {host changed : Host}
    {made : Artifact}
    (artifacts : changed.artifacts = host.artifacts ++ [made])
    (outcome : changed.slots = host.slots ∧ made.program = none ∨
      changed.slots.Perm (host.artifacts.length :: host.slots) ∧ made.isReady = true) :
    Produces host changed := by
  have there : changed.artifact? host.artifacts.length = some made := by
    rw [artifact?, artifacts, List.getElem?_concat_length]
  have beyond (id : ArtifactId) (further : host.artifacts.length < id) :
      changed.hasProgram id = false := by
    refine Bool.eq_false_iff.mpr fun has => ?_
    have bound := lt_length_of_hasProgram has
    rw [artifacts, List.length_append, List.length_singleton] at bound
    exact Nat.not_lt.mpr (Nat.le_of_lt_succ bound) further
  rcases outcome with ⟨slots, none⟩ | ⟨slots, ready⟩
  · refine .useless (keepsArtifacts_append artifacts) slots fun id behind => ?_
    rcases Nat.lt_or_eq_of_le behind with further | same
    · exact beyond id further
    · rw [← same, hasProgram, there, Option.any_some, none]
      rfl
  · refine .stored (keepsArtifacts_append artifacts) slots ?_ beyond
    rw [isReady, there, Option.any_some, ready]

end Host

namespace Action

open Host

/-! ## Steps of the work -/

/-- An attempt has the outcome of its computation and leaves the host. -/
theorem attempt_effect (computation : Attempt Value) (host : Host) :
    (attempt computation).Meets host fun outcome changed =>
      outcome = Attempt.outcome computation ∧ host = changed := by
  rw [attempt, meets_liftTraced_bind, Attempt.outcome]
  cases computation.run.value with
  | ok value => exact ⟨rfl, rfl⟩
  | error failure => exact ⟨rfl, rfl⟩

theorem set_length_concat (artifacts : List Artifact) (artifact made : Artifact) :
    (artifacts ++ [artifact]).set artifacts.length made = artifacts ++ [made] := by
  simp

/-- What compiling the sources of an artifact comes to. -/
def compilation (host : Host) (artifact : Artifact) : Except CompileError Program × Graphics :=
  ((Graphics.compile host.files host.access artifact.vertex artifact.fragment
    artifact.directory).run host.graphics).value

/-- What became of a new artifact: it is ready and has a program exactly if it could be
compiled, and it was compiled if it has sources. -/
structure IsMade
    (host : Host)
    (artifact made : Artifact)
    (graphics : Graphics)
    (success : Bool) : Prop where
  useless : success = false -> made.program = none
  ready : success = true -> made.isReady = true
  received : artifact.hasSource = true ->
    made = (artifact.receive (compilation host artifact).1).value.2 ∧
      graphics = (compilation host artifact).2

/-- An artifact without a program gets none from a failed compilation. -/
theorem program_receive_of_failed
    {artifact : Artifact}
    {outcome : Except CompileError Program}
    (none : artifact.program = none)
    (failed : (artifact.receive outcome).value.1 = false) :
    (artifact.receive outcome).value.2.program = Option.none := by
  cases outcome with
  | error error => exact none
  | ok program => cases failed

/-- A new artifact is compiled in its place. -/
theorem compileNew_effect
    {artifact : Artifact}
    (none : artifact.program = none)
    (host : Host) :
    (compileArtifact host.artifacts.length).Meets
      { host with artifacts := host.artifacts ++ [artifact] } fun outcome changed =>
        ∃ made graphics success, outcome = .ok success ∧
          changed = { host with artifacts := host.artifacts ++ [made], graphics } ∧
          IsMade host artifact made graphics success := by
  have found : Host.artifact? { host with artifacts := host.artifacts ++ [artifact] }
      host.artifacts.length = some artifact := List.getElem?_concat_length
  rw [compileArtifact, meets_get_bind, found]
  dsimp only
  split
  case isTrue sourceless =>
    obtain ⟨result, _, final⟩ :=
      changeArtifact_of_some found (Artifact.fail · "No shader source to compile")
    rw [meets_bind, Meets, result, final, Host.setArtifact, set_length_concat]
    refine ⟨_, host.graphics, false, rfl, rfl, fun _ => none, by simp, fun sourced => ?_⟩
    · rw [sourced] at sourceless
      cases sourceless
  case isFalse =>
    rw [compileStages, bind_assoc, meets_get_bind, bind_assoc, meets_liftTraced_bind,
      bind_assoc, meets_modify_bind, pure_bind, meets_liftTraced_bind, meets_modify_bind,
      meets_pure]
    rw [Host.setArtifact, set_length_concat]
    refine ⟨_, _, _, rfl, rfl, fun failed => ?_, fun success => ?_, fun _ => ⟨rfl, rfl⟩⟩
    · exact program_receive_of_failed none failed
    · exact (isReady_receive artifact (compilation host artifact).1).trans success

/-- What a variable is read by is found out if all texts can be read. -/
theorem readsVariable_of_reports
    {interpreter : Interpreter}
    {texts : List String}
    (reports : ∀ text ∈ texts,
      ∃ reading, Attempt.outcome (interpreter.report text) = .ok reading)
    (name : String) :
    ∃ found, Attempt.outcome (readsVariable interpreter name texts) = .ok found := by
  induction texts with
  | nil => exact ⟨false, rfl⟩
  | cons text rest inductionHypothesis =>
      have later := inductionHypothesis fun other listed =>
        reports other (List.mem_cons_of_mem text listed)
      obtain ⟨reading, read⟩ := reports text List.mem_cons_self
      rw [readsVariable]
      split
      · exact ⟨true, rfl⟩
      · split
        · by_cases mentions : (reading.argument.dependencies.any fun read =>
              Swizzle.base read == name) = true
          · exact ⟨true, Attempt.outcome_bind_eq_ok_iff.mpr ⟨reading, read, by simp [mentions]⟩⟩
          · obtain ⟨found, outcome⟩ := later
            exact ⟨found, Attempt.outcome_bind_eq_ok_iff.mpr
              ⟨reading, read, by simp [mentions, outcome]⟩⟩
        · exact later

/-- Texts that can be described can be read. -/
theorem reports_of_describe
    {interpreter : Interpreter}
    {locals : LocalTypes}
    {texts : List String}
    {arguments : List Argument}
    (described : Attempt.outcome (interpreter.describe locals texts) = .ok arguments) :
    ∀ text ∈ texts, ∃ reading, Attempt.outcome (interpreter.report text) = .ok reading := by
  intro text listed
  obtain ⟨argument, _, outcome⟩ := Attempt.exists_outcome_of_mapM described listed
  obtain ⟨reading, read, _⟩ := Attempt.outcome_bind_eq_ok_iff.mp outcome
  exact ⟨reading, read⟩

/-- What refreshes an artifact is set by the variables that its arguments read. -/
theorem setRefreshing_effect
    {host : Host}
    {arguments : List String}
    {time resolution : Bool}
    (readsTime : Attempt.outcome
      (readsVariable host.generator.interpreter "time" arguments) = .ok time)
    (readsResolution : Attempt.outcome
      (readsVariable host.generator.interpreter "st" arguments) = .ok resolution)
    (id : ArtifactId) :
    (setRefreshing id arguments).Meets host fun outcome changed =>
      outcome = .ok () ∧ changed =
        { host with
          artifacts := host.artifacts.modify id fun artifact =>
            { artifact with refreshesTime := time, refreshesResolution := resolution } } := by
  rw [setRefreshing, meets_get_bind, meets_bind]
  refine (attempt_effect _ host).imp ?_
  rintro _ _ ⟨rfl, rfl⟩
  rw [readsTime, before_ok, meets_bind]
  refine (attempt_effect _ _).imp ?_
  rintro _ _ ⟨rfl, rfl⟩
  rw [readsResolution, before_ok]
  exact changeArtifact_pure_effect id _ _

/-- An artifact is added, compiled, and if that succeeds marked and stored. -/
theorem store_effect
    {host : Host}
    {artifact : Artifact}
    {arguments : List String}
    {time resolution : Bool}
    {store : ArtifactId -> Host -> Host}
    {success failure : ArtifactId -> Action Result}
    (none : artifact.program = none)
    (readsTime : Attempt.outcome
      (readsVariable host.generator.interpreter "time" arguments) = .ok time)
    (readsResolution : Attempt.outcome
      (readsVariable host.generator.interpreter "st" arguments) = .ok resolution)
    (succeeds : ∀ id, (success id).Respects Eq)
    (fails : ∀ id, (failure id).Respects Eq) :
    (addArtifact artifact >>= fun id => compileArtifact id >>= fun compiled =>
      if compiled = true then setRefreshing id arguments >>= fun _ =>
        (modify (store id) : Action Unit) >>= fun _ => success id
      else failure id).Meets host fun _ changed =>
        ∃ made graphics compiled, IsMade host artifact made graphics compiled ∧
          changed =
            if compiled = true then
              store host.artifacts.length
                { host with
                  artifacts := host.artifacts ++
                    [{ made with refreshesTime := time, refreshesResolution := resolution }]
                  graphics }
            else { host with artifacts := host.artifacts ++ [made], graphics } := by
  have added : (addArtifact artifact).Meets host fun outcome changed =>
      outcome = .ok host.artifacts.length ∧
        changed = { host with artifacts := host.artifacts ++ [artifact] } := ⟨rfl, rfl⟩
  rw [meets_bind]
  refine added.imp ?_
  rintro _ _ ⟨rfl, rfl⟩
  rw [before_ok, meets_bind]
  refine (compileNew_effect none host).imp ?_
  rintro _ _ ⟨made, graphics, compiled, rfl, rfl, isMade⟩
  rw [before_ok]
  cases compiled with
  | false =>
      rw [if_neg (by simp), Meets, ← fails]
      exact ⟨made, graphics, false, isMade, rfl⟩
  | true =>
      have marks (change : Artifact -> Artifact) :
          (host.artifacts ++ [made]).modify host.artifacts.length change =
            host.artifacts ++ [change made] := by
        simp [List.modify_eq_set_getElem?]
      rw [if_pos rfl, meets_bind]
      refine (setRefreshing_effect (by exact readsTime) (by exact readsResolution)
        host.artifacts.length).imp ?_
      rintro _ _ ⟨rfl, rfl⟩
      rw [before_ok, meets_modify_bind, Meets, ← succeeds, marks]
      exact ⟨made, graphics, true, isMade, rfl⟩

/-- An artifact that is added, compiled and stored is produced, if its arguments can
be read. -/
theorem produces_of_store
    {host : Host}
    {artifact : Artifact}
    {arguments : List String}
    {store : ArtifactId -> Host -> Host}
    {success failure : ArtifactId -> Action Result}
    (none : artifact.program = none)
    (reports : ∀ text ∈ arguments,
      ∃ reading, Attempt.outcome (host.generator.interpreter.report text) = .ok reading)
    (stores : ∀ artifacts graphics,
      (store host.artifacts.length { host with artifacts, graphics }).artifacts = artifacts ∧
        (store host.artifacts.length { host with artifacts, graphics }).slots.Perm
          (host.artifacts.length :: host.slots))
    (succeeds : ∀ id, (success id).Respects Eq)
    (fails : ∀ id, (failure id).Respects Eq) :
    (addArtifact artifact >>= fun id => compileArtifact id >>= fun compiled =>
      if compiled = true then setRefreshing id arguments >>= fun _ =>
        (modify (store id) : Action Unit) >>= fun _ => success id
      else failure id).Meets host fun _ changed => Produces host changed := by
  obtain ⟨time, readsTime⟩ := readsVariable_of_reports reports "time"
  obtain ⟨resolution, readsResolution⟩ := readsVariable_of_reports reports "st"
  refine (store_effect none readsTime readsResolution succeeds fails).imp ?_
  rintro _ changed ⟨made, graphics, compiled, isMade, rfl⟩
  cases compiled with
  | false => exact .of_append rfl (.inl ⟨rfl, isMade.useless rfl⟩)
  | true =>
      -- Marking the new artifact keeps its program and its state.
      obtain ⟨artifacts, slots⟩ := stores _ graphics
      exact .of_append artifacts (.inr ⟨slots, isMade.ready rfl⟩)

/-! ## Requests for shaders -/

/-- A key that is not in use gets a slot of its own. -/
theorem contents_set_of_not_has
    {table : Table ArtifactId}
    {key : String}
    (absent : table.has key = false)
    (id : ArtifactId) : (table.set key id).contents = table.contents ++ [id] := by
  rw [Table.set_of_not_has absent, Table.contents, List.map_append]
  rfl

/-- Compiling a call produces an artifact for its key, or none. -/
theorem compileCall_produces
    {host : Host}
    {key : String}
    (absent : host.calls.cache.has key = false)
    (name pluginAlias code : String)
    (arguments : List String) :
    (compileCall key name pluginAlias code arguments).Meets host fun _ changed =>
      Produces host changed := by
  rw [compileCall, meets_get_bind, meets_bind]
  refine (attempt_effect _ host).imp ?_
  rintro _ _ ⟨rfl, rfl⟩
  cases generated : Attempt.outcome (host.generator.generate code name arguments) with
  | error failure => exact .refl host
  | ok shader =>
      obtain ⟨described, success, _⟩ := Attempt.outcome_bind_eq_ok_iff.mp generated
      refine produces_of_store rfl (reports_of_describe success)
        (fun artifacts graphics => ⟨rfl, ?_⟩) ?_ ?_
      · change List.Perm ((host.calls.cache.set key _).contents ++ host.graphCache.contents) _
        rw [contents_set_of_not_has absent, List.append_assoc]
        exact List.perm_middle
      · exact fun _ => (respects_liftTraced _).bind fun _ => respects_pure _
      · exact fun _ => (respects_liftTraced _).bind fun _ => respects_pure _

/-- A failed artifact is produced for no key. -/
theorem addFailed_produces
    (name : String)
    (arguments : List String)
    (message : String)
    (host : Host) :
    (addFailed name arguments message).Meets host fun _ changed => Produces host changed := by
  have added : (addArtifact { function := name, arguments }).Meets host fun outcome changed =>
      outcome = .ok host.artifacts.length ∧
        changed = { host with artifacts := host.artifacts ++ [{ function := name, arguments }] } :=
    ⟨rfl, rfl⟩
  rw [addFailed, meets_bind]
  refine added.imp ?_
  rintro _ _ ⟨rfl, rfl⟩
  have found : Host.artifact?
      { host with artifacts := host.artifacts ++ [{ function := name, arguments }] }
      host.artifacts.length = some { function := name, arguments } :=
    List.getElem?_concat_length
  obtain ⟨result, _, final⟩ := changeArtifact_of_some found (Artifact.fail · message)
  rw [before_ok, meets_bind, Meets, result, final]
  exact .of_append (set_length_concat _ _ _) (.inl ⟨rfl, rfl⟩)

/-- What is cached is ready, so there is nothing under a key without a ready artifact. -/
theorem not_has_of_not_ready
    {host : Host}
    {table : Table ArtifactId}
    {key : String}
    (ready : ∀ id ∈ table.contents, host.isReady id = true)
    (notReady : (table.find? key).filter host.isReady = none) : table.has key = false := by
  refine Bool.eq_false_iff.mpr fun has => ?_
  obtain ⟨id, found⟩ := Option.isSome_iff_exists.mp has
  have listed : id ∈ table.contents := List.mem_map.mpr ⟨_, Table.mem_of_find? found, rfl⟩
  rw [found, Option.filter_some, if_pos (ready id listed)] at notReady
  cases notReady

/-- A call produces an artifact for its key, or none. -/
theorem createShader_produces
    {host : Host}
    (stocked : host.IsStocked)
    (name : String)
    (texts : List String) :
    (createShader name texts).Meets host fun _ changed => Produces host changed := by
  have fails (message : String) : (addFailed name (texts.map Text.trimmed) message).Meets host
      fun _ changed => Produces host changed :=
    addFailed_produces _ _ _ host
  rw [createShader, meets_log_bind, meets_get_bind]
  cases firstRefusal? host.builtins (texts.map Text.trimmed) with
  | some refusal => exact fails _
  | none =>
      dsimp only
      split
      case h_1 => exact meets_log_bind.mpr (.refl host)
      case h_2 notReady =>
        have absent := not_has_of_not_ready
          (fun id listed => stocked.ready id (List.mem_append_left _ listed)) notReady
        rw [makeShader, meets_get_bind]
        cases host.registry.catalogue.owner? name with
        | none => exact fails _
        | some pluginAlias =>
            refine (respects_warnConflict name pluginAlias).meets_bind ?_ ?_
            · exact fun failure _ same => same ▸ .refl host
            rintro _ _ rfl
            rw [meets_liftTraced_bind]
            split
            · exact fails _
            refine (respects_collectSources name pluginAlias _).meets_bind ?_ ?_
            · exact fun failure _ same => same ▸ .refl host
            rintro sources _ rfl
            cases sources with
            | error missing => exact fails _
            | ok code => exact compileCall_produces absent name pluginAlias code _

/-- A call keeps the host stocked. -/
theorem maintains_createShader (name : String) (texts : List String) :
    (createShader name texts).Respects (Maintains IsStocked) :=
  fun _ stocked => stocked.produces (createShader_produces stocked name texts)

/-- The arguments of a chain can be read if its shader could be generated. -/
theorem reports_of_unify
    {generator : Generator}
    {files : FileTree}
    {graph : Graph}
    {chain : List String}
    {nodes : List Node}
    {shader : Shader}
    (success : Attempt.outcome (generator.unify files graph chain) = .ok shader)
    (found : nodesOf graph chain = .ok nodes) :
    ∀ text ∈ nodes.flatMap Node.arguments,
      ∃ reading, Attempt.outcome (generator.interpreter.report text) = .ok reading := by
  obtain ⟨assembly, assembled, -⟩ := Attempt.outcome_bind_eq_ok_iff.mp success
  clear success
  generalize ({} : Assembly) = start at assembled
  induction chain generalizing nodes start with
  | nil =>
      cases found
      simp
  | cons name rest inductionHypothesis =>
      rw [List.foldlM_cons] at assembled
      obtain ⟨next, added, others⟩ := Attempt.outcome_bind_eq_ok_iff.mp assembled
      obtain ⟨call, arguments, _, _, _, _, known, described, _, _⟩ :=
        Assembly.addNode_cases added
      rw [nodesOf, List.mapM_cons, known] at found
      change (nodesOf graph rest >>= fun others => pure (call :: others)) = .ok nodes at found
      cases foundRest : nodesOf graph rest with
      | error failure =>
          rw [foundRest] at found
          cases found
      | ok later =>
          rw [foundRest] at found
          cases found
          intro text listed
          rw [List.flatMap_cons] at listed
          rcases List.mem_append.mp listed with here | behind
          · obtain ⟨reading, read⟩ := reports_of_describe described _ (List.mem_map_of_mem here)
            exact Interpreter.report_of_substitute read
          · exact inductionHypothesis foundRest next others text behind

/-- Compiling a chain produces an artifact for its key, or none. -/
theorem compileChain_produces
    {host : Host}
    {key : String}
    {chain : List String}
    {shader : Shader}
    (absent : host.graphCache.has key = false)
    (unified : Attempt.outcome (host.generator.unify host.files host.graph chain) = .ok shader)
    (output : String) :
    (compileChain output key chain shader).Meets host fun _ changed => Produces host changed := by
  rw [compileChain, meets_get_bind, meets_liftExcept_bind]
  cases found : nodesOf host.graph chain with
  | error failure => exact .refl host
  | ok nodes =>
      refine produces_of_store rfl (reports_of_unify unified found)
        (fun artifacts graphics => ⟨rfl, ?_⟩) ?_ ?_
      · change List.Perm (host.calls.cache.contents ++ (host.graphCache.set key _).contents) _
        rw [contents_set_of_not_has absent, ← List.append_assoc]
        exact List.perm_append_comm
      · exact fun _ => (respects_liftTraced _).bind fun _ => respects_pure _
      · exact fun _ => (respects_liftTraced _).bind fun _ => respects_pure _

/-- A computation that settles has the same values and leaves the host. -/
theorem settle_effect (computation : Attempt Value) (host : Host) :
    (settle computation).Meets host fun outcome changed =>
      host = changed ∧ ∀ value, outcome = .ok (.ok value) ↔
        Attempt.outcome computation = .ok value := by
  rw [settle, meets_liftTraced_bind, Attempt.outcome]
  cases computation.run.value with
  | ok value => exact meets_pure.mpr ⟨rfl, fun other => by simp⟩
  | error failure =>
      dsimp only
      split
      · exact meets_pure.mpr ⟨rfl, fun value => by simp⟩
      · exact meets_throw.mpr ⟨rfl, fun value => by simp⟩

/-- A compilation of a graph produces an artifact for its chain, or none. -/
theorem compileGraph_produces
    {start : Host}
    (stocked : start.IsStocked)
    (output : String) :
    (compileGraph output).Meets start fun _ changed => Produces start changed := by
  rw [compileGraph, meets_bind]
  refine (analyzeGraph_effect output start).imp ?_
  rintro _ host ⟨rfl, same⟩
  have sameStock : host.stock = start.stock := by
    rw [same]
    rfl
  have analyzed : Produces start host := .of_stock sameStock
  rw [before_ok]
  cases (start.graph.analyze output).1 with
  | error failure =>
      dsimp only
      split
      · exact meets_log_bind.mpr analyzed
      · exact analyzed
  | ok chain =>
      dsimp only
      rw [meets_get_bind, meets_liftExcept_bind]
      cases graphKey host.graph chain with
      | error failure => exact analyzed
      | ok key =>
          rw [before_ok]
          split
          case h_1 => exact meets_log_bind.mpr analyzed
          case h_2 notReady =>
            have hostStocked := stocked.produces analyzed
            have absent := not_has_of_not_ready
              (fun id listed => hostStocked.ready id (List.mem_append_right _ listed)) notReady
            rw [makeGraph, meets_get_bind, meets_bind]
            refine (settle_effect _ host).imp ?_
            rintro settled _ ⟨rfl, success⟩
            rcases settled with failure | failure | shader
            · exact analyzed
            · rw [before_ok]
              exact meets_log_bind.mpr analyzed
            · have compiles : (compileChain output key chain shader).Meets host
                  fun _ changed => Produces start changed :=
                (compileChain_produces absent ((success shader).mp rfl) output).imp
                  fun _ _ produces => produces.of_same_stock sameStock
              rw [before_ok]
              dsimp only
              split
              · exact meets_log_bind.mpr compiles
              · exact compiles

/-- A compilation of a graph keeps the host stocked. -/
theorem maintains_compileGraph (output : String) :
    (compileGraph output).Respects (Maintains IsStocked) :=
  fun _ stocked => stocked.produces (compileGraph_produces stocked output)

theorem maintains_create (name raw : String) :
    (create name raw).Respects (Maintains IsStocked) :=
  respects_create (fun _ _ same stocked => stocked.produces (.of_stock same))
    maintains_createShader maintains_compileGraph name raw

end Action
end ShaderGraph
