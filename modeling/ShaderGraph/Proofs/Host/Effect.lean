import Mathlib.Order.Defs.Unbundled
import ShaderGraph.Host.Basic

/-!
# Results and final states of actions

An action on a host has a result and leaves a final state, whether it fails or
not. What holds of both is found step by step: an action goes on from the state
that the first step leaves, unless that step fails. A preorder of states that
every step respects is respected by the whole action. The work on artifacts
changes nothing but the artifacts and the graphics.
-/

namespace ShaderGraph
namespace Action

/-- The result of an action on a host. -/
def result (action : Action Value) (host : Host) : Except Failure Value :=
  (action.run.run host).value.1

/-- The state that an action leaves. -/
def final (action : Action Value) (host : Host) : Host :=
  (action.run.run host).value.2

/-! ## Steps -/

/-- The result and the final state of an action on a host satisfy a condition. -/
def Meets
    (action : Action Value)
    (host : Host)
    (condition : Except Failure Value -> Host -> Prop) : Prop :=
  condition (action.result host) (action.final host)

/-- A condition on what follows a step, as a condition on that step. -/
def Before
    (next : Value -> Action Result)
    (condition : Except Failure Result -> Host -> Prop) : Except Failure Value -> Host -> Prop
  | .ok value, host => (next value).Meets host condition
  | .error failure, host => condition (.error failure) host

/-- Behind a success the next action has to meet the condition. -/
theorem before_ok
    {next : Value -> Action Result}
    {condition : Except Failure Result -> Host -> Prop}
    {value : Value}
    {host : Host} :
    Before next condition (.ok value) host ↔ (next value).Meets host condition := Iff.rfl

/-- Two actions meet a condition if the second one does wherever the first one leads. -/
theorem meets_bind
    {first : Action Value}
    {next : Value -> Action Result}
    {host : Host}
    {condition : Except Failure Result -> Host -> Prop} :
    (first >>= next).Meets host condition ↔ first.Meets host (Before next condition) := by
  have bound : ((first >>= next).run.run host).value =
      (StateT.run (ExceptT.bindCont next (first.result host)) (first.final host)).value := rfl
  unfold Meets
  rw [result, final, bound]
  cases first.result host <;> rfl

/-- What meets a condition meets a weaker one. -/
theorem Meets.imp
    {action : Action Value}
    {host : Host}
    {condition weaker : Except Failure Value -> Host -> Prop}
    (meets : action.Meets host condition)
    (implies : ∀ outcome changed, condition outcome changed -> weaker outcome changed) :
    action.Meets host weaker :=
  implies _ _ meets

@[simp] theorem meets_pure
    {value : Value}
    {host : Host}
    {condition : Except Failure Value -> Host -> Prop} :
    (pure value : Action Value).Meets host condition ↔ condition (.ok value) host := Iff.rfl

@[simp] theorem meets_throw
    {failure : Failure}
    {host : Host}
    {condition : Except Failure Value -> Host -> Prop} :
    (throw failure : Action Value).Meets host condition ↔ condition (.error failure) host := Iff.rfl

/-- Reading the host leads to it. -/
@[simp] theorem meets_get_bind
    {next : Host -> Action Result}
    {host : Host}
    {condition : Except Failure Result -> Host -> Prop} :
    ((get : Action Host) >>= next).Meets host condition ↔ (next host).Meets host condition :=
  meets_bind

/-- A change is followed from the changed host. -/
@[simp] theorem meets_modify_bind
    {change : Host -> Host}
    {next : Unit -> Action Result}
    {host : Host}
    {condition : Except Failure Result -> Host -> Prop} :
    ((modify change : Action Unit) >>= next).Meets host condition ↔
      (next ()).Meets (change host) condition :=
  meets_bind

@[simp] theorem meets_modify
    {change : Host -> Host}
    {host : Host}
    {condition : Except Failure Unit -> Host -> Prop} :
    (modify change : Action Unit).Meets host condition ↔ condition (.ok ()) (change host) := Iff.rfl

/-- A record changes nothing that a condition is about. -/
@[simp] theorem meets_log_bind
    {level : Level}
    {message : String}
    {next : Unit -> Action Result}
    {host : Host}
    {condition : Except Failure Result -> Host -> Prop} :
    (log level message >>= next).Meets host condition ↔ (next ()).Meets host condition :=
  meets_bind

/-- A traced computation leads to its value. -/
@[simp] theorem meets_liftTraced_bind
    {computation : Traced Value}
    {next : Value -> Action Result}
    {host : Host}
    {condition : Except Failure Result -> Host -> Prop} :
    ((liftM computation : Action Value) >>= next).Meets host condition ↔
      (next computation.value).Meets host condition :=
  meets_bind

/-- A failure ends an action, and a value leads on. -/
theorem meets_liftExcept_bind
    {outcome : Except Failure Value}
    {next : Value -> Action Result}
    {host : Host}
    {condition : Except Failure Result -> Host -> Prop} :
    ((liftM outcome : Action Value) >>= next).Meets host condition ↔
      Before next condition outcome host :=
  meets_bind

/-! ## Relations that actions respect -/

/-- An action respects a relation if it leaves every state in a related one. -/
def Respects (relation : Host -> Host -> Prop) (action : Action Value) : Prop :=
  ∀ host, relation host (action.final host)

section Respects

variable {relation : Host -> Host -> Prop}

/-- What holds after a step that respects a relation. -/
theorem Respects.meets_bind
    {first : Action Value}
    {next : Value -> Action Result}
    {host : Host}
    {condition : Except Failure Result -> Host -> Prop}
    (respects : first.Respects relation)
    (failed : ∀ failure changed, relation host changed -> condition (.error failure) changed)
    (continued : ∀ value changed, relation host changed -> (next value).Meets changed condition) :
    (first >>= next).Meets host condition := by
  have related := respects host
  rw [Action.meets_bind, Meets]
  cases first.result host with
  | error failure => exact failed failure _ related
  | ok value => exact continued value _ related

/-- What an action meets and the relation that it respects hold together. -/
theorem Respects.meets
    {action : Action Value}
    {host : Host}
    {condition : Except Failure Value -> Host -> Prop}
    (respects : action.Respects relation)
    (meets : action.Meets host condition) :
    action.Meets host fun outcome changed => relation host changed ∧ condition outcome changed :=
  ⟨respects host, meets⟩

/-- What respects two relations respects both at once. -/
theorem Respects.and
    {action : Action Value}
    {other : Host -> Host -> Prop}
    (respects : action.Respects relation)
    (otherRespects : action.Respects other) :
    action.Respects fun host changed => relation host changed ∧ other host changed :=
  fun host => ⟨respects host, otherRespects host⟩

/-- What respects a relation respects a weaker one. -/
theorem Respects.imp
    {action : Action Value}
    {weaker : Host -> Host -> Prop}
    (respects : action.Respects relation)
    (implies : ∀ host changed, relation host changed -> weaker host changed) :
    action.Respects weaker :=
  fun host => implies host _ (respects host)

/-- A change that relates every host to the changed one respects the relation. -/
theorem respects_modify
    {change : Host -> Host}
    (related : ∀ host, relation host (change host)) :
    (modify change : Action Unit).Respects relation :=
  related

variable [IsPreorder Host relation]

/-- What leaves the host respects every reflexive relation. -/
theorem respects_of_final_eq
    {action : Action Value}
    (same : ∀ host, action.final host = host) : action.Respects relation := by
  intro host
  rw [same]
  exact refl_of relation host

/-- Two actions respect a transitive relation if both do. -/
theorem Respects.bind
    {first : Action Value}
    {next : Value -> Action Result}
    (firstRespects : first.Respects relation)
    (nextRespects : ∀ value, (next value).Respects relation) :
    (first >>= next).Respects relation := by
  intro host
  have meets : (first >>= next).Meets host fun _ changed => relation host changed := by
    refine firstRespects.meets_bind (fun _ _ related => related) fun value changed related => ?_
    exact trans_of relation related (nextRespects value changed)
  exact meets

theorem respects_pure (value : Value) : (pure value : Action Value).Respects relation :=
  respects_of_final_eq fun _ => rfl

theorem respects_get : (get : Action Host).Respects relation :=
  respects_of_final_eq fun _ => rfl

theorem respects_liftTraced (computation : Traced Value) :
    (liftM computation : Action Value).Respects relation :=
  respects_of_final_eq fun _ => rfl

/-- An attempt leaves the host. -/
theorem respects_attempt (computation : Attempt Value) :
    (attempt computation).Respects relation := by
  refine (respects_liftTraced computation.run).bind fun outcome => ?_
  cases outcome with
  | ok value => exact respects_pure value
  | error failure => exact respects_of_final_eq fun _ => rfl

/-- A computation that settles leaves the host. -/
theorem respects_settle (computation : Attempt Value) :
    (settle computation).Respects relation := by
  refine (respects_liftTraced computation.run).bind fun outcome => ?_
  cases outcome with
  | ok value => exact respects_pure (Except.ok value)
  | error failure =>
      dsimp only
      split
      · exact respects_pure (Except.error failure)
      · exact respects_of_final_eq fun _ => rfl

end Respects

/-! ## Views that do not change -/

/-- What a view shows of a host did not change. -/
def Unchanged (view : Host -> View) (host changed : Host) : Prop :=
  view changed = view host

instance (view : Host -> View) : IsPreorder Host (Unchanged view) where
  refl _ := rfl
  trans _ _ _ left right := right.trans left

/-! ## The work on artifacts -/

/-- Only the graphics and the artifacts from a number on differ, and no artifact
is dropped. -/
structure OnlyArtifactsFrom (first : ArtifactId) (host changed : Host) : Prop where
  others : changed = { host with artifacts := changed.artifacts, graphics := changed.graphics }
  length_le : host.artifacts.length ≤ changed.artifacts.length
  kept : ∀ id < first, changed.artifact? id = host.artifact? id

instance (first : ArtifactId) : IsPreorder Host (OnlyArtifactsFrom first) where
  refl _ := ⟨rfl, Nat.le_refl _, fun _ _ => rfl⟩
  trans _ _ _ left right :=
    ⟨by rw [right.others, left.others], Nat.le_trans left.length_le right.length_le,
      fun id before => (right.kept id before).trans (left.kept id before)⟩

/-- Only the artifacts and the graphics differ, and no artifact is dropped. -/
structure OnlyArtifacts (host changed : Host) : Prop where
  others : changed = { host with artifacts := changed.artifacts, graphics := changed.graphics }
  length_le : host.artifacts.length ≤ changed.artifacts.length

instance : IsPreorder Host OnlyArtifacts where
  refl _ := ⟨rfl, Nat.le_refl _⟩
  trans _ _ _ left right :=
    ⟨by rw [right.others, left.others], Nat.le_trans left.length_le right.length_le⟩

/-- A change from an artifact on is a change of artifacts. -/
theorem OnlyArtifactsFrom.onlyArtifacts
    {first : ArtifactId}
    {host changed : Host}
    (only : OnlyArtifactsFrom first host changed) : OnlyArtifacts host changed :=
  ⟨only.others, only.length_le⟩

theorem OnlyArtifacts.graph_eq {host changed : Host} (only : OnlyArtifacts host changed) :
    changed.graph = host.graph := by
  rw [only.others]

/-- A change of artifacts leaves the cache of chains. -/
theorem OnlyArtifacts.graphCache_eq {host changed : Host} (only : OnlyArtifacts host changed) :
    changed.graphCache = host.graphCache := by
  rw [only.others]

/-- An artifact is stored under the number that comes next. -/
theorem addArtifact_effect (artifact : Artifact) (host : Host) :
    (addArtifact artifact).Meets host fun outcome changed =>
      outcome = .ok host.artifacts.length ∧
        OnlyArtifactsFrom host.artifacts.length host changed ∧
        host.artifacts.length < changed.artifacts.length := by
  rw [addArtifact, meets_get_bind, meets_modify_bind]
  refine meets_pure.mpr ⟨rfl, ⟨rfl, ?_, fun id before => ?_⟩, ?_⟩
  · simp
  · exact List.getElem?_append_left before
  · simp

/-- An artifact that is set is found. -/
theorem artifact?_setArtifact_self
    {host : Host}
    {id : ArtifactId}
    {old : Artifact}
    (found : host.artifact? id = some old)
    (artifact : Artifact) : (host.setArtifact id artifact).artifact? id = some artifact := by
  have bound : id < host.artifacts.length := (List.getElem?_eq_some_iff.mp found).1
  simp [Host.artifact?, Host.setArtifact, bound]

/-- A failed artifact is not ready. -/
theorem isReady_fail (artifact : Artifact) (message : String) :
    (artifact.fail message).value.isReady = false := by
  simp [Artifact.fail, Artifact.isReady]

/-- An artifact is ready after a compilation exactly if it has a program. -/
theorem isReady_receive (artifact : Artifact) (outcome : Except CompileError Program) :
    (artifact.receive outcome).value.2.isReady = (artifact.receive outcome).value.1 := by
  cases outcome with
  | error error => exact isReady_fail artifact error.message
  | ok program => simp [Artifact.receive, Artifact.isReady]

/-- Setting an artifact leaves those before it and all that is no artifact. -/
theorem onlyArtifacts_setArtifact
    {first id : ArtifactId}
    (behind : first ≤ id)
    (host : Host)
    (artifact : Artifact) : OnlyArtifactsFrom first host (host.setArtifact id artifact) := by
  refine ⟨rfl, by simp [Host.setArtifact], fun other before => ?_⟩
  have different : id ≠ other := Nat.ne_of_gt (Nat.lt_of_lt_of_le before behind)
  simp [Host.artifact?, Host.setArtifact, different]

theorem respects_changeArtifact_from
    {first id : ArtifactId}
    (behind : first ≤ id)
    (change : Artifact -> Traced Artifact) :
    (changeArtifact id change).Respects (OnlyArtifactsFrom first) := by
  refine respects_get.bind fun host => ?_
  cases host.artifact? id with
  | none => exact respects_pure ()
  | some artifact =>
      refine (respects_liftTraced _).bind fun changed => ?_
      exact respects_modify fun later => onlyArtifacts_setArtifact behind later changed

/-- Changing an artifact changes artifacts only. -/
theorem respects_changeArtifact (id : ArtifactId) (change : Artifact -> Traced Artifact) :
    (changeArtifact id change).Respects OnlyArtifacts :=
  (respects_changeArtifact_from (Nat.zero_le id) change).imp fun _ _ only => only.onlyArtifacts

/-- Changing an artifact succeeds and puts the changed one in its place. -/
theorem changeArtifact_effect
    (id : ArtifactId)
    (change : Artifact -> Traced Artifact)
    (host : Host) :
    (changeArtifact id change).Meets host fun outcome changed =>
      outcome = .ok () ∧
        changed.artifact? id = (host.artifact? id).map fun artifact => (change artifact).value := by
  rw [changeArtifact, meets_get_bind]
  cases found : host.artifact? id with
  | none => exact ⟨rfl, found⟩
  | some artifact => exact ⟨rfl, artifact?_setArtifact_self found _⟩

/-- Cleaning up changes artifacts only. -/
theorem respects_cleanUpEach (ids : List ArtifactId) :
    (cleanUpEach ids).Respects OnlyArtifacts := by
  induction ids with
  | nil => exact respects_pure ()
  | cons id rest inductionHypothesis =>
      exact (respects_changeArtifact id _).bind fun _ => inductionHypothesis

/-- Cleaning up always succeeds. -/
theorem cleanUpEach_succeeds (ids : List ArtifactId) (host : Host) :
    (cleanUpEach ids).Meets host fun outcome _ => outcome = .ok () := by
  induction ids generalizing host with
  | nil => rfl
  | cons id rest inductionHypothesis =>
      rw [cleanUpEach, meets_bind]
      refine (changeArtifact_effect id _ host).imp ?_
      rintro _ changed ⟨rfl, _⟩
      exact inductionHypothesis changed

/-- Compiling stages changes no artifact. -/
theorem respects_compileStages (first : ArtifactId) (vertex fragment directory : String) :
    (compileStages vertex fragment directory).Respects (OnlyArtifactsFrom first) := by
  refine respects_get.bind fun host => ?_
  refine (respects_liftTraced _).bind fun (outcome, graphics) => ?_
  refine (respects_modify fun later => ⟨rfl, Nat.le_refl _, fun _ _ => rfl⟩).bind fun _ => ?_
  exact respects_pure outcome

theorem respects_compileArtifact_from {first id : ArtifactId} (behind : first ≤ id) :
    (compileArtifact id).Respects (OnlyArtifactsFrom first) := by
  refine respects_get.bind fun host => ?_
  cases host.artifact? id with
  | none => exact respects_pure false
  | some artifact =>
      dsimp only
      split
      · exact (respects_changeArtifact_from behind _).bind fun _ => respects_pure false
      · refine (respects_compileStages first _ _ _).bind fun outcome => ?_
        refine (respects_liftTraced _).bind fun (compiled, changed) => ?_
        refine (respects_modify fun later =>
          onlyArtifacts_setArtifact behind later changed).bind fun _ => ?_
        exact respects_pure compiled

/-- Compiling an artifact changes artifacts and the graphics only. -/
theorem respects_compileArtifact (id : ArtifactId) :
    (compileArtifact id).Respects OnlyArtifacts :=
  (respects_compileArtifact_from (Nat.zero_le id)).imp fun _ _ only => only.onlyArtifacts

/-- A compilation tells whether the artifact is ready afterwards. -/
theorem compileArtifact_effect (id : ArtifactId) (host : Host) :
    (compileArtifact id).Meets host fun outcome changed => outcome = .ok (changed.isReady id) := by
  rw [compileArtifact, meets_get_bind]
  cases found : host.artifact? id with
  | none => simp [Host.isReady, found]
  | some artifact =>
      dsimp only
      split
      · rw [meets_bind]
        refine (changeArtifact_effect id _ host).imp ?_
        rintro _ changed ⟨rfl, failed⟩
        rw [before_ok, meets_pure, Host.isReady, failed, found]
        exact congrArg Except.ok (isReady_fail artifact _).symm
      · rw [compileStages, bind_assoc, meets_get_bind, bind_assoc, meets_liftTraced_bind,
          bind_assoc, meets_modify_bind, pure_bind, meets_liftTraced_bind, meets_modify_bind,
          meets_pure, Host.isReady, artifact?_setArtifact_self (by exact found)]
        exact congrArg Except.ok (isReady_receive artifact _).symm

/-- A change that keeps an artifact as ready as it was does so for all of them. -/
theorem respects_changeArtifact_isReady
    (id : ArtifactId)
    {change : Artifact -> Traced Artifact}
    (same : ∀ artifact, (change artifact).value.isReady = artifact.isReady) :
    (changeArtifact id change).Respects (Unchanged Host.isReady) := by
  intro host
  have meets : (changeArtifact id change).Meets host fun _ changed =>
      Unchanged Host.isReady host changed := by
    rw [changeArtifact, meets_get_bind]
    cases found : host.artifact? id with
    | none => exact refl_of (Unchanged Host.isReady) host
    | some artifact =>
        funext other
        change (host.setArtifact id (change artifact).value).isReady other = host.isReady other
        by_cases equal : id = other
        · subst equal
          rw [Host.isReady, Host.isReady, artifact?_setArtifact_self found, found]
          exact same artifact
        · simp [Host.isReady, Host.artifact?, Host.setArtifact, equal]
  exact meets

theorem respects_setRefreshing_from
    {first id : ArtifactId}
    (behind : first ≤ id)
    (arguments : List String) :
    (setRefreshing id arguments).Respects (OnlyArtifactsFrom first) := by
  refine respects_get.bind fun host => ?_
  refine (respects_attempt _).bind fun time => ?_
  exact (respects_attempt _).bind fun resolution => respects_changeArtifact_from behind _

/-- Finding out what is refreshed makes no artifact ready or useless. -/
theorem respects_setRefreshing_isReady (id : ArtifactId) (arguments : List String) :
    (setRefreshing id arguments).Respects (Unchanged Host.isReady) := by
  refine respects_get.bind fun host => ?_
  refine (respects_attempt _).bind fun time => ?_
  refine (respects_attempt _).bind fun resolution => ?_
  exact respects_changeArtifact_isReady id fun artifact => rfl

/-- Setting what refreshes an artifact changes artifacts only. -/
theorem respects_setRefreshing (id : ArtifactId) (arguments : List String) :
    (setRefreshing id arguments).Respects OnlyArtifacts :=
  (respects_setRefreshing_from (Nat.zero_le id) arguments).imp fun _ _ only => only.onlyArtifacts

end Action
end ShaderGraph
