import ShaderGraph.Host.Watching
import ShaderGraph.Proofs.Plugin.Balance

/-!
# Runs of a registry

A registry is used by loading, unloading and reloading plugins in any order, while
the files change in any way. Whatever the modules in the files do, libraries are
open exactly as long as their plugins are registered, and every instance that was
made is destroyed once, but not while it is registered.
-/

namespace ShaderGraph

namespace Action

/-! ## Reloading -/

/-- The files stay, and the registry continues. -/
def ReloadsPlugins (host : Host) (events : List Event) (changed : Host) : Prop :=
  changed.files = host.files ∧
    Registry.Continues host.files Library.interfaceVersion host.registry events changed.registry

instance : IsCourse ReloadsPlugins where
  refl host := ⟨rfl, .refl _ _ _⟩
  trans := by
    rintro host middle changed first second ⟨files, continues⟩ ⟨laterFiles, laterContinues⟩
    rw [files] at laterFiles laterContinues
    exact ⟨laterFiles, continues.trans laterContinues⟩

/-- Actions that concern no plugin continue the registry. -/
theorem reloadsPlugins_of_forgets
    {host changed : Host}
    {events : List Event}
    (silent : ofLibraries events = [])
    (forgets : Forgets host changed) : ReloadsPlugins host events changed := by
  rw [forgets]
  exact ⟨rfl, .of_silent silent _⟩

theorem library?_eq_none_of_isRecordOrRelease
    {event : Event}
    (allowed : IsRecordOrRelease event) : event.library? = none := by
  cases event with
  | record | programReleased => rfl
  | _ => cases allowed

theorem reloads_forgetShaders (pluginAlias : String) :
    (forgetShaders pluginAlias).Follows ReloadsPlugins := by
  refine follows_of_emits (emits_forgetShaders pluginAlias) (forgets_forgetShaders pluginAlias) ?_
  intro host events changed allowed
  apply reloadsPlugins_of_forgets
  refine List.filter_eq_nil_iff.mpr fun event listed => ?_
  rw [library?_eq_none_of_isRecordOrRelease (allowed event listed)]
  exact Bool.false_ne_true

theorem reloads_log (level : Level) (message : String) :
    (log level message).Follows ReloadsPlugins :=
  fun _ => ⟨rfl, .of_silent rfl _⟩

/-- What continues the registry of a host and is stored there continues it on the host. -/
theorem reloads_changeRegistry
    {operation : Host -> Traced (Value × Registry)}
    (continues : ∀ host, Registry.Continues host.files Library.interfaceVersion host.registry
      (operation host).trace (operation host).value.2) :
    (do
      let (value, registry) <- liftM (operation (<- get))
      modify fun host => { host with registry }
      return value : Action Value).Follows ReloadsPlugins := by
  intro host
  have stored : ReloadsPlugins host ((operation host).trace ++ [])
      { host with registry := (operation host).value.2 } := by
    rw [List.append_nil]
    exact ⟨rfl, continues host⟩
  rw [trace_get_bind, trace_bind, trace_liftTraced]
  exact stored

theorem reloads_loadPlugin (path : String) (pluginAlias : Option String) :
    (loadPlugin path pluginAlias).Follows ReloadsPlugins :=
  reloads_changeRegistry fun host => host.registry.continues_load host.files _ path pluginAlias _

theorem reloads_unloadPlugin (pluginAlias : String) :
    (unloadPlugin pluginAlias).Follows ReloadsPlugins :=
  reloads_changeRegistry fun host => Registry.continues_unload _ _ host.registry pluginAlias

theorem reloads_reloadFile (forgets : Bool) (path : String) :
    (reloadFile forgets path).Follows ReloadsPlugins := by
  have loads : (loadPlugin path (some (Plugin.aliasOf path)) >>= fun loaded =>
      if loaded = true then
        if forgets = true then forgetShaders (Plugin.aliasOf path) >>= fun _ => pure true
        else pure true
      else pure false : Action Bool).Follows ReloadsPlugins := by
    refine (reloads_loadPlugin path _).bind fun loaded => ?_
    split
    · split
      · exact (reloads_forgetShaders _).bind fun _ => follows_pure true
      · exact follows_pure true
    · exact follows_pure false
  refine follows_get.bind fun _ => ?_
  split
  · exact follows_pure false
  · refine (reloads_log _ _).bind fun _ => follows_get.bind fun later => ?_
    dsimp only
    split
    · exact (reloads_unloadPlugin _).bind fun _ => loads
    · exact loads

theorem reloads_reloadFiles (forgets : Bool) (paths : List String) :
    (reloadFiles forgets paths).Follows ReloadsPlugins := by
  induction paths with
  | nil => exact follows_pure 0
  | cons path rest inductionHypothesis =>
      refine (reloads_reloadFile forgets path).bind fun reloaded => ?_
      exact inductionHypothesis.bind fun count => follows_pure _

end Action

namespace Registry

/-! ## Operations -/

/-- An operation on a registry, with the files of that moment. A poll reloads the
files that a watcher saw changing, and may forget the shaders of a host. -/
inductive Operation
  | load
      (files : FileTree)
      (builtins : Option Builtins)
      (path : String)
      (pluginAlias : Option String)
      (expected : Int)
  | loadAll (files : FileTree) (builtins : Option Builtins) (root : String)
  | unload (pluginAlias : String)
  | unloadAll
  | poll (host : Host) (forgets : Bool) (paths : List String)

namespace Operation

/-- The files that an operation reads. -/
def files : Operation -> FileTree
  | .load files _ _ _ _ => files
  | .loadAll files _ _ => files
  | .poll host _ _ => host.files
  | _ => {}

/-- The version of the interface that an operation expects. -/
def expected : Operation -> Int
  | .load _ _ _ _ expected => expected
  | _ => Library.interfaceVersion

/-- Perform an operation on a registry. -/
def perform : Operation -> Registry -> Traced Registry
  | .load files builtins path pluginAlias expected, registry =>
      Prod.snd <$> registry.load files builtins path pluginAlias expected
  | .loadAll files builtins root, registry => Prod.snd <$> registry.loadAll files builtins root
  | .unload pluginAlias, registry => Prod.snd <$> registry.unload pluginAlias
  | .unloadAll, registry => registry.unloadAll
  | .poll host forgets paths, registry =>
      let reloads := Action.reloadFiles forgets paths
      ⟨(reloads.final { host with registry }).registry, reloads.trace { host with registry }⟩

theorem continues_perform (operation : Operation) (registry : Registry) :
    let performed := operation.perform registry
    Continues operation.files operation.expected registry performed.trace performed.value := by
  dsimp only
  cases operation with
  | load files builtins path pluginAlias expected =>
      rw [perform, Traced.trace_map, Traced.value_map]
      exact registry.continues_load files builtins path pluginAlias expected
  | loadAll files builtins root =>
      rw [perform, Traced.trace_map, Traced.value_map]
      exact registry.continues_loadAll files builtins root
  | unload pluginAlias =>
      rw [perform, Traced.trace_map, Traced.value_map]
      exact continues_unload _ _ registry pluginAlias
  | unloadAll => exact continues_unloadEach _ _ _ registry
  | poll host forgets paths =>
      exact (Action.reloads_reloadFiles forgets paths { host with registry }).2

end Operation

/-- Perform operations one after another. -/
def performAll : List Operation -> Registry -> Traced Registry
  | [], registry => pure registry
  | operation :: rest, registry => do
      let changed <- operation.perform registry
      performAll rest changed

theorem performAll_accounts
    (operations : List Operation)
    {registry : Registry}
    {trace : List Event}
    {openings : List Opening}
    (accounts : registry.IsAccountedFor trace openings) :
    let ran := performAll operations registry
    ∃ more, ran.value.IsAccountedFor (trace ++ ran.trace) (openings ++ more) ∧
      ∀ opening ∈ more, ∃ operation ∈ operations,
        opening.IsFrom operation.files operation.expected := by
  induction operations generalizing registry trace openings with
  | nil =>
      refine ⟨[], ?_, by simp⟩
      rw [List.append_nil, performAll, Traced.trace_pure, List.append_nil]
      exact accounts
  | cons operation rest inductionHypothesis =>
      obtain ⟨more, continued, moreFrom⟩ := operation.continues_perform registry trace openings
        accounts
      obtain ⟨others, ended, othersFrom⟩ := inductionHypothesis continued
      refine ⟨more ++ others, ?_, ?_⟩
      · rw [performAll, Traced.trace_bind, Traced.value_bind, ← List.append_assoc,
          ← List.append_assoc]
        exact ended
      · intro opening listed
        rcases List.mem_append.mp listed with now | later
        · exact ⟨operation, List.mem_cons_self, moreFrom opening now⟩
        · obtain ⟨other, present, isFrom⟩ := othersFrom opening later
          exact ⟨other, List.mem_cons_of_mem operation present, isFrom⟩

/-! ## The balance of a run -/

end Registry
end ShaderGraph
