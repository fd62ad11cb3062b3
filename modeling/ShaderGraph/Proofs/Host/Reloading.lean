import ShaderGraph.Proofs.Host.Forgetting

/-!
# Reloading plugins

Polling, the start and the end of a host change its plugins and its watcher, and
forget shaders. A preorder of states that does not ask for plugins or watchers is
respected by all of this if it is respected where shaders are forgotten. What is
maintained from state to state is such a preorder.
-/

namespace ShaderGraph
namespace Action

/-- A condition that holds of a state holds of the changed one. -/
def Maintains (condition : Host -> Prop) (host changed : Host) : Prop :=
  condition host -> condition changed

instance (condition : Host -> Prop) : IsPreorder Host (Maintains condition) where
  refl _ holds := holds
  trans _ _ _ left right := right ∘ left

/-- The output is disconnected where something is shown. -/
theorem releaseOutput_effect (host : Host) :
    releaseOutput.Meets host fun outcome changed =>
      outcome = .ok () ∧ changed = host.disconnected := by
  rw [releaseOutput, meets_get_bind]
  split
  case isTrue shown =>
    rw [meets_bind]
    refine (disconnectOutput_effect host).imp ?_
    rintro _ _ ⟨rfl, rfl⟩
    exact ⟨rfl, rfl⟩
  case isFalse hidden =>
    refine ⟨rfl, ?_⟩
    rw [Host.disconnected, Option.not_isSome_iff_eq_none.mp hidden]
    rfl

section Reloading

variable {relation : Host -> Host -> Prop} [IsPreorder Host relation]
variable (outside : ∀ host registry watcher, relation host { host with registry, watcher })

include outside

/-- A change of the plugins changes nothing else. -/
theorem respects_changeRegistry (operation : Host -> Traced (Value × Registry)) :
    (do
      let (value, registry) <- liftM (operation (<- get))
      modify fun host => { host with registry }
      return value : Action Value).Respects relation := by
  refine respects_get.bind fun host => (respects_liftTraced _).bind fun (value, registry) => ?_
  refine Respects.bind (respects_modify fun later => ?_) fun _ => respects_pure value
  exact outside later registry later.watcher

theorem respects_changeWatcher (change : Watcher -> Traced Watcher) :
    (changeWatcher change).Respects relation := by
  refine respects_get.bind fun host => ?_
  split
  · exact respects_pure ()
  · refine (respects_liftTraced _).bind fun changed => respects_modify fun later => ?_
    exact outside later later.registry (some changed)

theorem respects_boot (directory : Option String) (watches : Bool) :
    (boot directory watches).Respects relation := by
  unfold boot
  split
  · exact respects_pure ()
  case h_2 root =>
    refine Respects.bind ?_ fun _ => ?_
    · exact respects_changeRegistry outside fun host => host.registry.loadAll _ _ _
    · split
      · refine Respects.bind (respects_modify fun later => ?_) fun _ => ?_
        · exact outside later later.registry _
        · exact respects_changeWatcher outside _
      · exact respects_pure ()

theorem respects_unloadPlugins : unloadPlugins.Respects relation :=
  respects_get.bind fun _ => (respects_liftTraced _).bind fun registry =>
    respects_modify fun later => outside later registry later.watcher

variable (forgets : ∀ pluginAlias, (forgetShaders pluginAlias).Respects relation)

include forgets

theorem respects_reloadFile (path : String) : (reloadFile true path).Respects relation := by
  have loads : (loadPlugin path (some (Plugin.aliasOf path)) >>= fun loaded =>
      if loaded = true then
        if true = true then forgetShaders (Plugin.aliasOf path) >>= fun _ => pure true
        else pure true
      else pure false : Action Bool).Respects relation := by
    refine Respects.bind ?_ fun loaded => ?_
    · exact respects_changeRegistry outside fun host => host.registry.load _ _ _ _
    · split
      · exact (forgets _).bind fun _ => respects_pure true
      · exact respects_pure false
  refine respects_get.bind fun host => ?_
  split
  · exact respects_pure false
  · refine (respects_liftTraced _).bind fun _ => respects_get.bind fun later => ?_
    dsimp only
    split
    · refine Respects.bind ?_ fun _ => loads
      exact respects_changeRegistry outside fun host => host.registry.unload _
    · exact loads

theorem respects_reloadFiles (paths : List String) :
    (reloadFiles true paths).Respects relation := by
  induction paths with
  | nil => exact respects_pure 0
  | cons path rest inductionHypothesis =>
      refine (respects_reloadFile outside forgets path).bind fun reloaded => ?_
      exact inductionHypothesis.bind fun count => respects_pure _

theorem respects_poll : poll.Respects relation := by
  refine respects_get.bind fun host => ?_
  split
  · exact respects_pure 0
  · refine Respects.bind (respects_modify fun later => ?_) fun _ =>
      respects_reloadFiles outside forgets _
    exact outside later later.registry _

end Reloading

end Action
end ShaderGraph
