import Restage.Config
import Mathlib.Data.List.Nodup

/-!
# Accepted configurations

The instances of an accepted configuration are those that are written, in their order. All of them
have a staging directory, and no two have the same identifier.
-/

namespace Restage.Config

variable {before listed instances : List Instance} {checkUrl : String → Except UrlFault Unit}
  {source : Source} {config : Config}

/-- Instances pass when each has a staging directory and an identifier of its own. -/
theorem checkInstances_eq_ok_iff (distinct : (before.map Instance.id).Nodup) :
    checkInstances before listed = .ok instances ↔ before ++ listed = instances ∧
      (∀ node ∈ listed, node.stagingDir.text ≠ "") ∧
      ((before ++ listed).map Instance.id).Nodup := by
  induction listed generalizing before with
  | nil =>
      rw [checkInstances, List.append_nil, Except.ok.injEq]
      exact ⟨fun same => ⟨same, nofun, distinct⟩, fun passed => passed.1⟩
  | cons node rest ih =>
      rw [checkInstances, List.forall_mem_cons]
      split
      · next empty => exact ⟨nofun, fun passed => absurd empty passed.2.1.1⟩
      · next located =>
          split
          · next repeated =>
              refine ⟨nofun, fun passed => ?_⟩
              obtain ⟨other, inside, same⟩ := List.any_eq_true.mp repeated
              have apart := passed.2.2
              rw [List.map_append, List.nodup_append] at apart
              exact (apart.2.2 _ (List.mem_map_of_mem inside) _ (List.mem_map_of_mem
                List.mem_cons_self) (of_decide_eq_true same)).elim
          · next fresh =>
              have distinct' : ((before ++ [node]).map Instance.id).Nodup := by
                rw [List.map_append, List.map_singleton, ← List.concat_eq_append]
                refine List.Nodup.concat (fun known => fresh ?_) distinct
                obtain ⟨other, inside, same⟩ := List.mem_map.mp known
                exact List.any_eq_true.mpr ⟨other, inside, decide_eq_true same⟩
              rw [ih distinct', List.append_assoc, List.singleton_append, and_iff_right located]

/-- The instances of an accepted configuration are those that are written, which pass. -/
theorem instances_of_ofSource (accept : ofSource checkUrl source = .ok config) :
    ∃ listed, source.instances = some listed ∧
      checkInstances [] listed = .ok config.instances := by
  simp only [ofSource, bind, Except.bind, pure, Except.pure, throw, throwThe,
    MonadExceptOf.throw] at accept
  split at accept
  · cases accept
  · cases accept
  · next listed _ written =>
      refine ⟨listed, written, ?_⟩
      split at accept
      · cases accept
      · next instances passed =>
          have kept : config.instances = instances := by
            -- the later rules only look at the rest of the source
            repeat' split at accept
            all_goals cases accept
            rfl
          rw [passed, kept]

/-- The instances of an accepted configuration have identifiers of their own. -/
theorem instances_nodup (accept : ofSource checkUrl source = .ok config) :
    (config.instances.map Instance.id).Nodup := by
  obtain ⟨listed, -, passed⟩ := instances_of_ofSource accept
  have none : (([] : List Instance).map Instance.id).Nodup := List.nodup_nil
  obtain ⟨same, -, distinct⟩ := (checkInstances_eq_ok_iff none).mp passed
  rwa [same] at distinct

end Restage.Config
