import NNRt.Compiler.NullSafety
import NNRt.Compiler.Rewrite
import NNRt.Executor.Calls

/-!
# What a reload does

- `Reloaded`, `reload_reloaded`: **the ways `Reload` ends**: nothing is kept, or the
  prepared model although preparing it failed, or the model and the descriptions.
- `reloadCaches_reloaded`: the same once the cache is restored.
- `autoReload_success`: a synchronous run goes on after the last of them only.
-/

namespace NNRt

namespace NNExecutor

/-- How `Reload` ends. -/
inductive Reloaded (e : NNExecutor) (w : World) (env : ReloadEnv) :
    ReturnCode → NNExecutor → World → Prop
  /-- A check fails, or the cache cannot be restored or read. -/
  | refused {ret : ReturnCode} {mappings : Mappings} (hret : ret ≠ .success) :
    Reloaded e w env ret e { w with mappings := mappings }
  /-- Preparing the model fails; what the device has handed over is kept. -/
  | unprepared {mappings : Mappings} (hmodel : e.preparedModel = none)
    (hret : env.cache.prepare.1 ≠ .success) :
    Reloaded e w env env.cache.prepare.1 { e with preparedModel := env.cache.prepare.2.1 }
      { w with mappings := mappings }
  /-- The executor has the model, and descriptions of its own. -/
  | prepared {mappings : Mappings} {inputTensorDescs outputTensorDescs : List (TensorDesc × UInt32)}
    (hmodel : e.preparedModel = none) (hret : env.cache.prepare.1 = .success) :
    Reloaded e w env .success
      { e with
        preparedModel := env.cache.prepare.2.1
        inputTensorDescs :=
          (World.createDescs { w with mappings := mappings } inputTensorDescs).1
        outputTensorDescs :=
          ((World.createDescs { w with mappings := mappings } inputTensorDescs).2.createDescs
            outputTensorDescs).1 }
      ((World.createDescs { w with mappings := mappings } inputTensorDescs).2.createDescs
        outputTensorDescs).2

section Reload

variable {e e' : NNExecutor} {w w' : World} {env : ReloadEnv} {ret : ReturnCode}

/-- How `Reload` ends once the cache is restored. -/
inductive CachesReloaded (e : NNExecutor) (w : World) (env : ReloadEnv) (caches : List Buffer) :
    ReturnCode → NNExecutor → World → Prop
  /-- The descriptions cannot be read. -/
  | unread {ret : ReturnCode} (hret : ret ≠ .success)
    (hdescs : ¬ ∃ descs, restoredDescs caches = .ok descs) :
    CachesReloaded e w env caches ret e w
  /-- Preparing the model fails. -/
  | unprepared {descs : List (TensorDesc × UInt32) × List (TensorDesc × UInt32)}
    (hdescs : restoredDescs caches = .ok descs) (hret : env.cache.prepare.1 ≠ .success) :
    CachesReloaded e w env caches env.cache.prepare.1
      { e with preparedModel := env.cache.prepare.2.1 } w
  /-- The executor has the model, and descriptions of its own. -/
  | prepared {inputTensorDescs outputTensorDescs : List (TensorDesc × UInt32)}
    (hmany : cacheInputTensorDescOffset ≤ caches.length)
    (hdescs : restoredDescs caches = .ok (inputTensorDescs, outputTensorDescs))
    (hret : env.cache.prepare.1 = .success) :
    CachesReloaded e w env caches .success
      { e with
        preparedModel := env.cache.prepare.2.1
        inputTensorDescs := (w.createDescs inputTensorDescs).1
        outputTensorDescs := ((w.createDescs inputTensorDescs).2.createDescs outputTensorDescs).1 }
      ((w.createDescs inputTensorDescs).2.createDescs outputTensorDescs).2

/-- **The end of `Reload`** is one of these. -/
theorem reloadCaches_reloaded {caches : List Buffer}
    (h : e.reloadCaches w env caches = .ok (ret, e', w')) :
    CachesReloaded e w env caches ret e' w' := by
  have hread : ∀ buffer, deserializedTensorsFromMapped buffer ≠ .error (.ret .success) :=
    fun buffer hread => deserializedTensorsFromMapped_avoids buffer _ hread (Or.inr rfl)
  unfold reloadCaches at h
  dsimp only at h
  split at h
  · cases h
  rename_i hmany
  split at h
  · cases h
  · rename_i hinputs
    cases h
    refine .unread (fun hret => ?_) ?_
    · subst hret
      exact hread _ hinputs
    · rintro ⟨descs, hdescs⟩
      cases (restoredDescs_eq_ok_iff.mp hdescs).1.symm.trans hinputs
  rename_i inputs hinputs
  split at h
  · cases h
  · rename_i houtputs
    cases h
    refine .unread (fun hret => ?_) ?_
    · subst hret
      exact hread _ houtputs
    · rintro ⟨descs, hdescs⟩
      cases (restoredDescs_eq_ok_iff.mp hdescs).2.symm.trans houtputs
  rename_i outputs houtputs
  have hdescs : restoredDescs caches = .ok (inputs, outputs) :=
    restoredDescs_eq_ok_iff.mpr ⟨hinputs, houtputs⟩
  split at h
  · rename_i hret
    cases h
    exact .unprepared hdescs hret
  · rename_i hret
    cases h
    exact .prepared (Nat.not_lt.mp hmany) hdescs (not_not.mp hret)

/-- **`Reload` ends in one of these ways.** -/
theorem reload_reloaded (h : e.reload w env = .ok (ret, e', w')) :
    Reloaded e w env ret e' w' := by
  unfold reload at h
  split at h
  · cases h
    exact @Reloaded.refused e w env _ w.mappings (by decide)
  split at h
  · cases h
    exact @Reloaded.refused e w env _ w.mappings (by decide)
  split at h
  · cases h
    exact @Reloaded.refused e w env _ w.mappings (by decide)
  rename_i hmodel
  have hnone : e.preparedModel = none := Option.not_isSome_iff_eq_none.mp hmodel
  split at h
  · dsimp only at h
    split at h
    · cases h
    split at h
    · -- The buffers are released, and nothing is kept.
      rename_i hret
      cases h
      exact .refused hret
    cases reloadCaches_reloaded h with
    | unread hret => exact .refused hret
    | unprepared hdescs hret => exact .unprepared hnone hret
    | prepared hmany hdescs hret => exact .prepared hnone hret
  · rename_i hret _
    cases h
    exact @Reloaded.refused e w env _ w.mappings hret

theorem autoReload_success (h : e.autoReload w env = .ok (.success, e', w')) :
    e.reload w env = .ok (.success, e', w') ∧ e'.executorConfig.isSome := by
  unfold autoReload at h
  split at h
  · cases h
  · rename_i e₁ w₁ hreload
    split at h
    · cases h
    · rename_i hconfig
      cases h
      exact ⟨hreload, by rw [hconfig]; rfl⟩
  · cases h

/-- A failed reload is reported as one code, and does what `Reload` did. -/
theorem autoReload_failed (h : e.autoReload w env = .ok (ret, e', w')) (hret : ret ≠ .success) :
    ret = .invalidParameter ∧
      ∃ ret₁, ret₁ ≠ .success ∧ e.reload w env = .ok (ret₁, e', w') := by
  unfold autoReload at h
  split at h
  · cases h
  · split at h
    · cases h
    · cases h
      exact absurd rfl hret
  · rename_i ret₁ _ _ hne hreload
    cases h
    exact ⟨rfl, ret₁, hne, hreload⟩

end Reload

end NNExecutor

end NNRt
