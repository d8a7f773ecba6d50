import NNRt.Compiler.Upgrade
import NNRt.Executor.Reload
import NNRt.Lib.Ledger

/-!
# The mapped cache files

`Restore` maps one file after the other and hands the buffers to its caller, which has to
release them on every way out.

- `restore_maps`: what `Restore` leaves mapped is what it hands over.
- `reload_balanced`: `Reload` releases all of it, however it ends.
- `restoreFromCacheFile_balanced_iff`: `RestoreFromCacheFile` does unless the op-version
  update fails, which returns in front of the release.
- `mappings_balanced`: **both together**.
-/

namespace NNRt

/-- A mapping as a handle. -/
def MapEvent.toEvent : MapEvent → Ledger.Event
  | .mapped fd => .acquire fd
  | .released fd => .release fd

/-- What happened to the mappings since a log. -/
def Mappings.since (before after : Mappings) : Ledger.Log :=
  (after.drop before.length).map MapEvent.toEvent

/-- Every file mapped since then was unmapped exactly once, and nothing else was. -/
def Mappings.Balanced (before after : Mappings) : Prop :=
  Ledger.Holds (before.since after) []

namespace Mappings

theorem since_append (before events : Mappings) :
    before.since (before ++ events) = events.map MapEvent.toEvent := by
  rw [since, List.drop_left]

theorem balanced_self (before : Mappings) : before.Balanced before := by
  unfold Balanced since
  rw [List.drop_length]
  exact Ledger.holds_nil

end Mappings

namespace NNCompiledCache

variable {codec : JsonCodec} {io : IoFaults} {store : NNCompiledCache} {fs : FileSystem}
  {cacheDir : String}

/-- A log has grown by events after which exactly the given buffers are mapped. -/
structure Maps (before after : Mappings) (caches : List Buffer) : Prop where
  grown : ∃ events, after = before ++ events
  holds : Ledger.Holds (before.since after) (caches.map Buffer.fd)
  /-- The next descriptor is fresh. -/
  fresh : ∀ fd, .acquire fd ∈ before.since after → fd < after.length

theorem maps_self (before : Mappings) : Maps before before [] where
  grown := ⟨[], (List.append_nil before).symm⟩
  holds := Mappings.balanced_self before
  fresh fd hfd := by
    unfold Mappings.since at hfd
    rw [List.drop_length] at hfd
    exact absurd hfd List.not_mem_nil

/-- One event more. -/
theorem since_snoc {before after : Mappings} (h : ∃ events, after = before ++ events)
    (e : MapEvent) : before.since (after ++ [e]) = before.since after ++ [e.toEvent] := by
  obtain ⟨events, rfl⟩ := h
  rw [List.append_assoc, Mappings.since_append, Mappings.since_append, List.map_append]
  rfl

theorem grown_snoc {before after : Mappings} (h : ∃ events, after = before ++ events)
    (e : MapEvent) : ∃ events, after ++ [e] = before ++ events := by
  obtain ⟨events, rfl⟩ := h
  exact ⟨events ++ [e], List.append_assoc _ _ _⟩

/-- A file that is mapped. -/
theorem Maps.mapped {before after : Mappings} {caches : List Buffer} (h : Maps before after caches)
    (data : Bytes) :
    Maps before (after ++ [.mapped after.length]) (caches ++ [⟨after.length, data⟩]) where
  grown := grown_snoc h.grown _
  holds := by
    rw [since_snoc h.grown, List.map_append]
    exact h.holds.acquire fun hmem => Nat.lt_irrefl _ (h.fresh _ hmem)
  fresh fd hfd := by
    rw [since_snoc h.grown] at hfd
    rw [List.length_append, List.length_singleton]
    rcases List.mem_append.mp hfd with hfd | hfd
    · exact Nat.lt_succ_of_lt (h.fresh fd hfd)
    · cases List.mem_singleton.mp hfd
      exact Nat.lt_succ_self _

/-- The file that was mapped last is unmapped. -/
theorem Maps.unmapped {before after : Mappings} {caches : List Buffer} {buffer : Buffer}
    (h : Maps before after (caches ++ [buffer])) :
    Maps before (after ++ [.released buffer.fd]) caches where
  grown := grown_snoc h.grown _
  holds := by
    have hholds := h.holds
    rw [List.map_append, List.map_singleton] at hholds
    have hreleased := hholds.release
    rw [List.append_nil] at hreleased
    rwa [since_snoc h.grown]
  fresh fd hfd := by
    rw [since_snoc h.grown] at hfd
    rw [List.length_append]
    rcases List.mem_append.mp hfd with hfd | hfd
    · exact Nat.lt_succ_of_lt (h.fresh fd hfd)
    · cases List.mem_singleton.mp hfd

/-- `ReleaseCacheBuffer` of all that is mapped. -/
theorem Maps.released {before after : Mappings} {caches : List Buffer}
    (h : Maps before after caches) : before.Balanced (releaseCacheBuffer caches after).2 := by
  obtain ⟨events, rfl⟩ := h.grown
  have hall := h.holds.releaseAll
  rw [Mappings.since_append] at hall
  unfold Mappings.Balanced releaseCacheBuffer
  rw [List.append_assoc, Mappings.since_append, List.map_append, List.map_map]
  rw [List.map_map] at hall
  exact hall

/-- The loop of `Restore`. -/
theorem restoreFiles_maps {modelCheckSum : List UInt16} {i n : Nat}
    {before mappings mappings' : Mappings} {caches caches' : List Buffer} {ret : ReturnCode}
    (h : Maps before mappings caches)
    (hrestore : restoreFiles io store fs cacheDir modelCheckSum i n caches mappings
      = .ok (ret, caches', mappings')) : Maps before mappings' caches' := by
  induction n generalizing i caches mappings with
  | zero =>
    cases hrestore
    exact h
  | succ n ih =>
    rw [restoreFiles] at hrestore
    cases hread : readCacheModelFile io fs cacheDir (modelFileName store.modelName i) mappings with
    | error code =>
      rw [hread] at hrestore
      cases hrestore
      exact h
    | ok result =>
      obtain ⟨buffer, mappings₁⟩ := result
      rw [hread] at hrestore
      dsimp only at hrestore
      have hmapped : Maps before mappings₁ (caches ++ [buffer]) := by
        unfold readCacheModelFile at hread
        split at hread
        · cases hread
        · cases hread
        · cases hread
        · cases hread
        · cases hread
        · split at hread
          · cases hread
          · cases hread
            exact h.mapped _
      split at hrestore
      · cases hrestore
      split at hrestore
      · -- A wrong checksum: this file is unmapped here, the others by the caller.
        cases hrestore
        exact hmapped.unmapped
      · exact ih hmapped hrestore

/-- **`Restore`** leaves mapped what it hands over. -/
theorem restore_maps {version : UInt32} {mappings mappings' : Mappings} {caches : List Buffer}
    {ret : ReturnCode} (h : store.restore codec io fs cacheDir version [] mappings
      = .ok (ret, caches, mappings')) : Maps mappings mappings' caches := by
  unfold restore at h
  split at h
  · cases h
    exact maps_self _
  dsimp only at h
  split at h
  · cases h
    exact maps_self _
  · cases h
    exact maps_self _
  · obtain ⟨⟨ret', info⟩, -, h⟩ := bind_eq_ok h
    dsimp only at h
    split at h
    · cases h
      exact maps_self _
    split at h
    · cases h
      exact maps_self _
    split at h
    · cases h
      exact maps_self _
    · exact restoreFiles_maps (maps_self _) h

end NNCompiledCache

/-! ## `Reload` -/

namespace NNExecutor

/-- The end of `Reload` does not touch the mappings any more. -/
theorem reloadCaches_mappings {e e' : NNExecutor} {w w' : World} {env : ReloadEnv}
    {caches : List Buffer} {ret : ReturnCode}
    (h : e.reloadCaches w env caches = .ok (ret, e', w')) : w'.mappings = w.mappings := by
  cases reloadCaches_reloaded h with
  | unread => rfl
  | unprepared => rfl
  | prepared => rfl

/-- **`Reload` releases all that it has mapped**, however it ends. -/
theorem reload_balanced {e e' : NNExecutor} {w w' : World} {env : ReloadEnv} {ret : ReturnCode}
    (h : e.reload w env = .ok (ret, e', w')) : w.mappings.Balanced w'.mappings := by
  unfold reload at h
  split at h
  · cases h
    exact Mappings.balanced_self _
  split at h
  · cases h
    exact Mappings.balanced_self _
  split at h
  · cases h
    exact Mappings.balanced_self _
  split at h
  · dsimp only at h
    split at h
    · cases h
    rename_i hrestore
    have hreleased := (NNCompiledCache.restore_maps hrestore).released
    split at h
    · cases h
      exact hreleased
    · rw [reloadCaches_mappings h]
      exact hreleased
  · cases h
    exact Mappings.balanced_self _

end NNExecutor

/-! ## `RestoreFromCacheFile` -/

namespace NNCompiler

variable {env : CacheEnv} {store : NNCompiledCache} {fs : FileSystem} {cachePath : String}
  {c : NNCompiler TensorDesc} {mappings : Mappings}

/-- The record as the op-version update finds it. -/
def updateRecord (env : CacheEnv) (store : NNCompiledCache) (fs : FileSystem)
    (cachePath : String) : Option Bytes :=
  if env.ioUpdate.reads (infoFileName store.modelName) = .openFails then none
  else fs.find? cachePath (infoFileName store.modelName)

/-- A step of the op-version update fails: reading the op version, checking the record, or,
where the op version is newer, copying the new record or writing it. -/
inductive UpdateFails (env : CacheEnv) (store : NNCompiledCache) (fs : FileSystem)
    (cachePath : String) : Prop
  | unread (hcode : env.readOpVersion.code ≠ .success)
  | unchecked {ret : ReturnCode} {info : NNCompiledCacheInfo}
    (hcode : env.readOpVersion.code = .success)
    (hread : checkCacheInfo env.codec store.backendID (updateRecord env store fs cachePath)
      = .ok (ret, info)) (hret : ret ≠ .success)
  | uncopied {info : NNCompiledCacheInfo} (hcode : env.readOpVersion.code = .success)
    (hread : checkCacheInfo env.codec store.backendID (updateRecord env store fs cachePath)
      = .ok (.success, info))
    (hnewer : env.readOpVersion.currentOpVersion.toInt64 > info.opVersion)
    (hcopy : strncpySucceeds (env.codec.dump (cacheInfoData
      (rewrittenInfo info env.readOpVersion.currentOpVersion))).length = false)
  | unwritten {info : NNCompiledCacheInfo} (hcode : env.readOpVersion.code = .success)
    (hread : checkCacheInfo env.codec store.backendID (updateRecord env store fs cachePath)
      = .ok (.success, info))
    (hnewer : env.readOpVersion.currentOpVersion.toInt64 > info.opVersion)
    (hcopy : strncpySucceeds (env.codec.dump (cacheInfoData
      (rewrittenInfo info env.readOpVersion.currentOpVersion))).length = true)
    (hwrite : (store.writeCacheInfo env.codec env.ioUpdate fs
      (rewrittenInfo info env.readOpVersion.currentOpVersion) cachePath).1 ≠ .success)

/-- With the record read, the update fails as what becomes of the new one does. -/
theorem updateFails_of_read {info : NNCompiledCacheInfo} (hcode : env.readOpVersion.code = .success)
    (hread : checkCacheInfo env.codec store.backendID (updateRecord env store fs cachePath)
      = .ok (.success, info)) :
    UpdateFails env store fs cachePath ↔
      env.readOpVersion.currentOpVersion.toInt64 > info.opVersion ∧
        (strncpySucceeds (env.codec.dump (cacheInfoData
            (rewrittenInfo info env.readOpVersion.currentOpVersion))).length = true →
          (store.writeCacheInfo env.codec env.ioUpdate fs
            (rewrittenInfo info env.readOpVersion.currentOpVersion) cachePath).1 ≠ .success) := by
  constructor
  · intro hfails
    cases hfails with
    | unread hne => exact absurd hcode hne
    | unchecked _ hread' hret =>
      cases hread.symm.trans hread'
      exact absurd rfl hret
    | uncopied _ hread' hnewer hcopy =>
      cases hread.symm.trans hread'
      refine ⟨hnewer, fun htrue => ?_⟩
      rw [hcopy] at htrue
      cases htrue
    | unwritten _ hread' hnewer hcopy hwrite =>
      cases hread.symm.trans hread'
      exact ⟨hnewer, fun _ => hwrite⟩
  · rintro ⟨hnewer, hwrite⟩
    cases hcopy : strncpySucceeds (env.codec.dump (cacheInfoData
        (rewrittenInfo info env.readOpVersion.currentOpVersion))).length with
    | false => exact .uncopied hcode hread hnewer hcopy
    | true => exact .unwritten hcode hread hnewer hcopy (hwrite hcopy)

/-- **The update ends with an error** exactly if one of its steps does. -/
theorem updateFails_iff : UpdateFails env store fs cachePath ↔
    ∃ ret fs', updateOpVersion env store fs cachePath = .ok (ret, fs') ∧ ret ≠ .success := by
  by_cases hcode : env.readOpVersion.code = .success
  swap
  · refine iff_of_true (.unread hcode) ⟨env.readOpVersion.code, fs, ?_, hcode⟩
    rw [updateOpVersion, if_pos hcode]
  have hupdate : updateOpVersion env store fs cachePath =
      checkCacheInfo env.codec store.backendID (updateRecord env store fs cachePath) >>= _ :=
    if_neg (not_not_intro hcode)
  cases hread : checkCacheInfo env.codec store.backendID (updateRecord env store fs cachePath) with
  | error fault =>
    rw [hread] at hupdate
    refine iff_of_false (fun hfails => ?_) ?_
    · cases hfails with
      | unread hne => exact hne hcode
      | unchecked _ hread' => cases hread.symm.trans hread'
      | uncopied _ hread' => cases hread.symm.trans hread'
      | unwritten _ hread' => cases hread.symm.trans hread'
    · rintro ⟨ret, fs', hok, -⟩
      cases hupdate.symm.trans hok
  | ok result =>
    obtain ⟨ret, info⟩ := result
    by_cases hret : ret = .success
    swap
    · refine iff_of_true (.unchecked hcode hread hret) ⟨ret, fs, ?_, hret⟩
      rw [hupdate, hread, ok_bind]
      exact if_pos hret
    subst hret
    rw [updateOpVersion_read hcode hread]
    rw [updateFails_of_read hcode hread]
    constructor
    · rintro ⟨hnewer, hwrite⟩
      rw [if_pos hnewer]
      split
      · rename_i hcopy
        exact ⟨_, _, rfl, hwrite hcopy⟩
      · exact ⟨_, _, rfl, by decide⟩
    · rintro ⟨ret, fs', hok, hret⟩
      split at hok
      · rename_i hnewer
        refine ⟨hnewer, fun hcopy hsuccess => hret ?_⟩
        rw [if_pos hcopy] at hok
        rw [← hsuccess, Except.ok.inj hok]
      · cases hok
        exact absurd rfl hret

/-- `RestoreFromCacheFile` comes to an update that fails: the cache has been restored, its
descriptions can be read, the device takes the model and asks for an update. -/
structure AbandonsBuffers (c : NNCompiler TensorDesc) (env : CacheEnv) (fs : FileSystem)
    (mappings : Mappings) : Prop where
  cachePath : c.cachePath ≠ ""
  cacheVersion : c.cacheVersion ≠ invalidCacheVersion
  preparedModel : c.preparedModel.isSome = false
  update : ∃ reply caches mappings' descs, env.backend = some (some reply) ∧
    (c.readerStore reply).restore env.codec env.io fs c.cachePath c.cacheVersion [] mappings
      = .ok (.success, caches, mappings') ∧
    2 ≤ caches.length ∧ restoredDescs caches = .ok descs ∧
    UpdateFails env (c.readerStore reply) fs c.cachePath
  prepare : env.prepare.1 = .success
  updatable : env.prepare.2.2 = true

/-- What becomes of the buffers that `Restore` has handed over. -/
theorem restoreFromCaches_mappings {caches : List Buffer} {out : RestoreOutcome}
    (h : restoreFromCaches env c fs store caches mappings = .ok out) :
    out.mappings = (NNCompiledCache.releaseCacheBuffer caches mappings).2 ∨
      2 ≤ caches.length ∧ (∃ descs, restoredDescs caches = .ok descs) ∧ env.prepare.1 = .success ∧
        env.prepare.2.2 = true ∧ UpdateFails env store fs c.cachePath := by
  unfold restoreFromCaches at h
  dsimp only at h
  split at h
  · cases h
  rename_i hcount
  split at h
  · cases h
  · cases h
    exact Or.inl rfl
  rename_i inputs hinputs
  split at h
  · cases h
  · cases h
    exact Or.inl rfl
  rename_i outputs houtputs
  have hdescs : restoredDescs caches = .ok (inputs, outputs) :=
    restoredDescs_eq_ok_iff.mpr ⟨hinputs, houtputs⟩
  split at h
  · cases h
    exact Or.inl rfl
  rename_i hprepare
  split at h
  · rename_i hupdatable
    obtain ⟨⟨ret, fs'⟩, hupdate, h⟩ := bind_eq_ok h
    dsimp only at h
    split at h
    · -- This return is in front of `ReleaseCacheBuffer`.
      rename_i hret
      exact Or.inr ⟨Nat.not_lt.mp hcount, ⟨_, hdescs⟩, not_ne_iff.mp hprepare, hupdatable,
        updateFails_iff.mpr ⟨ret, fs', hupdate, hret⟩⟩
    · cases h
      exact Or.inl rfl
  · cases h
    exact Or.inl rfl

/-- The update that fails leaves them mapped. -/
theorem restoreFromCaches_abandons {caches : List Buffer} (htwo : 2 ≤ caches.length)
    {descs : List (TensorDesc × UInt32) × List (TensorDesc × UInt32)}
    (hdescs : restoredDescs caches = .ok descs) (hprepare : env.prepare.1 = .success)
    (hupdatable : env.prepare.2.2 = true) (hfails : UpdateFails env store fs c.cachePath) :
    ∃ out, restoreFromCaches env c fs store caches mappings = .ok out ∧
      out.mappings = mappings := by
  obtain ⟨ret, fs', hupdate, hret⟩ := updateFails_iff.mp hfails
  obtain ⟨hinputs, houtputs⟩ := restoredDescs_eq_ok_iff.mp hdescs
  have hcount : ¬ caches.length < cacheInputTensorDescOffset := Nat.not_lt.mpr htwo
  unfold restoreFromCaches
  dsimp only
  rw [if_neg hcount, hinputs]
  dsimp only
  rw [houtputs]
  dsimp only
  rw [if_neg (not_not_intro hprepare), if_pos hupdatable, hupdate, ok_bind]
  dsimp only
  rw [if_pos hret]
  exact ⟨_, rfl, rfl⟩

/-- **`RestoreFromCacheFile` releases all that it has mapped** unless it comes to an
update that fails. -/
theorem restoreFromCacheFile_balanced_iff :
    (∀ out, c.restoreFromCacheFile env fs mappings = .ok out →
      mappings.Balanced out.mappings) ↔ ¬ c.AbandonsBuffers env fs mappings := by
  constructor
  · -- At least two buffers stay mapped, so the log cannot be balanced.
    intro hall habandons
    obtain ⟨reply, caches, mappings', descs, hbackend, hrestore, htwo, hdescs, hfails⟩ :=
      habandons.update
    have hmaps := NNCompiledCache.restore_maps hrestore
    obtain ⟨out, hout, hmappings⟩ := @restoreFromCaches_abandons env (c.readerStore reply) fs c
      mappings' caches htwo descs hdescs habandons.prepare habandons.updatable hfails
    have hbalanced := hall out (by
      rw [restoreFromCacheFile_eq habandons.cachePath habandons.cacheVersion
        habandons.preparedModel hbackend, hrestore, ok_bind]
      exact hout)
    rw [hmappings] at hbalanced
    have hnil := congrArg List.length (hmaps.holds.eq_nil hbalanced)
    rw [List.length_map, List.length_nil] at hnil
    omega
  · intro hspares out hout
    unfold restoreFromCacheFile at hout
    split at hout
    · cases hout
      exact Mappings.balanced_self _
    rename_i hpath
    split at hout
    · cases hout
      exact Mappings.balanced_self _
    rename_i hversion
    split at hout
    · cases hout
      exact Mappings.balanced_self _
    rename_i hmodel
    cases hbackend : env.backend with
    | none =>
      rw [hbackend] at hout
      cases hout
      exact Mappings.balanced_self _
    | some device =>
      cases device with
      | none =>
        rw [hbackend] at hout
        cases hout
        exact Mappings.balanced_self _
      | some reply =>
        rw [hbackend] at hout
        dsimp only [NNCompiledCache.setBackend] at hout
        obtain ⟨⟨ret, caches, mappings'⟩, hrestore, hout⟩ := bind_eq_ok hout
        have hreleased := (NNCompiledCache.restore_maps hrestore).released
        dsimp only at hout
        split at hout
        · cases hout
          exact hreleased
        rename_i hret
        obtain rfl : ret = .success := not_ne_iff.mp hret
        rcases restoreFromCaches_mappings hout with hmappings |
          ⟨htwo, ⟨descs, hdescs⟩, hprepare, hupdatable, hfails⟩
        · rw [hmappings]
          exact hreleased
        · refine absurd ⟨hpath, hversion, Bool.not_eq_true _ ▸ hmodel, ?_, hprepare, hupdatable⟩
            hspares
          exact ⟨reply, caches, mappings', descs, hbackend, hrestore, htwo, hdescs, hfails⟩

end NNCompiler

/-- **The mapped cache files.** Whatever its steps answer, `RestoreFromCacheFile` has unmapped
exactly once every file it has mapped when it returns, if and only if it does not come to an
op-version update that fails; `Reload` always has. -/
theorem mappings_balanced (c : NNCompiler TensorDesc) (env : CacheEnv) (fs : FileSystem)
    (mappings : Mappings) (e : NNExecutor) (w : World) (reloadEnv : ReloadEnv) :
    ((∀ out, c.restoreFromCacheFile env fs mappings = .ok out →
        mappings.Balanced out.mappings) ↔ ¬ c.AbandonsBuffers env fs mappings) ∧
      ∀ ret e' w', e.reload w reloadEnv = .ok (ret, e', w') →
        w.mappings.Balanced w'.mappings :=
  ⟨NNCompiler.restoreFromCacheFile_balanced_iff, fun _ _ _ => NNExecutor.reload_balanced⟩

namespace NNCompiler

/-- A device that asks for an update and cannot tell its op version. -/
def mutedEnv : CacheEnv :=
  { envOf 4 with readOpVersion := ⟨.failed, 0⟩ }

/-- What the device answers after `Restore` does not change what `Restore` has handed over. -/
theorem muted_abandons : (upgradeCompiler [] []).AbandonsBuffers mutedEnv upgradeSaved [] := by
  obtain ⟨out, hout, hcode⟩ := upgrade_restored 4
  obtain ⟨reply, caches, mappings', hpath, hversion, hprepared, hbackend, hrestore, hcaches⟩ :=
    restoreFromCacheFile_success hout hcode
  obtain ⟨htwo, descs, hdescs⟩ := restoreFromCaches_success hcaches hcode
  refine ⟨hpath, hversion, hprepared, ?_, rfl, rfl⟩
  exact ⟨reply, caches, mappings', descs, hbackend, hrestore, htwo, hdescs, .unread (by decide)⟩

/-- The three files of the cache stay mapped when the op version cannot be read. -/
theorem muted_leaks : ¬ ∀ out,
    (upgradeCompiler [] []).restoreFromCacheFile mutedEnv upgradeSaved [] = .ok out →
      Mappings.Balanced [] out.mappings :=
  fun hall => restoreFromCacheFile_balanced_iff.mp hall muted_abandons

end NNCompiler

end NNRt
