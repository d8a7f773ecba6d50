import NNRt.Cache.Record
import NNRt.Lib.Decimal

/-!
# What a save leaves behind and what a restore needs

Both directions of the store without I/O errors, each as one specification.

- `save_eq_success_iff`: a save succeeds exactly on its checks, and then the
  directory is the old one with `savedFiles` written over it, whatever it held.
- `SaveAccepts.restore_eq`: a restore of a saved record is decided by the
  backend, the version, and then by the cache files alone.
- `restore_save`: **the round trip**.
-/

namespace NNRt

/-! ## File names -/

theorem modelFileName_injective (modelName : String) :
    Function.Injective (modelFileName modelName) := by
  intro i j h
  have h' := (String.append_left_inj _).mp h
  exact Decimal.toString_injective ((String.append_right_inj _).mp h')

/-- No cache file of any model is the record of any model. -/
theorem modelFileName_ne_infoFileName (m n : String) (i : Nat) :
    modelFileName m i ≠ infoFileName n := by
  intro h
  have hinfo : infoFileName n = (n ++ "cache_info") ++ ".nncache" := by
    rw [infoFileName, String.append_assoc]
    rfl
  rw [modelFileName, hinfo] at h
  have h' := (String.append_left_inj _).mp h
  exact Decimal.append_toString_ne (c := 'o') (by decide) (by decide) h'

theorem infoFileName_inj {m n : String} : infoFileName m = infoFileName n ↔ m = n :=
  String.append_left_inj _

/-! ## Save -/

/-- The cache files of a list of buffers, numbered from `i`. -/
def modelFiles (modelName : String) (i : Nat) : List Bytes → List (String × Bytes)
  | [] => []
  | cache :: caches => (modelFileName modelName i, cache) :: modelFiles modelName (i + 1) caches

theorem mem_modelFiles {modelName : String} {w : String × Bytes} :
    ∀ {i : Nat} {caches : List Bytes}, w ∈ modelFiles modelName i caches ↔
      ∃ k, ∃ h : k < caches.length, w = (modelFileName modelName (i + k), caches[k])
  | i, [] => by simp [modelFiles]
  | i, cache :: caches => by
    rw [modelFiles, List.mem_cons, mem_modelFiles]
    constructor
    · rintro (rfl | ⟨k, hk, rfl⟩)
      · exact ⟨0, by simp, rfl⟩
      · refine ⟨k + 1, by simpa using hk, ?_⟩
        rw [List.getElem_cons_succ, Nat.add_right_comm, Nat.add_assoc]
    · rintro ⟨k, hk, rfl⟩
      cases k with
      | zero => exact Or.inl rfl
      | succ k =>
        refine Or.inr ⟨k, by simpa using hk, ?_⟩
        rw [List.getElem_cons_succ, Nat.add_right_comm, Nat.add_assoc]

theorem modelFiles_nodup (modelName : String) :
    ∀ (i : Nat) (caches : List Bytes), ((modelFiles modelName i caches).map Prod.fst).Nodup
  | _, [] => List.nodup_nil
  | i, cache :: caches => by
    refine List.nodup_cons.mpr ⟨?_, modelFiles_nodup modelName (i + 1) caches⟩
    intro hmem
    obtain ⟨w, hw, hname⟩ := List.mem_map.mp hmem
    obtain ⟨k, _, rfl⟩ := mem_modelFiles.mp hw
    have hk : i + 1 + k = i := modelFileName_injective modelName hname
    omega

/-- The record a save of `caches` under `version` writes. -/
def savedInfo (store : NNCompiledCache) (currentOpVersion : Int32) (caches : List Bytes)
    (version : UInt32) : NNCompiledCacheInfo where
  fileNumber := Int64.ofNat caches.length
  version := version.toUInt64.toInt64
  deviceId := store.backendID.toInt64
  modelCheckSum := caches.map getCrc16
  opVersion := currentOpVersion.toInt64
  isExceedRamLimit := if store.isExceedRamLimit then 1 else 0

/-- Everything a save writes, in order. -/
def savedFiles (codec : JsonCodec) (store : NNCompiledCache) (currentOpVersion : Int32)
    (caches : List Bytes) (version : UInt32) : List (String × Bytes) :=
  modelFiles store.modelName 0 caches ++
    [(infoFileName store.modelName,
      cacheInfoText codec (savedInfo store currentOpVersion caches version))]

theorem savedFiles_nodup (codec : JsonCodec) (store : NNCompiledCache) (op : Int32)
    (caches : List Bytes) (version : UInt32) :
    ((savedFiles codec store op caches version).map Prod.fst).Nodup := by
  rw [savedFiles, List.map_append]
  refine List.nodup_append.mpr ⟨modelFiles_nodup _ 0 caches, by simp, ?_⟩
  intro a ha b hb
  obtain ⟨w, hw, rfl⟩ := List.mem_map.mp ha
  obtain ⟨k, _, rfl⟩ := mem_modelFiles.mp hw
  have hb : b = infoFileName store.modelName := by simpa using hb
  rw [hb]
  exact modelFileName_ne_infoFileName _ _ _

/-- Without I/O errors the file loop writes every buffer and sums every buffer. -/
theorem writeCacheModels_noFaults (store : NNCompiledCache) (dir : String) :
    ∀ (caches : List Bytes) (fs : FileSystem) (sums : List UInt16) (i : Nat),
      NNCompiledCache.writeCacheModels {} store dir fs sums i caches
        = (.success, sums ++ caches.map getCrc16,
            fs.writeAll dir (modelFiles store.modelName i caches))
  | [], fs, sums, i => by simp [NNCompiledCache.writeCacheModels, modelFiles, FileSystem.writeAll]
  | cache :: caches, fs, sums, i => by
    simp only [NNCompiledCache.writeCacheModels, Bool.not_true, Bool.false_eq_true, if_false,
      writeCacheModels_noFaults store dir caches, modelFiles, FileSystem.writeAll, List.map_cons,
      List.append_assoc, List.singleton_append]

/-- Without I/O errors the record is written whole. -/
theorem writeCacheInfo_noFaults (codec : JsonCodec) (store : NNCompiledCache) {fs : FileSystem}
    {cacheDir dir : String} (info : NNCompiledCacheInfo) (hdir : fs.realpath cacheDir = some dir)
    (hverified : verifyCachePath dir = .success) :
    store.writeCacheInfo codec {} fs info cacheDir
      = (.success, fs.write dir (infoFileName store.modelName) (cacheInfoText codec info)) := by
  simp only [NNCompiledCache.writeCacheInfo, hdir, hverified, ne_eq, not_true_eq_false, if_false,
    Bool.not_true, Bool.false_eq_true]

/-- What a save without I/O errors checks. -/
structure SaveAccepts (codec : JsonCodec) (store : NNCompiledCache) (fs : FileSystem)
    (caches : List Bytes) (cacheDir : String) (version : UInt32) (dir : String)
    (currentOpVersion : Int32) : Prop where
  nonempty : caches ≠ []
  length_le : caches.length ≤ nnCacheFileNumberMax
  device : store.device = some ⟨.success, currentOpVersion⟩
  realpath : fs.realpath cacheDir = some dir
  verified : verifyCachePath dir = .success
  strncpy : strncpySucceeds
    (codec.dump (cacheInfoData (savedInfo store currentOpVersion caches version))).length

theorem SaveAccepts.save_eq {codec : JsonCodec} {store : NNCompiledCache} {fs : FileSystem}
    {caches : List Bytes} {cacheDir dir : String} {version : UInt32} {op : Int32}
    (h : SaveAccepts codec store fs caches cacheDir version dir op) :
    store.save codec {} fs caches cacheDir version
      = (.success, fs.writeAll dir (savedFiles codec store op caches version)) := by
  have hempty : caches.isEmpty = false := by simpa using h.nonempty
  have hcount : ¬ (caches.length = 0 ∨ caches.length > nnCacheFileNumberMax) := by
    rintro (h0 | hgt)
    · exact h.nonempty (List.length_eq_zero_iff.mp h0)
    · exact absurd h.length_le (by omega)
  have hstrncpy := h.strncpy
  unfold savedInfo at hstrncpy
  simp only [NNCompiledCache.save, hempty, Bool.false_eq_true, if_false, h.device,
    NNCompiledCache.generateCacheFiles, NNCompiledCache.generateCacheModel, hcount, h.realpath,
    h.verified, ne_eq, not_true_eq_false, writeCacheModels_noFaults, List.nil_append, hstrncpy,
    Bool.not_true, NNCompiledCache.writeCacheInfo, FileSystem.writeAll_realpath]
  rw [savedFiles, FileSystem.writeAll_append]
  rfl

/-- Every check of `GenerateCacheModel` has held when it returns success. -/
theorem generateCacheModel_success {codec : JsonCodec} {store : NNCompiledCache}
    {reply : OpVersionReply} {fs fs' : FileSystem} {caches : List Bytes} {cacheDir : String}
    {version : UInt32} {info : NNCompiledCacheInfo} (hdevice : store.device = some reply)
    (h : NNCompiledCache.generateCacheModel codec {} store reply fs caches cacheDir version
      = (.success, info, fs')) :
    ∃ dir op, SaveAccepts codec store fs caches cacheDir version dir op := by
  unfold NNCompiledCache.generateCacheModel at h
  by_cases hcount : caches.length = 0 ∨ caches.length > nnCacheFileNumberMax
  · rw [if_pos hcount] at h
    cases h
  rw [if_neg hcount] at h
  cases hpath : fs.realpath cacheDir with
  | none =>
    rw [hpath] at h
    cases h
  | some dir =>
    simp only [hpath] at h
    by_cases hverify : verifyCachePath dir = .success
    · simp only [hverify, ne_eq, not_true_eq_false, if_false, writeCacheModels_noFaults,
        List.nil_append] at h
      obtain ⟨code, op⟩ := reply
      by_cases hcode : code = .success
      · subst hcode
        by_cases hdump : strncpySucceeds
            (codec.dump (cacheInfoData (savedInfo store op caches version))).length
        · refine ⟨dir, op, ?_, by omega, hdevice, hpath, hverify, hdump⟩
          rintro rfl
          exact hcount (Or.inl rfl)
        · unfold savedInfo at hdump
          simp only [not_true_eq_false, if_false, hdump, Bool.not_false, if_true] at h
          cases h
      · rw [if_pos hcode] at h
        exact absurd (congrArg Prod.fst h) hcode
    · rw [if_pos hverify] at h
      exact absurd (congrArg Prod.fst h) hverify

/-- **Save**: it succeeds exactly on its checks, and then has written
`savedFiles` over whatever the directory held. -/
theorem save_eq_success_iff {codec : JsonCodec} {store : NNCompiledCache} {fs fs' : FileSystem}
    {caches : List Bytes} {cacheDir : String} {version : UInt32} :
    store.save codec {} fs caches cacheDir version = (.success, fs') ↔
      ∃ dir op, SaveAccepts codec store fs caches cacheDir version dir op ∧
        fs' = fs.writeAll dir (savedFiles codec store op caches version) := by
  constructor
  · intro h
    have haccepts : ∃ dir op, SaveAccepts codec store fs caches cacheDir version dir op := by
      unfold NNCompiledCache.save at h
      split at h
      · cases h
      split at h
      · cases h
      rename_i reply hdevice
      unfold NNCompiledCache.generateCacheFiles at h
      split at h
      · rename_i hgen
        exact generateCacheModel_success hdevice hgen
      · rename_i hother _
        cases h
        exact absurd rfl hother
    obtain ⟨dir, op, haccepts⟩ := haccepts
    refine ⟨dir, op, haccepts, ?_⟩
    rw [haccepts.save_eq] at h
    exact (congrArg Prod.snd h).symm
  · rintro ⟨dir, op, haccepts, rfl⟩
    exact haccepts.save_eq

/-! ## Restore -/

/-- A save accepts so few buffers that their number fits every integer type. -/
theorem SaveAccepts.fileNumber {codec : JsonCodec} {store : NNCompiledCache} {fs : FileSystem}
    {caches : List Bytes} {cacheDir dir : String} {version : UInt32} {op : Int32}
    (h : SaveAccepts codec store fs caches cacheDir version dir op) :
    (savedInfo store op caches version).fileNumber.toUInt64.toNat = caches.length := by
  have hle := h.length_le
  simp only [nnCacheFileNumberMax] at hle
  rw [savedInfo, Int64.toUInt64_ofNat', UInt64.toNat_ofNat']
  omega

/-- A save writes a well-formed record. -/
theorem SaveAccepts.wellFormed {codec : JsonCodec} {store : NNCompiledCache} {fs : FileSystem}
    {caches : List Bytes} {cacheDir dir : String} {version : UInt32} {op : Int32}
    (h : SaveAccepts codec store fs caches cacheDir version dir op) :
    (savedInfo store op caches version).WellFormed where
  fileNumber := by rw [h.fileNumber]; simp [savedInfo]
  nonempty := by simpa [savedInfo] using h.nonempty
  length_le := by simpa [savedInfo] using h.length_le

/-- The backend a saved record names. -/
@[simp] theorem savedInfo_deviceId (store : NNCompiledCache) (op : Int32) (caches : List Bytes)
    (version : UInt32) : (savedInfo store op caches version).deviceId.toUInt64 = store.backendID :=
  UInt64.toUInt64_toInt64 _

/-- The reader accepts a saved record on the backend that saved it. -/
theorem SaveAccepts.checkCacheInfo_eq {codec : JsonCodec} (hc : codec.Faithful)
    {store : NNCompiledCache} {fs : FileSystem} {caches : List Bytes} {cacheDir dir : String}
    {version : UInt32} {op : Int32}
    (h : SaveAccepts codec store fs caches cacheDir version dir op) :
    checkCacheInfo codec store.backendID
        (some (cacheInfoText codec (savedInfo store op caches version)))
      = .ok (.success, savedInfo store op caches version) := by
  rw [h.wellFormed.checkCacheInfo_eq hc (hc.parse_dump _),
    if_pos (savedInfo_deviceId store op caches version)]

/-- **Restore of a saved record**: the backend decides first, then the version,
then the cache files. -/
theorem SaveAccepts.restore_eq {codec : JsonCodec} (hc : codec.Faithful)
    {store reader : NNCompiledCache} {fs fs' : FileSystem} {caches : List Bytes}
    {cacheDir dir : String} {version : UInt32} {op : Int32}
    (h : SaveAccepts codec store fs caches cacheDir version dir op)
    (hdevice : reader.device.isSome)
    (hinfo : fs'.find? cacheDir (infoFileName reader.modelName)
      = some (cacheInfoText codec (savedInfo store op caches version)))
    (w : UInt32) (mappings : Mappings) :
    reader.restore codec {} fs' cacheDir w [] mappings
      = if reader.backendID ≠ store.backendID then .ok (.invalidFile, [], mappings)
        else if w > version then .ok (.invalidFile, [], mappings)
        else if w < version then .ok (.operationForbidden, [], mappings)
        else NNCompiledCache.restoreFiles {} reader fs' cacheDir (caches.map getCrc16) 0
          caches.length [] mappings := by
  have hrecords : fs'.Records codec cacheDir reader.modelName (savedInfo store op caches version) :=
    ⟨⟨_, hinfo, hc.parse_dump _⟩, h.wellFormed⟩
  have hversion : (savedInfo store op caches version).version = version.toUInt64.toInt64 := rfl
  have hsums : (savedInfo store op caches version).modelCheckSum = caches.map getCrc16 := rfl
  rw [hrecords.restore_eq hc hdevice, savedInfo_deviceId, hversion, hsums, List.length_map]
  simp only [ne_eq, eq_comm (a := store.backendID), gt_iff_lt, widen_lt]

/-! ## The round trip -/

section Saved

variable {codec : JsonCodec} {store : NNCompiledCache} {fs : FileSystem} {caches : List Bytes}
  {cacheDir dir : String} {version : UInt32} {op : Int32}

/-- After a save the `k`-th cache file holds the `k`-th buffer. -/
theorem SaveAccepts.find?_model (h : SaveAccepts codec store fs caches cacheDir version dir op)
    {k : Nat} (hk : k < caches.length) :
    (fs.writeAll dir (savedFiles codec store op caches version)).find? cacheDir
      (modelFileName store.modelName k) = some caches[k] := by
  rw [FileSystem.find?_eq (by rw [FileSystem.writeAll_realpath]; exact h.realpath),
    FileSystem.writeAll_files]
  refine Directory.writeAll_mem (w := (modelFileName store.modelName k, caches[k]))
    (savedFiles_nodup codec store op caches version) _ ?_
  refine List.mem_append_left _ (mem_modelFiles.mpr ⟨k, hk, ?_⟩)
  rw [Nat.zero_add]

/-- After a save the record is the one of that save. -/
theorem SaveAccepts.find?_info (h : SaveAccepts codec store fs caches cacheDir version dir op) :
    (fs.writeAll dir (savedFiles codec store op caches version)).find? cacheDir
        (infoFileName store.modelName)
      = some (cacheInfoText codec (savedInfo store op caches version)) := by
  rw [FileSystem.find?_eq (by rw [FileSystem.writeAll_realpath]; exact h.realpath),
    FileSystem.writeAll_files]
  refine Directory.writeAll_mem
    (w := (infoFileName store.modelName, cacheInfoText codec (savedInfo store op caches version)))
    (savedFiles_nodup codec store op caches version) _ ?_
  exact List.mem_append_right _ List.mem_cons_self

/-- The same backend and version get the buffers back, if none is empty. -/
theorem SaveAccepts.restore_saved (hc : codec.Faithful)
    (h : SaveAccepts codec store fs caches cacheDir version dir op)
    (hne : ∀ cache ∈ caches, cache ≠ []) {reader : NNCompiledCache}
    (hdevice : reader.device.isSome) (hname : reader.modelName = store.modelName)
    (hbackend : reader.backendID = store.backendID) (mappings : Mappings) :
    ∃ buffers mappings',
      reader.restore codec {} (fs.writeAll dir (savedFiles codec store op caches version)) cacheDir
          version [] mappings = .ok (.success, buffers, mappings') ∧
        buffers.map Buffer.data = caches := by
  rw [h.restore_eq hc hdevice (by rw [hname]; exact h.find?_info),
    if_neg (not_not_intro hbackend), if_neg (UInt32.lt_irrefl version),
    if_neg (UInt32.lt_irrefl version)]
  refine restoreFiles_complete (fun k hk => ?_) hne (fun k hk => ?_)
  · rw [Nat.zero_add, hname]
    exact h.find?_model hk
  · rw [Nat.zero_add]
    simp [hk]

/-- A restore that succeeds after a save finds no empty buffer. -/
theorem SaveAccepts.nonempty_of_restore (hc : codec.Faithful)
    (h : SaveAccepts codec store fs caches cacheDir version dir op) {reader : NNCompiledCache}
    (hdevice : reader.device.isSome) (hname : reader.modelName = store.modelName)
    (hbackend : reader.backendID = store.backendID) {mappings mappings' : Mappings}
    {buffers : List Buffer}
    (hrestore : reader.restore codec {} (fs.writeAll dir (savedFiles codec store op caches version))
      cacheDir version [] mappings = .ok (.success, buffers, mappings')) :
    ∀ cache ∈ caches, cache ≠ [] := by
  rw [h.restore_eq hc hdevice (by rw [hname]; exact h.find?_info),
    if_neg (not_not_intro hbackend), if_neg (UInt32.lt_irrefl version),
    if_neg (UInt32.lt_irrefl version)] at hrestore
  obtain ⟨buffers, rfl, hlen, hfiles, hne⟩ := restoreFiles_sound hrestore
  intro cache hcache
  obtain ⟨k, hk, rfl⟩ := List.mem_iff_getElem.mp hcache
  have hk' : k < buffers.length := by omega
  have hfile := (hfiles k hk').1
  rw [Nat.zero_add, hname, h.find?_model hk] at hfile
  rw [Option.some.inj hfile]
  exact hne _ (List.getElem_mem hk')

end Saved

/-- **Round trip of the store.** After a successful save of non-empty buffers
into a directory with any content, a reader of the same model name gets exactly
the buffers back when backend and version agree; a newer version is answered
with an invalid file, an older one is forbidden, and another backend is an
invalid file whatever the version. -/
theorem restore_save {codec : JsonCodec} (hc : codec.Faithful) {store : NNCompiledCache}
    {fs fs' : FileSystem} {caches : List Bytes} {cacheDir : String} {version : UInt32}
    (hne : ∀ cache ∈ caches, cache ≠ [])
    (hsave : store.save codec {} fs caches cacheDir version = (.success, fs'))
    {reader : NNCompiledCache} (hdevice : reader.device.isSome)
    (hname : reader.modelName = store.modelName) (mappings : Mappings) :
    (reader.backendID = store.backendID →
      (∃ buffers mappings',
        reader.restore codec {} fs' cacheDir version [] mappings
            = .ok (.success, buffers, mappings') ∧
          buffers.map Buffer.data = caches) ∧
      (∀ w, w > version →
        reader.restore codec {} fs' cacheDir w [] mappings = .ok (.invalidFile, [], mappings)) ∧
      (∀ w, w < version →
        reader.restore codec {} fs' cacheDir w [] mappings
          = .ok (.operationForbidden, [], mappings))) ∧
    (reader.backendID ≠ store.backendID → ∀ w,
      reader.restore codec {} fs' cacheDir w [] mappings = .ok (.invalidFile, [], mappings)) := by
  obtain ⟨dir, op, haccepts, rfl⟩ := save_eq_success_iff.mp hsave
  have hrestore := haccepts.restore_eq hc hdevice (by rw [hname]; exact haccepts.find?_info)
  refine ⟨fun hbackend => ⟨?_, ?_, ?_⟩, fun hbackend w => ?_⟩
  · exact haccepts.restore_saved hc hne hdevice hname hbackend mappings
  · intro w hw
    rw [hrestore, if_neg (not_not_intro hbackend), if_pos hw]
  · intro w hw
    rw [hrestore, if_neg (not_not_intro hbackend), if_neg (UInt32.lt_asymm hw), if_pos hw]
  · rw [hrestore, if_pos hbackend]

/-- Two buffers saved under model `m` on backend 1 at version 5. -/
theorem restore_save_twoBuffers :
    ∃ fs' buffers mappings',
      ({ backendID := 1, modelName := "m", device := some ⟨.success, 3⟩ } : NNCompiledCache).save
          JsonCodec.compact {} (FileSystem.single "/data" (by decide)) [[1, 2], [3]] "/data" 5
        = (.success, fs') ∧
      ({ backendID := 1, modelName := "m", device := some ⟨.success, 4⟩ } : NNCompiledCache).restore
          JsonCodec.compact {} fs' "/data" 5 [] [] = .ok (.success, buffers, mappings') ∧
      buffers.map Buffer.data = [[1, 2], [3]] := by
  have haccepts : SaveAccepts JsonCodec.compact
      { backendID := 1, modelName := "m", device := some ⟨.success, 3⟩ }
      (FileSystem.single "/data" (by decide)) [[1, 2], [3]] "/data" 5 "/data" 3 :=
    ⟨by decide, by decide, rfl, rfl, by decide, compact_faithful.dump_short _ (by simp [savedInfo]; decide)⟩
  have hdevice : ({ backendID := 1, modelName := "m", device := some ⟨.success, 4⟩ } :
      NNCompiledCache).device.isSome := rfl
  have hrestore := restore_save compact_faithful (by decide) haccepts.save_eq hdevice rfl []
  obtain ⟨buffers, mappings', hbuffers, hdata⟩ := (hrestore.1 rfl).1
  exact ⟨_, buffers, mappings', haccepts.save_eq, hbuffers, hdata⟩

end NNRt
