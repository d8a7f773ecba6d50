import NNRt.Cache.HasCache

/-!
# What a successful restore has seen

`Records` is about records the runtime wrote. Here the directory may hold
anything: what can be said about it once a restore has succeeded.

- `checkCacheInfo_success`: everything `CheckCacheInfo` has looked at.
- `restore_success`: everything `Restore` has looked at.
- `restore_avoids`: the faults of a restore are those of the JSON library.
- `restore_accesses_iff`: **the index arithmetic after a restore** is in range
  exactly when the record names two files or more.
-/

namespace NNRt

/-! ## The record -/

/-- A content that the reader of the record accepts, member by member. -/
structure Accepted (codec : JsonCodec) (content : Bytes) (j data : Json)
    (info : NNCompiledCacheInfo) : Prop where
  parse : codec.parse content = some j
  dataMember : j.find? "data" = some data
  deviceId : ∃ member, data.find? "deviceId" = some member ∧ member.getInt64 = .ok info.deviceId
  version : ∃ member, data.find? "version" = some member ∧ member.getInt64 = .ok info.version
  fileNumber : ∃ member, data.find? "fileNumber" = some member ∧
    member.getInt64 = .ok info.fileNumber
  dump : strncpySucceeds (codec.dump data).length
  checkSum : ∃ member, j.find? "CheckSum" = some member ∧
    member.getInt64 = .ok (Int64.ofNat (cacheInfoGetCrc16 (codec.dump data)).toNat)
  size : info.fileNumber.toUInt64.toNat ≤ vectorMaxSize
  modelCheckSum : ∃ sums, data.find? "modelCheckSum" = some sums ∧
    readModelCheckSum sums info.fileNumber.toUInt64.toNat = .ok info.modelCheckSum

section Reader

variable {codec : JsonCodec} {backendID : UInt64} {content : Bytes} {info : NNCompiledCacheInfo}
  {allocates : Nat → Bool}

theorem length_readModelCheckSum {sums : Json} {n : Nat} {list : List UInt16}
    (h : readModelCheckSum sums n = .ok list) : list.length = n := by
  unfold readModelCheckSum at h
  obtain ⟨read, hread, hlist⟩ := bind_eq_ok h
  have hlen := (forall₂_of_mapM hread).length_eq
  rw [List.length_range] at hlen
  cases hlist
  rw [List.length_map, ← hlen]

/-- The reader has a checksum for every file. -/
theorem Accepted.length_eq {j data : Json} (h : Accepted codec content j data info) :
    info.modelCheckSum.length = info.fileNumber.toUInt64.toNat := by
  obtain ⟨sums, -, hread⟩ := h.modelCheckSum
  exact length_readModelCheckSum hread

/-- What `CheckCacheInfoExtension` has looked at. -/
theorem checkCacheInfoExtension_success {partialInfo : NNCompiledCacheInfo} {j data : Json}
    (h : checkCacheInfoExtension codec partialInfo j data allocates = .ok (.success, info)) :
    strncpySucceeds (codec.dump data).length ∧
      (∃ member, j.find? "CheckSum" = some member ∧
        member.getInt64 = .ok (Int64.ofNat (cacheInfoGetCrc16 (codec.dump data)).toNat)) ∧
      partialInfo.fileNumber.toUInt64.toNat ≤ vectorMaxSize ∧
      (∃ sums, data.find? "modelCheckSum" = some sums ∧
        readModelCheckSum sums partialInfo.fileNumber.toUInt64.toNat = .ok info.modelCheckSum) ∧
      info.deviceId = partialInfo.deviceId ∧ info.version = partialInfo.version ∧
      info.fileNumber = partialInfo.fileNumber := by
  unfold checkCacheInfoExtension at h
  dsimp only at h
  split at h
  · cases h
  rename_i hdump
  split at h
  · cases h
  rename_i member hmember
  obtain ⟨checkSum, hchecksum, h⟩ := bind_eq_ok h
  split at h
  · cases h
  rename_i hequal
  split at h
  · cases h
  rename_i hsize
  split at h
  · cases h
  split at h
  · cases h
  rename_i sums hsums
  obtain ⟨modelCheckSum, hread, h⟩ := bind_eq_ok h
  have hinfo : info.modelCheckSum = modelCheckSum ∧ info.deviceId = partialInfo.deviceId ∧
      info.version = partialInfo.version ∧ info.fileNumber = partialInfo.fileNumber := by
    split at h
    · rw [pure_eq_ok, ok_bind] at h
      split at h
      · cases h
      obtain ⟨isExceedRamLimit, -, h⟩ := bind_eq_ok h
      cases h
      exact ⟨rfl, rfl, rfl, rfl⟩
    · obtain ⟨opVersion, -, h⟩ := bind_eq_ok h
      split at h
      · cases h
      obtain ⟨isExceedRamLimit, -, h⟩ := bind_eq_ok h
      cases h
      exact ⟨rfl, rfl, rfl, rfl⟩
  rw [hinfo.1, not_ne_iff.mp hequal]
  exact ⟨by simpa using hdump, ⟨member, hmember, hchecksum⟩, by omega, ⟨sums, hsums, hread⟩,
    hinfo.2⟩

/-- **What `CheckCacheInfo` has looked at.** -/
theorem checkCacheInfo_success
    (h : checkCacheInfo codec backendID (some content) allocates = .ok (.success, info)) :
    info.deviceId.toUInt64 = backendID ∧ ∃ j data, Accepted codec content j data info := by
  unfold checkCacheInfo at h
  dsimp only at h
  split at h
  · cases h
  rename_i j hj
  split at h
  · cases h
  rename_i data hdata
  split at h
  · cases h
  rename_i deviceIdMember hdeviceId
  obtain ⟨deviceId, hdevice, h⟩ := bind_eq_ok h
  split at h
  · cases h
  rename_i versionMember hversionMember
  obtain ⟨version, hversion, h⟩ := bind_eq_ok h
  split at h
  · cases h
  rename_i hbackend
  split at h
  · cases h
  rename_i fileNumberMember hfileNumberMember
  obtain ⟨fileNumber, hfileNumber, h⟩ := bind_eq_ok h
  obtain ⟨hdump, hchecksum, hsize, hsums, hid, hv, hn⟩ := checkCacheInfoExtension_success h
  dsimp only at hid hv hn hsize hsums
  refine ⟨by rw [hid]; exact not_ne_iff.mp hbackend, j, data, hj, hdata, ?_, ?_, ?_, hdump, hchecksum,
    by rw [hn]; exact hsize, ?_⟩
  · exact ⟨_, hdeviceId, by rw [hid]; exact hdevice⟩
  · exact ⟨_, hversionMember, by rw [hv]; exact hversion⟩
  · exact ⟨_, hfileNumberMember, by rw [hn]; exact hfileNumber⟩
  · rw [hn]
    exact hsums

/-! ### The faults of the reader -/

variable {bad : Fault → Prop}

theorem getInt64_avoids (htype : ¬ bad .typeError) (j : Json) : Avoids bad j.getInt64 := by
  unfold Json.getInt64
  split <;> simp [htype]

theorem getInt64At_avoids (htype : ¬ bad .typeError) (i : Nat) (j : Json) : Avoids bad (j.getInt64At i) := by
  unfold Json.getInt64At
  split
  · split
    · exact getInt64_avoids htype _
    · exact avoids_error.mpr htype
  · exact avoids_error.mpr htype

theorem readModelCheckSum_avoids (htype : ¬ bad .typeError) (sums : Json) (fileNumber : Nat) :
    Avoids bad (readModelCheckSum sums fileNumber) := by
  unfold readModelCheckSum
  exact (avoids_mapM fun i _ => getInt64At_avoids htype i sums).bind fun _ => avoids_ok _

theorem checkCacheInfoExtension_avoids (htype : ¬ bad .typeError) (hlength : ¬ bad .lengthError)
    (codec : JsonCodec) (info : NNCompiledCacheInfo) (j data : Json) :
    Avoids bad (checkCacheInfoExtension codec info j data) := by
  unfold checkCacheInfoExtension
  dsimp only
  split
  · exact avoids_ok _
  split
  · exact avoids_ok _
  refine (getInt64_avoids htype _).bind fun checkSum => ?_
  split
  · exact avoids_ok _
  split
  · exact avoids_error.mpr hlength
  rw [resizeSucceeds_ample, if_neg Bool.true_eq_false.mp]
  split
  · exact avoids_ok _
  refine (readModelCheckSum_avoids htype _ _).bind fun modelCheckSum => ?_
  split
  · split
    · exact avoids_ok _
    · exact (getInt64_avoids htype _).bind fun _ => avoids_ok _
  · refine (getInt64_avoids htype _).bind fun opVersion => ?_
    split
    · exact avoids_ok _
    · exact (getInt64_avoids htype _).bind fun _ => avoids_ok _

theorem checkCacheInfo_avoids (htype : ¬ bad .typeError) (hlength : ¬ bad .lengthError)
    (codec : JsonCodec) (backendID : UInt64) (content : Option Bytes) :
    Avoids bad (checkCacheInfo codec backendID content) := by
  unfold checkCacheInfo
  split
  · exact avoids_ok _
  split
  · exact avoids_ok _
  split
  · exact avoids_ok _
  split
  · exact avoids_ok _
  refine (getInt64_avoids htype _).bind fun deviceId => ?_
  split
  · exact avoids_ok _
  refine (getInt64_avoids htype _).bind fun version => ?_
  dsimp only
  split
  · exact avoids_ok _
  split
  · exact avoids_ok _
  refine (getInt64_avoids htype _).bind fun fileNumber => ?_
  exact checkCacheInfoExtension_avoids htype hlength codec _ _ _

end Reader

/-! ## The restore -/

section Restore

variable {codec : JsonCodec} {io : IoFaults} {reader : NNCompiledCache} {fs : FileSystem}
  {cacheDir : String} {w : UInt32} {caches : List Buffer} {mappings mappings' : Mappings}

/-- **What `Restore` has looked at.** -/
theorem restore_success
    (h : reader.restore codec io fs cacheDir w [] mappings = .ok (.success, caches, mappings')) :
    ∃ content info, fs.find? cacheDir (infoFileName reader.modelName) = some content ∧
      checkCacheInfo codec reader.backendID (some content) = .ok (.success, info) ∧
      info.version = w.toUInt64.toInt64 ∧
      NNCompiledCache.restoreFiles io reader fs cacheDir info.modelCheckSum 0
        info.fileNumber.toUInt64.toNat [] mappings = .ok (.success, caches, mappings') := by
  unfold NNCompiledCache.restore at h
  by_cases hcheck : reader.checkCache cacheDir [] = .success
  · rw [if_neg (not_not_intro hcheck)] at h
    dsimp only at h
    split at h
    · cases h
    · cases h
    rename_i outcome content hfind houtcome
    obtain ⟨⟨ret, info⟩, hinfo, h⟩ := bind_eq_ok h
    dsimp only at h
    split at h
    · rename_i hret
      cases h
      exact absurd rfl hret
    rename_i hret
    split at h
    · cases h
    rename_i hgt
    split at h
    · cases h
    rename_i hlt
    obtain rfl : ret = .success := not_ne_iff.mp hret
    by_cases hopen : io.reads (infoFileName reader.modelName) = .openFails
    · rw [if_pos hopen] at hinfo
      cases hinfo
    · rw [if_neg hopen] at hinfo
      exact ⟨content, info, hfind, hinfo,
        Int64.le_antisymm (Int64.not_lt.mp hlt) (Int64.not_lt.mp hgt), h⟩
  · rw [if_pos hcheck, Except.ok.injEq, Prod.mk.injEq] at h
    exact absurd h.1 hcheck

/-- A restore that succeeds has opened the record. -/
theorem reads_of_restore
    (h : reader.restore codec io fs cacheDir w [] mappings = .ok (.success, caches, mappings')) :
    io.reads (infoFileName reader.modelName) ≠ .realpathFails ∧
      io.reads (infoFileName reader.modelName) ≠ .openFails := by
  obtain ⟨content, -, hfind, -⟩ := restore_success h
  unfold NNCompiledCache.restore at h
  by_cases hcheck : reader.checkCache cacheDir [] = .success
  · rw [if_neg (not_not_intro hcheck)] at h
    dsimp only at h
    rw [hfind] at h
    constructor
    · intro hreads
      rw [hreads] at h
      cases h
    · intro hreads
      rw [hreads] at h
      cases h
  · rw [if_pos hcheck, Except.ok.injEq, Prod.mk.injEq] at h
    exact absurd h.1 hcheck

/-- A restore that succeeds has a device. -/
theorem device_of_restore
    (h : reader.restore codec io fs cacheDir w [] mappings = .ok (.success, caches, mappings')) :
    reader.device.isSome := by
  cases hdevice : reader.device with
  | some reply => rfl
  | none =>
    have hcheck : reader.checkCache cacheDir [] ≠ .success := by
      unfold NNCompiledCache.checkCache
      rw [hdevice]
      split <;> simp
    unfold NNCompiledCache.restore at h
    rw [if_pos hcheck, Except.ok.injEq, Prod.mk.injEq] at h
    exact absurd h.1 hcheck

/-- Nor have any faults mattered to it. -/
theorem restore_quiet
    (h : reader.restore codec io fs cacheDir w [] mappings = .ok (.success, caches, mappings')) :
    reader.restore codec {} fs cacheDir w [] mappings = .ok (.success, caches, mappings') := by
  rcases restore_io io w mappings with hio | ⟨ret, _, _, hret, hio⟩
  · rwa [hio] at h
  · rw [hio] at h
    cases h
    exact absurd rfl hret

/-- **The other versions** of a cache that can be restored: a newer one is not
there, an older one is forbidden. -/
theorem restore_versions {v : UInt32}
    (h : reader.restore codec io fs cacheDir v [] mappings = .ok (.success, caches, mappings'))
    (w : UInt32) :
    reader.restore codec io fs cacheDir w [] mappings
      = if v < w then .ok (.invalidFile, [], mappings)
        else if w < v then .ok (.operationForbidden, [], mappings)
        else .ok (.success, caches, mappings') := by
  obtain ⟨content, info, hfind, hinfo, hversion, hfiles⟩ := restore_success h
  obtain ⟨hrealpath, hopen⟩ := reads_of_restore h
  have hcheck : reader.checkCache cacheDir [] = .success := by
    by_contra hcheck
    unfold NNCompiledCache.restore at h
    rw [if_pos hcheck, Except.ok.injEq, Prod.mk.injEq] at h
    exact hcheck h.1
  unfold NNCompiledCache.restore
  rw [if_neg (not_not_intro hcheck)]
  dsimp only
  rw [hfind]
  split
  · rename_i heq
    cases heq
  · rename_i heq _
    exact absurd heq hrealpath
  · rename_i heq _
    cases heq
    rw [if_neg hopen, hinfo, ok_bind]
    dsimp only
    rw [if_neg (not_not_intro rfl), hversion]
    by_cases hgt : v < w
    · rw [if_pos (widen_lt.mpr hgt), if_pos hgt]
      rfl
    rw [if_neg (mt widen_lt.mp hgt), if_neg hgt]
    by_cases hlt : w < v
    · rw [if_pos (widen_lt.mpr hlt), if_pos hlt]
      rfl
    · rw [if_neg (mt widen_lt.mp hlt), if_neg hlt, hfiles]

/-- **The faults of a restore** are those of the JSON library, whatever the
directory holds: its own index into the checksums is always in range. -/
theorem restore_avoids {bad : Fault → Prop} (htype : ¬ bad .typeError) (hlength : ¬ bad .lengthError)
    (codec : JsonCodec) (io : IoFaults) (reader : NNCompiledCache) (fs : FileSystem)
    (cacheDir : String) (w : UInt32) (caches : List Buffer) (mappings : Mappings) :
    Avoids bad (reader.restore codec io fs cacheDir w caches mappings) := by
  unfold NNCompiledCache.restore
  split
  · exact avoids_ok _
  dsimp only
  split
  · exact avoids_ok _
  · exact avoids_ok _
  rename_i content _ _
  generalize hread : (if io.reads (infoFileName reader.modelName) = .openFails then none
    else some content) = text
  have havoids := checkCacheInfo_avoids htype hlength codec reader.backendID text
  cases hinfo : checkCacheInfo codec reader.backendID text with
  | error fault =>
    rw [hinfo, avoids_error] at havoids
    rw [error_bind]
    exact avoids_error.mpr havoids
  | ok result =>
    obtain ⟨ret, info⟩ := result
    rw [ok_bind]
    dsimp only
    split
    · exact avoids_ok _
    rename_i hret
    split
    · exact avoids_ok _
    split
    · exact avoids_ok _
    obtain rfl : ret = .success := not_ne_iff.mp hret
    have haccepted : info.modelCheckSum.length = info.fileNumber.toUInt64.toNat := by
      cases text with
      | none => cases hinfo
      | some content =>
        obtain ⟨-, j, data, haccepted⟩ := checkCacheInfo_success hinfo
        exact haccepted.length_eq
    obtain ⟨ret, caches', mappings', htotal⟩ := @restoreFiles_total io reader fs cacheDir
      info.modelCheckSum info.fileNumber.toUInt64.toNat 0 caches mappings (by omega)
    rw [htotal]
    exact avoids_ok _

/-! ## The accesses that follow -/

/-- `caches[cacheNum - CACHE_INPUT_TENSORDESC_OFFSET]`,
`caches[cacheNum - CACHE_OUTPUT_TENSORDESC_OFFSET]` and the range from
`caches.begin()` to `caches.end() - CACHE_INPUT_TENSORDESC_OFFSET`, with the
arithmetic of `size_t`. -/
def AccessesInRange (caches : List Buffer) : Prop :=
  (UInt64.ofNat caches.length - 2).toNat < caches.length ∧
    (UInt64.ofNat caches.length - 1).toNat < caches.length ∧
    (UInt64.ofNat caches.length - 2).toNat ≤ caches.length

/-- The number of files the record names, as `CheckCacheInfo` reads it. -/
def recordedFileNumber (codec : JsonCodec) (fs : FileSystem) (cacheDir modelName : String) :
    Option Int64 := do
  let content ← fs.find? cacheDir (infoFileName modelName)
  let j ← codec.parse content
  let data ← j.find? "data"
  let member ← data.find? "fileNumber"
  member.getInt64.toOption

theorem accessesInRange_iff {caches : List Buffer} :
    AccessesInRange caches ↔ 2 ≤ caches.length := by
  unfold AccessesInRange
  rw [UInt64.toNat_sub, UInt64.toNat_sub, UInt64.toNat_ofNat']
  simp only [UInt64.reduceToNat]
  omega

/-- A restore that succeeds has read as many files as the record names. -/
theorem length_of_restore
    (h : reader.restore codec io fs cacheDir w [] mappings = .ok (.success, caches, mappings')) :
    ∃ n, recordedFileNumber codec fs cacheDir reader.modelName = some n ∧
      n.toInt = caches.length := by
  obtain ⟨content, info, hfind, hinfo, -, hfiles⟩ := restore_success h
  obtain ⟨-, j, data, haccepted⟩ := checkCacheInfo_success hinfo
  obtain ⟨member, hmember, hget⟩ := haccepted.fileNumber
  refine ⟨info.fileNumber, ?_, ?_⟩
  · simp only [recordedFileNumber, hfind, haccepted.parse, haccepted.dataMember, hmember, hget,
      Option.bind_eq_bind, Option.bind_some]
    rfl
  · rcases @restoreFiles_io fs cacheDir reader io info.modelCheckSum
      info.fileNumber.toUInt64.toNat 0 [] mappings with heq | ⟨ret, caches', mappings'', hret, heq⟩
    · rw [heq] at hfiles
      obtain ⟨buffers, hbuffers, hlen, -, -⟩ := restoreFiles_sound hfiles
      rw [toInt_of_size haccepted.size, hbuffers, List.nil_append, hlen]
    · rw [hfiles] at heq
      cases heq
      exact absurd rfl hret

/-- **The accesses after a restore.** Whatever the directory holds, the restore
does not read past its checksums; when it succeeds, the accesses that follow it
are in range if and only if the record names two files or more. -/
theorem restore_accesses_iff (codec : JsonCodec) (io : IoFaults) (reader : NNCompiledCache)
    (fs : FileSystem) (cacheDir : String) (w : UInt32) (mappings : Mappings) :
    reader.restore codec io fs cacheDir w [] mappings ≠ .error .outOfBounds ∧
      ∀ caches mappings',
        reader.restore codec io fs cacheDir w [] mappings = .ok (.success, caches, mappings') →
        (AccessesInRange caches ↔
          ∃ n, recordedFileNumber codec fs cacheDir reader.modelName = some n ∧ 2 ≤ n) := by
  constructor
  · intro hfault
    exact @restore_avoids (· = .outOfBounds) (by decide) (by decide) codec io reader fs cacheDir w []
      mappings _ hfault rfl
  · intro caches mappings' h
    obtain ⟨n, hn, hlen⟩ := length_of_restore h
    have htwo : (2 : Int64).toInt = 2 := rfl
    rw [accessesInRange_iff]
    constructor
    · intro hle
      refine ⟨n, hn, ?_⟩
      rw [Int64.le_iff_toInt_le, hlen, htwo]
      exact_mod_cast hle
    · rintro ⟨n', hn', hle⟩
      rw [hn] at hn'
      cases hn'
      rw [Int64.le_iff_toInt_le, hlen, htwo] at hle
      exact_mod_cast hle

end Restore

/-- A list of one buffer can be saved and restored, and `caches[cacheNum - 2]`
is not there. -/
theorem oneFile_outOfRange :
    ∃ fs₁ buffers mappings',
      mixedStore.save JsonCodec.compact {} (FileSystem.single "/data" (by decide)) [[7]] "/data" 5
        = (.success, fs₁) ∧
      mixedStore.restore JsonCodec.compact {} fs₁ "/data" 5 [] [] = .ok (.success, buffers, mappings') ∧
      ¬ AccessesInRange buffers := by
  have haccepts := saveAccepts_one 5
  obtain ⟨buffers, mappings', hrestore, hdata⟩ := haccepts.restore_saved compact_faithful (by simp)
    (show mixedStore.device.isSome from rfl) rfl rfl []
  refine ⟨_, buffers, mappings', haccepts.save_eq, hrestore, ?_⟩
  have hlen := congrArg List.length hdata
  rw [List.length_map] at hlen
  rw [accessesInRange_iff, hlen]
  decide

end NNRt
