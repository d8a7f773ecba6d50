import NNRt.Compiler.OnlineBuild

/-!
# Looking for a cache

`OH_NNModel_HasCache`, and `NNCompiler::Build` of a compiler without a model,
only look for a cache. Both delete the record on conditions of their own, and
the second may rewrite it.

- `hasCache_keeps_iff`: when the first leaves a restorable cache restorable.
- `restoreFromCaches_keeps_iff`: when a restore does.
- `build_keeps_iff`: when the second does.
- `looking_keeps_iff`: **both together**, for every content of the directory.
- `looking_destroys`: a cache of version 5 that neither look leaves alone;
  `looking_keeps_short`: one that a build leaves alone, though its descriptions
  cannot be read.
-/

namespace NNRt

/-- Every file of the one file system is there in the other. -/
def InPlace (fs fs' : FileSystem) : Prop :=
  ∀ dir name, (fs.files dir name).isSome → (fs'.files dir name).isSome

theorem InPlace.refl (fs : FileSystem) : InPlace fs fs := fun _ _ h => h

/-- `NNCompiledCache::Restore` returns `OH_NN_SUCCESS`. -/
def RestoresAs (codec : JsonCodec) (io : IoFaults) (reader : NNCompiledCache) (fs : FileSystem)
    (cacheDir : String) (v : UInt32) (mappings : Mappings) : Prop :=
  ∃ caches mappings',
    reader.restore codec io fs cacheDir v [] mappings = .ok (.success, caches, mappings')

/-- A call leaves the file system `fs'` and the cache of version `v` in it. -/
def Keeps (codec : JsonCodec) (io : IoFaults) (reader : NNCompiledCache) (fs fs' : FileSystem)
    (cacheDir : String) (v : UInt32) (mappings : Mappings) : Prop :=
  InPlace fs fs' ∧ RestoresAs codec io reader fs' cacheDir v mappings

/-- A file that is deleted is not in its place. -/
theorem not_inPlace_remove {fs fs' : FileSystem} {cacheDir name : String} {content : Bytes}
    (h : fs.find? cacheDir name = some content) (hrealpath : fs'.realpath = fs.realpath) :
    ¬ InPlace fs (fs'.remove cacheDir name) := by
  intro hplace
  obtain ⟨path, hpath⟩ := FileSystem.realpath_of_find? h
  have hgone : ((fs'.remove cacheDir name).files path name) = none := by
    rw [← FileSystem.find?_eq (by rwa [FileSystem.remove_realpath, hrealpath])]
    exact FileSystem.find?_remove_self fs' cacheDir name
  have hthere := hplace path name (by rw [← FileSystem.find?_eq hpath, h]; rfl)
  rw [hgone] at hthere
  cases hthere

/-! ## The backend of an HDI device -/

/-- `GenUniqueName`. -/
def genUniqueName (deviceName vendorName version : String) : String :=
  deviceName ++ "_" ++ vendorName ++ "_" ++ version

/-- What an HDI device says of itself when it is registered. -/
structure HdiDevice where
  deviceName : String
  vendorName : String
  majorVersion : UInt32
  minorVersion : UInt32

/-- The backend name `HDIDeviceV2_1Creator` computes. -/
def HdiDevice.backendName (device : HdiDevice) : String :=
  genUniqueName device.deviceName device.vendorName
    ("v" ++ toString device.majorVersion ++ "_" ++ toString device.minorVersion)

/-! ## `OH_NNModel_HasCache` -/

/-- `fileNumber` and `version` of the record as `CheckCacheFile` reads them, unless
one of them is a number that no `int` holds. -/
def recordedInts (codec : JsonCodec) (fs : FileSystem) (cacheDir modelName : String) :
    Option (Int32 × Int32) := do
  let content ← fs.find? cacheDir (infoFileName modelName)
  let j ← codec.parse content
  let data ← j.find? "data"
  let fileNumber ← data.find? "fileNumber"
  let version ← data.find? "version"
  return (← fileNumber.getInt.toOption, ← version.getInt.toOption)

/-- The two readings of one number. -/
theorem getInt_narrows {j : Json} {x : Int64} {n : Int32} (h : j.getInt64 = .ok x)
    (hn : j.getInt = .ok n) : n = x.toInt32 := by
  cases j with
  | int i =>
    obtain rfl : Int64.ofInt i = x := Except.ok.inj h
    exact (Except.ok.inj hn).symm
  | float v =>
    obtain rfl : v = x := Except.ok.inj h
    simp only [Json.getInt] at hn
    split at hn
    · exact (Except.ok.inj hn).symm
    · cases hn
  | null | bool _ | str _ | arr _ | obj _ => cases h

/-- A narrowed number of files that is in range is at most the number of files. -/
theorem narrowed_le {x : Int64} (hsize : x.toUInt64.toNat ≤ vectorMaxSize)
    (hpos : 0 < x.toInt32.toInt) : x.toInt32.toInt ≤ x.toUInt64.toNat := by
  simp only [vectorMaxSize] at hsize
  have hnat : x.toUInt64.toNat = x.toBitVec.toNat := rfl
  have hx : x.toInt = x.toUInt64.toNat := by
    show x.toBitVec.toInt = _
    rw [BitVec.toInt_eq_toNat_of_lt (by omega), hnat]
  rw [Int64.toInt_toInt32, hx] at hpos ⊢
  rw [Int.bmod_def] at hpos ⊢
  split at hpos <;> rename_i hlt
  · rw [if_pos hlt]
    omega
  · omega

section HasCache

variable {env : HasCacheEnv} {reader : NNCompiledCache} {fs : FileSystem} {cacheDir : String}
  {v : UInt32} {mappings mappings' : Mappings} {caches : List Buffer} {content : Bytes}
  {j data : Json} {info : NNCompiledCacheInfo}

/-- What the second reader makes of a content the first has accepted. -/
theorem Accepted.checkCacheFile_eq (h : Accepted env.codec content j data info) {name : String}
    (hreads : env.io.reads name ≠ .realpathFails ∧ env.io.reads name ≠ .openFails) :
    ∃ number version, data.find? "fileNumber" = some number ∧ data.find? "version" = some version ∧
      number.getInt64 = .ok info.fileNumber ∧
      checkCacheFile env.codec env.io name content = do
        let n ← number.getInt
        let version ← version.getInt
        return (.success, ⟨n.toInt64, version.toInt64, info.deviceId⟩) := by
  obtain ⟨deviceId, hdeviceId, hid⟩ := h.deviceId
  obtain ⟨version, hversion, -⟩ := h.version
  obtain ⟨number, hnumber, hget⟩ := h.fileNumber
  obtain ⟨checkSum, hcheckSum, hsum⟩ := h.checkSum
  refine ⟨number, version, hnumber, hversion, hget, ?_⟩
  have hcheck : checkCacheFile env.codec env.io name content
      = checkCacheFileExtension env.codec content := by
    unfold checkCacheFile
    split
    · rename_i heq
      exact absurd heq hreads.1
    · rename_i heq
      exact absurd heq hreads.2
    · rfl
  simp only [hcheck, checkCacheFileExtension, h.parse, h.dataMember, hdeviceId, hid, ok_bind, hnumber,
    hversion, hcheckSum, h.dump, Bool.not_true, Bool.false_eq_true, if_false, hsum, ne_eq,
    not_true_eq_false, pure_eq_ok]

/-- The numbers of files the second reader is content with, after the first has
read all of them. -/
theorem files_of_narrowed {n : Int32} (hsize : info.fileNumber.toUInt64.toNat ≤ vectorMaxSize)
    (hn : n = info.fileNumber.toInt32)
    (hfiles : NNCompiledCache.restoreFiles env.io reader fs cacheDir info.modelCheckSum 0
      info.fileNumber.toUInt64.toNat [] mappings = .ok (.success, caches, mappings')) :
    ¬ n.toInt64 ≤ 0 ∧ ¬ n.toInt64.toUInt64.toNat > fileNumberMax ∧
        FilesExist fs cacheDir reader.modelName n.toInt64.toUInt64.toNat ↔
      1 ≤ n.toInt ∧ n.toInt ≤ 100 := by
  have hle0 : n.toInt64 ≤ 0 ↔ n.toInt ≤ 0 := by
    rw [Int64.le_iff_toInt_le, Int32.toInt_toInt64, Int64.toInt_zero]
  have hnat (hpos : 0 < n.toInt) : (n.toInt64.toUInt64.toNat : Int) = n.toInt := by
    have hint : n.toInt64.toBitVec.toInt = n.toInt := Int32.toInt_toInt64 n
    have hbits : n.toInt64.toUInt64.toNat = n.toInt64.toBitVec.toNat := rfl
    rw [hbits, ← hint]
    rw [BitVec.toInt_eq_toNat_cond] at hint ⊢
    split
    · rfl
    · rename_i hlarge
      rw [if_neg hlarge] at hint
      have := n.toInt64.toBitVec.isLt
      omega
  have hexist (hpos : 0 < n.toInt) :
      FilesExist fs cacheDir reader.modelName n.toInt64.toUInt64.toNat := by
    have hle : n.toInt ≤ info.fileNumber.toUInt64.toNat := by
      rw [hn] at hpos ⊢
      exact narrowed_le hsize hpos
    have hcount := hnat hpos
    rcases @restoreFiles_io fs cacheDir reader env.io info.modelCheckSum
      info.fileNumber.toUInt64.toNat 0 [] mappings with heq | ⟨ret, caches', mappings'', hret, heq⟩
    · rw [heq] at hfiles
      obtain ⟨buffers, -, hlen, hfound, -⟩ := restoreFiles_sound hfiles
      intro i hi
      have hi' : i < buffers.length := by omega
      have hfile := (hfound i hi').1
      rw [Nat.zero_add] at hfile
      rw [hfile]
      rfl
    · rw [hfiles] at heq
      cases heq
      exact absurd rfl hret
  rw [hle0]
  simp only [fileNumberMax]
  constructor
  · rintro ⟨hpos, hmax, -⟩
    have hcount := hnat (by omega)
    omega
  · rintro ⟨hpos, hmax⟩
    have hcount := hnat (by omega)
    exact ⟨by omega, by omega, hexist (by omega)⟩

/-- The device that is asked is the one of the record. -/
theorem checkDeviceId_success_iff (deviceId : Int64) :
    checkDeviceId env deviceId = .success ↔
      ∃ cName, env.hardware = some cName ∧
        env.hash (hardwareName ++ "." ++ cName) = deviceId.toUInt64 := by
  unfold checkDeviceId
  cases env.hardware with
  | none => simp
  | some cName =>
    dsimp only
    constructor
    · intro h
      refine ⟨cName, rfl, ?_⟩
      by_cases hid : deviceId = (env.hash (hardwareName ++ "." ++ cName)).toInt64
      · rw [hid, UInt64.toUInt64_toInt64]
      · rw [if_pos hid] at h
        cases h
    · rintro ⟨_, hcName, hid⟩
      cases hcName
      rw [if_neg]
      rw [hid, Int64.toInt64_toUInt64]
      exact not_not_intro rfl

/-- `OH_NNModel_HasCache`, when its reader comes to the numbers of the record. -/
theorem modelHasCache_of_check {modelName : String} {number version : Json} {deviceId : Int64}
    (hfind : fs.find? cacheDir (infoFileName modelName) = some content)
    (hcheck : checkCacheFile env.codec env.io (infoFileName modelName) content = do
      let n ← number.getInt
      let version ← version.getInt
      return (.success, ⟨n.toInt64, version.toInt64, deviceId⟩)) (w : UInt32) :
    modelHasCache env fs cacheDir modelName w = do
      let n ← number.getInt
      let version ← version.getInt
      if checkDeviceId env deviceId ≠ .success ∨ n.toInt64 ≤ 0
          ∨ n.toInt64.toUInt64.toNat > fileNumberMax
          ∨ ¬ FilesExist fs cacheDir modelName n.toInt64.toUInt64.toNat then
        return (false, fs.remove cacheDir (infoFileName modelName))
      else return (decide (version.toInt64 = w.toUInt64.toInt64), fs) := by
  have hdir : statDir cacheDir = cacheDir := if_neg (FileSystem.cacheDir_ne_of_find? hfind)
  simp only [modelHasCache, hdir, hfind, hcheck]
  cases number.getInt with
  | error fault => rfl
  | ok n =>
    cases version.getInt with
    | error fault => rfl
    | ok version =>
      -- The three checks delete the record one after the other, with the same answer.
      simp only [ok_bind, pure_eq_ok, ne_eq, not_true_eq_false, if_false]
      by_cases hdev : checkDeviceId env deviceId = .success
      · rw [if_neg (not_not_intro hdev)]
        by_cases hrange : n.toInt64 ≤ 0 ∨ n.toInt64.toUInt64.toNat > fileNumberMax
        · rw [if_pos hrange, if_pos]
          tauto
        · rw [if_neg hrange]
          by_cases hexist : FilesExist fs cacheDir modelName n.toInt64.toUInt64.toNat
          · rw [if_pos (by simpa [FilesExist] using hexist), if_neg]
            tauto
          · rw [if_neg (by simpa [FilesExist] using hexist), if_pos]
            tauto
      · rw [if_pos hdev, if_pos (Or.inl hdev)]

/-- **`OH_NNModel_HasCache` on a restorable cache** leaves it alone exactly when
the record is of the current device, and the numbers in it, read as `int`, are
there and in range. -/
theorem hasCache_keeps_iff
    (hrestore : reader.restore env.codec env.io fs cacheDir v [] mappings
      = .ok (.success, caches, mappings')) (w : UInt32) :
    (∃ answer fs', modelHasCache env fs cacheDir reader.modelName w = .ok (answer, fs') ∧
        Keeps env.codec env.io reader fs fs' cacheDir v mappings) ↔
      (∃ cName, env.hardware = some cName ∧
          env.hash (hardwareName ++ "." ++ cName) = reader.backendID) ∧
        ∃ n version, recordedInts env.codec fs cacheDir reader.modelName = some (n, version) ∧
          1 ≤ n.toInt ∧ n.toInt ≤ 100 := by
  obtain ⟨content, info, hfind, hinfo, -, hfiles⟩ := restore_success hrestore
  obtain ⟨hbackend, j, data, haccepted⟩ := checkCacheInfo_success hinfo
  have hreads := reads_of_restore hrestore
  obtain ⟨number, version, hnumber, hversion, hget, hcheck⟩ := haccepted.checkCacheFile_eq hreads
  have hints : recordedInts env.codec fs cacheDir reader.modelName = do
      let n ← number.getInt.toOption
      let version ← version.getInt.toOption
      return (n, version) := by
    simp only [recordedInts, hfind, haccepted.parse, haccepted.dataMember, hnumber, hversion,
      Option.bind_eq_bind, Option.bind_some]
  have hdevice := @checkDeviceId_success_iff env info.deviceId
  rw [hbackend] at hdevice
  have hkept : Keeps env.codec env.io reader fs fs cacheDir v mappings :=
    ⟨.refl fs, caches, mappings', hrestore⟩
  rw [modelHasCache_of_check hfind hcheck, hints, ← hdevice]
  cases hn : number.getInt with
  | error fault => simp [Except.toOption]
  | ok n =>
    cases hv : version.getInt with
    | error fault => simp [Except.toOption]
    | ok version =>
      simp only [ok_bind, pure_eq_ok, Except.toOption, Option.bind_eq_bind, Option.bind_some,
        Option.pure_def, Option.some.injEq, Prod.mk.injEq]
      have hrange := files_of_narrowed haccepted.size (getInt_narrows hget hn) hfiles
      by_cases hdelete : checkDeviceId env info.deviceId ≠ .success ∨ n.toInt64 ≤ 0
          ∨ n.toInt64.toUInt64.toNat > fileNumberMax
          ∨ ¬ FilesExist fs cacheDir reader.modelName n.toInt64.toUInt64.toNat
      · -- The record is deleted, and nothing is restored without it.
        rw [if_pos hdelete]
        constructor
        · rintro ⟨answer, fs', hresult, hplace, -⟩
          cases hresult
          exact absurd hplace (not_inPlace_remove hfind rfl)
        · rintro ⟨hdev, n', version', ⟨rfl, rfl⟩, hpos, hle⟩
          obtain ⟨h0, hmax, hexist⟩ := (hrange.mpr ⟨hpos, hle⟩)
          tauto
      · rw [if_neg hdelete]
        simp only [not_or, not_not] at hdelete
        obtain ⟨hdev, hfound⟩ := hdelete
        constructor
        · intro _
          exact ⟨hdev, n, version, ⟨rfl, rfl⟩, hrange.mp hfound⟩
        · intro _
          exact ⟨_, _, rfl, hkept⟩

end HasCache

/-! ## `Build` without a model -/

/-- The ways from the restored buffers to an end of `RestoreFromCacheFile` that
neither deletes nor rewrites the record. -/
inductive LeavesRecord (env : CacheEnv) (c : NNCompiler TensorDesc) (fs : FileSystem)
    (caches : List Buffer) : Prop
  | unreadable (ret : ReturnCode) (hdescs : restoredDescs caches = .error (.ret ret))
      (hret : ret ≠ .invalidFile)
  | refused (descs) (hdescs : restoredDescs caches = .ok descs) (hcode : env.prepare.1 ≠ .success)
      (hprepare : env.prepare.1 ≠ .invalidFile)
  | notUpdatable (descs) (hdescs : restoredDescs caches = .ok descs)
      (hprepare : env.prepare.1 = .success) (hupdatable : env.prepare.2.2 = false)
  | opVersionUnread (descs) (hdescs : restoredDescs caches = .ok descs)
      (hprepare : env.prepare.1 = .success) (hupdatable : env.prepare.2.2 = true)
      (hcode : env.readOpVersion.code ≠ .success) (hread : env.readOpVersion.code ≠ .invalidFile)
  /-- The record is of the current op version; or it is so long that a new one is
  not written. -/
  | upToDate (descs) (content : Bytes) (info : NNCompiledCacheInfo)
      (hdescs : restoredDescs caches = .ok descs)
      (hprepare : env.prepare.1 = .success) (hupdatable : env.prepare.2.2 = true)
      (hcode : env.readOpVersion.code = .success)
      (hopen : env.ioUpdate.reads (infoFileName c.extensionConfig.modelName) ≠ .openFails)
      (hfind : fs.find? c.cachePath (infoFileName c.extensionConfig.modelName) = some content)
      (hinfo : checkCacheInfo env.codec c.backendID (some content) = .ok (.success, info))
      (hop : env.readOpVersion.currentOpVersion.toInt64 > info.opVersion →
        ¬ strncpySucceeds (env.codec.dump (cacheInfoData
          (rewrittenInfo info env.readOpVersion.currentOpVersion))).length)

namespace NNCompiler

variable {env : CacheEnv} {c : NNCompiler TensorDesc} {fs : FileSystem} {reply : OpVersionReply}
  {caches : List Buffer} {mappings mappings' : Mappings}

/-- The record that is written anew has a checksum of its own, which `Restore` does not accept. -/
theorem not_keeps_rewritten (hc : env.codec.Faithful) (hs : env.codec.Strict) {path : String}
    {info : NNCompiledCacheInfo} (hpath : fs.realpath c.cachePath = some path)
    (hversion : info.version = c.cacheVersion.toUInt64.toInt64) {ret : ReturnCode}
    {fs' : FileSystem}
    (hwrite : (c.readerStore reply).writeCacheInfo env.codec env.ioUpdate fs
      (rewrittenInfo info env.readOpVersion.currentOpVersion) c.cachePath = (ret, fs'))
    (hret : ret ≠ .invalidFile) :
    ¬ Keeps env.codec env.io (c.readerStore reply) fs fs' c.cachePath c.cacheVersion mappings := by
  rintro ⟨-, caches', mappings'', hrestored⟩
  rcases @writeCacheInfo_effect (c.readerStore reply) fs c.cachePath env.codec env.ioUpdate
    (rewrittenInfo info env.readOpVersion.currentOpVersion) path hpath with heffect | heffect
  · rw [heffect] at hwrite
    cases hwrite
    exact absurd rfl hret
  · rw [heffect] at hwrite
    cases hwrite
    exact absurd hrestored (restore_rewritten hc hs hpath hversion _ _)

/-- Once it has read the record, the update keeps it unless it writes another one. -/
theorem updateOpVersion_keeps_iff_of_read (hc : env.codec.Faithful) (hs : env.codec.Strict)
    {path : String} {info : NNCompiledCacheInfo} (hpath : fs.realpath c.cachePath = some path)
    (hversion : info.version = c.cacheVersion.toUInt64.toInt64)
    (hkept : Keeps env.codec env.io (c.readerStore reply) fs fs c.cachePath c.cacheVersion mappings)
    (hcode : env.readOpVersion.code = .success)
    (hread : checkCacheInfo env.codec (c.readerStore reply).backendID
      (if env.ioUpdate.reads (infoFileName (c.readerStore reply).modelName) = .openFails then none
        else fs.find? c.cachePath (infoFileName (c.readerStore reply).modelName))
      = .ok (.success, info)) :
    (∃ ret fs', updateOpVersion env (c.readerStore reply) fs c.cachePath = .ok (ret, fs') ∧
        ret ≠ .invalidFile ∧
        Keeps env.codec env.io (c.readerStore reply) fs fs' c.cachePath c.cacheVersion mappings) ↔
      (env.readOpVersion.currentOpVersion.toInt64 > info.opVersion →
        ¬ strncpySucceeds (env.codec.dump (cacheInfoData
          (rewrittenInfo info env.readOpVersion.currentOpVersion))).length) := by
  rw [updateOpVersion_read hcode hread]
  by_cases hnewer : env.readOpVersion.currentOpVersion.toInt64 > info.opVersion
  · rw [if_pos hnewer, forall_prop_of_true hnewer]
    by_cases hfits : strncpySucceeds (env.codec.dump (cacheInfoData
        (rewrittenInfo info env.readOpVersion.currentOpVersion))).length
    · rw [if_pos hfits]
      refine iff_of_false ?_ (not_not_intro hfits)
      rintro ⟨ret, fs', hresult, hret, hkeeps⟩
      exact not_keeps_rewritten hc hs hpath hversion (Except.ok.inj hresult) hret hkeeps
    · rw [if_neg hfits]
      exact iff_of_true ⟨_, _, rfl, by decide, hkept⟩ hfits
  · rw [if_neg hnewer]
    exact iff_of_true ⟨_, _, rfl, by decide, hkept⟩ fun hnewer' => absurd hnewer' hnewer

/-- The op-version update keeps the record exactly when it does not come to
writing it. -/
theorem updateOpVersion_keeps_iff (hc : env.codec.Faithful) (hs : env.codec.Strict)
    (hrestore : (c.readerStore reply).restore env.codec env.io fs c.cachePath c.cacheVersion []
      mappings = .ok (.success, caches, mappings')) :
    (∃ ret fs', updateOpVersion env (c.readerStore reply) fs c.cachePath = .ok (ret, fs') ∧
        ret ≠ .invalidFile ∧
        Keeps env.codec env.io (c.readerStore reply) fs fs' c.cachePath c.cacheVersion mappings) ↔
      (env.readOpVersion.code ≠ .success ∧ env.readOpVersion.code ≠ .invalidFile) ∨
        env.readOpVersion.code = .success ∧
        env.ioUpdate.reads (infoFileName c.extensionConfig.modelName) ≠ .openFails ∧
        ∃ content info,
          fs.find? c.cachePath (infoFileName c.extensionConfig.modelName) = some content ∧
          checkCacheInfo env.codec c.backendID (some content) = .ok (.success, info) ∧
          (env.readOpVersion.currentOpVersion.toInt64 > info.opVersion →
            ¬ strncpySucceeds (env.codec.dump (cacheInfoData
              (rewrittenInfo info env.readOpVersion.currentOpVersion))).length) := by
  have hkept : Keeps env.codec env.io (c.readerStore reply) fs fs c.cachePath c.cacheVersion
      mappings := ⟨.refl fs, caches, mappings', hrestore⟩
  obtain ⟨content, info, hfind, hinfo, hversion, -⟩ := restore_success hrestore
  rw [readerStore_modelName] at hfind
  rw [readerStore_backendID] at hinfo
  obtain ⟨path, hpath⟩ := FileSystem.realpath_of_find? hfind
  by_cases hcode : env.readOpVersion.code = .success
  · by_cases hopen : env.ioUpdate.reads (infoFileName c.extensionConfig.modelName) = .openFails
    · -- The update cannot open the record that `Restore` could, and calls it invalid.
      have hupdate : updateOpVersion env (c.readerStore reply) fs c.cachePath
          = .ok (.invalidFile, fs) := by
        refine @updateOpVersion_refused _ _ _ _ _ {} hcode ?_ (by decide)
        rw [readerStore_modelName, if_pos hopen]
        rfl
      constructor
      · rintro ⟨ret, fs', hresult, hret, -⟩
        rw [hupdate] at hresult
        cases hresult
        exact absurd rfl hret
      · rintro (⟨hcode', -⟩ | ⟨-, hopen', -⟩)
        · exact absurd hcode hcode'
        · exact absurd hopen hopen'
    · have hread : checkCacheInfo env.codec (c.readerStore reply).backendID
          (if env.ioUpdate.reads (infoFileName (c.readerStore reply).modelName) = .openFails then none
            else fs.find? c.cachePath (infoFileName (c.readerStore reply).modelName))
          = .ok (.success, info) := by
        rw [readerStore_modelName, readerStore_backendID, if_neg hopen, hfind]
        exact hinfo
      rw [updateOpVersion_keeps_iff_of_read hc hs hpath hversion hkept hcode hread]
      constructor
      · intro hold
        exact Or.inr ⟨hcode, hopen, content, info, hfind, hinfo, hold⟩
      · rintro (⟨hcode', -⟩ | ⟨-, -, content', info', hfind', hinfo', hold⟩)
        · exact absurd hcode hcode'
        · rw [hfind] at hfind'
          cases hfind'
          rw [hinfo] at hinfo'
          cases hinfo'
          exact hold
  · rw [updateOpVersion_untold hcode]
    constructor
    · rintro ⟨ret, fs', hresult, hret, -⟩
      cases hresult
      exact Or.inl ⟨hcode, hret⟩
    · rintro (⟨-, hinvalid⟩ | ⟨hcode', -⟩)
      · exact ⟨_, _, rfl, hinvalid, hkept⟩
      · exact absurd hcode' hcode

section Left

variable {stop : Stop} {descs : List (TensorDesc × UInt32) × List (TensorDesc × UInt32)}

/-- Where descriptions cannot be read there is one way only. -/
theorem leavesRecord_of_error (hdescs : restoredDescs caches = .error stop) :
    LeavesRecord env c fs caches ↔ ∃ ret, stop = .ret ret ∧ ret ≠ .invalidFile := by
  constructor
  · intro hleaves
    cases hleaves with
    | unreadable ret hdescs' hret =>
      cases hdescs'.symm.trans hdescs
      exact ⟨ret, rfl, hret⟩
    | refused _ hdescs' => cases hdescs'.symm.trans hdescs
    | notUpdatable _ hdescs' => cases hdescs'.symm.trans hdescs
    | opVersionUnread _ hdescs' => cases hdescs'.symm.trans hdescs
    | upToDate _ _ _ hdescs' => cases hdescs'.symm.trans hdescs
  · rintro ⟨ret, rfl, hret⟩
    exact .unreadable ret hdescs hret

/-- Where the device refuses the model, what it answers decides. -/
theorem leavesRecord_of_refused (hdescs : restoredDescs caches = .ok descs)
    (hcode : env.prepare.1 ≠ .success) :
    LeavesRecord env c fs caches ↔ env.prepare.1 ≠ .invalidFile := by
  constructor
  · intro hleaves
    cases hleaves with
    | unreadable ret hdescs' => cases hdescs'.symm.trans hdescs
    | refused _ _ _ hprepare => exact hprepare
    | notUpdatable _ _ hprepare => exact absurd hprepare hcode
    | opVersionUnread _ _ hprepare => exact absurd hprepare hcode
    | upToDate _ _ _ _ hprepare => exact absurd hprepare hcode
  · exact .refused descs hdescs hcode

/-- Where it asks for an update, the record decides. -/
theorem leavesRecord_of_updatable (hdescs : restoredDescs caches = .ok descs)
    (hprepare : env.prepare.1 = .success) (hupdatable : env.prepare.2.2 = true) :
    LeavesRecord env c fs caches ↔
      (env.readOpVersion.code ≠ .success ∧ env.readOpVersion.code ≠ .invalidFile) ∨
        env.readOpVersion.code = .success ∧
        env.ioUpdate.reads (infoFileName c.extensionConfig.modelName) ≠ .openFails ∧
        ∃ content info,
          fs.find? c.cachePath (infoFileName c.extensionConfig.modelName) = some content ∧
          checkCacheInfo env.codec c.backendID (some content) = .ok (.success, info) ∧
          (env.readOpVersion.currentOpVersion.toInt64 > info.opVersion →
            ¬ strncpySucceeds (env.codec.dump (cacheInfoData
              (rewrittenInfo info env.readOpVersion.currentOpVersion))).length) := by
  constructor
  · intro hleaves
    cases hleaves with
    | unreadable ret hdescs' => cases hdescs'.symm.trans hdescs
    | refused _ _ hcode => exact absurd hprepare hcode
    | notUpdatable _ _ _ hupdatable' => cases hupdatable'.symm.trans hupdatable
    | opVersionUnread _ _ _ _ hcode hread => exact Or.inl ⟨hcode, hread⟩
    | upToDate _ content info _ _ _ hcode hopen hfind hinfo hop =>
      exact Or.inr ⟨hcode, hopen, content, info, hfind, hinfo, hop⟩
  · rintro (⟨hcode, hread⟩ | ⟨hcode, hopen, content, info, hfind, hinfo, hop⟩)
    · exact .opVersionUnread descs hdescs hprepare hupdatable hcode hread
    · exact .upToDate descs content info hdescs hprepare hupdatable hcode hopen hfind hinfo hop

end Left

/-- What comes after the store has returned the buffers keeps them restorable
exactly when it takes one of these ways. -/
theorem restoreFromCaches_keeps_iff (hc : env.codec.Faithful) (hs : env.codec.Strict)
    (hrestore : (c.readerStore reply).restore env.codec env.io fs c.cachePath c.cacheVersion []
      mappings = .ok (.success, caches, mappings')) :
    (∃ out, restoreFromCaches env c fs (c.readerStore reply) caches mappings' = .ok out ∧
        out.code ≠ .invalidFile ∧
        Keeps env.codec env.io (c.readerStore reply) fs out.fs c.cachePath c.cacheVersion
          mappings) ↔
      2 ≤ caches.length ∧ LeavesRecord env c fs caches := by
  have hkept : Keeps env.codec env.io (c.readerStore reply) fs fs c.cachePath c.cacheVersion
      mappings := ⟨.refl fs, caches, mappings', hrestore⟩
  by_cases htwo : 2 ≤ caches.length
  swap
  · have hfault : restoreFromCaches env c fs (c.readerStore reply) caches mappings'
        = .error .outOfBounds := if_pos (Nat.not_le.mp htwo)
    constructor
    · rintro ⟨out, hout, -⟩
      rw [hfault] at hout
      cases hout
    · rintro ⟨h, -⟩
      exact absurd h htwo
  have hresult := @restoreFromCaches_result env (c.readerStore reply) fs c mappings' caches htwo
  rw [exists_result hresult (fun ret fs' => ret ≠ .invalidFile ∧ Keeps env.codec env.io
    (c.readerStore reply) fs fs' c.cachePath c.cacheVersion mappings), and_iff_right htwo]
  cases hdescs : restoredDescs caches with
  | error stop =>
    rw [leavesRecord_of_error hdescs]
    cases stop with
    | fault fault =>
      constructor
      · rintro ⟨ret, fs', h, -⟩
        cases h
      · rintro ⟨ret, h, -⟩
        cases h
    | ret ret =>
      constructor
      · rintro ⟨ret', fs', h, hret, -⟩
        cases h
        exact ⟨ret, rfl, hret⟩
      · rintro ⟨ret', h, hret⟩
        cases h
        exact ⟨_, _, rfl, hret, hkept⟩
  | ok descs =>
    dsimp only
    by_cases hprepare : env.prepare.1 = .success
    · rw [if_neg (not_not_intro hprepare)]
      cases hupdatable : env.prepare.2.2 with
      | false =>
        constructor
        · rintro -
          exact .notUpdatable descs hdescs hprepare hupdatable
        · rintro -
          exact ⟨_, _, rfl, by decide, hkept⟩
      | true =>
        rw [if_pos rfl, updateOpVersion_keeps_iff hc hs hrestore,
          leavesRecord_of_updatable hdescs hprepare hupdatable]
    · rw [if_pos hprepare, leavesRecord_of_refused hdescs hprepare]
      constructor
      · rintro ⟨ret, fs', h, hret, -⟩
        cases h
        exact hret
      · intro hinvalid
        exact ⟨_, _, rfl, hinvalid, hkept⟩

section Build

variable {env : BuildEnv} {v : UInt32}

/-- The directory of a cache that can be restored, and its record. -/
theorem found_of_restore
    (hrestore : (c.readerStore reply).restore env.restore.codec env.restore.io fs c.cachePath v []
      mappings = .ok (.success, caches, mappings')) :
    ∃ content, fs.find? c.cachePath (infoFileName c.extensionConfig.modelName) = some content ∧
      fs.realpath c.cachePath ≠ none := by
  obtain ⟨content, info, hfind, -⟩ := restore_success hrestore
  rw [readerStore_modelName] at hfind
  obtain ⟨path, hpath⟩ := FileSystem.realpath_of_find? hfind
  refine ⟨content, hfind, ?_⟩
  rw [hpath]
  nofun

/-- A build whose restore ends with the directory as it was. -/
theorem build_keeps_of_left {out : RestoreOutcome} (hbuild : c.isBuild = false)
    (hdevice : env.device = true)
    (hrestore : (c.readerStore reply).restore env.restore.codec env.restore.io fs c.cachePath v []
      mappings = .ok (.success, caches, mappings'))
    (hout : c.restoreFromCacheFile env.restore fs mappings = .ok out)
    (hcode : out.code ≠ .invalidFile) (hfs : out.fs = fs) :
    ∃ built, build env none c fs mappings = .ok built ∧
      Keeps env.restore.codec env.restore.io (c.readerStore reply) fs built.fs c.cachePath v
        mappings := by
  obtain ⟨content, -, hrealpath⟩ := found_of_restore hrestore
  obtain ⟨built, hbuilt, hbuiltFs⟩ := build_noModel_eq hbuild hdevice hrealpath hout
  rw [if_neg hcode, hfs] at hbuiltFs
  refine ⟨built, hbuilt, ?_⟩
  rw [hbuiltFs]
  exact ⟨.refl fs, caches, mappings', hrestore⟩

/-- A build that comes to the buffers of the cache. -/
theorem build_keeps_iff_of_same (hc : env.restore.codec.Faithful) (hs : env.restore.codec.Strict)
    (hbuild : c.isBuild = false) (hdevice : env.device = true)
    (hrestore : (c.readerStore reply).restore env.restore.codec env.restore.io fs c.cachePath
      c.cacheVersion [] mappings = .ok (.success, caches, mappings'))
    (heq : c.restoreFromCacheFile env.restore fs mappings
      = restoreFromCaches env.restore c fs (c.readerStore reply) caches mappings') :
    (∃ built, build env none c fs mappings = .ok built ∧
        Keeps env.restore.codec env.restore.io (c.readerStore reply) fs built.fs c.cachePath
          c.cacheVersion mappings) ↔
      2 ≤ caches.length ∧ LeavesRecord env.restore c fs caches := by
  obtain ⟨content, hfind, hrealpath⟩ := found_of_restore hrestore
  rw [← restoreFromCaches_keeps_iff hc hs hrestore]
  constructor
  · rintro ⟨built, hbuilt, hkeeps⟩
    cases hcaches : restoreFromCaches env.restore c fs (c.readerStore reply) caches mappings' with
    | error fault =>
      rw [build_noModel_fault hbuild hdevice (heq.trans hcaches)] at hbuilt
      cases hbuilt
    | ok out =>
      have hout := heq.trans hcaches
      obtain ⟨_, hbuilt', hfs⟩ := build_noModel_eq hbuild hdevice hrealpath hout
      rw [hbuilt] at hbuilt'
      cases hbuilt'
      by_cases hcode : out.code = .invalidFile
      · -- The build deletes the record of a cache that it calls invalid.
        rw [if_pos hcode] at hfs
        rw [hfs] at hkeeps
        exact absurd hkeeps.1 (not_inPlace_remove hfind (restoreFromCacheFile_realpath hout))
      · rw [if_neg hcode] at hfs
        rw [hfs] at hkeeps
        exact ⟨out, rfl, hcode, hkeeps⟩
  · rintro ⟨out, hcaches, hcode, hkeeps⟩
    obtain ⟨built, hbuilt, hfs⟩ :=
      build_noModel_eq hbuild hdevice hrealpath (heq.trans hcaches)
    rw [if_neg hcode] at hfs
    exact ⟨built, hbuilt, by rw [hfs]; exact hkeeps⟩

/-- A build that comes to the cache. -/
theorem build_keeps_iff_of_comes (hc : env.restore.codec.Faithful) (hs : env.restore.codec.Strict)
    (hbackend : env.restore.backend = some (some reply))
    (hrestore : (c.readerStore reply).restore env.restore.codec env.restore.io fs c.cachePath v []
      mappings = .ok (.success, caches, mappings'))
    (hbuild : c.isBuild = false) (hdevice : env.device = true)
    (hvalid : c.cacheVersion ≠ invalidCacheVersion) (hprepared : c.preparedModel.isSome = false) :
    (∃ built, build env none c fs mappings = .ok built ∧
        Keeps env.restore.codec env.restore.io (c.readerStore reply) fs built.fs c.cachePath v
          mappings) ↔
      c.cacheVersion < v ∨
        c.cacheVersion = v ∧ 2 ≤ caches.length ∧ LeavesRecord env.restore c fs caches := by
  obtain ⟨content, hfind, hrealpath⟩ := found_of_restore hrestore
  have heq := @restoreFromCacheFile_eq env.restore fs c mappings reply
    (FileSystem.cacheDir_ne_of_find? hfind) hvalid hprepared hbackend
  rw [restore_versions hrestore c.cacheVersion] at heq
  by_cases hnewer : v < c.cacheVersion
  · -- An older cache is called invalid, and the build deletes its record.
    rw [if_pos hnewer] at heq
    obtain ⟨built, hbuilt, hbuiltFs⟩ := build_noModel_eq hbuild hdevice hrealpath heq
    rw [if_pos rfl] at hbuiltFs
    constructor
    · rintro ⟨_, hbuilt', hplace, -⟩
      rw [hbuilt] at hbuilt'
      cases hbuilt'
      rw [hbuiltFs] at hplace
      exact absurd hplace (not_inPlace_remove hfind rfl)
    · rintro (holder | ⟨hsame, -⟩)
      · exact absurd holder (UInt32.lt_asymm hnewer)
      · rw [hsame] at hnewer
        exact absurd hnewer (UInt32.lt_irrefl v)
  rw [if_neg hnewer] at heq
  by_cases holder : c.cacheVersion < v
  · rw [if_pos holder] at heq
    refine iff_of_true ?_ (Or.inl holder)
    exact build_keeps_of_left hbuild hdevice hrestore heq nofun rfl
  · rw [if_neg holder, ok_bind] at heq
    dsimp only at heq
    rw [if_neg (not_not_intro rfl)] at heq
    obtain rfl : c.cacheVersion = v :=
      UInt32.le_antisymm (UInt32.not_lt.mp hnewer) (UInt32.not_lt.mp holder)
    rw [build_keeps_iff_of_same hc hs hbuild hdevice hrestore heq, or_iff_right holder,
      and_iff_right rfl]

/-- **`Build` without a model, on a cache that can be restored as version `v`**,
leaves it alone exactly when it does not come to the cache, when it asks for an
older version, or when it asks for this one and takes one of the ways of
`LeavesRecord`. -/
theorem build_keeps_iff (hc : env.restore.codec.Faithful) (hs : env.restore.codec.Strict)
    (hbackend : env.restore.backend = some (some reply))
    (hrestore : (c.readerStore reply).restore env.restore.codec env.restore.io fs c.cachePath v []
      mappings = .ok (.success, caches, mappings')) :
    (∃ built, build env none c fs mappings = .ok built ∧
        Keeps env.restore.codec env.restore.io (c.readerStore reply) fs built.fs c.cachePath v
          mappings) ↔
      (c.isBuild = true ∨ env.device = false ∨ c.cacheVersion = invalidCacheVersion ∨
          c.preparedModel.isSome) ∨
        c.cacheVersion < v ∨
        c.cacheVersion = v ∧ 2 ≤ caches.length ∧ LeavesRecord env.restore c fs caches := by
  have hkept : Keeps env.restore.codec env.restore.io (c.readerStore reply) fs fs c.cachePath v
      mappings := ⟨.refl fs, caches, mappings', hrestore⟩
  obtain ⟨content, hfind, -⟩ := found_of_restore hrestore
  have hdir := FileSystem.cacheDir_ne_of_find? hfind
  by_cases hbuild : c.isBuild = true
  · have hbuilt : build env none c fs mappings = .ok ⟨.operationForbidden, c, fs, mappings⟩ :=
      if_pos hbuild
    rw [hbuilt]
    exact iff_of_true ⟨_, rfl, hkept⟩ (Or.inl (Or.inl hbuild))
  rw [Bool.not_eq_true] at hbuild
  by_cases hdevice : env.device = false
  · have hbuilt : build env none c fs mappings = .ok ⟨.operationForbidden, c, fs, mappings⟩ := by
      unfold build
      rw [hbuild, hdevice]
      rfl
    rw [hbuilt]
    exact iff_of_true ⟨_, rfl, hkept⟩ (Or.inl (Or.inr (Or.inl hdevice)))
  have hleft : ∀ {out}, c.restoreFromCacheFile env.restore fs mappings = .ok out →
      out.code ≠ .invalidFile → out.fs = fs → _ := fun hout hcode hfs =>
    build_keeps_of_left hbuild (Bool.not_eq_false _ ▸ hdevice) hrestore hout hcode hfs
  -- A restore that is not begun leaves everything as it is.
  by_cases hinvalid : c.cacheVersion = invalidCacheVersion
  · have hout : c.restoreFromCacheFile env.restore fs mappings
        = .ok ⟨.invalidParameter, c, fs, mappings, none⟩ := by
      unfold restoreFromCacheFile
      rw [if_neg hdir, if_pos hinvalid]
    exact iff_of_true (hleft hout nofun rfl) (Or.inl (Or.inr (Or.inr (Or.inl hinvalid))))
  by_cases hprepared : c.preparedModel.isSome = true
  · have hout : c.restoreFromCacheFile env.restore fs mappings
        = .ok ⟨.failed, c, fs, mappings, none⟩ := by
      unfold restoreFromCacheFile
      rw [if_neg hdir, if_neg hinvalid, if_pos hprepared]
    exact iff_of_true (hleft hout nofun rfl) (Or.inl (Or.inr (Or.inr (Or.inr hprepared))))
  rw [build_keeps_iff_of_comes hc hs hbackend hrestore hbuild (Bool.not_eq_false _ ▸ hdevice)
    hinvalid (Bool.not_eq_true _ ▸ hprepared)]
  refine (or_iff_right ?_).symm
  rintro (hbuild' | hdevice' | hinvalid' | hprepared')
  · rw [hbuild] at hbuild'
    cases hbuild'
  · exact hdevice hdevice'
  · exact hinvalid hinvalid'
  · exact hprepared hprepared'

end Build

/-! ## Both looks -/

/-- **Looking for a cache does not destroy it, exactly when.** For every content
of the directory from which the registered backend of `device` restores version
`v`: `OH_NNModel_HasCache` leaves the cache alone, whatever version it is asked
for, if and only if the hash of the hardware name is the id of the backend and
the numbers of the record, read as `int`, are in range; `Build` without a model
does if and only if it does not come to the cache, asks for an older version, or
asks for this one and neither deletes nor rewrites the record. -/
theorem looking_keeps_iff {env : BuildEnv} (hash : String → UInt64) (hardware : Option String)
    (device : HdiDevice) {v : UInt32} (hc : env.restore.codec.Faithful)
    (hs : env.restore.codec.Strict) (hbackend : env.restore.backend = some (some reply))
    (hid : c.backendID = hash device.backendName)
    (hrestore : (c.readerStore reply).restore env.restore.codec env.restore.io fs c.cachePath v []
      mappings = .ok (.success, caches, mappings')) (w : UInt32) :
    ((∃ answer fs',
        modelHasCache ⟨env.restore.codec, env.restore.io, hash, hardware⟩ fs c.cachePath
            c.extensionConfig.modelName w = .ok (answer, fs') ∧
          Keeps env.restore.codec env.restore.io (c.readerStore reply) fs fs' c.cachePath v
            mappings) ↔
      (∃ cName, hardware = some cName ∧
          hash (hardwareName ++ "." ++ cName) = hash device.backendName) ∧
        ∃ n version, recordedInts env.restore.codec fs c.cachePath c.extensionConfig.modelName
          = some (n, version) ∧ 1 ≤ n.toInt ∧ n.toInt ≤ 100) ∧
    ((∃ built, build env none c fs mappings = .ok built ∧
        Keeps env.restore.codec env.restore.io (c.readerStore reply) fs built.fs c.cachePath v
          mappings) ↔
      (c.isBuild = true ∨ env.device = false ∨ c.cacheVersion = invalidCacheVersion ∨
          c.preparedModel.isSome) ∨
        c.cacheVersion < v ∨
        c.cacheVersion = v ∧ 2 ≤ caches.length ∧ LeavesRecord env.restore c fs caches) := by
  have hlook := @hasCache_keeps_iff ⟨env.restore.codec, env.restore.io, hash, hardware⟩ _ fs
    c.cachePath v mappings mappings' caches hrestore w
  rw [readerStore_backendID, hid] at hlook
  exact ⟨hlook, build_keeps_iff hc hs hbackend hrestore⟩

end NNCompiler

/-! ## A cache that is destroyed -/

/-- A hash that tells the names below apart. -/
def byteHash (name : String) : UInt64 :=
  name.toList.foldl (fun sum char => 31 * sum + char.toNat.toUInt64) 7

def mockDevice : HdiDevice where
  deviceName := "mock_device"
  vendorName := "mock_vendor"
  majorVersion := 2
  minorVersion := 1

/-- A compiler without a model that asks for version 6 of model `m`. -/
def lookingCompiler : NNCompiler TensorDesc where
  cachePath := "/data"
  cacheVersion := 6
  backendID := byteHash mockDevice.backendName
  extensionConfig := { modelName := "m" }

def lookingEnv : BuildEnv where
  restore := { codec := .compact, backend := some (some ⟨.success, 3⟩) }
  save := { codec := .compact, backend := some (some ⟨.success, 3⟩) }

/-- The directory in which one buffer has been saved as version 5. -/
def lookingSaved : FileSystem :=
  (FileSystem.single "/data" dataDir_ne).writeAll "/data"
    (savedFiles .compact (lookingCompiler.readerStore ⟨.success, 3⟩) 3 [[7]] 5)

theorem lookingSaved_restored :
    ∃ buffers mappings', (lookingCompiler.readerStore ⟨.success, 3⟩).restore .compact {} lookingSaved
      "/data" 5 [] [] = .ok (.success, buffers, mappings') := by
  have haccepts : SaveAccepts .compact (lookingCompiler.readerStore ⟨.success, 3⟩)
      (FileSystem.single "/data" (by decide)) [[7]] "/data" 5 "/data" 3 :=
    ⟨by simp, by simp [nnCacheFileNumberMax], rfl, rfl, by decide,
      compact_faithful.dump_short _ (by simp [savedInfo, nnCacheFileNumberMax])⟩
  obtain ⟨buffers, mappings', hrestore, -⟩ :=
    haccepts.restore_saved compact_faithful (by simp) rfl rfl rfl []
  exact ⟨buffers, mappings', hrestore⟩

/-- The cache of version 5 is deleted by a build that asks for version 6, and by
`OH_NNModel_HasCache` on the device that saved it. -/
theorem looking_destroys :
    ∃ buffers mappings', (lookingCompiler.readerStore ⟨.success, 3⟩).restore .compact {} lookingSaved
        "/data" 5 [] [] = .ok (.success, buffers, mappings') ∧
      (¬ ∃ answer fs', modelHasCache ⟨.compact, {}, byteHash, some "default"⟩ lookingSaved "/data" "m"
          5 = .ok (answer, fs') ∧
        Keeps .compact {} (lookingCompiler.readerStore ⟨.success, 3⟩) lookingSaved fs' "/data" 5 []) ∧
      ¬ ∃ built, NNCompiler.build lookingEnv none lookingCompiler lookingSaved [] = .ok built ∧
        Keeps .compact {} (lookingCompiler.readerStore ⟨.success, 3⟩) lookingSaved built.fs "/data" 5
          [] := by
  obtain ⟨buffers, mappings', hrestore⟩ := lookingSaved_restored
  refine ⟨buffers, mappings', hrestore, ?_, ?_⟩
  · have hlook := @hasCache_keeps_iff ⟨.compact, {}, byteHash, some "default"⟩
      (lookingCompiler.readerStore ⟨.success, 3⟩) lookingSaved "/data" 5 [] mappings' buffers
      hrestore 5
    intro hkeeps
    obtain ⟨⟨cName, hcName, hhash⟩, -⟩ := hlook.mp hkeeps
    cases hcName
    revert hhash
    decide
  · intro hkeeps
    have hbuild := (@NNCompiler.build_keeps_iff lookingCompiler lookingSaved ⟨.success, 3⟩ buffers []
      mappings' lookingEnv 5 compact_faithful compact_strict rfl hrestore).mp hkeeps
    rcases hbuild with (h | h | h | h) | h | ⟨h, -⟩ <;> revert h <;> decide

/-- A mapped file of one byte: the number of dimensions is read from the zeros
behind it. -/
theorem deserialized_oneByte :
    deserializedTensorsFromMapped [7] = .error (.ret .memoryError) := by
  have hbytes : ([7] : Bytes) ++ pageTail 1
      = encodeU32 7 ++ (encodeU32 0 ++ (encodeU32 0 ++
          (LittleEndian.encode 8 0 ++ List.replicate 4076 0))) := by
    have htail : pageTail 1 = List.replicate (19 + 4076) 0 := rfl
    rw [htail, ← List.replicate_append_replicate]
    rfl
  have hround : readSerializedDesc ([7] ++ pageTail 1) = .error (.ret .memoryError) := by
    rw [hbytes, readSerializedDesc]
    simp only [readU32At_encode, ok_bind, readBytes_append (LittleEndian.length_encode 8 0)]
    rfl
  rw [deserializedTensorsFromMapped]
  show readMappedDescs (pageTail 1).length 1 ([7] ++ pageTail 1) >>= _ = _
  rw [readMappedDescs, if_neg (by rw [List.length_append]; simp), hround]
  rfl

/-- The directory in which two buffers of one byte have been saved as version 5. -/
def shortSaved : FileSystem :=
  (FileSystem.single "/data" dataDir_ne).writeAll "/data"
    (savedFiles .compact (lookingCompiler.readerStore ⟨.success, 3⟩) 3 [[7], [7]] 5)

theorem shortSaved_restored :
    ∃ buffers mappings', (lookingCompiler.readerStore ⟨.success, 3⟩).restore .compact {} shortSaved
        "/data" 5 [] [] = .ok (.success, buffers, mappings') ∧
      buffers.map Buffer.data = [[7], [7]] := by
  have haccepts : SaveAccepts .compact (lookingCompiler.readerStore ⟨.success, 3⟩)
      (FileSystem.single "/data" (by decide)) [[7], [7]] "/data" 5 "/data" 3 :=
    ⟨by simp, by simp [nnCacheFileNumberMax], rfl, rfl, by decide,
      compact_faithful.dump_short _ (by simp [savedInfo, nnCacheFileNumberMax])⟩
  exact haccepts.restore_saved compact_faithful (by simp) rfl rfl rfl []

/-- A build that asks for this version leaves the cache alone, though the files
hold no descriptions. -/
theorem looking_keeps_short :
    ∃ built, NNCompiler.build lookingEnv none { lookingCompiler with cacheVersion := 5 } shortSaved []
        = .ok built ∧
      Keeps .compact {} (lookingCompiler.readerStore ⟨.success, 3⟩) shortSaved built.fs "/data" 5
        [] := by
  obtain ⟨buffers, mappings', hrestore, hdata⟩ := shortSaved_restored
  have htwo : buffers.length = 2 := by
    rw [← List.length_map, hdata]
    rfl
  have hdescs : restoredDescs buffers = .error (.ret .memoryError) := by
    have hfirst : (buffers[buffers.length - cacheInputTensorDescOffset]?).map Buffer.data
        = some [7] := by
      rw [← List.getElem?_map, hdata, htwo]
      rfl
    unfold restoredDescs
    dsimp only
    rw [hfirst, Option.getD_some, deserialized_oneByte]
    rfl
  exact (@NNCompiler.looking_keeps_iff { lookingCompiler with cacheVersion := 5 } shortSaved
    ⟨.success, 3⟩ buffers [] mappings' lookingEnv byteHash (some "default") mockDevice 5
    compact_faithful compact_strict rfl rfl hrestore 5).2.mpr
      (Or.inr (Or.inr ⟨rfl, htwo.ge, .unreadable .memoryError hdescs nofun⟩))

end NNRt
