import NNRt.Cache.SaveFaults

/-!
# `OH_NNModel_HasCache`

The second reader of the record. It narrows the numbers to `int` where
`CheckCacheInfo` reads them as `int64_t`, looks whether the cache files exist,
and deletes the record when it does not like what it sees.

- `modelHasCache_eq`: **what it answers** in a directory with a record.
- `modelHasCache_fs`: what it does to the directory.
- `hasCache_saved_iff`: **it agrees with the store** on the versions an `int`
  holds.
- `version31_not_found`: the first version it cannot find.
-/

namespace Json

open NNRt

/-- `j.get<int>()`: an integer is narrowed with wrap-around, and unlike
`get<int64_t>()` a boolean is a number. -/
def getInt : Json → Except Fault Int32
  | .int i => .ok (Int64.ofInt i).toInt32
  | .bool b => .ok (if b then 1 else 0)
  | .float v => if v.toInt32.toInt64 = v then .ok v.toInt32 else .error .badConversion
  | _ => .error .typeError

/-- A number that was an `int64_t` when it was stored comes back narrowed. -/
theorem getInt_toInt (x : Int64) : (Json.int x.toInt).getInt = .ok x.toInt32 := by
  rw [getInt, Int64.ofInt_toInt]

end Json

namespace NNRt

/-- `std::filesystem::remove_all(dirPath + "/" + name)` on a file. -/
def FileSystem.remove (fs : FileSystem) (dirPath name : String) : FileSystem :=
  match fs.realpath dirPath with
  | none => fs
  | some dir => { fs with
      files := Function.update fs.files dir (Function.update (fs.files dir) name none) }

/-- The directory in front of `"/" + name`: without one that is the root. -/
def statDir (cacheDir : String) : String :=
  if cacheDir = "" then "/" else cacheDir

/-- `HARDWARE_NAME`. -/
def hardwareName : String := "ohos.boot.hardware"

/-- `FILE_NUMBER_MAX`. -/
def fileNumberMax : Nat := 100

/-- The three numbers `CheckCacheFile` fills in. -/
structure CacheFileInfo where
  fileNumber : Int64 := 0
  cacheVersion : Int64 := 0
  deviceId : Int64 := 0
  deriving DecidableEq, Repr

/-- What is outside `OH_NNModel_HasCache`. -/
structure HasCacheEnv where
  codec : JsonCodec
  io : IoFaults := {}
  /-- `std::hash<std::string>`. -/
  hash : String → UInt64
  /-- `GetParameter` of the hardware name; `none` is an error. -/
  hardware : Option String

/-- `CheckCacheFileExtension`. -/
def checkCacheFileExtension (codec : JsonCodec) (content : Bytes) :
    Except Fault (ReturnCode × CacheFileInfo) :=
  let info : CacheFileInfo := {}
  match codec.parse content with
  | none => .ok (.invalidFile, info)
  | some j =>
    match j.find? "data" with
    | none => .ok (.invalidFile, info)
    | some data =>
      match data.find? "deviceId" with
      | none => .ok (.invalidFile, info)
      | some deviceId => do
        let info := { info with deviceId := ← deviceId.getInt64 }
        match data.find? "fileNumber" with
        | none => return (.invalidFile, info)
        | some fileNumber =>
          let info := { info with fileNumber := (← fileNumber.getInt).toInt64 }
          match data.find? "version" with
          | none => return (.invalidFile, info)
          | some version =>
            let info := { info with cacheVersion := (← version.getInt).toInt64 }
            match j.find? "CheckSum" with
            | none => return (.invalidFile, info)
            | some checkSum =>
              let jData := codec.dump data
              if !strncpySucceeds jData.length then return (.invalidFile, info)
              else
                let checkSum ← checkSum.getInt64
                if Int64.ofNat (cacheInfoGetCrc16 jData).toNat ≠ checkSum then
                  return (.invalidFile, info)
                else return (.success, info)

/-- `CheckCacheFile` on a file that exists. -/
def checkCacheFile (codec : JsonCodec) (io : IoFaults) (name : String) (content : Bytes) :
    Except Fault (ReturnCode × CacheFileInfo) :=
  match io.reads name with
  -- The file is read through a stream here, so the errors of `mmap` do not occur.
  | .realpathFails | .openFails => .ok (.invalidFile, {})
  | _ => checkCacheFileExtension codec content

/-- `CheckDeviceId`. -/
def checkDeviceId (env : HasCacheEnv) (deviceId : Int64) : ReturnCode :=
  match env.hardware with
  | none => .failed
  | some cName =>
    if deviceId ≠ (env.hash (hardwareName ++ "." ++ cName)).toInt64 then .failed else .success

/-- `OH_NNModel_HasCache`, with pointers that are not null. -/
def modelHasCache (env : HasCacheEnv) (fs : FileSystem) (cacheDir modelName : String)
    (version : UInt32) : Except Fault (Bool × FileSystem) :=
  let name := infoFileName modelName
  match fs.find? (statDir cacheDir) name with
  | none => .ok (false, fs)
  | some content => do
    let (ret, info) ← checkCacheFile env.codec env.io name content
    if ret ≠ .success then return (false, fs.remove (statDir cacheDir) name)
    else if checkDeviceId env info.deviceId ≠ .success then
      return (false, fs.remove (statDir cacheDir) name)
    else if info.fileNumber ≤ 0 ∨ info.fileNumber.toUInt64.toNat > fileNumberMax then
      return (false, fs.remove (statDir cacheDir) name)
    else if (List.range info.fileNumber.toUInt64.toNat).all fun i =>
        (fs.find? (statDir cacheDir) (modelFileName modelName i)).isSome then
      return (info.cacheVersion = version.toUInt64.toInt64, fs)
    else return (false, fs.remove (statDir cacheDir) name)

/-! ## Removing a file -/

namespace FileSystem

variable {fs : FileSystem} {cacheDir name : String}

@[simp] theorem remove_realpath (fs : FileSystem) (cacheDir name : String) :
    (fs.remove cacheDir name).realpath = fs.realpath := by
  unfold remove
  split <;> rfl

@[simp] theorem find?_remove_self (fs : FileSystem) (cacheDir name : String) :
    (fs.remove cacheDir name).find? cacheDir name = none := by
  unfold remove find?
  cases h : fs.realpath cacheDir with
  | none => simp [h]
  | some dir => simp [h]

/-- After the record is removed there is none. -/
theorem unrecorded_remove {codec : JsonCodec} (modelName : String) :
    (fs.remove cacheDir (infoFileName modelName)).Unrecorded codec cacheDir modelName := by
  intro content hcontent
  rw [find?_remove_self] at hcontent
  cases hcontent

end FileSystem

/-! ## Narrow numbers -/

theorem toInt_fileNumber {info : NNCompiledCacheInfo} (h : info.WellFormed) :
    info.fileNumber.toInt = info.modelCheckSum.length := by
  have hle := h.length_le
  have hsize : info.fileNumber.toUInt64.toNat ≤ vectorMaxSize := by
    rw [h.fileNumber]
    simp only [nnCacheFileNumberMax, vectorMaxSize] at hle ⊢
    omega
  rw [toInt_of_size hsize, h.fileNumber]

/-- A number of files survives the narrowing. -/
theorem narrow_fileNumber {info : NNCompiledCacheInfo} (h : info.WellFormed) :
    info.fileNumber.toInt32.toInt64 = info.fileNumber := by
  have hle := h.length_le
  simp only [nnCacheFileNumberMax] at hle
  apply Int64.toInt_inj.mp
  rw [Int32.toInt_toInt64, Int64.toInt_toInt32, toInt_fileNumber h, Int.bmod_eq_of_le] <;> omega

theorem widen_injective {v w : UInt32} (h : v.toUInt64.toInt64 = w.toUInt64.toInt64) : v = w := by
  have hint := congrArg Int64.toInt h
  rw [toInt_widen, toInt_widen] at hint
  exact UInt32.toNat_inj.mp (Int.ofNat.inj hint)

/-- A version survives it when it fits an `int`. -/
theorem narrow_version_iff {x : Int64} (hle : -1 ≤ x.toInt) (hlt : x.toInt < 2 ^ 32) (w : UInt32) :
    x.toInt32.toInt64 = w.toUInt64.toInt64 ↔ x = w.toUInt64.toInt64 ∧ w.toNat < 2 ^ 31 := by
  have hw := w.toNat_lt
  rw [← Int64.toInt_inj, ← Int64.toInt_inj, Int32.toInt_toInt64, Int64.toInt_toInt32, toInt_widen]
  by_cases hsmall : x.toInt < 2 ^ 31
  · rw [Int.bmod_eq_of_le (by omega) (by omega)]
    omega
  · have hbmod : x.toInt.bmod (2 ^ 32) = x.toInt - 2 ^ 32 := by
      rw [← Int.sub_bmod_right, Int.bmod_eq_of_le] <;> omega
    omega

/-! ## What it answers -/

section Answers

variable {codec : JsonCodec} {env : HasCacheEnv} {fs : FileSystem} {cacheDir modelName : String}
  {info : NNCompiledCacheInfo}

/-- What the second reader gets out of a record. -/
theorem checkCacheFileExtension_parsed {content : Bytes} (hc : codec.Faithful)
    (hwf : info.WellFormed) (hparse : codec.parse content = some (cacheInfoJson codec info)) :
    checkCacheFileExtension codec content = .ok (.success,
      { fileNumber := info.fileNumber
        cacheVersion := info.version.toInt32.toInt64
        deviceId := info.deviceId }) := by
  have hnat : Int64.ofInt (cacheInfoGetCrc16 (codec.dump (cacheInfoData info))).toNat
      = Int64.ofNat (cacheInfoGetCrc16 (codec.dump (cacheInfoData info))).toNat :=
    Int64.ofInt_eq_ofNat
  simp only [checkCacheFileExtension, hparse, find?_cacheInfoJson_data, find?_cacheInfoData_deviceId,
    ok_bind, find?_cacheInfoData_fileNumber, Json.getInt_toInt,
    find?_cacheInfoData_version, find?_cacheInfoJson_checkSum, hc.dump_short info hwf.length_le,
    Bool.not_true, Bool.false_eq_true, if_false, Json.getInt64_int, hnat, ne_eq, Int64.ofInt_toInt,
    not_true_eq_false, pure_eq_ok, narrow_fileNumber hwf]

/-- The first `n` files of a model are there. -/
def FilesExist (fs : FileSystem) (cacheDir modelName : String) (n : Nat) : Prop :=
  ∀ i < n, (fs.find? cacheDir (modelFileName modelName i)).isSome

instance (fs : FileSystem) (cacheDir modelName : String) (n : Nat) :
    Decidable (FilesExist fs cacheDir modelName n) :=
  inferInstanceAs (Decidable (∀ i < n, _))

/-- `OH_NNModel_HasCache` in a directory with a record that can be opened, on
the device the record names. -/
theorem modelHasCache_eq (hc : env.codec.Faithful) (h : fs.Records env.codec cacheDir modelName info)
    (hread : env.io.reads (infoFileName modelName) ≠ .realpathFails ∧
      env.io.reads (infoFileName modelName) ≠ .openFails)
    (hid : checkDeviceId env info.deviceId = .success) (w : UInt32) :
    modelHasCache env fs cacheDir modelName w
      = .ok (if FilesExist fs cacheDir modelName info.modelCheckSum.length then
          (decide (info.version.toInt32.toInt64 = w.toUInt64.toInt64), fs)
        else (false, fs.remove cacheDir (infoFileName modelName))) := by
  obtain ⟨⟨content, hfind, hparse⟩, hwf⟩ := h
  have hdir : statDir cacheDir = cacheDir := if_neg (FileSystem.cacheDir_ne_of_find? hfind)
  have hcheck : checkCacheFile env.codec env.io (infoFileName modelName) content
      = checkCacheFileExtension env.codec content := by
    unfold checkCacheFile
    split
    · rename_i heq
      exact absurd heq hread.1
    · rename_i heq
      exact absurd heq hread.2
    · rfl
  have hrange : ¬ (info.fileNumber ≤ 0 ∨ info.modelCheckSum.length > fileNumberMax) := by
    have hle := hwf.length_le
    have hpos := List.length_pos_iff.mpr hwf.nonempty
    rw [Int64.le_iff_toInt_le, toInt_fileNumber hwf]
    simp only [nnCacheFileNumberMax] at hle
    simp only [fileNumberMax, Int64.toInt_zero]
    omega
  unfold modelHasCache
  simp only [hdir, hfind, hcheck, checkCacheFileExtension_parsed hc hwf hparse, ok_bind, hid, ne_eq,
    not_true_eq_false, if_false, hwf.fileNumber, hrange, pure_eq_ok, List.all_eq_true,
    List.mem_range]
  by_cases hfiles : FilesExist fs cacheDir modelName info.modelCheckSum.length
  · rw [if_pos hfiles]
    exact if_pos hfiles
  · rw [if_neg hfiles]
    exact if_neg hfiles

/-- Without a record the answer is no. -/
theorem modelHasCache_unrecorded (h : fs.Unrecorded env.codec cacheDir modelName)
    (hdir : cacheDir ≠ "") (w : UInt32) :
    ∃ fs', modelHasCache env fs cacheDir modelName w = .ok (false, fs') := by
  unfold modelHasCache
  rw [statDir, if_neg hdir]
  dsimp only
  cases hfind : fs.find? cacheDir (infoFileName modelName) with
  | none => exact ⟨fs, rfl⟩
  | some content =>
    have hcheck : checkCacheFile env.codec env.io (infoFileName modelName) content
        = .ok (.invalidFile, {}) := by
      unfold checkCacheFile
      split
      · rfl
      · rfl
      · simp only [checkCacheFileExtension, h content hfind]
    exact ⟨_, by simp only [hcheck, ok_bind]; rfl⟩

/-- A yes comes from a record that has been opened. -/
theorem reads_of_modelHasCache {w : UInt32} {fs' : FileSystem}
    (h : modelHasCache env fs cacheDir modelName w = .ok (true, fs')) :
    env.io.reads (infoFileName modelName) ≠ .realpathFails ∧
      env.io.reads (infoFileName modelName) ≠ .openFails := by
  unfold modelHasCache at h
  dsimp only at h
  split at h
  · cases h
  constructor
  · intro hread
    unfold checkCacheFile at h
    rw [hread] at h
    cases h
  · intro hread
    unfold checkCacheFile at h
    rw [hread] at h
    cases h

/-- What it does to the directory: nothing, or it deletes the record. -/
theorem modelHasCache_fs {w : UInt32} {answer : Bool} {fs' : FileSystem}
    (h : modelHasCache env fs cacheDir modelName w = .ok (answer, fs')) :
    fs' = fs ∨ answer = false ∧ fs' = fs.remove (statDir cacheDir) (infoFileName modelName) := by
  unfold modelHasCache at h
  dsimp only at h
  split at h
  · cases h
    exact Or.inl rfl
  · rename_i content _
    cases hcheck : checkCacheFile env.codec env.io (infoFileName modelName) content with
    | error fault =>
      rw [hcheck] at h
      cases h
    | ok result =>
      rw [hcheck, ok_bind] at h
      split at h
      · cases h
        exact Or.inr ⟨rfl, rfl⟩
      split at h
      · cases h
        exact Or.inr ⟨rfl, rfl⟩
      split at h
      · cases h
        exact Or.inr ⟨rfl, rfl⟩
      split at h
      · cases h
        exact Or.inl rfl
      · cases h
        exact Or.inr ⟨rfl, rfl⟩

end Answers

/-! ## Saves of other models -/

/-- A call of `Save`. -/
structure SaveCall where
  store : NNCompiledCache
  io : IoFaults := {}
  caches : List Bytes
  cacheDir : String
  version : UInt32

/-- What a save makes of the file system. -/
def SaveCall.run (codec : JsonCodec) (fs : FileSystem) (call : SaveCall) : FileSystem :=
  (call.store.save codec call.io fs call.caches call.cacheDir call.version).2

section Frame

variable {codec : JsonCodec} {fs : FileSystem} {cacheDir modelName name : String} {call : SaveCall}

/-- A directory that does not exist is left alone. -/
theorem save_realpath_none (codec : JsonCodec) (io : IoFaults) (store : NNCompiledCache)
    (caches : List Bytes) (version : UInt32) (h : fs.realpath cacheDir = none) :
    ∃ ret, ret ≠ .success ∧ store.save codec io fs caches cacheDir version = (ret, fs) := by
  unfold NNCompiledCache.save
  split
  · exact ⟨_, by decide, rfl⟩
  split
  · exact ⟨_, by decide, rfl⟩
  · unfold NNCompiledCache.generateCacheFiles NNCompiledCache.generateCacheModel
    rw [h]
    dsimp only
    by_cases hcount : caches.length = 0 ∨ caches.length > nnCacheFileNumberMax
    · rw [if_pos hcount]
      exact ⟨_, by decide, rfl⟩
    · rw [if_neg hcount]
      exact ⟨_, by decide, rfl⟩

/-- A save is a sequence of writes to files of its model. -/
theorem SaveCall.run_writes (codec : JsonCodec) (fs : FileSystem) (call : SaveCall) :
    ∃ dir ws, call.run codec fs = fs.writeAll dir ws ∧
      ∀ w ∈ ws, w.1 = infoFileName call.store.modelName ∨
        ∃ k, w.1 = modelFileName call.store.modelName k := by
  unfold SaveCall.run
  cases hdir : fs.realpath call.cacheDir with
  | none =>
    obtain ⟨ret, -, hsave⟩ := save_realpath_none codec call.io call.store call.caches call.version hdir
    exact ⟨"", [], by rw [hsave]; rfl, by simp⟩
  | some dir =>
    have hfiles : ∀ w ∈ call.store.filesLeft call.io call.caches dir,
        ∃ k, w.1 = modelFileName call.store.modelName k := by
      intro w hw
      unfold NNCompiledCache.filesLeft at hw
      split at hw
      · cases hw
      · obtain ⟨j, hj⟩ := List.getElem?_of_mem hw
        obtain ⟨_, rfl⟩ := getElem?_leftFiles hj
        exact ⟨0 + j, rfl⟩
    have heffect := @NNCompiledCache.save_effect codec call.io call.store fs call.caches
      call.cacheDir dir call.version hdir
    generalize call.store.save codec call.io fs call.caches call.cacheDir call.version = result
      at heffect ⊢
    cases heffect with
    | failed ret hret => exact ⟨dir, _, rfl, fun w hw => Or.inr (hfiles w hw)⟩
    | saved op haccepts hall =>
      refine ⟨dir, call.store.filesLeft call.io call.caches dir ++
        [(infoFileName call.store.modelName,
          call.store.infoLeft codec call.io op call.caches call.version)], ?_, ?_⟩
      · rw [FileSystem.writeAll_append]
        rfl
      intro w hw
      rcases List.mem_append.mp hw with hw | hw
      · exact Or.inr (hfiles w hw)
      · rw [List.mem_singleton.mp hw]
        exact Or.inl rfl

/-- A file none of the writes is to. -/
theorem find?_writeAll_other {dir : String} {ws : List (String × Bytes)}
    (h : ∀ w ∈ ws, w.1 ≠ name) :
    (fs.writeAll dir ws).find? cacheDir name = fs.find? cacheDir name := by
  induction ws generalizing fs with
  | nil => rfl
  | cons w ws ih =>
    have hw := h w List.mem_cons_self
    show ((fs.write dir w.1 w.2).writeAll dir ws).find? cacheDir name = _
    rw [ih fun v hv => h v (List.mem_cons_of_mem _ hv)]
    unfold FileSystem.find?
    rw [FileSystem.write_realpath]
    cases fs.realpath cacheDir with
    | none => rfl
    | some other =>
      by_cases hother : other = dir
      · subst hother
        simp only [FileSystem.write_files, Directory.write_other _ _ (Ne.symm hw)]
      · simp [FileSystem.write, hother]

/-- A write does not delete a file. -/
theorem isSome_find?_writeAll {dir : String} {ws : List (String × Bytes)}
    (h : (fs.find? cacheDir name).isSome) : ((fs.writeAll dir ws).find? cacheDir name).isSome := by
  induction ws generalizing fs with
  | nil => exact h
  | cons w ws ih =>
    apply ih
    unfold FileSystem.find? at h ⊢
    rw [FileSystem.write_realpath]
    cases hdir : fs.realpath cacheDir with
    | none => simp [hdir] at h
    | some other =>
      rw [hdir] at h
      by_cases hother : other = dir
      · subst hother
        by_cases hname : name = w.1
        · simp [hname]
        · simpa only [FileSystem.write_files, Directory.write_other _ _ hname] using h
      · simpa [FileSystem.write, hother] using h

/-- Saves of other models leave the record alone and delete no file. -/
theorem saves_frame {later : List SaveCall} (h : ∀ call ∈ later, call.store.modelName ≠ modelName) :
    (later.foldl (SaveCall.run codec) fs).find? cacheDir (infoFileName modelName)
        = fs.find? cacheDir (infoFileName modelName) ∧
      ∀ n, FilesExist fs cacheDir modelName n →
        FilesExist (later.foldl (SaveCall.run codec) fs) cacheDir modelName n := by
  induction later generalizing fs with
  | nil => exact ⟨rfl, fun n hn => hn⟩
  | cons call later ih =>
    obtain ⟨dir, ws, hrun, hnames⟩ := call.run_writes codec fs
    obtain ⟨hinfo, hfiles⟩ := @ih (call.run codec fs)
      fun other hother => h other (List.mem_cons_of_mem _ hother)
    rw [List.foldl_cons]
    refine ⟨hinfo.trans ?_, fun n hn => hfiles n fun i hi => ?_⟩
    · rw [hrun]
      apply find?_writeAll_other
      intro w hw heq
      rcases hnames w hw with hname | ⟨k, hname⟩
      · rw [hname] at heq
        exact h call List.mem_cons_self (infoFileName_inj.mp heq)
      · rw [hname] at heq
        exact modelFileName_ne_infoFileName _ _ _ heq
    · rw [hrun]
      exact isSome_find?_writeAll (hn i hi)

end Frame

/-! ## Agreement with the store -/

section Agreement

variable {env : HasCacheEnv} {io : IoFaults} {store : NNCompiledCache} {fs fs₁ : FileSystem}
  {caches : List Bytes} {cacheDir : String} {version : UInt32} {later : List SaveCall}

/-- A save that succeeds has found its directory. -/
theorem exists_realpath_of_save {codec : JsonCodec}
    (hsave : store.save codec io fs caches cacheDir version = (.success, fs₁)) :
    ∃ dir, fs.realpath cacheDir = some dir := by
  cases hdir : fs.realpath cacheDir with
  | some dir => exact ⟨dir, rfl⟩
  | none =>
    obtain ⟨ret, hret, hfails⟩ := save_realpath_none codec io store caches version hdir
    rw [hfails] at hsave
    exact absurd (congrArg Prod.fst hsave) hret

/-- All files of a save are there when none has been left out. -/
theorem filesExist_saved {dir : String} {content : Bytes}
    (hdir₁ : fs₁.realpath cacheDir = some dir)
    (hfs₁ : fs₁ = (fs.writeAll dir (store.filesLeft io caches dir)).write dir
      (infoFileName store.modelName) content)
    (hall : (store.filesLeft io caches dir).length = caches.length) (hnonempty : caches ≠ []) :
    FilesExist fs₁ cacheDir store.modelName caches.length := by
  intro i hi
  rw [FileSystem.find?_eq hdir₁, hfs₁, FileSystem.write_files,
    Directory.write_other _ _ (modelFileName_ne_infoFileName _ _ _), FileSystem.writeAll_files]
  unfold NNCompiledCache.filesLeft at hall ⊢
  by_cases hrefused : store.Refused caches dir
  · rw [if_pos hrefused] at hall
    exact absurd hall.symm (by simpa using hnonempty)
  · rw [if_neg hrefused] at hall ⊢
    rw [writeAll_leftFiles_model, List.getElem?_eq_getElem (by omega)]
    rfl

/-- Answers that compare a version with what an `int` has kept of it. -/
theorem answers_iff {answer : UInt32 → Except Fault (Bool × FileSystem)}
    (h : ∀ w, answer w = .ok
      (decide (version.toUInt64.toInt64.toInt32.toInt64 = w.toUInt64.toInt64), fs)) :
    ((∃ fs', answer version = .ok (true, fs')) ∧
        ∀ w, w ≠ version → ∃ fs', answer w = .ok (false, fs')) ↔ version.toNat < 2 ^ 31 := by
  have hnarrow := fun w => @narrow_version_iff version.toUInt64.toInt64
    (by rw [toInt_widen]; omega) (by rw [toInt_widen]; exact_mod_cast version.toNat_lt) w
  constructor
  · rintro ⟨⟨fs', htrue⟩, -⟩
    rw [h, Except.ok.injEq, Prod.mk.injEq, decide_eq_true_eq, hnarrow] at htrue
    exact htrue.1.2
  · intro hlt
    constructor
    · have hyes := h version
      rw [decide_eq_true ((hnarrow version).mpr ⟨rfl, hlt⟩)] at hyes
      exact ⟨_, hyes⟩
    · intro w hw
      have hno := h w
      rw [decide_eq_false fun heq => hw (widen_injective ((hnarrow w).mp heq).1.symm)] at hno
      exact ⟨_, hno⟩

/-- **`OH_NNModel_HasCache` and the store.** After a save that returned success,
and any saves of other models, it finds exactly the saved version if and only
if that version fits an `int` and the record has reached the disk. -/
theorem hasCache_saved_iff (hc : env.codec.Faithful) (hs : env.codec.Strict) (hio : env.io = {})
    (hid : checkDeviceId env store.backendID.toInt64 = .success)
    (hsave : store.save env.codec io fs caches cacheDir version = (.success, fs₁))
    (hlater : ∀ call ∈ later, call.store.modelName ≠ store.modelName) :
    ((∃ fs', modelHasCache env (later.foldl (SaveCall.run env.codec) fs₁) cacheDir store.modelName
          version = .ok (true, fs')) ∧
      ∀ w, w ≠ version → ∃ fs', modelHasCache env (later.foldl (SaveCall.run env.codec) fs₁) cacheDir
          store.modelName w = .ok (false, fs')) ↔
      version.toNat < 2 ^ 31 ∧
        ∀ op, store.device = some ⟨.success, op⟩ →
          ¬ store.RecordCut env.codec io op caches version := by
  obtain ⟨dir, hdir⟩ := exists_realpath_of_save hsave
  have hempty : cacheDir ≠ "" := by
    rintro rfl
    rw [fs.realpath_empty] at hdir
    cases hdir
  have heffect := @NNCompiledCache.save_effect env.codec io store fs caches cacheDir dir version hdir
  rw [hsave] at heffect
  generalize hresult : (ReturnCode.success, fs₁) = result at heffect
  cases heffect with
  | failed ret hret => exact absurd (congrArg Prod.fst hresult).symm hret
  | saved op haccepts hall =>
    have hfs₁ := congrArg Prod.snd hresult
    dsimp only at hfs₁
    have hdir₁ : fs₁.realpath cacheDir = some dir := by
      rw [hfs₁]
      simpa using hdir
    have hrecord : fs₁.find? cacheDir (infoFileName store.modelName)
        = some (store.infoLeft env.codec io op caches version) := by
      rw [FileSystem.find?_eq hdir₁, hfs₁, FileSystem.write_files, Directory.write_self]
    obtain ⟨hinfo, hfiles⟩ := @saves_frame env.codec fs₁ cacheDir store.modelName later hlater
    rcases @NNCompiledCache.parse_infoLeft env.codec io store caches version hc hs op with
      ⟨hcut, hparse⟩ | ⟨hcut, hparse⟩
    · -- The record has not reached the disk as a whole, so that there is none to find.
      have hunrecorded : (later.foldl (SaveCall.run env.codec) fs₁).Unrecorded env.codec cacheDir
          store.modelName := by
        intro content hcontent
        rw [hinfo, hrecord] at hcontent
        cases hcontent
        exact hparse
      constructor
      · rintro ⟨⟨fs', htrue⟩, -⟩
        obtain ⟨fs'', hfalse⟩ := modelHasCache_unrecorded hunrecorded hempty version
        rw [htrue] at hfalse
        cases hfalse
      · rintro ⟨-, hnot⟩
        exact absurd hcut (hnot op haccepts.device)
    · have hrecords : (later.foldl (SaveCall.run env.codec) fs₁).Records env.codec cacheDir
          store.modelName (savedInfo store op caches version) :=
        ⟨⟨_, hinfo.trans hrecord, hparse⟩, haccepts.wellFormed⟩
      have hlength : (savedInfo store op caches version).modelCheckSum.length = caches.length := by
        simp [savedInfo]
      have hexist : FilesExist (later.foldl (SaveCall.run env.codec) fs₁) cacheDir store.modelName
          (savedInfo store op caches version).modelCheckSum.length := by
        rw [hlength]
        exact hfiles _ (filesExist_saved hdir₁ hfs₁ hall haccepts.nonempty)
      have hread : env.io.reads (infoFileName store.modelName) ≠ .realpathFails ∧
          env.io.reads (infoFileName store.modelName) ≠ .openFails := by
        rw [hio]
        exact ⟨by rintro ⟨⟩, by rintro ⟨⟩⟩
      have hanswer := fun w => modelHasCache_eq hc hrecords hread hid w
      have hversion : (savedInfo store op caches version).version = version.toUInt64.toInt64 := rfl
      simp only [hexist, if_true, hversion] at hanswer
      rw [answers_iff hanswer]
      refine (and_iff_left fun op' hdevice => ?_).symm
      cases hdevice.symm.trans haccepts.device
      exact hcut

end Agreement

/-- What `OH_NNModel_HasCache` sees where every name has the hash of backend 1. -/
def envOfBackendOne : HasCacheEnv where
  codec := JsonCodec.compact
  hash _ := 1
  hardware := some "default"

theorem saveAccepts_one (version : UInt32) :
    SaveAccepts JsonCodec.compact mixedStore (FileSystem.single "/data" (by decide)) [[7]] "/data"
      version "/data" 3 :=
  ⟨by simp, by simp [nnCacheFileNumberMax], rfl, rfl, by decide,
    compact_faithful.dump_short _ (by simp [savedInfo, nnCacheFileNumberMax])⟩

/-- Version `2 ^ 31` is saved and not found. -/
theorem version31_not_found :
    ∃ fs₁ fs₂, mixedStore.save JsonCodec.compact {} (FileSystem.single "/data" (by decide)) [[7]]
        "/data" 0x80000000 = (.success, fs₁) ∧
      modelHasCache envOfBackendOne fs₁ "/data" "m" 0x80000000 = .ok (false, fs₂) := by
  have haccepts := saveAccepts_one 0x80000000
  have hexist : FilesExist ((FileSystem.single "/data" (by decide)).writeAll "/data"
      (savedFiles JsonCodec.compact mixedStore 3 [[7]] 0x80000000)) "/data" "m"
      (savedInfo mixedStore 3 [[7]] 0x80000000).modelCheckSum.length := by
    intro i hi
    have hi' : i < ([[7]] : List Bytes).length := by simpa [savedInfo] using hi
    exact Option.isSome_iff_exists.mpr ⟨_, haccepts.find?_model hi'⟩
  have hanswer := @modelHasCache_eq envOfBackendOne _ "/data" "m" _ compact_faithful
    ⟨⟨_, haccepts.find?_info, compact_faithful.parse_dump _⟩, haccepts.wellFormed⟩
    ⟨by rintro ⟨⟩, by rintro ⟨⟩⟩ (by decide) 0x80000000
  rw [if_pos hexist] at hanswer
  exact ⟨_, _, haccepts.save_eq, hanswer⟩

/-- Version 5 is saved and found, after another model has been saved. -/
theorem version5_found :
    ∃ fs₁ fs₂, mixedStore.save JsonCodec.compact {} (FileSystem.single "/data" (by decide)) [[7]]
        "/data" 5 = (.success, fs₁) ∧
      modelHasCache envOfBackendOne
        (SaveCall.run JsonCodec.compact fs₁
          { store := { mixedStore with modelName := "n" }, caches := [[8]], cacheDir := "/data",
            version := 6 }) "/data" "m" 5 = .ok (true, fs₂) := by
  have haccepts := saveAccepts_one 5
  have hagrees := (@hasCache_saved_iff envOfBackendOne {} mixedStore _ _ [[7]] "/data" 5
    [{ store := { mixedStore with modelName := "n" }, caches := [[8]], cacheDir := "/data",
       version := 6 }] compact_faithful compact_strict rfl (by decide) haccepts.save_eq
    (by simp [mixedStore])).mpr ⟨by decide, fun op _ => ?_⟩
  · obtain ⟨fs₂, hfound⟩ := hagrees.1
    exact ⟨_, fs₂, haccepts.save_eq, hfound⟩
  · rintro ⟨written, hcut | hcut, -⟩ <;> cases hcut

end NNRt
