import NNRt.Cache.Store

/-!
# What a restore makes of a directory

A reader looks at the record of the model first and then at the files the
record names. `Records` says that a record one of the writers can have written
is there, `Unrecorded` that there is none, `Matches` that the files are the
ones the checksums were taken of.

- `restoreFiles_complete` / `restoreFiles_sound`: the file loop returns exactly
  the contents of the files.
- `Records.restore_eq`: the backend decides first, then the version, then the
  files.
- `Records.restore_success_iff`: **when a restore succeeds.**
-/

namespace NNRt

/-! ## The file loop -/

/-- **The file loop is complete**: when the next files hold `contents`, all
non-empty and with the recorded checksums, they are returned in that order. -/
theorem restoreFiles_complete {store : NNCompiledCache} {fs : FileSystem} {cacheDir : String}
    {sums : List UInt16} :
    ∀ {contents : List Bytes} {i : Nat} {caches : List Buffer} {mappings : Mappings},
      (∀ k (h : k < contents.length),
        fs.find? cacheDir (modelFileName store.modelName (i + k)) = some contents[k]) →
      (∀ content ∈ contents, content ≠ []) →
      (∀ k (h : k < contents.length), sums[i + k]? = some (getCrc16 contents[k])) →
      ∃ buffers mappings',
        NNCompiledCache.restoreFiles {} store fs cacheDir sums i contents.length caches mappings
            = .ok (.success, caches ++ buffers, mappings') ∧
          buffers.map Buffer.data = contents
  | [], i, caches, mappings, _, _, _ => by
    refine ⟨[], mappings, ?_, rfl⟩
    simp [NNCompiledCache.restoreFiles]
  | content :: contents, i, caches, mappings, hfiles, hne, hsums => by
    have hfile : fs.find? cacheDir (modelFileName store.modelName i) = some content :=
      hfiles 0 (by simp)
    have hsum : sums[i]? = some (getCrc16 content) := hsums 0 (by simp)
    have hcontent : content.isEmpty = false := by
      simpa using hne content List.mem_cons_self
    obtain ⟨buffers, mappings', hrest, hdata⟩ :=
      @restoreFiles_complete store fs cacheDir sums contents (i + 1)
        (caches ++ [⟨mappings.length, content⟩]) (mappings ++ [.mapped mappings.length])
        (fun k hk => by
          have h := hfiles (k + 1) (by simpa using hk)
          rwa [List.getElem_cons_succ, ← Nat.add_assoc, Nat.add_right_comm] at h)
        (fun c hc => hne c (List.mem_cons_of_mem _ hc))
        (fun k hk => by
          have h := hsums (k + 1) (by simpa using hk)
          rwa [List.getElem_cons_succ, ← Nat.add_assoc, Nat.add_right_comm] at h)
    refine ⟨⟨mappings.length, content⟩ :: buffers, mappings', ?_, by rw [List.map_cons, hdata]⟩
    simp only [List.length_cons, NNCompiledCache.restoreFiles, NNCompiledCache.readCacheModelFile,
      hfile, hcontent, Bool.false_eq_true, if_false, hsum, ne_eq, not_true_eq_false, hrest]
    simp

/-- **The file loop is sound**: what it returns is what the files hold, with the
recorded checksums, and no file it returns is empty. -/
theorem restoreFiles_sound {store : NNCompiledCache} {fs : FileSystem} {cacheDir : String}
    {sums : List UInt16} :
    ∀ {n i : Nat} {caches caches' : List Buffer} {mappings mappings' : Mappings},
      NNCompiledCache.restoreFiles {} store fs cacheDir sums i n caches mappings
        = .ok (.success, caches', mappings') →
      ∃ buffers, caches' = caches ++ buffers ∧ buffers.length = n ∧
        (∀ k (h : k < buffers.length),
          fs.find? cacheDir (modelFileName store.modelName (i + k)) = some buffers[k].data ∧
            sums[i + k]? = some (getCrc16 buffers[k].data)) ∧
        ∀ buffer ∈ buffers, buffer.data ≠ []
  | 0, i, caches, caches', mappings, mappings', h => by
    cases h
    exact ⟨[], by simp, rfl, by simp, by simp⟩
  | n + 1, i, caches, caches', mappings, mappings', h => by
    unfold NNCompiledCache.restoreFiles at h
    split at h
    · cases h
    rename_i modelBuffer mappings₁ hread
    split at h
    · cases h
    rename_i checkSum hsum
    split at h
    · cases h
    rename_i hcrc
    obtain ⟨buffers, rfl, hlen, hfiles, hne⟩ := restoreFiles_sound h
    unfold NNCompiledCache.readCacheModelFile at hread
    cases hfile : fs.find? cacheDir (modelFileName store.modelName i) with
    | none =>
      rw [hfile] at hread
      cases hread
    | some content =>
      simp only [hfile] at hread
      split at hread
      · cases hread
      rename_i hcontent
      cases hread
      refine ⟨⟨mappings.length, content⟩ :: buffers, by simp, by simp [hlen], ?_, ?_⟩
      · intro k hk
        cases k with
        | zero => exact ⟨hfile, hsum.trans (congrArg some (not_ne_iff.mp hcrc).symm)⟩
        | succ k =>
          have hk' : k < buffers.length := by simpa using hk
          have h := hfiles k hk'
          rwa [Nat.add_right_comm, Nat.add_assoc] at h
      · intro buffer hbuffer
        rcases List.mem_cons.mp hbuffer with rfl | hbuffer
        · simpa using hcontent
        · exact hne buffer hbuffer

/-- **The file loop is in range**: where there is a checksum for every file it
reads, it ends with a code. -/
theorem restoreFiles_total (io : IoFaults) {store : NNCompiledCache} {fs : FileSystem}
    {cacheDir : String} {sums : List UInt16} :
    ∀ (n i : Nat) (caches : List Buffer) (mappings : Mappings), i + n ≤ sums.length →
      ∃ ret caches' mappings',
        NNCompiledCache.restoreFiles io store fs cacheDir sums i n caches mappings
          = .ok (ret, caches', mappings')
  | 0, _, caches, mappings, _ => ⟨.success, caches, mappings, rfl⟩
  | n + 1, i, caches, mappings, h => by
    have hi : i < sums.length := by omega
    unfold NNCompiledCache.restoreFiles
    rw [List.getElem?_eq_getElem hi]
    split
    · exact ⟨_, _, _, rfl⟩
    dsimp only
    split
    · exact ⟨_, _, _, rfl⟩
    exact restoreFiles_total io n (i + 1) _ _ (by omega)

theorem toInt_widen (v : UInt32) : v.toUInt64.toInt64.toInt = v.toNat := by
  have hv := v.toNat_lt
  show v.toUInt64.toBitVec.toInt = v.toNat
  rw [BitVec.toInt_eq_toNat_of_lt]
  · rfl
  · show 2 * v.toNat < 2 ^ 64
    omega

/-- `static_cast<int64_t>` of a `uint32_t` keeps the order. -/
theorem widen_lt {v w : UInt32} :
    v.toUInt64.toInt64 < w.toUInt64.toInt64 ↔ v < w := by
  rw [Int64.lt_iff_toInt_lt, UInt32.lt_iff_toNat_lt, toInt_widen, toInt_widen]
  omega

/-! ## Records -/

/-- What the writers see to: a checksum for every file, and neither none nor
too many of them. -/
structure NNCompiledCacheInfo.WellFormed (info : NNCompiledCacheInfo) : Prop where
  fileNumber : info.fileNumber.toUInt64.toNat = info.modelCheckSum.length
  nonempty : info.modelCheckSum ≠ []
  length_le : info.modelCheckSum.length ≤ nnCacheFileNumberMax

/-- Such a record is read as what it is, or as one of another backend. -/
theorem NNCompiledCacheInfo.WellFormed.checkCacheInfo_eq {codec : JsonCodec} (hc : codec.Faithful)
    {info : NNCompiledCacheInfo} (h : info.WellFormed) {content : Bytes}
    (hparse : codec.parse content = some (cacheInfoJson codec info)) (backendID : UInt64) :
    checkCacheInfo codec backendID (some content)
      = .ok (if info.deviceId.toUInt64 = backendID then (.success, info)
        else (.invalidFile, { version := info.version, deviceId := info.deviceId })) := by
  have hmax : info.modelCheckSum.length ≤ vectorMaxSize := by
    have hle := h.length_le
    simp only [nnCacheFileNumberMax] at hle
    simp only [vectorMaxSize]
    omega
  exact checkCacheInfo_parsed backendID hparse h.fileNumber.symm h.nonempty hmax
    (hc.dump_short info h.length_le)

namespace FileSystem

/-- The directory holds this record of the model. -/
structure Records (codec : JsonCodec) (fs : FileSystem) (cacheDir modelName : String)
    (info : NNCompiledCacheInfo) : Prop where
  read : ∃ content, fs.find? cacheDir (infoFileName modelName) = some content ∧
    codec.parse content = some (cacheInfoJson codec info)
  wellFormed : info.WellFormed

/-- The directory holds nothing that can be read as a record of the model. -/
def Unrecorded (codec : JsonCodec) (fs : FileSystem) (cacheDir modelName : String) : Prop :=
  ∀ content, fs.find? cacheDir (infoFileName modelName) = some content →
    codec.parse content = none

/-- Every file of the model is there, can be mapped and has its checksum. -/
def Matches (fs : FileSystem) (cacheDir modelName : String) (sums : List UInt16) : Prop :=
  ∀ k (h : k < sums.length), ∃ content,
    fs.find? cacheDir (modelFileName modelName k) = some content ∧ content ≠ [] ∧
      getCrc16 content = sums[k]

variable {codec : JsonCodec} {fs : FileSystem} {cacheDir modelName : String}
  {info : NNCompiledCacheInfo} {reader : NNCompiledCache}

theorem cacheDir_ne_of_find? {name : String} {content : Bytes}
    (h : fs.find? cacheDir name = some content) : cacheDir ≠ "" := by
  rintro rfl
  simp [find?, fs.realpath_empty] at h

/-- The file loop over matching files, from the first one on. -/
theorem Matches.restoreFiles (h : fs.Matches cacheDir reader.modelName info.modelCheckSum)
    (mappings : Mappings) :
    ∃ buffers mappings',
      NNCompiledCache.restoreFiles {} reader fs cacheDir info.modelCheckSum 0
        info.modelCheckSum.length [] mappings = .ok (.success, buffers, mappings') := by
  choose content hcontent using h
  have hfiles := @restoreFiles_complete reader fs cacheDir info.modelCheckSum
    (List.ofFn fun k : Fin info.modelCheckSum.length => content k k.isLt) 0 [] mappings
    (fun k hk => by
      rw [List.getElem_ofFn, Nat.zero_add]
      exact (hcontent k (by simpa using hk)).1)
    (fun c hc => by
      obtain ⟨k, rfl⟩ := List.mem_ofFn.mp hc
      exact (hcontent k k.isLt).2.1)
    (fun k hk => by
      have hk' : k < info.modelCheckSum.length := by simpa using hk
      rw [List.getElem_ofFn, Nat.zero_add, (hcontent k hk').2.2, List.getElem?_eq_getElem hk'])
  obtain ⟨buffers, mappings', hrestore, -⟩ := hfiles
  rw [List.length_ofFn] at hrestore
  exact ⟨[] ++ buffers, mappings', hrestore⟩

/-- The file loop succeeds on matching files only. -/
theorem matches_of_restoreFiles {mappings mappings' : Mappings} {buffers : List Buffer}
    (h : NNCompiledCache.restoreFiles {} reader fs cacheDir info.modelCheckSum 0
      info.modelCheckSum.length [] mappings = .ok (.success, buffers, mappings')) :
    fs.Matches cacheDir reader.modelName info.modelCheckSum := by
  obtain ⟨buffers, rfl, hlen, hfiles, hne⟩ := restoreFiles_sound h
  intro k hk
  obtain ⟨hfile, hsum⟩ := hfiles k (by omega)
  rw [Nat.zero_add] at hfile hsum
  rw [List.getElem?_eq_getElem hk] at hsum
  exact ⟨_, hfile, hne _ (List.getElem_mem _), (Option.some.inj hsum).symm⟩

theorem checkCache_success {content : Bytes} {name : String} (hdevice : reader.device.isSome)
    (h : fs.find? cacheDir name = some content) : reader.checkCache cacheDir [] = .success := by
  have hnone : reader.device.isNone = false := by
    cases hd : reader.device with
    | none => simp [hd] at hdevice
    | some reply => rfl
  simp [NNCompiledCache.checkCache, cacheDir_ne_of_find? h, hnone]

/-- **Restore of a record**: the backend decides first, then the version, then
the cache files. -/
theorem Records.restore_eq (hc : codec.Faithful) (h : fs.Records codec cacheDir reader.modelName info)
    (hdevice : reader.device.isSome) (w : UInt32) (mappings : Mappings) :
    reader.restore codec {} fs cacheDir w [] mappings
      = if info.deviceId.toUInt64 ≠ reader.backendID then .ok (.invalidFile, [], mappings)
        else if w.toUInt64.toInt64 > info.version then .ok (.invalidFile, [], mappings)
        else if w.toUInt64.toInt64 < info.version then .ok (.operationForbidden, [], mappings)
        else NNCompiledCache.restoreFiles {} reader fs cacheDir info.modelCheckSum 0
          info.modelCheckSum.length [] mappings := by
  obtain ⟨⟨content, hfind, hparse⟩, hwf⟩ := h
  have hread := hwf.checkCacheInfo_eq hc hparse reader.backendID
  simp only [NNCompiledCache.restore, checkCache_success hdevice hfind, ne_eq, not_true_eq_false,
    if_false, hfind, reduceCtorEq, hread, ok_bind]
  by_cases hid : info.deviceId.toUInt64 = reader.backendID
  · simp only [hid, if_true, not_true_eq_false, if_false, hwf.fileNumber, pure_eq_ok]
  · simp only [hid, if_false, reduceCtorEq, not_false_eq_true, if_true, pure_eq_ok]

/-- **When a restore succeeds** in a directory with a record. -/
theorem Records.restore_success_iff (hc : codec.Faithful)
    (h : fs.Records codec cacheDir reader.modelName info) (hdevice : reader.device.isSome)
    (w : UInt32) (mappings : Mappings) :
    (∃ buffers mappings',
      reader.restore codec {} fs cacheDir w [] mappings = .ok (.success, buffers, mappings')) ↔
      info.deviceId.toUInt64 = reader.backendID ∧ info.version = w.toUInt64.toInt64 ∧
        fs.Matches cacheDir reader.modelName info.modelCheckSum := by
  rw [h.restore_eq hc hdevice w mappings]
  by_cases hid : info.deviceId.toUInt64 = reader.backendID
  · rw [if_neg (not_not_intro hid)]
    by_cases hgt : w.toUInt64.toInt64 > info.version
    · rw [if_pos hgt]
      simp only [Except.ok.injEq, Prod.mk.injEq, reduceCtorEq, false_and, exists_false, false_iff]
      rintro ⟨-, hversion, -⟩
      rw [hversion] at hgt
      exact Int64.lt_irrefl hgt
    rw [if_neg hgt]
    by_cases hlt : w.toUInt64.toInt64 < info.version
    · rw [if_pos hlt]
      simp only [Except.ok.injEq, Prod.mk.injEq, reduceCtorEq, false_and, exists_false, false_iff]
      rintro ⟨-, hversion, -⟩
      rw [hversion] at hlt
      exact Int64.lt_irrefl hlt
    rw [if_neg hlt]
    -- Neither older nor newer: the files decide.
    have hversion : info.version = w.toUInt64.toInt64 :=
      Int64.le_antisymm (Int64.not_lt.mp hlt) (Int64.not_lt.mp hgt)
    constructor
    · rintro ⟨buffers, mappings', hrestore⟩
      exact ⟨hid, hversion, matches_of_restoreFiles hrestore⟩
    · rintro ⟨-, -, hmatches⟩
      exact hmatches.restoreFiles mappings
  · rw [if_pos hid]
    simp only [Except.ok.injEq, Prod.mk.injEq, reduceCtorEq, false_and, exists_false, false_iff]
    exact fun hall => hid hall.1

/-- **No record, no restore**, with or without I/O errors. -/
theorem Unrecorded.restore_fails (io : IoFaults)
    (h : fs.Unrecorded codec cacheDir reader.modelName) (w : UInt32) (mappings : Mappings) :
    ∃ ret, ret ≠ .success ∧
      reader.restore codec io fs cacheDir w [] mappings = .ok (ret, [], mappings) := by
  unfold NNCompiledCache.restore
  by_cases hcheck : reader.checkCache cacheDir [] = .success
  · rw [if_neg (not_not_intro hcheck)]
    dsimp only
    cases hfind : fs.find? cacheDir (infoFileName reader.modelName) with
    | none => exact ⟨.invalidParameter, by decide, rfl⟩
    | some content =>
      cases io.reads (infoFileName reader.modelName) with
      | realpathFails => exact ⟨.invalidParameter, by decide, rfl⟩
      | openFails => exact ⟨.invalidFile, by decide, rfl⟩
      | complete | fstatFails | mmapFails =>
        refine ⟨.invalidFile, by decide, ?_⟩
        simp only [reduceCtorEq, if_false, checkCacheInfo, h content hfind, ok_bind, ne_eq,
          not_false_eq_true, if_true]
        rfl
  · rw [if_pos hcheck]
    exact ⟨_, hcheck, rfl⟩

end FileSystem

/-! ## Reading faults -/

section Faults

variable {codec : JsonCodec} {fs : FileSystem} {cacheDir : String} {store : NNCompiledCache}

/-- Faults turn the file loop into an error and do nothing else. -/
theorem restoreFiles_io (io : IoFaults) (sums : List UInt16) :
    ∀ (n i : Nat) (caches : List Buffer) (mappings : Mappings),
      NNCompiledCache.restoreFiles io store fs cacheDir sums i n caches mappings
          = NNCompiledCache.restoreFiles {} store fs cacheDir sums i n caches mappings ∨
        ∃ ret caches' mappings', ret ≠ .success ∧
          NNCompiledCache.restoreFiles io store fs cacheDir sums i n caches mappings
            = .ok (ret, caches', mappings')
  | 0, _, _, _ => Or.inl rfl
  | n + 1, i, caches, mappings => by
    have hread : NNCompiledCache.readCacheModelFile io fs cacheDir
          (modelFileName store.modelName i) mappings
        = NNCompiledCache.readCacheModelFile {} fs cacheDir (modelFileName store.modelName i) mappings ∨
        ∃ ret, NNCompiledCache.readCacheModelFile io fs cacheDir
          (modelFileName store.modelName i) mappings = .error ret := by
      unfold NNCompiledCache.readCacheModelFile
      cases fs.find? cacheDir (modelFileName store.modelName i) with
      | none => exact Or.inl rfl
      | some content =>
        cases io.reads (modelFileName store.modelName i) with
        | complete => exact Or.inl rfl
        | realpathFails | openFails | fstatFails | mmapFails => exact Or.inr ⟨_, rfl⟩
    unfold NNCompiledCache.restoreFiles
    rcases hread with hread | ⟨ret, hread⟩
    · rw [hread]
      split
      · exact Or.inl rfl
      split
      · exact Or.inl rfl
      split
      · exact Or.inl rfl
      exact restoreFiles_io io sums n (i + 1) _ _
    · rw [hread]
      exact Or.inr ⟨.invalidFile, caches, mappings, by decide, rfl⟩

/-- **Faults turn a restore into an error** and do nothing else. -/
theorem restore_io (io : IoFaults) (w : UInt32) (mappings : Mappings) :
    store.restore codec io fs cacheDir w [] mappings
        = store.restore codec {} fs cacheDir w [] mappings ∨
      ∃ ret buffers mappings', ret ≠ .success ∧
        store.restore codec io fs cacheDir w [] mappings = .ok (ret, buffers, mappings') := by
  unfold NNCompiledCache.restore
  by_cases hcheck : store.checkCache cacheDir [] = .success
  · rw [if_neg (not_not_intro hcheck), if_neg (not_not_intro hcheck)]
    dsimp only
    cases fs.find? cacheDir (infoFileName store.modelName) with
    | none => exact Or.inl rfl
    | some content =>
      cases hread : io.reads (infoFileName store.modelName) with
      | realpathFails => exact Or.inr ⟨_, _, _, by decide, rfl⟩
      | openFails => exact Or.inr ⟨.invalidFile, [], mappings, by decide, rfl⟩
      | complete | fstatFails | mmapFails =>
        simp only [reduceCtorEq, if_false]
        cases checkCacheInfo codec store.backendID (some content) with
        | error fault => exact Or.inl rfl
        | ok result =>
          obtain ⟨ret, info⟩ := result
          simp only [ok_bind]
          split
          · exact Or.inl rfl
          split
          · exact Or.inl rfl
          split
          · exact Or.inl rfl
          exact restoreFiles_io io _ _ _ _ _
  · rw [if_pos hcheck, if_pos hcheck]
    exact Or.inl rfl

end Faults

end NNRt
