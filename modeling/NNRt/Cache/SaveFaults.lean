import NNRt.Cache.RoundTrip

/-!
# Saves that fail

A save writes the cache files in place, one after the other, and the record
last. What it leaves in the directory is described here for every combination
of I/O errors.

- `save_effect`: a save that returns an error has written the files up to the
  one it stopped at; one that returns success has written them all, and then as
  much of the record as reached the disk.
- `restoresOnly_iff`: what a restore over a standing record needs of the files.
- `failedSave_iff`: **a failed save over a saved list is noticed** unless the
  files it left agree with the old checksums.
- `mixed_restored`: two buffers whose words are swapped.
-/

namespace NNRt

/-! ## What a stream leaves -/

/-- The content of the file after the stream is closed. -/
def WriteOutcome.left (outcome : WriteOutcome) (content : Bytes) : Bytes :=
  match outcome with
  | .complete => content
  | .failed written | .lost written => content.take written

/-- What the loop of `GenerateCacheModel` leaves, from the `i`-th file on to the
one it stops at. -/
def leftFiles (io : IoFaults) (modelName : String) (i : Nat) : List Bytes → List (String × Bytes)
  | [] => []
  | cache :: caches =>
    if !io.opens (modelFileName modelName i) then []
    else
      (modelFileName modelName i, (io.writes (modelFileName modelName i)).left cache) ::
        match io.writes (modelFileName modelName i) with
        | .failed _ => []
        | _ => leftFiles io modelName (i + 1) caches

theorem getElem?_leftFiles {io : IoFaults} {modelName : String} {w : String × Bytes} :
    ∀ {i k : Nat} {caches : List Bytes}, (leftFiles io modelName i caches)[k]? = some w →
      ∃ h : k < caches.length, w = (modelFileName modelName (i + k),
        (io.writes (modelFileName modelName (i + k))).left caches[k])
  | i, k, [], h => by simp [leftFiles] at h
  | i, k, cache :: caches, h => by
    rw [leftFiles] at h
    split at h
    · simp at h
    · cases k with
      | zero =>
        rw [List.getElem?_cons_zero] at h
        exact ⟨by simp, (Option.some.inj h).symm⟩
      | succ k =>
        rw [List.getElem?_cons_succ] at h
        split at h
        · simp at h
        · obtain ⟨hk, hw⟩ := getElem?_leftFiles h
          refine ⟨by simpa using hk, ?_⟩
          rw [List.getElem_cons_succ, hw, Nat.add_right_comm, Nat.add_assoc]

theorem leftFiles_names (io : IoFaults) (modelName : String) :
    ∀ (i : Nat) (caches : List Bytes), (leftFiles io modelName i caches).map Prod.fst
      <+: (modelFiles modelName i caches).map Prod.fst
  | _, [] => List.prefix_rfl
  | i, cache :: caches => by
    rw [leftFiles, modelFiles]
    split
    · exact List.nil_prefix
    · rw [List.map_cons, List.map_cons, List.prefix_cons_inj]
      split
      · exact List.nil_prefix
      · exact leftFiles_names io modelName (i + 1) caches

theorem leftFiles_nodup (io : IoFaults) (modelName : String) (i : Nat) (caches : List Bytes) :
    ((leftFiles io modelName i caches).map Prod.fst).Nodup :=
  (leftFiles_names io modelName i caches).sublist.nodup (modelFiles_nodup modelName i caches)

/-- What the `k`-th file holds after the loop. -/
theorem writeAll_leftFiles_model (io : IoFaults) (modelName : String) (caches : List Bytes)
    (d : String → Option Bytes) (k : Nat) :
    Directory.writeAll d (leftFiles io modelName 0 caches) (modelFileName modelName k)
      = match (leftFiles io modelName 0 caches)[k]? with
        | some w => some w.2
        | none => d (modelFileName modelName k) := by
  cases hk : (leftFiles io modelName 0 caches)[k]? with
  | some w =>
    obtain ⟨_, hw⟩ := getElem?_leftFiles hk
    have hname : w.1 = modelFileName modelName k := by rw [hw, Nat.zero_add]
    rw [← hname]
    exact Directory.writeAll_mem (leftFiles_nodup io modelName 0 caches) d
      (List.mem_of_getElem? hk)
  | none =>
    apply Directory.writeAll_other
    intro w hw heq
    obtain ⟨j, hj⟩ := List.getElem?_of_mem hw
    obtain ⟨_, rfl⟩ := getElem?_leftFiles hj
    obtain rfl : 0 + j = k := modelFileName_injective modelName heq
    rw [Nat.zero_add, hj] at hk
    cases hk

/-- No cache file is the record. -/
theorem writeAll_leftFiles_info (io : IoFaults) (modelName other : String) (caches : List Bytes)
    (d : String → Option Bytes) :
    Directory.writeAll d (leftFiles io modelName 0 caches) (infoFileName other)
      = d (infoFileName other) := by
  apply Directory.writeAll_other
  intro w hw heq
  obtain ⟨j, hj⟩ := List.getElem?_of_mem hw
  obtain ⟨_, rfl⟩ := getElem?_leftFiles hj
  exact modelFileName_ne_infoFileName _ _ _ heq

/-- The file loop under any faults. -/
theorem writeCacheModels_left {io : IoFaults} {store : NNCompiledCache} {dir : String}
    {ret : ReturnCode} {sums' : List UInt16} {fs' : FileSystem} :
    ∀ {caches : List Bytes} {fs : FileSystem} {sums : List UInt16} {i : Nat},
      NNCompiledCache.writeCacheModels io store dir fs sums i caches = (ret, sums', fs') →
      fs' = fs.writeAll dir (leftFiles io store.modelName i caches) ∧
        (ret = .success → sums' = sums ++ caches.map getCrc16 ∧
          (leftFiles io store.modelName i caches).length = caches.length)
  | [], fs, sums, i, h => by
    cases h
    exact ⟨rfl, fun _ => ⟨by simp, rfl⟩⟩
  | cache :: caches, fs, sums, i, h => by
    unfold NNCompiledCache.writeCacheModels at h
    rw [leftFiles]
    dsimp only at h
    split at h
    · rename_i hopen
      cases h
      rw [if_pos hopen]
      exact ⟨rfl, fun hret => by cases hret⟩
    rename_i hopen
    rw [if_neg hopen]
    cases hwrite : io.writes (modelFileName store.modelName i) with
    | complete =>
      simp only [hwrite] at h
      obtain ⟨rfl, hsuccess⟩ := writeCacheModels_left h
      refine ⟨rfl, fun hret => ?_⟩
      obtain ⟨rfl, hlen⟩ := hsuccess hret
      exact ⟨by simp, by simp [hlen]⟩
    | lost written =>
      simp only [hwrite] at h
      obtain ⟨rfl, hsuccess⟩ := writeCacheModels_left h
      refine ⟨rfl, fun hret => ?_⟩
      obtain ⟨rfl, hlen⟩ := hsuccess hret
      exact ⟨by simp, by simp [hlen]⟩
    | failed written =>
      simp only [hwrite] at h
      cases h
      exact ⟨rfl, fun hret => by cases hret⟩

/-! ## What a save leaves -/

namespace NNCompiledCache

/-- What a save checks before it opens the first file in the directory `dir`. -/
def Refused (store : NNCompiledCache) (caches : List Bytes) (dir : String) : Prop :=
  caches = [] ∨ caches.length > nnCacheFileNumberMax ∨ store.device = none ∨
    verifyCachePath dir ≠ .success

instance (store : NNCompiledCache) (caches : List Bytes) (dir : String) :
    Decidable (store.Refused caches dir) :=
  inferInstanceAs (Decidable (_ ∨ _))

/-- The cache files a save leaves in the directory `dir`. -/
def filesLeft (io : IoFaults) (store : NNCompiledCache) (caches : List Bytes) (dir : String) :
    List (String × Bytes) :=
  if store.Refused caches dir then [] else leftFiles io store.modelName 0 caches

/-- The record a save leaves, which nobody reads back to check. -/
def infoLeft (codec : JsonCodec) (io : IoFaults) (store : NNCompiledCache) (op : Int32)
    (caches : List Bytes) (version : UInt32) : Bytes :=
  (io.writes (infoFileName store.modelName)).left
    (cacheInfoText codec (savedInfo store op caches version))

/-- How a save ends. -/
inductive SaveEffect (codec : JsonCodec) (io : IoFaults) (store : NNCompiledCache)
    (fs : FileSystem) (caches : List Bytes) (cacheDir dir : String) (version : UInt32) :
    ReturnCode × FileSystem → Prop
  | failed (ret : ReturnCode) (hret : ret ≠ .success) :
    SaveEffect codec io store fs caches cacheDir dir version
      (ret, fs.writeAll dir (store.filesLeft io caches dir))
  | saved (op : Int32) (accepts : SaveAccepts codec store fs caches cacheDir version dir op)
      (all : (store.filesLeft io caches dir).length = caches.length) :
    SaveEffect codec io store fs caches cacheDir dir version
      (.success, (fs.writeAll dir (store.filesLeft io caches dir)).write dir
        (infoFileName store.modelName) (store.infoLeft codec io op caches version))

variable {codec : JsonCodec} {io : IoFaults} {store : NNCompiledCache} {fs : FileSystem}
  {caches : List Bytes} {cacheDir dir : String} {version : UInt32}

theorem filesLeft_refused (h : store.Refused caches dir) : store.filesLeft io caches dir = [] :=
  if_pos h

/-- `GenerateCacheModel` once it has come to the files: they stay whatever goes wrong later. -/
theorem generateCacheModel_written {reply : OpVersionReply} {ret code : ReturnCode}
    {info : NNCompiledCacheInfo} {fs₁ fs' : FileSystem} {sums : List UInt16}
    (hcount : ¬ (caches.length = 0 ∨ caches.length > nnCacheFileNumberMax))
    (hdir : fs.realpath cacheDir = some dir) (hverify : verifyCachePath dir = .success)
    (hwrite : writeCacheModels io store dir fs [] 0 caches = (code, sums, fs₁))
    (h : generateCacheModel codec io store reply fs caches cacheDir version = (ret, info, fs')) :
    fs' = fs₁ ∧ (ret = .success → code = .success ∧ reply.code = .success ∧
      info = { savedInfo store reply.currentOpVersion caches version with modelCheckSum := sums } ∧
      strncpySucceeds (codec.dump (cacheInfoData info)).length) := by
  unfold generateCacheModel at h
  dsimp only at h
  rw [if_neg hcount, hdir] at h
  dsimp only at h
  rw [if_neg (not_not_intro hverify), hwrite] at h
  cases code with
  | success =>
    dsimp only at h
    split at h
    · rename_i hreply
      cases h
      exact ⟨rfl, fun hret => absurd hret hreply⟩
    rename_i hreply
    generalize hlimit : (if store.isExceedRamLimit = true then 1 else 0 : Int64) = limit at h
    split at h
    · cases h
      exact ⟨rfl, nofun⟩
    · rename_i hdump
      cases h
      subst hlimit
      exact ⟨rfl, fun _ => ⟨rfl, not_ne_iff.mp hreply, rfl, by simpa using hdump⟩⟩
  | _ =>
    cases h
    exact ⟨rfl, nofun⟩

/-- `GenerateCacheModel` under any faults. -/
theorem generateCacheModel_left {reply : OpVersionReply} {ret : ReturnCode}
    {info : NNCompiledCacheInfo} {fs' : FileSystem} (hdir : fs.realpath cacheDir = some dir)
    (hne : caches ≠ []) (hdevice : store.device = some reply)
    (h : generateCacheModel codec io store reply fs caches cacheDir version = (ret, info, fs')) :
    fs' = fs.writeAll dir (store.filesLeft io caches dir) ∧
      (ret = .success → ∃ op, SaveAccepts codec store fs caches cacheDir version dir op ∧
        info = savedInfo store op caches version ∧
        (store.filesLeft io caches dir).length = caches.length) := by
  by_cases hcount : caches.length = 0 ∨ caches.length > nnCacheFileNumberMax
  · have hrefused : store.Refused caches dir := by
      rcases hcount with h0 | hgt
      · exact Or.inl (List.length_eq_zero_iff.mp h0)
      · exact Or.inr (Or.inl hgt)
    unfold generateCacheModel at h
    dsimp only at h
    rw [if_pos hcount] at h
    cases h
    rw [filesLeft_refused hrefused]
    exact ⟨rfl, nofun⟩
  by_cases hverify : verifyCachePath dir = .success
  · have hnot : ¬ store.Refused caches dir := by
      rintro (hnil | hgt | hnone | hpath)
      · exact hne hnil
      · exact hcount (Or.inr hgt)
      · rw [hdevice] at hnone
        cases hnone
      · exact hpath hverify
    have hfiles : store.filesLeft io caches dir = leftFiles io store.modelName 0 caches :=
      if_neg hnot
    rcases hwrite : writeCacheModels io store dir fs [] 0 caches with ⟨code, sums, fs₁⟩
    obtain ⟨hleft, hsuccess⟩ := generateCacheModel_written hcount hdir hverify hwrite h
    obtain ⟨rfl, hall⟩ := writeCacheModels_left hwrite
    rw [hfiles]
    refine ⟨hleft, fun hret => ?_⟩
    obtain ⟨rfl, hreply, rfl, hdump⟩ := hsuccess hret
    obtain ⟨rfl, hlen⟩ := hall rfl
    rw [List.nil_append] at hdump ⊢
    obtain ⟨code, op⟩ := reply
    obtain rfl : code = .success := hreply
    exact ⟨op, ⟨hne, by omega, hdevice, hdir, hverify, hdump⟩, rfl, hlen⟩
  · unfold generateCacheModel at h
    dsimp only at h
    rw [if_neg hcount, hdir] at h
    dsimp only at h
    rw [if_pos hverify] at h
    cases h
    rw [filesLeft_refused (Or.inr (Or.inr (Or.inr hverify)))]
    exact ⟨rfl, fun hret => absurd hret hverify⟩

/-- **How a save ends**, under any faults. -/
theorem save_effect (hdir : fs.realpath cacheDir = some dir) :
    SaveEffect codec io store fs caches cacheDir dir version
      (store.save codec io fs caches cacheDir version) := by
  unfold save
  by_cases hempty : caches = []
  · have h := @SaveEffect.failed codec io store fs caches cacheDir dir version .invalidParameter
      (by decide)
    rw [filesLeft_refused (Or.inl hempty)] at h
    rw [if_pos (by simp [hempty])]
    exact h
  rw [if_neg (by simpa using hempty)]
  cases hdevice : store.device with
  | none =>
    have h := @SaveEffect.failed codec io store fs caches cacheDir dir version .invalidParameter
      (by decide)
    rw [filesLeft_refused (Or.inr (Or.inr (Or.inl hdevice)))] at h
    exact h
  | some reply =>
    dsimp only
    unfold generateCacheFiles
    rcases hgenerate : generateCacheModel codec io store reply fs caches cacheDir version with
      ⟨ret, info, fs₁⟩
    obtain ⟨rfl, hsuccess⟩ := generateCacheModel_left hdir hempty hdevice hgenerate
    by_cases hret : ret = .success
    · subst hret
      obtain ⟨op, haccepts, rfl, hall⟩ := hsuccess rfl
      dsimp only
      unfold writeCacheInfo
      rw [FileSystem.writeAll_realpath, hdir]
      dsimp only
      rw [if_neg (not_not_intro haccepts.verified)]
      by_cases hopen : io.opens (infoFileName store.modelName)
      · rw [if_neg (by simp [hopen])]
        have h := @SaveEffect.saved codec io store fs caches cacheDir dir version op haccepts hall
        unfold infoLeft at h
        cases hwrite : io.writes (infoFileName store.modelName) with
        | complete => rwa [hwrite] at h
        | failed written => rwa [hwrite] at h
        | lost written => rwa [hwrite] at h
      · rw [if_pos (by simp [hopen])]
        exact .failed _ (by decide)
    · have h := @SaveEffect.failed codec io store fs caches cacheDir dir version ret hret
      cases ret <;> first | exact h | exact absurd rfl hret

/-- The stream on a file reports no error. -/
def Unnoticed (io : IoFaults) (name : String) : Prop :=
  io.opens name = true ∧ ∀ written, io.writes name ≠ .failed written

/-- No stream reports an error before the record is written. -/
structure ReachesRecord (io : IoFaults) (store : NNCompiledCache) (caches : List Bytes) : Prop where
  files : ∀ k < caches.length, Unnoticed io (modelFileName store.modelName k)
  record : io.opens (infoFileName store.modelName) = true

theorem writeCacheModels_success_iff {sums : List UInt16} {i : Nat} :
    (writeCacheModels io store dir fs sums i caches).1 = .success ↔
      ∀ k < caches.length, Unnoticed io (modelFileName store.modelName (i + k)) := by
  induction caches generalizing fs sums i with
  | nil => exact iff_of_true rfl fun k hk => absurd hk (Nat.not_lt_zero k)
  | cons cache caches ih =>
    rw [List.length_cons, Nat.forall_lt_succ_left, Nat.add_zero]
    have hrest : (∀ k < caches.length, Unnoticed io (modelFileName store.modelName (i + (k + 1)))) ↔
        ∀ k < caches.length, Unnoticed io (modelFileName store.modelName (i + 1 + k)) := by
      simp only [Nat.add_assoc, Nat.add_comm 1]
    rw [hrest]
    unfold writeCacheModels
    dsimp only
    by_cases hopen : io.opens (modelFileName store.modelName i) = true
    · rw [if_neg (by simp [hopen])]
      cases hwrite : io.writes (modelFileName store.modelName i) with
      | complete =>
        exact ih.trans (iff_and_self.mpr fun _ =>
          ⟨hopen, fun written h => by cases hwrite.symm.trans h⟩)
      | lost written =>
        exact ih.trans (iff_and_self.mpr fun _ =>
          ⟨hopen, fun written h => by cases hwrite.symm.trans h⟩)
      | failed written =>
        exact iff_of_false (fun h => by cases h) fun h => h.1.2 written hwrite
    · rw [if_pos (by simpa using hopen)]
      exact iff_of_false (fun h => by cases h) fun h => hopen h.1.1

/-- A save that is accepted reports success unless a stream reports an error. -/
theorem save_success_of_accepts {op : Int32}
    (h : SaveAccepts codec store fs caches cacheDir version dir op) :
    (store.save codec io fs caches cacheDir version).1 = .success ↔
      ReachesRecord io store caches := by
  have hempty : ¬ caches.isEmpty = true := by simpa using h.nonempty
  have hcount : ¬ (caches.length = 0 ∨ caches.length > nnCacheFileNumberMax) := by
    rintro (h0 | hgt)
    · exact h.nonempty (List.length_eq_zero_iff.mp h0)
    · exact absurd h.length_le (Nat.not_le.mpr hgt)
  have hmodels : (writeCacheModels io store dir fs [] 0 caches).1 = .success ↔
      ∀ k < caches.length, Unnoticed io (modelFileName store.modelName k) := by
    simpa only [Nat.zero_add] using @writeCacheModels_success_iff io store fs caches dir [] 0
  unfold save
  rw [if_neg hempty, h.device]
  dsimp only
  unfold generateCacheFiles generateCacheModel
  dsimp only
  rw [if_neg hcount, h.realpath]
  dsimp only
  rw [if_neg (not_not_intro h.verified)]
  rcases hwrite : writeCacheModels io store dir fs [] 0 caches with ⟨code, sums, fs₁⟩
  obtain ⟨rfl, hall⟩ := writeCacheModels_left hwrite
  rw [hwrite] at hmodels
  by_cases hcode : code = .success
  · subst hcode
    obtain ⟨rfl, -⟩ := hall rfl
    have hdump := h.strncpy
    unfold savedInfo at hdump
    dsimp only
    rw [if_neg (not_not_intro rfl), List.nil_append, if_neg (by simpa using hdump)]
    dsimp only
    unfold writeCacheInfo
    rw [FileSystem.writeAll_realpath, h.realpath]
    dsimp only
    rw [if_neg (not_not_intro h.verified)]
    by_cases hopen : io.opens (infoFileName store.modelName) = true
    · rw [if_neg (by simp [hopen])]
      refine iff_of_true ?_ ⟨hmodels.mp rfl, hopen⟩
      cases io.writes (infoFileName store.modelName) <;> rfl
    · rw [if_pos (by simpa using hopen)]
      exact iff_of_false nofun fun hreaches => hopen hreaches.record
  · refine iff_of_false ?_ fun hreaches => hcode (hmodels.mpr hreaches.files)
    cases code <;> first | exact hcode | exact absurd rfl hcode

/-- **When a save reports success**: it is accepted, and no stream has reported an error. -/
theorem save_success_iff (hdir : fs.realpath cacheDir = some dir) :
    (store.save codec io fs caches cacheDir version).1 = .success ↔
      (∃ op, SaveAccepts codec store fs caches cacheDir version dir op) ∧
        ReachesRecord io store caches := by
  constructor
  · intro h
    have haccepts : ∃ op, SaveAccepts codec store fs caches cacheDir version dir op := by
      have heffect := @save_effect codec io store fs caches cacheDir dir version hdir
      generalize store.save codec io fs caches cacheDir version = result at h heffect
      cases heffect with
      | failed ret hret => exact absurd h hret
      | saved op accepts all => exact ⟨op, accepts⟩
    obtain ⟨op, haccepts⟩ := haccepts
    exact ⟨⟨op, haccepts⟩, (save_success_of_accepts haccepts).mp h⟩
  · rintro ⟨⟨op, haccepts⟩, hreaches⟩
    exact (save_success_of_accepts haccepts).mpr hreaches

/-- The error on the stream of the record that nobody notices: its text ends
before the last brace. -/
def RecordCut (codec : JsonCodec) (io : IoFaults) (store : NNCompiledCache) (op : Int32)
    (caches : List Bytes) (version : UInt32) : Prop :=
  ∃ written, (io.writes (infoFileName store.modelName) = .failed written ∨
      io.writes (infoFileName store.modelName) = .lost written) ∧
    written < (codec.dump (cacheInfoJson codec (savedInfo store op caches version))).length

/-- What can be read of the record a save leaves. -/
theorem parse_infoLeft (hc : codec.Faithful) (hs : codec.Strict) (op : Int32) :
    (store.RecordCut codec io op caches version ∧
        codec.parse (store.infoLeft codec io op caches version) = none) ∨
      (¬ store.RecordCut codec io op caches version ∧
        codec.parse (store.infoLeft codec io op caches version)
          = some (cacheInfoJson codec (savedInfo store op caches version))) := by
  unfold RecordCut infoLeft
  cases hwrite : io.writes (infoFileName store.modelName) with
  | complete =>
    refine Or.inr ⟨?_, hc.parse_dump _⟩
    rintro ⟨written, hcut | hcut, -⟩ <;> cases hcut
  | failed written | lost written =>
    by_cases hcut : written
        < (codec.dump (cacheInfoJson codec (savedInfo store op caches version))).length
    · refine Or.inl ⟨⟨written, by simp, hcut⟩, ?_⟩
      exact (parse_take_cacheInfoText hc hs _ written).trans (if_pos hcut)
    · refine Or.inr ⟨?_, (parse_take_cacheInfoText hc hs _ written).trans (if_neg hcut)⟩
      rintro ⟨other, hother | hother, hlt⟩ <;> cases hother
      exact hcut hlt

end NNCompiledCache

/-! ## A failed save over a saved list -/

section FailedSave

variable {codec : JsonCodec} {io : IoFaults} {store₀ store₁ reader : NNCompiledCache}
  {fs fs₀ : FileSystem} {caches₀ caches₁ : List Bytes} {cacheDir dir : String}
  {version₀ version₁ : UInt32}

/-- The save returns an error, or its record does not reach the disk. -/
def SaveFails (codec : JsonCodec) (io : IoFaults) (store : NNCompiledCache) (fs : FileSystem)
    (caches : List Bytes) (cacheDir : String) (version : UInt32) : Prop :=
  (store.save codec io fs caches cacheDir version).1 ≠ .success ∨
    ∃ op, store.device = some ⟨.success, op⟩ ∧ store.RecordCut codec io op caches version

/-- Only the record does not reach the disk: the save is accepted, no stream reports an error
before, and its text is cut off. -/
def CutsRecord (codec : JsonCodec) (io : IoFaults) (store : NNCompiledCache) (fs : FileSystem)
    (caches : List Bytes) (cacheDir dir : String) (version : UInt32) : Prop :=
  NNCompiledCache.ReachesRecord io store caches ∧
    ∃ op, SaveAccepts codec store fs caches cacheDir version dir op ∧
      store.RecordCut codec io op caches version

/-- A save that fails reports success exactly if only its record is cut off. -/
theorem SaveFails.success_iff {store : NNCompiledCache} {caches : List Bytes} {version : UInt32}
    (hdir : fs.realpath cacheDir = some dir)
    (h : SaveFails codec io store fs caches cacheDir version) :
    (store.save codec io fs caches cacheDir version).1 = .success ↔
      CutsRecord codec io store fs caches cacheDir dir version := by
  rw [NNCompiledCache.save_success_iff hdir]
  constructor
  · rintro ⟨⟨op, haccepts⟩, hreaches⟩
    rcases h with hret | ⟨op', hdevice, hcut⟩
    · exact absurd ((NNCompiledCache.save_success_of_accepts haccepts).mpr hreaches) hret
    · rw [haccepts.device] at hdevice
      cases hdevice
      exact ⟨hreaches, op, haccepts, hcut⟩
  · rintro ⟨hreaches, op, haccepts, -⟩
    exact ⟨⟨op, haccepts⟩, hreaches⟩

/-- What file `k` of a saved list holds after other files have been written. -/
def contentAfter (files : List (String × Bytes)) (caches : List Bytes) (k : Nat) :
    Option Bytes :=
  match files[k]? with
  | some w => some w.2
  | none => caches[k]?

theorem isSome_contentAfter (files : List (String × Bytes)) {caches : List Bytes} {k : Nat}
    (hk : k < caches.length) : (contentAfter files caches k).isSome := by
  unfold contentAfter
  split
  · rfl
  · rw [List.getElem?_eq_getElem hk]
    rfl

/-- A restore answers with an error or with exactly these buffers, whatever
happens while it reads. -/
def RestoresOnly (codec : JsonCodec) (reader : NNCompiledCache) (fs : FileSystem)
    (cacheDir : String) (version : UInt32) (caches : List Bytes) : Prop :=
  ∀ io mappings, ∃ ret buffers mappings',
    reader.restore codec io fs cacheDir version [] mappings = .ok (ret, buffers, mappings') ∧
      (ret = .success → buffers.map Buffer.data = caches)

/-- The file the failed save leaves, or the one of the first save. -/
theorem find?_filesLeft (hdir : fs₀.realpath cacheDir = some dir)
    (hname : store₁.modelName = store₀.modelName)
    (hfiles : ∀ k (h : k < caches₀.length),
      fs₀.find? cacheDir (modelFileName store₀.modelName k) = some caches₀[k])
    {k : Nat} (hk : k < caches₀.length) :
    (fs₀.writeAll dir (store₁.filesLeft io caches₁ dir)).find? cacheDir
        (modelFileName store₀.modelName k)
      = contentAfter (store₁.filesLeft io caches₁ dir) caches₀ k := by
  have hold := hfiles k hk
  rw [FileSystem.find?_eq hdir] at hold
  rw [FileSystem.find?_eq (by rw [FileSystem.writeAll_realpath]; exact hdir),
    FileSystem.writeAll_files]
  unfold NNCompiledCache.filesLeft contentAfter
  split
  · rw [Directory.writeAll_nil, hold, List.getElem?_nil, List.getElem?_eq_getElem hk]
  · rw [← hname, writeAll_leftFiles_model, hname, hold, List.getElem?_eq_getElem hk]

/-- Files that do not match the checksums of a list. -/
theorem not_matches_iff {modelName : String} {content : Nat → Option Bytes}
    (h : ∀ k < caches₀.length,
      fs.find? cacheDir (modelFileName modelName k) = content k ∧ (content k).isSome) :
    ¬ fs.Matches cacheDir modelName (caches₀.map getCrc16) ↔
      ∃ k < caches₀.length, content k = some [] ∨
        (content k).map getCrc16 ≠ caches₀[k]?.map getCrc16 := by
  constructor
  · intro hnot
    by_contra hall
    apply hnot
    intro k hk
    have hk' : k < caches₀.length := by simpa using hk
    obtain ⟨hfind, hsome⟩ := h k hk'
    obtain ⟨bytes, hbytes⟩ := Option.isSome_iff_exists.mp hsome
    refine ⟨bytes, hfind.trans hbytes, ?_, ?_⟩
    · rintro rfl
      exact hall ⟨k, hk', Or.inl hbytes⟩
    · by_contra hne
      refine hall ⟨k, hk', Or.inr ?_⟩
      rw [hbytes, List.getElem?_eq_getElem hk', Option.map_some, Option.map_some]
      intro heq
      rw [List.getElem_map] at hne
      exact hne (Option.some.inj heq)
  · rintro ⟨k, hk, hbad⟩ hmatches
    obtain ⟨bytes, hfind, hne, hcrc⟩ := hmatches k (by simpa using hk)
    rw [(h k hk).1] at hfind
    rcases hbad with hempty | hsum
    · rw [hempty] at hfind
      exact hne (Option.some.inj hfind).symm
    · apply hsum
      rw [hfind, List.getElem?_eq_getElem hk, Option.map_some, Option.map_some, hcrc,
        List.getElem_map]

/-- What a restore over a standing record needs of the files. -/
theorem restoresOnly_iff {info : NNCompiledCacheInfo} (hc : codec.Faithful)
    (hrecords : fs.Records codec cacheDir reader.modelName info) (hdevice : reader.device.isSome)
    (hbackend : info.deviceId.toUInt64 = reader.backendID)
    (hversion : info.version = version₀.toUInt64.toInt64)
    (hsums : info.modelCheckSum = caches₀.map getCrc16) :
    RestoresOnly codec reader fs cacheDir version₀ caches₀ ↔
      ¬ fs.Matches cacheDir reader.modelName info.modelCheckSum ∨
      ∀ k (h : k < caches₀.length),
        fs.find? cacheDir (modelFileName reader.modelName k) = some caches₀[k] := by
  have hlen : info.modelCheckSum.length = caches₀.length := by rw [hsums, List.length_map]
  have hrestore : ∀ mappings, reader.restore codec {} fs cacheDir version₀ [] mappings
      = NNCompiledCache.restoreFiles {} reader fs cacheDir info.modelCheckSum 0
        info.modelCheckSum.length [] mappings := by
    intro mappings
    rw [hrecords.restore_eq hc hdevice, if_neg (not_not_intro hbackend), hversion,
      if_neg Int64.lt_irrefl, if_neg Int64.lt_irrefl]
  constructor
  · -- Files that match are restored without I/O errors, and must then be the right ones.
    intro hrestores
    by_cases hmatches : fs.Matches cacheDir reader.modelName info.modelCheckSum
    · right
      intro k hk
      obtain ⟨ret, buffers, mappings', heq, honly⟩ := hrestores {} []
      obtain ⟨buffers', mappings'', hfiles⟩ := hmatches.restoreFiles []
      rw [hrestore, hfiles] at heq
      cases heq
      have hdata := honly rfl
      obtain ⟨buffers, rfl, -, hsound, -⟩ := restoreFiles_sound hfiles
      have hk' : k < buffers.length := by
        rw [← hdata] at hk
        simpa using hk
      have hfile := (hsound k hk').1
      rw [Nat.zero_add] at hfile
      rw [hfile]
      congr 1
      simp [← hdata]
    · exact Or.inl hmatches
  · intro hfiles io mappings
    rcases @restore_io codec fs cacheDir reader io version₀ mappings with heq | ⟨ret, buffers, mappings', hret, heq⟩
    · obtain ⟨ret, buffers, mappings', htotal⟩ := @restoreFiles_total {} reader fs cacheDir
        info.modelCheckSum info.modelCheckSum.length 0 [] mappings (by omega)
      refine ⟨ret, buffers, mappings', by rw [heq, hrestore, htotal], ?_⟩
      rintro rfl
      rcases hfiles with hnot | hfiles
      · exact absurd (FileSystem.matches_of_restoreFiles htotal) hnot
      · obtain ⟨buffers, rfl, hcount, hsound, -⟩ := restoreFiles_sound htotal
        apply List.ext_getElem
        · simp [hcount, hlen]
        · intro k hk hk'
          have hk'' : k < buffers.length := by simpa using hk
          have hfile := (hsound k hk'').1
          rw [Nat.zero_add, hfiles k hk'] at hfile
          simp [Option.some.inj hfile]
    · exact ⟨ret, buffers, mappings', heq, fun h => absurd h hret⟩

/-- A record that is cut off leaves nothing to restore from. -/
theorem restoresOnly_of_recordCut (hc : codec.Faithful) (hs : codec.Strict) {op : Int32}
    (hdir : fs₀.realpath cacheDir = some dir) (hname : reader.modelName = store₁.modelName)
    (hcut : store₁.RecordCut codec io op caches₁ version₁) :
    RestoresOnly codec reader ((fs₀.writeAll dir (store₁.filesLeft io caches₁ dir)).write dir
      (infoFileName store₁.modelName) (store₁.infoLeft codec io op caches₁ version₁)) cacheDir
        version₀ caches₀ := by
  have hunrecorded : ((fs₀.writeAll dir (store₁.filesLeft io caches₁ dir)).write dir
      (infoFileName store₁.modelName) (store₁.infoLeft codec io op caches₁ version₁)).Unrecorded
      codec cacheDir reader.modelName := by
    intro content hcontent
    rw [FileSystem.find?_eq (by simpa using hdir), hname, FileSystem.write_files,
      Directory.write_self] at hcontent
    cases hcontent
    rcases @NNCompiledCache.parse_infoLeft codec io store₁ caches₁ version₁ hc hs op with
      ⟨-, hparse⟩ | ⟨hnot, -⟩
    · exact hparse
    · exact absurd hcut hnot
  intro io' mappings
  obtain ⟨ret, hret, heq⟩ := hunrecorded.restore_fails io' version₀ mappings
  exact ⟨ret, _, _, heq, fun h => absurd h hret⟩

/-- Under the record of a saved list, what a restore needs of the files that were written later. -/
theorem restoresOnly_filesLeft_iff (hc : codec.Faithful) {op₀ : Int32}
    (haccepts : SaveAccepts codec store₀ fs caches₀ cacheDir version₀ dir op₀)
    (hname : store₁.modelName = store₀.modelName) (hdevice : reader.device.isSome)
    (hreader : reader.modelName = store₀.modelName) (hbackend : reader.backendID = store₀.backendID) :
    RestoresOnly codec reader ((fs.writeAll dir (savedFiles codec store₀ op₀ caches₀ version₀)).writeAll
        dir (store₁.filesLeft io caches₁ dir)) cacheDir version₀ caches₀ ↔
      (∃ k < caches₀.length, contentAfter (store₁.filesLeft io caches₁ dir) caches₀ k = some [] ∨
        (contentAfter (store₁.filesLeft io caches₁ dir) caches₀ k).map getCrc16
          ≠ caches₀[k]?.map getCrc16) ∨
      ∀ k < caches₀.length,
        contentAfter (store₁.filesLeft io caches₁ dir) caches₀ k = caches₀[k]? := by
  have hdir := haccepts.realpath
  have hdir₀ : (fs.writeAll dir (savedFiles codec store₀ op₀ caches₀ version₀)).realpath cacheDir
      = some dir := by
    rw [FileSystem.writeAll_realpath]
    exact hdir
  -- The later files are no record.
  have hinfo : ((fs.writeAll dir (savedFiles codec store₀ op₀ caches₀ version₀)).writeAll dir
      (store₁.filesLeft io caches₁ dir)).find? cacheDir (infoFileName reader.modelName)
      = some (cacheInfoText codec (savedInfo store₀ op₀ caches₀ version₀)) := by
    rw [hreader, ← haccepts.find?_info, FileSystem.find?_eq (by simpa using hdir),
      FileSystem.find?_eq hdir₀, FileSystem.writeAll_files]
    unfold NNCompiledCache.filesLeft
    split
    · rfl
    · exact writeAll_leftFiles_info io _ _ _ _
  have hrecords : FileSystem.Records codec _ cacheDir reader.modelName
      (savedInfo store₀ op₀ caches₀ version₀) :=
    ⟨⟨_, hinfo, hc.parse_dump _⟩, haccepts.wellFormed⟩
  have hcontent := fun k (hk : k < caches₀.length) => @find?_filesLeft io store₀ store₁ _ caches₀
    caches₁ cacheDir dir hdir₀ hname (fun k hk => haccepts.find?_model hk) k hk
  rw [restoresOnly_iff hc hrecords hdevice (by rw [savedInfo_deviceId, hbackend]) rfl rfl]
  refine or_congr ?_ ?_
  · rw [hreader]
    exact not_matches_iff fun k hk => ⟨hcontent k hk, isSome_contentAfter _ hk⟩
  · rw [hreader]
    constructor
    · intro hfiles k hk
      rw [← hcontent k hk, hfiles k hk, List.getElem?_eq_getElem hk]
    · intro hfiles k hk
      rw [hcontent k hk, hfiles k hk, List.getElem?_eq_getElem hk]

/-- **A failed save over a saved list.** Whatever fails, and whenever, a restore
of the old version answers with an error or with exactly the old buffers if and
only if only the record of the save is cut off, or some file of the old list is
left empty or with another checksum, or all of them are left as they were. -/
theorem failedSave_iff (hc : codec.Faithful) (hs : codec.Strict)
    (hdir : fs.realpath cacheDir = some dir)
    (hsave : store₀.save codec {} fs caches₀ cacheDir version₀ = (.success, fs₀))
    (hname : store₁.modelName = store₀.modelName)
    (hfails : SaveFails codec io store₁ fs₀ caches₁ cacheDir version₁)
    (hdevice : reader.device.isSome) (hreader : reader.modelName = store₀.modelName)
    (hbackend : reader.backendID = store₀.backendID) :
    RestoresOnly codec reader (store₁.save codec io fs₀ caches₁ cacheDir version₁).2 cacheDir
        version₀ caches₀ ↔
      CutsRecord codec io store₁ fs₀ caches₁ cacheDir dir version₁ ∨
      (∃ k < caches₀.length, contentAfter (store₁.filesLeft io caches₁ dir) caches₀ k = some [] ∨
        (contentAfter (store₁.filesLeft io caches₁ dir) caches₀ k).map getCrc16
          ≠ caches₀[k]?.map getCrc16) ∨
      ∀ k < caches₀.length,
        contentAfter (store₁.filesLeft io caches₁ dir) caches₀ k = caches₀[k]? := by
  obtain ⟨dir', op₀, haccepts, rfl⟩ := save_eq_success_iff.mp hsave
  obtain rfl : dir' = dir := by
    have hrealpath := haccepts.realpath
    rw [hdir] at hrealpath
    exact (Option.some.inj hrealpath).symm
  have hdir₀ : (fs.writeAll dir' (savedFiles codec store₀ op₀ caches₀ version₀)).realpath cacheDir
      = some dir' := by
    rw [FileSystem.writeAll_realpath]
    exact hdir
  have hsuccess := hfails.success_iff hdir₀
  have heffect := @NNCompiledCache.save_effect codec io store₁ _ caches₁ cacheDir dir' version₁ hdir₀
  generalize store₁.save codec io
    (fs.writeAll dir' (savedFiles codec store₀ op₀ caches₀ version₀)) caches₁ cacheDir version₁
    = result at heffect hsuccess ⊢
  cases heffect with
  | saved op haccepts₁ hall =>
    have hcuts := hsuccess.mp rfl
    refine iff_of_true ?_ (Or.inl hcuts)
    obtain ⟨-, op', haccepts', hcut⟩ := hcuts
    have hdevices := haccepts₁.device.symm.trans haccepts'.device
    cases hdevices
    exact restoresOnly_of_recordCut hc hs hdir₀ (hreader.trans hname.symm) hcut
  | failed ret hret =>
    rw [or_iff_right fun hcuts => hret (hsuccess.mpr hcuts)]
    exact restoresOnly_filesLeft_iff hc haccepts hname hdevice hreader hbackend

end FailedSave

/-! ## A mixture

A list of two buffers is saved over another one and the second file cannot be
opened. The first new buffer has the words of the first old one in another
order. -/

/-- The store of model `m` on one device. -/
def mixedStore : NNCompiledCache where
  backendID := 1
  modelName := "m"
  device := some ⟨.success, 3⟩

/-- File `m1.nncache` cannot be opened for writing. -/
def secondFileFails : IoFaults where
  opens name := name ≠ "m1.nncache"

/-- The order of the words does not change the checksum. -/
theorem getCrc16_eq_of_sumWords {a b : Bytes} (ha : a.length < maxCacheSize)
    (hb : b.length < maxCacheSize) (h : sumWords 0 a = sumWords 0 b) : getCrc16 a = getCrc16 b := by
  rw [getCrc16, getCrc16, dif_pos ha, dif_pos hb, h]

theorem saveAccepts_mixed (caches : List Bytes) (hne : caches ≠ [])
    (hle : caches.length ≤ nnCacheFileNumberMax) :
    SaveAccepts JsonCodec.compact mixedStore (FileSystem.single "/data" (by decide)) caches "/data" 5
      "/data" 3 :=
  ⟨hne, hle, rfl, rfl, by decide, compact_faithful.dump_short _ (by simpa [savedInfo] using hle)⟩

/-- The second save stops at the second file. -/
theorem failedSave_mixed {fs : FileSystem} (hdir : fs.realpath "/data" = some "/data")
    (first second : Bytes) (version : UInt32) :
    mixedStore.save JsonCodec.compact secondFileFails fs [first, second] "/data" version
      = (.invalidParameter, fs.write "/data" (modelFileName "m" 0) first) := by
  have hverify : verifyCachePath "/data" = .success := by decide
  have hnames : modelFileName "m" 0 ≠ "m1.nncache" ∧ modelFileName "m" 1 = "m1.nncache" := by
    decide
  simp [NNCompiledCache.save, NNCompiledCache.generateCacheFiles,
    NNCompiledCache.generateCacheModel, NNCompiledCache.writeCacheModels, mixedStore, hdir, hverify,
    hnames, nnCacheFileNumberMax, secondFileFails]

/-- The directory after the first save. -/
def mixedSaved : FileSystem :=
  (FileSystem.single "/data" dataDir_ne).writeAll "/data"
    (savedFiles JsonCodec.compact mixedStore 3 [[1, 0, 2, 0], [5]] 5)

theorem realpath_mixedSaved : mixedSaved.realpath "/data" = some "/data" := by
  rw [mixedSaved, FileSystem.writeAll_realpath]
  rfl

/-- The restore under the old version answers with one buffer of each list. -/
theorem mixed_restored :
    ∃ buffers mappings',
      mixedStore.save JsonCodec.compact {} (FileSystem.single "/data" (by decide))
        [[1, 0, 2, 0], [5]] "/data" 5 = (.success, mixedSaved) ∧
      (mixedStore.save JsonCodec.compact secondFileFails mixedSaved [[2, 0, 1, 0], [6]] "/data" 6).1
        = .invalidParameter ∧
      mixedStore.restore JsonCodec.compact {}
          (mixedStore.save JsonCodec.compact secondFileFails mixedSaved [[2, 0, 1, 0], [6]]
            "/data" 6).2 "/data" 5 [] []
        = .ok (.success, buffers, mappings') ∧
      buffers.map Buffer.data = [[2, 0, 1, 0], [5]] := by
  have haccepts := saveAccepts_mixed [[1, 0, 2, 0], [5]] (by simp) (by decide)
  have hother : ∀ name, name ≠ modelFileName "m" 0 →
      (mixedSaved.write "/data" (modelFileName "m" 0) [2, 0, 1, 0]).find? "/data" name
      = mixedSaved.find? "/data" name := by
    intro name hname
    rw [FileSystem.find?_eq realpath_mixedSaved,
      FileSystem.find?_eq (by rw [FileSystem.write_realpath]; exact realpath_mixedSaved),
      FileSystem.write_files, Directory.write_other _ _ hname]
  have hrecords : (mixedSaved.write "/data" (modelFileName "m" 0) [2, 0, 1, 0]).Records
      JsonCodec.compact "/data" mixedStore.modelName
      (savedInfo mixedStore 3 [[1, 0, 2, 0], [5]] 5) := by
    refine ⟨⟨_, ?_, compact_faithful.parse_dump _⟩, haccepts.wellFormed⟩
    exact (hother _ (modelFileName_ne_infoFileName _ _ _).symm).trans haccepts.find?_info
  have hcrc : getCrc16 [1, 0, 2, 0] = getCrc16 [2, 0, 1, 0] :=
    getCrc16_eq_of_sumWords (by decide) (by decide) (by decide)
  have hfile : ∀ k (h : k < ([[2, 0, 1, 0], [5]] : List Bytes).length),
      (mixedSaved.write "/data" (modelFileName "m" 0) [2, 0, 1, 0]).find? "/data"
        (modelFileName "m" (0 + k)) = some ([[2, 0, 1, 0], [5]] : List Bytes)[k] := by
    intro k hk
    match k, hk with
    | 0, _ =>
      rw [FileSystem.find?_eq (by rw [FileSystem.write_realpath]; exact realpath_mixedSaved),
        FileSystem.write_files]
      exact Directory.write_self _ _ _
    | 1, _ =>
      refine (hother _ ?_).trans (haccepts.find?_model (by decide))
      exact fun h => absurd (modelFileName_injective "m" h) (by decide)
  have hsum : ∀ k (h : k < ([[2, 0, 1, 0], [5]] : List Bytes).length),
      (savedInfo mixedStore 3 [[1, 0, 2, 0], [5]] 5).modelCheckSum[0 + k]?
        = some (getCrc16 ([[2, 0, 1, 0], [5]] : List Bytes)[k]) := by
    intro k hk
    match k, hk with
    | 0, _ => exact congrArg some hcrc
    | 1, _ => rfl
  obtain ⟨buffers, mappings', hfiles, hdata⟩ :=
    @restoreFiles_complete mixedStore _ "/data" _ _ 0 [] [] hfile (by simp) hsum
  rw [failedSave_mixed realpath_mixedSaved]
  refine ⟨_, mappings', haccepts.save_eq, rfl, ?_, hdata⟩
  rw [hrecords.restore_eq compact_faithful rfl, savedInfo_deviceId, if_neg (by simp)]
  exact hfiles

/-- A full disk leaves the first file empty, which is noticed. -/
theorem failedSave_fullDisk :
    RestoresOnly JsonCodec.compact mixedStore
      (mixedStore.save JsonCodec.compact { writes := fun _ => .failed 0 } mixedSaved [[2, 0, 1, 0]]
        "/data" 6).2 "/data" 5 [[1, 0, 2, 0], [5]] := by
  have haccepts := saveAccepts_mixed [[1, 0, 2, 0], [5]] (by simp) (by decide)
  have hverify : verifyCachePath "/data" = .success := by decide
  have hcode : (mixedStore.save JsonCodec.compact { writes := fun _ => .failed 0 } mixedSaved
      [[2, 0, 1, 0]] "/data" 6).1 ≠ .success := by
    simp [NNCompiledCache.save, NNCompiledCache.generateCacheFiles,
      NNCompiledCache.generateCacheModel, NNCompiledCache.writeCacheModels, realpath_mixedSaved,
      hverify, nnCacheFileNumberMax, mixedStore]
  exact (failedSave_iff compact_faithful compact_strict rfl haccepts.save_eq rfl (Or.inl hcode) rfl
    rfl rfl).mpr (Or.inr (Or.inl ⟨0, by decide, Or.inl (by decide)⟩))

end NNRt
