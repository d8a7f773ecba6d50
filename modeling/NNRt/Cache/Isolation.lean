import NNRt.Cache.RoundTrip

/-!
# Two models in one directory

Cache files are named by the model name followed directly by a decimal number,
so the names of two models can collide although the models differ (file 10 of
`m` is file 0 of `m1`). The records in `cache_info` never collide.

- `SaveAccepts.restore_after_iff`: what a restore of the first model needs of
  the files of the second.
- `coexist_iff`: **the first model survives the second save exactly when every
  shared file name carries the same content in both** (and no buffer of the
  first is empty, which no restore accepts).
- `collision_overwrites`: eleven buffers under `m`, one under `m1`.
-/

namespace NNRt

/-- Two cache files have the same name exactly when model name and number, read
without a separator, are the same string. -/
theorem modelFileName_eq_iff {m n : String} {i j : Nat} :
    modelFileName m i = modelFileName n j ↔ m ++ toString i = n ++ toString j :=
  String.append_left_inj _

section TwoSaves

variable {codec : JsonCodec} {store₁ store₂ reader : NNCompiledCache} {fs : FileSystem}
  {caches₁ caches₂ : List Bytes} {cacheDir dir : String} {version₁ version₂ : UInt32}
  {op₁ op₂ : Int32}

/-- The second save leaves the record of the first alone. -/
theorem SaveAccepts.find?_info_after
    (h₁ : SaveAccepts codec store₁ fs caches₁ cacheDir version₁ dir op₁)
    (hnames : store₁.modelName ≠ store₂.modelName) :
    ((fs.writeAll dir (savedFiles codec store₁ op₁ caches₁ version₁)).writeAll dir
        (savedFiles codec store₂ op₂ caches₂ version₂)).find? cacheDir
        (infoFileName store₁.modelName)
      = some (cacheInfoText codec (savedInfo store₁ op₁ caches₁ version₁)) := by
  have hdir : (fs.writeAll dir (savedFiles codec store₁ op₁ caches₁ version₁)).realpath cacheDir
      = some dir := by
    rw [FileSystem.writeAll_realpath]
    exact h₁.realpath
  rw [← h₁.find?_info, FileSystem.find?_eq (by rw [FileSystem.writeAll_realpath]; exact hdir),
    FileSystem.find?_eq hdir, FileSystem.writeAll_files]
  apply Directory.writeAll_other
  intro w hw heq
  rcases List.mem_append.mp hw with hw | hw
  · obtain ⟨k, _, rfl⟩ := mem_modelFiles.mp hw
    exact modelFileName_ne_infoFileName _ _ _ heq
  · rw [List.mem_singleton.mp hw] at heq
    exact hnames (infoFileName_inj.mp heq).symm

/-- A cache file of the first model survives exactly when the second save
writes the same content under its name, or does not write it. -/
theorem SaveAccepts.find?_model_after_iff
    (h₁ : SaveAccepts codec store₁ fs caches₁ cacheDir version₁ dir op₁)
    {i : Nat} (hi : i < caches₁.length) :
    ((fs.writeAll dir (savedFiles codec store₁ op₁ caches₁ version₁)).writeAll dir
        (savedFiles codec store₂ op₂ caches₂ version₂)).find? cacheDir
        (modelFileName store₁.modelName i) = some caches₁[i] ↔
      ∀ j (hj : j < caches₂.length),
        store₁.modelName ++ toString i = store₂.modelName ++ toString j →
        caches₁[i] = caches₂[j] := by
  have hdir : (fs.writeAll dir (savedFiles codec store₁ op₁ caches₁ version₁)).realpath cacheDir
      = some dir := by
    rw [FileSystem.writeAll_realpath]
    exact h₁.realpath
  have hfirst := h₁.find?_model hi
  rw [FileSystem.find?_eq hdir] at hfirst
  rw [FileSystem.find?_eq (by rw [FileSystem.writeAll_realpath]; exact hdir),
    FileSystem.writeAll_files,
    Directory.writeAll_eq_some_iff (savedFiles_nodup codec store₂ op₂ caches₂ version₂) hfirst]
  constructor
  · intro h j hj heq
    have hw : (modelFileName store₂.modelName j, caches₂[j])
        ∈ savedFiles codec store₂ op₂ caches₂ version₂ :=
      List.mem_append_left _ (mem_modelFiles.mpr ⟨j, hj, by rw [Nat.zero_add]⟩)
    exact (h _ hw (modelFileName_eq_iff.mpr heq).symm).symm
  · intro h w hw heq
    rcases List.mem_append.mp hw with hw | hw
    · obtain ⟨j, hj, rfl⟩ := mem_modelFiles.mp hw
      rw [Nat.zero_add] at heq
      exact (h j hj (modelFileName_eq_iff.mp heq.symm)).symm
    · rw [List.mem_singleton.mp hw] at heq
      exact absurd heq.symm (modelFileName_ne_infoFileName _ _ _)

/-- What a restore of the first model returns after the second save. -/
theorem SaveAccepts.restore_after_iff (hc : codec.Faithful)
    (h₁ : SaveAccepts codec store₁ fs caches₁ cacheDir version₁ dir op₁)
    (hnames : store₁.modelName ≠ store₂.modelName) (hdevice : reader.device.isSome)
    (hname : reader.modelName = store₁.modelName) (hbackend : reader.backendID = store₁.backendID)
    (mappings : Mappings) :
    (∃ buffers mappings',
      reader.restore codec {}
          ((fs.writeAll dir (savedFiles codec store₁ op₁ caches₁ version₁)).writeAll dir
            (savedFiles codec store₂ op₂ caches₂ version₂)) cacheDir version₁ [] mappings
          = .ok (.success, buffers, mappings') ∧
        buffers.map Buffer.data = caches₁) ↔
      (∀ cache ∈ caches₁, cache ≠ []) ∧
      ∀ i (hi : i < caches₁.length) j (hj : j < caches₂.length),
        store₁.modelName ++ toString i = store₂.modelName ++ toString j →
        caches₁[i] = caches₂[j] := by
  have hinfo := @SaveAccepts.find?_info_after codec store₁ store₂ fs caches₁ caches₂ cacheDir dir
    version₁ version₂ op₁ op₂ h₁ hnames
  rw [← hname] at hinfo
  rw [h₁.restore_eq hc hdevice hinfo, if_neg (not_not_intro hbackend),
    if_neg (UInt32.lt_irrefl version₁), if_neg (UInt32.lt_irrefl version₁)]
  constructor
  · rintro ⟨buffers, mappings', hrestore, rfl⟩
    obtain ⟨buffers', rfl, -, hfiles, hne⟩ := restoreFiles_sound hrestore
    refine ⟨?_, ?_⟩
    · intro cache hcache
      obtain ⟨buffer, hbuffer, rfl⟩ := List.mem_map.mp hcache
      exact hne buffer hbuffer
    · intro i hi
      apply (h₁.find?_model_after_iff hi).mp
      have hfile := (hfiles i (by simpa using hi)).1
      rw [Nat.zero_add, hname] at hfile
      rw [hfile, List.getElem_map]
  · rintro ⟨hne, hshared⟩
    refine restoreFiles_complete (fun i hi => ?_) hne (fun i hi => ?_)
    · rw [Nat.zero_add, hname]
      exact (h₁.find?_model_after_iff hi).mpr (hshared i hi)
    · rw [Nat.zero_add]
      simp [hi]

end TwoSaves

/-- **Two models in one directory.** Two saves under different model names
succeed one after the other; the first model is then restored with exactly its
buffers if and only if none of them is empty and every file name that occurs in
both (name and number, read without a separator) stands for equal buffers. -/
theorem coexist_iff {codec : JsonCodec} (hc : codec.Faithful)
    {store₁ store₂ reader : NNCompiledCache} {fs fs₁ fs₂ : FileSystem}
    {caches₁ caches₂ : List Bytes} {cacheDir : String} {version₁ version₂ : UInt32}
    (hnames : store₁.modelName ≠ store₂.modelName)
    (hsave₁ : store₁.save codec {} fs caches₁ cacheDir version₁ = (.success, fs₁))
    (hsave₂ : store₂.save codec {} fs₁ caches₂ cacheDir version₂ = (.success, fs₂))
    (hdevice : reader.device.isSome) (hname : reader.modelName = store₁.modelName)
    (hbackend : reader.backendID = store₁.backendID) (mappings : Mappings) :
    (∃ buffers mappings',
      reader.restore codec {} fs₂ cacheDir version₁ [] mappings
          = .ok (.success, buffers, mappings') ∧
        buffers.map Buffer.data = caches₁) ↔
      (∀ cache ∈ caches₁, cache ≠ []) ∧
      ∀ i (hi : i < caches₁.length) j (hj : j < caches₂.length),
        store₁.modelName ++ toString i = store₂.modelName ++ toString j →
        caches₁[i] = caches₂[j] := by
  obtain ⟨dir, op₁, h₁, rfl⟩ := save_eq_success_iff.mp hsave₁
  obtain ⟨dir₂, op₂, h₂, rfl⟩ := save_eq_success_iff.mp hsave₂
  have hdir : dir₂ = dir := by
    have hrealpath := h₂.realpath
    rw [FileSystem.writeAll_realpath, h₁.realpath] at hrealpath
    exact (Option.some.inj hrealpath).symm
  subst hdir
  exact h₁.restore_after_iff hc hnames hdevice hname hbackend mappings

/-! ## A collision

Eleven buffers under `m`, then one under `m1`: file 10 of `m` and file 0 of `m1`
are both `m10.nncache`. -/

/-- The store of model `modelName` on one device. -/
def storeOf (modelName : String) : NNCompiledCache where
  backendID := 1
  modelName := modelName
  device := some ⟨.success, 3⟩

theorem saveAccepts_m : SaveAccepts JsonCodec.compact (storeOf "m")
    (FileSystem.single "/data" (by decide)) (List.replicate 11 [0]) "/data" 5 "/data" 3 :=
  ⟨by decide, by decide, rfl, rfl, by decide,
    compact_faithful.dump_short _ (by rw [savedInfo, List.length_map]; decide)⟩

theorem saveAccepts_other (fs : FileSystem) (modelName : String) (content : Bytes)
    (hdir : fs.realpath "/data" = some "/data") :
    SaveAccepts JsonCodec.compact (storeOf modelName) fs [content] "/data" 5 "/data" 3 :=
  ⟨by simp, by simp [nnCacheFileNumberMax], rfl, hdir, by decide,
    compact_faithful.dump_short _ (by simp [savedInfo, nnCacheFileNumberMax])⟩

/-- `m` is not restored after `m1` has been saved. -/
theorem collision_overwrites :
    ∃ fs₁ fs₂,
      (storeOf "m").save JsonCodec.compact {} (FileSystem.single "/data" (by decide))
        (List.replicate 11 [0]) "/data" 5 = (.success, fs₁) ∧
      (storeOf "m1").save JsonCodec.compact {} fs₁ [[1]] "/data" 5 = (.success, fs₂) ∧
      ¬ ∃ buffers mappings',
        (storeOf "m").restore JsonCodec.compact {} fs₂ "/data" 5 [] []
            = .ok (.success, buffers, mappings') ∧
          buffers.map Buffer.data = List.replicate 11 [0] := by
  have h₁ := saveAccepts_m
  have h₂ := saveAccepts_other ((FileSystem.single "/data" (by decide)).writeAll "/data"
    (savedFiles JsonCodec.compact (storeOf "m") 3 (List.replicate 11 [0]) 5)) "m1" [1] (by simp; rfl)
  refine ⟨_, _, h₁.save_eq, h₂.save_eq, ?_⟩
  intro hrestore
  have hshared := (@SaveAccepts.restore_after_iff JsonCodec.compact (storeOf "m") (storeOf "m1")
    (storeOf "m") _ _ [[1]] _ _ _ 5 _ 3 compact_faithful h₁ (by decide) rfl rfl rfl []).mp hrestore
  have hequal := hshared.2 10 (by decide) 0 (by decide) (by decide)
  revert hequal
  decide

/-- `a` and `b` share no file name. -/
theorem coexist_a_b :
    ∃ fs₁ fs₂ buffers mappings',
      (storeOf "a").save JsonCodec.compact {} (FileSystem.single "/data" (by decide))
        [[7]] "/data" 5 = (.success, fs₁) ∧
      (storeOf "b").save JsonCodec.compact {} fs₁ [[8]] "/data" 5 = (.success, fs₂) ∧
      (storeOf "a").restore JsonCodec.compact {} fs₂ "/data" 5 [] []
        = .ok (.success, buffers, mappings') ∧
      buffers.map Buffer.data = [[7]] := by
  have h₁ := saveAccepts_other (FileSystem.single "/data" (by decide)) "a" [7] rfl
  have h₂ := saveAccepts_other ((FileSystem.single "/data" (by decide)).writeAll "/data"
    (savedFiles JsonCodec.compact (storeOf "a") 3 [[7]] 5)) "b" [8] (by simp; rfl)
  have hdevice : (storeOf "a").device.isSome := rfl
  have hcoexist := coexist_iff compact_faithful (by decide) h₁.save_eq h₂.save_eq hdevice rfl rfl []
  obtain ⟨buffers, mappings', hbuffers, hdata⟩ := hcoexist.mpr ⟨by decide, by
    intro i hi j hj heq
    have hi0 : i = 0 := by simpa using hi
    have hj0 : j = 0 := by simpa using hj
    subst hi0 hj0
    exact absurd heq (by decide)⟩
  exact ⟨_, _, buffers, mappings', h₁.save_eq, h₂.save_eq, hbuffers, hdata⟩

end NNRt
