import NNRt.Cache.HasCache

/-!
# One model through a history

What one save makes of the record and of the cache files of its own model, in a
directory that is there, under any faults.

- `find?_save_file`, `find?_save_record`: a save that fails writes some of the
  first files and leaves the record alone.
- `savedRecord`: after a save that reports success there is its record, or none
  that can be read.
-/

namespace NNRt

section Save

variable {codec : JsonCodec} {io : IoFaults} {store : NNCompiledCache} {fs fs' : FileSystem}
  {caches : List Bytes} {cacheDir dir modelName : String} {version : UInt32} {op : Int32}
  {info : NNCompiledCacheInfo}

/-- The file `k` of the model, after the files of a save have been written. -/
theorem find?_save_file (hdir : fs.realpath cacheDir = some dir) (k : Nat) :
    (fs.writeAll dir (store.filesLeft io caches dir)).find? cacheDir
        (modelFileName store.modelName k)
      = match (store.filesLeft io caches dir)[k]? with
        | some file => some file.2
        | none => fs.find? cacheDir (modelFileName store.modelName k) := by
  rw [FileSystem.find?_eq (by rwa [FileSystem.writeAll_realpath]), FileSystem.find?_eq hdir,
    FileSystem.writeAll_files]
  unfold NNCompiledCache.filesLeft
  split
  · rfl
  · exact writeAll_leftFiles_model io store.modelName caches (fs.files dir) k

/-- The files of a save are none of them a record. -/
theorem find?_save_record (hdir : fs.realpath cacheDir = some dir) (other : String) :
    (fs.writeAll dir (store.filesLeft io caches dir)).find? cacheDir (infoFileName other)
      = fs.find? cacheDir (infoFileName other) := by
  rw [FileSystem.find?_eq (by rwa [FileSystem.writeAll_realpath]), FileSystem.find?_eq hdir,
    FileSystem.writeAll_files]
  unfold NNCompiledCache.filesLeft
  split
  · rfl
  · exact writeAll_leftFiles_info io store.modelName other caches (fs.files dir)

/-- Where every file was opened and written, file `k` holds what its stream left. -/
theorem getElem?_filesLeft {k : Nat} (hk : k < caches.length)
    (hall : (store.filesLeft io caches dir).length = caches.length) :
    (store.filesLeft io caches dir)[k]? = some (modelFileName store.modelName k,
      (io.writes (modelFileName store.modelName k)).left caches[k]) := by
  by_cases hrefused : store.Refused caches dir
  · rw [NNCompiledCache.filesLeft_refused hrefused, List.length_nil] at hall
    omega
  · rw [NNCompiledCache.filesLeft, if_neg hrefused] at hall ⊢
    have hk' : k < (leftFiles io store.modelName 0 caches).length := by omega
    obtain ⟨_, hfile⟩ := getElem?_leftFiles (List.getElem?_eq_getElem hk')
    rw [List.getElem?_eq_getElem hk', hfile, Nat.zero_add]

/-- Records are read from one file. -/
theorem FileSystem.Records.congr (h : fs.Records codec cacheDir modelName info)
    (heq : fs'.find? cacheDir (infoFileName modelName) = fs.find? cacheDir (infoFileName modelName)) :
    fs'.Records codec cacheDir modelName info := by
  obtain ⟨⟨content, hfind, hparse⟩, hwf⟩ := h
  exact ⟨⟨content, heq.trans hfind, hparse⟩, hwf⟩

theorem FileSystem.Unrecorded.congr (h : fs.Unrecorded codec cacheDir modelName)
    (heq : fs'.find? cacheDir (infoFileName modelName) = fs.find? cacheDir (infoFileName modelName)) :
    fs'.Unrecorded codec cacheDir modelName := by
  intro content hfind
  rw [heq] at hfind
  exact h content hfind

/-- Two records of one directory are the same. -/
theorem FileSystem.Records.unique {info' : NNCompiledCacheInfo} (hc : codec.Faithful)
    (h : fs.Records codec cacheDir modelName info) (h' : fs.Records codec cacheDir modelName info') :
    info = info' := by
  obtain ⟨⟨content, hfind, hparse⟩, hwf⟩ := h
  obtain ⟨⟨content', hfind', hparse'⟩, hwf'⟩ := h'
  rw [hfind] at hfind'
  cases hfind'
  have hid : info.deviceId = info'.deviceId := by
    rw [hparse] at hparse'
    have hdata := congrArg (fun j => j.bind (Json.find? "data")) hparse'
    simp only [Option.bind_some, find?_cacheInfoJson_data] at hdata
    have hmember := congrArg (fun j => j.bind (Json.find? "deviceId")) hdata
    simp only [Option.bind_some, find?_cacheInfoData_deviceId, Option.some.injEq,
      Json.int.injEq] at hmember
    exact Int64.toInt_inj.mp hmember
  have hread := hwf.checkCacheInfo_eq hc hparse info.deviceId.toUInt64
  have hread' := hwf'.checkCacheInfo_eq hc hparse' info.deviceId.toUInt64
  rw [if_pos rfl] at hread
  rw [if_pos (by rw [hid]), hread] at hread'
  cases hread'
  rfl

/-- What the reader gets out of a record is what was written. -/
theorem FileSystem.Records.of_read {info' : NNCompiledCacheInfo} (hc : codec.Faithful)
    {backendID : UInt64} {content : Bytes} (h : fs.Records codec cacheDir modelName info)
    (hfind : fs.find? cacheDir (infoFileName modelName) = some content)
    (hread : checkCacheInfo codec backendID (some content) = .ok (.success, info')) :
    info' = info := by
  obtain ⟨⟨content', hfind', hparse⟩, hwf⟩ := h
  rw [hfind] at hfind'
  cases hfind'
  rw [hwf.checkCacheInfo_eq hc hparse backendID, Except.ok.injEq] at hread
  split at hread
  · cases hread
    rfl
  · cases hread

/-- Without a record the reader gets nothing. -/
theorem FileSystem.Unrecorded.not_read {backendID : UInt64} {content : Bytes}
    (h : fs.Unrecorded codec cacheDir modelName)
    (hfind : fs.find? cacheDir (infoFileName modelName) = some content) :
    checkCacheInfo codec backendID (some content) ≠ .ok (.success, info) := by
  intro hread
  unfold checkCacheInfo at hread
  dsimp only at hread
  rw [h content hfind] at hread
  cases hread

/-- A directory does not have a record and none. -/
theorem FileSystem.Records.not_unrecorded (h : fs.Records codec cacheDir modelName info) :
    ¬ fs.Unrecorded codec cacheDir modelName := by
  obtain ⟨⟨content, hfind, hparse⟩, -⟩ := h
  intro hnone
  rw [hnone content hfind] at hparse
  cases hparse

/-- **The record a save leaves** that reports success: its own, or one that was
cut off. -/
theorem savedRecord (hc : codec.Faithful) (hs : codec.Strict)
    (h : SaveAccepts codec store fs caches cacheDir version dir op) :
    (store.RecordCut codec io op caches version ∧
      ((fs.writeAll dir (store.filesLeft io caches dir)).write dir (infoFileName store.modelName)
        (store.infoLeft codec io op caches version)).Unrecorded codec cacheDir store.modelName) ∨
    (¬ store.RecordCut codec io op caches version ∧
      ((fs.writeAll dir (store.filesLeft io caches dir)).write dir (infoFileName store.modelName)
        (store.infoLeft codec io op caches version)).Records codec cacheDir store.modelName
          (savedInfo store op caches version)) := by
  have hdir : (fs.writeAll dir (store.filesLeft io caches dir)).realpath cacheDir = some dir := by
    rw [FileSystem.writeAll_realpath]
    exact h.realpath
  have hfind : ((fs.writeAll dir (store.filesLeft io caches dir)).write dir
      (infoFileName store.modelName) (store.infoLeft codec io op caches version)).find? cacheDir
        (infoFileName store.modelName) = some (store.infoLeft codec io op caches version) := by
    rw [FileSystem.find?_eq (by rwa [FileSystem.write_realpath]), FileSystem.write_files,
      Directory.write_self]
  rcases NNCompiledCache.parse_infoLeft hc hs op with ⟨hcut, hparse⟩ | ⟨hwhole, hparse⟩
  · refine Or.inl ⟨hcut, ?_⟩
    intro content hcontent
    rw [hfind] at hcontent
    cases hcontent
    exact hparse
  · exact Or.inr ⟨hwhole, ⟨_, hfind, hparse⟩, h.wellFormed⟩

/-- Writing the record does not touch a cache file. -/
theorem find?_write_record (hdir : fs.realpath cacheDir = some dir) (content : Bytes) (k : Nat) :
    (fs.write dir (infoFileName modelName) content).find? cacheDir (modelFileName modelName k)
      = fs.find? cacheDir (modelFileName modelName k) := by
  rw [FileSystem.find?_eq (by rwa [FileSystem.write_realpath]), FileSystem.find?_eq hdir,
    FileSystem.write_files, Directory.write_other _ _ (modelFileName_ne_infoFileName _ _ _)]

end Save

end NNRt
