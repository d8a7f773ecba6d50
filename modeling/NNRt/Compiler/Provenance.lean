import NNRt.Cache.History
import NNRt.Compiler.Upgrade
import NNRt.Lib.Run

/-!
# Where restored buffers come from

Histories of `Save` and `RestoreFromCacheFile` on one directory and model name,
without I/O errors. Beside the directory the state keeps, for each cache file,
the version and the content of the `Save` that wrote it last.

- `Sound.step`: the record stays one of the writers', and the files hold what was
  saved.
- `Dated.step`: **what a call does to the versions**; an op-version update changes
  the version of the record and not of the files.
- `provenance`: what the two together say about a restore.
- `provenance_of_meets`: **what is restored as a version was saved as it**, in
  every history without an update of a version other than 0.
- `update_breaks_provenance`: buffers of version 1 that are restored as version 0.
-/

namespace NNRt

/-- A directory, and for each cache file of the model the version and the content
of the `Save` that wrote it last. -/
structure Traced where
  fs : FileSystem
  lastSaved : Nat → Option (UInt32 × Bytes) := fun _ => none

/-- A call of a history without I/O errors. -/
inductive QuietCall
  | save (store : NNCompiledCache) (caches : List Bytes) (version : UInt32)
  | restoreFromCacheFile (env : CacheEnv) (c : NNCompiler TensorDesc) (mappings : Mappings)

def NNCompiledCache.ofModel (store : NNCompiledCache) (modelName : String) : NNCompiledCache :=
  { store with modelName := modelName }

def NNCompiler.ofModel (c : NNCompiler TensorDesc) (cacheDir modelName : String) :
    NNCompiler TensorDesc :=
  { c with
    cachePath := cacheDir
    extensionConfig := { c.extensionConfig with modelName := modelName } }

def CacheEnv.quiet (env : CacheEnv) (codec : JsonCodec) : CacheEnv :=
  { env with codec := codec, io := {}, ioUpdate := {} }

namespace Traced

variable (codec : JsonCodec) (cacheDir modelName : String)

/-- The files a save writes, whether it succeeds or not. -/
def filesSaved (s : Traced) (store : NNCompiledCache) (caches : List Bytes) :
    List (String × Bytes) :=
  match s.fs.realpath cacheDir with
  | none => []
  | some dir => (store.ofModel modelName).filesLeft {} caches dir

/-- The files of a save have been written last by it. -/
def savedOver (s : Traced) (files : List (String × Bytes)) (version : UInt32) (k : Nat) :
    Option (UInt32 × Bytes) :=
  match files[k]? with
  | some file => some (version, file.2)
  | none => s.lastSaved k

/-- One call. A fault ends the process and leaves the directory as it is. -/
def step (s : Traced) : QuietCall → Except Fault Traced
  | .save store caches version =>
    .ok { fs := ((store.ofModel modelName).save codec {} s.fs caches cacheDir version).2
          lastSaved := s.savedOver (s.filesSaved cacheDir modelName store caches) version }
  | .restoreFromCacheFile env c mappings =>
    match (c.ofModel cacheDir modelName).restoreFromCacheFile (env.quiet codec) s.fs mappings with
    | .error _ => .ok s
    | .ok out => .ok { s with fs := out.fs }

/-- Every buffer that is restored as a version is what the last `Save` of its file
wrote, and that was a `Save` with this version. -/
def Provenance (s : Traced) : Prop :=
  ∀ (reader : NNCompiledCache) (io : IoFaults) (w : UInt32) (mappings : Mappings)
    (caches : List Buffer) (mappings' : Mappings), reader.modelName = modelName →
    reader.restore codec io s.fs cacheDir w [] mappings = .ok (.success, caches, mappings') →
    ∀ k (h : k < caches.length), s.lastSaved k = some (w, caches[k].data)

/-- File `k` of the model once the files of a save have been written. -/
def contentOver (s : Traced) (files : List (String × Bytes)) (k : Nat) : Option Bytes :=
  match files[k]? with
  | some file => some file.2
  | none => s.fs.find? cacheDir (modelFileName modelName k)

/-- The condition on a call. A save that writes its files and is not accepted (the
device has no op version, or the record no room) leaves files that are not all of
the standing record; or it is of the version of that record, and so are the files
behind its own. An update rewrites a record of version 0. -/
def Keeps (s : Traced) : QuietCall → Prop
  | .save store caches version =>
    (∀ dir op, ¬ SaveAccepts codec (store.ofModel modelName) s.fs caches cacheDir version dir op) →
    s.filesSaved cacheDir modelName store caches ≠ [] →
    ∀ info w, s.fs.Records codec cacheDir modelName info → info.version = w.toUInt64.toInt64 →
      (∀ k (h : k < info.modelCheckSum.length), ∃ content,
        s.contentOver cacheDir modelName (s.filesSaved cacheDir modelName store caches) k
            = some content ∧
          content ≠ [] ∧ getCrc16 content = info.modelCheckSum[k]) →
      version = w ∧ ∀ k < info.modelCheckSum.length,
        (s.filesSaved cacheDir modelName store caches).length ≤ k →
          ∃ content, s.lastSaved k = some (w, content)
  | .restoreFromCacheFile env c _ =>
    ∀ info, NNCompiler.Rewrites (env.quiet codec) (c.ofModel cacheDir modelName) s.fs info →
      c.cacheVersion = 0

/-- The record is one of the writers', and a file that was saved holds it. -/
structure Sound (s : Traced) : Prop where
  record : s.fs.Unrecorded codec cacheDir modelName ∨
    ∃ info, s.fs.Records codec cacheDir modelName info
  traced : ∀ k version content, s.lastSaved k = some (version, content) →
    s.fs.find? cacheDir (modelFileName modelName k) = some content

/-- Files with the checksums of the record were saved as its version. -/
def Dated (s : Traced) : Prop :=
  ∀ info w, s.fs.Records codec cacheDir modelName info → info.version = w.toUInt64.toInt64 →
    s.fs.Matches cacheDir modelName info.modelCheckSum →
    ∀ k < info.modelCheckSum.length, ∃ content, s.lastSaved k = some (w, content)

end Traced

/-! ## What the calls do -/

namespace Traced

variable {codec : JsonCodec} {cacheDir modelName : String} {s s' : Traced} {call : QuietCall}

/-- How a save ends, seen from the history. -/
inductive SaveStep (codec : JsonCodec) (cacheDir modelName : String) (s : Traced)
    (store : NNCompiledCache) (caches : List Bytes) (version : UInt32) :
    ReturnCode × FileSystem → Prop
  | nowhere (ret : ReturnCode) (hret : ret ≠ .success) (hdir : s.fs.realpath cacheDir = none) :
    SaveStep codec cacheDir modelName s store caches version (ret, s.fs)
  | failed (ret : ReturnCode) (dir : String)
      (hrefused : ∀ dir op,
        ¬ SaveAccepts codec (store.ofModel modelName) s.fs caches cacheDir version dir op)
      (hdir : s.fs.realpath cacheDir = some dir) :
    SaveStep codec cacheDir modelName s store caches version
      (ret, s.fs.writeAll dir ((store.ofModel modelName).filesLeft {} caches dir))
  | saved (op : Int32) (dir : String)
      (accepts : SaveAccepts codec (store.ofModel modelName) s.fs caches cacheDir version dir op)
      (all : ((store.ofModel modelName).filesLeft {} caches dir).length = caches.length) :
    SaveStep codec cacheDir modelName s store caches version
      (.success, (s.fs.writeAll dir ((store.ofModel modelName).filesLeft {} caches dir)).write dir
        (infoFileName modelName)
        (cacheInfoText codec (savedInfo (store.ofModel modelName) op caches version)))

theorem saveStep (store : NNCompiledCache) (caches : List Bytes) (version : UInt32) :
    SaveStep codec cacheDir modelName s store caches version
      ((store.ofModel modelName).save codec {} s.fs caches cacheDir version) := by
  cases hdir : s.fs.realpath cacheDir with
  | none =>
    obtain ⟨ret, hret, hsave⟩ := save_realpath_none codec {} (store.ofModel modelName) caches version
      hdir
    rw [hsave]
    exact .nowhere ret hret hdir
  | some dir =>
    have heffect := @NNCompiledCache.save_effect codec {} (store.ofModel modelName) s.fs caches cacheDir
      dir version hdir
    have haccepted : (∃ dir op,
        SaveAccepts codec (store.ofModel modelName) s.fs caches cacheDir version dir op) →
        ((store.ofModel modelName).save codec {} s.fs caches cacheDir version).1 = .success := by
      rintro ⟨dir, op, haccepts⟩
      rw [haccepts.save_eq]
    generalize (store.ofModel modelName).save codec {} s.fs caches cacheDir version = result
      at heffect haccepted ⊢
    cases heffect with
    | failed ret hret =>
      exact .failed ret dir (fun dir op haccepts => hret (haccepted ⟨dir, op, haccepts⟩)) hdir
    | saved op accepts all => exact .saved op dir accepts all

theorem filesSaved_eq {dir : String} (hdir : s.fs.realpath cacheDir = some dir)
    (store : NNCompiledCache) (caches : List Bytes) :
    s.filesSaved cacheDir modelName store caches
      = (store.ofModel modelName).filesLeft {} caches dir := by
  unfold filesSaved
  rw [hdir]

theorem filesSaved_nowhere (hdir : s.fs.realpath cacheDir = none) (store : NNCompiledCache)
    (caches : List Bytes) : s.filesSaved cacheDir modelName store caches = [] := by
  unfold filesSaved
  rw [hdir]

theorem savedOver_nil (version : UInt32) : s.savedOver [] version = s.lastSaved := rfl

/-- File `k` after the files of a save. -/
theorem find?_contentOver {dir : String} (hdir : s.fs.realpath cacheDir = some dir)
    (store : NNCompiledCache) (caches : List Bytes) (k : Nat) :
    (s.fs.writeAll dir ((store.ofModel modelName).filesLeft {} caches dir)).find? cacheDir
        (modelFileName modelName k)
      = s.contentOver cacheDir modelName (s.filesSaved cacheDir modelName store caches) k := by
  rw [filesSaved_eq hdir]
  exact find?_save_file hdir k

/-- What a save has written last is what the file holds. -/
theorem Sound.savedOver (h : s.Sound codec cacheDir modelName) {files : List (String × Bytes)}
    {version w : UInt32} {k : Nat} {content : Bytes}
    (hsaved : s.savedOver files version k = some (w, content)) :
    s.contentOver cacheDir modelName files k = some content := by
  unfold Traced.savedOver at hsaved
  unfold contentOver
  cases hfile : files[k]? with
  | none =>
    rw [hfile] at hsaved
    exact h.traced k w content hsaved
  | some file =>
    rw [hfile] at hsaved
    cases hsaved
    rfl

/-- The record of a save that is accepted. -/
theorem records_saved (hc : codec.Faithful) {store : NNCompiledCache} {fs : FileSystem}
    {caches : List Bytes} {version : UInt32} {dir : String} {op : Int32}
    (h : SaveAccepts codec store fs caches cacheDir version dir op) :
    ((fs.writeAll dir (store.filesLeft {} caches dir)).write dir (infoFileName store.modelName)
      (cacheInfoText codec (savedInfo store op caches version))).Records codec cacheDir
        store.modelName (savedInfo store op caches version) where
  read := by
    refine ⟨_, FileSystem.find?_write ?_, hc.parse_dump _⟩
    rw [FileSystem.writeAll_realpath]
    exact h.realpath
  wellFormed := h.wellFormed

/-- The rewritten record. -/
theorem records_rewritten (hc : codec.Faithful) {fs : FileSystem} {path : String}
    {info : NNCompiledCacheInfo} (hpath : fs.realpath cacheDir = some path)
    (hwf : info.WellFormed) (currentOpVersion : Int32) :
    (fs.write path (infoFileName modelName)
      (cacheInfoText codec (rewrittenInfo info currentOpVersion))).Records codec cacheDir modelName
        (rewrittenInfo info currentOpVersion) :=
  ⟨⟨_, FileSystem.find?_write hpath, hc.parse_dump _⟩, hwf.fileNumber, hwf.nonempty, hwf.length_le⟩

/-- The record `RestoreFromCacheFile` rewrites is the one that stands. -/
theorem Sound.rewrites (hc : codec.Faithful) (h : s.Sound codec cacheDir modelName)
    {env : CacheEnv} {c : NNCompiler TensorDesc} {info : NNCompiledCacheInfo}
    (hrewrites : NNCompiler.Rewrites (env.quiet codec) (c.ofModel cacheDir modelName) s.fs info) :
    s.fs.Records codec cacheDir modelName info := by
  obtain ⟨content, hfind, hread⟩ := hrewrites.read
  have hfind : s.fs.find? cacheDir (infoFileName modelName) = some content := hfind
  have hread : checkCacheInfo codec c.backendID (some content) = .ok (.success, info) := hread
  rcases h.record with hnone | ⟨info', hrecords⟩
  · exact absurd hread (hnone.not_read hfind)
  · obtain rfl := hrecords.of_read hc hfind hread
    exact hrecords

/-- What a call of `RestoreFromCacheFile` leaves. -/
inductive RestoreStep (codec : JsonCodec) (cacheDir modelName : String) (s : Traced)
    (env : CacheEnv) (c : NNCompiler TensorDesc) : Traced → Prop
  | unchanged : RestoreStep codec cacheDir modelName s env c s
  | rewritten (info : NNCompiledCacheInfo) (path : String)
      (hrewrites : NNCompiler.Rewrites (env.quiet codec) (c.ofModel cacheDir modelName) s.fs info)
      (hpath : s.fs.realpath cacheDir = some path) :
      RestoreStep codec cacheDir modelName s env c
        { s with fs := s.fs.write path (infoFileName modelName)
                  (cacheInfoText codec (rewrittenInfo info env.readOpVersion.currentOpVersion)) }

theorem restoreStep {env : CacheEnv} {c : NNCompiler TensorDesc} {mappings : Mappings}
    (h : s.step codec cacheDir modelName (.restoreFromCacheFile env c mappings) = .ok s') :
    RestoreStep codec cacheDir modelName s env c s' := by
  unfold step at h
  dsimp only at h
  split at h
  · cases h
    exact .unchanged
  rename_i out hout
  cases h
  have heffect := (NNCompiler.restoreFromCacheFile_effect hout).2
  generalize out.fs = fs' at heffect
  cases heffect with
  | unchanged => exact .unchanged
  | rewritten info path hrewrites hpath => exact .rewritten info path hrewrites hpath

/-! ## The invariant -/

/-- **Every call keeps the history in order.** -/
theorem Sound.step (hc : codec.Faithful) (hsound : s.Sound codec cacheDir modelName)
    (h : s.step codec cacheDir modelName call = .ok s') : s'.Sound codec cacheDir modelName := by
  cases call with
  | save store caches version =>
    cases h
    have hsave := @saveStep codec cacheDir modelName s store caches version
    generalize (store.ofModel modelName).save codec {} s.fs caches cacheDir version = result at hsave ⊢
    cases hsave with
    | nowhere ret _ hdir =>
      rw [filesSaved_nowhere hdir]
      exact ⟨hsound.record, hsound.traced⟩
    | failed ret dir _ hdir =>
      refine ⟨?_, fun k w content hlast => ?_⟩
      · have hinfo : (s.fs.writeAll dir ((store.ofModel modelName).filesLeft {} caches dir)).find?
            cacheDir (infoFileName modelName) = s.fs.find? cacheDir (infoFileName modelName) :=
          find?_save_record hdir modelName
        rcases hsound.record with hnone | ⟨info, hrecords⟩
        · exact Or.inl (hnone.congr hinfo)
        · exact Or.inr ⟨info, hrecords.congr hinfo⟩
      · dsimp only
        rw [find?_contentOver hdir]
        exact hsound.savedOver hlast
    | saved op dir accepts all =>
      refine ⟨Or.inr ⟨_, records_saved hc accepts⟩, fun k w content hlast => ?_⟩
      dsimp only
      rw [find?_write_record (by rw [FileSystem.writeAll_realpath]; exact accepts.realpath),
        find?_contentOver accepts.realpath]
      exact hsound.savedOver hlast
  | restoreFromCacheFile env c mappings =>
    cases restoreStep h with
    | unchanged => exact hsound
    | rewritten info path hrewrites hpath =>
      have hrecords := hsound.rewrites hc hrewrites
      refine ⟨Or.inr ⟨_, records_rewritten hc hpath hrecords.wellFormed _⟩, ?_⟩
      intro k w content hlast
      dsimp only
      rw [find?_write_record hpath]
      exact hsound.traced k w content hlast

/-- **What a call does to the versions**: a file that is saved gets the version of
its record, and the condition is there for the saves that leave the record and for
the updates, which leave the files. -/
theorem Dated.step (hc : codec.Faithful) (hsound : s.Sound codec cacheDir modelName)
    (hdated : s.Dated codec cacheDir modelName) (hkeeps : s.Keeps codec cacheDir modelName call)
    (h : s.step codec cacheDir modelName call = .ok s') : s'.Dated codec cacheDir modelName := by
  cases call with
  | save store caches version =>
    cases h
    have hsave := @saveStep codec cacheDir modelName s store caches version
    generalize (store.ofModel modelName).save codec {} s.fs caches cacheDir version = result at hsave ⊢
    cases hsave with
    | nowhere ret _ hdir =>
      rw [filesSaved_nowhere hdir]
      exact hdated
    | failed ret dir hrefused hdir =>
      by_cases hfiles : s.filesSaved cacheDir modelName store caches = []
      · rw [hfiles, savedOver_nil]
        rw [filesSaved_eq hdir] at hfiles
        rw [hfiles]
        exact hdated
      intro info w hrecords hversion hmatches k hk
      have hinfo : (s.fs.writeAll dir ((store.ofModel modelName).filesLeft {} caches dir)).find?
          cacheDir (infoFileName modelName) = s.fs.find? cacheDir (infoFileName modelName) :=
        find?_save_record hdir modelName
      obtain ⟨rfl, hbehind⟩ := hkeeps hrefused hfiles info w (hrecords.congr hinfo.symm) hversion
        (fun k hk => by
          obtain ⟨content, hfind, hcontent⟩ := hmatches k hk
          exact ⟨content, (find?_contentOver hdir store caches k).symm.trans hfind, hcontent⟩)
      dsimp only
      unfold savedOver
      by_cases hlt : k < (s.filesSaved cacheDir modelName store caches).length
      · rw [List.getElem?_eq_getElem hlt]
        exact ⟨_, rfl⟩
      · rw [List.getElem?_eq_none (Nat.not_lt.mp hlt)]
        exact hbehind k hk (Nat.not_lt.mp hlt)
    | saved op dir accepts all =>
      intro info w hrecords hversion _ k hk
      obtain rfl := hrecords.unique hc (records_saved hc accepts)
      obtain rfl := widen_injective hversion
      have hk : k < caches.length := by simpa [savedInfo] using hk
      dsimp only
      unfold savedOver
      rw [filesSaved_eq accepts.realpath, getElem?_filesLeft hk all]
      exact ⟨_, rfl⟩
  | restoreFromCacheFile env c mappings =>
    cases restoreStep h with
    | unchanged => exact hdated
    | rewritten info path hrewrites hpath =>
      intro info' w hrecords hversion
      obtain rfl := hrecords.unique hc
        (records_rewritten hc hpath (hsound.rewrites hc hrewrites).wellFormed _)
      -- One below version 0 is no version a reader can ask for.
      have hzero : info.version = 0 := by
        have hof : info.version = c.cacheVersion.toUInt64.toInt64 := hrewrites.version
        rw [hof, hkeeps info hrewrites]
        rfl
      have hbelow : (info.version - 1).toInt = -1 := by
        rw [hzero]
        rfl
      have hw := congrArg Int64.toInt hversion
      rw [toInt_widen] at hw
      have hbelow : (rewrittenInfo info env.readOpVersion.currentOpVersion).version.toInt = -1 :=
        hbelow
      omega

/-- **What the two together say** about a restore, whatever happens while it reads. -/
theorem provenance (hc : codec.Faithful) (hsound : s.Sound codec cacheDir modelName)
    (hdated : s.Dated codec cacheDir modelName) : s.Provenance codec cacheDir modelName := by
  rintro reader io w mappings caches mappings' rfl h k hk
  rcases restore_io io w mappings with hio | ⟨ret, _, _, hret, hio⟩
  · rw [hio] at h
    rcases hsound.record with hnone | ⟨info, hrecords⟩
    · obtain ⟨ret, hret, hfails⟩ := hnone.restore_fails {} w mappings
      rw [hfails] at h
      cases h
      exact absurd rfl hret
    · have hdevice := device_of_restore h
      obtain ⟨hid, hversion, hmatches⟩ :=
        (hrecords.restore_success_iff hc hdevice w mappings).mp ⟨_, _, h⟩
      obtain ⟨content, info', hfind, hread, -, hfiles⟩ := restore_success h
      obtain rfl := hrecords.of_read hc hfind hread
      obtain ⟨buffers, rfl, hlen, hbuffers, -⟩ := restoreFiles_sound hfiles
      have hk' : k < info'.modelCheckSum.length := by
        rw [← hrecords.wellFormed.fileNumber, ← hlen]
        exact hk
      obtain ⟨saved, hlast⟩ := hdated info' w hrecords hversion hmatches k hk'
      have hfile := hsound.traced k w saved hlast
      have hbuffer := (hbuffers k hk).1
      rw [Nat.zero_add, hfile, Option.some.injEq] at hbuffer
      rw [hlast, hbuffer]
  · rw [hio] at h
    cases h
    exact absurd rfl hret

/-- **Version provenance**: in every history from a directory without a record whose
calls meet the condition, what is restored as a version was last saved as it. -/
theorem provenance_of_meets (hc : codec.Faithful) {fs : FileSystem} {calls : List QuietCall}
    (hfresh : fs.Unrecorded codec cacheDir modelName)
    (hmeets : Run.Meets (Traced.step codec cacheDir modelName) (Traced.Keeps codec cacheDir modelName)
      { fs := fs } calls)
    (h : Run.exec (Traced.step codec cacheDir modelName) { fs := fs } calls = .ok s) :
    s.Provenance codec cacheDir modelName := by
  have hsound : Sound codec cacheDir modelName { fs := fs } := ⟨Or.inl hfresh, by nofun⟩
  have hdated : Dated codec cacheDir modelName { fs := fs } := by
    intro info w hrecords
    exact absurd hfresh hrecords.not_unrecorded
  have hend : s.Sound codec cacheDir modelName ∧ s.Dated codec cacheDir modelName :=
    Run.exec_invariant_of_meets
      (P := fun s => s.Sound codec cacheDir modelName ∧ s.Dated codec cacheDir modelName)
      (fun s call s' hs hkeeps hstep => ⟨hs.1.step hc hstep, hs.2.step hc hs.1 hkeeps hstep⟩)
      ⟨hsound, hdated⟩ hmeets h
  exact provenance hc hend.1 hend.2

end Traced

/-! ## Concrete histories -/

/-- The mark of a version is a cache of the version below it. -/
theorem restore_marked_below {codec : JsonCodec} {store reader : NNCompiledCache} {fs : FileSystem}
    {caches : List Bytes} {cacheDir dir : String} {version w : UInt32} {op : Int32}
    (hc : codec.Faithful) (h : SaveAccepts codec store fs caches cacheDir version dir op)
    (hne : ∀ cache ∈ caches, cache ≠ []) (hbelow : version.toUInt64.toInt64 - 1 = w.toUInt64.toInt64)
    (currentOpVersion : Int32) (hreader : SameStore reader store) (mappings : Mappings) :
    ∃ buffers mappings',
      reader.restore codec {} (markedFs codec store fs dir op currentOpVersion caches version) cacheDir
        w [] mappings = .ok (.success, buffers, mappings') ∧ buffers.length = caches.length := by
  have hrecords := records_marked hc h currentOpVersion
  have hid : (rewrittenInfo (savedInfo store op caches version) currentOpVersion).deviceId.toUInt64
      = reader.backendID := by
    rw [hreader.backendID]
    exact savedInfo_deviceId store op caches version
  have hmatches : (markedFs codec store fs dir op currentOpVersion caches version).Matches cacheDir
      store.modelName (caches.map getCrc16) := by
    intro k hk
    have hk' : k < caches.length := by simpa using hk
    refine ⟨caches[k], ?_, hne _ (List.getElem_mem _), by rw [List.getElem_map]⟩
    unfold markedFs
    rw [find?_write_record (by rw [FileSystem.writeAll_realpath]; exact h.realpath)]
    exact h.find?_model hk'
  rw [← hreader.modelName] at hrecords hmatches
  obtain ⟨buffers, mappings', hrestore⟩ :=
    (hrecords.restore_success_iff hc hreader.device w mappings).mpr ⟨hid, hbelow, hmatches⟩
  refine ⟨buffers, mappings', hrestore, ?_⟩
  obtain ⟨_, info, hfind, hread, -, hfiles⟩ := restore_success hrestore
  obtain rfl := hrecords.of_read hc hfind hread
  obtain ⟨_, rfl, hlen, -⟩ := restoreFiles_sound hfiles
  have hnumber := hrecords.wellFormed.fileNumber
  rw [← hlen] at hnumber
  simpa [rewrittenInfo, savedInfo] using hnumber

namespace NNCompiler

/-- The history of one save. -/
def upgradeTraced : Traced where
  fs := upgradeSaved
  lastSaved := Traced.savedOver { fs := FileSystem.single "/data" dataDir_ne }
    (leftFiles {} "m" 0 ((compilerOf [[1]] [2] [3]).savedBuffers [[1]])) 1

theorem upgradeTraced_first : upgradeTraced.lastSaved 0 = some (1, [1]) := rfl

theorem upgrade_saved :
    Traced.step .compact "/data" "m" { fs := FileSystem.single "/data" (by decide) }
        (.save ((compilerOf [[1]] [2] [3]).cacheStore 3)
          ((compilerOf [[1]] [2] [3]).savedBuffers [[1]]) 1)
      = .ok upgradeTraced := by
  unfold Traced.step
  dsimp only
  have hsave := upgrade_accepts.save_eq
  have hof : ((compilerOf [[1]] [2] [3]).cacheStore 3).ofModel "m"
      = (compilerOf [[1]] [2] [3]).cacheStore 3 := rfl
  rw [hof, hsave]
  rfl

theorem upgrade_nonempty :
    ∀ cache ∈ (compilerOf [[1]] [2] [3]).savedBuffers [[1]], cache ≠ [] := by
  intro cache hcache
  rcases List.mem_cons.mp hcache with rfl | hcache
  · nofun
  rcases List.mem_cons.mp hcache with rfl | hcache
  · exact fun h => absurd (congrArg List.length h) (by simp [compilerOf, encodeDesc])
  · rw [List.mem_singleton.mp hcache]
    exact fun h => absurd (congrArg List.length h) (by simp [compilerOf, encodeDesc])

/-- One save as version 1 and one update: a restore of version 0 returns buffers that
no save of version 0 has written. -/
theorem update_breaks_provenance :
    ∃ s, Run.exec (Traced.step .compact "/data" "m") { fs := FileSystem.single "/data" (by decide) }
        [.save ((compilerOf [[1]] [2] [3]).cacheStore 3)
          ((compilerOf [[1]] [2] [3]).savedBuffers [[1]]) 1,
          .restoreFromCacheFile (envOf 4) (upgradeCompiler [] []) []] = .ok s ∧
      ¬ s.Provenance .compact "/data" "m" := by
  obtain ⟨out, hout, hcode⟩ := upgrade_restored 4
  have hquiet : (envOf 4).Quiet .compact := ⟨rfl, rfl, rfl⟩
  have hsame : SameCache (upgradeCompiler [] []) ((compilerOf [[1]] [2] [3]).cacheStore 3) "/data"
      1 := ⟨rfl, rfl, rfl, rfl⟩
  have hnewer : (3 : Int32) < (envOf 4).readOpVersion.currentOpVersion := by decide
  have hmarked := updated_eq compact_faithful upgrade_accepts hquiet hsame rfl hnewer hout hcode
  refine ⟨{ upgradeTraced with fs := out.fs }, ?_, ?_⟩
  · rw [Run.exec, upgrade_saved]
    dsimp only
    rw [Run.exec, Traced.step]
    have hof : (upgradeCompiler [] []).ofModel "/data" "m" = upgradeCompiler [] [] := rfl
    have hquiet : (envOf 4).quiet .compact = envOf 4 := rfl
    have hfs : upgradeTraced.fs = upgradeSaved := rfl
    rw [hof, hquiet, hfs, hout]
    rfl
  · intro h
    obtain ⟨buffers, mappings', hrestore, hlen⟩ := @restore_marked_below .compact
      ((compilerOf [[1]] [2] [3]).cacheStore 3) ((compilerOf [[1]] [2] [3]).cacheStore 3)
      (FileSystem.single "/data" (by decide)) ((compilerOf [[1]] [2] [3]).savedBuffers [[1]]) "/data"
      "/data" 1 0 3 compact_faithful upgrade_accepts upgrade_nonempty rfl 4 ⟨rfl, rfl, rfl⟩ []
    have hzero := h _ {} 0 [] buffers mappings' rfl (by rw [hmarked]; exact hrestore) 0
      (by rw [hlen]; decide)
    rw [upgradeTraced_first, Option.some.injEq, Prod.mk.injEq] at hzero
    exact absurd hzero.1 (by decide)

/-- A save of version 1 and a restore by a device that is not newer, which rewrites nothing. -/
theorem upgrade_provenance :
    ∃ s, Run.exec (Traced.step .compact "/data" "m") { fs := FileSystem.single "/data" (by decide) }
        [.save ((compilerOf [[1]] [2] [3]).cacheStore 3)
          ((compilerOf [[1]] [2] [3]).savedBuffers [[1]]) 1,
          .restoreFromCacheFile (envOf 3) (upgradeCompiler [] []) []] = .ok s ∧
      s.lastSaved 0 = some (1, [1]) ∧ s.Provenance .compact "/data" "m" := by
  obtain ⟨out, hout, hcode⟩ := upgrade_restored 3
  have hof : (upgradeCompiler [] []).ofModel "/data" "m" = upgradeCompiler [] [] := rfl
  have hquiet : (envOf 3).quiet .compact = envOf 3 := rfl
  have hrestored : Traced.step .compact "/data" "m" upgradeTraced
      (.restoreFromCacheFile (envOf 3) (upgradeCompiler [] []) [])
        = .ok { upgradeTraced with fs := out.fs } := by
    have hfs : upgradeTraced.fs = upgradeSaved := rfl
    rw [Traced.step, hof, hquiet, hfs, hout]
  have hrun : Run.exec (Traced.step .compact "/data" "m")
      { fs := FileSystem.single "/data" (by decide) }
      [.save ((compilerOf [[1]] [2] [3]).cacheStore 3)
        ((compilerOf [[1]] [2] [3]).savedBuffers [[1]]) 1,
        .restoreFromCacheFile (envOf 3) (upgradeCompiler [] []) []]
      = .ok { upgradeTraced with fs := out.fs } := by
    rw [Run.exec, upgrade_saved]
    dsimp only
    rw [Run.exec, hrestored]
    rfl
  refine ⟨_, hrun, upgradeTraced_first, Traced.provenance_of_meets compact_faithful ?_ ?_ hrun⟩
  · intro content hfind
    cases hfind
  · refine .cons upgrade_saved (fun hrefused => ?_) (.cons hrestored ?_ trivial)
    · exact absurd upgrade_accepts (hrefused "/data" 3)
    · -- The record that would be rewritten has the device's own op version.
      intro info hrewrites
      rw [hof, hquiet] at hrewrites
      obtain ⟨content, hfind, hread⟩ := hrewrites.read
      have hsaved : upgradeSaved.find? "/data" (infoFileName "m") = some _ :=
        upgrade_accepts.find?_info
      have hcontent : upgradeSaved.find? "/data" (infoFileName "m") = some content := hfind
      rw [hsaved] at hcontent
      cases hcontent
      have hinfo := (upgrade_accepts.checkCacheInfo_eq compact_faithful).symm.trans hread
      cases hinfo
      exact absurd hrewrites.newer (by decide)

end NNCompiler

end NNRt
