import NNRt.Device.Accounts

/-!
# Buffers and the accounts

The functions that allocate, map and release keep the accounts: what they ask may be asked,
and the accounts are right again when they return, whatever the driver refuses.

- `Accounts.allocateBuffer`: a pointer is gained.
- `Accounts.releaseBuffer`: it is given back; **if the driver refuses, it may be forgotten**.
- `Accounts.allocateBufferFd` / `Accounts.releaseBufferFd`: the same of descriptors.
-/

namespace NNRt

open Asking (ask)

variable {ν α : Type} {call : DeviceCall ν} {o : Owners} {m m' : MemoryManager}
  {q q' : DeviceSession} {a : Address} {fd : Int32} {length : UInt64}

namespace DeviceCall

@[simp] theorem keeps_pure {post : α → MemoryManager → DeviceSession → Prop} {x : α} :
    call.Keeps post (pure x) m q ↔ post x m q :=
  Iff.rfl

@[simp] theorem keeps_get {post : MemoryManager → MemoryManager → DeviceSession → Prop} :
    call.Keeps post get m q ↔ post m m q :=
  Iff.rfl

@[simp] theorem keeps_set {post : PUnit → MemoryManager → DeviceSession → Prop} :
    call.Keeps post (set m') m q ↔ post ⟨⟩ m' q :=
  Iff.rfl

@[simp] theorem keeps_bind {β : Type} {post : β → MemoryManager → DeviceSession → Prop}
    {program : DeviceM α} {next : α → DeviceM β} : call.Keeps post (program >>= next) m q ↔
      call.Keeps (fun x m q => call.Keeps post (next x) m q) program m q :=
  Asking.obeys_bind

/-- A question that may be asked. -/
theorem keeps_ask {req : DeviceRequest} {post : req.Answer → MemoryManager →
    DeviceSession → Prop} (hpermits : call.Permits q req)
    (hpost : ∀ answer, q.Relied req answer → post answer m (q.after ⟨req, answer⟩)) :
    call.Keeps post (ask req) m q :=
  Asking.obeys_ask.mpr fun answer hanswer => ⟨_, if_pos hpermits, hpost answer hanswer⟩

/-- A question that may be asked, and what follows. -/
theorem keeps_ask_bind {β : Type} {req : DeviceRequest} {next : req.Answer → DeviceM β}
    {post : β → MemoryManager → DeviceSession → Prop} (hpermits : call.Permits q req)
    (hnext : ∀ answer, q.Relied req answer →
      call.Keeps post (next answer) m (q.after ⟨req, answer⟩)) :
    call.Keeps post (ask req >>= next) m q :=
  keeps_bind.mpr (keeps_ask hpermits hnext)

/-- What holds after a program follows from what is known of it. -/
theorem Keeps.bind {β : Type} {mid : α → MemoryManager → DeviceSession → Prop}
    {post : β → MemoryManager → DeviceSession → Prop} {program : DeviceM α} {next : α → DeviceM β}
    (h : call.Keeps mid program m q)
    (hnext : ∀ x m q, mid x m q → call.Keeps post (next x) m q) :
    call.Keeps post (program >>= next) m q :=
  Asking.Obeys.bind h hnext

end DeviceCall

open DeviceCall (keeps_pure keeps_get keeps_set keeps_bind keeps_ask_bind)

/-! ## Mapped memory -/

namespace MemoryManager

theorem mapMemory_eq (hfd : ¬ fd < 0) (hlength : length ≠ 0) (hlimit : ¬ length > allocateBufferLimit)
    (hnew : m.memorys.lookup a = none) : ∃ m', m.mapMemory (some a) fd length = (some a, m') ∧
      m'.memorys = m.memorys.insert a ⟨fd, length⟩ := by
  unfold mapMemory
  rw [if_neg hfd, dif_neg (not_or.mpr ⟨hlength, hlimit⟩)]
  exact ⟨_, rfl, by simp [emplace, hnew]⟩

theorem mapMemory_none : m.mapMemory none fd length = (none, m) := by
  unfold mapMemory
  split
  · rfl
  · split <;> rfl

theorem unMapMemory_eq {memory : Memory} (h : m.memorys.lookup a = some memory) :
    ∃ m', m.unMapMemory true (some a) = (.success, m') ∧ m'.memorys = m.memorys.erase a := by
  unfold unMapMemory
  dsimp only
  rw [if_neg (by rw [h]; exact Bool.false_ne_true)]
  exact ⟨_, rfl, rfl⟩

theorem getMemory_eq {memory : Memory} (h : m.memorys.lookup a = some memory) :
    m.getMemory (some a) = .ok memory := by
  unfold getMemory
  dsimp only
  rw [h]

/-- Nothing is mapped, or something new is. -/
theorem map_keeps {post : Option Address → MemoryManager → DeviceSession → Prop}
    (hfree : ∀ a, q.mappings a = none → m.memorys.lookup a = none)
    (hpermits : length ≤ allocateBufferLimit → ∀ b, q.buffers fd = some b →
      length.toNat ≤ b.size.toNat)
    (hnone : post none m q)
    (hsome : ∀ a m', 0 ≤ fd → length ≠ 0 → length ≤ allocateBufferLimit → q.mappings a = none →
      m'.memorys = m.memorys.insert a ⟨fd, length⟩ → post (some a) m' (q.map a length fd)) :
    call.Keeps post (MemoryManager.map fd length) m q := by
  unfold MemoryManager.map
  by_cases hrefused : fd < 0 ∨ length = 0 ∨ length > allocateBufferLimit
  · rw [if_pos hrefused]
    simp only [keeps_bind, keeps_pure, keeps_get, keeps_set]
    rw [mapMemory_none]
    exact hnone
  · rw [if_neg hrefused]
    simp only [not_or] at hrefused
    obtain ⟨hfd, hlength, hlimit⟩ := hrefused
    refine keeps_ask_bind (hpermits (UInt64.not_lt.mp hlimit)) fun answer hanswer => ?_
    simp only [keeps_bind, keeps_pure, keeps_get, keeps_set]
    cases answer with
    | none =>
      rw [mapMemory_none]
      exact hnone
    | some a =>
      obtain ⟨hpos, hfresh⟩ := hanswer a rfl
      obtain ⟨m', heq, hm'⟩ := mapMemory_eq hfd hlength hlimit (hfree a hfresh)
      rw [heq]
      exact hsome a m' hpos hlength (UInt64.not_lt.mp hlimit) hfresh hm'

/-- What is mapped is unmapped. -/
theorem unMap_keeps {post : ReturnCode → MemoryManager → DeviceSession → Prop} {memory : Memory}
    {mapping : DeviceMapping} (hlookup : m.memorys.lookup a = some memory)
    (hmapping : q.mappings a = some mapping) (hlength : mapping.length = memory.length)
    (hpost : ∀ m', m'.memorys = m.memorys.erase a → post .success m' (q.unmap a)) :
    call.Keeps post (MemoryManager.unMap (some a)) m q := by
  unfold MemoryManager.unMap
  dsimp only
  rw [keeps_bind, keeps_get, hlookup]
  dsimp only
  refine keeps_ask_bind ⟨mapping, hmapping, hlength⟩ fun answer hanswer => ?_
  -- A whole mapping can be undone.
  obtain rfl : answer = true := hanswer ⟨mapping, hmapping, hlength⟩
  obtain ⟨m', heq, hm'⟩ := unMapMemory_eq hlookup
  rw [heq]
  exact hpost m' hm'

end MemoryManager

/-! ## Buffers -/

/-- The descriptor is held as well, if it is one. -/
def Owners.lend (o : Owners) (fd : Int32) : Owners :=
  if 0 ≤ fd then { o with fds := o.fds ++ [fd] } else o

theorem filter_ne_append {β : Type} [DecidableEq β] {x : β} {l : List β} (h : x ∉ l) :
    (l ++ [x]).filter (· ≠ x) = l := by
  rw [List.filter_append, List.filter_eq_self.mpr fun y hy => ?_]
  · simp
  · simp only [decide_eq_true_eq]
    rintro rfl
    exact h hy

namespace Accounts

theorem of_lend (h : Accounts (o.lend fd) m q) : fd ∉ o.fds := by
  unfold Owners.lend at h
  split at h
  · have hnodup := h.nodup_fds
    intro hmem
    exact (List.nodup_append.mp hnodup).2.2 fd hmem fd List.mem_cons_self rfl
  next hfd =>
    intro hmem
    exact hfd (h.of_fd hmem).1

theorem lend_buffer (h : Accounts (o.lend fd) m q) : q.Knows fd := by
  by_cases hfd : 0 ≤ fd
  · refine .inr ?_
    rw [Owners.lend, if_pos hfd] at h
    have hheld : fd ∈ o.fds ++ [fd] := by simp
    obtain ⟨-, ⟨b, hb⟩, -⟩ := h.of_fd hheld
    rw [hb]
    rfl
  · exact .inl (Int32.not_le.mp hfd)

/-- The driver allocates a buffer, or it does not. -/
theorem ask_allocate (h : Accounts o m q) {size : UInt32} {answer : Bool × HDISharedBuffer}
    (hrelied : q.Relied (.allocateBuffer size) answer) :
    (answer.1 = false → q.after ⟨.allocateBuffer size, answer⟩ = q) ∧
    (answer.1 = true →
      Accounts (o.lend answer.2.fd) m (q.after ⟨.allocateBuffer size, answer⟩) ∧
      ∀ b, (q.after ⟨.allocateBuffer size, answer⟩).buffers answer.2.fd = some b →
        b.size = answer.2.bufferSize ∧ size ≤ b.size) := by
  obtain ⟨succeeded, buffer⟩ := answer
  constructor
  · rintro rfl
    rfl
  · rintro rfl
    dsimp only [Owners.lend, DeviceSession.after]
    by_cases hfd : 0 ≤ buffer.fd
    · obtain ⟨hfresh, hsize⟩ := hrelied rfl hfd
      rw [if_pos hfd, if_pos ⟨rfl, hfd⟩]
      refine ⟨h.allocate hfresh hfd _, fun b hb => ?_⟩
      obtain rfl : _ = b := by simpa [DeviceSession.allocate] using hb
      exact ⟨rfl, hsize⟩
    · rw [if_neg hfd, if_neg fun h => hfd h.2]
      refine ⟨h, fun b hb => ?_⟩
      cases h.descriptor buffer.fd with
      | free hb' _ => cases hb'.symm.trans hb
      | buffer _ hfd' _ => exact absurd hfd' hfd

/-- The driver releases a buffer that is held by its descriptor, or it refuses to. -/
theorem ask_release (h : Accounts (o.lend fd) m q) {buffer : HDISharedBuffer} (hfd : buffer.fd = fd)
    (answer : Bool) : Accounts o m (q.after ⟨.releaseBuffer buffer, answer⟩) := by
  have hnew : fd ∉ o.fds := h.of_lend
  subst hfd
  unfold Owners.lend at h
  by_cases hneg : buffer.fd < 0
  · rw [if_neg (Int32.not_le.mpr hneg)] at h
    rw [DeviceSession.after, if_pos hneg]
    exact h
  · rw [if_pos (Int32.not_lt.mp hneg)] at h
    rw [DeviceSession.after, if_neg hneg]
    have hheld : buffer.fd ∈ o.fds ++ [buffer.fd] := by simp
    cases answer with
    | true =>
      have hreleased := h.releaseFd hheld
      dsimp only at hreleased
      rw [filter_ne_append hnew] at hreleased
      exact hreleased
    | false =>
      have hmarked : ∀ b, (q.refuse buffer.fd).buffers buffer.fd = some b → b.refused = true := by
        intro b hb
        simp only [DeviceSession.refuse, DeviceSession.change, Function.update_self,
          Option.map_eq_some_iff] at hb
        obtain ⟨b', -, rfl⟩ := hb
        rfl
      have hrefused := (h.refuse buffer.fd).forgetFd hmarked
      dsimp only at hrefused
      rw [filter_ne_append hnew] at hrefused
      exact hrefused

theorem lookup_free (h : Accounts o m q) : ∀ a, q.mappings a = none →
    m.memorys.lookup a = none :=
  fun _ ha => (h.of_unmapped ha).1

/-- A length within the limit is not cut when the driver is told 32 bits of it. -/
theorem toUInt32_toNat (hlength : length ≤ allocateBufferLimit) :
    length.toUInt32.toNat = length.toNat := by
  have hle : length.toNat ≤ 1024 * 1024 * 1024 := UInt64.le_iff_toNat_le.mp hlength
  rw [UInt64.toNat_toUInt32]
  omega

/-- `AllocateBuffer` of memory: a pointer is gained, or nothing. -/
theorem allocateBuffer (h : Accounts o m q) {post : Option Address → MemoryManager →
    DeviceSession → Prop} (hnone : ∀ q', Accounts o m q' → post none m q')
    (hsome : ∀ a fd m' q', Accounts { o with pointers := o.pointers ++ [a] } m' q' →
      q'.mappings a = some ⟨length, some fd⟩ → length ≤ allocateBufferLimit →
      post (some a) m' q') :
    call.Keeps post (HDIDevice.allocateBuffer length) m q := by
  unfold HDIDevice.allocateBuffer
  by_cases hzero : length = 0
  · rw [if_pos hzero]
    exact hnone q h
  rw [if_neg hzero]
  refine keeps_ask_bind trivial fun answer hanswer => ?_
  obtain ⟨hfailed, hallocated⟩ := h.ask_allocate hanswer
  obtain ⟨succeeded, buffer⟩ := answer
  cases succeeded with
  | false =>
    rw [hfailed rfl]
    exact hnone q h
  | true =>
    obtain ⟨hlent, hsize⟩ := hallocated rfl
    rw [if_neg (by simp), keeps_bind]
    refine MemoryManager.map_keeps hlent.lookup_free (fun hlimit b hb => ?_) ?_ ?_
    · rw [← toUInt32_toNat hlimit]
      exact UInt32.le_iff_toNat_le.mp (hsize b hb).2
    · -- It cannot be mapped, and is given back.
      exact keeps_ask_bind hlent.lend_buffer fun answer _ => hnone _ (hlent.ask_release rfl answer)
    · intro a m' hpos _ hlimit hfresh hm'
      have hnew : buffer.fd ∉ o.fds := hlent.of_lend
      unfold Owners.lend at hlent
      rw [if_pos hpos] at hlent
      have hheld : buffer.fd ∈ o.fds ++ [buffer.fd] := by simp
      obtain ⟨-, ⟨b, hb⟩, -⟩ := hlent.of_fd hheld
      have hfits : length.toNat ≤ b.size.toNat := by
        rw [← toUInt32_toNat hlimit]
        exact UInt32.le_iff_toNat_le.mp (hsize b hb).2
      have hmapped := hlent.mapBuffer hheld hb hfits hfresh hm'
      dsimp only at hmapped
      rw [filter_ne_append hnew] at hmapped
      exact hsome a buffer.fd m' _ hmapped (by simp [DeviceSession.map, hb]) hlimit

/-- `AllocateBuffer` of a descriptor. -/
theorem allocateBufferFd (h : Accounts o m q) {post : ReturnCode × Option Int32 → MemoryManager →
    DeviceSession → Prop} (hfailed : ∀ ret, post (ret, none) m q)
    (hpost : ∀ fd q', Accounts (o.lend fd) m q' → post (.success, some fd) m q') :
    call.Keeps post (HDIDevice.allocateBufferFd length) m q := by
  unfold HDIDevice.allocateBufferFd
  by_cases hzero : length = 0
  · rw [if_pos hzero]
    exact hfailed _
  rw [if_neg hzero]
  refine keeps_ask_bind trivial fun answer hanswer => ?_
  obtain ⟨hrefused, hallocated⟩ := h.ask_allocate hanswer
  obtain ⟨succeeded, buffer⟩ := answer
  cases succeeded with
  | false =>
    rw [hrefused rfl]
    exact hfailed _
  | true => exact hpost buffer.fd _ (hallocated rfl).1

theorem after_release (hfd : ¬ fd < 0) (answer : Bool) :
    q.after ⟨.releaseBuffer (HDIDevice.wholeBuffer fd length), answer⟩ =
      bif answer then q.release fd else q.refuse fd :=
  if_neg hfd

/-- `ReleaseBuffer` of a descriptor that is held: if the driver refuses, it is still held. -/
theorem releaseBufferFd (h : Accounts o m q) {post : ReturnCode → MemoryManager →
    DeviceSession → Prop} (hfd : fd ∈ o.fds)
    (hfailed : ∀ q', Accounts o m q' → post .failed m q')
    (hpost : ∀ q', Accounts { o with fds := o.fds.filter (· ≠ fd) } m q' → post .success m q') :
    call.Keeps post (HDIDevice.releaseBufferFd fd length) m q := by
  obtain ⟨hpos, ⟨b, hb⟩, -⟩ := h.of_fd hfd
  unfold HDIDevice.releaseBufferFd
  have hknows : q.Knows fd := .inr (by rw [hb]; rfl)
  refine keeps_ask_bind hknows fun answer _ => ?_
  rw [after_release (Int32.not_lt.mpr hpos)]
  cases answer with
  | true => exact hpost _ (h.releaseFd hfd)
  | false => exact hfailed _ (h.refuse fd)

/-- `ReleaseBuffer` of a pointer that is held. If the driver refuses, it is still held; then
the buffer may be forgotten. -/
theorem releaseBuffer (h : Accounts o m q) {post : ReturnCode → MemoryManager →
    DeviceSession → Prop} (ha : a ∈ o.pointers)
    (hfailed : ∀ q', Accounts o m q' → Accounts { o with pointers := o.pointers.filter (· ≠ a) } m q' →
      post .failed m q')
    (hpost : ∀ m' q', Accounts { o with pointers := o.pointers.filter (· ≠ a) } m' q' →
      post .success m' q') :
    call.Keeps post (HDIDevice.releaseBuffer (some a)) m q := by
  obtain ⟨fd, length, b, hlookup, hmapping, hb, -, hfds, hcaches⟩ := h.of_pointer ha
  have hpos : ¬ fd < 0 := by
    cases h.descriptor fd with
    | free hb' _ => cases hb'.symm.trans hb
    | buffer _ hfd _ => exact Int32.not_lt.mpr hfd
  unfold HDIDevice.releaseBuffer
  rw [if_neg (by simp), keeps_bind, keeps_get]
  rw [MemoryManager.getMemory_eq hlookup]
  have hknows : q.Knows fd := .inr (by rw [hb]; rfl)
  refine keeps_ask_bind hknows fun answer _ => ?_
  rw [after_release hpos]
  cases answer with
  | false =>
    refine hfailed _ (h.refuse fd) ((h.refuse fd).forgetPointer fun length' fd' b' hm hb' => ?_)
    cases hmapping.symm.trans hm
    simp only [DeviceSession.refuse, DeviceSession.change, Function.update_self, hb,
      Option.map_some, Option.some.injEq] at hb'
    rw [← hb']
  | true =>
    have hreleased : (q.release fd).mappings a = some ⟨length, none⟩ := by
      simp [DeviceSession.release, hmapping]
    refine MemoryManager.unMap_keeps hlookup hreleased rfl fun m' hm' => ?_
    exact hpost m' _ (h.releasePointer ha hmapping hm')

end Accounts

end NNRt
