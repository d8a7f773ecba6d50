import NNRt.Device.Session

/-!
# Who holds what

The memory of the driver, the entries of the `MemoryManager` and what the runtime holds of
them belong together: a mapping has one entry, a buffer has one holder. Only a buffer the
driver has refused to release may be without one.

- `Accounts`: the accounts are right.
- `Accounts.allocate`, `Accounts.mapBuffer`, `Accounts.releasePointer` and the others: one
  lemma for each way in which something changes hands.
-/

namespace NNRt

/-- What the runtime holds: pointers to mapped buffers, descriptors of buffers that it has not
mapped, and the mappings of exported caches with their lengths. -/
structure Owners where
  pointers : List Address := []
  fds : List Int32 := []
  caches : List (Address × UInt64) := []

variable {o o' : Owners} {m m' : MemoryManager} {q q' : DeviceSession} {a : Address} {fd : Int32}
  {length : UInt64}

/-- What is at an address: nothing, a buffer of the driver, or an exported cache. -/
inductive AtAddress (o : Owners) (m : MemoryManager) (q : DeviceSession) (a : Address) : Prop
  | free (hlookup : m.memorys.lookup a = none) (hmapping : q.mappings a = none)
      (hpointers : a ∉ o.pointers) (hcaches : ∀ length, (a, length) ∉ o.caches)
  | buffer {fd : Int32} {length : UInt64} {b : DeviceBuffer}
      (hlookup : m.memorys.lookup a = some ⟨fd, length⟩)
      (hmapping : q.mappings a = some ⟨length, some fd⟩) (hbuffer : q.buffers fd = some b)
      (hlength : length.toNat ≤ b.size.toNat) (hfds : fd ∉ o.fds)
      (howner : a ∈ o.pointers ∨ b.refused = true) (hcaches : ∀ length, (a, length) ∉ o.caches)
  | cache {fd : Int32} {length : UInt64} (hlookup : m.memorys.lookup a = some ⟨fd, length⟩)
      (hmapping : q.mappings a = some ⟨length, none⟩) (hpointers : a ∉ o.pointers)
      (hcaches : (a, length) ∈ o.caches)

/-- What is behind a descriptor. -/
inductive AtDescriptor (o : Owners) (q : DeviceSession) (fd : Int32) : Prop
  | free (hbuffer : q.buffers fd = none) (hfds : fd ∉ o.fds)
  | buffer {b : DeviceBuffer} (hbuffer : q.buffers fd = some b) (hfd : 0 ≤ fd)
      (howner : b.refused = true ∨ fd ∈ o.fds ∨
        ∃ a ∈ o.pointers, ∃ length, q.mappings a = some ⟨length, some fd⟩)

/-- **The accounts are right.** -/
structure Accounts (o : Owners) (m : MemoryManager) (q : DeviceSession) : Prop where
  address : ∀ a, AtAddress o m q a
  descriptor : ∀ fd, AtDescriptor o q fd
  single : ∀ a a' length length' fd, q.mappings a = some ⟨length, some fd⟩ →
    q.mappings a' = some ⟨length', some fd⟩ → a = a'
  nodup_pointers : o.pointers.Nodup
  nodup_fds : o.fds.Nodup
  nodup_caches : (o.caches.map Prod.fst).Nodup

/-! ## What is at an address -/

/-- What else changes, an address keeps what it has. -/
theorem AtAddress.frame (h : AtAddress o m q a)
    (hlookup : m'.memorys.lookup a = m.memorys.lookup a) (hmapping : q'.mappings a = q.mappings a)
    (hbuffer : ∀ length fd b, q.mappings a = some ⟨length, some fd⟩ → q.buffers fd = some b →
      fd ∉ o.fds → ∃ b', q'.buffers fd = some b' ∧ b'.size = b.size ∧
        (b.refused = true → b'.refused = true) ∧ fd ∉ o'.fds)
    (hpointers : a ∈ o'.pointers ↔ a ∈ o.pointers)
    (hcaches : ∀ length, (a, length) ∈ o'.caches ↔ (a, length) ∈ o.caches) :
    AtAddress o' m' q' a := by
  cases h with
  | free hl hm hp hc =>
    exact .free (hlookup.trans hl) (hmapping.trans hm) (fun h => hp (hpointers.mp h))
      fun length h => hc length ((hcaches length).mp h)
  | @buffer fd length b hl hm hb hlen hfds ho hc =>
    obtain ⟨b', hb', hsize, hrefused, hfds'⟩ := hbuffer length fd b hm hb hfds
    refine .buffer (hlookup.trans hl) (hmapping.trans hm) hb' (hsize ▸ hlen) hfds' ?_
      fun length h => hc length ((hcaches length).mp h)
    exact ho.imp hpointers.mpr hrefused
  | cache hl hm hp hc =>
    exact .cache (hlookup.trans hl) (hmapping.trans hm) (fun h => hp (hpointers.mp h))
      ((hcaches _).mpr hc)

/-- What else changes, a buffer keeps its holder. -/
theorem AtDescriptor.frame (h : AtDescriptor o q fd) (hnone : q.buffers fd = none →
      q'.buffers fd = none)
    (hbuffer : ∀ b, q.buffers fd = some b → ∃ b', q'.buffers fd = some b' ∧
      (b.refused = true → b'.refused = true) ∧
      ∀ a ∈ o.pointers, ∀ length, q.mappings a = some ⟨length, some fd⟩ →
        b'.refused = true ∨ a ∈ o'.pointers ∧ q'.mappings a = some ⟨length, some fd⟩)
    (hfds : fd ∈ o'.fds ↔ fd ∈ o.fds) : AtDescriptor o' q' fd := by
  cases h with
  | free hb hf => exact .free (hnone hb) fun h => hf (hfds.mp h)
  | @buffer b hb hfd ho =>
    obtain ⟨b', hb', hrefused, hheld⟩ := hbuffer b hb
    refine .buffer hb' hfd ?_
    rcases ho with hr | hf | ⟨a, ha, length, hm⟩
    · exact .inl (hrefused hr)
    · exact .inr (.inl (hfds.mpr hf))
    · rcases hheld a ha length hm with hr | ⟨ha', hm'⟩
      · exact .inl hr
      · exact .inr (.inr ⟨a, ha', length, hm'⟩)

namespace Accounts

/-- Nothing is held in the beginning. -/
theorem empty : Accounts {} {} {} where
  address a := .free rfl rfl List.not_mem_nil fun _ => List.not_mem_nil
  descriptor fd := .free rfl List.not_mem_nil
  single a a' length length' fd h := by cases h
  nodup_pointers := .nil
  nodup_fds := .nil
  nodup_caches := .nil

/-- A pointer is one to a buffer of the driver. -/
theorem of_pointer (h : Accounts o m q) (ha : a ∈ o.pointers) : ∃ fd length b,
    m.memorys.lookup a = some ⟨fd, length⟩ ∧ q.mappings a = some ⟨length, some fd⟩ ∧
      q.buffers fd = some b ∧ length.toNat ≤ b.size.toNat ∧ fd ∉ o.fds ∧
      ∀ length, (a, length) ∉ o.caches := by
  cases h.address a with
  | free _ _ hp => exact absurd ha hp
  | buffer hl hm hb hlen hfds _ hc => exact ⟨_, _, _, hl, hm, hb, hlen, hfds, hc⟩
  | cache _ _ hp => exact absurd ha hp

/-- An exported cache is mapped, as long as it is. -/
theorem of_cache (h : Accounts o m q) (ha : (a, length) ∈ o.caches) : ∃ fd,
    m.memorys.lookup a = some ⟨fd, length⟩ ∧ q.mappings a = some ⟨length, none⟩ ∧
      a ∉ o.pointers := by
  cases h.address a with
  | free _ _ _ hc => exact absurd ha (hc length)
  | buffer _ _ _ _ _ _ hc => exact absurd ha (hc length)
  | cache hl hm hp hc =>
    -- Its length is the one that is noted.
    have heq := List.inj_on_of_nodup_map h.nodup_caches ha hc rfl
    cases heq
    exact ⟨_, hl, hm, hp⟩

/-- A buffer that is held by its descriptor is there, and not mapped. -/
theorem of_fd (h : Accounts o m q) (hfd : fd ∈ o.fds) :
    0 ≤ fd ∧ (∃ b, q.buffers fd = some b) ∧ ∀ a length, q.mappings a ≠ some ⟨length, some fd⟩ := by
  cases h.descriptor fd with
  | free _ hfds => exact absurd hfd hfds
  | buffer hb hpos _ =>
    refine ⟨hpos, ⟨_, hb⟩, fun a length hmapping => ?_⟩
    cases h.address a with
    | free _ hm => cases hm.symm.trans hmapping
    | buffer _ hm _ _ hfds =>
      cases hm.symm.trans hmapping
      exact hfds hfd
    | cache _ hm => cases hm.symm.trans hmapping

/-- Where nothing is mapped, there is no entry and nobody holds anything. -/
theorem of_unmapped (h : Accounts o m q) (ha : q.mappings a = none) :
    m.memorys.lookup a = none ∧ a ∉ o.pointers ∧ ∀ length, (a, length) ∉ o.caches := by
  cases h.address a with
  | free hl _ hp hc => exact ⟨hl, hp, hc⟩
  | buffer _ hm => cases hm.symm.trans ha
  | cache _ hm => cases hm.symm.trans ha

/-- What is mapped of a buffer is where that is, or its release was refused. -/
theorem mapping_buffer (h : Accounts o m q) (ha : q.mappings a = some ⟨length, some fd⟩) :
    ∃ b, q.buffers fd = some b ∧ (a ∈ o.pointers ∨ b.refused = true) := by
  cases h.address a with
  | free _ hm => cases hm.symm.trans ha
  | buffer _ hm hb _ _ ho =>
    cases hm.symm.trans ha
    exact ⟨_, hb, ho⟩
  | cache _ hm => cases hm.symm.trans ha

/-- No buffer is mapped twice behind a change at one address, if the buffer there was not
mapped. -/
theorem single_of (h : Accounts o m q) (hother : ∀ a', a' ≠ a → q'.mappings a' = q.mappings a')
    (hat : ∀ length fd, q'.mappings a = some ⟨length, some fd⟩ →
      ∀ a' length', q.mappings a' ≠ some ⟨length', some fd⟩) :
    ∀ a₁ a₂ length₁ length₂ fd, q'.mappings a₁ = some ⟨length₁, some fd⟩ →
      q'.mappings a₂ = some ⟨length₂, some fd⟩ → a₁ = a₂ := by
  intro a₁ a₂ length₁ length₂ fd h₁ h₂
  by_cases heq₁ : a₁ = a
  · by_cases heq₂ : a₂ = a
    · rw [heq₁, heq₂]
    · subst heq₁
      rw [hother a₂ heq₂] at h₂
      exact absurd h₂ (hat length₁ fd h₁ a₂ length₂)
  · rw [hother a₁ heq₁] at h₁
    by_cases heq₂ : a₂ = a
    · subst heq₂
      exact absurd h₁ (hat length₂ fd h₂ a₁ length₁)
    · rw [hother a₂ heq₂] at h₂
      exact h.single a₁ a₂ length₁ length₂ fd h₁ h₂

/-! ## What changes hands -/

/-- A buffer is written to, or its release is refused. -/
theorem change {f : DeviceBuffer → DeviceBuffer} (h : Accounts o m q)
    (hsize : ∀ b, (f b).size = b.size) (hrefused : ∀ b, b.refused = true → (f b).refused = true)
    (fd : Int32) : Accounts o m (q.change fd f) where
  address a := by
    refine (h.address a).frame rfl rfl (fun length fd' b _ hb hfds => ?_) .rfl fun _ => .rfl
    by_cases heq : fd' = fd
    · subst heq
      exact ⟨f b, by simp [DeviceSession.change, hb], hsize b, hrefused b, hfds⟩
    · exact ⟨b, by simpa [DeviceSession.change, heq] using hb, rfl, id, hfds⟩
  descriptor fd' := by
    refine (h.descriptor fd').frame (fun hb => ?_) (fun b hb => ?_) .rfl
    · by_cases heq : fd' = fd
      · subst heq
        simp [DeviceSession.change, hb]
      · simpa [DeviceSession.change, heq] using hb
    · by_cases heq : fd' = fd
      · subst heq
        exact ⟨f b, by simp [DeviceSession.change, hb], hrefused b, fun a ha _ hm => .inr ⟨ha, hm⟩⟩
      · exact ⟨b, by simpa [DeviceSession.change, heq] using hb, id,
          fun a ha _ hm => .inr ⟨ha, hm⟩⟩
  single := h.single
  nodup_pointers := h.nodup_pointers
  nodup_fds := h.nodup_fds
  nodup_caches := h.nodup_caches

theorem setBytes (h : Accounts o m q) (fd : Int32) (bytes : Nat → UInt8) :
    Accounts o m (q.setBytes fd bytes) :=
  h.change (f := fun b => { b with bytes := bytes }) (fun _ => rfl) (fun _ => id) fd

theorem refuse (h : Accounts o m q) (fd : Int32) : Accounts o m (q.refuse fd) :=
  h.change (f := fun b => { b with refused := true }) (fun _ => rfl) (fun _ _ => rfl) fd

/-- A new buffer, held by its descriptor. -/
theorem allocate (h : Accounts o m q) (hfresh : q.buffers fd = none) (hfd : 0 ≤ fd)
    (size : UInt32) : Accounts { o with fds := o.fds ++ [fd] } m (q.allocate fd size) := by
  have hnew : fd ∉ o.fds := by
    intro hmem
    obtain ⟨-, ⟨b, hb⟩, -⟩ := h.of_fd hmem
    cases hfresh.symm.trans hb
  refine ⟨fun a => ?_, fun fd' => ?_, h.single, h.nodup_pointers, ?_, h.nodup_caches⟩
  · refine (h.address a).frame rfl rfl (fun length fd' b _ hb hfds => ?_) .rfl fun _ => .rfl
    have hne : fd' ≠ fd := by
      rintro rfl
      cases hfresh.symm.trans hb
    exact ⟨b, by simpa [DeviceSession.allocate, hne] using hb, rfl, id, by simp [hfds, hne]⟩
  · by_cases heq : fd' = fd
    · subst heq
      exact .buffer (by simp [DeviceSession.allocate]; rfl) hfd (.inr (.inl (by simp)))
    · refine (h.descriptor fd').frame (fun hb => ?_) (fun b hb => ⟨b, ?_, id, ?_⟩) (by simp [heq])
      · simpa [DeviceSession.allocate, heq] using hb
      · simpa [DeviceSession.allocate, heq] using hb
      · exact fun a ha _ hm => .inr ⟨ha, hm⟩
  · exact List.nodup_append.mpr ⟨h.nodup_fds, List.nodup_singleton fd, fun x hx y hy => by
      rw [List.mem_singleton.mp hy]
      rintro rfl
      exact hnew hx⟩

/-- A buffer the driver has refused to release may be forgotten. -/
theorem forgetFd (h : Accounts o m q) (hrefused : ∀ b, q.buffers fd = some b → b.refused = true) :
    Accounts { o with fds := o.fds.filter (· ≠ fd) } m q := by
  refine ⟨fun a => ?_, fun fd' => ?_, h.single, h.nodup_pointers, h.nodup_fds.filter _,
    h.nodup_caches⟩
  · exact (h.address a).frame rfl rfl
      (fun _ fd' b _ hb hfds => ⟨b, hb, rfl, id, by simp [hfds]⟩) .rfl fun _ => .rfl
  · by_cases heq : fd' = fd
    · subst heq
      cases h.descriptor fd' with
      | free hb _ => exact .free hb (by simp)
      | buffer hb hfd _ => exact .buffer hb hfd (.inl (hrefused _ hb))
    · exact (h.descriptor fd').frame id
        (fun b hb => ⟨b, hb, id, fun a ha _ hm => .inr ⟨ha, hm⟩⟩) (by simp [heq])

/-- A descriptor is given back. -/
theorem releaseFd (h : Accounts o m q) (hfd : fd ∈ o.fds) :
    Accounts { o with fds := o.fds.filter (· ≠ fd) } m (q.release fd) := by
  obtain ⟨-, -, hunmapped⟩ := h.of_fd hfd
  -- No mapping is of this buffer, so that they stay as they are.
  have hmappings : (q.release fd).mappings = q.mappings := by
    funext a
    cases hm : q.mappings a with
    | none => simp [DeviceSession.release, hm]
    | some mapping =>
      obtain ⟨length, fd'⟩ := mapping
      have hne : fd' ≠ some fd := by
        rintro rfl
        exact hunmapped a length hm
      simp [DeviceSession.release, hm, hne]
  refine ⟨fun a => ?_, fun fd' => ?_, ?_, h.nodup_pointers, h.nodup_fds.filter _, h.nodup_caches⟩
  · refine (h.address a).frame rfl (congrFun hmappings a) (fun length fd' b hm hb hfds => ?_) .rfl fun _ => .rfl
    have hne : fd' ≠ fd := by
      rintro rfl
      exact hfds hfd
    exact ⟨b, by simpa [DeviceSession.release, hne] using hb, rfl, id, by simp [hfds]⟩
  · by_cases heq : fd' = fd
    · subst heq
      exact .free (by simp [DeviceSession.release]) (by simp)
    · refine (h.descriptor fd').frame (fun hb => ?_) (fun b hb => ⟨b, ?_, id, ?_⟩) (by simp [heq])
      · simpa [DeviceSession.release, heq] using hb
      · simpa [DeviceSession.release, heq] using hb
      · exact fun a ha _ hm => .inr ⟨ha, (congrFun hmappings a).trans hm⟩
  · rw [hmappings]
    exact h.single

/-- A buffer is mapped for a pointer. -/
theorem mapBuffer {b : DeviceBuffer} (h : Accounts o m q) (hfd : fd ∈ o.fds)
    (hb : q.buffers fd = some b) (hlength : length.toNat ≤ b.size.toNat)
    (hfresh : q.mappings a = none)
    (hm' : m'.memorys = m.memorys.insert a ⟨fd, length⟩) :
    Accounts { o with fds := o.fds.filter (· ≠ fd), pointers := o.pointers ++ [a] } m'
      (q.map a length fd) := by
  obtain ⟨hpos, -, hunmapped⟩ := h.of_fd hfd
  obtain ⟨-, hpointers, hcaches⟩ := h.of_unmapped hfresh
  have hother : ∀ a', a' ≠ a → (q.map a length fd).mappings a' = q.mappings a' := by
    intro a' hne
    simp [DeviceSession.map, hne]
  have hnew : (q.map a length fd).mappings a = some ⟨length, some fd⟩ := by
    simp [DeviceSession.map, hb]
  refine ⟨fun a' => ?_, fun fd' => ?_, ?_, ?_,
    h.nodup_fds.filter _, h.nodup_caches⟩
  · by_cases heq : a' = a
    · subst heq
      exact .buffer (by rw [hm', AList.lookup_insert]) hnew hb hlength (by simp) (.inl (by simp))
        hcaches
    · exact (h.address a').frame (by rw [hm', AList.lookup_insert_ne heq]) (hother a' heq)
        (fun _ fd' b _ hb hfds => ⟨b, hb, rfl, id, by simp [hfds]⟩) (by simp [heq]) (fun _ => .rfl)
  · by_cases heq : fd' = fd
    · subst heq
      exact .buffer hb hpos (.inr (.inr ⟨a, by simp, length, hnew⟩))
    · refine (h.descriptor fd').frame id (fun b hb => ⟨b, hb, id, ?_⟩) (by simp [heq])
      intro a' ha' length' hm
      have hne : a' ≠ a := by
        rintro rfl
        exact hpointers ha'
      exact .inr ⟨by simp [ha'], (hother a' hne).trans hm⟩
  · refine h.single_of hother fun length' fd' hm => ?_
    cases hnew.symm.trans hm
    exact hunmapped
  · refine List.nodup_append.mpr ⟨h.nodup_pointers, List.nodup_singleton a, fun x hx y hy => ?_⟩
    rw [List.mem_singleton.mp hy]
    rintro rfl
    exact hpointers hx

/-- A pointer to a buffer the driver has refused to release may be forgotten. -/
theorem forgetPointer (h : Accounts o m q)
    (hrefused : ∀ length fd b, q.mappings a = some ⟨length, some fd⟩ → q.buffers fd = some b →
      b.refused = true) :
    Accounts { o with pointers := o.pointers.filter (· ≠ a) } m q := by
  refine ⟨fun a' => ?_, fun fd' => ?_, h.single, h.nodup_pointers.filter _, h.nodup_fds,
    h.nodup_caches⟩
  · by_cases heq : a' = a
    · subst heq
      cases h.address a' with
      | free hl hm _ hc => exact .free hl hm (by simp) hc
      | buffer hl hm hb hlen hfds _ hc =>
        exact .buffer hl hm hb hlen hfds (.inr (hrefused _ _ _ hm hb)) hc
      | cache hl hm _ hc => exact .cache hl hm (by simp) hc
    · exact (h.address a').frame rfl rfl (fun _ _ b _ hb hfds => ⟨b, hb, rfl, id, hfds⟩)
        (by simp [heq]) (fun _ => .rfl)
  · refine (h.descriptor fd').frame id (fun b hb => ⟨b, hb, id, fun a' ha' length' hm => ?_⟩) .rfl
    by_cases heq : a' = a
    · subst heq
      exact .inl (hrefused _ _ _ hm hb)
    · exact .inr ⟨by simp [ha', heq], hm⟩

/-- A pointer is given back: the buffer is released, and unmapped. -/
theorem releasePointer (h : Accounts o m q) (ha : a ∈ o.pointers)
    (hmapping : q.mappings a = some ⟨length, some fd⟩) (hm' : m'.memorys = m.memorys.erase a) :
    Accounts { o with pointers := o.pointers.filter (· ≠ a) } m' ((q.release fd).unmap a) := by
  obtain ⟨fd₀, length₀, b₀, -, hm₀, -, -, hfds₀, hcaches₀⟩ := h.of_pointer ha
  cases hm₀.symm.trans hmapping
  have hnone : ((q.release fd).unmap a).mappings a = none := by
    simp [DeviceSession.unmap]
  -- Elsewhere nothing is of this buffer.
  have hother : ∀ a', a' ≠ a → ((q.release fd).unmap a).mappings a' = q.mappings a' := by
    intro a' hne
    cases hm : q.mappings a' with
    | none => simp [DeviceSession.unmap, DeviceSession.release, hne, hm]
    | some mapping =>
      obtain ⟨length', fd'⟩ := mapping
      have hfd' : fd' ≠ some fd := by
        rintro rfl
        exact hne (h.single a' a length' length fd hm hmapping)
      simp [DeviceSession.unmap, DeviceSession.release, hne, hm, hfd']
  refine ⟨fun a' => ?_, fun fd' => ?_, ?_,
    h.nodup_pointers.filter _, h.nodup_fds, h.nodup_caches⟩
  · by_cases heq : a' = a
    · subst heq
      exact .free (by rw [hm', AList.lookup_erase]) hnone (by simp) hcaches₀
    · refine (h.address a').frame (by rw [hm', AList.lookup_erase_ne heq]) (hother a' heq)
        (fun length' fd' b hm hb hfds => ⟨b, ?_, rfl, id, hfds⟩) (by simp [heq]) (fun _ => .rfl)
      have hne : fd' ≠ fd := by
        rintro rfl
        exact heq (h.single a' a length' length fd' hm hmapping)
      simpa [DeviceSession.unmap, DeviceSession.release, hne] using hb
  · by_cases heq : fd' = fd
    · subst heq
      exact .free (by simp [DeviceSession.unmap, DeviceSession.release]) hfds₀
    · refine (h.descriptor fd').frame (fun hb => ?_) (fun b hb => ⟨b, ?_, id, ?_⟩) .rfl
      · simpa [DeviceSession.unmap, DeviceSession.release, heq] using hb
      · simpa [DeviceSession.unmap, DeviceSession.release, heq] using hb
      · intro a' ha' length' hm
        have hne : a' ≠ a := by
          rintro rfl
          cases hm.symm.trans hmapping
          exact heq rfl
        exact .inr ⟨by simp [ha', hne], (hother a' hne).trans hm⟩
  · refine h.single_of hother fun length' fd' hm => ?_
    cases hnone.symm.trans hm

/-- The mapping of an exported cache is kept. -/
theorem mapCache {before after : List (Address × UInt64)} (h : Accounts o m q)
    (hcaches : o.caches = before ++ after) (hfd : q.buffers fd = none)
    (hfresh : q.mappings a = none) (hm' : m'.memorys = m.memorys.insert a ⟨fd, length⟩) :
    Accounts { o with caches := before ++ (a, length) :: after } m' (q.map a length fd) := by
  obtain ⟨-, hpointers, hcaches₀⟩ := h.of_unmapped hfresh
  have hmem : ∀ c, c ∈ before ++ (a, length) :: after ↔ c = (a, length) ∨ c ∈ o.caches := by
    intro c
    rw [hcaches, List.mem_append, List.mem_append, List.mem_cons]
    tauto
  have hother : ∀ a', a' ≠ a → (q.map a length fd).mappings a' = q.mappings a' := by
    intro a' hne
    simp [DeviceSession.map, hne]
  have hnew : (q.map a length fd).mappings a = some ⟨length, none⟩ := by
    simp [DeviceSession.map, hfd]
  refine ⟨fun a' => ?_, fun fd' => ?_, ?_,
    h.nodup_pointers, h.nodup_fds, ?_⟩
  · by_cases heq : a' = a
    · subst heq
      exact .cache (by rw [hm', AList.lookup_insert]) hnew hpointers ((hmem _).mpr (.inl rfl))
    · exact (h.address a').frame (by rw [hm', AList.lookup_insert_ne heq]) (hother a' heq)
        (fun _ _ b _ hb hfds => ⟨b, hb, rfl, id, hfds⟩) .rfl fun length' =>
          (hmem _).trans (or_iff_right fun h => heq (congrArg Prod.fst h))
  · refine (h.descriptor fd').frame id (fun b hb => ⟨b, hb, id, fun a' ha' length' hm => ?_⟩) .rfl
    have hne : a' ≠ a := by
      rintro rfl
      exact hpointers ha'
    exact .inr ⟨ha', (hother a' hne).trans hm⟩
  · refine h.single_of hother fun length' fd' hm => ?_
    cases hnew.symm.trans hm
  · dsimp only
    rw [(List.perm_middle.map Prod.fst).nodup_iff, List.map_cons, List.nodup_cons, ← hcaches]
    refine ⟨fun hmem => ?_, h.nodup_caches⟩
    obtain ⟨c, hc, hca⟩ := List.mem_map.mp hmem
    have heq : c = (a, c.2) := Prod.ext hca rfl
    exact hcaches₀ c.2 (heq ▸ hc)

/-- The mapping of an exported cache is undone. -/
theorem unmapCache {before after : List (Address × UInt64)} (h : Accounts o m q)
    (hcaches : o.caches = before ++ (a, length) :: after) (hm' : m'.memorys = m.memorys.erase a) :
    Accounts { o with caches := before ++ after } m' (q.unmap a) := by
  have hmem₀ : (a, length) ∈ o.caches := by
    rw [hcaches]
    simp
  obtain ⟨fd₀, -, hmapping₀, hpointers₀⟩ := h.of_cache hmem₀
  have hnodup : a ∉ (before ++ after).map Prod.fst ∧ ((before ++ after).map Prod.fst).Nodup := by
    have hall := h.nodup_caches
    rw [hcaches, (List.perm_middle.map Prod.fst).nodup_iff, List.map_cons] at hall
    exact List.nodup_cons.mp hall
  have hmem : ∀ c : Address × UInt64, c.1 ≠ a → (c ∈ before ++ after ↔ c ∈ o.caches) := by
    intro c hne
    have hc : c ≠ (a, length) := fun h => hne (congrArg Prod.fst h)
    rw [hcaches, List.mem_append, List.mem_append, List.mem_cons]
    tauto
  have hother : ∀ a', a' ≠ a → (q.unmap a).mappings a' = q.mappings a' := by
    intro a' hne
    simp [DeviceSession.unmap, hne]
  have hnone : (q.unmap a).mappings a = none := by
    simp [DeviceSession.unmap]
  refine ⟨fun a' => ?_, fun fd' => ?_, ?_,
    h.nodup_pointers, h.nodup_fds, hnodup.2⟩
  · by_cases heq : a' = a
    · subst heq
      exact .free (by rw [hm', AList.lookup_erase]) hnone hpointers₀ fun length' hc =>
        hnodup.1 (List.mem_map_of_mem hc)
    · exact (h.address a').frame (by rw [hm', AList.lookup_erase_ne heq]) (hother a' heq)
        (fun _ _ b _ hb hfds => ⟨b, hb, rfl, id, hfds⟩) .rfl fun length' => hmem (a', length') heq
  · refine (h.descriptor fd').frame id (fun b hb => ⟨b, hb, id, fun a' ha' length' hm => ?_⟩) .rfl
    have hne : a' ≠ a := by
      rintro rfl
      exact hpointers₀ ha'
    exact .inr ⟨ha', (hother a' hne).trans hm⟩
  · refine h.single_of hother fun length' fd' hm => ?_
    cases hnone.symm.trans hm

end Accounts

end NNRt
