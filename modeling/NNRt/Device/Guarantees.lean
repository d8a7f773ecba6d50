import NNRt.Device.Runs

/-!
# What the users of a device can count on

Results about whole runs of disciplined callers, with any driver that is not to be trusted
with more than its own memory.

- `run_permitted`: **nothing is asked that may not be asked**, and no call ends in an error
  of memory.
- `outstanding_iff`: who holds the buffers of the driver.
- `exported_mapped`: an exported cache is mapped as long as its prepared model lives.
- `all_given_back`: **when everything was given back, nothing is left**, unless the driver has
  refused a release.
-/

namespace NNRt

namespace DeviceSession

/-- A release that was refused. -/
def isRefusal : DeviceExchange → Bool
  | ⟨.releaseBuffer _, released⟩ => !released
  | _ => false

/-- No buffer was refused. -/
def Unrefused (q : DeviceSession) : Prop :=
  ∀ fd b, q.buffers fd = some b → b.refused = false

variable {q : DeviceSession} {e : DeviceExchange} {said : List DeviceExchange}

theorem Unrefused.change (h : q.Unrefused) {f : DeviceBuffer → DeviceBuffer}
    (hf : ∀ b, (f b).refused = b.refused) (fd : Int32) : (q.change fd f).Unrefused := by
  intro fd' b hb
  by_cases heq : fd' = fd
  · subst heq
    simp only [DeviceSession.change, Function.update_self, Option.map_eq_some_iff] at hb
    obtain ⟨b₀, hb₀, rfl⟩ := hb
    rw [hf]
    exact h fd' b₀ hb₀
  · exact h fd' b (by simpa [DeviceSession.change, heq] using hb)

theorem Unrefused.after (h : q.Unrefused) (he : isRefusal e = false) : (q.after e).Unrefused := by
  obtain ⟨req, answer⟩ := e
  cases req with
  | allocateBuffer length =>
    unfold DeviceSession.after
    dsimp only
    split
    · intro fd b hb
      by_cases heq : fd = answer.2.fd
      · simp only [heq, allocate, Function.update_self, Option.some.injEq] at hb
        rw [← hb]
      · exact h fd b (by simpa [allocate, heq] using hb)
    · exact h
  | releaseBuffer buffer =>
    cases answer with
    | false => cases he
    | true =>
      unfold DeviceSession.after
      dsimp only
      split
      · exact h
      · intro fd b hb
        by_cases heq : fd = buffer.fd
        · simp [heq, release] at hb
        · exact h fd b (by simpa [release, heq] using hb)
  | mmap length fd =>
    cases answer with
    | none => exact h
    | some address => exact h
  | munmap address length =>
    cases answer with
    | false => exact h
    | true => exact h
  | write address offset data =>
    unfold DeviceSession.after write
    dsimp only
    split
    · exact h
    · exact h.change (f := fun b => { b with bytes := Packing.writeAt b.bytes offset data })
        (fun _ => rfl) _
  | getSupportedOperation | prepareModel | prepareModelFromModelCache | prepareOfflineModel
  | exportModelCache => exact h

theorem Unrefused.read (h : q.Unrefused) (hsaid : ∀ e ∈ said, isRefusal e = false) :
    (q.read said).Unrefused := by
  induction said generalizing q with
  | nil => exact h
  | cons e said ih =>
    exact ih (h.after (hsaid e List.mem_cons_self)) fun e' he' => hsaid e' (List.mem_cons_of_mem _ he')

end DeviceSession

namespace DeviceSystem

variable {ν : Type} {default : Accessor → ν} {marshal : NodeType → List (Attribute × ν) → List Int8}
  {party : DeviceParty} {s : DeviceSystem ν} {calls : List (DeviceCall ν)}

/-! ## A driver -/

/-- A driver that does what it is asked; descriptors, addresses and prepared models are numbered
with the questions. -/
def honestDriver : DeviceParty := fun said req =>
  let q := DeviceSession.read {} said
  let fd := Int32.ofNat said.length
  match req with
  | .allocateBuffer length =>
    if (q.buffers fd).isNone then (true, HDIDevice.wholeBuffer fd length.toUInt64)
    else (false, ⟨-1, 0, 0, 0⟩)
  | .releaseBuffer _ | .munmap _ _ => true
  | .getSupportedOperation model => (true, model.nodes.map fun _ => true)
  | .prepareModel _ _ | .prepareModelFromModelCache _ _ | .prepareOfflineModel _ _ =>
    (true, some said.length)
  | .exportModelCache _ =>
    if (q.buffers fd).isNone then (true, [HDIDevice.wholeBuffer fd 4]) else (false, [])
  | .mmap _ descriptor =>
    if 0 ≤ descriptor ∧ (q.mappings (.inner said.length)).isNone then some (.inner said.length)
    else none
  | .write _ _ _ => ()

theorem honestDriver_trustworthy : Trustworthy honestDriver := by
  intro said req
  cases req with
  | allocateBuffer length =>
    intro hsucceeded _
    unfold honestDriver at hsucceeded ⊢
    dsimp only at hsucceeded ⊢
    split at hsucceeded
    next hfree =>
      rw [if_pos hfree]
      refine ⟨Option.isNone_iff_eq_none.mp hfree, UInt32.le_iff_toNat_le.mpr (Nat.le_of_eq ?_)⟩
      rw [HDIDevice.wholeBuffer, UInt32.toUInt32_toUInt64]
    · cases hsucceeded
  | mmap length fd =>
    intro address haddress
    unfold honestDriver at haddress
    obtain ⟨⟨hfd, hfree⟩, haddress⟩ := Option.ite_none_right_eq_some.mp haddress
    cases haddress
    exact ⟨hfd, Option.isNone_iff_eq_none.mp hfree⟩
  | munmap address length => exact fun _ => rfl
  | exportModelCache preparedModel =>
    intro buffer hbuffer
    unfold honestDriver at hbuffer
    dsimp only at hbuffer
    split at hbuffer
    next hfree =>
      cases List.mem_singleton.mp hbuffer
      exact Option.isNone_iff_eq_none.mp hfree
    · cases hbuffer
  | releaseBuffer | getSupportedOperation | prepareModel | prepareModelFromModelCache
  | prepareOfflineModel | write => trivial

/-- A model with constants and an offline model are prepared, a cache is exported, and memory is
allocated and released. -/
def deviceCalls : List (DeviceCall UInt32) :=
  let config : ModelConfig := ⟨false, .none, .none, false⟩
  let offline : HDIDevice.OfflineGraph :=
    ⟨[0, 1], [("level", [3])], [some (HDIModel.byteTensor []), some (HDIModel.byteTensor [7, 8])]⟩
  [.prepareModel (some HDIModel.mixedGraph) config { constTensorSize := 8 }, .allocateBuffer 16,
    .prepareOfflineModel (some offline) config {}, .exportModelCache 0,
    .releaseBuffer (some (.inner 8)), .destroy 0, .destroy 1, .allocateBufferFd 8,
    .releaseBufferFd 20 8]

theorem deviceCalls_disciplined :
    DisciplinedRun (fun _ => 0) writeFields honestDriver deviceCalls := by
  decide +kernel

/-- The cache is exported, and nothing is given back yet. -/
theorem beginning_disciplined :
    DisciplinedRun (fun _ => 0) writeFields honestDriver (deviceCalls.take 4) := by
  decide +kernel

/-! ## Guarantees -/

/-- **Whatever the driver refuses**, no call of disciplined callers ends in an error of memory, and
all that was asked might be asked: releases only of what the driver has allocated, mappings no
larger than their buffers and undone once, writes inside them, and questions about a
model while its constants are in the buffer it names. -/
theorem run_permitted (hparty : Trustworthy party)
    (hcalls : DisciplinedRun default marshal party calls) :
    ∃ s, Run.exec (step default marshal party) {} calls = .ok s ∧ AllPermitted {} s.heard := by
  obtain ⟨s, hrun, hkept⟩ := run_kept hparty hcalls
  exact ⟨s, hrun, hkept.permitted⟩

theorem run_permitted_deviceCalls :
    ∃ s, Run.exec (step (fun _ => 0) writeFields honestDriver) {} deviceCalls = .ok s ∧
      AllPermitted {} s.heard :=
  run_permitted honestDriver_trustworthy deviceCalls_disciplined

theorem kept_of_run (hparty : Trustworthy party)
    (hcalls : DisciplinedRun default marshal party calls)
    (h : Run.exec (step default marshal party) {} calls = .ok s) : Kept s := by
  obtain ⟨s', hrun, hkept⟩ := run_kept hparty hcalls
  cases h.symm.trans hrun
  exact hkept

/-- **Who holds a buffer**: it is allocated and not released iff its descriptor was handed out,
or a pointer to where it is mapped, or the driver has refused to release it. -/
theorem outstanding_iff (hparty : Trustworthy party)
    (hcalls : DisciplinedRun default marshal party calls)
    (h : Run.exec (step default marshal party) {} calls = .ok s) (fd : Int32) :
    (s.session.buffers fd).isSome ↔ fd ∈ s.holdings.fds ∨
      (∃ a ∈ s.holdings.pointers, ∃ length, s.session.mappings a = some ⟨length, some fd⟩) ∨
      ∃ b, s.session.buffers fd = some b ∧ b.refused = true := by
  have haccounts := (kept_of_run hparty hcalls h).holds.accounts
  constructor
  · intro hsome
    cases haccounts.descriptor fd with
    | free hb _ =>
      rw [hb] at hsome
      cases hsome
    | buffer hb _ howner =>
      rcases howner with hrefused | hfd | hpointer
      · exact .inr (.inr ⟨_, hb, hrefused⟩)
      · exact .inl hfd
      · exact .inr (.inl hpointer)
  · rintro (hfd | ⟨a, -, length, hmapping⟩ | ⟨b, hb, -⟩)
    · obtain ⟨-, ⟨b, hb⟩, -⟩ := haccounts.of_fd hfd
      rw [hb]
      rfl
    · obtain ⟨b, hb, -⟩ := haccounts.mapping_buffer hmapping
      rw [hb]
      rfl
    · rw [hb]
      rfl

/-- The buffer that was allocated for a pointer is that of a pointer. -/
theorem outstanding_iff_beginning :
    ∃ s, Run.exec (step (fun _ => 0) writeFields honestDriver) {} (deviceCalls.take 4) = .ok s ∧
      ((7 : Int32) ∈ s.holdings.fds ∨
        (∃ a ∈ s.holdings.pointers, ∃ length, s.session.mappings a = some ⟨length, some 7⟩) ∨
        ∃ b, s.session.buffers 7 = some b ∧ b.refused = true) := by
  obtain ⟨s, hrun, -⟩ := run_kept honestDriver_trustworthy beginning_disciplined
  refine ⟨s, hrun, ?_⟩
  have hsome : (Run.exec (step (fun _ => 0) writeFields honestDriver) {}
      (deviceCalls.take 4)).toOption.any (fun s => (s.session.buffers 7).isSome) = true := by
    decide +kernel
  rw [hrun] at hsome
  exact (outstanding_iff honestDriver_trustworthy beginning_disciplined hrun 7).mp hsome

theorem mem_caches {a : Address} {length : UInt64} {h : DeviceHoldings} :
    (a, length) ∈ h.caches ↔ ∃ p, some p ∈ h.prepared ∧ (a, length) ∈ p.exported := by
  unfold DeviceHoldings.caches
  rw [List.mem_flatMap]
  constructor
  · rintro ⟨p, hp, hmem⟩
    cases p with
    | none => cases hmem
    | some p => exact ⟨p, hp, hmem⟩
  · rintro ⟨p, hp, hmem⟩
    exact ⟨some p, hp, hmem⟩

/-- **Exported caches**: what is mapped apart from the buffers is what the prepared models that
live have exported, at that address and with that length. -/
theorem exported_mapped (hparty : Trustworthy party)
    (hcalls : DisciplinedRun default marshal party calls)
    (h : Run.exec (step default marshal party) {} calls = .ok s) (a : Address) (length : UInt64) :
    s.session.mappings a = some ⟨length, none⟩ ↔
      ∃ p, some p ∈ s.holdings.prepared ∧ (a, length) ∈ p.exported := by
  have haccounts := (kept_of_run hparty hcalls h).holds.accounts
  rw [← mem_caches]
  constructor
  · intro hmapping
    cases haccounts.address a with
    | free _ hm => cases hm.symm.trans hmapping
    | buffer _ hm => cases hm.symm.trans hmapping
    | cache _ hm _ hcaches =>
      cases hm.symm.trans hmapping
      exact hcaches
  · intro hmem
    obtain ⟨fd, -, hmapping, -⟩ := haccounts.of_cache hmem
    exact hmapping

/-- The cache of the first model, which is not destroyed. -/
theorem exported_mapped_beginning :
    ∃ s, Run.exec (step (fun _ => 0) writeFields honestDriver) {} (deviceCalls.take 4) = .ok s ∧
      ∃ p, some p ∈ s.holdings.prepared ∧ (Address.inner 16, 4) ∈ p.exported := by
  obtain ⟨s, hrun, -⟩ := run_kept honestDriver_trustworthy beginning_disciplined
  refine ⟨s, hrun, ?_⟩
  have hmapped : (Run.exec (step (fun _ => 0) writeFields honestDriver) {}
      (deviceCalls.take 4)).toOption.any
        (fun s => s.session.mappings (.inner 16) = some ⟨4, none⟩) = true := by
    decide +kernel
  rw [hrun] at hmapped
  exact (exported_mapped honestDriver_trustworthy beginning_disciplined hrun _ _).mp
    (of_decide_eq_true hmapped)

/-- **Nothing is lost**: when the callers have given back what they were given and the prepared
models are gone, no buffer is allocated, nothing is mapped and the `MemoryManager` has no
entry, unless the driver has refused a release. -/
theorem all_given_back (hparty : Trustworthy party)
    (hcalls : DisciplinedRun default marshal party calls)
    (h : Run.exec (step default marshal party) {} calls = .ok s)
    (hpointers : s.holdings.pointers = []) (hfds : s.holdings.fds = [])
    (hprepared : ∀ p ∈ s.holdings.prepared, p = none)
    (hsaid : ∀ e ∈ s.said, DeviceSession.isRefusal e = false) :
    (∀ fd, s.session.buffers fd = none) ∧ (∀ a, s.session.mappings a = none) ∧
      ∀ a, s.manager.memorys.lookup a = none := by
  have haccounts := (kept_of_run hparty hcalls h).holds.accounts
  have hunrefused : s.session.Unrefused := by
    refine DeviceSession.Unrefused.read (fun fd b hb => ?_) hsaid
    cases hb
  have hbuffers : ∀ fd, s.session.buffers fd = none := by
    intro fd
    refine Option.not_isSome_iff_eq_none.mp fun hsome => ?_
    rcases (outstanding_iff hparty hcalls h fd).mp hsome with hfd | ⟨a, ha, -⟩ | ⟨b, hb, hrefused⟩
    · rw [hfds] at hfd
      cases hfd
    · rw [hpointers] at ha
      cases ha
    · cases (hunrefused fd b hb).symm.trans hrefused
  have hfree : ∀ a, s.manager.memorys.lookup a = none ∧ s.session.mappings a = none := by
    intro a
    cases haccounts.address a with
    | free hl hm => exact ⟨hl, hm⟩
    | buffer _ _ hb => cases (hbuffers _).symm.trans hb
    | cache _ _ _ hcaches =>
      obtain ⟨p, hp, -⟩ := mem_caches.mp hcaches
      cases hprepared (some p) hp
  exact ⟨hbuffers, fun a => (hfree a).2, fun a => (hfree a).1⟩

theorem all_given_back_deviceCalls :
    ∃ s, Run.exec (step (fun _ => 0) writeFields honestDriver) {} deviceCalls = .ok s ∧
      (∀ fd, s.session.buffers fd = none) ∧ (∀ a, s.session.mappings a = none) ∧
      ∀ a, s.manager.memorys.lookup a = none := by
  obtain ⟨s, hrun, -⟩ := run_kept honestDriver_trustworthy deviceCalls_disciplined
  have hend : (Run.exec (step (fun _ => 0) writeFields honestDriver) {} deviceCalls).toOption.any
      (fun s => s.holdings.pointers = [] ∧ s.holdings.fds = [] ∧
        (∀ p ∈ s.holdings.prepared, p.isNone) ∧
        ∀ e ∈ s.said, DeviceSession.isRefusal e = false) = true := by
    decide +kernel
  rw [hrun] at hend
  obtain ⟨hpointers, hfds, hprepared, hsaid⟩ := of_decide_eq_true hend
  exact ⟨s, hrun, all_given_back honestDriver_trustworthy deviceCalls_disciplined hrun hpointers hfds
    (fun p hp => Option.isNone_iff_eq_none.mp (hprepared p hp)) hsaid⟩

end DeviceSystem

end NNRt
