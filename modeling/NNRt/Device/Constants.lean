import NNRt.Device.Buffers

/-!
# Models with constants

A model that has constants gets a buffer for them, for the time of one question.

- `packTensors_keeps`: the loop writes through the mapping what `LiteGraph_To_HDIModel`
  writes.
- `Accounts.liteGraphToHDIModel`: the model is that of the graph.
- `Accounts.withModel`: **the constants are in the buffer when the question is asked**, and
  afterwards it is given back.
-/

namespace NNRt

open Asking (ask)

open DeviceCall (keeps_pure keeps_get keeps_bind keeps_ask_bind)

variable {ν : Type} {call : DeviceCall ν} {o : Owners} {m : MemoryManager} {q : DeviceSession}
  {a : Address} {fd : Int32} {length : UInt64}

/-! ## Models with constants -/

namespace DeviceSession

variable {bytes bytes' : Nat → UInt8}

theorem setBytes_self {b : DeviceBuffer} (hb : q.buffers fd = some b) :
    q.setBytes fd b.bytes = q := by
  unfold setBytes change
  rw [hb]
  show { q with buffers := Function.update q.buffers fd (some b) } = q
  rw [← hb, Function.update_eq_self]

theorem write_setBytes (hmapping : q.mappings a = some ⟨length, some fd⟩) (offset : Nat)
    (data : Bytes) : (q.setBytes fd bytes).write a offset data =
      q.setBytes fd (Packing.writeAt bytes offset data) := by
  unfold setBytes write change
  dsimp only
  rw [hmapping]
  dsimp only [Option.bind_some]
  rw [Function.update_self, Function.update_idem, Option.map_map]
  rfl

/-- What was mapped for a while has left its bytes. -/
theorem unmap_setBytes_map (hfresh : q.mappings a = none) :
    ((q.map a length fd).setBytes fd bytes).unmap a = q.setBytes fd bytes := by
  unfold map setBytes change unmap
  dsimp only
  rw [Function.update_idem, ← hfresh, Function.update_eq_self]

end DeviceSession

section Constants

variable {buffer : HDISharedBuffer} {nullTensor : LiteTensor} {bytes bytes' : Nat → UInt8}
  {offset : UInt32}

/-- One tensor is copied as `Copy_MindIR_Tensor_Data_To_HDIBuffer` does it. -/
theorem copyTensorData_keeps {tensor : Option LiteTensor} {data : HDISharedBuffer}
    {mmapPtr : Option (Nat → UInt8)}
    (hmapping : q.mappings a = some ⟨buffer.bufferSize.toUInt64, some buffer.fd⟩)
    (h : HDIModel.copyMindIRTensorDataToHDIBuffer tensor buffer (some bytes) offset =
      .ok (data, mmapPtr)) :
    call.Keeps (fun r m' q' => r = data ∧ m' = m ∧
        ∃ bytes', mmapPtr = some bytes' ∧ q' = q.setBytes buffer.fd bytes')
      (HDIDevice.copyTensorData tensor buffer (some a) offset) m (q.setBytes buffer.fd bytes) := by
  unfold HDIModel.copyMindIRTensorDataToHDIBuffer at h
  unfold HDIDevice.copyTensorData
  cases tensor with
  | none =>
    cases h
    exact ⟨rfl, rfl, bytes, rfl, rfl⟩
  | some tensor =>
    dsimp only at h ⊢
    by_cases hempty : tensor.data.isEmpty = true
    · rw [if_pos hempty] at h ⊢
      cases h
      exact ⟨rfl, rfl, bytes, rfl, rfl⟩
    rw [if_neg hempty] at h ⊢
    by_cases hcopy : (!memcpySucceeds tensor.data.length) = true
    · rw [if_pos hcopy] at h ⊢
      cases h
      exact ⟨rfl, rfl, bytes, rfl, rfl⟩
    rw [if_neg hcopy] at h ⊢
    by_cases hfits : offset.toNat + tensor.data.length > buffer.bufferSize.toNat
    · rw [if_pos hfits] at h
      cases h
    rw [if_neg hfits] at h ⊢
    cases h
    refine keeps_ask_bind ⟨_, hmapping, rfl, ?_⟩ fun _ _ => ⟨rfl, rfl, _, rfl, ?_⟩
    · rw [UInt32.toNat_toUInt64]
      exact Nat.not_lt.mp hfits
    · exact DeviceSession.write_setBytes hmapping _ _

/-- The loop writes what it writes in `LiteGraph_To_HDIModel`. -/
theorem packTensors_keeps {tensors : List (Option LiteTensor)} {allTensors : List HDITensor}
    (hmapping : q.mappings a = some ⟨buffer.bufferSize.toUInt64, some buffer.fd⟩)
    (h : HDIModel.packTensors nullTensor buffer (some bytes) offset tensors =
      .ok (allTensors, some bytes')) :
    call.Keeps (fun r m' q' => r = allTensors ∧ m' = m ∧ q' = q.setBytes buffer.fd bytes')
      (HDIDevice.packTensors nullTensor buffer (some a) offset tensors) m
      (q.setBytes buffer.fd bytes) := by
  induction tensors generalizing allTensors bytes offset m with
  | nil =>
    cases h
    exact ⟨rfl, rfl, rfl⟩
  | cons tensor tensors ih =>
    rw [HDIModel.packTensors] at h
    cases hcopy : HDIModel.copyMindIRTensorDataToHDIBuffer tensor buffer (some bytes) offset with
    | error fault =>
      rw [hcopy] at h
      cases h
    | ok copied =>
      obtain ⟨data, mmapPtr⟩ := copied
      rw [hcopy] at h
      refine DeviceCall.Keeps.bind (copyTensorData_keeps hmapping hcopy) ?_
      rintro _ _ _ ⟨rfl, rfl, bytes₁, rfl, rfl⟩
      dsimp only at h
      split at h
      · cases h
      next allTensors mmapPtr hrest =>
        cases h
        refine DeviceCall.Keeps.bind (ih hrest) ?_
        rintro _ _ _ ⟨rfl, rfl, rfl⟩
        exact ⟨rfl, rfl, rfl⟩

/-- Without a buffer nothing is written, and the ranges are empty. -/
theorem packTensors_none_keeps {tensors : List (Option LiteTensor)}
    (hempty : Packing.total (tensors.map HDIModel.placed) = 0) :
    call.Keeps (fun r m' q' => r = HDIModel.packed nullTensor ⟨-1, 0, 0, 0⟩ 0 tensors ∧
        m' = m ∧ q' = q) (HDIDevice.packTensors nullTensor ⟨-1, 0, 0, 0⟩ none 0 tensors) m q := by
  induction tensors with
  | nil => exact ⟨rfl, rfl, rfl⟩
  | cons tensor tensors ih =>
    rw [List.map_cons, Packing.total_cons] at hempty
    have hplaced : (HDIModel.placed tensor).length = 0 := by omega
    have hcopied : HDIDevice.copyTensorData tensor ⟨-1, 0, 0, 0⟩ none 0 = pure ⟨-1, 0, 0, 0⟩ := by
      cases tensor <;> rfl
    have hrange : HDIModel.describe ⟨-1, 0, 0, 0⟩ tensor 0 = ⟨-1, 0, 0, 0⟩ := by
      have hsize := @HDIModel.describe_dataSize ⟨-1, 0, 0, 0⟩ tensor 0
      unfold HDIModel.describe at hsize ⊢
      split
      next hcopy =>
        unfold HDIModel.placed at hplaced
        rw [if_pos hcopy] at hplaced
        rw [hplaced]
        rfl
      · split <;> rfl
    unfold HDIDevice.packTensors
    rw [hcopied, keeps_bind, keeps_pure]
    refine DeviceCall.Keeps.bind (ih (by omega)) ?_
    rintro _ _ _ ⟨rfl, rfl, rfl⟩
    refine ⟨?_, rfl, rfl⟩
    rw [HDIModel.packed, hplaced]
    exact congrArg (HDIModel.toHDITensor nullTensor tensor · :: _) hrange.symm

end Constants

section Models

variable {default : Accessor → ν} {marshal : NodeType → List (Attribute × ν) → List Int8}
  {graph : LoadedGraph ν} {buffer : HDISharedBuffer} {env : HDIDevice.DeviceEnv}

/-- The lists of the model are those of the graph. -/
theorem follows_packed {nodes : List HDINode} {nullTensor : LiteTensor}
    (hnodes : graph.allNodes.mapM (HDIModel.toHDINode default marshal) = some nodes) :
    HDIModel.Follows graph ⟨graph.name, graph.inputIndices, graph.outputIndices, nodes,
      HDIModel.packed nullTensor buffer 0 graph.allTensors, graph.subGraphs⟩ := by
  refine ⟨?_, HDIModel.length_packed _ _, ?_, rfl, rfl, rfl⟩
  · exact (HDIModel.forall₂_toHDINode hnodes).imp fun node n hn => HDIModel.toHDINode_eq_some hn
  · intro i t r ht hr
    dsimp only at hr
    rw [HDIModel.packed_getElem?, ht] at hr
    cases hr
    exact ⟨rfl, rfl, rfl⟩

/-- There is a buffer for the constants, or there are none. -/
structure RoomForConstants (q : DeviceSession) (graph : LoadedGraph ν) (buffer : HDISharedBuffer) :
    Prop where
  empty : buffer.fd = -1 → buffer = ⟨-1, 0, 0, 0⟩ ∧
    Packing.total (graph.allTensors.map HDIModel.placed) = 0
  buffer : 0 ≤ buffer.fd → (∃ b, q.buffers buffer.fd = some b ∧ b.size = buffer.bufferSize) ∧
    Packing.total (graph.allTensors.map HDIModel.placed) ≤ buffer.bufferSize.toNat

/-- `LiteGraph_To_HDIModel`: the accounts do not change, and a model is that of the graph. -/
theorem Accounts.liteGraphToHDIModel (h : Accounts o m q) (hroom : RoomForConstants q graph buffer) :
    call.Keeps (fun r m' q' => m' = m ∧ Accounts o m q' ∧
        ∀ model, r = some model → q'.Presents graph model)
      (HDIDevice.liteGraphToHDIModel default marshal graph buffer env) m q := by
  have hfailed : ∀ {q'}, Accounts o m q' → (m = m ∧ Accounts o m q' ∧
      ∀ model, (none : Option HDIModel) = some model → q'.Presents graph model) := by
    refine fun h' => ⟨rfl, h', fun model hmodel => ?_⟩
    cases hmodel
  unfold HDIDevice.liteGraphToHDIModel
  cases hnodes : graph.allNodes.mapM (HDIModel.toHDINode default marshal) with
  | none => exact hfailed h
  | some nodes =>
    dsimp only
    by_cases hfd : buffer.fd = -1
    · obtain ⟨rfl, htotal⟩ := hroom.empty hfd
      rw [if_neg (not_not.mpr rfl), keeps_bind, keeps_pure, if_neg fun h => h.1 rfl]
      refine DeviceCall.Keeps.bind (packTensors_none_keeps htotal) ?_
      rintro _ _ _ ⟨rfl, rfl, rfl⟩
      dsimp only
      rw [keeps_bind, keeps_pure, if_neg (by decide)]
      by_cases hcreate : (!env.createModel) = true
      · rw [if_pos hcreate]
        exact hfailed h
      · rw [if_neg hcreate]
        refine ⟨rfl, h, fun model hmodel => ?_⟩
        cases hmodel
        exact ⟨follows_packed hnodes, ⟨-1, 0, 0, 0⟩, Packing.fill (fun _ => 0) 0 _,
          HDIModel.places_packed (Nat.le_of_eq htotal), .inl rfl⟩
    · rw [if_pos hfd]
      refine keeps_ask_bind (fun b hb => ?_) fun answer hanswer => ?_
      · -- The mapping is as large as the buffer.
        cases h.descriptor buffer.fd with
        | free hb' _ => cases hb'.symm.trans hb
        | buffer _ hpos _ =>
          obtain ⟨⟨b', hb', hsize⟩, -⟩ := hroom.buffer hpos
          cases hb.symm.trans hb'
          rw [UInt32.toNat_toUInt64, hsize]
      cases answer with
      | none =>
        rw [if_pos ⟨hfd, rfl⟩]
        exact hfailed h
      | some a =>
        obtain ⟨hpos, hfresh⟩ := hanswer a rfl
        obtain ⟨⟨b, hb, hsize⟩, htotal⟩ := hroom.buffer hpos
        rw [if_neg fun h => Bool.false_ne_true h.2]
        have hmapping : (q.map a buffer.bufferSize.toUInt64 buffer.fd).mappings a =
            some ⟨buffer.bufferSize.toUInt64, some buffer.fd⟩ := by
          simp [DeviceSession.map, hb]
        have hpack : HDIModel.packTensors env.nullTensor buffer (some b.bytes) (UInt32.ofNat 0)
            graph.allTensors = .ok (HDIModel.packed env.nullTensor buffer 0 graph.allTensors, _) :=
          HDIModel.packTensors_eq graph.allTensors (by rw [Nat.zero_add]; exact htotal)
        have hpacks : call.Keeps _ _ m _ := packTensors_keeps hmapping hpack
        have hsame : (q.map a buffer.bufferSize.toUInt64 buffer.fd).setBytes buffer.fd b.bytes =
            q.map a buffer.bufferSize.toUInt64 buffer.fd := DeviceSession.setBytes_self hb
        rw [hsame] at hpacks
        refine DeviceCall.Keeps.bind hpacks ?_
        rintro _ _ _ ⟨rfl, rfl, rfl⟩
        dsimp only
        refine keeps_ask_bind ⟨_, hmapping, rfl⟩ fun unmapped hunmapped => ?_
        obtain rfl : unmapped = true := hunmapped ⟨_, hmapping, rfl⟩
        show call.Keeps _ _ _ (DeviceSession.unmap _ a)
        rw [DeviceSession.unmap_setBytes_map hfresh, if_neg (by decide)]
        by_cases hcreate : (!env.createModel) = true
        · rw [if_pos hcreate]
          exact hfailed (h.setBytes _ _)
        · rw [if_neg hcreate]
          refine ⟨rfl, h.setBytes _ _, fun model hmodel => ?_⟩
          cases hmodel
          refine ⟨follows_packed hnodes, buffer, Packing.fill b.bytes 0 _,
            HDIModel.places_packed htotal, .inr ⟨{ b with bytes := Packing.fill b.bytes 0 _ }, ?_,
              hsize, rfl⟩⟩
          simp [DeviceSession.setBytes, DeviceSession.change, hb]

/-- The constants of a graph are counted by the library, and the driver can be told how many bytes
they are. -/
structure ConstantsFit (graph : LoadedGraph ν) (env : HDIDevice.DeviceEnv) : Prop where
  counted : Packing.total (graph.allTensors.map HDIModel.dataOf) ≤ env.constTensorSize.toNat
  small : env.constTensorSize.toNat < 2 ^ 32

instance : Decidable (ConstantsFit graph env) :=
  decidable_of_iff (_ ∧ _) ⟨fun h => ⟨h.1, h.2⟩, fun h => ⟨h.counted, h.small⟩⟩

/-- The buffer for the constants, if the driver gives one. -/
theorem Accounts.allocateConstants (h : Accounts o m q) (hfit : ConstantsFit graph env) :
    call.Keeps (fun r m' q' => m' = m ∧ (r = none → Accounts o m q') ∧
        ∀ buffer, r = some buffer → Accounts (o.lend buffer.fd) m q' ∧
          RoomForConstants q' graph buffer)
      (HDIDevice.allocateConstants env.constTensorSize) m q := by
  have htotal : Packing.total (graph.allTensors.map HDIModel.placed) ≤ env.constTensorSize.toNat :=
    Nat.le_trans (Packing.total_map_le HDIModel.placed_length_le graph.allTensors) hfit.counted
  unfold HDIDevice.allocateConstants
  by_cases hzero : env.constTensorSize > 0
  · rw [if_pos hzero]
    refine keeps_ask_bind trivial fun answer hanswer => ?_
    obtain ⟨hrefused, hallocated⟩ := h.ask_allocate hanswer
    obtain ⟨succeeded, buffer⟩ := answer
    cases succeeded with
    | false =>
      rw [if_pos (.inl rfl), hrefused rfl]
      refine ⟨rfl, fun _ => h, fun buffer hbuffer => ?_⟩
      cases hbuffer
    | true =>
      obtain ⟨hlent, hsize⟩ := hallocated rfl
      by_cases hfd : buffer.fd = -1
      · rw [if_pos (.inr hfd)]
        refine ⟨rfl, fun _ => ?_, fun buffer hbuffer => ?_⟩
        · rw [show o.lend (true, buffer).2.fd = o by
            unfold Owners.lend
            rw [hfd]
            rfl] at hlent
          exact hlent
        · cases hbuffer
      · rw [if_neg (not_or.mpr ⟨by simp, hfd⟩)]
        refine ⟨rfl, fun hbuffer => (by cases hbuffer), fun buffer hbuffer => ?_⟩
        cases hbuffer
        refine ⟨hlent, fun h => absurd h hfd, fun hpos => ?_⟩
        unfold Owners.lend at hlent
        rw [if_pos hpos] at hlent
        have hheld : buffer.fd ∈ o.fds ++ [buffer.fd] := by simp
        obtain ⟨-, ⟨b, hb⟩, -⟩ := hlent.of_fd hheld
        obtain ⟨hbsize, hle⟩ := hsize b hb
        refine ⟨⟨b, hb, hbsize⟩, Nat.le_trans htotal ?_⟩
        rw [← show b.size = buffer.bufferSize from hbsize]
        have htold : env.constTensorSize.toUInt32.toNat = env.constTensorSize.toNat := by
          rw [UInt64.toNat_toUInt32]
          exact Nat.mod_eq_of_lt hfit.small
        rw [← htold]
        exact UInt32.le_iff_toNat_le.mp hle
  · rw [if_neg hzero]
    refine ⟨rfl, fun hbuffer => (by cases hbuffer), fun buffer hbuffer => ?_⟩
    cases hbuffer
    have hnothing : env.constTensorSize.toNat = 0 :=
      Nat.eq_zero_of_not_pos fun h => hzero (UInt64.lt_iff_toNat_lt.mpr h)
    exact ⟨h, fun _ => ⟨rfl, by omega⟩, fun hpos => absurd hpos (by decide)⟩

/-- `ReleaseSharedBuffer`: the buffer is given back, or forgotten. -/
theorem Accounts.releaseSharedBuffer (h : Accounts (o.lend buffer.fd) m q) :
    call.Keeps (fun _ m' q' => m' = m ∧ Accounts o m q')
      (HDIDevice.releaseSharedBuffer buffer) m q := by
  unfold HDIDevice.releaseSharedBuffer
  by_cases hfd : buffer.fd = -1
  · rw [if_pos hfd]
    refine ⟨rfl, ?_⟩
    unfold Owners.lend at h
    rw [hfd, if_neg (by decide)] at h
    exact h
  · rw [if_neg hfd]
    refine keeps_ask_bind h.lend_buffer fun answer _ => ?_
    exact ⟨rfl, h.ask_release rfl answer⟩

/-- **The constants are there while the question is asked**, and the buffer is given back. -/
theorem Accounts.withModel {β : Type} {question : HDIModel → DeviceM β} (h : Accounts o m q)
    (hfit : ConstantsFit graph env)
    (hquestion : ∀ model q, q.Presents graph model →
      call.Keeps (fun _ m' q' => m' = m ∧ q' = q) (question model) m q) :
    call.Keeps (fun _ m' q' => m' = m ∧ Accounts o m q')
      (HDIDevice.withModel default marshal graph env question) m q := by
  unfold HDIDevice.withModel
  refine DeviceCall.Keeps.bind (h.allocateConstants hfit) ?_
  rintro buffer _ q₁ ⟨rfl, hfailed, hbuffer⟩
  cases buffer with
  | none => exact ⟨rfl, hfailed rfl⟩
  | some buffer =>
    obtain ⟨h₁, hroom⟩ := hbuffer buffer rfl
    refine DeviceCall.Keeps.bind (h₁.liteGraphToHDIModel hroom) ?_
    rintro model _ q₂ ⟨rfl, h₂, hpresents⟩
    cases model with
    | none =>
      refine DeviceCall.Keeps.bind h₂.releaseSharedBuffer ?_
      rintro _ _ q₃ ⟨rfl, h₃⟩
      exact ⟨rfl, h₃⟩
    | some model =>
      refine DeviceCall.Keeps.bind (hquestion model q₂ (hpresents model rfl)) ?_
      rintro answer _ _ ⟨rfl, rfl⟩
      refine DeviceCall.Keeps.bind h₂.releaseSharedBuffer ?_
      rintro ret _ q₃ ⟨rfl, h₃⟩
      split <;> exact ⟨rfl, h₃⟩

end Models

end NNRt
