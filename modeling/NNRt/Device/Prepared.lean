import NNRt.Device.Constants

/-!
# Prepared models

- `Accounts.prepareOfflineModel`: **the driver is given the offline model**.
- `Accounts.exportModelCache`: a mapping for each buffer of a cache, which the prepared
  model knows.
- `Accounts.unMapAddrs`: its destructor undoes them.
-/

namespace NNRt

open Asking (ask)

open DeviceCall (keeps_pure keeps_get keeps_bind keeps_ask_bind)

variable {ν : Type} {call : DeviceCall ν} {o : Owners} {m : MemoryManager} {q : DeviceSession}
  {a : Address} {fd : Int32} {length : UInt64}

/-! ## Offline models -/

/-- The inputs of the node are tensors of the graph. -/
def HDIDevice.OfflineGraph.WellFormed (graph : HDIDevice.OfflineGraph) : Prop :=
  ∀ index ∈ graph.inputIndices, index < graph.allTensors.length

instance (graph : HDIDevice.OfflineGraph) : Decidable graph.WellFormed :=
  inferInstanceAs (Decidable (∀ index ∈ graph.inputIndices, index < graph.allTensors.length))

section Models

variable {default : Accessor → ν} {marshal : NodeType → List (Attribute × ν) → List Int8}
  {env : HDIDevice.DeviceEnv} {config : ModelConfig}

/-- A prepared model has no mappings in the beginning. -/
theorem preparedOf_addrs {answer : Bool × Option Nat} {p : HDIDevice.HDIPreparedModel}
    (h : (HDIDevice.preparedOf env answer).2 = some p) : p.addrs = [] := by
  unfold HDIDevice.preparedOf at h
  split at h
  · split at h
    · cases h
      rfl
    · cases h
  · cases h

/-- `GetSupportedOperation`. -/
theorem Accounts.getSupportedOperation {model : Option (HDIDevice.DeviceModel ν)}
    (h : Accounts o m q) (hfit : ∀ graph, model = some (.operators graph) → ConstantsFit graph env) :
    (DeviceCall.getSupportedOperation model env).Keeps (fun _ m' q' => Accounts o m' q')
      (HDIDevice.getSupportedOperation default marshal model env) m q := by
  unfold HDIDevice.getSupportedOperation
  cases model with
  | none => exact h
  | some model =>
    dsimp only
    split
    · exact h
    cases model with
    | offline graph => exact h
    | operators graph =>
      dsimp only
      refine DeviceCall.Keeps.bind (h.withModel (hfit graph rfl) fun model q hpresents => ?_) ?_
      · refine DeviceCall.keeps_ask ⟨graph, env, rfl, hpresents⟩ fun answer _ => ⟨rfl, rfl⟩
      · rintro answer m' q' ⟨rfl, h'⟩
        cases answer with
        | none => exact h'
        | some answer =>
          dsimp only
          split <;> exact h'

/-- `PrepareModel`. -/
theorem Accounts.prepareModel {model : Option (LoadedGraph ν)} (h : Accounts o m q)
    (hfit : ∀ graph, model = some graph → ConstantsFit graph env) :
    (DeviceCall.prepareModel model config env).Keeps
      (fun r m' q' => Accounts o m' q' ∧ ∀ p, r.2 = some p → p.addrs = [])
      (HDIDevice.prepareModel default marshal model config env) m q := by
  unfold HDIDevice.prepareModel
  cases model with
  | none => exact ⟨h, fun p hp => by cases hp⟩
  | some graph =>
    dsimp only
    refine DeviceCall.Keeps.bind (h.withModel (hfit graph rfl) fun model q hpresents => ?_) ?_
    · refine DeviceCall.keeps_ask ⟨graph, config, env, rfl, hpresents, rfl, rfl, rfl⟩
        fun answer _ => ⟨rfl, rfl⟩
    · rintro answer m' q' ⟨rfl, h'⟩
      cases answer with
      | none => exact ⟨h', fun p hp => by cases hp⟩
      | some answer => exact ⟨h', fun p hp => preparedOf_addrs hp⟩

/-- `PrepareModelFromModelCache`, which leaves the buffers to the caller. -/
theorem Accounts.prepareModelFromModelCache {modelCache : List (Int32 × UInt64)}
    (h : Accounts o m q) :
    (DeviceCall.prepareModelFromModelCache (ν := ν) modelCache config env).Keeps
      (fun r m' q' => Accounts o m' q' ∧ ∀ p, r.2 = some p → p.addrs = [])
      (HDIDevice.prepareModelFromModelCache modelCache config env) m q := by
  unfold HDIDevice.prepareModelFromModelCache
  refine keeps_ask_bind ⟨modelCache, config, env, rfl, ?_, rfl, rfl, rfl⟩ fun answer _ => ?_
  · rw [List.map_map]
    rfl
  · split
    · exact ⟨h, fun p hp => by cases hp⟩
    · exact ⟨h, fun p hp => preparedOf_addrs hp⟩

end Models

section Offline

variable {graph : HDIDevice.OfflineGraph} {env : HDIDevice.DeviceEnv} {config : ModelConfig}

/-- There is one offline model, and it is not empty. -/
theorem getOfflineModelFromLiteGraph_eq (hgraph : graph.WellFormed) :
    (∃ ret, HDIDevice.getOfflineModelFromLiteGraph graph = .ok (.error ret)) ∨
      ∃ offlineModel, HDIDevice.getOfflineModelFromLiteGraph graph = .ok (.ok [offlineModel]) := by
  unfold HDIDevice.getOfflineModelFromLiteGraph
  dsimp only
  split
  · exact .inl ⟨_, rfl⟩
  next hinputs =>
    have hlast : graph.inputIndices.length - 1 < graph.inputIndices.length := by
      unfold HDIDevice.offlineModelMinimumInputSize at hinputs
      omega
    rw [List.getElem?_eq_getElem hlast]
    have hindex := hgraph _ (List.getElem_mem hlast)
    dsimp only
    rw [List.getElem?_eq_getElem hindex]
    dsimp only
    split
    · exact .inl ⟨_, rfl⟩
    · exact .inr ⟨_, rfl⟩

/-- The buffer of the offline model is given back, or the driver has refused it. -/
theorem Accounts.releaseDeviceBuffers {size : Nat} (ha : a ∉ o.pointers)
    (h : Accounts { o with pointers := o.pointers ++ [a] } m q) :
    call.Keeps (fun _ m' q' => Accounts o m' q') (HDIDevice.releaseDeviceBuffers [(a, size)]) m q := by
  unfold HDIDevice.releaseDeviceBuffers HDIDevice.releaseDeviceBuffers
  rw [keeps_bind]
  refine h.releaseBuffer (by simp) (fun q' _ h' => ?_) fun m' q' h' => ?_
  · dsimp only at h'
    rw [filter_ne_append ha] at h'
    exact h'
  · dsimp only at h'
    rw [filter_ne_append ha] at h'
    exact h'

/-- The bytes of a buffer that was written to are those that were written. -/
theorem delivers_written {b : DeviceBuffer} {offlineModel : Bytes} (hpos : offlineModel.length < 2 ^ 31)
    (hmapping : q.mappings a = some ⟨UInt64.ofNat offlineModel.length, some fd⟩)
    (hb : q.buffers fd = some b) (hfits : offlineModel.length ≤ b.size.toNat) :
    (q.write a 0 offlineModel).Delivers [offlineModel]
      [HDIDevice.wholeBuffer fd (UInt64.ofNat offlineModel.length)] := by
  refine .cons ⟨rfl, ?_, rfl, ⟨{ b with bytes := Packing.writeAt b.bytes 0 offlineModel }, ?_, hfits,
    fun k hk => ?_⟩⟩ .nil
  · show (UInt64.ofNat offlineModel.length).toUInt32.toNat = offlineModel.length
    rw [UInt64.toNat_toUInt32, UInt64.toNat_ofNat']
    omega
  · unfold DeviceSession.write
    rw [hmapping]
    simp [DeviceSession.change, HDIDevice.wholeBuffer, hb]
  · have hat : Packing.writeAt b.bytes 0 offlineModel (0 + k) = offlineModel[k] :=
      Packing.writeAt_at hk
    rwa [Nat.zero_add] at hat

/-- `AllocateDeviceBufferForOfflineModel` of one model. -/
theorem Accounts.allocateDeviceBuffer (h : Accounts o m q) {offlineModel : Bytes} :
    call.Keeps (fun r m' q' => r.1 ≠ .success ∧ Accounts o m' q' ∨
        ∃ a fd, r = (.success, [(a, offlineModel.length)]) ∧ a ∉ o.pointers ∧
          Accounts { o with pointers := o.pointers ++ [a] } m' q' ∧
          q'.mappings a = some ⟨UInt64.ofNat offlineModel.length, some fd⟩)
      (HDIDevice.allocateDeviceBufferForOfflineModel [offlineModel]) m q := by
  unfold HDIDevice.allocateDeviceBufferForOfflineModel HDIDevice.allocateDeviceBuffers
  rw [keeps_bind]
  refine h.allocateBuffer (fun q' h' => ?_) fun a fd m' q' h' hmapping _ => ?_
  · exact .inl ⟨by decide, h'⟩
  · have ha : a ∉ o.pointers := fun hmem =>
      (List.nodup_append.mp h'.nodup_pointers).2.2 a hmem a List.mem_cons_self rfl
    exact .inr ⟨a, fd, rfl, ha, h', hmapping⟩

/-- `PrepareOfflineModel` of the buffer the model is in. -/
theorem Accounts.prepareDeviceBuffer {size : Nat} {extensions : List (String × List Int8)}
    (ha : a ∉ o.pointers) (h : Accounts { o with pointers := o.pointers ++ [a] } m q)
    (hmapping : q.mappings a = some ⟨length, some fd⟩)
    (hpermits : ∀ iModelConfig : HDIModelConfig, iModelConfig.Of config →
      call.Permits q (.prepareOfflineModel [HDIDevice.wholeBuffer fd length] iModelConfig)) :
    call.Keeps (fun r m' q' => Accounts o m' q' ∧ ∀ p, r.2 = some p → p.addrs = [])
      (HDIDevice.prepareDeviceBuffers [(a, size)] config extensions env) m q := by
  obtain ⟨fd', length', b, hlookup, hmapping', -⟩ := h.of_pointer (a := a) (by simp)
  cases hmapping.symm.trans hmapping'
  have hbuffers : HDIDevice.sharedBuffersOf m [(a, size)] =
      .ok [HDIDevice.wholeBuffer fd length] := by
    unfold HDIDevice.sharedBuffersOf
    rw [MemoryManager.getMemory_eq hlookup]
    rfl
  unfold HDIDevice.prepareDeviceBuffers
  dsimp only
  rw [keeps_bind, keeps_get, hbuffers]
  refine keeps_ask_bind (hpermits _ ⟨rfl, rfl, rfl⟩) fun answer _ => ?_
  refine DeviceCall.Keeps.bind (h.releaseDeviceBuffers ha) fun status m' q' h' => ?_
  split
  · exact ⟨h', fun p hp => by cases hp⟩
  · exact ⟨h', fun p hp => preparedOf_addrs hp⟩

/-- **The driver is given the offline model**, in a buffer that is given back behind the
answer. -/
theorem Accounts.prepareOfflineModel (h : Accounts o m q) (hgraph : graph.WellFormed) :
    (DeviceCall.prepareOfflineModel (ν := ν) (some graph) config env).Keeps
      (fun r m' q' => Accounts o m' q' ∧ ∀ p, r.2 = some p → p.addrs = [])
      (HDIDevice.prepareOfflineModel (some graph) config env) m q := by
  unfold HDIDevice.prepareOfflineModel
  dsimp only
  rcases getOfflineModelFromLiteGraph_eq hgraph with ⟨ret, heq⟩ | ⟨offlineModel, heq⟩
  · rw [heq]
    exact ⟨h, fun p hp => by cases hp⟩
  rw [heq]
  refine DeviceCall.Keeps.bind h.allocateDeviceBuffer fun r m₁ q₁ hr => ?_
  rcases hr with ⟨hstatus, h₁⟩ | ⟨a, fd, rfl, ha, h₁, hmapping⟩
  · rw [if_pos hstatus]
    exact ⟨h₁, fun p hp => by cases hp⟩
  rw [if_neg (by simp)]
  unfold HDIDevice.copyOfflineModelToDevice HDIDevice.copyOfflineModels
  rw [if_neg (by simp)]
  by_cases hcopy : (!memcpySucceeds offlineModel.length) = true ∨
      offlineModel.length < offlineModel.length
  · -- It is too large to be copied.
    rw [if_pos hcopy, keeps_bind, keeps_pure, if_pos (by simp)]
    refine DeviceCall.Keeps.bind (h₁.releaseDeviceBuffers ha) fun ret m₂ q₂ h₂ => ?_
    exact ⟨h₂, fun p hp => by cases hp⟩
  · rw [if_neg hcopy]
    have hsmall : offlineModel.length < 2 ^ 31 := by
      have hsucceeds := not_or.mp hcopy
      have hle := (HDIModel.memcpySucceeds_iff _).mp (by simpa using hsucceeds.1)
      omega
    have hlength : (UInt64.ofNat offlineModel.length).toNat = offlineModel.length := by
      rw [UInt64.toNat_ofNat']
      omega
    obtain ⟨fd', length', b, -, hmapping', hb, hfits, -⟩ := h₁.of_pointer (a := a) (by simp)
    cases hmapping.symm.trans hmapping'
    rw [keeps_bind]
    refine keeps_ask_bind ⟨_, hmapping, rfl, by rw [hlength, Nat.zero_add]⟩ fun _ _ => ?_
    unfold HDIDevice.copyOfflineModels
    rw [keeps_pure, if_neg (by simp)]
    -- Writing changes the bytes of the buffer, and nothing else.
    have hwrite : q₁.write a 0 offlineModel = q₁.change fd fun b =>
        { b with bytes := Packing.writeAt b.bytes 0 offlineModel } := by
      unfold DeviceSession.write
      rw [hmapping]
      rfl
    have h₂ : Accounts { o with pointers := o.pointers ++ [a] } m₁ (q₁.write a 0 offlineModel) := by
      rw [hwrite]
      exact h₁.change (f := fun b => { b with bytes := Packing.writeAt b.bytes 0 offlineModel })
        (fun _ => rfl) (fun _ => id) fd
    show (DeviceCall.prepareOfflineModel (some graph) config env).Keeps _ _ m₁
      (q₁.write a 0 offlineModel)
    refine h₂.prepareDeviceBuffer ha (by rw [hwrite]; exact hmapping) fun iModelConfig hconfig => ?_
    refine ⟨graph, config, env, [offlineModel], rfl, heq, ?_, hconfig⟩
    exact delivers_written hsmall hmapping hb (hlength ▸ hfits)

end Offline

/-! ## Prepared models -/

section Prepared

variable {before own after : List (Address × UInt64)} {p : HDIDevice.HDIPreparedModel}

/-- The loop of `ExportModelCache`: every mapping it makes is one of the prepared model. -/
theorem Accounts.mapBuffers {iBuffers : List HDISharedBuffer} {modelCache : List (Address × UInt64)}
    (h : Accounts o m q) (hcaches : o.caches = before ++ own ++ after)
    (hfds : ∀ iBuffer ∈ iBuffers, q.buffers iBuffer.fd = none) :
    call.Keeps (fun r m' q' => ∃ new,
        r.2 = ({ p with addrs := p.addrs ++ new.map Prod.fst }, modelCache ++ new) ∧
          Accounts { o with caches := before ++ (own ++ new) ++ after } m' q')
      (HDIPreparedModel.mapBuffers p modelCache iBuffers) m q := by
  have hstop : ∃ new : List (Address × UInt64),
      (p, modelCache) = ({ p with addrs := p.addrs ++ new.map Prod.fst }, modelCache ++ new) ∧
        Accounts { o with caches := before ++ (own ++ new) ++ after } m q := by
    refine ⟨[], by simp, ?_⟩
    rw [List.append_nil, ← hcaches]
    exact h
  induction iBuffers generalizing o p own modelCache m q with
  | nil => exact hstop
  | cons iBuffer iBuffers ih =>
    have hfd : q.buffers iBuffer.fd = none := hfds iBuffer List.mem_cons_self
    unfold HDIPreparedModel.mapBuffers
    rw [keeps_bind]
    refine MemoryManager.map_keeps h.lookup_free (fun _ b hb => ?_) hstop
      fun a m' _ _ _ hfresh hm' => ?_
    · cases hfd.symm.trans hb
    · have hnew := h.mapCache hcaches hfd hfresh hm'
      have hcaches' : before ++ own ++ (a, iBuffer.bufferSize.toUInt64) :: after =
          before ++ (own ++ [(a, iBuffer.bufferSize.toUInt64)]) ++ after := by simp
      refine (ih (p := { p with addrs := p.addrs ++ [a] })
        (o := { o with caches := before ++ own ++ (a, iBuffer.bufferSize.toUInt64) :: after })
        hnew hcaches'
        (fun iBuffer' hmem => hfds iBuffer' (List.mem_cons_of_mem _ hmem)) ?_).mono (fun _ => id) ?_
      · refine ⟨[], by simp, ?_⟩
        rw [List.append_nil, ← hcaches']
        exact hnew
      · rintro r m'' q'' ⟨new, hr, haccounts⟩
        refine ⟨(a, iBuffer.bufferSize.toUInt64) :: new, ?_, ?_⟩
        · rw [hr]
          simp
        · rw [List.append_cons, ← List.append_assoc]
          rw [← List.append_assoc] at haccounts
          exact haccounts

/-- `ExportModelCache`: what is returned is mapped, and the prepared model knows it. -/
theorem Accounts.exportModelCache {i : Nat} (h : Accounts o m q)
    (hcaches : o.caches = before ++ own ++ after) :
    (DeviceCall.exportModelCache (ν := ν) i).Keeps (fun r m' q' =>
        r.2.1 = { p with addrs := p.addrs ++ r.2.2.map Prod.fst } ∧
          Accounts { o with caches := before ++ (own ++ r.2.2) ++ after } m' q')
      (HDIPreparedModel.exportModelCache p) m q := by
  unfold HDIPreparedModel.exportModelCache
  refine keeps_ask_bind ⟨i, rfl⟩ fun answer hanswer => ?_
  by_cases hfailed : (!answer.1) = true
  · rw [if_pos hfailed]
    refine ⟨by simp, ?_⟩
    rw [List.append_nil, ← hcaches]
    exact h
  · rw [if_neg hfailed]
    refine (h.mapBuffers hcaches hanswer).mono (fun _ => id) ?_
    rintro r m' q' ⟨new, hr, haccounts⟩
    rw [hr]
    exact ⟨rfl, haccounts⟩

/-- `~HDIPreparedModelV2_1`: all its mappings are undone. -/
theorem Accounts.unMapAddrs (h : Accounts o m q) (hcaches : o.caches = before ++ own ++ after) :
    call.Keeps (fun _ m' q' => Accounts { o with caches := before ++ after } m' q')
      (HDIPreparedModel.unMapAddrs (own.map Prod.fst)) m q := by
  induction own generalizing o m q with
  | nil =>
    show Accounts _ m q
    rw [List.append_nil] at hcaches
    rw [← hcaches]
    exact h
  | cons cache own ih =>
    have hcaches' : o.caches = before ++ (cache.1, cache.2) :: (own ++ after) := by
      rw [hcaches]
      simp
    have hmem : (cache.1, cache.2) ∈ o.caches := by
      rw [hcaches']
      simp
    obtain ⟨fd, hlookup, hmapping, -⟩ := h.of_cache hmem
    rw [List.map_cons]
    unfold HDIPreparedModel.unMapAddrs
    rw [keeps_bind]
    refine MemoryManager.unMap_keeps hlookup hmapping rfl fun m' hm' => ?_
    exact ih (o := { o with caches := before ++ (own ++ after) }) (h.unmapCache hcaches' hm')
      (List.append_assoc _ _ _).symm

end Prepared

end NNRt
