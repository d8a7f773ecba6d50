import NNRt.Model.TensorSizes

/-!
# What the setters read

A setter may read the elements of its tensor, if the tensor has a buffer. Most setters look
at the data type, at the number of elements and for the buffer before they read; three leave
one of these out.

- `Inside`: a read that does not leave the buffer.
- `safe_of`: a setter that looks for the buffer, and then reads inside.
- `staysInside_iff`: **on every tensor of a reachable model a setter stays inside the data
  exactly if it is none of the three, or what it does not look at is there.**
-/

namespace NNRt

/-- A read that stays inside the buffer it is given. -/
def Inside {α : Type} (x : Except Fault α) : Prop :=
  x ≠ .error .outOfBounds

namespace Inside

variable {α β : Type}

theorem ok (a : α) : Inside (.ok a) :=
  nofun

theorem error {fault : Fault} (h : fault ≠ .outOfBounds) : Inside (.error fault : Except Fault α) :=
  fun heq => h (Except.error.inj heq)

theorem ite {c : Prop} [Decidable c] {x y : Except Fault α} (hx : Inside x) (hy : Inside y) :
    Inside (if c then x else y) := by
  split
  · exact hx
  · exact hy

theorem bind {x : Except Fault α} {f : α → Except Fault β} (hx : Inside x)
    (hf : ∀ a, x = .ok a → Inside (f a)) : Inside (x >>= f) := by
  cases x with
  | error fault => exact fun h => hx (by cases h; rfl)
  | ok a => exact hf a rfl

/-- What is read is put somewhere. -/
theorem store {x : Except Fault α} (hx : Inside x) (f : α → β) :
    Inside (do return f (← x)) :=
  hx.bind fun a _ => ok (f a)

theorem mapM {γ : Type} {f : γ → Except Fault α} {xs : List γ} (h : ∀ x ∈ xs, Inside (f x)) :
    Inside (xs.mapM f) := by
  induction xs with
  | nil => exact ok []
  | cons x xs ih =>
    obtain ⟨hx, hxs⟩ := List.forall_mem_cons.mp h
    rw [List.mapM_cons]
    exact hx.bind fun a _ => (ih hxs).bind fun as _ => ok (a :: as)

/-- A list is read to its end if nothing but the end of the buffer can stop that. -/
theorem mapM_ok {γ : Type} {f : γ → Except Fault α} {xs : List γ} (h : Inside (xs.mapM f))
    (hf : ∀ x, Inside (f x) → ∃ a, f x = .ok a) : ∃ as, xs.mapM f = .ok as := by
  induction xs with
  | nil => exact ⟨[], rfl⟩
  | cons x xs ih =>
    rw [List.mapM_cons] at h ⊢
    obtain ⟨a, ha⟩ := hf x fun hx => h (by rw [hx]; rfl)
    rw [ha] at h ⊢
    obtain ⟨as, has⟩ := ih fun hxs => h (by rw [hxs]; rfl)
    exact ⟨a :: as, by rw [has]; rfl⟩

end Inside

namespace Tensor

variable {t : Tensor}

/-- The tensor with no more in its buffer than its elements. -/
def clipped (t : Tensor) : Tensor :=
  { t with buffer := t.buffer.map (List.take (t.elementCount.toNat * t.dataType.typeSize.toNat)) }

/-- A tensor of a model has nothing else in its buffer. -/
theorem clipped_eq (hfilled : t.Filled) : t.clipped = t := by
  unfold clipped
  cases hbuffer : t.buffer with
  | none => exact congrArg (fun buffer => { t with buffer := buffer }) hbuffer.symm
  | some bytes =>
    have hlength := (hfilled bytes hbuffer).2
    rw [Option.map_some, List.take_of_length_le hlength.le, ← hbuffer]

/-- An element is read, as no more than it is. -/
theorem number_inside {w i : Nat} (hfilled : t.Filled) (hsize : w ≤ t.dataType.typeSize.toNat)
    (hi : t.buffer.isSome = true → i < t.elementCount.toNat) : Inside (t.number w i) := by
  cases hbuffer : t.buffer with
  | none =>
    unfold number
    rw [hbuffer]
    exact nofun
  | some bytes =>
    have hsome : t.buffer.isSome = true := by
      rw [hbuffer]
      rfl
    obtain ⟨n, hn⟩ := number_ok hfilled hsize hsome (hi hsome)
    rw [hn]
    exact Inside.ok n

theorem int64s_inside {n : Nat} (hfilled : t.Filled) (htype : t.dataType = .int64)
    (hn : t.buffer.isSome = true → n ≤ t.elementCount.toNat) : Inside (t.int64s n) := by
  refine Inside.mapM fun i hi => Inside.store (number_inside hfilled ?_ fun hsome => ?_) _
  · rw [htype]
    exact le_rfl
  · exact Nat.lt_of_lt_of_le (List.mem_range.mp hi) (hn hsome)

theorem allFloat_inside (hfilled : t.Filled) (htype : t.dataType = .float32) :
    Inside t.allFloat := by
  refine Inside.mapM fun i hi => Inside.store (number_inside hfilled ?_ fun _ => ?_) _
  · rw [htype]
    exact le_rfl
  · exact List.mem_range.mp hi

/-- An integer of a buffer that is there. -/
theorem int64_eq {bytes : Bytes} (hbytes : t.buffer = some bytes) (i : Nat) :
    t.int64 i =
      if 8 * i + 8 ≤ bytes.length then
        .ok (Int64.ofNat (LittleEndian.decode ((bytes.drop (8 * i)).take 8)))
      else .error .outOfBounds := by
  unfold int64 number
  rw [hbytes]
  dsimp only
  split <;> rfl

/-- What is inside the buffer, if there is one, is read. -/
theorem int64_ok {i : Nat} (hbuffer : t.buffer.isSome = true) (h : Inside (t.int64 i)) :
    ∃ a, t.int64 i = .ok a := by
  obtain ⟨bytes, hbytes⟩ := exists_buffer hbuffer
  rw [int64_eq hbytes] at h ⊢
  split
  · exact ⟨_, rfl⟩
  · rename_i hroom
    exact absurd (if_neg hroom) h

/-- More integers than there are elements are not read. -/
theorem not_int64s_inside {n : Nat} (hfilled : t.Filled) (htype : t.dataType = .int64)
    (hbuffer : t.buffer.isSome = true) (hn : t.elementCount.toNat < n) :
    ¬ Inside (t.int64s n) := by
  intro hinside
  obtain ⟨data, hdata⟩ := Inside.mapM_ok hinside fun i => int64_ok hbuffer
  obtain ⟨a, -, ha⟩ := exists_mem_of_forall₂ (forall₂_of_mapM hdata) _ (List.mem_range.mpr hn)
  obtain ⟨bytes, hbytes⟩ := exists_buffer hbuffer
  -- The element after the last one lies behind the buffer.
  have hroom : ¬ 8 * t.elementCount.toNat + 8 ≤ bytes.length := by
    have hlength : bytes.length = t.elementCount.toNat * 8 := by
      rw [(hfilled bytes hbytes).2, htype]
      rfl
    omega
  rw [int64_eq hbytes, if_neg hroom] at ha
  cases ha

end Tensor

namespace Setter

variable {σ : Type} {setter : Setter σ} {s : σ} {t : Tensor}

/-- A setter reads the elements of a buffer that is there, and otherwise returns
`OH_NN_INVALID_PARAMETER`. -/
structure StaysInside (setter : Setter σ) (s : σ) (t : Tensor) : Prop where
  elements : Inside (setter.run s t.clipped)
  null : t.buffer = none → ∃ u, setter.run s t = .ok (none, u)

/-- A setter that does so on every tensor of a model. -/
def Safe (setter : Setter σ) : Prop :=
  ∀ s t, t.Filled → setter.StaysInside s t

theorem run_of_refused (h : (Check.run setter.checks t).1 = false) :
    ∃ u, setter.run s t = .ok (none, u) := by
  unfold run
  rcases hrun : Check.run setter.checks t with ⟨passed, u⟩
  rw [hrun] at h
  obtain rfl : passed = false := h
  exact ⟨u, rfl⟩

/-- A tensor that passes is read, with its mark or without. -/
theorem run_of_passed (h : (Check.run setter.checks t).1 = true) :
    ∃ u, (u = t ∨ u = t.identifyOpParameter) ∧
      setter.run s t = (do return (← setter.store s u, u)) := by
  have hsnd := Check.run_snd setter.checks t
  unfold run
  rcases hrun : Check.run setter.checks t with ⟨passed, u⟩
  rw [hrun] at h hsnd
  obtain rfl : passed = true := h
  refine ⟨u, ?_, rfl⟩
  dsimp only at hsnd
  split at hsnd
  · exact Or.inr hsnd
  · exact Or.inl hsnd

/-- A setter that looks for the buffer, and then reads inside. -/
theorem safe_of (hbuffer : .buffer ∈ setter.checks)
    (hstore : ∀ s (t : Tensor), t.Filled → (∀ check ∈ setter.checks, check.passes t = true) →
      Inside (setter.store s t)) : setter.Safe := by
  intro s t hfilled
  rcases hpassed : (Check.run setter.checks t).1 with _ | _
  · obtain ⟨u, hrun⟩ := run_of_refused (s := s) hpassed
    refine ⟨?_, fun _ => ⟨u, hrun⟩⟩
    rw [Tensor.clipped_eq hfilled, hrun]
    exact Inside.ok _
  · refine ⟨?_, fun hnone => ?_⟩
    · have hpasses := Check.run_fst_iff.mp hpassed
      obtain ⟨u, hu, hrun⟩ := run_of_passed (s := s) hpassed
      rw [Tensor.clipped_eq hfilled, hrun]
      rcases hu with rfl | rfl
      · exact (hstore s u hfilled hpasses).store _
      · refine (hstore s t.identifyOpParameter hfilled fun check hcheck => ?_).store _
        rw [Check.passes_mark]
        exact hpasses check hcheck
    · -- The buffer has been looked for.
      have hsome : t.buffer.isSome = true := Check.run_fst_iff.mp hpassed .buffer hbuffer
      rw [hnone] at hsome
      cases hsome

/-- On which tensors of a model a setter does not stay inside. -/
def StraysOn (setter : Setter σ) (Bad : Tensor → Prop) : Prop :=
  ∀ s t, t.Filled → (setter.StaysInside s t ↔ ¬ Bad t)

theorem Safe.straysOn (h : setter.Safe) {Bad : Tensor → Prop} (hbad : ∀ t, ¬ Bad t) :
    setter.StraysOn Bad :=
  fun s t hfilled => iff_of_true (h s t hfilled) (hbad t)

end Setter

namespace Ops

variable {σ α β : Type} {checks : List Check}

/-- A setter looks for a data type and for the buffer. -/
def Guarded (checks : List Check) (d : DataType) : Prop :=
  .dataType d ∈ checks ∧ .buffer ∈ checks

instance (checks : List Check) (d : DataType) : Decidable (Guarded checks d) :=
  inferInstanceAs (Decidable (_ ∧ _))

theorem stores_safe {d : DataType} {read : Tensor → Except Fault α} {put : σ → α → σ}
    (hguarded : Guarded checks d)
    (hread : ∀ t : Tensor, t.Filled → t.dataType = d → Inside (read t)) :
    (stores checks read put).Safe :=
  Setter.safe_of hguarded.2 fun _ t hfilled hpasses =>
    (hread t hfilled (Check.dataType_of_passes hpasses hguarded.1)).store _

theorem storesDecoded_safe {d : DataType} {read : Tensor → Except Fault α} {decode : α → Option β}
    {put : σ → β → σ} (hguarded : Guarded checks d)
    (hread : ∀ t : Tensor, t.Filled → t.dataType = d → Inside (read t)) :
    (storesDecoded checks read decode put).Safe :=
  Setter.safe_of hguarded.2 fun _ t hfilled hpasses =>
    (hread t hfilled (Check.dataType_of_passes hpasses hguarded.1)).store _

/-- The first number of a tensor, which may be narrower than the elements. -/
theorem first_inside {t : Tensor} {d : DataType} {w : Nat} (hfilled : t.Filled)
    (htype : t.dataType = d) (hw : w ≤ d.typeSize.toNat) : Inside (t.number w 0) :=
  Tensor.number_inside hfilled (htype ▸ hw) (Tensor.first_lt hfilled)

theorem int64Setter_safe {put : σ → Int64 → σ} (h : Guarded checks .int64) :
    (int64Setter checks put).Safe :=
  stores_safe h fun _ hfilled htype => (first_inside hfilled htype le_rfl).store _

theorem floatSetter_safe {put : σ → UInt32 → σ} (h : Guarded checks .float32) :
    (floatSetter checks put).Safe :=
  stores_safe h fun _ hfilled htype => (first_inside hfilled htype le_rfl).store _

theorem boolSetter_safe {put : σ → Bool → σ} (h : Guarded checks .bool) :
    (boolSetter checks put).Safe :=
  stores_safe h fun _ hfilled htype => (first_inside hfilled htype le_rfl).store _

theorem int64sSetter_safe {put : σ → List Int64 → σ} (h : Guarded checks .int64) :
    (int64sSetter checks put).Safe :=
  stores_safe h fun _ hfilled htype => Tensor.int64s_inside hfilled htype fun _ => le_rfl

theorem floats_safe {put : σ → List UInt32 → σ} (h : Guarded checks .float32) :
    (stores checks Tensor.allFloat put).Safe :=
  stores_safe h fun _ hfilled htype => Tensor.allFloat_inside hfilled htype

theorem activationSetter_safe {put : σ → ActivationType → σ} (h : Guarded checks .int8) :
    (activationSetter checks put).Safe :=
  storesDecoded_safe h fun _ hfilled htype => (first_inside hfilled htype le_rfl).store _

/-- The number of elements decides how a pad is read. -/
theorem padSetter_safe {putMode : σ → PadMode → σ} {putList : σ → List Int64 → σ}
    (h : .buffer ∈ checks) : (padSetter checks putMode putList).Safe := by
  refine Setter.safe_of h fun s t hfilled _ => ?_
  show Inside (if t.elementCount = 1 then _ else if t.elementCount = 4 then _ else _)
  split
  · split
    · exact Inside.ok none
    · rename_i htype
      exact ((first_inside hfilled (not_not.mp htype) le_rfl).store _).store _
  · split
    · rename_i hcount
      split
      · exact Inside.ok none
      · rename_i htype
        refine (Tensor.int64s_inside hfilled (not_not.mp htype) fun _ => ?_).store _
        rw [hcount]
        exact le_rfl
    · exact Inside.ok none

/-! ## The setters that leave something out -/

/-- A setter that stores what it reads, whatever it looks for. -/
theorem stores_staysInside_iff {read : Tensor → Except Fault α} {put : σ → α → σ}
    (hmark : ∀ t : Tensor, read t.identifyOpParameter = read t) {s : σ} {t : Tensor}
    (hfilled : t.Filled) :
    (stores checks read put).StaysInside s t ↔
      ((∀ check ∈ checks, check.passes t = true) → t.buffer ≠ none ∧ Inside (read t)) := by
  have hclipped := Tensor.clipped_eq hfilled
  cases hpassed : (Check.run checks t).1 with
  | false =>
    obtain ⟨u, hrun⟩ : ∃ u, (stores checks read put).run s t = .ok (none, u) :=
      Setter.run_of_refused hpassed
    refine iff_of_true ⟨?_, fun _ => ⟨u, hrun⟩⟩ fun hpasses => ?_
    · rw [hclipped, hrun]
      exact Inside.ok _
    · rw [Check.run_fst_iff.mpr hpasses] at hpassed
      cases hpassed
  | true =>
    obtain ⟨u, hu, hrun⟩ : ∃ u, (u = t ∨ u = t.identifyOpParameter) ∧
        (stores checks read put).run s t =
          (do return (← (stores checks read put).store s u, u)) := Setter.run_of_passed hpassed
    have hread : read u = read t := by
      rcases hu with rfl | rfl
      · rfl
      · exact hmark t
    have hstored : (stores checks read put).store s u = (do return some (put s (← read t))) := by
      rw [← hread]
      rfl
    rw [hstored] at hrun
    constructor
    · rintro ⟨helements, hnull⟩ -
      rw [hclipped, hrun] at helements
      refine ⟨fun hnone => ?_, fun herror => helements (by rw [herror]; rfl)⟩
      -- What is read is stored: the tensor is not refused.
      obtain ⟨v, hrefused⟩ := hnull hnone
      rw [hrun] at hrefused
      cases hval : read t with
      | error fault =>
        rw [hval] at hrefused
        cases hrefused
      | ok a =>
        rw [hval] at hrefused
        cases hrefused
    · intro hgood
      obtain ⟨hsome, hinside⟩ := hgood (Check.run_fst_iff.mp hpassed)
      refine ⟨?_, fun hnone => absurd hnone hsome⟩
      rw [hclipped, hrun]
      exact (hinside.store _).store _

/-- The crops: four numbers are read, however many elements there are. -/
theorem crops_straysOn {put : σ → List Int64 → σ} :
    (stores [.mark, .dataType .int64, .buffer] (·.int64s 4) put).StraysOn fun t =>
      t.dataType = .int64 ∧ t.buffer.isSome = true ∧ t.elementCount.toNat < 4 := by
  intro s t hfilled
  rw [stores_staysInside_iff (fun _ => rfl) hfilled]
  constructor
  · rintro hgood ⟨htype, hsome, hcount⟩
    refine Tensor.not_int64s_inside hfilled htype hsome hcount (hgood ?_).2
    simp [Check.passes, htype, hsome]
  · intro hbad hpasses
    have htype := Check.dataType_of_passes hpasses (d := .int64) (by decide)
    have hsome : t.buffer.isSome = true := hpasses .buffer (by decide)
    refine ⟨Option.isSome_iff_ne_none.mp hsome, Tensor.int64s_inside hfilled htype fun _ => ?_⟩
    exact Nat.le_of_not_lt fun hlt => hbad ⟨htype, hsome, hlt⟩

/-- The number of outputs: nothing looks for the buffer. -/
theorem outputNum_straysOn {put : σ → Int64 → σ} :
    (int64Setter [.dataType .int64, .elementCount 1] put).StraysOn fun t =>
      t.dataType = .int64 ∧ t.elementCount = 1 ∧ t.buffer = none := by
  intro s t hfilled
  unfold int64Setter
  rw [stores_staysInside_iff (fun _ => rfl) hfilled]
  constructor
  · rintro hgood ⟨htype, hcount, hnone⟩
    refine (hgood ?_).1 hnone
    simp [Check.passes, htype, hcount]
  · intro hbad hpasses
    have htype := Check.dataType_of_passes hpasses (d := .int64) (by decide)
    have hcount := Check.elementCount_of_passes hpasses (n := 1) (by decide)
    exact ⟨fun hnone => hbad ⟨htype, hcount, hnone⟩,
      (first_inside hfilled htype le_rfl).store _⟩

/-- The sizes of the parts: neither. -/
theorem sizeSplits_straysOn {put : σ → List Int64 → σ} :
    (int64sSetter [.dataType .int64] put).StraysOn fun t =>
      t.dataType = .int64 ∧ t.buffer = none := by
  intro s t hfilled
  unfold int64sSetter
  rw [stores_staysInside_iff (fun _ => rfl) hfilled]
  constructor
  · rintro hgood ⟨htype, hnone⟩
    refine (hgood ?_).1 hnone
    simp [Check.passes, htype]
  · intro hbad hpasses
    have htype := Check.dataType_of_passes hpasses (d := .int64) (by decide)
    exact ⟨fun hnone => hbad ⟨htype, hnone⟩,
      Tensor.int64s_inside hfilled htype fun _ => le_rfl⟩

/-! ## The builders -/

/-- The tensors of a model on which the setter of a parameter type leaves the data. -/
def Strays : TensorType → Tensor → Prop
  | .batchToSpaceNdCrops, t =>
    t.dataType = .int64 ∧ t.buffer.isSome = true ∧ t.elementCount.toNat < 4
  | .splitOutputNum, t => t.dataType = .int64 ∧ t.elementCount = 1 ∧ t.buffer = none
  | .splitSizeSplits, t => t.dataType = .int64 ∧ t.buffer = none
  | _, _ => False

/-- A builder whose setters leave the data on those tensors only. -/
def StraysAsListed (b : OpsBuilder σ) : Prop :=
  b.paramMap.Forall fun entry => entry.2.StraysOn (Strays entry.1)

theorem split_strays : StraysAsListed splitBuilder :=
  ⟨(int64Setter_safe (by decide)).straysOn fun _ h => h, outputNum_straysOn, sizeSplits_straysOn⟩

theorem batchToSpaceND_strays : StraysAsListed batchToSpaceNDBuilder :=
  ⟨(int64sSetter_safe (by decide)).straysOn fun _ h => h, crops_straysOn⟩

/-- A builder without one of the three. -/
theorem straysAsListed_of_safe {b : OpsBuilder σ}
    (hsafe : b.paramMap.Forall fun entry => entry.2.Safe)
    (htypes : ∀ type ∈ b.paramMap.map Prod.fst,
      type ≠ .batchToSpaceNdCrops ∧ type ≠ .splitOutputNum ∧ type ≠ .splitSizeSplits) :
    StraysAsListed b := by
  unfold StraysAsListed
  rw [List.forall_iff_forall_mem] at hsafe ⊢
  intro entry hentry
  refine (hsafe entry hentry).straysOn fun t hbad => ?_
  obtain ⟨hcrops, hnum, hsizes⟩ := htypes _ (List.mem_map_of_mem hentry)
  unfold Strays at hbad
  split at hbad
  · exact hcrops ‹_›
  · exact hnum ‹_›
  · exact hsizes ‹_›
  · exact hbad

theorem spaceToBatchND_strays : StraysAsListed spaceToBatchNDBuilder := by
  refine straysAsListed_of_safe ⟨int64sSetter_safe (by decide), ?_⟩ (by decide)
  -- Two numbers are read of the four that have been looked for.
  refine Setter.safe_of (by decide) fun s t hfilled hpasses => ?_
  have htype := Check.dataType_of_passes hpasses (d := .int64) (by decide)
  have hcount := Check.elementCount_of_passes hpasses (n := 4) (by decide)
  refine (Tensor.int64s_inside hfilled htype fun _ => ?_).store _
  rw [hcount]
  decide

theorem conv2D_strays : StraysAsListed conv2DBuilder := by
  refine straysAsListed_of_safe ?_ (by decide)
  exact ⟨int64sSetter_safe (by decide), padSetter_safe (by decide), int64sSetter_safe (by decide),
    padSetter_safe (by decide), activationSetter_safe (by decide), int64Setter_safe (by decide)⟩

/-- Either pooling. -/
theorem pooling_strays (opName : String) (primitive : Pooling → Primitive) :
    StraysAsListed (pooling opName primitive) := by
  have hkernel : Pooling.setKernel.Safe := int64sSetter_safe (by decide)
  have hstrides : Pooling.setStrides.Safe := int64sSetter_safe (by decide)
  have hpad : Pooling.setPadModeOrPaddings.Safe := padSetter_safe (by decide)
  have hactivation : Pooling.setActivation.Safe := activationSetter_safe (by decide)
  have hround : Pooling.setRoundMode.Safe :=
    storesDecoded_safe (d := .int32) (by decide) fun _ hfilled htype =>
      (first_inside hfilled htype le_rfl).store _
  have hglobal : Pooling.setGlobal.Safe := boolSetter_safe (by decide)
  -- The types are those of either.
  have htypes : ∀ type ∈ avgPoolBuilder.paramMap.map Prod.fst,
      type ≠ .batchToSpaceNdCrops ∧ type ≠ .splitOutputNum ∧ type ≠ .splitSizeSplits := by decide
  refine straysAsListed_of_safe ?_ htypes
  exact ⟨hkernel, hstrides, hpad, hpad, hactivation, hround, hglobal,
    hkernel, hstrides, hpad, hpad, hactivation, hround, hglobal⟩

theorem fullConnection_strays : StraysAsListed fullConnectionBuilder := by
  refine straysAsListed_of_safe ?_ (by decide)
  refine ⟨activationSetter_safe (by decide), boolSetter_safe (by decide), ?_, ?_⟩
  · refine Setter.safe_of (by decide) fun s t hfilled hpasses => ?_
    have htype := Check.dataType_of_passes hpasses (d := .bool) (by decide)
    refine ((first_inside hfilled htype le_rfl).store _).bind fun useAxis _ => ?_
    split
    · exact Inside.ok none
    · exact Inside.ok _
  · refine Setter.safe_of (by decide) fun s t hfilled hpasses => ?_
    have htype := Check.dataType_of_passes hpasses (d := .int64) (by decide)
    have hread : Inside (t.int64 0) := (first_inside hfilled htype le_rfl).store _
    show Inside (do if _ then _ else _)
    split
    · exact Inside.ok none
    · exact hread.store _

theorem lstm_strays : StraysAsListed lstmBuilder := by
  have hbool {put : LSTM → Bool → LSTM} : (boolSetter (scalarOf .bool) put).Safe :=
    boolSetter_safe (by decide)
  have hint {put : LSTM → Int64 → LSTM} : (int64Setter (scalarOf .int64) put).Safe :=
    int64Setter_safe (by decide)
  have hfloat {put : LSTM → UInt32 → LSTM} : (floatSetter (scalarOf .float32) put).Safe :=
    floatSetter_safe (by decide)
  refine straysAsListed_of_safe ⟨hbool, hbool, hint, hint, hint, hint, hfloat, hfloat, hfloat, ?_⟩
    (by decide)
  -- Half of the first number is read, and then converted.
  refine stores_safe (d := .int64) (by decide) fun t hfilled htype => ?_
  refine ((first_inside hfilled htype (by decide)).store _).bind fun bits _ => ?_
  exact Inside.ite (Inside.ok _) (Inside.error nofun)

theorem crop_strays : StraysAsListed cropBuilder :=
  straysAsListed_of_safe ⟨int64Setter_safe (by decide), int64sSetter_safe (by decide)⟩ (by decide)

theorem slice_strays : StraysAsListed sliceBuilder :=
  straysAsListed_of_safe (int64sSetter_safe (by decide)) (by decide)

theorem detectionPostProcess_strays : StraysAsListed detectionPostProcessBuilder := by
  have hint {put : DetectionPostProcess → Int64 → DetectionPostProcess} :
      (int64Setter (scalarOf .int64) put).Safe := int64Setter_safe (by decide)
  have hfloat {put : DetectionPostProcess → UInt32 → DetectionPostProcess} :
      (floatSetter (scalarOf .float32) put).Safe := floatSetter_safe (by decide)
  have hbool {put : DetectionPostProcess → Bool → DetectionPostProcess} :
      (boolSetter (scalarOf .bool) put).Safe := boolSetter_safe (by decide)
  refine straysAsListed_of_safe ?_ (by decide)
  exact ⟨hint, floats_safe (by decide), hfloat, hfloat, hint, hint, hint, hint, hbool, hbool⟩

end Ops

/-- The operations whose setters are looked at here. -/
def readingOperations : List OperationType :=
  [.split, .batchToSpaceNd, .spaceToBatchNd, .avgPool, .maxPool, .conv2d, .fullConnection, .lstm,
    .crop, .slice, .detectionPostProcess]

theorem strays_of_mem : readingOperations.Forall fun op =>
    Ops.StraysAsListed (getOpsBuilder op).builder :=
  ⟨Ops.split_strays, Ops.batchToSpaceND_strays, Ops.spaceToBatchND_strays, Ops.pooling_strays _ _,
    Ops.pooling_strays _ _, Ops.conv2D_strays, Ops.fullConnection_strays, Ops.lstm_strays,
    Ops.crop_strays, Ops.slice_strays, Ops.detectionPostProcess_strays⟩

/-- **Setters stay inside the data** of the tensors of any reachable model, but for the crops of
`BatchToSpaceND` with too few elements, and the number and the sizes of the parts of a `Split`
without a buffer. -/
theorem staysInside_iff {m : InnerModel} (hm : m.Reachable) {t : Tensor} (ht : t ∈ m.allTensors)
    {op : OperationType} (hop : op ∈ readingOperations) {type : TensorType}
    {setter : Setter (getOpsBuilder op).Members}
    (hsetter : (type, setter) ∈ (getOpsBuilder op).builder.paramMap)
    (s : (getOpsBuilder op).Members) :
    setter.StaysInside s t ↔ ¬ Ops.Strays type t := by
  have hstrays := List.forall_iff_forall_mem.mp strays_of_mem op hop
  exact List.forall_iff_forall_mem.mp hstrays _ hsetter s t (InnerModel.filled_of_reachable hm t ht)

/-- A number of parts without a value, and crops of two elements. -/
def shortParams : List (ModelEnv × Call) :=
  [({}, .edit (.addTensor ⟨some .int64, .array [1], none, some .splitOutputNum⟩)),
    ({}, .edit (.addTensor ⟨some .int64, .array [2], none, some .batchToSpaceNdCrops⟩)),
    ({}, .edit (.setTensorValue 1 (some (List.replicate 16 0))))]

/-- Crops of two rows. -/
def wholeCrops : List (ModelEnv × Call) :=
  [({}, .edit (.addTensor ⟨some .int64, .array [2, 2], none, some .batchToSpaceNdCrops⟩)),
    ({}, .edit (.setTensorValue 0 (some (1 :: List.replicate 23 0 ++ 2 :: List.replicate 7 0))))]

/-- They are read whole, and nothing behind them. -/
theorem staysInside_iff_crops : ∃ (m : InnerModel) (t : Tensor), m.Reachable ∧ t ∈ m.allTensors ∧
    ∃ setter, (TensorType.batchToSpaceNdCrops, setter) ∈ Ops.batchToSpaceNDBuilder.paramMap ∧
      (∃ s u, setter.run {} t = .ok (some s, u) ∧ s.crops = [[1, 0], [0, 2]]) ∧
      setter.StaysInside {} t := by
  refine ⟨_, _, ⟨wholeCrops, rfl⟩, List.mem_cons_self, _,
    List.mem_cons_of_mem _ List.mem_cons_self, ⟨_, _, rfl, by decide⟩, ?_⟩
  have hop : OperationType.batchToSpaceNd ∈ readingOperations := by decide
  refine (staysInside_iff ⟨wholeCrops, rfl⟩ List.mem_cons_self hop
    (List.mem_cons_of_mem _ List.mem_cons_self) {}).mpr ?_
  rintro ⟨-, -, hfew⟩
  exact absurd hfew (by decide)

/-- `SetOutputNum` reads through a null pointer, and `SetInputCrops` behind the data. -/
theorem shortParams_stray : ∃ m : InnerModel, Run.exec InnerModel.step {} shortParams = .ok m ∧
    (∃ t ∈ m.allTensors, ∃ setter, (t.tensorType, setter) ∈ Ops.splitBuilder.paramMap ∧
      setter.run {} t = .error (.nullDeref .buffer) ∧ ¬ setter.StaysInside {} t) ∧
    ∃ t ∈ m.allTensors, ∃ setter, (t.tensorType, setter) ∈ Ops.batchToSpaceNDBuilder.paramMap ∧
      setter.run {} t = .error .outOfBounds ∧ ¬ setter.StaysInside {} t := by
  refine ⟨_, rfl, ⟨_, List.mem_cons_self, _, List.mem_cons_of_mem _ List.mem_cons_self, rfl, ?_⟩,
    ⟨_, List.mem_cons_of_mem _ List.mem_cons_self, _, List.mem_cons_of_mem _ List.mem_cons_self,
      rfl, ?_⟩⟩
  · rintro ⟨-, hnull⟩
    obtain ⟨u, hu⟩ := hnull rfl
    cases hu
  · rintro ⟨helements, -⟩
    exact helements rfl

end NNRt
