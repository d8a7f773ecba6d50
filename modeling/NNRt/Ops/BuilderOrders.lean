import NNRt.Ops.LSTMParams
import NNRt.Ops.ParamOrder

/-!
# Builders and the order of their parameters

`FullConnection`, `Conv2D`, the poolings and `LSTM` as loops of writes.

- `fullConnection_orderIndependent`: the setters of the axis and of its use look at each
  other's flags, and still commute.
- `conv2D_orderIndependent_iff`: the pad and the pad mode share a setter, which goes by the
  number of elements.
- `orderIndependent_iff`: **when the order does not matter, for each of the builders.**
-/

namespace NNRt

open OpsBuilder (decodeAt)

/-! ## Refusals -/

namespace Reading

variable {P α β : Type}

/-- A reading that gets through the tensors of a model, or refuses them. -/
def Refuses (r : Reading P) : Prop :=
  ∀ t : Tensor, t.Filled → ∀ stop, r.decode t = .error stop → stop = .ret .invalidParameter

theorem refuses_of {r : Reading P}
    (h : ∀ t : Tensor, t.Filled → (∀ check ∈ r.checks, check.passes t = true) →
      ∃ o, r.read t = .ok o) : r.Refuses := by
  intro t hfilled stop hstop
  unfold decode at hstop
  split at hstop
  · rename_i hpassed
    obtain ⟨o, ho⟩ := h t hfilled (Check.run_fst_iff.mp hpassed)
    rw [ho] at hstop
    cases o with
    | none =>
      cases hstop
      rfl
    | some p => cases hstop
  · cases hstop
    rfl

theorem value_refuses {checks : List Check} {read : Tensor → Except Fault α} {c : α → P}
    {hmark : ∀ t : Tensor, read t.identifyOpParameter = read t}
    (h : ∀ t : Tensor, t.Filled → (∀ check ∈ checks, check.passes t = true) → ∃ a, read t = .ok a) :
    (value checks read c hmark).Refuses :=
  refuses_of fun t hfilled hpasses => by
    obtain ⟨a, ha⟩ := h t hfilled hpasses
    refine ⟨some (c a), ?_⟩
    show (read t >>= fun a => pure (some (c a))) = _
    rw [ha]
    rfl

theorem decoded_refuses {checks : List Check} {read : Tensor → Except Fault α}
    {decode : α → Option β} {c : β → P}
    {hmark : ∀ t : Tensor, read t.identifyOpParameter = read t}
    (h : ∀ t : Tensor, t.Filled → (∀ check ∈ checks, check.passes t = true) → ∃ a, read t = .ok a) :
    (decoded checks read decode c hmark).Refuses :=
  refuses_of fun t hfilled hpasses => by
    obtain ⟨a, ha⟩ := h t hfilled hpasses
    refine ⟨(decode a).map c, ?_⟩
    show (read t >>= fun a => pure ((decode a).map c)) = _
    rw [ha]
    rfl

/-- What is read as one kind of parameter is of its type. -/
theorem value_typed {checks : List Check} {read : Tensor → Except Fault α} {c : α → P}
    (hmark : ∀ t : Tensor, read t.identifyOpParameter = read t) {type : P → TensorType}
    {key : TensorType} (h : ∀ a, type (c a) = key) (t : Tensor) (p : P)
    (hp : (value checks read c hmark).decode t = .ok p) : type p = key := by
  obtain ⟨-, a, -, rfl⟩ := decode_value hp
  exact h a

theorem decoded_typed {checks : List Check} {read : Tensor → Except Fault α}
    {decode : α → Option β} {c : β → P}
    (hmark : ∀ t : Tensor, read t.identifyOpParameter = read t) {type : P → TensorType}
    {key : TensorType} (h : ∀ b, type (c b) = key) (t : Tensor) (p : P)
    (hp : (decoded checks read decode c hmark).decode t = .ok p) : type p = key := by
  obtain ⟨-, hread⟩ := decode_eq_ok_iff.mp hp
  obtain ⟨a, -, hp⟩ := bind_eq_ok hread
  obtain ⟨b, -, rfl⟩ := Option.map_eq_some_iff.mp (Except.ok.inj hp)
  exact h b

end Reading

namespace OpsBuilder

variable {σ P : Type} {b : OpsBuilder σ} {params inputs outputs : List Nat} {tensors : List Tensor}

/-- A parameter is refused. -/
def Refused (table : List (TensorType × Reading P)) (tensors : List Tensor) (i : Nat) : Prop :=
  decodeAt table tensors i = .error (.ret .invalidParameter)

/-- Two parameters are accepted, and clash. -/
def ClashAt (Clash : P → P → Prop) (table : List (TensorType × Reading P)) (tensors : List Tensor)
    (i j : Nat) : Prop :=
  ∃ p q, decodeAt table tensors i = .ok p ∧ decodeAt table tensors j = .ok q ∧ Clash p q

/-- One parameter is refused, or no two of them clash. -/
def OrderFree (Clash : P → P → Prop) (table : List (TensorType × Reading P))
    (tensors : List Tensor) (params : List Nat) : Prop :=
  (∃ i ∈ params, Refused table tensors i) ∨
    params.Pairwise fun i j => ¬ ClashAt Clash table tensors i j

/-- How the readings of a table stop, the table stops; and types it does not know are refused. -/
theorem stop_of_decodeAt {Q : Stop → Prop} {table : List (TensorType × Reading P)}
    (hret : Q (.ret .invalidParameter))
    (h : table.Forall fun entry => ∀ t : Tensor, t.Filled → ∀ stop,
      entry.2.decode t = .error stop → Q stop)
    {i : Nat} (hi : i < tensors.length) (hfilled : ∀ t, tensors[i]? = some t → t.Filled)
    {stop : Stop} (hstop : decodeAt table tensors i = .error stop) : Q stop := by
  have ht : tensors[i]? = some tensors[i] := List.getElem?_eq_getElem hi
  unfold decodeAt decode at hstop
  rw [ht] at hstop
  dsimp only at hstop
  split at hstop
  · cases hstop
    exact hret
  · rename_i r hr
    obtain ⟨before, after, heq, -⟩ := List.lookup_eq_some_iff.mp hr
    have hmem : (tensors[i].tensorType, r) ∈ table := by
      rw [heq]
      exact List.mem_append_right _ List.mem_cons_self
    exact List.forall_iff_forall_mem.mp h _ hmem _ (hfilled _ ht) stop hstop

/-- **Setters that refuse in one way.** -/
theorem orderIndependent_iff_refuses {ν : Type} {table : List (TensorType × Reading P)}
    {put : σ → P → σ} (view : σ → ν) (putView : ν → P → ν) {Clash : P → P → Prop}
    (h : b.GoesBy Tensor.Filled table fun s p => .ok (put s p))
    (hrefuses : table.Forall fun entry => entry.2.Refuses)
    (htensors : ∀ t ∈ tensorsAt tensors params, t.Filled) (hearly : b.setsQuantType ≠ .early)
    (hcheck : ∀ s ts, b.checkParams s ts = .ok .success)
    (hquant : b.Reaches params inputs outputs tensors →
      ∃ quantType, b.quantType outputs (markAll (b.marksOf params tensors) tensors) = .ok quantType)
    (hprimitive : ∀ s s', b.primitive s = b.primitive s' ↔ view s = view s')
    (hview : ∀ s p, view (put s p) = putView (view s) p)
    (hsymm : ∀ {p q}, Clash p q → Clash q p)
    (hcomm : ∀ v {p q}, ¬ Clash p q → putView (putView v p) q = putView (putView v q) p)
    (hclash : ∀ v {p q}, Clash p q → putView (putView v p) q ≠ putView (putView v q) p) :
    b.OrderIndependent params inputs outputs tensors ↔
      (b.Reaches params inputs outputs tensors → OrderFree Clash table tensors params) := by
  rw [orderIndependent_iff_total view putView h Tensor.filled_mark htensors hearly hcheck hquant
    hprimitive hview hsymm hcomm hclash]
  refine forall_congr' fun hreaches => ?_
  obtain ⟨s, hbegins⟩ := (begins_iff_reaches hearly).mpr hreaches
  have hrange := range_of_begins hbegins
  have hone : ∀ i ∈ params, ∀ stop, decodeAt table tensors i = .error stop →
      stop = .ret .invalidParameter := fun i hi stop =>
    stop_of_decodeAt (Q := (· = .ret .invalidParameter)) rfl hrefuses (hrange i hi) fun t ht =>
      htensors t (List.mem_filterMap.mpr ⟨i, hi, ht⟩)
  rw [and_iff_right fun i hi j hj stop stop' hstop hstop' =>
    (hone i hi stop hstop).trans (hone j hj stop' hstop').symm]
  refine or_congr ?_ (List.Pairwise.iff fun i j => ?_)
  · constructor
    · rintro ⟨i, hi, stop, hstop⟩
      exact ⟨i, hi, hstop.trans (congrArg _ (hone i hi stop hstop))⟩
    · rintro ⟨i, hi, hrefused⟩
      exact ⟨i, hi, _, hrefused⟩
  · exact ⟨fun h ⟨p, q, hp, hq, hclash⟩ => h p q hp hq hclash,
      fun h p q hp hq hclash => h ⟨p, q, hp, hq, hclash⟩⟩

/-- The parameters have tensors of different types. -/
def DistinctTypes (tensors : List Tensor) (params : List Nat) : Prop :=
  ((tensorsAt tensors params).map (·.tensorType)).Nodup

/-- What is read by a table comes from a tensor of its type. -/
def Typed (type : P → TensorType) (table : List (TensorType × Reading P)) : Prop :=
  table.Forall fun entry => ∀ t p, entry.2.decode t = .ok p → type p = entry.1

/-- Parameters of different types. -/
theorem types_ne {type : P → TensorType} {table : List (TensorType × Reading P)}
    (htyped : Typed type table) {params : List Nat} (h : DistinctTypes tensors params) :
    params.Pairwise fun i j => ∀ p q, decodeAt table tensors i = .ok p →
      decodeAt table tensors j = .ok q → type p ≠ type q := by
  have htype : ∀ {i p}, decodeAt table tensors i = .ok p →
      ∃ t, tensors[i]? = some t ∧ type p = t.tensorType := by
    intro i p hp
    unfold decodeAt at hp
    split at hp
    · cases hp
    · rename_i t ht
      obtain ⟨r, hr, hdecode⟩ := mem_of_decode hp
      exact ⟨t, ht, List.forall_iff_forall_mem.mp htyped _ hr t p hdecode⟩
  unfold DistinctTypes tensorsAt at h
  rw [List.Nodup, List.pairwise_map, List.pairwise_filterMap] at h
  refine h.imp fun {i j} hne p q hp hq heq => ?_
  obtain ⟨t, ht, hpt⟩ := htype hp
  obtain ⟨u, hu, hqu⟩ := htype hq
  exact hne t ht u hu (hpt.symm.trans (heq.trans hqu))

/-- A builder that looks at the type of its first output at the end finds one. -/
theorem quantType_of_reaches {inputNum outputNum : Nat} {marked : List Nat}
    (hio : b.checkIO = checkIOIndex inputNum (outputNum + 1))
    (h : b.Reaches params inputs outputs tensors) :
    ∃ quantType, b.quantType outputs (markAll marked tensors) = .ok quantType := by
  unfold quantType
  split
  · exact ⟨.none, rfl⟩
  · have hchecked : checkIOIndex inputNum (outputNum + 1) inputs outputs tensors = .success :=
      hio ▸ h.1
    exact quantTypeOf_of_checkIOIndex (length_markAll _ _) hchecked

end OpsBuilder

namespace Ops

variable {σ α : Type} {checks : List Check} {t : Tensor}

/-- What a setter looks for before it reads a number. -/
theorem guarded_of_passes {d : DataType} (hd : .dataType d ∈ checks ∧ .buffer ∈ checks)
    (hpasses : ∀ check ∈ checks, check.passes t = true) :
    t.dataType = d ∧ t.buffer.isSome = true :=
  ⟨Check.dataType_of_passes hpasses hd.1, hpasses _ hd.2⟩

/-- The first number of a tensor, which may be narrower than the elements. -/
theorem first_ok {d : DataType} {w : Nat} (hfilled : t.Filled) (hw : w ≤ d.typeSize.toNat)
    (h : t.dataType = d ∧ t.buffer.isSome = true) : ∃ n, t.number w 0 = .ok n := by
  obtain ⟨rfl, hbuffer⟩ := h
  exact Tensor.number_ok hfilled hw hbuffer (Tensor.first_lt hfilled hbuffer)

theorem int64_first_ok (hfilled : t.Filled) (h : t.dataType = .int64 ∧ t.buffer.isSome = true) :
    ∃ n, t.int64 0 = .ok n := by
  obtain ⟨n, hn⟩ := first_ok (w := 8) hfilled le_rfl h
  exact ⟨Int64.ofNat n, by unfold Tensor.int64; rw [hn]; rfl⟩

theorem int32_ok (hfilled : t.Filled) (h : t.dataType = .int32 ∧ t.buffer.isSome = true) :
    ∃ n, t.int32 = .ok n := by
  obtain ⟨n, hn⟩ := first_ok (w := 4) hfilled le_rfl h
  exact ⟨Int32.ofNat n, by unfold Tensor.int32; rw [hn]; rfl⟩

theorem int8_ok (hfilled : t.Filled) (h : t.dataType = .int8 ∧ t.buffer.isSome = true) :
    ∃ n, t.int8 = .ok n := by
  obtain ⟨n, hn⟩ := first_ok (w := 1) hfilled le_rfl h
  exact ⟨Int8.ofNat n, by unfold Tensor.int8; rw [hn]; rfl⟩

theorem bool_ok (hfilled : t.Filled) (h : t.dataType = .bool ∧ t.buffer.isSome = true) :
    ∃ value, t.bool = .ok value := by
  obtain ⟨n, hn⟩ := first_ok (w := 1) hfilled le_rfl h
  exact ⟨_, by unfold Tensor.bool; rw [hn]; rfl⟩

/-- A pad tensor says a mode or a list, by the number of its elements. -/
def padReading {P : Type} (checks : List Check) (mode : PadMode → P) (list : List Int64 → P) :
    Reading P where
  checks := checks
  read t :=
    if t.elementCount = 1 then
      if t.dataType ≠ .int8 then .ok none
      else do
        return (NNToMS.transformPadModeValue (← t.int8)).map mode
    else if t.elementCount = 4 then
      if t.dataType ≠ .int64 then .ok none
      else do
        return some (list (← t.int64s 4))
    else .ok none

theorem padReading_refuses {P : Type} {mode : PadMode → P} {list : List Int64 → P}
    (h : .buffer ∈ checks) : (padReading checks mode list).Refuses := by
  refine Reading.refuses_of fun t hfilled hpasses => ?_
  have hbuffer : t.buffer.isSome = true := hpasses .buffer h
  unfold padReading
  dsimp only
  split
  · split
    · exact ⟨none, rfl⟩
    · rename_i htype
      obtain ⟨n, hn⟩ := int8_ok hfilled ⟨not_not.mp htype, hbuffer⟩
      rw [hn]
      exact ⟨_, rfl⟩
  · split
    · rename_i hcount
      split
      · exact ⟨none, rfl⟩
      · rename_i htype
        have hfour : 4 ≤ t.elementCount.toNat := by
          rw [hcount]
          exact le_rfl
        obtain ⟨data, hdata, -⟩ := Tensor.int64s_ok hfilled (not_not.mp htype) hbuffer hfour
        rw [hdata]
        exact ⟨_, rfl⟩
    · exact ⟨none, rfl⟩

theorem padSetter_goes {P : Type} {Good : Tensor → Prop} {write : σ → P → Except Stop σ}
    {mode : PadMode → P} {list : List Int64 → P} {putMode : σ → PadMode → σ}
    {putList : σ → List Int64 → σ} (hmode : ∀ s m, write s (mode m) = .ok (putMode s m))
    (hlist : ∀ s l, write s (list l) = .ok (putList s l)) :
    (padSetter checks putMode putList).Goes Good write (padReading checks mode list) := by
  refine ⟨rfl, fun s t _ _ => ?_⟩
  unfold padSetter padReading
  dsimp only
  split
  · split
    · rfl
    · cases t.int8 with
      | error fault => rfl
      | ok n =>
        show answer (.ok ((NNToMS.transformPadModeValue n).map (putMode s))) =
          (answer (.ok ((NNToMS.transformPadModeValue n).map mode)) >>= write s)
        cases NNToMS.transformPadModeValue n with
        | none => rfl
        | some m => exact (hmode s m).symm
  · split
    · split
      · rfl
      · cases t.int64s 4 with
        | error fault => rfl
        | ok l => exact (hlist s l).symm
    · rfl

/-! ## Convolution -/

namespace Conv2D

/-- A parameter of the builder, as its tensor is read. -/
inductive Param
  | strides (value : List Int64)
  | pad (value : List Int64)
  | padMode (value : PadMode)
  | dilation (value : List Int64)
  | activationType (value : ActivationType)
  | group (value : Int64)

/-- Two parameters give one member different values. -/
inductive Clash : Param → Param → Prop
  | strides {v w} (h : v ≠ w) : Clash (.strides v) (.strides w)
  | pad {v w} (h : v ≠ w) : Clash (.pad v) (.pad w)
  | padMode {v w} (h : v ≠ w) : Clash (.padMode v) (.padMode w)
  | dilation {v w} (h : v ≠ w) : Clash (.dilation v) (.dilation w)
  | activationType {v w} (h : v ≠ w) : Clash (.activationType v) (.activationType w)
  | group {v w} (h : v ≠ w) : Clash (.group v) (.group w)

def put (s : Conv2D) : Param → Conv2D
  | .strides value => { s with strides := value }
  | .pad value => { s with pad := value }
  | .padMode value => { s with padMode := value }
  | .dilation value => { s with dilation := value }
  | .activationType value => { s with activationType := value }
  | .group value => { s with group := value }

theorem Clash.symm {p q : Param} (h : Clash p q) : Clash q p := by
  cases h with
  | strides h => exact .strides h.symm
  | pad h => exact .pad h.symm
  | padMode h => exact .padMode h.symm
  | dilation h => exact .dilation h.symm
  | activationType h => exact .activationType h.symm
  | group h => exact .group h.symm

theorem put_comm (s : Conv2D) {p q : Param} (h : ¬ Clash p q) :
    put (put s p) q = put (put s q) p := by
  cases p <;> cases q <;> try rfl
  case strides.strides v w => rw [not_not.mp fun hne => h (.strides (v := v) (w := w) hne)]
  case pad.pad v w => rw [not_not.mp fun hne => h (.pad (v := v) (w := w) hne)]
  case padMode.padMode v w => rw [not_not.mp fun hne => h (.padMode (v := v) (w := w) hne)]
  case dilation.dilation v w => rw [not_not.mp fun hne => h (.dilation (v := v) (w := w) hne)]
  case activationType.activationType v w =>
    rw [not_not.mp fun hne => h (.activationType (v := v) (w := w) hne)]
  case group.group v w => rw [not_not.mp fun hne => h (.group (v := v) (w := w) hne)]

theorem put_ne (s : Conv2D) {p q : Param} (h : Clash p q) :
    put (put s p) q ≠ put (put s q) p := by
  intro heq
  cases h with
  | strides h => exact h (congrArg Conv2D.strides heq).symm
  | pad h => exact h (congrArg Conv2D.pad heq).symm
  | padMode h => exact h (congrArg Conv2D.padMode heq).symm
  | dilation h => exact h (congrArg Conv2D.dilation heq).symm
  | activationType h => exact h (congrArg Conv2D.activationType heq).symm
  | group h => exact h (congrArg Conv2D.group heq).symm

/-- The setters of the builder, as readings. -/
def readings : List (TensorType × Reading Param) :=
  [(.conv2dStrides, .int64s [.mark, .dataType .int64, .buffer] .strides),
    (.conv2dPad, padReading [.mark, .buffer] .padMode .pad),
    (.conv2dDilation, .int64s [.mark, .dataType .int64, .buffer] .dilation),
    (.conv2dPadMode, padReading [.mark, .buffer] .padMode .pad),
    (.conv2dActivationType, .activation [.mark, .elementCount 1, .dataType .int8, .buffer]
      .activationType),
    (.conv2dGroup, .int64 [.mark, .elementCount 1, .dataType .int64, .buffer] .group)]

theorem goesBy_readings :
    conv2DBuilder.GoesBy Tensor.Filled readings fun s p => .ok (put s p) :=
  .cons ⟨rfl, Reading.goes_value (fun _ => rfl) fun _ _ => rfl⟩
    (.cons ⟨rfl, padSetter_goes (fun _ _ => rfl) fun _ _ => rfl⟩
      (.cons ⟨rfl, Reading.goes_value (fun _ => rfl) fun _ _ => rfl⟩
        (.cons ⟨rfl, padSetter_goes (fun _ _ => rfl) fun _ _ => rfl⟩
          (.cons ⟨rfl, Reading.goes_decoded (fun _ => rfl) fun _ _ => rfl⟩
            (.cons ⟨rfl, Reading.goes_value (fun _ => rfl) fun _ _ => rfl⟩ .nil)))))

end Conv2D

/-- A list of integers is read of any tensor that passes. -/
theorem int64s_refuses {P : Type} {c : List Int64 → P}
    (h : .dataType .int64 ∈ checks ∧ .buffer ∈ checks) :
    (Reading.int64s checks c).Refuses :=
  Reading.value_refuses fun _ hfilled hpasses => by
    obtain ⟨htype, hbuffer⟩ := guarded_of_passes h hpasses
    obtain ⟨data, hdata, -⟩ := Tensor.allInt64_ok hfilled htype hbuffer
    exact ⟨data, hdata⟩

theorem int64_refuses {P : Type} {c : Int64 → P}
    (h : .dataType .int64 ∈ checks ∧ .buffer ∈ checks) :
    (Reading.int64 checks c).Refuses :=
  Reading.value_refuses fun _ hfilled hpasses =>
    int64_first_ok hfilled (guarded_of_passes h hpasses)

theorem bool_refuses {P : Type} {c : Bool → P} (h : .dataType .bool ∈ checks ∧ .buffer ∈ checks) :
    (Reading.bool checks c).Refuses :=
  Reading.value_refuses fun _ hfilled hpasses => bool_ok hfilled (guarded_of_passes h hpasses)

theorem activation_refuses {P : Type} {c : ActivationType → P}
    (h : .dataType .int8 ∈ checks ∧ .buffer ∈ checks) :
    (Reading.activation checks c).Refuses :=
  Reading.decoded_refuses fun _ hfilled hpasses => int8_ok hfilled (guarded_of_passes h hpasses)

namespace Conv2D

theorem readings_refuse : Conv2D.readings.Forall fun entry => entry.2.Refuses :=
  ⟨int64s_refuses (by decide), padReading_refuses (by decide), int64s_refuses (by decide),
    padReading_refuses (by decide), activation_refuses (by decide), int64_refuses (by decide)⟩

/-- **`Conv2D`**: the members all show in the primitive. -/
theorem conv2D_orderIndependent_iff {params inputs outputs : List Nat} {tensors : List Tensor}
    (htensors : ∀ t ∈ OpsBuilder.tensorsAt tensors params, t.Filled) :
    conv2DBuilder.OrderIndependent params inputs outputs tensors ↔
      (conv2DBuilder.Reaches params inputs outputs tensors →
        OpsBuilder.OrderFree Clash readings tensors params) := by
  refine OpsBuilder.orderIndependent_iff_refuses id put goesBy_readings readings_refuse htensors
    nofun (fun _ _ => rfl) (OpsBuilder.quantType_of_reaches rfl) ?_ (fun _ _ => rfl) Clash.symm
    put_comm put_ne
  intro s s'
  constructor
  · intro heq
    cases s
    cases s'
    cases heq
    rfl
  · exact congrArg conv2DBuilder.primitive

end Conv2D

/-! ## Pooling -/

namespace Pooling

/-- A parameter of either pooling, as its tensor is read. -/
inductive Param
  | kernelSize (value : List Int64)
  | strides (value : List Int64)
  | pad (value : List Int64)
  | padMode (value : PadMode)
  | activationType (value : ActivationType)
  | roundMode (value : RoundMode)
  | global (value : Bool)

/-- Two parameters give one member different values. The primitive of one of the poolings does
not show the round mode. -/
inductive Clash (showsRound : Bool) : Param → Param → Prop
  | kernelSize {v w} (h : v ≠ w) : Clash showsRound (.kernelSize v) (.kernelSize w)
  | strides {v w} (h : v ≠ w) : Clash showsRound (.strides v) (.strides w)
  | pad {v w} (h : v ≠ w) : Clash showsRound (.pad v) (.pad w)
  | padMode {v w} (h : v ≠ w) : Clash showsRound (.padMode v) (.padMode w)
  | activationType {v w} (h : v ≠ w) : Clash showsRound (.activationType v) (.activationType w)
  | roundMode {v w} (hshows : showsRound = true) (h : v ≠ w) :
    Clash showsRound (.roundMode v) (.roundMode w)
  | global {v w} (h : v ≠ w) : Clash showsRound (.global v) (.global w)

def put (s : Pooling) : Param → Pooling
  | .kernelSize value => { s with kernelSize := value }
  | .strides value => { s with strides := value }
  | .pad value => { s with pad := value }
  | .padMode value => { s with padMode := value }
  | .activationType value => { s with activationType := value }
  | .roundMode value => { s with roundMode := value }
  | .global value => { s with global := value }

/-- What the primitive shows of the members. -/
def shown (showsRound : Bool) (s : Pooling) : Pooling :=
  if showsRound then s else { s with roundMode := .floor }

/-- What it shows of a parameter that is stored. -/
def putShown (showsRound : Bool) (s : Pooling) (p : Param) : Pooling :=
  shown showsRound (put s p)

variable {showsRound : Bool} {p q : Param}

theorem Clash.symm (h : Clash showsRound p q) : Clash showsRound q p := by
  cases h with
  | kernelSize h => exact .kernelSize h.symm
  | strides h => exact .strides h.symm
  | pad h => exact .pad h.symm
  | padMode h => exact .padMode h.symm
  | activationType h => exact .activationType h.symm
  | roundMode hshows h => exact .roundMode hshows h.symm
  | global h => exact .global h.symm

theorem shown_put (s : Pooling) (p : Param) :
    shown showsRound (put s p) = putShown showsRound (shown showsRound s) p := by
  cases showsRound <;> cases p <;> rfl

theorem putShown_comm (s : Pooling) (h : ¬ Clash showsRound p q) :
    putShown showsRound (putShown showsRound s p) q =
      putShown showsRound (putShown showsRound s q) p := by
  cases p <;> cases q <;> try (cases showsRound <;> rfl)
  case kernelSize.kernelSize v w => rw [not_not.mp fun hne => h (.kernelSize (v := v) (w := w) hne)]
  case strides.strides v w => rw [not_not.mp fun hne => h (.strides (v := v) (w := w) hne)]
  case pad.pad v w => rw [not_not.mp fun hne => h (.pad (v := v) (w := w) hne)]
  case padMode.padMode v w => rw [not_not.mp fun hne => h (.padMode (v := v) (w := w) hne)]
  case activationType.activationType v w =>
    rw [not_not.mp fun hne => h (.activationType (v := v) (w := w) hne)]
  case roundMode.roundMode v w =>
    cases showsRound with
    | false => rfl
    | true => rw [not_not.mp fun hne => h (.roundMode (v := v) (w := w) rfl hne)]
  case global.global v w => rw [not_not.mp fun hne => h (.global (v := v) (w := w) hne)]

theorem putShown_ne (s : Pooling) (h : Clash showsRound p q) :
    putShown showsRound (putShown showsRound s p) q ≠
      putShown showsRound (putShown showsRound s q) p := by
  intro heq
  have hsame : ∀ {β : Type} (get : Pooling → β), (∀ s, get (shown showsRound s) = get s) →
      get (put (putShown showsRound s p) q) = get (put (putShown showsRound s q) p) := by
    intro β get hget
    rw [← hget, ← hget (put (putShown showsRound s q) p)]
    exact congrArg get heq
  have hmember : ∀ {β : Type} (get : Pooling → β),
      (∀ s round, get { s with roundMode := round } = get s) →
      ∀ s, get (shown showsRound s) = get s := by
    intro β get hget s
    cases showsRound with
    | false => exact hget s .floor
    | true => rfl
  cases h with
  | kernelSize h => exact h (hsame Pooling.kernelSize (hmember _ fun _ _ => rfl)).symm
  | strides h => exact h (hsame Pooling.strides (hmember _ fun _ _ => rfl)).symm
  | pad h => exact h (hsame Pooling.pad (hmember _ fun _ _ => rfl)).symm
  | padMode h => exact h (hsame Pooling.padMode (hmember _ fun _ _ => rfl)).symm
  | activationType h => exact h (hsame Pooling.activationType (hmember _ fun _ _ => rfl)).symm
  | roundMode hshows h =>
    subst hshows
    exact h (congrArg Pooling.roundMode heq).symm
  | global h => exact h (hsame Pooling.global (hmember _ fun _ _ => rfl)).symm

/-- The setters of the builder, as readings: the types of one pooling and then those of the
other. -/
def readings : List (TensorType × Reading Param) :=
  [(.maxPoolKernelSize, .int64s [.mark, .dataType .int64, .buffer] .kernelSize),
    (.maxPoolStride, .int64s [.mark, .dataType .int64, .buffer] .strides),
    (.maxPoolPadMode, padReading [.mark, .buffer] .padMode .pad),
    (.maxPoolPad, padReading [.mark, .buffer] .padMode .pad),
    (.maxPoolActivationType, .activation [.mark, .elementCount 1, .dataType .int8, .buffer]
      .activationType),
    (.maxPoolRoundMode, .decoded [.mark, .elementCount 1, .dataType .int32, .buffer] Tensor.int32
      roundModes .roundMode),
    (.maxPoolGlobal, .bool (scalarOf .bool) .global),
    (.avgPoolKernelSize, .int64s [.mark, .dataType .int64, .buffer] .kernelSize),
    (.avgPoolStride, .int64s [.mark, .dataType .int64, .buffer] .strides),
    (.avgPoolPadMode, padReading [.mark, .buffer] .padMode .pad),
    (.avgPoolPad, padReading [.mark, .buffer] .padMode .pad),
    (.avgPoolActivationType, .activation [.mark, .elementCount 1, .dataType .int8, .buffer]
      .activationType),
    (.avgPoolRoundMode, .decoded [.mark, .elementCount 1, .dataType .int32, .buffer] Tensor.int32
      roundModes .roundMode),
    (.avgPoolGlobal, .bool (scalarOf .bool) .global)]

theorem goesBy_readings (opName : String) (primitive : Pooling → Primitive) :
    (pooling opName primitive).GoesBy Tensor.Filled readings fun s p => .ok (put s p) := by
  have hints {put' : Pooling → List Int64 → Pooling} {c : List Int64 → Param}
      (h : ∀ s v, put s (c v) = put' s v) :
      (int64sSetter [.mark, .dataType .int64, .buffer] put').Goes Tensor.Filled
        (fun s p => .ok (put s p)) (.int64s [.mark, .dataType .int64, .buffer] c) :=
    Reading.goes_value (fun _ => rfl) fun s v => congrArg Except.ok (h s v)
  have hpad : setPadModeOrPaddings.Goes Tensor.Filled (fun s p => .ok (put s p))
      (padReading [.mark, .buffer] .padMode .pad) := padSetter_goes (fun _ _ => rfl) fun _ _ => rfl
  have hactivation : setActivation.Goes Tensor.Filled (fun s p => .ok (put s p))
      (.activation [.mark, .elementCount 1, .dataType .int8, .buffer] .activationType) :=
    Reading.goes_decoded (fun _ => rfl) fun _ _ => rfl
  have hround : setRoundMode.Goes Tensor.Filled (fun s p => .ok (put s p))
      (.decoded [.mark, .elementCount 1, .dataType .int32, .buffer] Tensor.int32 roundModes
        .roundMode) := Reading.goes_decoded (fun _ => rfl) fun _ _ => rfl
  have hglobal : setGlobal.Goes Tensor.Filled (fun s p => .ok (put s p))
      (.bool (scalarOf .bool) .global) :=
    Reading.goes_value (fun _ => rfl) fun _ _ => rfl
  exact .cons ⟨rfl, hints fun _ _ => rfl⟩ (.cons ⟨rfl, hints fun _ _ => rfl⟩ (.cons ⟨rfl, hpad⟩
    (.cons ⟨rfl, hpad⟩ (.cons ⟨rfl, hactivation⟩ (.cons ⟨rfl, hround⟩ (.cons ⟨rfl, hglobal⟩
    (.cons ⟨rfl, hints fun _ _ => rfl⟩ (.cons ⟨rfl, hints fun _ _ => rfl⟩ (.cons ⟨rfl, hpad⟩
    (.cons ⟨rfl, hpad⟩ (.cons ⟨rfl, hactivation⟩ (.cons ⟨rfl, hround⟩
    (.cons ⟨rfl, hglobal⟩ .nil)))))))))))))

theorem readings_refuse : readings.Forall fun entry => entry.2.Refuses := by
  have hints {c : List Int64 → Param} :
      (Reading.int64s [.mark, .dataType .int64, .buffer] c).Refuses :=
    int64s_refuses (by decide)
  have hpad : (padReading [.mark, .buffer] Param.padMode .pad).Refuses :=
    padReading_refuses (by decide)
  have hactivation : (Reading.activation [.mark, .elementCount 1, .dataType .int8, .buffer]
      Param.activationType).Refuses :=
    activation_refuses (by decide)
  have hround : (Reading.decoded [.mark, .elementCount 1, .dataType .int32, .buffer]
      Tensor.int32 roundModes Param.roundMode).Refuses :=
    Reading.decoded_refuses fun _ hfilled hpasses =>
      int32_ok hfilled (guarded_of_passes (by decide) hpasses)
  have hglobal : (Reading.bool (scalarOf .bool) Param.global).Refuses :=
    bool_refuses (by decide)
  exact ⟨hints, hints, hpad, hpad, hactivation, hround, hglobal, hints, hints, hpad, hpad,
    hactivation, hround, hglobal⟩

/-- **Either pooling**, by what its primitive shows. -/
theorem pooling_orderIndependent_iff {opName : String} {primitive : Pooling → Primitive}
    (hprimitive : ∀ s s', primitive s = primitive s' ↔ shown showsRound s = shown showsRound s')
    {params inputs outputs : List Nat} {tensors : List Tensor}
    (htensors : ∀ t ∈ OpsBuilder.tensorsAt tensors params, t.Filled) :
    (pooling opName primitive).OrderIndependent params inputs outputs tensors ↔
      ((pooling opName primitive).Reaches params inputs outputs tensors →
        OpsBuilder.OrderFree (Clash showsRound) readings tensors params) := by
  refine OpsBuilder.orderIndependent_iff_refuses (shown showsRound) (putShown showsRound)
    (goesBy_readings opName primitive) readings_refuse htensors nofun (fun _ _ => rfl)
    (OpsBuilder.quantType_of_reaches rfl) (fun s s' => ?_) shown_put Clash.symm
    (fun s {_ _} => putShown_comm s) fun s {_ _} => putShown_ne s
  rw [← hprimitive]
  constructor
  · intro heq
    exact Option.some.inj (Except.ok.inj heq)
  · intro heq
    exact congrArg (fun p => Except.ok (some p)) heq

theorem avgPool_orderIndependent_iff {params inputs outputs : List Nat} {tensors : List Tensor}
    (htensors : ∀ t ∈ OpsBuilder.tensorsAt tensors params, t.Filled) :
    avgPoolBuilder.OrderIndependent params inputs outputs tensors ↔
      (avgPoolBuilder.Reaches params inputs outputs tensors →
        OpsBuilder.OrderFree (Clash true) readings tensors params) := by
  refine pooling_orderIndependent_iff (fun s s' => ?_) htensors
  cases s
  cases s'
  constructor
  · intro heq
    cases heq
    rfl
  · intro heq
    cases heq
    rfl

theorem maxPool_orderIndependent_iff {params inputs outputs : List Nat} {tensors : List Tensor}
    (htensors : ∀ t ∈ OpsBuilder.tensorsAt tensors params, t.Filled) :
    maxPoolBuilder.OrderIndependent params inputs outputs tensors ↔
      (maxPoolBuilder.Reaches params inputs outputs tensors →
        OpsBuilder.OrderFree (Clash false) readings tensors params) := by
  refine pooling_orderIndependent_iff (fun s s' => ?_) htensors
  cases s
  cases s'
  constructor
  · intro heq
    cases heq
    rfl
  · intro heq
    cases heq
    rfl

end Pooling

/-! ## LSTM -/

namespace LSTM

/-- Two parameters of one type have different values. -/
def Clash (p q : Param) : Prop :=
  p.tensorType = q.tensorType ∧ p ≠ q

/-- The second parameter of a type takes the place of the first. -/
theorem put_over (s : LSTM) {p q : Param} (h : p.tensorType = q.tensorType) :
    put (put s p) q = put s q := by
  cases p <;> cases q <;> first | rfl | cases h

theorem put_comm (s : LSTM) {p q : Param} (h : ¬ Clash p q) :
    put (put s p) q = put (put s q) p := by
  by_cases htype : p.tensorType = q.tensorType
  · rw [not_not.mp fun hne => h ⟨htype, hne⟩]
  · cases p <;> cases q <;> first | rfl | exact absurd rfl htype

theorem put_ne (s : LSTM) {p q : Param} (h : Clash p q) : put (put s p) q ≠ put (put s q) p := by
  obtain ⟨htype, hne⟩ := h
  rw [put_over s htype, put_over s htype.symm]
  intro heq
  refine hne ?_
  cases p <;> cases q <;> first | (cases heq; rfl) | cases htype

theorem typed_readings : OpsBuilder.Typed Param.tensorType readings := by
  refine ⟨?_, ?_, ?_, ?_, ?_, ?_, ?_, ?_, ?_, ?_⟩
  all_goals exact Reading.value_typed (fun _ => rfl) fun _ => rfl

/-- The projection size of a tensor has no defined conversion. -/
def Undefined (tensors : List Tensor) (i : Nat) : Prop :=
  decodeAt readings tensors i = .error (.fault .badConversion)

theorem float_refuses {c : UInt32 → Param} :
    (Reading.float (scalarOf .float32) c).Refuses :=
  Reading.value_refuses fun t hfilled hpasses => by
    have hguarded := guarded_of_passes (d := .float32) (by decide) hpasses
    obtain ⟨n, hn⟩ := first_ok (w := 4) hfilled le_rfl hguarded
    exact ⟨UInt32.ofNat n, by unfold Tensor.float; rw [hn]; rfl⟩

theorem truncFloat_error {bits : UInt32} {fault : Fault} (h : truncFloat bits = .error fault) :
    fault = .badConversion := by
  unfold truncFloat at h
  dsimp only at h
  rw [ite_eq_iff] at h
  rcases h with ⟨-, h⟩ | ⟨-, h⟩
  · cases h
  · cases h
    rfl

/-- A projection size is refused, or it has no conversion. -/
theorem projSize_stop {t : Tensor} (hfilled : t.Filled) {stop : Stop}
    (h : (Reading.value (scalarOf .int64) (fun t => do truncFloat (← t.float 0))
      Param.projSize).decode t = .error stop) :
    stop = .ret .invalidParameter ∨ stop = .fault .badConversion := by
  unfold Reading.decode at h
  split at h
  · rename_i hpassed
    have hguarded := guarded_of_passes (d := .int64) (by decide) (Check.run_fst_iff.mp hpassed)
    obtain ⟨n, hn⟩ := first_ok (w := 4) hfilled (by decide) hguarded
    have hread : (do truncFloat (← t.float 0)) = truncFloat (UInt32.ofNat n) := by
      unfold Tensor.float
      rw [hn]
      rfl
    change answer ((do truncFloat (← t.float 0)) >>= fun a => pure (some (Param.projSize a))) =
      .error stop at h
    rw [hread] at h
    cases hconverted : truncFloat (UInt32.ofNat n) with
    | ok size =>
      rw [hconverted] at h
      cases h
    | error fault =>
      rw [hconverted] at h
      cases h
      exact Or.inr (congrArg Stop.fault (truncFloat_error hconverted))
  · cases h
    exact Or.inl rfl

theorem readings_stop : readings.Forall fun entry => ∀ t : Tensor, t.Filled → ∀ stop,
    entry.2.decode t = .error stop →
      stop = .ret .invalidParameter ∨ stop = .fault .badConversion := by
  have hof : ∀ {r : Reading Param}, r.Refuses → ∀ t : Tensor, t.Filled → ∀ stop,
      r.decode t = .error stop → stop = .ret .invalidParameter ∨ stop = .fault .badConversion :=
    fun hr t hfilled stop hstop => Or.inl (hr t hfilled stop hstop)
  have hbool {c : Bool → Param} : (Reading.bool (scalarOf .bool) c).Refuses :=
    bool_refuses (by decide)
  have hint {c : Int64 → Param} : (Reading.int64 (scalarOf .int64) c).Refuses :=
    int64_refuses (by decide)
  exact ⟨hof hbool, hof hbool, hof hint, hof hint, hof hint, hof hint, hof float_refuses,
    hof float_refuses, hof float_refuses, fun t hfilled stop => projSize_stop hfilled⟩

/-- **`LSTM`**: of ten types there are no two for one member. -/
theorem lstm_orderIndependent_iff {params inputs outputs : List Nat} {tensors : List Tensor}
    (htensors : ∀ t ∈ OpsBuilder.tensorsAt tensors params, t.Filled)
    (hdistinct : OpsBuilder.DistinctTypes tensors params) :
    lstmBuilder.OrderIndependent params inputs outputs tensors ↔
      (lstmBuilder.Reaches params inputs outputs tensors →
        ¬ ∃ i ∈ params, ∃ j ∈ params, Undefined tensors i ∧
          OpsBuilder.Refused readings tensors j) := by
  have hprimitive : ∀ s s' : LSTM, lstmBuilder.primitive s = lstmBuilder.primitive s' ↔ s = s' := by
    intro s s'
    constructor
    · intro heq
      cases s
      cases s'
      cases heq
      rfl
    · exact congrArg lstmBuilder.primitive
  rw [OpsBuilder.orderIndependent_iff_total id put goesBy_readings (fun _ => Iff.rfl)
    (fun _ _ => trivial) nofun (fun _ _ => rfl) (OpsBuilder.quantType_of_reaches rfl) hprimitive
    (fun _ _ => rfl) (fun h => ⟨h.1.symm, h.2.symm⟩) put_comm put_ne]
  refine forall_congr' fun hreaches => ?_
  have hearly : lstmBuilder.setsQuantType ≠ .early := nofun
  obtain ⟨s, hbegins⟩ := (OpsBuilder.begins_iff_reaches hearly).mpr hreaches
  have hrange := OpsBuilder.range_of_begins hbegins
  have hstops : ∀ i ∈ params, ∀ stop, decodeAt readings tensors i = .error stop →
      stop = .ret .invalidParameter ∨ stop = .fault .badConversion := fun i hi stop =>
    OpsBuilder.stop_of_decodeAt (Q := fun stop => stop = .ret .invalidParameter ∨
      stop = .fault .badConversion) (Or.inl rfl) readings_stop (hrange i hi) fun t ht =>
        htensors t (List.mem_filterMap.mpr ⟨i, hi, ht⟩)
  have hapart : params.Pairwise fun i j => ∀ p q, decodeAt readings tensors i = .ok p →
      decodeAt readings tensors j = .ok q → ¬ Clash p q :=
    (OpsBuilder.types_ne typed_readings hdistinct).imp fun h p q hp hq hclash =>
      h p q hp hq hclash.1
  constructor
  · rintro ⟨hagree, -⟩ ⟨i, hi, j, hj, hundefined, hrefused⟩
    cases hagree i hi j hj _ _ hundefined hrefused
  · intro hno
    refine ⟨fun i hi j hj stop stop' hstop hstop' => ?_, Or.inr hapart⟩
    rcases hstops i hi stop hstop with rfl | rfl
    · rcases hstops j hj stop' hstop' with rfl | rfl
      · rfl
      · exact absurd ⟨j, hj, i, hi, hstop', hstop⟩ hno
    · rcases hstops j hj stop' hstop' with rfl | rfl
      · exact absurd ⟨i, hi, j, hj, hstop, hstop'⟩ hno
      · rfl

end LSTM

/-! ## Full connection -/

namespace FullConnection

/-- A parameter of the builder, as its tensor is read. -/
inductive Param
  | activationType (value : ActivationType)
  | hasBias (value : Bool)
  | useAxis (value : Bool)
  | axis (value : Int64)

def Param.tensorType : Param → TensorType
  | activationType _ => .fullConnectionActivationtype
  | hasBias _ => .fullConnectionHasBias
  | useAxis _ => .fullConnectionUseAxis
  | axis _ => .fullConnectionAxis

/-- What the setters do with what they have read: two of them ask whether the other has been
before them. -/
def write (s : FullConnection) : Param → Except Stop FullConnection
  | .activationType value => .ok { s with activationType := value }
  | .hasBias value => .ok { s with hasBias := value }
  | .useAxis value =>
    if s.axisIsSet && !value then .error (.ret .invalidParameter)
    else .ok { s with useAxis := value, useAxisIsSet := true }
  | .axis value =>
    if s.useAxisIsSet && !s.useAxis then .error (.ret .invalidParameter)
    else .ok { s with axis := value, axisIsSet := true, useAxis := true }

/-- The setter of a parameter has not been called. -/
def Fresh (s : FullConnection) : Param → Prop
  | .useAxis _ => s.useAxisIsSet = false
  | .axis _ => s.axisIsSet = false
  | _ => True

theorem write_error {s : FullConnection} {p : Param} {stop : Stop}
    (h : write s p = .error stop) : stop = .ret .invalidParameter := by
  cases p with
  | activationType value => cases h
  | hasBias value => cases h
  | useAxis value =>
    rw [write] at h
    split at h
    · cases h
      rfl
    · cases h
  | axis value =>
    rw [write] at h
    split at h
    · cases h
      rfl
    · cases h

/-- The use of the axis and the axis: refused in both orders, or in neither. -/
theorem write_useAxis_axis {s : FullConnection} {use : Bool} {axis : Int64}
    (hfresh : s.useAxisIsSet = false) (haxis : s.axisIsSet = false) :
    (write s (.useAxis use) >>= (write · (.axis axis))) =
      (write s (.axis axis) >>= (write · (.useAxis use))) := by
  unfold write
  rw [hfresh, haxis]
  cases use <;> rfl

/-- Setters of different parameters commute on members that neither has touched. -/
theorem write_comm {s : FullConnection} {p q : Param} (h : p.tensorType ≠ q.tensorType)
    (hp : Fresh s p) (hq : Fresh s q) :
    (write s p >>= (write · q)) = (write s q >>= (write · p)) := by
  cases p <;> cases q <;> try first | exact absurd rfl h | rfl
  case useAxis.axis => exact write_useAxis_axis hp hq
  case axis.useAxis => exact (write_useAxis_axis hq hp).symm
  -- The other setters ask nothing.
  all_goals
    simp only [write, ok_bind]
    split <;> rfl

/-- A setter makes its own parameter stale only. -/
theorem fresh_of_write {s s' : FullConnection} {p q : Param} (h : p.tensorType ≠ q.tensorType)
    (hq : Fresh s q) (hwrite : write s p = .ok s') : Fresh s' q := by
  cases p with
  | activationType value =>
    cases hwrite
    cases q <;> exact hq
  | hasBias value =>
    cases hwrite
    cases q <;> exact hq
  | useAxis value =>
    rw [write] at hwrite
    split at hwrite
    · cases hwrite
    · cases hwrite
      cases q <;> first | exact hq | exact absurd rfl h
  | axis value =>
    rw [write] at hwrite
    split at hwrite
    · cases hwrite
    · cases hwrite
      cases q <;> first | exact hq | exact absurd rfl h

/-- The setters of the builder, as readings. -/
def readings : List (TensorType × Reading Param) :=
  [(.fullConnectionActivationtype, .activation [.mark, .elementCount 1, .dataType .int8, .buffer]
      .activationType),
    (.fullConnectionHasBias, .bool (scalarOf .bool) .hasBias),
    (.fullConnectionUseAxis, .bool (scalarOf .bool) .useAxis),
    (.fullConnectionAxis, .int64 [.mark, .elementCount 1, .dataType .int64, .buffer] .axis)]

theorem setUseAxis_goes : setUseAxis.Goes Tensor.Filled write
    (.bool (scalarOf .bool) .useAxis) := by
  refine ⟨rfl, fun s t _ _ => ?_⟩
  show answer (t.bool >>= fun useAxis => if s.axisIsSet && !useAxis then pure none else
    pure (some { s with useAxis := useAxis, useAxisIsSet := true })) =
      (answer (t.bool >>= fun useAxis => pure (some (Param.useAxis useAxis))) >>= write s)
  cases t.bool with
  | error fault => rfl
  | ok useAxis =>
    show answer (if s.axisIsSet && !useAxis then pure none else
      pure (some { s with useAxis := useAxis, useAxisIsSet := true })) =
        write s (.useAxis useAxis)
    rw [write]
    split <;> rfl

/-- The flags are looked at first, and what is then read could be read before. -/
theorem setAxis_goes : setAxis.Goes Tensor.Filled write
    (.int64 [.mark, .elementCount 1, .dataType .int64, .buffer] .axis) := by
  refine ⟨rfl, fun s t hfilled hpassed => ?_⟩
  have hguarded := guarded_of_passes (d := .int64) (by decide) (Check.run_fst_iff.mp hpassed)
  obtain ⟨axis, haxis⟩ := int64_first_ok hfilled hguarded
  show answer (if s.useAxisIsSet && !s.useAxis then pure none else
    t.int64 0 >>= fun axis =>
      pure (some { s with axis := axis, axisIsSet := true, useAxis := true })) =
      (answer (t.int64 0 >>= fun axis => pure (some (Param.axis axis))) >>= write s)
  rw [haxis]
  show _ = write s (.axis axis)
  rw [write]
  split <;> rfl

theorem goesBy_readings : fullConnectionBuilder.GoesBy Tensor.Filled readings write :=
  .cons ⟨rfl, Reading.goes_decoded (fun _ => rfl) fun _ _ => rfl⟩
    (.cons ⟨rfl, Reading.goes_value (fun _ => rfl) fun _ _ => rfl⟩
      (.cons ⟨rfl, setUseAxis_goes⟩ (.cons ⟨rfl, setAxis_goes⟩ .nil)))

theorem readings_refuse : readings.Forall fun entry => entry.2.Refuses :=
  ⟨activation_refuses (by decide), bool_refuses (by decide), bool_refuses (by decide),
    int64_refuses (by decide)⟩

theorem typed_readings : OpsBuilder.Typed Param.tensorType readings :=
  ⟨Reading.decoded_typed (fun _ => rfl) fun _ => rfl,
    Reading.value_typed (fun _ => rfl) fun _ => rfl,
    Reading.value_typed (fun _ => rfl) fun _ => rfl,
    Reading.value_typed (fun _ => rfl) fun _ => rfl⟩

/-- **`FullConnection`**: the order never matters. -/
theorem fullConnection_orderIndependent {params inputs outputs : List Nat} {tensors : List Tensor}
    (htensors : ∀ t ∈ OpsBuilder.tensorsAt tensors params, t.Filled)
    (hdistinct : OpsBuilder.DistinctTypes tensors params) :
    fullConnectionBuilder.OrderIndependent params inputs outputs tensors := by
  rw [OpsBuilder.orderIndependent_iff_writes goesBy_readings Tensor.filled_mark htensors]
  intro s hbegins params' hperm
  have hrange := OpsBuilder.range_of_begins hbegins
  obtain rfl : {} = s := Option.some.inj (OpsBuilder.begins_eq_ok hbegins).2
  refine congrArg _ (Eq.symm ?_)
  refine Writes.run_perm_of_read (e := .ret .invalidParameter)
    (fun p q => p.tensorType ≠ q.tensorType) Fresh Ne.symm write_comm fresh_of_write
    (fun _ _ _ => write_error) hperm (fun i hi stop => ?_)
    (OpsBuilder.types_ne typed_readings hdistinct) fun i _ p _ => ?_
  · exact OpsBuilder.stop_of_decodeAt (Q := (· = .ret .invalidParameter)) rfl readings_refuse
      (hrange i hi) fun t ht => htensors t (List.mem_filterMap.mpr ⟨i, hi, ht⟩)
  · cases p <;> trivial

end FullConnection

end Ops

/-! ## The law -/

open OpsBuilder (OrderFree DistinctTypes Refused)

/-- The operations of these builders. -/
def orderedOperations : List OperationType :=
  [.fullConnection, .conv2d, .avgPool, .maxPool, .lstm]

/-- What it takes of the parameters for their order not to matter. -/
def NoOrder : OperationType → List Tensor → List Nat → Prop
  | .conv2d, tensors, params => OrderFree Ops.Conv2D.Clash Ops.Conv2D.readings tensors params
  | .avgPool, tensors, params =>
    OrderFree (Ops.Pooling.Clash true) Ops.Pooling.readings tensors params
  | .maxPool, tensors, params =>
    OrderFree (Ops.Pooling.Clash false) Ops.Pooling.readings tensors params
  | .lstm, tensors, params =>
    ¬ ∃ i ∈ params, ∃ j ∈ params, Ops.LSTM.Undefined tensors i ∧ Refused Ops.LSTM.readings tensors j
  | _, _, _ => True

/-- **The order of the parameters** does not matter exactly if `Build` refuses the call before
them, or nothing of them depends on it: no projection size without a conversion beside a
refused parameter, and in the convolution and the poolings a refused parameter or no two that
give one member different values. -/
theorem orderIndependent_iff {op : OperationType} (hop : op ∈ orderedOperations)
    {params inputs outputs : List Nat} {tensors : List Tensor}
    (htensors : ∀ t ∈ OpsBuilder.tensorsAt tensors params, t.Filled)
    (hdistinct : DistinctTypes tensors params) :
    (getOpsBuilder op).builder.OrderIndependent params inputs outputs tensors ↔
      ((getOpsBuilder op).builder.Reaches params inputs outputs tensors →
        NoOrder op tensors params) := by
  have hall : orderedOperations.Forall fun op =>
      (getOpsBuilder op).builder.OrderIndependent params inputs outputs tensors ↔
        ((getOpsBuilder op).builder.Reaches params inputs outputs tensors →
          NoOrder op tensors params) :=
    ⟨iff_of_true (Ops.FullConnection.fullConnection_orderIndependent htensors hdistinct)
        fun _ => trivial,
      Ops.Conv2D.conv2D_orderIndependent_iff htensors,
      Ops.Pooling.avgPool_orderIndependent_iff htensors,
      Ops.Pooling.maxPool_orderIndependent_iff htensors,
      Ops.LSTM.lstm_orderIndependent_iff htensors hdistinct⟩
  exact List.forall_iff_forall_mem.mp hall op hop

/-- The input, the weight, the bias and the output of a convolution, a pad tensor and a pad mode
tensor, each with one byte. -/
def padTensors (pad padMode : UInt8) : List Tensor :=
  [{}, { dimensions := [1, 1, 1, 1] }, {}, {},
    { tensorType := .conv2dPad, dataType := .int8, elementCount := 1, buffer := some [pad] },
    { tensorType := .conv2dPadMode, dataType := .int8, elementCount := 1
      buffer := some [padMode] }]

theorem filled_padTensors (pad padMode : UInt8) :
    ∀ t ∈ OpsBuilder.tensorsAt (padTensors pad padMode) [4, 5], t.Filled := by
  intro t ht bytes hbytes
  rcases List.mem_pair.mp ht with rfl | rfl
  · cases hbytes
    exact ⟨show 0 < (1 : UInt32).toNat by decide, rfl⟩
  · cases hbytes
    exact ⟨show 0 < (1 : UInt32).toNat by decide, rfl⟩

/-- A pad tensor that says the same as the pad mode tensor. -/
theorem orderIndependent_iff_padMode :
    Ops.conv2DBuilder.OrderIndependent [4, 5] [0, 1, 2] [3] (padTensors 1 1) := by
  have hconv : OperationType.conv2d ∈ orderedOperations := by decide
  have hdistinct : DistinctTypes (padTensors 1 1) [4, 5] := by
    unfold DistinctTypes
    decide
  refine (orderIndependent_iff hconv (filled_padTensors 1 1) hdistinct).mpr fun _ => Or.inr ?_
  refine List.pairwise_pair.mpr ?_
  rintro ⟨p, q, hp, hq, hclash⟩
  have hpad : decodeAt Ops.Conv2D.readings (padTensors 1 1) 4 = .ok (.padMode .valid) := rfl
  have hmode : decodeAt Ops.Conv2D.readings (padTensors 1 1) 5 = .ok (.padMode .valid) := rfl
  cases hpad.symm.trans hp
  cases hmode.symm.trans hq
  cases hclash with
  | padMode h => exact h rfl

/-- A pad tensor that says something else than the pad mode tensor: the last one counts. -/
theorem padMode_order_matters : ∃ op op' tensors tensors',
    Ops.conv2DBuilder.build [4, 5] [0, 1, 2] [3] (padTensors 0 1) = .ok (.ok op, tensors) ∧
    op.primitive = .ok (some (.conv2DFusion [1, 1] [] [] .valid [] 1 1 1 .noActivation)) ∧
    Ops.conv2DBuilder.build [5, 4] [0, 1, 2] [3] (padTensors 0 1) = .ok (.ok op', tensors') ∧
    op'.primitive = .ok (some (.conv2DFusion [1, 1] [] [] .same [] 1 1 1 .noActivation)) ∧
    ¬ Ops.conv2DBuilder.OrderIndependent [4, 5] [0, 1, 2] [3] (padTensors 0 1) := by
  obtain ⟨op, tensors, hbuild, hop⟩ : ∃ op tensors,
      Ops.conv2DBuilder.build [4, 5] [0, 1, 2] [3] (padTensors 0 1) = .ok (.ok op, tensors) ∧
      op.primitive = .ok (some (.conv2DFusion [1, 1] [] [] .valid [] 1 1 1 .noActivation)) := by
    refine ⟨_, _, rfl, ?_⟩
    rfl
  obtain ⟨op', tensors', hbuild', hop'⟩ : ∃ op' tensors',
      Ops.conv2DBuilder.build [5, 4] [0, 1, 2] [3] (padTensors 0 1) = .ok (.ok op', tensors') ∧
      op'.primitive = .ok (some (.conv2DFusion [1, 1] [] [] .same [] 1 1 1 .noActivation)) := by
    refine ⟨_, _, rfl, ?_⟩
    rfl
  refine ⟨op, op', tensors, tensors', hbuild, hop, hbuild', hop', fun hall => ?_⟩
  have hsame := hall [5, 4] (List.Perm.swap 5 4 [])
  rw [OpsBuilder.result_eq_ok_iff.mpr hbuild, OpsBuilder.result_eq_ok_iff.mpr hbuild'] at hsame
  cases hsame
  cases hop.symm.trans hop'

end NNRt
