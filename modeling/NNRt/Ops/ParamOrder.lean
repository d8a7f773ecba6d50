import NNRt.Ops.LSTMParams
import NNRt.Ops.TensorValues

/-!
# The order of the parameters

`Build` goes over the parameters in the order in which they are named. What it answers
depends on that order where two setters write one member, or refuse in different ways.

- `orderIndependent_iff_writes`: the order matters in the loop over the parameters or
  nowhere.
- `orderIndependent_iff_total`: **when the order does not matter**, where the setters refuse
  no value they have read.
-/

namespace NNRt

namespace OpsBuilder

variable {σ : Type} {b : OpsBuilder σ} {params params' inputs outputs : List Nat}
  {tensors : List Tensor}

/-- `Build` answers the same for every order of the parameters: the same code, and if it is
success, the same operation, with its primitive, and the same marks. -/
def OrderIndependent (b : OpsBuilder σ) (params inputs outputs : List Nat)
    (tensors : List Tensor) : Prop :=
  ∀ params', params.Perm params' →
    b.result params' inputs outputs tensors = b.result params inputs outputs tensors

/-- `Build` gets to the parameters. -/
def Reaches (b : OpsBuilder σ) (params inputs outputs : List Nat) (tensors : List Tensor) : Prop :=
  b.checkIO inputs outputs tensors = .success ∧
    checkParamIndex b.paramNum params tensors = .success ∧
    (b.readInputs b.init (tensorsAt tensors inputs)).isSome = true

/-- What the tensor of an index says to a builder with this table. -/
def decodeAt {P : Type} (table : List (TensorType × Reading P)) (tensors : List Tensor)
    (i : Nat) : Except Stop P :=
  match tensors[i]? with
  | none => .error (.fault .outOfBounds)
  | some t => decode table t

theorem begins_perm (h : params.Perm params') :
    b.begins params' inputs outputs tensors = b.begins params inputs outputs tensors := by
  have hindex : checkParamIndex b.paramNum params' tensors =
      checkParamIndex b.paramNum params tensors := by
    unfold checkParamIndex
    rw [h.length_eq, h.any_eq]
  unfold begins
  rw [hindex]

/-- The order has no say in what is marked. -/
theorem ends_perm (h : params.Perm params') :
    b.ends params' inputs outputs tensors = b.ends params inputs outputs tensors := by
  have hmarks : markAll (b.marksOf params' tensors) tensors =
      markAll (b.marksOf params tensors) tensors :=
    markAll_congr (fun i => (h.filter _).mem_iff.symm) tensors
  funext r
  cases r with
  | error stop => cases stop <;> rfl
  | ok s =>
    unfold ends
    rw [hmarks]

/-- A builder that does not look at its outputs first gets to the parameters with the members
as the inputs leave them. -/
theorem begins_iff_reaches (hearly : b.setsQuantType ≠ .early) :
    (∃ s, b.begins params inputs outputs tensors = .ok (.ok s)) ↔
      b.Reaches params inputs outputs tensors := by
  have hquant : b.earlyQuantType outputs tensors = .ok .none := if_neg hearly
  unfold begins Reaches
  rw [hquant]
  by_cases hio : b.checkIO inputs outputs tensors = .success
  · rw [if_neg (not_not.mpr hio)]
    by_cases hparam : checkParamIndex b.paramNum params tensors = .success
    · rw [if_neg (not_not.mpr hparam)]
      cases b.readInputs b.init (tensorsAt tensors inputs) with
      | none => exact iff_of_false (fun ⟨_, h⟩ => nomatch h) fun h => nomatch h.2.2
      | some s => exact iff_of_true ⟨s, rfl⟩ ⟨hio, hparam, rfl⟩
    · rw [if_pos hparam]
      exact iff_of_false (fun ⟨_, h⟩ => nomatch h) fun h => hparam h.2.1
  · rw [if_pos hio]
    exact iff_of_false (fun ⟨_, h⟩ => nomatch h) fun h => hio h.1

section Table

variable {P : Type} {Good : Tensor → Prop} {table : List (TensorType × Reading P)}
  {write : σ → P → Except Stop σ}

/-- Over the indices or over the tensors, the loop is the same. -/
theorem run_decodeAt (hrange : ∀ i ∈ params, i < tensors.length) (s : σ) :
    Writes.run (decode table) write s (tensorsAt tensors params) =
      Writes.run (decodeAt table tensors) write s params := by
  induction params generalizing s with
  | nil => rfl
  | cons i params ih =>
    obtain ⟨hi, hrange⟩ := List.forall_mem_cons.mp hrange
    have ht : tensors[i]? = some tensors[i] := List.getElem?_eq_getElem hi
    have hcons : tensorsAt tensors (i :: params) = tensors[i] :: tensorsAt tensors params :=
      List.filterMap_cons_some ht
    have hread : decodeAt table tensors i = decode table tensors[i] := by
      unfold decodeAt
      rw [ht]
    rw [hcons, Writes.run_cons, Writes.run_cons, hread]
    exact congrArg _ (funext fun s' => ih hrange s')

/-- **The order matters in the loop over the parameters or nowhere.** -/
theorem orderIndependent_iff_writes (h : b.GoesBy Good table write)
    (hgood : ∀ t : Tensor, Good t.identifyOpParameter ↔ Good t)
    (htensors : ∀ t ∈ tensorsAt tensors params, Good t) :
    b.OrderIndependent params inputs outputs tensors ↔
      ∀ s, b.begins params inputs outputs tensors = .ok (.ok s) →
        ∀ params', params.Perm params' →
          b.ends params inputs outputs tensors
              (Writes.run (decodeAt table tensors) write s params') =
            b.ends params inputs outputs tensors
              (Writes.run (decodeAt table tensors) write s params) := by
  have htensors' : ∀ {params'}, params.Perm params' → ∀ t ∈ tensorsAt tensors params', Good t :=
    fun hperm t ht => htensors t ((hperm.filterMap _).mem_iff.mpr ht)
  have hstops : (∀ s, b.begins params inputs outputs tensors ≠ .ok (.ok s)) →
      b.OrderIndependent params inputs outputs tensors := by
    intro hno params' hperm
    rw [result_of_goesBy h hgood (htensors' hperm), result_of_goesBy h hgood htensors,
      begins_perm hperm]
    cases hbegins : b.begins params inputs outputs tensors with
    | error fault => rfl
    | ok r =>
      cases r with
      | error ret => rfl
      | ok s => exact absurd hbegins (hno s)
  have hone : ∀ {s}, b.begins params inputs outputs tensors = .ok (.ok s) →
      ∀ {params'}, params.Perm params' → b.result params' inputs outputs tensors =
        b.ends params inputs outputs tensors
          (Writes.run (decodeAt table tensors) write s params') := by
    intro s hbegins params' hperm
    have hrange := range_of_begins hbegins
    rw [result_of_goesBy h hgood (htensors' hperm), begins_perm hperm, ends_perm hperm, hbegins]
    dsimp only
    rw [run_decodeAt fun i hi => hrange i (hperm.mem_iff.mpr hi)]
  constructor
  · intro hall s hbegins params' hperm
    rw [← hone hbegins hperm, ← hone hbegins (List.Perm.refl _)]
    exact hall params' hperm
  · intro hall
    by_cases hbegins : ∃ s, b.begins params inputs outputs tensors = .ok (.ok s)
    · obtain ⟨s, hs⟩ := hbegins
      intro params' hperm
      rw [hone hs hperm, hone hs (List.Perm.refl _)]
      exact hall s hs params' hperm
    · exact hstops fun s hs => hbegins ⟨s, hs⟩

/-- What can be seen of the loop in what `Build` answers: how it stops, or what the primitive
shows of the members. -/
theorem ends_eq_iff {ν : Type} {view : σ → ν} {quantType : OpsQuantType}
    (hcheck : ∀ s ts, b.checkParams s ts = .ok .success)
    (hquant : b.quantType outputs (markAll (b.marksOf params tensors) tensors) = .ok quantType)
    (hprimitive : ∀ s s', b.primitive s = b.primitive s' ↔ view s = view s')
    (r r' : Except Stop σ) :
    b.ends params inputs outputs tensors r = b.ends params inputs outputs tensors r' ↔
      r.map view = r'.map view := by
  have hok : ∀ s, b.ends params inputs outputs tensors (.ok s) =
      .ok (.ok (⟨b.opName, inputs, outputs, quantType, b.primitive s⟩,
        markAll (b.marksOf params tensors) tensors)) := by
    intro s
    show (b.finish s inputs outputs (markAll (b.marksOf params tensors) tensors) >>= _) = _
    unfold finish
    rw [hcheck]
    dsimp only
    rw [hquant]
    rfl
  have hstop : ∀ stop s,
      b.ends params inputs outputs tensors (.error stop) ≠
        b.ends params inputs outputs tensors (.ok s) := by
    intro stop s heq
    rw [hok] at heq
    cases stop with
    | fault fault => cases heq
    | ret ret => cases heq
  cases r with
  | error stop =>
    cases r' with
    | error stop' =>
      constructor
      · intro heq
        cases stop with
        | fault fault => cases stop' with
          | fault fault' =>
            cases heq
            rfl
          | ret ret => cases heq
        | ret ret => cases stop' with
          | fault fault => cases heq
          | ret ret' =>
            cases heq
            rfl
      · intro heq
        cases heq
        rfl
    | ok s => exact iff_of_false (hstop stop s) nofun
  | ok s =>
    cases r' with
    | error stop => exact iff_of_false (fun heq => hstop stop s heq.symm) nofun
    | ok s' =>
      rw [hok, hok]
      constructor
      · intro heq
        have hprim : b.primitive s = b.primitive s' := by
          injection heq with heq
          injection heq with heq
          injection heq with heq
          injection heq
        exact congrArg Except.ok ((hprimitive s s').mp hprim)
      · intro heq
        rw [(hprimitive s s').mpr (Except.ok.inj heq)]

/-- **Setters that refuse no value they have read**: the order does not matter if the call is
refused before the parameters; or if no two parameters are refused in different ways, and one
is or no two of them clash. -/
theorem orderIndependent_iff_total {ν : Type} {put : σ → P → σ} (view : σ → ν)
    (putView : ν → P → ν) {Clash : P → P → Prop}
    (h : b.GoesBy Good table fun s p => .ok (put s p))
    (hgood : ∀ t : Tensor, Good t.identifyOpParameter ↔ Good t)
    (htensors : ∀ t ∈ tensorsAt tensors params, Good t) (hearly : b.setsQuantType ≠ .early)
    (hcheck : ∀ s ts, b.checkParams s ts = .ok .success)
    (hquant : b.Reaches params inputs outputs tensors →
      ∃ quantType, b.quantType outputs (markAll (b.marksOf params tensors) tensors) = .ok quantType)
    (hprimitive : ∀ s s', b.primitive s = b.primitive s' ↔ view s = view s')
    (hview : ∀ s p, view (put s p) = putView (view s) p)
    (hsymm : ∀ {p q}, Clash p q → Clash q p)
    (hcomm : ∀ v {p q}, ¬ Clash p q → putView (putView v p) q = putView (putView v q) p)
    (hclash : ∀ v {p q}, Clash p q → putView (putView v p) q ≠ putView (putView v q) p) :
    b.OrderIndependent params inputs outputs tensors ↔
      (b.Reaches params inputs outputs tensors →
        (∀ i ∈ params, ∀ j ∈ params, ∀ e e', decodeAt table tensors i = .error e →
          decodeAt table tensors j = .error e' → e = e') ∧
        ((∃ i ∈ params, ∃ e, decodeAt table tensors i = .error e) ∨
          params.Pairwise fun i j => ∀ p q, decodeAt table tensors i = .ok p →
            decodeAt table tensors j = .ok q → ¬ Clash p q)) := by
  rw [orderIndependent_iff_writes h hgood htensors]
  constructor
  · intro hall hreaches
    obtain ⟨s, hbegins⟩ := (begins_iff_reaches hearly).mpr hreaches
    obtain ⟨quantType, hquant⟩ := hquant hreaches
    refine (Writes.run_perm_iff (s := s) hview hsymm hcomm hclash).mp fun params' hperm => ?_
    exact (ends_eq_iff hcheck hquant hprimitive _ _).mp (hall s hbegins params' hperm)
  · intro hcond s hbegins params' hperm
    have hreaches := (begins_iff_reaches hearly).mp ⟨s, hbegins⟩
    obtain ⟨quantType, hquant⟩ := hquant hreaches
    refine (ends_eq_iff hcheck hquant hprimitive _ _).mpr ?_
    exact (Writes.run_perm_iff hview hsymm hcomm hclash).mpr (hcond hreaches) params' hperm

end Table

end OpsBuilder

end NNRt
