import NNRt.Lib.Writes
import NNRt.Model.OpParameter

/-!
# What parameter tensors say

A setter checks its tensor, reads it and puts what it has read into a member. Here the
reading stands apart from the member: a table gives, for each type of parameter, how a
tensor of that type is read, and the loop over the parameters is a loop of writes.

- `buildParams_eq`: the loop over the parameters, for any builder that goes by a table.
- `result_of_goesBy`: `Build` in terms of that loop.
- `build_ok_iff`: when it succeeds.
-/

namespace NNRt

/-- A fault, a refusal or a value, in one. -/
def answer {α : Type} : Except Fault (Option α) → Except Stop α
  | .error fault => .error (.fault fault)
  | .ok none => .error (.ret .invalidParameter)
  | .ok (some a) => .ok a

/-- How a parameter tensor is read: what it has to pass, and what it then says. The mark
of the tensor is not looked at. -/
structure Reading (P : Type) where
  checks : List Check
  read : Tensor → Except Fault (Option P)
  read_mark : ∀ t : Tensor, read t.identifyOpParameter = read t := by intro t; rfl

namespace Check

/-- The data type that is looked for. -/
theorem dataType_of_passes {checks : List Check} {t : Tensor} {d : DataType}
    (h : ∀ check ∈ checks, check.passes t = true) (hd : .dataType d ∈ checks) : t.dataType = d :=
  of_decide_eq_true (h _ hd)

theorem elementCount_of_passes {checks : List Check} {t : Tensor} {n : UInt32}
    (h : ∀ check ∈ checks, check.passes t = true) (hn : .elementCount n ∈ checks) :
    t.elementCount = n :=
  of_decide_eq_true (h _ hn)

/-- No check looks at the mark. -/
theorem passes_mark (t : Tensor) (check : Check) :
    check.passes t.identifyOpParameter = check.passes t := by
  cases check <;> rfl

/-- A tensor passes if it passes one check after the other. -/
theorem run_fst (checks : List Check) (t : Tensor) :
    (run checks t).1 = checks.all (passes t) := by
  induction checks generalizing t with
  | nil => rfl
  | cons check checks ih =>
    rw [List.all_cons]
    by_cases hmark : check = .mark
    · subst hmark
      rw [run, ih]
      exact congrArg (checks.all ·) (funext (passes_mark t))
    · have hrun : run (check :: checks) t =
          if check.passes t then run checks t else (false, t) := by
        cases check <;> first | rfl | exact absurd rfl hmark
      rw [hrun]
      by_cases hpass : check.passes t = true
      · rw [if_pos hpass, hpass, Bool.true_and, ih]
      · rw [if_neg hpass, Bool.eq_false_iff.mpr hpass, Bool.false_and]

theorem run_fst_iff {checks : List Check} {t : Tensor} :
    (run checks t).1 = true ↔ ∀ check ∈ checks, check.passes t = true := by
  rw [run_fst, List.all_eq_true]

theorem run_mark (checks : List Check) (t : Tensor) :
    (run checks t.identifyOpParameter).1 = (run checks t).1 := by
  rw [run_fst, run_fst]
  exact congrArg (checks.all ·) (funext (passes_mark t))

end Check

namespace Reading

variable {P : Type}

/-- What a tensor says. -/
def decode (r : Reading P) (t : Tensor) : Except Stop P :=
  if (Check.run r.checks t).1 then answer (r.read t) else .error (.ret .invalidParameter)

theorem decode_mark (r : Reading P) (t : Tensor) :
    r.decode t.identifyOpParameter = r.decode t := by
  unfold decode
  rw [Check.run_mark, r.read_mark]

/-- A tensor that says something has passed the checks. -/
theorem decode_eq_ok_iff {r : Reading P} {t : Tensor} {p : P} :
    r.decode t = .ok p ↔ (Check.run r.checks t).1 = true ∧ r.read t = .ok (some p) := by
  unfold decode answer
  by_cases hpass : (Check.run r.checks t).1 = true
  · rw [if_pos hpass, and_iff_right hpass]
    cases hread : r.read t with
    | error fault => exact iff_of_false nofun nofun
    | ok o =>
      cases o with
      | none => exact iff_of_false nofun nofun
      | some q =>
        constructor
        · intro h
          cases h
          rfl
        · intro h
          cases h
          rfl
  · rw [if_neg hpass]
    exact iff_of_false nofun fun h => hpass h.1

end Reading

/-- What a tensor says to a builder with this table: nothing if its type is unknown. -/
def decode {P : Type} (table : List (TensorType × Reading P)) (t : Tensor) : Except Stop P :=
  match table.lookup t.tensorType with
  | none => .error (.ret .invalidParameter)
  | some r => r.decode t

theorem decode_mark {P : Type} (table : List (TensorType × Reading P)) (t : Tensor) :
    decode table t.identifyOpParameter = decode table t := by
  show (match table.lookup t.tensorType with
    | none => .error (.ret .invalidParameter)
    | some r => r.decode t.identifyOpParameter) = decode table t
  unfold decode
  split
  · rfl
  · exact Reading.decode_mark _ t

/-- A tensor that says something has a type of the table. -/
theorem mem_of_decode {P : Type} {table : List (TensorType × Reading P)} {t : Tensor} {p : P}
    (h : decode table t = .ok p) : ∃ r, (t.tensorType, r) ∈ table ∧ r.decode t = .ok p := by
  unfold decode at h
  split at h
  · cases h
  · rename_i r hr
    obtain ⟨before, after, heq, -⟩ := List.lookup_eq_some_iff.mp hr
    refine ⟨r, ?_, h⟩
    rw [heq]
    exact List.mem_append_right _ List.mem_cons_self

/-- A setter reads tensors of some kind as a reading does, and stores by `write`. -/
def Setter.Goes {σ P : Type} (Good : Tensor → Prop) (write : σ → P → Except Stop σ)
    (setter : Setter σ) (r : Reading P) : Prop :=
  setter.checks = r.checks ∧ ∀ s t, Good t → (Check.run r.checks t).1 = true →
    answer (setter.store s t) = (answer (r.read t) >>= write s)

/-- A setter that goes by a reading. -/
theorem Setter.Goes.run {σ P : Type} {Good : Tensor → Prop} {write : σ → P → Except Stop σ}
    {setter : Setter σ} {r : Reading P} (h : setter.Goes Good write r) (s : σ) {t : Tensor}
    (hgood : Good t) (hmark : Good t.identifyOpParameter) :
    answer ((setter.run s t).map Prod.fst) = (r.decode t >>= write s) := by
  obtain ⟨hchecks, hstore⟩ := h
  have hfirst := Check.run_mark r.checks t
  have hsecond := Check.run_snd r.checks t
  unfold Setter.run Reading.decode
  rw [hchecks]
  rcases hrun : Check.run r.checks t with ⟨passed, u⟩
  rw [hrun] at hfirst hsecond
  cases passed with
  | false => rfl
  | true =>
    -- The tensor that is stored is the one given, or the same with its mark.
    have hu : Good u ∧ (Check.run r.checks u).1 = true ∧ r.read u = r.read t := by
      dsimp only at hsecond
      split at hsecond
      · rw [hsecond]
        exact ⟨hmark, hfirst, r.read_mark t⟩
      · rw [hsecond]
        exact ⟨hgood, by rw [hrun], rfl⟩
    have hstored := hstore s u hu.1 hu.2.1
    rw [hu.2.2] at hstored
    rw [if_pos rfl, ← hstored]
    show answer (Except.map Prod.fst (setter.store s u >>= fun o => pure (o, u))) = _
    cases setter.store s u with
    | error fault => rfl
    | ok o => rfl

namespace OpsBuilder

variable {σ P : Type} {b : OpsBuilder σ} {Good : Tensor → Prop}
  {table : List (TensorType × Reading P)} {write : σ → P → Except Stop σ}

/-- A builder reads the tensors of some kind by a table. -/
def GoesBy (Good : Tensor → Prop) (b : OpsBuilder σ) (table : List (TensorType × Reading P))
    (write : σ → P → Except Stop σ) : Prop :=
  List.Forall₂ (fun entry r => entry.1 = r.1 ∧ entry.2.Goes Good write r.2) b.paramMap table

/-- Each type has its setter and its reading in the same place. -/
theorem lookup_of_goesBy {paramMap : List (TensorType × Setter σ)}
    (h : List.Forall₂ (fun entry r => entry.1 = r.1 ∧ entry.2.Goes Good write r.2) paramMap table)
    (type : TensorType) :
    (paramMap.lookup type = none ∧ table.lookup type = none) ∨
      ∃ setter r, paramMap.lookup type = some setter ∧ table.lookup type = some r ∧
        setter.Goes Good write r := by
  induction h with
  | nil => exact Or.inl ⟨rfl, rfl⟩
  | @cons entry r paramMap table hentry _ ih =>
    obtain ⟨key, setter⟩ := entry
    obtain ⟨key', reading⟩ := r
    obtain ⟨rfl, hgoes⟩ := hentry
    rw [List.lookup_cons, List.lookup_cons]
    cases type == key with
    | true => exact Or.inr ⟨setter, reading, rfl, rfl, hgoes⟩
    | false => exact ih

/-- What is done to a parameter once it may have got its mark. -/
def setParamOf (b : OpsBuilder σ) (s : σ) (t : Tensor) : Except Fault (Option σ × Tensor) :=
  match b.paramMap.lookup t.tensorType with
  | none => .ok (none, t)
  | some setter => setter.run s t

/-- One parameter. -/
theorem setParam_eq (h : b.GoesBy Good table write) (s : σ) {t : Tensor} (hgood : Good t)
    (hmark : Good t.identifyOpParameter) :
    answer ((b.setParam s t).map Prod.fst) = (decode table t >>= write s) := by
  have hstep : ∀ u, u.identifyOpParameter = t.identifyOpParameter → Good u →
      answer ((b.setParamOf s u).map Prod.fst) = (decode table u >>= write s) := by
    intro u hu hgood
    unfold setParamOf decode
    rcases lookup_of_goesBy h u.tensorType with ⟨hsetter, hr⟩ | ⟨setter, r, hsetter, hr, hgoes⟩
    · rw [hsetter, hr]
      rfl
    · rw [hsetter, hr]
      exact hgoes.run s hgood (hu ▸ hmark)
  show answer ((b.setParamOf s (if b.marksParams then t.identifyOpParameter else t)).map
    Prod.fst) = _
  by_cases hparams : b.marksParams = true
  · rw [if_pos hparams, ← decode_mark table t]
    exact hstep _ rfl hmark
  · rw [if_neg hparams]
    exact hstep _ rfl hgood

/-- A tensor that has got its mark says what it said. -/
theorem map_decode_set (table : List (TensorType × Reading P)) {tensors : List Tensor} {i : Nat}
    {t t' : Tensor} (ht : tensors[i]? = some t)
    (hmark : t'.identifyOpParameter = t.identifyOpParameter) (indices : List Nat) :
    (tensorsAt (tensors.set i t') indices).map (decode table) =
      (tensorsAt tensors indices).map (decode table) := by
  unfold tensorsAt
  rw [List.map_filterMap, List.map_filterMap]
  refine List.filterMap_congr fun j _ => ?_
  by_cases hij : i = j
  · subst hij
    rw [List.getElem?_set_self (List.getElem?_eq_some_iff.mp ht).1, ht, Option.map_some,
      Option.map_some, ← decode_mark table t', hmark, decode_mark]
  · rw [List.getElem?_set_ne hij]

/-- Marks are all that `markAll` changes. -/
theorem tensorsAt_markAll (marked indices : List Nat) (tensors : List Tensor) :
    (tensorsAt (markAll marked tensors) indices).map NNTensor.identifyOpParameter =
      (tensorsAt tensors indices).map NNTensor.identifyOpParameter := by
  unfold tensorsAt
  rw [List.map_filterMap, List.map_filterMap]
  refine List.filterMap_congr fun i _ => ?_
  rw [getElem?_markAll, Option.map_map]
  congr 1
  funext t
  show (if i ∈ marked then t.identifyOpParameter else t).identifyOpParameter = _
  split <;> rfl

/-- **The loop over the parameters** writes what they say, one after the other. -/
theorem buildParams_eq (h : b.GoesBy Good table write)
    (hgood : ∀ t : Tensor, Good t.identifyOpParameter ↔ Good t) {params : List Nat} {s : σ}
    {tensors : List Tensor} (hrange : ∀ i ∈ params, i < tensors.length)
    (htensors : ∀ t ∈ tensorsAt tensors params, Good t) :
    answer ((b.buildParams params s tensors).map Prod.fst) =
      Writes.run (decode table) write s (tensorsAt tensors params) := by
  induction params generalizing s tensors with
  | nil => rfl
  | cons i params ih =>
    obtain ⟨hi, hrange⟩ := List.forall_mem_cons.mp hrange
    obtain ⟨t, ht⟩ : ∃ t, tensors[i]? = some t := ⟨_, List.getElem?_eq_getElem hi⟩
    have hcons : tensorsAt tensors (i :: params) = t :: tensorsAt tensors params :=
      List.filterMap_cons_some ht
    rw [hcons] at htensors ⊢
    obtain ⟨htgood, htensors⟩ := List.forall_mem_cons.mp htensors
    have hstep := setParam_eq h s htgood ((hgood t).mpr htgood)
    rw [buildParams, ht, Writes.run_cons, ← hstep]
    dsimp only
    cases hset : b.setParam s t with
    | error fault => rfl
    | ok p =>
      obtain ⟨r, t'⟩ := p
      cases r with
      | none => rfl
      | some s' =>
        have hmark : t'.identifyOpParameter = t.identifyOpParameter := by
          rw [setParam_tensor hset]
          split <;> rfl
        have hsame := map_decode_set table ht hmark params
        show answer ((b.buildParams params s' (tensors.set i t')).map Prod.fst) =
          Writes.run (decode table) write s' (tensorsAt tensors params)
        rw [ih (by simpa using hrange), Writes.run_congr hsame]
        -- The tensors that are left are as good as before.
        intro u hu
        obtain ⟨j, hj, hget⟩ := List.mem_filterMap.mp hu
        by_cases hij : i = j
        · subst hij
          rw [List.getElem?_set_self hi] at hget
          cases hget
          rw [← hgood, hmark, hgood]
          exact htgood
        · rw [List.getElem?_set_ne hij] at hget
          exact htensors u (List.mem_filterMap.mpr ⟨j, hj, hget⟩)

/-! ## `Build` -/

/-- The parameters of a type that the builder marks. -/
def marksOf (b : OpsBuilder σ) (params : List Nat) (tensors : List Tensor) : List Nat :=
  params.filter fun i => tensors[i]?.any fun t => b.marksType t.tensorType

theorem mem_marksOf_iff {params : List Nat} {tensors : List Tensor} {i : Nat} :
    i ∈ b.marksOf params tensors ↔
      i ∈ params ∧ TypeAt (fun type => b.marksType type = true) tensors i := by
  unfold marksOf TypeAt
  rw [List.mem_filter, Option.any_eq_true]

theorem markAll_congr {indices indices' : List Nat} (h : ∀ i, i ∈ indices ↔ i ∈ indices')
    (tensors : List Tensor) : markAll indices tensors = markAll indices' tensors := by
  apply List.ext_getElem?
  intro i
  rw [getElem?_markAll, getElem?_markAll]
  congr 1
  funext t
  exact if_congr (h i) rfl rfl

/-- The tensors after a loop that has accepted all the parameters. -/
theorem buildParams_markAll {params : List Nat} {s s' : σ} {tensors tensors' : List Tensor}
    (h : b.buildParams params s tensors = .ok (some s', tensors')) :
    tensors' = markAll (b.marksOf params tensors) tensors := by
  rw [buildParams_tensors h]
  exact markAll_congr (fun i => (buildParams_marked h i).trans mem_marksOf_iff.symm) tensors

/-- `Build` up to the parameters: the members before the first of them. -/
def begins (b : OpsBuilder σ) (params inputs outputs : List Nat) (tensors : List Tensor) :
    Except Fault (Except ReturnCode σ) :=
  if b.checkIO inputs outputs tensors ≠ .success then
    .ok (.error (b.checkIO inputs outputs tensors))
  else
    match b.earlyQuantType outputs tensors with
    | .error fault => .error fault
    | .ok _ =>
      if checkParamIndex b.paramNum params tensors ≠ .success then
        .ok (.error (checkParamIndex b.paramNum params tensors))
      else
        match b.readInputs b.init (tensorsAt tensors inputs) with
        | none => .ok (.error .invalidParameter)
        | some s => .ok (.ok s)

/-- `Build` from the parameters on, given what the loop over them comes to: the operation,
and the tensors with it. -/
def ends (b : OpsBuilder σ) (params inputs outputs : List Nat) (tensors : List Tensor) :
    Except Stop σ → Except Fault (Except ReturnCode (BuiltOp × List Tensor))
  | .error (.fault fault) => .error fault
  | .error (.ret ret) => .ok (.error ret)
  | .ok s => do
    let tensors := markAll (b.marksOf params tensors) tensors
    return (← b.finish s inputs outputs tensors).map (·, tensors)

/-- What `Build` answers; the tensors only where it succeeds. -/
def result (b : OpsBuilder σ) (params inputs outputs : List Nat) (tensors : List Tensor) :
    Except Fault (Except ReturnCode (BuiltOp × List Tensor)) := do
  let (r, tensors) ← b.build params inputs outputs tensors
  return r.map (·, tensors)

theorem result_eq_ok_iff {params inputs outputs : List Nat} {tensors tensors' : List Tensor}
    {op : BuiltOp} :
    b.result params inputs outputs tensors = .ok (.ok (op, tensors')) ↔
      b.build params inputs outputs tensors = .ok (.ok op, tensors') := by
  unfold result
  cases b.build params inputs outputs tensors with
  | error fault => exact iff_of_false nofun nofun
  | ok p =>
    obtain ⟨r, tensors₁⟩ := p
    cases r with
    | error ret => exact iff_of_false nofun nofun
    | ok op₁ =>
      constructor
      · intro h
        cases h
        rfl
      · intro h
        cases h
        rfl

/-- There is a first output to look at. -/
theorem quantTypeOf_of_checkIOIndex {inputNum outputNum : Nat} {inputs outputs : List Nat}
    {tensors tensors' : List Tensor} (hlength : tensors'.length = tensors.length)
    (h : checkIOIndex inputNum (outputNum + 1) inputs outputs tensors = .success) :
    ∃ quantType, quantTypeOf outputs tensors' = .ok quantType := by
  unfold checkIOIndex at h
  split at h
  · cases h
  rename_i hnum
  split at h
  · cases h
  rename_i hrange
  rw [not_or, not_not, not_not] at hnum
  cases outputs with
  | nil => cases hnum.2
  | cons i outputs =>
    have hi : i < tensors'.length := by
      by_contra hlt
      rw [hlength] at hlt
      refine hrange (Or.inr (List.any_eq_true.mpr ⟨i, List.mem_cons_self, ?_⟩))
      exact decide_eq_true (Nat.not_lt.mp hlt)
    refine ⟨if tensors'[i].isQuantTensor then .all else .none, ?_⟩
    unfold quantTypeOf
    rw [List.head?_cons, Option.bind_some, List.getElem?_eq_getElem hi]

/-- The part of `Build` after the parameters succeeds if its check does. -/
theorem finish_iff {s : σ} {inputs outputs : List Nat} {tensors : List Tensor} {ret : ReturnCode}
    {quantType : OpsQuantType} (hcheck : b.checkParams s (tensorsAt tensors inputs) = .ok ret)
    (hquant : b.quantType outputs tensors = .ok quantType) :
    ∃ r, b.finish s inputs outputs tensors = .ok r ∧ ((∃ op, r = .ok op) ↔ ret = .success) := by
  unfold finish
  rw [hcheck, hquant]
  by_cases hret : ret = .success
  · subst hret
    exact ⟨_, rfl, iff_of_true ⟨_, rfl⟩ rfl⟩
  · refine ⟨.error ret, ?_, iff_of_false (fun ⟨_, h⟩ => nomatch h) hret⟩
    split
    · rename_i heq
      cases heq
    · rename_i heq
      cases heq
      exact absurd rfl hret
    · rename_i heq
      cases heq
      rfl

/-- **`Build`**, in three parts. -/
theorem result_eq (b : OpsBuilder σ) (params inputs outputs : List Nat) (tensors : List Tensor) :
    b.result params inputs outputs tensors =
      match b.begins params inputs outputs tensors with
      | .error fault => .error fault
      | .ok (.error ret) => .ok (.error ret)
      | .ok (.ok s) => b.ends params inputs outputs tensors
          (answer ((b.buildParams params s tensors).map Prod.fst)) := by
  unfold result build begins
  by_cases hio : b.checkIO inputs outputs tensors ≠ .success
  · rw [if_pos hio, if_pos hio]
    rfl
  rw [if_neg hio, if_neg hio]
  cases b.earlyQuantType outputs tensors with
  | error fault => rfl
  | ok quantType =>
  dsimp only
  by_cases hparam : checkParamIndex b.paramNum params tensors ≠ .success
  · rw [if_pos hparam, if_pos hparam]
    rfl
  rw [if_neg hparam, if_neg hparam]
  cases b.readInputs b.init (tensorsAt tensors inputs) with
  | none => rfl
  | some s =>
  dsimp only
  cases hloop : b.buildParams params s tensors with
  | error fault => rfl
  | ok p =>
    obtain ⟨r, tensors'⟩ := p
    cases r with
    | none => rfl
    | some s' =>
      show (((b.finish s' inputs outputs tensors' >>= fun r => pure (r, tensors')) >>=
        fun p => pure (p.1.map (·, p.2))) : Except Fault _) = _
      unfold ends
      rw [← buildParams_markAll hloop]
      cases hfinish : b.finish s' inputs outputs tensors' with
      | error fault =>
        show (Except.error fault : Except Fault _) = (b.finish s' inputs outputs tensors' >>= _)
        rw [hfinish]
        rfl
      | ok r =>
        show (Except.ok (r.map (·, tensors')) : Except Fault _) =
          (b.finish s' inputs outputs tensors' >>= _)
        rw [hfinish]
        rfl

/-- A call that gets to the parameters has passed the check of their indices and read its
inputs. -/
theorem begins_eq_ok {params inputs outputs : List Nat} {tensors : List Tensor} {s : σ}
    (h : b.begins params inputs outputs tensors = .ok (.ok s)) :
    checkParamIndex b.paramNum params tensors = .success ∧
      b.readInputs b.init (tensorsAt tensors inputs) = some s := by
  unfold begins at h
  split at h
  · cases h
  split at h
  · cases h
  split at h
  · cases h
  rename_i hparam
  split at h
  · cases h
  · rename_i hread
    cases h
    exact ⟨not_not.mp hparam, hread⟩

/-- The parameters of such a call are there. -/
theorem range_of_begins {params inputs outputs : List Nat} {tensors : List Tensor} {s : σ}
    (h : b.begins params inputs outputs tensors = .ok (.ok s)) :
    ∀ i ∈ params, i < tensors.length := by
  intro i hi
  by_contra hlt
  refine absurd (begins_eq_ok h).1 ?_
  have hany : params.any (· ≥ tensors.length) = true :=
    List.any_eq_true.mpr ⟨i, hi, decide_eq_true (Nat.not_lt.mp hlt)⟩
  unfold checkParamIndex
  rw [if_pos hany]
  split <;> nofun

/-- **`Build` of a builder that goes by a table.** -/
theorem result_of_goesBy (h : b.GoesBy Good table write)
    (hgood : ∀ t : Tensor, Good t.identifyOpParameter ↔ Good t) {params inputs outputs : List Nat}
    {tensors : List Tensor} (htensors : ∀ t ∈ tensorsAt tensors params, Good t) :
    b.result params inputs outputs tensors =
      match b.begins params inputs outputs tensors with
      | .error fault => .error fault
      | .ok (.error ret) => .ok (.error ret)
      | .ok (.ok s) => b.ends params inputs outputs tensors
          (Writes.run (decode table) write s (tensorsAt tensors params)) := by
  rw [result_eq]
  cases hbegins : b.begins params inputs outputs tensors with
  | error fault => rfl
  | ok r =>
    cases r with
    | error ret => rfl
    | ok s =>
      dsimp only
      rw [buildParams_eq h hgood (range_of_begins hbegins) htensors]

/-- **When it succeeds.** -/
theorem build_ok_iff (h : b.GoesBy Good table write)
    (hgood : ∀ t : Tensor, Good t.identifyOpParameter ↔ Good t) {params inputs outputs : List Nat}
    {tensors tensors' : List Tensor} (htensors : ∀ t ∈ tensorsAt tensors params, Good t)
    {op : BuiltOp} :
    b.build params inputs outputs tensors = .ok (.ok op, tensors') ↔
      ∃ s s', b.begins params inputs outputs tensors = .ok (.ok s) ∧
        Writes.run (decode table) write s (tensorsAt tensors params) = .ok s' ∧
        tensors' = markAll (b.marksOf params tensors) tensors ∧
        b.finish s' inputs outputs tensors' = .ok (.ok op) := by
  rw [← result_eq_ok_iff, result_of_goesBy h hgood htensors]
  cases b.begins params inputs outputs tensors with
  | error fault => exact iff_of_false nofun fun ⟨s, s', hs, _⟩ => nomatch hs
  | ok r =>
  cases r with
  | error ret => exact iff_of_false nofun fun ⟨s, s', hs, _⟩ => nomatch hs
  | ok s =>
    dsimp only
    cases hrun : Writes.run (decode table) write s (tensorsAt tensors params) with
    | error stop =>
      refine iff_of_false ?_ ?_
      · cases stop <;> nofun
      · rintro ⟨s₁, s', hs, hwrites, -⟩
        cases hs
        cases hrun.symm.trans hwrites
    | ok s' =>
      -- What is left is `finish`, on the tensors with their marks.
      show (b.finish s' inputs outputs (markAll (b.marksOf params tensors) tensors) >>= _) = _ ↔ _
      constructor
      · intro hok
        obtain ⟨r, hfinish, hr⟩ := bind_eq_ok hok
        cases r with
        | error ret => cases hr
        | ok op' =>
          cases hr
          exact ⟨s, s', rfl, hrun, rfl, hfinish⟩
      · rintro ⟨s₁, s₂, hs, hwrites, rfl, hfinish⟩
        cases hs
        cases hrun.symm.trans hwrites
        rw [hfinish]
        rfl

/-- **The primitive of a built operation** holds what the parameters say. -/
theorem primitive_of_build {put : σ → P → σ} (h : b.GoesBy Good table fun s p => .ok (put s p))
    (hgood : ∀ t : Tensor, Good t.identifyOpParameter ↔ Good t) {params inputs outputs : List Nat}
    {tensors tensors' : List Tensor} (htensors : ∀ t ∈ tensorsAt tensors params, Good t)
    {op : BuiltOp} (hbuild : b.build params inputs outputs tensors = .ok (.ok op, tensors')) :
    ∃ s ps, b.readInputs b.init (tensorsAt tensors inputs) = some s ∧
      List.Forall₂ (fun t p => decode table t = .ok p) (tensorsAt tensors params) ps ∧
      op.primitive = b.primitive (ps.foldl put s) := by
  obtain ⟨s, s', hbegins, hrun, -, hfinish⟩ := (build_ok_iff h hgood htensors).mp hbuild
  obtain ⟨ps, hps, rfl⟩ := Writes.run_total_iff.mp hrun
  obtain ⟨quantType, -, rfl⟩ := finish_ok hfinish
  exact ⟨s, ps, (begins_eq_ok hbegins).2, hps, rfl⟩

end OpsBuilder

/-! ## Setters that go by a reading -/

namespace Reading

variable {α β P σ : Type} {Good : Tensor → Prop} {write : σ → P → Except Stop σ}

/-- A tensor says what is read from it. -/
def value (checks : List Check) (read : Tensor → Except Fault α) (c : α → P)
    (hmark : ∀ t : Tensor, read t.identifyOpParameter = read t := by intro t; rfl) : Reading P where
  checks := checks
  read t := do
    return some (c (← read t))
  read_mark t := by rw [hmark]

/-- A tensor says what the value read from it stands for, if anything. -/
def decoded (checks : List Check) (read : Tensor → Except Fault α) (decode : α → Option β)
    (c : β → P)
    (hmark : ∀ t : Tensor, read t.identifyOpParameter = read t := by intro t; rfl) : Reading P where
  checks := checks
  read t := do
    return (decode (← read t)).map c
  read_mark t := by rw [hmark]

/-- All the integers of a tensor. -/
abbrev int64s (checks : List Check) (c : List Int64 → P) : Reading P :=
  value checks Tensor.allInt64 c

/-- Its first integer. -/
abbrev int64 (checks : List Check) (c : Int64 → P) : Reading P :=
  value checks (·.int64 0) c

/-- Its first float. -/
abbrev float (checks : List Check) (c : UInt32 → P) : Reading P :=
  value checks (·.float 0) c

/-- Its first boolean. -/
abbrev bool (checks : List Check) (c : Bool → P) : Reading P :=
  value checks Tensor.bool c

/-- The activation its first byte is the code of. -/
abbrev activation (checks : List Check) (c : ActivationType → P) : Reading P :=
  decoded checks Tensor.int8 NNToMS.transfromFusionType c

/-- A value that was read comes from a tensor that has passed. -/
theorem decode_value {checks : List Check} {read : Tensor → Except Fault α} {c : α → P}
    {hmark : ∀ t : Tensor, read t.identifyOpParameter = read t} {t : Tensor} {p : P}
    (h : (value checks read c hmark).decode t = .ok p) :
    (∀ check ∈ checks, check.passes t = true) ∧ ∃ a, read t = .ok a ∧ p = c a := by
  obtain ⟨hpass, hread⟩ := decode_eq_ok_iff.mp h
  refine ⟨Check.run_fst_iff.mp hpass, ?_⟩
  obtain ⟨a, ha, hp⟩ := bind_eq_ok hread
  cases hp
  exact ⟨a, ha, rfl⟩

/-- A tensor that passes says what is read from it. -/
theorem decode_value_of {checks : List Check} {read : Tensor → Except Fault α} {c : α → P}
    {hmark : ∀ t : Tensor, read t.identifyOpParameter = read t} {t : Tensor}
    (h : (Check.run checks t).1 = true) :
    (value checks read c hmark).decode t = answer ((read t).map fun a => some (c a)) := by
  unfold decode
  show (if (Check.run checks t).1 = true then answer (read t >>= fun a => pure (some (c a)))
    else _) = _
  rw [if_pos h]
  cases read t with
  | error fault => rfl
  | ok a => rfl

theorem decode_value_ok {checks : List Check} {read : Tensor → Except Fault α} {c : α → P}
    {hmark : ∀ t : Tensor, read t.identifyOpParameter = read t} {t : Tensor} {a : α}
    (h : (Check.run checks t).1 = true) (ha : read t = .ok a) :
    (value checks read c hmark).decode t = .ok (c a) := by
  rw [decode_value_of h, ha]
  rfl

theorem goes_value {checks : List Check} {read : Tensor → Except Fault α} {c : α → P}
    {put : σ → α → σ} (hmark : ∀ t : Tensor, read t.identifyOpParameter = read t)
    (h : ∀ s a, write s (c a) = .ok (put s a)) :
    (Ops.stores checks read put).Goes Good write (value checks read c hmark) := by
  refine ⟨rfl, fun s t _ _ => ?_⟩
  show answer (read t >>= fun a => pure (some (put s a))) =
    (answer (read t >>= fun a => pure (some (c a))) >>= write s)
  cases read t with
  | error fault => rfl
  | ok a => exact (h s a).symm

theorem goes_decoded {checks : List Check} {read : Tensor → Except Fault α}
    {decode : α → Option β} {c : β → P} {put : σ → β → σ}
    (hmark : ∀ t : Tensor, read t.identifyOpParameter = read t)
    (h : ∀ s b, write s (c b) = .ok (put s b)) :
    (Ops.storesDecoded checks read decode put).Goes Good write
      (decoded checks read decode c hmark) := by
  refine ⟨rfl, fun s t _ _ => ?_⟩
  show answer (read t >>= fun a => pure ((decode a).map (put s))) =
    (answer (read t >>= fun a => pure ((decode a).map c)) >>= write s)
  cases read t with
  | error fault => rfl
  | ok a =>
    show answer (.ok ((decode a).map (put s))) = (answer (.ok ((decode a).map c)) >>= write s)
    cases decode a with
    | none => rfl
    | some b => exact (h s b).symm

end Reading

end NNRt
