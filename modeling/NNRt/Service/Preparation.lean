import NNRt.Lib.Decimal
import NNRt.Service.Protocol

/-!
# Preparing an executor

`OH_NNExecutor_Construct` names the model, has it scheduled, hands the executor a
configuration and registers its callbacks. The id of the model goes into the
configuration as a decimal numeral, and comes out of `std::atoi`.

- `atoi_idString`: the numeral is read back if the id is an `int`.
- `serves_construct`: **an executor that is constructed is followed by its session,
  and one that is not has given everything back**.
-/

namespace NNRt

/-! ## The numeral -/

/-- The byte of a digit. -/
theorem toNat_digit {c : Char} (h : c.isDigit = true) :
    c.toNat.toUInt8.toNat = c.toNat ∧ '0'.toNat ≤ c.toNat ∧ c.toNat ≤ '9'.toNat := by
  unfold Char.isDigit at h
  rw [Bool.and_eq_true, decide_eq_true_iff, decide_eq_true_iff] at h
  have hlow : '0'.toNat ≤ c.toNat := UInt32.le_iff_toNat_le.mp h.1
  have hhigh : c.toNat ≤ '9'.toNat := UInt32.le_iff_toNat_le.mp h.2
  refine ⟨?_, hlow, hhigh⟩
  have h9 : '9'.toNat = 57 := rfl
  exact Nat.mod_eq_of_lt (by omega)

/-- The digits of a string with a null character behind them. -/
theorem atoiDigits_eq (cs : List Char) (hcs : ∀ c ∈ cs, c.isDigit = true) (value : Nat) :
    atoiDigits value ((cs.map fun c => c.toNat.toUInt8) ++ [0])
      = .ok (Nat.ofDigitChars 10 cs value) := by
  induction cs generalizing value with
  | nil => rfl
  | cons c cs ih =>
    obtain ⟨hbyte, hlow, hhigh⟩ := toNat_digit (hcs c List.mem_cons_self)
    rw [List.map_cons, List.cons_append, atoiDigits, hbyte, if_pos ⟨hlow, hhigh⟩,
      Nat.ofDigitChars_cons]
    exact ih (fun d hd => hcs d (List.mem_cons_of_mem c hd)) _

/-- A digit is no space, and no sign. -/
theorem digit_plain {c : Char} (h : c.isDigit = true) (bytes : Bytes) :
    isSpace c.toNat.toUInt8 = false ∧
      atoiSign (c.toNat.toUInt8 :: bytes) = (false, c.toNat.toUInt8 :: bytes) := by
  obtain ⟨hbyte, hlow, hhigh⟩ := toNat_digit h
  have h0 : '0'.toNat = 48 := rfl
  constructor
  · unfold isSpace
    rw [decide_eq_false_iff_not]
    rintro (h32 | ⟨-, h13⟩)
    · rw [h32] at hbyte
      have h32 : (32 : UInt8).toNat = 32 := rfl
      omega
    · have hle := UInt8.le_iff_toNat_le.mp h13
      have h13 : (13 : UInt8).toNat = 13 := rfl
      omega
  · have hminus : '-'.toNat = 45 := rfl
    have hplus : '+'.toNat = 43 := rfl
    rw [atoiSign, if_neg (by omega), if_neg (by omega)]

/-- `std::atoi` of digits. -/
theorem atoi_eq {overflow : Int → Int32} {byte : UInt8} {bytes : Bytes} {value : Nat}
    (hspace : isSpace byte = false) (hsign : atoiSign (byte :: bytes) = (false, byte :: bytes))
    (hdigits : atoiDigits 0 (byte :: bytes) = .ok value) (h : value < 2 ^ 31) :
    atoi overflow (byte :: bytes) = .ok (Int32.ofInt value) := by
  have hint : (-2 ^ 31 : Int) ≤ value ∧ (value : Int) < 2 ^ 31 := by omega
  unfold atoi
  rw [List.dropWhile_cons_of_neg (by rw [hspace]; nofun), hsign]
  dsimp only
  rw [hdigits]
  exact congrArg Except.ok (if_pos hint)

/-- **An id that is an `int`** is read back. -/
theorem atoi_idString (overflow : Int → Int32) {id : UInt32} (h : id.toNat < 2 ^ 31) :
    (atoi overflow (ServedExecutor.idString id)).map Int32.toUInt32 = .ok id := by
  have hdigits : ∀ c ∈ (toString id.toNat).toList, c.isDigit = true :=
    fun c hc => Decimal.isDigit_of_mem hc
  have hloop := atoiDigits_eq _ hdigits 0
  rw [Decimal.toString_toList, Nat.ofDigitChars_ten_toDigits, ← Decimal.toString_toList] at hloop
  obtain ⟨c, cs, hcs⟩ := List.exists_cons_of_ne_nil (Decimal.toString_ne_nil id.toNat)
  have hread : atoi overflow (ServedExecutor.idString id) = .ok (Int32.ofInt id.toNat) := by
    unfold ServedExecutor.idString
    rw [hcs, List.map_cons, List.cons_append] at hloop ⊢
    obtain ⟨hspace, hsign⟩ := digit_plain (hdigits c (hcs ▸ List.mem_cons_self))
      ((cs.map fun c => c.toNat.toUInt8) ++ [0])
    exact atoi_eq hspace hsign hloop h
  rw [hread, Int32.ofInt_eq_ofNat]
  refine congrArg Except.ok (UInt32.toNat_inj.mp ?_)
  exact UInt32.toNat_ofNat_of_lt (UInt32.toNat_lt id)

/-! ## The configuration -/

section Functions

variable {p : Promises} {api : NNRtServiceApi} {q : ServiceSession} {e : ServedExecutor}
  {c : ServedCompilation} {env : ServedEnv}

namespace ServedExecutor

/-- What an executor keeps of the configuration it is prepared with. -/
structure Prepared (env : ServedEnv) (c : ServedCompilation) (e e' : ServedExecutor) : Prop where
  callback : e'.isHiaiModel = e.isHiaiModel
  config : env.executor.createConfig = true → e'.executor.executorConfig.isSome = true
  id : e'.executor.executorConfig.isSome = true → c.hiaiModelId.toNat < 2 ^ 31 →
    e'.hiaiModelId = c.hiaiModelId

/-- What the loop makes of that configuration. -/
theorem applyIds_prepare {overflow : Int → Int32} {callingPid : Int32} {hiaiModelId : UInt32}
    {ids : Int32 × UInt32}
    (h : applyIds overflow callingPid hiaiModelId (prepareConfigs c) = .ok ids) :
    (atoi overflow (idString c.hiaiModelId)).map Int32.toUInt32 = .ok ids.2 := by
  obtain ⟨byte, data, hdata⟩ : ∃ byte data, idString c.hiaiModelId = byte :: data :=
    List.exists_cons_of_ne_nil (List.append_ne_nil_of_right_ne_nil _ (List.cons_ne_nil 0 []))
  have hother : ∀ {α : Type} (name : String) (convert : Int32 → α) (value : α) (key : String)
      (data : Bytes), key ≠ name → applyMember overflow name convert value key data = .ok value :=
    fun _ _ _ _ _ hne => if_neg hne
  unfold prepareConfigs at h
  rw [hdata] at h ⊢
  rw [applyIds, hother _ _ _ _ _ (by decide), ok_bind, applyMember, if_pos rfl] at h
  cases hread : (atoi overflow (byte :: data)).map Int32.toUInt32 with
  | error fault =>
    rw [hread] at h
    cases h
  | ok id =>
    rw [hread, ok_bind, applyIds, hother _ _ _ _ _ (by decide), ok_bind,
      hother _ _ _ _ _ (by decide), ok_bind] at h
    cases h
    rfl

theorem setExtensionConfig_eq_ok {configs : List (String × Bytes)} {ret : ReturnCode}
    {e' : ServedExecutor} (h : e.setExtensionConfig env configs = .ok (ret, e')) :
    ∃ ids, e.idsAfter env e'.executor.executorConfig.isSome configs = .ok ids ∧
      e' = { e with
        executor := (e.executor.setExtensionConfig env.executor configs).2
        callingPid := ids.1, hiaiModelId := ids.2 } := by
  unfold setExtensionConfig at h
  dsimp only at h
  cases hids : e.idsAfter env
      (e.executor.setExtensionConfig env.executor configs).2.executorConfig.isSome configs with
  | error fault =>
    rw [hids] at h
    cases h
  | ok ids =>
    rw [hids] at h
    cases h
    exact ⟨ids, hids, rfl⟩

/-- **The configuration of `ExecutorPrepare`** is created if there is memory for it, and then
has the id. -/
theorem setExtensionConfig_prepare {ret : ReturnCode} {e' : ServedExecutor}
    (hnone : e.executor.executorConfig = none)
    (h : e.setExtensionConfig env (prepareConfigs c) = .ok (ret, e')) : Prepared env c e e' := by
  obtain ⟨ids, hids, rfl⟩ := setExtensionConfig_eq_ok h
  refine ⟨rfl, fun hcreate => ?_, fun hsome hsmall => ?_⟩
  · unfold NNExecutor.setExtensionConfig
    rw [hnone, hcreate]
    rfl
  · dsimp only at hids hsome ⊢
    unfold idsAfter at hids
    rw [hsome, hnone] at hids
    have hread := applyIds_prepare hids
    rw [atoi_idString env.overflow hsmall] at hread
    exact (Except.ok.inj hread).symm

end ServedExecutor

/-! ## Preparation -/

/-- An executor without a configuration closes any opening. -/
theorem Opening.closing {a : UInt32} (h : Opening a q) (hstage : q.stage.rank ≤ 3)
    (hnone : e.executor.executorConfig = none) (howes : q.owesUnload = false) :
    Closing p e 0 q where
  stage := hstage
  ids := by
    refine ⟨a, fun i hi => Or.inl (h.ids i hi), fun hsome => ?_⟩
    rw [hnone] at hsome
    cases hsome
  hiai hq := by
    rw [h.hiai] at hq
    cases hq
  owes _ hq := by
    rw [howes] at hq
    cases hq
  latency := by
    rw [h.reports]
    exact Nat.zero_le _

/-- An executor that has its configuration is followed by an opening. -/
theorem Opening.follows {c' : ServedCompilation} {e' : ServedExecutor}
    (h : Opening c'.hiaiModelId q) (hstage : q.stage.rank ≤ 3)
    (hprepared : ServedExecutor.Prepared env c' e e')
    (hcreate : p.models → env.executor.createConfig = true) : Follows p e' 0 q where
  stage := hstage
  ids := ⟨c'.hiaiModelId, fun i hi => Or.inl (h.ids i hi), hprepared.id⟩
  session hq := by
    rw [h.hasSession] at hq
    cases hq
  hiai hq := by
    rw [h.hiai] at hq
    cases hq
  owes hp _ := hprepared.config (hcreate hp)
  latency := by
    rw [h.reports, h.requests]
    split <;> decide

namespace ServedExecutor

/-- **`ExecutorPrepare`**: after an error the executor can be closed. -/
theorem serves_prepare (hmeets : Meets p api q) (h : Opening c.hiaiModelId q)
    (hstage : q.stage.rank = 0) (hlast : q.last = .other) (howes : q.owesUnload = false)
    (hnone : e.executor.executorConfig = none) (hsession : e.isAddSession = false)
    (hcreate : p.models → env.executor.createConfig = true) :
    Serves p (e.prepare c env) api q fun out q' =>
      Closing p out.2.1 0 q' ∧ (out.1 = .success → Follows p out.2.1 0 q') := by
  unfold prepare
  refine (c.serves_setModelId hmeets h hstage hlast howes).bind fun ret api q₁ hmeets h₁ => ?_
  obtain ⟨hopening, hstage₁, hlast₁, howes₁⟩ := h₁
  split
  · rename_i hret
    exact serves_pure hmeets ⟨hopening.closing (by omega) hnone howes₁, fun hok => absurd hok hret⟩
  refine (c.serves_scheduleModel hmeets hopening hstage₁ hlast₁ howes₁).bind
    fun out api q₂ hmeets h₂ => ?_
  obtain ⟨ret, c'⟩ := out
  obtain ⟨hopening, hstage₂, howes₂, hid⟩ := h₂
  dsimp only at hid howes₂ ⊢
  split
  · rename_i hret
    exact serves_pure hmeets
      ⟨hopening.closing (by omega) hnone (howes₂ hret), fun hok => absurd hok hret⟩
  have hset : Serves p (ServiceM.liftFault (e.setExtensionConfig env (prepareConfigs c'))) api q₂
      fun out q' => q' = q₂ ∧ Prepared env c' e out.2 ∧ out.2.isAddSession = false := by
    refine serves_liftFault hmeets fun out hout => ?_
    obtain ⟨ret, e₁⟩ := out
    obtain ⟨ids, -, he⟩ := setExtensionConfig_eq_ok hout
    refine ⟨rfl, setExtensionConfig_prepare hnone hout, ?_⟩
    rw [he]
    exact hsession
  refine hset.bind fun out api q₃ hmeets₃ h₃ => ?_
  obtain ⟨ret, e₁⟩ := out
  obtain ⟨rfl, hprepared, hsession₁⟩ := h₃
  dsimp only at hprepared hsession₁ ⊢
  rw [← hid] at hopening
  have hfollows := hopening.follows (by omega) hprepared hcreate
  refine (serves_setDeinitModelCallBack hmeets₃ hfollows).bind fun out api q₄ hmeets h₄ => ?_
  obtain ⟨ret, e₂⟩ := out
  obtain ⟨hfollows, he₂⟩ := h₄
  dsimp only at hfollows he₂ ⊢
  split
  · rename_i hret
    exact serves_pure hmeets ⟨hfollows.closing, fun hok => absurd hok hret⟩
  · -- The flag is false already.
    have hsame : { e₂ with isAddSession := false } = e₂ := by
      have hsession₂ : e₂.isAddSession = false := by
        rcases he₂ with rfl | rfl
        · exact hsession₁
        · exact hsession₁
      rw [← hsession₂]
    rw [hsame]
    exact serves_pure hmeets ⟨hfollows.closing, fun _ => hfollows⟩

/-- Nothing was said. -/
theorem ended_new : Ended p 0 {} where
  ids _ hi := absurd hi List.not_mem_nil
  callbacks _ := ⟨rfl, rfl⟩
  unloaded _ := rfl
  latency := Nat.zero_le _

/-- **`OH_NNExecutor_Construct`**: an executor that is constructed is followed by its session;
one that is not has given everything back. -/
theorem serves_construct {created : Bool} {this : Nat} {executorid : UInt64} {w : World}
    (hmeets : Meets p api {}) (hcreate : p.models → env.executor.createConfig = true) :
    Serves p (construct c created this executorid w env) api {} fun out q' =>
      (∀ e', out.1 = some e' → Follows p e' 0 q') ∧ (out.1 = none → Ended p 0 q') := by
  have hopening : ∀ a, Opening a {} := fun _ => ⟨nofun, rfl, rfl, rfl, rfl, rfl⟩
  unfold construct
  split
  · exact serves_pure hmeets ⟨fun e' he' => (nomatch he'), fun _ => ended_new⟩
  rename_i executor hexecutor
  obtain ⟨compiler, -, hcreated⟩ := Option.bind_eq_some_iff.mp hexecutor
  obtain ⟨preparedModel, -, rfl⟩ := NNCompiler.createExecutor_eq_some hcreated
  dsimp only
  generalize he : create (NNExecutor.create compiler preparedModel) this executorid env = e
  have hnone : e.executor.executorConfig = none := by
    rw [← he]
    rfl
  have hsession : e.isAddSession = false := by
    rw [← he]
    rfl
  split
  · refine Serves.bind (serves_close hmeets ((hopening 0).closing (Nat.zero_le _) hnone rfl))
      fun w api q' hmeets hended => ?_
    exact serves_pure hmeets ⟨fun e' he' => (nomatch he'), fun _ => hended⟩
  refine Serves.bind (serves_prepare hmeets (hopening _) rfl rfl rfl hnone hsession hcreate)
    fun out api q₁ hmeets h₁ => ?_
  obtain ⟨ret, e₁, c₁⟩ := out
  obtain ⟨hclosing, hfollows⟩ := h₁
  dsimp only at hclosing hfollows ⊢
  split
  · refine Serves.bind (serves_close hmeets hclosing) fun w api q' hmeets hended => ?_
    exact serves_pure hmeets ⟨fun e' he' => (nomatch he'), fun _ => hended⟩
  · rename_i hret
    refine serves_pure hmeets ⟨fun e' he' => ?_, fun hno => nomatch hno⟩
    cases he'
    exact hfollows (not_not.mp hret)

end ServedExecutor

end Functions

end NNRt
