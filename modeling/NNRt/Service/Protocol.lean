import NNRt.Executor.Reload
import NNRt.Service.Session

/-!
# The functions of the client keep to the protocol

One lemma for each function: what it says is accepted from where the session is, and
the session follows the executor again when the function returns.

- `Opening`: the session of an executor that is being prepared.
- `Follows`: the session of an executor that lives.
- `Ended`: what is left of the session of one that is gone.
-/

namespace NNRt

open NNRtServiceApi (getInstance)

/-! ## Sessions and executors -/

/-- The executor is being prepared; `a` is the id of its model. -/
structure Opening (a : UInt32) (q : ServiceSession) : Prop where
  ids : ∀ i ∈ q.ids, i = a
  hasSession : q.hasSession = false
  deinit : q.deinitCallBack = false
  hiai : q.hiaiCallBack = false
  requests : q.requests = 0
  reports : q.reports = 0

/-- The ids of a session are the one it was opened with, and the one in the configuration.
The second was read from the first one's decimal numeral, as an `int`. -/
def IdsOf (e : ServedExecutor) (q : ServiceSession) : Prop :=
  ∃ a : UInt32,
    (∀ i ∈ q.ids, i = a ∨ e.executor.executorConfig.isSome = true ∧ i = e.hiaiModelId) ∧
      (e.executor.executorConfig.isSome = true → a.toNat < 2 ^ 31 → e.hiaiModelId = a)

/-- The executor lives, and `n` threads are to report a latency of it. -/
structure Follows (p : Promises) (e : ServedExecutor) (n : Nat) (q : ServiceSession) : Prop where
  stage : q.stage.rank ≤ 3
  ids : IdsOf e q
  session : q.hasSession = true → e.isAddSession = true
  hiai : q.hiaiCallBack = true → e.isHiaiModel = true
  owes : p.models → q.owesUnload = true → e.executor.executorConfig.isSome = true
  latency : q.reports + n + (if e.needsLatency = true then 1 else 0) ≤ 1 + q.requests

/-- The executor is about to go, prepared or not. -/
structure Closing (p : Promises) (e : ServedExecutor) (n : Nat) (q : ServiceSession) : Prop where
  stage : q.stage.rank ≤ 3
  ids : IdsOf e q
  hiai : q.hiaiCallBack = true → e.isHiaiModel = true
  owes : p.models → q.owesUnload = true → e.executor.executorConfig.isSome = true
  latency : q.reports + n ≤ 1 + q.requests

theorem Follows.closing {p : Promises} {e : ServedExecutor} {n : Nat} {q : ServiceSession}
    (h : Follows p e n q) : Closing p e n q where
  stage := h.stage
  ids := h.ids
  hiai := h.hiai
  owes := h.owes
  latency := (Nat.le_add_right _ _).trans h.latency

/-- Ids that are small enough to be read back are the same. -/
def IdsAgree (q : ServiceSession) : Prop :=
  ∀ i ∈ q.ids, ∀ j ∈ q.ids, i.toNat < 2 ^ 31 → j.toNat < 2 ^ 31 → i = j

/-- What is left of a session when its executor is gone; threads of it may be left as well. -/
structure Ended (p : Promises) (n : Nat) (q : ServiceSession) : Prop where
  ids : IdsAgree q
  callbacks : p.callBacks → q.deinitCallBack = false ∧ q.hiaiCallBack = false
  unloaded : p.models → q.owesUnload = false
  latency : q.reports + n ≤ 1 + q.requests

theorem IdsOf.agree {e : ServedExecutor} {q : ServiceSession} (h : IdsOf e q) : IdsAgree q := by
  obtain ⟨a, hids, hsame⟩ := h
  intro i hi j hj hismall hjsmall
  rcases hids i hi with rfl | ⟨hconfig, rfl⟩ <;> rcases hids j hj with rfl | ⟨hconfig', rfl⟩
  · rfl
  · exact (hsame hconfig' hismall).symm
  · exact hsame hconfig hjsmall
  · rfl

/-- A call that is allowed at this stage. -/
theorem move_eq {q : ServiceSession} {upTo : Nat} {stage : Stage} {last : Last}
    (h : q.stage.rank ≤ upTo) :
    q.move upTo stage last = some { q with stage := stage, last := last } :=
  if_pos h

namespace ServiceSession

variable {q : ServiceSession}

/-- A model is scheduled behind the answer that the service does that. -/
theorem next_scheduling {id : UInt32} {cachePath : String} {modelSize : UInt64}
    {isModelBuffer : Bool} {ans : ReturnCode × Bool} (hlast : q.last = .supported)
    (hstage : q.stage.rank ≤ 1) :
    q.next (.call (.scheduling id cachePath modelSize isModelBuffer)) ans = some { q with
      ids := q.ids ++ [id], owesUnload := ReturnCode.succeeded ans.1
      stage := .scheduled, last := .other } :=
  (if_pos hlast).trans (move_eq hstage)

/-- The second kind of callback is registered behind the first. -/
theorem next_setHiaiModelCallBack {pid : Int32} {processName cachePath : String} {this : Nat}
    {ret : ReturnCode} (hlast : q.last = .listening) (hstage : q.stage.rank ≤ 3) :
    q.next (.call (.setHiaiModelCallBack pid processName cachePath this)) ret = some { q with
      hiaiCallBack := q.hiaiCallBack || ReturnCode.succeeded ret
      stage := .live, last := .other } :=
  (if_pos hlast).trans (move_eq hstage)

/-- A model is scheduled again behind its new id and that answer. -/
theorem next_autoReinitScheduling {origin id : UInt32} {cachePath : String}
    {ans : ReturnCode × Option Bool} (hlast : q.last = .resupported) (hstage : q.stage.rank ≤ 3) :
    q.next (.call (.autoReinitScheduling origin id cachePath)) ans = some { q with
      requests := q.requests + if ans.2 = some true then 1 else 0
      stage := .live, last := .other } :=
  (if_pos hlast).trans (move_eq hstage)

/-- There is one session. -/
theorem next_addSessionId {pid tid : Int32} {ret : ReturnCode} (hsession : ¬ q.hasSession = true)
    (hstage : q.stage.rank ≤ 3) :
    q.next (.call (.addSessionId pid tid)) ret = some { q with
      hasSession := true, stage := .live, last := .other } :=
  (if_neg hsession).trans (move_eq hstage)

end ServiceSession

/-- A call that neither gives nor takes back. -/
theorem Meets.congr {p : Promises} {api : NNRtServiceApi} {q q' : ServiceSession} (h : Meets p api q)
    (hdeinit : q'.deinitCallBack = q.deinitCallBack) (hhiai : q'.hiaiCallBack = q.hiaiCallBack)
    (howes : q'.owesUnload = q.owesUnload) : Meets p api q' where
  consistent := h.consistent
  paired := h.paired
  deinit hq := h.deinit (hdeinit ▸ hq)
  hiai hq := h.hiai (hhiai ▸ hq)
  unload hq := h.unload (howes ▸ hq)

section Functions

variable {p : Promises} {api : NNRtServiceApi} {q : ServiceSession} {e : ServedExecutor} {n : Nat}

/-! ## Opening -/

/-- The model is named once more, under the id it has. -/
theorem Opening.name {a : UInt32} (h : Opening a q) (stage : Stage) (last : Last) :
    Opening a { q with ids := q.ids ++ [a], stage := stage, last := last } where
  ids i hi := by
    rcases List.mem_append.mp hi with hi | hi
    · exact h.ids i hi
    · exact List.mem_singleton.mp hi
  hasSession := h.hasSession
  deinit := h.deinit
  hiai := h.hiai
  requests := h.requests
  reports := h.reports

/-- What `ScheduleModel` leaves: a schedule that fails leaves nothing to unload. -/
structure Scheduled (c : ServedCompilation) (out : ReturnCode × ServedCompilation)
    (q : ServiceSession) : Prop where
  opening : Opening c.hiaiModelId q
  stage : q.stage.rank ≤ 2
  owes : out.1 ≠ .success → q.owesUnload = false
  id : out.2.hiaiModelId = c.hiaiModelId

namespace ServedCompilation

variable {c : ServedCompilation}

theorem serves_setModelId (hmeets : Meets p api q) (h : Opening c.hiaiModelId q)
    (hstage : q.stage.rank = 0) (hlast : q.last = .other) (howes : q.owesUnload = false) :
    Serves p c.setModelId api q fun _ q' =>
      Opening c.hiaiModelId q' ∧ q'.stage.rank ≤ 1 ∧ q'.last = .other ∧ q'.owesUnload = false := by
  have hrank : q.stage.rank ≤ 1 := by omega
  unfold setModelId
  refine serves_getInstance hmeets fun api hmeets _ => ?_
  split
  · exact serves_pure hmeets ⟨h, hrank, hlast, howes⟩
  split
  · exact serves_pure hmeets ⟨h, hrank, hlast, howes⟩
  rename_i hfound
  rw [Bool.not_eq_true', Bool.not_eq_false] at hfound
  refine serves_call_last hmeets hfound fun ret _ => ⟨_, move_eq hstage.le, fun hmeets => ?_⟩
  refine ⟨hmeets.congr rfl rfl rfl, h.name _ _, (by decide : Stage.named.rank ≤ 1), rfl, howes⟩

theorem serves_scheduleModel (hmeets : Meets p api q) (h : Opening c.hiaiModelId q)
    (hstage : q.stage.rank ≤ 1) (hlast : q.last = .other) (howes : q.owesUnload = false) :
    Serves p c.scheduleModel api q (Scheduled c) := by
  have hrank : q.stage.rank ≤ 2 := by omega
  unfold scheduleModel
  refine serves_getInstance hmeets fun api hmeets _ => ?_
  split
  · exact serves_pure hmeets ⟨h, hrank, fun _ => howes, rfl⟩
  split
  · exact serves_pure hmeets ⟨h, hrank, fun _ => howes, rfl⟩
  rename_i hsupport
  rw [Bool.not_eq_true', Bool.not_eq_false] at hsupport
  refine serves_call hsupport fun ans _ => ?_
  obtain ⟨ret, supportStat⟩ := ans
  refine ⟨_, move_eq (hrank.trans (by decide)), ?_⟩
  -- The question leaves everything but `last` as it was.
  have hmeets₁ : ∀ last, Meets p api { q with last := last } := fun _ => hmeets.congr rfl rfl rfl
  have h₁ : ∀ last, Opening c.hiaiModelId { q with last := last } := fun _ =>
    ⟨h.ids, h.hasSession, h.deinit, h.hiai, h.requests, h.reports⟩
  dsimp only
  split
  · exact serves_pure (hmeets₁ _) ⟨h₁ _, hrank, fun _ => howes, rfl⟩
  rename_i hret
  split
  · exact serves_pure (hmeets₁ _) ⟨h₁ _, hrank, fun _ => howes, rfl⟩
  rename_i hsupported
  split
  · exact serves_pure (hmeets₁ _) ⟨h₁ _, hrank, fun _ => howes, rfl⟩
  rename_i hfound
  rw [Bool.not_eq_true', Bool.not_eq_false] at hfound hsupported
  rw [not_not] at hret
  subst hret hsupported
  refine serves_call hfound fun ans _ => ?_
  obtain ⟨ret, needModelLatency⟩ := ans
  refine ⟨_, ServiceSession.next_scheduling ?_ hstage, ?_⟩
  · dsimp only
    rw [hlast]
    rfl
  have hmeets₂ : Meets p api { q with
      ids := q.ids ++ [c.hiaiModelId], owesUnload := ReturnCode.succeeded ret
      stage := .scheduled, last := .other } :=
    ⟨hmeets.consistent, hmeets.paired, hmeets.deinit, hmeets.hiai, fun _ => hfound⟩
  have h₂ := h.name .scheduled .other
  dsimp only
  split
  · rename_i hret
    refine serves_pure hmeets₂ ⟨⟨h₂.ids, h₂.hasSession, h₂.deinit, h₂.hiai, h₂.requests,
      h₂.reports⟩, Nat.le_refl 2, fun _ => ?_, rfl⟩
    exact decide_eq_false hret
  · rename_i hret
    exact serves_pure hmeets₂ ⟨⟨h₂.ids, h₂.hasSession, h₂.deinit, h₂.hiai, h₂.requests,
      h₂.reports⟩, Nat.le_refl 2, fun hne => absurd rfl hne, rfl⟩

end ServedCompilation

/-! ## Callbacks -/

/-- A call that changes nothing but how far the conversation is. -/
theorem Follows.congr {q' : ServiceSession} (h : Follows p e n q)
    (hstage : q'.stage.rank ≤ 3) (hids : q'.ids = q.ids) (hsession : q'.hasSession = q.hasSession)
    (hhiai : q'.hiaiCallBack = q.hiaiCallBack) (howes : q'.owesUnload = q.owesUnload)
    (hrequests : q'.requests = q.requests) (hreports : q'.reports = q.reports) :
    Follows p e n q' where
  stage := hstage
  ids := by
    unfold IdsOf
    rw [hids]
    exact h.ids
  session hq := h.session (hsession ▸ hq)
  hiai hq := h.hiai (hhiai ▸ hq)
  owes hp hq := h.owes hp (howes ▸ hq)
  latency := by
    rw [hrequests, hreports]
    exact h.latency

namespace ServedExecutor

/-- **`SetDeinitModelCallBack`** leaves the executor as it is, except that it knows when it
is registered for the second kind of callback. -/
theorem serves_setDeinitModelCallBack {env : ServedEnv} (hmeets : Meets p api q)
    (h : Follows p e n q) :
    Serves p (e.setDeinitModelCallBack env) api q fun out q' =>
      Follows p out.2 n q' ∧
        (out.2 = e ∨ out.2 = { e with isHiaiModel := true }) := by
  unfold setDeinitModelCallBack
  refine serves_getInstance hmeets fun api hmeets _ => ?_
  split
  · exact serves_pure hmeets ⟨h, Or.inl rfl⟩
  split
  · exact serves_pure hmeets ⟨h, Or.inl rfl⟩
  rename_i hfound
  rw [Bool.not_eq_true', Bool.not_eq_false] at hfound
  split
  · exact serves_pure hmeets ⟨h, Or.inl rfl⟩
  refine serves_call hfound fun ret _ => ⟨_, move_eq h.stage, ?_⟩
  have hmeets₁ : ∀ last, Meets p api { q with
      deinitCallBack := q.deinitCallBack || ReturnCode.succeeded ret
      stage := .live, last := last } := fun _ =>
    ⟨hmeets.consistent, hmeets.paired, fun _ => hfound, hmeets.hiai, hmeets.unload⟩
  have h₁ : ∀ last, Follows p e n { q with
      deinitCallBack := q.deinitCallBack || ReturnCode.succeeded ret
      stage := .live, last := last } := fun _ =>
    h.congr (Nat.le_refl 3) rfl rfl rfl rfl rfl rfl
  split
  · exact serves_pure (hmeets₁ _) ⟨h₁ _, Or.inl rfl⟩
  rename_i hret
  rw [not_not] at hret
  subst hret
  split
  · exact serves_pure (hmeets₁ _) ⟨h₁ _, Or.inl rfl⟩
  split
  · split
    · exact serves_pure (hmeets₁ _) ⟨h₁ _, Or.inl rfl⟩
    rename_i hhiai
    rw [Bool.not_eq_true', Bool.not_eq_false] at hhiai
    refine serves_call hhiai fun ret _ =>
      ⟨_, ServiceSession.next_setHiaiModelCallBack rfl (Nat.le_refl 3), ?_⟩
    have hmeets₂ : Meets p api { q with
        deinitCallBack := q.deinitCallBack || ReturnCode.succeeded .success
        hiaiCallBack := q.hiaiCallBack || ReturnCode.succeeded ret
        stage := .live, last := .other } :=
      ⟨hmeets.consistent, hmeets.paired, fun _ => hfound, fun _ => hhiai, hmeets.unload⟩
    split
    · rename_i hret
      have hno : ReturnCode.succeeded ret = false := decide_eq_false hret
      refine serves_pure hmeets₂ ⟨h.congr (Nat.le_refl 3) rfl rfl ?_ rfl rfl rfl, Or.inl rfl⟩
      rw [hno, Bool.or_false]
    · exact serves_pure hmeets₂ ⟨⟨Nat.le_refl 3, h.ids, h.session, fun _ => rfl, h.owes, h.latency⟩,
        Or.inr rfl⟩
  · exact serves_pure (hmeets₁ _) ⟨h₁ _, Or.inl rfl⟩

/-! ## The end -/

/-- What the two withdrawals leave. -/
structure Withdrawn (q q' : ServiceSession) : Prop where
  ids : q'.ids = q.ids
  owes : q'.owesUnload = q.owesUnload
  requests : q'.requests = q.requests
  reports : q'.reports = q.reports

theorem Withdrawn.refl (q : ServiceSession) : Withdrawn q q :=
  ⟨rfl, rfl, rfl, rfl⟩

/-- A callback that can be registered can be withdrawn. -/
theorem serves_unSetDeinitModelCallBack (hmeets : Meets p api q) (hstage : q.stage.rank ≤ 4) :
    Serves p e.unSetDeinitModelCallBack api q fun _ q' =>
      Withdrawn q q' ∧ q'.stage.rank ≤ 5 ∧ q'.hiaiCallBack = q.hiaiCallBack ∧
        (p.callBacks → q'.deinitCallBack = false) := by
  -- Where nothing is said, nothing was registered.
  have hsilent : ∀ api, Meets p api q →
      (p.callBacks → api.functions .setDeinitModelCallBack = true → False) →
      ∀ ret : ReturnCode, Serves p (pure ret) api q fun _ q' =>
        Withdrawn q q' ∧ q'.stage.rank ≤ 5 ∧ q'.hiaiCallBack = q.hiaiCallBack ∧
          (p.callBacks → q'.deinitCallBack = false) := by
    intro api hmeets hnone ret
    refine serves_pure hmeets ⟨.refl q, by omega, rfl, fun hp => ?_⟩
    by_contra hset
    exact hnone hp (hmeets.deinit (Bool.not_eq_false _ ▸ hset))
  unfold unSetDeinitModelCallBack
  refine serves_getInstance hmeets fun api hmeets havailable => ?_
  split
  · rename_i hno
    refine hsilent api hmeets (fun _ hfound => ?_) _
    rw [havailable (hmeets.consistent.functions _ hfound)] at hno
    cases hno
  split
  · rename_i hno
    refine hsilent api hmeets (fun hp hfound => ?_) _
    rw [hmeets.paired.deinit hp hfound] at hno
    cases hno
  rename_i hfound
  rw [Bool.not_eq_true', Bool.not_eq_false] at hfound
  refine serves_call_last hmeets hfound fun ret hret => ⟨_, move_eq hstage, fun hmeets => ?_⟩
  refine ⟨⟨hmeets.consistent, hmeets.paired, fun hq => hmeets.deinit ?_, hmeets.hiai,
    hmeets.unload⟩, ⟨rfl, rfl, rfl, rfl⟩, Nat.le_refl 5, rfl, fun hp => ?_⟩
  · exact (Bool.and_eq_true _ _ ▸ hq).1
  · dsimp only
    rw [hret hp, Bool.not_true, Bool.and_false]

theorem serves_unSetHiaiModelCallBack (hmeets : Meets p api q) (hstage : q.stage.rank ≤ 5) :
    Serves p e.unSetHiaiModelCallBack api q fun _ q' =>
      Withdrawn q q' ∧ q'.deinitCallBack = q.deinitCallBack ∧
        (p.callBacks → q'.hiaiCallBack = false) := by
  have hsilent : ∀ api, Meets p api q →
      (p.callBacks → api.functions .setHiaiModelCallBack = true → False) →
      ∀ ret : ReturnCode, Serves p (pure ret) api q fun _ q' =>
        Withdrawn q q' ∧ q'.deinitCallBack = q.deinitCallBack ∧
          (p.callBacks → q'.hiaiCallBack = false) := by
    intro api hmeets hnone ret
    refine serves_pure hmeets ⟨.refl q, rfl, fun hp => ?_⟩
    by_contra hset
    exact hnone hp (hmeets.hiai (Bool.not_eq_false _ ▸ hset))
  unfold unSetHiaiModelCallBack
  refine serves_getInstance hmeets fun api hmeets havailable => ?_
  split
  · rename_i hno
    refine hsilent api hmeets (fun _ hfound => ?_) _
    rw [havailable (hmeets.consistent.functions _ hfound)] at hno
    cases hno
  split
  · rename_i hno
    refine hsilent api hmeets (fun hp hfound => ?_) _
    rw [hmeets.paired.hiai hp hfound] at hno
    cases hno
  rename_i hfound
  rw [Bool.not_eq_true', Bool.not_eq_false] at hfound
  refine serves_call_last hmeets hfound fun ret hret => ⟨_, move_eq hstage, fun hmeets => ?_⟩
  refine ⟨⟨hmeets.consistent, hmeets.paired, hmeets.deinit, fun hq => hmeets.hiai ?_,
    hmeets.unload⟩, ⟨rfl, rfl, rfl, rfl⟩, rfl, fun hp => ?_⟩
  · exact (Bool.and_eq_true _ _ ▸ hq).1
  · dsimp only
    rw [hret hp, Bool.not_true, Bool.and_false]

/-- **The destructor** withdraws what is registered. -/
theorem serves_destroy {w : World} (hmeets : Meets p api q) (hstage : q.stage.rank ≤ 4)
    (hhiai : q.hiaiCallBack = true → e.isHiaiModel = true) :
    Serves p (e.destroy w) api q fun _ q' => Withdrawn q q' ∧
      (p.callBacks → q'.deinitCallBack = false ∧ q'.hiaiCallBack = false) := by
  unfold destroy
  split
  · exact serves_throw
  refine (serves_unSetDeinitModelCallBack hmeets hstage).bind fun _ api q₁ hmeets h => ?_
  obtain ⟨hsame, hstage₁, hkept, hdeinit⟩ := h
  split
  · refine (serves_unSetHiaiModelCallBack hmeets hstage₁).bind fun _ api q₂ hmeets h => ?_
    obtain ⟨hsame₂, hkept₂, hnone⟩ := h
    refine serves_pure hmeets ⟨⟨hsame₂.ids.trans hsame.ids, hsame₂.owes.trans hsame.owes,
      hsame₂.requests.trans hsame.requests, hsame₂.reports.trans hsame.reports⟩, fun hp => ?_⟩
    exact ⟨hkept₂.trans (hdeinit hp), hnone hp⟩
  · rename_i hno
    refine serves_pure hmeets ⟨hsame, fun hp => ⟨hdeinit hp, ?_⟩⟩
    rw [hkept]
    exact Bool.eq_false_iff.mpr fun hq => hno (hhiai hq)

/-- `Unload` takes a schedule back. -/
theorem serves_unload (hmeets : Meets p api q) (h : Closing p e n q) :
    Serves p e.unload api q fun _ q' => q'.stage.rank ≤ 4 ∧ IdsAgree q' ∧
      (p.models → q'.owesUnload = false) ∧ q'.hiaiCallBack = q.hiaiCallBack ∧
        q'.reports + n ≤ 1 + q'.requests := by
  have hrank : q.stage.rank ≤ 4 := h.stage.trans (by decide)
  have hsilent : ∀ api, Meets p api q → (p.models → q.owesUnload = true → False) →
      ∀ ret : ReturnCode, Serves p (pure ret) api q fun _ q' => q'.stage.rank ≤ 4 ∧ IdsAgree q' ∧
        (p.models → q'.owesUnload = false) ∧ q'.hiaiCallBack = q.hiaiCallBack ∧
          q'.reports + n ≤ 1 + q'.requests := by
    intro api hmeets hnone ret
    exact serves_pure hmeets ⟨hrank, h.ids.agree, fun hp => Bool.eq_false_iff.mpr (hnone hp), rfl,
      h.latency⟩
  unfold unload
  split
  · rename_i hconfig
    refine hsilent api hmeets (fun hp howes => ?_) _
    have hsome := h.owes hp howes
    rw [hconfig] at hsome
    cases hsome
  rename_i config hconfig
  refine serves_getInstance hmeets fun api hmeets havailable => ?_
  split
  · rename_i hno
    refine hsilent api hmeets (fun _ howes => ?_) _
    rw [havailable (hmeets.consistent.functions _ (hmeets.unload howes))] at hno
    cases hno
  split
  · rename_i hno
    refine hsilent api hmeets (fun hp howes => ?_) _
    rw [hmeets.paired.unload hp (hmeets.unload howes)] at hno
    cases hno
  rename_i hfound
  rw [Bool.not_eq_true', Bool.not_eq_false] at hfound
  refine serves_call_last hmeets hfound fun ret hret => ⟨_, move_eq h.stage, fun hmeets => ?_⟩
  refine ⟨⟨hmeets.consistent, hmeets.paired, hmeets.deinit, hmeets.hiai,
    fun hq => hmeets.unload (Bool.and_eq_true _ _ ▸ hq).1⟩, Nat.le_refl 4,
    @IdsOf.agree e _ ?_, fun hp => ?_, rfl, h.latency⟩
  · obtain ⟨a, hids, hsame⟩ := h.ids
    refine ⟨a, fun i hi => ?_, hsame⟩
    rcases List.mem_append.mp hi with hi | hi
    · exact hids i hi
    · exact Or.inr ⟨by rw [hconfig]; rfl, List.mem_singleton.mp hi⟩
  · dsimp only
    rw [hret hp, Bool.not_true, Bool.and_false]

/-- **The end of an executor** gives back what it was given. -/
theorem serves_close {w : World} (hmeets : Meets p api q) (h : Closing p e n q) :
    Serves p (e.close w) api q fun _ q' => Ended p n q' := by
  unfold close
  refine (serves_unload hmeets h).bind fun _ api q₁ hmeets h₁ => ?_
  obtain ⟨hstage, hids, howes, hhiai, hlatency⟩ := h₁
  dsimp only
  refine Serves.mono (serves_destroy hmeets hstage ?_) fun _ q₂ h₂ => ?_
  · exact fun hq => h.hiai (hhiai ▸ hq)
  obtain ⟨hsame, hcallbacks⟩ := h₂
  refine ⟨?_, hcallbacks, fun hp => hsame.owes.trans (howes hp), ?_⟩
  · unfold IdsAgree
    rw [hsame.ids]
    exact hids
  · rw [hsame.reports, hsame.requests]
    exact hlatency

end ServedExecutor

end Functions

end NNRt
