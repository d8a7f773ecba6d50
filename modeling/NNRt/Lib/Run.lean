import Mathlib.Data.List.Basic

/-!
# Runs of a partial step function

A step may stop the machine with an error. `Run.exec` takes one step for each
call of a list.

- `exec_invariant`: what every step preserves, every run preserves.
- `Meets`: every step of a run meets a condition on the state before it and
  the call.
- `exec_of_meets`: where that condition also is enough not to stop.
- `exec_simulates`: a run of one machine is a run of another one that its steps are
  steps of.
- `exec_hidden`: steps that cannot be observed can be left out.
- `exec_iff_meets`: where the condition is exactly what a step needs to keep a
  property, and a lost property never comes back, a run keeps the property iff
  all its steps meet the condition.
- `meets_congr_of_invariant`: conditions that agree under an invariant are met by the same
  runs.
- `prefixes_iff_meets`: without the last premise, for all states on the way.
- `exec_turns`: a property that a run ends with began to hold in one step.
- `exec_count`: what a step of one kind takes from a measure, a run takes as often as
  it has such steps.
- `always_iff_meets`: the same for runs that may stop, with a demand on every step
  that is tried.
- `seen_iff_meetsFrom`: the same for a property that begins to hold with a step of
  some kind.
-/

namespace Run

variable {σ ι ε : Type*} {step : σ → ι → Except ε σ} {s s' : σ} {calls : List ι}

/-- One step for each call. -/
def exec (step : σ → ι → Except ε σ) : σ → List ι → Except ε σ
  | s, [] => .ok s
  | s, c :: calls =>
    match step s c with
    | .error e => .error e
    | .ok s => exec step s calls

/-- Every step of the run meets `C`. -/
def Meets (step : σ → ι → Except ε σ) (C : σ → ι → Prop) : σ → List ι → Prop
  | _, [] => True
  | s, c :: calls => C s c ∧ ∀ s', step s c = .ok s' → Meets step C s' calls

/-- Whether a run meets a condition is found out by taking its steps. -/
instance decidableMeets {C : σ → ι → Prop} [∀ s c, Decidable (C s c)] :
    ∀ s calls, Decidable (Meets step C s calls)
  | _, [] => .isTrue trivial
  | s, c :: calls =>
    match hc : step s c with
    | .error _ => decidable_of_iff (C s c)
      ⟨fun h => ⟨h, fun s' hs' => by cases hc.symm.trans hs'⟩, fun h => h.1⟩
    | .ok s₁ =>
      have := decidableMeets (C := C) s₁ calls
      decidable_of_iff (C s c ∧ Meets step C s₁ calls)
        ⟨fun h => ⟨h.1, fun s' hs' => by
          cases hc.symm.trans hs'
          exact h.2⟩, fun h => ⟨h.1, h.2 s₁ hc⟩⟩

/-- A run that does not stop is a first step and the rest. -/
theorem exec_cons_eq_ok {c : ι} (h : exec step s (c :: calls) = .ok s') :
    ∃ s₁, step s c = .ok s₁ ∧ exec step s₁ calls = .ok s' := by
  rw [exec] at h
  cases hc : step s c with
  | error e =>
    rw [hc] at h
    cases h
  | ok s₁ =>
    rw [hc] at h
    exact ⟨s₁, rfl, h⟩

/-- A run that stops with an error does so at one step, where it has come without one. -/
theorem exec_eq_error {e : ε} (h : exec step s calls = .error e) :
    ∃ before c after t, calls = before ++ c :: after ∧ exec step s before = .ok t ∧
      step t c = .error e := by
  induction calls generalizing s with
  | nil => cases h
  | cons c calls ih =>
    rw [exec] at h
    cases hc : step s c with
    | error e' =>
      rw [hc] at h
      cases h
      exact ⟨[], c, calls, s, rfl, rfl, hc⟩
    | ok s₁ =>
      rw [hc] at h
      obtain ⟨before, d, after, t, rfl, hbefore, hd⟩ := ih h
      refine ⟨c :: before, d, after, t, rfl, ?_, hd⟩
      rw [exec, hc]
      exact hbefore

theorem Meets.cons {C : σ → ι → Prop} {c : ι} {s₁ : σ} (hc : step s c = .ok s₁) (hC : C s c)
    (hrest : Meets step C s₁ calls) : Meets step C s (c :: calls) := by
  refine ⟨hC, fun s' hs' => ?_⟩
  rw [hc] at hs'
  cases hs'
  exact hrest

/-- The beginning of a run whose steps meet a condition, and the step behind it. -/
theorem Meets.of_append {C : σ → ι → Prop} {before after : List ι} {c : ι} {t : σ}
    (h : Meets step C s (before ++ c :: after)) (hbefore : exec step s before = .ok t) :
    Meets step C s before ∧ C t c := by
  induction before generalizing s with
  | nil =>
    cases hbefore
    exact ⟨trivial, h.1⟩
  | cons d before ih =>
    obtain ⟨s₁, hd, hrest⟩ := exec_cons_eq_ok hbefore
    obtain ⟨hmeets, hc⟩ := ih (h.2 s₁ hd) hrest
    refine ⟨⟨h.1, fun s' hs' => ?_⟩, hc⟩
    rw [hd] at hs'
    cases hs'
    exact hmeets

/-- A run whose steps cannot stop does not stop. -/
theorem exec_total (hstep : ∀ s c, ∃ s', step s c = .ok s') (s : σ) (calls : List ι) :
    ∃ s', exec step s calls = .ok s' := by
  induction calls generalizing s with
  | nil => exact ⟨s, rfl⟩
  | cons c calls ih =>
    obtain ⟨s₁, hc⟩ := hstep s c
    obtain ⟨s', hrest⟩ := ih s₁
    refine ⟨s', ?_⟩
    rw [exec, hc]
    exact hrest

/-- Conditions that agree are met by the same runs. -/
theorem meets_congr {C D : σ → ι → Prop} (h : ∀ s c, C s c ↔ D s c) (s : σ) (calls : List ι) :
    Meets step C s calls ↔ Meets step D s calls := by
  induction calls generalizing s with
  | nil => exact Iff.rfl
  | cons c calls ih =>
    unfold Meets
    rw [h s c]
    constructor
    · rintro ⟨hD, hrest⟩
      exact ⟨hD, fun s' hs' => (ih s').mp (hrest s' hs')⟩
    · rintro ⟨hD, hrest⟩
      exact ⟨hD, fun s' hs' => (ih s').mpr (hrest s' hs')⟩

/-- Conditions that agree where an invariant holds, which the steps that meet one of them
keep. -/
theorem meets_congr_of_invariant {P : σ → Prop} {C D : σ → ι → Prop}
    (h : ∀ s c, P s → (C s c ↔ D s c))
    (hstep : ∀ s c s', P s → D s c → step s c = .ok s' → P s') {s : σ} (hs : P s)
    (calls : List ι) : Meets step C s calls ↔ Meets step D s calls := by
  induction calls generalizing s with
  | nil => exact Iff.rfl
  | cons c calls ih =>
    constructor
    · rintro ⟨hC, hrest⟩
      have hD : D s c := (h s c hs).mp hC
      exact ⟨hD, fun s' hs' => (ih (hstep s c s' hs hD hs')).mp (hrest s' hs')⟩
    · rintro ⟨hD, hrest⟩
      exact ⟨(h s c hs).mpr hD, fun s' hs' => (ih (hstep s c s' hs hD hs')).mpr (hrest s' hs')⟩

/-- A condition on the calls alone. -/
theorem meets_of_forall {C : ι → Prop} (s : σ) (h : ∀ c ∈ calls, C c) :
    Meets step (fun _ c => C c) s calls := by
  induction calls generalizing s with
  | nil => trivial
  | cons c calls ih =>
    refine ⟨h c List.mem_cons_self, fun s' _ => ih s' fun d hd => ?_⟩
    exact h d (List.mem_cons_of_mem _ hd)

/-- **Invariants**: what every step preserves, every run preserves. -/
theorem exec_invariant {P : σ → Prop} (hstep : ∀ s c s', P s → step s c = .ok s' → P s')
    (hs : P s) (h : exec step s calls = .ok s') : P s' := by
  induction calls generalizing s with
  | nil =>
    cases h
    exact hs
  | cons c calls ih =>
    obtain ⟨s₁, hc, hrest⟩ := exec_cons_eq_ok h
    exact ih (hstep s c s₁ hs hc) hrest

/-- Invariants of the runs whose steps meet a condition. -/
theorem exec_invariant_of_meets {P : σ → Prop} {C : σ → ι → Prop}
    (hstep : ∀ s c s', P s → C s c → step s c = .ok s' → P s') (hs : P s)
    (hC : Meets step C s calls) (h : exec step s calls = .ok s') : P s' := by
  induction calls generalizing s with
  | nil =>
    cases h
    exact hs
  | cons c calls ih =>
    obtain ⟨s₁, hc, hrest⟩ := exec_cons_eq_ok h
    exact ih (hstep s c s₁ hs hC.1 hc) (hC.2 s₁ hc) hrest

/-- Where a condition is enough for a step not to stop and to keep a property, the runs that meet
it do not stop either. -/
theorem exec_of_meets {P : σ → Prop} {C : σ → ι → Prop}
    (hstep : ∀ s c, P s → C s c → ∃ s', step s c = .ok s' ∧ P s') (hs : P s)
    (hC : Meets step C s calls) : ∃ s', exec step s calls = .ok s' ∧ P s' := by
  induction calls generalizing s with
  | nil => exact ⟨s, rfl, hs⟩
  | cons c calls ih =>
    obtain ⟨s₁, hc, hs₁⟩ := hstep s c hs hC.1
    obtain ⟨s', hrest, hs'⟩ := ih hs₁ (hC.2 s₁ hc)
    refine ⟨s', ?_, hs'⟩
    rw [exec, hc]
    exact hrest

/-- **Simulation**: where every step is, seen from above, a step of another machine, every run
is a run of it. -/
theorem exec_simulates {σ' ι' ε' : Type*} {step' : σ' → ι' → Except ε' σ'} {R : ι → ι' → Prop}
    (abs : σ → σ')
    (hstep : ∀ s c s', step s c = .ok s' → ∃ c', R c c' ∧ step' (abs s) c' = .ok (abs s'))
    (h : exec step s calls = .ok s') :
    ∃ calls', List.Forall₂ R calls calls' ∧ exec step' (abs s) calls' = .ok (abs s') := by
  induction calls generalizing s with
  | nil =>
    cases h
    exact ⟨[], .nil, rfl⟩
  | cons c calls ih =>
    obtain ⟨s₁, hc, hrest⟩ := exec_cons_eq_ok h
    obtain ⟨c', hR, hc'⟩ := hstep s c s₁ hc
    obtain ⟨calls', hall, hrun⟩ := ih hrest
    refine ⟨c' :: calls', .cons hR hall, ?_⟩
    rw [exec, hc']
    exact hrun

/-- Two steps end alike: in related states, or with the same error. -/
def Alike {τ : Type*} (R : σ → τ → Prop) : Except ε σ → Except ε τ → Prop
  | .ok s, .ok t => R s t
  | .error e, .error e' => e = e'
  | _, _ => False

/-- **Hidden steps**: where they keep a state related to one without them, and the others keep
both related, a run without the hidden steps is observed as the run with them. -/
theorem exec_hidden {τ : Type*} {R : σ → σ → Prop} {C : ι → Prop} {hidden : ι → Bool}
    {obs : σ → τ} {t : σ} (hobs : ∀ s t, R s t → obs s = obs t)
    (hhidden : ∀ s t c, R s t → C c → hidden c = true → ∃ s', step s c = .ok s' ∧ R s' t)
    (hshown : ∀ s t c, R s t → C c → hidden c = false → Alike R (step s c) (step t c))
    (hcalls : ∀ c ∈ calls, C c) (h : R s t) :
    (exec step s calls).map obs = (exec step t (calls.filter fun c => !hidden c)).map obs := by
  induction calls generalizing s t with
  | nil => exact congrArg Except.ok (hobs s t h)
  | cons c calls ih =>
    have hc : C c := hcalls c List.mem_cons_self
    have hrest : ∀ d ∈ calls, C d := fun d hd => hcalls d (List.mem_cons_of_mem _ hd)
    cases hkind : hidden c with
    | true =>
      obtain ⟨s₁, hs₁, h₁⟩ := hhidden s t c h hc hkind
      rw [List.filter_cons_of_neg (by rw [hkind]; decide), exec, hs₁]
      exact ih hrest h₁
    | false =>
      rw [List.filter_cons_of_pos (by rw [hkind]; decide), exec, exec]
      have halike := hshown s t c h hc hkind
      cases hs : step s c with
      | error e =>
        cases ht : step t c with
        | error e' =>
          rw [hs, ht] at halike
          exact congrArg Except.error halike
        | ok t₁ =>
          rw [hs, ht] at halike
          exact halike.elim
      | ok s₁ =>
        cases ht : step t c with
        | error e' =>
          rw [hs, ht] at halike
          exact halike.elim
        | ok t₁ =>
          rw [hs, ht] at halike
          exact ih hrest halike

/-- **Exact conditions**: `I` holds throughout; a step from a state with `P`
keeps `P` iff it meets `C`; a state without `P` never gets it back. Then a run
from a state with `P` ends in one iff all its steps meet `C`. -/
theorem exec_iff_meets {I P : σ → Prop} {C : σ → ι → Prop}
    (hinv : ∀ s c s', I s → step s c = .ok s' → I s')
    (hiff : ∀ s c s', I s → P s → step s c = .ok s' → (P s' ↔ C s c))
    (hlost : ∀ s c s', I s → ¬ P s → step s c = .ok s' → ¬ P s')
    (hI : I s) (hP : P s) (h : exec step s calls = .ok s') :
    P s' ↔ Meets step C s calls := by
  constructor
  · intro hP'
    induction calls generalizing s with
    | nil => trivial
    | cons c calls ih =>
      obtain ⟨s₁, hc, hrest⟩ := exec_cons_eq_ok h
      have hI₁ : I s₁ := hinv s c s₁ hI hc
      have hP₁ : P s₁ := by
        by_contra hn
        -- Once lost, the property would be lost at the end of the run as well.
        have hend : I s' ∧ ¬ P s' :=
          exec_invariant (P := fun t => I t ∧ ¬ P t)
            (fun t d t' ht hd => ⟨hinv t d t' ht.1 hd, hlost t d t' ht.1 ht.2 hd⟩)
            ⟨hI₁, hn⟩ hrest
        exact hend.2 hP'
      refine ⟨(hiff s c s₁ hI hP hc).mp hP₁, fun t ht => ?_⟩
      rw [hc] at ht
      cases ht
      exact ih hI₁ hP₁ hrest
  · intro hC
    have hend : I s' ∧ P s' :=
      exec_invariant_of_meets (P := fun t => I t ∧ P t)
        (fun t d t' ht hd hstep =>
          ⟨hinv t d t' ht.1 hstep, (hiff t d t' ht.1 ht.2 hstep).mpr hd⟩)
        ⟨hI, hP⟩ hC h
    exact hend.2

/-- **Exact conditions on the way**: where a step keeps `P` iff it meets `C`, `P`
holds in every state of a run iff all its steps meet `C`. A state without `P` may
get it back later. -/
theorem prefixes_iff_meets {I P : σ → Prop} {C : σ → ι → Prop}
    (hinv : ∀ s c s', I s → step s c = .ok s' → I s')
    (hiff : ∀ s c s', I s → P s → step s c = .ok s' → (P s' ↔ C s c))
    (hI : I s) (hP : P s) (h : exec step s calls = .ok s') :
    (∀ before, before <+: calls → ∀ t, exec step s before = .ok t → P t) ↔
      Meets step C s calls := by
  induction calls generalizing s with
  | nil =>
    refine ⟨fun _ => trivial, fun _ before hbefore t ht => ?_⟩
    rw [List.prefix_nil.mp hbefore] at ht
    cases ht
    exact hP
  | cons c calls ih =>
    obtain ⟨s₁, hc, hrest⟩ := exec_cons_eq_ok h
    have hI₁ : I s₁ := hinv s c s₁ hI hc
    have hcons : ∀ before, exec step s (c :: before) = exec step s₁ before := by
      intro before
      rw [exec, hc]
    constructor
    · intro hall
      have hP₁ : P s₁ := by
        refine hall [c] (List.prefix_append [c] calls) s₁ ?_
        rw [hcons]
        rfl
      refine ⟨(hiff s c s₁ hI hP hc).mp hP₁, fun t ht => ?_⟩
      rw [hc] at ht
      cases ht
      refine (ih hI₁ hP₁ hrest).mp fun before hbefore t ht => ?_
      refine hall (c :: before) ((List.prefix_cons_inj c).mpr hbefore) t ?_
      rw [hcons]
      exact ht
    · -- A beginning is empty, or it begins with the first step.
      rintro ⟨hC, hmeets⟩ before hbefore t ht
      have hP₁ : P s₁ := (hiff s c s₁ hI hP hc).mpr hC
      cases before with
      | nil =>
        cases ht
        exact hP
      | cons d before =>
        obtain ⟨rfl, hbelow⟩ := List.cons_prefix_cons.mp hbefore
        rw [hcons] at ht
        exact (ih hI₁ hP₁ hrest).mpr (hmeets s₁ hc) before hbelow t ht

/-- **Exact conditions on runs that may stop**: `P` is demanded of every state, `Q` of
every step that is tried. Where a step does what is demanded iff it meets `C`, a run
does iff all its steps meet `C`. -/
theorem always_iff_meets {I P : σ → Prop} {Q C : σ → ι → Prop}
    (hinv : ∀ s c s', I s → step s c = .ok s' → I s')
    (hiff : ∀ s c, I s → P s → ((Q s c ∧ ∀ s', step s c = .ok s' → P s') ↔ C s c))
    (hI : I s) (hP : P s) :
    (∀ before, before <+: calls → ∀ t, exec step s before = .ok t →
      P t ∧ ∀ c, before ++ [c] <+: calls → Q t c) ↔ Meets step C s calls := by
  induction calls generalizing s with
  | nil =>
    refine ⟨fun _ => trivial, fun _ before hbefore t ht => ?_⟩
    obtain rfl := List.prefix_nil.mp hbefore
    cases ht
    refine ⟨hP, fun c hc => ?_⟩
    cases List.prefix_nil.mp hc
  | cons c calls ih =>
    have hcons : ∀ s₁, step s c = .ok s₁ → ∀ before,
        exec step s (c :: before) = exec step s₁ before := by
      intro s₁ hc before
      rw [exec, hc]
    constructor
    · intro hall
      have hfirst : Q s c ∧ ∀ s', step s c = .ok s' → P s' := by
        refine ⟨(hall [] (List.nil_prefix) s rfl).2 c (List.prefix_append [c] calls), ?_⟩
        intro s₁ hc
        refine (hall [c] (List.prefix_append [c] calls) s₁ ?_).1
        rw [hcons s₁ hc]
        rfl
      refine ⟨(hiff s c hI hP).mp hfirst, fun s₁ hc => ?_⟩
      refine (ih (hinv s c s₁ hI hc) (hfirst.2 s₁ hc)).mp fun before hbefore t ht => ?_
      -- A beginning of the rest is a beginning of the whole, one step later.
      have hwhole := hall (c :: before) ((List.prefix_cons_inj c).mpr hbefore) t
        ((hcons s₁ hc before).trans ht)
      exact ⟨hwhole.1, fun d hd => hwhole.2 d ((List.prefix_cons_inj c).mpr hd)⟩
    · rintro ⟨hC, hmeets⟩ before hbefore t ht
      obtain ⟨hQ, hkeeps⟩ := (hiff s c hI hP).mpr hC
      cases before with
      | nil =>
        cases ht
        refine ⟨hP, fun d hd => ?_⟩
        obtain ⟨rfl, -⟩ := List.cons_prefix_cons.mp hd
        exact hQ
      | cons d before =>
        obtain ⟨rfl, hbelow⟩ := List.cons_prefix_cons.mp hbefore
        obtain ⟨s₁, hc, ht⟩ := exec_cons_eq_ok ht
        obtain ⟨hPt, hQt⟩ := (ih (hinv s d s₁ hI hc) (hkeeps s₁ hc)).mpr (hmeets s₁ hc) before
          hbelow t ht
        exact ⟨hPt, fun c' hc' => hQt c' ((List.prefix_cons_inj d).mp hc')⟩

/-! ## One step among many -/

/-- **Turning points**: a property that does not hold at the beginning of a run, and does at its
end, begins to hold in one step. -/
theorem exec_turns {P : σ → Prop} (hs : ¬ P s) (hs' : P s') (h : exec step s calls = .ok s') :
    ∃ before c after t t', calls = before ++ c :: after ∧ exec step s before = .ok t ∧
      ¬ P t ∧ step t c = .ok t' ∧ P t' ∧ exec step t' after = .ok s' := by
  induction calls generalizing s with
  | nil =>
    cases h
    exact absurd hs' hs
  | cons c calls ih =>
    obtain ⟨s₁, hc, hrest⟩ := exec_cons_eq_ok h
    by_cases hs₁ : P s₁
    · exact ⟨[], c, calls, s, s₁, rfl, rfl, hs, hc, hs₁, hrest⟩
    · obtain ⟨before, d, after, t, t', rfl, hbefore, ht, hd, ht', hafter⟩ := ih hs₁ hrest
      refine ⟨c :: before, d, after, t, t', rfl, ?_, ht, hd, ht', hafter⟩
      rw [exec, hc]
      exact hbefore

/-- A run that goes on is a run up to there, a step and a run. -/
theorem exec_append_cons {before after : List ι} {c : ι} {t : σ}
    (h : exec step s (before ++ c :: after) = .ok s') (hbefore : exec step s before = .ok t) :
    ∃ t', step t c = .ok t' ∧ exec step t' after = .ok s' := by
  induction before generalizing s with
  | nil =>
    cases hbefore
    exact exec_cons_eq_ok h
  | cons d before ih =>
    obtain ⟨s₁, hd, hrest⟩ := exec_cons_eq_ok h
    rw [exec, hd] at hbefore
    exact ih hrest hbefore

/-- How many steps of a run are of the kind `Q`. -/
def count (step : σ → ι → Except ε σ) (Q : σ → ι → Prop) [∀ s c, Decidable (Q s c)] :
    σ → List ι → Nat
  | _, [] => 0
  | s, c :: calls =>
    (if Q s c then 1 else 0) +
      match step s c with
      | .error _ => 0
      | .ok s' => count step Q s' calls

/-- **Counting**: where a step takes one from a measure iff it is of the kind `Q`, a run takes as
many as it has steps of that kind. -/
theorem exec_count {I : σ → Prop} {Q : σ → ι → Prop} [∀ s c, Decidable (Q s c)] {f : σ → Nat}
    (hstep : ∀ s c s', I s → step s c = .ok s' → I s' ∧ f s = f s' + if Q s c then 1 else 0)
    (hI : I s) (h : exec step s calls = .ok s') : I s' ∧ f s = f s' + count step Q s calls := by
  induction calls generalizing s with
  | nil =>
    cases h
    exact ⟨hI, rfl⟩
  | cons c calls ih =>
    obtain ⟨s₁, hc, hrest⟩ := exec_cons_eq_ok h
    obtain ⟨hI₁, hf⟩ := hstep s c s₁ hI hc
    obtain ⟨hI', hf'⟩ := ih hI₁ hrest
    refine ⟨hI', ?_⟩
    rw [hf, hf', count, hc]
    dsimp only
    omega

/-! ## Properties that begin with a step -/

/-- Some step of the run is of the kind `Q`. -/
def Seen (step : σ → ι → Except ε σ) (Q : σ → ι → Prop) : σ → List ι → Prop
  | _, [] => False
  | s, c :: calls => Q s c ∨ ∃ s', step s c = .ok s' ∧ Seen step Q s' calls

/-- From the first step of the kind `Q` on, every step of the run meets `C`. -/
def MeetsFrom (step : σ → ι → Except ε σ) (Q C : σ → ι → Prop) : σ → List ι → Prop
  | _, [] => True
  | s, c :: calls =>
    (Q s c → Meets step C s (c :: calls)) ∧
      (¬ Q s c → ∀ s', step s c = .ok s' → MeetsFrom step Q C s' calls)

/-- Behind a step of the kind, every state from the next one on is looked at. -/
theorem forall_seen_cons_of {P : σ → Prop} {Q : σ → ι → Prop} {c : ι} {s₁ : σ} (hQ : Q s c)
    (hc : step s c = .ok s₁) :
    (∀ before, before <+: c :: calls → Seen step Q s before →
        ∀ t, exec step s before = .ok t → P t) ↔
      P s₁ ∧ ∀ before, before <+: calls → ∀ t, exec step s₁ before = .ok t → P t := by
  have hcons : ∀ before, exec step s (c :: before) = exec step s₁ before := by
    intro before
    rw [exec, hc]
  constructor
  · intro hall
    refine ⟨hall [c] (List.prefix_append [c] calls) (Or.inl hQ) s₁ (hcons []),
      fun before hbefore t ht => ?_⟩
    exact hall (c :: before) ((List.prefix_cons_inj c).mpr hbefore) (Or.inl hQ) t
      ((hcons before).trans ht)
  · rintro ⟨-, hall⟩ before hbefore hseen t ht
    cases before with
    | nil => exact hseen.elim
    | cons d before =>
      obtain ⟨rfl, hbelow⟩ := List.cons_prefix_cons.mp hbefore
      exact hall before hbelow t ((hcons before).symm.trans ht)

/-- A step of another kind leaves it to the rest. -/
theorem forall_seen_cons_of_not {P : σ → Prop} {Q : σ → ι → Prop} {c : ι} {s₁ : σ} (hQ : ¬ Q s c)
    (hc : step s c = .ok s₁) :
    (∀ before, before <+: c :: calls → Seen step Q s before →
        ∀ t, exec step s before = .ok t → P t) ↔
      ∀ before, before <+: calls → Seen step Q s₁ before →
        ∀ t, exec step s₁ before = .ok t → P t := by
  have hcons : ∀ before, exec step s (c :: before) = exec step s₁ before := by
    intro before
    rw [exec, hc]
  constructor
  · intro hall before hbefore hseen t ht
    exact hall (c :: before) ((List.prefix_cons_inj c).mpr hbefore)
      (Or.inr ⟨s₁, hc, hseen⟩) t ((hcons before).trans ht)
  · intro hall before hbefore hseen t ht
    cases before with
    | nil => exact hseen.elim
    | cons d before =>
      obtain ⟨rfl, hbelow⟩ := List.cons_prefix_cons.mp hbefore
      rcases hseen with hd | ⟨s₂, hs₂, hseen⟩
      · exact absurd hd hQ
      · cases hc.symm.trans hs₂
        exact hall before hbelow hseen t ((hcons before).symm.trans ht)

/-- **Exact conditions from a step on**: a step of the kind `Q` establishes `P` iff it
meets `C`, and where `P` holds a step keeps it iff it meets `C`. Then `P` holds in
every state of a run behind a step of that kind iff all its steps from there on meet
the condition. -/
theorem seen_iff_meetsFrom {I P : σ → Prop} {Q C : σ → ι → Prop}
    (hfirst : ∀ s c s', Q s c → step s c = .ok s' → I s' ∧ (P s' ↔ C s c))
    (hinv : ∀ s c s', I s → step s c = .ok s' → I s')
    (hiff : ∀ s c s', I s → P s → step s c = .ok s' → (P s' ↔ C s c))
    (h : exec step s calls = .ok s') :
    (∀ before, before <+: calls → Seen step Q s before → ∀ t, exec step s before = .ok t → P t) ↔
      MeetsFrom step Q C s calls := by
  induction calls generalizing s with
  | nil =>
    refine ⟨fun _ => trivial, fun _ before hbefore hseen => ?_⟩
    rw [List.prefix_nil.mp hbefore] at hseen
    exact hseen.elim
  | cons c calls ih =>
    obtain ⟨s₁, hc, hrest⟩ := exec_cons_eq_ok h
    by_cases hQ : Q s c
    · -- The invariant begins here, and the run lemma takes over.
      obtain ⟨hI₁, hP₁⟩ := hfirst s c s₁ hQ hc
      rw [forall_seen_cons_of hQ hc]
      constructor
      · rintro ⟨hPs, hrestP⟩
        refine ⟨fun _ => ⟨hP₁.mp hPs, fun t ht => ?_⟩, fun hne => absurd hQ hne⟩
        rw [hc] at ht
        cases ht
        exact (prefixes_iff_meets hinv hiff hI₁ hPs hrest).mp hrestP
      · rintro ⟨hmeets, -⟩
        obtain ⟨hC, hmeets⟩ := hmeets hQ
        have hPs := hP₁.mpr hC
        exact ⟨hPs, (prefixes_iff_meets hinv hiff hI₁ hPs hrest).mpr (hmeets s₁ hc)⟩
    · rw [forall_seen_cons_of_not hQ hc, ih hrest]
      constructor
      · intro hmeets
        refine ⟨fun hq => absurd hq hQ, fun _ t ht => ?_⟩
        rw [hc] at ht
        cases ht
        exact hmeets
      · rintro ⟨-, hmeets⟩
        exact hmeets hQ s₁ hc

end Run
