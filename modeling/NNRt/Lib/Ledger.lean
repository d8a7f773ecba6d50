import Mathlib.Data.List.Nodup
import Mathlib.Logic.Function.Basic
import Mathlib.Logic.Relation

/-!
# Ledgers

Handles that are acquired, used and released, and places that name them. A
ledger is the log of what has happened to the handles together with the handle
each place names.

- `Step`: acquire a fresh handle for a free place, use or release the handle of
  a place, move a handle to a free place.
- `Abandons`: a handle is released, and its place goes on naming it.
- `Sound`: the named handles are live, and the log never used or released a
  handle that was not.
- `Steps.sound_iff`, `Abandons.not_sound`: **steps neither lose soundness nor
  bring it back; abandoning a handle loses it.**
- `Holds`: the handles that are live after a clean log, without places that name them.
-/

namespace Ledger

/-- What happens to a handle. -/
inductive Event
  | acquire (h : Nat)
  | use (h : Nat)
  | release (h : Nat)
  deriving DecidableEq, Repr

abbrev Log := List Event

/-- A handle is acquired and not released. -/
def Live (log : Log) (h : Nat) : Prop :=
  .acquire h ∈ log ∧ .release h ∉ log

/-- What may happen after a log. -/
def Legal (log : Log) : Event → Prop
  | .acquire h => .acquire h ∉ log
  | .use h => Live log h
  | .release h => Live log h

/-- Everything was legal when it happened. -/
def Clean (log : Log) : Prop :=
  ∀ before e after, log = before ++ e :: after → Legal before e

theorem clean_nil : Clean [] := by
  intro before e after h
  simp at h

theorem clean_append_singleton {log : Log} {e : Event} :
    Clean (log ++ [e]) ↔ Clean log ∧ Legal log e := by
  constructor
  · intro h
    refine ⟨fun before e' after heq => ?_, h log e [] rfl⟩
    apply h before e' (after ++ [e])
    rw [heq, List.append_assoc, List.cons_append]
  · rintro ⟨hclean, hlegal⟩ before e' after heq
    rcases List.eq_nil_or_concat after with rfl | ⟨after', x, rfl⟩
    · obtain ⟨rfl, he⟩ := List.append_inj' heq rfl
      cases he
      exact hlegal
    · rw [List.concat_eq_append, ← List.cons_append, ← List.append_assoc] at heq
      obtain ⟨rfl, -⟩ := List.append_inj' heq rfl
      exact hclean before e' after' rfl

/-- The part of a clean log up to some point is clean. -/
theorem Clean.of_append {log events : Log} (h : Clean (log ++ events)) : Clean log := by
  intro before e after heq
  apply h before e (after ++ events)
  rw [heq, List.append_assoc, List.cons_append]

/-- Places and the handles they name, after a log. -/
structure State (σ : Type*) where
  own : σ → Option Nat
  log : Log

section

variable {σ : Type*} {s s' : State σ}

/-- A handle is released, and its place goes on naming it. -/
def Abandons (s s' : State σ) : Prop :=
  ∃ p h, s.own p = some h ∧ s' = ⟨s.own, s.log ++ [.release h]⟩

/-- What holds whether or not handles are abandoned. -/
structure Named (s : State σ) : Prop where
  acquired : ∀ p h, s.own p = some h → .acquire h ∈ s.log
  distinct : ∀ p q h, s.own p = some h → s.own q = some h → p = q

/-- Every named handle is live, and the log is clean. -/
structure Sound (s : State σ) : Prop where
  live : ∀ p h, s.own p = some h → Live s.log h
  clean : Clean s.log

theorem Named.abandons (hn : Named s) (habandons : Abandons s s') : Named s' := by
  obtain ⟨p, h, hp, rfl⟩ := habandons
  exact ⟨fun q h' hq => List.mem_append_left _ (hn.acquired q h' hq), hn.distinct⟩

/-- **An abandoned handle is not live any more.** -/
theorem Abandons.not_sound (habandons : Abandons s s') : ¬ Sound s' := by
  obtain ⟨p, h, hp, rfl⟩ := habandons
  intro hs'
  exact (hs'.live p h hp).2 (List.mem_append_right _ List.mem_cons_self)

end

variable {σ : Type*} [DecidableEq σ] {s s' : State σ} {p q : σ} {h : Nat}

/-- One step that keeps track of the handles. -/
inductive Step : State σ → State σ → Prop
  /-- The handle is fresh. -/
  | acquire {s : State σ} (p : σ) (h : Nat) (hp : s.own p = none) (hh : .acquire h ∉ s.log) :
    Step s ⟨Function.update s.own p (some h), s.log ++ [.acquire h]⟩
  | use {s : State σ} (p : σ) (h : Nat) (hp : s.own p = some h) :
    Step s ⟨s.own, s.log ++ [.use h]⟩
  | release {s : State σ} (p : σ) (h : Nat) (hp : s.own p = some h) :
    Step s ⟨Function.update s.own p none, s.log ++ [.release h]⟩
  | move {s : State σ} (p q : σ) (h : Nat) (hp : s.own p = some h) (hq : s.own q = none) :
    Step s ⟨Function.update (Function.update s.own p none) q (some h), s.log⟩

/-- Any number of steps. -/
abbrev Steps : State σ → State σ → Prop :=
  Relation.ReflTransGen Step

/-- Who names a handle after one place has changed. -/
theorem update_eq_some {own : σ → Option Nat} {v : Option Nat}
    (hq : Function.update own p v q = some h) :
    q = p ∧ v = some h ∨ q ≠ p ∧ own q = some h := by
  by_cases hqp : q = p
  · subst hqp
    rw [Function.update_self] at hq
    exact Or.inl ⟨rfl, hq⟩
  · rw [Function.update_of_ne hqp] at hq
    exact Or.inr ⟨hqp, hq⟩

/-- Who names a handle after it has moved. -/
theorem move_eq_some {own : σ → Option Nat} {r : σ} {h' : Nat}
    (hr : Function.update (Function.update own p none) q (some h) r = some h') :
    r = q ∧ h' = h ∨ r ≠ p ∧ own r = some h' := by
  rcases update_eq_some hr with ⟨rfl, heq⟩ | ⟨-, hr⟩
  · exact Or.inl ⟨rfl, (Option.some.inj heq).symm⟩
  · rcases update_eq_some hr with ⟨-, heq⟩ | hr
    · cases heq
    · exact Or.inr hr

theorem Named.step (hn : Named s) (hstep : Step s s') : Named s' := by
  cases hstep with
  | acquire p h hp hh =>
    have hfresh : ∀ q, s.own q ≠ some h := fun q hq => hh (hn.acquired q h hq)
    constructor
    · intro q h' hq
      rcases update_eq_some hq with ⟨-, heq⟩ | ⟨-, hq'⟩
      · cases heq
        exact List.mem_append_right _ List.mem_cons_self
      · exact List.mem_append_left _ (hn.acquired q h' hq')
    · intro q r h' hq hr
      rcases update_eq_some hq with ⟨hqp, heq⟩ | ⟨-, hq'⟩ <;>
        rcases update_eq_some hr with ⟨hrp, heq'⟩ | ⟨-, hr'⟩
      · rw [hqp, hrp]
      · cases heq
        exact absurd hr' (hfresh r)
      · cases heq'
        exact absurd hq' (hfresh q)
      · exact hn.distinct q r h' hq' hr'
  | use p h hp =>
    exact ⟨fun q h' hq => List.mem_append_left _ (hn.acquired q h' hq), hn.distinct⟩
  | release p h hp =>
    have hold : ∀ q h', Function.update s.own p none q = some h' → s.own q = some h' := by
      intro q h' hq
      rcases update_eq_some hq with ⟨-, heq⟩ | ⟨-, hq⟩
      · cases heq
      · exact hq
    refine ⟨fun q h' hq => List.mem_append_left _ (hn.acquired q h' (hold q h' hq)), ?_⟩
    intro q r h' hq hr
    exact hn.distinct q r h' (hold q h' hq) (hold r h' hr)
  | move p q h hp hq =>
    constructor
    · intro r h' hr
      rcases move_eq_some hr with ⟨-, rfl⟩ | ⟨-, hr⟩
      · exact hn.acquired p h' hp
      · exact hn.acquired r h' hr
    · intro r t h' hr ht
      rcases move_eq_some hr with ⟨hrq, rfl⟩ | ⟨hrp, hr'⟩ <;>
        rcases move_eq_some ht with ⟨htq, hh⟩ | ⟨htp, ht'⟩
      · rw [hrq, htq]
      · exact absurd (hn.distinct t p h' ht' hp) htp
      · rw [hh] at hr'
        exact absurd (hn.distinct r p h hr' hp) hrp
      · exact hn.distinct r t h' hr' ht'

theorem Named.steps (hn : Named s) (hsteps : Steps s s') : Named s' := by
  induction hsteps with
  | refl => exact hn
  | tail _ hstep ih => exact ih.step hstep

/-- Steps only add to the log. -/
theorem Step.prefix (hstep : Step s s') : s.log <+: s'.log := by
  cases hstep with
  | move p q h hp hq => exact List.prefix_rfl
  | _ => exact List.prefix_append _ _

theorem Steps.prefix (hsteps : Steps s s') : s.log <+: s'.log := by
  induction hsteps with
  | refl => exact List.prefix_rfl
  | tail _ hstep ih => exact ih.trans hstep.prefix

/-- A released handle was acquired before. -/
theorem Clean.acquire_mem {log : Log} {h : Nat} (hclean : Clean log) (hmem : .release h ∈ log) :
    .acquire h ∈ log := by
  obtain ⟨before, after, rfl⟩ := List.append_of_mem hmem
  have hlive : Live before h := hclean before (.release h) after rfl
  exact List.mem_append_left _ hlive.1

/-- A step keeps soundness. -/
theorem Sound.step (hs : Sound s) (hn : Named s) (hstep : Step s s') : Sound s' := by
  have hn' := hn.step hstep
  cases hstep with
  | acquire p h hp hh =>
    refine ⟨fun q h' hq => ⟨hn'.acquired q h' hq, ?_⟩,
      clean_append_singleton.mpr ⟨hs.clean, hh⟩⟩
    intro hmem
    have hreleased : Event.release h' ∈ s.log := by simpa using hmem
    rcases update_eq_some hq with ⟨-, heq⟩ | ⟨-, hq⟩
    · cases heq
      exact hh (hs.clean.acquire_mem hreleased)
    · exact (hs.live q h' hq).2 hreleased
  | use p h hp =>
    refine ⟨fun q h' hq => ⟨hn'.acquired q h' hq, ?_⟩,
      clean_append_singleton.mpr ⟨hs.clean, hs.live p h hp⟩⟩
    intro hmem
    exact (hs.live q h' hq).2 (by simpa using hmem)
  | release p h hp =>
    refine ⟨fun q h' hq => ⟨hn'.acquired q h' hq, ?_⟩,
      clean_append_singleton.mpr ⟨hs.clean, hs.live p h hp⟩⟩
    intro hmem
    rcases update_eq_some hq with ⟨-, heq⟩ | ⟨hqp, hq⟩
    · cases heq
    · rcases List.mem_append.mp hmem with hmem | hmem
      · exact (hs.live q h' hq).2 hmem
      · have hh : h' = h := by simpa using hmem
        rw [hh] at hq
        exact hqp (hn.distinct q p h hq hp)
  | move p q h hp hq =>
    refine ⟨fun r h' hr => ?_, hs.clean⟩
    rcases move_eq_some hr with ⟨-, hh⟩ | ⟨-, hr'⟩
    · rw [hh]
      exact hs.live p h hp
    · exact hs.live r h' hr'

/-- A step does not bring soundness back. -/
theorem Sound.of_step (hs' : Sound s') (hn : Named s) (hstep : Step s s') : Sound s := by
  have hprefix := hstep.prefix
  have hclean : Clean s.log := by
    obtain ⟨events, heq⟩ := hprefix
    have hclean' := hs'.clean
    rw [← heq] at hclean'
    exact hclean'.of_append
  refine ⟨fun r h' hr => ⟨hn.acquired r h' hr, fun hmem => ?_⟩, hclean⟩
  -- The released handle is still named, or it is released once more.
  have hmem' : Event.release h' ∈ s'.log := hprefix.subset hmem
  cases hstep with
  | acquire p h hp hh =>
    have hrp : r ≠ p := by
      rintro rfl
      rw [hp] at hr
      cases hr
    have hr' : Function.update s.own p (some h) r = some h' := by
      rw [Function.update_of_ne hrp, hr]
    exact (hs'.live r h' hr').2 hmem'
  | use p h hp => exact (hs'.live r h' hr).2 hmem'
  | release p h hp =>
    by_cases hrp : r = p
    · subst hrp
      rw [hp] at hr
      cases hr
      exact (clean_append_singleton.mp hs'.clean).2.2 hmem
    · have hr' : Function.update s.own p none r = some h' := by
        rw [Function.update_of_ne hrp, hr]
      exact (hs'.live r h' hr').2 hmem'
  | move p q h hp hq =>
    have hrq : r ≠ q := by
      rintro rfl
      rw [hq] at hr
      cases hr
    by_cases hrp : r = p
    · subst hrp
      rw [hp] at hr
      cases hr
      have hq' : Function.update (Function.update s.own r none) q (some h') q = some h' :=
        Function.update_self ..
      exact (hs'.live q h' hq').2 hmem'
    · have hr' : Function.update (Function.update s.own p none) q (some h) r = some h' := by
        rw [Function.update_of_ne hrq, Function.update_of_ne hrp, hr]
      exact (hs'.live r h' hr').2 hmem'

/-- **Steps neither lose soundness nor bring it back.** -/
theorem Steps.sound_iff (hn : Named s) (hsteps : Steps s s') : Sound s' ↔ Sound s := by
  induction hsteps with
  | refl => exact Iff.rfl
  | tail hsteps hstep ih =>
    have hmid := hn.steps hsteps
    rw [← ih]
    exact ⟨fun hs' => hs'.of_step hmid hstep, fun hs => hs.step hmid hstep⟩

/-- Using the handles of a list of places, one after the other. -/
theorem steps_use (s : State σ) (hs : List Nat) (hnamed : ∀ h ∈ hs, ∃ p, s.own p = some h) :
    Steps s ⟨s.own, s.log ++ hs.map .use⟩ := by
  induction hs generalizing s with
  | nil => rw [List.map_nil, List.append_nil]
  | cons h hs ih =>
    obtain ⟨p, hp⟩ := hnamed h List.mem_cons_self
    have hrest := ih ⟨s.own, s.log ++ [.use h]⟩
      fun h' hh' => hnamed h' (List.mem_cons_of_mem _ hh')
    exact .head (.use p h hp) (by simpa using hrest)

/-- Releasing the handle of a place, if it names one. -/
theorem steps_clear (s : State σ) (p : σ) :
    Steps s ⟨Function.update s.own p none, s.log ++ (s.own p).toList.map .release⟩ := by
  cases hp : s.own p with
  | none =>
    have hsame : Function.update s.own p none = s.own := by
      rw [← hp, Function.update_eq_self]
    rw [hsame, Option.toList_none, List.map_nil, List.append_nil]
  | some h => exact .single (.release p h hp)

section Fresh

variable {own : σ → Option Nat} {log : Log} {hand : σ}

/-- A fresh handle comes to a free place and is used there. -/
theorem steps_acquire_use (hhand : own hand = none) (hfresh : .acquire h ∉ log) (hs : List Nat)
    (hhs : ∀ x ∈ hs, x = h) :
    Steps ⟨own, log⟩ ⟨Function.update own hand (some h), log ++ [.acquire h] ++ hs.map .use⟩ := by
  have hacquire : Step ⟨own, log⟩ ⟨Function.update own hand (some h), log ++ [.acquire h]⟩ :=
    .acquire hand h hhand hfresh
  refine .head hacquire (steps_use _ hs fun x hx => ⟨hand, ?_⟩)
  rw [hhs x hx]
  exact Function.update_self ..

/-- A fresh handle that is released again. -/
theorem steps_discard (hhand : own hand = none) (hfresh : .acquire h ∉ log) (hs : List Nat)
    (hhs : ∀ x ∈ hs, x = h) :
    Steps ⟨own, log⟩ ⟨own, log ++ [.acquire h] ++ hs.map .use ++ [.release h]⟩ := by
  have hrelease : Step ⟨Function.update own hand (some h), log ++ [.acquire h] ++ hs.map .use⟩
      ⟨Function.update (Function.update own hand (some h)) hand none,
        log ++ [.acquire h] ++ hs.map .use ++ [.release h]⟩ :=
    .release hand h (Function.update_self ..)
  have hback : Function.update (Function.update own hand (some h)) hand none = own := by
    rw [Function.update_idem, ← hhand, Function.update_eq_self]
  rw [hback] at hrelease
  exact (steps_acquire_use hhand hfresh hs hhs).tail hrelease

/-- A fresh handle takes the place of another, which is released. -/
theorem steps_replace (hne : hand ≠ p) (hhand : own hand = none) (hfresh : .acquire h ∉ log)
    (hs : List Nat) (hhs : ∀ x ∈ hs, x = h) :
    Steps ⟨own, log⟩ ⟨Function.update own p (some h),
      log ++ [.acquire h] ++ hs.map .use ++ (own p).toList.map .release⟩ := by
  have hother : Function.update own hand (some h) p = own p :=
    Function.update_of_ne hne.symm _ _
  have hclear : Steps ⟨Function.update own hand (some h), log ++ [.acquire h] ++ hs.map .use⟩
      ⟨Function.update (Function.update own hand (some h)) p none,
        log ++ [.acquire h] ++ hs.map .use ++ (own p).toList.map .release⟩ := by
    rw [← hother]
    exact steps_clear ⟨Function.update own hand (some h), _⟩ p
  have hmove : Step ⟨Function.update (Function.update own hand (some h)) p none,
        log ++ [.acquire h] ++ hs.map .use ++ (own p).toList.map .release⟩
      ⟨Function.update (Function.update (Function.update (Function.update own hand (some h)) p none)
        hand none) p (some h),
        log ++ [.acquire h] ++ hs.map .use ++ (own p).toList.map .release⟩ := by
    refine .move hand p h ?_ (Function.update_self ..)
    show Function.update (Function.update own hand (some h)) p none hand = some h
    rw [Function.update_of_ne hne, Function.update_self]
  have hmoved : Function.update (Function.update (Function.update (Function.update own hand (some h))
      p none) hand none) p (some h) = Function.update own p (some h) := by
    funext q
    by_cases hqp : q = p
    · subst hqp
      rw [Function.update_self, Function.update_self]
    rw [Function.update_of_ne hqp, Function.update_of_ne hqp]
    by_cases hqh : q = hand
    · subst hqh
      rw [Function.update_self, hhand]
    · rw [Function.update_of_ne hqh, Function.update_of_ne hqp, Function.update_of_ne hqh]
  rw [hmoved] at hmove
  exact ((steps_acquire_use hhand hfresh hs hhs).trans hclear).tail hmove

end Fresh

/-! ## What is held -/

section Holds

variable {log : Log} {handles before after : List Nat}

/-- After a clean log exactly these handles are live. -/
structure Holds (log : Log) (handles : List Nat) : Prop where
  clean : Clean log
  nodup : handles.Nodup
  live_iff : ∀ h, Live log h ↔ h ∈ handles

theorem holds_nil : Holds [] [] where
  clean := clean_nil
  nodup := List.nodup_nil
  live_iff _ := iff_of_false (fun hlive => List.not_mem_nil hlive.1) List.not_mem_nil

/-- A fresh handle is held too. -/
theorem Holds.acquire (hholds : Holds log handles) (hfresh : .acquire h ∉ log) :
    Holds (log ++ [.acquire h]) (handles ++ [h]) where
  clean := clean_append_singleton.mpr ⟨hholds.clean, hfresh⟩
  nodup := by
    refine List.nodup_append.mpr ⟨hholds.nodup, List.nodup_singleton h, fun x hx y hy heq => ?_⟩
    obtain rfl : y = h := List.mem_singleton.mp hy
    exact hfresh (heq ▸ ((hholds.live_iff x).mpr hx).1)
  live_iff x := by
    have hreleased : .release h ∉ log := fun hmem => hfresh (hholds.clean.acquire_mem hmem)
    have hlive := hholds.live_iff x
    unfold Live at hlive ⊢
    simp only [List.mem_append, List.mem_singleton, Event.acquire.injEq, reduceCtorEq, or_false]
    constructor
    · rintro ⟨hacquired | rfl, hnot⟩
      · exact Or.inl (hlive.mp ⟨hacquired, hnot⟩)
      · exact Or.inr rfl
    · rintro (hx | rfl)
      · exact ⟨Or.inl (hlive.mpr hx).1, (hlive.mpr hx).2⟩
      · exact ⟨Or.inr rfl, hreleased⟩

/-- A handle that is held is released. -/
theorem Holds.release (hholds : Holds log (before ++ h :: after)) :
    Holds (log ++ [.release h]) (before ++ after) where
  clean := by
    refine clean_append_singleton.mpr ⟨hholds.clean, (hholds.live_iff h).mpr ?_⟩
    exact List.mem_append_right _ List.mem_cons_self
  nodup := (List.nodup_middle.mp hholds.nodup).of_cons
  live_iff x := by
    have hnot := (List.nodup_cons.mp (List.nodup_middle.mp hholds.nodup)).1
    have hlive := hholds.live_iff x
    unfold Live at hlive ⊢
    simp only [List.mem_append, List.mem_cons, List.not_mem_nil, Event.release.injEq,
      reduceCtorEq, or_false, not_or] at hlive hnot ⊢
    constructor
    · rintro ⟨hacquired, hreleased, hne⟩
      rcases hlive.mp ⟨hacquired, hreleased⟩ with hx | hx | hx
      · exact Or.inl hx
      · exact absurd hx hne
      · exact Or.inr hx
    · intro hx
      have hheld : x ∈ before ∨ x = h ∨ x ∈ after := hx.imp_right Or.inr
      refine ⟨(hlive.mpr hheld).1, (hlive.mpr hheld).2, ?_⟩
      rintro rfl
      exact hx.elim hnot.1 hnot.2

/-- All that is held is released. -/
theorem Holds.releaseAll (hholds : Holds log handles) :
    Holds (log ++ handles.map .release) [] := by
  induction handles generalizing log with
  | nil => rwa [List.map_nil, List.append_nil]
  | cons h handles ih =>
    have hfirst := ih (List.nil_append handles ▸ @Holds.release _ _ [] handles hholds)
    rwa [List.append_assoc, List.singleton_append, ← List.map_cons] at hfirst

/-- A log that holds something does not hold nothing. -/
theorem Holds.eq_nil (hholds : Holds log handles) (hnone : Holds log []) : handles = [] := by
  refine List.eq_nil_iff_forall_not_mem.mpr fun h hmem => ?_
  exact List.not_mem_nil ((hnone.live_iff h).mp ((hholds.live_iff h).mpr hmem))

end Holds

end Ledger
