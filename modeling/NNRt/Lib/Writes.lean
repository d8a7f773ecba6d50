import Mathlib.Data.List.Forall2
import Mathlib.Data.List.Perm.Basic

/-!
# Loops of writes

A loop reads the items of a list one after the other and writes what each says into a
state. An item that says nothing ends the loop, and so may a write.

- `run_total_iff`: with writes that all succeed, the loop is a reading of all the items
  and then the writes.
- `run_perm`: writes that commute may come in any order, also when some are refused.
- `foldl_perm_iff`: writes may come in any order exactly if no two of them clash.
- `run_perm_iff`: **when the items of the loop may be read in any order.**
-/

namespace Writes

universe u

variable {τ ε : Type*} {α σ : Type u}

/-- The loop. -/
def run (read : τ → Except ε α) (write : σ → α → Except ε σ) : σ → List τ → Except ε σ
  | s, [] => .ok s
  | s, t :: ts => do
    let s ← write s (← read t)
    run read write s ts

section Read

variable {read : τ → Except ε α} {write : σ → α → Except ε σ} {put : σ → α → σ}

theorem run_cons (s : σ) (t : τ) (ts : List τ) :
    run read write s (t :: ts) = ((read t >>= write s) >>= fun s' => run read write s' ts) := by
  show (read t >>= fun a => write s a >>= fun s' => run read write s' ts) = _
  cases read t with
  | error e => rfl
  | ok a => rfl

/-- Only what the items say counts. -/
theorem run_congr {ts us : List τ} (h : ts.map read = us.map read) (s : σ) :
    run read write s ts = run read write s us := by
  induction ts generalizing s us with
  | nil =>
    cases us with
    | nil => rfl
    | cons u us => cases h
  | cons t ts ih =>
    cases us with
    | nil => cases h
    | cons u us =>
      obtain ⟨hread, hrest⟩ := List.cons.inj h
      rw [run_cons, run_cons, hread]
      exact congrArg _ (funext fun s' => ih hrest s')

/-- An item that says nothing ends the loop if it is reached. -/
theorem run_cons_error {t : τ} {e : ε} (h : read t = .error e) (s : σ) (ts : List τ) :
    run read write s (t :: ts) = .error e := by
  rw [run_cons, h]
  rfl

/-- One item, and the rest. -/
theorem run_cons_put {t : τ} {a : α} (h : read t = .ok a) (s : σ) (ts : List τ) :
    run read (fun s a => .ok (put s a)) s (t :: ts) =
      run read (fun s a => .ok (put s a)) (put s a) ts := by
  rw [run_cons, h]
  rfl

/-- **The loop, with writes that all succeed**: it gets through if all the items can be
read, and then does all the writes. -/
theorem run_total_iff {s s' : σ} {ts : List τ} :
    run read (fun s a => .ok (put s a)) s ts = .ok s' ↔
      ∃ as, List.Forall₂ (fun t a => read t = .ok a) ts as ∧ s' = as.foldl put s := by
  induction ts generalizing s with
  | nil =>
    constructor
    · intro h
      cases h
      exact ⟨[], .nil, rfl⟩
    · rintro ⟨as, has, rfl⟩
      cases has
      rfl
  | cons t ts ih =>
    cases ht : read t with
    | error e =>
      rw [run_cons_error ht]
      refine iff_of_false nofun ?_
      rintro ⟨as, has, -⟩
      cases has with
      | cons ha _ => cases ht.symm.trans ha
    | ok a =>
      rw [run_cons_put ht, ih]
      constructor
      · rintro ⟨as, has, rfl⟩
        exact ⟨a :: as, .cons ht has, rfl⟩
      · rintro ⟨_, has, rfl⟩
        cases has with
        | cons hb has =>
          cases ht.symm.trans hb
          exact ⟨_, has, rfl⟩

/-- It does not get through with an item that cannot be read; the first one decides. -/
theorem run_total_error_iff {s : σ} {ts : List τ} {e : ε} :
    run read (fun s a => .ok (put s a)) s ts = .error e ↔
      ∃ before t after as, ts = before ++ t :: after ∧
        List.Forall₂ (fun t a => read t = .ok a) before as ∧ read t = .error e := by
  induction ts generalizing s with
  | nil =>
    refine iff_of_false nofun ?_
    rintro ⟨before, t, after, as, heq, -⟩
    cases before <;> cases heq
  | cons t ts ih =>
    cases ht : read t with
    | error e' =>
      rw [run_cons_error ht]
      constructor
      · intro h
        cases h
        exact ⟨[], t, ts, [], rfl, .nil, ht⟩
      · rintro ⟨before, u, after, as, heq, has, hu⟩
        cases has with
        | nil =>
          cases heq
          cases ht.symm.trans hu
          rfl
        | cons ha _ =>
          cases heq
          cases ht.symm.trans ha
    | ok a =>
      rw [run_cons_put ht, ih]
      constructor
      · rintro ⟨before, u, after, as, rfl, has, hu⟩
        exact ⟨t :: before, u, after, a :: as, rfl, .cons ht has, hu⟩
      · rintro ⟨before, u, after, as, heq, has, hu⟩
        cases has with
        | nil =>
          cases heq
          cases ht.symm.trans hu
        | cons _ has =>
          cases heq
          exact ⟨_, u, after, _, rfl, has, hu⟩

end Read

/-- A field that some items write holds what the last of them has written. -/
theorem foldl_field {β : Type*} {put : σ → α → σ} {get : σ → β} {value : α → Option β}
    (h : ∀ s a, get (put s a) = (value a).getD (get s)) (s : σ) (as : List α) :
    get (as.foldl put s) = (as.filterMap value).getLastD (get s) := by
  induction as generalizing s with
  | nil => rfl
  | cons a as ih =>
    rw [List.foldl_cons, ih, h]
    cases ha : value a with
    | none => rw [List.filterMap_cons_none ha, Option.getD_none]
    | some b => rw [List.filterMap_cons_some ha, List.getLastD_cons, Option.getD_some]

/-! ## Orders -/

/-- **Writes that commute** may come in any order. Two writes are only asked to commute
where both are `Fresh`, and stay so after writes they go together with. -/
theorem run_perm (write : σ → α → Except ε σ) (R : α → α → Prop) (Fresh : σ → α → Prop)
    (hsymm : ∀ {a b}, R a b → R b a)
    (hcomm : ∀ {s a b}, R a b → Fresh s a → Fresh s b →
      (write s a >>= (write · b)) = (write s b >>= (write · a)))
    (hfresh : ∀ {s s' a b}, R a b → Fresh s b → write s a = .ok s' → Fresh s' b)
    {l l' : List α} (h : l.Perm l') {s : σ} (hR : l.Pairwise R) (hs : ∀ a ∈ l, Fresh s a) :
    run .ok write s l = run .ok write s l' := by
  induction h generalizing s with
  | nil => rfl
  | cons a _ ih =>
    obtain ⟨ha, hl⟩ := List.pairwise_cons.mp hR
    rw [run_cons, run_cons]
    show (write s a >>= _) = (write s a >>= _)
    cases hwrite : write s a with
    | error e => rfl
    | ok s' =>
      refine ih hl fun b hb => ?_
      exact hfresh (ha b hb) (hs b (List.mem_cons_of_mem a hb)) hwrite
  | swap a b l =>
    obtain ⟨hb, -⟩ := List.pairwise_cons.mp hR
    have hcomm := hcomm (hb a List.mem_cons_self) (hs b List.mem_cons_self)
      (hs a (List.mem_cons_of_mem b List.mem_cons_self))
    have htwo : ∀ a b, run .ok write s (a :: b :: l) =
        ((write s a >>= (write · b)) >>= fun s' => run .ok write s' l) := by
      intro a b
      rw [run_cons]
      show (write s a >>= _) = _
      cases write s a with
      | error e => rfl
      | ok s' => rfl
    rw [htwo, htwo, hcomm]
  | trans hl _ ih₁ ih₂ =>
    rw [ih₁ hR hs, ih₂ ((hl.pairwise_iff hsymm).mp hR) fun a ha => hs a (hl.mem_iff.mpr ha)]

/-- Reading an item is part of writing it. -/
theorem run_eq_run_ok {τ : Type u} {read : τ → Except ε α} {write : σ → α → Except ε σ} (s : σ)
    (l : List τ) :
    run read write s l = run .ok (fun s t => read t >>= write s) s l := by
  induction l generalizing s with
  | nil => rfl
  | cons t l ih =>
    rw [run_cons, run_cons]
    exact congrArg _ (funext ih)

/-- **The items may come in any order** if there is one way only to stop, for reading and
writing, and the writes commute. -/
theorem run_perm_of_read {τ : Type u} {read : τ → Except ε α} {write : σ → α → Except ε σ} {e : ε}
    (Apart : α → α → Prop) (Fresh : σ → α → Prop) (hsymm : ∀ {a b}, Apart a b → Apart b a)
    (hcomm : ∀ {s a b}, Apart a b → Fresh s a → Fresh s b →
      (write s a >>= (write · b)) = (write s b >>= (write · a)))
    (hfresh : ∀ {s s' a b}, Apart a b → Fresh s b → write s a = .ok s' → Fresh s' b)
    (hwrite : ∀ s a e', write s a = .error e' → e' = e) {l l' : List τ} (h : l.Perm l') {s : σ}
    (hread : ∀ t ∈ l, ∀ e', read t = .error e' → e' = e)
    (hapart : l.Pairwise fun t u => ∀ a b, read t = .ok a → read u = .ok b → Apart a b)
    (hs : ∀ t ∈ l, ∀ a, read t = .ok a → Fresh s a) :
    run read write s l = run read write s l' := by
  have hstops : ∀ {x : Except ε σ}, (∀ e', x = .error e' → e' = e) →
      (x >>= fun _ => (.error e : Except ε σ)) = .error e := by
    intro x hx
    cases x with
    | error e₁ => exact congrArg _ (hx e₁ rfl)
    | ok s => rfl
  rw [run_eq_run_ok s l, run_eq_run_ok s l']
  refine run_perm (fun s t => read t >>= write s)
    (fun t u => (∀ e', read t = .error e' → e' = e) ∧ (∀ e', read u = .error e' → e' = e) ∧
      ∀ a b, read t = .ok a → read u = .ok b → Apart a b)
    (fun s t => ∀ a, read t = .ok a → Fresh s a)
    (fun h => ⟨h.2.1, h.1, fun a b ha hb => hsymm (h.2.2 b a hb ha)⟩) ?_ ?_ h ?_ hs
  · rintro s t u ⟨ht, hu, htu⟩ hst hsu
    cases hta : read t with
    | error e' =>
      -- Either order stops, and in the one way there is.
      rw [ht e' hta]
      refine (Eq.symm ?_ : Except.error e = _)
      cases hub : read u with
      | error e'' => exact congrArg _ (hu e'' hub)
      | ok b => exact hstops (hwrite s b)
    | ok a =>
      cases hub : read u with
      | error e' =>
        rw [hu e' hub]
        exact hstops (hwrite s a)
      | ok b => exact hcomm (htu a b hta hub) (hst a hta) (hsu b hub)
  · rintro s s' t u ⟨-, -, htu⟩ hsu hwrite b hub
    cases hta : read t with
    | error e' =>
      rw [hta] at hwrite
      cases hwrite
    | ok a =>
      rw [hta] at hwrite
      exact hfresh (htu a b hta hub) (hsu b hub) hwrite
  · exact hapart.imp_of_mem fun ht hu htu => ⟨hread _ ht, hread _ hu, htu⟩

/-- **When total writes may come in any order**: when no two of them clash. -/
theorem foldl_perm_iff {put : σ → α → σ} (Clash : α → α → Prop)
    (hsymm : ∀ {a b}, Clash a b → Clash b a)
    (hcomm : ∀ s {a b}, ¬ Clash a b → put (put s a) b = put (put s b) a)
    (hclash : ∀ s {a b}, Clash a b → put (put s a) b ≠ put (put s b) a)
    {l : List α} {s : σ} :
    (∀ l', l.Perm l' → l'.foldl put s = l.foldl put s) ↔ l.Pairwise fun a b => ¬ Clash a b := by
  constructor
  · intro hall
    rw [List.pairwise_iff_forall_sublist]
    intro a b hab hne
    -- The two writes come last, in one order and in the other.
    obtain ⟨rest, hrest⟩ := hab.exists_perm_append
    have hlast : ∀ a b : α, (rest ++ [a, b]).foldl put s =
        put (put (rest.foldl put s) a) b := fun a b => by rw [List.foldl_append]; rfl
    have hone := hall (rest ++ [a, b]) (hrest.trans List.perm_append_comm)
    have hother := hall (rest ++ [b, a])
      (hrest.trans (List.perm_append_comm.trans ((List.Perm.swap b a []).append_left rest)))
    rw [hlast] at hone hother
    exact hclash _ hne (hone.trans hother.symm)
  · intro hpair l' hperm
    have hrun : ∀ l, run .ok (fun s a => (.ok (put s a) : Except Unit σ)) s l =
        .ok (l.foldl put s) := by
      intro l
      refine run_total_iff.mpr ⟨l, ?_, rfl⟩
      exact List.forall₂_same.mpr fun _ _ => rfl
    have horder := run_perm (fun s a => (.ok (put s a) : Except Unit σ)) _ (fun _ _ => True)
      (fun h hab => h (hsymm hab))
      (fun {s} a b h _ _ => congrArg Except.ok (hcomm s h)) (fun _ _ _ => trivial) hperm
      (s := s) hpair fun _ _ => trivial
    rw [hrun, hrun] at horder
    exact (Except.ok.inj horder).symm

/-- An item that says nothing ends the loop, wherever it is. -/
theorem run_error_of_mem {read : τ → Except ε α} (put : σ → α → σ) {l : List τ} (s : σ)
    (h : ∃ t ∈ l, ∃ e, read t = .error e) :
    ∃ t ∈ l, ∃ e, read t = .error e ∧ run read (fun s a => .ok (put s a)) s l = .error e := by
  induction l generalizing s with
  | nil => exact absurd h (by rintro ⟨t, ht, -⟩; cases ht)
  | cons t l ih =>
    cases ht : read t with
    | error e => exact ⟨t, List.mem_cons_self, e, ht, run_cons_error ht s l⟩
    | ok a =>
      obtain ⟨u, hu, e, he⟩ := h
      rcases List.mem_cons.mp hu with rfl | hu
      · cases ht.symm.trans he
      · obtain ⟨v, hv, e', he', hrun⟩ := ih (put s a) ⟨u, hu, e, he⟩
        exact ⟨v, List.mem_cons_of_mem t hv, e', he', by rw [run_cons_put ht, hrun]⟩

section Seen

variable {τ ν : Type u} {read : τ → Except ε α} {put : σ → α → σ} {view : σ → ν}
  {putView : ν → α → ν}

/-- What an item writes to what can be seen of a state; one that says nothing writes nothing. -/
def putItem (read : τ → Except ε α) (putView : ν → α → ν) (v : ν) (t : τ) : ν :=
  ((read t).toOption.map (putView v)).getD v

theorem putItem_ok {t : τ} {a : α} (h : read t = .ok a) (v : ν) :
    putItem read putView v t = putView v a := by
  unfold putItem
  rw [h]
  rfl

theorem putItem_error {t : τ} {e : ε} (h : read t = .error e) (v : ν) :
    putItem read putView v t = v := by
  unfold putItem
  rw [h]
  rfl

/-- What can be seen after items that all say something. -/
theorem run_view (hview : ∀ s a, view (put s a) = putView (view s) a) {l : List τ}
    (hl : ∀ t ∈ l, ∃ a, read t = .ok a) (s : σ) :
    (run read (fun s a => .ok (put s a)) s l).map view
      = .ok (l.foldl (putItem read putView) (view s)) := by
  induction l generalizing s with
  | nil => rfl
  | cons t l ih =>
    obtain ⟨⟨a, ha⟩, hl⟩ := List.forall_mem_cons.mp hl
    rw [run_cons_put ha, ih hl, hview, List.foldl_cons, putItem_ok ha]

/-- Where items say nothing, the order counts only if they do so in different ways. -/
theorem run_perm_iff_of_error (view : σ → ν) {l : List τ} {s : σ}
    (herror : ∃ t ∈ l, ∃ e, read t = .error e) :
    (∀ l', l.Perm l' → (run read (fun s a => .ok (put s a)) s l').map view =
        (run read (fun s a => .ok (put s a)) s l).map view) ↔
      ∀ t ∈ l, ∀ u ∈ l, ∀ e e', read t = .error e → read u = .error e' → e = e' := by
  constructor
  · -- Each of the items may come first.
    intro hall
    have hfirst : ∀ t ∈ l, ∀ e, read t = .error e →
        (run read (fun s a => .ok (put s a)) s l).map view = .error e := by
      intro t ht e he
      obtain ⟨before, after, rfl⟩ := List.append_of_mem ht
      rw [← hall (t :: (before ++ after)) List.perm_middle, run_cons_error he]
      rfl
    intro t ht u hu e e' he he'
    exact Except.error.inj ((hfirst t ht e he).symm.trans (hfirst u hu e' he'))
  · intro hagree l' hperm
    obtain ⟨t, ht, e, he⟩ := herror
    obtain ⟨u, hu, e₁, he₁, hrun₁⟩ := run_error_of_mem put s ⟨t, ht, e, he⟩
    obtain ⟨v, hv, e₂, he₂, hrun₂⟩ := run_error_of_mem put s ⟨t, hperm.mem_iff.mp ht, e, he⟩
    rw [hrun₁, hrun₂, hagree u hu v (hperm.mem_iff.mpr hv) e₁ e₂ he₁ he₂]

/-- Where all items say something, the order counts only if two of the writes clash. -/
theorem run_perm_iff_of_ok {Clash : α → α → Prop}
    (hview : ∀ s a, view (put s a) = putView (view s) a)
    (hsymm : ∀ {a b}, Clash a b → Clash b a)
    (hcomm : ∀ v {a b}, ¬ Clash a b → putView (putView v a) b = putView (putView v b) a)
    (hclash : ∀ v {a b}, Clash a b → putView (putView v a) b ≠ putView (putView v b) a)
    {l : List τ} {s : σ} (hread : ∀ t ∈ l, ∃ a, read t = .ok a) :
    (∀ l', l.Perm l' → (run read (fun s a => .ok (put s a)) s l').map view =
        (run read (fun s a => .ok (put s a)) s l).map view) ↔
      l.Pairwise fun t u => ∀ a b, read t = .ok a → read u = .ok b → ¬ Clash a b := by
  have hperm : (∀ l', l.Perm l' → (run read (fun s a => .ok (put s a)) s l').map view =
      (run read (fun s a => .ok (put s a)) s l).map view) ↔
      ∀ l', l.Perm l' → l'.foldl (putItem read putView) (view s)
        = l.foldl (putItem read putView) (view s) := by
    refine forall_congr' fun l' => forall_congr' fun hperm => ?_
    rw [run_view hview fun t ht => hread t (hperm.mem_iff.mpr ht), run_view hview hread]
    exact ⟨Except.ok.inj, congrArg _⟩
  rw [hperm, foldl_perm_iff fun t u => ∃ a b, read t = .ok a ∧ read u = .ok b ∧ Clash a b]
  · refine List.Pairwise.iff fun t u => ?_
    exact ⟨fun h a b ha hb hab => h ⟨a, b, ha, hb, hab⟩,
      fun h ⟨a, b, ha, hb, hab⟩ => h a b ha hb hab⟩
  · rintro t u ⟨a, b, ha, hb, hab⟩
    exact ⟨b, a, hb, ha, hsymm hab⟩
  · intro v t u hno
    cases ht : read t with
    | error e => rw [putItem_error ht, putItem_error ht]
    | ok a =>
      cases hu : read u with
      | error e => rw [putItem_error hu, putItem_error hu]
      | ok b =>
        rw [putItem_ok ht, putItem_ok hu, putItem_ok hu, putItem_ok ht]
        exact hcomm v fun hab => hno ⟨a, b, ht, hu, hab⟩
  · rintro v t u ⟨a, b, ha, hb, hab⟩
    rw [putItem_ok ha, putItem_ok hb, putItem_ok hb, putItem_ok ha]
    exact hclash v hab

end Seen

/-- **When the items may be read in any order**: no two of them say nothing in different
ways, and if all say something, no two of the writes clash. What counts of the state is what
can be seen of it. -/
theorem run_perm_iff {τ ν : Type u} {read : τ → Except ε α} {put : σ → α → σ} {view : σ → ν}
    {putView : ν → α → ν} {Clash : α → α → Prop}
    (hview : ∀ s a, view (put s a) = putView (view s) a)
    (hsymm : ∀ {a b}, Clash a b → Clash b a)
    (hcomm : ∀ v {a b}, ¬ Clash a b → putView (putView v a) b = putView (putView v b) a)
    (hclash : ∀ v {a b}, Clash a b → putView (putView v a) b ≠ putView (putView v b) a)
    {l : List τ} {s : σ} :
    (∀ l', l.Perm l' → (run read (fun s a => .ok (put s a)) s l').map view =
        (run read (fun s a => .ok (put s a)) s l).map view) ↔
      (∀ t ∈ l, ∀ u ∈ l, ∀ e e', read t = .error e → read u = .error e' → e = e') ∧
        ((∃ t ∈ l, ∃ e, read t = .error e) ∨
          l.Pairwise fun t u => ∀ a b, read t = .ok a → read u = .ok b → ¬ Clash a b) := by
  by_cases herror : ∃ t ∈ l, ∃ e, read t = .error e
  · rw [run_perm_iff_of_error view herror, and_iff_left (Or.inl herror)]
  · have hread : ∀ t ∈ l, ∃ a, read t = .ok a := by
      intro t ht
      cases h : read t with
      | ok a => exact ⟨a, rfl⟩
      | error e => exact absurd ⟨t, ht, e, h⟩ herror
    rw [and_iff_right fun t ht u _ e _ he _ => absurd ⟨t, ht, e, he⟩ herror, or_iff_right herror]
    exact run_perm_iff_of_ok hview hsymm hcomm hclash hread

end Writes
