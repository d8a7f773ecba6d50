import Mathlib.Data.List.Basic
import Mathlib.Logic.Basic

/-!
# Programs that ask another party

A `Dialogue` is a program that asks another party and goes on with whatever the
answer is. What it has asked and been answered is its transcript. An automaton
reads transcripts and may reject them: the protocol between the two parties. What is
relied on in an answer may depend on where the automaton is.

- `Obeys`: while the answers are as relied on, nothing is rejected, and what is
  returned is as stated.
- `Reliable`: a party that gives such answers.
- `obeys_bind`: the rule of sequence.
- `Obeys.run`: **the transcript of every run is accepted**.
- `Asking`: dialogues that also keep a state and may stop with an error, and the
  same rules for them.
-/

universe u

/-- A program that asks `Req`s and returns an `α`. -/
inductive Dialogue (Req : Type u) (Ans : Req → Type u) (α : Type u) : Type u
  | ret (a : α)
  | ask (req : Req) (next : Ans req → Dialogue Req Ans α)

namespace Dialogue

variable {Req : Type u} {Ans : Req → Type u} {α β Q : Type u}

/-- What was asked and what was answered. -/
abbrev Exchange (Req : Type u) (Ans : Req → Type u) := Σ req : Req, Ans req

/-- Another party: its answer may depend on what has been said. -/
abbrev Party (Req : Type u) (Ans : Req → Type u) :=
  List (Exchange Req Ans) → (req : Req) → Ans req

protected def bind : Dialogue Req Ans α → (α → Dialogue Req Ans β) → Dialogue Req Ans β
  | .ret a, f => f a
  | .ask req next, f => .ask req fun ans => (next ans).bind f

instance : Monad (Dialogue Req Ans) where
  pure := .ret
  bind := .bind

/-- One run: the transcript, and what is returned. -/
def run (party : Party Req Ans) : Dialogue Req Ans α → List (Exchange Req Ans) × α
  | .ret a => ([], a)
  | .ask req next =>
    let ans := party [] req
    let (said, a) := (next ans).run fun said => party (⟨req, ans⟩ :: said)
    (⟨req, ans⟩ :: said, a)

/-- An automaton reads a transcript; `none` is a rejection. -/
def reads (δ : Q → Exchange Req Ans → Option Q) : Q → List (Exchange Req Ans) → Option Q
  | q, [] => some q
  | q, e :: said => (δ q e).bind fun q => reads δ q said

variable {rely : Q → (req : Req) → Ans req → Prop} {δ : Q → Exchange Req Ans → Option Q}

/-- A transcript is read piece by piece. -/
theorem reads_append (q : Q) (before after : List (Exchange Req Ans)) :
    reads δ q (before ++ after) = (reads δ q before).bind fun q => reads δ q after := by
  induction before generalizing q with
  | nil => rfl
  | cons e before ih =>
    rw [List.cons_append, reads, reads, Option.bind_assoc]
    exact congrArg _ (funext ih)

/-- While the answers are as relied on, the automaton rejects nothing from `q` on, and
`post` holds of what is returned and of where the automaton is then. -/
def Obeys (rely : Q → (req : Req) → Ans req → Prop) (δ : Q → Exchange Req Ans → Option Q)
    (post : α → Q → Prop) : Dialogue Req Ans α → Q → Prop
  | .ret a, q => post a q
  | .ask req next, q =>
    ∀ ans, rely q req ans → ∃ q', δ q ⟨req, ans⟩ = some q' ∧ Obeys rely δ post (next ans) q'

theorem Obeys.mono {post post' : α → Q → Prop} (hpost : ∀ a q, post a q → post' a q)
    {p : Dialogue Req Ans α} {q : Q} (h : Obeys rely δ post p q) : Obeys rely δ post' p q := by
  induction p generalizing q with
  | ret a => exact hpost a q h
  | ask req next ih =>
    intro ans hans
    obtain ⟨q', hq', hnext⟩ := h ans hans
    exact ⟨q', hq', ih ans hnext⟩

/-- **Sequence**: the second program starts where the first one has left the automaton. -/
theorem obeys_bind {post : β → Q → Prop} {p : Dialogue Req Ans α}
    {f : α → Dialogue Req Ans β} {q : Q} :
    Obeys rely δ post (p.bind f) q ↔
      Obeys rely δ (fun a q => Obeys rely δ post (f a) q) p q := by
  induction p generalizing q with
  | ret a => exact Iff.rfl
  | ask req next ih =>
    constructor
    · intro h ans hans
      obtain ⟨q', hq', hnext⟩ := h ans hans
      exact ⟨q', hq', (ih ans).mp hnext⟩
    · intro h ans hans
      obtain ⟨q', hq', hnext⟩ := h ans hans
      exact ⟨q', hq', (ih ans).mpr hnext⟩

/-- The answers are as relied on, as long as the automaton can read what was said. -/
def Reliable (rely : Q → (req : Req) → Ans req → Prop) (δ : Q → Exchange Req Ans → Option Q)
    (q : Q) (party : Party Req Ans) : Prop :=
  ∀ said q', reads δ q said = some q' → ∀ req, rely q' req (party said req)

/-- **The transcript of every run is accepted**, if the party can be relied on. -/
theorem Obeys.run {post : α → Q → Prop} {p : Dialogue Req Ans α} {q : Q}
    (h : Obeys rely δ post p q) {party : Party Req Ans} (hparty : Reliable rely δ q party) :
    ∃ q', reads δ q (p.run party).1 = some q' ∧ post (p.run party).2 q' := by
  induction p generalizing q party with
  | ret a => exact ⟨q, rfl, h⟩
  | ask req next ih =>
    obtain ⟨q₁, hq₁, hnext⟩ := h (party [] req) (hparty [] q rfl req)
    have hrest : Reliable rely δ q₁ fun said => party (⟨req, party [] req⟩ :: said) := by
      intro said q' hreads
      refine hparty (⟨req, party [] req⟩ :: said) q' ?_
      rw [reads, hq₁]
      exact hreads
    obtain ⟨q', hreads, hpost⟩ := ih (party [] req) hnext hrest
    refine ⟨q', ?_, hpost⟩
    rw [Dialogue.run, reads, hq₁]
    exact hreads

end Dialogue

/-! ## With a state and errors -/

/-- A dialogue that keeps a state and may stop with an error. -/
abbrev Asking (Req : Type u) (Ans : Req → Type u) (σ ε : Type u) :=
  StateT σ (ExceptT ε (Dialogue Req Ans))

namespace Asking

open Dialogue (Exchange Party Reliable reads)

variable {Req : Type u} {Ans : Req → Type u} {σ ε α β Q : Type u}

/-- One question. -/
def ask (req : Req) : Asking Req Ans σ ε (Ans req) :=
  fun s => .ask req fun ans => .ret (.ok (ans, s))

/-- One run from a state: the transcript, and the error or the result with the new state. -/
def run (party : Party Req Ans) (m : Asking Req Ans σ ε α) (s : σ) :
    List (Exchange Req Ans) × Except ε (α × σ) :=
  Dialogue.run party (m s)

/-- What is demanded of the end: errors are of the kind `fail`, results are as stated. -/
def Ends (fail : ε → Prop) (post : α → σ → Q → Prop) (out : Except ε (α × σ)) (q : Q) : Prop :=
  match out with
  | .error e => fail e
  | .ok (a, s) => post a s q

/-- While the answers are as relied on, the automaton rejects nothing, an error is of the
kind `fail`, and a result, the state and the automaton are as stated. -/
def Obeys (rely : Q → (req : Req) → Ans req → Prop) (δ : Q → Exchange Req Ans → Option Q)
    (fail : ε → Prop) (post : α → σ → Q → Prop) (m : Asking Req Ans σ ε α) (s : σ) (q : Q) : Prop :=
  Dialogue.Obeys rely δ (Ends fail post) (m s) q

variable {rely : Q → (req : Req) → Ans req → Prop} {δ : Q → Exchange Req Ans → Option Q}
  {fail : ε → Prop} {post : α → σ → Q → Prop} {s : σ} {q : Q}

@[simp] theorem obeys_pure {a : α} :
    Obeys rely δ fail post (pure a : Asking Req Ans σ ε α) s q ↔ post a s q :=
  Iff.rfl

@[simp] theorem obeys_throw {e : ε} :
    Obeys rely δ fail post (throw e : Asking Req Ans σ ε α) s q ↔ fail e :=
  Iff.rfl

@[simp] theorem obeys_get {post : σ → σ → Q → Prop} :
    Obeys rely δ fail post (get : Asking Req Ans σ ε σ) s q ↔ post s s q :=
  Iff.rfl

@[simp] theorem obeys_set {post : PUnit → σ → Q → Prop} {s' : σ} :
    Obeys rely δ fail post (set s' : Asking Req Ans σ ε PUnit) s q ↔ post ⟨⟩ s' q :=
  Iff.rfl

@[simp] theorem obeys_ask {req : Req} {post : Ans req → σ → Q → Prop} :
    Obeys rely δ fail post (ask req : Asking Req Ans σ ε (Ans req)) s q ↔
      ∀ ans, rely q req ans → ∃ q', δ q ⟨req, ans⟩ = some q' ∧ post ans s q' :=
  Iff.rfl

/-- **Sequence.** -/
@[simp] theorem obeys_bind {post : β → σ → Q → Prop} {m : Asking Req Ans σ ε α}
    {f : α → Asking Req Ans σ ε β} :
    Obeys rely δ fail post (m >>= f) s q ↔
      Obeys rely δ fail (fun a s q => Obeys rely δ fail post (f a) s q) m s q := by
  let next : Except ε (α × σ) → Dialogue Req Ans (Except ε (β × σ))
    | .ok (a, s) => f a s
    | .error e => .ret (.error e)
  have hbind : (m >>= f) s = Dialogue.bind (m s) next := by
    refine congrArg (Dialogue.bind (m s)) (funext fun out => ?_)
    cases out with
    | error e => rfl
    | ok p => rfl
  unfold Obeys
  rw [hbind, Dialogue.obeys_bind]
  constructor
  · refine Dialogue.Obeys.mono fun out q h => ?_
    cases out with
    | error e => exact h
    | ok p => exact h
  · refine Dialogue.Obeys.mono fun out q h => ?_
    cases out with
    | error e => exact h
    | ok p => exact h

theorem Obeys.mono {fail fail' : ε → Prop} {post post' : α → σ → Q → Prop}
    {m : Asking Req Ans σ ε α} (hfail : ∀ e, fail e → fail' e)
    (hpost : ∀ a s q, post a s q → post' a s q) (h : Obeys rely δ fail post m s q) :
    Obeys rely δ fail' post' m s q := by
  refine Dialogue.Obeys.mono (fun out q hend => ?_) h
  cases out with
  | error e => exact hfail e hend
  | ok p => exact hpost p.1 p.2 q hend

/-- **Sequence, by a lemma about the first program.** -/
theorem Obeys.bind {mid : α → σ → Q → Prop} {post : β → σ → Q → Prop}
    {m : Asking Req Ans σ ε α} {f : α → Asking Req Ans σ ε β} (hm : Obeys rely δ fail mid m s q)
    (hf : ∀ a s q, mid a s q → Obeys rely δ fail post (f a) s q) :
    Obeys rely δ fail post (m >>= f) s q :=
  obeys_bind.mpr (hm.mono (fun _ => id) hf)

/-- The transcript of every run is accepted, and the run ends as stated. -/
theorem Obeys.run {m : Asking Req Ans σ ε α} (h : Obeys rely δ fail post m s q)
    {party : Party Req Ans} (hparty : Reliable rely δ q party) :
    ∃ q', reads δ q (m.run party s).1 = some q' ∧ Ends fail post (m.run party s).2 q' :=
  Dialogue.Obeys.run h hparty

end Asking
