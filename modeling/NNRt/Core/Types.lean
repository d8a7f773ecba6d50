import Mathlib.Algebra.Order.Ring.Nat
import Mathlib.Data.List.Forall2

/-!
# Return codes, faults and byte strings

What every part of the runtime shares.

- `ReturnCode` is `OH_NN_ReturnCode`.
- `Fault` names what ends a call without a return code: an exception the
  source does not catch, or an access that is undefined behaviour. A modelled
  function that can do this returns `Except Fault _`; a function that cannot
  returns its code directly.
- `Bytes` is the content of a file, of a mapped buffer or of a tensor.
-/

namespace NNRt

/-- `OH_NN_ReturnCode`, in the order of the header. -/
inductive ReturnCode
  | success
  | failed
  | invalidParameter
  | memoryError
  | operationForbidden
  | nullPtr
  | invalidFile
  | unavalidableDevice
  | invalidPath
  | timeout
  | unsupported
  | connectionException
  | saveCacheException
  | dynamicShape
  | unavailableDevice
  deriving DecidableEq, Repr

/-- The pointers whose null state the model tracks. -/
inductive Pointer
  | preparedModel
  | executorConfig
  | autoUnloadHandler
  | tensor
  | tensorDesc
  | buffer
  | attribute
  deriving DecidableEq, Repr

/-- What ends a call without a return code. -/
inductive Fault
  /-- A null pointer is dereferenced. -/
  | nullDeref (p : Pointer)
  /-- `std::out_of_range`, thrown by `at`. -/
  | outOfRange
  /-- A raw access beyond the end of an array, a vector or a mapping. -/
  | outOfBounds
  /-- `nlohmann::json::type_error`. -/
  | typeError
  /-- `std::length_error`, thrown by `resize`. -/
  | lengthError
  /-- `std::bad_alloc`, thrown by an allocation. -/
  | badAlloc
  /-- A floating-point number converted to an integer type that does not hold it. -/
  | badConversion
  deriving DecidableEq, Repr

/-- What ends a call early: a fault, or an error code to be returned. -/
inductive Stop
  | fault (f : Fault)
  | ret (code : ReturnCode)
  deriving DecidableEq, Repr

abbrev Bytes := List UInt8

/-- `memcpy_s(dest, destMax, src, destMax)` returns `EOK` unless the
destination has no room or is larger than `SECUREC_MEM_MAX_LEN`. -/
def memcpySucceeds (destMax : Nat) : Bool :=
  0 < destMax ∧ destMax ≤ 2 ^ 31 - 1

/-- The fields of `ExtensionConfig` the runtime itself reads, and the dimensions it parses for
the device. -/
structure ExtensionConfig where
  modelName : String := ""
  inputDims : List (List Int32) := []
  dynamicDims : List (List Int32) := []
  isNpuFmShared : Bool := false
  isExceedRamLimit : Bool := false
  deriving DecidableEq, Repr

@[simp] theorem ok_bind {α β ε : Type} (a : α) (f : α → Except ε β) :
    (Except.ok a >>= f) = f a := rfl

@[simp] theorem error_bind {α β ε : Type} (e : ε) (f : α → Except ε β) :
    (Except.error e >>= f) = .error e := rfl

@[simp] theorem pure_eq_ok {α ε : Type} (a : α) : (pure a : Except ε α) = .ok a := rfl

/-- Answers with different codes differ. -/
theorem code_ne {α : Type} {ret ret' : ReturnCode} {a a' : α} (h : ret ≠ ret') :
    (ret, a) ≠ (ret', a') := by
  intro heq
  exact h (congrArg Prod.fst heq)

theorem ok_code_ne {α ε : Type} {ret ret' : ReturnCode} {a a' : α} (h : ret ≠ ret') :
    (Except.ok (ret, a) : Except ε (ReturnCode × α)) ≠ .ok (ret', a') := by
  intro heq
  exact code_ne h (Except.ok.inj heq)

theorem not_exists_ok_error {α ε : Type} {e : ε} : ¬ ∃ a, (.error e : Except ε α) = .ok a := by
  rintro ⟨a, heq⟩
  cases heq

/-- A computation that ends well is a first part and a rest that do. -/
theorem bind_eq_ok {α β ε : Type} {x : Except ε α} {f : α → Except ε β} {b : β}
    (h : x >>= f = .ok b) : ∃ a, x = .ok a ∧ f a = .ok b := by
  cases x with
  | error e => cases h
  | ok a => exact ⟨a, rfl, h⟩

/-- A loop none of whose rounds faults collects the rounds' results. -/
theorem mapM_eq_ok {α β ε : Type} {f : α → Except ε β} {g : α → β} :
    ∀ {l : List α}, (∀ x ∈ l, f x = .ok (g x)) → l.mapM f = .ok (l.map g)
  | [], _ => rfl
  | x :: l, h => by
    have hl := mapM_eq_ok (f := f) (g := g) (l := l) fun y hy => h y (List.mem_cons_of_mem _ hy)
    rw [List.mapM_cons, h x List.mem_cons_self, hl]
    rfl

/-- A loop that ends without a fault has a result for every round. -/
theorem forall₂_of_mapM {α β ε : Type} {f : α → Except ε β} :
    ∀ {l : List α} {l' : List β}, l.mapM f = .ok l' → List.Forall₂ (fun a b => f a = .ok b) l l'
  | [], l', h => by
    cases h
    exact .nil
  | x :: l, l', h => by
    rw [List.mapM_cons] at h
    cases hx : f x with
    | error e => simp [hx] at h
    | ok b =>
      cases hl : l.mapM f with
      | error e => simp [hx, hl] at h
      | ok bs =>
        simp only [hx, hl, ok_bind, pure_eq_ok, Except.ok.injEq] at h
        subst h
        exact .cons hx (forall₂_of_mapM hl)

/-- Two lists whose elements correspond have a property each if those agree. -/
theorem forall_mem_iff_of_forall₂ {α β : Type} {R : α → β → Prop} {P : α → Prop} {Q : β → Prop}
    {as : List α} {bs : List β} (hiff : ∀ a b, R a b → (P a ↔ Q b)) (h : List.Forall₂ R as bs) :
    (∀ a ∈ as, P a) ↔ ∀ b ∈ bs, Q b := by
  induction h with
  | nil => exact iff_of_true (List.forall_mem_nil _) (List.forall_mem_nil _)
  | cons hab _ ih => rw [List.forall_mem_cons, List.forall_mem_cons, hiff _ _ hab, ih]

/-- Each element of the first has its counterpart. -/
theorem exists_mem_of_forall₂ {α β : Type} {R : α → β → Prop} {as : List α} {bs : List β}
    (h : List.Forall₂ R as bs) : ∀ a ∈ as, ∃ b ∈ bs, R a b := by
  induction h with
  | nil => exact fun a ha => absurd ha List.not_mem_nil
  | @cons a b as bs hab _ ih =>
    intro a' ha'
    rcases List.mem_cons.mp ha' with rfl | ha'
    · exact ⟨b, List.mem_cons_self, hab⟩
    · obtain ⟨b', hb', hR⟩ := ih a' ha'
      exact ⟨b', List.mem_cons_of_mem b hb', hR⟩

/-- The last elements of corresponding lists correspond. -/
theorem getLast?_of_forall₂ {α β : Type} {R : α → β → Prop} {as : List α} {bs : List β}
    (h : List.Forall₂ R as bs) :
    (as = [] ∧ bs = []) ∨ ∃ a b, as.getLast? = some a ∧ bs.getLast? = some b ∧ R a b := by
  induction h with
  | nil => exact Or.inl ⟨rfl, rfl⟩
  | @cons a b as bs hab _ ih =>
    rw [List.getLast?_cons, List.getLast?_cons]
    rcases ih with ⟨rfl, rfl⟩ | ⟨a', b', ha', hb', hR⟩
    · exact Or.inr ⟨a, b, rfl, rfl, hab⟩
    · rw [ha', hb']
      exact Or.inr ⟨a', b', rfl, rfl, hR⟩

/-! ## Errors that do not happen -/

section Avoids

variable {α β ε : Type} {bad : ε → Prop}

/-- A computation does not end with an error of some kind. -/
def Avoids (bad : ε → Prop) (x : Except ε α) : Prop :=
  ∀ e, x = .error e → ¬ bad e

@[simp] theorem avoids_ok (a : α) : Avoids bad (.ok a) := nofun

@[simp] theorem avoids_error {e : ε} : Avoids bad (.error e : Except ε α) ↔ ¬ bad e := by
  constructor
  · intro h
    exact h e rfl
  · rintro h e' heq
    cases heq
    exact h

theorem Avoids.bind {x : Except ε α} {f : α → Except ε β} (hx : Avoids bad x)
    (hf : ∀ a, Avoids bad (f a)) : Avoids bad (x >>= f) := by
  cases x with
  | error e => exact fun e' heq => hx e' (by cases heq; rfl)
  | ok a => exact hf a

theorem avoids_mapM {f : α → Except ε β} {l : List α} (hf : ∀ a ∈ l, Avoids bad (f a)) :
    Avoids bad (l.mapM f) := by
  induction l with
  | nil => exact avoids_ok _
  | cons a l ih =>
    rw [List.mapM_cons]
    refine (hf a List.mem_cons_self).bind fun b => ?_
    refine (ih fun a' ha' => hf a' (List.mem_cons_of_mem _ ha')).bind fun bs => ?_
    exact avoids_ok _

end Avoids

end NNRt
