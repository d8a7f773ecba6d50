import NNRt.Core.Types
import NNRt.Lib.UnorderedMap

/-!
# `BackendManager`

The registry of backends: four containers, two of them hash maps from ids, one a
list of ids and one the ids of each registration name. The answers of a backend
to the manager are fields of the object.

- `Consistent`: what the four containers have in common after every history.
- `registerBackend_cases`: what a registration does.
- `idsOf_performAll`: a name's list is what has been registered under it since
  it was last removed.
-/

namespace NNRt

/-- `DeviceStatus`. -/
inductive DeviceStatus
  | unknown | available | busy | offline
  deriving DecidableEq, Repr

/-- A `Backend`: the object, and what it answers. -/
structure Backend where
  object : Nat
  backendID : UInt64
  /-- `GetBackendStatus`: its code, and the status where it sets one. -/
  backendStatus : ReturnCode × DeviceStatus := (.success, .available)
  /-- `GetBackendName`. -/
  backendName : ReturnCode × String := (.success, "")
  deriving DecidableEq, Repr

/-- `BackendManager`. -/
structure BackendManager where
  backendIDs : List UInt64 := []
  backendNames : UnorderedMap UInt64 String := ∅
  backends : UnorderedMap UInt64 Backend := ∅
  backendIDGroup : UnorderedMap String (List UInt64) := ∅

/-- How the two hash maps place a new entry. -/
structure Placement where
  backends : UnorderedMap.Order UInt64 Backend := .newFirst
  backendNames : UnorderedMap.Order UInt64 String := .newFirst

namespace BackendManager

/-- `IsValidBackend`. -/
def isValidBackend (backend : Backend) : Bool :=
  !(backend.backendStatus.1 ≠ .success ∨ backend.backendStatus.2 = .unknown ∨
    backend.backendStatus.2 = .offline)

/-- `GetBackend`; id 0 stands for the first backend of the map. -/
def getBackend (m : BackendManager) (backendID : UInt64) : Option Backend :=
  if m.backends.entries.isEmpty then none
  else if backendID = 0 then (UnorderedMap.first? m.backends).map Prod.snd
  else m.backends.lookup backendID

/-- `GetBackendName`, with the empty string for an id that is not registered. -/
def getBackendName (m : BackendManager) (backendID : UInt64) : String :=
  if m.backendNames.entries.isEmpty then ""
  else if backendID = 0 then ((UnorderedMap.first? m.backendNames).map Prod.snd).getD ""
  else (m.backendNames.lookup backendID).getD ""

/-- The four insertions of `RegisterBackend`. -/
def insertBackend (m : BackendManager) (backendName : String) (regBackend : Backend)
    (place : Placement) : BackendManager where
  backends := UnorderedMap.emplace m.backends regBackend.backendID regBackend place.backends
  backendIDs := m.backendIDs ++ [regBackend.backendID]
  backendNames :=
    UnorderedMap.emplace m.backendNames regBackend.backendID regBackend.backendName.2
      place.backendNames
  backendIDGroup :=
    m.backendIDGroup.insert backendName
      ((m.backendIDGroup.lookup backendName).getD [] ++ [regBackend.backendID])

/-- `RegisterBackend`, with what the creator returns; `none` is a null pointer. -/
def registerBackend (m : BackendManager) (backendName : String) (creator : Option Backend)
    (place : Placement) : ReturnCode × BackendManager :=
  match creator with
  | none => (.failed, m)
  | some regBackend =>
    if !isValidBackend regBackend then (.unavailableDevice, m)
    else if regBackend.backendID ∈ m.backendIDs then (.failed, m)
    else if regBackend.backendName.1 ≠ .success then (.failed, m)
    else (.success, m.insertBackend backendName regBackend place)

/-- One round of the loop of `RemoveBackend`. Erasing what is not there changes
nothing. -/
def eraseID (m : BackendManager) (backendID : UInt64) : BackendManager :=
  { m with
    backends := m.backends.erase backendID
    backendIDs := m.backendIDs.erase backendID
    backendNames := m.backendNames.erase backendID }

/-- `RemoveBackend`. -/
def removeBackend (m : BackendManager) (backendName : String) : BackendManager :=
  match m.backendIDGroup.lookup backendName with
  | none => m
  | some ids =>
    let m := ids.foldl eraseID m
    { m with backendIDGroup := m.backendIDGroup.erase backendName }

/-- The calls that change the registry. -/
inductive Call
  | registerBackend (backendName : String) (creator : Option Backend) (place : Placement)
  | removeBackend (backendName : String)

/-- One call, whatever its code. -/
def perform (m : BackendManager) : Call → BackendManager
  | .registerBackend backendName creator place =>
    (m.registerBackend backendName creator place).2
  | .removeBackend backendName => m.removeBackend backendName

/-- A history of calls. -/
def performAll (m : BackendManager) (calls : List Call) : BackendManager :=
  calls.foldl perform m

/-! ## What the two calls do -/

/-- The registrations that go through. -/
def Registers (m : BackendManager) (creator : Option Backend) (backend : Backend) : Prop :=
  creator = some backend ∧ isValidBackend backend ∧ backend.backendID ∉ m.backendIDs ∧
    backend.backendName.1 = .success

/-- A registration goes through, or nothing has changed. -/
theorem registerBackend_cases (m : BackendManager) (backendName : String)
    (creator : Option Backend) (place : Placement) :
    (∃ backend, Registers m creator backend ∧ m.registerBackend backendName creator place =
      (.success, m.insertBackend backendName backend place)) ∨
    ((∀ backend, ¬ Registers m creator backend) ∧
      ∃ code, code ≠ .success ∧ m.registerBackend backendName creator place = (code, m)) := by
  cases creator with
  | none =>
    refine .inr ⟨?_, .failed, nofun, rfl⟩
    rintro backend ⟨h, -⟩
    cases h
  | some b =>
    by_cases hvalid : isValidBackend b = true
    · by_cases hmem : b.backendID ∈ m.backendIDs
      · refine .inr ⟨?_, .failed, nofun, by simp [registerBackend, hvalid, hmem]⟩
        rintro backend ⟨h, -, hnot, -⟩
        cases h
        exact hnot hmem
      · by_cases hname : b.backendName.1 = .success
        · exact .inl ⟨b, ⟨rfl, hvalid, hmem, hname⟩,
            by simp [registerBackend, hvalid, hmem, hname]⟩
        · refine .inr ⟨?_, .failed, nofun, by simp [registerBackend, hvalid, hmem, hname]⟩
          rintro backend ⟨h, -, -, hsuccess⟩
          cases h
          exact hname hsuccess
    · refine .inr ⟨?_, .unavailableDevice, nofun, by simp [registerBackend, hvalid]⟩
      rintro backend ⟨h, hv, -⟩
      cases h
      exact hvalid hv

/-- The ids a name stands for. -/
def idsOf (m : BackendManager) (name : String) : List UInt64 :=
  (m.backendIDGroup.lookup name).getD []

/-- The loop of a removal. -/
theorem foldl_eraseID (m : BackendManager) (ids : List UInt64) :
    ids.foldl eraseID m = { m with
      backends := UnorderedMap.eraseAll m.backends ids
      backendIDs := m.backendIDs.diff ids
      backendNames := UnorderedMap.eraseAll m.backendNames ids } := by
  induction ids generalizing m with
  | nil => rfl
  | cons id ids ih =>
    rw [List.foldl_cons, ih, List.diff_cons]
    rfl

/-- A removal takes the ids of its name out of every container. -/
theorem removeBackend_eq (m : BackendManager) (name : String) :
    m.removeBackend name = {
      backends := UnorderedMap.eraseAll m.backends (m.idsOf name)
      backendIDs := m.backendIDs.diff (m.idsOf name)
      backendNames := UnorderedMap.eraseAll m.backendNames (m.idsOf name)
      backendIDGroup := m.backendIDGroup.erase name } := by
  unfold removeBackend idsOf
  cases h : m.backendIDGroup.lookup name with
  | none =>
    have herase : m.backendIDGroup.erase name = m.backendIDGroup := by
      refine AList.ext ?_
      exact List.kerase_of_notMem_keys (AList.mem_keys.not.mp (AList.lookup_eq_none.mp h))
    rw [herase]
    rfl
  | some ids =>
    show ({ ids.foldl eraseID m with
      backendIDGroup := (ids.foldl eraseID m).backendIDGroup.erase name } : BackendManager) = _
    rw [foldl_eraseID]
    rfl

/-! ## The four containers agree -/

/-- What holds of the registry after every history. -/
structure Consistent (m : BackendManager) : Prop where
  nodup : m.backendIDs.Nodup
  mem_backends : ∀ id, id ∈ m.backends ↔ id ∈ m.backendIDs
  mem_names : ∀ id, id ∈ m.backendNames ↔ id ∈ m.backendIDs
  mem_group : ∀ id, id ∈ m.backendIDs ↔ ∃ name, id ∈ m.idsOf name
  disjoint : ∀ name name', name ≠ name' → (m.idsOf name).Disjoint (m.idsOf name')
  group_nodup : ∀ name, (m.idsOf name).Nodup
  group_ne_nil : ∀ name ids, m.backendIDGroup.lookup name = some ids → ids ≠ []
  own_id : ∀ id backend, m.backends.lookup id = some backend → backend.backendID = id

theorem Consistent.empty : Consistent {} where
  nodup := List.nodup_nil
  mem_backends _ := by simp
  mem_names _ := by simp
  mem_group _ := by simp [idsOf]
  disjoint _ _ _ := by simp [idsOf]
  group_nodup _ := by simp [idsOf]
  group_ne_nil _ _ h := by simp at h
  own_id _ _ h := by simp at h

section

variable {m : BackendManager} {backendName : String} {b : Backend} {place : Placement}

theorem idsOf_insertBackend_self :
    (m.insertBackend backendName b place).idsOf backendName =
      m.idsOf backendName ++ [b.backendID] := by
  unfold idsOf insertBackend
  rw [AList.lookup_insert, Option.getD_some]

theorem idsOf_insertBackend_other {name : String} (h : name ≠ backendName) :
    (m.insertBackend backendName b place).idsOf name = m.idsOf name := by
  unfold idsOf insertBackend
  rw [AList.lookup_insert_ne h]

/-- A name's list gains the new id or none. -/
theorem mem_idsOf_insertBackend {name : String} {id : UInt64} :
    id ∈ (m.insertBackend backendName b place).idsOf name ↔
      id ∈ m.idsOf name ∨ (name = backendName ∧ id = b.backendID) := by
  by_cases h : name = backendName
  · subst h
    rw [idsOf_insertBackend_self, List.mem_append, List.mem_singleton]
    exact or_congr_right (by simp)
  · rw [idsOf_insertBackend_other h]
    simp [h]

/-- A new id keeps the containers in agreement. -/
theorem Consistent.insertBackend (h : Consistent m) (hnew : b.backendID ∉ m.backendIDs) :
    Consistent (m.insertBackend backendName b place) := by
  have hfresh : ∀ name, b.backendID ∉ m.idsOf name := fun name hmem =>
    hnew ((h.mem_group _).mpr ⟨name, hmem⟩)
  -- In the order of the fields of the invariant: the list, the two maps, the groups.
  refine ⟨?_, ?_, ?_, ?_, ?_, ?_, ?_, ?_⟩
  · show (m.backendIDs ++ [b.backendID]).Nodup
    exact List.nodup_append'.mpr ⟨h.nodup, List.nodup_singleton _, by simpa using hnew⟩
  · intro id
    show id ∈ UnorderedMap.emplace _ _ _ _ ↔ id ∈ m.backendIDs ++ [b.backendID]
    rw [UnorderedMap.mem_emplace, h.mem_backends, List.mem_append, List.mem_singleton, or_comm]
  · intro id
    show id ∈ UnorderedMap.emplace _ _ _ _ ↔ id ∈ m.backendIDs ++ [b.backendID]
    rw [UnorderedMap.mem_emplace, h.mem_names, List.mem_append, List.mem_singleton, or_comm]
  · intro id
    show id ∈ m.backendIDs ++ [b.backendID] ↔ _
    rw [List.mem_append, List.mem_singleton, h.mem_group]
    constructor
    · rintro (⟨name, hmem⟩ | rfl)
      · exact ⟨name, mem_idsOf_insertBackend.mpr (.inl hmem)⟩
      · exact ⟨backendName, mem_idsOf_insertBackend.mpr (.inr ⟨rfl, rfl⟩)⟩
    · rintro ⟨name, hmem⟩
      rcases mem_idsOf_insertBackend.mp hmem with hold | ⟨-, rfl⟩
      · exact .inl ⟨name, hold⟩
      · exact .inr rfl
  · intro name name' hne id hid hid'
    rcases mem_idsOf_insertBackend.mp hid with hold | ⟨rfl, rfl⟩
    · rcases mem_idsOf_insertBackend.mp hid' with hold' | ⟨-, rfl⟩
      · exact h.disjoint name name' hne hold hold'
      · exact hfresh name hold
    · rcases mem_idsOf_insertBackend.mp hid' with hold' | ⟨rfl, -⟩
      · exact hfresh name' hold'
      · exact hne rfl
  · intro name
    by_cases hname : name = backendName
    · subst hname
      rw [idsOf_insertBackend_self]
      exact List.nodup_append'.mpr
        ⟨h.group_nodup name, List.nodup_singleton _, by simpa using hfresh name⟩
    · rw [idsOf_insertBackend_other hname]
      exact h.group_nodup name
  · intro name ids hids
    by_cases hname : name = backendName
    · subst hname
      rw [show (m.insertBackend name b place).backendIDGroup.lookup name = _ from
        AList.lookup_insert _, Option.some.injEq] at hids
      rw [← hids]
      exact List.append_ne_nil_of_right_ne_nil _ (List.cons_ne_nil _ _)
    · rw [show (m.insertBackend backendName b place).backendIDGroup.lookup name = _ from
        AList.lookup_insert_ne hname] at hids
      exact h.group_ne_nil name ids hids
  · intro id backend hlookup
    by_cases hid : id = b.backendID
    · subst hid
      have hb : b.backendID ∉ m.backends := fun hmem => hnew ((h.mem_backends _).mp hmem)
      rw [show (m.insertBackend backendName b place).backends.lookup b.backendID = _ from
        UnorderedMap.lookup_emplace_self hb, Option.some.injEq] at hlookup
      rw [hlookup]
    · rw [show (m.insertBackend backendName b place).backends.lookup id = _ from
        UnorderedMap.lookup_emplace_other hid] at hlookup
      exact h.own_id id backend hlookup

theorem idsOf_removeBackend (name : String) :
    (m.removeBackend backendName).idsOf name =
      if name = backendName then [] else m.idsOf name := by
  rw [removeBackend_eq]
  unfold idsOf
  by_cases h : name = backendName
  · subst h
    rw [if_pos rfl, AList.lookup_erase, Option.getD_none]
  · rw [if_neg h, AList.lookup_erase_ne h]

/-- The ids that stay. -/
theorem Consistent.mem_removeBackend (h : Consistent m) {id : UInt64} :
    id ∈ (m.removeBackend backendName).backendIDs ↔
      id ∈ m.backendIDs ∧ id ∉ m.idsOf backendName := by
  rw [removeBackend_eq]
  exact h.nodup.mem_sdiff_iff

/-- A removal keeps the containers in agreement. -/
theorem Consistent.removeBackend (h : Consistent m) : Consistent (m.removeBackend backendName) := by
  refine ⟨?_, ?_, ?_, ?_, ?_, ?_, ?_, ?_⟩
  · rw [removeBackend_eq]
    exact h.nodup.diff
  · intro id
    rw [h.mem_removeBackend, removeBackend_eq, ← h.mem_backends]
    exact UnorderedMap.mem_eraseAll
  · intro id
    rw [h.mem_removeBackend, removeBackend_eq, ← h.mem_names]
    exact UnorderedMap.mem_eraseAll
  · intro id
    rw [h.mem_removeBackend, h.mem_group]
    constructor
    · rintro ⟨⟨name, hmem⟩, hnot⟩
      have hne : name ≠ backendName := fun heq => hnot (heq ▸ hmem)
      exact ⟨name, by rw [idsOf_removeBackend, if_neg hne]; exact hmem⟩
    · rintro ⟨name, hmem⟩
      rw [idsOf_removeBackend] at hmem
      split at hmem
      · cases hmem
      next hne => exact ⟨⟨name, hmem⟩, h.disjoint name backendName hne hmem⟩
  · intro name name' hne id hid hid'
    rw [idsOf_removeBackend] at hid hid'
    split at hid
    · cases hid
    · split at hid'
      · cases hid'
      · exact h.disjoint name name' hne hid hid'
  · intro name
    rw [idsOf_removeBackend]
    split
    · exact List.nodup_nil
    · exact h.group_nodup name
  · intro name ids hids
    rw [removeBackend_eq] at hids
    by_cases hname : name = backendName
    · subst hname
      rw [AList.lookup_erase] at hids
      cases hids
    · rw [AList.lookup_erase_ne hname] at hids
      exact h.group_ne_nil name ids hids
  · intro id backend hlookup
    rw [removeBackend_eq] at hlookup
    rw [show _ = _ from UnorderedMap.lookup_eraseAll _ _ _] at hlookup
    split at hlookup
    · cases hlookup
    · exact h.own_id id backend hlookup

theorem Consistent.perform (h : Consistent m) (call : Call) : Consistent (m.perform call) := by
  cases call with
  | registerBackend name creator p =>
    show Consistent (m.registerBackend name creator p).2
    obtain ⟨backend, ⟨-, -, hnew, -⟩, heq⟩ | ⟨-, code, -, heq⟩ :=
      m.registerBackend_cases name creator p
    · rw [heq]
      exact h.insertBackend hnew
    · rw [heq]
      exact h
  | removeBackend name => exact h.removeBackend

theorem Consistent.performAll (h : Consistent m) (calls : List Call) :
    Consistent (m.performAll calls) := by
  induction calls generalizing m with
  | nil => exact h
  | cons call calls ih => exact ih (h.perform call)

/-! ## What a name has registered -/

/-- One call's effect on the ids registered under a name since it was last removed. -/
def noteCall (name : String) (m : BackendManager) (ids : List UInt64) : Call → List UInt64
  | .registerBackend backendName creator place =>
    if backendName = name ∧ (m.registerBackend backendName creator place).1 = .success then
      ids ++ (creator.map Backend.backendID).toList
    else ids
  | .removeBackend backendName => if backendName = name then [] else ids

/-- The ids registered under a name since it was last removed, in a history from
`m`, where the name has registered `ids`. -/
def registeredIn (name : String) (m : BackendManager) (ids : List UInt64) :
    List Call → List UInt64
  | [] => ids
  | call :: calls => registeredIn name (m.perform call) (noteCall name m ids call) calls

/-- One call changes a name's list as it changes what has been registered. -/
theorem idsOf_perform (name : String) (m : BackendManager) (call : Call) :
    (m.perform call).idsOf name = noteCall name m (m.idsOf name) call := by
  cases call with
  | registerBackend backendName creator place =>
    show (m.registerBackend backendName creator place).2.idsOf name =
      if backendName = name ∧ (m.registerBackend backendName creator place).1 = .success then
        m.idsOf name ++ (creator.map Backend.backendID).toList
      else m.idsOf name
    obtain ⟨backend, ⟨rfl, -⟩, heq⟩ | ⟨-, code, hcode, heq⟩ :=
      m.registerBackend_cases backendName creator place
    · rw [heq]
      by_cases h : backendName = name
      · subst h
        rw [if_pos ⟨rfl, rfl⟩, idsOf_insertBackend_self]
        rfl
      · rw [if_neg fun hand => h hand.1, idsOf_insertBackend_other (Ne.symm h)]
    · rw [heq, if_neg fun hand => hcode hand.2]
  | removeBackend backendName =>
    show (m.removeBackend backendName).idsOf name = if backendName = name then [] else m.idsOf name
    rw [idsOf_removeBackend]
    simp only [eq_comm (a := name)]

/-- A name's list is what has been registered under it since it was last removed. -/
theorem idsOf_performAll (name : String) (m : BackendManager) (calls : List Call) :
    (m.performAll calls).idsOf name = registeredIn name m (m.idsOf name) calls := by
  induction calls generalizing m with
  | nil => rfl
  | cons call calls ih =>
    show ((m.perform call).performAll calls).idsOf name = _
    rw [ih, idsOf_perform]
    rfl

/-! ## Lookups -/

theorem entries_isEmpty_lookup {ν : Type} {map : UnorderedMap UInt64 ν} {id : UInt64}
    (h : map.entries.isEmpty = true) : map.lookup id = none := by
  rw [AList.lookup_eq_none, AList.mem_keys]
  intro hmem
  rw [AList.keys, List.isEmpty_iff.mp h] at hmem
  cases hmem

/-- Every id but 0 is looked up in the map. -/
theorem getBackend_eq_lookup (m : BackendManager) {id : UInt64} (h : id ≠ 0) :
    m.getBackend id = m.backends.lookup id := by
  unfold getBackend
  by_cases hempty : m.backends.entries.isEmpty = true
  · rw [if_pos hempty, entries_isEmpty_lookup hempty]
  · rw [if_neg hempty, if_neg h]

theorem getBackendName_eq_lookup (m : BackendManager) {id : UInt64} (h : id ≠ 0) :
    m.getBackendName id = (m.backendNames.lookup id).getD "" := by
  unfold getBackendName
  by_cases hempty : m.backendNames.entries.isEmpty = true
  · rw [if_pos hempty, entries_isEmpty_lookup hempty, Option.getD_none]
  · rw [if_neg hempty, if_neg h]

/-- A removal does not change what is found under an id of another name. -/
theorem lookup_removeBackend {id : UInt64} (h : id ∉ m.idsOf backendName) :
    (m.removeBackend backendName).backends.lookup id = m.backends.lookup id ∧
      (m.removeBackend backendName).backendNames.lookup id = m.backendNames.lookup id := by
  rw [removeBackend_eq]
  constructor
  · rw [show _ = _ from UnorderedMap.lookup_eraseAll _ _ _, if_neg h]
  · rw [show _ = _ from UnorderedMap.lookup_eraseAll _ _ _, if_neg h]

/-- **The registry after every history**: the four containers agree, a failed
registration changes nothing, and a removal takes exactly what its name has
registered, so that every other id but the default 0 is looked up as before. -/
theorem registry_after (calls : List Call) :
    let m := performAll {} calls
    (m.backendIDs.Nodup ∧ (∀ id, id ∈ m.backends ↔ id ∈ m.backendIDs) ∧
      ∀ id, id ∈ m.backendNames ↔ id ∈ m.backendIDs) ∧
    ((∀ name name' ids ids', name ≠ name' → m.backendIDGroup.lookup name = some ids →
        m.backendIDGroup.lookup name' = some ids' → ids.Disjoint ids') ∧
      (∀ name ids, m.backendIDGroup.lookup name = some ids → ids ≠ []) ∧
      ∀ id, id ∈ m.backendIDs ↔
        ∃ name ids, m.backendIDGroup.lookup name = some ids ∧ id ∈ ids) ∧
    (∀ name creator place, (m.registerBackend name creator place).1 ≠ .success →
      (m.registerBackend name creator place).2 = m) ∧
    ∀ name, let removed := registeredIn name {} [] calls
      removed ⊆ m.backendIDs ∧
      (∀ id, id ∈ (m.removeBackend name).backendIDs ↔ id ∈ m.backendIDs ∧ id ∉ removed) ∧
      ∀ id, id ∉ removed →
        (m.removeBackend name).backends.lookup id = m.backends.lookup id ∧
        (m.removeBackend name).backendNames.lookup id = m.backendNames.lookup id ∧
        (id ≠ 0 → (m.removeBackend name).getBackend id = m.getBackend id ∧
          (m.removeBackend name).getBackendName id = m.getBackendName id) := by
  intro m
  have h : Consistent m := Consistent.empty.performAll calls
  have hidsOf : ∀ {name ids}, m.backendIDGroup.lookup name = some ids → m.idsOf name = ids := by
    intro name ids hids
    unfold idsOf
    rw [hids, Option.getD_some]
  refine ⟨⟨h.nodup, h.mem_backends, h.mem_names⟩, ⟨?_, h.group_ne_nil, ?_⟩, ?_, ?_⟩
  · intro name name' ids ids' hne hids hids'
    rw [← hidsOf hids, ← hidsOf hids']
    exact h.disjoint name name' hne
  · intro id
    rw [h.mem_group]
    constructor
    · rintro ⟨name, hmem⟩
      cases hids : m.backendIDGroup.lookup name with
      | none =>
        unfold idsOf at hmem
        rw [hids] at hmem
        cases hmem
      | some ids => exact ⟨name, ids, hids, hidsOf hids ▸ hmem⟩
    · rintro ⟨name, ids, hids, hmem⟩
      exact ⟨name, (hidsOf hids).symm ▸ hmem⟩
  · intro name creator place hcode
    obtain ⟨backend, -, heq⟩ | ⟨-, code, -, heq⟩ := m.registerBackend_cases name creator place
    · rw [heq] at hcode
      exact absurd rfl hcode
    · rw [heq]
  · -- What is registered under a name is what its group holds.
    intro name removed
    have hremoved : removed = m.idsOf name := (idsOf_performAll name {} calls).symm
    rw [hremoved]
    refine ⟨fun id hid => (h.mem_group id).mpr ⟨name, hid⟩, fun id => h.mem_removeBackend,
      fun id hid => ?_⟩
    obtain ⟨hbackends, hnames⟩ := lookup_removeBackend hid
    refine ⟨hbackends, hnames, fun hne => ⟨?_, ?_⟩⟩
    · rw [getBackend_eq_lookup _ hne, getBackend_eq_lookup _ hne, hbackends]
    · rw [getBackendName_eq_lookup _ hne, getBackendName_eq_lookup _ hne, hnames]

/-- Two names, of which the first has registered the id 0. -/
def zeroThenSeven : List Call :=
  [.registerBackend "cpu" (some { object := 0, backendID := 0 }) {},
    .registerBackend "npu" (some { object := 1, backendID := 7 }) {}]

/-- The id 0 is looked up as the first backend of the map, so the removal of
another name changes it. -/
theorem default_backend_changes :
    let m := performAll {} zeroThenSeven
    (0 : UInt64) ∈ m.backendIDs ∧ (0 : UInt64) ∉ registeredIn "npu" {} [] zeroThenSeven ∧
      m.getBackend 0 = some { object := 1, backendID := 7 } ∧
      (m.removeBackend "npu").getBackend 0 = some { object := 0, backendID := 0 } := by
  decide

end

end BackendManager

end NNRt
