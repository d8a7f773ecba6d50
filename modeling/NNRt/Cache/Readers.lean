import NNRt.Cache.FillLoop

/-!
# The readers of `cache_info` on any content

Three functions read the record: `CheckCacheInfo` of the store, `CheckCacheFileExtension`
of `OH_NNModel_HasCache`, and `GetModelSizeFromCache` of the compiler. They look whether a
member is there, and convert it to a number whether or not it is one.

- `checkCacheInfo_returns_iff`, `checkCacheFileExtension_returns_iff`,
  `getModelSizeFromCache_returns_iff`: what each of them has to find.
- `readersReturn_iff`: **the three readers together.**
-/

namespace Json

open NNRt

/-- `j[key]` of a value that may be changed: a key that is missing, also from `null`, yields
`null`; anything else that is no object throws. -/
def subscript (key : String) : Json → Except Fault Json
  | .obj members => .ok ((members.lookup key).getD .null)
  | .null => .ok .null
  | _ => .error .typeError

/-- The member is there, and `get<int64_t>()` makes this number of it. -/
def HoldsNumber (j : Json) (key : String) (v : Int64) : Prop :=
  ∃ member, j.find? key = some member ∧ member.getInt64 = .ok v

/-- The member is there, and is no number. -/
def HoldsOther (j : Json) (key : String) : Prop :=
  ∃ member, j.find? key = some member ∧ member.getInt64 = .error .typeError

/-- The first `n` positions are numbers. -/
def HoldsNumbers (j : Json) (n : Nat) : Prop :=
  ∀ i < n, ∃ v, j.getInt64At i = .ok v

variable {j : Json} {key : String}

/-- `get<int64_t>()` throws `type_error`, or nothing. -/
theorem getInt64_cases (j : Json) : (∃ v, j.getInt64 = .ok v) ∨ j.getInt64 = .error .typeError := by
  cases j with
  | int i => exact Or.inl ⟨_, rfl⟩
  | float v => exact Or.inl ⟨_, rfl⟩
  | null | bool b | str s | arr xs | obj members => exact Or.inr rfl

theorem HoldsNumber.ne_none {v : Int64} (h : j.HoldsNumber key v) : j.find? key ≠ none := by
  obtain ⟨member, hmember, -⟩ := h
  rw [hmember]
  exact Option.some_ne_none member

theorem HoldsOther.ne_none (h : j.HoldsOther key) : j.find? key ≠ none := by
  obtain ⟨member, hmember, -⟩ := h
  rw [hmember]
  exact Option.some_ne_none member

/-- A member is missing, a number, or something else. -/
theorem holds_cases (j : Json) (key : String) :
    j.find? key = none ∨ (∃ v, j.HoldsNumber key v) ∨ j.HoldsOther key := by
  cases hfind : j.find? key with
  | none => exact Or.inl rfl
  | some member =>
    rcases member.getInt64_cases with ⟨v, hv⟩ | hthrows
    · exact Or.inr (Or.inl ⟨v, member, hfind, hv⟩)
    · exact Or.inr (Or.inr ⟨member, hfind, hthrows⟩)

/-- The member is there, and `get<int>()` makes this number of it. -/
def HoldsInt (j : Json) (key : String) (v : Int32) : Prop :=
  ∃ member, j.find? key = some member ∧ member.getInt = .ok v

/-- The member is there, and is neither a boolean nor a number that `get<int>()` can convert. -/
def HoldsNoInt (j : Json) (key : String) : Prop :=
  ∃ member fault, j.find? key = some member ∧ member.getInt = .error fault

theorem holdsInt_cases (j : Json) (key : String) :
    j.find? key = none ∨ (∃ v, j.HoldsInt key v) ∨ j.HoldsNoInt key := by
  cases hfind : j.find? key with
  | none => exact Or.inl rfl
  | some member =>
    cases hget : member.getInt with
    | ok v => exact Or.inr (Or.inl ⟨v, member, hfind, hget⟩)
    | error fault => exact Or.inr (Or.inr ⟨member, fault, hfind, hget⟩)

/-- What `j[key].get<int64_t>()` makes of a value that may be changed. -/
theorem subscript_getInt64_iff {v : Int64} :
    (j.subscript key >>= getInt64) = .ok v ↔ j.HoldsNumber key v := by
  cases j with
  | obj members =>
    show ((members.lookup key).getD .null).getInt64 = .ok v ↔
      ∃ member, members.lookup key = some member ∧ member.getInt64 = .ok v
    cases members.lookup key with
    | none =>
      refine iff_of_false (fun h => ?_) ?_
      · cases h
      · rintro ⟨member, h, -⟩
        cases h
    | some member =>
      constructor
      · intro h
        exact ⟨member, rfl, h⟩
      · rintro ⟨member', h, hv⟩
        cases h
        exact hv
  | null | bool b | int i | float w | str s | arr xs =>
    refine iff_of_false (fun h => ?_) ?_
    · cases h
    · rintro ⟨member, h, -⟩
      cases h

/-- A value that `operator[]` had to make holds no number. -/
theorem subscript_holdsNumber_iff {inner : String} {v : Int64} :
    (∃ member, j.subscript key = .ok member ∧ member.HoldsNumber inner v) ↔
      ∃ member, j.find? key = some member ∧ member.HoldsNumber inner v := by
  cases j with
  | obj members =>
    constructor
    · rintro ⟨member, hmember, hnumber⟩
      cases hlookup : members.lookup key with
      | none =>
        unfold subscript at hmember
        dsimp only at hmember
        rw [hlookup] at hmember
        cases hmember
        obtain ⟨_, h, -⟩ := hnumber
        cases h
      | some member' =>
        unfold subscript at hmember
        dsimp only at hmember
        rw [hlookup] at hmember
        cases hmember
        exact ⟨_, hlookup, hnumber⟩
    · rintro ⟨member, hmember, hnumber⟩
      refine ⟨member, ?_, hnumber⟩
      show Except.ok ((members.lookup key).getD .null) = .ok member
      rw [show members.lookup key = some member from hmember]
      rfl
  | null =>
    refine iff_of_false ?_ ?_
    · rintro ⟨member, hmember, _, h, -⟩
      cases hmember
      cases h
    · rintro ⟨member, hmember, -⟩
      cases hmember
  | bool b | int i | float w | str s | arr xs =>
    refine iff_of_false ?_ ?_
    · rintro ⟨member, hmember, -⟩
      cases hmember
    · rintro ⟨member, hmember, -⟩
      cases hmember

end Json

namespace NNRt

/-! ## The size of a cached model -/

/-- `MODEL_MAX_LIMIT`. -/
def modelMaxLimit : UInt64 := 200 * 1024 * 1024

/-- `MORE_MODEL_MAX_LIMIT`. -/
def moreModelMaxLimit : UInt64 := 201 * 1024 * 1024

/-- `GetModelSizeFromCache`; `modelSizeFromFile` is what `GetModelSizeFromFile` makes of a
path that is no directory. -/
def getModelSizeFromCache (codec : JsonCodec) (io : IoFaults) (fs : FileSystem)
    (path modelName : String) (modelSizeFromFile : UInt64) : Except Fault UInt64 :=
  if (fs.realpath path).isNone then .ok modelSizeFromFile
  else if path = "" then .ok 0
  else
    match fs.find? path (infoFileName modelName), io.reads (infoFileName modelName) with
    | none, _ | _, .realpathFails | _, .openFails => .ok 0
    | some content, _ =>
      match codec.parse content with
      | none => .ok 0
      | some j => do
        let data ← j.subscript "data"
        -- `find` on "isExceedRamLimit" only decides about a warning.
        let isExceedRamLimit ← data.subscript "isExceedRamLimit" >>= Json.getInt64
        return if isExceedRamLimit = 1 then moreModelMaxLimit else modelMaxLimit

/-! ## What a reader has to find -/

/-- `dump` spells a list out: the text of an object has a byte for every element of a list in
it. -/
def JsonCodec.SpellsLists (codec : JsonCodec) : Prop :=
  ∀ (data : Json) (key : String) (xs : List Json), data.find? key = some (.arr xs) →
    xs.length ≤ (codec.dump data).length

section Readers

variable {codec : JsonCodec} {backendID : UInt64} {allocates : Nat → Bool} {content : Bytes}
  {j data : Json}

/-- `CheckCacheInfoExtension` comes to the loop over this list: the record has the checksum of
its text, and there is room for the vectors. -/
structure Verified (codec : JsonCodec) (allocates : Nat → Bool) (fileNumber : Int64)
    (j data sums : Json) : Prop where
  dump : strncpySucceeds (codec.dump data).length = true
  checkSum : j.HoldsNumber "CheckSum" (Int64.ofNat (cacheInfoGetCrc16 (codec.dump data)).toNat)
  size : fileNumber.toUInt64.toNat ≤ vectorMaxSize
  memory : resizeSucceeds allocates fileNumber.toUInt64.toNat = true
  modelCheckSum : data.find? "modelCheckSum" = some sums

/-- The contents on which `CheckCacheInfoExtension` throws. -/
inductive ExtensionThrows (codec : JsonCodec) (allocates : Nat → Bool) (fileNumber : Int64)
    (j data : Json) : Prop
  | checkSum (hdump : strncpySucceeds (codec.dump data).length = true)
    (h : j.HoldsOther "CheckSum")
  | resize (hdump : strncpySucceeds (codec.dump data).length = true)
    (hsum : j.HoldsNumber "CheckSum" (Int64.ofNat (cacheInfoGetCrc16 (codec.dump data)).toNat))
    (h : vectorMaxSize < fileNumber.toUInt64.toNat ∨
      resizeSucceeds allocates fileNumber.toUInt64.toNat = false)
  | modelCheckSum {sums : Json} (hverified : Verified codec allocates fileNumber j data sums)
    (h : ¬ sums.HoldsNumbers fileNumber.toUInt64.toNat)
  | opVersion {sums : Json} (hverified : Verified codec allocates fileNumber j data sums)
    (hnumbers : sums.HoldsNumbers fileNumber.toUInt64.toNat) (h : data.HoldsOther "opVersion")
  | isExceedRamLimit {sums : Json} (hverified : Verified codec allocates fileNumber j data sums)
    (hnumbers : sums.HoldsNumbers fileNumber.toUInt64.toNat)
    (hop : ¬ data.HoldsOther "opVersion") (h : data.HoldsOther "isExceedRamLimit")

/-- The contents on which `CheckCacheInfo` throws. -/
inductive RecordThrows (codec : JsonCodec) (backendID : UInt64) (allocates : Nat → Bool)
    (j data : Json) : Prop
  | deviceId (h : data.HoldsOther "deviceId")
  | version {deviceId : Int64} (hid : data.HoldsNumber "deviceId" deviceId)
    (h : data.HoldsOther "version")
  | fileNumber {deviceId version : Int64} (hid : data.HoldsNumber "deviceId" deviceId)
    (hversion : data.HoldsNumber "version" version) (hbackend : deviceId.toUInt64 = backendID)
    (h : data.HoldsOther "fileNumber")
  | extension {deviceId version fileNumber : Int64} (hid : data.HoldsNumber "deviceId" deviceId)
    (hversion : data.HoldsNumber "version" version) (hbackend : deviceId.toUInt64 = backendID)
    (hnumber : data.HoldsNumber "fileNumber" fileNumber)
    (h : ExtensionThrows codec allocates fileNumber j data)

/-- The contents on which `CheckCacheFileExtension` throws. -/
inductive CacheFileThrows (codec : JsonCodec) (j data : Json) : Prop
  | deviceId (h : data.HoldsOther "deviceId")
  | fileNumber {deviceId : Int64} (hid : data.HoldsNumber "deviceId" deviceId)
    (h : data.HoldsNoInt "fileNumber")
  | version {deviceId : Int64} {fileNumber : Int32} (hid : data.HoldsNumber "deviceId" deviceId)
    (hnumber : data.HoldsInt "fileNumber" fileNumber) (h : data.HoldsNoInt "version")
  | checkSum {deviceId : Int64} {fileNumber version : Int32}
    (hid : data.HoldsNumber "deviceId" deviceId) (hnumber : data.HoldsInt "fileNumber" fileNumber)
    (hversion : data.HoldsInt "version" version)
    (hdump : strncpySucceeds (codec.dump data).length = true) (h : j.HoldsOther "CheckSum")

/-- The contents from which `GetModelSizeFromCache` can make a size. -/
def HoldsLimit (j : Json) : Prop :=
  ∃ data v, j.find? "data" = some data ∧ data.HoldsNumber "isExceedRamLimit" v

/-- A computation returns. -/
def Returns {α ε : Type} (x : Except ε α) : Prop :=
  ∃ a, x = .ok a

theorem returns_ok {α ε : Type} (a : α) : Returns (.ok a : Except ε α) :=
  ⟨a, rfl⟩

theorem not_returns_error {α ε : Type} (e : ε) : ¬ Returns (.error e : Except ε α) :=
  not_exists_ok_error

/-- The loop reads all positions exactly if they hold numbers. -/
theorem holdsNumbers_iff {sums : Json} {n : Nat} :
    sums.HoldsNumbers n ↔
      ∃ list, ((List.range n).mapM fun i => sums.getInt64At i) = .ok list := by
  constructor
  · intro h
    refine ⟨_, mapM_eq_ok (g := fun i => (sums.getInt64At i).toOption.getD 0) fun i hi => ?_⟩
    obtain ⟨v, hv⟩ := h i (List.mem_range.mp hi)
    rw [hv]
    rfl
  · rintro ⟨list, hlist⟩ i hi
    obtain ⟨v, hv, -⟩ := getElem?_of_mapM_range hlist hi
    exact ⟨v, hv⟩

/-- The loop over a list stops at the first position without a number. -/
theorem readModelCheckSum_returns_iff {sums : Json} {n : Nat} :
    Returns (readModelCheckSum sums n) ↔ sums.HoldsNumbers n := by
  unfold readModelCheckSum
  rw [holdsNumbers_iff]
  constructor
  · rintro ⟨modelCheckSum, hread⟩
    obtain ⟨list, hlist, -⟩ := bind_eq_ok hread
    exact ⟨list, hlist⟩
  · rintro ⟨list, hlist⟩
    rw [hlist]
    exact returns_ok _

/-- `CheckCacheInfoExtension` on a record that throws. -/
theorem ExtensionThrows.not_returns {info : NNCompiledCacheInfo}
    (h : ExtensionThrows codec allocates info.fileNumber j data) :
    ¬ Returns (checkCacheInfoExtension codec info j data allocates) := by
  cases h with
  | checkSum hdump h =>
    obtain ⟨member, hmember, hthrows⟩ := h
    simp only [checkCacheInfoExtension, hdump, Bool.not_true, Bool.false_eq_true, if_false, hmember,
      hthrows, error_bind]
    exact not_returns_error _
  | resize hdump hsum h =>
    obtain ⟨member, hmember, hsum⟩ := hsum
    simp only [checkCacheInfoExtension, hdump, Bool.not_true, Bool.false_eq_true, if_false, hmember,
      hsum, ok_bind, ne_eq, not_true_eq_false]
    by_cases hlarge : info.fileNumber.toUInt64.toNat > vectorMaxSize
    · rw [if_pos hlarge]
      exact not_returns_error _
    · rw [if_neg hlarge, if_pos (h.resolve_left hlarge)]
      exact not_returns_error _
  | modelCheckSum hverified h =>
    obtain ⟨hdump, ⟨member, hmember, hsum⟩, hsize, hmemory, hsums⟩ := hverified
    simp only [checkCacheInfoExtension, hdump, Bool.not_true, Bool.false_eq_true, if_false, hmember,
      hsum, ok_bind, ne_eq, not_true_eq_false, hmemory, Bool.true_eq_false, hsums]
    rw [if_neg (Nat.not_lt.mpr hsize)]
    rintro ⟨result, hresult⟩
    obtain ⟨modelCheckSum, hread, -⟩ := bind_eq_ok hresult
    exact h (readModelCheckSum_returns_iff.mp ⟨modelCheckSum, hread⟩)
  | opVersion hverified hnumbers h =>
    obtain ⟨hdump, ⟨member, hmember, hsum⟩, hsize, hmemory, hsums⟩ := hverified
    obtain ⟨modelCheckSum, hread⟩ := readModelCheckSum_returns_iff.mpr hnumbers
    obtain ⟨op, hop, hthrows⟩ := h
    simp only [checkCacheInfoExtension, hdump, Bool.not_true, Bool.false_eq_true, if_false, hmember,
      hsum, ok_bind, ne_eq, not_true_eq_false, hmemory, Bool.true_eq_false, hsums, hread, hop,
      hthrows, error_bind]
    rw [if_neg (Nat.not_lt.mpr hsize)]
    exact not_returns_error _
  | isExceedRamLimit hverified hnumbers hop h =>
    obtain ⟨hdump, ⟨member, hmember, hsum⟩, hsize, hmemory, hsums⟩ := hverified
    obtain ⟨modelCheckSum, hread⟩ := readModelCheckSum_returns_iff.mpr hnumbers
    obtain ⟨limit, hlimit, hthrows⟩ := h
    rcases data.holds_cases "opVersion" with hnone | ⟨v, op, hfound, hv⟩ | hother
    · simp only [checkCacheInfoExtension, hdump, Bool.not_true, Bool.false_eq_true, if_false,
        hmember, hsum, ok_bind, ne_eq, not_true_eq_false, hmemory, Bool.true_eq_false, hsums, hread,
        hnone, pure_eq_ok, hlimit, hthrows, error_bind]
      rw [if_neg (Nat.not_lt.mpr hsize)]
      exact not_returns_error _
    · simp only [checkCacheInfoExtension, hdump, Bool.not_true, Bool.false_eq_true, if_false,
        hmember, hsum, ok_bind, ne_eq, not_true_eq_false, hmemory, Bool.true_eq_false, hsums, hread,
        hfound, hv, hlimit, hthrows, error_bind]
      rw [if_neg (Nat.not_lt.mpr hsize)]
      exact not_returns_error _
    · exact absurd hother hop

/-- A reader returns whose last member is missing or a number. -/
theorem returns_lastMember {α : Type} {key : String} (h : ¬ data.HoldsOther key) (missing : α)
    (found : Int64 → α) :
    Returns (match data.find? key with
      | none => .ok missing
      | some member => member.getInt64 >>= fun v => .ok (found v) : Except Fault α) := by
  rcases data.holds_cases key with hnone | ⟨v, member, hfound, hv⟩ | hother
  · rw [hnone]
    exact returns_ok _
  · rw [hfound]
    dsimp only
    rw [hv]
    exact returns_ok _
  · exact absurd hother h

/-- `CheckCacheInfoExtension` on a record that does not. -/
theorem checkCacheInfoExtension_returns {info : NNCompiledCacheInfo}
    (h : ¬ ExtensionThrows codec allocates info.fileNumber j data) :
    Returns (checkCacheInfoExtension codec info j data allocates) := by
  unfold checkCacheInfoExtension
  dsimp only
  cases hdump : strncpySucceeds (codec.dump data).length with
  | false => exact returns_ok _
  | true =>
    rw [if_neg (by decide)]
    rcases j.holds_cases "CheckSum" with hnone | ⟨checkSum, hsum⟩ | hother
    · rw [hnone]
      exact returns_ok _
    swap
    · exact absurd (.checkSum hdump hother) h
    obtain ⟨member, hmember, hvalue⟩ := id hsum
    rw [hmember]
    dsimp only
    rw [hvalue, ok_bind]
    split
    · exact returns_ok _
    rename_i hequal
    rw [← not_ne_iff.mp hequal] at hsum
    split
    · rename_i hlarge
      exact absurd (.resize hdump hsum (Or.inl hlarge)) h
    rename_i hsize
    split
    · rename_i hfull
      exact absurd (.resize hdump hsum (Or.inr hfull)) h
    rename_i hmemory
    cases hsums : data.find? "modelCheckSum" with
    | none => exact returns_ok _
    | some sums =>
      have hverified : Verified codec allocates info.fileNumber j data sums :=
        ⟨hdump, hsum, Nat.not_lt.mp hsize, Bool.not_eq_false _ ▸ hmemory, hsums⟩
      dsimp only
      by_cases hnumbers : sums.HoldsNumbers info.fileNumber.toUInt64.toNat
      swap
      · exact absurd (.modelCheckSum hverified hnumbers) h
      obtain ⟨modelCheckSum, hread⟩ := readModelCheckSum_returns_iff.mpr hnumbers
      have hop : ¬ data.HoldsOther "opVersion" := fun hop => h (.opVersion hverified hnumbers hop)
      have hlimit : ¬ data.HoldsOther "isExceedRamLimit" := fun hlimit =>
        h (.isExceedRamLimit hverified hnumbers hop hlimit)
      rw [hread, ok_bind]
      -- Without an op version the record is older, which is no error.
      rcases data.holds_cases "opVersion" with hnone | ⟨v, op, hfound, hv⟩ | hother
      · rw [hnone]
        exact returns_lastMember hlimit _ _
      · rw [hfound]
        dsimp only
        rw [hv, ok_bind]
        exact returns_lastMember hlimit _ _
      · exact absurd hother hop

/-- A reader that returns where there is no record to look at. -/
theorem returns_record_iff {α : Type} {x : Except Fault α} {T : Json → Json → Prop}
    (hunparsed : codec.parse content = none → Returns x)
    (hmissing : ∀ j, codec.parse content = some j → j.find? "data" = none → Returns x)
    (hrecord : ∀ j data, codec.parse content = some j → j.find? "data" = some data →
      (Returns x ↔ ¬ T j data)) :
    Returns x ↔
      ∀ j data, codec.parse content = some j → j.find? "data" = some data → ¬ T j data := by
  constructor
  · intro hreturns j data hparse hdata
    exact (hrecord j data hparse hdata).mp hreturns
  · intro h
    cases hparse : codec.parse content with
    | none => exact hunparsed hparse
    | some j =>
      cases hdata : j.find? "data" with
      | none => exact hmissing j hparse hdata
      | some data => exact (hrecord j data hparse hdata).mpr (h j data hparse hdata)

/-- `CheckCacheInfo` on a record that throws. -/
theorem RecordThrows.not_returns (hparse : codec.parse content = some j)
    (hdata : j.find? "data" = some data) (h : RecordThrows codec backendID allocates j data) :
    ¬ Returns (checkCacheInfo codec backendID (some content) allocates) := by
  cases h with
  | deviceId h =>
    obtain ⟨member, hmember, hthrows⟩ := h
    simp only [checkCacheInfo, hparse, hdata, hmember, hthrows, error_bind]
    exact not_returns_error _
  | version hid h =>
    obtain ⟨idMember, hidMember, hid⟩ := hid
    obtain ⟨member, hmember, hthrows⟩ := h
    simp only [checkCacheInfo, hparse, hdata, hidMember, hid, ok_bind, hmember, hthrows, error_bind]
    exact not_returns_error _
  | fileNumber hid hversion hbackend h =>
    obtain ⟨idMember, hidMember, hid⟩ := hid
    obtain ⟨versionMember, hversionMember, hversion⟩ := hversion
    obtain ⟨member, hmember, hthrows⟩ := h
    simp only [checkCacheInfo, hparse, hdata, hidMember, hid, ok_bind, hversionMember, hversion,
      hbackend, ne_eq, not_true_eq_false, if_false, hmember, hthrows, error_bind]
    exact not_returns_error _
  | extension hid hversion hbackend hnumber h =>
    obtain ⟨idMember, hidMember, hid⟩ := hid
    obtain ⟨versionMember, hversionMember, hversion⟩ := hversion
    obtain ⟨member, hmember, hnumber⟩ := hnumber
    simp only [checkCacheInfo, hparse, hdata, hidMember, hid, ok_bind, hversionMember, hversion,
      hbackend, ne_eq, not_true_eq_false, if_false, hmember, hnumber]
    exact h.not_returns

/-- `CheckCacheInfo` on a record that does not. -/
theorem checkCacheInfo_returns (hparse : codec.parse content = some j)
    (hdata : j.find? "data" = some data) (h : ¬ RecordThrows codec backendID allocates j data) :
    Returns (checkCacheInfo codec backendID (some content) allocates) := by
  unfold checkCacheInfo
  dsimp only
  rw [hparse]
  dsimp only
  rw [hdata]
  dsimp only
  rcases data.holds_cases "deviceId" with hnone | ⟨deviceId, hid⟩ | hother
  · rw [hnone]
    exact returns_ok _
  swap
  · exact absurd (.deviceId hother) h
  obtain ⟨idMember, hidMember, hidValue⟩ := id hid
  rw [hidMember]
  dsimp only
  rw [hidValue, ok_bind]
  rcases data.holds_cases "version" with hnone | ⟨version, hversion⟩ | hother
  · rw [hnone]
    exact returns_ok _
  swap
  · exact absurd (.version hid hother) h
  obtain ⟨versionMember, hversionMember, hversionValue⟩ := id hversion
  rw [hversionMember]
  dsimp only
  rw [hversionValue, ok_bind]
  -- A record of another backend is refused before its number of files is looked at.
  by_cases hbackend : deviceId.toUInt64 = backendID
  swap
  · rw [if_pos hbackend]
    exact returns_ok _
  rw [if_neg (not_not_intro hbackend)]
  rcases data.holds_cases "fileNumber" with hnone | ⟨fileNumber, hnumber⟩ | hother
  · rw [hnone]
    exact returns_ok _
  swap
  · exact absurd (.fileNumber hid hversion hbackend hother) h
  obtain ⟨member, hmember, hvalue⟩ := id hnumber
  rw [hmember]
  dsimp only
  rw [hvalue, ok_bind]
  exact checkCacheInfoExtension_returns fun hext =>
    h (.extension hid hversion hbackend hnumber hext)

/-- **`CheckCacheInfo`** returns unless it throws at a member of the record. -/
theorem checkCacheInfo_returns_iff :
    Returns (checkCacheInfo codec backendID (some content) allocates) ↔
      ∀ j data, codec.parse content = some j → j.find? "data" = some data →
        ¬ RecordThrows codec backendID allocates j data := by
  refine returns_record_iff (fun hparse => ?_) (fun j hparse hdata => ?_)
    fun j data hparse hdata => ?_
  · simp only [checkCacheInfo, hparse]
    exact returns_ok _
  · simp only [checkCacheInfo, hparse, hdata]
    exact returns_ok _
  · exact ⟨fun hreturns h => h.not_returns hparse hdata hreturns,
      checkCacheInfo_returns hparse hdata⟩

/-- `CheckCacheFileExtension` on a record that throws. -/
theorem CacheFileThrows.not_returns (hparse : codec.parse content = some j)
    (hdata : j.find? "data" = some data) (h : CacheFileThrows codec j data) :
    ¬ Returns (checkCacheFileExtension codec content) := by
  cases h with
  | deviceId h =>
    obtain ⟨member, hmember, hthrows⟩ := h
    simp only [checkCacheFileExtension, hparse, hdata, hmember, hthrows, error_bind]
    exact not_returns_error _
  | fileNumber hid h =>
    obtain ⟨idMember, hidMember, hid⟩ := hid
    obtain ⟨member, fault, hmember, hthrows⟩ := h
    simp only [checkCacheFileExtension, hparse, hdata, hidMember, hid, ok_bind, hmember, hthrows,
      error_bind]
    exact not_returns_error _
  | version hid hnumber h =>
    obtain ⟨idMember, hidMember, hid⟩ := hid
    obtain ⟨numberMember, hnumberMember, hnumber⟩ := hnumber
    obtain ⟨member, fault, hmember, hthrows⟩ := h
    simp only [checkCacheFileExtension, hparse, hdata, hidMember, hid, ok_bind, hnumberMember,
      hnumber, hmember, hthrows, error_bind]
    exact not_returns_error _
  | checkSum hid hnumber hversion hdump h =>
    obtain ⟨idMember, hidMember, hid⟩ := hid
    obtain ⟨numberMember, hnumberMember, hnumber⟩ := hnumber
    obtain ⟨versionMember, hversionMember, hversion⟩ := hversion
    obtain ⟨member, hmember, hthrows⟩ := h
    simp only [checkCacheFileExtension, hparse, hdata, hidMember, hid, ok_bind, hnumberMember,
      hnumber, hversionMember, hversion, hmember, hdump, Bool.not_true, Bool.false_eq_true,
      if_false, hthrows, error_bind]
    exact not_returns_error _

/-- `CheckCacheFileExtension` on a record that does not. -/
theorem checkCacheFileExtension_returns (hparse : codec.parse content = some j)
    (hdata : j.find? "data" = some data) (h : ¬ CacheFileThrows codec j data) :
    Returns (checkCacheFileExtension codec content) := by
  unfold checkCacheFileExtension
  dsimp only
  rw [hparse]
  dsimp only
  rw [hdata]
  dsimp only
  rcases data.holds_cases "deviceId" with hnone | ⟨deviceId, hid⟩ | hother
  · rw [hnone]
    exact returns_ok _
  swap
  · exact absurd (.deviceId hother) h
  obtain ⟨idMember, hidMember, hidValue⟩ := id hid
  rw [hidMember]
  dsimp only
  rw [hidValue, ok_bind]
  rcases data.holdsInt_cases "fileNumber" with hnone | ⟨fileNumber, hnumber⟩ | hother
  · rw [hnone]
    exact returns_ok _
  swap
  · exact absurd (.fileNumber hid hother) h
  obtain ⟨numberMember, hnumberMember, hnumberValue⟩ := id hnumber
  rw [hnumberMember]
  dsimp only
  rw [hnumberValue, ok_bind]
  rcases data.holdsInt_cases "version" with hnone | ⟨version, hversion⟩ | hother
  · rw [hnone]
    exact returns_ok _
  swap
  · exact absurd (.version hid hnumber hother) h
  obtain ⟨versionMember, hversionMember, hversionValue⟩ := id hversion
  rw [hversionMember]
  dsimp only
  rw [hversionValue, ok_bind]
  -- The checksum is looked for in front of `strncpy_s` and converted behind it.
  rcases j.holds_cases "CheckSum" with hnone | ⟨checkSum, hchecksum⟩ | hother
  · rw [hnone]
    exact returns_ok _
  · obtain ⟨member, hmember, hvalue⟩ := id hchecksum
    rw [hmember]
    dsimp only
    split
    · exact returns_ok _
    rw [hvalue, ok_bind]
    split
    · exact returns_ok _
    · exact returns_ok _
  · obtain ⟨member, hmember, -⟩ := id hother
    rw [hmember]
    dsimp only
    cases hdump : strncpySucceeds (codec.dump data).length with
    | false => exact returns_ok _
    | true => exact absurd (.checkSum hid hnumber hversion hdump hother) h

/-- **`CheckCacheFileExtension`** returns unless it throws at a member of the record. -/
theorem checkCacheFileExtension_returns_iff :
    Returns (checkCacheFileExtension codec content) ↔
      ∀ j data, codec.parse content = some j → j.find? "data" = some data →
        ¬ CacheFileThrows codec j data := by
  refine returns_record_iff (fun hparse => ?_) (fun j hparse hdata => ?_)
    fun j data hparse hdata => ?_
  · simp only [checkCacheFileExtension, hparse]
    exact returns_ok _
  · simp only [checkCacheFileExtension, hparse, hdata]
    exact returns_ok _
  · exact ⟨fun hreturns h => h.not_returns hparse hdata hreturns,
      checkCacheFileExtension_returns hparse hdata⟩

/-- `["data"]` and `["isExceedRamLimit"]` find the member that is meant. -/
theorem holdsLimit_iff : HoldsLimit j ↔
    ∃ v data, j.subscript "data" = .ok data ∧ data.HoldsNumber "isExceedRamLimit" v := by
  constructor
  · rintro ⟨data, v, hdata, hnumber⟩
    exact ⟨v, Json.subscript_holdsNumber_iff.mpr ⟨data, hdata, hnumber⟩⟩
  · rintro ⟨v, hholds⟩
    obtain ⟨data, hdata, hnumber⟩ := Json.subscript_holdsNumber_iff.mp hholds
    exact ⟨data, v, hdata, hnumber⟩

/-- **`GetModelSizeFromCache`** returns from a directory with a record unless it opens the
record, can parse it, and misses the member it only warns about. -/
theorem getModelSizeFromCache_returns_iff {io : IoFaults} {fs : FileSystem}
    {path modelName : String} {modelSizeFromFile : UInt64}
    (hfile : fs.find? path (infoFileName modelName) = some content) :
    Returns (getModelSizeFromCache codec io fs path modelName modelSizeFromFile) ↔
      (io.reads (infoFileName modelName) ≠ .realpathFails →
        io.reads (infoFileName modelName) ≠ .openFails →
          ∀ j, codec.parse content = some j → HoldsLimit j) := by
  have hpath : path ≠ "" := FileSystem.cacheDir_ne_of_find? hfile
  have hdirectory : ¬ (fs.realpath path).isNone = true := by
    obtain ⟨dir, hdir⟩ := FileSystem.realpath_of_find? hfile
    rw [hdir]
    exact Bool.false_ne_true
  unfold getModelSizeFromCache
  rw [if_neg hdirectory, if_neg hpath, hfile]
  split
  · rename_i heq
    cases heq
  · rename_i hfails _
    exact iff_of_true (returns_ok _) fun hrealpath => absurd hfails hrealpath
  · rename_i hfails _
    exact iff_of_true (returns_ok _) fun _ hopen => absurd hfails hopen
  · rename_i heq hrealpath hopen
    cases heq
    have hreads : (io.reads (infoFileName modelName) ≠ .realpathFails →
        io.reads (infoFileName modelName) ≠ .openFails →
          ∀ j, codec.parse content = some j → HoldsLimit j) ↔
        ∀ j, codec.parse content = some j → HoldsLimit j :=
      ⟨fun h => h hrealpath hopen, fun h _ _ => h⟩
    rw [hreads]
    cases hparse : codec.parse content with
    | none =>
      refine iff_of_true (returns_ok _) ?_
      rintro j hj
      cases hj
    | some j =>
      dsimp only
      constructor
      · rintro ⟨size, hsize⟩ j' hj
        cases hj
        obtain ⟨data, hdata, hsize⟩ := bind_eq_ok hsize
        obtain ⟨v, hv, -⟩ := bind_eq_ok hsize
        exact holdsLimit_iff.mpr ⟨v, data, hdata, Json.subscript_getInt64_iff.mp hv⟩
      · intro h
        obtain ⟨v, data, hdata, hnumber⟩ := holdsLimit_iff.mp (h j rfl)
        rw [hdata, ok_bind, Json.subscript_getInt64_iff.mpr hnumber, ok_bind]
        exact returns_ok _

/-! ## The readers together -/

/-- What a record that is accepted has been made of. -/
structure ReadFromList (codec : JsonCodec) (content : Bytes) (info : NNCompiledCacheInfo) :
    Prop where
  nonneg : 0 ≤ info.fileNumber
  length : (info.modelCheckSum.length : Int) = info.fileNumber.toInt
  elements : ∃ j data sums, codec.parse content = some j ∧ j.find? "data" = some data ∧
    data.find? "modelCheckSum" = some sums ∧
      ∀ i < info.modelCheckSum.length, ∃ v, sums.getInt64At i = .ok v ∧
        info.modelCheckSum[i]? = some v.toUInt64.toUInt16

theorem Accepted.readFromList {info : NNCompiledCacheInfo}
    (h : Accepted codec content j data info) :
    ReadFromList codec content info := by
  have hint := toInt_of_size h.size
  obtain ⟨sums, hsums, hread⟩ := h.modelCheckSum
  obtain ⟨list, hlist, hnarrow⟩ := bind_eq_ok (show _ >>= _ = _ from hread)
  refine ⟨?_, ?_, j, data, sums, h.parse, h.dataMember, hsums, fun i hi => ?_⟩
  · rw [Int64.le_iff_toInt_le, Int64.toInt_zero, hint]
    exact Int.natCast_nonneg _
  · rw [h.length_eq, hint]
  · rw [h.length_eq] at hi
    obtain ⟨v, hv, hget⟩ := getElem?_of_mapM_range hlist hi
    refine ⟨v, hv, ?_⟩
    rw [← Except.ok.inj hnarrow, List.getElem?_map, hget]
    rfl

/-- All readers of a record return, also from the loops of the one that fills a vector, and
what that one accepts comes from the list in the record. -/
structure ReadersReturn (codec : JsonCodec) (backendID : UInt64) (allocates : Nat → Bool)
    (content : Bytes) : Prop where
  checkCacheInfo : Returns (checkCacheInfo codec backendID (some content) allocates)
  accepted : ∀ info, NNRt.checkCacheInfo codec backendID (some content) allocates
    = .ok (.success, info) → ReadFromList codec content info
  loops : ∀ j data sums fileNumber, codec.parse content = some j → j.find? "data" = some data →
    Verified codec allocates fileNumber j data sums → LoopsEnd sums fileNumber
  checkCacheFileExtension : Returns (checkCacheFileExtension codec content)
  getModelSizeFromCache : ∀ io fs path modelName modelSizeFromFile,
    fs.find? path (infoFileName modelName) = some content →
      Returns (getModelSizeFromCache codec io fs path modelName modelSizeFromFile)

/-- The contents on which a reader throws. -/
inductive ReadersThrow (codec : JsonCodec) (backendID : UInt64) (allocates : Nat → Bool)
    (content : Bytes) : Prop
  | checkCacheInfo {j data : Json} (hparse : codec.parse content = some j)
    (hdata : j.find? "data" = some data) (h : RecordThrows codec backendID allocates j data)
  | checkCacheFileExtension {j data : Json} (hparse : codec.parse content = some j)
    (hdata : j.find? "data" = some data) (h : CacheFileThrows codec j data)
  | getModelSizeFromCache {j : Json} (hparse : codec.parse content = some j) (h : ¬ HoldsLimit j)

/-- The loops are entered behind `strncpy_s`, which refuses texts of `2 ^ 31 - 1` bytes. -/
theorem Verified.loopsEnd {fileNumber : Int64} {sums : Json} (hcodec : codec.SpellsLists)
    (h : Verified codec allocates fileNumber j data sums) : LoopsEnd sums fileNumber := by
  refine loopsEnd_of_short h.size ?_
  rintro xs rfl
  have hlen := hcodec data "modelCheckSum" xs h.modelCheckSum
  have hdump : (codec.dump data).length + 1 ≤ 2 ^ 31 - 1 := of_decide_eq_true h.dump
  omega

/-- **The readers of `cache_info`.** Whatever the file holds, all three return and what is
accepted comes from the list in it, if and only if none of them throws at one of these
places. -/
theorem readersReturn_iff (hcodec : codec.SpellsLists) (backendID : UInt64)
    (allocates : Nat → Bool) (content : Bytes) :
    ReadersReturn codec backendID allocates content ↔
      ¬ ReadersThrow codec backendID allocates content := by
  constructor
  · intro hreturns h
    cases h with
    | checkCacheInfo hparse hdata h =>
      exact checkCacheInfo_returns_iff.mp hreturns.checkCacheInfo _ _ hparse hdata h
    | checkCacheFileExtension hparse hdata h =>
      have hreader := hreturns.checkCacheFileExtension
      exact checkCacheFileExtension_returns_iff.mp hreader _ _ hparse hdata h
    | getModelSizeFromCache hparse h =>
      -- Any directory with these contents will do.
      have hfile : ((FileSystem.single "/data" dataDir_ne).write "/data" (infoFileName "")
          content).find? "/data" (infoFileName "") = some content :=
        FileSystem.find?_write rfl
      have hsize := hreturns.getModelSizeFromCache {} _ _ _ 0 hfile
      exact h ((getModelSizeFromCache_returns_iff hfile).mp hsize (by decide) (by decide) _ hparse)
  · intro h
    refine ⟨?_, ?_, ?_, ?_, ?_⟩
    · exact checkCacheInfo_returns_iff.mpr fun j data hparse hdata hthrows =>
        h (.checkCacheInfo hparse hdata hthrows)
    · intro info hinfo
      obtain ⟨-, j, data, haccepted⟩ := checkCacheInfo_success hinfo
      exact haccepted.readFromList
    · intro j data sums fileNumber _ _ hverified
      exact hverified.loopsEnd hcodec
    · exact checkCacheFileExtension_returns_iff.mpr fun j data hparse hdata hthrows =>
        h (.checkCacheFileExtension hparse hdata hthrows)
    · intro io fs path modelName modelSizeFromFile hfile
      refine (getModelSizeFromCache_returns_iff hfile).mpr fun _ _ j hparse => ?_
      by_contra hlimit
      exact h (.getModelSizeFromCache hparse hlimit)

end Readers

/-! ## The compact text -/

theorem length_textElems (xs : List Json) : xs.length ≤ (Json.textElems xs).length := by
  induction xs with
  | nil => exact Nat.zero_le _
  | cons x xs ih =>
    rw [Json.textElems, List.length_cons, List.length_cons, List.length_append]
    omega

theorem length_text_arr (xs : List Json) : xs.length ≤ (Json.text (.arr xs)).length := by
  cases xs with
  | nil => exact Nat.zero_le _
  | cons x xs =>
    have helems := length_textElems xs
    rw [Json.text, List.length_cons, List.length_cons, List.length_append]
    omega

theorem length_textMembers {key : String} {x : Json} {members : List (String × Json)}
    (h : (key, x) ∈ members) : (Json.text x).length ≤ (Json.textMembers members).length := by
  induction members with
  | nil => cases h
  | cons member members ih =>
    obtain ⟨key', x'⟩ := member
    rw [Json.textMembers]
    simp only [List.length_cons, List.length_append]
    rcases List.mem_cons.mp h with heq | hmem
    · cases heq
      omega
    · have hlen := ih hmem
      omega

theorem length_text_obj {key : String} {x : Json} {members : List (String × Json)}
    (h : (key, x) ∈ members) : (Json.text x).length ≤ (Json.text (.obj members)).length := by
  cases members with
  | nil => cases h
  | cons member members =>
    -- The text of an object differs from the end of a longer one by its first character.
    have hlen := length_textMembers h
    obtain ⟨key', x'⟩ := member
    rw [Json.textMembers, List.length_cons] at hlen
    rw [Json.text, List.length_cons]
    exact hlen

/-- The compact text spells lists out. -/
theorem compact_spellsLists : JsonCodec.compact.SpellsLists := by
  intro data key xs hdata
  have harr := length_text_arr xs
  cases data with
  | obj members =>
    obtain ⟨before, after, rfl, -⟩ := List.lookup_eq_some_iff.mp hdata
    show xs.length ≤ (Json.toBytes (Json.text (.obj _))).length
    rw [Json.toBytes, List.length_map]
    have hmem : (key, Json.arr xs) ∈ before ++ (key, .arr xs) :: after :=
      List.mem_append_right _ List.mem_cons_self
    have hlen := length_text_obj hmem
    omega
  | null | bool b | int i | float v | str s | arr ys => cases hdata

/-! ## Concrete contents -/

/-- The record of two cache files of version 5, of a model over the memory limit. -/
def twoFiles : NNCompiledCacheInfo where
  fileNumber := 2
  version := 5
  deviceId := 1
  modelCheckSum := [0xfffe, 0x0107]
  opVersion := 3
  isExceedRamLimit := 1

/-- A record whose `deviceId` is a string. -/
def stringDeviceId : Json :=
  .obj [("data", .obj [("deviceId", .str "x")])]

theorem parse_stringDeviceId :
    JsonCodec.compact.parse (Json.toBytes stringDeviceId.text) = some stringDeviceId := by
  show Json.parse (Json.ofBytes (Json.toBytes stringDeviceId.text)) = some stringDeviceId
  refine Json.parse_ofBytes_bare ?_
  simp only [stringDeviceId, Json.Plain, Json.PlainMembers, and_true]
  decide

theorem twoFiles_wellFormed : twoFiles.WellFormed :=
  ⟨rfl, by decide, by decide⟩

/-- A whole record is accepted, and read by the two others. -/
theorem readersReturn_iff_twoFiles :
    checkCacheInfo .compact 1 (some (cacheInfoText .compact twoFiles)) = .ok (.success, twoFiles) ∧
      ReadersReturn .compact 1 ampleMemory (cacheInfoText .compact twoFiles) := by
  have hparse := compact_faithful.parse_dump twoFiles
  have hinfo : checkCacheInfo .compact 1 (some (cacheInfoText .compact twoFiles))
      = .ok (.success, twoFiles) :=
    twoFiles_wellFormed.checkCacheInfo_eq compact_faithful hparse 1
  have hfile := checkCacheFileExtension_parsed compact_faithful twoFiles_wellFormed hparse
  refine ⟨hinfo, (readersReturn_iff compact_spellsLists 1 ampleMemory _).mpr fun h => ?_⟩
  cases h with
  | checkCacheInfo hparse' hdata h =>
    exact checkCacheInfo_returns_iff.mp ⟨_, hinfo⟩ _ _ hparse' hdata h
  | checkCacheFileExtension hparse' hdata h =>
    exact checkCacheFileExtension_returns_iff.mp ⟨_, hfile⟩ _ _ hparse' hdata h
  | getModelSizeFromCache hparse' h =>
    cases hparse.symm.trans hparse'
    exact h ⟨_, 1, rfl, .int 1, rfl, rfl⟩

/-- All three readers throw at the string, or at the member that is missing. -/
theorem stringDeviceId_throws :
    checkCacheInfo .compact 1 (some (Json.toBytes stringDeviceId.text)) = .error .typeError ∧
      checkCacheFileExtension .compact (Json.toBytes stringDeviceId.text) = .error .typeError ∧
      getModelSizeFromCache .compact {} ((FileSystem.single "/data" dataDir_ne).write "/data"
        (infoFileName "m") (Json.toBytes stringDeviceId.text)) "/data" "m" 0 = .error .typeError ∧
      ¬ ReadersReturn .compact 1 ampleMemory (Json.toBytes stringDeviceId.text) := by
  have hinfo : checkCacheInfo .compact 1 (some (Json.toBytes stringDeviceId.text))
      = .error .typeError := by
    unfold checkCacheInfo
    dsimp only
    rw [parse_stringDeviceId]
    rfl
  refine ⟨hinfo, ?_, ?_, fun hreturns => ?_⟩
  · unfold checkCacheFileExtension
    rw [parse_stringDeviceId]
    rfl
  · unfold getModelSizeFromCache
    rw [FileSystem.find?_write rfl]
    dsimp only
    rw [parse_stringDeviceId]
    rfl
  · have hreturn := hreturns.checkCacheInfo
    rw [hinfo] at hreturn
    exact not_returns_error _ hreturn

end NNRt
