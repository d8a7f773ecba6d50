import NNRt.Cache.Json

/-!
# The record in `cache_info`

`NNCompiledCacheInfo` and its JSON form. Two functions of the source write the
record (`GenerateCacheModel`, and the op-version update of
`RestoreFromCacheFile`) and `CheckCacheInfo` with `CheckCacheInfoExtension`
reads it.

- `cacheInfoJson`: what the writers build out of a record.
- `checkCacheInfo`: the reader, on any JSON value.
- `checkCacheInfo_written`: **the reader inverts the writers**, for any
  record with as many checksums as files, when the codec is faithful.
-/

namespace NNRt

/-- `NNCompiledCacheInfo`. -/
structure NNCompiledCacheInfo where
  fileNumber : Int64 := 0
  version : Int64 := 0
  deviceId : Int64 := 0
  modelCheckSum : List UInt16 := []
  opVersion : Int64 := 0
  isExceedRamLimit : Int64 := 0
  deriving DecidableEq, Repr

/-! ## Writing -/

/-- `cacheInfo["data"]["modelCheckSum"]`: the array exists once an element has
been assigned. -/
def modelCheckSumMember : List UInt16 → List (String × Json)
  | [] => []
  | sums => [("modelCheckSum", .arr (sums.map fun sum => .int sum.toNat))]

/-- `cacheInfo["data"]`. -/
def cacheInfoData (info : NNCompiledCacheInfo) : Json :=
  .obj ([ ("deviceId", .int info.deviceId.toInt),
          ("fileNumber", .int info.fileNumber.toInt),
          ("isExceedRamLimit", .int info.isExceedRamLimit.toInt) ]
    ++ modelCheckSumMember info.modelCheckSum
    ++ [ ("opVersion", .int info.opVersion.toInt),
         ("version", .int info.version.toInt) ])

/-- The whole record: the data and the checksum of its dump. -/
def cacheInfoJson (codec : JsonCodec) (info : NNCompiledCacheInfo) : Json :=
  .obj [ ("CheckSum", .int (cacheInfoGetCrc16 (codec.dump (cacheInfoData info))).toNat),
         ("data", cacheInfoData info) ]

/-- `cacheInfoStream << cacheInfo << std::endl`. -/
def cacheInfoText (codec : JsonCodec) (info : NNCompiledCacheInfo) : Bytes :=
  codec.dump (cacheInfoJson codec info) ++ [10]

/-- `NN_CACHE_FILE_NUMBER_MAX`. -/
def nnCacheFileNumberMax : Nat := 100

/-- The codec reads back every record the runtime writes, and the text of a
record with at most `NN_CACHE_FILE_NUMBER_MAX` checksums is below the limit of
`strncpy_s`. -/
structure JsonCodec.Faithful (codec : JsonCodec) : Prop where
  parse_dump (info : NNCompiledCacheInfo) :
    codec.parse (cacheInfoText codec info) = some (cacheInfoJson codec info)
  dump_short (info : NNCompiledCacheInfo) :
    info.modelCheckSum.length ≤ nnCacheFileNumberMax →
      strncpySucceeds (codec.dump (cacheInfoData info)).length

/-- What the codec makes of a record that did not reach the file whole: nothing,
unless only the newline is missing. -/
structure JsonCodec.Strict (codec : JsonCodec) : Prop where
  parse_cut (info : NNCompiledCacheInfo) (n : Nat) :
    n < (codec.dump (cacheInfoJson codec info)).length →
      codec.parse ((codec.dump (cacheInfoJson codec info)).take n) = none
  parse_bare (info : NNCompiledCacheInfo) :
    codec.parse (codec.dump (cacheInfoJson codec info)) = some (cacheInfoJson codec info)

/-! ## Reading -/

/-- `vector<int64_t>::max_size()`: `resize` beyond it throws `length_error`. -/
def vectorMaxSize : Nat := 2 ^ 60 - 1

/-- A length that a vector can have is the same number as an `int64_t`. -/
theorem toInt_of_size {fileNumber : Int64} (h : fileNumber.toUInt64.toNat ≤ vectorMaxSize) :
    fileNumber.toInt = fileNumber.toUInt64.toNat := by
  simp only [vectorMaxSize] at h
  have hnat : fileNumber.toBitVec.toNat = fileNumber.toUInt64.toNat := rfl
  show fileNumber.toBitVec.toInt = _
  rw [BitVec.toInt_eq_toNat_of_lt (by omega), hnat]

/-- The two loops over the checksums: read every element as `int64_t`, then
narrow it to `unsigned short`. -/
def readModelCheckSum (sums : Json) (fileNumber : Nat) : Except Fault (List UInt16) := do
  let read ← (List.range fileNumber).mapM fun i => sums.getInt64At i
  return read.map fun sum => sum.toUInt64.toUInt16

/-- Memory without a limit: every allocation, given in bytes, succeeds. -/
def ampleMemory : Nat → Bool :=
  fun _ => true

/-- There is memory for `resize(n)` of the `vector<int64_t>` and of the
`vector<unsigned short>`; no element needs none. -/
def resizeSucceeds (allocates : Nat → Bool) (n : Nat) : Bool :=
  n == 0 || allocates (8 * n) && allocates (2 * n)

theorem resizeSucceeds_ample (n : Nat) : resizeSucceeds ampleMemory n = true := by
  simp [resizeSucceeds, ampleMemory]

/-- `CheckCacheInfoExtension`. -/
def checkCacheInfoExtension (codec : JsonCodec) (info : NNCompiledCacheInfo) (j data : Json)
    (allocates : Nat → Bool := ampleMemory) : Except Fault (ReturnCode × NNCompiledCacheInfo) :=
  let jData := codec.dump data
  if !strncpySucceeds jData.length then .ok (.invalidFile, info)
  else
    match j.find? "CheckSum" with
    | none => .ok (.invalidFile, info)
    | some checkSum => do
      let checkSum ← checkSum.getInt64
      if Int64.ofNat (cacheInfoGetCrc16 jData).toNat ≠ checkSum then
        return (.invalidFile, info)
      else if info.fileNumber.toUInt64.toNat > vectorMaxSize then
        throw .lengthError
      else if resizeSucceeds allocates info.fileNumber.toUInt64.toNat = false then
        throw .badAlloc
      else
        -- `resize` has already filled the list with zeros when a member is missing.
        let resized := { info with
          modelCheckSum := List.replicate info.fileNumber.toUInt64.toNat 0 }
        match data.find? "modelCheckSum" with
        | none => return (.invalidFile, resized)
        | some sums =>
          let modelCheckSum ← readModelCheckSum sums info.fileNumber.toUInt64.toNat
          let info := { info with modelCheckSum := modelCheckSum }
          -- The one member a record may lack.
          let opVersion ←
            match data.find? "opVersion" with
            | none => pure info.opVersion
            | some opVersion => opVersion.getInt64
          let info := { info with opVersion := opVersion }
          match data.find? "isExceedRamLimit" with
          | none => return (.invalidFile, info)
          | some isExceedRamLimit =>
            let isExceedRamLimit ← isExceedRamLimit.getInt64
            return (.success, { info with isExceedRamLimit := isExceedRamLimit })

/-- `CheckCacheInfo` for the backend `backendID`, on the content of the file
(`none` when it cannot be opened). -/
def checkCacheInfo (codec : JsonCodec) (backendID : UInt64) (content : Option Bytes)
    (allocates : Nat → Bool := ampleMemory) : Except Fault (ReturnCode × NNCompiledCacheInfo) :=
  let info : NNCompiledCacheInfo := {}
  match content with
  | none => .ok (.invalidFile, info)
  | some content =>
    match codec.parse content with
    | none => .ok (.invalidFile, info)
    | some j =>
      match j.find? "data" with
      | none => .ok (.invalidFile, info)
      | some data =>
        match data.find? "deviceId" with
        | none => .ok (.invalidFile, info)
        | some deviceId => do
          let info := { info with deviceId := ← deviceId.getInt64 }
          match data.find? "version" with
          | none => return (.invalidFile, info)
          | some version =>
            let info := { info with version := ← version.getInt64 }
            if info.deviceId.toUInt64 ≠ backendID then return (.invalidFile, info)
            else
              match data.find? "fileNumber" with
              | none => return (.invalidFile, info)
              | some fileNumber =>
                let info := { info with fileNumber := ← fileNumber.getInt64 }
                checkCacheInfoExtension codec info j data allocates

/-! ## The reader inverts the writers -/

section RoundTrip

variable {info : NNCompiledCacheInfo}

@[simp] theorem find?_cacheInfoJson_data (codec : JsonCodec) (info : NNCompiledCacheInfo) :
    (cacheInfoJson codec info).find? "data" = some (cacheInfoData info) := rfl

@[simp] theorem find?_cacheInfoJson_checkSum (codec : JsonCodec) (info : NNCompiledCacheInfo) :
    (cacheInfoJson codec info).find? "CheckSum"
      = some (.int (cacheInfoGetCrc16 (codec.dump (cacheInfoData info))).toNat) := rfl

@[simp] theorem find?_cacheInfoData_deviceId (info : NNCompiledCacheInfo) :
    (cacheInfoData info).find? "deviceId" = some (.int info.deviceId.toInt) := rfl

@[simp] theorem find?_cacheInfoData_fileNumber (info : NNCompiledCacheInfo) :
    (cacheInfoData info).find? "fileNumber" = some (.int info.fileNumber.toInt) := rfl

@[simp] theorem find?_cacheInfoData_isExceedRamLimit (info : NNCompiledCacheInfo) :
    (cacheInfoData info).find? "isExceedRamLimit" = some (.int info.isExceedRamLimit.toInt) := rfl

@[simp] theorem find?_cacheInfoData_version (info : NNCompiledCacheInfo) :
    (cacheInfoData info).find? "version" = some (.int info.version.toInt) := by
  rcases info with ⟨_, _, _, sums, _, _⟩
  cases sums <;> rfl

@[simp] theorem find?_cacheInfoData_opVersion (info : NNCompiledCacheInfo) :
    (cacheInfoData info).find? "opVersion" = some (.int info.opVersion.toInt) := by
  rcases info with ⟨_, _, _, sums, _, _⟩
  cases sums <;> rfl

theorem find?_cacheInfoData_modelCheckSum (h : info.modelCheckSum ≠ []) :
    (cacheInfoData info).find? "modelCheckSum"
      = some (.arr (info.modelCheckSum.map fun sum => .int sum.toNat)) := by
  rcases info with ⟨_, _, _, sums, _, _⟩
  cases sums with
  | nil => exact absurd rfl h
  | cons sum sums => rfl

/-- A checksum survives `unsigned short → int64_t → uint64_t → JSON → int64_t →
unsigned short`. -/
theorem narrow_checkSum (sum : UInt16) :
    (Int64.ofInt sum.toNat).toUInt64.toUInt16 = sum := by
  have hlt := sum.toNat_lt
  rw [Int64.ofInt_eq_ofNat, Int64.toUInt64_ofNat']
  apply UInt16.toNat_inj.mp
  rw [UInt64.toNat_toUInt16, UInt64.toNat_ofNat']
  omega

/-- Reading the checksums back, element by element. -/
theorem readModelCheckSum_written (sums : List UInt16) :
    readModelCheckSum (.arr (sums.map fun sum => .int sum.toNat)) sums.length = .ok sums := by
  have hread : (List.range sums.length).mapM
      (fun i => (Json.arr (sums.map fun sum => .int sum.toNat)).getInt64At i)
      = .ok ((List.range sums.length).map
          fun i => Int64.ofInt ((sums.map UInt16.toNat)[i]?.getD 0 : Nat)) := by
    apply mapM_eq_ok
    intro i hi
    have hi : i < sums.length := List.mem_range.mp hi
    simp [Json.getInt64At, hi]
  rw [readModelCheckSum, hread]
  show Except.ok _ = Except.ok _
  rw [List.map_map]
  congr 1
  apply List.ext_getElem
  · simp
  · intro i hi hi'
    simp [hi', narrow_checkSum]

/-- What a text of the record that may be cut off is read as. -/
theorem parse_take_cacheInfoText {codec : JsonCodec} (hc : codec.Faithful) (hs : codec.Strict)
    (info : NNCompiledCacheInfo) (n : Nat) :
    codec.parse ((cacheInfoText codec info).take n)
      = if n < (codec.dump (cacheInfoJson codec info)).length then none
        else some (cacheInfoJson codec info) := by
  by_cases hn : n < (codec.dump (cacheInfoJson codec info)).length
  · rw [if_pos hn, cacheInfoText, List.take_append_of_le_length (by omega)]
    exact hs.parse_cut info n hn
  · rw [if_neg hn]
    by_cases hbare : n = (codec.dump (cacheInfoJson codec info)).length
    · rw [cacheInfoText, List.take_append_of_le_length (by omega), hbare, List.take_length]
      exact hs.parse_bare info
    · rw [List.take_of_length_le (by rw [cacheInfoText, List.length_append]; simp; omega)]
      exact hc.parse_dump info

/-- `CheckCacheInfoExtension` on a written record. -/
theorem checkCacheInfoExtension_written {codec : JsonCodec} {partialInfo : NNCompiledCacheInfo}
    (hfile : partialInfo.fileNumber = info.fileNumber)
    (hlen : info.modelCheckSum.length = info.fileNumber.toUInt64.toNat)
    (hne : info.modelCheckSum ≠ []) (hmax : info.modelCheckSum.length ≤ vectorMaxSize)
    (hdump : strncpySucceeds (codec.dump (cacheInfoData info)).length) :
    checkCacheInfoExtension codec partialInfo (cacheInfoJson codec info) (cacheInfoData info)
      = .ok (.success, { partialInfo with
          modelCheckSum := info.modelCheckSum
          opVersion := info.opVersion
          isExceedRamLimit := info.isExceedRamLimit }) := by
  have hnat : Int64.ofInt (cacheInfoGetCrc16 (codec.dump (cacheInfoData info))).toNat
      = Int64.ofNat (cacheInfoGetCrc16 (codec.dump (cacheInfoData info))).toNat :=
    Int64.ofInt_eq_ofNat
  have hsize : ¬ info.fileNumber.toUInt64.toNat > vectorMaxSize := by omega
  have hsums := readModelCheckSum_written info.modelCheckSum
  rw [hlen] at hsums
  simp only [checkCacheInfoExtension, hdump, Bool.not_true, Bool.false_eq_true, if_false,
    find?_cacheInfoJson_checkSum, Json.getInt64_int, hnat, hfile, hsize, resizeSucceeds_ample,
    Bool.true_eq_false, find?_cacheInfoData_modelCheckSum hne, hsums, find?_cacheInfoData_opVersion,
    find?_cacheInfoData_isExceedRamLimit, Int64.ofInt_toInt, ok_bind, pure_eq_ok, ne_eq,
    not_true_eq_false]

/-- What the reader makes of a content that parses to a record, up to the
backend. -/
theorem checkCacheInfo_parsed {codec : JsonCodec} {content : Bytes} (backendID : UInt64)
    (hparse : codec.parse content = some (cacheInfoJson codec info))
    (hlen : info.modelCheckSum.length = info.fileNumber.toUInt64.toNat)
    (hne : info.modelCheckSum ≠ []) (hmax : info.modelCheckSum.length ≤ vectorMaxSize)
    (hdump : strncpySucceeds (codec.dump (cacheInfoData info)).length) :
    checkCacheInfo codec backendID (some content)
      = .ok (if info.deviceId.toUInt64 = backendID then (.success, info)
        else (.invalidFile, { version := info.version, deviceId := info.deviceId })) := by
  simp only [checkCacheInfo, hparse, find?_cacheInfoJson_data, find?_cacheInfoData_deviceId,
    Json.getInt64_toInt, ok_bind, find?_cacheInfoData_version, pure_eq_ok]
  by_cases hid : info.deviceId.toUInt64 = backendID
  · simp only [hid, ne_eq, not_true_eq_false, if_false, find?_cacheInfoData_fileNumber,
      Json.getInt64_toInt, ok_bind, if_true]
    exact checkCacheInfoExtension_written rfl hlen hne hmax hdump
  · simp only [hid, ne_eq, not_false_eq_true, if_true, if_false]

/-- **The reader inverts the writers** for the backend the record names. -/
theorem checkCacheInfo_written {codec : JsonCodec} (hc : codec.Faithful)
    (hlen : info.modelCheckSum.length = info.fileNumber.toUInt64.toNat)
    (hne : info.modelCheckSum ≠ []) (hmax : info.modelCheckSum.length ≤ vectorMaxSize)
    (hdump : strncpySucceeds (codec.dump (cacheInfoData info)).length) :
    checkCacheInfo codec info.deviceId.toUInt64 (some (cacheInfoText codec info))
      = .ok (.success, info) := by
  rw [checkCacheInfo_parsed _ (hc.parse_dump info) hlen hne hmax hdump, if_pos rfl]

end RoundTrip

/-! ## A faithful codec -/

theorem plainElems_int (sums : List UInt16) :
    Json.PlainElems (sums.map fun sum => .int sum.toNat) := by
  induction sums with
  | nil => simp [Json.PlainElems]
  | cons sum sums ih =>
    rw [List.map_cons, Json.PlainElems]
    exact ⟨by simp [Json.Plain], ih⟩

theorem plain_cacheInfoData (info : NNCompiledCacheInfo) : (cacheInfoData info).Plain := by
  obtain ⟨_, _, _, sums, _, _⟩ := info
  cases sums with
  | nil =>
    simp only [cacheInfoData, modelCheckSumMember, List.append_nil, List.cons_append,
      List.nil_append, Json.Plain, Json.PlainMembers, and_true, true_and]
    decide
  | cons sum sums =>
    simp only [cacheInfoData, modelCheckSumMember, List.cons_append, List.nil_append, Json.Plain,
      Json.PlainMembers, plainElems_int, and_true, true_and]
    decide

theorem plain_cacheInfoJson (codec : JsonCodec) (info : NNCompiledCacheInfo) :
    (cacheInfoJson codec info).Plain := by
  simp only [cacheInfoJson, Json.Plain, Json.PlainMembers, plain_cacheInfoData, and_true,
    true_and]
  decide

theorem length_intText_int64 (x : Int64) : (Json.intText x.toInt).length ≤ 20 := by
  have hlt := x.toInt_lt
  have hle := x.le_toInt
  cases hx : x.toInt with
  | ofNat n =>
    have hn : n < 10 ^ 20 := by
      rw [hx] at hlt
      have hlt' : n < 2 ^ 63 := Int.ofNat_lt.mp hlt
      omega
    exact Json.length_toDigits_le (by decide) hn
  | negSucc n =>
    have hn : n + 1 < 10 ^ 19 := by omega
    have hdigits := Json.length_toDigits_le (by decide) hn
    simp only [Json.intText, List.length_cons]
    omega

theorem length_textElems_sums (sums : List UInt16) :
    (Json.textElems (sums.map fun sum => .int sum.toNat)).length ≤ 6 * sums.length + 1 := by
  induction sums with
  | nil => simp [Json.textElems]
  | cons sum sums ih =>
    have hlt := sum.toNat_lt
    have hdigits : (Json.text (.int sum.toNat)).length ≤ 5 := by
      rw [Json.text]
      exact Json.length_toDigits_le (n := sum.toNat) (by decide) (by omega)
    rw [List.map_cons, Json.textElems]
    simp only [List.length_cons, List.length_append]
    omega

theorem length_text_cacheInfoData (info : NNCompiledCacheInfo) :
    (cacheInfoData info).text.length ≤ 300 + 6 * info.modelCheckSum.length := by
  have hdeviceId : "deviceId".length = 8 := rfl
  have hfileNumber : "fileNumber".length = 10 := rfl
  have hisExceedRamLimit : "isExceedRamLimit".length = 16 := rfl
  have hmodelCheckSum : "modelCheckSum".length = 13 := rfl
  have hopVersion : "opVersion".length = 9 := rfl
  have hversion : "version".length = 7 := rfl
  obtain ⟨fileNumber, version, deviceId, sums, opVersion, isExceedRamLimit⟩ := info
  have h1 := length_intText_int64 fileNumber
  have h2 := length_intText_int64 version
  have h3 := length_intText_int64 deviceId
  have h4 := length_intText_int64 opVersion
  have h5 := length_intText_int64 isExceedRamLimit
  cases sums with
  | nil =>
    simp only [cacheInfoData, modelCheckSumMember, List.append_nil, List.cons_append,
      List.nil_append, Json.text, Json.textMembers, List.length_cons, List.length_append,
      List.length_nil, Json.length_strText]
    omega
  | cons sum sums =>
    have hsums := length_textElems_sums (sum :: sums)
    rw [List.map_cons, Json.textElems] at hsums
    simp only [List.length_cons, List.length_append] at hsums
    simp only [cacheInfoData, modelCheckSumMember, List.map_cons, List.cons_append,
      List.nil_append, Json.text, Json.textMembers, List.length_cons, List.length_append,
      List.length_nil, Json.length_strText] at hsums ⊢
    omega

/-- The compact JSON text is a faithful codec. -/
theorem compact_faithful : JsonCodec.compact.Faithful where
  parse_dump info := Json.parse_ofBytes (plain_cacheInfoJson _ info)
  dump_short info hle := by
    have htext := length_text_cacheInfoData info
    simp only [nnCacheFileNumberMax] at hle
    simp only [JsonCodec.compact, Json.toBytes, List.length_map, strncpySucceeds,
      securecStringMaxLen, decide_eq_true_eq]
    omega

theorem compact_strict : JsonCodec.compact.Strict where
  parse_cut info _ hn := Json.parse_ofBytes_take (plain_cacheInfoJson _ info) hn
  parse_bare info := Json.parse_ofBytes_bare (plain_cacheInfoJson _ info)

end NNRt
