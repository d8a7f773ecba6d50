import NNRt.Cache.Crc16
import NNRt.Lib.JsonText

/-!
# JSON values as the runtime reads them

The runtime reads and writes `cache_info` through `nlohmann::json`, which is
not part of the repository. A value is a `Json` whose objects list their
members by ascending key, the order of the `std::map` behind them. The text
format is a parameter `JsonCodec`; `JsonCodec.Faithful` (stated with the record
in `CacheInfo`) is what is assumed of it, and `JsonCodec.compact` satisfies it.
-/

namespace Json

open NNRt

/-- `j.find(key)`: `none` is `j.end()`, which is also the answer of a value
that is not an object. -/
def find? (key : String) : Json → Option Json
  | .obj members => members.lookup key
  | _ => none

/-- `j.get<int64_t>()`: a number is converted with wrap-around, anything else
throws `type_error`. -/
def getInt64 : Json → Except Fault Int64
  | .int i => .ok (Int64.ofInt i)
  | .float v => .ok v
  | _ => .error .typeError

/-- `static_cast<int64_t>(j[i])`: a position past the end yields `null`, and so
does any position of `null`; both throw in the conversion, like a value that
is no array. -/
def getInt64At (i : Nat) : Json → Except Fault Int64
  | .arr xs =>
    match xs[i]? with
    | some x => x.getInt64
    | none => .error .typeError
  | _ => .error .typeError

@[simp] theorem getInt64_int (i : Int) : (Json.int i).getInt64 = .ok (Int64.ofInt i) := rfl

/-- A number that was an `int64_t` when it was stored comes back unchanged. -/
theorem getInt64_toInt (x : Int64) : (Json.int x.toInt).getInt64 = .ok x := by
  rw [getInt64_int, Int64.ofInt_toInt]

end Json

namespace NNRt

/-- `dump` and `parse` of `nlohmann::json`; `parse` answers `none` where
`accept` answers `false`. -/
structure JsonCodec where
  dump : Json → Bytes
  parse : Bytes → Option Json

/-- The compact text of a value in bytes, and the parser of such texts. -/
def JsonCodec.compact : JsonCodec where
  dump j := Json.toBytes j.text
  parse bytes := Json.parse (Json.ofBytes bytes)

/-- `SECUREC_STRING_MAX_LEN`: a destination larger than this makes `strncpy_s`
return an error. -/
def securecStringMaxLen : Nat := 2 ^ 31 - 1

/-- `strncpy_s(dest, dataLength + 1, data.dump().c_str(), dataLength) == 0`; a
dump contains no `NUL`, so a copy that succeeds copies all of it. -/
def strncpySucceeds (dataLength : Nat) : Bool :=
  dataLength + 1 ≤ securecStringMaxLen

end NNRt
