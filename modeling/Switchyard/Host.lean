import Mathlib.Data.Rat.Defs
import Switchyard.Library.Json

/-! What the program takes from Python's standard library without looking
inside: digests, JSON decoding and the spelling of finite floats. -/

namespace Switchyard
open Library

/-- The name of an exception class, which Python keeps as UTF-8. -/
abbrev ClassName := { name : Text // name.Scalar }

def className (literal : String) : ClassName := ⟨text literal, Text.scalar_text literal⟩

def recursionError : ClassName := className "RecursionError"

/-- How `json.loads` refuses its input: a UnicodeDecodeError or JSONDecodeError
with its text, a key its hook refuses, or another exception. -/
inductive DecodeFailure
  | malformed (className : ClassName) (message : Text)
  | duplicateKey (key : Text)
  | other (className : ClassName)

structure Host where
  sha256 : Bytes → { raw : Bytes // raw.length = 32 }
  /-- `json.loads(raw)`, where a repeated key keeps its last value. -/
  loads : Bytes → Except DecodeFailure Json
  /-- `json.loads(raw, object_pairs_hook=...)` with a hook that refuses a repeated key. -/
  loadsUnique : Bytes → Except DecodeFailure Json
  /-- The same for a `str`. -/
  loadsUniqueText : Text → Except DecodeFailure Json
  /-- What the canonicaliser writes for a finite float. -/
  floatText : ℚ → Bytes
  /-- `copy.deepcopy` of an object returns. Where the nesting exhausts the stack of its thread,
  it raises a RecursionError instead, also on what `json.loads` has accepted. -/
  copies : Members → Bool

theorem zeros_length : (List.replicate 32 (0 : UInt8)).length = 32 := rfl

namespace Host

/-- `"sha256:" + hashlib.sha256(raw).hexdigest()`. -/
def digest (host : Host) (raw : Bytes) : Text := text "sha256:" ++ Text.hex (host.sha256 raw).val

theorem scalar_digest (host : Host) (raw : Bytes) : Text.Scalar (host.digest raw) :=
  Text.Scalar.append (by decide) (Text.scalar_hex _)

end Host

/-- The last octets of a number, the most significant first, before others. -/
def octets : Nat → Nat → Bytes → Bytes
  | 0, _, later => later
  | count + 1, number, later => octets count (number / 256) (UInt8.ofNat number :: later)

theorem octets_length : ∀ (count number : Nat) (later : Bytes), (octets count number later).length = count + later.length
  | 0, _, later => (Nat.zero_add later.length).symm
  | count + 1, number, later => by
    rw [octets, octets_length, List.length_cons]
    omega

/-- The digest with these hexadecimal digits. -/
def ofHex (digits : Nat) : { raw : Bytes // raw.length = 32 } := ⟨octets 32 digits [], octets_length 32 digits []⟩

/-- The digests of a few inputs that differ in length. -/
def digestTable (digests : List (Nat × Nat)) (raw : Bytes) : { raw : Bytes // raw.length = 32 } :=
  ofHex ((digests.lookup raw.length).getD 0)

/-- A Python clock reading: `time.time_ns()` counts nanoseconds in a signed 64-bit integer. -/
abbrev Nanoseconds := Int64

/-- `time.time_ns() // 1_000_000`. -/
def unixMs (now : Nanoseconds) : Int := now.toInt.fdiv 1000000

theorem unixMs_safe (now : Nanoseconds) : (unixMs now).natAbs < 2 ^ 53 := by
  have lower := now.le_toInt
  have upper := now.toInt_lt
  unfold unixMs
  have same : now.toInt.fdiv 1000000 = now.toInt / 1000000 := Int.fdiv_eq_ediv_of_nonneg _ (by decide)
  rw [same]
  omega

end Switchyard
