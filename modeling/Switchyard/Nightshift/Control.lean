import Switchyard.Runner.Timestamp

/-! What the Nightshift adapter shares between its records: canonical bytes,
domain separated digests and identifiers. -/

namespace Switchyard.Nightshift
open Library Json Runner

/-- AdapterProtocolError with its text, or another exception with its class name and the text it is shown with. -/
inductive Failure
  | protocol (message : Text)
  | other (className : ClassName) (message : Text)
deriving DecidableEq

/-- `str(exc)`. -/
def Failure.message : Failure → Text
  | .protocol message | .other _ message => message

def refused (message : String) : Failure := .protocol (text message)

def raised (name message : String) : Failure := .other (className name) (text message)

def demand (holds : Bool) (message : String) : Except Failure Unit := if holds then .ok () else .error (refused message)

theorem demand_ok {holds : Bool} {message : String} : demand holds message = .ok () ↔ holds = true := by
  cases holds <;> simp [demand]

/-- The lower case of an ASCII character. -/
def lowered (point : CodePoint) : CodePoint :=
  if 65 ≤ point.val ∧ point.val ≤ 90 then Fin.ofNat 0x110000 (point.val + 32) else point

/-- What Python's character database says: the decimal digits, the lower case of a text and the white space of `strip`.
ASCII is as everywhere. -/
structure Unicode where
  decimals : Decimals
  lower : Text → Text
  lowerAscii : ∀ value, Ascii value → lower value = value.map lowered
  space : CodePoint → Bool
  spaceAscii : ∀ point : CodePoint, point.val < 128 →
    space point = decide (9 ≤ point.val ∧ point.val ≤ 13 ∨ 28 ≤ point.val ∧ point.val ≤ 32)

/-- `value.strip()` leaves nothing. -/
def Unicode.blank (unicode : Unicode) (value : Text) : Bool := value.all unicode.space

def canonical (host : Host) (value : Json) : Except Failure Bytes :=
  match Rfc8785.dumps host value with
  | .ok raw => .ok raw
  | .error .unicodeEncode => .error (.other (className "UnicodeEncodeError") Rfc8785.Failure.unicodeEncode.message)
  | .error failure => .error (.protocol (text "value is outside RFC8785-JCS: " ++ failure.message))

theorem canonical_ok {host : Host} {value : Json} {raw : Bytes} :
    canonical host value = .ok raw ↔ Rfc8785.dumps host value = .ok raw := by
  unfold canonical
  split <;> simp_all

/-- `_digest`. -/
def digestOf (host : Host) (domain : Bytes) (value : Json) : Except Failure Text := do
  let raw ← canonical host value
  return host.digest (domain ++ raw)

/-- `_raw_digest`. -/
def rawDigest (host : Host) (domain raw : Bytes) : Text := host.digest (domain ++ raw)

/-- `members["key"]`. -/
def item (members : Members) (key : String) : Except Failure Json :=
  match members.lookup (text key) with
  | some value => .ok value
  | none => .error (.other (className "KeyError") (text ("'" ++ key ++ "'")))

/-- `_without`: the members but for one field. -/
def without (value : Members) (field : String) : Members := value.filter fun member => member.1 != text field

/-- The characters of an identifier: ASCII letters and digits, and five marks. -/
def identifying (point : CodePoint) : Bool :=
  (48 ≤ point.val && point.val ≤ 58) || (65 ≤ point.val && point.val ≤ 90) || (97 ≤ point.val && point.val ≤ 122) ||
    (45 ≤ point.val && point.val ≤ 47) || point.val == 95

/-- `_require_id`. -/
def requireId (field : Text) : Json → Except Failure Text
  | .str value =>
    if 1 ≤ value.length ∧ value.length ≤ 512 ∧ value.all identifying = true then .ok value
    else .error (.protocol (text "invalid " ++ field))
  | _ => .error (.protocol (text "invalid " ++ field))

/-- `_require_digest`. -/
def requireDigest (field : Text) (value : Json) : Except Failure Text :=
  if sha256Identity value then .ok (value.text?.getD []) else .error (.protocol (text "invalid " ++ field))

theorem requireId_ok {field found : Text} {value : Json} (required : requireId field value = .ok found) : value = .str found := by
  unfold requireId at required
  split at required
  · split at required
    · cases required
      rfl
    · cases required
  · cases required

end Switchyard.Nightshift
