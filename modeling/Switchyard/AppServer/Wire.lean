import Switchyard.AppServer.Frames
import Switchyard.Rfc8785

/-! Outgoing requests: the one serialization that is both checked and sent, and
the checks a request passes before it may take the write lock. -/

namespace Switchyard.AppServer
open Library Json

/-- `json.encoder` between quotation marks; it escapes what the canonicaliser escapes. -/
def quoted (value : Text) : Text := text "\"" ++ value.flatMap Rfc8785.escape ++ text "\""

def commas : List Text → Text
  | [] => []
  | [item] => item
  | item :: rest => item ++ text "," ++ commas rest

section
variable (floatRepr : ℚ → Text)

mutual
/-- `json.dumps(value, separators=(",", ":"), ensure_ascii=False)`, with `repr` of a finite float as a parameter. -/
def compact : Json → Text
  | .null => text "null"
  | .bool value => text (if value then "true" else "false")
  | .int value => (Rfc8785.decimal value).map fun byte => Fin.ofNat 0x110000 byte.toNat
  | .float (.finite value) => floatRepr value
  | .float .nan => text "NaN"
  | .float (.infinite negative) => text (if negative then "-Infinity" else "Infinity")
  | .str value => quoted value
  | .arr items => text "[" ++ commas (compactItems items) ++ text "]"
  | .obj members => text "\x7b" ++ commas (compactMembers members) ++ text "\x7d"

def compactItems : List Json → List Text
  | [] => []
  | item :: rest => compact item :: compactItems rest

def compactMembers : Members → List Text
  | [] => []
  | (key, value) :: rest => (quoted key ++ text ":" ++ compact value) :: compactMembers rest
end

/-- `request_wire`; a lone surrogate cannot be encoded. -/
def requestWire (message : Members) : Except ClassName Bytes :=
  match (compact floatRepr (.obj message)).encode? with
  | some raw => .ok (raw ++ ascii "\n")
  | none => .error unicodeEncodeError

end

/-- A call of `request`, under the identity it drew. -/
structure Request where
  requestId : Nat
  method : Text
  params : Option Members

def Request.message (request : Request) : Members :=
  object [("id", .int request.requestId), ("method", .str request.method)] ++
    match request.params with
    | some params => object [("params", .obj params)]
    | none => []

theorem scalar_append_iff {first last : Text} : Text.Scalar (first ++ last) ↔ Text.Scalar first ∧ Text.Scalar last := by
  simp only [Text.Scalar, List.mem_append]
  exact ⟨fun scalar => ⟨fun point listed => scalar point (.inl listed), fun point listed => scalar point (.inr listed)⟩,
    fun scalar point listed => listed.elim (scalar.1 point) (scalar.2 point)⟩

/-- Escaping keeps every code point that it does not replace by ASCII. -/
theorem scalar_quoted {value : Text} (scalar : Text.Scalar (quoted value)) : Text.Scalar value := by
  intro point listed
  have inside : Text.Scalar (value.flatMap Rfc8785.escape) := (scalar_append_iff.mp (scalar_append_iff.mp scalar).1).2
  have each : Text.Scalar (Rfc8785.escape point) := fun other escaped =>
    inside other (List.mem_flatMap.mpr ⟨point, listed, escaped⟩)
  by_cases small : point.val < 0x80
  · unfold Text.surrogate
    simp only [Bool.and_eq_false_iff, decide_eq_false_iff_not]
    omega
  · have kept : Rfc8785.escape point = [point] := by
      unfold Rfc8785.escape
      repeat rw [if_neg (by omega)]
    exact each point (by rw [kept]; exact List.mem_cons_self)

end Switchyard.AppServer
