import Mathlib.Algebra.Ring.Int.Defs
import Mathlib.Algebra.Ring.Nat
import Mathlib.Data.List.Basic
import Mathlib.Tactic.Basic

/-! Python text and bytes. A `str` is a sequence of code points and, unlike a
Lean string, may hold lone surrogates; UTF-8 encoding refuses exactly those. -/

namespace Switchyard.Library

abbrev CodePoint := Fin 0x110000

instance codePoint_nonempty : NeZero (0x110000 : Nat) := ⟨by decide⟩

abbrev Text := List CodePoint

instance text_lawful : LawfulBEq Text := inferInstance

abbrev Bytes := List UInt8

/-- The Python bytes literal with these ASCII characters. -/
def ascii (literal : String) : Bytes := literal.toByteArray.data.toList

/-- The Python string literal with these ASCII characters. -/
def text (literal : String) : Text := (ascii literal).map fun byte => Fin.ofNat 0x110000 byte.toNat

theorem text_inj {first last : String} : text first = text last ↔ first = last := by
  refine ⟨fun same => ?_, fun same => same ▸ rfl⟩
  have injective : Function.Injective fun byte : UInt8 => Fin.ofNat 0x110000 byte.toNat := by
    intro left right equal
    have values := congrArg Fin.val equal
    have small (byte : UInt8) : byte.toNat < 0x110000 := Nat.lt_trans byte.toNat_lt (by decide)
    simp only [Fin.val_ofNat, Nat.mod_eq_of_lt (small _)] at values
    exact UInt8.toNat_inj.mp values
  have bytes : first.toByteArray.data.toList = last.toByteArray.data.toList := injective.list_map same
  exact String.toByteArray_inj.mp (ByteArray.ext (Array.toList_inj.mp bytes))

namespace Text

def surrogate (point : CodePoint) : Bool := 0xD800 ≤ point.val && point.val ≤ 0xDFFF

/-- Every code point is a Unicode scalar value, so that the text has a UTF-8 form. -/
def Scalar (value : Text) : Prop := ∀ point ∈ value, surrogate point = false

instance (value : Text) : Decidable (Scalar value) :=
  decidable_of_iff (value.all fun point => !surrogate point) (by simp [Scalar])

theorem scalar_text (literal : String) : Scalar (text literal) := by
  intro point member
  obtain ⟨byte, -, rfl⟩ := List.mem_map.mp member
  have code : (Fin.ofNat 0x110000 byte.toNat).val = byte.toNat :=
    Nat.mod_eq_of_lt (Nat.lt_trans byte.toNat_lt (by decide))
  have small := byte.toNat_lt
  simp only [surrogate, code, Bool.and_eq_false_iff, decide_eq_false_iff_not]
  omega

def encodePoint (point : CodePoint) : Bytes :=
  let code := point.val
  if code < 0x80 then [.ofNat code]
  else if code < 0x800 then [.ofNat (0xC0 + code / 0x40), .ofNat (0x80 + code % 0x40)]
  else if code < 0x10000 then
    [.ofNat (0xE0 + code / 0x1000), .ofNat (0x80 + code / 0x40 % 0x40), .ofNat (0x80 + code % 0x40)]
  else
    [.ofNat (0xF0 + code / 0x40000), .ofNat (0x80 + code / 0x1000 % 0x40),
      .ofNat (0x80 + code / 0x40 % 0x40), .ofNat (0x80 + code % 0x40)]

theorem encodePoint_ne_nil (point : CodePoint) : encodePoint point ≠ [] := by
  unfold encodePoint
  grind

/-- `value.encode("utf-8")`; `none` is the UnicodeEncodeError of a lone surrogate. -/
def encode? (value : Text) : Option Bytes :=
  if Scalar value then some (value.flatMap encodePoint) else none

theorem encode?_isSome {value : Text} : value.encode?.isSome ↔ Scalar value := by
  unfold encode?
  split <;> simp [*]

theorem encode?_eq_none {value : Text} : value.encode? = none ↔ ¬ Scalar value := by
  unfold encode?
  split <;> simp [*]

theorem Scalar.append {first last : Text} (left : Scalar first) (right : Scalar last) : Scalar (first ++ last) := by
  intro point member
  rcases List.mem_append.mp member with member | member
  · exact left point member
  · exact right point member

theorem Scalar.take {value : Text} (scalar : Scalar value) (count : Nat) : Scalar (value.take count) :=
  fun point member => scalar point (List.mem_of_mem_take member)

/-- The payload of a UTF-8 continuation byte. -/
def continuation? (byte : UInt8) : Option Nat :=
  if 0x80 ≤ byte.toNat ∧ byte.toNat < 0xC0 then some (byte.toNat - 0x80) else none

/-- A code point decoded from more than one byte: neither overlong, nor a surrogate, nor too large. -/
def decoded? (least code : Nat) : Option CodePoint :=
  if bounded : code < 0x110000 then
    if least ≤ code ∧ surrogate ⟨code, bounded⟩ = false then some ⟨code, bounded⟩ else none
  else none

/-- `raw.decode("utf-8")`; `none` is its UnicodeDecodeError. -/
def decode? : Bytes → Option Text
  | [] => some []
  | first :: rest =>
    let lead := first.toNat
    if lead < 0x80 then (decode? rest).map (Fin.ofNat 0x110000 lead :: ·)
    else if lead < 0xC0 then none
    else match rest with
      | [] => none
      | second :: rest =>
        match continuation? second with
        | none => none
        | some two =>
          if lead < 0xE0 then do
            let point ← decoded? 0x80 ((lead - 0xC0) * 0x40 + two)
            (decode? rest).map (point :: ·)
          else match rest with
            | [] => none
            | third :: rest =>
              match continuation? third with
              | none => none
              | some three =>
                if lead < 0xF0 then do
                  let point ← decoded? 0x800 ((lead - 0xE0) * 0x1000 + two * 0x40 + three)
                  (decode? rest).map (point :: ·)
                else match rest with
                  | [] => none
                  | fourth :: rest =>
                    match continuation? fourth with
                    | none => none
                    | some four => do
                      let point ← decoded? 0x10000 ((lead - 0xF0) * 0x40000 + two * 0x1000 + three * 0x40 + four)
                      (decode? rest).map (point :: ·)

private theorem decoded?_scalar {least code : Nat} {point : CodePoint} (found : decoded? least code = some point) :
    surrogate point = false := by
  unfold decoded? at found
  split at found
  · split at found
    next valid => cases found; exact valid.2
    next => cases found
  · cases found

private theorem Scalar.cons {point : CodePoint} {rest : Text} (head : surrogate point = false) (tail : Scalar rest) :
    Scalar (point :: rest) := by
  intro other member
  rcases List.mem_cons.mp member with rfl | member
  · exact head
  · exact tail other member

/-- Strict decoding never yields a surrogate. -/
theorem decode?_scalar (raw : Bytes) : ∀ value, decode? raw = some value → Scalar value := by
  fun_induction decode? raw with
  | case1 => intro value done; cases done; simp [Scalar]
  | case2 first rest lead small ih =>
    intro value done
    obtain ⟨tail, found, rfl⟩ := Option.map_eq_some_iff.mp done
    refine Scalar.cons ?_ (ih tail found)
    simp [surrogate, Fin.ofNat]
    omega
  | case3 | case4 | case5 | case7 | case8 | case10 | case11 => intro value done; cases done
  | case6 first lead _ _ second rest two _ _ ih | case9 first lead _ _ second third rest two _ _ three _ _ ih
    | case12 first lead _ _ second third fourth rest two _ _ three _ _ four _ ih =>
    intro value done
    obtain ⟨point, decoded, done⟩ := Option.bind_eq_some_iff.mp done
    obtain ⟨tail, found, rfl⟩ := Option.map_eq_some_iff.mp done
    exact Scalar.cons (decoded?_scalar decoded) (ih tail found)

/-- Hexadecimal digits as `bytes.hex` writes them. -/
def hexDigit (value : Nat) : CodePoint := Fin.ofNat 0x110000 (if value < 10 then 48 + value else 87 + value)

def hex (raw : Bytes) : Text := raw.flatMap fun byte => [hexDigit (byte.toNat / 16), hexDigit (byte.toNat % 16)]

def hexValue (point : CodePoint) : Option Nat :=
  if 48 ≤ point.val ∧ point.val ≤ 57 then some (point.val - 48)
  else if 97 ≤ point.val ∧ point.val ≤ 102 then some (point.val - 87)
  else if 65 ≤ point.val ∧ point.val ≤ 70 then some (point.val - 55)
  else none

def space (point : CodePoint) : Bool := point.val == 32 || (9 ≤ point.val && point.val ≤ 13)

/-- `bytes.fromhex`: pairs of digits of either case, with ASCII white space
allowed between pairs; `none` is its ValueError. -/
def fromHex? : Text → Option Bytes
  | [] => some []
  | [point] => if space point then some [] else none
  | first :: second :: rest =>
    if space first then fromHex? (second :: rest)
    else match hexValue first, hexValue second with
      | some high, some low => (fromHex? rest).map (.ofNat (16 * high + low) :: ·)
      | _, _ => none

private theorem hexDigit_scalar (value : Nat) (small : value < 16) : surrogate (hexDigit value) = false := by
  have all : ∀ value < 16, surrogate (hexDigit value) = false := by decide
  exact all value small

theorem scalar_hex (raw : Bytes) : Scalar (hex raw) := by
  intro point member
  obtain ⟨byte, -, digit⟩ := List.mem_flatMap.mp member
  have bound := byte.toNat_lt
  simp only [List.mem_cons, List.not_mem_nil, or_false] at digit
  rcases digit with rfl | rfl
  · exact hexDigit_scalar _ (by omega)
  · exact hexDigit_scalar _ (by omega)

end Text
end Switchyard.Library
