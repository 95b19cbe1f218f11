import Switchyard.Library.Text

/-! Base64 with its standard alphabet: three bytes become four characters, and a
last group of one or two bytes is padded. What is encoded decodes to itself. -/

namespace Switchyard.Library.Base64

/-- The character of six bits. -/
def digit (value : Nat) : CodePoint :=
  Fin.ofNat 0x110000 (if value < 26 then 65 + value else if value < 52 then 71 + value
    else if value < 62 then value - 4 else if value = 62 then 43 else 47)

def value? (point : CodePoint) : Option Nat :=
  if 65 ≤ point.val ∧ point.val ≤ 90 then some (point.val - 65)
  else if 97 ≤ point.val ∧ point.val ≤ 122 then some (point.val - 71)
  else if 48 ≤ point.val ∧ point.val ≤ 57 then some (point.val + 4)
  else if point.val = 43 then some 62
  else if point.val = 47 then some 63
  else none

def pad : CodePoint := 61

/-- `base64.b64encode(raw).decode("ascii")`. -/
def encode : Bytes → Text
  | [] => []
  | [first] => [digit (first.toNat / 4), digit (first.toNat % 4 * 16), pad, pad]
  | [first, second] => [digit (first.toNat / 4), digit (first.toNat % 4 * 16 + second.toNat / 16),
      digit (second.toNat % 16 * 4), pad]
  | first :: second :: third :: rest =>
    [digit (first.toNat / 4), digit (first.toNat % 4 * 16 + second.toNat / 16),
      digit (second.toNat % 16 * 4 + third.toNat / 64), digit (third.toNat % 64)] ++ encode rest

/-- The bytes of one whole group. -/
def group? (first second third fourth : CodePoint) : Option Bytes := do
  let one ← value? first
  let two ← value? second
  let three ← value? third
  let four ← value? fourth
  return [.ofNat (one * 4 + two / 16), .ofNat (two % 16 * 16 + three / 4), .ofNat (three % 4 * 64 + four)]

/-- The bytes of a padded group: as those of a whole one whose missing bits are zero. -/
def last? (count : Nat) (first second third : CodePoint) : Option Bytes :=
  (group? first second third (digit 0)).map (List.take count)

/-- `base64.b64decode(value, validate=True)`; `none` is its ValueError. Padding ends the value. -/
def decode? : Text → Option Bytes
  | [] => some []
  | [first, second, third, fourth] =>
    if fourth = pad then if third = pad then last? 1 first second (digit 0) else last? 2 first second third
    else group? first second third fourth
  | first :: second :: third :: fourth :: rest => do
    let bytes ← group? first second third fourth
    let later ← decode? rest
    return bytes ++ later
  | _ => none

theorem value?_digit {value : Nat} (small : value < 64) : value? (digit value) = some value := by
  have all : ∀ value < 64, value? (digit value) = some value := by decide
  exact all value small

theorem digit_ne_pad {value : Nat} (small : value < 64) : digit value ≠ pad := by
  have all : ∀ value < 64, digit value ≠ pad := by decide
  exact all value small

private theorem byte_of {value : Nat} {byte : UInt8} (same : value = byte.toNat) : UInt8.ofNat value = byte := by
  rw [same, UInt8.ofNat_toNat]

theorem group?_digits (first second third : UInt8) : group? (digit (first.toNat / 4))
    (digit (first.toNat % 4 * 16 + second.toNat / 16)) (digit (second.toNat % 16 * 4 + third.toNat / 64))
    (digit (third.toNat % 64)) = some [first, second, third] := by
  have one := first.toNat_lt
  have two := second.toNat_lt
  have three := third.toNat_lt
  simp only [group?, value?_digit (show first.toNat / 4 < 64 by omega),
    value?_digit (show first.toNat % 4 * 16 + second.toNat / 16 < 64 by omega),
    value?_digit (show second.toNat % 16 * 4 + third.toNat / 64 < 64 by omega),
    value?_digit (show third.toNat % 64 < 64 by omega), Option.bind_eq_bind, Option.bind_some, Option.pure_def]
  rw [byte_of (show _ = first.toNat by omega), byte_of (show _ = second.toNat by omega), byte_of (show _ = third.toNat by omega)]

theorem decode?_encode (raw : Bytes) : decode? (encode raw) = some raw := by
  fun_induction encode raw with
  | case1 => rfl
  | case2 first =>
    have whole := group?_digits first 0 0
    simp only [UInt8.toNat_zero, Nat.zero_div, Nat.zero_mod, Nat.zero_mul, Nat.add_zero] at whole
    simp [decode?, last?, whole]
  | case3 first second =>
    have whole := group?_digits first second 0
    have small := second.toNat_lt
    have open_ := digit_ne_pad (show second.toNat % 16 * 4 < 64 by omega)
    simp only [UInt8.toNat_zero, Nat.zero_div, Nat.zero_mod, Nat.add_zero] at whole
    simp [decode?, last?, whole, open_]
  | case4 first second third rest ih =>
    have whole := group?_digits first second third
    have small := third.toNat_lt
    have open_ := digit_ne_pad (show third.toNat % 64 < 64 by omega)
    cases later : encode rest with
    | nil =>
      have empty : rest = [] := by
        rw [later] at ih
        exact (Option.some.inj ih).symm
      subst empty
      simp [decode?, whole, open_]
    | cons head tail =>
      rw [later] at ih
      simp [decode?, whole, ih]

theorem encode_length (raw : Bytes) : (encode raw).length = (raw.length + 2) / 3 * 4 := by
  fun_induction encode raw with
  | case1 | case2 | case3 => simp
  | case4 first second third rest ih =>
    simp only [List.length_append, List.length_cons, List.length_nil, ih]
    omega

/-- A property of the alphabet and of the pad holds of every encoded character. -/
theorem encode_all {good : CodePoint → Prop} (letters : ∀ value < 64, good (digit value)) (padding : good pad) (raw : Bytes) :
    ∀ point ∈ encode raw, good point := by
  have byte (value : UInt8) := value.toNat_lt
  fun_induction encode raw with
  | case1 => nofun
  | case2 first =>
    have one := byte first
    intro point listed
    simp only [List.mem_cons, List.not_mem_nil, or_false] at listed
    rcases listed with rfl | rfl | rfl | rfl
    · exact letters _ (by omega)
    · exact letters _ (by omega)
    · exact padding
    · exact padding
  | case3 first second =>
    have one := byte first
    have two := byte second
    intro point listed
    simp only [List.mem_cons, List.not_mem_nil, or_false] at listed
    rcases listed with rfl | rfl | rfl | rfl
    · exact letters _ (by omega)
    · exact letters _ (by omega)
    · exact letters _ (by omega)
    · exact padding
  | case4 first second third rest ih =>
    have one := byte first
    have two := byte second
    have three := byte third
    intro point listed
    rcases List.mem_append.mp listed with listed | listed
    · simp only [List.mem_cons, List.not_mem_nil, or_false] at listed
      rcases listed with rfl | rfl | rfl | rfl
      · exact letters _ (by omega)
      · exact letters _ (by omega)
      · exact letters _ (by omega)
      · exact letters _ (by omega)
    · exact ih point listed

example : encode (ascii "hello") = text "aGVsbG8=" := by decide

end Switchyard.Library.Base64
