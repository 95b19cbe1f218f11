import Switchyard.AppServer.Wire

/-! How long a serialized value is: every piece adds its own length, whatever
order the members of an object stand in. -/

namespace Switchyard.Library.Text

/-- The length of the UTF-8 form, where there is one. -/
def width (value : Text) : Nat := (value.flatMap encodePoint).length

theorem width_of_encode {value : Text} {raw : Bytes} (encoded : value.encode? = some raw) : raw.length = value.width := by
  unfold encode? at encoded
  split at encoded
  · cases encoded
    rfl
  · cases encoded

theorem width_append (first last : Text) : (first ++ last).width = first.width + last.width := by
  simp only [width, List.flatMap_append, List.length_append]

theorem width_cons (point : CodePoint) (rest : Text) : width (point :: rest) = (encodePoint point).length + rest.width := by
  simp only [width, List.flatMap_cons, List.length_append]

theorem encodePoint_length (point : CodePoint) : (encodePoint point).length ≤ 4 := by
  unfold encodePoint
  grind

/-- Seven-bit code points take one byte each. -/
theorem width_ascii {value : Text} (small : ∀ point ∈ value, point.val < 0x80) : value.width = value.length := by
  induction value with
  | nil => rfl
  | cons point rest ih =>
    have one : (encodePoint point).length = 1 := by
      unfold encodePoint
      rw [if_pos (small point List.mem_cons_self)]
      rfl
    rw [width_cons, one, ih fun other listed => small other (List.mem_cons_of_mem _ listed), List.length_cons]
    omega

end Switchyard.Library.Text

namespace Switchyard.AppServer
open Library Json

/-- An escaped code point takes at least one byte and never more than an escaped control does. -/
theorem escape_width (point : CodePoint) : 1 ≤ (Rfc8785.escape point).width ∧ (Rfc8785.escape point).width ≤ 6 := by
  have digit (value : Nat) (small : value < 16) : (Text.width [Text.hexDigit value]) = 1 := by
    refine Text.width_ascii fun other listed => ?_
    obtain rfl := List.mem_singleton.mp listed
    have all : ∀ value < 16, (Text.hexDigit value).val < 0x80 := by decide
    exact all value small
  unfold Rfc8785.escape
  split
  · decide
  · split
    · decide
    · split
      · decide
      · split
        · decide
        · split
          · decide
          · split
            · decide
            · split
              · decide
              · split
                · have shape : text "\\u00" ++ [Text.hexDigit (point.val / 16), Text.hexDigit (point.val % 16)] =
                      text "\\u00" ++ ([Text.hexDigit (point.val / 16)] ++ [Text.hexDigit (point.val % 16)]) := rfl
                  have prefixed : (text "\\u00").width = 4 := by decide
                  rw [shape, Text.width_append, Text.width_append, prefixed, digit _ (by omega), digit _ (by omega)]
                  omega
                · have bound := Text.encodePoint_length point
                  have filled := List.length_pos_iff.mpr (Text.encodePoint_ne_nil point)
                  rw [Text.width_cons]
                  exact ⟨by omega, by simp only [Text.width, List.flatMap_nil, List.length_nil]; omega⟩

/-- A quoted text adds up the code points between its quotation marks. -/
theorem quoted_width (value : Text) :
    (quoted value).width = (value.map fun point => (Rfc8785.escape point).width).sum + 2 := by
  have mark : (text "\"").width = 1 := by decide
  have inside : Text.width (value.flatMap Rfc8785.escape) = (value.map fun point => (Rfc8785.escape point).width).sum := by
    induction value with
    | nil => rfl
    | cons point rest ih =>
      rw [List.flatMap_cons, Text.width_append, ih, List.map_cons, List.sum_cons]
  unfold quoted
  rw [Text.width_append, Text.width_append, mark, inside]
  omega

/-- No quoted text is longer than that of as many NUL code points. -/
theorem quoted_width_le {value : Text} {count : Nat} (bounded : value.length ≤ count) :
    (quoted value).width ≤ (quoted (List.replicate count 0)).width := by
  have worst : (Rfc8785.escape 0).width = 6 := by decide
  have each : (value.map fun point => (Rfc8785.escape point).width).sum ≤ 6 * value.length := by
    induction value with
    | nil => exact Nat.le_refl 0
    | cons point rest ih =>
      have short := (escape_width point).2
      simp only [List.length_cons] at bounded
      have later := ih (by omega)
      simp only [List.map_cons, List.sum_cons, List.length_cons]
      omega
  rw [quoted_width, quoted_width, List.map_replicate, List.sum_replicate_nat, worst]
  omega

theorem width_commas (items : List Text) : (commas items).width = Rfc8785.stretched (items.map Text.width) := by
  have comma : (text ",").width = 1 := by decide
  induction items with
  | nil => rfl
  | cons item rest ih =>
    cases rest with
    | nil => simp [commas, Rfc8785.stretched]
    | cons next later =>
      have unfolded : commas (item :: next :: later) = item ++ text "," ++ commas (next :: later) := rfl
      rw [unfolded, Text.width_append, Text.width_append, comma, ih]
      simp only [Rfc8785.stretched, List.map_cons, List.sum_cons, List.length_cons]
      omega

section
variable (floatRepr : ℚ → Text)

theorem compact_str (value : Text) : compact floatRepr (.str value) = quoted value := rfl

/-- A member with its key. -/
def memberWidth (member : Text × Json) : Nat := (quoted member.1).width + 1 + (compact floatRepr member.2).width

theorem compactMembers_width (members : Members) :
    (compactMembers floatRepr members).map Text.width = members.map (memberWidth floatRepr) := by
  have colon : (text ":").width = 1 := by decide
  induction members with
  | nil => rfl
  | cons member rest ih =>
    obtain ⟨key, value⟩ := member
    simp only [compactMembers, List.map_cons, ih, memberWidth, Text.width_append, colon]

theorem compact_obj_width (members : Members) :
    (compact floatRepr (.obj members)).width = Rfc8785.stretched (members.map (memberWidth floatRepr)) + 2 := by
  have opening : (text "\x7b").width = 1 := by decide
  have closing : (text "\x7d").width = 1 := by decide
  rw [compact, Text.width_append, Text.width_append, width_commas, compactMembers_width, opening, closing]
  omega

theorem compact_arr_width (items : List Json) :
    (compact floatRepr (.arr items)).width = Rfc8785.stretched ((compactItems floatRepr items).map Text.width) + 2 := by
  have opening : (text "[").width = 1 := by decide
  have closing : (text "]").width = 1 := by decide
  rw [compact, Text.width_append, Text.width_append, width_commas, opening, closing]
  omega

/-- The order of its members does not change the length of an object. -/
theorem compact_perm_width {members others : Members} (perm : members.Perm others) :
    (compact floatRepr (.obj members)).width = (compact floatRepr (.obj others)).width := by
  rw [compact_obj_width, compact_obj_width, Rfc8785.stretched_perm (perm.map _)]

/-- A wire has the length of its text and its terminator. -/
theorem requestWire_length {message : Members} {wire : Bytes} (written : requestWire floatRepr message = .ok wire) :
    wire.length = (compact floatRepr (.obj message)).width + 1 := by
  unfold requestWire at written
  split at written
  next raw encoded =>
    cases written
    rw [List.length_append, Text.width_of_encode encoded]
    rfl
  next => cases written

end

/-- An integer is as long as its digits, with a sign before a negative one. -/
theorem compact_int_width (floatRepr : ℚ → Text) (value : Int) :
    (compact floatRepr (.int value)).width = (Nat.toDigits 10 value.natAbs).length + if value < 0 then 1 else 0 := by
  have small : ∀ point ∈ compact floatRepr (.int value), point.val < 0x80 := by
    intro point listed
    simp only [compact] at listed
    obtain ⟨byte, inside, rfl⟩ := List.mem_map.mp listed
    have digit := Rfc8785.decimal_numeral inside
    have bound := byte.toNat_lt
    simp only [Rfc8785.numeral, Bool.or_eq_true, Bool.and_eq_true, decide_eq_true_eq, beq_iff_eq] at digit
    rw [Fin.val_ofNat, Nat.mod_eq_of_lt (by omega)]
    rcases digit with rfl | digit
    · decide
    · omega
  rw [Text.width_ascii small]
  have sign : (ascii "-").length = 1 := by decide
  simp only [compact, List.length_map, Rfc8785.decimal, List.length_append]
  split
  · rw [sign]
    omega
  · rw [List.length_nil]
    omega

/-- Safe integers take at most sixteen digits. -/
theorem compact_int_width_le (floatRepr : ℚ → Text) {value : Int} (bounded : value.natAbs < 2 ^ 53) :
    (compact floatRepr (.int value)).width ≤ 16 + if value < 0 then 1 else 0 := by
  have digits : (Nat.toDigits 10 value.natAbs).length ≤ 16 :=
    (Nat.length_toDigits_le_iff (by decide) (by decide)).mpr (by omega)
  rw [compact_int_width]
  omega

/-- Which texts, and which values, have a serialization that can be encoded. -/
theorem scalar_quoted_iff {value : Text} : Text.Scalar (quoted value) ↔ Text.Scalar value := by
  refine ⟨scalar_quoted, fun scalar => ?_⟩
  have mark : Text.Scalar (text "\"") := Text.scalar_text _
  refine (mark.append ?_).append mark
  intro other listed
  obtain ⟨point, inside, escaped⟩ := List.mem_flatMap.mp listed
  exact (Rfc8785.escape_scalar point).mpr (scalar point inside) other escaped

theorem scalar_commas {items : List Text} : Text.Scalar (commas items) ↔ ∀ item ∈ items, Text.Scalar item := by
  induction items with
  | nil => exact ⟨fun _ => nofun, fun _ => nofun⟩
  | cons item rest ih =>
    cases rest with
    | nil => simp [commas]
    | cons next later =>
      have unfolded : commas (item :: next :: later) = item ++ text "," ++ commas (next :: later) := rfl
      rw [unfolded, scalar_append_iff, scalar_append_iff, ih, List.forall_mem_cons (l := next :: later)]
      exact ⟨fun all => ⟨all.1.1, all.2⟩, fun all => ⟨⟨all.1, Text.scalar_text _⟩, all.2⟩⟩

section
variable (floatRepr : ℚ → Text)

theorem scalar_compact_obj {members : Members} : Text.Scalar (compact floatRepr (.obj members)) ↔
    ∀ member ∈ members, Text.Scalar member.1 ∧ Text.Scalar (compact floatRepr member.2) := by
  have pieces : (∀ piece ∈ compactMembers floatRepr members, Text.Scalar piece) ↔
      ∀ member ∈ members, Text.Scalar member.1 ∧ Text.Scalar (compact floatRepr member.2) := by
    induction members with
    | nil => exact ⟨fun _ => nofun, fun _ => nofun⟩
    | cons member rest ih =>
      obtain ⟨key, value⟩ := member
      simp only [compactMembers, List.forall_mem_cons, ih, scalar_append_iff, scalar_quoted_iff]
      exact ⟨fun all => ⟨⟨all.1.1.1, all.1.2⟩, all.2⟩, fun all => ⟨⟨⟨all.1.1, Text.scalar_text _⟩, all.1.2⟩, all.2⟩⟩
  rw [compact, scalar_append_iff, scalar_append_iff, scalar_commas, pieces]
  exact ⟨fun all => all.1.2, fun all => ⟨⟨Text.scalar_text _, all⟩, Text.scalar_text _⟩⟩

theorem scalar_compact_arr {items : List Json} : Text.Scalar (compact floatRepr (.arr items)) ↔
    ∀ item ∈ items, Text.Scalar (compact floatRepr item) := by
  have pieces : (∀ piece ∈ compactItems floatRepr items, Text.Scalar piece) ↔
      ∀ item ∈ items, Text.Scalar (compact floatRepr item) := by
    induction items with
    | nil => exact ⟨fun _ => nofun, fun _ => nofun⟩
    | cons item rest ih => simp only [compactItems, List.forall_mem_cons, ih]
  rw [compact, scalar_append_iff, scalar_append_iff, scalar_commas, pieces]
  exact ⟨fun all => all.1.2, fun all => ⟨⟨Text.scalar_text _, all⟩, Text.scalar_text _⟩⟩

theorem scalar_compact_int (value : Int) : Text.Scalar (compact floatRepr (.int value)) := by
  intro point listed
  simp only [compact] at listed
  obtain ⟨byte, -, rfl⟩ := List.mem_map.mp listed
  have bound := byte.toNat_lt
  have code : (Fin.ofNat 0x110000 byte.toNat).val = byte.toNat := Nat.mod_eq_of_lt (by omega)
  simp only [Text.surrogate, code, Bool.and_eq_false_iff, decide_eq_false_iff_not]
  omega

theorem requestWire_isOk {message : Members} :
    (∃ wire, requestWire floatRepr message = .ok wire) ↔ Text.Scalar (compact floatRepr (.obj message)) := by
  rw [← Text.encode?_isSome]
  unfold requestWire
  cases (compact floatRepr (.obj message)).encode? with
  | none => exact ⟨nofun, nofun⟩
  | some raw => exact ⟨fun _ => rfl, fun _ => ⟨_, rfl⟩⟩

end

end Switchyard.AppServer
