import Mathlib.Data.List.Sort
import Mathlib.Data.List.Perm.Basic
import Switchyard.Host

/-! The vendored RFC 8785 canonicaliser, and exactly which values it accepts. -/

namespace Switchyard.Rfc8785
open Library Json

def intMax : Int := 2 ^ 53 - 1

def intMin : Int := -(2 ^ 53) + 1

/-- `CanonicalizationError` and its subclasses. The sort key of an object is
taken outside them: a lone surrogate in a key is a bare UnicodeEncodeError. -/
inductive Failure
  | integerDomain (value : Int)
  | floatDomain (value : Double)
  | nonUtf8
  | unicodeEncode

/-- `str(value)` in ASCII. -/
def decimal (value : Int) : Bytes :=
  (if value < 0 then ascii "-" else []) ++ (Nat.toDigits 10 value.natAbs).map fun char => .ofNat char.toNat

/-- `str(error)`. -/
def Failure.message : Failure → Text
  | .integerDomain value => (decimal value).map (fun byte => Fin.ofNat 0x110000 byte.toNat) ++
      text " exceeds safe integer domain for JSON floats"
  | .floatDomain (.infinite true) => text "-inf is not representable in JCS"
  | .floatDomain (.infinite false) => text "inf is not representable in JCS"
  | .floatDomain _ => text "nan is not representable in JCS"
  | .nonUtf8 => text "input contains non-UTF-8 codepoints"
  | .unicodeEncode => text "surrogates not allowed"

def escape (point : CodePoint) : Text :=
  if point.val = 0x5C then text "\\\\"
  else if point.val = 0x22 then text "\\\""
  else if point.val = 0x08 then text "\\b"
  else if point.val = 0x0C then text "\\f"
  else if point.val = 0x0A then text "\\n"
  else if point.val = 0x0D then text "\\r"
  else if point.val = 0x09 then text "\\t"
  else if point.val < 0x20 then
    text "\\u00" ++ [Text.hexDigit (point.val / 16), Text.hexDigit (point.val % 16)]
  else [point]

def serializeStr (value : Text) : Except Failure Bytes :=
  match Text.encode? (value.flatMap escape) with
  | some raw => .ok (ascii "\"" ++ raw ++ ascii "\"")
  | none => .error .nonUtf8

/-- `key.encode("utf-16be")`. -/
def utf16be? (key : Text) : Option Bytes :=
  if Text.Scalar key then
    some (key.flatMap fun point =>
      if point.val < 0x10000 then [.ofNat (point.val / 0x100), .ofNat (point.val % 0x100)]
      else
        let high := 0xD800 + (point.val - 0x10000) / 0x400
        let low := 0xDC00 + (point.val - 0x10000) % 0x400
        [.ofNat (high / 0x100), .ofNat (high % 0x100), .ofNat (low / 0x100), .ofNat (low % 0x100)])
  else none

/-- The values between their delimiters, with commas, up to the first failure. -/
def joined : List (Except Failure Bytes) → Except Failure Bytes
  | [] => .ok []
  | [item] => item
  | item :: rest => do
    let first ← item
    let last ← joined rest
    return first ++ ascii "," ++ last

def before (first last : Bytes × Except Failure Bytes) : Bool := !decide (last.1 < first.1)

/-- `sorted(obj.items(), key=...)` on members that already carry their key and text. -/
def sorted (members : List (Text × Except Failure Bytes)) : Except Failure (List (Except Failure Bytes)) :=
  match members.mapM fun member => (utf16be? member.1).map fun key => (key, member.2) with
  | some keyed => .ok ((keyed.insertionSort fun first last => before first last).map Prod.snd)
  | none => .error .unicodeEncode

mutual
def dumps (host : Host) : Json → Except Failure Bytes
  | .null => .ok (ascii "null")
  | .bool value => .ok (ascii (if value then "true" else "false"))
  | .int value => if value < intMin ∨ intMax < value then .error (.integerDomain value) else .ok (decimal value)
  | .str value => serializeStr value
  | .float (.finite value) => .ok (host.floatText value)
  | .float value => .error (.floatDomain value)
  | .arr items => do
    let inner ← joined (dumpItems host items)
    return ascii "[" ++ inner ++ ascii "]"
  | .obj members => do
    let ordered ← sorted (dumpMembers host members)
    let inner ← joined ordered
    return ascii "\x7b" ++ inner ++ ascii "\x7d"

def dumpItems (host : Host) : List Json → List (Except Failure Bytes)
  | [] => []
  | item :: rest => dumps host item :: dumpItems host rest

def dumpMembers (host : Host) : Members → List (Text × Except Failure Bytes)
  | [] => []
  | (key, value) :: rest =>
    (key, do
      let name ← serializeStr key
      let content ← dumps host value
      return name ++ ascii ":" ++ content) :: dumpMembers host rest
end

mutual
/-- The canonicaliser's domain: finite floats, safe integers, text without lone surrogates. -/
def Canonical : Json → Prop
  | .null | .bool _ => True
  | .int value => intMin ≤ value ∧ value ≤ intMax
  | .str value => Text.Scalar value
  | .float (.finite _) => True
  | .float _ => False
  | .arr items => CanonicalItems items
  | .obj members => CanonicalMembers members

def CanonicalItems : List Json → Prop
  | [] => True
  | item :: rest => Canonical item ∧ CanonicalItems rest

def CanonicalMembers : Members → Prop
  | [] => True
  | (key, value) :: rest => (Text.Scalar key ∧ Canonical value) ∧ CanonicalMembers rest
end

theorem canonicalMembers_iff {members : Members} :
    CanonicalMembers members ↔ ∀ member ∈ members, Text.Scalar member.1 ∧ Canonical member.2 := by
  induction members with
  | nil => simp [CanonicalMembers]
  | cons member rest ih => simp [CanonicalMembers, ih]

theorem canonical_get {members : Members} (canonical : Canonical (.obj members)) (key : String) :
    Canonical (get members key) := by
  unfold Json.get
  cases found : members.lookup (text key) with
  | none => trivial
  | some value => exact (canonicalMembers_iff.mp canonical _ (mem_of_lookup found)).2

theorem canonical_set {members : Members} (canonical : Canonical (.obj members)) {key : String} {value : Json}
    (inside : Canonical value) : Canonical (.obj (set members key value)) := by
  refine canonicalMembers_iff.mpr fun member listed => ?_
  have each := canonicalMembers_iff.mp canonical
  unfold Json.set at listed
  split at listed
  · obtain ⟨original, found, rfl⟩ := List.mem_map.mp listed
    split
    · exact ⟨(each original found).1, inside⟩
    · exact each original found
  · rcases List.mem_append.mp listed with listed | listed
    · exact each member listed
    · obtain rfl := List.mem_singleton.mp listed
      exact ⟨Text.scalar_text key, inside⟩

def Accepted (outcome : Except Failure Bytes) : Prop := ∃ raw, outcome = .ok raw

theorem escape_scalar (point : CodePoint) : Text.Scalar (escape point) ↔ Text.surrogate point = false := by
  have plain : ∀ (escaped : Text), Text.Scalar escaped → point.val < 0x100 →
      (Text.Scalar escaped ↔ Text.surrogate point = false) := by
    intro escaped scalar small
    simp only [scalar, true_iff]
    simp [Text.surrogate]
    omega
  have digits : ∀ value < 16, Text.surrogate (Text.hexDigit value) = false := by decide
  unfold escape
  split; · exact plain _ (by decide) (by omega)
  split; · exact plain _ (by decide) (by omega)
  split; · exact plain _ (by decide) (by omega)
  split; · exact plain _ (by decide) (by omega)
  split; · exact plain _ (by decide) (by omega)
  split; · exact plain _ (by decide) (by omega)
  split; · exact plain _ (by decide) (by omega)
  split
  · refine plain _ (Text.Scalar.append (by decide) ?_) (by omega)
    intro digit member
    simp only [List.mem_cons, List.not_mem_nil, or_false] at member
    rcases member with rfl | rfl
    · exact digits _ (by omega)
    · exact digits _ (by omega)
  · simp [Text.Scalar]

theorem serializeStr_accepted {value : Text} : Accepted (serializeStr value) ↔ Text.Scalar value := by
  have same : Text.Scalar (value.flatMap escape) ↔ Text.Scalar value := by
    constructor
    · intro scalar point member
      exact (escape_scalar point).mp fun escaped inside =>
        scalar escaped (List.mem_flatMap.mpr ⟨point, member, inside⟩)
    · intro scalar escaped inside
      obtain ⟨point, member, inside⟩ := List.mem_flatMap.mp inside
      exact (escape_scalar point).mpr (scalar point member) escaped inside
  unfold serializeStr Accepted
  split
  next raw found =>
    have := @Text.encode?_isSome (value.flatMap escape)
    simp only [found, Option.isSome_some, true_iff] at this
    simp [same.mp this]
  next found =>
    have surrogate : ¬ Text.Scalar value := fun scalar => Text.encode?_eq_none.mp found (same.mpr scalar)
    simp [surrogate]

private theorem joined_accepted {items : List (Except Failure Bytes)} :
    Accepted (joined items) ↔ ∀ item ∈ items, Accepted item := by
  induction items with
  | nil => simp [joined, Accepted]
  | cons item rest ih =>
    cases rest with
    | nil => simp [joined]
    | cons next rest =>
      rw [List.forall_mem_cons, ← ih]
      simp only [joined, Accepted]
      cases item with
      | error failure => simp [bind, Except.bind]
      | ok raw =>
        cases joined (next :: rest) with
        | error failure => simp [bind, Except.bind]
        | ok last => simp [bind, Except.bind, pure, Except.pure]

private theorem mapM_keys {members : List (Text × Except Failure Bytes)} :
    (∀ member ∈ members, Text.Scalar member.1) →
    ∃ keyed, (members.mapM fun member => (utf16be? member.1).map fun key => (key, member.2)) = some keyed ∧
      keyed.map Prod.snd = members.map Prod.snd := by
  induction members with
  | nil => intro _; exact ⟨[], rfl, rfl⟩
  | cons member rest ih =>
    intro scalar
    obtain ⟨keyed, found, same⟩ := ih fun other inside => scalar other (List.mem_cons_of_mem _ inside)
    obtain ⟨key, encoded⟩ : ∃ key, utf16be? member.1 = some key := by
      simp [utf16be?, scalar member List.mem_cons_self]
    exact ⟨(key, member.2) :: keyed, by simp [List.mapM_cons, found, encoded], by simp [same]⟩

theorem sorted_accepted {members : List (Text × Except Failure Bytes)} (scalar : ∀ member ∈ members, Text.Scalar member.1) :
    ∃ ordered, sorted members = .ok ordered ∧ ordered.Perm (members.map Prod.snd) := by
  obtain ⟨keyed, found, same⟩ := mapM_keys scalar
  refine ⟨(keyed.insertionSort fun first last => before first last).map Prod.snd, by simp only [sorted, found], ?_⟩
  rw [← same]
  exact (List.perm_insertionSort _ keyed).map _

theorem sorted_scalar {members : List (Text × Except Failure Bytes)} {ordered : List (Except Failure Bytes)}
    (done : sorted members = .ok ordered) : ∀ member ∈ members, Text.Scalar member.1 := by
  intro member inside
  by_contra surrogate
  have missing : (members.mapM fun member => (utf16be? member.1).map fun key => (key, member.2)) = none := by
    clear done
    induction members with
    | nil => cases inside
    | cons head rest ih =>
      rcases List.mem_cons.mp inside with rfl | inside
      · simp [List.mapM_cons, utf16be?, surrogate]
      · simp [List.mapM_cons, ih inside]
  simp [sorted, missing] at done

mutual
/-- The canonicaliser accepts a value exactly when it lies in its domain. -/
theorem dumps_accepted (host : Host) : ∀ value : Json, Accepted (dumps host value) ↔ Canonical value
  | .null => by simp [dumps, Accepted, Canonical]
  | .bool _ => by simp [dumps, Accepted, Canonical]
  | .int value => by
    simp only [dumps, Accepted, Canonical]
    split
    next outside => simp; omega
    next inside => simp; omega
  | .str value => by simpa only [dumps, Canonical] using serializeStr_accepted
  | .float (.finite _) => by simp [dumps, Accepted, Canonical]
  | .float .nan => by simp [dumps, Accepted, Canonical]
  | .float (.infinite _) => by simp [dumps, Accepted, Canonical]
  | .arr items => by
    have inner := dumpItems_accepted host items
    rw [← joined_accepted] at inner
    simp only [dumps, Canonical, ← inner]
    cases joined (dumpItems host items) <;> simp [Accepted, bind, Except.bind, pure, Except.pure]
  | .obj members => by
    have inner := dumpMembers_accepted host members
    simp only [dumps, Canonical, ← inner]
    constructor
    · intro ⟨raw, done⟩
      cases found : sorted (dumpMembers host members) with
      | error failure => simp [found, bind, Except.bind] at done
      | ok ordered =>
        have keys := sorted_scalar found
        obtain ⟨other, again, perm⟩ := sorted_accepted keys
        cases found.symm.trans again
        cases text : joined ordered with
        | error failure => simp [found, text, bind, Except.bind] at done
        | ok content =>
          refine fun member inside => ⟨keys member inside, ?_⟩
          exact joined_accepted.mp ⟨content, text⟩ _ (perm.mem_iff.mpr (List.mem_map_of_mem inside))
    · intro each
      obtain ⟨ordered, found, perm⟩ := sorted_accepted fun member inside => (each member inside).1
      have accepted : ∀ item ∈ ordered, Accepted item := by
        intro item inside
        obtain ⟨member, listed, rfl⟩ := List.mem_map.mp (perm.mem_iff.mp inside)
        exact (each member listed).2
      obtain ⟨content, text⟩ := joined_accepted.mpr accepted
      exact ⟨_, by simp only [found, text, bind, Except.bind]; rfl⟩

theorem dumpItems_accepted (host : Host) : ∀ items : List Json,
    (∀ item ∈ dumpItems host items, Accepted item) ↔ CanonicalItems items
  | [] => by simp [dumpItems, CanonicalItems]
  | item :: rest => by
    rw [dumpItems, List.forall_mem_cons, CanonicalItems, dumps_accepted host item, dumpItems_accepted host rest]

theorem dumpMembers_accepted (host : Host) : ∀ members : Members,
    (∀ member ∈ dumpMembers host members, Text.Scalar member.1 ∧ Accepted member.2) ↔ CanonicalMembers members
  | [] => by simp [dumpMembers, CanonicalMembers]
  | (key, value) :: rest => by
    rw [dumpMembers, List.forall_mem_cons, CanonicalMembers, dumpMembers_accepted host rest,
      ← dumps_accepted host value, ← serializeStr_accepted]
    refine and_congr_left fun _ => and_congr_right fun ⟨name, found⟩ => ?_
    cases dumps host value <;> simp [Accepted, found, bind, Except.bind, pure, Except.pure]
end

/-- The bytes a decimal is written with. None of them delimits a JSON value. -/
def numeral (byte : UInt8) : Bool := byte == 45 || (48 ≤ byte.toNat && byte.toNat ≤ 57)

private theorem digit_range {value : Nat} {char : Char} (listed : char ∈ Nat.toDigits 10 value) :
    48 ≤ char.toNat ∧ char.toNat ≤ 57 := by
  have digit := Nat.isDigit_of_mem_toDigits (by decide) (by decide) listed
  simp only [Char.isDigit, Bool.and_eq_true, decide_eq_true_eq] at digit
  exact ⟨UInt32.le_iff_toNat_le.mp digit.1, UInt32.le_iff_toNat_le.mp digit.2⟩

private theorem digits_inj {first last : Nat}
    (same : (Nat.toDigits 10 first).map (fun char => UInt8.ofNat char.toNat) =
      (Nat.toDigits 10 last).map fun char => UInt8.ofNat char.toNat) : first = last := by
  have restored : ∀ value : Nat, ((Nat.toDigits 10 value).map fun char => UInt8.ofNat char.toNat).map
      (fun byte => Char.ofNat byte.toNat) = Nat.toDigits 10 value := by
    intro value
    rw [List.map_map]
    refine (List.map_congr_left fun char listed => ?_).trans (List.map_id _)
    have range := digit_range listed
    have small : (UInt8.ofNat char.toNat).toNat = char.toNat := by
      rw [UInt8.toNat_ofNat']
      omega
    simp only [Function.comp_apply, small, id_eq, Char.ofNat_toNat]
  have digits := congrArg (List.map fun byte : UInt8 => Char.ofNat byte.toNat) same
  rw [restored, restored] at digits
  have values := congrArg (fun chars => Nat.ofDigitChars 10 chars 0) digits
  simpa only [Nat.ofDigitChars_toDigits (b := 10) (by decide) (by decide)] using values

theorem decimal_numeral {value : Int} {byte : UInt8} (listed : byte ∈ decimal value) : numeral byte = true := by
  rcases List.mem_append.mp listed with sign | digit
  · split at sign
    · obtain rfl := List.mem_singleton.mp sign
      rfl
    · cases sign
  · obtain ⟨char, inside, rfl⟩ := List.mem_map.mp digit
    have range := digit_range inside
    have small : (UInt8.ofNat char.toNat).toNat = char.toNat := by
      rw [UInt8.toNat_ofNat']
      omega
    simp [numeral, small, range]

private theorem digits_unsigned (value : Nat) (rest : Bytes) :
    ascii "-" ++ rest ≠ (Nat.toDigits 10 value).map fun char => UInt8.ofNat char.toNat := by
  intro same
  have listed : (45 : UInt8) ∈ (Nat.toDigits 10 value).map fun char => UInt8.ofNat char.toNat := by
    rw [← same]
    exact List.mem_cons_self
  obtain ⟨char, inside, equal⟩ := List.mem_map.mp listed
  have range := digit_range inside
  have value := congrArg UInt8.toNat equal
  rw [UInt8.toNat_ofNat'] at value
  simp only [UInt8.reduceToNat] at value
  omega

theorem decimal_inj {first last : Int} (same : decimal first = decimal last) : first = last := by
  unfold decimal at same
  by_cases low : first < 0 <;> by_cases high : last < 0
  · simp only [low, high, if_true, List.append_cancel_left_eq] at same
    have := digits_inj same
    omega
  · simp only [low, high, if_true, if_false, List.nil_append] at same
    exact absurd same (digits_unsigned _ _)
  · simp only [low, high, if_true, if_false, List.nil_append] at same
    exact absurd same.symm (digits_unsigned _ _)
  · simp only [low, high, if_false, List.nil_append] at same
    have := digits_inj same
    omega

/-- A decimal ends where its delimiter stands. -/
theorem decimal_delimited {first last : Int} (delimiter : UInt8) {before after : Bytes} (stop : numeral delimiter = false)
    (same : decimal first ++ delimiter :: before = decimal last ++ delimiter :: after) :
    first = last ∧ before = after := by
  have taken := congrArg (List.takeWhile numeral) same
  rw [List.takeWhile_append_of_pos fun _ => decimal_numeral, List.takeWhile_append_of_pos fun _ => decimal_numeral,
    List.takeWhile_cons_of_neg (by simp [stop]), List.takeWhile_cons_of_neg (by simp [stop]),
    List.append_nil, List.append_nil] at taken
  obtain rfl := decimal_inj taken
  exact ⟨rfl, List.cons.inj (List.append_cancel_left same) |>.2⟩

theorem dumps_int {host : Host} {value : Int} (inside : intMin ≤ value ∧ value ≤ intMax) :
    dumps host (.int value) = .ok (decimal value) := by
  simp only [dumps]
  rw [if_neg (by omega)]

/-! The length of a canonical form. -/

/-- The length of a text between its quotes, and the quotes. -/
def spelled (value : Text) : Nat := ((Text.encode? (value.flatMap escape)).getD []).length + 2

/-- The pieces with the commas between them. -/
def stretched (lengths : List Nat) : Nat := lengths.sum + (lengths.length - 1)

mutual
def extent (host : Host) : Json → Nat
  | .null => 4
  | .bool value => if value then 4 else 5
  | .int value => (decimal value).length
  | .str value => spelled value
  | .float (.finite value) => (host.floatText value).length
  | .float _ => 0
  | .arr items => stretched (itemExtents host items) + 2
  | .obj members => stretched (memberExtents host members) + 2

def itemExtents (host : Host) : List Json → List Nat
  | [] => []
  | item :: rest => extent host item :: itemExtents host rest

def memberExtents (host : Host) : Members → List Nat
  | [] => []
  | (key, value) :: rest => (spelled key + 1 + extent host value) :: memberExtents host rest
end

/-- Where there is a result, it has this length. -/
def Spans (outcome : Except Failure Bytes) (length : Nat) : Prop := ∀ raw, outcome = .ok raw → raw.length = length

theorem serializeStr_spans (value : Text) : Spans (serializeStr value) (spelled value) := by
  intro raw done
  unfold serializeStr at done
  unfold spelled
  have quote : (ascii "\"").length = 1 := by decide
  split at done
  next inner found =>
    cases done
    rw [found, List.length_append, List.length_append, quote, Option.getD_some]
    omega
  next => cases done

theorem joined_spans {items : List (Except Failure Bytes)} {lengths : List Nat} (each : List.Forall₂ Spans items lengths) :
    Spans (joined items) (stretched lengths) := by
  induction each with
  | nil =>
    intro raw done
    cases done
    rfl
  | @cons item length items lengths first rest ih =>
    cases rest with
    | nil => simpa [joined, stretched] using first
    | @cons next second items lengths middle rest =>
      intro raw done
      have unfolded : joined (item :: next :: items) = item.bind fun head => (joined (next :: items)).bind fun tail =>
          .ok (head ++ ascii "," ++ tail) := rfl
      rw [unfolded] at done
      cases here : item with
      | error failure =>
        rw [here] at done
        cases done
      | ok head =>
        cases later : joined (next :: items) with
        | error failure =>
          rw [here, later] at done
          cases done
        | ok tail =>
          rw [here, later] at done
          cases done
          have one := first head here
          have many := ih tail later
          have comma : (ascii ",").length = 1 := by decide
          simp only [stretched, List.sum_cons, List.length_cons, List.length_append, comma] at many ⊢
          omega

theorem stretched_perm {first last : List Nat} (perm : first.Perm last) : stretched first = stretched last := by
  unfold stretched
  rw [perm.sum_nat, perm.length_eq]

/-- Sorting moves each piece with its length. -/
theorem sorted_spans {members : List (Text × Except Failure Bytes)} {lengths : List Nat} {ordered : List (Except Failure Bytes)}
    (each : List.Forall₂ Spans (members.map Prod.snd) lengths) (done : sorted members = .ok ordered) :
    Spans (joined ordered) (stretched lengths) := by
  obtain ⟨other, again, perm⟩ := sorted_accepted (sorted_scalar done)
  cases done.symm.trans again
  obtain ⟨moved, spans, same⟩ := List.perm_comp_forall₂ perm each
  rw [← stretched_perm same]
  exact joined_spans spans

mutual
theorem dumps_spans (host : Host) : ∀ value : Json, Spans (dumps host value) (extent host value)
  | .null => by
    rintro raw ⟨⟩
    rfl
  | .bool value => by
    rintro raw ⟨⟩
    cases value <;> rfl
  | .int value => by
    intro raw done
    unfold dumps at done
    split at done
    · cases done
    · cases done
      rfl
  | .str value => serializeStr_spans value
  | .float (.finite value) => by
    rintro raw ⟨⟩
    rfl
  | .float .nan | .float (.infinite _) => by
    rintro raw ⟨⟩
  | .arr items => by
    intro raw done
    have unfolded : dumps host (.arr items) = (joined (dumpItems host items)).bind fun inner =>
        .ok (ascii "[" ++ inner ++ ascii "]") := rfl
    rw [unfolded] at done
    cases inside : joined (dumpItems host items) with
    | error failure =>
      rw [inside] at done
      cases done
    | ok inner =>
      rw [inside] at done
      cases done
      have length := joined_spans (dumpItems_spans host items) inner inside
      have brackets : (ascii "[").length = 1 ∧ (ascii "]").length = 1 := by decide
      simp only [extent, List.length_append, length, brackets]
      omega
  | .obj members => by
    intro raw done
    have unfolded : dumps host (.obj members) = (sorted (dumpMembers host members)).bind fun ordered =>
        (joined ordered).bind fun inner => .ok (ascii "\x7b" ++ inner ++ ascii "\x7d") := rfl
    rw [unfolded] at done
    cases found : sorted (dumpMembers host members) with
    | error failure =>
      rw [found] at done
      cases done
    | ok ordered =>
      rw [found] at done
      cases inside : joined ordered with
      | error failure =>
        simp only [Except.bind, inside] at done
        cases done
      | ok inner =>
        simp only [Except.bind, inside] at done
        cases done
        have length := sorted_spans (dumpMembers_spans host members) found inner inside
        have braces : (ascii "\x7b").length = 1 ∧ (ascii "\x7d").length = 1 := by decide
        simp only [extent, List.length_append, length, braces]
        omega

theorem dumpItems_spans (host : Host) : ∀ items : List Json,
    List.Forall₂ Spans (dumpItems host items) (itemExtents host items)
  | [] => .nil
  | item :: rest => .cons (dumps_spans host item) (dumpItems_spans host rest)

theorem dumpMembers_spans (host : Host) : ∀ members : Members,
    List.Forall₂ Spans ((dumpMembers host members).map Prod.snd) (memberExtents host members)
  | [] => .nil
  | (key, value) :: rest => by
    rw [dumpMembers, List.map_cons, memberExtents]
    refine .cons ?_ (dumpMembers_spans host rest)
    intro raw done
    cases name : serializeStr key with
    | error failure =>
      simp only [name] at done
      cases done
    | ok name_ =>
      cases content : dumps host value with
      | error failure =>
        simp only [name, content] at done
        cases done
      | ok content_ =>
        simp only [name, content] at done
        cases done
        have first := serializeStr_spans key name_ name
        have last := dumps_spans host value content_ content
        have colon : (ascii ":").length = 1 := by decide
        simp only [List.length_append, first, last, colon]
end

end Switchyard.Rfc8785

namespace Switchyard
open Library

/-- A canonicaliser for values without fractions, and a decoder that knows nothing. -/
def plainHost : Host where
  sha256 _ := ⟨List.replicate 32 0, zeros_length⟩
  loads _ := .error (.malformed (className "JSONDecodeError") (text "Expecting value: line 1 column 1 (char 0)"))
  loadsUnique _ := .error (.malformed (className "JSONDecodeError") (text "Expecting value: line 1 column 1 (char 0)"))
  loadsUniqueText _ := .error (.malformed (className "JSONDecodeError") (text "Expecting value: line 1 column 1 (char 0)"))
  floatText value := Rfc8785.decimal value.num
  copies _ := true

def plainBytes (value : Json) : Bytes := (Rfc8785.dumps plainHost value).toOption.getD []

def canonicalText (value : Json) : Text := (Text.decode? (plainBytes value)).getD []

end Switchyard
