import Mathlib.Data.List.Perm.Lattice
import Mathlib.Data.UInt
import Switchyard.Reread

/-! Canonical bytes read back and written again. The canonicaliser sorts the keys of
a dict, so a dict that was read back has the same canonical form as the original. -/

namespace Switchyard
open Library Json

namespace Rfc8785

/-- A code point in UTF-16. -/
private def units (point : CodePoint) : Bytes :=
  if point.val < 0x10000 then [.ofNat (point.val / 0x100), .ofNat (point.val % 0x100)]
  else
    let high := 0xD800 + (point.val - 0x10000) / 0x400
    let low := 0xDC00 + (point.val - 0x10000) % 0x400
    [.ofNat (high / 0x100), .ofNat (high % 0x100), .ofNat (low / 0x100), .ofNat (low % 0x100)]

private theorem byte_inj {first last : Nat} (left : first < 256) (right : last < 256)
    (same : UInt8.ofNat first = UInt8.ofNat last) : first = last := by
  have equal := congrArg UInt8.toNat same
  rwa [UInt8.toNat_ofNat_of_lt' left, UInt8.toNat_ofNat_of_lt' right] at equal

private theorem units_inj {first last : CodePoint} (scalarFirst : Text.surrogate first = false)
    (scalarLast : Text.surrogate last = false) {before after : Bytes} (same : units first ++ before = units last ++ after) :
    first = last ∧ before = after := by
  have boundFirst := first.isLt
  have boundLast := last.isLt
  simp only [Text.surrogate, Bool.and_eq_false_iff, decide_eq_false_iff_not] at scalarFirst scalarLast
  unfold units at same
  split at same <;> split at same
  · simp only [List.cons_append, List.nil_append, List.cons.injEq] at same
    have high := byte_inj (by omega) (by omega) same.1
    have low := byte_inj (by omega) (by omega) same.2.1
    exact ⟨Fin.ext (by omega), same.2.2⟩
  · simp only [List.cons_append, List.nil_append, List.cons.injEq] at same
    have high := byte_inj (by omega) (by omega) same.1
    omega
  · simp only [List.cons_append, List.nil_append, List.cons.injEq] at same
    have high := byte_inj (by omega) (by omega) same.1
    omega
  · simp only [List.cons_append, List.nil_append, List.cons.injEq] at same
    have one := byte_inj (by omega) (by omega) same.1
    have two := byte_inj (by omega) (by omega) same.2.1
    have three := byte_inj (by omega) (by omega) same.2.2.1
    have four := byte_inj (by omega) (by omega) same.2.2.2.1
    exact ⟨Fin.ext (by omega), same.2.2.2.2⟩

private theorem units_nonempty (point : CodePoint) : units point ≠ [] := by
  unfold units
  split <;> simp

private theorem flatMap_units_inj : ∀ {first last : Text}, Text.Scalar first → Text.Scalar last →
    first.flatMap units = last.flatMap units → first = last
  | [], [], _, _, _ => rfl
  | [], point :: rest, _, _, same => by
    rw [List.flatMap_nil, List.flatMap_cons] at same
    exact absurd (List.append_eq_nil_iff.mp same.symm).1 (units_nonempty point)
  | point :: rest, [], _, _, same => by
    rw [List.flatMap_nil, List.flatMap_cons] at same
    exact absurd (List.append_eq_nil_iff.mp same).1 (units_nonempty point)
  | first :: rest, last :: others, left, right, same => by
    rw [List.flatMap_cons, List.flatMap_cons] at same
    obtain ⟨rfl, tail⟩ := units_inj (left first List.mem_cons_self) (right last List.mem_cons_self) same
    rw [flatMap_units_inj (fun point listed => left point (List.mem_cons_of_mem _ listed))
      (fun point listed => right point (List.mem_cons_of_mem _ listed)) tail]

/-- Distinct keys sort by distinct bytes. -/
theorem utf16be_inj {first last : Text} {raw : Bytes} (left : utf16be? first = some raw) (right : utf16be? last = some raw) :
    first = last := by
  unfold utf16be? at left right
  split at left
  · next scalar =>
    split at right
    · next other => exact flatMap_units_inj scalar other (Option.some.inj (left.trans right.symm))
    · cases right
  · cases left

/-- A member under the key that sorts it. -/
def keyed (member : Text × Except Failure Bytes) : Bytes × Except Failure Bytes :=
  ((utf16be? member.1).getD [], member.2)

theorem sorted_keyed {members : List (Text × Except Failure Bytes)} (scalar : ∀ member ∈ members, Text.Scalar member.1) :
    sorted members = .ok (((members.map keyed).insertionSort fun first last => before first last).map Prod.snd) := by
  have mapped : (members.mapM fun member => (utf16be? member.1).map fun key => (key, member.2)) = some (members.map keyed) := by
    induction members with
    | nil => rfl
    | cons member rest ih =>
      have each := ih fun other listed => scalar other (List.mem_cons_of_mem _ listed)
      obtain ⟨key, encoded⟩ : ∃ key, utf16be? member.1 = some key :=
        ⟨_, by rw [utf16be?, if_pos (scalar member List.mem_cons_self)]⟩
      simp [List.mapM_cons, each, keyed, encoded]
  simp only [sorted, mapped]

private theorem sorted_surrogate {members : List (Text × Except Failure Bytes)}
    (surrogate : ¬ ∀ member ∈ members, Text.Scalar member.1) : sorted members = .error .unicodeEncode := by
  cases result : sorted members with
  | ok ordered => exact absurd (sorted_scalar result) surrogate
  | error failure =>
    unfold sorted at result
    split at result
    · cases result
    · exact result.symm

private theorem keyed_inj {members : List (Text × Except Failure Bytes)} (scalar : ∀ member ∈ members, Text.Scalar member.1)
    (distinct : (members.map Prod.fst).Nodup) {first last : Bytes × Except Failure Bytes} (left : first ∈ members.map keyed)
    (right : last ∈ members.map keyed) (same : first.1 = last.1) : first = last := by
  obtain ⟨one, oneListed, rfl⟩ := List.mem_map.mp left
  obtain ⟨two, twoListed, rfl⟩ := List.mem_map.mp right
  have encoded {member : Text × Except Failure Bytes} (listed : member ∈ members) : utf16be? member.1 = some (keyed member).1 := by
    simp [keyed, utf16be?, scalar member listed]
  have keys := utf16be_inj (encoded oneListed) (same ▸ encoded twoListed)
  rw [List.inj_on_of_nodup_map distinct oneListed twoListed keys]

/-- Members in another order sort to the same list. -/
theorem sorted_perm {first last : List (Text × Except Failure Bytes)} (perm : first.Perm last)
    (distinct : (first.map Prod.fst).Nodup) : sorted first = sorted last := by
  by_cases scalar : ∀ member ∈ first, Text.Scalar member.1
  · have scalarLast : ∀ member ∈ last, Text.Scalar member.1 := fun member listed => scalar member (perm.mem_iff.mpr listed)
    rw [sorted_keyed scalar, sorted_keyed scalarLast]
    congr 2
    have total : Std.Total fun first last : Bytes × Except Failure Bytes => before first last = true := by
      refine ⟨fun first last => ?_⟩
      simpa [before] using List.le_total first.1 last.1
    have transitive : IsTrans (Bytes × Except Failure Bytes) fun first last => before first last = true := by
      refine ⟨fun first middle last left right => ?_⟩
      simp only [before, Bool.not_eq_true', decide_eq_false_iff_not, List.not_lt] at left right ⊢
      exact List.le_trans left right
    refine List.Perm.eq_of_pairwise ?_ (List.pairwise_insertionSort _ _) (List.pairwise_insertionSort _ _) ?_
    · intro one two oneListed twoListed left right
      simp only [before, Bool.not_eq_true', decide_eq_false_iff_not, List.not_lt] at left right
      have inFirst := (List.mem_insertionSort _).mp oneListed
      have inLast := (perm.map keyed).mem_iff.mpr ((List.mem_insertionSort _).mp twoListed)
      exact keyed_inj scalar distinct inFirst inLast (List.le_antisymm left right)
    · exact (List.perm_insertionSort _ _).trans ((perm.map keyed).trans (List.perm_insertionSort _ _).symm)
  · have surrogate : ¬ ∀ member ∈ last, Text.Scalar member.1 := fun scalarLast =>
      scalar fun member listed => scalarLast member (perm.mem_iff.mp listed)
    rw [sorted_surrogate scalar, sorted_surrogate surrogate]

end Rfc8785

variable {host : Host}

/-- `decoded` is what the decoder makes of the canonical form of a value: an equal value. Keys of
a dict are distinct. -/
inductive Restored (host : Host) : Json → Json → Prop
  | null : Restored host .null .null
  | bool (value : Bool) : Restored host (.bool value) (.bool value)
  | int (value : Int) : Restored host (.int value) (.int value)
  | str (value : Text) : Restored host (.str value) (.str value)
  | float {value : ℚ} {decoded : Json} : host.loads (host.floatText value) = .ok decoded →
      equal decoded (.float (.finite value)) = true → Restored host decoded (.float (.finite value))
  | arr {decoded items : List Json} : decoded.length = items.length →
      (∀ pair ∈ decoded.zip items, Restored host pair.1 pair.2) → Restored host (.arr decoded) (.arr items)
  | obj {decoded members : Members} : (decoded.map Prod.fst).Nodup → (members.map Prod.fst).Nodup →
      (∀ key, (decoded.lookup key).isSome = (members.lookup key).isSome) →
      (∀ key left right, decoded.lookup key = some left → members.lookup key = some right → Restored host left right) →
      Restored host (.obj decoded) (.obj members)

/-- The decoder restores the canonical form of this value. -/
def Restores (host : Host) (value : Json) : Prop :=
  ∀ raw, Rfc8785.dumps host value = .ok raw → ∃ decoded, host.loads raw = .ok decoded ∧ Restored host decoded value

mutual
/-- A value without floats whose dicts have distinct keys. -/
def exactly : Json → Bool
  | .float _ => false
  | .arr items => exactlyItems items
  | .obj members => decide (members.map Prod.fst).Nodup && exactlyMembers members
  | _ => true

def exactlyItems : List Json → Bool
  | [] => true
  | item :: rest => exactly item && exactlyItems rest

def exactlyMembers : Members → Bool
  | [] => true
  | (_, value) :: rest => exactly value && exactlyMembers rest
end

theorem exactlyItems_iff {items : List Json} : exactlyItems items = true ↔ ∀ item ∈ items, exactly item = true := by
  induction items with
  | nil => simp [exactlyItems]
  | cons item rest ih => simp [exactlyItems, ih]

theorem exactlyMembers_iff {members : Members} : exactlyMembers members = true ↔ ∀ member ∈ members, exactly member.2 = true := by
  induction members with
  | nil => simp [exactlyMembers]
  | cons member rest ih => simp [exactlyMembers, ih]

mutual
/-- Such a value is restored as itself. -/
theorem Restored.self : ∀ value : Json, exactly value = true → Restored host value value
  | .null, _ => .null
  | .bool value, _ => .bool value
  | .int value, _ => .int value
  | .str value, _ => .str value
  | .arr items, same => .arr rfl fun pair listed => by
    obtain ⟨equal, inside⟩ := Restored.selfItems items same pair listed
    exact equal ▸ inside
  | .obj members, same => by
    simp only [exactly, Bool.and_eq_true, decide_eq_true_eq] at same
    refine .obj same.1 same.1 (fun _ => rfl) fun key left right found visible => ?_
    obtain rfl := Option.some.inj (found.symm.trans visible)
    exact Restored.selfMembers members same.2 (key, left) (mem_of_lookup found)

theorem Restored.selfItems : ∀ items : List Json, exactlyItems items = true → ∀ pair ∈ items.zip items,
    pair.1 = pair.2 ∧ Restored host pair.1 pair.1
  | [], _, _, listed => by cases listed
  | item :: rest, same, pair, listed => by
    simp only [exactlyItems, Bool.and_eq_true] at same
    rcases List.mem_cons.mp listed with rfl | listed
    · exact ⟨rfl, Restored.self item same.1⟩
    · exact Restored.selfItems rest same.2 pair listed

theorem Restored.selfMembers : ∀ members : Members, exactlyMembers members = true → ∀ member ∈ members, Restored host member.2 member.2
  | [], _, _, listed => by cases listed
  | (key, value) :: rest, same, member, listed => by
    simp only [exactlyMembers, Bool.and_eq_true] at same
    rcases List.mem_cons.mp listed with rfl | listed
    · exact Restored.self value same.1
    · exact Restored.selfMembers rest same.2 member listed
end

/-- Values that are written and read back in a test are restored. -/
theorem restores_checked {values : List Json} (exact : ∀ value ∈ values, exactly value = true)
    (loaded : values.all (fun value => match Rfc8785.dumps host value with
      | .ok raw => decide ((host.loads raw).toOption = some value)
      | .error _ => true) = true) : ∀ value ∈ values, Restores host value := by
  intro value listed raw spelled
  have read : (host.loads raw).toOption = some value := by
    have each := List.all_eq_true.mp loaded value listed
    rw [spelled] at each
    exact of_decide_eq_true each
  refine ⟨value, ?_, .self value (exact value listed)⟩
  cases found : host.loads raw with
  | ok other =>
    rw [found] at read
    rw [Option.some.inj read]
  | error failure =>
    rw [found] at read
    cases read

theorem Restored.reads {decoded value : Json} (restored : Restored host decoded value) : Reads host decoded value := by
  induction restored with
  | null => exact .null
  | bool value => exact .bool value
  | int value => exact .int value
  | str value => exact .str value
  | float loaded _ => exact .float loaded
  | arr length _ ih => exact .arr length ih
  | obj _ _ present _ ih => exact .obj present ih

theorem Restores.rereads {value : Json} (restores : Restores host value) : Rereads host value := by
  intro raw spelled
  obtain ⟨decoded, loaded, restored⟩ := restores raw spelled
  exact ⟨decoded, loaded, restored.reads⟩

theorem Restored.equal {decoded value : Json} (restored : Restored host decoded value) : equal decoded value = true := by
  induction restored with
  | null | bool _ | int _ | str _ => exact equal_refl _
  | float _ same => exact same
  | arr length _ ih => exact equalItems_of_zip length ih
  | @obj decoded members _ _ present _ ih =>
    refine equal_obj.mpr ⟨fun key found => by rwa [present], fun key left found => ?_⟩
    obtain ⟨right, visible⟩ := Option.isSome_iff_exists.mp ((present key).symm.trans (by simp [found]))
    exact ⟨right, visible, ih key left right found visible⟩

/-- What is restored of such a value is such a value. -/
theorem Restored.exactly {decoded value : Json} (restored : Restored host decoded value) :
    exactly value = true → exactly decoded = true := by
  induction restored with
  | null | bool _ | int _ | str _ => exact fun same => same
  | float => nofun
  | @arr decoded items length _ ih =>
    simp only [Switchyard.exactly, exactlyItems_iff]
    intro each item listed
    obtain ⟨index, inside, rfl⟩ := List.mem_iff_getElem.mp listed
    have paired : (decoded[index], items[index]) ∈ decoded.zip items :=
      List.mem_iff_getElem.mpr ⟨index, by simp [length]; omega, by simp⟩
    exact ih _ paired (each _ (List.getElem_mem _))
  | @obj decoded members distinct _ present _ ih =>
    simp only [Switchyard.exactly, Bool.and_eq_true, decide_eq_true_eq, exactlyMembers_iff]
    rintro ⟨-, each⟩
    refine ⟨distinct, fun member listed => ?_⟩
    have found := lookup_of_mem distinct listed
    obtain ⟨right, visible⟩ := Option.isSome_iff_exists.mp ((present member.1).symm.trans (by simp [found]))
    exact ih member.1 member.2 right found visible (each _ (mem_of_lookup visible))

theorem Restored.get {decoded members : Members} (restored : Restored host (.obj decoded) (.obj members)) (key : String) :
    Restored host (Json.get decoded key) (Json.get members key) := by
  cases restored with
  | obj _ _ present values =>
    have same := present (text key)
    unfold Json.get
    cases left : decoded.lookup (text key) with
    | none =>
      rw [left] at same
      have absent : members.lookup (text key) = none := by simpa using same.symm
      rw [absent]
      exact .null
    | some value =>
      rw [left] at same
      obtain ⟨right, found⟩ := Option.isSome_iff_exists.mp same.symm
      rw [found]
      exact values _ _ _ left found

theorem Restored.members {decoded : Json} {members : Members} (restored : Restored host decoded (.obj members)) :
    ∃ others, decoded = .obj others := by
  cases restored with
  | obj => exact ⟨_, rfl⟩

theorem Restored.has {decoded members : Members} (restored : Restored host (.obj decoded) (.obj members)) (key : String) :
    Json.has decoded key = Json.has members key := by
  cases restored with
  | obj _ _ present _ => exact present (text key)

theorem Restored.closed {decoded members : Members} (restored : Restored host (.obj decoded) (.obj members))
    {keys : List String} (closed : Json.closed members keys = true) : Json.closed decoded keys = true := by
  have named := closed
  simp only [Json.closed, Bool.and_eq_true, List.all_eq_true] at named ⊢
  refine ⟨fun member listed => ?_, fun key listed => restored.has key ▸ named.2 key listed⟩
  cases restored with
  | obj distinct _ present _ =>
    have found : (members.lookup member.1).isSome := by
      rw [← present, lookup_of_mem distinct listed]
      rfl
    obtain ⟨value, found⟩ := Option.isSome_iff_exists.mp found
    exact named.1 (member.1, value) (mem_of_lookup found)

theorem lookup_without (members : Members) (name key : Text) :
    (members.filter fun member => member.1 != name).lookup key = if key = name then none else members.lookup key := by
  induction members with
  | nil => simp
  | cons member rest ih =>
    obtain ⟨other, value⟩ := member
    by_cases named : other = name
    · subst other
      simp only [List.filter_cons, bne_self_eq_false, Bool.false_eq_true, if_false, ih]
      split
      · rfl
      · next differ =>
        have apart : (key == name) = false := by simpa using differ
        simp only [List.lookup_cons, apart]
    · have kept : (other != name) = true := by simpa using named
      simp only [List.filter_cons, kept, if_true, List.lookup_cons]
      by_cases same : key = other
      · subst key
        simp [named]
      · have apart : (key == other) = false := by simpa using same
        simp only [apart, ih]

theorem Restored.without {decoded members : Members} (restored : Restored host (.obj decoded) (.obj members)) (name : Text) :
    Restored host (.obj (decoded.filter fun member => member.1 != name)) (.obj (members.filter fun member => member.1 != name)) := by
  cases restored with
  | obj left right present values =>
    refine .obj (left.sublist (List.filter_sublist.map Prod.fst)) (right.sublist (List.filter_sublist.map Prod.fst)) ?_ ?_
    · intro key
      rw [lookup_without, lookup_without]
      split
      · rfl
      · exact present key
    · intro key one two found visible
      rw [lookup_without] at found visible
      split at found
      · cases found
      · next other =>
        rw [if_neg other] at visible
        exact values key one two found visible

/-- Neither a container nor a float. -/
def plain : Json → Bool
  | .null | .bool _ | .int _ | .str _ => true
  | _ => false

/-- What is plain is restored as it was. -/
theorem Restored.plain {decoded value : Json} (restored : Restored host decoded value) (plain : plain value = true) :
    decoded = value := by
  cases restored with
  | null | bool _ | int _ | str _ => rfl
  | float | arr | obj => cases plain

namespace Rfc8785

/-- A member between its key and its comma. -/
def member (host : Host) (entry : Text × Json) : Text × Except Failure Bytes :=
  (entry.1, do
    let name ← serializeStr entry.1
    let content ← dumps host entry.2
    return name ++ ascii ":" ++ content)

theorem dumpMembers_map (host : Host) (members : Members) : dumpMembers host members = members.map (member host) := by
  induction members with
  | nil => rfl
  | cons entry rest ih => simp only [dumpMembers, ih, List.map_cons, member]

theorem dumpItems_map (host : Host) (items : List Json) : dumpItems host items = items.map (dumps host) := by
  induction items with
  | nil => rfl
  | cons item rest ih => simp only [dumpItems, ih, List.map_cons]

/-- Dicts with distinct keys and the same canonical values have the same canonical form. -/
theorem dumps_obj {first last : Members} (left : (first.map Prod.fst).Nodup) (right : (last.map Prod.fst).Nodup)
    (present : ∀ key, (first.lookup key).isSome = (last.lookup key).isSome)
    (values : ∀ key one two, first.lookup key = some one → last.lookup key = some two → dumps host one = dumps host two) :
    dumps host (.obj first) = dumps host (.obj last) := by
  have keys (members : Members) : ((members.map (member host)).map Prod.fst) = members.map Prod.fst := by
    rw [List.map_map]
    rfl
  have spelled {one two : Json} {key : Text} (same : dumps host one = dumps host two) : member host (key, one) = member host (key, two) := by
    simp only [member, same]
  have perm : (first.map (member host)).Perm (last.map (member host)) := by
    refine (List.perm_ext_iff_of_nodup (.of_map Prod.fst (keys first ▸ left)) (.of_map Prod.fst (keys last ▸ right))).mpr ?_
    intro entry
    constructor
    · intro listed
      obtain ⟨⟨key, one⟩, inside, rfl⟩ := List.mem_map.mp listed
      have found := lookup_of_mem left inside
      obtain ⟨two, visible⟩ := Option.isSome_iff_exists.mp ((present key).symm.trans (by rw [found]; rfl))
      rw [spelled (values key one two found visible)]
      exact List.mem_map_of_mem (mem_of_lookup visible)
    · intro listed
      obtain ⟨⟨key, two⟩, inside, rfl⟩ := List.mem_map.mp listed
      have visible := lookup_of_mem right inside
      obtain ⟨one, found⟩ := Option.isSome_iff_exists.mp ((present key).trans (by rw [visible]; rfl))
      rw [← spelled (values key one two found visible)]
      exact List.mem_map_of_mem (mem_of_lookup found)
  have sorts : sorted (dumpMembers host first) = sorted (dumpMembers host last) := by
    rw [dumpMembers_map, dumpMembers_map]
    exact sorted_perm perm (keys first ▸ left)
  simp only [dumps, sorts]

end Rfc8785

mutual
/-- What is read back of a float is spelled like the float. -/
def Stable (host : Host) : Json → Prop
  | .float (.finite value) => ∀ decoded, host.loads (host.floatText value) = .ok decoded →
      Rfc8785.dumps host decoded = .ok (host.floatText value)
  | .arr items => StableItems host items
  | .obj members => StableMembers host members
  | _ => True

def StableItems (host : Host) : List Json → Prop
  | [] => True
  | item :: rest => Stable host item ∧ StableItems host rest

def StableMembers (host : Host) : Members → Prop
  | [] => True
  | (_, value) :: rest => Stable host value ∧ StableMembers host rest
end

theorem stableItems_iff {items : List Json} : StableItems host items ↔ ∀ item ∈ items, Stable host item := by
  induction items with
  | nil => simp [StableItems]
  | cons item rest ih => simp [StableItems, ih]

theorem stableMembers_iff {members : Members} : StableMembers host members ↔ ∀ member ∈ members, Stable host member.2 := by
  induction members with
  | nil => simp [StableMembers]
  | cons member rest ih => simp [StableMembers, ih]

mutual
theorem exactly_stable : ∀ value : Json, exactly value = true → Stable host value
  | .null, _ | .bool _, _ | .int _, _ | .str _, _ => trivial
  | .arr items, same => exactlyItems_stable items same
  | .obj members, same => by
    simp only [exactly, Bool.and_eq_true] at same
    exact exactlyMembers_stable members same.2

theorem exactlyItems_stable : ∀ items : List Json, exactlyItems items = true → StableItems host items
  | [], _ => trivial
  | item :: rest, same => by
    simp only [exactlyItems, Bool.and_eq_true] at same
    exact ⟨exactly_stable item same.1, exactlyItems_stable rest same.2⟩

theorem exactlyMembers_stable : ∀ members : Members, exactlyMembers members = true → StableMembers host members
  | [], _ => trivial
  | (key, value) :: rest, same => by
    simp only [exactlyMembers, Bool.and_eq_true] at same
    exact ⟨exactly_stable value same.1, exactlyMembers_stable rest same.2⟩
end

/-- What was restored of a stable value is written as it was read. -/
theorem Restored.dumps {decoded value : Json} (restored : Restored host decoded value) :
    Stable host value → Rfc8785.dumps host decoded = Rfc8785.dumps host value := by
  induction restored with
  | null | bool _ | int _ | str _ => exact fun _ => rfl
  | float loaded _ => exact fun stable => stable _ loaded
  | @arr decoded items length _ ih =>
    intro stable
    have each : decoded.map (Rfc8785.dumps host) = items.map (Rfc8785.dumps host) := by
      refine List.ext_getElem (by simpa using length) fun index left right => ?_
      simp only [List.length_map] at left right
      simp only [List.getElem_map]
      have paired : (decoded[index], items[index]) ∈ decoded.zip items :=
        List.mem_iff_getElem.mpr ⟨index, by simp [length]; omega, by simp⟩
      exact ih _ paired (stableItems_iff.mp stable _ (List.getElem_mem right))
    simp only [Rfc8785.dumps, Rfc8785.dumpItems_map, each]
  | obj left right present _ ih =>
    intro stable
    exact Rfc8785.dumps_obj left right present fun key one two found visible =>
      ih key one two found visible (stableMembers_iff.mp stable _ (mem_of_lookup visible))

end Switchyard
