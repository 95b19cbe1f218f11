import Switchyard.Rfc8785

/-! What the decoder reads back of canonical bytes. Everything but a float comes
back as it was written; a float comes back as whatever its spelling denotes. -/

namespace Switchyard
open Library Json

variable {host : Host}

mutual
/-- The spelling of every float denotes an equal number. -/
def Exact (host : Host) : Json → Prop
  | .float (.finite value) => ∃ decoded, host.loads (host.floatText value) = .ok decoded ∧
      equal decoded (.float (.finite value)) = true
  | .arr items => ExactItems host items
  | .obj members => ExactMembers host members
  | _ => True

def ExactItems (host : Host) : List Json → Prop
  | [] => True
  | item :: rest => Exact host item ∧ ExactItems host rest

def ExactMembers (host : Host) : Members → Prop
  | [] => True
  | (_, value) :: rest => Exact host value ∧ ExactMembers host rest
end

/-- `decoded` is what `json.loads` makes of the canonical form of a dict's value. -/
inductive Reads (host : Host) : Json → Json → Prop
  | null : Reads host .null .null
  | bool (value : Bool) : Reads host (.bool value) (.bool value)
  | int (value : Int) : Reads host (.int value) (.int value)
  | str (value : Text) : Reads host (.str value) (.str value)
  | float {value : ℚ} {decoded : Json} :
      host.loads (host.floatText value) = .ok decoded → Reads host decoded (.float (.finite value))
  | arr {decoded items : List Json} : decoded.length = items.length →
      (∀ pair ∈ decoded.zip items, Reads host pair.1 pair.2) → Reads host (.arr decoded) (.arr items)
  | obj {decoded members : Members} : (∀ key, (decoded.lookup key).isSome = (members.lookup key).isSome) →
      (∀ key left right, decoded.lookup key = some left → members.lookup key = some right → Reads host left right) →
      Reads host (.obj decoded) (.obj members)

/-- The decoder reads the canonical form of this value back. -/
def Rereads (host : Host) (value : Json) : Prop :=
  ∀ raw, Rfc8785.dumps host value = .ok raw → ∃ decoded, host.loads raw = .ok decoded ∧ Reads host decoded value

mutual
def floatFree : Json → Bool
  | .float _ => false
  | .arr items => floatFreeItems items
  | .obj members => floatFreeMembers members
  | _ => true

def floatFreeItems : List Json → Bool
  | [] => true
  | item :: rest => floatFree item && floatFreeItems rest

def floatFreeMembers : Members → Bool
  | [] => true
  | (_, value) :: rest => floatFree value && floatFreeMembers rest
end

mutual
/-- A value without floats reads back as itself. -/
theorem Reads.self : ∀ value : Json, floatFree value = true → Reads host value value
  | .null, _ => .null
  | .bool value, _ => .bool value
  | .int value, _ => .int value
  | .str value, _ => .str value
  | .arr items, free => .arr rfl fun pair listed => by
    obtain ⟨same, inside⟩ := selfItems items free pair listed
    exact same ▸ inside
  | .obj members, free => .obj (fun _ => rfl) fun key left right found visible => by
    obtain rfl := Option.some.inj (found.symm.trans visible)
    exact selfMembers members free (key, left) (mem_of_lookup found)

theorem selfItems : ∀ items : List Json, floatFreeItems items = true → ∀ pair ∈ items.zip items,
    pair.1 = pair.2 ∧ Reads host pair.1 pair.1
  | [], _, _, listed => by cases listed
  | item :: rest, free, pair, listed => by
    simp only [floatFreeItems, Bool.and_eq_true] at free
    rcases List.mem_cons.mp listed with rfl | listed
    · exact ⟨rfl, Reads.self item free.1⟩
    · exact selfItems rest free.2 pair listed

theorem selfMembers : ∀ members : Members, floatFreeMembers members = true → ∀ member ∈ members,
    Reads host member.2 member.2
  | [], _, _, listed => by cases listed
  | (_, value) :: rest, free, member, listed => by
    simp only [floatFreeMembers, Bool.and_eq_true] at free
    rcases List.mem_cons.mp listed with rfl | listed
    · exact Reads.self value free.1
    · exact selfMembers rest free.2 member listed
end

theorem exactMembers_iff {members : Members} : ExactMembers host members ↔ ∀ member ∈ members, Exact host member.2 := by
  induction members with
  | nil => simp [ExactMembers]
  | cons member rest ih => simp [ExactMembers, ih]

theorem exact_get {members : Members} (exact : Exact host (.obj members)) (key : String) :
    Exact host (Json.get members key) := by
  unfold Json.get
  cases found : members.lookup (text key) with
  | none => trivial
  | some value => exact exactMembers_iff.mp exact _ (mem_of_lookup found)

theorem exact_set {members : Members} (exact : Exact host (.obj members)) {key : String} {value : Json}
    (inside : Exact host value) : Exact host (.obj (Json.set members key value)) := by
  refine exactMembers_iff.mpr fun member listed => ?_
  have each := exactMembers_iff.mp exact
  unfold Json.set at listed
  split at listed
  · obtain ⟨original, found, rfl⟩ := List.mem_map.mp listed
    split
    · exact inside
    · exact each original found
  · rcases List.mem_append.mp listed with listed | listed
    · exact each member listed
    · obtain rfl := List.mem_singleton.mp listed
      exact inside

theorem exactItems_iff {items : List Json} : ExactItems host items ↔ ∀ item ∈ items, Exact host item := by
  induction items with
  | nil => simp [ExactItems]
  | cons item rest ih => simp [ExactItems, ih]

/-- Where every float is spelled exactly, an equal value comes back. -/
theorem Reads.equal {decoded value : Json} (reads : Reads host decoded value) (exact : Exact host value) :
    equal decoded value = true := by
  induction reads with
  | null | bool _ | int _ | str _ => exact equal_refl _
  | float found =>
    obtain ⟨other, again, same⟩ := exact
    obtain rfl := Except.ok.inj (found.symm.trans again)
    exact same
  | arr length _ ih =>
    simp only [Json.equal]
    refine equalItems_of_zip length fun pair listed => ih pair listed ?_
    exact exactItems_iff.mp exact _ (List.of_mem_zip listed).2
  | @obj decoded members present _ ih =>
    refine equal_obj.mpr ⟨fun key found => by rwa [present], fun key left found => ?_⟩
    obtain ⟨right, visible⟩ := Option.isSome_iff_exists.mp ((present key).symm.trans (by simp [found]))
    exact ⟨right, visible, ih key left right found visible (exactMembers_iff.mp exact _ (mem_of_lookup visible))⟩

theorem Reads.get {decoded members : Members} (reads : Reads host (.obj decoded) (.obj members)) (key : String) :
    Reads host (Json.get decoded key) (Json.get members key) := by
  cases reads with
  | obj present values =>
    have same := present (text key)
    unfold Json.get
    cases left : decoded.lookup (text key) with
    | none =>
      rw [left] at same
      have absent : members.lookup (text key) = none := by simpa using same.symm
      rw [absent]
      exact .null
    | some value =>
      rw [left] at same
      obtain ⟨right, found⟩ := Option.isSome_iff_exists.mp same.symm
      rw [found]
      exact values _ _ _ left found

/-- A number or a text that comes back equal was spelled exactly. -/
theorem Reads.exact_leaf {decoded value : Json} (reads : Reads host decoded value)
    (same : Json.equal decoded value = true) (leaf : value.hashable = true) : Exact host value := by
  cases reads with
  | null | bool _ | int _ | str _ => trivial
  | float found => exact ⟨decoded, found, same⟩
  | arr | obj => cases leaf

/-- The same for a dict of such values. -/
theorem Reads.exact_object {decoded : Json} {items : List (String × Json)} (distinct : (items.map Prod.fst).Nodup)
    (leaves : ∀ item ∈ items, item.2.hashable = true) (reads : Reads host decoded (.obj (object items)))
    (same : Json.equal decoded (.obj (object items)) = true) : Exact host (.obj (object items)) := by
  refine exactMembers_iff.mpr fun member listed => ?_
  obtain ⟨item, inside, rfl⟩ := List.mem_map.mp listed
  have found := get_object_of_mem distinct inside
  cases reads with
  | @obj members _ present values =>
    have inner := (Reads.obj present values).get item.1
    have equal := equal_get same item.1
    rw [found] at inner equal
    exact inner.exact_leaf equal (leaves item inside)

end Switchyard
