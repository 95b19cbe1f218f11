import Mathlib.Data.Rat.Defs
import Mathlib.Tactic.Basic
import Switchyard.Library.Text

/-! JSON values as Python's decoder returns them, with Python's equality: numbers
compare by value across `bool`, `int` and `float`, and objects ignore order. -/

namespace Switchyard.Library

/-- A Python float. Finite values are exact; both zeros are the one rational. -/
inductive Double
  | nan
  | infinite (negative : Bool)
  | finite (value : ℚ)
deriving DecidableEq

inductive Json
  | null
  | bool (value : Bool)
  | int (value : Int)
  | float (value : Double)
  | str (value : Text)
  | arr (items : List Json)
  | obj (members : List (Text × Json))

/-- The items of a dict. A key that is listed again is shadowed by the first. -/
abbrev Members := List (Text × Json)

namespace Json

instance : Inhabited Json := ⟨.null⟩

mutual
/-- Whether two values are the same term, so that concrete runs can be compared. -/
def same : Json → Json → Bool
  | .null, .null => true
  | .bool first, .bool last => first == last
  | .int first, .int last => first == last
  | .float first, .float last => first == last
  | .str first, .str last => first == last
  | .arr first, .arr last => sameItems first last
  | .obj first, .obj last => sameMembers first last
  | _, _ => false

def sameItems : List Json → List Json → Bool
  | [], [] => true
  | first :: firsts, last :: lasts => same first last && sameItems firsts lasts
  | _, _ => false

def sameMembers : List (Text × Json) → List (Text × Json) → Bool
  | [], [] => true
  | (key, value) :: rest, (other, found) :: others => key == other && same value found && sameMembers rest others
  | _, _ => false
end

mutual
theorem same_iff : ∀ first last : Json, same first last = true ↔ first = last
  | .arr first, last => by
    cases last with
    | arr last => simp [same, sameItems_iff first last]
    | _ => simp [same]
  | .obj first, last => by
    cases last with
    | obj last => simp [same, sameMembers_iff first last]
    | _ => simp [same]
  | .null, last | .bool _, last | .int _, last | .float _, last | .str _, last => by cases last <;> simp [same]

theorem sameItems_iff : ∀ first last : List Json, sameItems first last = true ↔ first = last
  | [], last => by cases last <;> simp [sameItems]
  | item :: rest, last => by
    cases last with
    | nil => simp [sameItems]
    | cons other others => simp [sameItems, same_iff item other, sameItems_iff rest others]

theorem sameMembers_iff : ∀ first last : List (Text × Json), sameMembers first last = true ↔ first = last
  | [], last => by cases last <;> simp [sameMembers]
  | (key, value) :: rest, last => by
    cases last with
    | nil => simp [sameMembers]
    | cons other others =>
      simp [sameMembers, same_iff value other.2, sameMembers_iff rest others, Prod.ext_iff]
end

instance : DecidableEq Json := fun first last => decidable_of_iff _ (same_iff first last)

/-- `members.get(key)` for a literal key, with `None` for an absent one. -/
def get (members : Members) (key : String) : Json := (members.lookup (text key)).getD .null

def has (members : Members) (key : String) : Bool := (members.lookup (text key)).isSome

/-- `frozenset(members) == set(keys)`. -/
def closed (members : Members) (keys : List String) : Bool :=
  members.all (fun member => keys.any fun key => member.1 == text key) && keys.all fun key => has members key

/-- `{**members, key: value}`, in place where the key is present. -/
def set (members : Members) (key : String) (value : Json) : Members :=
  if has members key then members.map fun member => if member.1 == text key then (member.1, value) else member
  else members ++ [(text key, value)]

/-- The dict display with these items. -/
def object (items : List (String × Json)) : Members := items.map fun item => (text item.1, item.2)

/-- `members.update(items)`, one item after the other. -/
def update (members : Members) (items : List (String × Json)) : Members :=
  items.foldl (fun members item => set members item.1 item.2) members

def members? : Json → Option Members
  | .obj members => some members
  | _ => none

def text? : Json → Option Text
  | .str value => some value
  | _ => none

/-- Lists and dicts cannot be members of a set. -/
def hashable : Json → Bool
  | .arr _ | .obj _ => false
  | _ => true

@[simp] theorem hashable_null : hashable .null = true := rfl

@[simp] theorem hashable_str (value : Text) : hashable (.str value) = true := rfl

def number? : Json → Option Double
  | .bool value => some (.finite (if value then 1 else 0))
  | .int value => some (.finite value)
  | .float value => some value
  | _ => none

mutual
/-- Python `==`. The decoder returns one NaN object, which containers compare by identity. -/
def equal : Json → Json → Bool
  | .null, .null => true
  | .str first, .str last => first == last
  | .arr first, .arr last => equalItems first last
  | .obj first, .obj last =>
    last.all (fun member => (first.lookup member.1).isSome) && equalMembers [] first last
  | first, last => match number? first, number? last with
    | some left, some right => left == right
    | _, _ => false

def equalItems : List Json → List Json → Bool
  | [], [] => true
  | first :: firsts, last :: lasts => equal first last && equalItems firsts lasts
  | _, _ => false

def equalMembers (seen : List Text) : Members → Members → Bool
  | [], _ => true
  | (key, value) :: rest, other =>
    (key ∈ seen || match other.lookup key with
      | some found => equal value found
      | none => false) && equalMembers (key :: seen) rest other
end

/-- `value == "literal"`. -/
def is (value : Json) (literal : String) : Bool := equal value (.str (text literal))

theorem equal_text {value : Json} {content : Text} : equal value (.str content) = true ↔ value = .str content := by
  cases value <;> simp [equal, number?]

theorem is_iff {value : Json} {literal : String} : is value literal = true ↔ value = .str (text literal) := equal_text

private theorem lookup_append {before rest : Members} {key : Text} (absent : key ∉ before.map Prod.fst) :
    (before ++ rest).lookup key = rest.lookup key := by
  induction before with
  | nil => rfl
  | cons member before ih =>
    simp only [List.map_cons, List.mem_cons, not_or] at absent
    have differ : (key == member.1) = false := by simpa using absent.1
    obtain ⟨name, value⟩ := member
    simp only [List.cons_append, List.lookup_cons, differ]
    exact ih absent.2

private theorem lookup_isSome_of_mem {members : Members} {member : Text × Json} (inside : member ∈ members) :
    (members.lookup member.1).isSome := by
  induction members with
  | nil => cases inside
  | cons head rest ih =>
    obtain ⟨name, value⟩ := head
    simp only [List.lookup_cons]
    cases same : member.1 == name with
    | true => rfl
    | false =>
      rcases List.mem_cons.mp inside with rfl | inside
      · simp at same
      · exact ih inside

private theorem lookup_replaced (members : Members) (name : Text) (value : Json) (other : Text) :
    (members.map fun member => if member.1 == name then (member.1, value) else member).lookup other =
      if other = name then (members.lookup other).map fun _ => value else members.lookup other := by
  induction members with
  | nil => simp
  | cons member rest ih =>
    obtain ⟨key, content⟩ := member
    by_cases same : key = name
    · subst key
      by_cases found : other = name
      · subst other
        simp
      · have differ : (other == name) = false := by simpa using found
        simp only [List.map_cons, beq_self_eq_true, ite_true, List.lookup_cons, differ, ih, found, ite_false]
    · have differ : (key == name) = false := by simpa using same
      simp only [List.map_cons, differ, Bool.false_eq_true, ite_false, List.lookup_cons, ih]
      by_cases found : other = key
      · subst other
        simp [same]
      · have differ : (other == key) = false := by simpa using found
        simp only [differ]

/-- A member of a dict is found under its key, since no key is listed twice. -/
theorem lookup_of_mem {members : Members} (distinct : (members.map Prod.fst).Nodup) {member : Text × Json}
    (inside : member ∈ members) : members.lookup member.1 = some member.2 := by
  induction members with
  | nil => cases inside
  | cons head rest ih =>
    obtain ⟨name, value⟩ := head
    simp only [List.map_cons, List.nodup_cons] at distinct
    rcases List.mem_cons.mp inside with rfl | later
    · simp
    · have differ : (member.1 == name) = false := by
        simp only [beq_eq_false_iff_ne]
        rintro rfl
        exact distinct.1 (List.mem_map_of_mem later)
      simp only [List.lookup_cons, differ]
      exact ih distinct.2 later

theorem mem_of_lookup {members : Members} {key : Text} {value : Json} (found : members.lookup key = some value) :
    (key, value) ∈ members := by
  obtain ⟨before, rest, rfl, -⟩ := List.lookup_eq_some_iff.mp found
  simp

theorem lookup_set (members : Members) (key : String) (value : Json) (other : Text) :
    (set members key value).lookup other = if other = text key then some value else members.lookup other := by
  unfold set has
  split
  next present =>
    rw [lookup_replaced]
    split
    next same => obtain ⟨found, seen⟩ := Option.isSome_iff_exists.mp present; simp [same, seen]
    next => rfl
  next absent =>
    have missing : members.lookup (text key) = none := Option.not_isSome_iff_eq_none.mp absent
    rw [List.lookup_append]
    by_cases same : other = text key
    · simp [same, missing]
    · have differ : (other == text key) = false := by simpa using same
      simp [List.lookup_cons, differ, same]

@[simp] theorem get_object_nil (key : String) : get (object []) key = .null := rfl

theorem get_object_cons (first : String) (value : Json) (rest : List (String × Json)) (key : String) :
    get (object ((first, value) :: rest)) key = if key = first then value else get (object rest) key := by
  simp only [get, object, List.map_cons, List.lookup_cons]
  by_cases same : key = first
  · simp [same]
  · have differ : (text key == text first) = false := by simpa [text_inj] using same
    simp [same, differ]

theorem get_object_of_mem {items : List (String × Json)} (distinct : (items.map Prod.fst).Nodup)
    {item : String × Json} (listed : item ∈ items) : get (object items) item.1 = item.2 := by
  induction items with
  | nil => cases listed
  | cons head rest ih =>
    obtain ⟨name, value⟩ := head
    simp only [List.map_cons, List.nodup_cons] at distinct
    rw [get_object_cons]
    rcases List.mem_cons.mp listed with rfl | later
    · simp
    · have differ : item.1 ≠ name := by
        rintro rfl
        exact distinct.1 (List.mem_map_of_mem later)
      rw [if_neg differ]
      exact ih distinct.2 later

/-- Literal keys are compared as literals, so that a chain of assignments reads back by `simp`. -/
theorem get_set (members : Members) (key : String) (value : Json) (other : String) :
    get (set members key value) other = if other = key then value else get members other := by
  unfold get
  rw [lookup_set]
  simp only [text_inj]
  split <;> rfl

/-- An update leaves every key that it does not mention. -/
theorem get_update {items : List (String × Json)} {key : String} (absent : ∀ item ∈ items, item.1 ≠ key)
    (members : Members) : get (update members items) key = get members key := by
  induction items generalizing members with
  | nil => rfl
  | cons item rest ih =>
    have differ : key ≠ item.1 := Ne.symm (absent item List.mem_cons_self)
    have later := ih (fun other inside => absent other (List.mem_cons_of_mem _ inside)) (set members item.1 item.2)
    simp only [update, List.foldl_cons] at later ⊢
    rw [later, get_set, if_neg differ]

mutual
/-- Every dict inside lists each key once. -/
def Distinct : Json → Prop
  | .arr items => DistinctItems items
  | .obj members => (members.map Prod.fst).Nodup ∧ DistinctMembers members
  | _ => True

def DistinctItems : List Json → Prop
  | [] => True
  | item :: rest => Distinct item ∧ DistinctItems rest

def DistinctMembers : Members → Prop
  | [] => True
  | (_, value) :: rest => Distinct value ∧ DistinctMembers rest
end

theorem DistinctMembers.of_mem {members : Members} (distinct : DistinctMembers members) {member : Text × Json}
    (listed : member ∈ members) : Distinct member.2 := by
  induction members with
  | nil => cases listed
  | cons head rest ih =>
    obtain ⟨key, value⟩ := head
    rcases List.mem_cons.mp listed with rfl | later
    · exact distinct.1
    · exact ih distinct.2 later

theorem DistinctMembers.get {members : Members} (distinct : DistinctMembers members) (key : String) :
    Distinct (get members key) := by
  unfold Json.get
  cases found : members.lookup (text key) with
  | none => trivial
  | some value => exact distinct.of_mem (mem_of_lookup found)

mutual
theorem equal_refl : ∀ value : Json, equal value value = true
  | .null => rfl
  | .bool _ | .int _ | .float _ => by simp [equal, number?]
  | .str _ => by simp [equal]
  | .arr items => by simpa [equal] using equalItems_refl items
  | .obj members => by
    have inside := equalMembers_refl members [] members []
    simp only [List.map_nil, List.nil_append, forall_const] at inside
    simp only [equal, inside (fun _ member => member), Bool.and_true, List.all_eq_true]
    exact fun member found => lookup_isSome_of_mem found
theorem equalItems_refl : ∀ items : List Json, equalItems items items = true
  | [] => rfl
  | item :: items => by simp [equalItems, equal_refl item, equalItems_refl items]

/-- A suffix agrees with the whole dict, once the earlier keys count as seen. -/
theorem equalMembers_refl : ∀ (rest : Members) (before whole : Members) (seen : List Text),
    whole = before ++ rest → (∀ key ∈ before.map Prod.fst, key ∈ seen) → equalMembers seen rest whole = true
  | [], _, _, _, _, _ => by simp [equalMembers]
  | (key, value) :: rest, before, whole, seen, shape, shadowed => by
    have tail := equalMembers_refl rest (before ++ [(key, value)]) whole (key :: seen) (by simp [shape]) (by
      intro name member
      simp only [List.map_append, List.map_cons, List.map_nil, List.mem_append, List.mem_singleton] at member
      rcases member with member | rfl
      · exact List.mem_cons_of_mem _ (shadowed name member)
      · exact List.mem_cons_self)
    simp only [equalMembers, tail, Bool.and_true, Bool.or_eq_true, decide_eq_true_eq]
    by_cases present : key ∈ seen
    · exact Or.inl present
    · have first : whole.lookup key = some value := by
        rw [shape, lookup_append (fun inside => present (shadowed key inside))]
        simp
      simp [first, equal_refl value]
end

theorem equalMembers_iff {seen : List Text} {rest other : Members} :
    equalMembers seen rest other = true ↔ ∀ key ∉ seen, ∀ left, rest.lookup key = some left →
      ∃ right, other.lookup key = some right ∧ equal left right = true := by
  induction rest generalizing seen with
  | nil => simp [equalMembers]
  | cons member rest ih =>
    obtain ⟨name, value⟩ := member
    simp only [equalMembers, Bool.and_eq_true, Bool.or_eq_true, decide_eq_true_eq, ih, List.mem_cons, not_or]
    constructor
    · rintro ⟨here, later⟩ key unseen left found
      by_cases same : key = name
      · subst same
        obtain rfl : value = left := by simpa using found
        rcases here with seen | here
        · exact absurd seen unseen
        · cases right : other.lookup key with
          | none => simp [right] at here
          | some value => exact ⟨value, rfl, by simpa [right] using here⟩
      · have differ : (key == name) = false := by simpa using same
        simp only [List.lookup_cons, differ] at found
        exact later key ⟨same, unseen⟩ left found
    · intro each
      refine ⟨?_, fun key unseen left found => ?_⟩
      · by_cases seen : name ∈ seen
        · exact Or.inl seen
        · obtain ⟨right, found, same⟩ := each name seen value (by simp)
          exact Or.inr (by simp [found, same])
      · have differ : (key == name) = false := by simpa using unseen.1
        exact each key unseen.2 left (by simpa only [List.lookup_cons, differ] using found)

/-- Dict equality: the same keys with equal values, in any order. -/
theorem equal_obj {first last : Members} : equal (.obj first) (.obj last) = true ↔
    (∀ key, (last.lookup key).isSome → (first.lookup key).isSome) ∧
      ∀ key left, first.lookup key = some left → ∃ right, last.lookup key = some right ∧ equal left right = true := by
  simp only [equal, Bool.and_eq_true, List.all_eq_true, equalMembers_iff, List.not_mem_nil, not_false_eq_true,
    forall_const]
  refine and_congr_left fun _ => ⟨fun every key found => ?_, fun every member listed => ?_⟩
  · obtain ⟨value, found⟩ := Option.isSome_iff_exists.mp found
    exact every _ (mem_of_lookup found)
  · exact every member.1 (lookup_isSome_of_mem listed)

theorem equal_get {first last : Members} (same : equal (.obj first) (.obj last) = true) (key : String) :
    equal (get first key) (get last key) = true := by
  obtain ⟨present, values⟩ := equal_obj.mp same
  unfold get
  cases left : first.lookup (text key) with
  | none =>
    cases right : last.lookup (text key) with
    | none => rfl
    | some value => simpa [left] using present (text key) (by simp [right])
  | some value =>
    obtain ⟨right, found, equal⟩ := values (text key) value left
    simpa [found] using equal

theorem update_append (members : Members) (first last : List (String × Json)) :
    update members (first ++ last) = update (update members first) last := by
  simp only [update, List.foldl_append]

theorem equalItems_of_zip : ∀ {first last : List Json}, first.length = last.length →
    (∀ pair ∈ first.zip last, equal pair.1 pair.2 = true) → equalItems first last = true
  | [], [], _, _ => rfl
  | left :: first, right :: last, length, each => by
    simp only [equalItems, Bool.and_eq_true]
    exact ⟨each (left, right) (by simp), equalItems_of_zip (Nat.succ.inj length) fun pair listed =>
      each pair (List.mem_cons_of_mem _ listed)⟩

private theorem equal_number {first last : Json} {left : Double} (number : number? first = some left) :
    equal first last = true ↔ number? last = some left := by
  cases first <;> cases number <;> cases last <;> simp [equal, number?]
  all_goals exact ⟨Eq.symm, Eq.symm⟩

mutual
theorem equal_symm : ∀ first last : Json, equal first last = true → equal last first = true
  | .null, last, same => by cases last <;> simp_all [equal, number?]
  | .bool _, last, same | .int _, last, same | .float _, last, same => by
    have number := (equal_number rfl).mp same
    exact (equal_number number).mpr rfl
  | .str content, last, same => by cases last <;> simp_all [equal, number?]
  | .arr items, last, same => by
    cases last with
    | arr others => exact equalItems_symm items others same
    | _ => simp [equal, number?] at same
  | .obj members, last, same => by
    cases last with
    | obj others =>
      obtain ⟨present, values⟩ := equal_obj.mp same
      refine equal_obj.mpr ⟨fun key found => ?_, fun key right found => ?_⟩
      · obtain ⟨left, found⟩ := Option.isSome_iff_exists.mp found
        obtain ⟨right, found, -⟩ := values key left found
        rw [found]
        rfl
      · obtain ⟨left, visible⟩ := Option.isSome_iff_exists.mp (present key (by rw [found]; rfl))
        obtain ⟨other, again, same⟩ := values key left visible
        obtain rfl := Option.some.inj (found.symm.trans again)
        exact ⟨left, visible, equalMembers_symm members (key, left) (mem_of_lookup visible) right same⟩
    | _ => simp [equal, number?] at same

theorem equalItems_symm : ∀ firsts lasts : List Json, equalItems firsts lasts = true → equalItems lasts firsts = true
  | [], lasts, same => by cases lasts <;> simp_all [equalItems]
  | first :: firsts, lasts, same => by
    cases lasts with
    | nil => simp [equalItems] at same
    | cons last lasts =>
      simp only [equalItems, Bool.and_eq_true] at same ⊢
      exact ⟨equal_symm first last same.1, equalItems_symm firsts lasts same.2⟩

theorem equalMembers_symm : ∀ (members : List (Text × Json)), ∀ member ∈ members, ∀ last : Json, equal member.2 last = true →
    equal last member.2 = true
  | [], _, listed, _, _ => by cases listed
  | (key, value) :: rest, member, listed, last, same => by
    rcases List.mem_cons.mp listed with rfl | listed
    · exact equal_symm value last same
    · exact equalMembers_symm rest member listed last same
end

mutual
theorem equal_trans : ∀ first middle last : Json, equal first middle = true → equal middle last = true → equal first last = true
  | .null, middle, last, left, right => by
    cases middle with
    | null => exact right
    | _ => simp [equal, number?] at left
  | .bool _, middle, last, left, right | .int _, middle, last, left, right | .float _, middle, last, left, right => by
    have number := (equal_number rfl).mp left
    exact (equal_number rfl).mpr ((equal_number number).mp right)
  | .str content, middle, last, left, right => by
    cases middle with
    | str other =>
      obtain rfl : content = other := by simpa [equal] using left
      exact right
    | _ => simp [equal, number?] at left
  | .arr items, middle, last, left, right => by
    cases middle with
    | arr others =>
      cases last with
      | arr rest => exact equalItems_trans items others rest left right
      | _ => simp [equal, number?] at right
    | _ => simp [equal, number?] at left
  | .obj members, middle, last, left, right => by
    cases middle with
    | obj others =>
      cases last with
      | obj rest =>
        obtain ⟨present, values⟩ := equal_obj.mp left
        obtain ⟨presentRest, valuesRest⟩ := equal_obj.mp right
        refine equal_obj.mpr ⟨fun key found => present key (presentRest key found), fun key one found => ?_⟩
        obtain ⟨two, visible, same⟩ := values key one found
        obtain ⟨three, seen, other⟩ := valuesRest key two visible
        exact ⟨three, seen, equalMembers_trans members (key, one) (mem_of_lookup found) two three same other⟩
      | _ => simp [equal, number?] at right
    | _ => simp [equal, number?] at left

theorem equalItems_trans : ∀ firsts middles lasts : List Json, equalItems firsts middles = true → equalItems middles lasts = true →
    equalItems firsts lasts = true
  | [], middles, lasts, left, right => by
    cases middles with
    | nil => exact right
    | cons _ _ => simp [equalItems] at left
  | first :: firsts, middles, lasts, left, right => by
    cases middles with
    | nil => simp [equalItems] at left
    | cons middle middles =>
      cases lasts with
      | nil => simp [equalItems] at right
      | cons last lasts =>
        simp only [equalItems, Bool.and_eq_true] at left right ⊢
        exact ⟨equal_trans first middle last left.1 right.1, equalItems_trans firsts middles lasts left.2 right.2⟩

theorem equalMembers_trans : ∀ (members : List (Text × Json)), ∀ member ∈ members, ∀ middle last : Json,
    equal member.2 middle = true → equal middle last = true → equal member.2 last = true
  | [], _, listed, _, _, _, _ => by cases listed
  | (key, value) :: rest, member, listed, middle, last, left, right => by
    rcases List.mem_cons.mp listed with rfl | listed
    · exact equal_trans value middle last left right
    · exact equalMembers_trans rest member listed middle last left right
end

end Json
end Switchyard.Library
