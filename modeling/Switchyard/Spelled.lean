import Switchyard.Library.Effect
import Switchyard.Library.Utf8
import Switchyard.Restored

/-! Equal values and their canonical forms. Python takes a boolean for a number and
the canonicaliser does not, and in nothing else do the two notions differ. -/

namespace Switchyard
open Library Json

mutual
/-- No boolean stands in one of the values where the other has a number. -/
def alike : Json → Json → Bool
  | .bool _, .int _ | .bool _, .float _ | .int _, .bool _ | .float _, .bool _ => false
  | .arr firsts, .arr lasts => alikeItems firsts lasts
  | .obj first, .obj last => alikeMembers first last
  | _, _ => true

def alikeItems : List Json → List Json → Bool
  | first :: firsts, last :: lasts => alike first last && alikeItems firsts lasts
  | _, _ => true

def alikeMembers : Members → Members → Bool
  | [], _ => true
  | (key, value) :: rest, other =>
    (match other.lookup key with
      | some found => alike value found
      | none => true) && alikeMembers rest other
end

/-- The canonicaliser writes a float that is a safe integer like that integer. -/
def Numbers (host : Host) : Prop :=
  ∀ value : Int, Rfc8785.intMin ≤ value → value ≤ Rfc8785.intMax → host.floatText value = Rfc8785.decimal value

/-- Neither of two texts goes on where the other ends. -/
def Cancels (left right : Bytes) : Prop := ∀ before after, left ++ before = right ++ after → left = right

theorem Cancels.append {left right : Bytes} (cancels : Cancels left right) (start : Bytes) : Cancels (start ++ left) (start ++ right) := by
  intro before after same
  rw [List.append_assoc, List.append_assoc] at same
  rw [cancels _ _ (List.append_cancel_left same)]

namespace Rfc8785

/-- Pieces with commas between them. -/
def commas : List Bytes → Bytes
  | [] => []
  | [piece] => piece
  | piece :: rest => piece ++ ascii "," ++ commas rest

theorem joined_ok {pieces : List (Except Failure Bytes)} : ∀ {inner : Bytes}, joined pieces = .ok inner →
    ∃ raws, pieces = raws.map .ok ∧ inner = commas raws := by
  induction pieces with
  | nil =>
    rintro inner ⟨⟩
    exact ⟨[], rfl, rfl⟩
  | cons piece rest ih =>
    intro inner done
    cases rest with
    | nil => exact ⟨[inner], by rw [show piece = .ok inner from done]; rfl, rfl⟩
    | cons next others =>
      have unfolded : joined (piece :: next :: others) = (piece >>= fun head => (joined (next :: others) >>= fun tail =>
        Except.ok (head ++ ascii "," ++ tail))) := rfl
      rw [unfolded] at done
      obtain ⟨head, rfl, rest⟩ := bind_ok.mp done
      replace rest : (joined (next :: others) >>= fun tail => Except.ok (head ++ ascii "," ++ tail)) = .ok inner := rest
      obtain ⟨tail, later, done⟩ := bind_ok.mp rest
      cases done
      obtain ⟨raws, shape, rfl⟩ := ih later
      cases raws with
      | nil => cases shape
      | cons raw raws => exact ⟨head :: raw :: raws, by rw [shape]; rfl, rfl⟩

/-- What is cancelled piece by piece is cancelled as a whole. -/
theorem commas_cancel {lefts rights : List Bytes} (each : List.Forall₂ Cancels lefts rights) :
    ∀ before after, commas lefts ++ before = commas rights ++ after → lefts = rights := by
  induction each with
  | nil => exact fun _ _ _ => rfl
  | @cons left right lefts rights cancels each ih =>
    intro before after same
    cases each with
    | nil => rw [cancels _ _ same]
    | @cons second other lefts rights next each =>
      have unfolded (piece again : Bytes) (rest : List Bytes) : commas (piece :: again :: rest) =
        piece ++ ascii "," ++ commas (again :: rest) := rfl
      simp only [unfolded, List.append_assoc] at same
      obtain rfl := cancels _ _ same
      rw [ih _ _ (List.append_cancel_left (List.append_cancel_left same))]

end Rfc8785

open Rfc8785

variable {host : Host}

/-- Of two values: their canonical forms are the same exactly where they are alike, and cancel. -/
def Told (host : Host) (first last : Json) : Prop :=
  ∀ left right, dumps host first = .ok left → dumps host last = .ok right →
    (left = right ↔ alike first last = true) ∧ Cancels left right

theorem told_same {first last : Json} (alikes : alike first last = true)
    (same : ∀ left right, dumps host first = .ok left → dumps host last = .ok right → left = right) : Told host first last := by
  intro left right one two
  obtain rfl := same left right one two
  exact ⟨by simp [alikes], fun _ _ _ => rfl⟩

theorem told_apart {first last : Json} (unlike : alike first last = false)
    (apart : ∀ left right, dumps host first = .ok left → dumps host last = .ok right → left.head? ≠ right.head? ∧ left ≠ [] ∧ right ≠ []) :
    Told host first last := by
  intro left right one two
  obtain ⟨differ, some, other⟩ := apart left right one two
  obtain ⟨head, tail, rfl⟩ := List.exists_cons_of_ne_nil some
  obtain ⟨another, rest, rfl⟩ := List.exists_cons_of_ne_nil other
  have heads : head ≠ another := by simpa using differ
  refine ⟨by simp [unlike, heads], fun before after same => ?_⟩
  exact absurd (List.cons.inj same).1 heads

theorem dumps_int_ok {value : Int} {raw : Bytes} (done : dumps host (.int value) = .ok raw) :
    raw = decimal value ∧ intMin ≤ value ∧ value ≤ intMax := by
  simp only [dumps] at done
  split at done
  · cases done
  · cases done
    exact ⟨rfl, by omega⟩

/-- The spelling of a truth value and of the number it equals. -/
theorem told_bool {value : Bool} {other : Json} (unlike : alike (.bool value) other = false)
    (digit : ∀ raw, dumps host other = .ok raw → raw = decimal (if value then 1 else 0)) : Told host (.bool value) other := by
  refine told_apart unlike fun left right one two => ?_
  obtain rfl := digit right two
  cases one
  cases value <;> decide

theorem Told.symm {first last : Json} (told : Told host first last) (same : alike last first = alike first last) :
    Told host last first := by
  intro left right one two
  obtain ⟨exactly, cancels⟩ := told right left two one
  rw [same]
  exact ⟨eq_comm.trans exactly, fun before after whole => (cancels after before whole.symm).symm⟩

/-- Numbers and booleans that are equal. -/
theorem told_number (numbers : Numbers host) {first last : Json} {left right : Double} (one : number? first = some left)
    (two : number? last = some right) (same : left = right) : Told host first last := by
  subst same
  have digit {value : Bool} {other : Json} (found : number? other = some (.finite (if value then 1 else 0)))
      (number : ∀ truth, other ≠ .bool truth) : ∀ raw, dumps host other = .ok raw → raw = decimal (if value then 1 else 0) := by
    intro raw done
    cases other with
    | bool truth => exact absurd rfl (number truth)
    | int count =>
      obtain ⟨rfl, -⟩ := dumps_int_ok done
      simp only [number?, Option.some.injEq, Double.finite.injEq] at found
      cases value
      · have zero : count = 0 := by simpa using found
        rw [zero]
        rfl
      · have unit : count = 1 := by simpa using found
        rw [unit]
        rfl
    | float count =>
      simp only [number?, Option.some.injEq] at found
      subst found
      cases done
      have spelled := numbers (if value then 1 else 0) (by cases value <;> decide) (by cases value <;> decide)
      cases value <;> simpa using spelled
    | null | str _ | arr _ | obj _ => simp [number?] at found
  cases first with
  | bool value =>
    cases last with
    | bool other =>
      simp only [number?, Option.some.injEq] at one two
      subst two
      simp only [Double.finite.injEq] at one
      have equals : value = other := by cases value <;> cases other <;> simp at one ⊢
      subst equals
      exact told_same rfl fun left right one two => Except.ok.inj (one.symm.trans two)
    | int count => exact told_bool rfl (digit (by rw [two, ← one]; rfl) nofun)
    | float count => exact told_bool rfl (digit (by rw [two, ← one]; rfl) nofun)
    | null | str _ | arr _ | obj _ => simp [number?] at two
  | int value =>
    cases last with
    | bool other =>
      have told : Told host (.bool other) (.int value) := told_bool rfl (digit (by rw [one, ← two]; rfl) nofun)
      exact told.symm rfl
    | int count =>
      simp only [number?, Option.some.injEq] at one two
      subst two
      have equals : value = count := by simpa using one
      subst equals
      exact told_same rfl fun left right one two => Except.ok.inj (one.symm.trans two)
    | float count =>
      refine told_same rfl fun left right spelled float => ?_
      obtain ⟨rfl, low, high⟩ := dumps_int_ok spelled
      simp only [number?, Option.some.injEq] at one two
      subst two
      subst one
      cases float
      exact (numbers value low high).symm
    | null | str _ | arr _ | obj _ => simp [number?] at two
  | float value =>
    cases last with
    | bool other =>
      have told : Told host (.bool other) (.float value) := told_bool rfl (digit (by rw [one, ← two]; rfl) nofun)
      exact told.symm rfl
    | int count =>
      refine told_same rfl fun left right float spelled => ?_
      obtain ⟨rfl, low, high⟩ := dumps_int_ok spelled
      simp only [number?, Option.some.injEq] at one two
      subst one
      subst two
      cases float
      exact numbers count low high
    | float count =>
      simp only [number?, Option.some.injEq] at one two
      subst one
      subst two
      exact told_same rfl fun left right one two => Except.ok.inj (one.symm.trans two)
    | null | str _ | arr _ | obj _ => simp [number?] at two
  | null | str _ | arr _ | obj _ => simp [number?] at one

theorem dumps_arr_ok {items : List Json} {raw : Bytes} (done : dumps host (.arr items) = .ok raw) :
    ∃ raws, items.map (dumps host) = raws.map .ok ∧ raw = ascii "[" ++ (commas raws ++ ascii "]") := by
  obtain ⟨inner, joins, done⟩ := bind_ok.mp done
  obtain ⟨raws, shape, rfl⟩ := joined_ok joins
  rw [dumpItems_map] at shape
  cases done
  exact ⟨raws, shape, List.append_assoc _ _ _⟩

/-- What `sorted` orders members by. -/
private def ordered (first last : Text × Json × Json) : Prop :=
  before ((utf16be? first.1).getD [], Except.ok []) ((utf16be? last.1).getD [], Except.ok []) = true

private instance : DecidableRel ordered := fun _ _ => inferInstanceAs (Decidable (_ = true))

/-- The pieces of a dict, in the order of its keys. -/
private theorem dumps_obj_ok {entries : List (Text × Json × Json)} (value : Text × Json × Json → Json) {raw : Bytes}
    (done : dumps host (.obj (entries.map fun entry => (entry.1, value entry))) = .ok raw) :
    ∃ raws, (entries.insertionSort ordered).map (fun entry => (member host (entry.1, value entry)).2) = raws.map .ok ∧
      raw = ascii "\x7b" ++ (commas raws ++ ascii "\x7d") := by
  obtain ⟨sorts, sorting, done⟩ := bind_ok.mp done
  obtain ⟨inner, joins, done⟩ := bind_ok.mp done
  obtain ⟨raws, shape, rfl⟩ := joined_ok joins
  cases done
  refine ⟨raws, ?_, List.append_assoc _ _ _⟩
  rw [sorted_keyed (sorted_scalar sorting), dumpMembers_map, List.map_map, List.map_map] at sorting
  have key : ((keyed ∘ member host) ∘ fun entry => (entry.1, value entry)) = fun entry : Text × Json × Json =>
      ((utf16be? entry.1).getD [], (member host (entry.1, value entry)).2) := rfl
  rw [key, ← List.map_insertionSort (r := ordered)] at sorting
  · rw [List.map_map] at sorting
    rw [← shape]
    exact Except.ok.inj sorting
  · exact fun _ _ _ _ => Iff.rfl

private theorem member_ok {key : Text} {value : Json} {raw : Bytes} (done : (member host (key, value)).2 = .ok raw) :
    ∃ name content, serializeStr key = .ok name ∧ dumps host value = .ok content ∧ raw = (name ++ ascii ":") ++ content := by
  obtain ⟨name, named, done⟩ := bind_ok.mp done
  obtain ⟨content, spelled, done⟩ := bind_ok.mp done
  cases done
  exact ⟨name, content, named, spelled, rfl⟩

/-- Pieces that are told apart one by one are told apart together. -/
theorem told_pieces {α : Type} {one two : α → Except Rfc8785.Failure Bytes} {same : α → Prop} : ∀ {order : List α},
    (∀ entry ∈ order, ∀ left right, one entry = .ok left → two entry = .ok right → (left = right ↔ same entry) ∧ Cancels left right) →
    ∀ {lefts rights : List Bytes}, order.map one = lefts.map .ok → order.map two = rights.map .ok →
      List.Forall₂ Cancels lefts rights ∧ (lefts = rights ↔ ∀ entry ∈ order, same entry)
  | [], _, lefts, rights, here, there => by
    obtain rfl := List.map_eq_nil_iff.mp here.symm
    obtain rfl := List.map_eq_nil_iff.mp there.symm
    exact ⟨.nil, by simp⟩
  | entry :: rest, each, lefts, rights, here, there => by
    obtain ⟨left, lefts, rfl, first, firsts⟩ := List.map_eq_cons_iff.mp here.symm
    obtain ⟨right, rights, rfl, last, lasts⟩ := List.map_eq_cons_iff.mp there.symm
    obtain ⟨exactly, cancels⟩ := each entry List.mem_cons_self left right first.symm last.symm
    obtain ⟨later, tails⟩ := told_pieces (fun other listed => each other (List.mem_cons_of_mem _ listed)) firsts.symm lasts.symm
    exact ⟨.cons cancels later, by rw [List.cons.injEq, exactly, tails, List.forall_mem_cons]⟩

/-- Between the brackets or braces of a container. -/
theorem commas_told {lefts rights : List Bytes} {opening closing : Bytes} (cancels : List.Forall₂ Cancels lefts rights) :
    (opening ++ (commas lefts ++ closing) = opening ++ (commas rights ++ closing) ↔ lefts = rights) ∧
      Cancels (opening ++ (commas lefts ++ closing)) (opening ++ (commas rights ++ closing)) := by
  refine ⟨⟨fun same => ?_, fun same => by rw [same]⟩, Cancels.append (fun before after same => ?_) opening⟩
  · exact commas_cancel cancels _ _ (List.append_cancel_left same)
  · rw [List.append_assoc, List.append_assoc] at same
    rw [commas_cancel cancels _ _ same]

theorem alikeItems_iff : ∀ {firsts lasts : List Json}, alikeItems firsts lasts = true ↔
    ∀ pair ∈ firsts.zip lasts, alike pair.1 pair.2 = true
  | [], _ => by simp [alikeItems]
  | _ :: _, [] => by simp [alikeItems]
  | first :: firsts, last :: lasts => by
    rw [alikeItems, Bool.and_eq_true, alikeItems_iff, List.zip_cons_cons, List.forall_mem_cons]

theorem told_list {firsts lasts : List Json} (length : firsts.length = lasts.length)
    (each : ∀ pair ∈ firsts.zip lasts, Told host pair.1 pair.2) : Told host (.arr firsts) (.arr lasts) := by
  intro left right one two
  obtain ⟨lefts, shapes, rfl⟩ := dumps_arr_ok one
  obtain ⟨rights, forms, rfl⟩ := dumps_arr_ok two
  have heads : (firsts.zip lasts).map Prod.fst = firsts := List.map_fst_zip (by omega)
  have tails : (firsts.zip lasts).map Prod.snd = lasts := List.map_snd_zip (by omega)
  rw [← heads, List.map_map] at shapes
  rw [← tails, List.map_map] at forms
  obtain ⟨cancels, exactly⟩ := told_pieces (fun pair listed => each pair listed) shapes forms
  obtain ⟨whole, cancel⟩ := commas_told cancels
  exact ⟨by rw [whole, exactly, alike, alikeItems_iff], cancel⟩

theorem alikeMembers_iff {members other : Members} : alikeMembers members other = true ↔
    ∀ member ∈ members, ∀ found, other.lookup member.1 = some found → alike member.2 found = true := by
  induction members with
  | nil => simp [alikeMembers]
  | cons member rest ih =>
    obtain ⟨key, value⟩ := member
    rw [alikeMembers, Bool.and_eq_true, ih, List.forall_mem_cons]
    refine and_congr_left fun _ => ?_
    cases other.lookup key <;> simp

/-- Dicts with distinct keys whose values are told apart by their spelling. -/
theorem told_members {first last : Members} (left : (first.map Prod.fst).Nodup) (right : (last.map Prod.fst).Nodup)
    (present : ∀ key, (first.lookup key).isSome = (last.lookup key).isSome)
    (each : ∀ key one two, first.lookup key = some one → last.lookup key = some two → Told host one two) :
    Told host (.obj first) (.obj last) := by
  intro raw other one two
  -- the second dict in the order of the first has the same canonical form
  let entries := first.map fun entry => (entry.1, entry.2, (last.lookup entry.1).getD .null)
  have firsts : (entries.map fun entry => (entry.1, entry.2.1)) = first := by
    simp [entries, Function.comp_def]
  have keys : ((entries.map fun entry => (entry.1, entry.2.2)).map Prod.fst) = first.map Prod.fst := by
    simp [entries, Function.comp_def]
  have pairs : ∀ entry ∈ entries, first.lookup entry.1 = some entry.2.1 ∧ last.lookup entry.1 = some entry.2.2 := by
    intro entry listed
    obtain ⟨⟨key, value⟩, inside, rfl⟩ := List.mem_map.mp listed
    have found := lookup_of_mem left inside
    obtain ⟨value', visible⟩ := Option.isSome_iff_exists.mp ((present key).symm.trans (by rw [found]; rfl))
    exact ⟨found, by simp [visible]⟩
  have again : ∀ key found, (entries.map fun entry => (entry.1, entry.2.2)).lookup key = some found → last.lookup key = some found := by
    intro key found seen
    obtain ⟨entry, listed, same⟩ := List.mem_map.mp (mem_of_lookup seen)
    cases same
    exact (pairs entry listed).2
  have lasts : dumps host (.obj (entries.map fun entry => (entry.1, entry.2.2))) = .ok other := by
    rw [← two]
    refine dumps_obj (keys ▸ left) right (fun key => ?_) fun key found seen visible known => ?_
    · rw [← present key, Bool.eq_iff_iff, List.lookup_isSome_iff, List.lookup_isSome_iff]
      simp [entries]
    · rw [again key found visible] at known
      cases known
      rfl
  rw [← firsts] at one
  obtain ⟨lefts, shapes, rfl⟩ := dumps_obj_ok (fun entry => entry.2.1) one
  obtain ⟨rights, forms, rfl⟩ := dumps_obj_ok (fun entry => entry.2.2) lasts
  have told : ∀ entry ∈ entries.insertionSort ordered, ∀ left right, (member host (entry.1, entry.2.1)).2 = .ok left →
      (member host (entry.1, entry.2.2)).2 = .ok right → (left = right ↔ alike entry.2.1 entry.2.2 = true) ∧ Cancels left right := by
    intro entry listed left right here there
    obtain ⟨found, visible⟩ := pairs entry ((List.mem_insertionSort _).mp listed)
    obtain ⟨name, content, named, spelled, rfl⟩ := member_ok here
    obtain ⟨again, other, renamed, respelled, rfl⟩ := member_ok there
    cases named.symm.trans renamed
    obtain ⟨exactly, cancels⟩ := each entry.1 _ _ found visible content other spelled respelled
    exact ⟨by rw [List.append_cancel_left_eq, exactly], cancels.append _⟩
  obtain ⟨cancels, exactly⟩ := told_pieces told shapes forms
  obtain ⟨whole, cancel⟩ := commas_told cancels
  refine ⟨?_, cancel⟩
  rw [whole, exactly, alike, alikeMembers_iff]
  constructor
  · intro alikes member listed found visible
    have inside : (member.1, member.2, found) ∈ entries := List.mem_map.mpr ⟨member, listed, by simp [visible]⟩
    exact alikes _ ((List.mem_insertionSort _).mpr inside)
  · intro alikes entry listed
    obtain ⟨found, visible⟩ := pairs entry ((List.mem_insertionSort _).mp listed)
    exact alikes (entry.1, entry.2.1) (mem_of_lookup found) _ visible

theorem told_scalar (numbers : Numbers host) {first last : Json} {left : Double} (one : number? first = some left)
    (same : equal first last = true) : Told host first last := by
  obtain ⟨right, two, equals⟩ : ∃ right, number? last = some right ∧ left = right := by
    cases first with
    | null | str _ | arr _ | obj _ => simp [number?] at one
    | bool _ | int _ | float _ =>
      obtain rfl := Option.some.inj one
      cases last with
      | null | str _ | arr _ | obj _ => simp [equal, number?] at same
      | bool _ | int _ | float _ => exact ⟨_, rfl, by simpa [equal, number?] using same⟩
  exact told_number numbers one two equals

theorem equalItems_zip : ∀ {firsts lasts : List Json}, equalItems firsts lasts = true → firsts.length = lasts.length ∧
    ∀ pair ∈ firsts.zip lasts, equal pair.1 pair.2 = true
  | [], [], _ => ⟨rfl, by simp⟩
  | [], _ :: _, same => by cases same
  | _ :: _, [], same => by cases same
  | first :: firsts, last :: lasts, same => by
    rw [equalItems, Bool.and_eq_true] at same
    obtain ⟨length, each⟩ := equalItems_zip same.2
    exact ⟨by simp [length], by rw [List.zip_cons_cons, List.forall_mem_cons]; exact ⟨same.1, each⟩⟩

mutual
/-- Equal values have the same canonical form exactly where no boolean stands for a number. -/
theorem told (numbers : Numbers host) : ∀ first last : Json, Distinct first → Distinct last → equal first last = true → Told host first last
  | .null, last, _, _, same => by
    cases last with
    | null => exact told_same rfl fun left right one two => Except.ok.inj (one.symm.trans two)
    | _ => simp [equal, number?] at same
  | .str value, last, _, _, same => by
    cases last with
    | str other =>
      obtain rfl : value = other := by simpa [equal] using same
      exact told_same rfl fun left right one two => Except.ok.inj (one.symm.trans two)
    | _ => simp [equal, number?] at same
  | .arr firsts, last, left, right, same => by
    cases last with
    | arr lasts =>
      obtain ⟨length, each⟩ := equalItems_zip (by simpa [equal] using same)
      exact told_list length (toldItems numbers firsts left lasts right each)
    | _ => simp [equal, number?] at same
  | .obj first, last, left, right, same => by
    cases last with
    | obj last =>
      obtain ⟨keys, values⟩ := equal_obj.mp same
      refine told_members left.1 right.1 (fun key => ?_) fun key one two found visible => ?_
      · refine Bool.eq_iff_iff.mpr ⟨fun some => ?_, keys key⟩
        obtain ⟨value, found⟩ := Option.isSome_iff_exists.mp some
        obtain ⟨other, visible, -⟩ := values key value found
        rw [visible]
        rfl
      · obtain ⟨other, seen, equals⟩ := values key one found
        cases seen.symm.trans visible
        exact toldMembers numbers first left.2 (key, one) (mem_of_lookup found) two (right.2.of_mem (mem_of_lookup visible)) equals
    | _ => simp [equal, number?] at same
  | .bool value, last, _, _, same => told_scalar numbers rfl same
  | .int value, last, _, _, same => told_scalar numbers rfl same
  | .float value, last, _, _, same => told_scalar numbers rfl same

theorem toldItems (numbers : Numbers host) : ∀ firsts : List Json, DistinctItems firsts → ∀ lasts : List Json, DistinctItems lasts →
    (∀ pair ∈ firsts.zip lasts, equal pair.1 pair.2 = true) → ∀ pair ∈ firsts.zip lasts, Told host pair.1 pair.2
  | [], _, _, _, _, pair, listed => by simp at listed
  | _ :: _, _, [], _, _, pair, listed => by simp at listed
  | first :: firsts, left, last :: lasts, right, each, pair, listed => by
    rw [List.zip_cons_cons] at each listed
    obtain ⟨here, later⟩ := List.forall_mem_cons.mp each
    rcases List.mem_cons.mp listed with rfl | listed
    · exact told numbers first last left.1 right.1 here
    · exact toldItems numbers firsts left.2 lasts right.2 later pair listed

theorem toldMembers (numbers : Numbers host) : ∀ members : Members, DistinctMembers members → ∀ member ∈ members, ∀ last : Json,
    Distinct last → equal member.2 last = true → Told host member.2 last
  | [], _, _, listed, _, _, _ => by cases listed
  | (key, value) :: rest, distinct, member, listed, last, right, same => by
    rcases List.mem_cons.mp listed with rfl | listed
    · exact told numbers value last distinct.1 right same
    · exact toldMembers numbers rest distinct.2 member listed last right same
end

/-- The canonicaliser writes floats in ASCII. -/
def Plain (host : Host) : Prop := ∀ value, ∀ byte ∈ host.floatText value, byte.toNat < 0x80

open Text (Encodes)

theorem commas_encodes {raws : List Bytes} (each : ∀ raw ∈ raws, Encodes raw) : Encodes (commas raws) := by
  induction raws with
  | nil => exact ⟨[], rfl⟩
  | cons raw rest ih =>
    obtain ⟨here, later⟩ := List.forall_mem_cons.mp each
    cases rest with
    | nil => exact here
    | cons next others => exact (here.append (.plain (by decide))).append (ih later)

theorem joined_encodes {pieces : List (Except Rfc8785.Failure Bytes)} {inner : Bytes} (done : joined pieces = .ok inner)
    (each : ∀ piece ∈ pieces, ∀ raw, piece = .ok raw → Encodes raw) : Encodes inner := by
  obtain ⟨raws, rfl, rfl⟩ := joined_ok done
  exact commas_encodes fun raw listed => each _ (List.mem_map_of_mem listed) raw rfl

theorem serializeStr_encodes {value : Text} {raw : Bytes} (done : serializeStr value = .ok raw) : Encodes raw := by
  unfold serializeStr at done
  split at done
  next inner encoded =>
    cases done
    exact (Encodes.append (.plain (by decide)) ⟨_, encoded⟩).append (.plain (by decide))
  next => cases done

mutual
/-- Canonical bytes are the encoding of a text. -/
theorem dumps_encodes (plain : Plain host) : ∀ (value : Json) (raw : Bytes), dumps host value = .ok raw → Encodes raw
  | .null, raw, done => by
    cases done
    exact .plain (by decide)
  | .bool value, raw, done => by
    cases done
    cases value <;> exact .plain (by decide)
  | .int value, raw, done => by
    obtain ⟨rfl, -⟩ := dumps_int_ok done
    refine .ascii fun byte listed => ?_
    have digit := decimal_numeral listed
    simp only [numeral, Bool.or_eq_true, beq_iff_eq, Bool.and_eq_true, decide_eq_true_eq] at digit
    rcases digit with rfl | range
    · decide
    · omega
  | .float (.finite value), raw, done => by
    cases done
    exact .ascii (plain value)
  | .float .nan, raw, done | .float (.infinite _), raw, done => by cases done
  | .str value, raw, done => serializeStr_encodes done
  | .arr items, raw, done => by
    obtain ⟨inner, joins, done⟩ := bind_ok.mp done
    cases done
    exact (Encodes.append (.plain (by decide)) (joined_encodes joins (dumpItems_encodes plain items))).append (.plain (by decide))
  | .obj members, raw, done => by
    obtain ⟨sorts, sorting, done⟩ := bind_ok.mp done
    obtain ⟨inner, joins, done⟩ := bind_ok.mp done
    cases done
    obtain ⟨other, again, perm⟩ := sorted_accepted (sorted_scalar sorting)
    cases sorting.symm.trans again
    have each : ∀ piece ∈ sorts, ∀ raw, piece = .ok raw → Encodes raw := by
      intro piece listed
      obtain ⟨member, inside, rfl⟩ := List.mem_map.mp (perm.mem_iff.mp listed)
      exact dumpMembers_encodes plain members member inside
    exact (Encodes.append (.plain (by decide)) (joined_encodes joins each)).append (.plain (by decide))

theorem dumpItems_encodes (plain : Plain host) : ∀ items : List Json, ∀ piece ∈ dumpItems host items, ∀ raw,
    piece = .ok raw → Encodes raw
  | [], _, listed => by cases listed
  | item :: rest, piece, listed => by
    rcases List.mem_cons.mp listed with rfl | listed
    · exact dumps_encodes plain item
    · exact dumpItems_encodes plain rest piece listed

theorem dumpMembers_encodes (plain : Plain host) : ∀ members : Members, ∀ member ∈ dumpMembers host members, ∀ raw,
    member.2 = .ok raw → Encodes raw
  | [], _, listed => by cases listed
  | (key, value) :: rest, member, listed => by
    rcases List.mem_cons.mp listed with rfl | listed
    · intro raw done
      obtain ⟨name, named, done⟩ := bind_ok.mp done
      obtain ⟨content, spelled, done⟩ := bind_ok.mp done
      cases done
      exact ((serializeStr_encodes named).append (.plain (by decide))).append (dumps_encodes plain value content spelled)
    · exact dumpMembers_encodes plain rest member listed
end

end Switchyard
