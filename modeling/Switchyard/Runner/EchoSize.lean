import Switchyard.Runner.Preflight

/-! What an admissible echo of a turn's input can weigh: its members are known,
so its length is theirs whatever order they stand in. -/

namespace Switchyard.Runner
open Library Json AppServer

/-- A closed dict lists exactly the members it must have, in some order. -/
theorem closed_perm {members : Members} {keys : List String} (closes : closed members keys = true)
    (distinct : (members.map Prod.fst).Nodup) (apart : keys.Nodup) :
    members.Perm (object (keys.map fun key => (key, get members key))) := by
  simp only [closed, Bool.and_eq_true, List.all_eq_true, List.any_eq_true, beq_iff_eq] at closes
  have named : (object (keys.map fun key => (key, Json.get members key))).map Prod.fst = keys.map text := by
    simp [object]
  have others : ((object (keys.map fun key => (key, Json.get members key))).map Prod.fst).Nodup := by
    rw [named]
    exact apart.map fun first last same => text_inj.mp same
  refine (List.perm_ext_iff_of_nodup (.of_map _ distinct) (.of_map _ others)).mpr ?_
  rintro ⟨key, value⟩
  simp only [object, List.map_map, List.mem_map, Function.comp_apply, Prod.mk.injEq]
  constructor
  · intro listed
    obtain ⟨name, known, same⟩ := closes.1 _ listed
    refine ⟨name, known, same.symm, ?_⟩
    have found := lookup_of_mem distinct listed
    dsimp only at same found
    rw [same] at found
    simp only [Json.get, found, Option.getD_some]
  · rintro ⟨name, known, rfl, rfl⟩
    obtain ⟨value, found⟩ := Option.isSome_iff_exists.mp (closes.2 name known)
    simp only [Json.get, found, Option.getD_some]
    exact mem_of_lookup found

def userInputItem (itemId : Text) (content : Json) : Members :=
  object [("type", .str (text "userMessage")), ("id", .str itemId), ("clientId", .null), ("content", content)]

def userInputParams (timestamp : String) (threadId turnId : Text) (item : Members) (observedAt : Int) : Members :=
  object [("threadId", .str threadId), ("turnId", .str turnId), ("item", .obj item), (timestamp, .int observedAt)]

/-- The input echo of a turn, with its members in the order in which they are looked for. -/
def userInputEcho (method timestamp : String) (threadId turnId itemId : Text) (observedAt emittedAt : Int) (content : Json) :
    Members :=
  object [("method", .str (text method)),
    ("params", .obj (userInputParams timestamp threadId turnId (userInputItem itemId content) observedAt)),
    ("emittedAtMs", .int emittedAt)]

/-- Two values with serializations of one length, of which both or neither can be encoded. -/
structure SameSize (floatRepr : ℚ → Text) (first last : Json) : Prop where
  width : (compact floatRepr first).width = (compact floatRepr last).width
  scalar : Text.Scalar (compact floatRepr first) ↔ Text.Scalar (compact floatRepr last)

variable {floatRepr : ℚ → Text} {host : Host} {installation : Installation} {request backend : Members} {brief : Bytes}

theorem SameSize.refl (value : Json) : SameSize floatRepr value value := ⟨rfl, Iff.rfl⟩

theorem SameSize.trans {first middle last : Json} (left : SameSize floatRepr first middle)
    (right : SameSize floatRepr middle last) : SameSize floatRepr first last :=
  ⟨left.width.trans right.width, left.scalar.trans right.scalar⟩

theorem SameSize.perm {members others : Members} (perm : members.Perm others) :
    SameSize floatRepr (.obj members) (.obj others) where
  width := compact_perm_width floatRepr perm
  scalar := by
    rw [scalar_compact_obj, scalar_compact_obj]
    exact ⟨fun all member listed => all member (perm.mem_iff.mpr listed),
      fun all member listed => all member (perm.mem_iff.mp listed)⟩

/-- Members of one size each make objects of one size. -/
theorem SameSize.obj {members others : Members}
    (each : List.Forall₂ (fun first last => first.1 = last.1 ∧ SameSize floatRepr first.2 last.2) members others) :
    SameSize floatRepr (.obj members) (.obj others) := by
  constructor
  · rw [compact_obj_width, compact_obj_width]
    have pieces : members.map (memberWidth floatRepr) = others.map (memberWidth floatRepr) := by
      induction each with
      | nil => rfl
      | cons same _ ih =>
        obtain ⟨key, size⟩ := same
        rw [List.map_cons, List.map_cons, ih, memberWidth, memberWidth, key, size.width]
    rw [pieces]
  · rw [scalar_compact_obj, scalar_compact_obj]
    induction each with
    | nil => exact Iff.rfl
    | cons same _ ih =>
      obtain ⟨key, size⟩ := same
      rw [List.forall_mem_cons, List.forall_mem_cons, ih, key, size.scalar]

theorem SameSize.single {first last : Json} (same : SameSize floatRepr first last) :
    SameSize floatRepr (.arr [first]) (.arr [last]) := by
  constructor
  · rw [compact_arr_width, compact_arr_width]
    simp only [compactItems, List.map_cons, List.map_nil, same.width]
  · rw [scalar_compact_arr, scalar_compact_arr, List.forall_mem_singleton, List.forall_mem_singleton]
    exact same.scalar

private theorem equal_single {given expected : Json} (same : equal given (.arr [expected]) = true) :
    ∃ value, given = .arr [value] ∧ equal value expected = true := by
  cases given with
  | arr items =>
    cases items with
    | nil => simp [equal, equalItems] at same
    | cons value rest =>
      cases rest with
      | nil => exact ⟨value, rfl, by simpa [equal, equalItems] using same⟩
      | cons next later => simp [equal, equalItems] at same
  | _ => simp [equal, number?] at same

private theorem equal_members {given : Json} {expected : Members} (same : equal given (.obj expected) = true) :
    ∃ members, given = .obj members := by
  cases given with
  | obj members => exact ⟨members, rfl⟩
  | _ => simp [equal, number?] at same

private theorem equal_empty {given : Json} (same : equal given (.arr []) = true) : given = .arr [] := by
  cases given with
  | arr items =>
    cases items with
    | nil => rfl
    | cons value rest => simp [equal, equalItems] at same
  | _ => simp [equal, number?] at same

/-- Content that compares equal to the expected input has its size. -/
theorem SameSize.content {content : Text} {given : Json} (distinct : Distinct given)
    (same : equal given (normalInput content) = true) : SameSize floatRepr given (normalInput content) := by
  obtain ⟨value, rfl, inner⟩ := equal_single same
  obtain ⟨members, rfl⟩ := equal_members inner
  refine SameSize.single ?_
  have kind : get members "type" = .str (text "text") := by simpa [get_object_cons, equal_text] using equal_get inner "type"
  have held : get members "text" = .str (PROMPT ++ content) := by
    simpa [get_object_cons, equal_text] using equal_get inner "text"
  have elements : get members "text_elements" = .arr [] :=
    equal_empty (by simpa [get_object_cons] using equal_get inner "text_elements")
  have closes : closed members ["type", "text", "text_elements"] = true := by
    obtain ⟨present, values⟩ := equal_obj.mp inner
    simp only [closed, Bool.and_eq_true, List.all_eq_true, List.any_eq_true, beq_iff_eq]
    constructor
    · intro member listed
      obtain ⟨right, found, -⟩ := values member.1 member.2 (lookup_of_mem distinct.1.1 listed)
      have inside := mem_of_lookup found
      simp only [object, List.map_cons, List.map_nil, List.mem_cons, List.not_mem_nil, or_false, Prod.mk.injEq] at inside
      rcases inside with ⟨same, -⟩ | ⟨same, -⟩ | ⟨same, -⟩
      · exact ⟨"type", by simp, same⟩
      · exact ⟨"text", by simp, same⟩
      · exact ⟨"text_elements", by simp, same⟩
    · intro key known
      apply present
      simp only [List.mem_cons, List.not_mem_nil, or_false] at known
      rcases known with rfl | rfl | rfl <;> rfl
  have sorted := closed_perm closes distinct.1.1 (by decide)
  simp only [List.map_cons, List.map_nil, kind, held, elements] at sorted
  exact SameSize.perm sorted

/-- A notification that the selection accepts as the echo of this input, with identities that can be encoded. -/
structure AdmissibleEcho (content : Text) (message : ServerMessage) : Prop where
  distinct : Distinct (.obj message.raw)
  accepted : ∃ threadId turnId, boundedId (.str threadId) = true ∧ threadId.Scalar ∧
    isBoundedTurnUserInputEcho message (some (normalInput content)) threadId turnId = true
  turn : ∃ turnId, get message.params "turnId" = .str turnId ∧ boundedId (.str turnId) = true ∧ turnId.Scalar
  item : ∀ item itemId, get message.params "item" = .obj item → get item "id" = .str itemId → itemId.Scalar

/-- An admissible echo has the size of a closed one with bounded identities and times. -/
theorem AdmissibleEcho.shape (floatRepr : ℚ → Text) {content : Text} {message : ServerMessage} (admissible : AdmissibleEcho content message) :
    ∃ each ∈ LIFECYCLE, ∃ threadId turnId itemId observedAt emittedAt, threadId.length ≤ 512 ∧ turnId.length ≤ 512 ∧
      itemId.length ≤ 512 ∧ threadId.Scalar ∧ turnId.Scalar ∧ itemId.Scalar ∧ observedAt.natAbs < 2 ^ 53 ∧ 0 < emittedAt ∧
      emittedAt.natAbs < 2 ^ 53 ∧ SameSize floatRepr (.obj message.raw)
        (.obj (userInputEcho each.1 each.2 threadId turnId itemId observedAt emittedAt (normalInput content))) := by
  obtain ⟨threadId, selected, thread, threadScalar, accepted⟩ := admissible.accepted
  obtain ⟨turnId, turned, turn, turnScalar⟩ := admissible.turn
  have distinct := admissible.distinct
  cases named : message.method with
  | none => simp [isBoundedTurnUserInputEcho, named] at accepted
  | some method =>
    simp only [isBoundedTurnUserInputEcho, named, Bool.and_eq_true, Bool.or_eq_true, beq_iff_eq] at accepted
    obtain ⟨⟨⟨⟨⟨enveloped, lifecycle⟩, closes⟩, addresses⟩, stamped⟩, carried⟩ := accepted
    obtain ⟨each, listed, rfl, stamp⟩ : ∃ each ∈ LIFECYCLE, method = text each.1 ∧
        (if method = text "item/started" then "startedAtMs" else "completedAtMs") = each.2 := by
      rcases lifecycle with rfl | rfl
      · exact ⟨("item/started", "startedAtMs"), List.mem_cons_self, rfl, if_pos rfl⟩
      · refine ⟨("item/completed", "completedAtMs"), List.mem_cons_of_mem _ List.mem_cons_self, rfl, if_neg ?_⟩
        exact mt text_inj.mp (by decide)
    rw [stamp] at closes stamped
    simp only [sourceNotificationEnvelope, Bool.and_eq_true] at enveloped
    obtain ⟨⟨outer, bounded⟩, positive⟩ := enveloped
    have methodHeld : get message.raw "method" = .str (text each.1) := by
      unfold ServerMessage.method at named
      cases held : get message.raw "method" with
      | str value =>
        rw [held] at named
        exact congrArg Json.str (Option.some.inj named)
      | _ =>
        rw [held] at named
        cases named
    cases emitted : get message.raw "emittedAtMs" with
    | int emittedAt =>
      rw [emitted] at bounded positive
      simp only [boundedI64, Bool.and_eq_true, decide_eq_true_eq] at bounded positive
      cases observed : get message.params each.2 with
      | int observedAt =>
        rw [observed] at stamped
        simp only [boundedI64, Bool.and_eq_true, decide_eq_true_eq] at stamped
        cases carrier : get message.params "item" with
        | obj item =>
          rw [carrier] at carried
          simp only [Bool.and_eq_true] at carried
          obtain ⟨⟨⟨⟨itemCloses, kind⟩, identified⟩, clientless⟩, same⟩ := carried
          obtain ⟨itemId, identity, short⟩ : ∃ itemId, get item "id" = .str itemId ∧ itemId.length ≤ 512 := by
            cases held : get item "id" with
            | str itemId =>
              rw [held] at identified
              simp only [boundedId, Bool.and_eq_true, decide_eq_true_eq] at identified
              exact ⟨itemId, rfl, identified.2⟩
            | _ =>
              rw [held] at identified
              cases identified
          have client : get item "clientId" = .null := by
            cases held : get item "clientId" with
            | null => rfl
            | _ =>
              rw [held] at clientless
              cases clientless
          have threadHeld : get message.params "threadId" = .str threadId := by
            simp only [addressed, Bool.and_eq_true] at addresses
            exact names_iff.mp addresses.1
          have paramsHeld : get message.raw "params" = .obj message.params := by
            unfold ServerMessage.params at carrier ⊢
            cases held : get message.raw "params" with
            | obj params => rfl
            | _ =>
              rw [held] at carrier
              cases carrier
          have paramsDistinct : Distinct (.obj message.params) := paramsHeld ▸ distinct.2.get "params"
          have itemDistinct : Distinct (.obj item) := carrier ▸ paramsDistinct.2.get "item"
          have outside := closed_perm outer distinct.1 (by decide)
          have inside := closed_perm closes paramsDistinct.1 (by
            simp only [LIFECYCLE, List.mem_cons, List.not_mem_nil, or_false] at listed
            rcases listed with rfl | rfl <;> decide)
          have innermost := closed_perm itemCloses itemDistinct.1 (by decide)
          simp only [List.map_cons, List.map_nil, methodHeld, paramsHeld, emitted] at outside
          simp only [List.map_cons, List.map_nil, threadHeld, turned, carrier, observed] at inside
          simp only [List.map_cons, List.map_nil, Json.is_iff.mp kind, identity, client] at innermost
          simp only [boundedId, Bool.and_eq_true, decide_eq_true_eq] at thread turn
          refine ⟨each, listed, threadId, turnId, itemId, observedAt, emittedAt, thread.2, turn.2, short, threadScalar, turnScalar,
            admissible.item item itemId carrier identity, by omega, positive, by omega, ?_⟩
          have filled : SameSize floatRepr (get item "content") (normalInput content) :=
            SameSize.content (itemDistinct.2.get "content") same
          have itemSame : SameSize floatRepr (.obj item) (.obj (userInputItem itemId (normalInput content))) :=
            (SameSize.perm innermost).trans (.obj (.cons ⟨rfl, .refl _⟩ (.cons ⟨rfl, .refl _⟩ (.cons ⟨rfl, .refl _⟩
              (.cons ⟨rfl, filled⟩ .nil)))))
          have paramsSame : SameSize floatRepr (.obj message.params) (.obj (userInputParams each.2 threadId turnId
              (userInputItem itemId (normalInput content)) observedAt)) :=
            (SameSize.perm inside).trans (.obj (.cons ⟨rfl, .refl _⟩ (.cons ⟨rfl, .refl _⟩ (.cons ⟨rfl, itemSame⟩
              (.cons ⟨rfl, .refl _⟩ .nil)))))
          exact (SameSize.perm outside).trans (.obj (.cons ⟨rfl, .refl _⟩ (.cons ⟨rfl, paramsSame⟩
            (.cons ⟨rfl, .refl _⟩ .nil))))
        | _ =>
          rw [carrier] at carried
          cases carried
      | _ =>
        rw [observed] at stamped
        cases stamped
    | _ =>
      rw [emitted] at bounded
      cases bounded

/-- What a closed echo weighs beside its identities, its times and the prompt. -/
def frameWeight (each : String × String) : Nat := if each.1 = "item/started" then 195 else 199

theorem userInputEcho_width (floatRepr : ℚ → Text) {each : String × String} (listed : each ∈ LIFECYCLE) (threadId turnId itemId : Text)
    (observedAt emittedAt : Int) (content : Text) :
    (compact floatRepr (.obj (userInputEcho each.1 each.2 threadId turnId itemId observedAt emittedAt (normalInput content)))).width =
      frameWeight each + (quoted threadId).width + (quoted turnId).width + (quoted itemId).width +
        (compact floatRepr (.int observedAt)).width + (compact floatRepr (.int emittedAt)).width +
        (quoted (PROMPT ++ content)).width := by
  have null : (compact floatRepr .null).width = 4 := by
    have same : compact floatRepr .null = text "null" := rfl
    rw [same]
    decide
  have literals : (quoted (text "method")).width = 8 ∧ (quoted (text "params")).width = 8 ∧
      (quoted (text "emittedAtMs")).width = 13 ∧ (quoted (text "threadId")).width = 10 ∧ (quoted (text "turnId")).width = 8 ∧
      (quoted (text "item")).width = 6 ∧ (quoted (text "type")).width = 6 ∧ (quoted (text "id")).width = 4 ∧
      (quoted (text "clientId")).width = 10 ∧ (quoted (text "content")).width = 9 ∧ (quoted (text "userMessage")).width = 13 ∧
      (quoted (text "text")).width = 6 ∧ (quoted (text "text_elements")).width = 15 := by decide
  have kinds : (quoted (text "item/started")).width = 14 ∧ (quoted (text "item/completed")).width = 16 ∧
      (quoted (text "startedAtMs")).width = 13 ∧ (quoted (text "completedAtMs")).width = 15 := by decide
  obtain ⟨l1, l2, l3, l4, l5, l6, l7, l8, l9, l10, l11, l12, l13⟩ := literals
  simp only [LIFECYCLE, List.mem_cons, List.not_mem_nil, or_false] at listed
  simp only [userInputEcho, userInputParams, userInputItem, normalInput, object, List.map_cons, List.map_nil, compact_obj_width,
    compact_arr_width, compactItems, memberWidth, compact_str, Rfc8785.stretched, List.sum_cons, List.sum_nil, List.length_cons,
    List.length_nil, null, l1, l2, l3, l4, l5, l6, l7, l8, l9, l10, l11, l12, l13]
  rcases listed with rfl | rfl <;> simp only [frameWeight, kinds] <;> simp <;> omega

private theorem userInputEcho_scalar {each : String × String} {threadId turnId itemId content : Text} {observedAt emittedAt : Int}
    (thread : threadId.Scalar) (turn : turnId.Scalar) (item : itemId.Scalar) (held : content.Scalar) :
    Text.Scalar (compact floatRepr
      (.obj (userInputEcho each.1 each.2 threadId turnId itemId observedAt emittedAt (normalInput content)))) := by
  have fixed (literal : String) : Text.Scalar (text literal) := Text.scalar_text literal
  have null : Text.Scalar (compact floatRepr .null) := fixed "null"
  have prompt : Text.Scalar PROMPT := (fixed _).append (fixed _)
  simp only [userInputEcho, userInputParams, userInputItem, normalInput, object, List.map_cons, List.map_nil, scalar_compact_obj,
    scalar_compact_arr, List.forall_mem_cons, compact_str, scalar_quoted_iff, scalar_append_iff, fixed, null, prompt,
    scalar_compact_int, thread, turn, item, held, List.not_mem_nil, false_implies, implies_true, and_true]

private theorem reservedEcho_scalar (method timestamp : String) {content : Text} (identity : reservedId.Scalar)
    (held : content.Scalar) : Text.Scalar (compact floatRepr (.obj (reservedEcho method timestamp (normalInput content)))) := by
  have fixed (literal : String) : Text.Scalar (text literal) := Text.scalar_text literal
  have null : Text.Scalar (compact floatRepr .null) := fixed "null"
  have prompt : Text.Scalar PROMPT := (fixed _).append (fixed _)
  simp only [reservedEcho, normalInput, object, List.map_cons, List.map_nil, scalar_compact_obj, scalar_compact_arr,
    List.forall_mem_cons, compact_str, scalar_quoted_iff, scalar_append_iff, fixed, null, prompt, scalar_compact_int, identity,
    held, List.not_mem_nil, false_implies, implies_true, and_true]

private theorem reservedId_width : (quoted reservedId).width = 3074 := by
  have worst : (Rfc8785.escape 0).width = 6 := by decide
  rw [quoted_width, reservedId, List.map_replicate, List.sum_replicate_nat, worst]

/-- The heaviest of all admissible echoes. -/
def heaviestEcho (content : Text) : Members :=
  userInputEcho "item/completed" "completedAtMs" reservedId reservedId reservedId (-9007199254740991) 9007199254740991
    (normalInput content)

theorem heaviestEcho_width (content : Text) :
    (compact floatRepr (.obj (heaviestEcho content))).width = 9454 + (quoted (PROMPT ++ content)).width := by
  have early : (compact floatRepr (.int (-9007199254740991))).width = 17 := by
    rw [compact_int_width]
    decide
  have late : (compact floatRepr (.int 9007199254740991)).width = 16 := by
    rw [compact_int_width]
    decide
  have weight := @userInputEcho_width floatRepr ("item/completed", "completedAtMs")
    (List.mem_cons_of_mem _ List.mem_cons_self) reservedId reservedId reservedId (-9007199254740991) 9007199254740991 content
  have frame : frameWeight ("item/completed", "completedAtMs") = 199 := rfl
  dsimp only at weight
  rw [frame, reservedId_width, early, late] at weight
  rw [heaviestEcho, weight]

/-- The reservation lacks the member that names the emission time. -/
theorem reservedEcho_width (floatRepr : ℚ → Text) {each : String × String} (listed : each ∈ LIFECYCLE) (content : Text) :
    (compact floatRepr (.obj (reservedEcho each.1 each.2 (normalInput content)))).width =
      frameWeight each + 9223 + (quoted (PROMPT ++ content)).width := by
  have late : (compact floatRepr (.int 9007199254740991)).width = 16 := by
    rw [compact_int_width]
    decide
  have named : (quoted (text "emittedAtMs")).width = 13 := by decide
  have weight := userInputEcho_width floatRepr listed reservedId reservedId reservedId 9007199254740991
    9007199254740991 content
  rw [reservedId_width, late] at weight
  have gap : (compact floatRepr (.obj (userInputEcho each.1 each.2 reservedId reservedId reservedId
      9007199254740991 9007199254740991 (normalInput content)))).width =
        (compact floatRepr (.obj (reservedEcho each.1 each.2 (normalInput content)))).width + 31 := by
    simp only [userInputEcho, userInputParams, userInputItem, reservedEcho, object, List.map_cons, List.map_nil, compact_obj_width,
      memberWidth, Rfc8785.stretched, List.sum_cons, List.sum_nil, List.length_cons, List.length_nil, late, named]
    omega
  omega

theorem frameWeight_le (each : String × String) : frameWeight each ≤ 199 := by
  unfold frameWeight
  split <;> omega

theorem heaviestEcho_admissible (content : Text) : AdmissibleEcho content ⟨heaviestEcho content, none⟩ := by
  have scalar := reservedId_scalar
  have bounded := reservedId_bounded
  have params : ServerMessage.params ⟨heaviestEcho content, none⟩ = userInputParams "completedAtMs" reservedId reservedId
      (userInputItem reservedId (normalInput content)) (-9007199254740991) := by
    simp [ServerMessage.params, heaviestEcho, userInputEcho, get_object_cons, Json.members?]
  refine ⟨?_, ⟨reservedId, none, bounded, scalar, ?_⟩, ⟨reservedId, ?_, bounded, scalar⟩, ?_⟩
  · simp [Distinct, DistinctMembers, DistinctItems, heaviestEcho, userInputEcho, userInputParams, userInputItem, normalInput,
      object, text_inj]
  · have method : ServerMessage.method ⟨heaviestEcho content, none⟩ = some (text "item/completed") := by
      simp [ServerMessage.method, heaviestEcho, userInputEcho, get_object_cons, Json.text?]
    have stamp : (if text "item/completed" = text "item/started" then "startedAtMs" else "completedAtMs") = "completedAtMs" :=
      if_neg (mt text_inj.mp (by decide))
    have enveloped : sourceNotificationEnvelope ⟨heaviestEcho content, none⟩ = true := by
      have closes : closed (heaviestEcho content) ["method", "params", "emittedAtMs"] = true := rfl
      have emitted : get (heaviestEcho content) "emittedAtMs" = .int 9007199254740991 := by
        simp [heaviestEcho, userInputEcho, get_object_cons]
      simp only [sourceNotificationEnvelope, closes, emitted]
      decide
    have closes : closed (userInputParams "completedAtMs" reservedId reservedId (userInputItem reservedId (normalInput content))
        (-9007199254740991)) ["threadId", "turnId", "item", "completedAtMs"] = true := rfl
    have inside : closed (userInputItem reservedId (normalInput content)) ["type", "id", "clientId", "content"] = true := rfl
    have kind : Json.is (.str (text "userMessage")) "userMessage" = true := Json.is_iff.mpr rfl
    have thread : names (.str reservedId) reservedId = true := names_iff.mpr rfl
    have early : boundedI64 (.int (-9007199254740991)) = true := by decide
    simp only [isBoundedTurnUserInputEcho, method, params, stamp, enveloped, closes, beq_self_eq_true, Bool.or_true, Bool.and_true]
    simp [addressed, userInputParams, get_object_cons, thread, early, inside]
    simp [userInputItem, get_object_cons, kind, bounded, equal_refl]
  · rw [params]
    simp [userInputParams, get_object_cons]
  · intro item itemId held identity
    rw [params] at held
    have given : item = userInputItem reservedId (normalInput content) := by
      simpa [userInputParams, get_object_cons] using held.symm
    rw [given] at identity
    have same : itemId = reservedId := by simpa [userInputItem, get_object_cons] using identity.symm
    exact same ▸ scalar

theorem AdmissibleEcho.width_le (floatRepr : ℚ → Text) {content : Text} {message : ServerMessage} (admissible : AdmissibleEcho content message)
    (scalar : content.Scalar) : ∃ wire, requestWire floatRepr message.raw = .ok wire ∧
      wire.length ≤ 9455 + (quoted (PROMPT ++ content)).width := by
  obtain ⟨each, listed, threadId, turnId, itemId, observedAt, emittedAt, thread, turn, item, threadScalar, turnScalar, itemScalar,
    observed, positive, emitted, same⟩ := admissible.shape floatRepr
  obtain ⟨wire, written⟩ := (requestWire_isOk floatRepr).mpr
    (same.scalar.mpr (userInputEcho_scalar threadScalar turnScalar itemScalar scalar))
  refine ⟨wire, written, ?_⟩
  have threadWidth : (quoted threadId).width ≤ 3074 := reservedId_width ▸ quoted_width_le thread
  have turnWidth : (quoted turnId).width ≤ 3074 := reservedId_width ▸ quoted_width_le turn
  have itemWidth : (quoted itemId).width ≤ 3074 := reservedId_width ▸ quoted_width_le item
  have early := compact_int_width_le floatRepr observed
  have late := compact_int_width_le floatRepr emitted
  rw [if_neg (by omega)] at late
  have frame := frameWeight_le each
  have signed : (if observedAt < 0 then 1 else 0) ≤ 1 := by split <;> omega
  rw [requestWire_length floatRepr written, same.width, userInputEcho_width floatRepr listed]
  omega

/-- A turn of this model is within its bound whenever its echo is. -/
private theorem turnStart_reserved (content : Text) : (compact floatRepr (.obj (turnStart 9007199254740991
    (turnParams reservedId (.str (text "m")) content)).message)).width = 3188 + (quoted (PROMPT ++ content)).width := by
  have late : (compact floatRepr (.int ((9007199254740991 : Nat) : Int))).width = 16 := by
    rw [compact_int_width]
    decide
  have literals : (quoted (text "id")).width = 4 ∧ (quoted (text "method")).width = 8 ∧ (quoted (text "turn/start")).width = 12 ∧
      (quoted (text "params")).width = 8 ∧ (quoted (text "threadId")).width = 10 ∧ (quoted (text "model")).width = 7 ∧
      (quoted (text "m")).width = 3 ∧ (quoted (text "input")).width = 7 ∧ (quoted (text "type")).width = 6 ∧
      (quoted (text "text")).width = 6 := by decide
  obtain ⟨l1, l2, l3, l4, l5, l6, l7, l8, l9, l10⟩ := literals
  simp only [turnStart, Request.message, turnParams, object, List.map_cons, List.map_nil, List.cons_append, List.nil_append,
    compact_obj_width, compact_arr_width, compactItems, memberWidth, compact_str, Rfc8785.stretched, List.sum_cons, List.sum_nil,
    List.length_cons, List.length_nil, reservedId_width, late, l1, l2, l3, l4, l5, l6, l7, l8, l9, l10]
  omega

/-- A preflight under this model accepts whatever leaves room for the reserved echo. -/
theorem preflightRequest_accepts {content : Text} {requestDigest briefDigest outputBytes : Json}
    (valid : installation.validateRequest request brief = .ok ()) (decoded : Text.decode? brief = some content)
    (chosen : item backend "model" = .ok (.str (text "m")))
    (echo : captureContractForRequest host installation request = .ok .boundedTurnEcho)
    (room : (quoted (PROMPT ++ content)).width ≤ 252721) (first : item request "request_digest" = .ok requestDigest)
    (second : item request "worker_brief_digest" = .ok briefDigest)
    (third : item request "maximum_output_bytes" = .ok outputBytes) :
    ∃ report, preflightRequest host floatRepr installation request brief backend = .ok report := by
  have scalar : content.Scalar := Text.decode?_scalar brief content decoded
  have reserved := reservedId_bounded
  have identity := reservedId_scalar
  have started := (boundedTurnStart_ok reserved).mpr ⟨content, .str (text "m"), decoded, chosen, rfl⟩
  obtain ⟨wire, written⟩ := (requestWire_isOk floatRepr).mpr ((turnStart_scalar 9007199254740991 reservedId (.str (text "m")) content).mpr
    ⟨identity, scalar_quoted_iff.mpr (Text.scalar_text _), scalar⟩)
  have small : wire.length ≤ clientRequestByteBound (text "turn/start") .boundedTurnEcho := by
    have bound : clientRequestByteBound (text "turn/start") .boundedTurnEcho = 262144 := by decide
    rw [requestWire_length floatRepr written, turnStart_reserved, bound]
    omega
  have echoes {each : String × String} (listed : each ∈ LIFECYCLE) :
      reserveEcho floatRepr each.1 each.2 (normalInput content) = .ok () := by
    obtain ⟨echo, serialized⟩ := (requestWire_isOk floatRepr).mpr (reservedEcho_scalar each.1 each.2 identity scalar)
    refine bind_ok.mpr ⟨echo, serialized, fitting_ok.mpr ?_⟩
    have maximum : MAXIMUM_USER_INPUT_ECHO_BYTES = 262144 := rfl
    have frame := frameWeight_le each
    rw [requestWire_length floatRepr serialized, reservedEcho_width floatRepr listed, maximum]
    omega
  have reserves : reserveEchoes floatRepr .boundedTurnEcho (turnParams reservedId (.str (text "m")) content) = .ok () := by
    unfold reserveEchoes
    rw [if_pos rfl, normalizedBoundedTurnInput_params]
    have first := @echoes ("item/started", "startedAtMs") List.mem_cons_self
    have last := @echoes ("item/completed", "completedAtMs") (List.mem_cons_of_mem _ List.mem_cons_self)
    dsimp only at first last ⊢
    rw [first, last]
    rfl
  exact ⟨_, bind_ok.mpr ⟨(), valid, bind_ok.mpr ⟨_, started, bind_ok.mpr ⟨wire, written, bind_ok.mpr ⟨_, echo,
    bind_ok.mpr ⟨(), fitting_ok.mpr small, bind_ok.mpr ⟨(), reserves, bind_ok.mpr ⟨_, first, bind_ok.mpr ⟨_, second,
      bind_ok.mpr ⟨_, third, rfl⟩⟩⟩⟩⟩⟩⟩⟩⟩⟩

/-- Every admissible echo of an accepted request fits exactly if its prompt leaves room for the emission time
and a sign. The reservation counts neither, and so accepts thirty-two bytes more. -/
theorem preflight_covers_echo {report : Members} {content : Text}
    (accepted : preflightRequest host floatRepr installation request brief backend = .ok report)
    (echo : captureContractForRequest host installation request = .ok .boundedTurnEcho)
    (decoded : Text.decode? brief = some content) :
    (quoted (PROMPT ++ content)).width ≤ 252721 ∧
      ((∀ message, AdmissibleEcho content message → ∃ wire, requestWire floatRepr message.raw = .ok wire ∧
        wire.length ≤ MAXIMUM_USER_INPUT_ECHO_BYTES) ↔ (quoted (PROMPT ++ content)).width ≤ 252689) := by
  have scalar : content.Scalar := Text.decode?_scalar brief content decoded
  have maximum : MAXIMUM_USER_INPUT_ECHO_BYTES = 262144 := rfl
  refine ⟨?_, ?_, ?_⟩
  · obtain ⟨other, model, contract, wire, preflighted, -⟩ := preflightRequest_ok accepted
    cases decoded.symm.trans preflighted.decoded
    cases echo.symm.trans preflighted.contracted
    obtain ⟨reserved, written, short⟩ := preflighted.echoed rfl _ (List.mem_cons_of_mem _ List.mem_cons_self)
    dsimp only at written
    have weight := @reservedEcho_width floatRepr ("item/completed", "completedAtMs")
      (List.mem_cons_of_mem _ List.mem_cons_self) content
    have frame : frameWeight ("item/completed", "completedAtMs") = 199 := rfl
    rw [requestWire_length floatRepr written, weight, frame, maximum] at short
    omega
  · intro fits
    obtain ⟨wire, written, short⟩ := fits _ (heaviestEcho_admissible content)
    dsimp only at written
    rw [requestWire_length floatRepr written, heaviestEcho_width, maximum] at short
    omega
  · intro room message admissible
    obtain ⟨wire, written, short⟩ := admissible.width_le floatRepr scalar
    exact ⟨wire, written, by omega⟩

/-- A host that knows the digests of the two schema files. -/
def digestHost : Host := { plainHost with
  sha256 := digestTable [(17, 0x174fbe286975173b0bef5a17a60069650a682631cf4926ab70d98d603510a680),
    (12, 0x4de2ec8e2a8b595bd004ab7f911227aeef82c254084db785551e883db937e9a3)] }

/-- A request under the echo contract. -/
def echoRequest (digests : SampleDigests) : Members :=
  sampleRequest digests 0x174fbe286975173b0bef5a17a60069650a682631cf4926ab70d98d603510a680

/-- The digests of a request whose brief has as much filler as every echo leaves room for. -/
def fittingDigests : SampleDigests where
  packet := 0x9f03d4804a70a09251e89991a495e8828e0b8b49bda2cbafc55ec051abc0a4c9
  retained := 0x58c7efabf8269688dd5aeabe07cfa4eab9f21a46534fbf219d4c7a840fb6e6aa
  brief := 0x909a884f51a8e2fa5f7311db5ef0c06eff46fbe5ba6b43be1e8b9789aa3ef58f
  predecessor := 0x78e8fbb7ced26b244b0662e53d793f9f62ccf90f845b816b9b7f36cfbe86357b
  predecessorBytes := 0xeec584c050e778806f96b249e646381854ee9fa309d8588b858445018a5eef28
  request := 0xe61f2e324c6868f901326d23173ac9d148337dc8e403c1cd3b041e2f0b8bcd16

def FITTING : Nat := 125475

/-- The digests of a request whose brief has as much filler as its preflight accepts. -/
def longestDigests : SampleDigests where
  packet := 0x199857e98398f51da798a7cf1342d6596f107a4a947221cb1d2267c5c48a6ff9
  retained := 0xd1965fd26719bc5544d81cdb4840ca5803dcfd9514cafe4d1d64bee5f56ad518
  brief := 0x32143cedd047e66782daa95405a92037b42774ee68fd7bb32b72e8630ae59fad
  predecessor := 0x7b9dd53be9ffb9c0c640d34a5da0f885c1b6cb465e815a99ae3fa6236c394ace
  predecessorBytes := 0x3a015573d932e7cecf6f752c5cc31726e2c741767bf96c37e1098ebe050d62dc
  request := 0x0a565375f1f69f80775833a49f1deeff7feb5a16a50b0da5751c170472fbcef5

def LONGEST : Nat := 125491

/-- The text of ASCII bytes. -/
def plainText (raw : Bytes) : Text := raw.map fun byte => Fin.ofNat 0x110000 byte.toNat

theorem decode?_plain {raw : Bytes} (plain : ∀ byte ∈ raw, byte.toNat < 0x80) : Text.decode? raw = some (plainText raw) := by
  induction raw with
  | nil => rfl
  | cons byte rest ih =>
    have first := plain byte List.mem_cons_self
    have later := ih fun other listed => plain other (List.mem_cons_of_mem _ listed)
    rw [Text.decode?.eq_def]
    simp only [if_pos first, later, Option.map_some]
    rfl

/-- What these bytes take in a JSON string. -/
def stringWeight (raw : Bytes) : Nat := ((plainText raw).map fun point => (Rfc8785.escape point).width).sum

/-- The brief around its filler is ASCII and has this weight. -/
def Weighs (digests : SampleDigests) (total : Nat) : Prop :=
  (briefHead digests ++ briefTail digests).all (fun byte => byte.toNat < 0x80) = true ∧
    stringWeight (briefHead digests) + stringWeight (briefTail digests) = total

private theorem Weighs.plain {digests : SampleDigests} {total : Nat} (weighs : Weighs digests total) (filler : Nat) :
    ∀ byte ∈ sampleBrief digests filler, byte.toNat < 0x80 := by
  intro byte listed
  have around := List.all_eq_true.mp weighs.1
  simp only [sampleBrief, List.mem_append] at listed
  rcases listed with (first | filled) | last
  · exact of_decide_eq_true (around byte (List.mem_append_left _ first))
  · rw [List.eq_of_mem_replicate filled]
    decide
  · exact of_decide_eq_true (around byte (List.mem_append_right _ last))

/-- Each letter of the filler is two hexadecimal digits of the brief. -/
private theorem Weighs.width {digests : SampleDigests} {total : Nat} (weighs : Weighs digests total) (filler : Nat) :
    (quoted (PROMPT ++ plainText (sampleBrief digests filler))).width = 207 + total + 2 * filler := by
  have prompt : (PROMPT.map fun point => (Rfc8785.escape point).width).sum = 205 := by decide +kernel
  have digit : (Rfc8785.escape (Fin.ofNat 0x110000 (54 : UInt8).toNat)).width = 1 := by decide
  have around := weighs.2
  simp only [stringWeight, plainText] at around
  rw [quoted_width, List.map_append, List.sum_append, prompt, sampleBrief]
  simp only [plainText, List.map_append, List.sum_append, List.map_replicate, List.sum_replicate_nat, digit]
  omega

private theorem sample_weighs : Weighs fittingDigests 1532 ∧ Weighs longestDigests 1532 :=
  ⟨⟨by decide +kernel, by decide +kernel⟩, by decide +kernel, by decide +kernel⟩

/-- The request names the digest of the echo schema. -/
private theorem echoRequest_contract (digests : SampleDigests) (installation : Installation)
    (schema : installation.boundedTurnEchoSchema = ascii "bounded-turn-echo") :
    captureContractForRequest digestHost installation (echoRequest digests) = .ok .boundedTurnEcho := by
  have named : item (echoRequest digests) "switchyard_schema_sha256" =
      .ok (sha256Text 0x174fbe286975173b0bef5a17a60069650a682631cf4926ab70d98d603510a680) := rfl
  have digest : .str (digestHost.digest (ascii "bounded-turn-echo")) =
      sha256Text 0x174fbe286975173b0bef5a17a60069650a682631cf4926ab70d98d603510a680 := by
    have length : (ascii "bounded-turn-echo").length = 17 := by decide
    simp only [digestHost, Host.digest, digestTable, length]
    rfl
  unfold captureContractForRequest
  rw [named, schema, digest]
  exact bind_ok.mpr ⟨_, rfl, if_pos (equal_refl _)⟩

private theorem echoRequest_accepted {digests : SampleDigests} {filler : Nat} (weighs : Weighs digests 1532)
    (room : filler ≤ LONGEST) : ∃ report, preflightRequest digestHost (fun _ => [])
      (sampleInstallation (echoRequest digests) (sampleBrief digests filler)) (echoRequest digests) (sampleBrief digests filler)
      sampleBackend = .ok report := by
  have room : (quoted (PROMPT ++ plainText (sampleBrief digests filler))).width ≤ 252721 := by
    rw [weighs.width]
    unfold LONGEST at room
    omega
  exact preflightRequest_accepts (sampleInstallation_accepts _ _) (decode?_plain (weighs.plain filler)) rfl (echoRequest_contract digests _ rfl) room rfl rfl rfl

theorem preflight_covers_turn_start_sample : ∃ params wire contract, ∃ reserved : Nat,
    boundedTurnStart (.str (text "t")) sampleBackend (sampleBrief fittingDigests FITTING) = .ok params ∧
      requestWire (fun _ => []) (turnStart 1 params).message = .ok wire ∧
      captureContractForRequest digestHost (sampleInstallation (echoRequest fittingDigests) (sampleBrief fittingDigests FITTING))
        (echoRequest fittingDigests) = .ok contract ∧ wire.length ≤ reserved ∧
      reserved ≤ clientRequestByteBound (text "turn/start") contract := by
  obtain ⟨report, accepted⟩ := @echoRequest_accepted _ FITTING sample_weighs.1 (by decide)
  obtain ⟨params, wire, contract, reserved, started, written, contracted, -, fits, bounded, -⟩ :=
    @preflight_covers_turn_start _ _ _ _ _ _ _ (text "t") 1 accepted (by decide) (by decide) (by omega)
  exact ⟨params, wire, contract, reserved, started, written, contracted, fits, bounded⟩

theorem preflight_covers_echo_sample : ∃ content, Text.decode? (sampleBrief fittingDigests FITTING) = some content ∧
    AdmissibleEcho content ⟨heaviestEcho content, none⟩ ∧ ∀ message, AdmissibleEcho content message →
      ∃ wire, requestWire (fun _ => []) message.raw = .ok wire ∧ wire.length ≤ MAXIMUM_USER_INPUT_ECHO_BYTES := by
  obtain ⟨report, accepted⟩ := @echoRequest_accepted _ FITTING sample_weighs.1 (by decide)
  have decoded := decode?_plain (sample_weighs.1.plain FITTING)
  refine ⟨_, decoded, heaviestEcho_admissible _, ?_⟩
  have room : 207 + 1532 + 2 * FITTING ≤ 252689 := by decide
  exact (preflight_covers_echo accepted (echoRequest_contract _ _ rfl) decoded).2.mpr (sample_weighs.1.width FITTING ▸ room)

private theorem heaviestEcho_wire {content : Text} (scalar : content.Scalar) : ∃ wire,
    requestWire (fun _ => []) (heaviestEcho content) = .ok wire ∧ wire.length = 9455 + (quoted (PROMPT ++ content)).width := by
  obtain ⟨wire, written, -⟩ := (heaviestEcho_admissible content).width_le (fun _ => []) scalar
  refine ⟨wire, written, ?_⟩
  rw [requestWire_length _ written, heaviestEcho_width]
  omega

/-- The longest brief that is accepted has an echo of thirty-two bytes too many. -/
theorem preflight_misses_echo : ∃ report content message wire,
    preflightRequest digestHost (fun _ => []) (sampleInstallation (echoRequest longestDigests) (sampleBrief longestDigests LONGEST))
      (echoRequest longestDigests) (sampleBrief longestDigests LONGEST) sampleBackend = .ok report ∧
      Text.decode? (sampleBrief longestDigests LONGEST) = some content ∧ AdmissibleEcho content message ∧
      requestWire (fun _ => []) message.raw = .ok wire ∧ wire.length = MAXIMUM_USER_INPUT_ECHO_BYTES + 32 := by
  obtain ⟨report, accepted⟩ := @echoRequest_accepted _ LONGEST sample_weighs.2 (Nat.le_refl _)
  have decoded := decode?_plain (sample_weighs.2.plain LONGEST)
  obtain ⟨wire, written, length⟩ := heaviestEcho_wire (Text.decode?_scalar _ _ decoded)
  have excess : 9455 + (207 + 1532 + 2 * LONGEST) = MAXIMUM_USER_INPUT_ECHO_BYTES + 32 := by decide
  rw [sample_weighs.2.width, excess] at length
  exact ⟨report, _, _, wire, accepted, decoded, heaviestEcho_admissible _, written, length⟩

end Switchyard.Runner
