import Switchyard.Library.Utf8
import Switchyard.AppServer.Size
import Switchyard.Restored
import Switchyard.DirectApi.Durability
import Switchyard.DirectApi.Transport

/-! The isolated transport is transparent: what admission bounds stays inside every
limit on the way to the child and back, whatever it takes to escape and encode it. -/

namespace Switchyard.DirectApi
open Library Json

variable {host : Host}

section Lengths
open Rfc8785 AppServer

theorem spelled_eq {value : Text} (scalar : value.Scalar) : spelled value = Text.width (value.flatMap escape) + 2 := by
  have inside : Text.Scalar (value.flatMap escape) := by
    intro point listed
    obtain ⟨other, member, inner⟩ := List.mem_flatMap.mp listed
    exact (escape_scalar other).mpr (scalar other member) point inner
  simp [spelled, Text.encode?, inside, Text.width]

theorem spelled_le {value : Text} (scalar : value.Scalar) : spelled value ≤ 6 * value.length + 2 := by
  rw [spelled_eq scalar]
  have each : Text.width (value.flatMap escape) ≤ 6 * value.length := by
    clear scalar
    induction value with
    | nil => exact Nat.le_refl 0
    | cons point rest ih =>
      have short := (escape_width point).2
      rw [List.flatMap_cons, Text.width_append, List.length_cons]
      omega
  omega

/-- Characters that need no escape take one byte each. -/
theorem spelled_plain {value : Text} (plain : ∀ point ∈ value, point.val < 0x80 ∧ escape point = [point]) :
    spelled value = value.length + 2 := by
  have same : value.flatMap escape = value := by
    induction value with
    | nil => rfl
    | cons point rest ih =>
      rw [List.flatMap_cons, (plain point List.mem_cons_self).2, ih fun other listed => plain other (List.mem_cons_of_mem _ listed)]
      rfl
  have scalar : value.Scalar := fun point listed => by
    have small := (plain point listed).1
    simp only [Text.surrogate, Bool.and_eq_false_iff, decide_eq_false_iff_not]
    omega
  rw [spelled_eq scalar, same, Text.width_ascii fun point listed => (plain point listed).1]

theorem spelled_base64 (raw : Bytes) : spelled (Base64.encode raw) = (raw.length + 2) / 3 * 4 + 2 := by
  rw [spelled_plain, Base64.encode_length]
  exact Base64.encode_all (by decide) (by decide) raw

theorem decimal_length_le {value : Int} (bounded : value.natAbs < 2 ^ 53) : (decimal value).length ≤ 17 := by
  have width := compact_int_width_le (fun _ => []) bounded
  have same : (compact (fun _ => []) (.int value)).width = (decimal value).length := by
    rw [Text.width_ascii, compact, List.length_map]
    intro point listed
    simp only [compact] at listed
    obtain ⟨byte, inside, rfl⟩ := List.mem_map.mp listed
    have digit := decimal_numeral inside
    have bound := byte.toNat_lt
    simp only [numeral, Bool.or_eq_true, Bool.and_eq_true, decide_eq_true_eq, beq_iff_eq] at digit
    rw [Fin.val_ofNat, Nat.mod_eq_of_lt (by omega)]
    rcases digit with rfl | digit
    · decide
    · omega
  rw [← same]
  split at width <;> omega

theorem memberExtents_map (members : Members) :
    memberExtents host members = members.map fun member => spelled member.1 + 1 + extent host member.2 := by
  induction members with
  | nil => rfl
  | cons member rest ih => rw [memberExtents, ih, List.map_cons]

private theorem extents_replaced {name : Text} {value : Json} : ∀ {members : Members}, (members.map Prod.fst).Nodup →
    (memberExtents host (members.map fun member => if member.1 == name then (member.1, value) else member)).sum ≤
      (memberExtents host members).sum + extent host value
  | [], _ => by simp [memberExtents]
  | (key, item) :: rest, distinct => by
    obtain ⟨fresh, others⟩ := List.nodup_cons.mp distinct
    rw [List.map_cons]
    by_cases same : key = name
    · subst same
      have untouched : rest.map (fun member => if member.1 == key then (member.1, value) else member) = rest := by
        conv_rhs => rw [← List.map_id rest]
        refine List.map_congr_left fun member listed => ?_
        have apart : (member.1 == key) = false := by
          refine beq_eq_false_iff_ne.mpr fun equal => fresh ?_
          exact List.mem_map.mpr ⟨member, listed, equal⟩
        rw [apart]
        rfl
      rw [untouched]
      simp only [beq_self_eq_true, if_true, memberExtents, List.sum_cons]
      omega
    · have apart : (key == name) = false := beq_eq_false_iff_ne.mpr same
      have later := @extents_replaced name value rest others
      simp only [apart, Bool.false_eq_true, if_false, memberExtents, List.sum_cons]
      omega

/-- A member that is set adds at most its own length. -/
theorem extent_set_le {members : Members} (distinct : (members.map Prod.fst).Nodup) (key : String) (value : Json) :
    extent host (.obj (set members key value)) ≤ extent host (.obj members) + spelled (text key) + extent host value + 2 := by
  unfold Json.set
  split
  · have sums := @extents_replaced host (text key) value members distinct
    simp only [extent, stretched, memberExtents_map, List.length_map] at sums ⊢
    omega
  · simp only [extent, stretched, memberExtents_map, List.map_append, List.sum_append, List.length_append, List.map_cons,
      List.map_nil, List.sum_cons, List.sum_nil, List.length_cons, List.length_nil, List.length_map]
    omega

theorem set_distinct {members : Members} (distinct : (members.map Prod.fst).Nodup) (key : String) (value : Json) :
    ((set members key value).map Prod.fst).Nodup := by
  unfold Json.set
  split
  · have same : (members.map fun member => if member.1 == text key then (member.1, value) else member).map Prod.fst =
        members.map Prod.fst := by
      rw [List.map_map]
      refine List.map_congr_left fun member _ => ?_
      simp only [Function.comp_apply]
      split <;> rfl
    rwa [same]
  · next absent =>
    rw [List.map_append, List.map_cons, List.map_nil, List.nodup_append]
    refine ⟨distinct, List.nodup_singleton _, fun one listed other single => ?_⟩
    obtain rfl := List.mem_singleton.mp single
    rintro rfl
    obtain ⟨member, found, named⟩ := List.mem_map.mp listed
    refine absent ?_
    have visible := lookup_of_mem distinct found
    rw [named] at visible
    simp [Json.has, visible]

theorem exactly_set {members : Members} (exact : exactly (.obj members) = true) (key : String) {value : Json}
    (inside : exactly value = true) : exactly (.obj (set members key value)) = true := by
  simp only [exactly, Bool.and_eq_true, decide_eq_true_eq, exactlyMembers_iff] at exact ⊢
  refine ⟨set_distinct exact.1 key value, fun member listed => ?_⟩
  unfold Json.set at listed
  split at listed
  · obtain ⟨original, found, rfl⟩ := List.mem_map.mp listed
    split
    · exact inside
    · exact exact.2 original found
  · rcases List.mem_append.mp listed with listed | listed
    · exact exact.2 member listed
    · obtain rfl := List.mem_singleton.mp listed
      exact inside

end Lengths

/-- The bounds of admission that the transport relies on. -/
structure Limits (host : Host) (request : Members) (admittedInput : Bytes) : Prop where
  input : admittedInput.length ≤ 1024 * 1024
  timeout : isBetween 1 300 (get request "timeout_seconds") = true
  response : isBetween 1024 MAXIMUM_RESPONSE (get request "maximum_response_bytes") = true
  enrolled : isEnrolled request = true → isBetween 1 2000000 (get request "maximum_completion_tokens") = true ∧
    isBetween 1 (10 ^ 12) (get request "prompt_token_price_micros") = true ∧
    isBetween 1 (10 ^ 12) (get request "completion_token_price_micros") = true
  format : isV3 request = true → ∃ raw, canonical host (get request "response_format") = .ok raw ∧ raw.length ≤ 64 * 1024

private theorem format_tail {request : Members} {first last : Bytes → Bool} {one two : String}
    (done : (do
      let raw ← canonical host (get request "response_format")
      require (first raw) one
      require (last raw) two : Except Failure Unit) = .ok ()) :
    ∃ raw, canonical host (get request "response_format") = .ok raw ∧ first raw = true := by
  obtain ⟨raw, encoded, done⟩ := bind_ok.mp done
  simp only [bind_unit, require_ok] at done
  exact ⟨raw, encoded, done.1⟩

theorem validateResponseFormat_spec {request : Members} {admittedInput : Bytes}
    (accepted : validateResponseFormat host request admittedInput = .ok ()) :
    ∃ raw, canonical host (get request "response_format") = .ok raw ∧ raw.length ≤ 64 * 1024 := by
  simp only [validateResponseFormat, bind_unit] at accepted
  obtain ⟨-, -, specified⟩ := accepted
  split at specified
  · obtain ⟨-, named⟩ := bind_unit.mp specified
    split at named
    · split at named
      · cases named
      · simp only [bind_unit] at named
        obtain ⟨-, -, -, rest⟩ := named
        obtain ⟨raw, encoded, small⟩ := format_tail rest
        exact ⟨raw, encoded, of_decide_eq_true small⟩
    · simp [bind_unit] at named
  · simp [bind_unit] at specified

theorem Submission.limits (submission : Submission host) : Limits host submission.request submission.admittedInput := by
  have accepted := submission.accepted
  simp only [validate, bind_unit, optionally_ok] at accepted
  obtain ⟨first, limits, format, -⟩ := accepted
  simp only [validateRequest, bind_unit, require_ok] at first
  obtain ⟨-, -, -, -, -, -, -, -, -, -, -, -, -, -, timeout, inputBytes, responseBytes, -, input, -, -⟩ := first
  have most := (int_of_isBetween inputBytes).2.2
  refine ⟨?_, timeout, responseBytes, fun enrolled => ?_, fun v3 => validateResponseFormat_spec (format v3)⟩
  · have within := of_decide_eq_true input
    omega
  · have enrolls := limits enrolled
    simp only [validateEnrolled, bind_unit, require_ok] at enrolls
    obtain ⟨-, completion, -, -, -, -, -, -, -, prompt, price, -, -⟩ := enrolls
    exact ⟨completion, prompt, price⟩

section Body
variable {submission : Submission host}

/-- The body of version 1, on which the others build. -/
def baseBody (submission : Submission host) : Members := object [
  ("model", get submission.request "model_id"),
  ("messages", .arr [.obj (object [("role", .str (text "user")),
    ("content", .str ((Text.decode? submission.admittedInput).getD []))])]),
  ("provider", .obj (object [("allow_fallbacks", .bool false)])),
  ("stream", .bool false)]

/-- What an enrolled request sets in it. -/
def enrolledItems (request : Members) : List (String × Json) := [
  ("max_tokens", get request "maximum_completion_tokens"),
  ("provider", .obj (object [("allow_fallbacks", .bool false), ("require_parameters", .bool true),
    ("max_price", .obj (object [("prompt", get request "prompt_token_price_micros"),
      ("completion", get request "completion_token_price_micros"), ("request", .int 0)]))]))]

/-- The bodies that a run reads back on its way to the one it sends. -/
def draftBodies (submission : Submission host) : List Json :=
  if isEnrolled submission.request then
    .obj (baseBody submission) :: if isV3 submission.request then
      match (canonical host (.obj (baseBody submission))).bind (loads host) with
      | .ok (.obj members) => [.obj (update members (enrolledItems submission.request))]
      | _ => []
    else []
  else []

open Rfc8785 in
/-- How much the items can add to a body. -/
def added (host : Host) (items : List (String × Json)) : Nat :=
  (items.map fun item => spelled (text item.1) + extent host item.2 + 2).sum

open Rfc8785 in
theorem extent_update_le {items : List (String × Json)} {members : Members} (distinct : (members.map Prod.fst).Nodup) :
    extent host (.obj (update members items)) ≤ extent host (.obj members) + added host items := by
  induction items generalizing members with
  | nil => exact Nat.le_refl _
  | cons item rest ih =>
    have first := @extent_set_le host members distinct item.1 item.2
    have later := ih (set_distinct distinct item.1 item.2)
    simp only [update, List.foldl_cons, added, List.map_cons, List.sum_cons] at later ⊢
    omega

theorem canonical_update {items : List (String × Json)} (inside : ∀ item ∈ items, Rfc8785.Canonical item.2) {members : Members}
    (base : Rfc8785.Canonical (.obj members)) : Rfc8785.Canonical (.obj (update members items)) := by
  induction items generalizing members with
  | nil => exact base
  | cons item rest ih =>
    apply ih fun other listed => inside other (List.mem_cons_of_mem _ listed)
    exact Rfc8785.canonical_set base (inside item List.mem_cons_self)

theorem exactly_update {items : List (String × Json)} (inside : ∀ item ∈ items, exactly item.2 = true) {members : Members}
    (base : exactly (.obj members) = true) : exactly (.obj (update members items)) = true := by
  induction items generalizing members with
  | nil => exact base
  | cons item rest ih =>
    apply ih fun other listed => inside other (List.mem_cons_of_mem _ listed)
    exact exactly_set base item.1 (inside item List.mem_cons_self)

/-- A body that is read back and extended. -/
private theorem extended_ok {members : Members} {body : Bytes} {items : List (String × Json)}
    (exact : exactly (.obj members) = true) (encoded : canonical host (.obj members) = .ok body)
    (restores : Restores host (.obj members)) (inside : ∀ item ∈ items, Rfc8785.Canonical item.2) :
    ∃ decoded longer, loads host body = .ok (.obj decoded) ∧ exactly (.obj decoded) = true ∧
      extended host body items = .ok longer ∧ canonical host (.obj (update decoded items)) = .ok longer ∧
      longer.length ≤ body.length + added host items := by
  obtain ⟨value, loaded, restored⟩ := restores body (canonical_ok.mp encoded)
  obtain ⟨decoded, rfl⟩ := restored.members
  have same : exactly (.obj decoded) = true := restored.exactly exact
  have again : Rfc8785.dumps host (.obj decoded) = .ok body :=
    (restored.dumps (exactly_stable _ exact)).trans (canonical_ok.mp encoded)
  have base : Rfc8785.Canonical (.obj decoded) := (Rfc8785.dumps_accepted host _).mp ⟨body, again⟩
  obtain ⟨longer, extended⟩ := canonical_accepted.mpr (canonical_update inside base)
  have read : loads host body = .ok (.obj decoded) := by simp only [loads, loaded]
  have distinct : (decoded.map Prod.fst).Nodup := by
    simp only [exactly, Bool.and_eq_true, decide_eq_true_eq] at same
    exact same.1
  have length := Rfc8785.dumps_spans host _ _ (canonical_ok.mp extended)
  have shorter := Rfc8785.dumps_spans host _ _ again
  have bound := @extent_update_le host items decoded distinct
  refine ⟨decoded, longer, read, same, ?_, extended, by omega⟩
  simp only [DirectApi.extended, read, bind, Except.bind]
  exact extended

private theorem between_small {members : Members} {key : String} {low high : Int}
    (between : isBetween low high (get members key) = true) (small : high < 2 ^ 53) (positive : 0 ≤ low) :
    get members key = .int (int members key) ∧ (int members key).natAbs < 2 ^ 53 := by
  obtain ⟨shape, above, below⟩ := int_of_isBetween between
  exact ⟨shape, by omega⟩

private theorem canonical_small {value : Int} (small : value.natAbs < 2 ^ 53) : Rfc8785.Canonical (.int value) := by
  simp only [Rfc8785.Canonical, Rfc8785.intMin, Rfc8785.intMax]
  omega

open Rfc8785 in
private theorem extent_small {value : Int} (small : value.natAbs < 2 ^ 53) : extent host (.int value) ≤ 17 := decimal_length_le small

open Rfc8785 in
/-- The keys of a body are short. -/
private theorem spelled_keys : ∀ key ∈ ["model", "messages", "role", "user", "content", "provider", "allow_fallbacks", "stream",
    "max_tokens", "require_parameters", "max_price", "prompt", "completion", "request", "response_format"],
    spelled (text key) ≤ 20 := by
  decide

open Rfc8785 in
/-- What enrolment adds to a body: it is admissible, and short. -/
private theorem enrolled_items (limits : Limits host submission.request submission.admittedInput)
    (enrolled : isEnrolled submission.request = true) :
    (∀ item ∈ enrolledItems submission.request, Canonical item.2 ∧ exactly item.2 = true) ∧
      added host (enrolledItems submission.request) ≤ 300 := by
  obtain ⟨completion, prompt, price⟩ := limits.enrolled enrolled
  obtain ⟨completionShape, completionSmall⟩ := between_small completion (by decide) (by decide)
  obtain ⟨promptShape, promptSmall⟩ := between_small prompt (by decide) (by decide)
  obtain ⟨priceShape, priceSmall⟩ := between_small price (by decide) (by decide)
  have keys := spelled_keys
  simp only [List.forall_mem_cons] at keys
  have one := @extent_small host _ completionSmall
  have two := @extent_small host _ promptSmall
  have three := @extent_small host _ priceSmall
  have zero := @extent_small host 0 (by decide)
  refine ⟨?_, ?_⟩
  · simp only [enrolledItems, List.forall_mem_cons, List.not_mem_nil, false_implies, implies_true, and_true, completionShape,
      promptShape, priceShape, exactly]
    refine ⟨canonical_small completionSmall, ?_, by simp [object, text_inj, exactlyMembers, exactly]⟩
    have scalar (key : String) := Text.scalar_text key
    simp only [object, List.map_cons, List.map_nil, Canonical, CanonicalMembers, scalar, true_and, and_true]
    exact ⟨canonical_small promptSmall, canonical_small priceSmall, canonical_small (by decide)⟩
  · simp only [added, enrolledItems, completionShape, promptShape, priceShape, List.map_cons, List.map_nil, List.sum_cons,
      List.sum_nil, extent, memberExtents, object, stretched, List.length_cons, List.length_nil, if_true, if_false,
      Bool.false_eq_true] at one two three zero ⊢
    omega

theorem decode?_length_le {raw : Bytes} {value : Text} (decoded : Text.decode? raw = some value) : value.length ≤ raw.length := by
  rw [← Text.decode?_encodes raw value decoded]
  clear decoded
  induction value with
  | nil => exact Nat.le_refl 0
  | cons point rest ih =>
    have filled := List.length_pos_iff.mpr (Text.encodePoint_ne_nil point)
    rw [List.flatMap_cons, List.length_append, List.length_cons]
    omega

theorem identifier_spec {value : Json} (valid : isIdentifier value = true) :
    ∃ name : Text, value = .str name ∧ name.length ≤ 512 ∧ name.Scalar := by
  cases value with
  | str name =>
    simp only [isIdentifier, identifier, Bool.and_eq_true, decide_eq_true_eq, List.all_eq_true] at valid
    refine ⟨name, rfl, valid.1.2, fun point listed => ?_⟩
    have small := valid.2 point listed
    simp only [identifierPoint, Bool.or_eq_true, Bool.and_eq_true, decide_eq_true_eq, List.contains_iff_mem, List.mem_cons,
      List.not_mem_nil, or_false] at small
    simp only [Text.surrogate, Bool.and_eq_false_iff, decide_eq_false_iff_not]
    omega
  | null | bool _ | int _ | float _ | arr _ | obj _ => cases valid

open Rfc8785 in
private theorem base_body (submission : Submission host) : Canonical (.obj (baseBody submission)) ∧
    exactly (.obj (baseBody submission)) = true ∧ extent host (.obj (baseBody submission)) ≤ 6 * 1024 * 1024 + 4000 := by
  obtain ⟨model, shape, short, scalar⟩ := identifier_spec submission.admitted.model
  obtain ⟨content, decoded⟩ := Option.isSome_iff_exists.mp submission.admitted.decoded
  have small := decode?_length_le decoded
  have limits := submission.limits.input
  have readable := Text.decode?_scalar _ _ decoded
  have one := spelled_le scalar
  have two := spelled_le readable
  have keys := spelled_keys
  have literal (key : String) := Text.scalar_text key
  simp only [List.forall_mem_cons] at keys
  simp only [baseBody, shape, decoded, Option.getD_some, object, List.map_cons, List.map_nil]
  refine ⟨?_, by simp [exactly, exactlyMembers, exactlyItems, text_inj], ?_⟩
  · simp only [Canonical, CanonicalMembers, CanonicalItems, literal, scalar, readable, and_true]
  · simp only [extent, memberExtents, itemExtents, stretched, List.sum_cons, List.sum_nil, List.length_cons, List.length_nil,
      Bool.false_eq_true, if_false]
    omega

private theorem enrolled_of_v3 {request : Members} (v3 : isV3 request = true) : isEnrolled request = true := by
  simp [isEnrolled, v3]

/-- Every admitted submission has its body built, within the limit of the child. -/
theorem body_built (submission : Submission host) (reads : ∀ value ∈ draftBodies submission, Restores host value) :
    ∃ body, requestBody host submission = .ok body ∧ body.length ≤ MAXIMUM_BODY := by
  have made : requestBody host submission = (do
      let body ← canonical host (.obj (baseBody submission))
      let body ← if isEnrolled submission.request then extended host body (enrolledItems submission.request) else pure body
      if isV3 submission.request then extended host body [("response_format", get submission.request "response_format")]
      else pure body) := rfl
  obtain ⟨admissible, exact, length⟩ := base_body submission
  obtain ⟨body, encoded⟩ := canonical_accepted.mpr admissible
  have first := Rfc8785.dumps_spans host _ _ (canonical_ok.mp encoded)
  have limits := submission.limits
  rw [made]
  cases enrolled : isEnrolled submission.request with
  | false =>
    have older : isV3 submission.request = false := by
      by_contra v3
      simp [enrolled_of_v3 (Bool.eq_true_of_not_eq_false v3)] at enrolled
    refine ⟨body, by simp [older, encoded, bind, Except.bind, pure, Except.pure], ?_⟩
    simp only [MAXIMUM_BODY]
    omega
  | true =>
    obtain ⟨inside, most⟩ := enrolled_items limits enrolled
    obtain ⟨decoded, longer, loaded, same, went, again, grown⟩ := extended_ok exact encoded
      (reads _ (by simp [draftBodies, enrolled])) (fun item listed => (inside item listed).1)
    cases v3 : isV3 submission.request with
    | false =>
      refine ⟨longer, by simp [encoded, went, bind, Except.bind, pure, Except.pure], ?_⟩
      simp only [MAXIMUM_BODY]
      omega
    | true =>
      obtain ⟨format, formatted, short⟩ := limits.format v3
      have restores : Restores host (.obj (update decoded (enrolledItems submission.request))) := by
        refine reads _ ?_
        simp [draftBodies, enrolled, v3, encoded, loaded, Except.bind]
      obtain ⟨-, longest, -, -, last, -, fits⟩ := @extended_ok host _ _
        [("response_format", get submission.request "response_format")]
        (exactly_update (fun item listed => (inside item listed).2) same) again restores
        (by simpa using canonical_accepted.mp ⟨format, formatted⟩)
      refine ⟨longest, by simp [encoded, went, last, bind, Except.bind], ?_⟩
      have size := Rfc8785.dumps_spans host _ _ (canonical_ok.mp formatted)
      have key := spelled_keys "response_format" (by simp)
      simp only [added, List.map_cons, List.map_nil, List.sum_cons, List.sum_nil] at fits
      simp only [MAXIMUM_BODY]
      omega

end Body
/-- A contact that the child accepts. -/
structure Contact.Admissible (contact : Contact) : Prop where
  endpoint : contact.endpoint = text ENDPOINT
  body : contact.body.length ≤ MAXIMUM_BODY
  credential : contact.credential.Scalar ∧ contact.credential.length ≤ 8192
  timeout : 1 ≤ contact.timeoutSeconds ∧ contact.timeoutSeconds ≤ 300
  response : 1024 ≤ contact.maximumResponseBytes ∧ contact.maximumResponseBytes ≤ MAXIMUM_RESPONSE

section Exchange
open Rfc8785

private theorem base64_scalar (raw : Bytes) : Text.Scalar (Base64.encode raw) :=
  Base64.encode_all (by decide) (by decide) raw

private theorem spelled_names : ∀ key ∈ ["endpoint", "body", "credential", "timeout_seconds", "maximum_response_bytes", "kind",
    "status", "response"], spelled (text key) ≤ 30 := by
  decide

/-- A plain member of a dict is read back as it was written. -/
private theorem restored_get {decoded members : Members} (restored : Restored host (.obj decoded) (.obj members)) {key : String}
    {value : Json} (shape : get members key = value) (kept : plain value = true) : get decoded key = value :=
  shape ▸ (restored.get key).plain (shape ▸ kept)

/-- The envelope of an admissible contact passes the checks of the child, which reads the same contact from it. -/
theorem envelope_read {contact : Contact} (admissible : contact.Admissible) (restores : Restores host contact.envelope) :
    ∃ payload, canonical host contact.envelope = .ok payload ∧ payload.length ≤ MAXIMUM_ENVELOPE ∧
      readEnvelope host payload = .ok contact := by
  obtain ⟨endpoint, body, ⟨scalar, short⟩, timeout, response⟩ := admissible
  have safe : contact.timeoutSeconds.natAbs < 2 ^ 53 ∧ contact.maximumResponseBytes.natAbs < 2 ^ 53 := by
    simp only [MAXIMUM_RESPONSE] at response
    omega
  have literal (key : String) := Text.scalar_text key
  have written : Canonical contact.envelope := by
    simp only [Contact.envelope, object, List.map_cons, List.map_nil, Canonical, CanonicalMembers, literal, endpoint,
      base64_scalar, scalar, true_and, and_true]
    exact ⟨canonical_small safe.1, canonical_small safe.2⟩
  obtain ⟨payload, encoded⟩ := canonical_accepted.mpr written
  have length := dumps_spans host _ _ (canonical_ok.mp encoded)
  have names := spelled_names
  have one := spelled_le scalar
  have two := @extent_small host _ safe.1
  have three := @extent_small host _ safe.2
  have place : spelled (text ENDPOINT) ≤ 60 := by decide
  simp only [List.forall_mem_cons] at names
  simp only [Contact.envelope, object, List.map_cons, List.map_nil, extent, memberExtents, stretched, List.sum_cons,
    List.sum_nil, List.length_cons, List.length_nil, spelled_base64, endpoint] at length two three
  have fits : payload.length ≤ MAXIMUM_ENVELOPE := by
    simp only [MAXIMUM_BODY] at body
    simp only [MAXIMUM_ENVELOPE]
    omega
  obtain ⟨value, loaded, restored⟩ := restores payload (canonical_ok.mp encoded)
  obtain ⟨decoded, rfl⟩ := restored.members
  have place : get decoded "endpoint" = .str contact.endpoint := restored_get restored (by simp [get_object_cons]) rfl
  have content : get decoded "body" = .str (Base64.encode contact.body) := restored_get restored (by simp [get_object_cons]) rfl
  have secret : get decoded "credential" = .str contact.credential := restored_get restored (by simp [get_object_cons]) rfl
  have seconds : get decoded "timeout_seconds" = .int contact.timeoutSeconds :=
    restored_get restored (by simp [get_object_cons]) rfl
  have bound : get decoded "maximum_response_bytes" = .int contact.maximumResponseBytes :=
    restored_get restored (by simp [get_object_cons]) rfl
  have closes : closed decoded ["endpoint", "body", "credential", "timeout_seconds", "maximum_response_bytes"] = true :=
    restored.closed (by simp [closed, has, object, text_inj])
  have accepted : admissibleEnvelope decoded = true := by
    simp only [admissibleEnvelope, closes, place, content, secret, seconds, bound, endpoint, text?, Option.isSome_some,
      isBetween, Bool.and_eq_true, decide_eq_true_eq, is_iff, true_and, and_true]
    exact ⟨timeout, response⟩
  refine ⟨payload, encoded, fits, ?_⟩
  simp only [readEnvelope, if_neg (Nat.not_lt.mpr fits), loaded, accepted, if_true, place, content, secret, text?,
    Option.getD_some, Base64.decode?_encode, if_neg (Nat.not_lt.mpr body), int, seconds, bound]

/-- A bounded answer passes the parent's length check, and the parent reads the same answer from it. -/
theorem answer_read {status maximum : Int} {response : Bytes} (interoperable : intMin ≤ status ∧ status ≤ intMax)
    (bounded : (response.length : Int) ≤ maximum) (restores : Restores host (childResult (.ok (status, response)))) :
    ∃ output, canonical host (childResult (.ok (status, response))) = .ok output ∧
      (output.length : Int) ≤ maximum * 2 + 4096 ∧ readResult host maximum output = .ok (status, response) := by
  have literal (key : String) := Text.scalar_text key
  have safe : status.natAbs < 2 ^ 53 := by
    simp only [intMin, intMax] at interoperable
    omega
  have written : Canonical (childResult (.ok (status, response))) := by
    simp only [childResult, object, List.map_cons, List.map_nil, Canonical, CanonicalMembers, literal, base64_scalar,
      true_and, and_true]
    exact canonical_small safe
  obtain ⟨output, encoded⟩ := canonical_accepted.mpr written
  have length := dumps_spans host _ _ (canonical_ok.mp encoded)
  have names := spelled_names
  have one := @extent_small host _ safe
  simp only [List.forall_mem_cons] at names
  simp only [childResult, object, List.map_cons, List.map_nil, extent, memberExtents, stretched, List.sum_cons, List.sum_nil,
    List.length_cons, List.length_nil, spelled_base64] at length one
  obtain ⟨value, loaded, restored⟩ := restores output (canonical_ok.mp encoded)
  obtain ⟨decoded, rfl⟩ := restored.members
  have kind : get decoded "kind" = .str (text "response") := restored_get restored (by simp [get_object_cons]) rfl
  have code : get decoded "status" = .int status := restored_get restored (by simp [get_object_cons]) rfl
  have content : get decoded "body" = .str (Base64.encode response) := restored_get restored (by simp [get_object_cons]) rfl
  have closes : closed decoded ["kind", "status", "body"] = true := restored.closed (by simp [closed, has, object, text_inj])
  have other : is (.str (text "response")) "error" = false := by decide
  have same : is (.str (text "response")) "response" = true := by decide
  refine ⟨output, encoded, by omega, ?_⟩
  simp only [readResult, loaded, kind, other, same, closes, Bool.false_eq_true, if_false, Bool.and_self, if_true, code, content,
    Base64.decode?_encode]
  rw [if_neg (by omega)]

end Exchange
/-- Everything that is written and read back for one contact. -/
def exchanged (submission : Submission host) (credential : Text) (status : Int) (response : Bytes) : List Json :=
  draftBodies submission ++ [childResult (.ok (status, response))] ++ match requestBody host submission with
    | .ok body => [(submission.contact body credential).envelope]
    | .error _ => []

/-- The child reads the contact it is sent, and the parent returns the answer it was given. -/
structure Transparent (host : Host) (contact : Contact) (transport : Contact → Except ClassName (Int × Bytes)) (status : Int)
    (response : Bytes) : Prop where
  sent : ∃ payload, canonical host contact.envelope = .ok payload ∧ payload.length ≤ MAXIMUM_ENVELOPE ∧
    readEnvelope host payload = .ok contact ∧ ∃ output, httpTransportChild host transport payload = .ok output ∧
      (output.length : Int) ≤ contact.maximumResponseBytes * 2 + 4096
  returned : isolatedHttpTransport host (httpTransportChild host transport) none contact = .ok (status, response)

/-- So it is for every admitted submission, usable credential and bounded answer whose status the canonicaliser can write. -/
theorem isolated_transport_transparent {submission : Submission host} {credential : Text}
    {transport : Contact → Except ClassName (Int × Bytes)} {status : Int} {response : Bytes}
    (accepted : usable credential = true) (scalar : credential.Scalar)
    (interoperable : Rfc8785.intMin ≤ status ∧ status ≤ Rfc8785.intMax)
    (bounded : response.length ≤ int submission.request "maximum_response_bytes")
    (answers : ∀ body, requestBody host submission = .ok body →
      transport (submission.contact body credential) = .ok (status, response))
    (decoder : ∀ value ∈ exchanged submission credential status response, Restores host value) :
    ∃ body, requestBody host submission = .ok body ∧
      Transparent host (submission.contact body credential) transport status response := by
  obtain ⟨body, built, small⟩ := body_built submission fun value listed =>
    decoder value (by simp only [exchanged, List.mem_append]; exact Or.inl (Or.inl listed))
  have limits := submission.limits
  have admissible : (submission.contact body credential).Admissible := by
    simp only [usable, Bool.and_eq_true, decide_eq_true_eq] at accepted
    exact ⟨rfl, small, ⟨scalar, accepted.2⟩, (int_of_isBetween limits.timeout).2, (int_of_isBetween limits.response).2⟩
  obtain ⟨payload, encoded, fits, read⟩ := envelope_read admissible (decoder _ (by simp [exchanged, built]))
  obtain ⟨output, written, short, back⟩ := answer_read interoperable bounded (decoder _ (by simp [exchanged]))
  have child : httpTransportChild host transport payload = .ok output := by
    simp [httpTransportChild, read, answers body built, written, bind, Except.bind]
  refine ⟨body, built, ⟨payload, encoded, fits, read, output, child, short⟩, ?_⟩
  simp only [isolatedHttpTransport, encoded, child]
  rw [if_neg (by simpa [Submission.contact] using short)]
  exact back

def sampleContact : Contact := ⟨text ENDPOINT, (requestBody sampleHost sampleSubmission).toOption.getD [], text "k", 60, 4096⟩

/-- The sample host, which now also decodes one envelope and one answer. -/
def exchangeHost : Host := { sampleHost with
  loads := fun raw => match [sampleContact.envelope, childResult (.ok (200, ascii "ok"))].find? fun value =>
      (Rfc8785.dumps sampleHost value).toOption == some raw with
    | some value => .ok value
    | none => sampleHost.loads raw }

def exchangeSubmission : Submission exchangeHost where
  request := sampleRequest
  admittedInput := ascii "hi"
  ownerBinding := sampleBinding
  requestKeys := sampleSubmission.requestKeys
  bindingKeys := sampleSubmission.bindingKeys
  accepted := by decide +kernel

theorem isolated_transport_transparent_sample : ∃ body, requestBody exchangeHost exchangeSubmission = .ok body ∧
    Transparent exchangeHost (exchangeSubmission.contact body (text "k")) (fun _ => .ok (200, ascii "ok")) 200 (ascii "ok") := by
  have bounded : ((ascii "ok").length : Int) ≤ int exchangeSubmission.request "maximum_response_bytes" := by decide
  refine isolated_transport_transparent (by decide) (by decide) (by decide) bounded (fun _ _ => rfl) ?_
  exact restores_checked (by decide +kernel) (by decide +kernel)

/-- An answer whose status the canonicaliser refuses to write is lost. -/
theorem isolated_transport_status : ∃ body, requestBody exchangeHost exchangeSubmission = .ok body ∧
    (isolatedHttpTransport exchangeHost (httpTransportChild exchangeHost fun _ => .ok (2 ^ 53, [])) none
      (exchangeSubmission.contact body (text "k"))).toOption = none := by
  have built : (requestBody exchangeHost exchangeSubmission).toOption = some sampleContact.body := by decide +kernel
  have lost : (isolatedHttpTransport exchangeHost (httpTransportChild exchangeHost fun _ => .ok (2 ^ 53, [])) none
      (exchangeSubmission.contact sampleContact.body (text "k"))).toOption = none := by decide +kernel
  cases made : requestBody exchangeHost exchangeSubmission with
  | error failure =>
    rw [made] at built
    cases built
  | ok body =>
    rw [made] at built
    obtain rfl := Option.some.inj built
    exact ⟨_, rfl, lost⟩

end Switchyard.DirectApi
