import Switchyard.Submission.Packet

/-! The two digests of a packet: the submission protocol strips a copy of the packet,
and the adapter strips what it reads back of the packet's canonical form. -/

namespace Switchyard
open Library Json

theorem distinct_obj_iff {members : Members} : Distinct (.obj members) ↔
    (members.map Prod.fst).Nodup ∧ ∀ member ∈ members, Distinct member.2 := by
  have each : DistinctMembers members ↔ ∀ member ∈ members, Distinct member.2 := by
    induction members with
    | nil => simp [DistinctMembers]
    | cons member rest ih => simp [DistinctMembers, ih]
  rw [Distinct, each]

/-- Dicts that are equal, also in where they have booleans. -/
structure Matches (first last : Members) : Prop where
  left : Distinct (.obj first)
  right : Distinct (.obj last)
  same : equal (.obj first) (.obj last) = true
  alikes : alike (.obj first) (.obj last) = true

namespace Matches

variable {first last : Members}

theorem of_lookup (left : Distinct (.obj first)) (right : Distinct (.obj last))
    (present : ∀ key, (first.lookup key).isSome = (last.lookup key).isSome)
    (values : ∀ key one two, first.lookup key = some one → last.lookup key = some two → equal one two = true ∧ alike one two = true) :
    Matches first last where
  left := left
  right := right
  same := by
    refine equal_obj.mpr ⟨fun key found => by rwa [present], fun key one found => ?_⟩
    obtain ⟨two, visible⟩ := Option.isSome_iff_exists.mp ((present key).symm.trans (by rw [found]; rfl))
    exact ⟨two, visible, (values key one two found visible).1⟩
  alikes := by
    rw [alike, alikeMembers_iff]
    intro member listed found visible
    exact (values member.1 member.2 found (lookup_of_mem left.1 listed) visible).2

theorem present (matching : Matches first last) (key : Text) : (first.lookup key).isSome = (last.lookup key).isSome := by
  obtain ⟨keys, values⟩ := equal_obj.mp matching.same
  refine Bool.eq_iff_iff.mpr ⟨fun some => ?_, keys key⟩
  obtain ⟨one, found⟩ := Option.isSome_iff_exists.mp some
  obtain ⟨two, visible, -⟩ := values key one found
  rw [visible]
  rfl

theorem values (matching : Matches first last) {key : Text} {one two : Json} (found : first.lookup key = some one)
    (visible : last.lookup key = some two) : equal one two = true ∧ alike one two = true := by
  obtain ⟨-, values⟩ := equal_obj.mp matching.same
  obtain ⟨other, seen, same⟩ := values key one found
  cases seen.symm.trans visible
  have alikes := matching.alikes
  rw [alike, alikeMembers_iff] at alikes
  exact ⟨same, alikes (key, one) (mem_of_lookup found) two visible⟩

theorem without (matching : Matches first last) (field : String) :
    Matches (Nightshift.without first field) (Nightshift.without last field) := by
  have kept {members : Members} (distinct : Distinct (.obj members)) : Distinct (.obj (Nightshift.without members field)) := by
    obtain ⟨keys, each⟩ := distinct_obj_iff.mp distinct
    exact distinct_obj_iff.mpr ⟨keys.sublist (List.filter_sublist.map Prod.fst), fun member listed => each member (List.mem_of_mem_filter listed)⟩
  refine of_lookup (kept matching.left) (kept matching.right) (fun key => ?_) fun key one two found visible => ?_
  · unfold Nightshift.without
    rw [lookup_without, lookup_without]
    split
    · rfl
    · exact matching.present key
  · unfold Nightshift.without at found visible
    rw [lookup_without] at found visible
    split at found
    · cases found
    next other =>
      rw [if_neg other] at visible
      exact matching.values found visible

theorem set (matching : Matches first last) (key : String) {one two : Members} (inner : Matches one two) :
    Matches (Json.set first key (.obj one)) (Json.set last key (.obj two)) := by
  have kept {members : Members} {value : Json} (distinct : Distinct (.obj members)) (fresh : Distinct value) :
      Distinct (.obj (Json.set members key value)) := by
    obtain ⟨keys, each⟩ := distinct_obj_iff.mp distinct
    refine distinct_obj_iff.mpr ?_
    unfold Json.set
    split
    next =>
      refine ⟨?_, fun member listed => ?_⟩
      · have same : (members.map fun member => if member.1 == text key then (member.1, value) else member).map Prod.fst =
            members.map Prod.fst := by
          rw [List.map_map]
          refine List.map_congr_left fun member _ => ?_
          dsimp only [Function.comp]
          split <;> rfl
        rwa [same]
      · obtain ⟨other, inside, rfl⟩ := List.mem_map.mp listed
        split
        · exact fresh
        · exact each other inside
    next absent =>
      refine ⟨?_, fun member listed => ?_⟩
      · rw [List.map_append, List.nodup_append]
        refine ⟨keys, List.nodup_singleton _, ?_⟩
        rintro name listed _ single rfl
        obtain rfl := List.mem_singleton.mp single
        obtain ⟨member, inside, named⟩ := List.mem_map.mp listed
        have found := lookup_of_mem keys inside
        rw [named] at found
        exact absent (by rw [has, found]; rfl)
      · rcases List.mem_append.mp listed with inside | single
        · exact each member inside
        · obtain rfl := List.mem_singleton.mp single
          exact fresh
  refine of_lookup (kept matching.left inner.left) (kept matching.right inner.right) (fun name => ?_) fun name here there found visible => ?_
  · rw [lookup_set, lookup_set]
    split
    · rfl
    · exact matching.present name
  · rw [lookup_set] at found visible
    split at found
    next named =>
      rw [if_pos named] at visible
      cases found
      cases visible
      exact ⟨inner.same, inner.alikes⟩
    next other =>
      rw [if_neg other] at visible
      exact matching.values found visible

end Matches
namespace Submission

variable {host : Host} {unicode : Nightshift.Unicode} {readers : Readers}

/-- The decoder takes UTF-8 for the text it encodes. -/
def SameBytes (host : Host) : Prop :=
  ∀ value raw decoded, Text.encode? value = some raw → host.loadsUniqueText value = .ok decoded → host.loadsUnique raw = .ok decoded

/-- The canonical form of this dict is read back as an equal dict, with booleans where it has booleans. -/
def ReadsBack (host : Host) (members : Members) : Prop :=
  ∀ raw decoded, Rfc8785.dumps host (.obj members) = .ok raw → host.loadsUnique raw = .ok decoded →
    equal decoded (.obj members) = true ∧ alike decoded (.obj members) = true

theorem canonicalJson_ok {value : Json} {content : Text} (done : canonicalJson host value = .ok content) :
    ∃ raw, Rfc8785.dumps host value = .ok raw ∧ Text.decode? raw = some content := by
  unfold canonicalJson at done
  split at done
  next raw dumped =>
    split at done
    next found decoded =>
      cases done
      exact ⟨raw, dumped, decoded⟩
    next => cases done
  next => cases done
  next => cases done

theorem encoded_ok {value : Text} {raw : Bytes} : encoded value = .ok raw ↔ Text.encode? value = some raw := by
  unfold encoded
  split <;> simp_all

theorem nightshiftPreimageObj_ok {packet preimage : Members} (done : nightshiftPreimageObj host packet = .ok preimage) :
    host.copies packet = true ∧ preimage = stripped packet := by
  unfold nightshiftPreimageObj at done
  split at done
  next copies =>
    cases done
    exact ⟨copies, rfl⟩
  next => cases done

/-- What is digested are the canonical bytes of a copy. -/
theorem nightshiftPreimageDigest_ok {packet : Members} {digest : Text} (done : nightshiftPreimageDigest host packet = .ok digest) :
    host.copies packet = true ∧ ∃ raw, Rfc8785.dumps host (.obj (stripped packet)) = .ok raw ∧
      digest = Text.hex (host.sha256 (NIGHTSHIFT_PACKET_DIGEST_DOMAIN_V1 ++ raw)).val := by
  obtain ⟨preimage, copied, done⟩ := bind_ok.mp done
  obtain ⟨copies, rfl⟩ := nightshiftPreimageObj_ok copied
  obtain ⟨content, spelled, done⟩ := bind_ok.mp done
  obtain ⟨raw, encodes, done⟩ := bind_ok.mp done
  obtain ⟨bytes, dumped, decoded⟩ := canonicalJson_ok spelled
  obtain rfl : bytes = raw := Option.some.inj ((Text.encode?_of_decode? decoded).symm.trans (encoded_ok.mp encodes))
  cases done
  exact ⟨copies, _, dumped, rfl⟩

theorem canonicalJson_of (plain : Plain host) {value : Json} {raw : Bytes} (dumped : Rfc8785.dumps host value = .ok raw) :
    ∃ content, canonicalJson host value = .ok content ∧ Text.encode? content = some raw := by
  obtain ⟨content, encodes⟩ := dumps_encodes plain _ _ dumped
  refine ⟨content, ?_, encodes⟩
  unfold canonicalJson
  rw [dumped]
  dsimp only
  rw [Text.decode?_of_encode? encodes]

theorem nightshiftPreimageDigest_of (plain : Plain host) {packet : Members} {raw : Bytes} (copies : host.copies packet = true)
    (dumped : Rfc8785.dumps host (.obj (stripped packet)) = .ok raw) :
    nightshiftPreimageDigest host packet = .ok (Text.hex (host.sha256 (NIGHTSHIFT_PACKET_DIGEST_DOMAIN_V1 ++ raw)).val) := by
  obtain ⟨content, spelled, encodes⟩ := canonicalJson_of plain dumped
  exact bind_ok.mpr ⟨stripped packet, if_pos copies,
    bind_ok.mpr ⟨content, spelled, bind_ok.mpr ⟨raw, encoded_ok.mpr encodes, rfl⟩⟩⟩

/-- The adapter strips what it read back as the protocol strips a copy. -/
theorem packetPreimage_ok {packet preimage : Members} : Nightshift.packetPreimage packet = .ok preimage ↔
    preimage = stripped packet ∧ ∃ switchyard, get packet "switchyard" = .obj switchyard := by
  have kept : get (Nightshift.without packet "packet_digest") "switchyard" = get packet "switchyard" := by
    unfold Nightshift.without Json.get
    rw [lookup_without, if_neg (by rw [text_inj]; decide)]
  unfold Nightshift.packetPreimage stripped
  dsimp only
  rw [kept]
  cases get packet "switchyard" <;> simp [eq_comm]

theorem lookup_of_get {members inner : Members} {key : String} (found : get members key = .obj inner) :
    members.lookup (text key) = some (.obj inner) := by
  unfold Json.get at found
  cases seen : members.lookup (text key) with
  | none =>
    rw [seen] at found
    cases found
  | some value =>
    rw [seen, Option.getD_some] at found
    rw [found]

theorem get_of_lookup {members : Members} {key : String} {value : Json} (found : members.lookup (text key) = some value) :
    get members key = value := by
  rw [Json.get, found, Option.getD_some]

theorem equal_obj_right {value : Json} {members : Members} (same : equal value (.obj members) = true) : ∃ other, value = .obj other :=
  Nightshift.equal_obj_left (equal_symm _ _ same)

/-- What matching dicts have under a key that holds a dict matches. -/
theorem inner_matches {first last inner : Members} (matching : Matches first last) {key : String} (there : get last key = .obj inner) :
    ∃ other, get first key = .obj other ∧ Matches other inner := by
  have visible := lookup_of_get there
  obtain ⟨value, found⟩ := Option.isSome_iff_exists.mp ((matching.present (text key)).trans (by rw [visible]; rfl))
  obtain ⟨same, alikes⟩ := matching.values found visible
  obtain ⟨other, rfl⟩ := equal_obj_right same
  have left := (distinct_obj_iff.mp matching.left).2 _ (mem_of_lookup found)
  have right := (distinct_obj_iff.mp matching.right).2 _ (mem_of_lookup visible)
  exact ⟨other, get_of_lookup found, left, right, same, alikes⟩

theorem strip_of {packet switchyard : Members} (there : get packet "switchyard" = .obj switchyard) : stripped packet =
    Json.set (Nightshift.without packet "packet_digest") "switchyard" (.obj (Nightshift.without switchyard "plan_ref")) := by
  have kept : get (Nightshift.without packet "packet_digest") "switchyard" = get packet "switchyard" := by
    unfold Nightshift.without Json.get
    rw [lookup_without, if_neg (by rw [text_inj]; decide)]
  unfold stripped
  dsimp only
  rw [kept, there]

theorem strip_matches {first last switchyard : Members} (matching : Matches first last) (there : get last "switchyard" = .obj switchyard) :
    Matches (stripped first) (stripped last) := by
  obtain ⟨other, here, inner⟩ := inner_matches matching there
  rw [strip_of here, strip_of there]
  exact (matching.without "packet_digest").set "switchyard" (inner.without "plan_ref")

theorem canonical_without {packet : Members} (canonical : Rfc8785.Canonical (.obj packet)) (field : String) :
    Rfc8785.Canonical (.obj (Nightshift.without packet field)) :=
  Rfc8785.canonicalMembers_iff.mpr fun member listed => Rfc8785.canonicalMembers_iff.mp canonical member (List.mem_of_mem_filter listed)

theorem strip_canonical {packet switchyard : Members} (canonical : Rfc8785.Canonical (.obj packet))
    (there : get packet "switchyard" = .obj switchyard) : Rfc8785.Canonical (.obj (stripped packet)) := by
  have inner := Rfc8785.canonical_get canonical "switchyard"
  rw [there] at inner
  rw [strip_of there]
  exact Rfc8785.canonical_set (canonical_without canonical "packet_digest") (canonical_without inner "plan_ref")

/-- The hexadecimal digits of a digest. -/
theorem hex_digits (digest : { raw : Bytes // raw.length = 32 }) : (Text.hex digest.val).length = 64 ∧
    ∀ point ∈ Text.hex digest.val, 48 ≤ point.val ∧ point.val ≤ 57 ∨ 97 ≤ point.val ∧ point.val ≤ 102 := by
  have length (raw : Bytes) : (Text.hex raw).length = 2 * raw.length := by
    unfold Text.hex
    rw [List.length_flatMap]
    simp [Nat.mul_comm]
  have digit : ∀ value < 16, 48 ≤ (Text.hexDigit value).val ∧ (Text.hexDigit value).val ≤ 57 ∨
      97 ≤ (Text.hexDigit value).val ∧ (Text.hexDigit value).val ≤ 102 := by decide
  refine ⟨by rw [length, digest.property], fun point listed => ?_⟩
  obtain ⟨byte, -, inside⟩ := List.mem_flatMap.mp listed
  have bound := byte.toNat_lt
  simp only [List.mem_cons, List.not_mem_nil, or_false] at inside
  rcases inside with rfl | rfl
  · exact digit _ (by omega)
  · exact digit _ (by omega)

/-- Lower case digits are in lower case. -/
theorem lower_digits {value : Text} (digits : ∀ point ∈ value, 48 ≤ point.val ∧ point.val ≤ 57 ∨ 97 ≤ point.val ∧ point.val ≤ 102) :
    unicode.lower value = value := by
  rw [unicode.lowerAscii value fun point listed => by have := digits point listed; omega]
  conv_rhs => rw [← List.map_id value]
  refine List.map_congr_left fun point listed => ?_
  have := digits point listed
  unfold Nightshift.lowered
  rw [if_neg (by omega)]
  rfl

theorem hexadecimal_iff {value : Text} {length : Nat} : Runner.hexadecimal (.str value) length = true ↔ value.length = length ∧
    ∀ point ∈ value, 48 ≤ point.val ∧ point.val ≤ 57 ∨ 97 ≤ point.val ∧ point.val ≤ 102 := by
  simp [Runner.hexadecimal]

theorem requiredDigest_ok {value digest : Text} (done : requiredDigest unicode value = .ok digest) :
    digest = unicode.lower value ∧ Runner.hexadecimal (.str digest) 64 = true := by
  unfold requiredDigest at done
  split at done
  next digits =>
    cases done
    exact ⟨rfl, digits⟩
  next => cases done

theorem nightshiftPlanRef_of {digest : Text} (digits : Runner.hexadecimal (.str digest) 64 = true) :
    nightshiftPlanRef unicode digest = .ok (PLAN_REF_PREFIX ++ digest) := by
  have same : unicode.lower digest = digest := lower_digits (hexadecimal_iff.mp digits).2
  refine bind_ok.mpr ⟨digest, ?_, rfl⟩
  rw [requiredDigest, same, if_pos digits]

/-- The protocol finds the expected digest in a packet, and the plan reference that goes with it. -/
def Digested (host : Host) (unicode : Nightshift.Unicode) (packet : Members) (expected : Text) : Prop :=
  ∃ digest switchyard planRef, expected = text "sha256:" ++ digest ∧ nightshiftPreimageDigest host packet = .ok digest ∧
    get packet "switchyard" = .obj switchyard ∧ get switchyard "plan_ref" = .str planRef ∧
    nightshiftPlanRef unicode digest = .ok planRef

/-- Agreement of the two implementations. The adapter accepts what the protocol accepts, under the packet's own digest.
What the adapter accepts under a digest has that digest by the protocol where the protocol can copy the packet, and
only there: the adapter reads back the canonical form and needs no copy. -/
structure PacketDigestsAgree (host : Host) (unicode : Nightshift.Unicode) (readers : Readers) : Prop where
  accepted : ∀ value packet, fromJson host unicode readers value = .ok packet →
    ∃ expected, get packet.packetObj "packet_digest" = .str expected ∧
      Nightshift.verifyPacketDigest host packet.packetObj expected = .ok ()
  verified : ∀ packet expected, Distinct (.obj packet) → ReadsBack host packet →
    Nightshift.verifyPacketDigest host packet expected = .ok () →
    (Digested host unicode packet expected ↔ host.copies packet = true)

theorem digestHex_of (digest : Text) : Nightshift.digestHex (text "sha256:" ++ digest) = digest := by
  have length : (text "sha256:").length = 7 := by decide
  unfold Nightshift.digestHex
  rw [if_pos (by rw [← length, List.take_left]), ← length, List.drop_left]

/-- What `_verify_packet_digest` has found of a packet that it accepts. -/
structure Verified (host : Host) (packet : Members) (expected : Text) (raw bytes : Bytes) (copy inner switchyard : Members) : Prop where
  schema : is (get packet "schema") "nightshift.orientation-packet/v1" = true
  named : get packet "packet_digest" = .str expected
  dumped : Rfc8785.dumps host (.obj packet) = .ok raw
  loaded : host.loadsUnique raw = .ok (.obj copy)
  copied : get copy "switchyard" = .obj inner
  spelled : Rfc8785.dumps host (.obj (stripped copy)) = .ok bytes
  digest : host.digest (NIGHTSHIFT_PACKET_DIGEST_DOMAIN_V1 ++ bytes) = expected
  record : get packet "switchyard" = .obj switchyard
  planRef : get switchyard "plan_ref" = .str (PLAN_REF_PREFIX ++ Nightshift.digestHex expected)

theorem verifyPacketDigest_ok {packet : Members} {expected : Text} : Nightshift.verifyPacketDigest host packet expected = .ok () ↔
    ∃ raw bytes copy inner switchyard, Verified host packet expected raw bytes copy inner switchyard := by
  constructor
  · intro verified
    obtain ⟨_, schema, done⟩ := bind_ok.mp verified
    obtain ⟨_, named, done⟩ := bind_ok.mp done
    obtain ⟨raw, dumped, done⟩ := bind_ok.mp done
    obtain ⟨decoded, loaded, done⟩ := bind_ok.mp done
    cases decoded with
    | obj copy =>
      obtain ⟨preimage, left, done⟩ := bind_ok.mp done
      obtain ⟨found, digested, done⟩ := bind_ok.mp done
      obtain ⟨rfl, inner, here⟩ := packetPreimage_ok.mp left
      obtain ⟨bytes, spelled, made⟩ := bind_ok.mp digested
      cases made
      obtain ⟨_, same, done⟩ := bind_ok.mp done
      cases there : get packet "switchyard" with
      | obj switchyard =>
        rw [there] at done
        exact ⟨raw, bytes, copy, inner, switchyard, Nightshift.demand_ok.mp schema, equal_text.mp (Nightshift.demand_ok.mp named),
          Nightshift.canonical_ok.mp dumped, Nightshift.loadsUnique_ok.mp loaded, here, Nightshift.canonical_ok.mp spelled,
          beq_iff_eq.mp (Nightshift.demand_ok.mp same), there, equal_text.mp (Nightshift.demand_ok.mp done)⟩
      | _ =>
        rw [there] at done
        cases done
    | _ => cases done
  · rintro ⟨raw, bytes, copy, inner, switchyard, found⟩
    refine bind_ok.mpr ⟨(), Nightshift.demand_ok.mpr found.schema, bind_ok.mpr ⟨(), Nightshift.demand_ok.mpr (equal_text.mpr found.named),
      bind_ok.mpr ⟨raw, Nightshift.canonical_ok.mpr found.dumped, bind_ok.mpr ⟨.obj copy, Nightshift.loadsUnique_ok.mpr found.loaded, ?_⟩⟩⟩⟩
    refine bind_ok.mpr ⟨_, packetPreimage_ok.mpr ⟨rfl, inner, found.copied⟩,
      bind_ok.mpr ⟨_, bind_ok.mpr ⟨bytes, Nightshift.canonical_ok.mpr found.spelled, rfl⟩, bind_ok.mpr ⟨(), ?_, ?_⟩⟩⟩
    · exact Nightshift.demand_ok.mpr (beq_iff_eq.mpr found.digest)
    · rw [found.record]
      exact Nightshift.demand_ok.mpr (equal_text.mpr found.planRef)

/-- What the adapter accepts, and the protocol copies, has its digest by the protocol. -/
theorem verified_agrees (faithful : Nightshift.Faithful host) (plain : Plain host) {packet : Members} {expected : Text}
    (distinct : Distinct (.obj packet)) (reads : ReadsBack host packet) (copies : host.copies packet = true)
    (verified : Nightshift.verifyPacketDigest host packet expected = .ok ()) : Digested host unicode packet expected := by
  have canonical := Nightshift.verifyPacketDigest_canonical verified
  obtain ⟨raw, bytes, copy, inner, switchyard, found⟩ := verifyPacketDigest_ok.mp verified
  obtain ⟨equals, alikes⟩ := reads raw _ found.dumped found.loaded
  have strips := strip_matches ⟨faithful.distinct _ _ found.loaded, distinct, equals, alikes⟩ found.record
  obtain ⟨again, respelled⟩ := (Rfc8785.dumps_accepted host _).mpr (strip_canonical canonical found.record)
  obtain rfl : bytes = again :=
    ((told faithful.numbers _ _ strips.left strips.right strips.same bytes again found.spelled respelled).1).mpr strips.alikes
  have digits := hex_digits (host.sha256 (NIGHTSHIFT_PACKET_DIGEST_DOMAIN_V1 ++ bytes))
  have named := found.planRef
  rw [← found.digest, Host.digest, digestHex_of] at named
  exact ⟨_, switchyard, _, found.digest.symm, nightshiftPreimageDigest_of plain copies respelled, found.record, named,
    nightshiftPlanRef_of (hexadecimal_iff.mpr digits)⟩

/-- A digest that the schema accepts and the protocol reads is in lower case. -/
theorem digest_spelled {packet : Members} (checked : readers.violation packet = none) {suffix digest : Text}
    (read : digestSuffix (get packet "packet_digest") = .ok suffix) (required : requiredDigest unicode suffix = .ok digest) :
    get packet "packet_digest" = .str (text "sha256:" ++ digest) ∧ Runner.hexadecimal (.str digest) 64 = true := by
  obtain ⟨rfl, digits⟩ := requiredDigest_ok required
  obtain ⟨value, named, spelled⟩ := readers.digest packet checked
  rw [named, digestSuffix] at read
  split at read
  next leading =>
    cases read
    rcases spelled with plain | ⟨head, rfl, plain⟩
    · simp only [Runner.sha256Identity, Bool.and_eq_true, beq_iff_eq] at plain
      have same : unicode.lower (value.drop 7) = value.drop 7 := lower_digits (hexadecimal_iff.mp plain.2).2
      rw [same, named, ← plain.1, List.take_append_drop]
      exact ⟨rfl, plain.2⟩
    · -- a line feed would be a digit too many
      simp only [Runner.sha256Identity, Bool.and_eq_true, beq_iff_eq] at plain
      obtain ⟨length, each⟩ := hexadecimal_iff.mp plain.2
      have enough : 7 ≤ head.length := by
        rw [List.length_drop] at length
        omega
      have ascii : Runner.Ascii ((head ++ [10]).drop 7) := by
        intro point listed
        rw [List.drop_append_of_le_length enough, List.mem_append, List.mem_singleton] at listed
        rcases listed with listed | rfl
        · have := each point listed
          omega
        · decide
      have whole := (hexadecimal_iff.mp digits).1
      rw [unicode.lowerAscii _ ascii, List.length_map, List.drop_append_of_le_length enough, List.length_append, length] at whole
      cases whole
  next => cases read

theorem member_ok {members : Members} {key : String} {value : Json} (found : member members key = .ok value) : get members key = value := by
  unfold member at found
  split at found
  next seen =>
    cases found
    exact get_of_lookup seen
  next => cases found

theorem validateNightshiftSchema_ok {packet : Members} (done : validateNightshiftSchema readers packet = .ok ()) :
    readers.violation packet = none := by
  unfold validateNightshiftSchema at done
  split at done
  next none => exact none
  next => cases done

theorem loadsPacket_ok {value : Text} {parsed : Json} (done : loadsPacket host value = .ok parsed) :
    host.loadsUniqueText value = .ok parsed := by
  unfold loadsPacket at done
  split at done
  next loaded =>
    cases done
    exact loaded
  all_goals cases done

/-- The adapter accepts what the protocol accepts. -/
theorem accepted_agrees (bytes : SameBytes host) {value : Text} {packet : NightshiftPacket}
    (accepted : fromJson host unicode readers value = .ok packet) :
    ∃ expected, get packet.packetObj "packet_digest" = .str expected ∧
      Nightshift.verifyPacketDigest host packet.packetObj expected = .ok () := by
  obtain ⟨size, sized, done⟩ := bind_ok.mp accepted
  obtain ⟨_, -, done⟩ := bind_ok.mp done
  obtain ⟨parsed, loaded, done⟩ := bind_ok.mp done
  cases parsed with
  | obj packetObj =>
    obtain ⟨again, spelled, done⟩ := bind_ok.mp done
    obtain ⟨_, same, done⟩ := bind_ok.mp done
    obtain ⟨_, schema, done⟩ := bind_ok.mp done
    obtain ⟨_, semantics, done⟩ := bind_ok.mp done
    obtain ⟨createdAt, -, done⟩ := bind_ok.mp done
    obtain ⟨currentUntil, -, done⟩ := bind_ok.mp done
    obtain ⟨suffix, read, done⟩ := bind_ok.mp done
    obtain ⟨digest, required, done⟩ := bind_ok.mp done
    obtain ⟨recomputed, digested, done⟩ := bind_ok.mp done
    obtain ⟨_, agrees, done⟩ := bind_ok.mp done
    obtain ⟨switchyardValue, held, done⟩ := bind_ok.mp done
    obtain ⟨switchyard, dict, done⟩ := bind_ok.mp done
    obtain ⟨observed, seen, done⟩ := bind_ok.mp done
    obtain ⟨planRef, expected, done⟩ := bind_ok.mp done
    obtain ⟨_, matched, done⟩ := bind_ok.mp done
    obtain ⟨aliasName, -, done⟩ := bind_ok.mp done
    cases done
    obtain ⟨_, checks, -⟩ := bind_ok.mp semantics
    obtain ⟨schemaValue, named, rest⟩ := bind_ok.mp checks
    obtain ⟨_, rightSchema, -⟩ := bind_ok.mp rest
    obtain ⟨raw, dumped, decoded⟩ := canonicalJson_ok spelled
    obtain ⟨-, preimage, canonical, rfl⟩ := nightshiftPreimageDigest_ok digested
    rw [demand_ok, beq_iff_eq] at same agrees
    subst same
    obtain ⟨own, digits⟩ := digest_spelled (validateNightshiftSchema_ok schema) read required
    cases switchyardValue with
    | obj record =>
      cases dict
      have there := member_ok held
      refine ⟨_, own, verifyPacketDigest_ok.mpr ⟨raw, preimage, packetObj, switchyard, switchyard, ?_⟩⟩
      cases (nightshiftPlanRef_of digits).symm.trans expected
      exact ⟨member_ok named ▸ demand_ok.mp rightSchema, own, dumped,
        bytes _ raw _ (Text.encode?_of_decode? decoded) (loadsPacket_ok loaded), there, canonical, by rw [agrees, Host.digest], there,
        by rw [digestHex_of, member_ok seen]; exact equal_text.mp (demand_ok.mp matched)⟩
    | _ => cases dict
  | _ => cases done

theorem digested_copies {packet : Members} {expected : Text} (digested : Digested host unicode packet expected) :
    host.copies packet = true := by
  obtain ⟨_, _, _, -, found, -⟩ := digested
  exact (nightshiftPreimageDigest_ok found).1

theorem packet_digests_agree (faithful : Nightshift.Faithful host) (plain : Plain host) (bytes : SameBytes host) :
    PacketDigestsAgree host unicode readers where
  accepted _ _ := accepted_agrees bytes
  verified _ _ distinct reads verified :=
    ⟨digested_copies, fun copies => verified_agrees faithful plain distinct reads copies verified⟩

/-! A packet of two work items, one that nests six hundred lists, and a host that knows both. -/

def words (values : List String) : Json := .arr (values.map fun value => .str (text value))

def sampleCommit : Text := text "9bdaae8587a2d6419c12d83ed136a4ee7da0a048"

def samplePlan : Text := text "sha256:64879f7d6b960a01909762d911a32d4582c20010c5641ee90278b644a9e3b525"

def sampleItem (id codename canonicalSlug : String) (dependencies : List String) (exactWorkRefs lineage : List Json) : Json :=
  .obj (object [
    ("acceptance_tests", words ["docs build"]),
    ("allowed_mutation_surfaces", words ["docs/"]),
    ("campaign", .obj (object [("canonical_slug", .str (text canonicalSlug)), ("codename", .str (text codename))])),
    ("closeout_requirements", words ["push"]),
    ("dependencies", words dependencies),
    ("entry_predicates", words ["branch exists"]),
    ("exact_work_refs", .arr exactWorkRefs),
    ("expected_receipts", words ["commit"]),
    ("forbidden_actions", words ["merge"]),
    ("id", .str (text id)),
    ("model_routing", .obj (object [("class", .str (text "small")), ("maximum_mutating_workers", .int 1),
      ("reason", .str (text "text only"))])),
    ("predecessor_lineage", .arr lineage),
    ("stop_conditions", words ["docs build fails"]),
    ("track", .str (text "docs"))])

def sampleAgreed : Members := object [
  ("authoring", .obj (object [("agent", .str (text "foreman")), ("authority_basis", .str (text "operator request")),
    ("session", .str (text "docs"))])),
  ("canonicalization", .obj CANONICALIZATION),
  ("created_at", .str (text "2026-01-01T00:00:00Z")),
  ("current_until", .str (text "2026-01-02T00:00:00Z")),
  ("global_constraints", .obj (object [("allowed_actions", words ["edit docs"]), ("forbidden_actions", words ["merge"]),
    ("invariants", words ["This packet is non-authorizing."])])),
  ("human_question_criteria", words ["unavailable secret"]),
  ("packet_digest", .str (text "sha256:62b7a688a418e137a30277b663f07dadb73e10c52c812bec01b0fd7916ff92a9")),
  ("packet_id", .str (text "docs-refresh")),
  ("repository_custody", .arr [.obj (object [("branch", .str (text "main")), ("commit", .str sampleCommit),
    ("discrepancy", .null), ("path", .str (text "/data/switchyard")), ("remote", .null), ("remote_commit", .null),
    ("repository", .str (text "switchyard")), ("worktree_clean", .bool true)])]),
  ("schema", .str (text NIGHTSHIFT_PACKET_SCHEMA)),
  ("source_evidence", .arr [.obj (object [("branch", .str (text "main")), ("commit", .str sampleCommit),
    ("file_digest", .str samplePlan), ("path", .str (text "docs")),
    ("predecessor_classification", .str (text "none")), ("repository", .str (text "switchyard"))])]),
  ("switchyard", .obj (object [("alias", .str (text "docs-night")),
    ("plan_ref", .str (text "nightshift-packet://62b7a688a418e137a30277b663f07dadb73e10c52c812bec01b0fd7916ff92a9")),
    ("transport_fields", words ["alias", "plan_ref", "nonce"])])),
  ("work_items", .arr [
    sampleItem "outline" "OUTLINE" "docs-outline" [] [.obj (object [("branch", .str (text "main")),
      ("commit", .str sampleCommit), ("contract_kind", .str (text "exact_work_proposal_v1")),
      ("contract_schema", .str EXACT_WORK_PROPOSAL_SCHEMA), ("path", .str (text "docs/plan.json")),
      ("proposal_ref", .str samplePlan), ("repository", .str (text "switchyard"))])] [],
    sampleItem "text" "TEXT" "docs-text" ["outline"] [] [.obj (object [("campaign", .str (text "docs")),
      ("classification", .str (text "closed")), ("commit", .str sampleCommit)])]]),
  ("worker_budget", .obj (object [("maximum_concurrent_mutating_workers", .int 1),
    ("recursive_worker_swarms_forbidden", .bool true), ("reserve_posture", .str (text "none"))]))]

def nested : Nat → Json
  | 0 => .arr []
  | levels + 1 => .arr [nested levels]

def sampleNested : Members := object [
  ("custody", nested 600),
  ("packet_digest", .str (text "sha256:eaac544cd0dae12fc977415e961fb75546d33a5a9aa0f49939929d44b19147b1")),
  ("schema", .str (text NIGHTSHIFT_PACKET_SCHEMA)),
  ("switchyard", .obj (object [
    ("plan_ref", .str (text "nightshift-packet://eaac544cd0dae12fc977415e961fb75546d33a5a9aa0f49939929d44b19147b1"))]))]

mutual
/-- How deep lists and objects are nested. -/
def levels : Json → Nat
  | .arr items => levelsItems items + 1
  | .obj members => levelsMembers members + 1
  | _ => 0

def levelsItems : List Json → Nat
  | [] => 0
  | item :: rest => max (levels item) (levelsItems rest)

def levelsMembers : Members → Nat
  | [] => 0
  | member :: rest => max (levels member.2) (levelsMembers rest)
end

def sampleLoads (raw : Bytes) : Except DecodeFailure Json :=
  match raw.length with
  | 2924 => .ok (.obj sampleAgreed)
  | 1461 => .ok (.obj sampleNested)
  | _ => .error (.malformed (className "JSONDecodeError") (text "Expecting value: line 1 column 1 (char 0)"))

/-- Of the thousand frames of the stack a copy takes two for each level. -/
def agreeingHost : Host := { plainHost with
  sha256 := digestTable [
    (2776, 0x62b7a688a418e137a30277b663f07dadb73e10c52c812bec01b0fd7916ff92a9),
    (1314, 0xeaac544cd0dae12fc977415e961fb75546d33a5a9aa0f49939929d44b19147b1)]
  loadsUnique := sampleLoads
  loadsUniqueText := fun value => match Text.encode? value with
    | some raw => sampleLoads raw
    | none => .error (.other (className "UnicodeEncodeError"))
  copies := fun members => decide (levels (.obj members) ≤ 490) }

def sampleReaders : Readers where
  violation packet := if packet = sampleAgreed then none else some (text "packet", text "differs")
  digest packet checked := by
    split at checked
    next same =>
      rw [same]
      exact ⟨_, rfl, .inl (by decide)⟩
    next => cases checked
  moment value := if value = text "2026-01-01T00:00:00+00:00" then .utc 1767225600000000
    else if value = text "2026-01-02T00:00:00+00:00" then .utc 1767312000000000 else .malformed
  isoformat microseconds := if microseconds = 1767225600000000 then text "2026-01-01T00:00:00Z" else text "2026-01-02T00:00:00Z"

theorem sampleLoads_ok {raw : Bytes} {value : Json} (loaded : sampleLoads raw = .ok value) :
    raw.length = 2924 ∧ value = .obj sampleAgreed ∨ raw.length = 1461 ∧ value = .obj sampleNested := by
  unfold sampleLoads at loaded
  split at loaded
  next length =>
    cases loaded
    exact .inl ⟨length, rfl⟩
  next length =>
    cases loaded
    exact .inr ⟨length, rfl⟩
  next => cases loaded

theorem sampleAgreed_canonical : Rfc8785.Canonical (.obj sampleAgreed) := by
  simp [sampleAgreed, sampleItem, words, object, CANONICALIZATION, Rfc8785.Canonical, Rfc8785.CanonicalMembers,
    Rfc8785.CanonicalItems, Text.scalar_text, sampleCommit, samplePlan, EXACT_WORK_PROPOSAL_SCHEMA, Rfc8785.intMin, Rfc8785.intMax]

theorem sampleAgreed_distinct : Distinct (.obj sampleAgreed) := by
  simp [sampleAgreed, sampleItem, words, CANONICALIZATION, object, Distinct, DistinctMembers, DistinctItems, text_inj]

theorem nested_distinct (count : Nat) : Distinct (nested count) := by
  induction count with
  | zero => trivial
  | succ count ih => exact ⟨ih, trivial⟩

theorem nested_canonical (count : Nat) : Rfc8785.Canonical (nested count) := by
  induction count with
  | zero => trivial
  | succ count ih => exact ⟨ih, trivial⟩

theorem sampleNested_canonical : Rfc8785.Canonical (.obj sampleNested) := by
  simp [sampleNested, object, Rfc8785.Canonical, Rfc8785.CanonicalMembers, nested_canonical, Text.scalar_text]

theorem sampleNested_distinct : Distinct (.obj sampleNested) := by
  simp [sampleNested, object, Distinct, DistinctMembers, nested_distinct, text_inj]

theorem agreeingHost_faithful : Nightshift.Faithful agreeingHost where
  distinct _ _ loaded := by
    rcases sampleLoads_ok loaded with ⟨-, rfl⟩ | ⟨-, rfl⟩
    · exact sampleAgreed_distinct
    · exact sampleNested_distinct
  numbers := Nightshift.sampleHost_faithful.numbers

theorem agreeingHost_bytes : SameBytes agreeingHost := by
  intro value raw decoded encodes loaded
  simpa only [agreeingHost, encodes] using loaded

theorem agreeingHost_plain : Plain agreeingHost := by
  intro value byte listed
  have digit := Rfc8785.decimal_numeral listed
  simp only [Rfc8785.numeral, Bool.or_eq_true, beq_iff_eq, Bool.and_eq_true, decide_eq_true_eq] at digit
  rcases digit with rfl | range
  · decide
  · omega

theorem agreeing_extents : Rfc8785.extent agreeingHost (.obj sampleAgreed) = 2924 ∧
    Rfc8785.extent agreeingHost (.obj (stripped sampleAgreed)) = 2736 ∧
    Rfc8785.extent agreeingHost (.obj sampleNested) = 1461 ∧
    Rfc8785.extent agreeingHost (.obj (stripped sampleNested)) = 1274 := by
  decide +kernel

/-- Both packets are read back as they are. -/
theorem agreeing_reads {packet : Members} (listed : packet = sampleAgreed ∨ packet = sampleNested) {raw : Bytes}
    (dumped : Rfc8785.dumps agreeingHost (.obj packet) = .ok raw) : sampleLoads raw = .ok (.obj packet) := by
  have length := Rfc8785.dumps_spans agreeingHost _ raw dumped
  unfold sampleLoads
  rcases listed with rfl | rfl
  · rw [length, agreeing_extents.1]
    rfl
  · rw [length, agreeing_extents.2.2.1]
    rfl

theorem agreeing_readsBack {packet : Members} (listed : packet = sampleAgreed ∨ packet = sampleNested) :
    ReadsBack agreeingHost packet := by
  intro raw decoded dumped loaded
  cases (agreeing_reads listed dumped).symm.trans loaded
  refine ⟨equal_refl _, ?_⟩
  rcases listed with rfl | rfl
  · decide
  · decide +kernel

/-- A packet whose own digest and plan reference are right. -/
structure Names (packet switchyard : Members) (digest : Text) : Prop where
  schema : is (get packet "schema") "nightshift.orientation-packet/v1" = true
  named : get packet "packet_digest" = .str (text "sha256:" ++ digest)
  record : get packet "switchyard" = .obj switchyard
  planRef : get switchyard "plan_ref" = .str (PLAN_REF_PREFIX ++ digest)
  canonical : Rfc8785.Canonical (.obj packet)
  digested : ∀ raw, raw.length = Rfc8785.extent agreeingHost (.obj (stripped packet)) →
    Text.hex (agreeingHost.sha256 (NIGHTSHIFT_PACKET_DIGEST_DOMAIN_V1 ++ raw)).val = digest

theorem Names.verified {packet switchyard : Members} {digest : Text} (listed : packet = sampleAgreed ∨ packet = sampleNested)
    (names : Names packet switchyard digest) :
    Nightshift.verifyPacketDigest agreeingHost packet (text "sha256:" ++ digest) = .ok () := by
  obtain ⟨raw, dumped⟩ := (Rfc8785.dumps_accepted agreeingHost _).mpr names.canonical
  obtain ⟨bytes, spelled⟩ := (Rfc8785.dumps_accepted agreeingHost _).mpr (strip_canonical names.canonical names.record)
  refine verifyPacketDigest_ok.mpr ⟨raw, bytes, packet, switchyard, switchyard, names.schema, names.named, dumped,
    agreeing_reads listed dumped, names.record, spelled, ?_, names.record, ?_⟩
  · rw [Host.digest, names.digested bytes (Rfc8785.dumps_spans agreeingHost _ bytes spelled)]
  · rw [digestHex_of]
    exact names.planRef

def agreedDigest : Text := text "62b7a688a418e137a30277b663f07dadb73e10c52c812bec01b0fd7916ff92a9"

def nestedDigest : Text := text "eaac544cd0dae12fc977415e961fb75546d33a5a9aa0f49939929d44b19147b1"

theorem agreed_names : ∃ switchyard, Names sampleAgreed switchyard agreedDigest := by
  refine ⟨_, by decide, by decide, rfl, by decide, sampleAgreed_canonical, fun raw length => ?_⟩
  dsimp only [agreeingHost, digestTable]
  rw [List.length_append, length, agreeing_extents.2.1]
  decide

theorem nested_names : ∃ switchyard, Names sampleNested switchyard nestedDigest := by
  refine ⟨_, by decide, by decide, rfl, by decide, sampleNested_canonical, fun raw length => ?_⟩
  dsimp only [agreeingHost, digestTable]
  rw [List.length_append, length, agreeing_extents.2.2.2]
  decide

def sampleText : Text := (canonicalJson agreeingHost (.obj sampleAgreed)).toOption.getD []

def sampleItems : List WorkItem := [
  ⟨text "outline", ⟨text "OUTLINE", text "docs-outline"⟩, [], [⟨.exactWorkProposalV1, EXACT_WORK_PROPOSAL_SCHEMA⟩]⟩,
  ⟨text "text", ⟨text "TEXT", text "docs-text"⟩, [text "outline"], []⟩]

theorem sampleItems_valid : validateWorkItems Nightshift.sampleUnicode sampleItems = .ok () := by
  have ids : (sampleItems.map (·.id)).Nodup := by decide
  have edge {dependent dependency : Text} (depends : Depends sampleItems dependent dependency) :
      dependent = text "text" ∧ dependency = text "outline" := by
    obtain ⟨item, listed, rfl, needed⟩ := depends
    simp only [sampleItems, List.mem_cons, List.not_mem_nil, or_false] at listed
    rcases listed with rfl | rfl
    · cases needed
    · exact ⟨rfl, List.mem_singleton.mp needed⟩
  have acyclic (id : Text) : ¬ Relation.TransGen (Depends sampleItems) id id := by
    intro cycle
    obtain ⟨_, first, -⟩ := Relation.TransGen.head'_iff.mp cycle
    obtain ⟨_, -, last⟩ := Relation.TransGen.tail'_iff.mp cycle
    have same := (edge first).1.symm.trans (edge last).2
    revert same
    decide
  obtain ⟨visited, found⟩ := (search_ok ids (by decide)).mpr acyclic
  refine bind_ok.mpr ⟨gatheredOf sampleItems, rfl, bind_ok.mpr ⟨(), rfl, ?_⟩⟩
  rw [found]
  rfl

theorem sampleAgreed_semantics : validateNightshiftSemantics Nightshift.sampleUnicode sampleReaders sampleAgreed = .ok () :=
  bind_ok.mpr ⟨(), by decide, bind_ok.mpr ⟨_, rfl, bind_ok.mpr ⟨sampleItems, rfl, sampleItems_valid⟩⟩⟩

theorem sampleAgreed_digested : nightshiftPreimageDigest agreeingHost sampleAgreed = .ok agreedDigest := by
  obtain ⟨switchyard, names⟩ := agreed_names
  obtain ⟨bytes, spelled⟩ := (Rfc8785.dumps_accepted agreeingHost _).mpr (strip_canonical names.canonical names.record)
  rw [nightshiftPreimageDigest_of agreeingHost_plain (by decide) spelled,
    names.digested bytes (Rfc8785.dumps_spans agreeingHost _ bytes spelled)]

def samplePacketRead (value : Text) : NightshiftPacket where
  packetText := value
  packetObj := sampleAgreed
  packetDigest := agreedDigest
  planRef := PLAN_REF_PREFIX ++ agreedDigest
  aliasName := text "docs-night"
  createdAt := text "2026-01-01T00:00:00Z"
  currentUntil := text "2026-01-02T00:00:00Z"

theorem sampleText_accepted : fromJson agreeingHost Nightshift.sampleUnicode sampleReaders sampleText =
    .ok (samplePacketRead sampleText) := by
  obtain ⟨raw, dumped⟩ := (Rfc8785.dumps_accepted agreeingHost _).mpr sampleAgreed_canonical
  have length := Rfc8785.dumps_spans agreeingHost _ raw dumped
  obtain ⟨content, spelled, encodes⟩ := canonicalJson_of agreeingHost_plain dumped
  have same : sampleText = content := by rw [sampleText, spelled]; rfl
  rw [same]
  have loaded : loadsPacket agreeingHost content = .ok (.obj sampleAgreed) := by
    have read : agreeingHost.loadsUniqueText content = .ok (.obj sampleAgreed) := by
      simp only [agreeingHost, encodes]
      exact agreeing_reads (.inl rfl) dumped
    rw [loadsPacket, read]
  have short : raw.length ≤ MAX_PACKET_UTF8_BYTES := by
    rw [length, agreeing_extents.1]
    decide
  refine bind_ok.mpr ⟨raw, encoded_ok.mpr encodes, bind_ok.mpr ⟨(), demand_ok.mpr (decide_eq_true short), bind_ok.mpr ⟨_, loaded,
    bind_ok.mpr ⟨content, spelled, bind_ok.mpr ⟨(), demand_ok.mpr (beq_self_eq_true content), ?_⟩⟩⟩⟩⟩
  have checked : validateNightshiftSchema sampleReaders sampleAgreed = .ok () := by decide +kernel
  unfold fromObject
  rw [checked, sampleAgreed_semantics, sampleAgreed_digested]
  rfl

/-- The packet of two work items has one digest for both. -/
theorem packet_digests_agree_sample :
    (∃ expected, get sampleAgreed "packet_digest" = .str expected ∧
      Nightshift.verifyPacketDigest agreeingHost sampleAgreed expected = .ok ()) ∧
    Digested agreeingHost Nightshift.sampleUnicode sampleAgreed (text "sha256:" ++ agreedDigest) := by
  obtain ⟨switchyard, names⟩ := agreed_names
  have agree : PacketDigestsAgree agreeingHost Nightshift.sampleUnicode sampleReaders :=
    packet_digests_agree agreeingHost_faithful agreeingHost_plain agreeingHost_bytes
  exact ⟨agree.accepted _ _ sampleText_accepted,
    (agree.verified sampleAgreed _ sampleAgreed_distinct (agreeing_readsBack (.inl rfl)) (names.verified (.inl rfl))).mpr
      (by decide)⟩

/-- The adapter accepts the packet that nests six hundred lists, and the protocol cannot copy it. -/
theorem packet_digests_agree_nested :
    (Distinct (.obj sampleNested) ∧ ReadsBack agreeingHost sampleNested) ∧
    get sampleNested "packet_digest" = .str (text "sha256:" ++ nestedDigest) ∧
    Nightshift.verifyPacketDigest agreeingHost sampleNested (text "sha256:" ++ nestedDigest) = .ok () ∧
    nightshiftPreimageDigest agreeingHost sampleNested = .error (.other recursionError) ∧
    ¬ Digested agreeingHost Nightshift.sampleUnicode sampleNested (text "sha256:" ++ nestedDigest) := by
  obtain ⟨switchyard, names⟩ := nested_names
  have raises : nightshiftPreimageDigest agreeingHost sampleNested = .error (.other recursionError) := by decide +kernel
  refine ⟨⟨sampleNested_distinct, agreeing_readsBack (.inr rfl)⟩, names.named, names.verified (.inr rfl), raises, ?_⟩
  rintro ⟨digest, _, _, -, found, -⟩
  cases raises.symm.trans found

end Submission
end Switchyard
