import Switchyard.Library.Text

/-! Where a byte bound cuts UTF-8. A lenient decoder drops the broken sequence
at the cut, so what is left is the longest prefix of whole characters. -/

namespace Switchyard.Library.Text

/-- A second byte that can follow this lead: a continuation byte that makes the sequence neither
overlong, nor a surrogate, nor too large. -/
def follows (lead second : Nat) : Bool :=
  0x80 ≤ second && second < 0xC0 && (lead != 0xE0 || 0xA0 ≤ second) && (lead != 0xED || second < 0xA0) &&
    (lead != 0xF0 || 0x90 ≤ second) && (lead != 0xF4 || second < 0x90)

def continues (byte : UInt8) : Bool := 0x80 ≤ byte.toNat && byte.toNat < 0xC0

/-- `raw.decode("utf-8", errors="ignore")`: the longest broken start of a sequence is dropped, and decoding goes on. -/
def decodeIgnoring : Bytes → Text
  | [] => []
  | first :: rest =>
    let lead := first.toNat
    if lead < 0x80 then Fin.ofNat 0x110000 lead :: decodeIgnoring rest
    else if lead < 0xC2 || 0xF5 ≤ lead then decodeIgnoring rest
    else match rest with
      | [] => []
      | second :: later =>
        if !follows lead second.toNat then decodeIgnoring (second :: later)
        else if lead < 0xE0 then
          Fin.ofNat 0x110000 ((lead - 0xC0) * 0x40 + (second.toNat - 0x80)) :: decodeIgnoring later
        else match later with
          | [] => []
          | third :: later =>
            if !continues third then decodeIgnoring (third :: later)
            else if lead < 0xF0 then
              Fin.ofNat 0x110000 ((lead - 0xE0) * 0x1000 + (second.toNat - 0x80) * 0x40 + (third.toNat - 0x80)) ::
                decodeIgnoring later
            else match later with
              | [] => []
              | fourth :: later =>
                if !continues fourth then decodeIgnoring (fourth :: later)
                else Fin.ofNat 0x110000 ((lead - 0xF0) * 0x40000 + (second.toNat - 0x80) * 0x1000 +
                  (third.toNat - 0x80) * 0x40 + (fourth.toNat - 0x80)) :: decodeIgnoring later

/-- How many bytes the UTF-8 form takes. -/
def utf8Length (value : Text) : Nat := (value.flatMap encodePoint).length

@[simp] theorem utf8Length_nil : utf8Length [] = 0 := rfl

@[simp] theorem utf8Length_cons (point : CodePoint) (rest : Text) :
    utf8Length (point :: rest) = (encodePoint point).length + utf8Length rest := by
  simp [utf8Length]

theorem encode?_length {value : Text} {raw : Bytes} (encoded : encode? value = some raw) : raw.length = utf8Length value := by
  unfold encode? at encoded
  split at encoded
  · cases encoded
    rfl
  · cases encoded

/-- The characters that fit, one after the other. -/
def fitting : Nat → Text → Text
  | _, [] => []
  | bound, point :: rest =>
    if (encodePoint point).length ≤ bound then point :: fitting (bound - (encodePoint point).length) rest else []

theorem fitting_prefix (bound : Nat) (value : Text) : fitting bound value <+: value := by
  induction value generalizing bound with
  | nil => exact List.nil_prefix
  | cons point rest ih =>
    unfold fitting
    split
    · exact (List.prefix_cons_inj point).mpr (ih _)
    · exact List.nil_prefix

theorem fitting_within (bound : Nat) (value : Text) : utf8Length (fitting bound value) ≤ bound := by
  induction value generalizing bound with
  | nil => exact Nat.zero_le _
  | cons point rest ih =>
    unfold fitting
    split
    next fits =>
      have later := ih (bound - (encodePoint point).length)
      rw [utf8Length_cons]
      omega
    next => exact Nat.zero_le _

/-- Every prefix within the bound is a prefix of what fits. -/
theorem fitting_longest {bound : Nat} {value shorter : Text} (start : shorter <+: value) (within : utf8Length shorter ≤ bound) :
    shorter <+: fitting bound value := by
  induction value generalizing bound shorter with
  | nil =>
    obtain rfl := List.prefix_nil.mp start
    exact List.nil_prefix
  | cons point rest ih =>
    cases shorter with
    | nil => exact List.nil_prefix
    | cons first others =>
      obtain ⟨rfl, begins⟩ := List.cons_prefix_cons.mp start
      rw [utf8Length_cons] at within
      unfold fitting
      rw [if_pos (by omega)]
      exact (List.prefix_cons_inj first).mpr (ih begins (by omega))

private theorem byte_value {value : Nat} (small : value < 256) : (UInt8.ofNat value).toNat = value := by
  rw [UInt8.toNat_ofNat']
  exact Nat.mod_eq_of_lt small

private theorem code_value {value : Nat} {point : CodePoint} (same : value = point.val) : Fin.ofNat 0x110000 value = point := by
  subst same
  exact Fin.ofNat_val_eq_self point

/-- A whole character decodes to itself. -/
theorem decodeIgnoring_point {point : CodePoint} (scalar : surrogate point = false) (rest : Bytes) :
    decodeIgnoring (encodePoint point ++ rest) = point :: decodeIgnoring rest := by
  have small := point.isLt
  simp only [surrogate, Bool.and_eq_false_iff, decide_eq_false_iff_not] at scalar
  have upper : point.val / 0x40 / 0x40 = point.val / 0x1000 := Nat.div_div_eq_div_mul ..
  have top : point.val / 0x1000 / 0x40 = point.val / 0x40000 := Nat.div_div_eq_div_mul ..
  unfold encodePoint
  dsimp only
  split
  next ascii =>
    have lead := byte_value (Nat.lt_trans ascii (by decide))
    rw [List.cons_append, List.nil_append, decodeIgnoring.eq_def]
    dsimp only
    rw [lead, if_pos ascii, @code_value _ point rfl]
  next wide =>
    split
    next two =>
      rw [List.cons_append, List.cons_append, List.nil_append, decodeIgnoring.eq_def]
      dsimp only
      rw [byte_value (by omega)]
      rw [if_neg (by omega), if_neg (by simp; omega)]
      simp only [byte_value (show 0x80 + point.val % 0x40 < 256 by omega)]
      rw [if_neg (by simp [follows]; omega), if_pos (by omega), @code_value _ point (by omega)]
    next =>
      split
      next three =>
        rw [List.cons_append, List.cons_append, List.cons_append, List.nil_append, decodeIgnoring.eq_def]
        dsimp only
        rw [byte_value (by omega)]
        rw [if_neg (by omega), if_neg (by simp; omega)]
        simp only [byte_value (show 0x80 + point.val / 0x40 % 0x40 < 256 by omega),
          byte_value (show 0x80 + point.val % 0x40 < 256 by omega), continues]
        rw [if_neg (by simp [follows]; omega), if_neg (by omega), if_neg (by simp; omega), if_pos (by omega),
          @code_value _ point (by omega)]
      next =>
        rw [List.cons_append, List.cons_append, List.cons_append, List.cons_append, List.nil_append, decodeIgnoring.eq_def]
        dsimp only
        rw [byte_value (by omega)]
        rw [if_neg (by omega), if_neg (by simp; omega)]
        simp only [byte_value (show 0x80 + point.val / 0x1000 % 0x40 < 256 by omega),
          byte_value (show 0x80 + point.val / 0x40 % 0x40 < 256 by omega),
          byte_value (show 0x80 + point.val % 0x40 < 256 by omega), continues]
        rw [if_neg (by simp [follows]; omega), if_neg (by omega), if_neg (by simp; omega), if_neg (by omega),
          if_neg (by simp; omega), @code_value _ point (by omega)]

/-- A sequence that ends too early: nothing of it is kept. -/
private theorem decodeIgnoring_short {lead : UInt8} {later : Bytes} (low : 0xC2 ≤ lead.toNat) (high : lead.toNat < 0xF5)
    (broken : later = [] ∨
      (∃ second, later = [second] ∧ 0xE0 ≤ lead.toNat ∧ follows lead.toNat second.toNat = true) ∨
      ∃ second third, later = [second, third] ∧ 0xF0 ≤ lead.toNat ∧ follows lead.toNat second.toNat = true ∧
        continues third = true) : decodeIgnoring (lead :: later) = [] := by
  rw [decodeIgnoring.eq_def]
  dsimp only
  rw [if_neg (by omega), if_neg (by simp; omega)]
  rcases broken with rfl | ⟨second, rfl, wide, fits⟩ | ⟨second, third, rfl, wide, fits, next⟩
  · rfl
  · dsimp only
    rw [if_neg (by simp [fits]), if_neg (by omega)]
  · dsimp only
    rw [if_neg (by simp [fits]), if_neg (by omega), if_neg (by simp [next]), if_neg (by omega)]

/-- Part of a character decodes to nothing. -/
theorem decodeIgnoring_partial {point : CodePoint} (scalar : surrogate point = false) {count : Nat}
    (short : count < (encodePoint point).length) : decodeIgnoring ((encodePoint point).take count) = [] := by
  have small := point.isLt
  simp only [surrogate, Bool.and_eq_false_iff, decide_eq_false_iff_not] at scalar
  have upper : point.val / 0x40 / 0x40 = point.val / 0x1000 := Nat.div_div_eq_div_mul ..
  have top : point.val / 0x1000 / 0x40 = point.val / 0x40000 := Nat.div_div_eq_div_mul ..
  cases count with
  | zero => rfl
  | succ count =>
    unfold encodePoint at short ⊢
    dsimp only at short ⊢
    split at short
    next ascii => simp at short
    next wide =>
      rw [if_neg wide]
      split at short
      next two =>
        obtain rfl : count = 0 := by simp at short; omega
        rw [if_pos two]
        exact decodeIgnoring_short (by rw [byte_value (by omega)]; omega) (by rw [byte_value (by omega)]; omega) (.inl rfl)
      next wider =>
        rw [if_neg wider]
        split at short
        next three =>
          rw [if_pos three]
          have lead := byte_value (show 0xE0 + point.val / 0x1000 < 256 by omega)
          have second := byte_value (show 0x80 + point.val / 0x40 % 0x40 < 256 by omega)
          refine decodeIgnoring_short (by omega) (by omega) ?_
          obtain rfl | rfl : count = 0 ∨ count = 1 := by simp at short; omega
          · exact .inl rfl
          · refine .inr (.inl ⟨_, rfl, by omega, ?_⟩)
            rw [lead, second]
            simp [follows]
            omega
        next widest =>
          rw [if_neg widest]
          have lead := byte_value (show 0xF0 + point.val / 0x40000 < 256 by omega)
          have second := byte_value (show 0x80 + point.val / 0x1000 % 0x40 < 256 by omega)
          have third := byte_value (show 0x80 + point.val / 0x40 % 0x40 < 256 by omega)
          have fits : follows (0xF0 + point.val / 0x40000) (0x80 + point.val / 0x1000 % 0x40) = true := by
            simp [follows]
            omega
          refine decodeIgnoring_short (by omega) (by omega) ?_
          obtain rfl | rfl | rfl : count = 0 ∨ count = 1 ∨ count = 2 := by simp at short; omega
          · exact .inl rfl
          · exact .inr (.inl ⟨_, rfl, by omega, by rw [lead, second]; exact fits⟩)
          · refine .inr (.inr ⟨_, _, rfl, by omega, by rw [lead, second]; exact fits, ?_⟩)
            simp only [continues, third, Bool.and_eq_true, decide_eq_true_eq]
            omega

theorem decodeIgnoring_take {value : Text} (scalar : Scalar value) (bound : Nat) :
    decodeIgnoring ((value.flatMap encodePoint).take bound) = fitting bound value := by
  induction value generalizing bound with
  | nil => simp [decodeIgnoring, fitting]
  | cons point rest ih =>
    have head := scalar point List.mem_cons_self
    have tail : Scalar rest := fun other listed => scalar other (List.mem_cons_of_mem _ listed)
    rw [List.flatMap_cons, List.take_append]
    unfold fitting
    split
    next fits => rw [List.take_of_length_le fits, decodeIgnoring_point head, ih tail]
    next short =>
      have none : bound - (encodePoint point).length = 0 := by omega
      rw [none, List.take_zero, List.append_nil, decodeIgnoring_partial head (by omega)]

private theorem decoded?_value {least code : Nat} {point : CodePoint} (found : decoded? least code = some point) :
    point.val = code ∧ least ≤ code ∧ code < 0x110000 := by
  unfold decoded? at found
  split at found
  next bounded =>
    split at found
    next valid =>
      cases found
      exact ⟨rfl, valid.1, bounded⟩
    next => cases found
  next => cases found

private theorem continuation?_value {byte : UInt8} {payload : Nat} (found : continuation? byte = some payload) :
    byte.toNat = 0x80 + payload ∧ payload < 0x40 := by
  unfold continuation? at found
  split at found
  next range =>
    obtain rfl := Option.some.inj found
    omega
  next => cases found

private theorem byte_eq {byte : UInt8} {value : Nat} (same : byte.toNat = value) : UInt8.ofNat value = byte := by
  subst same
  exact UInt8.ofNat_toNat

/-- What decodes strictly is the encoding of what it decodes to. -/
theorem decode?_encodes (raw : Bytes) : ∀ value, decode? raw = some value → value.flatMap encodePoint = raw := by
  fun_induction decode? raw with
  | case1 => rintro value ⟨⟩; rfl
  | case2 first rest lead small ih =>
    intro value done
    obtain ⟨tail, found, rfl⟩ := Option.map_eq_some_iff.mp done
    have code : (Fin.ofNat 0x110000 lead).val = lead := Nat.mod_eq_of_lt (Nat.lt_trans small (by decide))
    rw [List.flatMap_cons, ih tail found]
    unfold encodePoint
    dsimp only
    rw [code, if_pos small, byte_eq (show first.toNat = lead from rfl)]
    rfl
  | case3 | case4 | case5 | case7 | case8 | case10 | case11 => intro value done; cases done
  | case6 first lead _ _ second rest two followed _ ih =>
    intro value done
    obtain ⟨point, decoded, done⟩ := Option.bind_eq_some_iff.mp done
    obtain ⟨tail, found, rfl⟩ := Option.map_eq_some_iff.mp done
    obtain ⟨code, least, most⟩ := decoded?_value decoded
    obtain ⟨one, small⟩ := continuation?_value followed
    have start : first.toNat = lead := rfl
    rw [List.flatMap_cons, ih tail found]
    unfold encodePoint
    dsimp only
    rw [code, if_neg (by omega), if_pos (by omega), byte_eq (show first.toNat = _ by omega), byte_eq (show second.toNat = _ by omega)]
    rfl
  | case9 first lead _ _ second two followed _ third rest three again _ ih =>
    intro value done
    obtain ⟨point, decoded, done⟩ := Option.bind_eq_some_iff.mp done
    obtain ⟨tail, found, rfl⟩ := Option.map_eq_some_iff.mp done
    obtain ⟨code, least, most⟩ := decoded?_value decoded
    obtain ⟨one, small⟩ := continuation?_value followed
    obtain ⟨other, slight⟩ := continuation?_value again
    have start : first.toNat = lead := rfl
    rw [List.flatMap_cons, ih tail found]
    unfold encodePoint
    dsimp only
    rw [code, if_neg (by omega), if_neg (by omega), if_pos (by omega), byte_eq (show first.toNat = _ by omega),
      byte_eq (show second.toNat = _ by omega), byte_eq (show third.toNat = _ by omega)]
    rfl
  | case12 first lead _ _ second two followed _ third three again _ fourth rest four last ih =>
    intro value done
    obtain ⟨point, decoded, done⟩ := Option.bind_eq_some_iff.mp done
    obtain ⟨tail, found, rfl⟩ := Option.map_eq_some_iff.mp done
    obtain ⟨code, least, most⟩ := decoded?_value decoded
    obtain ⟨one, small⟩ := continuation?_value followed
    obtain ⟨other, slight⟩ := continuation?_value again
    obtain ⟨third', little⟩ := continuation?_value last
    have start : first.toNat = lead := rfl
    rw [List.flatMap_cons, ih tail found]
    unfold encodePoint
    dsimp only
    rw [code, if_neg (by omega), if_neg (by omega), if_neg (by omega), byte_eq (show first.toNat = _ by omega),
      byte_eq (show second.toNat = _ by omega), byte_eq (show third.toNat = _ by omega), byte_eq (show fourth.toNat = _ by omega)]
    rfl

/-- Strict decoding undoes encoding, and nothing else. -/
theorem encode?_of_decode? {raw : Bytes} {value : Text} (decoded : decode? raw = some value) : encode? value = some raw := by
  unfold encode?
  rw [if_pos (decode?_scalar raw value decoded), decode?_encodes raw value decoded]

private theorem decoded?_of {least : Nat} {point : CodePoint} (scalar : surrogate point = false) (enough : least ≤ point.val) :
    decoded? least point.val = some point := by
  unfold decoded?
  rw [dif_pos point.isLt, if_pos ⟨enough, scalar⟩]

private theorem continuation?_of {payload : Nat} (small : payload < 0x40) : continuation? (.ofNat (0x80 + payload)) = some payload := by
  unfold continuation?
  rw [byte_value (by omega), if_pos (by omega)]
  simp

/-- Strict decoding reads an encoded character back. -/
theorem decode?_point {point : CodePoint} (scalar : surrogate point = false) (rest : Bytes) :
    decode? (encodePoint point ++ rest) = (decode? rest).map (point :: ·) := by
  have small := point.isLt
  have upper : point.val / 0x40 / 0x40 = point.val / 0x1000 := Nat.div_div_eq_div_mul ..
  have top : point.val / 0x1000 / 0x40 = point.val / 0x40000 := Nat.div_div_eq_div_mul ..
  unfold encodePoint
  dsimp only
  split
  next ascii =>
    rw [List.cons_append, List.nil_append, decode?.eq_def]
    dsimp only
    rw [byte_value (by omega), if_pos ascii, @code_value _ point rfl]
  next wide =>
    split
    next two =>
      rw [List.cons_append, List.cons_append, List.nil_append, decode?.eq_def]
      dsimp only
      rw [byte_value (by omega), if_neg (by omega), if_neg (by omega), continuation?_of (by omega)]
      dsimp only
      rw [if_pos (by omega), show (0xC0 + point.val / 0x40 - 0xC0) * 0x40 + point.val % 0x40 = point.val by omega,
        decoded?_of scalar (by omega)]
      rfl
    next =>
      split
      next three =>
        rw [List.cons_append, List.cons_append, List.cons_append, List.nil_append, decode?.eq_def]
        dsimp only
        rw [byte_value (by omega), if_neg (by omega), if_neg (by omega), continuation?_of (by omega)]
        dsimp only
        rw [if_neg (by omega), continuation?_of (by omega)]
        dsimp only
        rw [if_pos (by omega), show (0xE0 + point.val / 0x1000 - 0xE0) * 0x1000 + point.val / 0x40 % 0x40 * 0x40 + point.val % 0x40 =
          point.val by omega, decoded?_of scalar (by omega)]
        rfl
      next =>
        rw [List.cons_append, List.cons_append, List.cons_append, List.cons_append, List.nil_append, decode?.eq_def]
        dsimp only
        rw [byte_value (by omega), if_neg (by omega), if_neg (by omega), continuation?_of (by omega)]
        dsimp only
        rw [if_neg (by omega), continuation?_of (by omega)]
        dsimp only
        rw [if_neg (by omega), continuation?_of (by omega)]
        dsimp only
        rw [show (0xF0 + point.val / 0x40000 - 0xF0) * 0x40000 + point.val / 0x1000 % 0x40 * 0x1000 + point.val / 0x40 % 0x40 * 0x40 +
          point.val % 0x40 = point.val by omega, decoded?_of scalar (by omega)]
        rfl

theorem decode?_of_encode? {value : Text} : ∀ {raw : Bytes}, encode? value = some raw → decode? raw = some value := by
  intro raw encoded
  unfold encode? at encoded
  split at encoded
  next scalar =>
    cases encoded
    induction value with
    | nil => rfl
    | cons point rest ih =>
      rw [List.flatMap_cons, decode?_point (scalar point List.mem_cons_self), ih fun other listed => scalar other (List.mem_cons_of_mem _ listed)]
      rfl
  next => cases encoded

/-- The encoding of some text. -/
def Encodes (raw : Bytes) : Prop := ∃ value, encode? value = some raw

theorem Encodes.append {first last : Bytes} (left : Encodes first) (right : Encodes last) : Encodes (first ++ last) := by
  obtain ⟨one, encodedOne⟩ := left
  obtain ⟨two, encodedTwo⟩ := right
  unfold encode? at encodedOne encodedTwo
  split at encodedOne
  next scalarOne =>
    split at encodedTwo
    next scalarTwo =>
      cases encodedOne
      cases encodedTwo
      exact ⟨one ++ two, by rw [encode?, if_pos (scalarOne.append scalarTwo), List.flatMap_append]⟩
    next => cases encodedTwo
  next => cases encodedOne

theorem Encodes.ascii {raw : Bytes} (plain : ∀ byte ∈ raw, byte.toNat < 0x80) : Encodes raw := by
  induction raw with
  | nil => exact ⟨[], rfl⟩
  | cons byte rest ih =>
    have small := plain byte List.mem_cons_self
    have code : (Fin.ofNat 0x110000 byte.toNat).val = byte.toNat := Nat.mod_eq_of_lt (Nat.lt_trans small (by decide))
    have one : Encodes [byte] := by
      refine ⟨[Fin.ofNat 0x110000 byte.toNat], ?_⟩
      have scalar : Scalar [Fin.ofNat 0x110000 byte.toNat] := by
        intro point listed
        obtain rfl := List.mem_singleton.mp listed
        simp only [surrogate, code, Bool.and_eq_false_iff, decide_eq_false_iff_not]
        omega
      rw [encode?, if_pos scalar, List.flatMap_singleton, encodePoint, code, if_pos small, byte_eq (rfl : byte.toNat = byte.toNat)]
    exact one.append (ih fun other listed => plain other (List.mem_cons_of_mem _ listed))

theorem Encodes.plain {raw : Bytes} (plain : (raw.all fun byte => decide (byte.toNat < 0x80)) = true) : Encodes raw :=
  .ascii (by simpa using plain)

end Switchyard.Library.Text
