import SchemeTyping.Proofs.Outcome
import SchemeTyping.Text.Utf8

/-! Octets that are text. Decoding reads exactly what characters are encoded as, and a fault lies behind
the longest beginning that is text. -/
namespace SchemeTyping.Text

namespace Utf8
variable {octets rest : List UInt8} {char : Char} {text : List Char}

/-- Characters as octets, one sequence behind the other. -/
def encode (text : List Char) : List UInt8 := text.flatMap String.utf8EncodeChar

/-- Octets that some characters are encoded as. -/
def IsText (octets : List UInt8) : Prop := ∃ text, octets = encode text

/-- What a first octet above 0x7F says of the sequence that it begins: the payload, how many octets follow
the second one, and which second octets keep the code from being overlong, a surrogate or above the last
character. -/
inductive Opens (octet : Nat) : Lead → Prop where
  | two (payload : Nat) (start : octet = 0xC0 + payload) (atLeast : 2 ≤ payload) (below : payload < 0x20) :
      Opens octet ⟨payload, 0x80, 0xBF, 0⟩
  | three (payload low high : Nat) (start : octet = 0xE0 + payload) (below : payload < 0x10)
      (range : ∀ second, low ≤ second ∧ second ≤ high ↔ 0x80 ≤ second ∧ second ≤ 0xBF ∧
        0x20 ≤ payload * 64 + (second - 0x80) ∧
        (payload * 64 + (second - 0x80) < 0x360 ∨ 0x380 ≤ payload * 64 + (second - 0x80))) :
      Opens octet ⟨payload, low, high, 1⟩
  | four (payload low high : Nat) (start : octet = 0xF0 + payload) (below : payload < 5)
      (range : ∀ second, low ≤ second ∧ second ≤ high ↔ 0x80 ≤ second ∧ second ≤ 0xBF ∧
        0x10 ≤ payload * 64 + (second - 0x80) ∧ payload * 64 + (second - 0x80) < 0x110) :
      Opens octet ⟨payload, low, high, 2⟩

theorem opens_of_lead? {octet : Nat} {lead : Lead} (found : lead? octet = some lead) :
    Opens octet lead := by
  unfold lead? at found
  repeat' split at found
  all_goals first | obtain rfl := Option.some.inj found | cases found
  · exact .two _ (by omega) (by omega) (by omega)
  · exact .three _ _ _ (by omega) (by omega) (by omega)
  · exact .three _ _ _ (by omega) (by omega) (by omega)
  · exact .three _ _ _ (by omega) (by omega) (by omega)
  · exact .four _ _ _ (by omega) (by omega) (by omega)
  · exact .four _ _ _ (by omega) (by omega) (by omega)
  · exact .four _ _ _ (by omega) (by omega) (by omega)

/-- An octet begins no sequence only if it is below 0xC2 or above 0xF4. -/
theorem lead?_eq_none {octet : Nat} (found : lead? octet = none) : octet < 0xC2 ∨ 0xF5 ≤ octet := by
  unfold lead? at found
  repeat' split at found
  all_goals first | omega | cases found

theorem continue?_zero {payload low high code : Nat} :
    continue? payload low high 0 octets = .ok (code, rest) ↔ ∃ octet, octets = octet :: rest ∧
      (low ≤ octet.toNat ∧ octet.toNat ≤ high) ∧ payload * 64 + (octet.toNat - 0x80) = code := by
  cases octets with
  | nil => simp [continue?]
  | cons octet behind =>
    simp only [continue?, Bool.or_eq_true, decide_eq_true_eq]
    grind

theorem continue?_succ {payload low high more code : Nat} :
    continue? payload low high (more + 1) octets = .ok (code, rest) ↔ ∃ octet behind,
      octets = octet :: behind ∧ (low ≤ octet.toNat ∧ octet.toNat ≤ high) ∧
      continue? (payload * 64 + (octet.toNat - 0x80)) 0x80 0xBF more behind = .ok (code, rest) := by
  cases octets with
  | nil => simp [continue?]
  | cons octet behind =>
    simp only [continue?, Bool.or_eq_true, decide_eq_true_eq]
    grind

/-- The octets of one character: at most four, by the size of its code. -/
inductive Sequence (char : Char) : List UInt8 → Prop where
  | one (first : UInt8) (below : first.toNat < 0x80) (code : char.toNat = first.toNat) :
      Sequence char [first]
  | two (first second : UInt8) (start : 0xC2 ≤ first.toNat ∧ first.toNat < 0xE0)
      (tail : 0x80 ≤ second.toNat ∧ second.toNat ≤ 0xBF)
      (code : char.toNat = (first.toNat - 0xC0) * 64 + (second.toNat - 0x80)) :
      Sequence char [first, second]
  | three (first second third : UInt8) (start : 0xE0 ≤ first.toNat ∧ first.toNat < 0xF0)
      (tail : 0x80 ≤ second.toNat ∧ second.toNat ≤ 0xBF) (last : 0x80 ≤ third.toNat ∧ third.toNat ≤ 0xBF)
      (code : char.toNat =
        ((first.toNat - 0xE0) * 64 + (second.toNat - 0x80)) * 64 + (third.toNat - 0x80))
      (least : 0x800 ≤ char.toNat) : Sequence char [first, second, third]
  | four (first second third fourth : UInt8) (start : 0xF0 ≤ first.toNat ∧ first.toNat < 0xF5)
      (tail : 0x80 ≤ second.toNat ∧ second.toNat ≤ 0xBF) (next : 0x80 ≤ third.toNat ∧ third.toNat ≤ 0xBF)
      (last : 0x80 ≤ fourth.toNat ∧ fourth.toNat ≤ 0xBF)
      (code : char.toNat = (((first.toNat - 0xF0) * 64 + (second.toNat - 0x80)) * 64 +
        (third.toNat - 0x80)) * 64 + (fourth.toNat - 0x80))
      (least : 0x10000 ≤ char.toNat) : Sequence char [first, second, third, fourth]

theorem sequence_encodeChar (char : Char) : Sequence char (String.utf8EncodeChar char) := by
  have valid : char.toNat < 0xD800 ∨ 0xDFFF < char.toNat ∧ char.toNat < 0x110000 := char.valid
  have code : char.val.toNat = char.toNat := rfl
  simp only [String.utf8EncodeChar, code]
  split
  · exact .one _ (by rw [UInt8.toNat_ofNat']; omega) (by rw [UInt8.toNat_ofNat']; omega)
  split
  · refine .two _ _ ?_ ?_ ?_
    all_goals simp only [UInt8.toNat_ofNat']; omega
  split
  · refine .three _ _ _ ?_ ?_ ?_ ?_ (by omega)
    all_goals simp only [UInt8.toNat_ofNat']; omega
  · refine .four _ _ _ _ ?_ ?_ ?_ ?_ ?_ (by omega)
    all_goals simp only [UInt8.toNat_ofNat']; omega

/-- A sequence is what its character is encoded as. -/
theorem Sequence.eq_encodeChar (sequence : Sequence char octets) :
    octets = String.utf8EncodeChar char := by
  have code : char.val.toNat = char.toNat := rfl
  simp only [String.utf8EncodeChar, code]
  cases sequence with
  | one first below code =>
    rw [if_pos (by omega)]
    simp only [List.cons.injEq, ← UInt8.toNat_inj, UInt8.toNat_ofNat', and_true]
    omega
  | two first second start tail code =>
    rw [if_neg (by omega), if_pos (by omega)]
    simp only [List.cons.injEq, ← UInt8.toNat_inj, UInt8.toNat_ofNat', and_true]
    omega
  | three first second third start tail last code least =>
    rw [if_neg (by omega), if_neg (by omega), if_pos (by omega)]
    simp only [List.cons.injEq, ← UInt8.toNat_inj, UInt8.toNat_ofNat', and_true]
    omega
  | four first second third fourth start tail next last code least =>
    rw [if_neg (by omega), if_neg (by omega), if_neg (by omega)]
    simp only [List.cons.injEq, ← UInt8.toNat_inj, UInt8.toNat_ofNat', and_true]
    omega

theorem toNat_ofNat {code : Nat} (valid : code.isValidChar) : (Char.ofNat code).toNat = code := by
  rw [Char.ofNat, dif_pos valid]
  rfl

/-- What is read first is a sequence. -/
theorem sequence_of_first? {present : octets ≠ []} (read : first? octets present = .ok (char, rest)) :
    ∃ sequence, octets = sequence ++ rest ∧ Sequence char sequence := by
  cases octets with
  | nil => exact absurd rfl present
  | cons first behind =>
    rw [first?] at read
    split at read
    · next ascii =>
      obtain ⟨rfl, rfl⟩ := Prod.mk.inj (Except.ok.inj read)
      refine ⟨[first], rfl, .one first ascii ?_⟩
      rw [toNat_ofNat (.inl (by omega))]
    split at read
    · cases read
    next lead found =>
    obtain ⟨⟨code, later⟩, continued, same⟩ := Outcome.map_eq_ok.mp read
    obtain ⟨rfl, rfl⟩ := Prod.mk.inj same
    cases opens_of_lead? found with
    | two payload start atLeast below =>
      dsimp only at continued
      obtain ⟨second, rfl, tail, rfl⟩ := continue?_zero.mp continued
      refine ⟨[first, second], rfl, .two _ _ (by omega) tail ?_⟩
      rw [toNat_ofNat (.inl (by omega))]
      omega
    | three payload low high start below range =>
      dsimp only at continued
      obtain ⟨second, _, rfl, inRange, continued⟩ := continue?_succ.mp continued
      obtain ⟨third, rfl, last, rfl⟩ := continue?_zero.mp continued
      obtain ⟨atLeast, atMost, least, noSurrogate⟩ := (range _).mp inRange
      have value : (Char.ofNat ((payload * 64 + (second.toNat - 0x80)) * 64 +
          (third.toNat - 0x80))).toNat =
          (payload * 64 + (second.toNat - 0x80)) * 64 + (third.toNat - 0x80) := by
        exact toNat_ofNat (by unfold Nat.isValidChar; omega)
      refine ⟨[first, second, third], rfl, .three _ _ _ (by omega) ⟨atLeast, atMost⟩ last ?_ ?_⟩
      all_goals rw [value]; omega
    | four payload low high start below range =>
      dsimp only at continued
      obtain ⟨second, _, rfl, inRange, continued⟩ := continue?_succ.mp continued
      obtain ⟨third, _, rfl, next, continued⟩ := continue?_succ.mp continued
      obtain ⟨fourth, rfl, last, rfl⟩ := continue?_zero.mp continued
      obtain ⟨atLeast, atMost, least, most⟩ := (range _).mp inRange
      have value : (Char.ofNat (((payload * 64 + (second.toNat - 0x80)) * 64 +
          (third.toNat - 0x80)) * 64 + (fourth.toNat - 0x80))).toNat =
          ((payload * 64 + (second.toNat - 0x80)) * 64 + (third.toNat - 0x80)) * 64 +
            (fourth.toNat - 0x80) := by
        exact toNat_ofNat (by unfold Nat.isValidChar; omega)
      refine ⟨[first, second, third, fourth], rfl,
        .four _ _ _ _ (by omega) ⟨atLeast, atMost⟩ next last ?_ ?_⟩
      all_goals rw [value]; omega

/-- A first octet that may begin a sequence is followed up. -/
theorem first?_of_opens {first : UInt8} {behind : List UInt8} {code : Nat} (above : 0xC2 ≤ first.toNat)
    (below : first.toNat < 0xF5) (continued : ∀ lead, Opens first.toNat lead →
      continue? lead.payload lead.low lead.high lead.more behind = .ok (code, rest)) :
    first? (first :: behind) (List.cons_ne_nil _ _) = .ok (Char.ofNat code, rest) := by
  rw [first?, if_neg (by omega)]
  cases found : lead? first.toNat with
  | none =>
    have outside := lead?_eq_none found
    omega
  | some lead =>
    dsimp only
    rw [continued lead (opens_of_lead? found)]
    rfl

/-- A sequence is read first, whatever follows it. -/
theorem Sequence.first?_append (sequence : Sequence char octets) (rest : List UInt8)
    (present : octets ++ rest ≠ []) : first? (octets ++ rest) present = .ok (char, rest) := by
  cases sequence with
  | one first below code =>
    change first? (first :: rest) present = _
    rw [first?, if_pos below, ← code, Char.ofNat_toNat]
  | two first second start tail code =>
    rw [← Char.ofNat_toNat char]
    refine first?_of_opens start.1 (by omega) fun lead opens => ?_
    cases opens with
    | two payload start atLeast below =>
      dsimp only
      exact continue?_zero.mpr ⟨second, rfl, tail, by omega⟩
    | three => omega
    | four => omega
  | three first second third start tail last code least =>
    rw [← Char.ofNat_toNat char]
    refine first?_of_opens (by omega) (by omega) fun lead opens => ?_
    cases opens with
    | two => omega
    | three payload low high start below range =>
      have valid : char.toNat < 0xD800 ∨ 0xDFFF < char.toNat ∧ char.toNat < 0x110000 := char.valid
      dsimp only
      refine continue?_succ.mpr ⟨second, _, rfl, (range _).mpr (by omega), ?_⟩
      exact continue?_zero.mpr ⟨third, rfl, last, by omega⟩
    | four => omega
  | four first second third fourth start tail next last code least =>
    rw [← Char.ofNat_toNat char]
    refine first?_of_opens (by omega) (by omega) fun lead opens => ?_
    cases opens with
    | two => omega
    | three => omega
    | four payload low high start below range =>
      have valid : char.toNat < 0xD800 ∨ 0xDFFF < char.toNat ∧ char.toNat < 0x110000 := char.valid
      dsimp only
      refine continue?_succ.mpr ⟨second, _, rfl, (range _).mpr (by omega), ?_⟩
      refine continue?_succ.mpr ⟨third, _, rfl, next, ?_⟩
      exact continue?_zero.mpr ⟨fourth, rfl, last, by omega⟩

/-- A character is read first exactly if its octets come first. -/
theorem first?_eq_ok (present : octets ≠ []) :
    first? octets present = .ok (char, rest) ↔ octets = String.utf8EncodeChar char ++ rest := by
  constructor
  · intro read
    obtain ⟨sequence, parts, own⟩ := sequence_of_first? read
    rw [parts, own.eq_encodeChar]
  · rintro rfl
    exact (sequence_encodeChar char).first?_append rest present

theorem encode_cons (char : Char) (text : List Char) :
    encode (char :: text) = String.utf8EncodeChar char ++ encode text := rfl

theorem decodeFrom_nil (offset : Nat) : decodeFrom offset [] = .ok [] := by
  rw [decodeFrom, dif_pos rfl]

theorem decodeFrom_encodeChar (offset : Nat) (char : Char) (rest : List UInt8) :
    decodeFrom offset (String.utf8EncodeChar char ++ rest) =
      (decodeFrom (offset + (String.utf8EncodeChar char).length) rest).map (char :: ·) := by
  have present : String.utf8EncodeChar char ++ rest ≠ [] := by
    simp only [ne_eq, List.append_eq_nil_iff, String.utf8EncodeChar_ne_nil, false_and, not_false_iff]
  rw [decodeFrom, dif_neg present]
  split
  · next reason read =>
    rw [(first?_eq_ok present).mpr rfl] at read
    cases read
  · next first behind read =>
    obtain ⟨rfl, rfl⟩ := Prod.mk.inj (Except.ok.inj (((first?_eq_ok present).mpr rfl).symm.trans read))
    rw [String.length_utf8EncodeChar]

/-- Characters that come first are decoded first, and the rest is decoded from where they end. -/
theorem decodeFrom_encode_append (offset : Nat) (text : List Char) (behind : List UInt8) :
    decodeFrom offset (encode text ++ behind) =
      (decodeFrom (offset + (encode text).length) behind).map (text ++ ·) := by
  induction text generalizing offset with
  | nil =>
    change decodeFrom offset behind = (decodeFrom offset behind).map id
    cases decodeFrom offset behind <;> rfl
  | cons char text ih =>
    rw [encode_cons, List.append_assoc, decodeFrom_encodeChar, ih, List.length_append, Nat.add_assoc]
    cases decodeFrom (offset + _) behind <;> rfl

/-- Octets are decoded exactly to the characters that they encode. -/
theorem decodeFrom_eq_ok {offset : Nat} : decodeFrom offset octets = .ok text ↔ octets = encode text := by
  constructor
  · intro decoded
    induction offset, octets using decodeFrom.induct generalizing text with
    | case1 offset =>
      rw [decodeFrom_nil] at decoded
      obtain rfl := Except.ok.inj decoded
      rfl
    | case2 offset octets present reason read =>
      rw [decodeFrom, dif_neg present] at decoded
      split at decoded
      · cases decoded
      · next again => cases read.symm.trans again
    | case3 offset octets present char rest read _ ih =>
      obtain rfl := (first?_eq_ok present).mp read
      rw [decodeFrom_encodeChar, String.length_utf8EncodeChar] at decoded
      obtain ⟨behind, rest, rfl⟩ := Outcome.map_eq_ok.mp decoded
      rw [encode_cons, ← ih rest]
  · rintro rfl
    have decoded := decodeFrom_encode_append offset text []
    rw [decodeFrom_nil, List.append_nil] at decoded
    rw [decoded, Except.map, List.append_nil]

/-- A fault lies behind some characters. -/
theorem text_before_fault {offset : Nat} {fault : Fault}
    (failed : decodeFrom offset octets = .error fault) :
    ∃ text behind, octets = encode text ++ behind ∧ fault.offset = offset + (encode text).length := by
  induction offset, octets using decodeFrom.induct with
  | case1 offset =>
    rw [decodeFrom_nil] at failed
    cases failed
  | case2 offset octets present reason read =>
    rw [decodeFrom, dif_neg present] at failed
    split at failed
    · obtain rfl := Except.error.inj failed
      exact ⟨[], octets, rfl, rfl⟩
    · next again => cases read.symm.trans again
  | case3 offset octets present char rest read _ ih =>
    obtain rfl := (first?_eq_ok present).mp read
    rw [decodeFrom_encodeChar, String.length_utf8EncodeChar] at failed
    obtain ⟨text, behind, rfl, position⟩ := ih (Outcome.map_eq_error.mp failed)
    refine ⟨char :: text, behind, by rw [encode_cons, List.append_assoc], ?_⟩
    rw [position, encode_cons, List.length_append, String.length_utf8EncodeChar, Nat.add_assoc]

/-- A fault lies behind the longest beginning that is text. -/
theorem longest_before_fault {offset : Nat} {fault : Fault}
    (failed : decodeFrom offset octets = .error fault) : ∃ text behind, octets = encode text ++ behind ∧
      fault.offset = offset + (encode text).length ∧ ∀ other more, octets = encode other ++ more →
        (encode other).length ≤ (encode text).length := by
  obtain ⟨text, behind, parts, position⟩ := text_before_fault failed
  refine ⟨text, behind, parts, position, ?_⟩
  rintro other more rfl
  rw [decodeFrom_encode_append] at failed
  obtain ⟨_, _, _, later⟩ := text_before_fault (Outcome.map_eq_error.mp failed)
  omega

/-- What characters are encoded as is decoded to them. -/
theorem decode_encode (text : List Char) : decode (encode text) = .ok text := decodeFrom_eq_ok.mpr rfl

end Utf8

/-- Characters below 128, each as one octet. -/
def octets (chars : List Char) : List UInt8 := chars.map fun char => UInt8.ofNat char.toNat

theorem octets_eq_encode {chars : List Char} (ascii : ∀ char ∈ chars, char.toNat < 128) :
    octets chars = Utf8.encode chars := by
  induction chars with
  | nil => rfl
  | cons char rest ih =>
    obtain ⟨own, later⟩ := List.forall_mem_cons.mp ascii
    have value : (UInt8.ofNat char.toNat).toNat = char.toNat :=
      Nat.mod_eq_of_lt (Nat.lt_trans own (by decide))
    have single : Utf8.Sequence char [UInt8.ofNat char.toNat] := .one _ (by omega) value.symm
    rw [Utf8.encode_cons, ← single.eq_encodeChar, ← ih later]
    rfl

/-- ASCII text is decoded from its own octets. -/
theorem decode_octets {chars : List Char} (ascii : ∀ char ∈ chars, char.toNat < 128) :
    Utf8.decode (octets chars) = .ok chars := by
  rw [octets_eq_encode ascii, Utf8.decode_encode]

end SchemeTyping.Text
