/-! Reading UTF-8. The first octet of a sequence fixes its length and the range of its second octet;
a fault names the first octet of the sequence that cannot be read. -/
namespace SchemeTyping.Text.Utf8

/-- Why a sequence of octets is no character. -/
inductive Reason where
  | invalidStart
  | invalidContinuation
  | unexpectedEnd
  deriving DecidableEq, Repr

def Reason.message : Reason → String
  | .invalidStart => "invalid start byte"
  | .invalidContinuation => "invalid continuation byte"
  | .unexpectedEnd => "unexpected end of data"

/-- A reason and the number of octets before the unreadable sequence. -/
structure Fault where
  reason : Reason
  offset : Nat
  deriving DecidableEq, Repr

/-- How a sequence goes on after its first octet: the payload so far, the range of the second octet
and the number of octets after that one. -/
structure Lead where
  payload : Nat
  low : Nat
  high : Nat
  more : Nat

/-- The sequences that a first octet above 0x7F may begin: no overlong form, no surrogate, nothing
above U+10FFFF. -/
def lead? (octet : Nat) : Option Lead :=
  if octet < 0xC2 then none
  else if octet < 0xE0 then some ⟨octet - 0xC0, 0x80, 0xBF, 0⟩
  else if octet = 0xE0 then some ⟨0, 0xA0, 0xBF, 1⟩
  else if octet = 0xED then some ⟨0xD, 0x80, 0x9F, 1⟩
  else if octet < 0xF0 then some ⟨octet - 0xE0, 0x80, 0xBF, 1⟩
  else if octet = 0xF0 then some ⟨0, 0x90, 0xBF, 2⟩
  else if octet < 0xF4 then some ⟨octet - 0xF0, 0x80, 0xBF, 2⟩
  else if octet = 0xF4 then some ⟨4, 0x80, 0x8F, 2⟩
  else none

/-- Read the octets of one sequence after its first: the second within `low` and `high`, then `more`
plain continuation octets. -/
def continue? (payload low high : Nat) : Nat → List UInt8 → Except Reason (Nat × List UInt8)
  | _, [] => .error .unexpectedEnd
  | more, octet :: rest =>
    if octet.toNat < low || high < octet.toNat then .error .invalidContinuation
    else
      match more with
      | 0 => .ok (payload * 64 + (octet.toNat - 0x80), rest)
      | more + 1 => continue? (payload * 64 + (octet.toNat - 0x80)) 0x80 0xBF more rest

/-- Read the first character. -/
def first? : (octets : List UInt8) → octets ≠ [] → Except Reason (Char × List UInt8)
  | octet :: rest, _ =>
    if octet.toNat < 0x80 then .ok (Char.ofNat octet.toNat, rest)
    else
      match lead? octet.toNat with
      | none => .error .invalidStart
      | some lead =>
        (continue? lead.payload lead.low lead.high lead.more rest).map fun (code, rest) =>
          (Char.ofNat code, rest)

theorem length_continue? {payload low high more : Nat} {octets rest : List UInt8} {code : Nat}
    (read : continue? payload low high more octets = .ok (code, rest)) :
    rest.length < octets.length := by
  induction octets generalizing payload low high more with
  | nil => cases more <;> simp [continue?] at read
  | cons octet tail ih =>
    cases more with
    | zero =>
      simp only [continue?] at read
      split at read
      · cases read
      · simp only [Except.ok.injEq, Prod.mk.injEq] at read; simp [read.2]
    | succ more =>
      simp only [continue?] at read
      split at read
      · cases read
      · exact Nat.lt_succ_of_lt (ih read)

theorem length_first? {octets rest : List UInt8} {present : octets ≠ []} {char : Char}
    (read : first? octets present = .ok (char, rest)) : rest.length < octets.length := by
  cases octets with
  | nil => exact absurd rfl present
  | cons octet tail =>
    rw [first?] at read
    split at read
    · simp only [Except.ok.injEq, Prod.mk.injEq] at read; simp [read.2]
    · split at read
      · cases read
      · cases found : continue? _ _ _ _ tail with
        | error reason => rw [found] at read; cases read
        | ok result =>
          rw [found] at read
          simp only [Except.map, Except.ok.injEq, Prod.mk.injEq] at read
          have shorter := length_continue? found
          rw [read.2] at shorter
          exact Nat.lt_succ_of_lt shorter

/-- Read octets that follow `offset` earlier ones. -/
def decodeFrom (offset : Nat) (octets : List UInt8) : Except Fault (List Char) :=
  if empty : octets = [] then .ok []
  else
    match read : first? octets empty with
    | .error reason => .error ⟨reason, offset⟩
    | .ok (char, rest) =>
      have := length_first? read
      (decodeFrom (offset + char.utf8Size) rest).map (char :: ·)
  termination_by octets.length

/-- The characters of a sequence of octets. -/
def decode (octets : List UInt8) : Except Fault (List Char) := decodeFrom 0 octets

end SchemeTyping.Text.Utf8
