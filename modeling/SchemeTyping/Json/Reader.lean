import SchemeTyping.Json.Value
import SchemeTyping.Table

/-! Reading JSON text whose numbers are whole. Characters make up tokens, and each token is one step of an
automaton that keeps the lists and records around it on a stack. A key that comes again replaces the
value of the first one in its place. -/
namespace SchemeTyping.Json

/-- The value of a hexadecimal digit in either case. -/
def hexDigit? (char : Char) : Option Nat :=
  if char.isDigit then some (char.toNat - 0x30)
  else if 0x61 ≤ char.toNat && char.toNat ≤ 0x66 then some (char.toNat - 0x57)
  else if 0x41 ≤ char.toNat && char.toNat ≤ 0x46 then some (char.toNat - 0x37)
  else none

/-- The UTF-16 unit that hexadecimal digits spell. -/
def unit? (digits : List Char) : Option Nat :=
  digits.foldlM (fun unit digit => (hexDigit? digit).map (unit * 16 + ·)) 0

/-- The code for which a character behind a backslash stands. -/
def shortEscape? : Char → Option Nat
  | '"' => some 0x22
  | '\\' => some 0x5C
  | '/' => some 0x2F
  | 'b' => some 0x8
  | 'f' => some 0xC
  | 'n' => some 0xA
  | 'r' => some 0xD
  | 't' => some 0x9
  | _ => none

/-- A code before others, if both can be read. -/
def withCode? : Option Nat → Option (List Nat × List Char) → Option (List Nat × List Char)
  | some code, some (codes, rest) => some (code :: codes, rest)
  | _, _ => none

/-- The codes of a string up to its closing quote, and the characters behind it. -/
def string? : List Char → Option (List Nat × List Char)
  | [] => none
  | '"' :: rest => some ([], rest)
  | '\\' :: 'u' :: first :: second :: third :: fourth :: rest =>
    withCode? (unit? [first, second, third, fourth]) (string? rest)
  | '\\' :: char :: rest => withCode? (shortEscape? char) (string? rest)
  | char :: rest =>
    if char.toNat < 0x20 then none else withCode? (some char.toNat) (string? rest)

/-- The characters of codes, two surrogates in a row being one character. A lone one is none. -/
def joinSurrogates? : List Nat → Option (List Char)
  | [] => some []
  | high :: low :: rest =>
    if 0xD800 ≤ high && high < 0xDC00 && 0xDC00 ≤ low && low < 0xE000 then
      (joinSurrogates? rest).map
        (Char.ofNat (0x10000 + (high - 0xD800) * 0x400 + (low - 0xDC00)) :: ·)
    else if high.isValidChar then (joinSurrogates? (low :: rest)).map (Char.ofNat high :: ·)
    else none
  | [code] => if code.isValidChar then some [Char.ofNat code] else none

/-- The number that decimal digits spell. Zero is the only one that begins with a zero. -/
def numeral? (digits : List Char) : Option Nat :=
  if digits = [] || (digits.head? == some '0' && digits != ['0']) then none
  else some (Nat.ofDigitChars 10 digits 0)

inductive Token where
  | openList
  | closeList
  | openRecord
  | closeRecord
  | comma
  | colon
  | scalar (value : Value)

/-- The number with which digits come first, if it is accepted. -/
def number? (accepts : Int → Bool) (sign : Int) (chars : List Char) : Option (Token × List Char) :=
  match numeral? (chars.takeWhile Char.isDigit) with
  | none => none
  | some size =>
    if accepts (sign * size) then
      some (.scalar (.number (sign * size)), chars.dropWhile Char.isDigit)
    else none

/-- The token with which characters begin, and the characters behind it. -/
def token? (accepts : Int → Bool) : List Char → Option (Token × List Char)
  | '[' :: rest => some (.openList, rest)
  | ']' :: rest => some (.closeList, rest)
  | '\x7b' :: rest => some (.openRecord, rest)
  | '\x7d' :: rest => some (.closeRecord, rest)
  | ',' :: rest => some (.comma, rest)
  | ':' :: rest => some (.colon, rest)
  | '"' :: rest =>
    match string? rest with
    | none => none
    | some (codes, rest) =>
      (joinSurrogates? codes).map fun chars => (.scalar (.text (String.ofList chars)), rest)
  | 'n' :: 'u' :: 'l' :: 'l' :: rest => some (.scalar .null, rest)
  | 't' :: 'r' :: 'u' :: 'e' :: rest => some (.scalar (.flag true), rest)
  | 'f' :: 'a' :: 'l' :: 's' :: 'e' :: rest => some (.scalar (.flag false), rest)
  | '-' :: rest => number? accepts (-1) rest
  | chars => number? accepts 1 chars

theorem withCode?_eq_some {code? : Option Nat} {later : Option (List Nat × List Char)}
    {codes : List Nat} {rest : List Char} : withCode? code? later = some (codes, rest) ↔
      ∃ code behind, code? = some code ∧ later = some (behind, rest) ∧ codes = code :: behind := by
  cases code? with
  | none => simp [withCode?]
  | some code =>
    cases later with
    | none => simp [withCode?]
    | some read =>
      constructor
      · intro same
        obtain ⟨rfl, rfl⟩ := Prod.mk.inj (Option.some.inj same)
        exact ⟨code, read.1, rfl, rfl, rfl⟩
      · rintro ⟨_, _, same, found, rfl⟩
        cases same
        cases found
        rfl

theorem length_string? {chars rest : List Char} {codes : List Nat}
    (read : string? chars = some (codes, rest)) : rest.length ≤ chars.length := by
  induction chars using string?.induct generalizing codes rest with
  | case1 => cases read
  | case2 behind =>
    obtain ⟨_, rfl⟩ := Prod.mk.inj (Option.some.inj read)
    exact Nat.le_succ _
  | case3 first second third fourth behind ih =>
    rw [string?] at read
    obtain ⟨_, _, _, later, _⟩ := withCode?_eq_some.mp read
    have shorter := ih later
    simp only [List.length_cons]
    omega
  | case4 char behind plain ih =>
    rw [string?] at read
    · obtain ⟨_, _, _, later, _⟩ := withCode?_eq_some.mp read
      have shorter := ih later
      simp only [List.length_cons]
      omega
    · exact plain
  | case5 char behind closing plain bare low =>
    rw [string?, if_pos low] at read
    · cases read
    · exact closing
    · exact plain
    · exact bare
  | case6 char behind closing plain bare high ih =>
    rw [string?, if_neg high] at read
    · obtain ⟨_, _, _, later, _⟩ := withCode?_eq_some.mp read
      exact Nat.le_succ_of_le (ih later)
    · exact closing
    · exact plain
    · exact bare

theorem length_number? {accepts : Int → Bool} {sign : Int} {chars rest : List Char} {token : Token}
    (read : number? accepts sign chars = some (token, rest)) : rest.length < chars.length := by
  unfold number? at read
  split at read
  · cases read
  split at read
  · next size spelled _ =>
    obtain ⟨_, rfl⟩ := Prod.mk.inj (Option.some.inj read)
    have present : chars.takeWhile Char.isDigit ≠ [] := by
      rintro missing
      rw [missing] at spelled
      cases spelled
    have parts := congrArg List.length (List.takeWhile_append_dropWhile (p := Char.isDigit) (l := chars))
    rw [List.length_append] at parts
    have some := List.length_pos_iff.mpr present
    omega
  · cases read

theorem length_token? {accepts : Int → Bool} {chars rest : List Char} {token : Token}
    (read : token? accepts chars = some (token, rest)) : rest.length < chars.length := by
  unfold token? at read
  split at read
  case h_7 behind =>
    split at read
    · cases read
    next codes after found =>
    obtain ⟨_, _, same⟩ := Option.map_eq_some_iff.mp read
    obtain ⟨_, rfl⟩ := Prod.mk.inj same
    exact Nat.lt_succ_of_le (length_string? found)
  case h_11 => exact Nat.lt_succ_of_lt (length_number? read)
  case h_12 => exact length_number? read
  all_goals
    obtain ⟨_, rfl⟩ := Prod.mk.inj (Option.some.inj read)
    simp only [List.length_cons]
    omega

/-- The characters between tokens. -/
def isBlank (char : Char) : Bool := char == ' ' || char == '\n' || char == '\r' || char == '\t'

/-- The tokens that characters make up. -/
def tokens? (accepts : Int → Bool) (chars : List Char) : Option (List Token) :=
  match chars with
  | [] => some []
  | char :: rest =>
    if isBlank char then tokens? accepts rest
    else
      match _read : token? accepts (char :: rest) with
      | none => none
      | some (token, behind) => (tokens? accepts behind).map (token :: ·)
  termination_by chars.length
  decreasing_by
  · exact Nat.lt_succ_self _
  · exact length_token? _read

/-- A list or record that stands open, with what came before the value that is being read. -/
inductive Frame where
  | list (items : List Value)
  | record (fields : List (String × Value)) (key : String)

/-- What may come next, with the frames that stand open from the inside out. -/
inductive State where
  | value (outer : List Frame)
  | firstItem (outer : List Frame)
  | firstField (outer : List Frame)
  | field (outer : List Frame) (fields : List (String × Value))
  | separator (outer : List Frame) (fields : List (String × Value)) (key : String)
  | done (outer : List Frame) (value : Value)

/-- A record of fields, of which later ones with the same key replace earlier values. -/
def Value.ofFields (fields : List (String × Value)) : Value := .record (Table.ofList fields).entries

/-- Where a value may begin. -/
def begin? (outer : List Frame) : Token → Option State
  | .scalar value => some (.done outer value)
  | .openList => some (.firstItem outer)
  | .openRecord => some (.firstField outer)
  | _ => none

/-- What follows on one token. -/
def State.step? : State → Token → Option State
  | .value outer, token => begin? outer token
  | .firstItem outer, .closeList => some (.done outer (.list []))
  | .firstItem outer, token => begin? (.list [] :: outer) token
  | .firstField outer, .closeRecord => some (.done outer (.ofFields []))
  | .firstField outer, .scalar (.text key) => some (.separator outer [] key)
  | .field outer fields, .scalar (.text key) => some (.separator outer fields key)
  | .separator outer fields key, .colon => some (.value (.record fields key :: outer))
  | .done (.list items :: outer) last, .comma => some (.value (.list (items ++ [last]) :: outer))
  | .done (.list items :: outer) last, .closeList => some (.done outer (.list (items ++ [last])))
  | .done (.record fields key :: outer) last, .comma => some (.field outer (fields ++ [(key, last)]))
  | .done (.record fields key :: outer) last, .closeRecord =>
    some (.done outer (.ofFields (fields ++ [(key, last)])))
  | _, _ => none

/-- The value that is complete with nothing open around it. -/
def State.result? : State → Option Value
  | .done [] last => some last
  | _ => none

/-- The value that JSON text stands for, if it is JSON and its numbers are whole and accepted. -/
def read? (accepts : Int → Bool) (text : String) : Option Value :=
  ((tokens? accepts text.toList).bind fun tokens => tokens.foldlM State.step? (.value [])).bind
    State.result?

end SchemeTyping.Json
