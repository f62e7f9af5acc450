import SchemeTyping.Json.Printer
import SchemeTyping.Json.Reader

/-! Tokens of printed JSON. Escapes are read as the characters that they stand for and numerals as their
numbers, whatever follows them. -/
namespace SchemeTyping.Json
variable {accepts : Int → Bool} {rest : List Char}

/-! ### Strings -/

theorem hexDigit?_digitChar {digit : Nat} (below : digit < 16) :
    hexDigit? (Nat.digitChar digit) = some digit := by
  have each : ∀ digit < 16, hexDigit? (Nat.digitChar digit) = some digit := by decide
  exact each digit below

theorem unit?_hexDigits {unit : Nat} (below : unit < 0x10000) : ∃ first second third fourth,
    Text.hexDigits 4 unit = [first, second, third, fourth] ∧
      unit? [first, second, third, fourth] = some unit := by
  refine ⟨_, _, _, _, rfl, ?_⟩
  simp only [unit?, List.foldlM_cons, List.foldlM_nil, hexDigit?_digitChar (Nat.mod_lt _ (by decide : 16 > 0)),
    Option.map_some, Option.bind_eq_bind, Option.bind_some, Option.pure_def, Option.some.injEq, Nat.pow_eq]
  omega

/-- Codes before those that are read next. -/
def prependCodes (codes : List Nat) (later : Option (List Nat × List Char)) : Option (List Nat × List Char) :=
  later.map fun read => (codes ++ read.1, read.2)

theorem withCode?_some (code : Nat) (later : Option (List Nat × List Char)) :
    withCode? (some code) later = prependCodes [code] later := by
  cases later <;> rfl

theorem string?_escapeUnit {unit : Nat} (below : unit < 0x10000) :
    string? (escapeUnit unit ++ rest) = prependCodes [unit] (string? rest) := by
  obtain ⟨first, second, third, fourth, spelled, read⟩ := unit?_hexDigits below
  rw [escapeUnit, spelled, ← withCode?_some, ← read]
  rfl

/-- The UTF-16 units of a character. -/
def units (char : Char) : List Nat :=
  if char.toNat < 0x10000 then [char.toNat]
  else [0xD800 + (char.toNat - 0x10000) / 0x400, 0xDC00 + (char.toNat - 0x10000) % 0x400]

theorem string?_plain {char : Char} (visible : 0x20 ≤ char.toNat) (closing : char ≠ '"')
    (escaping : char ≠ '\\') : string? (char :: rest) = prependCodes [char.toNat] (string? rest) := by
  rw [string?, if_neg (by omega), withCode?_some]
  · exact closing
  · rintro _ _ _ _ _ rfl
    exact absurd rfl escaping
  · rintro _ _ rfl
    exact absurd rfl escaping

/-- An escaped character is read as its units. -/
theorem string?_escapeChar (char : Char) :
    string? (escapeChar char ++ rest) = prependCodes (units char) (string? rest) := by
  have valid : char.toNat < 0xD800 ∨ 0xDFFF < char.toNat ∧ char.toNat < 0x110000 := char.valid
  unfold escapeChar
  -- First the escapes by a letter, then the characters that stand for themselves, then the units.
  split
  · next own => rw [own]; exact withCode?_some _ _
  split
  · next own => rw [own]; exact withCode?_some _ _
  split
  · next own => rw [own]; exact withCode?_some _ _
  split
  · next own => rw [own]; exact withCode?_some _ _
  split
  · next own => rw [own]; exact withCode?_some _ _
  split
  · next own =>
    rw [units, if_pos (by omega), own]
    exact withCode?_some _ _
  split
  · next own =>
    rw [units, if_pos (by omega), own]
    exact withCode?_some _ _
  split
  · next closing escaping _ _ _ _ _ printable =>
    simp only [Bool.and_eq_true, decide_eq_true_eq] at printable
    rw [units, if_pos (by omega)]
    exact string?_plain printable.1 closing escaping
  split
  · next small =>
    rw [units, if_pos small]
    exact string?_escapeUnit small
  · next large =>
    rw [units, if_neg large, List.append_assoc, string?_escapeUnit (by omega), string?_escapeUnit (by omega)]
    cases string? rest <;> rfl

theorem joinSurrogates?_units (char : Char) (codes : List Nat) :
    joinSurrogates? (units char ++ codes) = (joinSurrogates? codes).map (char :: ·) := by
  have valid : char.toNat < 0xD800 ∨ 0xDFFF < char.toNat ∧ char.toNat < 0x110000 := char.valid
  unfold units
  split
  · have own : char.toNat.isValidChar := char.valid
    cases codes with
    | nil => simp only [List.append_nil, joinSurrogates?, if_pos own, Char.ofNat_toNat, Option.map_some]
    | cons code codes =>
      have lone : ¬ (0xD800 ≤ char.toNat && char.toNat < 0xDC00 && 0xDC00 ≤ code && code < 0xE000) = true := by
        simp only [Bool.and_eq_true, decide_eq_true_eq]
        omega
      rw [List.singleton_append, joinSurrogates?, if_neg lone, if_pos own, Char.ofNat_toNat]
  · next large =>
    have paired : (0xD800 ≤ 0xD800 + (char.toNat - 0x10000) / 0x400 &&
        0xD800 + (char.toNat - 0x10000) / 0x400 < 0xDC00 &&
        0xDC00 ≤ 0xDC00 + (char.toNat - 0x10000) % 0x400 &&
        0xDC00 + (char.toNat - 0x10000) % 0x400 < 0xE000) = true := by
      simp only [Bool.and_eq_true, decide_eq_true_eq]
      omega
    have code : 0x10000 + (0xD800 + (char.toNat - 0x10000) / 0x400 - 0xD800) * 0x400 +
        (0xDC00 + (char.toNat - 0x10000) % 0x400 - 0xDC00) = char.toNat := by omega
    rw [List.cons_append, List.singleton_append, joinSurrogates?, if_pos paired, code, Char.ofNat_toNat]

theorem string?_flatMap (chars : List Char) :
    string? (chars.flatMap escapeChar ++ '"' :: rest) = some (chars.flatMap units, rest) := by
  induction chars with
  | nil => rfl
  | cons char chars ih =>
    rw [List.flatMap_cons, List.append_assoc, string?_escapeChar, ih]
    rfl

theorem joinSurrogates?_flatMap (chars : List Char) :
    joinSurrogates? (chars.flatMap units) = some chars := by
  induction chars with
  | nil => rfl
  | cons char chars ih =>
    rw [List.flatMap_cons, joinSurrogates?_units, ih]
    rfl

theorem toList_quote (text : String) :
    (quote text).toList = '"' :: (text.toList.flatMap escapeChar ++ ['"']) := by
  rw [quote, String.toList_ofList, List.cons_append]

/-- A quoted text is read back. -/
theorem token?_quote (text : String) :
    token? accepts ((quote text).toList ++ rest) = some (.scalar (.text text), rest) := by
  rw [toList_quote, List.cons_append, List.append_assoc, List.singleton_append]
  simp only [token?, string?_flatMap, joinSurrogates?_flatMap, Option.map_some, String.ofList_toList]

/-! ### Numbers -/

/-- No digit comes next. -/
def Ends (rest : List Char) : Prop := ∀ char ∈ rest.head?, char.isDigit = false

theorem ends_nil : Ends [] := by simp [Ends]

theorem ends_cons {char : Char} (other : char.isDigit = false) : Ends (char :: rest) := by
  simpa [Ends] using other

theorem head?_toDigits {number : Nat} (positive : 0 < number) :
    (Nat.toDigits 10 number).head? ≠ some '0' := by
  induction number using Nat.strongRecOn with
  | ind number ih =>
    rw [Nat.toDigits_eq_if (by decide)]
    split
    · simp only [List.head?_cons, ne_eq, Option.some.injEq, Nat.digitChar_eq_zero]
      omega
    · next large =>
      have plain := ih (number / 10) (by omega) (by omega)
      obtain ⟨first, more, parts⟩ := List.exists_cons_of_ne_nil
        (Nat.toDigits_ne_nil (n := number / 10) (b := 10))
      rw [parts] at plain ⊢
      exact plain

theorem numeral?_toDigits (number : Nat) : numeral? (Nat.toDigits 10 number) = some number := by
  by_cases zero : number = 0
  · rw [zero]
    rfl
  · have plain := head?_toDigits (Nat.pos_of_ne_zero zero)
    simp [numeral?, plain, Nat.ofDigitChars_ten_toDigits]

theorem number?_toDigits (sign : Int) {number : Nat} (accepted : accepts (sign * number) = true)
    (ends : Ends rest) : number? accepts sign (Nat.toDigits 10 number ++ rest) =
      some (.scalar (.number (sign * number)), rest) := by
  have digits : ∀ char ∈ Nat.toDigits 10 number, char.isDigit = true :=
    fun char member => Nat.isDigit_of_mem_toDigits (by decide) (by decide) member
  have none : rest.takeWhile Char.isDigit = [] ∧ rest.dropWhile Char.isDigit = rest := by
    cases rest with
    | nil => exact ⟨rfl, rfl⟩
    | cons char rest =>
      have other : char.isDigit = false := ends char rfl
      exact ⟨List.takeWhile_cons_of_neg (by simp [other]), List.dropWhile_cons_of_neg (by simp [other])⟩
  rw [number?, List.takeWhile_append_of_pos digits, List.dropWhile_append_of_pos digits, none.1, none.2,
    List.append_nil, numeral?_toDigits]
  exact if_pos accepted

theorem token?_of_isDigit {char : Char} (digit : char.isDigit = true) :
    token? accepts (char :: rest) = number? accepts 1 (char :: rest) := by
  unfold token?
  split
  case h_12 => rfl
  all_goals
    next same =>
      obtain ⟨rfl, _⟩ := List.cons.inj same
      exact absurd digit (by decide)

/-- A number is read back, unless a digit follows it. -/
theorem token?_toString {number : Int} (accepted : accepts number = true) (ends : Ends rest) :
    token? accepts ((toString number).toList ++ rest) = some (.scalar (.number number), rest) := by
  cases number with
  | ofNat size =>
    have spelled : (toString (Int.ofNat size)).toList = Nat.toDigits 10 size := Nat.toList_repr
    have positive : (1 : Int) * size = Int.ofNat size := Int.one_mul _
    have read := number?_toDigits 1 (positive.symm ▸ accepted) ends
    rw [positive] at read
    rw [spelled]
    obtain ⟨char, more, parts⟩ := List.exists_cons_of_ne_nil (Nat.toDigits_ne_nil (n := size) (b := 10))
    have digit : char.isDigit = true := by
      refine Nat.isDigit_of_mem_toDigits (b := 10) (n := size) (by decide) (by decide) ?_
      rw [parts]
      exact List.mem_cons_self
    rw [parts, List.cons_append] at read ⊢
    rw [token?_of_isDigit digit, read]
  | negSucc size =>
    have spelled : (toString (Int.negSucc size)).toList = '-' :: Nat.toDigits 10 size.succ := by
      change ("-" ++ size.succ.repr).toList = _
      rw [String.toList_append, Nat.toList_repr]
      rfl
    have negative : (-1 : Int) * (size.succ : Nat) = Int.negSucc size := by
      rw [Int.neg_one_mul]
      rfl
    have read := number?_toDigits (-1) (negative.symm ▸ accepted) ends
    rw [negative] at read
    rw [spelled, List.cons_append, token?, read]

/-! ### Values -/

theorem isBlank_of_token? {char : Char} {read : Token × List Char}
    (found : token? accepts (char :: rest) = some read) : isBlank char = false := by
  rw [Bool.eq_false_iff]
  intro blank
  simp only [isBlank, Bool.or_eq_true, beq_iff_eq] at blank
  obtain ((rfl | rfl) | rfl) | rfl := blank
  all_goals cases found

theorem tokens?_of_token? {chars behind : List Char} {token : Token}
    (read : token? accepts chars = some (token, behind)) :
    tokens? accepts chars = (tokens? accepts behind).map (token :: ·) := by
  cases chars with
  | nil => cases read
  | cons char rest =>
    rw [tokens?, if_neg (by simp [isBlank_of_token? read])]
    split
    · next failed => cases read.symm.trans failed
    · next again =>
      obtain ⟨rfl, rfl⟩ := Prod.mk.inj (Option.some.inj (read.symm.trans again))
      rfl

theorem tokens?_blank {char : Char} (blank : isBlank char = true) :
    tokens? accepts (char :: rest) = tokens? accepts rest := by
  rw [tokens?, if_pos blank]

theorem tokens?_openList : tokens? accepts ("[".toList ++ rest) =
    (tokens? accepts rest).map (.openList :: ·) := tokens?_of_token? rfl

theorem tokens?_closeList : tokens? accepts ("]".toList ++ rest) =
    (tokens? accepts rest).map (.closeList :: ·) := tokens?_of_token? rfl

theorem tokens?_openRecord : tokens? accepts ("\x7b".toList ++ rest) =
    (tokens? accepts rest).map (.openRecord :: ·) := tokens?_of_token? rfl

theorem tokens?_closeRecord : tokens? accepts ("\x7d".toList ++ rest) =
    (tokens? accepts rest).map (.closeRecord :: ·) := tokens?_of_token? rfl

theorem tokens?_colon : tokens? accepts (": ".toList ++ rest) =
    (tokens? accepts rest).map (.colon :: ·) := by
  have read : token? accepts (": ".toList ++ rest) = some (.colon, ' ' :: rest) := rfl
  rw [tokens?_of_token? read, tokens?_blank rfl]

theorem tokens?_quote (text : String) : tokens? accepts ((quote text).toList ++ rest) =
    (tokens? accepts rest).map (.scalar (.text text) :: ·) :=
  tokens?_of_token? (token?_quote text)

theorem tokens?_break (layout : Layout) (depth : Nat) :
    tokens? accepts ((layout.break depth).toList ++ rest) = tokens? accepts rest := by
  cases layout with
  | line => rfl
  | lines indent =>
    rw [Layout.break, String.toList_ofList, List.cons_append, tokens?_blank rfl]
    induction indent * depth with
    | zero => rfl
    | succ count ih => rw [List.replicate_succ, List.cons_append, tokens?_blank rfl, ih]

theorem tokens?_comma (layout : Layout) (depth : Nat) :
    tokens? accepts ((layout.comma depth).toList ++ rest) = (tokens? accepts rest).map (.comma :: ·) := by
  cases layout with
  | line =>
    have read : token? accepts (", ".toList ++ rest) = some (.comma, ' ' :: rest) := rfl
    rw [Layout.comma, tokens?_of_token? read, tokens?_blank rfl]
  | lines indent =>
    have read : token? accepts (",".toList ++ (((Layout.lines indent).break depth).toList ++ rest)) =
        some (.comma, ((Layout.lines indent).break depth).toList ++ rest) := rfl
    rw [Layout.comma, String.toList_append, List.append_assoc, tokens?_of_token? read, tokens?_break]

theorem ends_break (layout : Layout) (depth : Nat) (ends : Ends rest) :
    Ends ((layout.break depth).toList ++ rest) := by
  cases layout with
  | line => exact ends
  | lines indent =>
    rw [Layout.break, String.toList_ofList, List.cons_append]
    exact ends_cons (by decide)

theorem ends_comma (layout : Layout) (depth : Nat) : Ends ((layout.comma depth).toList ++ rest) := by
  cases layout with
  | line =>
    rw [Layout.comma]
    exact ends_cons (by decide : ','.isDigit = false)
  | lines indent =>
    rw [Layout.comma, String.toList_append]
    exact ends_cons (by decide : ','.isDigit = false)

mutual
/-- The tokens of a value. -/
def Value.tokens : Value → List Token
  | .list [] => [.openList, .closeList]
  | .list (item :: rest) => .openList :: (item.tokens ++ itemTokens rest ++ [.closeList])
  | .record [] => [.openRecord, .closeRecord]
  | .record ((key, value) :: rest) =>
    .openRecord :: .scalar (.text key) :: .colon :: (value.tokens ++ fieldTokens rest ++ [.closeRecord])
  | value => [.scalar value]

/-- The tokens of items behind another one. -/
def itemTokens : List Value → List Token
  | [] => []
  | item :: rest => .comma :: (item.tokens ++ itemTokens rest)

/-- The tokens of fields behind another one. -/
def fieldTokens : List (String × Value) → List Token
  | [] => []
  | (key, value) :: rest =>
    .comma :: .scalar (.text key) :: .colon :: (value.tokens ++ fieldTokens rest)
end

theorem ends_printItems (layout : Layout) (depth : Nat) (items : List Value) (ends : Ends rest) :
    Ends ((printItems layout depth items).toList ++ rest) := by
  cases items with
  | nil => exact ends
  | cons item items =>
    simp only [printItems, String.toList_append, List.append_assoc]
    exact ends_comma layout depth

theorem ends_printFields (layout : Layout) (depth : Nat) (fields : List (String × Value))
    (ends : Ends rest) : Ends ((printFields layout depth fields).toList ++ rest) := by
  cases fields with
  | nil => exact ends
  | cons field fields =>
    simp only [printFields, String.toList_append, List.append_assoc]
    exact ends_comma layout depth

mutual
/-- Printed text falls apart into the tokens of its value, whatever the layout. -/
theorem tokens?_printAt (layout : Layout) (depth : Nat) (value : Value) {rest : List Char}
    (accepted : ∀ number ∈ value.numbers, accepts number = true) (ends : Ends rest) :
    tokens? accepts ((value.printAt layout depth).toList ++ rest) =
      (tokens? accepts rest).map (value.tokens ++ ·) := by
  match value with
  | .null =>
    rw [Value.printAt]
    exact tokens?_of_token? rfl
  | .flag true =>
    rw [Value.printAt]
    exact tokens?_of_token? rfl
  | .flag false =>
    rw [Value.printAt]
    exact tokens?_of_token? rfl
  | .number number =>
    exact tokens?_of_token? (token?_toString (accepted number List.mem_cons_self) ends)
  | .text text => exact tokens?_quote text
  | .list [] =>
    have read : token? accepts ("[]".toList ++ rest) = some (.openList, "]".toList ++ rest) := rfl
    rw [Value.printAt, tokens?_of_token? read, tokens?_closeList, Option.map_map]
    rfl
  | .list (item :: items) =>
    obtain ⟨own, later⟩ := List.forall_mem_append.mp accepted
    have closed : Ends ((layout.break depth).toList ++ ("]".toList ++ rest)) :=
      ends_break layout depth (ends_cons (by decide))
    simp only [Value.printAt, String.toList_append, List.append_assoc]
    rw [tokens?_openList, tokens?_break,
      tokens?_printAt layout (depth + 1) item own (ends_printItems layout (depth + 1) items closed),
      tokens?_printItems layout (depth + 1) items later closed, tokens?_break, tokens?_closeList]
    simp only [Value.tokens, Option.map_map, Function.comp_def, List.cons_append, List.append_assoc,
      List.nil_append]
  | .record [] =>
    have read : token? accepts ("\x7b\x7d".toList ++ rest) = some (.openRecord, "\x7d".toList ++ rest) := rfl
    rw [Value.printAt, tokens?_of_token? read, tokens?_closeRecord, Option.map_map]
    rfl
  | .record ((key, value) :: fields) =>
    obtain ⟨own, later⟩ := List.forall_mem_append.mp accepted
    have closed : Ends ((layout.break depth).toList ++ ("\x7d".toList ++ rest)) :=
      ends_break layout depth (ends_cons (by decide))
    simp only [Value.printAt, String.toList_append, List.append_assoc]
    rw [tokens?_openRecord, tokens?_break, tokens?_quote, tokens?_colon,
      tokens?_printAt layout (depth + 1) value own (ends_printFields layout (depth + 1) fields closed),
      tokens?_printFields layout (depth + 1) fields later closed, tokens?_break, tokens?_closeRecord]
    simp only [Value.tokens, Option.map_map, Function.comp_def, List.cons_append, List.append_assoc,
      List.nil_append]

theorem tokens?_printItems (layout : Layout) (depth : Nat) (items : List Value) {rest : List Char}
    (accepted : ∀ number ∈ itemNumbers items, accepts number = true) (ends : Ends rest) :
    tokens? accepts ((printItems layout depth items).toList ++ rest) =
      (tokens? accepts rest).map (itemTokens items ++ ·) := by
  match items with
  | [] => exact (Option.map_id').symm
  | item :: items =>
    obtain ⟨own, later⟩ := List.forall_mem_append.mp accepted
    simp only [printItems, String.toList_append, List.append_assoc]
    rw [tokens?_comma, tokens?_printAt layout depth item own (ends_printItems layout depth items ends),
      tokens?_printItems layout depth items later ends]
    simp only [itemTokens, Option.map_map, Function.comp_def, List.cons_append, List.append_assoc]

theorem tokens?_printFields (layout : Layout) (depth : Nat) (fields : List (String × Value))
    {rest : List Char} (accepted : ∀ number ∈ fieldNumbers fields, accepts number = true) (ends : Ends rest) :
    tokens? accepts ((printFields layout depth fields).toList ++ rest) =
      (tokens? accepts rest).map (fieldTokens fields ++ ·) := by
  match fields with
  | [] => exact (Option.map_id').symm
  | (key, value) :: fields =>
    obtain ⟨own, later⟩ := List.forall_mem_append.mp accepted
    simp only [printFields, String.toList_append, List.append_assoc]
    rw [tokens?_comma, tokens?_quote, tokens?_colon,
      tokens?_printAt layout depth value own (ends_printFields layout depth fields ends),
      tokens?_printFields layout depth fields later ends]
    simp only [fieldTokens, Option.map_map, Function.comp_def, List.cons_append, List.append_assoc]
end

end SchemeTyping.Json
