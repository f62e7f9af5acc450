import SchemeTyping.Proofs.Peg.Tracing

/-! Locality: what an expression takes hangs on the character behind it at most. What follows may then be
cut off, or replaced behind that character; and a match that ends with its input only grows when the input
goes on, if the expression ends with what nothing behind it can undo. -/
namespace SchemeTyping.Peg
variable {Rule : Type} {start : Nat} {taken rest other : List Char} {trees : List (Tree Rule)}
  {expr otherExpr body : Expr Rule} {allowed fits : Option Char → Prop}

/-- What an expression takes before allowed characters is settled: what follows may be cut off, and what
stands behind an allowed character may be replaced. -/
structure Settled (expr : Expr Rule) (allowed : Option Char → Prop) : Prop where
  cut : ∀ {start : Nat} {taken rest : List Char} {trees : List (Tree Rule)},
    Takes expr start taken rest trees → Takes expr start taken [] trees
  steady : ∀ {start : Nat} {taken rest other : List Char} {trees : List (Tree Rule)},
    Takes expr start taken rest trees → allowed rest.head? → other.head? = rest.head? →
      Takes expr start taken other trees

/-- An expression is local before allowed characters: what it takes is settled, and so is its trace. -/
structure Local (expr : Expr Rule) (allowed : Option Char → Prop) : Prop extends Settled expr allowed where
  traced : Settled expr.traced allowed

/-- What an expression takes does not depend on what follows. -/
def Firm (expr : Expr Rule) : Prop :=
  ∀ ⦃start : Nat⦄ ⦃taken rest other : List Char⦄ ⦃trees : List (Tree Rule)⦄,
    Takes expr start taken rest trees → Takes expr start taken other trees

/-- A match that ends with its input takes as much and perhaps more if the input goes on. -/
def Lasting (expr : Expr Rule) : Prop :=
  ∀ ⦃start : Nat⦄ ⦃taken : List Char⦄ ⦃trees : List (Tree Rule)⦄, Takes expr start taken [] trees →
    ∀ more, ∃ further rest others, more = further ++ rest ∧
      Takes expr start (taken ++ further) rest others

/-- An expression that is local before every character, takes something and lasts. -/
structure Sealed (expr : Expr Rule) : Prop extends Local expr fun _ => True where
  some : ∀ {start : Nat} {taken rest : List Char} {trees : List (Tree Rule)},
    Takes expr start taken rest trees → taken ≠ []
  lasts : Lasting expr

theorem head?_append_congr {front : List Char} (same : other.head? = rest.head?) :
    (front ++ other).head? = (front ++ rest).head? := by
  rw [List.head?_append, List.head?_append, same]

theorem head?_append_of_ne_nil {front : List Char} (some : front ≠ []) :
    (front ++ other).head? = (front ++ rest).head? := by
  obtain ⟨char, more, rfl⟩ := List.exists_cons_of_ne_nil some
  rfl

/-- What an expression takes begins as the expression does. -/
theorem begins_of_takes (takes : Takes expr start taken rest trees) :
    expr.begins (taken ++ rest).head? = true := begins_of_read takes

/-- A repetition takes a first match of its body unless it takes nothing. -/
theorem begins_of_takes_star (takes : Takes (.star body) start taken rest trees) (some : taken ≠ []) :
    body.begins (taken ++ rest).head? = true := by
  rcases takes_star.mp takes with ⟨front, back, _, _, _, rfl, _, head, _⟩ | ⟨rfl, _⟩
  · rw [List.append_assoc]
    exact begins_of_takes head
  · exact absurd rfl some

/-- What may be missing before an expression begins, or else the expression does. -/
theorem begins_of_takes_optional (takes : Takes (.both (.optional expr) otherExpr) start taken rest trees) :
    expr.begins (taken ++ rest).head? = true ∨ otherExpr.begins (taken ++ rest).head? = true := by
  obtain ⟨front, back, _, _, rfl, rfl, head, tail⟩ := takes_both.mp takes
  rw [List.append_assoc]
  rcases takes_optional.mp head with present | ⟨_, rfl, _⟩
  · exact .inl (begins_of_takes present)
  · exact .inr (begins_of_read tail)

/-- A repetition takes something or nothing from every input. -/
theorem exists_takes_star (body : Expr Rule) (start : Nat) (input : List Char) :
    ∃ taken rest trees, input = taken ++ rest ∧ Takes (.star body) start taken rest trees := by
  have found : (Expr.star body).read start input = some (repeated body.run start input).reading := rfl
  obtain ⟨taken, parts, _, takes⟩ := takes_of_read found
  exact ⟨taken, _, _, parts, takes⟩

theorem firm_text (chars : List Char) : Firm (.text chars : Expr Rule) :=
  fun _ _ _ _ _ takes => takes_text.mpr (takes_text.mp takes)

theorem firm_one (accepts : Char → Bool) : Firm (.one accepts : Expr Rule) :=
  fun _ _ _ _ _ takes => takes_one.mpr (takes_one.mp takes)

theorem Firm.settled (firm : Firm expr) : Settled expr fun _ => True where
  cut takes := firm takes
  steady takes _ _ := firm takes

namespace Settled

theorem many (accepts : Char → Bool) : Settled (.many accepts : Expr Rule) fun _ => True where
  cut takes := by
    obtain ⟨accepted, _, silent⟩ := takes_many.mp takes
    exact takes_many.mpr ⟨accepted, by simp, silent⟩
  steady takes _ same := by
    obtain ⟨accepted, stops, silent⟩ := takes_many.mp takes
    exact takes_many.mpr ⟨accepted, same ▸ stops, silent⟩

theorem wordEnd : Settled (.wordEnd : Expr Rule) fun _ => True where
  cut takes := by
    obtain ⟨nothing, _, silent⟩ := takes_wordEnd.mp takes
    exact takes_wordEnd.mpr ⟨nothing, by simp, silent⟩
  steady takes _ same := by
    obtain ⟨nothing, ends, silent⟩ := takes_wordEnd.mp takes
    exact takes_wordEnd.mpr ⟨nothing, same ▸ ends, silent⟩

/-- Where the second expression begins, the first one has to be settled. -/
theorem both (first : Settled expr fits) (second : Settled otherExpr allowed)
    (leads : ∀ {start taken rest trees}, Takes otherExpr start taken rest trees →
      fits (taken ++ rest).head?) : Settled (.both expr otherExpr) allowed where
  cut takes := by
    obtain ⟨front, back, left, right, rfl, rfl, head, tail⟩ := takes_both.mp takes
    refine takes_both.mpr ⟨front, back, left, right, rfl, rfl, ?_, second.cut tail⟩
    cases back with
    | nil => exact first.cut head
    | cons char back => exact first.steady head (leads tail) (head?_append_of_ne_nil (by simp))
  steady takes follows same := by
    obtain ⟨front, back, left, right, rfl, rfl, head, tail⟩ := takes_both.mp takes
    exact takes_both.mpr ⟨front, back, left, right, rfl, rfl,
      first.steady head (leads tail) (head?_append_congr same), second.steady tail follows same⟩

/-- The first characters of the alternatives of a choice tell them apart. -/
theorem either (first : Settled expr allowed) (second : Settled otherExpr allowed)
    (apart : ∀ next, otherExpr.begins next = true → expr.begins next = false) :
    Settled (.either expr otherExpr) allowed where
  cut takes := by
    rcases takes_either.mp takes with head | ⟨_, head⟩
    · exact takes_either.mpr (.inl (first.cut head))
    · have short := second.cut head
      exact takes_either.mpr (.inr ⟨refuses_of_begins (apart _ (begins_of_takes short)), short⟩)
  steady takes follows same := by
    rcases takes_either.mp takes with head | ⟨_, head⟩
    · exact takes_either.mpr (.inl (first.steady head follows same))
    · have changed := second.steady head follows same
      exact takes_either.mpr
        (.inr ⟨refuses_of_begins (apart _ (begins_of_takes changed)), changed⟩)

/-- What may be missing begins with a character, and not with one that follows. -/
theorem optional (inner : Settled body allowed) (some : body.begins none = false) :
    Settled (.optional body) fun next => allowed next ∧ body.begins next = false where
  cut takes := by
    rcases takes_optional.mp takes with head | ⟨_, rfl, rfl⟩
    · exact takes_optional.mpr (.inl (inner.cut head))
    · exact takes_optional.mpr (.inr ⟨refuses_of_begins some, rfl, rfl⟩)
  steady takes follows same := by
    rcases takes_optional.mp takes with head | ⟨_, rfl, rfl⟩
    · exact takes_optional.mpr (.inl (inner.steady head follows.1 same))
    · exact takes_optional.mpr (.inr ⟨refuses_of_begins (same ▸ follows.2), rfl, rfl⟩)

/-- The body of a repetition begins with a character, and not with one that follows the repetition. -/
theorem star (inner : Settled body allowed) (some : body.begins none = false)
    (again : ∀ next, body.begins next = true → allowed next) :
    Settled (.star body) fun next => allowed next ∧ body.begins next = false where
  cut takes := by
    rename_i rest _
    refine star_induction (motive := fun start taken trees => Takes (.star body) start taken [] trees)
      (fun _ _ => takes_star_nil some) (fun start front back left right present head later => ?_) takes
    refine takes_star.mpr (.inl ⟨front, back, left, right, present, rfl, rfl, ?_, later⟩)
    cases back with
    | nil => exact inner.cut head
    | cons char back =>
      have next := again _ (begins_of_takes_star later (by simp))
      exact inner.steady head next (head?_append_of_ne_nil (by simp))
  steady takes follows same := by
    rename_i rest other _
    refine star_induction (motive := fun start taken trees => Takes (.star body) start taken other trees)
      (fun _ _ => takes_star_nil (same ▸ follows.2))
      (fun start front back left right present head later => ?_) takes
    refine takes_star.mpr (.inl ⟨front, back, left, right, present, rfl, rfl, ?_, later⟩)
    have same : (back ++ other).head? = (back ++ rest).head? := head?_append_congr same
    cases back with
    | nil => exact inner.steady head follows.1 same
    | cons char back =>
      have next := again _ (begins_of_takes_star later (by simp))
      exact inner.steady head (same ▸ next) same

theorem hidden (inner : Settled body allowed) : Settled (.hidden body) allowed where
  cut takes := by
    obtain ⟨rfl, inside, head⟩ := takes_hidden.mp takes
    exact takes_hidden.mpr ⟨rfl, inside, inner.cut head⟩
  steady takes follows same := by
    obtain ⟨rfl, inside, head⟩ := takes_hidden.mp takes
    exact takes_hidden.mpr ⟨rfl, inside, inner.steady head follows same⟩

theorem word (inner : Settled body allowed) : Settled (.word body) allowed where
  cut takes := by
    obtain ⟨rfl, inside, head⟩ := takes_word.mp takes
    exact takes_word.mpr ⟨rfl, inside, inner.cut head⟩
  steady takes follows same := by
    obtain ⟨rfl, inside, head⟩ := takes_word.mp takes
    exact takes_word.mpr ⟨rfl, inside, inner.steady head follows same⟩

theorem named {rule : Rule} (inner : Settled body allowed) : Settled (.named rule body) allowed where
  cut takes := by
    obtain ⟨inside, rfl, head⟩ := takes_named.mp takes
    exact takes_named.mpr ⟨inside, rfl, inner.cut head⟩
  steady takes follows same := by
    obtain ⟨inside, rfl, head⟩ := takes_named.mp takes
    exact takes_named.mpr ⟨inside, rfl, inner.steady head follows same⟩

/-- If only allowed characters ever follow, every character may be allowed. -/
theorem widen (inner : Settled expr allowed)
    (follows : ∀ {start taken rest trees}, Takes expr start taken rest trees → allowed rest.head?) :
    Settled expr fun _ => True where
  cut := inner.cut
  steady takes _ same := inner.steady takes (follows takes) same

end Settled

/-! The parts of a local expression are local, and so are their traces. -/
namespace Local

theorem text (chars : List Char) : Local (.text chars : Expr Rule) fun _ => True :=
  ⟨(firm_text chars).settled, (firm_text chars).settled.named⟩

theorem one (accepts : Char → Bool) : Local (.one accepts : Expr Rule) fun _ => True :=
  ⟨(firm_one accepts).settled, (firm_one accepts).settled.named⟩

theorem many (accepts : Char → Bool) : Local (.many accepts : Expr Rule) fun _ => True :=
  ⟨.many accepts, (Settled.many accepts).named⟩

theorem wordEnd : Local (.wordEnd : Expr Rule) fun _ => True :=
  ⟨.wordEnd, Settled.wordEnd.named⟩

/-- Where the second expression begins, the first one has to be local. -/
theorem both (first : Local expr fits) (second : Local otherExpr allowed)
    (leads : ∀ {start taken rest trees}, Takes otherExpr start taken rest trees →
      fits (taken ++ rest).head?) : Local (.both expr otherExpr) allowed := by
  refine ⟨first.toSettled.both second.toSettled leads, (first.traced.both second.traced ?_).named⟩
  intro _ _ _ _ takes
  obtain ⟨_, plain⟩ := exists_takes_traced_iff.mp ⟨_, takes⟩
  exact leads plain

theorem andThen (first : Local expr fun _ => True) (second : Local otherExpr allowed) :
    Local (.both expr otherExpr) allowed :=
  first.both second fun _ => trivial

/-- The first characters of the alternatives of a choice tell them apart. -/
theorem either (first : Local expr allowed) (second : Local otherExpr allowed)
    (apart : ∀ next, otherExpr.begins next = true → expr.begins next = false) :
    Local (.either expr otherExpr) allowed := by
  refine ⟨first.toSettled.either second.toSettled apart, (first.traced.either second.traced ?_).named⟩
  simpa only [Expr.begins_traced] using apart

/-- What may be missing begins with a character, and not with one that follows. -/
theorem optional (inner : Local body allowed) (some : body.begins none = false) :
    Local (.optional body) fun next => allowed next ∧ body.begins next = false := by
  have traced := inner.traced.optional ((body.begins_traced none).trans some)
  simp only [Expr.begins_traced] at traced
  exact ⟨inner.toSettled.optional some, traced.named⟩

/-- The body of a repetition begins with a character, and not with one that follows the repetition. -/
theorem star (inner : Local body allowed) (some : body.begins none = false)
    (again : ∀ next, body.begins next = true → allowed next) :
    Local (.star body) fun next => allowed next ∧ body.begins next = false := by
  have traced := inner.traced.star ((body.begins_traced none).trans some)
    (by simpa only [Expr.begins_traced] using again)
  simp only [Expr.begins_traced] at traced
  exact ⟨inner.toSettled.star some again, traced.named⟩

theorem hidden (inner : Local body allowed) : Local (.hidden body) allowed :=
  ⟨inner.toSettled.hidden, inner.traced.named⟩

theorem word (inner : Local body allowed) : Local (.word body) allowed :=
  ⟨inner.toSettled.word, inner.traced.named⟩

theorem named {rule : Rule} (inner : Local body allowed) : Local (.named rule body) allowed :=
  ⟨inner.toSettled.named, inner.traced.named⟩

/-- If only allowed characters ever follow, every character may be allowed. -/
theorem widen (inner : Local expr allowed)
    (follows : ∀ {start taken rest trees}, Takes expr start taken rest trees → allowed rest.head?) :
    Local expr fun _ => True := by
  refine ⟨inner.toSettled.widen follows, inner.traced.widen ?_⟩
  intro _ _ _ _ takes
  obtain ⟨_, plain⟩ := exists_takes_traced_iff.mp ⟨_, takes⟩
  exact follows plain

end Local

namespace Lasting

/-- A run of characters goes on as far as there are further ones of the class. -/
theorem many (accepts : Char → Bool) : Lasting (.many accepts : Expr Rule) := by
  intro start taken trees takes more
  obtain ⟨accepted, _, rfl⟩ := takes_many.mp takes
  obtain ⟨further, rest, rfl, run⟩ : ∃ further rest, more = further ++ rest ∧
      Takes (.many accepts : Expr Rule) start further rest [] := exists_takes_many accepts start more
  obtain ⟨goesOn, stops, _⟩ := takes_many.mp run
  refine ⟨further, rest, [], rfl, takes_many.mpr ⟨fun char member => ?_, stops, rfl⟩⟩
  rcases List.mem_append.mp member with before | behind
  · exact accepted char before
  · exact goesOn char behind

theorem behind (first : Firm expr) (second : Lasting otherExpr) :
    Lasting (.both expr otherExpr) := by
  intro start taken trees takes more
  obtain ⟨front, back, left, right, rfl, rfl, head, tail⟩ := takes_both.mp takes
  obtain ⟨further, rest, others, rfl, longer⟩ := second tail more
  exact ⟨further, rest, left ++ others, rfl, takes_both.mpr ⟨front, back ++ further, left, others,
    List.append_assoc .., rfl, first head, longer⟩⟩

theorem either (first : Lasting expr) (second : Lasting otherExpr)
    (apart : ∀ next, otherExpr.begins next = true → expr.begins next = false) :
    Lasting (.either expr otherExpr) := by
  intro start taken trees takes more
  rcases takes_either.mp takes with head | ⟨_, head⟩
  · obtain ⟨further, rest, others, rfl, longer⟩ := first head more
    exact ⟨further, rest, others, rfl, takes_either.mpr (.inl longer)⟩
  · obtain ⟨further, rest, others, rfl, longer⟩ := second head more
    exact ⟨further, rest, others, rfl, takes_either.mpr
      (.inr ⟨refuses_of_begins (apart _ (begins_of_takes longer)), longer⟩)⟩

theorem hidden (inner : Lasting body) : Lasting (.hidden body) := by
  intro start taken trees takes more
  obtain ⟨rfl, inside, head⟩ := takes_hidden.mp takes
  obtain ⟨further, rest, others, rfl, longer⟩ := inner head more
  exact ⟨further, rest, [], rfl, takes_hidden.mpr ⟨rfl, others, longer⟩⟩

theorem named {rule : Rule} (inner : Lasting body) : Lasting (.named rule body) := by
  intro start taken trees takes more
  obtain ⟨inside, rfl, head⟩ := takes_named.mp takes
  obtain ⟨further, rest, others, rfl, longer⟩ := inner head more
  exact ⟨further, rest, _, rfl, takes_named.mpr ⟨others, rfl, longer⟩⟩

/-- A repetition lasts if its body does: the last match may grow, and others may come behind it. -/
theorem star (inner : Local body fun _ => True) (lasts : Lasting body) : Lasting (.star body) := by
  intro start taken trees takes
  refine star_induction (motive := fun start taken _ => ∀ more, ∃ further rest others,
      more = further ++ rest ∧ Takes (.star body) start (taken ++ further) rest others)
    (fun start _ more => exists_takes_star body start more)
    (fun start front back left right present head later more => ?_) takes
  cases back with
  | nil =>
    obtain ⟨further, middle, first, rfl, longer⟩ := lasts head more
    obtain ⟨behind, rest, others, rfl, goesOn⟩ :=
      exists_takes_star body (start + (front ++ further).length) middle
    refine ⟨further ++ behind, rest, first ++ others, (List.append_assoc ..).symm, ?_⟩
    exact takes_star.mpr (.inl ⟨front ++ further, behind, first, others, by simp [present], by simp,
      rfl, longer, goesOn⟩)
  | cons char back =>
    obtain ⟨further, rest, others, rfl, longer⟩ := later more
    refine ⟨further, rest, left ++ others, rfl, ?_⟩
    have same : (char :: back ++ further ++ rest).head? = (char :: back ++ []).head? := rfl
    exact takes_star.mpr (.inl ⟨front, char :: back ++ further, left, others, present, by simp, rfl,
      inner.steady head trivial same, longer⟩)

end Lasting

namespace Sealed

/-- A sealed expression seals what stands before it. -/
theorem after (second : Sealed otherExpr) (first : Local expr fits)
    (leads : ∀ {start taken rest trees}, Takes otherExpr start taken rest trees →
      fits (taken ++ rest).head?) : Sealed (.both expr otherExpr) where
  toLocal := first.both second.toLocal leads
  some takes := by
    obtain ⟨front, back, _, _, rfl, _, _, tail⟩ := takes_both.mp takes
    simp [second.some tail]
  lasts _ _ _ takes more := by
    obtain ⟨front, back, left, right, rfl, rfl, head, tail⟩ := takes_both.mp takes
    obtain ⟨further, rest, others, rfl, longer⟩ := second.lasts tail more
    have same : (back ++ further ++ rest).head? = (back ++ []).head? := by
      rw [List.append_assoc]
      exact head?_append_of_ne_nil (second.some tail)
    exact ⟨further, rest, left ++ others, rfl, takes_both.mpr ⟨front, back ++ further, left, others,
      List.append_assoc .., rfl, first.steady head (leads tail) same, longer⟩⟩

theorem behind (second : Sealed otherExpr) (first : Local expr fun _ => True) :
    Sealed (.both expr otherExpr) :=
  second.after first fun _ => trivial

theorem either (first : Sealed expr) (second : Sealed otherExpr)
    (apart : ∀ next, otherExpr.begins next = true → expr.begins next = false) :
    Sealed (.either expr otherExpr) where
  toLocal := first.toLocal.either second.toLocal apart
  some takes := by
    rcases takes_either.mp takes with head | ⟨_, head⟩
    · exact first.some head
    · exact second.some head
  lasts := Lasting.either first.lasts second.lasts apart

theorem named {rule : Rule} (inner : Sealed body) : Sealed (.named rule body) where
  toLocal := inner.toLocal.named
  some takes := by
    obtain ⟨_, _, head⟩ := takes_named.mp takes
    exact inner.some head
  lasts := Lasting.named inner.lasts

end Sealed
end SchemeTyping.Peg
