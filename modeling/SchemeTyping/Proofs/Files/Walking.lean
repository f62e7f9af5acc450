import Mathlib.Data.List.Infix
import SchemeTyping.Files.Tree

/-! Walking down a file tree: how far a path leads, by what stands above the place that it names, and what it
finds there. -/
namespace SchemeTyping

namespace Path

/-- A resolved path leads downwards only. -/
theorem plain_collapse (parts : List String) : ".." ∉ collapse parts := by
  have above : ∀ stack : List String, ".." ∉ stack →
      ".." ∉ parts.foldl (fun above part => if part = ".." then above.tail else part :: above) stack := by
    induction parts with
    | nil => exact fun _ plain => plain
    | cons part rest ih =>
      intro stack plain
      rw [List.foldl_cons]
      refine ih _ ?_
      split
      · exact fun member => plain (List.mem_of_mem_tail member)
      · next other =>
        intro member
        rcases List.mem_cons.mp member with same | inside
        · exact other same.symm
        · exact plain inside
  unfold collapse
  rw [List.mem_reverse]
  exact above [] List.not_mem_nil

theorem utf8ByteSize_intercalate_le (parts more : List String) :
    (String.intercalate "/" parts).utf8ByteSize ≤
      (String.intercalate "/" (parts ++ more)).utf8ByteSize := by
  induction parts with
  | nil => exact Nat.zero_le _
  | cons part rest ih =>
    cases rest with
    | nil =>
      cases more with
      | nil => exact Nat.le_refl _
      | cons next more =>
        rw [List.singleton_append, String.intercalate_cons_cons, String.intercalate_singleton,
          String.utf8ByteSize_append, String.utf8ByteSize_append]
        omega
    | cons next rest =>
      rw [List.cons_append, List.cons_append] at *
      rw [String.intercalate_cons_cons, String.intercalate_cons_cons]
      simp only [String.utf8ByteSize_append]
      omega

/-- The text of a path is not shorter than that of a path to a directory on the way. -/
theorem utf8ByteSize_toText_le {way place : List String} (onWay : way <+: place) :
    (fromRoot way).toText.utf8ByteSize ≤ (fromRoot place).toText.utf8ByteSize := by
  obtain ⟨more, rfl⟩ := onWay
  have longer := utf8ByteSize_intercalate_le way more
  simp only [toText, fromRoot, String.utf8ByteSize_append]
  omega

end Path

namespace FileTree
variable {tree after : FileTree} {place front back way directory : List String} {node : Node}

/-- The path to a place can be used as far as its text goes: it leads downwards and is short enough, as is
every name on it. -/
structure Usable (place : List String) : Prop where
  plain : ".." ∉ place
  names : ∀ part ∈ place, part.utf8ByteSize ≤ nameLimit
  short : (Path.fromRoot place).toText.utf8ByteSize ≤ pathLimit

theorem Usable.mono (usable : Usable place) (onWay : way <+: place) : Usable way where
  plain member := usable.plain (onWay.subset member)
  names part member := usable.names part (onWay.subset member)
  short := Nat.le_trans (Path.utf8ByteSize_toText_le onWay) usable.short

/-- All places above a place are directories. -/
def Paved (tree : FileTree) (place : List String) : Prop :=
  ∀ way, way <+: place → way ≠ place → tree.node? way = some .directory

/-- No place above a place is anything but a directory, if anything stands there. -/
def Clear (tree : FileTree) (place : List String) : Prop :=
  ∀ way, way <+: place → way ≠ place → tree.node? way = none ∨ tree.node? way = some .directory

instance (tree : FileTree) (place : List String) : Decidable (tree.Clear place) :=
  decidable_of_iff (∀ way ∈ place.inits, way ≠ place →
    tree.node? way = none ∨ tree.node? way = some .directory) (by simp only [List.mem_inits, Clear])

/-- A paved way is walked to its end. -/
theorem walk_of_paved (plain : ".." ∉ back) (names : ∀ part ∈ back, part.utf8ByteSize ≤ nameLimit)
    (paved : ∀ way, way <+: back → way ≠ back → tree.node? (front ++ way) = some .directory) :
    tree.walk front back = .ok (front ++ back) := by
  induction back generalizing front with
  | nil => rw [walk, List.append_nil]
  | cons part rest ih =>
    have own : tree.node? front = some .directory := by
      simpa using paved [] (List.nil_prefix) (by simp)
    have dots : part ≠ ".." := fun same => plain (same ▸ List.mem_cons_self)
    rw [walk, own]
    simp only [if_neg (Nat.not_lt.mpr (names part List.mem_cons_self)), if_neg dots]
    rw [ih (fun member => plain (List.mem_cons_of_mem _ member))
      (fun other member => names other (List.mem_cons_of_mem _ member)) fun way onWay short => ?_]
    · simp
    · simpa using paved (part :: way) (List.cons_prefix_cons.mpr ⟨rfl, onWay⟩) (by simpa using short)

/-- A clear way that is not paved ends where nothing stands. -/
theorem walk_of_gap (plain : ".." ∉ back) (names : ∀ part ∈ back, part.utf8ByteSize ≤ nameLimit)
    (clear : ∀ way, way <+: back → way ≠ back →
      tree.node? (front ++ way) = none ∨ tree.node? (front ++ way) = some .directory)
    (gap : ∃ way, way <+: back ∧ way ≠ back ∧ tree.node? (front ++ way) = none) :
    tree.walk front back = .error .missing := by
  induction back generalizing front with
  | nil =>
    obtain ⟨way, onWay, short, _⟩ := gap
    exact absurd (List.prefix_nil.mp onWay) short
  | cons part rest ih =>
    have own := clear [] List.nil_prefix (by simp)
    rw [List.append_nil] at own
    rw [walk]
    rcases own with nothing | directory
    · rw [nothing]
    · have dots : part ≠ ".." := fun same => plain (same ▸ List.mem_cons_self)
      rw [directory]
      simp only [if_neg (Nat.not_lt.mpr (names part List.mem_cons_self)), if_neg dots]
      refine ih (fun member => plain (List.mem_cons_of_mem _ member))
        (fun other member => names other (List.mem_cons_of_mem _ member)) (fun way onWay short => ?_) ?_
      · simpa using clear (part :: way) (List.cons_prefix_cons.mpr ⟨rfl, onWay⟩) (by simpa using short)
      · obtain ⟨way, onWay, short, nothing⟩ := gap
        cases way with
        | nil =>
          rw [List.append_nil, directory] at nothing
          cases nothing
        | cons first way =>
          obtain ⟨rfl, inside⟩ := List.cons_prefix_cons.mp onWay
          exact ⟨way, inside, by simpa using short, by simpa using nothing⟩

theorem reach_of_paved (usable : Usable place) (paved : tree.Paved place) :
    tree.reach [] (.fromRoot place) = .ok place := by
  rw [reach, if_neg (Nat.not_lt.mpr usable.short)]
  exact walk_of_paved usable.plain usable.names paved

theorem reach_of_gap (usable : Usable place) (clear : tree.Clear place) (gap : ¬ tree.Paved place) :
    tree.reach [] (.fromRoot place) = .error .missing := by
  rw [reach, if_neg (Nat.not_lt.mpr usable.short)]
  by_cases missing : ∃ way, way <+: place ∧ way ≠ place ∧ tree.node? way = none
  · exact walk_of_gap usable.plain usable.names clear missing
  · refine absurd (fun way onWay short => ?_) gap
    exact (clear way onWay short).resolve_left fun nothing => missing ⟨way, onWay, short, nothing⟩

/-- A way that is walked down to its end is paved, and its names are short enough. -/
theorem paved_of_walk {stop : List String} (plain : ".." ∉ back) (walked : tree.walk front back = .ok stop) :
    (∀ part ∈ back, part.utf8ByteSize ≤ nameLimit) ∧
      ∀ way, way <+: back → way ≠ back → tree.node? (front ++ way) = some .directory := by
  induction back generalizing front with
  | nil => exact ⟨by simp, fun way onWay short => absurd (List.prefix_nil.mp onWay) short⟩
  | cons part rest ih =>
    rw [walk] at walked
    split at walked
    · cases walked
    · next own =>
      split at walked
      · cases walked
      · next short =>
        split at walked
        · next dots => exact absurd (dots ▸ List.mem_cons_self) plain
        · obtain ⟨names, paved⟩ := ih (fun member => plain (List.mem_cons_of_mem _ member)) walked
          refine ⟨List.forall_mem_cons.mpr ⟨Nat.not_lt.mp short, names⟩, fun way onWay proper => ?_⟩
          cases way with
          | nil => rw [List.append_nil, own]
          | cons first way =>
            obtain ⟨rfl, inside⟩ := List.cons_prefix_cons.mp onWay
            simpa using paved way inside fun same => proper (same ▸ rfl)
    · cases walked

/-- A walk that leads downwards only gets to the place that its path names. -/
theorem stop_of_walk {stop : List String} (plain : ".." ∉ back) (walked : tree.walk front back = .ok stop) :
    stop = front ++ back := by
  induction back generalizing front with
  | nil =>
    rw [walk] at walked
    rw [List.append_nil, Except.ok.inj walked]
  | cons part rest ih =>
    rw [walk] at walked
    split at walked
    · cases walked
    · split at walked
      · cases walked
      · split at walked
        · next dots => exact absurd (dots ▸ List.mem_cons_self) plain
        · rw [ih (fun member => plain (List.mem_cons_of_mem _ member)) walked, List.append_assoc,
            List.singleton_append]
    · cases walked

/-- What a path without double dots finds stands at the place that it names. -/
theorem node?_of_find {directory : List String} {node : Node} (plain : ".." ∉ place)
    (found : tree.find directory (.fromRoot place) = .ok node) :
    tree.reach directory (.fromRoot place) = .ok place ∧ tree.node? place = some node := by
  unfold find at found
  split at found
  · cases found
  · next stop reached =>
    have walked := reached
    unfold reach at walked
    split at walked
    · cases walked
    · obtain rfl : stop = place := stop_of_walk plain walked
      refine ⟨reached, ?_⟩
      split at found
      · cases found
      · next stands => rw [stands, Except.ok.inj found]

/-- Where something is found on the way down from it, there is a root. -/
theorem root_of_find {directory : List String} {node : Node}
    (found : tree.find directory (.fromRoot place) = .ok node) : tree.node? [] ≠ none := by
  intro nothing
  unfold find at found
  split at found
  · cases found
  · next stop reached =>
    unfold reach at reached
    split at reached
    · cases reached
    · have walked : tree.walk [] place = .ok stop := reached
      cases place with
      | nil =>
        rw [walk] at walked
        rw [← Except.ok.inj walked, nothing] at found
        cases found
      | cons part rest =>
        rw [walk, nothing] at walked
        cases walked

/-- A walk leads to the same place as long as all directories stay. -/
theorem walk_of_kept {stop : List String} (walked : tree.walk front back = .ok stop)
    (kept : ∀ way, tree.node? way = some .directory → after.node? way = some .directory) :
    after.walk front back = .ok stop := by
  induction back generalizing front with
  | nil => exact walked
  | cons part rest ih =>
    rw [walk] at walked ⊢
    split at walked
    · cases walked
    · next directory =>
      rw [kept front directory]
      simp only
      split at walked
      · cases walked
      · next short =>
        rw [if_neg short]
        split at walked
        · next dots =>
          rw [if_pos dots]
          exact ih walked
        · next plain =>
          rw [if_neg plain]
          exact ih walked
    · cases walked

/-- A path leads to the same place as long as all directories stay, and finds what stands there. -/
theorem find_of_kept {directory : List String} {path : Path} {node : Node} {stop : List String}
    (reached : tree.reach directory path = .ok stop)
    (kept : ∀ way, tree.node? way = some .directory → after.node? way = some .directory)
    (stands : after.node? stop = some node) : after.find directory path = .ok node := by
  have leads : after.reach directory path = .ok stop := by
    unfold reach at reached ⊢
    split at reached
    · cases reached
    · next short =>
      rw [if_neg short]
      split at reached
      · next absolute =>
        rw [if_pos absolute]
        exact walk_of_kept reached kept
      · next relative =>
        rw [if_neg relative]
        exact walk_of_kept reached kept
  simp only [find, leads, stands]

end FileTree
end SchemeTyping
