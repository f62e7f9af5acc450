import Mathlib.Data.List.Induction
import SchemeTyping.Proofs.Conversion.Ledger
import SchemeTyping.Proofs.Table

/-! Ledgers told from the records that filled them. Each of the two views drops something of them: what is
listed by identifier keeps every conversion and no key, and what was seen keeps the first record of each key
and no identifier. -/
namespace SchemeTyping

/-- In a list without its repetitions a member further on is left out if it came before. -/
theorem eraseDups_concat {Key : Type} [DecidableEq Key] (keys : List Key) (key : Key) :
    (keys ++ [key]).eraseDups = if key ∈ keys then keys.eraseDups else keys.eraseDups ++ [key] := by
  rw [List.eraseDups_append]
  by_cases known : key ∈ keys
  · simp [List.removeAll, known]
  · simp [List.removeAll, known, List.eraseDups_cons]

theorem nodup_eraseDups {Key : Type} [DecidableEq Key] (keys : List Key) : keys.eraseDups.Nodup := by
  induction keys using List.reverseRecOn with
  | nil => exact List.nodup_nil
  | append_singleton keys key ih =>
    rw [eraseDups_concat]
    split
    · exact ih
    · next fresh =>
      refine List.nodup_append.mpr ⟨ih, List.nodup_singleton key, ?_⟩
      rintro other known _ single rfl
      exact fresh (List.mem_eraseDups.mp (List.mem_singleton.mp single ▸ known))

namespace Ledger

/-- A record to be made. Its identifier and its key need not have to do with each other. -/
structure Call where
  identifier : String
  conversion : Conversion
  key : ConversionKey
  sighting : Sighting
  deriving DecidableEq

/-- The ledger after a record, and whether its key was fresh. -/
def take (ledger : Ledger) (call : Call) : Ledger × Bool :=
  (ledger.record call.identifier call.conversion call.key call.sighting, ledger.isFresh call.key)

/-- The ledger after records that are made one after the other, and the answer to each. -/
def takeAll (ledger : Ledger) : List Call → Ledger × List Bool
  | [] => (ledger, [])
  | call :: rest =>
    let later := (ledger.take call).1.takeAll rest
    (later.1, (ledger.take call).2 :: later.2)

/-- The conversions of the calls with an identifier. -/
def conversionsOf (calls : List Call) (identifier : String) : List Conversion :=
  (calls.filter (·.identifier = identifier)).map Call.conversion

theorem mem_conversionsOf {calls : List Call} {identifier : String} {conversion : Conversion} :
    conversion ∈ conversionsOf calls identifier ↔
      ∃ call ∈ calls, call.identifier = identifier ∧ call.conversion = conversion := by
  simp [conversionsOf, and_assoc]

/-- The ledger is what calls leave of an empty one: each of its tables has a key at the place of its first
call, under an identifier stand all conversions, and under a key what came with it first. -/
structure Tells (ledger : Ledger) (calls : List Call) : Prop where
  identifiers : ledger.conversions.keys = (calls.map Call.identifier).eraseDups
  conversions : ∀ identifier, ledger.conversionsFor identifier = conversionsOf calls identifier
  keys : ledger.seen.keys = (calls.map Call.key).eraseDups
  first : ∀ key, ledger.seen.find? key = (calls.find? (·.key = key)).map Call.sighting
  listed : ledger.toList.Perm (calls.map fun call => (call.identifier, call.conversion))

theorem takeAll_append (ledger : Ledger) (first second : List Call) :
    ledger.takeAll (first ++ second) =
      (((ledger.takeAll first).1.takeAll second).1,
        (ledger.takeAll first).2 ++ ((ledger.takeAll first).1.takeAll second).2) := by
  induction first generalizing ledger with
  | nil => rfl
  | cons call rest ih => simp only [List.cons_append, takeAll, ih]

theorem length_takeAll (ledger : Ledger) (calls : List Call) :
    (ledger.takeAll calls).2.length = calls.length := by
  induction calls generalizing ledger with
  | nil => rfl
  | cons call rest ih => exact congrArg (· + 1) (ih _)

/-- The keys that are seen are as many as the answers that say so. -/
theorem size_takeAll (ledger : Ledger) (calls : List Call) :
    (ledger.takeAll calls).1.size = ledger.size + (ledger.takeAll calls).2.count true := by
  induction calls generalizing ledger with
  | nil => rfl
  | cons call rest ih =>
    have own : (ledger.take call).1.size = ledger.size + [(ledger.take call).2].count true := by
      simp only [size, ← Table.length_keys, take, keys_seen_record, List.length_append]
      cases ledger.isFresh call.key <;> rfl
    simp only [takeAll, ih, own]
    rw [Nat.add_assoc, ← List.count_append]
    rfl

namespace Tells
variable {ledger : Ledger} {calls : List Call}

theorem empty : Ledger.empty.Tells [] := by
  constructor
  · rfl
  · exact fun _ => rfl
  · rfl
  · exact fun _ => rfl
  · exact .refl _

variable (tells : ledger.Tells calls)
include tells

/-- The answer to a call. -/
theorem answer (call : Call) : (ledger.take call).2 = decide (call.key ∉ calls.map Call.key) := by
  rw [Ledger.take, Bool.eq_iff_iff, isFresh_iff, tells.keys, List.mem_eraseDups, decide_eq_true_iff]

theorem take (call : Call) : (ledger.take call).1.Tells (calls ++ [call]) := by
  constructor
  · simp only [Ledger.take, record, Table.keys_put, tells.identifiers, List.map_append, List.map_singleton,
      eraseDups_concat, List.mem_eraseDups]
  · intro identifier
    rw [Ledger.take, conversionsFor_record, tells.conversions]
    by_cases own : call.identifier = identifier
    · simp [conversionsOf, own]
    · simp [conversionsOf, own]
  · have answer := tells.answer call
    simp only [Ledger.take] at answer
    simp only [Ledger.take, keys_seen_record, tells.keys, answer, List.map_append, List.map_singleton,
      eraseDups_concat]
    by_cases known : call.key ∈ calls.map Call.key
    · simp [known]
    · simp [known]
  · intro key
    rw [Ledger.take, find?_seen_record, tells.first, List.find?_append, Option.map_or]
    by_cases own : call.key = key
    · simp [own]
    · simp [own]
  · rw [List.map_append]
    exact (toList_record.trans (tells.listed.cons _)).trans (List.perm_append_singleton _ _).symm

theorem takeAll (later : List Call) : (ledger.takeAll later).1.Tells (calls ++ later) := by
  induction later generalizing ledger calls with
  | nil => rwa [List.append_nil]
  | cons call rest ih =>
    rw [List.append_cons]
    exact ih (tells.take call)

/-- The ledger as it is listed: by identifiers in the order of their first calls. -/
theorem entries : ledger.conversions.entries = (calls.map Call.identifier).eraseDups.map
    fun identifier => (identifier, conversionsOf calls identifier) := by
  have distinct : ledger.conversions.keys.Nodup := tells.identifiers ▸ nodup_eraseDups _
  rw [Table.entries_eq distinct [], tells.identifiers]
  exact List.map_congr_left fun identifier _ => by rw [← tells.conversions]; rfl

theorem toList_eq : ledger.toList = (calls.map Call.identifier).eraseDups.flatMap
    fun identifier => (conversionsOf calls identifier).map fun conversion => (identifier, conversion) := by
  rw [toList, tells.entries, List.flatMap_map]

theorem filled : ∀ entry ∈ ledger.conversions.entries, entry.2 ≠ [] := by
  rw [tells.entries, List.forall_mem_map]
  intro identifier called
  obtain ⟨call, member, own⟩ := List.mem_map.mp (List.mem_eraseDups.mp called)
  exact List.ne_nil_of_mem (mem_conversionsOf.mpr ⟨call, member, own, rfl⟩)

theorem total_eq : ledger.total = calls.length := by
  rw [← length_toList, tells.listed.length_eq, List.length_map]

end Tells

/-- What a ledger holds after records on an empty one, told from the records. Under an identifier stand
the conversions of its calls in their order, the identifiers in the order of their first calls and none
without a conversion; all of them count. Under a key stands what its first call came with, the keys too in
the order of their first calls, and a call is answered by whether no earlier one had its key; so many keys
were seen as calls were answered that way. Listed are the conversions of all calls, each call once, by
identifiers in the order of their first calls, and those of one identifier in the order of its calls. -/
theorem takeAll_empty (calls : List Call) :
    let after := (empty.takeAll calls).1
    let answers := (empty.takeAll calls).2
    let identifiers := (calls.map Call.identifier).eraseDups
    (∀ identifier, after.conversionsFor identifier = conversionsOf calls identifier) ∧
    after.conversions.keys = identifiers ∧
    (∀ entry ∈ after.conversions.entries, entry.2 ≠ []) ∧
    after.total = calls.length ∧
    after.seen.keys = (calls.map Call.key).eraseDups ∧
    (∀ key, after.seen.find? key = (calls.find? (·.key = key)).map Call.sighting) ∧
    answers.length = calls.length ∧
    (∀ earlier call later, calls = earlier ++ call :: later →
      answers[earlier.length]? = some (decide (call.key ∉ earlier.map Call.key))) ∧
    after.size = answers.count true ∧
    after.toList = identifiers.flatMap (fun identifier =>
      (conversionsOf calls identifier).map fun conversion => (identifier, conversion)) ∧
    after.toList.Perm (calls.map fun call => (call.identifier, call.conversion)) := by
  intro after answers identifiers
  have tells : after.Tells calls := Tells.empty.takeAll calls
  refine ⟨tells.conversions, tells.identifiers, tells.filled, tells.total_eq, tells.keys, tells.first,
    length_takeAll _ _, ?_, ?_, tells.toList_eq, tells.listed⟩
  · rintro earlier call later rfl
    have before : (empty.takeAll earlier).1.Tells earlier := Tells.empty.takeAll earlier
    have length := length_takeAll empty earlier
    simp only [answers, takeAll_append]
    rw [List.getElem?_append_right (Nat.le_of_eq length), length, Nat.sub_self]
    exact congrArg some (before.answer call)
  · exact (size_takeAll empty calls).trans (Nat.zero_add _)

/-- Two records under one key: the second one is not fresh, and yet its conversion is kept. -/
example :
    let sighting : Sighting := ⟨⟨"x", "y", 4, "", .digits⟩, .digits⟩
    let (after, answers) := empty.takeAll [
      ⟨"b", ⟨4, "DET", "RND", .digits⟩, ⟨4, "x"⟩, sighting⟩,
      ⟨"a", ⟨4, "CLEAR", "AH", .digits⟩, ⟨4, "x"⟩, sighting⟩]
    answers = [true, false] ∧ after.conversions.keys = ["b", "a"] ∧ (after.total, after.size) = (2, 1) := by
  decide

end Ledger
end SchemeTyping
