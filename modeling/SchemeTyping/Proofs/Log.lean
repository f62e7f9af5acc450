import Mathlib.Algebra.Group.Nat.Even
import Mathlib.Data.List.Nodup
import SchemeTyping.Log
import SchemeTyping.Proofs.Table

/-! Configuring the log again and again: the log that results is that of the last call alone, in which an
entry on or under a configured channel is written once or not at all. -/
namespace SchemeTyping

namespace Channel
variable {chars name : List Char} {channel above : String}

/-- How many points a text begins with. -/
def leadingPoints (chars : List Char) : Nat := (chars.takeWhile (· == '.')).length

theorem even_leadingPoints_append {more : List Char} (even : Even (leadingPoints more)) :
    Even (leadingPoints (chars ++ more)) ↔ Even (leadingPoints chars) := by
  unfold leadingPoints at even ⊢
  rw [List.takeWhile_append]
  split
  · next whole =>
    rw [List.length_append, whole, Nat.even_add]
    exact iff_true_right even
  · rfl

/-- A point that cuts a name, and the character before the cut, leave the count of points behind an earlier
one even or odd as it was. -/
theorem even_leadingPoints_pair (char : Char) (behind : List Char) :
    Even (leadingPoints ('.' :: char :: behind).reverse) ↔ Even (leadingPoints behind.reverse) := by
  have even : Even (leadingPoints [char, '.']) := by
    by_cases point : char = '.'
    · rw [point]
      decide
    · simp [leadingPoints, point]
  rw [List.reverse_cons, List.reverse_cons, List.append_assoc]
  exact even_leadingPoints_append even

theorem even_leadingPoints_cons {char : Char} (other : char ≠ '.') (behind : List Char) :
    Even (leadingPoints (char :: behind).reverse) ↔ Even (leadingPoints behind.reverse) := by
  rw [List.reverse_cons]
  exact even_leadingPoints_append (by simp [leadingPoints, other])

/-- What a name, read from its end, is cut to: the parts before those of its points behind which stand an
even number of points. -/
theorem mem_cuts : name ∈ cuts chars ↔ name ≠ [] ∧
    ∃ behind, chars = behind ++ '.' :: name ∧ Even (leadingPoints behind.reverse) := by
  fun_induction cuts chars with
  | case1 char rest ih =>
    rw [List.mem_cons, ih]
    constructor
    · rintro (rfl | ⟨filled, behind, rfl, even⟩)
      · exact ⟨List.cons_ne_nil _ _, [], rfl, Even.zero⟩
      · exact ⟨filled, '.' :: char :: behind, rfl, (even_leadingPoints_pair char behind).mpr even⟩
    · rintro ⟨filled, behind, parts, even⟩
      match behind with
      | [] => exact .inl (List.cons.inj parts).2.symm
      | [_] =>
        cases parts
        exact absurd even (by decide)
      | _ :: _ :: behind =>
        cases parts
        exact .inr ⟨filled, behind, rfl, (even_leadingPoints_pair char behind).mp even⟩
  | case2 first rest others ih =>
    rw [ih]
    -- a point is left here only where the name begins with it, and then nothing stands before it
    have apart : first = '.' → rest = [] := by
      rintro rfl
      cases rest with
      | nil => rfl
      | cons char more => exact (others char more rfl rfl).elim
    constructor
    · rintro ⟨filled, behind, rfl, even⟩
      have other : first ≠ '.' := fun point => absurd (apart point) (by simp)
      exact ⟨filled, first :: behind, rfl, (even_leadingPoints_cons other behind).mpr even⟩
    · rintro ⟨filled, behind, parts, even⟩
      match behind with
      | [] =>
        cases parts
        exact absurd (apart rfl) filled
      | _ :: behind =>
        cases parts
        have other : first ≠ '.' := fun point => absurd (apart point) (by simp)
        exact ⟨filled, behind, rfl, (even_leadingPoints_cons other behind).mp even⟩
  | case3 => simp

/-- The channels above a channel are the parts of its name before its points, where a point does not count
behind which stand an odd number of points. -/
theorem mem_lineage : above ∈ lineage channel ↔ above = channel ∨ above ≠ "" ∧
    ∃ behind, channel.toList = above.toList ++ '.' :: behind ∧ Even (leadingPoints behind) := by
  unfold lineage
  rw [List.mem_cons, List.mem_map]
  refine or_congr_right ⟨?_, ?_⟩
  · rintro ⟨name, member, rfl⟩
    obtain ⟨filled, behind, parts, even⟩ := mem_cuts.mp member
    refine ⟨?_, behind.reverse, ?_, even⟩
    · simpa using filled
    · rw [← List.reverse_reverse channel.toList, parts]
      simp
  · rintro ⟨filled, behind, parts, even⟩
    refine ⟨above.toList.reverse, mem_cuts.mpr ⟨?_, behind.reverse, ?_, ?_⟩, ?_⟩
    · simpa using filled
    · rw [parts]
      simp
    · rwa [List.reverse_reverse]
    · rw [List.reverse_reverse, String.ofList_toList]

theorem length_lt_of_mem_cuts (member : name ∈ cuts chars) : name.length < chars.length := by
  obtain ⟨_, behind, rfl, _⟩ := mem_cuts.mp member
  rw [List.length_append, List.length_cons]
  omega

theorem nodup_cuts (chars : List Char) : (cuts chars).Nodup := by
  fun_induction cuts chars with
  | case1 char rest ih =>
    refine List.nodup_cons.mpr ⟨fun member => ?_, ih⟩
    have shorter := length_lt_of_mem_cuts member
    rw [List.length_cons] at shorter
    omega
  | case2 _ _ _ ih => exact ih
  | case3 => exact List.nodup_nil

theorem nodup_lineage (channel : String) : (lineage channel).Nodup := by
  have reading : Function.Injective fun name : List Char => String.ofList name.reverse :=
    fun first second same => List.reverse_injective (String.ofList_injective same)
  refine List.nodup_cons.mpr ⟨fun member => ?_, (nodup_cuts _).map reading⟩
  obtain ⟨name, cut, rfl⟩ := List.mem_map.mp member
  have shorter := length_lt_of_mem_cuts cut
  simp at shorter

theorem prefix_of_mem_lineage (member : above ∈ lineage channel) : above.toList <+: channel.toList := by
  rcases mem_lineage.mp member with rfl | ⟨_, behind, parts, _⟩
  · exact List.prefix_refl _
  · exact ⟨'.' :: behind, parts.symm⟩

end Channel

namespace Log
variable {channel above : String}

/-- The configured channels stand in no tree together. -/
theorem configured_apart : ∀ first ∈ configured, ∀ second ∈ configured,
    first.toList <+: second.toList → first = second := by
  decide

/-- At most one configured channel stands above a channel. -/
theorem configured_unique {first second : String} (firstKnown : first ∈ configured)
    (secondKnown : second ∈ configured) (firstAbove : first ∈ Channel.lineage channel)
    (secondAbove : second ∈ Channel.lineage channel) : first = second := by
  rcases List.prefix_or_prefix_of_prefix (Channel.prefix_of_mem_lineage firstAbove)
    (Channel.prefix_of_mem_lineage secondAbove) with inside | inside
  · exact configured_apart _ firstKnown _ secondKnown inside
  · exact (configured_apart _ secondKnown _ firstKnown inside).symm

/-- The log whose configured channels have a level and one handler each. -/
def atLevel (level : Nat) : Log := ⟨⟨configured.map fun channel => (channel, ⟨level, 1⟩)⟩⟩

theorem logger_atLevel (level : Nat) (channel : String) :
    (atLevel level).logger channel = if channel ∈ configured then ⟨level, 1⟩ else {} := by
  unfold logger atLevel configured
  by_cases first : Channel.command = channel
  · simp [first, Table.find?_cons]
  · by_cases second : Channel.engine = channel
    · simp [second, Table.find?_cons]
    · have absent : channel ∉ [Channel.command, Channel.engine] := by
        simp [Ne.symm first, Ne.symm second]
      simp [first, second, absent, Table.find?_eq]

/-- Exactly one of the loggers of a channel on or under a configured one is configured. -/
theorem map_lineage_atLevel (level : Nat) (known : above ∈ configured)
    (member : above ∈ Channel.lineage channel) :
    ∃ below further, (Channel.lineage channel).map (atLevel level).logger =
      List.replicate below ({} : Logger) ++ ⟨level, 1⟩ :: List.replicate further ({} : Logger) := by
  have bare : ∀ names : List String, (∀ name ∈ names, name ∉ configured) →
      names.map (atLevel level).logger = List.replicate names.length ({} : Logger) := by
    intro names others
    refine List.map_eq_replicate_iff.mpr fun name inside => ?_
    rw [logger_atLevel, if_neg (others name inside)]
  have single : ∀ name ∈ Channel.lineage channel, name ∈ configured → name = above :=
    fun name inside configuredToo => configured_unique configuredToo known inside member
  have distinct := Channel.nodup_lineage channel
  obtain ⟨before, after, parts⟩ := List.append_of_mem member
  rw [parts] at single distinct
  have others : ∀ name ∈ before ++ after, name ∉ configured := by
    intro name inside configuredToo
    have same := single name (List.perm_middle.mem_iff.mpr (List.mem_cons_of_mem _ inside)) configuredToo
    exact (List.nodup_cons.mp (List.nodup_middle.mp distinct)).1 (same ▸ inside)
  refine ⟨before.length, after.length, ?_⟩
  rw [parts, List.map_append, List.map_cons, logger_atLevel, if_pos known,
    bare before fun name inside => others name (List.mem_append_left _ inside),
    bare after fun name inside => others name (List.mem_append_right _ inside)]

/-- A channel on or under a configured one has one handler. -/
theorem handlers_atLevel (known : above ∈ configured) (member : above ∈ Channel.lineage channel) :
    (atLevel level).handlers channel = 1 := by
  obtain ⟨below, further, loggers⟩ := map_lineage_atLevel level known member
  unfold handlers
  rw [← Function.comp_def Logger.handlers, ← List.map_map, loggers, ← List.sum_eq_foldr]
  simp

/-- The threshold of a channel on or under a configured one is the level that was set, where level zero
sets none. -/
theorem threshold_atLevel (known : above ∈ configured) (member : above ∈ Channel.lineage channel) :
    (atLevel level).threshold channel = if level = 0 then defaultThreshold else level := by
  obtain ⟨below, further, loggers⟩ := map_lineage_atLevel level known member
  unfold threshold
  rw [← Function.comp_def Logger.level, ← List.map_map, loggers]
  by_cases unset : level = 0
  · simp [unset, List.find?_append]
  · simp [unset, List.find?_append]

/-- One call that configures the log: a verbosity, and a level name if one is set. -/
structure Call where
  verbosity : Int
  levelName : Option String
  deriving DecidableEq, Repr

/-- The level that a call sets: the one that its level name stands for in capitals, or else that of the
verbosity. -/
def Call.level (call : Call) : Nat :=
  match call.levelName.bind fun name => levelOfName? (Text.upper name) with
  | some level => level
  | none =>
    if call.verbosity ≤ 0 then Level.warning.code
    else if call.verbosity = 1 then Level.info.code
    else Level.debug.code

/-- The level that an entry has to reach after a call. A call that sets no level leaves it at warnings. -/
def Call.threshold (call : Call) : Nat :=
  if call.level = 0 then Level.warning.code else call.level

theorem chosenLevel_eq (call : Call) :
    chosenLevel call.verbosity (call.levelName.getD "") = call.level := by
  have fallback : levelOfVerbosity call.verbosity =
      if call.verbosity ≤ 0 then Level.warning.code
      else if call.verbosity = 1 then Level.info.code
      else Level.debug.code := by
    unfold levelOfVerbosity
    grind
  obtain ⟨verbosity, _ | name⟩ := call
  · exact fallback
  · unfold chosenLevel Call.level
    rw [fallback]
    dsimp only [Option.getD_some, Option.bind_some]
    cases levelOfName? (Text.upper name) with
    | none => rfl
    | some level => rfl

def after (log : Log) (call : Call) : Log := log.configure call.verbosity (call.levelName.getD "")

theorem after_fresh (call : Call) : fresh.after call = atLevel call.level :=
  congrArg atLevel (chosenLevel_eq call)

/-- Nothing of an earlier call outlasts the next one. -/
theorem after_atLevel (level : Nat) (call : Call) : (atLevel level).after call = atLevel call.level :=
  congrArg atLevel (chosenLevel_eq call)

/-- After any calls the log is that of the last one. -/
theorem foldl_after (history : List Call) (last : Call) {log : Log}
    (reached : log = fresh ∨ ∃ level, log = atLevel level) :
    (history ++ [last]).foldl after log = atLevel last.level := by
  have step : ∀ call, log.after call = atLevel call.level := by
    rcases reached with rfl | ⟨level, rfl⟩
    · exact after_fresh
    · exact after_atLevel level
  induction history generalizing log with
  | nil => exact step last
  | cons call history ih =>
    rw [List.cons_append, List.foldl_cons, step call]
    exact ih (.inr ⟨_, rfl⟩) (after_atLevel _)

/-- However often the log was configured before, after a call each configured channel has one handler and the
level that this call sets, and an entry on or under one of them is written exactly once if it reaches the
threshold of the call, and else not at all. -/
theorem emit_after_calls (history : List Call) (last : Call) :
    (∀ channel ∈ configured, ((history ++ [last]).foldl after fresh).logger channel = ⟨last.level, 1⟩) ∧
    ∀ clock entry, ∀ above ∈ configured, above ∈ Channel.lineage entry.channel →
      ((history ++ [last]).foldl after fresh).emit clock entry =
        if last.threshold ≤ entry.level.code then entry.line clock else "" := by
  rw [foldl_after history last (.inl rfl)]
  refine ⟨fun channel known => ?_, fun clock entry above known member => ?_⟩
  · rw [logger_atLevel, if_pos known]
  · unfold emit
    have reached : (atLevel last.level).threshold entry.channel = last.threshold :=
      threshold_atLevel known member
    rw [handlers_atLevel known member, reached]
    by_cases low : entry.level.code < last.threshold
    · rw [if_pos low, if_neg (Nat.not_le.mpr low)]
    · rw [if_neg low, if_neg Nat.one_ne_zero, if_pos (Nat.not_lt.mp low), List.replicate_one,
        String.join_cons, String.join_nil, String.append_empty]

/-- Calls with a level name and with one that stands for no level. -/
def calls : List Call := [⟨2, some "info"⟩, ⟨0, some "loud"⟩]

/-- A call that asks for everything. -/
def wideCall : Call := ⟨7, none⟩

/-- A call that asks for no level. -/
def unsetCall : Call := ⟨2, some "NotSet"⟩

/-- A notice on a channel under a configured one. -/
def remark : Entry := ⟨.info, Channel.references, "resolved a.b"⟩

theorem emit_after_calls_unset :
    ((calls ++ [wideCall] ++ [unsetCall]).foldl after fresh).logger Channel.engine = ⟨0, 1⟩ ∧
    ((calls ++ [wideCall] ++ [unsetCall]).foldl after fresh).emit "12:00:00" remark = "" ∧
    ((calls ++ [wideCall]).foldl after fresh).emit "12:00:00" remark =
      "12:00:00 [INFO ] cryptotype_shims.references: resolved a.b\n" := by
  have known : Channel.engine ∈ configured := by decide
  have member : Channel.engine ∈ Channel.lineage remark.channel :=
    Channel.mem_lineage.mpr (.inr ⟨by decide, "references".toList, by decide, by decide⟩)
  have unset := emit_after_calls (calls ++ [wideCall]) unsetCall
  have wide := emit_after_calls calls wideCall
  have zero : unsetCall.level = 0 := by decide
  have warned : unsetCall.threshold = 30 := if_pos zero
  have full : wideCall.threshold = 10 := by decide
  refine ⟨?_, ?_, ?_⟩
  · rw [unset.1 _ known, zero]
  · rw [unset.2 _ _ _ known member, warned]
    decide
  · rw [wide.2 _ _ _ known member, full]
    decide

end Log
end SchemeTyping
