import PolledChannels.Log.Emitter
import PolledChannels.Proofs.Numerals
import PolledChannels.Proofs.Timestamps

/-!
# Trace ids of a run

An emitter assigns trace ids to entries that have none, and counts these entries only, in a word.
So as long as the word does not go round, the ids of a run are numbered from one, without gaps; what
stands after the last double colon of an id is its number, whatever the component and the run are
called, and no id comes twice.
-/

namespace PolledChannels.Log

/-! ## The number of an id -/

/-- What stands after the last double colon of a text. -/
def lastPart : List Char → Option (List Char)
  | [] => none
  | c :: text =>
    (lastPart text).or (if c = ':' ∧ text.head? = some ':' then some text.tail else none)

theorem lastPart_eq_none {text : List Char} (h : ':' ∉ text) : lastPart text = none := by
  induction text with
  | nil => rfl
  | cons c text ih =>
    obtain ⟨hc, htext⟩ := not_or.mp (mt List.mem_cons.mpr h)
    simp [lastPart, ih htext, Ne.symm hc]

theorem lastPart_append (before : List Char) {part : List Char} (h : ':' ∉ part) :
    lastPart (before ++ ':' :: ':' :: part) = some part := by
  induction before with
  | nil =>
    have hhead : part.head? ≠ some ':' := fun hhead => h (List.mem_of_mem_head? hhead)
    simp [lastPart, lastPart_eq_none h, hhead]
  | cons c before ih => simp [lastPart, ih]

/-- The digits give the number, with zeros before it up to three digits. -/
structure Counts (digits : List Char) (number : Nat) : Prop where
  isDigit : ∀ c ∈ digits, c.isDigit = true
  value : Text.decimalValue 0 digits = number
  three_le : 3 ≤ digits.length
  head? : 3 < digits.length → digits.head? ≠ some '0'

theorem decimalValue_eq (start : Nat) (digits : List Char) :
    Text.decimalValue start digits = Nat.ofDigitChars 10 digits start := by
  induction digits generalizing start with
  | nil => rfl
  | cons c digits ih =>
    rw [Nat.ofDigitChars_cons, Nat.mul_comm 10 start]
    exact ih _

theorem counts_padded (number : Nat) : Counts (Text.padded 3 number).toList number where
  isDigit _ := Text.isDigit_of_mem_padded
  value := by rw [decimalValue_eq, Text.ofDigitChars_padded]
  three_le := Text.le_length_padded 3 number
  head? hlong := by
    rw [Text.toList_padded, List.length_append, List.length_replicate] at hlong
    rw [Text.toList_padded, show 3 - (Nat.toDigits 10 number).length = 0 by omega]
    exact (Text.numeral_toDigits (by decide) number).head?_of_long Text.values_digit (by omega)

/-! ## Runs of an emitter -/

/-- A call of an emitter. -/
inductive EmitterCall where
  | emit (clock : Clock) (level : Level) (event : String)
  | emitEntry (entry : Entry)

namespace EmitterCall

/-- The entry before an emitter has it. -/
def draft : EmitterCall → Entry
  | emit clock level event => { timestamp := clock.timestamp, traceId := "", level, event }
  | emitEntry entry => entry

/-- The emitter is to assign a trace id. -/
def isBlank (call : EmitterCall) : Bool := call.draft.traceId.isEmpty

end EmitterCall

namespace Emitter

/-- The entry that is written for a call. -/
def entry (e : Emitter) (call : EmitterCall) : Entry :=
  if call.isBlank then { call.draft with traceId := e.advance.2 } else call.draft

/-- Answers one call. -/
def answer (e : Emitter) : EmitterCall → Emitter
  | .emit clock level event => (e.emit clock level event).1
  | .emitEntry entry => (e.emitEntry entry).1

/-- The entries that are written for calls. -/
def entries (e : Emitter) : List EmitterCall → List Entry
  | [] => []
  | call :: calls => e.entry call :: (e.answer call).entries calls

/-- The trace ids that are assigned at calls. -/
def assigned (e : Emitter) : List EmitterCall → List String
  | [] => []
  | call :: calls =>
    (if call.isBlank then [(e.entry call).traceId] else []) ++ (e.answer call).assigned calls

def after (e : Emitter) (calls : List EmitterCall) : Emitter :=
  calls.foldl answer e

variable (e : Emitter) (call : EmitterCall) (calls : List EmitterCall)

/-- A call writes one entry, and counts it if it assigned the trace id. -/
theorem answer_eq :
    e.answer call =
      { e with
        target := (e.target.writeLine (e.entry call).line).1
        count := if call.isBlank then e.count + 1 else e.count } := by
  cases call with
  | emit clock level event => rfl
  | emitEntry entry =>
    by_cases h : entry.traceId.isEmpty = true <;>
      simp [answer, emitEntry, writeEntry, Emitter.entry, EmitterCall.isBlank, EmitterCall.draft,
        advance, h]

theorem traceId_answer : (e.answer call).traceId = e.traceId := by
  rw [answer_eq]
  rfl

theorem target_after :
    (e.after calls).target = (e.entries calls).foldl (fun t x => (t.writeLine x.line).1)
      e.target := by
  induction calls generalizing e with
  | nil => rfl
  | cons call calls ih =>
    rw [after, List.foldl_cons, entries, List.foldl_cons]
    refine (ih (e.answer call)).trans ?_
    rw [answer_eq]

/-- The ids are numbered on from the count, in words. -/
theorem assigned_eq :
    e.assigned calls = (List.range (calls.countP EmitterCall.isBlank)).map fun i =>
      e.traceId (e.count + .ofNat (i + 1)) := by
  induction calls generalizing e with
  | nil => rfl
  | cons call calls ih =>
    rw [assigned, ih, traceId_answer, answer_eq]
    cases h : call.isBlank with
    | false => simp [h]
    | true =>
      simp [h, List.range_succ_eq_map, entry, advance, Function.comp_def, UInt64.add_assoc,
        UInt64.add_comm 1]

theorem traceId_injective : Function.Injective e.traceId := by
  intro m n h
  have htext := congrArg String.toList h
  simp only [traceId, String.toList_append, List.append_cancel_left_eq] at htext
  exact UInt64.toNat.inj (Text.padded_inj.mp htext)

theorem nodup_assigned (hfew : calls.countP EmitterCall.isBlank < UInt64.size) :
    (e.assigned calls).Nodup := by
  rw [assigned_eq]
  refine List.nodup_range.map_on fun i hi j hj h => ?_
  have hword := congrArg UInt64.toNat ((UInt64.add_right_inj _).mp (e.traceId_injective h))
  rw [List.mem_range] at hi hj
  rw [UInt64.toNat_ofNat_of_lt' (by omega), UInt64.toNat_ofNat_of_lt' (by omega)] at hword
  exact Nat.add_right_cancel hword

theorem lastPart_traceId (n : UInt64) :
    lastPart (e.traceId n).toList = some (Text.padded 3 n.toNat).toList := by
  have hcolon : ':' ∉ (Text.padded 3 n.toNat).toList := fun h =>
    absurd (Text.isDigit_of_mem_padded h) (by decide)
  simpa [traceId] using lastPart_append (e.component ++ "::" ++ e.runId).toList hcolon

theorem entries_of_preset {i : Nat} (h : calls[i]? = some call) (hpreset : call.isBlank = false) :
    (e.entries calls)[i]? = some call.draft := by
  induction calls generalizing e i with
  | nil => simp at h
  | cons call' calls ih =>
    cases i with
    | zero =>
      cases h
      simp [entries, entry, hpreset]
    | succ i => exact ih _ h

end Emitter

/-- The ids of a run are numbered from one as long as the word that counts them does not go round,
and entries that have an id are written as they are. -/
theorem trace_ids_number_the_run (component runId : String) (target : Target)
    (calls : List EmitterCall) (hfew : calls.countP EmitterCall.isBlank < UInt64.size) :
    let e : Emitter := { component, runId, target }
    (e.after calls).target = (e.entries calls).foldl (fun t x => (t.writeLine x.line).1) target ∧
      (∀ (e : Emitter) (clock : Clock) (level : Level) (event : String),
        (e.emit clock level event).2 =
          (e.target.writeLine (e.entry (.emit clock level event)).line).2.map
            fun _ => e.entry (.emit clock level event)) ∧
      (e.assigned calls).length = calls.countP EmitterCall.isBlank ∧
      (∀ i id, (e.assigned calls)[i]? = some id →
        ∃ digits, lastPart id.toList = some digits ∧
        id = component ++ "::" ++ runId ++ "::" ++ String.ofList digits ∧
        Counts digits (i + 1)) ∧
      (e.assigned calls).Nodup ∧
      ∀ (i : Nat) (call : EmitterCall), calls[i]? = some call → call.isBlank = false →
        (e.entries calls)[i]? = some call.draft := by
  intro e
  refine ⟨e.target_after calls, fun _ _ _ _ => rfl, ?_, fun i id hid => ?_,
    e.nodup_assigned calls hfew, fun i call => e.entries_of_preset call calls⟩
  · simp [e.assigned_eq]
  · rw [e.assigned_eq, List.getElem?_map] at hid
    obtain ⟨j, hj, rfl⟩ := Option.map_eq_some_iff.mp hid
    obtain ⟨hi, rfl⟩ := List.getElem?_eq_some_iff.mp hj
    rw [List.getElem_range]
    rw [List.length_range] at hi
    have hword : ((0 : UInt64) + .ofNat (i + 1)).toNat = i + 1 := by
      rw [UInt64.zero_add, UInt64.toNat_ofNat_of_lt' (by omega)]
    refine ⟨_, e.lastPart_traceId _, ?_, ?_⟩
    · rw [String.ofList_toList]
      rfl
    · rw [show e.count = 0 from rfl, hword]
      exact counts_padded (i + 1)

/-- A run that assigns an id, writes an entry that has one, and assigns another. -/
def mixedRun : List EmitterCall :=
  [.emit ⟨0, 0⟩ .info "start",
    .emitEntry { timestamp := "", traceId := "given", level := .info, event := "middle" },
    .emitEntry { timestamp := "", traceId := "", level := .warn, event := "end" }]

theorem mixed_run_numbered :
    let e : Emitter := { component := "a::1", runId := "2", target := .discard }
    e.assigned mixedRun = ["a::1::2::001", "a::1::2::002"] ∧ (e.assigned mixedRun).Nodup ∧
      (e.entries mixedRun)[1]?.map Entry.traceId = some "given" := by
  have h := trace_ids_number_the_run "a::1" "2" .discard mixedRun (by decide)
  exact ⟨by decide, h.2.2.2.2.1, congrArg (Option.map Entry.traceId) (h.2.2.2.2.2 1 _ rfl rfl)⟩

end PolledChannels.Log
