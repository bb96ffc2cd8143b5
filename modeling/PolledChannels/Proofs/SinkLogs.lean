import PolledChannels.Log.Emitter
import PolledChannels.Proofs.EntryContract

/-!
# Logs of a sink

A sink is told events and, between them, the scenario in force. `sink_log_validates` says what is
in its file then: as many lines as events, each of them valid, and each read as the entry of its
event, with the trace id of its number, as long as the word that counts them does not go round.
-/

namespace PolledChannels.Log

/-- What is asked of a sink. -/
inductive SinkCall where
  | setScenario (name : Option String)
  | emit (clock : Clock) (event : Event)

/-- The call tells an event. -/
def SinkCall.isEmit : SinkCall → Bool
  | setScenario _ => false
  | emit _ _ => true

/-- Answers one call. -/
def Sink.answer (s : Sink) : SinkCall → Sink
  | .setScenario name => s.setScenario name
  | .emit clock event => s.emit clock event

/-- A sink over an empty file, after some calls. -/
def Sink.after (component runId : String) (stream : Stream) (calls : List SinkCall) : Sink :=
  calls.foldl Sink.answer { emitter := { component, runId, target := .file [] }, stream }

/-- An event, when it was told and in which scenario. -/
structure Told where
  clock : Clock
  event : Event
  scenario : Option String

/-- The events that calls tell, in order, where `scenario` is in force before them. -/
def told (scenario : Option String) : List SinkCall → List Told
  | [] => []
  | .setScenario name :: calls => told name calls
  | .emit clock event :: calls => ⟨clock, event, scenario⟩ :: told scenario calls

/-- The entry of an event with a number. -/
def Told.entry (component runId : String) (stream : Stream) (number : Nat) (t : Told) : Entry where
  timestamp := t.clock.timestamp
  traceId := component ++ "::" ++ runId ++ "::" ++ Text.padded 3 number
  level := t.event.kind.level
  event := t.event.kind.name
  stream := some stream
  scenario := t.scenario
  channelId := some t.event.channel
  fd := t.event.fd
  localAddress := t.event.localAddress
  remoteAddress := t.event.remoteAddress
  errno := t.event.errno
  details := t.event.detail.map fun d => .object [("detail", .string d)]

/-- The entries of the events that calls tell, numbered from one by words. -/
def Sink.entries (component runId : String) (stream : Stream) (calls : List SinkCall) :
    List Entry :=
  (told none calls).mapIdx fun i t => t.entry component runId stream (UInt64.ofNat (i + 1)).toNat

/-- The text of a file: each line with its end. -/
def Target.text (t : Target) : String := String.join (t.written.map fun l => l ++ "\n")

/-! ## What a sink writes -/

section Writing

variable {component runId : String} {stream : Stream} {scenario : Option String}
  {lines : List String} {count : UInt64}

theorem Sink.emit_file (clock : Clock) (event : Event) :
    Sink.emit ⟨⟨component, runId, .file lines, count⟩, stream, scenario⟩ clock event =
      ⟨⟨component, runId, .file ((Told.entry component runId stream (count + 1).toNat
        ⟨clock, event, scenario⟩).line :: lines), count + 1⟩, stream, scenario⟩ :=
  rfl

theorem Sink.written_foldl (calls : List SinkCall) :
    (calls.foldl Sink.answer
        ⟨⟨component, runId, .file lines, count⟩, stream, scenario⟩).emitter.target =
      .file ((((told scenario calls).mapIdx fun i t =>
        t.entry component runId stream (count + .ofNat (i + 1)).toNat).map Entry.line).reverse ++
          lines) := by
  induction calls generalizing lines count scenario with
  | nil => rfl
  | cons call calls ih =>
    cases call with
    | setScenario name => exact ih
    | emit clock event =>
      rw [List.foldl_cons, answer, emit_file, ih]
      simp [told, UInt64.add_assoc, UInt64.add_comm 1]

end Writing

/-- The trace id of an entry of a sink is divided, and what its event asks for is there. -/
theorem Told.entry_lawful (component runId : String) (stream : Stream) (number : Nat) (t : Told) :
    (t.entry component runId stream number).Lawful := by
  refine ⟨?_, fun _ => rfl, ?_⟩
  · exact ⟨component.toList, (runId ++ "::" ++ Text.padded 3 number).toList, by simp [entry]⟩
  · rw [← isWarningEvent_iff]
    simp only [entry]
    cases t.event.kind <;> decide

theorem Told.entry_carried (component runId : String) (stream : Stream) (number : Nat) (t : Told) :
    (t.entry component runId stream number).Carried := by
  intro v hv
  obtain ⟨d, -, rfl⟩ := Option.map_eq_some_iff.mp hv
  exact ⟨rfl, rfl, show 1 < Json.depthLimit by decide⟩

theorem Told.readBack_entry (component runId : String) (stream : Stream) (number : Nat) (t : Told) :
    (t.entry component runId stream number).readBack = t.entry component runId stream number := by
  cases hdetail : t.event.detail with
  | none => simp only [Entry.readBack, entry, hdetail, Option.map_none, Option.filter_none]
  | some d =>
    have hobject : isNull (.object [("detail", .string d)]) = false := rfl
    simp only [Entry.readBack, entry, hdetail, Option.map_some, Option.filter_some, hobject,
      Bool.not_false, if_true]

theorem Told.validateLine_entry (component runId : String) (stream : Stream) (number : Nat)
    (t : Told) (lineNumber : Nat) :
    validateLine (t.entry component runId stream number).line lineNumber =
      .ok (t.entry component runId stream number) :=
  (Entry.validateLine_line (t.entry_carried component runId stream number)).mpr
    ⟨t.entry_lawful component runId stream number,
      (t.readBack_entry component runId stream number).symm⟩

/-! ## Reading a file line by line -/

theorem linesFrom_append_newline {line : List Char} (h : '\n' ∉ line) (taken rest : List Char) :
    Text.linesFrom taken (line ++ '\n' :: rest) = (taken.reverse ++ line) ::
      Text.linesFrom [] rest := by
  induction line generalizing taken with
  | nil => simp [Text.linesFrom]
  | cons c cs ih =>
    obtain ⟨hc, hcs⟩ := not_or.mp (mt List.mem_cons.mpr h)
    simp [Text.linesFrom, Ne.symm hc, ih hcs]

theorem lines_join {ls : List String} (h : ∀ l ∈ ls, '\n' ∉ l.toList) :
    Text.lines (String.join (ls.map fun l => l ++ "\n")).toList = ls.map String.toList := by
  induction ls with
  | nil => rfl
  | cons l ls ih =>
    have hrest := ih fun l' hl' => h l' (List.mem_cons_of_mem _ hl')
    have hl := linesFrom_append_newline (h l List.mem_cons_self) []
    simp_all [Text.lines]

theorem fromUTF8?_toUTF8 (s : String) : String.fromUTF8? s.toUTF8 = some s := by
  simp only [String.fromUTF8?, String.toUTF8_eq_toByteArray, dif_pos s.isValidUTF8]
  rfl

/-- The line of an entry has no blanks around it: it stands between braces. -/
theorem Entry.strip_line (e : Entry) :
    ∃ c cs, e.line.toList = c :: cs ∧ Text.strip (c :: cs) = c :: cs := by
  have hopen : Text.isBlank '\x7b' = false := by decide
  have hclose : Text.isBlank '\x7d' = false := by decide
  refine ⟨'\x7b', Json.renderMembers true e.members ++ ['\x7d'], ?_, ?_⟩
  · simp [line, Json.toText, Json.render]
  · simp [Text.strip, hopen, hclose]

theorem Entry.newline_not_mem_line {e : Entry} (h : e.Carried) : '\n' ∉ e.line.toList := by
  have hmembers := Json.visible_renderMembers (fun m hm =>
    Json.visible_render (members_carried h m hm).1 (members_carried h m hm).2.2) true
  have hline : Json.Visible e.line.toList := by
    simpa [line, Json.toText, Json.render] using hmembers
  intro hmem
  exact absurd (hline _ hmem) (by decide)

/-- The lines of valid entries are all counted, and nothing is wrong with them. -/
theorem validateLines_of_valid {entries : List Entry}
    (h : ∀ e ∈ entries, ∀ number, validateLine e.line number = .ok e) (number : Nat) :
    validateLines number (entries.map fun e => e.line.toList) = (entries.length, []) := by
  induction entries generalizing number with
  | nil => rfl
  | cons e es ih =>
    have hrest := ih (fun e' he' => h e' (List.mem_cons_of_mem _ he')) (number + 1)
    have he := h e List.mem_cons_self number
    obtain ⟨c, cs, hline, hstrip⟩ := e.strip_line
    have hvalid : validateLine (String.ofList (c :: cs)) number = .ok e := by
      rw [← hline, String.ofList_toList, he]
    simp only [List.map_cons, validateLines, hrest, hline, hstrip, hvalid, List.length_cons]

theorem length_told (scenario : Option String) (calls : List SinkCall) :
    (told scenario calls).length = calls.countP SinkCall.isEmit := by
  induction calls generalizing scenario with
  | nil => rfl
  | cons call calls ih =>
    cases call with
    | setScenario name => exact ih name
    | emit clock event => simp [told, List.countP_cons, SinkCall.isEmit, ih]

section Entries

variable (component runId : String) (stream : Stream) (calls : List SinkCall)

theorem Sink.mem_entries {e : Entry} (h : e ∈ entries component runId stream calls) :
    ∃ number t, Told.entry component runId stream number t = e := by
  obtain ⟨i, hi, rfl⟩ := List.mem_mapIdx.mp h
  exact ⟨_, _, rfl⟩

theorem Sink.entries_below {i : Nat} {t : Told} (ht : (told none calls)[i]? = some t)
    (hi : i + 1 < UInt64.size) :
    (entries component runId stream calls)[i]? = some (t.entry component runId stream (i + 1)) := by
  rw [entries, List.getElem?_mapIdx, ht, Option.map_some, UInt64.toNat_ofNat_of_lt' hi]

theorem Sink.text_after :
    (after component runId stream calls).emitter.target.text =
      String.join (((entries component runId stream calls).map Entry.line).map fun l =>
        l ++ "\n") := by
  rw [Target.text, after, written_foldl]
  simp only [UInt64.zero_add, Target.written, List.append_nil, List.reverse_reverse, entries]

theorem Sink.lines_text_after :
    Text.lines (after component runId stream calls).emitter.target.text.toList =
      (entries component runId stream calls).map fun e => e.line.toList := by
  rw [text_after, lines_join]
  · simp
  · intro l hl
    obtain ⟨e, he, rfl⟩ := List.mem_map.mp hl
    obtain ⟨number, t, rfl⟩ := mem_entries component runId stream calls he
    exact Entry.newline_not_mem_line (t.entry_carried component runId stream number)

theorem Sink.entries_valid : ∀ e ∈ entries component runId stream calls, ∀ number,
    validateLine e.line number = .ok e := by
  intro e he number
  obtain ⟨n, t, rfl⟩ := mem_entries component runId stream calls he
  exact t.validateLine_entry component runId stream n number

end Entries

/-- The log of a sink has one line for each event. All of them are valid, and each is read as the
entry of its event, with its number in the trace id as long as a word has room for it. -/
theorem sink_log_validates (component runId : String) (stream : Stream) (calls : List SinkCall) :
    (Sink.after component runId stream calls).flush = .ok () ∧
      validateBytes (some (Sink.after component runId stream calls).emitter.target.text.toUTF8) =
        .ok (calls.countP SinkCall.isEmit, []) ∧
      (∀ number,
        (Text.lines (Sink.after component runId stream calls).emitter.target.text.toList).map
            (fun l => validateLine (String.ofList l) number) =
          (Sink.entries component runId stream calls).map .ok) ∧
      ∀ i t, (told none calls)[i]? = some t → i + 1 < UInt64.size →
        (Sink.entries component runId stream calls)[i]? =
          some (t.entry component runId stream (i + 1)) := by
  have hlines := Sink.lines_text_after component runId stream calls
  have hvalid := Sink.entries_valid component runId stream calls
  refine ⟨?_, ?_, fun number => ?_, fun i t => Sink.entries_below component runId stream calls⟩
  · simp only [Sink.flush, Emitter.flush, Sink.after, Sink.written_foldl, Target.flush]
  · rw [validateBytes, fromUTF8?_toUTF8]
    simp only [validateFile, hlines, validateLines_of_valid hvalid]
    simp [Sink.entries, length_told]
  · rw [hlines, List.map_map]
    refine List.map_congr_left fun e he => ?_
    rw [Function.comp, String.ofList_toList, hvalid e he number]

/-- An event of no scenario, and one with a line end in its detail of a scenario. -/
def twoEvents : List SinkCall :=
  [.emit ⟨0, 0⟩ { kind := .opened, channel := 1 }, .setScenario (some "close"),
    .emit ⟨0, 0⟩
      { kind := .closed, channel := 1, errno := some 9, detail := some "late\nclose" }]

theorem two_events_validate :
    (Sink.after "net" "run::7" .unit twoEvents).flush = .ok () ∧
      validateBytes (some (Sink.after "net" "run::7" .unit twoEvents).emitter.target.text.toUTF8) =
        .ok (2, []) ∧
      (Sink.entries "net" "run::7" .unit twoEvents)[1]?.map Entry.traceId =
        some "net::run::7::002" := by
  obtain ⟨hflush, hvalid, -, hnumber⟩ := sink_log_validates "net" "run::7" .unit twoEvents
  refine ⟨hflush, hvalid, ?_⟩
  rw [hnumber 1 _ rfl (by decide)]
  rfl

end PolledChannels.Log
