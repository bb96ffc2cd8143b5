import PolledChannels.Log.Validation
import PolledChannels.Proofs.EntryParts
import PolledChannels.Proofs.JsonReadBack

/-!
# The contract of log entries

An entry is lawful if its trace id is divided, an event of a channel says which channel, and
refusals and reports of invalid descriptors are warnings.

Main statements:
* `written_entry_validates_iff`: the line of an entry is valid exactly if the entry is lawful, and
  is then read back as that entry, except that details which are null are read as none;
* `valid_line_is_lawful_and_stable`: whatever is read from a valid line is lawful, and its own line
  is read as the same entry.
-/

namespace PolledChannels.Log

variable {members : Members} {v : Json} {name : String}

/-- The names of the events of channels. -/
def channelEvents : List String :=
  ["open", "bind", "listen_denied", "accept", "accept_denied", "close", "kill",
    "pollnval_without_preclose", "interrupt"]

/-- The names of the events that are warnings. -/
def warningEvents : List String := ["listen_denied", "accept_denied", "pollnval_without_preclose"]

/-- What an entry keeps to. -/
structure Entry.Lawful (e : Entry) : Prop where
  divided : [':', ':'] <:+: e.traceId.toList
  placed : e.event ∈ channelEvents → e.channelId.isSome
  warned : e.event ∈ warningEvents → e.level = .warn

def isNull : Json → Bool
  | .null => true
  | _ => false

/-- The entry as its line is read: details that are null are none. -/
def Entry.readBack (e : Entry) : Entry := { e with details := e.details.filter fun v => !isNull v }

/-! ## The rules -/

theorem holdsDivider_iff {cs : List Char} : holdsDivider cs = true ↔ [':', ':'] <:+: cs := by
  fun_induction holdsDivider cs with
  | case1 rest => simpa using ⟨[], rest, rfl⟩
  | case2 c cs hno ih =>
    rw [ih]
    constructor
    · exact fun h => h.trans (List.suffix_cons c cs).isInfix
    · intro h
      rcases List.infix_cons_iff.mp h with hfront | hrest
      · obtain ⟨rest, hrest⟩ := hfront
        injection hrest with hc hcs
        exact absurd hcs.symm (hno rest hc.symm)
      · exact hrest
  | case3 => simp

theorem channelEvents_eq : channelEvents = EventKind.all.map EventKind.name := rfl

theorem warningEvents_eq :
    warningEvents = (EventKind.all.filter fun k => k.level == .warn).map EventKind.name := rfl

theorem isChannelEvent_iff : isChannelEvent name = true ↔ name ∈ channelEvents := by
  simp [isChannelEvent, channelEvents_eq]

theorem isWarningEvent_iff : isWarningEvent name = true ↔ name ∈ warningEvents := by
  simp [isWarningEvent, warningEvents_eq, and_comm, and_assoc]

/-- An object breaks no rule if it breaks none of the seven kinds. -/
theorem complaints_eq_nil_iff :
    complaints members = [] ↔
      missing members = [] ∧ unknownName members "level" (Level.all.map Level.name) = [] ∧
        unknownName members "outcome" (Outcome.all.map Outcome.name) = [] ∧
        unknownName members "stream" (Stream.all.map Stream.name) = [] ∧
        badTraceId members = [] ∧
        missingChannel members = [] ∧ mildWarning members = [] := by
  simp only [complaints, List.append_eq_nil_iff, and_assoc]

/-! ## What is read from a valid object is lawful -/

theorem asString_string (s : String) : asString (.string s) = .ok s := rfl

theorem asString_eq_ok {s : String} : asString v = .ok s ↔ v = .string s := by
  cases v <;> simp [asString, wrongType]

section Accepted

variable {members : Members} {e : Entry} {key : String}

theorem lookup_of_missing (h : missing members = [])
    (hkey : key ∈ ["timestamp", "trace_id", "level", "event"]) :
      ∃ v, members.lookup key = some v := by
  have hall := List.filter_eq_nil_iff.mp (List.map_eq_nil_iff.mp h) key hkey
  exact Option.ne_none_iff_exists'.mp (by simpa using hall)

theorem text_of_fits {get : Entry → String} (h : missing members = [])
    (hkey : key ∈ ["timestamp", "trace_id", "level", "event"])
    (hfits : Part.Fits ⟨_, key, asString, get⟩ members Entry.blank e) :
    text? members key = some (get e) := by
  obtain ⟨v, hv⟩ := lookup_of_missing h hkey
  simp only [Part.Fits, hv] at hfits
  simp [text?, hv, asString_eq_ok.mp hfits, Json.string?]

theorem channel_of_unsigned {id : Option UInt64} (hv : isUnsigned v = true)
    (h : asOptional asUnsigned v = .ok id) : id.isSome = true := by
  cases v with
  | int n =>
    obtain ⟨x, -, rfl⟩ := map_eq_ok.mp h
    rfl
  | _ => cases hv

theorem asNamed_level (l : Level) : asNamed levelChoices (.string l.name) = .ok l := by
  cases l <;> rfl

theorem asNamed_outcome (o : Outcome) : asNamed outcomeChoices (.string o.name) = .ok o := by
  cases o <;> rfl

theorem asNamed_stream (s : Stream) : asNamed streamChoices (.string s.name) = .ok s := by
  cases s <;> rfl

/-- An object that breaks no rule makes a lawful entry, if it makes one at all. -/
theorem lawful_of_complaints (hkeys : (members.map Prod.fst).Nodup)
    (hrules : complaints members = []) (hentry : Entry.ofMembers members = .ok e) : e.Lawful := by
  obtain ⟨hmissing, -, -, -, htrace, hchannel, hwarning⟩ := complaints_eq_nil_iff.mp hrules
  have hfits := (Entry.ofMembers_eq_ok_iff hkeys).mp hentry
  have htraceId : text? members "trace_id" = some e.traceId :=
    text_of_fits hmissing (by simp) (hfits _ (by simp [parts]))
  have hevent : text? members "event" = some e.event :=
    text_of_fits hmissing (by simp) (hfits _ (by simp [parts]))
  refine ⟨?_, fun hname => ?_, fun hname => ?_⟩
  · simp only [badTraceId, htraceId] at htrace
    split at htrace
    · next hholds => exact holdsDivider_iff.mp hholds
    · cases htrace
  · have hid : (members.lookup "channel_id").any isUnsigned = true := by
      simpa [missingChannel, hevent, isChannelEvent_iff.mpr hname] using hchannel
    obtain ⟨v, hv, hunsigned⟩ := (Option.any_eq_true _ _).mp hid
    have hpart : Part.Fits ⟨_, "channel_id", asOptional asUnsigned, Entry.channelId⟩ members
        Entry.blank e := hfits _ (by simp [parts])
    simp only [Part.Fits, hv] at hpart
    exact channel_of_unsigned hunsigned hpart
  · have hlevel : text? members "level" = some "warn" := by
      simpa [mildWarning, hevent, isWarningEvent_iff.mpr hname] using hwarning
    obtain ⟨v, hv⟩ : ∃ v, members.lookup "level" = some v :=
      lookup_of_missing hmissing (by simp)
    have hpart : Part.Fits ⟨_, "level", asNamed levelChoices, Entry.level⟩ members
        Entry.blank e := hfits _ (by simp [parts])
    simp only [Part.Fits, hv] at hpart
    have hstring : v = .string "warn" := by
      cases v <;> simp [text?, hv, Json.string?] at hlevel
      rw [hlevel]
    rw [hstring] at hpart
    exact Except.ok.inj (hpart.symm.trans (asNamed_level .warn))

end Accepted

/-! ## The members of an entry -/

section Written

variable {α : Type} {key k line : String} {value : Option α} {encode : α → Json} {e : Entry}
    {m : String × Json} {number : Nat}

@[simp] theorem lookup_optional_append :
    (Event.optional key value encode ++ members).lookup k =
      if k = key then (value.map encode).or (members.lookup k) else members.lookup k := by
  cases value <;> by_cases h : k = key <;> simp [Event.optional, h]

@[simp] theorem lookup_optional :
    (Event.optional key value encode).lookup k = if k = key then value.map encode else none := by
  cases value <;> simp [Event.optional]

theorem optional_keys : ((Event.optional key value encode).map Prod.fst).Sublist [key] := by
  cases value <;> simp [Event.optional]

theorem mem_optional (h : m ∈ Event.optional key value encode) :
    ∃ a, value = some a ∧ m = (key, encode a) := by
  cases value with
  | none => simp [Event.optional] at h
  | some a => exact ⟨a, rfl, by simpa [Event.optional] using h⟩

theorem Entry.nodup_members (e : Entry) : (e.members.map Prod.fst).Nodup := by
  have hkeys : parts.map Part.key =
      ["timestamp", "trace_id", "level", "event"] ++ ["stream"] ++ ["scenario"] ++ ["channel_id"] ++
        ["fd"] ++ ["local_addr"] ++ ["remote_addr"] ++ ["outcome"] ++ ["errno"] ++
          ["duration_ms"] ++
        ["details"] := rfl
  have hsub : (e.members.map Prod.fst).Sublist (parts.map Part.key) := by
    rw [hkeys]
    simp only [members, List.map_append]
    iterate 10 refine List.Sublist.append ?_ optional_keys
    exact List.Sublist.refl _
  exact hsub.nodup (by decide)

theorem fits_unsigned (n : UInt64) : Json.fits (n.toNat : Int) = true :=
  Json.fits_natCast (Nat.le_sub_one_of_lt n.toNat_lt_size)

theorem fits_signed (n : Int32) : Json.fits n.toInt = true := by
  have hlow := n.le_toInt
  have hhigh := n.toInt_lt
  simp only [Json.fits, UInt64.size, Bool.and_eq_true, decide_eq_true_eq]
  omega

theorem Entry.members_value (h : m ∈ e.members) :
    (∃ s, m.2 = .string s) ∨ (∃ n, m.2 = .int n ∧ Json.fits n = true) ∨
    e.details = some m.2 := by
  simp only [members, List.mem_append, List.mem_cons, List.not_mem_nil, or_false, or_assoc] at h
  rcases h with rfl | rfl | rfl | rfl | h | h | h | h | h | h | h | h | h | h
  iterate 4 exact .inl ⟨_, rfl⟩
  all_goals obtain ⟨a, ha, rfl⟩ := mem_optional h
  · exact .inl ⟨_, rfl⟩
  · exact .inl ⟨_, rfl⟩
  · exact .inr (.inl ⟨_, rfl, fits_unsigned a⟩)
  · exact .inr (.inl ⟨_, rfl, fits_signed a⟩)
  · exact .inl ⟨_, rfl⟩
  · exact .inl ⟨_, rfl⟩
  · exact .inl ⟨_, rfl⟩
  · exact .inr (.inl ⟨_, rfl, fits_signed a⟩)
  · exact .inr (.inl ⟨_, rfl, fits_unsigned a⟩)
  · exact .inr (.inr ha)

theorem asUnsigned_toNat (n : UInt64) : asUnsigned (.int n.toNat) = .ok n := by
  have hrange : (0 : Int) ≤ (n.toNat : Int) ∧ (n.toNat : Int) < UInt64.size :=
    ⟨Int.natCast_nonneg _, Int.ofNat_lt.mpr n.toNat_lt_size⟩
  simp only [asUnsigned, if_pos hrange, Int.toNat_natCast, Nat.toUInt64_eq, UInt64.ofNat_toNat]

theorem asSigned_toInt (n : Int32) : asSigned (.int n.toInt) = .ok n := by
  simp only [asSigned, if_pos (And.intro n.minValue_le_toInt n.toInt_le), Int32.ofInt_toInt]

/-- A part that is written if there is one, and read back from what was written, is
told by its member. -/
theorem fits_optional {read : Json → Except String α} {get : Entry → Option α}
    (hlookup : members.lookup key = (get e).map encode) (hblank : get Entry.blank = none)
    (hread : ∀ a, read (encode a) = .ok a) (hnull : ∀ a, encode a ≠ .null) :
    Part.Fits ⟨_, key, asOptional read, get⟩ members Entry.blank e := by
  simp only [Part.Fits, hlookup]
  cases hget : get e with
  | none => exact hblank.symm
  | some a =>
    simp only [Option.map_some, asOptional]
    split
    · next heq => exact absurd heq (hnull a)
    · rw [hread]
      rfl

theorem fits_details (hlookup : members.lookup "details" = e.details) :
    Part.Fits ⟨_, "details", asOptional .ok, Entry.details⟩ members Entry.blank e.readBack := by
  simp only [Part.Fits, hlookup, Entry.readBack]
  cases hdetails : e.details with
  | none => rfl
  | some v => cases v <;> rfl

/-- Every part of an entry is told by its own members. -/
theorem Entry.fits_members (e : Entry) : ∀ p ∈ parts, p.Fits e.members blank e.readBack := by
  simp only [parts, List.forall_mem_cons]
  refine ⟨?_, ?_, ?_, ?_, ?_, ?_, ?_, ?_, ?_, ?_, ?_, ?_, ?_, ?_, by simp⟩
  · simp [Part.Fits, members, asString, readBack]
  · simp [Part.Fits, members, asString, readBack]
  · simp [Part.Fits, members, asNamed_level, readBack]
  · simp [Part.Fits, members, asString, readBack]
  · exact fits_optional (by simp [members, readBack]) rfl asNamed_stream (by simp)
  · exact fits_optional (by simp [members, readBack]) rfl asString_string (by simp)
  · exact fits_optional (by simp [members, readBack]) rfl asUnsigned_toNat (by simp)
  · exact fits_optional (by simp [members, readBack]) rfl asSigned_toInt (by simp)
  · exact fits_optional (by simp [members, readBack]) rfl asString_string (by simp)
  · exact fits_optional (by simp [members, readBack]) rfl asString_string (by simp)
  · exact fits_optional (by simp [members, readBack]) rfl asNamed_outcome (by simp)
  · exact fits_optional (by simp [members, readBack]) rfl asSigned_toInt (by simp)
  · exact fits_optional (by simp [members, readBack]) rfl asUnsigned_toNat (by simp)
  · exact fits_details (by simp [members])

/-- The members of an entry make that entry, in whatever order they are taken. -/
theorem Entry.ofMembers_sorted (e : Entry) :
    ofMembers (Json.sorted e.members) = .ok e.readBack := by
  refine (ofMembers_eq_ok_iff Json.inOrder_sorted.nodup).mpr fun p hp => ?_
  have hfits := e.fits_members p hp
  simpa only [Part.Fits, Json.lookup_sorted e.nodup_members] using hfits

theorem unknownName_of_known {names : List String}
    (h : ∀ s, text? members key = some s → s ∈ names) :
    unknownName members key names = [] := by
  simp only [unknownName]
  split
  · next s hs => simp [h s hs]
  · rfl

/-- An object with the members of a lawful entry, in whatever order, breaks no rule. -/
theorem Entry.complaints_eq_nil {found : Members}
    (hfound : ∀ k, found.lookup k = e.members.lookup k) (h : e.Lawful) :
      complaints found = [] := by
  have htrace : text? found "trace_id" = some e.traceId := by
    simp [text?, hfound, members, Json.string?]
  have hevent : text? found "event" = some e.event := by
    simp [text?, hfound, members, Json.string?]
  have hlevel : text? found "level" = some e.level.name := by
    simp [text?, hfound, members, Json.string?]
  have houtcome : text? found "outcome" = e.outcome.map Outcome.name := by
    cases ho : e.outcome <;> simp [text?, hfound, members, Json.string?, ho]
  have hstream : text? found "stream" = e.stream.map Stream.name := by
    cases hs : e.stream <;> simp [text?, hfound, members, Json.string?, hs]
  have hid : found.lookup "channel_id" = e.channelId.map fun n => .int n.toNat := by
    simp [hfound, members]
  refine complaints_eq_nil_iff.mpr ⟨?_, ?_, ?_, ?_, ?_, ?_, ?_⟩
  · simp [missing, hfound, members]
  · refine unknownName_of_known fun s hs => ?_
    rw [hlevel] at hs
    cases hs
    cases e.level <;> decide
  · refine unknownName_of_known fun s hs => ?_
    rw [houtcome] at hs
    obtain ⟨o, -, rfl⟩ := Option.map_eq_some_iff.mp hs
    cases o <;> decide
  · refine unknownName_of_known fun s hs => ?_
    rw [hstream] at hs
    obtain ⟨x, -, rfl⟩ := Option.map_eq_some_iff.mp hs
    cases x <;> decide
  · simp only [badTraceId, htrace, holdsDivider_iff.mpr h.divided, if_true]
  · by_cases hname : e.event ∈ channelEvents
    · obtain ⟨n, hn⟩ := Option.isSome_iff_exists.mp (h.placed hname)
      simp [missingChannel, hid, hn, isUnsigned]
    · have hother : isChannelEvent e.event = false := by simpa using mt isChannelEvent_iff.mp hname
      simp [missingChannel, hevent, hother]
  · by_cases hname : e.event ∈ warningEvents
    · simp [mildWarning, hlevel, h.warned hname, Level.name]
    · have hother : isWarningEvent e.event = false := by simpa using mt isWarningEvent_iff.mp hname
      simp [mildWarning, hevent, hother]

/-! ## Lines -/

theorem Entry.readBack_lawful : e.readBack.Lawful ↔ e.Lawful :=
  ⟨fun h => ⟨h.divided, h.placed, h.warned⟩, fun h => ⟨h.divided, h.placed, h.warned⟩⟩

/-- Details that a line can carry: proper, without doubles and not nested too deeply. -/
def Entry.Carried (e : Entry) : Prop :=
  ∀ v, e.details = some v → v.proper = true ∧ v.floatFree = true ∧ v.depth < Json.depthLimit

theorem Entry.members_carried (h : e.Carried) :
    ∀ m ∈ e.members, m.2.floatFree = true ∧ Json.ProperWithin 126 m.2 := by
  intro m hm
  rcases members_value hm with ⟨s, hs⟩ | ⟨n, hn, hfits⟩ | hdetails
  · rw [hs]
    exact ⟨rfl, rfl, Nat.zero_le _⟩
  · rw [hn]
    exact ⟨rfl, Json.properWithin_of_isNumber (.int hfits) 126⟩
  · obtain ⟨hproper, hfree, hdepth⟩ := h m.2 hdetails
    exact ⟨hfree, hproper, Nat.le_of_lt_succ hdepth⟩

theorem Entry.parse_line (h : e.Carried) :
    Json.parse e.line = .ok (.object (Json.sorted e.members)) := by
  have hread := Json.read_object rfl (fun m hm => (members_carried h m hm).1)
    fun m hm => (members_carried h m hm).2
  simp only [Json.parse, line, Json.toText, String.toList_ofList, hread]

theorem validateLine_eq_ok_iff :
    validateLine line number = .ok e ↔
      ∃ members, Json.parse line = .ok (.object members) ∧ complaints members = [] ∧
        Entry.ofMembers members = .ok e := by
  constructor
  · intro h
    simp only [validateLine, checkLine, entryOf] at h
    grind
  · rintro ⟨members, hparse, hrules, hentry⟩
    simp only [validateLine, checkLine, hparse, entryOf, hrules, hentry]

theorem Entry.validateLine_line (h : e.Carried) {e' : Entry} :
    validateLine e.line number = .ok e' ↔ e.Lawful ∧ e' = e.readBack := by
  rw [validateLine_eq_ok_iff]
  constructor
  · rintro ⟨members, hparse, hrules, hentry⟩
    obtain rfl : Json.sorted e.members = members := by
      rw [parse_line h] at hparse
      injection hparse with hobject
      injection hobject
    obtain rfl : e.readBack = e' := by
      rw [ofMembers_sorted] at hentry
      injection hentry
    exact ⟨readBack_lawful.mp (lawful_of_complaints Json.inOrder_sorted.nodup hrules hentry),
      rfl⟩
  · rintro ⟨hlawful, rfl⟩
    have hfound := Json.lookup_sorted e.nodup_members
    exact ⟨_, parse_line h, complaints_eq_nil hfound hlawful, ofMembers_sorted e⟩

/-- The members of an object that was read stand in order, and their values are proper. -/
theorem members_of_parse (h : Json.parse line = .ok (.object members)) :
    Json.InOrder members ∧ ∀ m ∈ members, Json.ProperWithin 126 m.2 := by
  have hread : Json.read line.toList = .ok (.object members) := by
    simp only [Json.parse] at h
    grind
  obtain ⟨hproper, hdepth⟩ := Json.properWithin_of_read hread
  obtain ⟨horder, hvalues⟩ := Json.everywhere_object.mp hproper
  exact ⟨by simpa [Json.isProper] using horder,
    fun m hm => ⟨hvalues m hm, Json.depth_object_le.mp hdepth m hm⟩⟩

theorem asOptional_present {w : Json} (h : asOptional .ok w = .ok (some v)) :
    w = v ∧ isNull v = false := by
  cases w <;> cases h <;> exact ⟨rfl, rfl⟩

/-- The details of an entry stand under their key in the object it is read from, and are not
null. -/
theorem details_of_ofMembers (hkeys : (members.map Prod.fst).Nodup)
    (hentry : Entry.ofMembers members = .ok e) (hv : e.details = some v) :
    ("details", v) ∈ members ∧ isNull v = false := by
  have hfits : Part.Fits ⟨_, "details", asOptional .ok, Entry.details⟩ members Entry.blank e :=
    (Entry.ofMembers_eq_ok_iff hkeys).mp hentry _ (by simp [parts])
  simp only [Part.Fits, hv] at hfits
  cases hlookup : members.lookup "details" with
  | none => simp [hlookup, Entry.blank] at hfits
  | some w =>
    rw [hlookup] at hfits
    obtain ⟨rfl, hnull⟩ := asOptional_present hfits
    obtain ⟨before, after, hmembers, -⟩ := List.lookup_eq_some_iff.mp hlookup
    exact ⟨by simp [hmembers], hnull⟩

end Written

/-- The line of an entry is valid exactly if the entry is lawful. It is read back as the entry,
with details that are null left out. -/
theorem written_entry_validates_iff (e : Entry)
    (hdetails : ∀ v, e.details = some v →
      v.proper = true ∧ v.floatFree = true ∧ v.depth < Json.depthLimit) (number : Nat) :
    ((∃ e', validateLine e.line number = .ok e') ↔ e.Lawful) ∧
      ∀ e', validateLine e.line number = .ok e' → e' = e.readBack := by
  have hline (e' : Entry) : validateLine e.line number = .ok e' ↔ e.Lawful ∧ e' = e.readBack :=
    Entry.validateLine_line hdetails
  refine ⟨⟨?_, fun hlawful => ⟨_, (hline _).mpr ⟨hlawful, rfl⟩⟩⟩, fun e' h =>
    ((hline e').mp h).2⟩
  rintro ⟨e', h⟩
  exact ((hline e').mp h).1

/-- A refusal of the channel with the largest id. -/
def refusal (details : Option Json) : Entry where
  timestamp := "1970-01-01T00:00:00.000Z"
  traceId := "net::run::001"
  level := .warn
  event := "accept_denied"
  channelId := some 18446744073709551615
  fd := some (-1)
  details := details

theorem refusal_lawful (details : Option Json) : (refusal details).Lawful :=
  ⟨holdsDivider_iff.mp (by decide : holdsDivider "net::run::001".toList = true), fun _ => rfl,
    fun _ => rfl⟩

/-- Nested details with the least integer and characters that are escaped. -/
def nestedDetails : Json :=
  .object [("a", .array [.null, .int (-9223372036854775808)]), ("b", .string "\"\n")]

theorem refusal_reads_back :
    (∀ v, some nestedDetails = some v →
        v.proper = true ∧ v.floatFree = true ∧ v.depth < Json.depthLimit) ∧
      validateLine (refusal (some nestedDetails)).line 7 = .ok (refusal (some nestedDetails)) := by
  have hdetails : ∀ v, some nestedDetails = some v →
      v.proper = true ∧ v.floatFree = true ∧ v.depth < Json.depthLimit := by
    rintro v ⟨⟩
    decide
  obtain ⟨hvalid, hsame⟩ :=
    written_entry_validates_iff (refusal (some nestedDetails)) hdetails 7
  obtain ⟨e', he'⟩ := hvalid.mpr (refusal_lawful _)
  exact ⟨hdetails, by rw [he', hsame e' he']; rfl⟩

/-- Whatever is read from a valid line is lawful. Without doubles in its details, its own line is
valid again and read as the same entry. -/
theorem valid_line_is_lawful_and_stable {line : String} {number : Nat} {e : Entry}
    (h : validateLine line number = .ok e) :
    e.Lawful ∧
      ((∀ v, e.details = some v → v.floatFree = true) →
        validateLine e.line number = .ok e) := by
  obtain ⟨members, hparse, hrules, hentry⟩ := validateLine_eq_ok_iff.mp h
  obtain ⟨horder, hvalues⟩ := members_of_parse hparse
  have hlawful := lawful_of_complaints horder.nodup hrules hentry
  refine ⟨hlawful, fun hfree => (Entry.validateLine_line ?_).mpr ⟨hlawful, ?_⟩⟩
  · intro v hv
    obtain ⟨hproper, hdepth⟩ := hvalues _ (details_of_ofMembers horder.nodup hentry hv).1
    exact ⟨hproper, hfree v hv, Nat.lt_succ_of_le hdepth⟩
  · -- Details that were read are not null, so nothing is left out.
    have hsame : e.details.filter (fun v => !isNull v) = e.details := by
      cases hdetails : e.details with
      | none => rfl
      | some v => simp [(details_of_ofMembers horder.nodup hentry hdetails).2]
    rw [Entry.readBack, hsame]

/-- The line of an entry with null details is read as an entry without, whose
line is read as that. -/
theorem null_details_settle :
    validateLine (refusal (some .null)).line 7 = .ok (refusal none) ∧
      validateLine (refusal none).line 7 = .ok (refusal none) := by
  have hcarried : (refusal (some .null)).Carried := by
    rintro v ⟨⟩
    decide
  have hnull : validateLine (refusal (some .null)).line 7 = .ok (refusal none) :=
    (Entry.validateLine_line hcarried).mpr ⟨refusal_lawful _, rfl⟩
  exact ⟨hnull, (valid_line_is_lawful_and_stable hnull).2 (by rintro v ⟨⟩)⟩

end PolledChannels.Log
