import PolledChannels.Log.Typed
import PolledChannels.Proofs.JsonValues

/-!
# The parts of an entry

An entry has fourteen parts, each with the key of its member and a way to read that
member. The members of an object are taken one after the other; since each of them
touches the part with its key and no other, what an entry becomes is told by what is
found under the fourteen keys. 
Main statement: members with distinct keys make an entry exactly if each of its parts is what the
member under its key is read as, or is blank where there is no such member.
-/

namespace PolledChannels.Log

/-- A part of entries: the key of its member, how that is read, and where it is kept. -/
structure Part where
  Value : Type
  key : String
  read : Json → Except String Value
  get : Entry → Value

/-- The parts of an entry, in the order in which they are written. -/
def parts : List Part :=
  [⟨_, "timestamp", asString, Entry.timestamp⟩,
    ⟨_, "trace_id", asString, Entry.traceId⟩,
    ⟨_, "level", asNamed levelChoices, Entry.level⟩,
    ⟨_, "event", asString, Entry.event⟩,
    ⟨_, "stream", asOptional (asNamed streamChoices), Entry.stream⟩,
    ⟨_, "scenario", asOptional asString, Entry.scenario⟩,
    ⟨_, "channel_id", asOptional asUnsigned, Entry.channelId⟩,
    ⟨_, "fd", asOptional asSigned, Entry.fd⟩,
    ⟨_, "local_addr", asOptional asString, Entry.localAddress⟩,
    ⟨_, "remote_addr", asOptional asString, Entry.remoteAddress⟩,
    ⟨_, "outcome", asOptional (asNamed outcomeChoices), Entry.outcome⟩,
    ⟨_, "errno", asOptional asSigned, Entry.errno⟩,
    ⟨_, "duration_ms", asOptional asUnsigned, Entry.durationMs⟩,
    ⟨_, "details", asOptional .ok, Entry.details⟩]

/-- The part is what the member under its key is read as, or what it was in `before` if
there is no such member. -/
def Part.Fits (p : Part) (members : Members) (before e : Entry) : Prop :=
  match members.lookup p.key with
  | some v => p.read v = .ok (p.get e)
  | none => p.get e = p.get before

namespace Entry

variable {e e' before : Entry} {key : String} {v : Json} {members : Members} {p : Part}

theorem eq_of_parts (h : ∀ p ∈ parts, p.get e = p.get e') : e = e' := by
  cases e
  cases e'
  simpa [parts] using h

/-- What one member does: it is read into the part with its key, and no other part changes. -/
theorem withMember_part (h : e.withMember key v = .ok e') :
    ∀ p ∈ parts, (key = p.key → p.read v = .ok (p.get e')) ∧
    (key ≠ p.key → p.get e' = p.get e) := by
  unfold withMember at h
  split at h
  iterate 14
    obtain ⟨x, hx, rfl⟩ := map_eq_ok.mp h
    simp [parts, hx]
  simp_all [parts]

theorem exists_withMember (e : Entry)
    (h : ∀ p ∈ parts, key = p.key → ∃ x, p.read v = .ok x) :
      ∃ e', e.withMember key v = .ok e' := by
  unfold withMember
  split
  iterate 14
    · obtain ⟨x, hx⟩ := (by simpa [parts] using h : ∃ x, _)
      exact ⟨_, map_eq_ok.mpr ⟨x, hx, rfl⟩⟩
  · exact ⟨e, rfl⟩

/-- Members that were taken left every part as it is told under its key. -/
theorem fits_of_withMembers (hkeys : (members.map Prod.fst).Nodup)
    (h : before.withMembers members = .ok e) (hp : p ∈ parts) : p.Fits members before e := by
  induction members generalizing before with
  | nil =>
    cases h
    rfl
  | cons m ms ih =>
    obtain ⟨key, v⟩ := m
    simp only [withMembers] at h
    split at h
    · next e₁ hfirst =>
      obtain ⟨hown, hother⟩ := withMember_part hfirst p hp
      have hrest := ih (List.nodup_cons.mp hkeys).2 h
      unfold Part.Fits at hrest ⊢
      rw [Json.lookup_cons_ite]
      by_cases hkey : p.key = key
      · subst hkey
        rw [Json.lookup_eq_none_of_nodup hkeys] at hrest
        rw [if_pos rfl]
        exact (hown rfl).trans (congrArg _ hrest.symm)
      · rw [if_neg hkey]
        rw [hother (Ne.symm hkey)] at hrest
        exact hrest
    · cases h

/-- Members are all taken if every part can be read from the member under its key. -/
theorem exists_withMembers (hkeys : (members.map Prod.fst).Nodup) (before : Entry)
    (h : ∀ p ∈ parts, ∀ v, members.lookup p.key = some v → ∃ x, p.read v = .ok x) :
    ∃ e, before.withMembers members = .ok e := by
  induction members generalizing before with
  | nil => exact ⟨before, rfl⟩
  | cons m ms ih =>
    obtain ⟨key, v⟩ := m
    have hfirst : ∀ p ∈ parts, key = p.key → ∃ x, p.read v = .ok x := fun p hp hkey =>
      h p hp v (by rw [Json.lookup_cons_ite, if_pos hkey.symm])
    obtain ⟨e₁, he₁⟩ := exists_withMember before hfirst
    have hrest : ∀ p ∈ parts, ∀ w, ms.lookup p.key = some w → ∃ x, p.read w = .ok x := by
      intro p hp w hw
      refine h p hp w ?_
      have hne : p.key ≠ key := by
        rintro rfl
        rw [Json.lookup_eq_none_of_nodup hkeys] at hw
        cases hw
      rw [Json.lookup_cons_ite, if_neg hne, hw]
    obtain ⟨e, he⟩ := ih (List.nodup_cons.mp hkeys).2 e₁ hrest
    exact ⟨e, by simp only [withMembers, he₁, he]⟩

/-- Members with distinct keys make the entry whose parts are told under their keys. -/
theorem ofMembers_eq_ok_iff (hkeys : (members.map Prod.fst).Nodup) :
    ofMembers members = .ok e ↔ ∀ p ∈ parts, p.Fits members blank e := by
  constructor
  · exact fun h p hp => fits_of_withMembers hkeys h hp
  · intro hfits
    have hread : ∀ p ∈ parts, ∀ v, members.lookup p.key = some v →
        ∃ x, p.read v = .ok x := by
      intro p hp v hv
      have := hfits p hp
      rw [Part.Fits, hv] at this
      exact ⟨_, this⟩
    obtain ⟨e', he'⟩ := exists_withMembers hkeys blank hread
    have hsame : e' = e := by
      refine eq_of_parts fun p hp => ?_
      have hnew := fits_of_withMembers hkeys he' hp
      have hold := hfits p hp
      unfold Part.Fits at hnew hold
      split at hnew
      · next v hv =>
        rw [hv] at hold
        exact Except.ok.inj (hnew.symm.trans hold)
      · next hv =>
        rw [hv] at hold
        exact hnew.trans hold.symm
    exact hsame ▸ he'

end Entry
end PolledChannels.Log
