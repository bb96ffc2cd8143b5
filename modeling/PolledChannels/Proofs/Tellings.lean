import PolledChannels.Proofs.CallTurns

/-!
# What calls tell of

An access tells of one event or of nothing, and where a call stands says which. So the events that
an interleaving lists as told are those that the station keeps, if it keeps events at all.
-/

namespace PolledChannels

open PolledChannels.Action

/-- The events that were kept, and the settings that say whether more are kept. -/
structure Record where
  provider : Provider
  events : List Event

/-- The record after an event was told, if one was. -/
def Record.note (r : Record) (event : Option Event) : Record :=
  { r with events := if r.provider.logging then r.events ++ event.toList else r.events }

def Station.record (st : Station) : Record := ⟨st.provider, st.reports.map Report.event⟩

theorem Record.note_none (r : Record) : r.note none = r := by
  simp [note]

theorem Station.record_tell (st : Station) (c : ListenerId) (event : Event) :
    (st.tell c event).record = st.record.note (some event) := by
  unfold tell Record.note
  split <;> simp_all [record]

namespace Action

variable {α : Type}

/-- The operation tells of nothing. -/
abbrev Silent (a : Action α) : Prop := Frames Station.record a

theorem silent_modifyKey (k : KeyId) (f : Key → Key) :
    Silent (modify fun st => st.modifyKey k f : Action Unit) := by
  refine frames_modify fun st => ?_
  unfold Station.modifyKey
  split <;> rfl

theorem record_hidesMasks : HidesMasks Station.record where
  world _ _ := rfl
  signals _ _ := rfl
  listeners _ _ _ _ := rfl
  connections _ _ _ _ := rfl
  selectors _ _ _ _ := rfl
  keys st k f _ := (silent_modifyKey k f).eq st

end Action

theorem record_keptByClosing (c : ListenerId) (r : Record) :
    KeptByClosing c fun st => st.record = r where
  touch _ := keeps_modify fun _ h => h
  threads _ _ h := h
  invalidate k := silent_modifyKey k _ r

/-- A close is silent but where it tells of itself and of its kill. -/
theorem ClosePoint.silent_step (c : ListenerId) {p : ClosePoint} (hp : p.tells = none) :
    Silent (p.step c) :=
  fun r => keeps_step (record_keptByClosing c r)
    (fun call _ => record_hidesMasks.accessDescriptor c call r)
    (fun _ htell => by cases hp.symm.trans htell) fun point _ _ _ =>
      point.keeps_step (record_keptByClosing c r).invalidate fun _ _ => keeps_modify fun _ h => h

theorem LeavePoint.silent_step (c : ListenerId) (k : KeyId) {p : LeavePoint} (hp : p.tells = none) :
    Silent (p.step c k) :=
  fun r => keeps_step (record_keptByClosing c r)
    (fun call _ _ _ => record_hidesMasks.accessDescriptor c call r)
    fun _ htell => by cases hp.symm.trans htell

theorem RegisterPoint.silent_step (c : ListenerId) (s : SelectorId) (ops : Mask)
    (p : RegisterPoint) : Silent (p.step c s ops) :=
  fun r => keeps_step (fun _ => keeps_modify fun _ h => h) (fun _ _ h => h)
    (fun _ hp => hp ▸ keeps_bind (keeps_modify fun _ h => h) fun _ => keeps_pure _)
    (fun k => silent_modifyKey k _ r) fun k => record_hidesMasks.putEvents k _ r

theorem EmptyPoint.silent_step (s : SelectorId) {p : EmptyPoint} (hp : p.tells = none) :
    Silent (p.step s) := by
  cases p with
  | shut =>
    refine frames_bind (frames_selector s) fun x => ?_
    split
    · exact frames_bind (frames_modify fun _ => rfl) fun _ => frames_pure _
    · exact frames_pure _
  | drain | unqueue ks =>
    exact frames_bind (frames_selector s) fun _ => frames_bind (frames_modify fun _ => rfl)
      fun _ => frames_pure _
  | unselect ks | wake ks => exact frames_bind (frames_modify fun _ => rfl) fun _ => frames_pure _
  | void k rest outcome =>
    refine frames_bind (silent_modifyKey k _) fun _ => frames_bind frames_get fun st => ?_
    split
    · exact frames_pure _
    · split <;> exact frames_pure _
  | leave c k point rest outcome =>
    have hpoint : Silent (point.step c k) := LeavePoint.silent_step c k hp
    cases point with
    | ended result => exact frames_pure _
    | _ => exact frames_bind hpoint fun _ => frames_pure _
  | ended outcome => exact frames_pure _

namespace Action

variable {α β : Type} {a : Action α}

/-- The operation tells of the event, or of nothing. -/
def Tells (event : Option Event) (a : Action α) : Prop :=
  ∀ st : Station, (a.run st).2.record = st.record.note event

theorem Silent.tells (h : Silent a) : Tells none a := by
  intro st
  rw [h.eq, Record.note_none]

theorem tells_emit_bind (c : ListenerId) (event : Event) {f : Unit → Action α}
    (hf : ∀ u, Silent (f u)) :
    Tells (some event) (emit (some c) event >>= f) := by
  intro st
  rw [run_bind, run_emit, (hf ()).eq, Station.record_tell]

theorem Tells.map {event : Option Event} (h : Tells event a) (f : α → β) :
    Tells event (do return f (← a)) := by
  intro st
  rw [← h st, run_bind]
  rcases a.run st with ⟨_ | _, st'⟩ <;> rfl

end Action

theorem ClosePoint.tells_step (c : ListenerId) (p : ClosePoint) : Tells p.tells (p.step c) := by
  cases p with
  | tell closing killing =>
    refine tells_emit_bind c _ fun _ => ?_
    split <;> exact frames_pure _
  | tellKill event outcome => exact tells_emit_bind c _ fun _ => frames_pure _
  | _ => exact (silent_step c rfl).tells

theorem LeavePoint.tells_step (c : ListenerId) (k : KeyId) (p : LeavePoint) :
    Tells p.tells (p.step c k) := by
  cases p with
  | tell event released => exact tells_emit_bind c _ fun _ => frames_pure _
  | _ => exact (silent_step c k rfl).tells

theorem EmptyPoint.tells_step (s : SelectorId) (p : EmptyPoint) : Tells p.tells (p.step s) := by
  cases p with
  | leave c k point rest outcome =>
    cases point with
    | ended result => exact (silent_step s rfl).tells
    | _ => exact (LeavePoint.tells_step c k _).map fun p => leave c k p rest outcome
  | _ => exact (silent_step s rfl).tells

/-- What a call is to tell of next is what its next access tells of. -/
theorem Call.tells_step (call : Call) : Tells call.tells call.step := by
  cases call with
  | close c point => exact (point.tells_step c).map (close c)
  | deregister c k point => exact (point.tells_step c k).map (deregister c k)
  | register c s ops point => exact (point.silent_step c s ops).tells.map (register c s ops)
  | closeSelector s point => exact (point.tells_step s).map (closeSelector s)

/-- What was told in an interleaving is what was kept, if events are kept. -/
theorem Interleaving.record_after (st : Station) (calls : List Call) (moves : List Nat) :
    ((⟨st, calls, []⟩ : Interleaving).after moves).station.record =
      { st.record with events := if st.provider.logging then
          st.record.events ++ ((⟨st, calls, []⟩ : Interleaving).after moves).told
        else st.record.events } := by
  induction moves using List.reverseRecOn with
  | nil => simp [after]
  | append_singleton moves i ih =>
    rw [after_concat]
    generalize (⟨st, calls, []⟩ : Interleaving).after moves = r at ih
    rcases r.play_cases i with hsame | ⟨a, b, st', ha, hfree, hstep, hplay⟩
    · rw [hsame, ih]
    · have htells := a.tells_step r.station
      rw [hstep] at htells
      rw [hplay]
      show st'.record = _
      rw [htells, ih]
      show Record.note ⟨st.provider, _⟩ _ = _
      unfold Record.note
      split <;> simp_all [Station.record]

end PolledChannels
