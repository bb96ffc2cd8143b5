import PolledChannels.Proofs.Positions

/-!
# What an accept answers

Whatever the calls of the network answer, and whoever closes the channel or interrupts the
thread meanwhile, the answer of an accept follows from what was noted of it: what its last
attempt came to, whether its own interrupt closed the channel, and whether the channel was
open when that was tested. 
An attempt that was interrupted is made again while the channel is open, so an interrupted accept
leaves with a closed channel, and no access opens a channel again.
-/

namespace PolledChannels

open PolledChannels.Action

variable {notes : List Note} {n : Note} {isOpen isOpen' : Bool} {a : Attempt}

/-- What the note says of an attempt. -/
def Note.attempt? : Note → Option Attempt
  | tried a => some a
  | _ => none

/-- What the last attempt came to. -/
def lastTried (notes : List Note) : Option Attempt :=
  notes.reverse.findSome? Note.attempt?

theorem lastTried_concat (notes : List Note) (n : Note) :
    lastTried (notes ++ [n]) = n.attempt?.or (lastTried notes) := by
  simp only [lastTried, List.reverse_append, List.reverse_singleton, List.singleton_append,
    List.findSome?_cons]
  cases n.attempt? <;> rfl

/-- The accept has not come to look what became of the channel. -/
structure Unheard (notes : List Note) : Prop where
  heard : ∀ mine, .heard mine ∉ notes
  tested : ∀ isOpen, .tested isOpen ∉ notes

/-- The notes that say what became of the channel. -/
def Note.isFinal : Note → Bool
  | heard _ | tested _ => true
  | _ => false

theorem unheard_nil : Unheard [] where
  heard _ h := by cases h
  tested _ h := by cases h

theorem Unheard.concat (h : Unheard notes) (hn : n.isFinal = false) :
    Unheard (notes ++ [n]) where
  heard mine hmem := by
    rcases List.mem_append.mp hmem with hmem | hmem
    · exact h.heard mine hmem
    · rw [← List.mem_singleton.mp hmem] at hn
      cases hn
  tested isOpen hmem := by
    rcases List.mem_append.mp hmem with hmem | hmem
    · exact h.tested isOpen hmem
    · rw [← List.mem_singleton.mp hmem] at hn
      cases hn

/-- What an accept leaves its attempts with. -/
def CameTo (isOpen : Bool) (notes : List Note) (a : Attempt) : Prop :=
  a = .interrupted ∧ isOpen = false ∨ a ≠ .interrupted ∧ lastTried notes = some a

/-- The answers that fit the notes. -/
inductive Verdict (notes : List Note) : AcceptAnswer → Prop
  /-- The accept did not get as far as its region. -/
  | refused {f : Failure} (hnotes : notes = []) (hf : f = .closed ∨ f = .notYetBound) :
      Verdict notes (.error f)
  | mine (hheard : .heard true ∈ notes) (htested : ∀ isOpen, .tested isOpen ∉ notes) :
      Verdict notes (.error .closedByInterrupt)
  | kept {r : Except Failure ConnectionId} {number : FileNumber} {remote : Endpoint}
      (htaken : lastTried notes = some (.taken number remote)) (hheard : .heard true ∉ notes)
      (htested : ∀ isOpen, .tested isOpen ∉ notes) (hr : r ≠ .error .closedByInterrupt) :
      Verdict notes (r.map some)
  | still {a : Attempt} (htried : lastTried notes = some a) (ha : a ≠ .interrupted)
      (hnothing : a.completed = false) (hheard : .heard true ∉ notes)
      (hopen : .tested true ∈ notes) (hclosed : .tested false ∉ notes) :
      Verdict notes (AcceptPoint.unanswered a)
  | closed (hheard : .heard true ∉ notes) (hclosed : .tested false ∈ notes)
      (hopen : .tested true ∉ notes) : Verdict notes (.error .asynchronousClose)

/-- What was noted of an accept that stands at a point. -/
def AcceptPoint.Accounts (isOpen : Bool) (notes : List Note) : AcceptPoint → Prop
  | turn | askOpen | askBound | register => notes = []
  | again => lastTried notes = some .interrupted ∧ Unheard notes
  | give a => lastTried notes = some a ∧ Unheard notes
  | clear a | exit a | hear a => CameTo isOpen notes a ∧ Unheard notes
  | test a => CameTo isOpen notes a ∧ a.completed = false ∧ .heard true ∉ notes ∧
      ∀ isOpen, .tested isOpen ∉ notes
  | drop number => (∃ remote, lastTried notes = some (.taken number remote)) ∧
      .heard true ∈ notes ∧ ∀ isOpen, .tested isOpen ∉ notes
  | keep number remote =>
    lastTried notes = some (.taken number remote) ∧ .heard true ∉ notes ∧
      ∀ isOpen, .tested isOpen ∉ notes
  | back answer | ended answer => Verdict notes answer
  | _ => Unheard notes

theorem CameTo.close (h : CameTo isOpen notes a)
    (hopen : isOpen' = true → isOpen = true) : CameTo isOpen' notes a := by
  rcases h with ⟨ha, hclosed⟩ | h
  · refine .inl ⟨ha, ?_⟩
    cases isOpen' with
    | false => rfl
    | true => exact absurd (hopen rfl) (by simp [hclosed])
  · exact .inr h

/-- The account of an accept survives what others do. -/
theorem AcceptPoint.Accounts.close {p : AcceptPoint} (h : p.Accounts isOpen notes)
    (hopen : isOpen' = true → isOpen = true) : p.Accounts isOpen' notes := by
  cases p with
  | clear a | exit a | hear a | test a => exact ⟨h.1.close hopen, h.2⟩
  | _ => exact h

theorem ShutPoint.isFinal_note {v : Front} {c : ListenerId} {target : Option ThreadId}
    {p : ShutPoint} (h : p.note v c target = some n) : n.isFinal = false := by
  have hclose := ofClose_note h
  cases n with
  | flipped | did | sampled | signalled => rfl
  | _ => cases hclose

theorem Unheard.append {n : Option Note} (h : Unheard notes)
    (hn : ∀ m, n = some m → m.isFinal = false) : Unheard (notes ++ n.toList) := by
  cases n with
  | none => simpa using h
  | some m => exact h.concat (hn m rfl)

theorem CameTo.concat (h : CameTo isOpen notes a) (hn : n.attempt? = none) :
    CameTo isOpen (notes ++ [n]) a := by
  rcases h with h | ⟨ha, hlast⟩
  · exact .inl h
  · refine .inr ⟨ha, ?_⟩
    rw [lastTried_concat, hn, Option.none_or, hlast]

section Steps

variable {me : ThreadId} {c : ListenerId} {v v' : Front} {p p' : AcceptPoint} {notes : List Note}

theorem AcceptPoint.accounts_tried (htried : lastTried notes = some a) (hunheard : Unheard notes) :
    (tried a).Accounts isOpen notes := by
  rcases tried_cases a with ⟨rfl, h⟩ | ⟨ha, h⟩
  · rw [h]
    exact ⟨htried, hunheard⟩
  · rw [h]
    exact ⟨.inr ⟨ha, htried⟩, hunheard⟩

theorem AcceptPoint.accounts_working (h : p.isWorking = true ∨ ∃ a, p = .leave a)
    (hunheard : Unheard notes) : p.Accounts isOpen notes := by
  rcases h with h | ⟨a, rfl⟩
  · cases p with
    | mode | poll | request | inside | fault => exact hunheard
    | _ => cases h
  · exact hunheard

theorem AcceptPoint.unheard_of_working (h : p.isWorking = true)
    (haccount : p.Accounts isOpen notes) :
    Unheard notes ∧ p.note v me c = none := by
  cases p with
  | mode | poll | request | inside | fault => exact ⟨haccount, rfl⟩
  | _ => cases h

/-- What was noted of an accept keeps fitting its point. -/
theorem AcceptPoint.Stride.accounts (h : Stride me c v p v' p')
    (haccount : p.Accounts (v.isOpen c) notes) (hopen : v'.isOpen c = true → v.isOpen c = true) :
    p'.Accounts (v'.isOpen c) (notes ++ (p.note v me c).toList) := by
  cases h with
  | turn | askOpen | askBound | tell | askAgain hg h | store | back answer | ended answer =>
    simpa [note, Accounts] using haccount
  | closed hg h =>
    refine .refused ?_ (.inl rfl)
    simpa [note, Accounts] using haccount
  | unbound =>
    refine .refused ?_ (.inr rfl)
    simpa [note, Accounts] using haccount
  | register hp' =>
    have hunheard : Unheard (notes ++ [.entered ((v.slot me).any Slot.interrupted)]) := by
      rw [show notes = [] from haccount]
      exact unheard_nil.concat rfl
    subst hp'
    split <;> exact hunheard
  | own h => exact Unheard.append haccount fun m hm => ShutPoint.isFinal_note hm
  | owned outcome => simpa [note, ShutPoint.note, Accounts] using haccount
  | shut hg h =>
    refine ⟨.inl ⟨rfl, (Front.isOpen_of_gate hg).trans h⟩, ?_⟩
    simpa [note, Accounts] using haccount
  | take call hg hp' =>
    subst hp'
    rcases taking_cases (Guard.step _ call).2.1 with ⟨hcall, hp'⟩ | ⟨hcall, hp'⟩ |
      ⟨hcall, hp'⟩
    · rw [hp']
      simpa [note, Accounts, hg, hcall] using haccount
    · rw [hp']
      have hnote : note v me c (.take call) = some (.tried (.failed .socketClosed)) := by
        simp [note, hg, hcall]
      rw [hnote]
      refine ⟨.inr ⟨by rintro ⟨⟩, lastTried_concat _ _⟩, ?_⟩
      exact Unheard.concat haccount rfl
    · rw [hp']
      simpa [note, Accounts, hg, hcall] using haccount
  | work h h' =>
    obtain ⟨hunheard, hnote⟩ : Unheard notes ∧ p.note v me c = none :=
      unheard_of_working h haccount
    rw [hnote]
    exact accounts_working h' (by simpa using hunheard)
  | leave a hg hp' =>
    have hlast : lastTried (notes ++ [.tried a]) = some a := lastTried_concat _ _
    have hunheard : Unheard (notes ++ [.tried a]) := Unheard.concat haccount rfl
    subst hp'
    rcases left_cases a _ with ⟨-, hp'⟩ | ⟨-, hp'⟩
    · rw [hp']
      exact ⟨hlast, hunheard⟩
    · rw [hp']
      exact accounts_tried hlast hunheard
  | give a hp' =>
    subst hp'
    exact accounts_tried ((lastTried_concat notes _).trans haccount.1) (haccount.2.concat rfl)
  | again hg h => simpa [note, Accounts] using haccount.2
  | ceased hg h =>
    refine ⟨.inl ⟨rfl, (Front.isOpen_of_gate hg).trans h⟩, ?_⟩
    simpa [note] using haccount.2
  | clear a => exact ⟨(haccount.1.close hopen).concat rfl, haccount.2.concat rfl⟩
  | exit a => simpa [note, Accounts] using And.intro (haccount.1.close hopen) haccount.2
  | mine a hg h hp' =>
    have hnote : note v me c (.hear a) = some (.heard true) := by
      simp [note, hg, h]
    have htested (isOpen : Bool) : .tested isOpen ∉ notes ++ [.heard true] := by
      simpa using haccount.2.tested isOpen
    rw [hnote]
    subst hp'
    rcases heard_cases true a with ⟨number, remote, rfl, hp'⟩ | ⟨-, hp'⟩
    · rw [hp']
      rcases haccount.1 with ⟨⟨⟩, -⟩ | ⟨-, hlast⟩
      exact ⟨⟨remote, (lastTried_concat notes _).trans hlast⟩, by simp, htested⟩
    · rw [hp']
      exact .mine (by simp) htested
  | other a hg h hp' =>
    have hnote : note v me c (.hear a) = some (.heard false) := by
      simp [note, hg, h]
    have htested (isOpen : Bool) : .tested isOpen ∉ notes ++ [.heard false] := by
      simpa using haccount.2.tested isOpen
    have hheard : .heard true ∉ notes ++ [.heard false] := by
      simpa using haccount.2.heard true
    have hcame : CameTo (v.isOpen c) (notes ++ [.heard false]) a := haccount.1.concat rfl
    rw [hnote]
    subst hp'
    rcases heard_cases false a with ⟨number, remote, rfl, hp'⟩ | ⟨hnothing, hp'⟩
    · rw [hp']
      rcases hcame with ⟨⟨⟩, -⟩ | ⟨-, hlast⟩
      exact ⟨hlast, hheard, htested⟩
    · rw [hp']
      exact ⟨hcame, hnothing, hheard, htested⟩
  | test a hg =>
    obtain ⟨hcame, hnothing, hheard, htested⟩ := haccount
    have hopen' := Front.isOpen_of_gate hg
    show Verdict (notes ++ [.tested (v.isOpen c)]) _
    rw [← hopen']
    cases hstate : v.isOpen c with
    | true =>
      rw [hstate] at hcame
      rcases hcame with ⟨-, ⟨⟩⟩ | ⟨ha, hlast⟩
      refine .still ((lastTried_concat notes _).trans hlast) ha hnothing ?_ ?_ ?_
      · simpa using hheard
      · simp
      · simpa using htested false
    | false =>
      refine .closed ?_ ?_ ?_
      · simpa using hheard
      · simp
      · simpa using htested true
  | drop number =>
    refine .mine ?_ ?_
    · simpa [note] using haccount.2.1
    · simpa [note] using haccount.2.2
  | keep number remote h =>
    have htaken : lastTried notes = some (.taken number remote) := haccount.1
    refine .kept (by simpa [note] using htaken) ?_ ?_ h
    · simpa [note] using haccount.2.1
    · simpa [note] using haccount.2.2

end Steps
section Verdicts

variable {notes : List Note} {answer : AcceptAnswer} {isOpen : Bool}
  {p : AcceptPoint}

theorem AcceptPoint.Accounts.verdict (h : p.Accounts isOpen notes)
    (hanswer : p.answer? = some answer) :
    Verdict notes answer := by
  cases p with
  | back r | ended r =>
    cases hanswer
    exact h
  | _ => cases hanswer

/-- An accept answers that its own interrupt closed the channel exactly if it found so. -/
theorem Verdict.of_heard (h : Verdict notes answer) (hmine : .heard true ∈ notes) :
    answer = .error .closedByInterrupt := by
  cases h with
  | refused hnotes hf =>
    rw [hnotes] at hmine
    cases hmine
  | mine => rfl
  | kept htaken hheard | still htried ha hnothing hheard | closed hheard =>
    exact absurd hmine hheard

theorem Verdict.heard (h : Verdict notes (.error .closedByInterrupt)) : .heard true ∈ notes := by
  generalize hanswer : (.error .closedByInterrupt : AcceptAnswer) = r at h
  cases h with
  | refused hnotes hf => rcases hf with rfl | rfl <;> cases hanswer
  | mine hheard => exact hheard
  | @kept r _ _ htaken hheard htested hr =>
    cases r with
    | ok i => cases hanswer
    | error f =>
      cases hanswer
      exact absurd rfl hr
  | @still a => cases a <;> cases hanswer
  | closed => cases hanswer

/-- An accept that took nothing and found the channel closed says so. -/
theorem AcceptPoint.Accounts.of_tested (h : p.Accounts isOpen notes)
    (hclosed : .tested false ∈ notes) :
    p.answer? = some (.error .asynchronousClose) := by
  have hverdict {r : AcceptAnswer} (h : Verdict notes r) :
      r = .error .asynchronousClose := by
    cases h with
    | refused hnotes hf =>
      rw [hnotes] at hclosed
      cases hclosed
    | mine hheard htested | kept htaken hheard htested hr => exact absurd hclosed (htested false)
    | still htried ha hnothing hheard hopen hnever => exact absurd hclosed hnever
    | closed => rfl
  cases p with
  | turn | askOpen | askBound | register =>
    rw [show notes = [] from h] at hclosed
    cases hclosed
  | give | again | clear | exit | hear => exact absurd hclosed (h.2.tested false)
  | test => exact absurd hclosed (h.2.2.2 false)
  | drop | keep => exact absurd hclosed (h.2.2 false)
  | back r | ended r => exact congrArg some (hverdict h)
  | _ => exact absurd hclosed (Unheard.tested h false)

/-- An accept whose own interrupt closed the channel says so, unless it has a connection to drop. -/
theorem AcceptPoint.Accounts.of_heard (h : p.Accounts isOpen notes)
    (hmine : .heard true ∈ notes) :
    p.answer? = some (.error .closedByInterrupt) ∨
      ∃ number remote, lastTried notes = some (.taken number remote) := by
  cases p with
  | turn | askOpen | askBound | register =>
    rw [show notes = [] from h] at hmine
    cases hmine
  | give | again | clear | exit | hear => exact absurd hmine (h.2.heard true)
  | test => exact absurd hmine h.2.2.1
  | drop number =>
    obtain ⟨⟨remote, htaken⟩, -⟩ := h
    exact .inr ⟨number, remote, htaken⟩
  | keep => exact absurd hmine h.2.1
  | back r | ended r => exact .inl (congrArg some (Verdict.of_heard h hmine))
  | _ => exact absurd hmine (Unheard.heard h true)

/-- Without a connection and without a failure, an accept found nothing on an open channel. -/
theorem Verdict.of_none (h : Verdict notes (.ok none)) :
    lastTried notes = some .unavailable ∧ .tested true ∈ notes := by
  generalize hanswer : (.ok none : AcceptAnswer) = r at h
  cases h with
  | @kept r => cases r <;> cases hanswer
  | @still a htried ha hnothing hheard hopen =>
    cases a with
    | unavailable => exact ⟨htried, hopen⟩
    | interrupted => exact absurd rfl ha
    | taken => cases hnothing
    | failed => cases hanswer
  | _ => cases hanswer

/-- A failure of the network is answered on an open channel, or for a connection that was taken. -/
theorem Verdict.of_io {f : IoError} (h : Verdict notes (.error (.io f))) :
    .tested true ∈ notes ∨
    ∃ number remote, lastTried notes = some (.taken number remote) := by
  generalize hanswer : (.error (.io f) : AcceptAnswer) = r at h
  cases h with
  | refused hnotes hf => rcases hf with rfl | rfl <;> cases hanswer
  | kept htaken => exact .inr ⟨_, _, htaken⟩
  | still htried ha hnothing hheard hopen => exact .inl hopen
  | _ => cases hanswer

end Verdicts

/-- What was noted of every accept fits the point at which it stands. -/
def Position.Accounted (x : Position) : Prop :=
  ∀ ⦃i : Nat⦄ ⦃me : ThreadId⦄ ⦃c : ListenerId⦄ ⦃p : AcceptPoint⦄,
    x.parties[i]? = some (.accept me c p) → p.Accounts (x.front.isOpen c) (x.notes i)

theorem Position.Accounted.moved {x : Position} {i : Nat} {a b : Party} {v : Front}
    (hx : x.Accounted) (h : x.Access i a b v) : (x.moved i a b v).Accounted := by
  intro j me c p hj
  have hopen : v.isOpen c = true → x.front.isOpen c = true := h.stride.isOpen_of_isOpen
  rcases cases_moved hj with ⟨rfl, rfl⟩ | ⟨hji, hj⟩
  · rw [notes_moved_self]
    cases hstride : h.stride with
    | accept hp => exact hp.accounts (hx h.place) hopen
  · rw [notes_moved_of_ne hji]
    exact (hx hj).close hopen

namespace Encounter

variable {e : Encounter}

theorem accounted_start (hnew : ∀ a ∈ e.parties, a.isNew = true) (hlog : e.log = []) :
    e.position.Accounted := by
  intro i me c p hp
  cases AcceptPoint.eq_turn (hnew _ (List.mem_of_getElem? hp))
  show notesOf e.log i = []
  rw [hlog]
  rfl

theorem accounted_after (hnew : ∀ a ∈ e.parties, a.isNew = true) (hlog : e.log = [])
    (beats : List Beat) : (e.after beats).position.Accounted :=
  kept hnew (accounted_start hnew hlog) (fun _ h hx => hx.moved h) beats

/-- Nothing is answered only after an attempt that found nothing, on a channel that was open when
that was tested. An accept that took nothing answers a closed channel by saying so: that its own
interrupt closed it, or that somebody did. -/
theorem accept_answers (st : Station) {parties : List Party}
    (hnew : ∀ a ∈ parties, a.isNew = true) {i : Nat} {me : ThreadId} {c : ListenerId}
    (hi : parties[i]? = some (.accept me c .turn)) (beats : List Beat) :
    ∃ e notes, e = (⟨st, parties, []⟩ : Encounter).after beats ∧ notes = e.notes i ∧
      (e.answer? i = some (.ok none) → lastTried notes = some .unavailable ∧
        .tested true ∈ notes) ∧
      (.tested false ∈ notes → e.answer? i = some (.error .asynchronousClose)) ∧
      (.heard true ∈ notes →
        (∀ number remote, lastTried notes ≠ some (.taken number remote)) →
        e.answer? i = some (.error .closedByInterrupt)) ∧
      ∀ f, e.answer? i = some (.error (.io f)) →
        .tested true ∈ notes ∨
        ∃ number remote, lastTried notes = some (.taken number remote) := by
  refine ⟨_, _, rfl, rfl, ?_⟩
  have haccounted := accounted_after (e := ⟨st, parties, []⟩) hnew rfl beats
  obtain ⟨p, hp⟩ := accept_after (e := ⟨st, parties, []⟩) hnew hi beats
  generalize (⟨st, parties, []⟩ : Encounter).after beats = e at haccounted hp
  have haccount : p.Accounts _ (e.notes i) := haccounted hp
  have hanswer : e.answer? i = p.answer? := by
    simp [answer?, hp, Party.answer?]
  rw [hanswer]
  refine ⟨fun hnone => (haccount.verdict hnone).of_none, haccount.of_tested,
    fun hmine hnothing => ?_, fun f hio => (haccount.verdict hio).of_io⟩
  rcases haccount.of_heard hmine with h | ⟨number, remote, htaken⟩
  · exact h
  · exact absurd htaken (hnothing number remote)

/-- A thread waits in an accept, another closes the channel, and the thread goes on: its call failed
because the socket is closed. -/
def closedMeanwhile : List Beat :=
  List.replicate 12 (.access 0 false) ++ List.replicate 18 (.access 1 false) ++
    List.replicate 12 (.access 0 false)

theorem closed_accept_answers :
    ∃ e, e = acceptAndClose.after closedMeanwhile ∧
      lastTried (e.notes 0) = some (.failed .socketClosed) ∧ .tested false ∈ e.notes 0 ∧
      e.answer? 0 = some (.error .asynchronousClose) := by
  have hnew : ∀ a ∈ acceptAndClose.parties, a.isNew = true := by decide
  obtain ⟨e, notes, he, hnotes, -, hclosed, -⟩ :=
    accept_answers boundStation hnew (i := 0) rfl closedMeanwhile
  have htested : .tested false ∈ notes := by
    rw [hnotes, he]
    decide +kernel
  have htried : lastTried notes = some (.failed .socketClosed) := by
    rw [hnotes, he]
    decide +kernel
  exact ⟨e, he, hnotes ▸ htried, hnotes ▸ htested, hclosed htested⟩

end Encounter

end PolledChannels
