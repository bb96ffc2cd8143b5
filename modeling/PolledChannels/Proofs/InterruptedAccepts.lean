import PolledChannels.Proofs.AcceptAnswers
import PolledChannels.Proofs.Regions

/-!
# What an interrupted accept answers

An interrupt is pending when a thread enters the region of an accept, or comes while the thread is
in it. Either way the channel is closed when the accept answers, and the flag of the thread is
still set. The accept answers that its interrupt closed the channel exactly if an interrupt of the
thread flipped it. If somebody else was faster, the accept answers that the channel was closed,
unless it has a connection.
-/

namespace PolledChannels

section Strides

variable {v v' : Front} {a b : Party} {c : ListenerId} {t me : ThreadId} {p : AcceptPoint}
    {isOpen : Bool}

theorem AcceptPoint.eq_register_of_note {flag : Bool} (h : p.note v me c = some (.entered flag)) :
    p = .register ∧ v.flag me = flag := by
  cases p with
  | register =>
    cases h
    exact ⟨rfl, rfl⟩
  | own point => cases ShutPoint.ofClose_note h
  | take call =>
    rw [note] at h
    split at h <;> cases h
  | _ => cases h

theorem AcceptPoint.eq_test_of_note (h : p.note v me c = some (.tested isOpen)) :
    p.phase = .past ∧ v.isOpen c = isOpen := by
  cases p with
  | test r =>
    cases h
    exact ⟨rfl, rfl⟩
  | own point => cases ShutPoint.ofClose_note h
  | take call =>
    rw [note] at h
    split at h <;> cases h
  | _ => cases h

theorem Party.eq_mark_of_note {blocker : Option ListenerId}
    (h : a.note v = some (.caught t blocker)) :
    a = .interrupt t .mark ∧ v.blocker t = blocker := by
  cases a with
  | accept me d p =>
    cases p with
    | own q => cases ShutPoint.ofClose_note h
    | take call =>
      simp only [note, AcceptPoint.note] at h
      split at h <;> cases h
    | _ => cases h
  | close d q => cases ShutPoint.ofClose_note h
  | interrupt u q =>
    cases q with
    | mark =>
      cases h
      exact ⟨rfl, rfl⟩
    | shut d q => cases ShutPoint.ofClose_note h
    | _ => cases h

/-- In its region an accept has not come to look what became of the channel. -/
theorem AcceptPoint.Accounts.unheard {notes : List Note}
    (h : p.Accounts isOpen notes) (hp : p.phase.isRegistered = true) : Unheard notes := by
  cases p with
  | turn | askOpen | askBound | register | hear | test | drop | keep | back | ended => cases hp
  | give | again | clear | exit => exact h.2
  | _ => exact h

theorem ShutPoint.Stride.isOpen_of_flip {target : Option ThreadId} {q q' : ShutPoint}
    (h : Stride c target v q v' q') (hq : q = .flip) : v'.isOpen c = false := by
  cases h with
  | flip hg hopen hp' => exact Front.isOpen_of_gate (Front.gate_onGate_some hg)
  | shut hg hclosed => exact (Front.isOpen_of_gate hg).trans hclosed
  | credit | rest => cases hq

end Strides

namespace Position

variable {x : Position} {i k : Nat} {a b : Party} {v : Front} {t : ThreadId} {c : ListenerId}
  {P : Phase → Bool}

/-- An interrupt of the thread was pending when its accept entered the region, or found it there. -/
def Caught (x : Position) (i : Nat) (t : ThreadId) (c : ListenerId) : Prop :=
  (i, .entered true) ∈ x.log ∨ ∃ j, (j, .caught t (some c)) ∈ x.log

/-- The channel is closed, or the accept is about to close it, or an interrupt of the thread is. -/
def Closing (x : Position) (i : Nat) (t : ThreadId) (c : ListenerId) : Prop :=
  x.front.isOpen c = false ∨
    (∃ p, x.parties[i]? = some (.accept t c p) ∧ (p = .tell ∨ p = .own .flip)) ∨
    ∃ (j : Nat) (q : InterruptPoint),
      x.parties[j]? = some (.interrupt t q) ∧ (q = .tell c ∨ q = .shut c .flip)

theorem Closing.moved (hx : x.Closing i t c) (h : x.Access k a b v) :
    (x.moved k a b v).Closing i t c := by
  rcases hx with hclosed | ⟨p, hi, hp⟩ | ⟨j, q, hj, hq⟩
  · exact .inl (h.stride.isOpen_eq_false hclosed)
  · by_cases hik : i = k
    · subst hik
      cases hi.symm.trans h.place
      cases hstride : h.stride with
      | accept hstep =>
        rcases hp with rfl | rfl
        · cases hstep with
          | tell => exact .inr (.inl ⟨_, h.place_moved, .inr rfl⟩)
          | work hworking _ => cases hworking
        · cases hstep with
          | own hstep => exact .inl (hstep.isOpen_of_flip rfl)
          | work hworking _ => cases hworking
    · exact .inr (.inl ⟨p, (place_moved_of_ne hik).trans hi, hp⟩)
  · by_cases hjk : j = k
    · subst hjk
      cases hj.symm.trans h.place
      cases hstride : h.stride with
      | interrupt hstep =>
        rcases hq with rfl | rfl
        · cases hstep with
          | tell => exact .inr (.inr ⟨j, _, h.place_moved, .inr rfl⟩)
        · cases hstep with
          | shut _ hstep => exact .inl (hstep.isOpen_of_flip rfl)
    · exact .inr (.inr ⟨j, q, (place_moved_of_ne hjk).trans hj, hq⟩)

/-- What makes a caught thread hear of it: only one accept is made by the thread, and it has
entered its region. -/
structure Heeded (x : Position) (i : Nat) (t : ThreadId) (c : ListenerId) : Prop where
  place : ∃ p, x.parties[i]? = some (.accept t c p)
  only : ∀ ⦃j : Nat⦄ ⦃d : ListenerId⦄ ⦃p : AcceptPoint⦄,
    x.parties[j]? = some (.accept t d p) → j = i
  flag : x.Caught i t c → x.front.flag t = true
  closing : x.Caught i t c → x.Closing i t c
  entered : x.Caught i t c → ∃ flag, (i, .entered flag) ∈ x.log
  untested : x.Caught i t c → (i, .tested true) ∉ x.log

/-- A thread is caught where it enters its region with its flag set, and where it is
interrupted in its region. -/
theorem caught_moved (hi : ∃ p, x.parties[i]? = some (.accept t c p)) (h : x.Access k a b v)
    (hcaught : (x.moved k a b v).Caught i t c) :
    x.Caught i t c ∨ (k = i ∧ a = .accept t c .register ∧ x.front.flag t = true) ∨
      a = .interrupt t .mark ∧ x.front.blocker t = some c := by
  rcases hcaught with hlog | ⟨j, hlog⟩
  · rcases mem_log_moved.mp hlog with hold | ⟨rfl, hnote⟩
    · exact .inl (.inl hold)
    · obtain ⟨p, hp⟩ := hi
      cases hp.symm.trans h.place
      obtain ⟨rfl, hflag⟩ := AcceptPoint.eq_register_of_note hnote
      exact .inr (.inl ⟨rfl, rfl, hflag⟩)
  · rcases mem_log_moved.mp hlog with hold | ⟨rfl, hnote⟩
    · exact .inl (.inr ⟨j, hold⟩)
    · exact .inr (.inr (Party.eq_mark_of_note hnote))

theorem Heeded.within (hx : x.Heeded i t c) (h : x.Within P t c) :
    ∃ p, x.parties[i]? = some (.accept t c p) ∧ P p.phase = true := by
  obtain ⟨j, p, hj, hp⟩ := h
  cases hx.only hj
  exact ⟨p, hj, hp⟩

theorem Heeded.moved (hx : x.Heeded i t c) (hregions : x.Regions t) (haccounted : x.Accounted)
    (h : x.Access k a b v) : (x.moved k a b v).Heeded i t c where
  place := by
    obtain ⟨p, hp⟩ := hx.place
    exact h.accept_moved hp
  only j d p hj := by
    obtain ⟨p₀, hp₀, -⟩ := h.of_accept_moved hj
    exact hx.only hp₀
  flag hcaught := by
    show v.flag t = true
    rcases caught_moved hx.place h hcaught with hold | ⟨-, -, hflag⟩ | ⟨rfl, hblocker⟩
    · exact h.stride.flag (hx.flag hold)
    · exact h.stride.flag hflag
    · obtain ⟨s, hs, -⟩ := Option.bind_eq_some_iff.mp hblocker
      rcases h.stride.slot t with ⟨d, ⟨⟩, -⟩ | ⟨d, r, ⟨⟩, -⟩ | ⟨-, -, hslot⟩ |
        ⟨-, -, hnot⟩
      · simp [Front.flag, hslot, hs]
      · exact absurd rfl hnot
  closing hcaught := by
    rcases caught_moved hx.place h hcaught with hold | ⟨rfl, rfl, hflag⟩ | ⟨rfl, hblocker⟩
    · exact (hx.closing hold).moved h
    · rcases h.stride.slot t with ⟨d, ha, rfl, -⟩ | ⟨d, r, ⟨⟩, -⟩ | ⟨⟨⟩, -⟩ |
        ⟨-, hnot, -⟩
      · cases ha
        refine .inr (.inl ⟨_, h.place_moved, .inl ?_⟩)
        rw [if_pos hflag]
      · exact absurd rfl (hnot c _ rfl).1
    · rcases h.stride.slot t with ⟨d, ⟨⟩, -⟩ | ⟨d, r, ⟨⟩, -⟩ | ⟨-, rfl, -⟩ |
        ⟨-, -, hnot⟩
      · refine .inr (.inr ⟨k, _, h.place_moved, .inl ?_⟩)
        rw [hblocker]
        rfl
      · exact absurd rfl hnot
  entered hcaught := by
    have hgrows : (∃ flag, (i, .entered flag) ∈ x.log) →
        ∃ flag, (i, .entered flag) ∈ (x.moved k a b v).log := by
      rintro ⟨flag, hflag⟩
      exact ⟨flag, mem_log_moved.mpr (.inl hflag)⟩
    rcases caught_moved hx.place h hcaught with hold | ⟨rfl, rfl, -⟩ | ⟨rfl, hblocker⟩
    · exact hgrows (hx.entered hold)
    · exact ⟨_, mem_log_moved.mpr (.inr ⟨rfl, rfl⟩)⟩
    · obtain ⟨p, hp, hphase⟩ := hx.within (hregions.blocker hblocker)
      exact hgrows (hregions.entered hp hphase)
  untested hcaught htested := by
    rcases mem_log_moved.mp htested with hold | ⟨rfl, hnote⟩
    · -- the test is over, so the thread is in no region and cannot be caught now
      have hnotes : .tested true ∈ x.notes i := mem_notes.mpr hold
      rcases caught_moved hx.place h hcaught with hcaught | ⟨rfl, rfl, -⟩ | ⟨rfl, hblocker⟩
      · exact hx.untested hcaught hold
      · rw [show x.notes k = [] from haccounted h.place] at hnotes
        cases hnotes
      · obtain ⟨p, hp, hphase⟩ := hx.within (hregions.blocker hblocker)
        exact ((haccounted hp).unheard hphase).tested true hnotes
    · obtain ⟨p, hp⟩ := hx.place
      cases hp.symm.trans h.place
      obtain ⟨hpast, hopen⟩ := AcceptPoint.eq_test_of_note hnote
      rcases caught_moved hx.place h hcaught with hcaught | ⟨-, ha, -⟩ | ⟨⟨⟩, -⟩
      · rcases hx.closing hcaught with hclosed | ⟨p', hp', htell⟩ | ⟨j, q, hj, hq⟩
        · cases hclosed.symm.trans hopen
        · cases hp.symm.trans hp'
          rcases htell with rfl | rfl <;> cases hpast
        · have hblocker : q.blocker? = some c := by
            rcases hq with rfl | rfl <;> rfl
          obtain ⟨p', hp', hphase⟩ := hx.within (hregions.interrupts hj hblocker)
          cases hp.symm.trans hp'
          rw [hpast] at hphase
          cases hphase
      · cases ha
        cases hpast

/-- All that is known of a thread that accepts on a channel. -/
structure Watched (x : Position) (i : Nat) (t : ThreadId) (c : ListenerId) : Prop where
  regions : x.Regions t
  credits : x.Credits t c
  accounted : x.Accounted
  heeded : x.Heeded i t c

theorem Watched.moved (hx : x.Watched i t c) (h : x.Access k a b v) :
    (x.moved k a b v).Watched i t c where
  regions := hx.regions.moved h
  credits := hx.credits.moved hx.regions h
  accounted := hx.accounted.moved h
  heeded := hx.heeded.moved hx.regions hx.accounted h

section Answers

variable {p : AcceptPoint} {answer : AcceptAnswer}

/-- Once the accept is past its region the thread is in no region of the channel. -/
theorem Watched.not_within (hx : x.Watched i t c) (hi : x.parties[i]? = some (.accept t c p))
    (hpast : P p.phase = false) : ¬ x.Within P t c := by
  intro hwithin
  obtain ⟨p', hp', hphase⟩ := hx.heeded.within hwithin
  cases hi.symm.trans hp'
  cases hpast.symm.trans hphase

theorem Watched.isOpen_eq_false (hx : x.Watched i t c) (hi : x.parties[i]? = some (.accept t c p))
    (hpast : p.phase = .past) (hcaught : x.Caught i t c) : x.front.isOpen c = false := by
  rcases hx.heeded.closing hcaught with hclosed | ⟨p', hp', htell⟩ | ⟨j, q, hj, hq⟩
  · exact hclosed
  · cases hi.symm.trans hp'
    rcases htell with rfl | rfl <;> cases hpast
  · have hblocker : q.blocker? = some c := by
      rcases hq with rfl | rfl <;> rfl
    exact absurd (hx.regions.interrupts hj hblocker) (hx.not_within hi (by rw [hpast]; rfl))

/-- Once the accept is past its region, its own interrupt flipped the channel
exactly if it found so. -/
theorem Watched.flippedBy_iff (hx : x.Watched i t c) (hi : x.parties[i]? = some (.accept t c p))
    (hpast : p.phase = .past) : x.FlippedBy c (some t) ↔ .heard true ∈ x.notes i := by
  constructor
  · intro hflipped
    have hnot : ¬ x.Within Phase.inRegion t c := hx.not_within hi (by rw [hpast]; rfl)
    rcases hx.credits.kept hflipped with ⟨j, a, target, hj, ha⟩ | hby | ⟨j, p', hj, hheard⟩
    · exact absurd (hx.credits.within hx.regions hj ha) hnot
    · exact absurd (hx.credits.credited hby).2 hnot
    · cases hx.heeded.only hj
      exact mem_notes.mpr hheard
  · exact fun hheard => hx.credits.heard ⟨i, p, hi, mem_notes.mp hheard⟩

theorem Watched.verdict (hx : x.Watched i t c) (hi : x.parties[i]? = some (.accept t c p))
    (hanswer : p.answer? = some answer) : p.phase = .past ∧ Verdict (x.notes i) answer := by
  refine ⟨?_, (hx.accounted hi).verdict hanswer⟩
  cases p with
  | back r | ended r => rfl
  | _ => cases hanswer

/-- A caught accept that nobody else was faster than has a connection, or says that the
channel was closed. -/
theorem Watched.closed_or_taken (hx : x.Watched i t c) (hcaught : x.Caught i t c)
    (hverdict : Verdict (x.notes i) answer) (hother : answer ≠ .error .closedByInterrupt) :
    answer = .error .asynchronousClose ∨
      ∃ number remote, lastTried (x.notes i) = some (.taken number remote) := by
  cases hverdict with
  | refused hnotes hf =>
    obtain ⟨flag, hflag⟩ := hx.heeded.entered hcaught
    rw [← mem_notes, hnotes] at hflag
    cases hflag
  | mine => exact absurd rfl hother
  | kept htaken => exact .inr ⟨_, _, htaken⟩
  | still htried ha hnothing hheard hopen =>
    exact absurd (mem_notes.mp hopen) (hx.heeded.untested hcaught)
  | closed => exact .inl rfl

end Answers

end Position

namespace Encounter

variable {e : Encounter} {i : Nat} {t : ThreadId} {c : ListenerId}

theorem heeded_start (hnew : ∀ a ∈ e.parties, a.isNew = true) (hlog : e.log = [])
    (hi : e.parties[i]? = some (.accept t c .turn))
    (honly : ∀ (j : Nat) (d : ListenerId), e.parties[j]? = some (.accept t d .turn) → j = i) :
    e.position.Heeded i t c := by
  have huncaught : ¬ e.position.Caught i t c := by
    unfold Position.Caught
    rw [show e.position.log = [] from hlog]
    simp
  refine ⟨⟨_, hi⟩, fun j d p hj => ?_, fun h => absurd h huncaught, fun h =>
    absurd h huncaught, fun h => absurd h huncaught, fun h => absurd h huncaught⟩
  cases AcceptPoint.eq_turn (hnew _ (List.mem_of_getElem? hj))
  exact honly j d hj

/-- If the flag of a thread was set when its accept entered the region, or somebody interrupted the
thread there, then the channel is closed and the flag still set when the accept answers. It answers
that its interrupt closed the channel exactly if an interrupt of the thread flipped the channel, and
otherwise that the channel was closed, unless it has a connection. At all times the channel is
credited to the thread only in the region. -/
theorem interrupts_are_heard {st : Station} {l : Listener} (hl : st.listeners[c]? = some l)
    (hidle : st.front.blocker t = none) (hby : st.front.interruptedBy c ≠ some t)
    {parties : List Party} (hnew : ∀ a ∈ parties, a.isNew = true)
    (hi : parties[i]? = some (.accept t c .turn))
    (honly : ∀ (j : Nat) (d : ListenerId), parties[j]? = some (.accept t d .turn) → j = i)
    (beats : List Beat) :
    ∃ e notes, e = (⟨st, parties, []⟩ : Encounter).after beats ∧ notes = e.notes i ∧
      (e.station.front.interruptedBy c = some t →
        ∃ p, e.parties[i]? = some (.accept t c p) ∧ p.phase.inRegion = true) ∧
      ((.entered true ∈ notes ∨ ∃ j, .caught t (some c) ∈ e.notes j) →
        ∀ answer, e.answer? i = some answer →
          e.station.front.isOpen c = false ∧ e.station.front.flag t = true ∧
          (answer = .error .closedByInterrupt ↔ ∃ j, .flipped c (some t) ∈ e.notes j) ∧
          (answer ≠ .error .closedByInterrupt → answer = .error .asynchronousClose ∨
            ∃ number remote, lastTried notes = some (.taken number remote))) := by
  refine ⟨_, _, rfl, rfl, ?_⟩
  have hwatched : ((⟨st, parties, []⟩ : Encounter).after beats).position.Watched i t c :=
    kept (I := fun x => x.Watched i t c) hnew
      ⟨regions_start hnew hidle, credits_start hnew rfl hl hby, accounted_start hnew rfl,
        heeded_start hnew rfl hi honly⟩
      (fun _ h hx => hx.moved h) beats
  generalize (⟨st, parties, []⟩ : Encounter).after beats = e at hwatched
  refine ⟨fun hcredited => hwatched.heeded.within (hwatched.credits.credited hcredited).2, ?_⟩
  intro hcaught answer hanswer
  have hmem {j : Nat} {n : Note} : n ∈ e.notes j ↔ (j, n) ∈ e.position.log :=
    Position.mem_notes (x := e.position)
  simp only [hmem] at hcaught
  obtain ⟨p, hp⟩ := hwatched.heeded.place
  have hpoint : p.answer? = some answer := by
    rw [← hanswer, answer?, show e.parties[i]? = some (.accept t c p) from hp]
    rfl
  obtain ⟨hpast, hverdict⟩ := hwatched.verdict hp hpoint
  refine ⟨hwatched.isOpen_eq_false hp hpast hcaught, hwatched.heeded.flag hcaught, ?_,
    hwatched.closed_or_taken hcaught hverdict⟩
  have hflipped : (∃ j, .flipped c (some t) ∈ e.notes j) ↔ .heard true ∈ e.notes i := by
    simp only [hmem]
    exact (hwatched.flippedBy_iff hp hpast).trans Position.mem_notes
  rw [hflipped]
  constructor
  · rintro rfl
    exact hverdict.heard
  · exact hverdict.of_heard

/-- A thread waits in an accept. An interrupt finds it there, but before it comes to flip the
channel somebody else closes it, and then the thread goes on. -/
def outrunInterrupt : List Beat :=
  List.replicate 12 (.access 0 false) ++ List.replicate 3 (.access 1 false) ++
    List.replicate 18 (.access 2 false) ++ List.replicate 2 (.access 1 false) ++
    List.replicate 12 (.access 0 false)

theorem outrun_interrupt_answers :
    ∃ e, e = (⟨boundStation, [.accept 7 0 .turn, .interrupt 7 .find, .close 0 .flip], []⟩ :
        Encounter).after outrunInterrupt ∧
      .caught 7 (some 0) ∈ e.notes 1 ∧ .flipped 0 none ∈ e.notes 2 ∧
      e.station.front.isOpen 0 = false ∧ e.station.front.flag 7 = true ∧
      e.answer? 0 = some (.error .asynchronousClose) := by
  have honly (j : Nat) (d : ListenerId) (hj : [Party.accept 7 0 .turn, .interrupt 7 .find,
      .close 0 .flip][j]? = some (.accept 7 d .turn)) : j = 0 := by
    rcases j with _ | _ | _ | j
    · rfl
    · cases hj
    · cases hj
    · cases hj
  obtain ⟨l, hl⟩ : ∃ l, boundStation.listeners[0]? = some l := ⟨_, rfl⟩
  obtain ⟨e, notes, he, hnotes, -, hheard⟩ :=
    interrupts_are_heard hl rfl (by decide) (by decide) rfl honly outrunInterrupt
  have hcaught : .caught 7 (some 0) ∈ e.notes 1 := by
    rw [he]
    decide +kernel
  have hclose : .flipped 0 none ∈ e.notes 2 := by
    rw [he]
    decide +kernel
  have hnever : ¬ ∃ j, .flipped 0 (some 7) ∈ e.notes j := by
    have hlog : e.log.all (fun entry => entry.2 != .flipped 0 (some 7)) = true := by
      rw [he]
      decide +kernel
    rintro ⟨j, hj⟩
    simpa using List.all_eq_true.mp hlog _ (Position.mem_notes (x := e.position).mp hj)
  have htried : lastTried notes = some (.failed .socketClosed) := by
    rw [hnotes, he]
    decide +kernel
  obtain ⟨answer, hanswer⟩ : ∃ answer, e.answer? 0 = some answer := by
    refine Option.isSome_iff_exists.mp ?_
    rw [he]
    decide +kernel
  obtain ⟨hclosed, hflag, hmine, hother⟩ := hheard (.inr ⟨1, hcaught⟩) answer hanswer
  rcases hother (fun h => hnever (hmine.mp h)) with rfl | ⟨number, remote, htaken⟩
  · exact ⟨e, he, hcaught, hclose, hclosed, hflag, hanswer⟩
  · cases htried.symm.trans htaken

end Encounter
end PolledChannels
