import Mathlib.Logic.Function.Basic
import PolledChannels.Proofs.Chronicle
import PolledChannels.Proofs.ThreadSteps

/-!
# Operations that wait, run to their end

Binding, accepting and selecting may take several steps, and the network, the clock and signals may
change between any two of them. The course of such an operation is the sequence of its steps while
no other operation of the station is under way. A course that comes to its end leaves a faithful
diary faithful, and its thread is not blocked any more.
-/

namespace PolledChannels

open PolledChannels.Action Station

/-! ## Blockers -/

namespace Interrupts

variable {β : Type} (i : Interrupts β)

theorem slot?_remove (t u : ThreadId) :
    (i.remove t).slot? u = if u = t then none else i.slot? u := by
  unfold remove slot?
  rw [List.find?_filter]
  by_cases hu : u = t
  · simp [hu]
  · rw [if_neg hu]
    congr 2
    funext x
    by_cases hx : x.1 = u <;> simp [hx, hu]

theorem slot?_put (t u : ThreadId) (s : Slot β) :
    (i.put t s).slot? u = if u = t then some s else i.slot? u := by
  by_cases hu : u = t
  · simp [put, slot?, hu]
  · have hrest := slot?_remove i t u
    simp only [if_neg hu] at hrest ⊢
    rw [← hrest]
    simp [put, remove, slot?, Ne.symm hu]

theorem blockers_put (t : ThreadId) (s : Slot β) :
    (i.put t s).blockers = Function.update i.blockers t s.blocker := by
  funext u
  by_cases hu : u = t <;> simp [blockers, slot?_put, hu]

theorem blocker_own (t : ThreadId) : (i.own t).blocker = i.blockers t := by
  cases hs : i.slot? t <;> simp [own, blockers, hs]

theorem blockers_enter (t : ThreadId) (x : β) :
    (i.enter t x).1.blockers = Function.update i.blockers t (some x) :=
  blockers_put i t _

theorem blockers_leave (t : ThreadId) :
    (i.leave t).blockers = Function.update i.blockers t none := by
  unfold leave
  split
  · exact blockers_put i t _
  case h_2 hs =>
    have hnone : i.blockers t = none := by simp [blockers, hs]
    rw [← hnone, Function.update_eq_self]

theorem blockers_interruptSelf (t : ThreadId) : (i.interruptSelf t).1.blockers = i.blockers := by
  rw [interruptSelf, blockers_put, blocker_own, Function.update_eq_self]

theorem blockers_takeFlag (t : ThreadId) : (i.takeFlag t).1.blockers = i.blockers := by
  rw [takeFlag, blockers_put, blocker_own, Function.update_eq_self]

end Interrupts

theorem Core.isOpen_conclude (core : Core) (me : ThreadId) (completed : Bool) :
    (core.conclude me completed).1.isOpen = core.isOpen := by
  unfold conclude
  split
  · rfl
  · split <;> rfl

theorem Diary.Faithful.reblock {d : Diary} (h : d.Faithful) (b : ThreadId → Option ListenerId) :
    { d with blocked := b }.Faithful :=
  ⟨h.logging, h.sound, h.fresh, h.distinct, h.named, h.word⟩

namespace Action

variable {b : ThreadId → Option ListenerId} {st : Station} {c : ListenerId} {p : Page} {e : Event}

/-! ## Connections -/

theorem ChronicledAt.emit (h : ChronicledAt b c p st) (seen : Option ListenerId)
    (he : e.channel = p.id.toUInt64) (hnext : p.stage.next e = some p.stage) :
    Chronicled b ((Action.emit seen e).run st).2 := by
  obtain ⟨l, hl, rfl⟩ := listener_of_page h.2
  exact h.1.emit hl seen he hnext

theorem Chronicled.emit_guest (h : Chronicled b st) {n : Nat} (hn : n ∈ st.diary.guests)
    (seen : Option ListenerId) (he : e.channel = n.toUInt64) :
    Chronicled b ((Action.emit seen e).run st).2 := by
  unfold Chronicled
  rw [diary_emit h.1.logging]
  exact ⟨h.1.tell_guest hn he, h.2⟩

theorem chronicles_closeConnection (i : ConnectionId) : Chronicles (closeConnection i) := by
  intro b st h
  rw [closeConnection, run_bind, run_get]
  dsimp only
  split
  · exact h
  case h_2 x hx =>
  split
  · exact h
  · have hguest : x.id ∈ st.diary.guests := List.mem_map_of_mem (List.mem_of_getElem? hx)
    refine run_bind_of_keeps ((diary_hidesMasks.closeConnectionDescriptor i).holds
      fun d => (d.Faithful ∧ d.blocked = b) ∧ x.id ∈ d.guests) (fun _ h => h.1)
      (fun released st h => ?_) ⟨h, hguest⟩
    exact chronicles_demand released b _ (Chronicled.emit_guest h.1 h.2 none rfl)

theorem keeps_addConnection (number : FileNumber) (remote : Endpoint) :
    Keeps (ChronicledAt b c p) (addConnection number remote).run := by
  intro st h
  have hdiary : ((addConnection number remote).run st).2.diary = st.diary.joined := by
    show diary { st with
      nextId := st.nextId + 1, connections := st.connections ++ [_] } = _
    simp [diary, memory, Diary.joined]
  unfold ChronicledAt Chronicled
  rw [hdiary]
  exact ⟨⟨h.1.1.joined, h.1.2⟩, h.2⟩

theorem ChronicledAt.keepConnection (h : ChronicledAt b c p st) (hopen : p.isOpen = true)
    (hbound : p.address.isSome = true) (number : FileNumber) (remote : Endpoint) :
    Chronicled b ((Action.keepConnection c number remote).run st).2 := by
  obtain ⟨address, haddress⟩ := Option.isSome_iff_exists.mp hbound
  have hsound : p.Sound := h.1.1.sound p (List.mem_of_getElem? h.2)
  have hnext {e : Event} (hkind : e.kind = .accepted ∨ e.kind = .acceptDenied) :
      p.stage.next e = some p.stage := by
    rw [hsound.stage_open hopen, haddress]
    rcases hkind with hkind | hkind <;> simp [Stage.next, hkind]
  refine run_bind_of_keeps (Quiet.chronicledAt (diary_hidesMasks.network _) b c p) (fun _ h => h.1)
    (fun r st h => ?_) h
  split
  · exact Quiet.chronicles (frames_bind (diary_hidesMasks.network _) fun _ =>
      frames_throw _) b st h.1
  · obtain ⟨l, hl, hpage⟩ := listener_of_page h.2
    have hnumber : l.id = p.id := congrArg Page.id hpage
    rw [run_listener_bind hl]
    refine run_bind_of_keeps (keeps_addConnection number remote) (fun _ h => h.1)
      (fun i st h => ?_) h
    rw [run_bind, run_get]
    dsimp only
    split
    · refine chronicles_bind (chronicles_observe (chronicles_closeConnection i))
        (fun _ => Quiet.chronicles (frames_throw _)) b _ ?_
      exact h.emit (some c) (congrArg Nat.toUInt64 hnumber) (hnext (.inr rfl))
    · refine run_bind_of_keeps (Quiet.chronicledAt (diary_hidesMasks.network _) b c p)
        (fun _ h => h.1)
        (fun r st h => ?_) h
      exact h.emit (some c) (congrArg Nat.toUInt64 hnumber) (hnext (.inl rfl))

/-! ## Entering and leaving an accept -/

theorem Chronicled.reblock (h : Chronicled b st) {st' : Station}
    {b' : ThreadId → Option ListenerId}
    (hdiary : st'.diary = { st.diary with blocked := b' }) : Chronicled b' st' := by
  unfold Chronicled
  rw [hdiary]
  exact ⟨h.1.reblock b', rfl⟩

theorem closed_after_interrupt {l : Listener} (hl : st.listeners[c]? = some l)
    (target : ThreadId) : ∃ st' l', (interruptListener c target).run st = (.ok (), st') ∧
      st'.listeners[c]? = some l' ∧ l'.core.isOpen = false := by
  have hcancel (r : Registry) (ks : List KeyId) :
      (ks.foldl Registry.cancel r).channel = r.channel := by
    induction ks generalizing r with
    | nil => rfl
    | cons k ks ih =>
      rw [List.foldl_cons, ih, Registry.cancel]
      split
      · split <;> rfl
      · rfl
  have hclosed : ∃ d, (st.registry.closeChannel c).channel c = some d ∧ d.isOpen = false := by
    rw [Registry.closeChannel, registry_channel_of hl]
    dsimp only
    split
    · rw [hcancel]
      simp [Registry.onChannel, registry_channel_of hl, Standing.shut]
    case isFalse hopen => exact ⟨_, registry_channel_of hl, by simpa using hopen⟩
  obtain ⟨d, hd, hshut⟩ := hclosed
  rw [← registry_interruptListener c target] at hd
  obtain ⟨l', hl', rfl⟩ := listener_of_registry hd
  have hok : ((interruptListener c target).run st).1 = .ok () := by
    rw [interruptListener, run_listener_bind hl]
    show ((observe (closeOnBehalf c (some target)) >>= fun _ => pure ()).run _).1 = _
    rw [run_bind, run_observe]
    rfl
  exact ⟨_, l', Prod.ext hok rfl, hl', hshut⟩

/-- An accept is refused; or the thread is blocked on the channel, which a pending interrupt closed
or which is open and bound. -/
theorem run_enterAccept (h : Chronicled b st) (me : ThreadId) (c : ListenerId) :
    (∃ f, (enterAccept me c).run st = (.error f, st)) ∨
    (∃ st', (enterAccept me c).run st = (.ok false, st') ∧
      Chronicled (Function.update b me (some c)) st') ∨
    ∃ st' p, (enterAccept me c).run st = (.ok true, st') ∧
      ChronicledAt (Function.update b me (some c)) c p st' ∧ p.Accepting := by
  cases hl : st.listeners[c]? with
  | none =>
    rw [enterAccept, run_listener_bind_none hl]
    exact .inl ⟨_, rfl⟩
  | some l =>
    rw [enterAccept, run_listener_bind hl]
    split
    · exact .inl ⟨_, rfl⟩
    case isFalse hopen =>
    split
    · exact .inl ⟨_, rfl⟩
    case isFalse hbound =>
    have hopen : l.core.isOpen = true := by simpa using hopen
    have hbound : l.isBound = true := by simpa using hbound
    rw [run_bind, run_get]
    dsimp only
    rw [run_bind, run_set]
    dsimp only
    have hblocked : Chronicled (Function.update b me (some c))
        { st with interrupts := (st.interrupts.enter me c).1 } := by
      refine h.reblock ?_
      rw [← h.2]
      simp [diary, memory, Interrupts.blockers_enter]
    have hl₁ : { st with interrupts := (st.interrupts.enter me c).1 }.listeners[c]? = some l := hl
    generalize { st with interrupts := (st.interrupts.enter me c).1 } = st₁ at hblocked hl₁
    split
    · -- the interrupt closes the channel at once
      obtain ⟨st₂, l₂, hrun, hl₂, hshut⟩ := closed_after_interrupt hl₁ me
      have hclosed := hblocked.interruptListener hl₁ hopen me
      rw [run_bind, hrun]
      dsimp only
      rw [storeAcceptor, run_listener_bind hl₂, hshut]
      rw [hrun] at hclosed
      exact .inr (.inl ⟨st₂, rfl, hclosed⟩)
    · rw [storeAcceptor, run_listener_bind hl₁, hopen]
      refine .inr (.inr ⟨_, l.page, rfl, ?_, hopen, hbound⟩)
      exact Quiet.chronicledAt
        (quiet_modifyListener c (f := fun l => { l with acceptor := some me }) fun _ => rfl)
        _ c l.page st₁ ⟨hblocked, page_of hl₁⟩

/-- A thread that leaves an accept is not blocked any more. What it took, it took from a channel
that is open and bound. -/
theorem Chronicled.leaveAccept (h : Chronicled b st) (me : ThreadId) {a : Attempt}
    (htaken : a.completed = true → ∃ p, st.diary.pages[c]? = some p ∧ p.Accepting) :
    Chronicled (Function.update b me none) ((Action.leaveAccept me c a).run st).2 := by
  let st₁ : Station := { st.modifyListener c fun l => { l with acceptor := none } with
    interrupts := st.interrupts.leave me }
  have hdiary : st₁.diary = { st.diary with blocked := Function.update b me none } := by
    have hsame := diary_modifyListener_same st c (f := fun l => { l with acceptor := none })
      fun _ => rfl
    show { (st.modifyListener c fun l => { l with acceptor := none }).diary with
      blocked := (st.interrupts.leave me).blockers } = _
    rw [hsame, Interrupts.blockers_leave, ← h.2]
    rfl
  have hleft : Chronicled (Function.update b me none) st₁ := h.reblock hdiary
  show Chronicled _ ((listener c >>= _).run st₁).2
  cases hl : st₁.listeners[c]? with
  | none =>
    rw [run_listener_bind_none hl]
    exact hleft
  | some l =>
    have hsame : (st₁.modifyListener c fun l' =>
        { l' with core := (l.core.conclude me a.completed).1 }).diary = st₁.diary := by
      refine diary_modifyListener_of hl ?_
      simp [Listener.page, Core.isOpen_conclude]
    rw [run_listener_bind hl, run_bind, run_modify]
    dsimp only
    generalize (st₁.modifyListener c fun l' =>
        { l' with core := (l.core.conclude me a.completed).1 }) = st₂ at hsame
    have hleft : Chronicled (Function.update b me none) st₂ := h.reblock (hsame.trans hdiary)
    -- only a connection that is kept is told of
    split
    · exact Quiet.chronicles
        (frames_bind (diary_hidesMasks.network _) fun _ => frames_throw _) _ _ hleft
    · exact hleft
    case h_3 number remote _ =>
      obtain ⟨p, hp, hopen, hbound⟩ := htaken rfl
      have hat : ChronicledAt (Function.update b me none) c p st₂ :=
        ⟨hleft, by rw [hsame, hdiary]; exact hp⟩
      exact run_bind_keeps (hat.keepConnection hopen hbound number remote) fun _ => keeps_pure _
    · exact hleft
    · exact hleft

end Action

/-! ## Steps -/

/-- The diary is faithful, and no thread is blocked. -/
abbrev Free : Station → Prop := Chronicled fun _ => none

/-- The diary is faithful, and thread `me` alone is blocked, on a channel that is open and bound. -/
def Engaged (me : ThreadId) (c : ListenerId) (st : Station) : Prop :=
  ∃ p, ChronicledAt (Function.update (fun _ => none) me (some c)) c p st ∧ p.Accepting

theorem Engaged.keeps {α : Type} {a : Action α} (h : Quiet a) (me : ThreadId) (c : ListenerId) :
    Keeps (Engaged me c) a.run := by
  rintro st ⟨p, hp, haccepting⟩
  exact ⟨p, h.chronicledAt _ c p st hp, haccepting⟩

/-- A thread that is the only one at work is blocked from the beginning of an accept to its end. -/
theorem attends_free (me : ThreadId) : Attends me Free (Engaged me) where
  bind c address backlog := chronicles_bindListener c address backlog _
  takeTurn c := Quiet.chronicles (diary_hidesMasks.takeTurn me c) _
  giveTurn c := Quiet.chronicles (diary_hidesMasks.giveTurn c) _
  enterAccept c st h := by
    rcases run_enterAccept h me c with
      ⟨f, hrun⟩ | ⟨st', hrun, hclosed⟩ | ⟨st', p, hrun, hp, haccepting⟩
    · rw [hrun]
      exact h
    · have hleft := hclosed.leaveAccept me (c := c) (a := .interrupted) (by rintro ⟨⟩)
      rw [Function.update_idem, Function.update_eq_self] at hleft
      rw [hrun]
      exact hleft
    · rw [hrun]
      exact ⟨p, hp, haccepting⟩
  attemptAccept c := Engaged.keeps (diary_hidesMasks.attemptAccept c) me c
  resumeAccept c signalled := Engaged.keeps (diary_hidesMasks.resumeAccept c signalled) me c
  leaveAccept := by
    rintro c a st ⟨p, hp, haccepting⟩
    have hleft := hp.1.leaveAccept me (a := a) fun _ => ⟨p, hp.2, haccepting⟩
    rwa [Function.update_idem, Function.update_eq_self] at hleft
  configureBlocking c block := (quiet_configureBlocking c block).chronicles _
  dropConnection i := Quiet.chronicles (diary_hidesMasks.dropConnection i) _
  acquire c := Quiet.chronicles (diary_hidesMasks.acquire c) _
  release c := Quiet.chronicles (diary_hidesMasks.release c) _
  poll _ := Quiet.chronicles (diary_hidesMasks.network _) _

namespace Step

variable {me : ThreadId}

theorem leads_startSelect (s : SelectorId) (timeout : Option Nat) :
    Leads Free (Engaged me) Free (startSelect s timeout) := by
  refine leads_after (chronicles_beginSelect s _) fun r => ?_
  split
  · exact leads_pure fun _ h => h
  refine leads_after (Quiet.chronicles (diary_hidesMasks.network _) _) fun r => ?_
  split
  · exact leads_after (chronicles_endSelect s _ _ _) fun _ => leads_pure fun _ h => h
  · exact leads_get fun _ => leads_pure fun _ h => h

theorem leads_resumeSelect (s : SelectorId) (polled : List Polled) (deadline : Option Nat)
    (signalled : Bool) :
      Leads Free (Engaged me) Free (resumeSelect s polled deadline signalled) := by
  refine leads_get fun st => ?_
  dsimp only
  split
  · exact leads_after (chronicles_endSelect s _ _ _) fun _ => leads_pure fun _ h => h
  split
  · exact leads_after (chronicles_endSelect s _ _ _) fun _ => leads_pure fun _ h => h
  · exact leads_pure fun _ h => h

end Step

namespace Point

/-- What a point asks for, a step from it hands on. -/
theorem leads_advance (me : ThreadId) (signalled : Bool) (p : Point) :
    Step.Leads Free (Engaged me) (p.Ready Free (Engaged me)) (p.advance me signalled) := by
  cases p with
  | select s timeout => exact Step.leads_startSelect s timeout
  | inSelect s polled deadline => exact Step.leads_resumeSelect s polled deadline signalled
  | _ => exact (attends_free me).advance signalled rfl

end Point

/-! ## Courses -/

/-- What happens before a step of a thread: to the network, how much time passes, and
whether a signal comes. -/
structure Pause where
  network : Network → Network := id
  passed : Nat := 0
  signalled : Bool := false

def Pause.pass (m : Pause) (st : Station) : Station :=
  { st with network := m.network st.network, now := st.now + m.passed }

namespace Point

/-- Thread `me` goes on from a point, one step after each pause, until its operation is over; there
is no answer if it is not over after the last pause. -/
def course (me : ThreadId) : List Pause → Point → Station → Option Station
  | [], _, _ => none
  | m :: rest, p, st =>
    match p.advance me m.signalled (m.pass st) with
    | (.done _, st) => some st
    | (.goto p, st) | (.wait p, st) => course me rest p st

theorem Ready.pass {me : ThreadId} {p : Point} {st : Station} (h : p.Ready Free (Engaged me) st)
    (m : Pause) : p.Ready Free (Engaged me) (m.pass st) := by
  cases p <;> exact h

/-- A course that comes to its end leaves a faithful diary, and no thread is blocked. -/
theorem free_course {me : ThreadId} {pauses : List Pause} {p : Point} {st st' : Station}
    (h : p.Ready Free (Engaged me) st) (hcourse : p.course me pauses st = some st') : Free st' := by
  -- the induction is on the pauses: what one step leads to is what the next point asks for
  induction pauses generalizing p st with
  | nil => cases hcourse
  | cons m rest ih =>
    have hstep := leads_advance me m.signalled p _ (h.pass m)
    rw [course] at hcourse
    generalize p.advance me m.signalled (m.pass st) = r at hstep hcourse
    obtain ⟨move, st₁⟩ := r
    cases move with
    | goto p | wait p => exact ih hstep hcourse
    | done outcome =>
      cases hcourse
      exact hstep

end Point
end PolledChannels
