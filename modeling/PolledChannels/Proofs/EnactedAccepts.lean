import PolledChannels.Proofs.Courses
import PolledChannels.Proofs.Deeds
import PolledChannels.Proofs.Enactments
import PolledChannels.Proofs.TimedAccepts

/-!
# Accepts, interrupts and changes of mode that enact operations

Left alone, the accesses of an interrupt do what an interrupt does, and so do those of a close on
its behalf and those of a change of mode. The accesses of an accept do, stretch by stretch, what
the operations do that an accept is made of: entering, an attempt, keeping what was taken, leaving.
-/

namespace PolledChannels

open PolledChannels.Action

/-! ## Closing on somebody's behalf -/

namespace ShutPoint

variable {c : ListenerId}

theorem step_over {target : Option ThreadId} {p : ShutPoint} (hover : p.isOver = true) :
    p.step c target = pure p := by
  obtain ⟨outcome, rfl⟩ := eq_of_isOver hover
  rfl

/-- A close on somebody's behalf that runs alone does what one does at once. -/
theorem enacts (target : Option ThreadId) (l : Listener) :
    Enacts (step c target) (Lists c l) .flip (closeOnBehalf c target).run
      (ComesTo (fun outcome => .rest (.ended outcome)) fun _ => True) := by
  refine .read ?_
  cases hopen : l.core.isOpen with
  | false =>
    rw [show l.core.shut? target = none by simp [Core.shut?, hopen]]
    exact .see rfl (by rw [hopen]; rfl) (.done fun _ _ => ⟨.ok (), rfl, rfl, trivial⟩)
  | true =>
    have hflip (st : Station) (hl : Lists c l st) : (step c target .flip).run st =
        (.ok (flipped target), st.modifyListener c fun l =>
          { l with core := { l.core with isOpen := false } }) := by
      rw [step, run_listener_bind hl, hopen]
      rfl
    have hrest (l : Listener) : Enacts (step c target) (Lists c l) (.rest .look) _
        (ComesTo (fun outcome => .rest (.ended outcome)) fun _ => True) :=
      (ClosePoint.enacts_rest l).within rest (fun _ h => absurd h Bool.false_ne_true)
        (fun _ _ => rfl)
        fun _ _ _ => ComesTo.map _
    obtain ⟨core, hshut⟩ : ∃ core, l.core.shut? target = some core := ⟨_, if_pos hopen⟩
    have hcore := (if_pos hopen).symm.trans hshut
    rw [hshut]
    cases hcore
    cases target with
    | none => exact .touch hflip rfl (hrest _)
    | some t =>
      -- the two writes together are the one write of the operation
      refine .half hflip (k := fun st => st.modifyListener c fun l =>
        { l with core := { l.core with interruptedBy := some t } }) (fun st hl => ?_)
        (fun st hl => Station.listener_modifyListener hl _) (.touch (fun _ _ => rfl) rfl (hrest _))
      rw [Station.modifyListener_modifyListener]
      exact Station.modifyListener_congr hl rfl

end ShutPoint

/-! ## Interrupts -/

/-- What a channel does when it hears of an interrupt, in accesses. -/
theorem enacts_interruptListener {P : Type} {step : P → Action P} {tell next : P} {c : ListenerId}
    (shut : ShutPoint → P) (t : ThreadId) (l : Listener)
    (htell : step tell = (do tellInterrupt c t; return shut .flip))
    (hbusy : ∀ q, q.isOver = false → step (shut q) = (do return shut (← q.step c (some t))))
    (hend : ∀ outcome, step (shut (.rest (.ended outcome))) = pure next) :
    Enacts step (Lists c l) tell (interruptListener c t).run
      (Succeeds (fun _ => next) fun _ => Listed c) := by
  have hshut : Enacts step (Lists c l) (shut .flip)
      (do let _ ← observe (closeOnBehalf c (some t)) : Action Unit).run (fun _ _ p => p = next) :=
    ((ShutPoint.enacts (some t) l).within shut (fun _ => ShutPoint.step_over) hbusy
      fun _ _ _ => ComesTo.map _).regardless fun outcome =>
        .look (fun _ _ => by rw [hend]; rfl) (.done fun _ _ => rfl)
  intro st hl
  obtain ⟨st', l', hrun, hl', -⟩ := closed_after_interrupt hl t
  let event : Event := { eventOf l .interrupted with detail := some s!"ThreadId({t})" }
  have htold : (step tell).run st = (.ok (shut .flip), st.tell c event) := by
    rw [htell, tellInterrupt, run_bind, run_listener_bind hl]
    rfl
  have hrest :
      (do let _ ← observe (closeOnBehalf c (some t)) : Action Unit).run (st.tell c event) =
      (.ok (), st') :=
    (run_listener_bind hl _).symm.trans hrun
  obtain ⟨p', rfl, hsolo⟩ := hshut (st.tell c event) (by rwa [Lists, Station.listeners_tell])
  rw [hrest] at hsolo
  rw [hrun]
  exact ⟨_, ⟨rfl, l', hl'⟩, .head htold hsolo⟩

namespace InterruptPoint

/-- An interrupt that runs alone is an interrupt. -/
theorem enacts (t : ThreadId) :
    Enacts (step t) (fun st => ∀ s c, st.interrupts.slot? t = some s →
      s.blocker = some c → Listed c st)
      .find (Station.interrupt t) fun _ _ p => p = .ended := by
  intro st hblocker
  rw [Station.interrupt_eq]
  cases hs : st.interrupts.slot? t with
  | none =>
    simp only [Interrupts.interruptOther, hs]
    refine ⟨_, rfl, .one ?_⟩
    simp only [step, run_bind, run_get, hs]
    rfl
  | some s =>
    have hfind : (step t .find).run st = (.ok .mark, st) := by
      simp only [step, run_bind, run_get, hs]
      rfl
    have hmark : (step t .mark).run st = (.ok (found s.blocker),
        { st with interrupts := st.interrupts.put t { s with interrupted := true } }) := by
      simp only [step, run_bind, run_get, run_set, Interrupts.interruptOther, hs]
      rfl
    simp only [Interrupts.interruptOther, hs]
    cases hb : s.blocker with
    | none =>
      rw [hb] at hmark
      exact ⟨_, rfl, .head hfind (.one hmark)⟩
    | some c =>
      rw [hb] at hmark
      obtain ⟨l, hl⟩ := hblocker s c hs hb
      let marked : Station := { st with interrupts := st.interrupts.put t ⟨true, some c⟩ }
      have hheard : Enacts (step t) (Lists c l) (.tell c) (interruptListener c t).run
          (Succeeds (fun _ => .ended) fun _ => Listed c) :=
        enacts_interruptListener (shut c) t l rfl (fun _ => step_shut c) fun _ => rfl
      obtain ⟨p', hp', hsolo⟩ := hheard marked hl
      refine ⟨p', ?_, .head hfind (.head hmark hsolo)⟩
      revert hp'
      rcases (interruptListener c t).run marked with ⟨e | v, st'⟩
      · exact False.elim
      · exact And.left

end InterruptPoint

/-! ## Accepts -/

namespace AcceptPoint

variable {c : ListenerId} {me : ThreadId} {signalled : Bool}

/-- Where an attempt leads to: into the call, or to what it came to. -/
def ofAttempt : Option Attempt → AcceptPoint
  | none => inside
  | some a => tried a

/-- Where the beginning of an accept leads to. -/
def ofEntry : Except Failure Bool → AcceptPoint
  | .ok true => take .look
  | .ok false => clear .interrupted
  | .error f => back (.error f)

theorem enacts_end (a : Attempt) (l : Listener) :
    Enacts (step me c signalled) (Lists c l) (.leave a) (endAttempt c a).run
      (Succeeds ofAttempt fun _ => Listed c) :=
  (enacts_release (.give a) rfl rfl rfl rfl).andThen fun _ => .done fun _ hl => ⟨rfl, hl⟩

/-- A call of accept, with what follows its answer. -/
theorem enacts_call {p : AcceptPoint} {l : Listener} {V : Station → Prop}
    (hp : ∀ st, V st → Lists c l st ∧
      (step me c signalled p).run st = (enterCall l.descriptor.number).run st) :
    Enacts (step me c signalled) V p (callAccept c l.descriptor.number).run
      (Succeeds ofAttempt fun _ => Listed c) := by
  refine .net (fun st hst => (hp st hst).2) (fun st hst => (hp st hst).1) ?_
  rintro (e | _ | ⟨taken, remote⟩)
  · exact ⟨.fault e, rfl, .read (.see rfl rfl (enacts_end _ l))⟩
  · exact ⟨.inside, rfl, .done fun _ hl => ⟨rfl, l, hl⟩⟩
  · exact ⟨_, rfl, enacts_end _ l⟩

theorem enacts_request (l : Listener) :
    Enacts (step me c signalled) (Lists c l) .request (callAccept c l.descriptor.number).run
      (Succeeds ofAttempt fun _ => Listed c) :=
  enacts_call fun _ hl => ⟨hl, run_listener_bind hl _⟩

/-- A socket that does not block is polled before the call. -/
theorem enacts_poll (l : Listener) :
    Enacts (step me c signalled) (Lists c l) .poll
      (do
        match ← network (Net.poll l.descriptor.number Native.input) with
        | .error e => endAttempt c (if e = .os .interrupted then .interrupted else .failed e)
        | .ok events =>
          if events = 0 then endAttempt c .unavailable else callAccept c l.descriptor.number :
        Action (Option Attempt)).run
      (Succeeds ofAttempt fun _ => Listed c) := by
  refine .net (fun st hl => run_listener_bind hl _) (fun _ => id) ?_
  rintro (e | events)
  · exact ⟨_, rfl, enacts_end _ l⟩
  · dsimp only
    by_cases hnone : events = 0
    · rw [if_pos hnone, if_pos hnone]
      exact ⟨_, rfl, enacts_end _ l⟩
    · rw [if_neg hnone, if_neg hnone]
      exact ⟨_, rfl, enacts_request l⟩

/-- An attempt, from the first look at the word on. -/
theorem enacts_attempt (l : Listener) :
    Enacts (step me c signalled) (Lists c l) (.take .look) (attemptAccept c).run
      (Succeeds ofAttempt fun _ => Listed c) := by
  refine .of_observe
    (.taking (.inl rfl) (fun _ => rfl) (fun _ => rfl) (.done fun _ hl => ⟨rfl, l, hl⟩) ?_)
  -- the use is held, and the socket says whether it blocks
  refine .net (l := l.used) (fun st hl => run_listener_bind hl _) (fun _ => id) ?_
  rintro (e | _ | _)
  · exact ⟨_, rfl, enacts_end _ _⟩
  · exact ⟨_, rfl, enacts_poll l.used⟩
  · exact ⟨_, rfl, enacts_request l.used⟩

/-- A thread in the call goes on. -/
theorem enacts_resume (l : Listener) :
    Enacts (step me c signalled) (Lists c l) .inside (resumeAccept c signalled).run
      (Succeeds ofAttempt fun _ => Listed c) := by
  cases signalled with
  | true => exact .see rfl rfl (enacts_end .interrupted l)
  | false =>
    intro st hl
    have hrun : (resumeAccept c false).run st =
        (if st.network.polled l.descriptor.number Native.input = 0 then return none
          else callAccept c l.descriptor.number : Action (Option Attempt)).run st :=
      run_listener_bind hl _
    by_cases hidle : st.network.polled l.descriptor.number Native.input = 0
    · rw [hrun, if_pos hidle]
      exact ⟨_, ⟨rfl, l, hl⟩, .refl⟩
    · rw [hrun, if_neg hidle]
      refine enacts_call (l := l) (V := (· = st)) (fun st' hst => ?_) st rfl
      subst hst
      refine ⟨hl, (run_listener_bind hl _).trans ?_⟩
      show (if st'.network.polled l.descriptor.number Native.input = 0 then return inside
        else enterCall l.descriptor.number : Action AcceptPoint).run st' = _
      rw [if_neg hidle]

/-- A look whether the channel is still open, and the thread written down if it is. -/
theorem enacts_store (l : Listener) :
    Enacts (step me c signalled) (Lists c l) .askAgain (storeAcceptor me c).run
      (Replies ofEntry (Listed c)) := by
  refine .read (.ask rfl ?_)
  cases l.core.isOpen with
  | false => exact .done fun _ hl => ⟨rfl, l, hl⟩
  | true => exact .touch (fun _ _ => rfl) rfl (.done fun _ hl => ⟨rfl, _, hl⟩)

/-- The region is entered; an interrupt that is pending closes the channel first. -/
theorem enacts_register (l : Listener) :
    Enacts (step me c signalled) (Lists c l) .register
      (do
        let st ← get
        let r := st.interrupts.enter me c
        set { st with interrupts := r.1 }
        if r.2 then interruptListener c me else pure ()
        storeAcceptor me c : Action Bool).run
      (Replies ofEntry (Listed c)) := by
  intro st hl
  have hregister : (step me c signalled .register).run st =
      (.ok (if (st.interrupts.enter me c).2 then .tell else .askAgain),
        { st with interrupts := (st.interrupts.enter me c).1 }) := by
    simp only [step, run_bind, run_get, run_set]
    cases (st.interrupts.enter me c).2 <;> rfl
  cases hpending : (st.interrupts.enter me c).2 with
  | false =>
    rw [hpending] at hregister
    refine (enacts_store l).via hregister ?_ hl
    refine (run_bind_ok rfl).trans ((run_bind_ok rfl).trans ?_)
    simp only [hpending, Bool.false_eq_true, if_false]
  | true =>
    rw [hpending] at hregister
    have hheard : Enacts (step me c signalled) (Lists c l) .tell (interruptListener c me).run
        (Succeeds (fun _ => .askAgain) fun _ => Listed c) :=
      enacts_interruptListener own me l rfl (fun _ => step_own) fun _ => rfl
    refine (hheard.andThen fun _ => .of_listed enacts_store).via hregister ?_ hl
    refine (run_bind_ok rfl).trans ((run_bind_ok rfl).trans ?_)
    simp only [hpending, if_true]

/-- The beginning of an accept, from the turn on. -/
theorem enacts_enter (l : Listener) :
    Enacts (step me c signalled) (Lists c l) .turn
      (do takeTurn me c; enterAccept me c : Action Bool).run
      (Replies ofEntry (Listed c)) := by
  refine .touch (fun _ _ => rfl) rfl (.read (.ask rfl ?_))
  cases l.core.isOpen with
  | false => exact .done fun _ hl => ⟨rfl, _, hl⟩
  | true =>
    refine .ask rfl ?_
    show Enacts _ _ (if l.isBound then _ else _) (if (!l.isBound) = true then _
      else _ : Action Bool).run _
    cases l.isBound with
    | false => exact .done fun _ hl => ⟨rfl, _, hl⟩
    | true => exact enacts_register _

/-- A connection that was taken is kept, if it can be. -/
theorem enacts_keep (number : FileNumber) (remote : Endpoint) :
    Enacts (step me c signalled) (fun _ => True) (.keep number remote)
      (do return some (← keepConnection c number remote) : Action (Option ConnectionId)).run
      (Replies back fun _ => True) := by
  intro st _
  refine ⟨_, ⟨rfl, trivial⟩, .one ?_⟩
  rw [step, run_bind_ok (run_observe st _), run_bind]
  rcases (keepConnection c number remote).run st with ⟨_ | _, st'⟩ <;> rfl

/-- The end of an accept, from where the thread is taken off the channel on. -/
theorem enacts_leave (a : Attempt) (l : Listener) :
    Enacts (step me c signalled) (Lists c l) (.clear a) (leaveAccept me c a).run
      (Replies back fun _ => True) := by
  let cleared : Listener := { l with acceptor := none }
  refine .half (U := Lists c cleared)
    (k := fun st => { st with interrupts := st.interrupts.leave me })
    (fun _ _ => rfl) (fun _ _ => rfl) (fun st hl => Station.listener_modifyListener hl _)
    (.both (W := fun _ => Lists c cleared) rfl (fun st hl => ⟨(), _, rfl, hl⟩) fun _ =>
      ⟨_, rfl, .read ?_⟩)
  dsimp only
  by_cases hmine : l.core.interruptedBy = some me
  · rw [show cleared.core.conclude me a.completed = _ from if_pos hmine]
    refine .touch (fun st hl => by rw [step, run_listener_bind hl, if_pos hmine]; rfl) rfl ?_
    cases a with
    | taken number remote =>
      exact .both (W := fun _ _ => True) rfl (fun st _ => ⟨_, _, rfl, trivial⟩) fun _ =>
        ⟨_, rfl, .done fun _ _ => ⟨rfl, trivial⟩⟩
    | _ => exact .done fun _ _ => ⟨rfl, trivial⟩
  · rw [show cleared.core.conclude me a.completed = _ from if_neg hmine]
    refine .see rfl (if_neg hmine) ?_
    cases a with
    | taken number remote =>
      exact .still rfl ((enacts_keep number remote).weaken fun _ _ => trivial)
    | _ =>
      refine .ask rfl ?_
      show Enacts _ _ (if l.core.isOpen then _ else _) _ _
      cases hopen : l.core.isOpen with
      | true | false => exact .still rfl (.done fun _ _ => ⟨rfl, trivial⟩)

end AcceptPoint

/-! ## Changes of the mode -/

namespace ModePoint

variable {c : ListenerId} {block : Bool}

/-- The mode of the descriptor is set under a use, and then written down. -/
theorem enacts_apply (l : Listener) :
    Enacts (step c block) (Lists c l) (.take .look)
      (do
        demand (← calling c fun number => Net.setBlocking number block)
        modify fun st => st.modifyListener c fun l =>
          { l with core := { l.core with blocking := block } } :
        Action Unit).run
      (Replies .ended (Listed c)) := by
  simp only [calling, bind_assoc, pure_bind]
  refine .taking (f := ExceptT.bindCont _) (.inl rfl) (fun _ => rfl) (fun _ => rfl)
    (.done fun _ hl => ⟨rfl, l, hl⟩) ?_
  refine .net (l := l.used) (fun st hl => run_listener_bind hl _) (fun _ => id) fun r =>
    ⟨_, rfl, ?_⟩
  refine (enacts_release (.give r) rfl rfl rfl rfl).andThen fun _ => .of_listed fun l => ?_
  cases r with
  | error e => exact .done fun _ hl => ⟨rfl, l, hl⟩
  | ok _ =>
    exact .access (U := Listed c)
      (fun st hl => ⟨_, rfl, rfl, _, Station.listener_modifyListener hl _⟩)
      (.done fun _ hl => ⟨rfl, hl⟩)

/-- A mode change that runs alone is a mode change. -/
theorem enacts (l : Listener) :
    Enacts (step c block) (Lists c l) .enter (configureBlocking c block).run
      (Replies .ended (Listed c)) := by
  intro st hl
  have hrun : (configureBlocking c block).run st =
      (do
        if ← l.core.changeMode (l.core.keys.any st.keyValid) block then
          demand (← calling c fun number => Net.setBlocking number block)
          modify fun st => st.modifyListener c fun l =>
            { l with core := { l.core with blocking := block } }
        else pure () : Action Unit).run st :=
    run_listener_bind hl _
  have henter : (step c block .enter).run st =
      (if !l.core.isOpen then return .ended (.error .closed)
        else if l.core.blocking = block then return .ended (.ok ())
        else if block then return .askKeys else return .take .look : Action ModePoint).run st :=
    run_listener_bind hl _
  rw [Core.changeMode] at hrun
  cases hopen : l.core.isOpen with
  | false =>
    rw [hopen] at henter hrun
    rw [hrun]
    exact ⟨_, ⟨rfl, l, hl⟩, .one henter⟩
  | true =>
    simp only [hopen, Bool.not_true, Bool.false_eq_true, if_false] at henter hrun
    by_cases hsame : l.core.blocking = block
    · rw [if_pos hsame] at henter hrun
      rw [hrun]
      exact ⟨_, ⟨rfl, l, hl⟩, .one henter⟩
    · rw [if_neg hsame] at henter hrun
      cases block with
      | false => exact (enacts_apply l).via henter hrun hl
      | true =>
        have hask : (step c true .askKeys).run st =
            (.ok (if l.core.keys.any st.keyValid then .ended (.error .illegalBlockingMode)
              else .take .look), st) := by
          rw [step, run_listener_bind hl, run_bind_ok (run_get st)]
          split <;> rfl
        cases hkeyed : l.core.keys.any st.keyValid with
        | true =>
          rw [hkeyed] at hrun hask
          rw [hrun]
          exact ⟨_, ⟨rfl, l, hl⟩, .head henter (.one hask)⟩
        | false =>
          rw [hkeyed] at hrun hask
          obtain ⟨p', hp', hsolo⟩ := (enacts_apply l).via hask hrun hl
          exact ⟨p', hp', .head henter hsolo⟩

end ModePoint
end PolledChannels

