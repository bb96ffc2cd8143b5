import PolledChannels.Proofs.Courses
import PolledChannels.Proofs.KillRaces

/-!
# What an access of an accept, a close or an interrupt does

The strides of a call say once what each of its accesses may do: where the call stands before and
after it, what has to hold of the front of the station for that, and how the front changes. Past its
first access a close strides as it turns, and what it does to the front is read off its turns.
-/

namespace PolledChannels

open PolledChannels.Action Station

variable {st st' : Station} {c : ListenerId}

/-! ## Fronts -/

section Fronts

theorem front_hidesEvents : HidesEvents Station.front where
  world _ _ := rfl
  connections _ _ _ _ := rfl
  reports _ _ := rfl
  connected _ _ _ := rfl

/-- One access to the descriptor changes nothing but its word. -/
theorem front_accessDescriptor {α : Type} {call : Guard.Call} {f : Guard.Call → α} {v : α}
    (h : (do return f (← accessDescriptor c call).1 : Action α).run st = (.ok v, st')) :
    ∃ g, st.front.gate c = some g ∧ v = f (Guard.step g.word call).2.1 ∧
      st'.front = st.front.onGate c fun g' => { g' with word := (Guard.step g.word call).1 } := by
  obtain ⟨_, haccess, -⟩ := of_run_map h
  obtain ⟨l, hl, -⟩ := of_run_listener_bind haccess
  obtain ⟨hv, network, rfl⟩ := of_run_access hl h
  exact ⟨l.gate, gate_front hl, hv, front_modifyListener st c fun _ => rfl⟩

end Fronts

/-! ## Closers -/

/-- What an access of a close on somebody's behalf does. -/
inductive ShutPoint.Stride (c : ListenerId) (target : Option ThreadId) (v : Front) :
    ShutPoint → Front → ShutPoint → Prop
  | flip {g : Gate} {p' : ShutPoint} (hg : v.gate c = some g) (h : g.isOpen = true)
      (hp' : p' = flipped target) :
      Stride c target v .flip (v.onGate c fun g => { g with isOpen := false }) p'
  | shut {g : Gate} (hg : v.gate c = some g) (h : g.isOpen = false) :
      Stride c target v .flip v (.rest (.ended (.ok ())))
  | credit (t : ThreadId) :
      Stride c target v (.credit t) (v.onGate c fun g => { g with interruptedBy := some t })
        (.rest .look)
  | rest {point point' : ClosePoint} {w w' : Scene} (hw : w.front = v) (hpoint : point ≠ .shut)
      (h : ClosePoint.Turn c w point w' point') :
      Stride c target v (.rest point) w'.front (.rest point')

section Changes

variable {c : ListenerId} {target : Option ThreadId} {v v' : Front} {w w' : Scene}

/-- A kill writes the word and the lifecycle of its channel, and nothing else. -/
theorem KillPoint.Turn.change {p p' : KillPoint} (h : Turn c w p w' p') :
    ∃ f, w'.front = w.front.onGate c f ∧
      ∀ g, f g = { g with word := (f g).word, lifecycle := (f g).lifecycle } := by
  cases h with
  | promoteOnly | promote => exact ⟨Gate.killed, rfl, fun _ => rfl⟩
  | marked | mark => exact ⟨Gate.marked, rfl, fun _ => rfl⟩
  | _ => exact ⟨id, Front.onGate_id.symm, fun _ => rfl⟩

theorem CancelPoint.Turn.front {p p' : CancelPoint} (h : Turn w p w' p') :
    w'.front = w.front := by
  cases h <;> rfl

theorem ClosePoint.Turn.change {p p' : ClosePoint} (h : Turn c w p w' p') (hp : p ≠ .shut) :
    ∃ f, w'.front = w.front.onGate c f ∧
      ∀ g, f g = { g with word := (f g).word, lifecycle := (f g).lifecycle } := by
  cases h with
  | shut => exact absurd rfl hp
  | marked | mark => exact ⟨Gate.marked, rfl, fun _ => rfl⟩
  | kill closing h => exact h.change
  | cancel rest outcome h => exact ⟨id, h.front.trans Front.onGate_id.symm, fun _ => rfl⟩
  | _ => exact ⟨id, Front.onGate_id.symm, fun _ => rfl⟩

/-- A close opens nothing, and leaves the number and the acceptor of its channel alone. -/
theorem ShutPoint.Stride.change {p p' : ShutPoint} (h : Stride c target v p v' p') :
    ∃ f, v' = v.onGate c f ∧ ∀ g, (f g).number = g.number ∧ (f g).acceptor = g.acceptor ∧
      ((f g).isOpen = true → g.isOpen = true) := by
  cases h with
  | flip hg h hp' => exact ⟨_, rfl, fun _ => ⟨rfl, rfl, by rintro ⟨⟩⟩⟩
  | shut hg h => exact ⟨id, Front.onGate_id.symm, fun _ => ⟨rfl, rfl, id⟩⟩
  | credit t => exact ⟨_, rfl, fun _ => ⟨rfl, rfl, id⟩⟩
  | rest hw hpoint h =>
    subst hw
    obtain ⟨f, hfront, hf⟩ := h.change hpoint
    refine ⟨f, hfront, fun g => ?_⟩
    rw [hf g]
    exact ⟨rfl, rfl, id⟩

end Changes

/-- The rest of a close is never at its beginning again. -/
def ShutPoint.isProper : ShutPoint → Prop
  | rest point => point ≠ .shut
  | _ => True

theorem ShutPoint.stride {target : Option ThreadId} {p p' : ShutPoint} (hp : p.isProper)
    (h : (p.step c target).run st = (.ok p', st')) : Stride c target st.front p st'.front p' := by
  cases p with
  | flip =>
    obtain ⟨l, hl, h⟩ := of_run_listener_bind h
    cases hopen : l.core.isOpen with
    | true =>
      rw [hopen] at h
      cases h
      rw [front_modifyListener st c (g := fun g => { g with isOpen := false }) fun _ => rfl]
      exact .flip (gate_front hl) hopen rfl
    | false =>
      rw [hopen] at h
      cases h
      exact .shut (gate_front hl) hopen
  | credit t =>
    cases h
    rw [front_modifyListener st c (g := fun g => { g with interruptedBy := some t }) fun _ => rfl]
    exact .credit t
  | rest point =>
    obtain ⟨point', hpoint, rfl⟩ := of_run_map h
    exact .rest (w := st.scene) rfl hp (ClosePoint.turn hpoint)

/-! ## Interrupts -/

/-- What an access of an interrupt does. -/
inductive InterruptPoint.Stride (t : ThreadId) (v : Front) :
    InterruptPoint → Front → InterruptPoint → Prop
  | find : Stride t v .find v .mark
  | absent : Stride t v .find v .ended
  | mark {p' : InterruptPoint} (hp' : p' = found ((v.slot t).bind Slot.blocker)) :
      Stride t v .mark (v.putSlot t ((v.slot t).map fun s => { s with interrupted := true })) p'
  | tell (c : ListenerId) : Stride t v (.tell c) v (.shut c .flip)
  | shut {p p' : ShutPoint} {v' : Front} (c : ListenerId)
      (h : ShutPoint.Stride c (some t) v p v' p') : Stride t v (.shut c p) v' (.shut c p')
  | release (c : ListenerId) (outcome : IoResult) :
      Stride t v (.shut c (.rest (.ended outcome))) v .ended
  | ended : Stride t v .ended v .ended

theorem frames_tellInterrupt (c : ListenerId) (t : ThreadId) :
    Frames Station.front (tellInterrupt c t) :=
  frames_bind (frames_listener c) fun _ => front_hidesEvents.emit _ _

namespace Interrupts

variable {β : Type} (i : Interrupts β) (t u : ThreadId)

theorem slot?_interruptOther :
    (i.interruptOther t).1.slot? u =
      if u = t then (i.slot? t).map fun s => { s with interrupted := true } else i.slot? u := by
  unfold interruptOther
  split
  · next s hs => simp only [slot?_put, hs, Option.map_some]
  · next hs =>
    split
    · next hu => rw [hu, hs, Option.map_none]
    · rfl

theorem blocker_interruptOther : (i.interruptOther t).2 = (i.slot? t).bind Slot.blocker := by
  unfold interruptOther
  split
  · next s hs => rw [hs, Option.bind_some]
  · next hs => rw [hs, Option.bind_none]

theorem slot?_leave :
    (i.leave t).slot? u =
      if u = t then (i.slot? t).map fun s => { s with blocker := none } else i.slot? u := by
  unfold leave
  split
  · next s hs => simp only [slot?_put, hs, Option.map_some]
  · next hs =>
    split
    · next hu => rw [hu, hs, Option.map_none]
    · rfl

theorem interrupted_own : (i.own t).interrupted = (i.slot? t).any Slot.interrupted := by
  cases hs : i.slot? t <;> simp [own, hs]

end Interrupts

theorem InterruptPoint.stride {t : ThreadId} {p p' : InterruptPoint}
    (hp : ∀ c point, p = .shut c point → point.isProper)
    (h : (p.step t).run st = (.ok p', st')) :
    Stride t st.front p st'.front p' := by
  cases p with
  | find =>
    simp only [step, run_bind, run_get] at h
    split at h
    · cases h
      exact .find
    · cases h
      exact .absent
  | mark =>
    cases h
    have hfront : { st with interrupts := (st.interrupts.interruptOther t).1 }.front =
        st.front.putSlot t ((st.front.slot t).map fun s => { s with interrupted := true }) :=
      Front.ext rfl (funext fun u => st.interrupts.slot?_interruptOther t u)
    rw [st.interrupts.blocker_interruptOther t, hfront]
    exact .mark rfl
  | tell c =>
    obtain ⟨_, htell, rfl⟩ := of_run_map h
    rw [(frames_tellInterrupt c t).of_run htell]
    exact .tell c
  | shut c point =>
    cases hover : point.isOver with
    | false =>
      rw [step_shut c hover] at h
      obtain ⟨point', hpoint, rfl⟩ := of_run_map h
      exact .shut c (ShutPoint.stride (hp c point rfl) hpoint)
    | true =>
      obtain ⟨outcome, rfl⟩ := ShutPoint.eq_of_isOver hover
      cases h
      exact .release c outcome
  | ended =>
    cases h
    exact .ended

/-! ## Accepts -/

/-- In an attempt, under a use of the descriptor. -/
def AcceptPoint.isWorking : AcceptPoint → Bool
  | mode | poll | request | inside | fault _ => true
  | _ => false

namespace AcceptPoint

theorem tried_cases (a : Attempt) :
    a = .interrupted ∧ tried a = .again ∨ a ≠ .interrupted ∧ tried a = .clear a := by
  cases a with
  | interrupted => exact .inl ⟨rfl, rfl⟩
  | _ => exact .inr ⟨by rintro ⟨⟩, rfl⟩

theorem left_cases (a : Attempt) (word : UInt64) :
    word.toNat = 3 ∧ left a (Guard.afterLeave word) = .give a ∨
      word.toNat ≠ 3 ∧ left a (Guard.afterLeave word) = tried a := by
  rcases Guard.afterLeave_cases word with ⟨hnext, hword⟩ | ⟨hnext, hword⟩
  · exact .inl ⟨hword, by rw [hnext]; rfl⟩
  · exact .inr ⟨hword, by rw [hnext]; rfl⟩

/-- Taking a use goes on, or comes to an attempt under the use, or to a refusal. -/
theorem taking_cases (call : Guard.Call) :
    call = .held ∧ taking call = .mode ∨
      call = .refused ∧ taking call = .clear (.failed .socketClosed) ∨
      call ≠ .refused ∧ taking call = .take call := by
  cases call with
  | held => exact .inl ⟨rfl, rfl⟩
  | refused => exact .inr (.inl ⟨rfl, rfl⟩)
  | _ => exact .inr (.inr ⟨by rintro ⟨⟩, rfl⟩)

theorem heard_cases (mine : Bool) (a : Attempt) :
    (∃ number remote, a = .taken number remote ∧
        heard mine a = if mine then .drop number else .keep number remote) ∨
      a.completed = false ∧
        heard mine a = if mine then .back (.error .closedByInterrupt) else .test a := by
  cases a with
  | taken number remote => exact .inl ⟨number, remote, rfl, rfl⟩
  | _ => exact .inr ⟨rfl, rfl⟩

end AcceptPoint

/-- What an access of an accept does. -/
inductive AcceptPoint.Stride (me : ThreadId) (c : ListenerId) (v : Front) :
    AcceptPoint → Front → AcceptPoint → Prop
  | turn : Stride me c v .turn v .askOpen
  | askOpen {g : Gate} (hg : v.gate c = some g) (h : g.isOpen = true) :
      Stride me c v .askOpen v .askBound
  | closed {g : Gate} (hg : v.gate c = some g) (h : g.isOpen = false) :
      Stride me c v .askOpen v (.back (.error .closed))
  | askBound : Stride me c v .askBound v .register
  | unbound : Stride me c v .askBound v (.back (.error .notYetBound))
  | register {p' : AcceptPoint}
      (hp' : p' = if (v.slot me).any Slot.interrupted then .tell else .askAgain) :
      Stride me c v .register
        (v.putSlot me (some { (v.slot me).getD {} with blocker := some c })) p'
  | tell : Stride me c v .tell v (.own .flip)
  | own {p p' : ShutPoint} {v' : Front} (h : ShutPoint.Stride c (some me) v p v' p') :
      Stride me c v (.own p) v' (.own p')
  | owned (outcome : IoResult) :
      Stride me c v (.own (.rest (.ended outcome))) v .askAgain
  | askAgain {g : Gate} (hg : v.gate c = some g) (h : g.isOpen = true) :
      Stride me c v .askAgain v .store
  | shut {g : Gate} (hg : v.gate c = some g) (h : g.isOpen = false) :
      Stride me c v .askAgain v (.clear .interrupted)
  | store : Stride me c v .store (v.onGate c fun g => { g with acceptor := some me }) (.take .look)
  | take {g : Gate} {p' : AcceptPoint} (call : Guard.Call) (hg : v.gate c = some g)
      (hp' : p' = taking (Guard.step g.word call).2.1) :
      Stride me c v (.take call)
        (v.onGate c fun g' => { g' with word := (Guard.step g.word call).1 }) p'
  | work {p p' : AcceptPoint} (h : p.isWorking) (h' : p'.isWorking ∨ ∃ a, p' = .leave a) :
      Stride me c v p v p'
  | leave {g : Gate} {p' : AcceptPoint} (a : Attempt) (hg : v.gate c = some g)
      (hp' : p' = left a (Guard.afterLeave g.word)) :
      Stride me c v (.leave a) (v.onGate c fun g' => { g' with word := g.word - Guard.oneUse }) p'
  | give {p' : AcceptPoint} (a : Attempt) (hp' : p' = tried a) : Stride me c v (.give a) v p'
  | again {g : Gate} (hg : v.gate c = some g) (h : g.isOpen = true) :
      Stride me c v .again v (.take .look)
  | ceased {g : Gate} (hg : v.gate c = some g) (h : g.isOpen = false) :
      Stride me c v .again v (.clear .interrupted)
  | clear (a : Attempt) :
      Stride me c v (.clear a) (v.onGate c fun g => { g with acceptor := none }) (.exit a)
  | exit (a : Attempt) :
      Stride me c v (.exit a) (v.putSlot me ((v.slot me).map fun s => { s with blocker := none }))
        (.hear a)
  | mine {g : Gate} {p' : AcceptPoint} (a : Attempt) (hg : v.gate c = some g)
      (h : g.interruptedBy = some me) (hp' : p' = heard true a) :
      Stride me c v (.hear a) (v.onGate c fun g => { g with interruptedBy := none }) p'
  | other {g : Gate} {p' : AcceptPoint} (a : Attempt) (hg : v.gate c = some g)
      (h : g.interruptedBy ≠ some me) (hp' : p' = heard false a) : Stride me c v (.hear a) v p'
  | test {g : Gate} (a : Attempt) (hg : v.gate c = some g) :
      Stride me c v (.test a) v
        (.back (if g.isOpen then unanswered a else .error .asynchronousClose))
  | drop (number : FileNumber) : Stride me c v (.drop number) v (.back (.error .closedByInterrupt))
  | keep {r : Except Failure ConnectionId} (number : FileNumber) (remote : Endpoint)
      (h : r ≠ .error .closedByInterrupt) :
        Stride me c v (.keep number remote) v (.back (r.map some))
  | back (answer : AcceptAnswer) :
      Stride me c v (.back answer) v (.ended answer)
  | ended (answer : AcceptAnswer) :
      Stride me c v (.ended answer) v (.ended answer)

/-- The operation never fails so. -/
def Action.Spares {α : Type} (f : Failure) (a : Action α) : Prop :=
  ∀ st, (a.run st).1 ≠ .error f

section Spares

variable {α β : Type} {f : Failure} {a : Action α}

theorem spares_ok (h : ∀ st, ∃ v, (a.run st).1 = .ok v) : Spares f a := by
  intro st hf
  obtain ⟨v, hv⟩ := h st
  rw [hv] at hf
  cases hf

theorem spares_throw {f' : Failure} (h : f' ≠ f) : Spares f (throw f' : Action α) := by
  intro st hf
  cases hf
  exact h rfl

theorem spares_bind {b : α → Action β} (ha : Spares f a) (hb : ∀ v, Spares f (b v)) :
    Spares f (a >>= b) := by
  intro st
  have hst := ha st
  rw [run_bind]
  generalize a.run st = r at hst
  obtain ⟨_ | v, st'⟩ := r
  · exact fun h => hst (by cases h; rfl)
  · exact hb v st'

theorem spares_listener (c : ListenerId) (h : Failure.closed ≠ f) : Spares f (listener c) := by
  refine spares_bind (spares_ok fun st => ⟨st, rfl⟩) fun st => ?_
  split
  · exact spares_ok fun _ => ⟨_, rfl⟩
  · exact spares_throw h

/-- A connection that was taken is not lost to an interrupt any more. -/
theorem spares_keepConnection (c : ListenerId) (number : FileNumber) (remote : Endpoint) :
    Spares .closedByInterrupt (keepConnection c number remote) := by
  refine spares_bind (spares_ok fun _ => ⟨_, rfl⟩) fun mode => ?_
  split
  · exact spares_bind (spares_ok fun _ => ⟨_, rfl⟩) fun _ => spares_throw (by rintro ⟨⟩)
  · refine spares_bind (spares_listener c (by rintro ⟨⟩)) fun l =>
      spares_bind (spares_ok fun _ => ⟨_, rfl⟩) fun i =>
        spares_bind (spares_ok fun _ => ⟨_, rfl⟩)
        fun st => ?_
    split
    · exact spares_bind (spares_ok fun _ => ⟨_, rfl⟩) fun _ =>
        spares_bind (spares_ok fun st => ⟨_, by rw [run_observe]⟩) fun _ =>
          spares_throw (by rintro ⟨⟩)
    · exact spares_ok fun _ => ⟨_, rfl⟩

end Spares

theorem AcceptPoint.work_enterCall {number : FileNumber} {p' : AcceptPoint}
    (h : (enterCall number).run st = (.ok p', st')) :
    st'.front = st.front ∧ (p'.isWorking = true ∨ ∃ a, p' = .leave a) := by
  rw [enterCall, run_network_bind] at h
  split at h
  · cases h
    exact ⟨rfl, .inl rfl⟩
  · cases h
    exact ⟨rfl, .inr ⟨_, rfl⟩⟩
  · cases h
    exact ⟨rfl, .inl rfl⟩

theorem AcceptPoint.stride {me : ThreadId} {signalled : Bool} {p p' : AcceptPoint}
    (hp : ∀ point, p = .own point → point.isProper)
    (h : (p.step me c signalled).run st = (.ok p', st')) : Stride me c st.front p st'.front p' := by
  cases p with
  | turn =>
    cases h
    rw [front_modifyListener_same st c (f := fun l => { l with turn := some me }) fun _ => rfl]
    exact .turn
  | askOpen =>
    obtain ⟨l, hl, rfl, ⟨hopen, rfl⟩ | ⟨hopen, rfl⟩⟩ := of_run_ask h
    · exact .askOpen (gate_front hl) hopen
    · exact .closed (gate_front hl) hopen
  | askBound =>
    obtain ⟨l, hl, rfl, ⟨-, rfl⟩ | ⟨-, rfl⟩⟩ := of_run_ask h
    · exact .askBound
    · exact .unbound
  | register =>
    have hfront : { st with interrupts := (st.interrupts.enter me c).1 }.front =
        st.front.putSlot me (some { (st.front.slot me).getD {} with blocker := some c }) :=
      Front.ext rfl (funext fun u => st.interrupts.slot?_put me u _)
    have hrun : (step me c signalled .register).run st =
        (.ok (if (st.front.slot me).any Slot.interrupted then .tell else .askAgain),
          { st with interrupts := (st.interrupts.enter me c).1 }) := by
      have hflag : (st.interrupts.enter me c).2 = (st.front.slot me).any Slot.interrupted :=
        st.interrupts.interrupted_own me
      rw [← hflag]
      simp only [step, run_bind, run_get, run_set]
      cases (st.interrupts.enter me c).2 <;> rfl
    rw [hrun] at h
    cases h
    rw [hfront]
    exact .register rfl
  | tell =>
    obtain ⟨_, htell, rfl⟩ := of_run_map h
    rw [(frames_tellInterrupt c me).of_run htell]
    exact .tell
  | own point =>
    cases hover : point.isOver with
    | false =>
      rw [step_own hover] at h
      obtain ⟨point', hpoint, rfl⟩ := of_run_map h
      exact .own (ShutPoint.stride (hp point rfl) hpoint)
    | true =>
      obtain ⟨outcome, rfl⟩ := ShutPoint.eq_of_isOver hover
      cases h
      exact .owned outcome
  | askAgain =>
    obtain ⟨l, hl, rfl, ⟨hopen, rfl⟩ | ⟨hopen, rfl⟩⟩ := of_run_ask h
    · exact .askAgain (gate_front hl) hopen
    · exact .shut (gate_front hl) hopen
  | store =>
    cases h
    rw [front_modifyListener st c (g := fun g => { g with acceptor := some me }) fun _ => rfl]
    exact .store
  | take call =>
    obtain ⟨g, hg, rfl, hfront⟩ := front_accessDescriptor h
    exact hfront ▸ .take call hg rfl
  | mode =>
    obtain ⟨l, hl, h⟩ := of_run_listener_bind h
    rw [run_network_bind] at h
    split at h
    · cases h
      exact .work rfl (.inr ⟨_, rfl⟩)
    · cases h
      exact .work rfl (.inl rfl)
    · cases h
      exact .work rfl (.inl rfl)
  | poll =>
    obtain ⟨l, hl, h⟩ := of_run_listener_bind h
    rw [run_network_bind] at h
    split at h
    · cases h
      exact .work rfl (.inr ⟨_, rfl⟩)
    · split at h
      · cases h
        exact .work rfl (.inr ⟨_, rfl⟩)
      · cases h
        exact .work rfl (.inl rfl)
  | request =>
    obtain ⟨l, hl, h⟩ := of_run_listener_bind h
    obtain ⟨hfront, hnext⟩ := work_enterCall h
    rw [hfront]
    exact .work rfl hnext
  | inside =>
    obtain ⟨l, hl, h⟩ := of_run_listener_bind h
    split at h
    · cases h
      exact .work rfl (.inr ⟨_, rfl⟩)
    · obtain ⟨_, st₁, hget, h⟩ := of_run_bind h
      cases hget
      split at h
      · cases h
        exact .work rfl (.inl rfl)
      · obtain ⟨hfront, hnext⟩ := work_enterCall h
        rw [hfront]
        exact .work rfl hnext
  | fault e =>
    obtain ⟨l, hl, h⟩ := of_run_listener_bind h
    cases h
    exact .work rfl (.inr ⟨_, rfl⟩)
  | leave a =>
    obtain ⟨g, hg, rfl, hfront⟩ := front_accessDescriptor h
    exact hfront ▸ .leave a hg rfl
  | give a =>
    obtain ⟨_, network, rfl, rfl⟩ := of_run_act (f := fun _ => tried a) h
    exact .give a rfl
  | again =>
    obtain ⟨l, hl, rfl, ⟨hopen, rfl⟩ | ⟨hopen, rfl⟩⟩ := of_run_ask h
    · exact .again (gate_front hl) hopen
    · exact .ceased (gate_front hl) hopen
  | clear a =>
    cases h
    rw [front_modifyListener st c (g := fun g => { g with acceptor := none }) fun _ => rfl]
    exact .clear a
  | exit a =>
    have hfront : { st with interrupts := st.interrupts.leave me }.front =
        st.front.putSlot me ((st.front.slot me).map fun s => { s with blocker := none }) :=
      Front.ext rfl (funext fun u => st.interrupts.slot?_leave me u)
    cases h
    rw [hfront]
    exact .exit a
  | hear a =>
    obtain ⟨l, hl, h⟩ := of_run_listener_bind h
    split at h
    · next hmine =>
      cases h
      rw [front_modifyListener st c (g := fun g => { g with interruptedBy := none }) fun _ => rfl]
      exact .mine a (gate_front hl) hmine rfl
    · next hother =>
      cases h
      exact .other a (gate_front hl) hother rfl
  | test a =>
    obtain ⟨l, hl, h⟩ := of_run_listener_bind h
    have hnext : p' = .back (if l.gate.isOpen then unanswered a else .error .asynchronousClose) ∧
        st' = st := by
      show p' = .back (if l.core.isOpen then _ else _) ∧ _
      cases hopen : l.core.isOpen with
      | true | false =>
        rw [hopen] at h
        cases h
        exact ⟨rfl, rfl⟩
    obtain ⟨rfl, rfl⟩ := hnext
    exact .test a (gate_front hl)
  | drop number =>
    cases h
    exact .drop number
  | keep number remote =>
    obtain ⟨r, st₁, hkeep, h⟩ := of_run_bind h
    have hr : ((keepConnection c number remote).run st).1 = r := by
      rw [run_observe] at hkeep
      cases hkeep
      rfl
    cases h
    rw [(frames_observe (front_hidesEvents.keepConnection c number remote)).of_run hkeep]
    exact .keep number remote (hr ▸ spares_keepConnection c number remote st)
  | back answer =>
    cases h
    rw [front_modifyListener_same st c (f := fun l => { l with turn := none }) fun _ => rfl]
    exact .back answer
  | ended answer =>
    cases h
    exact .ended answer

/-! ## Phases of an accept -/

/-- How far an accept has come, as far as others are concerned. -/
inductive Phase where
  /-- Before it asked whether the channel is open. -/
  | asking
  | bound
  /-- In its region. -/
  | entered
  /-- Its thread is written down. -/
  | trying
  | clearing
  | leaving
  /-- Out of its region, and about to look whose interrupt closed the channel. -/
  | hearing
  | past
  deriving DecidableEq, Repr

def AcceptPoint.phase : AcceptPoint → Phase
  | turn | askOpen => .asking
  | askBound | register => .bound
  | tell | own _ | askAgain | store => .entered
  | take _ | mode | poll | request | inside | fault _ | leave _ | give _ | again => .trying
  | clear _ => .clearing
  | exit _ => .leaving
  | hear _ => .hearing
  | test _ | drop _ | keep _ _ | back _ | ended _ => .past

/-- The phases that may follow a phase; only an open channel lets an accept pass. -/
inductive Phase.Next (isOpen : Bool) : Phase → Phase → Prop
  | stay (s : Phase) : Next isOpen s s
  | pass (h : isOpen = true) : Next isOpen .asking .bound
  | refuse {s : Phase} (hs : s = .asking ∨ s = .bound) : Next isOpen s .past
  | enter : Next isOpen .bound .entered
  | write : Next isOpen .entered .trying
  | giveUp {s : Phase} (hs : s = .entered ∨ s = .trying) : Next isOpen s .clearing
  | clear : Next isOpen .clearing .leaving
  | leave : Next isOpen .leaving .hearing
  | hear : Next isOpen .hearing .past

section Phases

variable {me : ThreadId} {c : ListenerId} {v v' : Front} {p p' : AcceptPoint}

theorem AcceptPoint.next_tried (isOpen : Bool) (a : Attempt) :
    Phase.Next isOpen .trying (tried a).phase := by
  rcases tried_cases a with ⟨-, h⟩ | ⟨-, h⟩
  · rw [h]
    exact .stay _
  · rw [h]
    exact .giveUp (.inr rfl)

theorem AcceptPoint.phase_of_isWorking (h : p.isWorking = true ∨ ∃ a, p = .leave a) :
    p.phase = .trying := by
  rcases h with h | ⟨a, rfl⟩
  · cases p with
    | mode | poll | request | inside | fault => rfl
    | _ => cases h
  · rfl

theorem AcceptPoint.phase_heard (mine : Bool) (a : Attempt) : (heard mine a).phase = .past := by
  rcases heard_cases mine a with ⟨_, _, -, h⟩ | ⟨-, h⟩ <;> (rw [h]; cases mine <;> rfl)

theorem AcceptPoint.Stride.phases (h : Stride me c v p v' p') :
    Phase.Next (v.isOpen c) p.phase p'.phase := by
  cases h with
  | turn | tell | own | owned | askAgain | again | drop | keep | test | back | ended | askBound =>
    exact .stay _
  | askOpen hg h => exact .pass ((Front.isOpen_of_gate hg).trans h)
  | closed => exact .refuse (.inl rfl)
  | unbound => exact .refuse (.inr rfl)
  | register hp' =>
    subst hp'
    split <;> exact .enter
  | shut => exact .giveUp (.inl rfl)
  | store => exact .write
  | take call hg hp' =>
    subst hp'
    rcases taking_cases (Guard.step _ call).2.1 with ⟨-, h⟩ | ⟨-, h⟩ | ⟨-, h⟩
    · rw [h]
      exact .stay _
    · rw [h]
      exact .giveUp (.inr rfl)
    · rw [h]
      exact .stay _
  | work h h' =>
    rw [phase_of_isWorking (.inl h), phase_of_isWorking h']
    exact .stay _
  | leave a hg hp' =>
    subst hp'
    rcases left_cases a _ with ⟨-, h⟩ | ⟨-, h⟩
    · rw [h]
      exact .stay _
    · rw [h]
      exact next_tried _ a
  | give a hp' =>
    subst hp'
    exact next_tried _ a
  | ceased => exact .giveUp (.inr rfl)
  | clear => exact .clear
  | exit => exact .leave
  | mine a hg h hp' | other a hg h hp' =>
    subst hp'
    rw [phase_heard]
    exact .hear

end Phases

end PolledChannels
