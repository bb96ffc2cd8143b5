import Mathlib.Data.List.Induction
import PolledChannels.Proofs.Selections
import PolledChannels.Session.Schedule

/-!
# Histories of a station

A deed is one thing that can happen to a station whose channels and selectors are all kept: an
operation that is run to completion, a step of a thread that binds or accepts, an interrupt, or
something in the world outside. A history is a list of deeds, and a station is reached by
performing a history on an empty station.

Every deed but a registration is a chain of changes of the registry, and a registration leaves the
registry alone or enrols one key. So the registry of every station that is reached is sound.
-/

namespace PolledChannels

open PolledChannels.Action

/-- One thing that happens to a station. -/
inductive Deed where
  /-- The network becomes something else. -/
  | meet (world : Network)
  /-- The provider gets other settings. -/
  | provide (provider : Provider)
  /-- Time passes. -/
  | pass (moment : Nat)
  | openListener
  /-- A channel is made of an open socket. -/
  | adoptSocket (number : FileNumber)
  | openSelector
  /-- Thread `me` makes a step of a bind or an accept. -/
  | step (me : ThreadId) (signalled : Bool) (point : Point) (hpoint : point.selector? = none)
  | configureBlocking (c : ListenerId) (block : Bool)
  | register (c : ListenerId) (s : SelectorId) (ops : Mask)
  | setInterest (k : KeyId) (ops : Mask)
  | cancel (k : KeyId)
  | close (c : ListenerId)
  | kill (c : ListenerId)
  | translateInterest (k : KeyId) (ops : Mask)
  | translateAndSet (c : ListenerId) (k : KeyId) (events : Mask)
  | translateAndUpdate (c : ListenerId) (k : KeyId) (events : Mask)
  /-- A whole selection, whatever the poll answers. -/
  | select (s : SelectorId) (meanwhile : Network) (answer : PollAnswer)
  | wakeup (s : SelectorId)
  | removeSelected (s : SelectorId) (k : KeyId)
  | clearSelected (s : SelectorId)
  | closeSelector (s : SelectorId)
  /-- Some thread interrupts another. -/
  | interrupt (target : ThreadId)
  /-- A thread interrupts itself. -/
  | interruptSelf (me : ThreadId)
  /-- A thread tests and clears its interrupt flag. -/
  | takeFlag (me : ThreadId)

namespace Deed

def perform (st : Station) : Deed → Station
  | meet world => { st with network := world }
  | provide provider => { st with provider }
  | pass moment => { st with now := moment }
  | openListener => (Action.openListener.run st).2
  | adoptSocket number => ((Action.adoptSocket number).run st).2
  | openSelector => (Action.openSelector.run st).2
  | step me signalled point _ => (point.advance me signalled st).2
  | configureBlocking c block => ((Action.configureBlocking c block).run st).2
  | register c s ops => ((Action.register c s ops).run st).2
  | setInterest k ops => ((Action.setInterest k ops).run st).2
  | cancel k => ((Action.cancelKey k).run st).2
  | close c => ((Action.close c).run st).2
  | kill c => ((Action.kill c).run st).2
  | translateInterest k ops => ((Action.translateInterest k ops).run st).2
  | translateAndSet c k events => ((Action.translateAndSet c k events).run st).2
  | translateAndUpdate c k events => ((Action.translateAndUpdate c k events).run st).2
  | select s meanwhile answer => ((Action.select s meanwhile answer).run st).2
  | wakeup s => ((Action.wakeup s).run st).2
  | removeSelected s k => ((Action.removeSelected s k).run st).2
  | clearSelected s => ((Action.clearSelected s).run st).2
  | closeSelector s => ((Action.closeSelector s).run st).2
  | interrupt target => (Station.interrupt target st).2
  | interruptSelf me => { st with interrupts := (st.interrupts.interruptSelf me).1 }
  | takeFlag me => { st with interrupts := (st.interrupts.takeFlag me).1 }

def registers : Deed → Bool
  | register _ _ _ => true
  | _ => false

def selects : Deed → Bool
  | select _ _ _ => true
  | _ => false

end Deed

/-- The station that a history leads to. -/
def Station.after (history : List Deed) : Station :=
  history.foldl Deed.perform {}

theorem Station.after_concat (history : List Deed) (deed : Deed) :
    Station.after (history ++ [deed]) = deed.perform (Station.after history) := by
  simp [Station.after]

namespace Station

theorem interrupt_eq (target : ThreadId) (st : Station) :
    interrupt target st =
      (match (st.interrupts.interruptOther target).2 with
        | some c => do let _ ← (Action.interruptListener c target).run
        | none => pure () : StateM Station Unit)
        { st with interrupts := (st.interrupts.interruptOther target).1 } :=
  rfl

theorem orderly_interrupt (target : ThreadId) : Orderly (interrupt target) := by
  refine Orderly.getSet (fun _ => rfl) fun st => ?_
  split
  · next c _ => exact .bind (orderly_interruptListener c target) fun _ => .pure ()
  · exact .pure ()

end Station

variable {st : Station} {deed : Deed}

theorem Deed.changes_unselecting (hdeed : deed.registers = false)
    (hselects : deed.selects = false) : st.registry.Changes (deed.perform st).registry := by
  have hcancel (r₀ : Registry) :
      ∀ (r : Registry) (k : KeyId), r₀.Changes r → r₀.Changes (r.cancel k) :=
    fun r k h => h.tail (.cancel k)
  have hready (r₀ : Registry) (k : KeyId) (ops : Mask) :
      Keeps (fun st => r₀.Changes st.registry) (setReady k ops).run :=
    (registry_hidesMasks.setReady k ops).holds _
  cases deed with
  | meet world | provide provider | pass moment | interruptSelf me | takeFlag me => exact .refl
  | openListener => exact orderly_openListener.changes st
  | adoptSocket number => exact (orderly_adoptSocket number).changes st
  | openSelector => exact orderly_openSelector.changes st
  | step me signalled point hpoint => exact (Point.orderly_advance me signalled hpoint).changes st
  | configureBlocking c block => exact (orderly_configureBlocking c block).changes st
  | register c s ops => cases hdeed
  | setInterest k ops => exact (Orderly.of_idle (registry_hidesMasks.setInterest k ops)).changes st
  | cancel k => exact (orderly_cancelKey k).changes st
  | close c => exact (orderly_closeOnBehalf c none).changes st
  | kill c => exact (orderly_kill c).changes st
  | translateInterest k ops =>
    exact (Orderly.of_idle (registry_hidesMasks.putEvents k _)).changes st
  | translateAndSet c k events =>
    exact keeps_translateReady (keeps_reportInvalid (hcancel st.registry))
      (hready st.registry) c k events 0 st .refl
  | translateAndUpdate c k events =>
    exact keeps_translateAndUpdate (keeps_reportInvalid (hcancel st.registry))
      (hready st.registry) c k events st .refl
  | select s meanwhile answer => cases hselects
  | wakeup s => exact (Orderly.of_idle (registry_hidesMasks.wakeup s)).changes st
  | removeSelected s k => exact (orderly_removeSelected s k).changes st
  | clearSelected s => exact (orderly_clearSelected s).changes st
  | closeSelector s => exact (orderly_closeSelector s).changes st
  | interrupt target => exact (Station.orderly_interrupt target).changes st

theorem Deed.changes (hsound : st.registry.Sound {})
    (hdeed : deed.registers = false) : st.registry.Changes (deed.perform st).registry := by
  cases hselects : deed.selects with
  | false => exact changes_unselecting hdeed hselects
  | true =>
    cases deed with
    | select s meanwhile answer => exact changes_select hsound s meanwhile answer
    | _ => cases hselects

theorem Deed.sound (hsound : st.registry.Sound {}) (deed : Deed) :
    (deed.perform st).registry.Sound {} := by
  cases hdeed : deed.registers with
  | false => exact (Deed.changes hsound hdeed).sound hsound
  | true =>
    cases deed with
    | register c s ops =>
      rcases Action.registry_register c s ops st with
        hsame | ⟨d, x, hd, hx, hopen, hblock, hselector, -, -, henrol⟩
      · show Registry.Sound {} ((Action.register c s ops).run st).2.registry
        rwa [hsame]
      · show Registry.Sound {} ((Action.register c s ops).run st).2.registry
        rw [henrol]
        exact hsound.enrol st.registry_key_next hd hx hopen hblock hselector
    | _ => cases hdeed

theorem Station.sound_initial : ({} : Station).registry.Sound {} where
  channel := by simp [registry]
  selector := by simp [registry]
  key := by simp [registry, key?]

theorem Station.sound_after (history : List Deed) : (Station.after history).registry.Sound {} := by
  induction history using List.reverseRecOn with
  | nil => exact sound_initial
  | append_singleton history deed ih =>
    rw [after_concat]
    exact deed.sound ih

end PolledChannels
