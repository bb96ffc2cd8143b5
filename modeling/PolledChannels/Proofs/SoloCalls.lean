import Mathlib.Logic.Relation
import PolledChannels.Proofs.CallSteps
import PolledChannels.Proofs.Effects

/-!
# Calls that run alone

A call that nobody gets in the way of does one access after the other. Beside that there is here
what single accesses come to, those of a descriptor and those that tell of an event, and what taking
a use of a descriptor and ending it come to at once.
-/

namespace PolledChannels

open PolledChannels.Action

/-- The bit of the channel's descriptor is set. -/
def Listener.marked (l : Listener) : Listener :=
  { l with descriptor := { l.descriptor with word := l.descriptor.word ||| Guard.closedBit } }

/-- A call comes from one point to another by its own accesses. -/
def Solo {P : Type} (step : P → Action P) (st : Station) (p : P) (st' : Station) (p' : P) :
    Prop :=
  Relation.ReflTransGen (fun x y : Station × P => (step x.2).run x.1 = (.ok y.2, y.1)) (st, p)
    (st', p')

namespace Solo

variable {P : Type} {step : P → Action P} {st st₁ st' : Station} {p p₁ p' : P}

theorem refl : Solo step st p st p :=
  Relation.ReflTransGen.refl

theorem head (h : (step p).run st = (.ok p₁, st₁)) (hrest : Solo step st₁ p₁ st' p') :
    Solo step st p st' p' :=
  Relation.ReflTransGen.head h hrest

theorem one (h : (step p).run st = (.ok p', st')) : Solo step st p st' p' :=
  head h refl

theorem trans (h : Solo step st p st₁ p₁) (hrest : Solo step st₁ p₁ st' p') :
    Solo step st p st' p' :=
  Relation.ReflTransGen.trans h hrest

end Solo

section Descriptors

variable {st : Station} {c : ListenerId} {l : Listener}

theorem run_accessDescriptor_mark (hl : st.listeners[c]? = some l) :
    (accessDescriptor c .mark).run st =
      (.ok (Guard.afterMark l.descriptor.word, .ok ()), st.modifyListener c Listener.marked) := by
  have hmarked : st.modifyListener c Listener.marked = st.modifyListener c fun l' =>
      { l' with descriptor :=
        { l'.descriptor with word := l.descriptor.word ||| Guard.closedBit } } :=
    Station.modifyListener_congr hl rfl
  rw [accessDescriptor, run_listener_bind hl, hmarked]
  rfl

theorem run_accessDescriptor_act (hl : st.listeners[c]? = some l) (effect : GuardEffect) :
    ∃ released network,
      (applyEffect l.descriptor.number (some effect)).run st =
        (.ok released, { st with network }) ∧
      (accessDescriptor c (.act effect)).run st = (.ok (.done, released), { st with network }) := by
  obtain ⟨released, network, hrun⟩ := run_applyEffect l.descriptor.number (some effect) st
  refine ⟨released, network, hrun, ?_⟩
  have hsame : (st.modifyListener c fun l' =>
      { l' with descriptor := { l'.descriptor with word := l.descriptor.word } }) = st :=
    Station.modifyListener_self hl rfl
  rw [accessDescriptor, run_listener_bind hl]
  simp only [Guard.step, run_bind, run_modify, hsame, hrun, run_pure]

/-- The word that guards the descriptor of a channel is put. -/
def Station.putWord (st : Station) (c : ListenerId) (word : UInt64) : Station :=
  st.modifyListener c fun l => { l with descriptor := { l.descriptor with word } }

theorem of_run_access {α : Type} {call : Guard.Call} {f : Guard.Call → α} {v : α}
    {st' : Station} (hl : st.listeners[c]? = some l)
    (h : (do return f (← accessDescriptor c call).1 : Action α).run st = (.ok v, st')) :
    v = f (Guard.step l.descriptor.word call).2.1 ∧
      ∃ network, st' = { st.putWord c (Guard.step l.descriptor.word call).1 with network } := by
  obtain ⟨released, network, hrun⟩ := run_applyEffect l.descriptor.number
    (Guard.step l.descriptor.word call).2.2 (st.putWord c (Guard.step l.descriptor.word call).1)
  obtain ⟨r, haccess, rfl⟩ := of_run_map h
  cases ((run_listener_bind hl _).trans (run_bind_ok hrun)).symm.trans haccess
  exact ⟨rfl, network, rfl⟩

end Descriptors

/-! ## Events -/

/-- An event of a channel is told. -/
def Station.tell (st : Station) (c : ListenerId) (event : Event) : Station :=
  if st.provider.logging then { st with reports := st.reports ++ [⟨event, st.sighting c⟩] }
    else st

theorem run_emit (c : ListenerId) (event : Event) (st : Station) :
    (emit (some c) event).run st = (.ok (), st.tell c event) :=
  rfl

theorem Station.listeners_tell (st : Station) (c : ListenerId) (event : Event) :
    (st.tell c event).listeners = st.listeners := by
  unfold tell
  split <;> rfl

/-! ## Changes of a channel and of a selector -/

namespace Station

variable {st : Station} {s : SelectorId} {x : Selector}

theorem modifyListener_modifyListener (st : Station) (c : ListenerId)
    (f g : Listener → Listener) :
    (st.modifyListener c f).modifyListener c g = st.modifyListener c (g ∘ f) := by
  simp [modifyListener, List.modify_modify_eq]

theorem selector_modifySelector (hx : st.selectors[s]? = some x) (f : Selector → Selector) :
    (st.modifySelector s f).selectors[s]? = some (f x) := by
  simp [modifySelector, hx]

theorem modifySelector_modifySelector (st : Station) (s : SelectorId)
    (f g : Selector → Selector) :
    (st.modifySelector s f).modifySelector s g = st.modifySelector s (g ∘ f) := by
  simp [modifySelector, List.modify_modify_eq]

theorem modifySelector_self (hx : st.selectors[s]? = some x) {f : Selector → Selector}
    (hf : f x = x) : st.modifySelector s f = st := by
  rw [modifySelector, modify_congr hx (g := id) hf, List.modify_id]

end Station

/-! ## Uses of the descriptor -/

section Uses

variable {st : Station} {c : ListenerId} {l : Listener}

theorem Station.listener_putWord (hl : st.listeners[c]? = some l) (word : UInt64) :
    (st.putWord c word).listeners[c]? =
      some { l with descriptor := { l.descriptor with word } } :=
  listener_modifyListener hl _

theorem run_accessDescriptor (hl : st.listeners[c]? = some l) {call : Guard.Call}
    (hquiet : (Guard.step l.descriptor.word call).2.2 = none) :
    (accessDescriptor c call).run st =
      (.ok ((Guard.step l.descriptor.word call).2.1, .ok ()),
        st.putWord c (Guard.step l.descriptor.word call).1) := by
  rw [accessDescriptor, run_listener_bind hl]
  simp only [run_bind, run_modify, hquiet]
  rfl

/-- The end of a use takes it off the word, and does to the number what it then owes. -/
theorem run_release (hl : st.listeners[c]? = some l) :
    (release c).run st =
      if l.descriptor.word = Guard.closedBit + Guard.oneUse then
        (do let _ ← applyEffect l.descriptor.number (some .release) : Action Unit).run
          (st.putWord c (l.descriptor.word - Guard.oneUse))
      else (.ok (), st.putWord c (l.descriptor.word - Guard.oneUse)) := by
  have hsame : st.putWord c (l.descriptor.word - Guard.oneUse) = st.modifyListener c fun l' =>
      { l' with descriptor := { l.descriptor with word := l.descriptor.word - Guard.oneUse } } :=
    Station.modifyListener_congr hl rfl
  rw [release, run_listener_bind hl, hsame]
  simp only [Descriptor.release, Descriptor.alone, Guard.step]
  by_cases hlast : l.descriptor.word = Guard.closedBit + Guard.oneUse
  · rw [if_pos hlast, Guard.afterLeave, if_pos hlast]
    rfl
  · rw [if_neg hlast, Guard.afterLeave, if_neg hlast]
    rfl

/-- A use is taken in two accesses, unless the descriptor was closed. -/
theorem run_acquire (hl : st.listeners[c]? = some l) :
    (acquire c).run st =
      if Guard.isClosed l.descriptor.word then (.error (.io .socketClosed), st)
      else (.ok l.descriptor.number, st.putWord c (l.descriptor.word + Guard.oneUse)) := by
  have hsame : st.putWord c (l.descriptor.word + Guard.oneUse) = st.modifyListener c fun l' =>
      { l' with descriptor := { l.descriptor with word := l.descriptor.word + Guard.oneUse } } :=
    Station.modifyListener_congr hl rfl
  have htaken : l.descriptor.acquire? =
      if Guard.isClosed l.descriptor.word then none
      else some { l.descriptor with word := l.descriptor.word + Guard.oneUse } := by
    cases hclosed : Guard.isClosed l.descriptor.word <;>
      simp [Descriptor.acquire?, Descriptor.alone, Guard.step, Guard.weigh, hclosed]
  rw [acquire, run_listener_bind hl, hsame, htaken]
  cases Guard.isClosed l.descriptor.word <;> rfl

end Uses

theorem run_network_bind {α β : Type} (a : Net α) (f : Except IoError α → Action β)
    (st : Station) :
    (network a >>= f).run st =
      (f (a.run st.network).1).run { st with network := (a.run st.network).2 } :=
  run_bind_ok rfl

end PolledChannels
