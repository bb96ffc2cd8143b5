import PolledChannels.Proofs.KeyTurns

/-!
# Cancelled keys of a selector in use

A cancellation makes its key invalid, queues it with the selector and writes a byte into the wake
pipe, in this order. A selection takes the queue before it polls and once more after it has read
the pipe. Other threads may do anything in between.

Two facts hold at every moment. While the selecting thread is on its way into the poll, a key that
was queued since the queue was taken has its byte in the pipe, unless the byte is still to be
written. And once the cancellation that made a key invalid is back, the key is gone, or in the
hands of the selecting thread, or in the queue at a moment when the thread has yet to take it
before it polls again.

A cancellation that finds its key invalid comes back at once, maybe before the other one has queued
the key. So of such a cancellation the second fact does not hold.
-/

namespace PolledChannels

open PolledChannels.Action Station

/-- The selector has lost the key, and so has its channel if that is still kept. -/
def Station.Deregistered (st : Station) (s : SelectorId) (k : KeyId) : Prop :=
  (∀ x, st.selectors[s]? = some x → k ∉ x.keys) ∧
    ∀ key l, st.key? k = some key → st.listeners[key.channel]? = some l → l.alive = true →
      k ∉ l.core.keys

theorem Station.deregistered_of_gone {st : Station} {s : SelectorId} {k : KeyId}
    (h : st.registry.Gone s k) : st.Deregistered s k := by
  obtain ⟨hheld, hlisted⟩ := h
  refine ⟨fun x hx hk => hheld ⟨x.roster, registry_selector_of hx, hk⟩, ?_⟩
  intro key l hkey hl halive hk
  exact hlisted key.tie (registry_key_of hkey) ⟨l.standing, registry_channel_of hl, halive, hk⟩

namespace Watch

variable {r : Watch} {k : KeyId} {n : Nat} {P : Watch → Prop}

/-! ## Moves -/

theorem play_cases (hstay : P r)
    (hselect : ∀ {st' p'}, SelectPoint.Turn r.selector r.station r.point st' p' →
      P (r.selectTo st' p'))
    (hvisit : ∀ {i v st' p'}, r.visitors[i]? = some v →
      v.point.step.run r.station = (.ok p', st') → P (r.visitTo st' i (v.advance p')))
    (m : Move) : P (r.play m) := by
  cases m with
  | select answer =>
    simp only [play]
    split
    · exact hstay
    · next p' st' hstep => exact hselect (SelectPoint.turn hstep)
  | visit i =>
    simp only [play]
    split
    · exact hstay
    · next v hv =>
      split
      · exact hstay
      · next p' st' hstep => exact hvisit hv hstep

theorem after_induction (hplay : ∀ r m, P r → P (r.play m)) (hr : P r)
    (moves : List Move) : P (r.after moves) :=
  List.foldlRecOn (motive := P) moves _ hr fun r h m _ => hplay r m h

theorem selector_after (r : Watch) (moves : List Move) : (r.after moves).selector = r.selector := by
  refine after_induction (P := fun r' => r'.selector = r.selector) (fun r' m h => ?_) rfl moves
  exact play_cases (P := fun r' => r'.selector = r.selector) h (fun _ => h) (fun _ _ => h) m

section Visitors

variable {visitors : List Visitor} {i : Nat} {v v' : Visitor}

theorem exists_mem_set {P : Visitor → Prop} (hv : visitors[i]? = some v)
    (h : ∃ w ∈ visitors, P w) :
    (∃ w ∈ visitors.set i v', P w) ∨ P v := by
  obtain ⟨w, hw, hP⟩ := h
  by_cases hwv : w = v
  · exact .inr (hwv ▸ hP)
  · exact .inl ⟨w, Guard.Race.mem_set_of_ne hv hw hwv, hP⟩

end Visitors

/-! ## Watches in order -/

/-- The selector is open, and what is noted of the threads fits what they are about to do. -/
structure Orderly (r : Watch) : Prop where
  usable : r.station.registry.Usable r.selector
  sure : r.point.Sure r.station.registry r.selector
  fits : ∀ v ∈ r.visitors, v.Fits r.station.registry
  noted : ∀ v ∈ r.visitors, v.Noted

section Moves

variable {i : Nat} {v : Visitor} {st' : Station} {p' : SelectPoint} {q' : VisitPoint}

theorem Orderly.selectTo (h : r.Orderly)
    (t : SelectPoint.Turn r.selector r.station r.point st' p') : (r.selectTo st' p').Orderly where
  usable := t.dropsKeys.usable h.usable
  sure := t.sure h.sure
  fits := fun v hv => (h.fits v hv).dropsKeys t.dropsKeys
  noted := h.noted

theorem Orderly.visitTo (h : r.Orderly) (hv : r.visitors[i]? = some v)
    (hstep : v.point.step.run r.station = (.ok q', st')) :
    (r.visitTo st' i (v.advance q')).Orderly where
  usable := (VisitPoint.dropsKeys hstep).usable h.usable
  sure := h.sure.dropsKeys (VisitPoint.dropsKeys hstep)
  fits := by
    intro w hw
    rcases List.mem_or_eq_of_mem_set hw with hw | rfl
    · exact (h.fits w hw).dropsKeys (VisitPoint.dropsKeys hstep)
    · exact (h.fits v (List.mem_of_getElem? hv)).advance hstep
  noted := by
    intro w hw
    have hmem := List.mem_of_getElem? hv
    rcases List.mem_or_eq_of_mem_set hw with hw | rfl
    · exact h.noted w hw
    · exact (h.noted v hmem).advance (h.fits v hmem) hstep

/-! ## Bytes in the pipe -/

/-- While the thread is on its way into the poll, a queued key has its byte in the pipe, or some
visitor is about to write it. -/
def Heard (r : Watch) : Prop :=
  r.point.listens = true → ∀ k, r.station.registry.Queues r.selector k →
    r.station.Woken r.selector ∨
      ∃ v ∈ r.visitors, v.key = some k ∧ v.point.cancelling = some (.wake r.selector)

theorem Heard.selectTo (h : r.Heard) (t : SelectPoint.Turn r.selector r.station r.point st' p') :
    (r.selectTo st' p').Heard := by
  intro hlistens k hk
  rcases t.listens hlistens with hnone | ⟨hbefore, hqueue, hwoken⟩
  · exact absurd hk (hnone k)
  · exact (h hbefore k (hqueue k hk)).imp_left hwoken

theorem Heard.visitTo (h : r.Heard) (horderly : r.Orderly) (hv : r.visitors[i]? = some v)
    (hstep : v.point.step.run r.station = (.ok q', st')) :
    (r.visitTo st' i (v.advance q')).Heard := by
  intro hlistens k hk
  rcases VisitPoint.of_queues hstep hk with hold | ⟨hqueue, hwake⟩
  · rcases h hlistens k hold with hwoken | hwaking
    · exact .inl (VisitPoint.woken hstep hwoken)
    · -- The byte is still to come from another visitor, or has just come from this one.
      rcases exists_mem_set hv hwaking with hother | ⟨-, hwake⟩
      · exact .inr hother
      · obtain ⟨b, -, haccess⟩ := VisitPoint.access hstep hwake (by rintro ⟨⟩)
        exact .inl (CancelPoint.woken_of_wake haccess horderly.usable)
  · refine .inr
      ⟨v.advance q', List.mem_of_getElem? (Guard.Race.getElem?_set_of_getElem? hv), ?_, hwake⟩
    rw [Visitor.advance_key hwake (by rintro _ ⟨⟩)]
    exact (horderly.fits v (List.mem_of_getElem? hv) _ hqueue).1

/-! ## Keys that are settled -/

/-- The key was not lost: the selector holds it, or the thread took it, or it is gone. -/
def Kept (r : Watch) (k : KeyId) : Prop :=
  r.station.registry.Holds r.selector k ∨ k ∈ r.point.hand ∨
    r.station.registry.Gone r.selector k

theorem Kept.selectTo (h : r.Kept k) (horderly : r.Orderly)
    (t : SelectPoint.Turn r.selector r.station r.point st' p') : (r.selectTo st' p').Kept k := by
  rcases h with hheld | hhand | hgone
  · rcases t.holds hheld with hheld' | hhand'
    · exact .inl hheld'
    · exact .inr (.inl hhand')
  · exact .inr (t.hand horderly.sure hhand)
  · exact .inr (.inr (hgone.dropsKeys t.dropsKeys))

theorem Kept.visitTo (h : r.Kept k) (hstep : v.point.step.run r.station = (.ok q', st')) :
    (r.visitTo st' i (v.advance q')).Kept k := by
  rcases h with hheld | hhand | hgone
  · exact .inl (VisitPoint.holds hstep hheld)
  · exact .inr (.inl hhand)
  · exact .inr (.inr (hgone.dropsKeys (VisitPoint.dropsKeys hstep)))

/-- The key is gone, or will be before the selection after number `n` polls: the thread took it, or
has yet to take the queue that it is in, or is about to queue it itself. -/
def Settled (r : Watch) (n : Nat) (k : KeyId) : Prop :=
  r.station.registry.Gone r.selector k ∨ k ∈ r.point.hand ∨
    (r.station.registry.Queues r.selector k ∧
      (r.answers.length ≤ n ∨ r.answers.length = n + 1 ∧ r.point.isEarly = true)) ∨
    ((∃ a, r.point.cancelling = some a ∧ a.Carries r.selector k) ∧ r.answers.length ≤ n)

theorem Settled.mono {m : Nat} (h : r.Settled m k) (hmn : m ≤ n) : r.Settled n k := by
  rcases h with hgone | hhand | ⟨hqueued, hcount | ⟨hcount, hearly⟩⟩ | ⟨hown, hcount⟩
  · exact .inl hgone
  · exact .inr (.inl hhand)
  · exact .inr (.inr (.inl ⟨hqueued, .inl (Nat.le_trans hcount hmn)⟩))
  · rcases Nat.lt_or_eq_of_le hmn with hlt | rfl
    · exact .inr (.inr (.inl ⟨hqueued, .inl (hcount ▸ hlt)⟩))
    · exact .inr (.inr (.inl ⟨hqueued, .inr ⟨hcount, hearly⟩⟩))
  · exact .inr (.inr (.inr ⟨hown, Nat.le_trans hcount hmn⟩))

theorem Kept.settled (h : r.Kept k) (hheld : ¬ r.station.registry.Holds r.selector k) :
    r.Settled n k := by
  rcases h with hheld' | hhand | hgone
  · exact absurd hheld' hheld
  · exact .inr (.inl hhand)
  · exact .inl hgone

theorem answers_selectTo (hp : r.point.answer? = none) :
    (r.selectTo st' p').answers = r.answers := by
  simp [Watch.selectTo, hp]

theorem Settled.selectTo (h : r.Settled n k) (horderly : r.Orderly) (hkept : r.Kept k)
    (t : SelectPoint.Turn r.selector r.station r.point st' p') :
      (r.selectTo st' p').Settled n k := by
  have hhand (hk : k ∈ r.point.hand) : (r.selectTo st' p').Settled n k :=
    (t.hand horderly.sure hk).elim (fun hk' => .inr (.inl hk')) .inl
  rcases h with hgone | hk | ⟨hqueued, hcount | ⟨hcount, hearly⟩⟩ |
    ⟨⟨a, ha, hcarries⟩, hcount⟩
  · exact .inl (hgone.dropsKeys t.dropsKeys)
  · exact hhand hk
  · rcases t.queues hqueued with hqueued' | hhand'
    · refine .inr (.inr (.inl ⟨hqueued', ?_⟩))
      cases hp : r.point.answer? with
      | none =>
        rw [answers_selectTo hp]
        exact .inl hcount
      | some answer =>
        -- The selection is over, and the next one begins with the queue.
        have hlength : (r.selectTo st' p').answers.length = r.answers.length + 1 := by
          simp [Watch.selectTo, hp]
        rcases Nat.lt_or_eq_of_le hcount with hlt | heq
        · exact .inl (hlength ▸ hlt)
        · exact .inr ⟨by rw [hlength, heq], t.isEarly_of_answer hp⟩
    · exact .inr (.inl hhand')
  · have hp := SelectPoint.answer?_of_isEarly hearly
    rcases t.queues_early hearly hqueued horderly.usable with ⟨hqueued', hearly'⟩ | hhand'
    · refine .inr (.inr (.inl ⟨hqueued', .inr ⟨?_, hearly'⟩⟩))
      rw [answers_selectTo hp]
      exact hcount
    · exact .inr (.inl hhand')
  · have hp := SelectPoint.answer?_of_cancelling ha
    rcases t.carries ha hcarries horderly.usable with hown | hqueued | hlost
    · refine .inr (.inr (.inr ⟨hown, ?_⟩))
      rw [answers_selectTo hp]
      exact hcount
    · refine .inr (.inr (.inl ⟨hqueued, .inl ?_⟩))
      rw [answers_selectTo hp]
      exact hcount
    · exact (hkept.selectTo horderly t).settled fun hheld => hlost (t.dropsKeys.holds hheld)

theorem Settled.visitTo (h : r.Settled n k) (hstep : v.point.step.run r.station = (.ok q', st')) :
    (r.visitTo st' i (v.advance q')).Settled n k := by
  rcases h with hgone | hhand | ⟨hqueued, hcount⟩ | hown
  · exact .inl (hgone.dropsKeys (VisitPoint.dropsKeys hstep))
  · exact .inr (.inl hhand)
  · exact .inr (.inr (.inl ⟨VisitPoint.queues hstep hqueued, hcount⟩))
  · exact .inr (.inr (.inr hown))

/-! ## Cancellations that came back -/

/-- Some visitor has made the key invalid and has yet to queue it. -/
def Brings (r : Watch) (k : KeyId) : Prop :=
  ∃ v ∈ r.visitors, v.point.cancelling = some (.find r.selector k) ∨
    v.point.cancelling = some (.queue r.selector k)

/-- A key of the selector that visitors cancel. -/
structure Follows (r : Watch) (k : KeyId) : Prop where
  made : r.station.registry.MadeFor r.selector k
  kept : r.Kept k
  /-- An invalid key is settled or being brought. -/
  pending : r.station.registry.Invalid k → r.Brings k ∨ r.Settled r.answers.length k
  /-- Whose byte is about to be written is settled. -/
  waking : ∀ v ∈ r.visitors, v.key = some k → ∀ t, v.point.cancelling = some (.wake t) →
    r.Settled r.answers.length k
  returned : ∀ v ∈ r.visitors, k ∈ v.cancelled → r.Settled r.answers.length k
  spent : ∀ v ∈ r.visitors, k ∈ v.spent → r.station.registry.Invalid k

theorem Follows.selectTo (h : r.Follows k) (horderly : r.Orderly)
    (t : SelectPoint.Turn r.selector r.station r.point st' p') : (r.selectTo st' p').Follows k := by
  have hsettled (hk : r.Settled r.answers.length k) :
      (r.selectTo st' p').Settled (r.selectTo st' p').answers.length k :=
    (hk.selectTo horderly h.kept t).mono (by simp [Watch.selectTo])
  exact
    { made := h.made.dropsKeys t.dropsKeys
      kept := h.kept.selectTo horderly t
      pending := by
        intro hafter
        by_cases hbefore : r.station.registry.Invalid k
        · exact (h.pending hbefore).imp_right hsettled
        · -- The thread itself made the key invalid.
          rcases t.voids hbefore hafter h.made with hhand | hown
          · exact .inr (hsettled (.inr (.inl hhand)))
          · exact .inr (.inr (.inr (.inr ⟨⟨_, hown, .inl rfl⟩, Nat.le_refl _⟩)))
      waking := fun v hv hkey t hwake => hsettled (h.waking v hv hkey t hwake)
      returned := fun v hv hk => hsettled (h.returned v hv hk)
      spent := fun v hv hk => (h.spent v hv hk).dropsKeys t.dropsKeys }

section Visits

variable (h : r.Follows k) (horderly : r.Orderly) (hv : r.visitors[i]? = some v)
  (hstep : v.point.step.run r.station = (.ok q', st'))

include h horderly hstep in
theorem Follows.settled_of_lost
    (haccess : (CancelPoint.find r.selector k).step.run r.station = (.ok .ended, st')) :
    (r.visitTo st' i (v.advance q')).Settled n k := by
  have hheld := CancelPoint.not_holds_of_lost haccess horderly.usable
  exact (h.kept.visitTo hstep).settled fun hheld' =>
    hheld ((VisitPoint.dropsKeys hstep).holds hheld')

include h horderly hv hstep in
theorem Follows.brings_visitTo {a : CancelPoint} (ha : v.point.cancelling = some a)
    (hcarries : a.Carries r.selector k) :
    (r.visitTo st' i (v.advance q')).Brings k ∨
      (r.visitTo st' i (v.advance q')).Settled r.answers.length k := by
  have hbusy : a ≠ .ended := by
    rintro rfl
    rcases hcarries with hfind | hqueue
    · cases hfind
    · cases hqueue
  obtain ⟨b, hb, haccess⟩ := VisitPoint.access hstep ha hbusy
  rcases (CancelPoint.turn haccess).carries hcarries horderly.usable with
    hcarries' | hqueued | ⟨rfl, rfl⟩
  · refine .inl
      ⟨v.advance q', List.mem_of_getElem? (Guard.Race.getElem?_set_of_getElem? hv), ?_⟩
    rcases hcarries' with rfl | rfl
    · exact .inl hb
    · exact .inr hb
  · exact .inr (.inr (.inr (.inl ⟨hqueued, .inl (Nat.le_refl _)⟩)))
  · exact .inr (h.settled_of_lost horderly hstep haccess)

include h horderly hv hstep in
theorem Follows.pending_visitTo
    (hafter : (r.visitTo st' i (v.advance q')).station.registry.Invalid k) :
    (r.visitTo st' i (v.advance q')).Brings k ∨
      (r.visitTo st' i (v.advance q')).Settled r.answers.length k := by
  by_cases hbefore : r.station.registry.Invalid k
  · rcases h.pending hbefore with hbrings | hsettled
    · rcases exists_mem_set hv hbrings with hother | hfind | hqueue
      · exact .inl hother
      · exact h.brings_visitTo horderly hv hstep hfind (.inl rfl)
      · exact h.brings_visitTo horderly hv hstep hqueue (.inr rfl)
    · exact .inr (hsettled.visitTo hstep)
  · exact .inl ⟨v.advance q', List.mem_of_getElem? (Guard.Race.getElem?_set_of_getElem? hv),
      .inl (VisitPoint.voids hstep hbefore hafter h.made)⟩

include h horderly hv hstep in
theorem Follows.waking_visitTo (hkey : (v.advance q').key = some k) {t : SelectorId}
    (hwake : q'.cancelling = some (.wake t)) :
    (r.visitTo st' i (v.advance q')).Settled r.answers.length k := by
  rcases VisitPoint.step_cases hstep with ⟨a, b, ha, -, hb, haccess⟩ | ⟨hrest, hnext, -⟩
  · cases hwake.symm.trans hb
    have turn := CancelPoint.turn haccess
    obtain ⟨f, rfl⟩ := turn.of_wake
    obtain ⟨hnoted, hmade⟩ := horderly.fits v (List.mem_of_getElem? hv) _ ha
    rw [Visitor.advance_key hwake (by rintro _ ⟨⟩), hnoted] at hkey
    cases hkey
    obtain rfl := h.made.unique hmade
    exact .inr (.inr (.inl ⟨turn.queues_queue horderly.usable, .inl (Nat.le_refl _)⟩))
  · rcases hnext with rfl | hnext
    · cases hrest _ hwake
    · obtain ⟨f, hswap⟩ := hnext _ hwake
      cases hswap

include h horderly hv hstep in
theorem Follows.returned_visitTo (hk : k ∈ (v.advance q').cancelled) :
    (r.visitTo st' i (v.advance q')).Settled r.answers.length k := by
  have hmem := List.mem_of_getElem? hv
  rcases Visitor.of_mem_cancelled hstep hk with
    hold | ⟨hkey, ⟨s, f, hfind, haccess⟩ | ⟨s, hwake⟩⟩
  · exact (h.returned v hmem hold).visitTo hstep
  · obtain ⟨hnoted, hmade⟩ := horderly.fits v hmem _ hfind
    cases hkey.symm.trans hnoted
    obtain rfl := h.made.unique hmade
    exact h.settled_of_lost horderly hstep haccess
  · exact (h.waking v hmem hkey s hwake).visitTo hstep

include h horderly hv hstep in
theorem Follows.visitTo : (r.visitTo st' i (v.advance q')).Follows k where
  made := h.made.dropsKeys (VisitPoint.dropsKeys hstep)
  kept := h.kept.visitTo hstep
  pending := h.pending_visitTo horderly hv hstep
  waking := by
    intro w hw hkey t hwake
    rcases List.mem_or_eq_of_mem_set hw with hw | rfl
    · exact (h.waking w hw hkey t hwake).visitTo hstep
    · exact h.waking_visitTo horderly hv hstep hkey hwake
  returned := by
    intro w hw hk
    rcases List.mem_or_eq_of_mem_set hw with hw | rfl
    · exact (h.returned w hw hk).visitTo hstep
    · exact h.returned_visitTo horderly hv hstep hk
  spent := by
    intro w hw hk
    rcases List.mem_or_eq_of_mem_set hw with hw | rfl
    · exact (h.spent w hw hk).dropsKeys (VisitPoint.dropsKeys hstep)
    · have hmem := List.mem_of_getElem? hv
      rcases Visitor.of_mem_spent hstep hk with hold | ⟨hkey, f, hswap, hinvalid⟩
      · exact (h.spent v hmem hold).dropsKeys (VisitPoint.dropsKeys hstep)
      · cases hkey.symm.trans (horderly.fits v hmem _ hswap)
        exact hinvalid.dropsKeys (VisitPoint.dropsKeys hstep)

end Visits
end Moves

/-! ## Runs -/

theorem Orderly.play (h : r.Orderly) (m : Move) : (r.play m).Orderly :=
  play_cases h h.selectTo h.visitTo m

theorem Heard.play (h : r.Heard) (horderly : r.Orderly) (m : Move) : (r.play m).Heard :=
  play_cases h h.selectTo (h.visitTo horderly) m

theorem Follows.play (h : r.Follows k) (horderly : r.Orderly) (m : Move) : (r.play m).Follows k :=
  play_cases (P := fun r => r.Follows k) h (h.selectTo horderly) (h.visitTo horderly) m

theorem Settled.play (h : r.Settled n k) (horderly : r.Orderly) (hkept : r.Kept k) (m : Move) :
    (r.play m).Settled n k :=
  play_cases (P := fun r => r.Settled n k) h (h.selectTo horderly hkept) (fun _ => h.visitTo) m

theorem Orderly.after (h : r.Orderly) (moves : List Move) : (r.after moves).Orderly :=
  after_induction (fun _ m h => h.play m) h moves

theorem Heard.after (h : r.Heard) (horderly : r.Orderly) (moves : List Move) :
    (r.after moves).Heard :=
  (after_induction (P := fun r => r.Orderly ∧ r.Heard)
    (fun _ m h => ⟨h.1.play m, h.2.play h.1 m⟩) ⟨horderly, h⟩ moves).2

theorem Follows.after (h : r.Follows k) (horderly : r.Orderly) (moves : List Move) :
    (r.after moves).Follows k :=
  (after_induction (P := fun r => r.Orderly ∧ r.Follows k)
    (fun _ m h => ⟨h.1.play m, h.2.play h.1 m⟩) ⟨horderly, h⟩ moves).2

theorem Settled.after (h : r.Settled n k) (hfollows : r.Follows k) (horderly : r.Orderly)
    (moves : List Move) : (r.after moves).Settled n k :=
  (after_induction (P := fun r => (r.Orderly ∧ r.Follows k) ∧ r.Settled n k)
    (fun _ m h => ⟨⟨h.1.1.play m, h.1.2.play h.1.1 m⟩, h.2.play h.1.1 h.1.2.kept m⟩)
    ⟨⟨horderly, hfollows⟩, h⟩ moves).2

/-! ## The beginning -/

section Start

variable {history : List Deed} {s : SelectorId} {x : Selector} (requests : List Request)

variable {requests} in
theorem fresh_visitor {v : Visitor} (hv : v ∈ requests.map Request.visitor) :
    (∀ a, v.point.cancelling = some a → ∃ k, a = .swap k ∧ v.key = some k) ∧
      v.cancelled = [] ∧ v.spent = [] := by
  obtain ⟨request, -, rfl⟩ := List.mem_map.mp hv
  cases request with
  | cancel k => exact ⟨by rintro _ ⟨⟩; exact ⟨k, rfl, rfl⟩, rfl, rfl⟩
  | close c | wakeup s => exact ⟨by rintro _ ⟨⟩, rfl, rfl⟩

theorem orderly_start (hx : (Station.after history).selectors[s]? = some x)
    (hopen : x.isOpen = true) :
    (start (Station.after history) s requests).Orderly where
  usable := by
    have hroster := registry_selector_of hx
    exact ⟨x.roster, hroster, hopen, ((sound_after history).selector s _ hroster).kept⟩
  sure := trivial
  fits := by
    intro v hv a ha
    obtain ⟨k, rfl, hkey⟩ := (fresh_visitor hv).1 a ha
    exact hkey
  noted := by
    intro v hv hended
    obtain ⟨k, hswap, -⟩ := (fresh_visitor hv).1 _ hended
    cases hswap

theorem heard_start : (start (Station.after history) s requests).Heard := by
  rintro ⟨⟩

theorem follows_start {key : Key} (hkey : (Station.after history).key? k = some key)
    (hs : key.selector = s) : (start (Station.after history) s requests).Follows k := by
  have htie : (Station.after history).registry.key k = some key.tie := Station.registry_key_of hkey
  obtain ⟨d, y, hd, hy, hsound⟩ := (Station.sound_after history).key k _ htie
  obtain rfl : key.tie.selector = s := hs
  have hgone (hheld : k ∉ y.held) :
      (Station.after history).registry.Gone key.tie.selector k := by
    refine ⟨?_, fun t ht => ?_⟩
    · rintro ⟨y', hy', hk⟩
      rw [hy] at hy'
      cases hy'
      exact hheld hk
    · rw [htie] at ht
      cases ht
      rintro ⟨d', hd', -, hk⟩
      rw [hd] at hd'
      cases hd'
      exact hheld (by simpa using hsound.listed hk)
  refine
    { made := ⟨key.tie, htie, rfl⟩
      kept := ?_
      pending := fun hinvalid => .inr ?_
      waking := fun v hv _ t hwake => ?_
      returned := fun v hv hk => ?_
      spent := fun v hv hk => ?_ }
  · by_cases hheld : k ∈ y.held
    · exact .inl ⟨y, hy, hheld⟩
    · exact .inr (.inr (hgone hheld))
  · by_cases hheld : k ∈ y.held
    · have hqueued : k ∈ y.queued := by simpa using hsound.dead (hinvalid _ htie) hheld
      exact .inr (.inr (.inl ⟨⟨y, hy, hqueued⟩, .inl (Nat.le_refl _)⟩))
    · exact .inl (hgone hheld)
  · obtain ⟨f, hf, -⟩ := (fresh_visitor hv).1 _ hwake
    cases hf
  · rw [(fresh_visitor hv).2.1] at hk
    cases hk
  · rw [(fresh_visitor hv).2.2] at hk
    cases hk

end Start

/-! ## Main result -/

/-- Whatever happens, the key is deregistered whenever a later selection than this
one polls or is over. -/
def Clears (r : Watch) (k : KeyId) : Prop :=
  ∀ later : List Move, r.answers.length < (r.after later).answers.length →
    ((∃ polled, (r.after later).point = .poll polled) ∨
      ∃ answer, (r.after later).point = .ended answer) →
    (r.after later).station.Deregistered r.selector k

theorem clears_of_settled (h : r.Settled r.answers.length k) (hfollows : r.Follows k)
    (horderly : r.Orderly) : r.Clears k := by
  intro later hlater hpoint
  have hhand : (r.after later).point.hand = [] := by
    rcases hpoint with ⟨polled, hpoint⟩ | ⟨answer, hpoint⟩ <;> rw [hpoint] <;> rfl
  have hlate : (r.after later).point.isEarly = false := by
    rcases hpoint with ⟨polled, hpoint⟩ | ⟨answer, hpoint⟩ <;> rw [hpoint] <;> rfl
  rw [← selector_after r later]
  apply deregistered_of_gone
  rcases h.after hfollows horderly later with
    hgone | hk | ⟨-, hcount | ⟨-, hearly⟩⟩ | ⟨-, hcount⟩
  · exact hgone
  · rw [hhand] at hk
    cases hk
  · exact absurd hlater (Nat.not_lt_of_le hcount)
  · rw [hlate] at hearly
    cases hearly
  · exact absurd hlater (Nat.not_lt_of_le hcount)

/-- A thread selects on an open selector over and over, while others cancel keys, close channels and
wake the selector, in any order of accesses.

When the thread is in the poll and the wake pipe is empty, each key in the queue is one whose
cancellation has yet to write its byte. A cancellation that came back is noted with its key, as one
that made the key invalid or as one that found it so. In the first case the key is deregistered
when a later selection polls or is over. In the second it is so too, unless the visitor who made
the key invalid has yet to queue it. -/
theorem no_cancellation_is_lost {history : List Deed} {s : SelectorId} {x : Selector}
    (hx : (Station.after history).selectors[s]? = some x) (hopen : x.isOpen = true)
    {requests : List Request} {moves : List Move} {r : Watch}
    (hr : r = (start (Station.after history) s requests).after moves) :
    (∀ polled y, r.point = .poll polled → r.station.selectors[s]? = some y →
      y.wake.size = 0 →
      ∀ k ∈ y.cancelled, ∃ v ∈ r.visitors, v.key = some k ∧
        v.point.cancelling = some (.wake s)) ∧
    ∀ v ∈ r.visitors,
      (v.point.cancelling = some .ended → ∃ k, v.key = some k ∧
        (k ∈ v.cancelled ∨ k ∈ v.spent)) ∧
      ∀ k key, (Station.after history).key? k = some key → key.selector = s →
        (k ∈ v.cancelled → r.Clears k) ∧ (k ∈ v.spent → r.Brings k ∨ r.Clears k) := by
  have hstart := orderly_start requests hx hopen
  have horderly : r.Orderly := hr ▸ hstart.after moves
  have hselector : r.selector = s := hr ▸ selector_after _ moves
  refine ⟨?_, fun v hv => ⟨horderly.noted v hv, ?_⟩⟩
  · intro polled y hpoint hy hempty k hk
    have hheard : r.Heard := hr ▸ (heard_start requests).after hstart moves
    have hlistens : r.point.listens = true := by rw [hpoint]; rfl
    subst hselector
    rcases hheard hlistens k ⟨y.roster, registry_selector_of hy, hk⟩ with
      ⟨z, hz, hsize⟩ | hwaking
    · rw [hy] at hz
      cases hz
      exact absurd hempty (Nat.ne_of_gt hsize)
    · exact hwaking
  · intro k key hkey hs
    have hfollows : r.Follows k := hr ▸ (follows_start requests hkey hs).after hstart moves
    refine ⟨fun hk => ?_, fun hk => ?_⟩
    · exact clears_of_settled (hfollows.returned v hv hk) hfollows horderly
    · exact (hfollows.pending (hfollows.spent v hv hk)).imp_right fun hsettled =>
        clears_of_settled hsettled hfollows horderly

/-- A channel that is registered with a selector. -/
def registered : Station :=
  Station.after [.openListener, .openSelector, .configureBlocking 0 false,
    .register 0 0 Operation.accept]

/-- The selecting thread does its next accesses, and its poll tells of a wakeup. -/
def selecting (count : Nat) : List Move :=
  List.replicate count (.select (.reported (fun _ => 0) true))

/-- The thread is in its poll when a visitor makes the key invalid and queues it. -/
def queuedInPoll : List Move := selecting 3 ++ List.replicate 3 (.visit 0)

theorem cancelled_during_poll :
    (∃ v ∈ ((start registered 0 [.cancel 1]).after queuedInPoll).visitors,
      v.key = some 1 ∧ v.point.cancelling = some (.wake 0)) ∧
    ((start registered 0 [.cancel 1]).after (queuedInPoll ++ [.visit 0])).Clears 1 ∧
    (((start registered 0 [.cancel 1]).after (queuedInPoll ++ [.visit 0])).after
      (selecting 19)).station.Deregistered 0 1 := by
  have hx : registered.selectors[0]? = some { registered := [(1, 1)] } := by decide
  have hclears : ((start registered 0 [.cancel 1]).after (queuedInPoll ++ [.visit 0])).Clears 1 :=
    (((no_cancellation_is_lost hx rfl rfl).2 _ List.mem_cons_self).2 1 _ rfl rfl).1 (by decide)
  refine ⟨?_, hclears, hclears (selecting 19) (by decide) (.inl ⟨_, rfl⟩)⟩
  exact (no_cancellation_is_lost hx rfl rfl).1 _ _ rfl rfl rfl 1 List.mem_cons_self

/-- Two visitors cancel one key. The second finds it invalid and is back before the first has
queued it, and the next selection polls with the key in place. -/
theorem cancellation_may_come_back_early :
    ¬ ∀ (history : List Deed) (s : SelectorId) (x : Selector) (requests : List Request)
      (moves : List Move) (v : Visitor) (k : KeyId) (key : Key),
      (Station.after history).selectors[s]? = some x → x.isOpen = true →
        v ∈ ((start (Station.after history) s requests).after moves).visitors →
        v.point.cancelling = some .ended → v.key = some k →
        (Station.after history).key? k = some key → key.selector = s →
          ((start (Station.after history) s requests).after moves).Clears k := by
  intro h
  have hclears :
      ((start registered 0 [.cancel 1, .cancel 1]).after [.visit 0, .visit 1]).Clears 1 :=
    h _ 0 { registered := [(1, 1)] } _ _ _ 1 _ (by decide) rfl
      (List.mem_cons_of_mem _ List.mem_cons_self) rfl rfl rfl rfl
  have hgone := (hclears (selecting 13) (by decide) (.inl ⟨_, rfl⟩)).1
  exact hgone _ rfl List.mem_cons_self

end Watch
end PolledChannels
