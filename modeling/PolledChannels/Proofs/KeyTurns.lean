import PolledChannels.Proofs.WatchTurns

/-!
# What a move of a watch does to a key

A key of a selector in use is held by the selector, or in the hands of the selecting thread, or
gone: neither held by the selector nor listed by its channel. This module follows one key through
the accesses of a cancellation, of a visitor and of the selecting thread: when it becomes invalid,
how it gets into the queue, and how it leaves the queue and the hands of the thread.
-/

namespace PolledChannels

open PolledChannels.Action Station

variable {list : Roster → List KeyId} {g g' : Registry} {a : CancelPoint} {k : KeyId}

/-! ## Keys of a registry -/

namespace Registry

variable {g g' : Registry} {s : SelectorId} {k : KeyId}

/-- Neither the selector holds the key, nor does its channel list it. -/
def Gone (g : Registry) (s : SelectorId) (k : KeyId) : Prop :=
  ¬ g.Holds s k ∧ ∀ t, g.key k = some t → ¬ g.Lists t.channel k

def Invalid (g : Registry) (k : KeyId) : Prop := ∀ t, g.key k = some t → t.valid = false

/-- The key was made for the selector. -/
def MadeFor (g : Registry) (s : SelectorId) (k : KeyId) : Prop :=
  ∃ t, g.key k = some t ∧ t.selector = s

theorem DropsKeys.key_of (hw : g.DropsKeys g') {t' : Tie} (ht' : g'.key k = some t') :
    ∃ t, g.key k = some t ∧ (t' = t ∨ t' = t.void) := by
  rcases hw.key k with hsame | hvoid
  · exact ⟨t', hsame ▸ ht', .inl rfl⟩
  · rw [hvoid] at ht'
    obtain ⟨t, ht, rfl⟩ := Option.map_eq_some_iff.mp ht'
    exact ⟨t, ht, .inr rfl⟩

theorem Gone.dropsKeys (h : g.Gone s k) (hw : g.DropsKeys g') : g'.Gone s k := by
  refine ⟨fun hheld => h.1 (hw.holds hheld), fun t' ht' hlisted => ?_⟩
  obtain ⟨t, ht, rfl | rfl⟩ := hw.key_of ht'
  · exact h.2 t' ht (hw.lists hlisted)
  · exact h.2 t ht (hw.lists hlisted)

theorem Invalid.dropsKeys (h : g.Invalid k) (hw : g.DropsKeys g') : g'.Invalid k := by
  intro t' ht'
  obtain ⟨t, ht, rfl | rfl⟩ := hw.key_of ht'
  · exact h t' ht
  · rfl

theorem MadeFor.dropsKeys (h : g.MadeFor s k) (hw : g.DropsKeys g') : g'.MadeFor s k := by
  obtain ⟨t, ht, hs⟩ := h
  rcases hw.key k with hsame | hvoid
  · exact ⟨t, hsame.trans ht, hs⟩
  · exact ⟨t.void, by rw [hvoid, ht]; rfl, hs⟩

theorem MadeFor.unique {t : SelectorId} (h : g.MadeFor s k) (h' : g.MadeFor t k) : t = s := by
  obtain ⟨u, hu, rfl⟩ := h
  obtain ⟨u', hu', rfl⟩ := h'
  rw [hu] at hu'
  cases hu'
  rfl

theorem Invalid.of_onKey {f : KeyId} (h : (g.onKey f Tie.void).Invalid k) (hne : k ≠ f) :
    g.Invalid k :=
  fun t ht => h t (by simp [onKey, hne, ht])

theorem Has.onSelector (h : g.Has list s k) (t : SelectorId) {f : Roster → Roster}
    (hf : ∀ x, k ∈ list x → k ∈ list (f x)) : (g.onSelector t f).Has list s k := by
  obtain ⟨x, hx, hk⟩ := h
  by_cases hs : s = t
  · subst hs
    exact ⟨f x, by simp [onSelector_selector, hx], hf x hk⟩
  · exact ⟨x, by simp [onSelector_selector, hs, hx], hk⟩

theorem Has.of_selector (h : g.Has list s k) (hsame : g'.selector = g.selector) :
    g'.Has list s k := by
  obtain ⟨x, hx, hk⟩ := h
  exact ⟨x, hsame ▸ hx, hk⟩

end Registry

namespace Station

variable {st : Station} {s : SelectorId} {k : KeyId} {f : Selector → Selector}

theorem has_modifySelector (h : st.registry.Has list s k)
    (hf : ∀ x : Selector, k ∈ list x.roster → k ∈ list (f x).roster) :
    (st.modifySelector s f).registry.Has list s k := by
  obtain ⟨x, hx, hk⟩ := h
  obtain ⟨y, hy, rfl⟩ := selector_of_registry hx
  exact ⟨_, registry_selector_of (selector_modifySelector hy f), hf y hk⟩

theorem of_selector_modifySelector {y : Selector}
    (h : (st.modifySelector s f).selectors[s]? = some y) :
    ∃ x, st.selectors[s]? = some x ∧ f x = y := by
  simpa [modifySelector] using h

theorem of_queues_modifySelector (h : (st.modifySelector s f).registry.Queues s k) :
    ∃ x, st.selectors[s]? = some x ∧ k ∈ (f x).cancelled := by
  obtain ⟨x, hx, hk⟩ := h
  obtain ⟨y, hy, rfl⟩ := selector_of_registry hx
  obtain ⟨z, hz, rfl⟩ := of_selector_modifySelector hy
  exact ⟨z, hz, hk⟩

end Station

/-! ## Cancellations -/

namespace CancelPoint

variable {s : SelectorId} {k : KeyId} {p p' : CancelPoint} {v v' : Scene} {noted : Option KeyId}

/-- The cancellation has made the key invalid and has yet to queue it. -/
def Carries (s : SelectorId) (k : KeyId) (p : CancelPoint) :
    Prop := p = .find s k ∨ p = .queue s k

/-- The cancellation is one of the key that was noted, and of the selector that this was made
for. -/
def Fits (g : Registry) (noted : Option KeyId) : CancelPoint → Prop
  | swap k => noted = some k
  | find s k | queue s k => noted = some k ∧ g.MadeFor s k
  | wake _ => ∃ k, noted = some k
  | ended => True

theorem Fits.dropsKeys (h : p.Fits g noted) (hw : g.DropsKeys g') :
    p.Fits g' noted := by
  cases p with
  | find s k | queue s k => exact ⟨h.1, h.2.dropsKeys hw⟩
  | _ => exact h

theorem Turn.fits (t : p.Turn v v' p') (h : p.Fits v.registry noted) :
    p'.Fits v'.registry noted := by
  have hw := t.dropsKeys
  cases t with
  | @swap k e hk hvalid => exact ⟨h, Registry.MadeFor.dropsKeys ⟨e, hk, rfl⟩ hw⟩
  | find s k => exact h
  | queue s k => exact ⟨k, h.1⟩
  | _ => trivial

/-- A cancellation comes back from a key that was invalid or not found, or with its last access. -/
theorem Turn.of_ended (t : p.Turn v v' .ended) (hbusy : p ≠ .ended) :
    (∃ k, p = .swap k ∧ v.registry.Invalid k) ∨ (∃ s k, p = .find s k) ∨
    ∃ s, p = .wake s := by
  cases t with
  | @spent k hspent => exact .inl ⟨k, rfl, hspent⟩
  | lost s k => exact .inr (.inl ⟨s, k, rfl⟩)
  | wake s => exact .inr (.inr ⟨s, rfl⟩)
  | ended => exact absurd rfl hbusy

theorem Turn.of_wake (t : p.Turn v v' (.wake s)) : ∃ k, p = .queue s k := by
  cases t with
  | queue _ k => exact ⟨k, rfl⟩

theorem Turn.ne_swap (t : p.Turn v v' p') (k : KeyId) : p' ≠ .swap k := by
  cases t <;> rintro ⟨⟩

theorem Turn.holds (t : p.Turn v v' p') (h : v.registry.Holds s k) : v'.registry.Holds s k := by
  cases t with
  | queue f e => exact h.onSelector f fun _ hk => hk
  | _ => exact h

theorem Turn.queues (t : p.Turn v v' p') (h : v.registry.Queues s k) : v'.registry.Queues s k := by
  cases t with
  | queue f e => exact h.onSelector f fun _ hk => List.mem_append_left _ hk
  | _ => exact h

/-- A key in the queue was there before, or was queued by this access, and its byte comes next. -/
theorem Turn.of_queues (t : p.Turn v v' p') (h : v'.registry.Queues s k) :
    v.registry.Queues s k ∨ p = .queue s k ∧ p' = .wake s := by
  cases t with
  | queue f e =>
    obtain ⟨x, hx, hk⟩ := h
    by_cases hs : s = f
    · subst hs
      obtain ⟨y, hy, rfl⟩ : ∃ y, v.registry.selector s = some y ∧
          { y with queued := y.queued ++ [e] } = x := by
        simpa [Scene.onSelector, Registry.onSelector] using hx
      rcases List.mem_append.mp hk with hold | hnew
      · exact .inl ⟨y, hy, hold⟩
      · rw [List.mem_singleton.mp hnew]
        exact .inr ⟨rfl, rfl⟩
    · exact .inl ⟨x, by simpa [Scene.onSelector, Registry.onSelector, hs] using hx, hk⟩
  | _ => exact .inl h

theorem Turn.queues_queue (t : Turn v (.queue s k) v' p') (husable : v.registry.Usable s) :
    v'.registry.Queues s k := by
  obtain ⟨x, hx, -⟩ := husable
  cases t with
  | queue =>
    refine ⟨{ x with queued := x.queued ++ [k] }, ?_,
      List.mem_append_right _ List.mem_cons_self⟩
    simp [Scene.onSelector, Registry.onSelector, hx]

/-- A key that is to be queued goes on being so, or is queued, or was not found. -/
theorem Turn.carries (t : p.Turn v v' p') (hp : p.Carries s k) (husable : v.registry.Usable s) :
    p'.Carries s k ∨ v'.registry.Queues s k ∨ p = .find s k ∧ p' = .ended := by
  rcases hp with rfl | rfl
  · cases t with
    | find => exact .inl (.inr rfl)
    | lost => exact .inr (.inr ⟨rfl, rfl⟩)
  · exact .inr (.inl (t.queues_queue husable))

/-- A key becomes invalid at the beginning of its cancellation. -/
theorem Turn.voids (t : p.Turn v v' p') (hbefore : ¬ v.registry.Invalid k)
    (hafter : v'.registry.Invalid k) (hmade : v.registry.MadeFor s k) : p' = .find s k := by
  cases t with
  | @swap f e hf hvalid =>
    obtain rfl : k = f := by
      by_contra hne
      exact hbefore (hafter.of_onKey hne)
    rw [hmade.unique ⟨e, hf, rfl⟩]
  | _ => exact absurd hafter hbefore

end CancelPoint

/-! ## Deregistrations -/

namespace LeavePoint

variable {c : ListenerId} {k : KeyId} {p p' : LeavePoint} {v v' : Scene}

theorem Turn.not_lists (t : Turn c k v .strike v' p') : ¬ v'.registry.Lists c k := by
  cases t with
  | @strike d hd =>
    rintro ⟨d', hd', -, hk⟩
    obtain rfl : d.dropKey k = d' := by simpa [Scene.putChannel] using hd'
    simp [Standing.dropKey] at hk

theorem Turn.voids (t : p.Turn c k v v' p') {f : KeyId} (hbefore : ¬ v.registry.Invalid f)
    (hafter : v'.registry.Invalid f) : f = k := by
  cases t with
  | void =>
    by_contra hne
    exact hbefore (hafter.of_onKey hne)
  | kill t _ => exact absurd (fun e he => hafter e (t.registry.1 ▸ he)) hbefore
  | _ => exact absurd hafter hbefore

end LeavePoint

/-! ## Visits -/

namespace VisitPoint

variable {s : SelectorId} {k : KeyId} {p p' : VisitPoint} {st st' : Station}

theorem begins_iff : p.begins = some k ↔ p.cancelling = some (.swap k) := by
  unfold begins
  split
  · next f hf => simp [hf]
  · next hnone => exact ⟨by rintro ⟨⟩, fun h => absurd h (hnone k)⟩

theorem isBack_iff : p.isBack = true ↔ p.cancelling = some .ended := by
  unfold isBack
  split
  · next hended => simp [hended]
  · next hbusy => exact ⟨by rintro ⟨⟩, fun h => absurd h hbusy⟩

theorem of_isCancelling (h : p.isCancelling = true) :
    ∃ a, p.cancelling = some a ∧ a ≠ .ended ∧ ∀ k, a ≠ .swap k := by
  unfold isCancelling at h
  split at h
  · next s k ha => exact ⟨.find s k, ha, by rintro ⟨⟩, by rintro _ ⟨⟩⟩
  · next s k ha => exact ⟨.queue s k, ha, by rintro ⟨⟩, by rintro _ ⟨⟩⟩
  · next s ha => exact ⟨.wake s, ha, by rintro ⟨⟩, by rintro _ ⟨⟩⟩
  · cases h

theorem holds (h : p.step.run st = (.ok p', st')) (hk : st.registry.Holds s k) :
    st'.registry.Holds s k := by
  rcases step_cases h with ⟨a, b, -, -, -, haccess⟩ | ⟨-, -, hquiet⟩
  · exact (CancelPoint.turn haccess).holds hk
  · exact hk.of_selector hquiet.selector

theorem queues (h : p.step.run st = (.ok p', st')) (hk : st.registry.Queues s k) :
    st'.registry.Queues s k := by
  rcases step_cases h with ⟨a, b, -, -, -, haccess⟩ | ⟨-, -, hquiet⟩
  · exact (CancelPoint.turn haccess).queues hk
  · exact hk.of_selector hquiet.selector

theorem of_queues (h : p.step.run st = (.ok p', st')) (hk : st'.registry.Queues s k) :
    st.registry.Queues s k ∨
      p.cancelling = some (.queue s k) ∧ p'.cancelling = some (.wake s) := by
  rcases step_cases h with ⟨a, b, hp, -, hp', haccess⟩ | ⟨-, -, hquiet⟩
  · rcases (CancelPoint.turn haccess).of_queues hk with hold | ⟨rfl, rfl⟩
    · exact .inl hold
    · exact .inr ⟨hp, hp'⟩
  · exact .inl (hk.of_selector hquiet.selector.symm)

theorem woken (h : p.step.run st = (.ok p', st')) (hs : st.Woken s) : st'.Woken s := by
  rcases step_cases h with ⟨a, b, -, -, -, haccess⟩ | ⟨-, -, hquiet⟩
  · exact CancelPoint.woken_step haccess hs
  · exact hquiet.woken hs

theorem voids (h : p.step.run st = (.ok p', st')) (hbefore : ¬ st.registry.Invalid k)
    (hafter : st'.registry.Invalid k) (hmade : st.registry.MadeFor s k) :
    p'.cancelling = some (.find s k) := by
  rcases step_cases h with ⟨a, b, -, -, hp', haccess⟩ | ⟨-, -, hquiet⟩
  · rw [hp', (CancelPoint.turn haccess).voids hbefore hafter hmade]
  · exact absurd (fun t ht => hafter t (hquiet.key ▸ ht)) hbefore

theorem access (h : p.step.run st = (.ok p', st')) (hp : p.cancelling = some a)
    (hbusy : a ≠ .ended) :
    ∃ b, p'.cancelling = some b ∧ a.step.run st = (.ok b, st') := by
  rcases step_cases h with ⟨a', b, ha', -, hb, haccess⟩ | ⟨hrest, -, -⟩
  · rw [hp] at ha'
    cases ha'
    exact ⟨b, hb, haccess⟩
  · exact absurd (hrest a hp) hbusy

end VisitPoint

namespace Visitor

variable {v : Visitor} {p' : VisitPoint} {st st' : Station}

/-- What was noted of a visitor fits what it is about to do. -/
def Fits (g : Registry) (v : Visitor) : Prop :=
  ∀ a, v.point.cancelling = some a → a.Fits g v.key

theorem Fits.dropsKeys (h : v.Fits g) (hw : g.DropsKeys g') : v.Fits g' :=
  fun a ha => (h a ha).dropsKeys hw

/-- The note changes only when a cancellation is about to begin. -/
theorem advance_key {b : CancelPoint} (hb : p'.cancelling = some b) (hswap : ∀ k, b ≠ .swap k) :
    (v.advance p').key = v.key := by
  have hbegins : p'.begins = none := by
    unfold VisitPoint.begins
    rw [hb]
    cases b with
    | swap k => exact absurd rfl (hswap k)
    | _ => rfl
  simp [advance, hbegins]

theorem Fits.advance (h : v.Fits st.registry) (hstep : v.point.step.run st = (.ok p', st')) :
    (v.advance p').Fits st'.registry := by
  intro b hb
  have hb : p'.cancelling = some b := hb
  rcases VisitPoint.step_cases hstep with ⟨a, b', ha, -, hb', haccess⟩ | ⟨hrest, hnext, -⟩
  · cases hb'.symm.trans hb
    have t := CancelPoint.turn haccess
    rw [advance_key hb' t.ne_swap]
    exact t.fits (h a ha)
  · rcases hnext with rfl | hnext
    · rw [hrest b hb]
      trivial
    · obtain ⟨k, rfl⟩ := hnext b hb
      show (p'.begins.or v.key) = some k
      simp [VisitPoint.begins, hb]

/-- A cancellation that came back was noted. -/
def Noted (v : Visitor) : Prop :=
  v.point.cancelling = some .ended → ∃ k, v.key = some k ∧
    (k ∈ v.cancelled ∨ k ∈ v.spent)

theorem mem_cancelled_advance (h : k ∈ v.cancelled) (p' : VisitPoint) :
    k ∈ (v.advance p').cancelled := by
  simp only [advance]
  split
  · exact List.mem_append_right _ h
  · exact h

theorem mem_spent_advance (h : k ∈ v.spent) (p' : VisitPoint) : k ∈ (v.advance p').spent := by
  simp only [advance]
  split
  · exact List.mem_append_right _ h
  · exact h

theorem Noted.advance (h : v.Noted) (hfits : v.Fits st.registry)
    (hstep : v.point.step.run st = (.ok p', st')) : (v.advance p').Noted := by
  intro hended
  have hended : p'.cancelling = some .ended := hended
  have hback := VisitPoint.isBack_iff.mpr hended
  rw [advance_key hended (by rintro _ ⟨⟩)]
  rcases VisitPoint.step_cases hstep with ⟨a, b, ha, hbusy, hb, haccess⟩ | ⟨-, hnext, -⟩
  · cases hended.symm.trans hb
    have hcancelled (hcancelling : v.point.isCancelling = true) {k : KeyId} (hk : v.key = some k) :
        k ∈ (v.advance p').cancelled := by
      simp [Visitor.advance, hcancelling, hback, hk]
    rcases (CancelPoint.turn haccess).of_ended (by rintro rfl; cases hbusy) with
      ⟨k, rfl, -⟩ | ⟨s, k, rfl⟩ | ⟨s, rfl⟩
    · have hk : v.key = some k := hfits _ ha
      exact ⟨k, hk, .inr (by simp [Visitor.advance, VisitPoint.begins_iff.mpr ha, hback, hk])⟩
    · have hk := (hfits _ ha).1
      exact ⟨k, hk, .inl (hcancelled (by simp [VisitPoint.isCancelling, ha]) hk)⟩
    · obtain ⟨k, hk⟩ := hfits _ ha
      exact ⟨k, hk, .inl (hcancelled (by simp [VisitPoint.isCancelling, ha]) hk)⟩
  · rcases hnext with rfl | hnext
    · obtain ⟨k, hk, hnoted⟩ := h hended
      exact ⟨k, hk, hnoted.imp (fun hk => mem_cancelled_advance hk _) fun hk =>
        mem_spent_advance hk _⟩
    · obtain ⟨k, hswap⟩ := hnext _ hended
      cases hswap

/-- A cancellation that had made its key invalid comes back because the key was not found, or after
its byte was written. -/
theorem of_mem_cancelled (hstep : v.point.step.run st = (.ok p', st'))
    (hk : k ∈ (v.advance p').cancelled) :
    k ∈ v.cancelled ∨ v.key = some k ∧
      ((∃ s f, v.point.cancelling = some (.find s f) ∧
        (CancelPoint.find s f).step.run st = (.ok .ended, st')) ∨
      ∃ s, v.point.cancelling = some (.wake s)) := by
  simp only [advance] at hk
  split at hk
  · next hnoted =>
    obtain ⟨hbusy, hback⟩ := Bool.and_eq_true_iff.mp hnoted
    rcases List.mem_append.mp hk with hnew | hold
    · refine .inr ⟨Option.mem_toList.mp hnew, ?_⟩
      obtain ⟨a, ha, hended, hswap⟩ := VisitPoint.of_isCancelling hbusy
      obtain ⟨b, hb, haccess⟩ := VisitPoint.access hstep ha hended
      cases (VisitPoint.isBack_iff.mp hback).symm.trans hb
      rcases (CancelPoint.turn haccess).of_ended hended with ⟨f, rfl, -⟩ |
        ⟨s, f, rfl⟩ | ⟨s, rfl⟩
      · exact absurd rfl (hswap f)
      · exact .inl ⟨s, f, ha, haccess⟩
      · exact .inr ⟨s, ha⟩
    · exact .inl hold
  · exact .inl hk

/-- A cancellation that had nothing to do found its key invalid. -/
theorem of_mem_spent (hstep : v.point.step.run st = (.ok p', st'))
    (hk : k ∈ (v.advance p').spent) :
    k ∈ v.spent ∨ v.key = some k ∧
      ∃ f, v.point.cancelling = some (.swap f) ∧ st.registry.Invalid f := by
  simp only [advance] at hk
  split at hk
  · next hnoted =>
    obtain ⟨hbegins, hback⟩ := Bool.and_eq_true_iff.mp hnoted
    rcases List.mem_append.mp hk with hnew | hold
    · refine .inr ⟨Option.mem_toList.mp hnew, ?_⟩
      obtain ⟨f, hf⟩ := Option.isSome_iff_exists.mp hbegins
      have ha := VisitPoint.begins_iff.mp hf
      obtain ⟨b, hb, haccess⟩ := VisitPoint.access hstep ha (by rintro ⟨⟩)
      cases (VisitPoint.isBack_iff.mp hback).symm.trans hb
      rcases (CancelPoint.turn haccess).of_ended (by rintro ⟨⟩) with
        ⟨e, he, hinvalid⟩ | ⟨s, e, he⟩ | ⟨s, he⟩
      · cases he
        exact ⟨f, ha, hinvalid⟩
      · cases he
      · cases he
    · exact .inl hold
  · exact .inl hk

end Visitor

/-! ## Selections -/

namespace SelectPoint

variable {s : SelectorId} {k : KeyId} {p p' : SelectPoint} {st st' : Station}

/-- The cancelled keys that the thread took from the queue and has yet to deregister. -/
def hand : SelectPoint → List KeyId
  | forget k batch | unselect k batch | look k batch | leave _ k _ batch => k :: batch.rest
  | _ => []

/-- On the way from the first taking of the queue into the poll. -/
def listens : SelectPoint → Bool
  | forget _ batch | unselect _ batch | look _ batch | leave _ _ _ batch => batch.next == .poll
  | snapshot | poll _ => true
  | _ => false

/-- The queue has yet to be taken for the first time. -/
def isEarly : SelectPoint → Bool
  | enter | take .poll => true
  | _ => false

/-- Where the cancellation stands that the thread itself is in. -/
def cancelling : SelectPoint → Option CancelPoint
  | cancel _ point _ => some point
  | _ => none

/-- What is certain of the key that is being deregistered. -/
def Sure (g : Registry) (s : SelectorId) : SelectPoint → Prop
  | unselect k _ | look k _ => ¬ g.Holds s k
  | leave c k point _ =>
    ¬ g.Holds s k ∧ (∀ t, g.key k = some t → t.channel = c) ∧
      (point ≠ .strike → ¬ g.Lists c k)
  | _ => True

theorem hand_proceed (batch : Batch) : (proceed batch).hand = batch.rest := by
  obtain ⟨_ | ⟨k, rest⟩, _ | _, _ | _⟩ := batch <;> rfl

theorem sure_proceed (g : Registry) (s : SelectorId) (batch : Batch) :
    (proceed batch).Sure g s := by
  obtain ⟨_ | ⟨k, rest⟩, _ | _, _ | _⟩ := batch <;> trivial

theorem next_of_listens_proceed {batch : Batch} (h : (proceed batch).listens = true) :
    batch.next = .poll := by
  obtain ⟨_ | ⟨k, rest⟩, outcome, next⟩ := batch
  · cases next with
    | poll => rfl
    | answer count => cases outcome <;> cases h
  · exact eq_of_beq h

theorem hand_of_gathers (h : p.gathers = true) : p.hand = [] := by
  cases p with
  | forget | unselect | look | leave => cases h
  | _ => rfl

theorem sure_of_late (g : Registry) (s : SelectorId) (h : (p.gathers || p.isAnswered) = true) :
    p.Sure g s := by
  cases p with
  | unselect | look | leave => cases h
  | _ => trivial

theorem answer?_of_isEarly (h : p.isEarly = true) : p.answer? = none := by
  cases p with
  | ended => cases h
  | _ => rfl

theorem answer?_of_cancelling (h : p.cancelling = some a) : p.answer? = none := by
  cases p with
  | ended => cases h
  | _ => rfl

theorem not_listens_of_late (h : (p.gathers || p.isAnswered) = true) : p.listens = false := by
  cases p with
  | forget | unselect | look | leave | snapshot | poll => cases h
  | _ => rfl

theorem Sure.dropsKeys (h : p.Sure g s) (hw : g.DropsKeys g') : p.Sure g' s := by
  cases p with
  | unselect f batch | look f batch => exact fun hheld => h (hw.holds hheld)
  | leave c f point batch =>
    obtain ⟨hheld, hchannel, hlisted⟩ := h
    refine ⟨fun hheld' => hheld (hw.holds hheld'), fun t' ht' => ?_,
      fun hpoint hlisted' => hlisted hpoint (hw.lists hlisted')⟩
    obtain ⟨t, ht, rfl | rfl⟩ := hw.key_of ht'
    · exact hchannel t' ht
    · exact hchannel t ht
  | _ => trivial

namespace Turn

/-- A key that the selector holds stays there, or comes into the hands of the thread. -/
theorem holds (t : Turn s st p st' p') (h : st.registry.Holds s k) :
    st'.registry.Holds s k ∨ k ∈ p'.hand := by
  cases t with
  | take next hx | unselect f batch | read reported | select harvest =>
    exact .inl (has_modifySelector h fun _ hk => hk)
  | forget f batch =>
    by_cases hf : k = f
    · exact .inr (List.mem_cons.mpr (.inl hf))
    · refine .inl (has_modifySelector h fun x hk => ?_)
      obtain ⟨e, he, rfl⟩ := List.mem_map.mp hk
      exact List.mem_map.mpr ⟨e, List.mem_filter.mpr ⟨he, bne_iff_ne.mpr hf⟩, rfl⟩
  | leave batch hstep => exact .inl (h.of_selector (LeavePoint.turn hstep).selector)
  | gather _ hquiet _ => exact .inl (h.of_selector hquiet.selector)
  | cancel f harvest _ hstep => exact .inl ((CancelPoint.turn hstep).holds h)
  | _ => exact .inl h

/-- A key that is queued stays so, or comes into the hands of the thread. -/
theorem queues (t : Turn s st p st' p') (h : st.registry.Queues s k) :
    st'.registry.Queues s k ∨ k ∈ p'.hand := by
  cases t with
  | @take x next hx =>
    obtain ⟨y, hy, hk⟩ := h
    rw [registry_selector_of hx] at hy
    cases hy
    rw [hand_proceed]
    exact .inr hk
  | forget f batch | unselect f batch | read reported | select harvest =>
    exact .inl (has_modifySelector h fun _ hk => hk)
  | leave batch hstep => exact .inl (h.of_selector (LeavePoint.turn hstep).selector)
  | gather _ hquiet _ => exact .inl (h.of_selector hquiet.selector)
  | cancel f harvest _ hstep => exact .inl ((CancelPoint.turn hstep).queues h)
  | _ => exact .inl h

/-- A key that is queued when a selection begins is taken before anything else happens. -/
theorem queues_early (t : Turn s st p st' p') (hp : p.isEarly = true) (h : st.registry.Queues s k)
    (husable : st.registry.Usable s) :
    st'.registry.Queues s k ∧ p'.isEarly = true ∨ k ∈ p'.hand := by
  cases p with
  | enter =>
    cases t with
    | enter => exact .inl ⟨h, rfl⟩
    | refused hrefused => exact absurd husable hrefused
    | gather hgathers => cases hgathers
  | take next =>
    have hnone :
        ¬ (st.modifySelector s fun x => { x with cancelled := [] }).registry.Queues s k := by
      intro hk
      obtain ⟨x, -, hk⟩ := of_queues_modifySelector hk
      cases hk
    cases t with
    | take _ hx => exact (queues (.take next hx) h).imp_left fun hk => absurd hk hnone
    | gather hgathers => cases hgathers
  | _ => cases hp

theorem isEarly_of_answer {answer : Except Failure Nat} (t : Turn s st p st' p')
    (hp : p.answer? = some answer) : p'.isEarly = true := by
  cases t with
  | again => rfl
  | gather hgathers =>
    cases p with
    | ended => cases hgathers
    | _ => cases hp
  | _ => cases hp

/-- A key in the hands of the thread stays there until it is gone. -/
theorem hand (t : Turn s st p st' p') (hsure : p.Sure st.registry s) (h : k ∈ p.hand) :
    k ∈ p'.hand ∨ st'.registry.Gone s k := by
  cases t with
  | forget f batch | unselect f batch | look batch hk | leave batch hstep => exact .inl h
  | @gone f batch hdead =>
    rw [hand_proceed]
    rcases List.mem_cons.mp h with rfl | hrest
    · refine .inr ⟨hsure, fun t ht hlisted => ?_⟩
      obtain ⟨d, hd, halive, -⟩ := hlisted
      obtain ⟨key, hkey, rfl⟩ := Option.map_eq_some_iff.mp ht
      have hkept : st.listenerAlive key.channel = true := by
        rw [listenerAlive_eq, show st.registry.channel key.channel = some d from hd]
        exact halive
      rw [hdead key hkey] at hkept
      cases hkept
    · exact .inl hrest
  | left c f result outcome batch =>
    rw [hand_proceed]
    rcases List.mem_cons.mp h with rfl | hrest
    · obtain ⟨hheld, hchannel, hlisted⟩ := hsure
      refine .inr ⟨hheld, fun t ht => ?_⟩
      rw [hchannel t ht]
      exact hlisted (by rintro ⟨⟩)
    · exact .inl hrest
  | gather hgathers =>
    rw [hand_of_gathers hgathers] at h
    cases h
  | _ => cases h

theorem sure (t : Turn s st p st' p') (h : p.Sure st.registry s) : p'.Sure st'.registry s := by
  have hw := t.dropsKeys
  cases t with
  | take next hx | gone batch hdead | left c f result outcome batch => exact sure_proceed _ _ _
  | forget f batch =>
    rintro ⟨x, hx, hk⟩
    obtain ⟨y, hy, rfl⟩ := selector_of_registry hx
    obtain ⟨z, -, rfl⟩ := of_selector_modifySelector hy
    obtain ⟨e, he, rfl⟩ := List.mem_map.mp hk
    exact bne_iff_ne.mp (List.mem_filter.mp he).2 rfl
  | unselect f batch => exact fun hheld => h (hw.holds hheld)
  | @look f key batch hk =>
    refine ⟨h, fun t ht => ?_, fun hne => absurd rfl hne⟩
    rw [registry_key_of hk] at ht
    cases ht
    rfl
  | @leave c f point point' st' batch hstep =>
    obtain ⟨hheld, hchannel, hlisted⟩ := Sure.dropsKeys h hw
    refine ⟨hheld, hchannel, fun _ => ?_⟩
    by_cases hpoint : point = .strike
    · subst hpoint
      exact (LeavePoint.turn hstep).not_lists
    · exact hlisted hpoint
  | poll _ hp' | cancelled _ _ hp' => exact sure_of_late _ _ (by simp [hp'])
  | gather _ _ hp' =>
    rcases hp' with hp' | ⟨f, harvest, rfl⟩
    · exact sure_of_late _ _ (by simp [hp'])
    · trivial
  | _ => trivial

/-- A key becomes invalid in the hands of the thread, or at the beginning of its cancellation. -/
theorem voids (t : Turn s st p st' p') (hbefore : ¬ st.registry.Invalid k)
    (hafter : st'.registry.Invalid k) (hmade : st.registry.MadeFor s k) :
    k ∈ p.hand ∨ p'.cancelling = some (.find s k) := by
  cases t with
  | leave batch hstep =>
    exact .inl (List.mem_cons.mpr (.inl ((LeavePoint.turn hstep).voids hbefore hafter)))
  | gather _ hquiet _ => exact absurd (fun e he => hafter e (hquiet.key ▸ he)) hbefore
  | cancel f harvest _ hstep =>
    exact .inr (congrArg some ((CancelPoint.turn hstep).voids hbefore hafter hmade))
  | _ => exact absurd hafter hbefore

/-- A key that the thread itself is to queue goes on being so, or is queued, or was not found. -/
theorem carries (t : Turn s st p st' p') (hp : p.cancelling = some a) (ha : a.Carries s k)
    (husable : st.registry.Usable s) :
    (∃ b, p'.cancelling = some b ∧ b.Carries s k) ∨ st'.registry.Queues s k ∨
      ¬ st.registry.Holds s k := by
  cases t with
  | cancel f harvest _ hstep =>
    cases hp
    rcases (CancelPoint.turn hstep).carries ha husable with hb | hqueued | ⟨rfl, rfl⟩
    · exact .inl ⟨_, rfl, hb⟩
    · exact .inr (.inl hqueued)
    · exact .inr (.inr (CancelPoint.not_holds_of_lost hstep husable))
  | cancelled f harvest _ =>
    cases hp
    rcases ha with ha | ha <;> cases ha
  | gather hgathers =>
    cases p with
    | cancel => cases hgathers
    | _ => cases hp
  | _ => cases hp

/-- On its way into the poll the thread has just emptied the queue, or it was on its way before, and
has neither queued a key nor read from the pipe. -/
theorem listens (t : Turn s st p st' p') (h : p'.listens = true) :
    (∀ k, ¬ st'.registry.Queues s k) ∨
      p.listens = true ∧ (∀ k, st'.registry.Queues s k → st.registry.Queues s k) ∧
        (st.Woken s → st'.Woken s) := by
  have hmodify (f : Selector → Selector) (hqueue : ∀ x, (f x).cancelled = x.cancelled)
      (hwake : ∀ x, (f x).wake = x.wake) :
      (∀ k, (st.modifySelector s f).registry.Queues s k → st.registry.Queues s k) ∧
        (st.Woken s → (st.modifySelector s f).Woken s) := by
    refine ⟨fun k hk => ?_,
      fun hs => hs.of_modifySelector s fun x => Nat.le_of_eq (congrArg Pipe.size (hwake x).symm)⟩
    obtain ⟨x, hx, hk⟩ := of_queues_modifySelector hk
    rw [hqueue x] at hk
    exact ⟨_, registry_selector_of hx, hk⟩
  cases t with
  | take next hx =>
    refine .inl fun k hk => ?_
    obtain ⟨x, -, hk⟩ := of_queues_modifySelector hk
    cases hk
  | forget f batch | unselect f batch => exact .inr ⟨h, hmodify _ (fun _ => rfl) fun _ => rfl⟩
  | look batch hk => exact .inr ⟨h, fun _ => id, id⟩
  | gone batch hdead =>
    exact .inr ⟨beq_iff_eq.mpr (next_of_listens_proceed h), fun _ => id, id⟩
  | leave batch hstep =>
    have hsame := LeavePoint.selectors_step hstep
    exact .inr ⟨h, fun _ hk => hk.of_selector (registry_selector_congr hsame.symm),
      fun hs => hs.of_selectors hsame⟩
  | left c f result outcome batch =>
    have hnext := next_of_listens_proceed h
    exact .inr ⟨beq_iff_eq.mpr hnext, fun _ => id, id⟩
  | snapshot polled => exact .inr ⟨rfl, fun _ => id, id⟩
  | poll _ hp' | cancelled _ _ hp' => cases (not_listens_of_late (by simp [hp'])).symm.trans h
  | gather _ _ hp' =>
    rcases hp' with hp' | ⟨f, harvest, rfl⟩
    · cases (not_listens_of_late (by simp [hp'])).symm.trans h
    · cases h
  | _ => cases h

end Turn
end SelectPoint
end PolledChannels
