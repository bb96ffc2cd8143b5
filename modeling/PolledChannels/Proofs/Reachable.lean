import PolledChannels.Proofs.Deeds

/-!
# Stations that are reached

Histories of deeds run every selection from its beginning to its end, and let go of nothing. Here a
station is reached by more: channels and selectors are dropped, a key is taken off its channel
behind its selector's back, other operations come between the two halves of a selection, and
whatever registration does not show, ready sets, masks, descriptors and settings, may become
anything at any time.

Much of what histories keep is lost that way. What is left is enough to follow a selection: a
selector holds its own keys, each of them once, and is kept while it is open.
-/

namespace PolledChannels

namespace Registry

/-- Selectors hold their own keys, each of them once, and are kept while they are open. -/
structure WellHeld (r : Registry) : Prop where
  distinct : ∀ s x, r.selector s = some x → x.held.Nodup
  own : ∀ s x, r.selector s = some x → ∀ k ∈ x.held, ∃ t, r.key k = some t ∧
    t.selector = s
  kept : ∀ s x, r.selector s = some x → x.isOpen = true → x.alive = true

theorem WellHeld.congr {r r' : Registry} (h : r.WellHeld) (hselector : r'.selector = r.selector)
    (hkey : r'.key = r.key) : r'.WellHeld where
  distinct := hselector ▸ h.distinct
  own := by
    rw [hselector, hkey]
    exact h.own
  kept := hselector ▸ h.kept

namespace WellHeld

variable {r : Registry}

theorem onChannel (h : r.WellHeld) (c : ListenerId) (f : Standing → Standing) :
    (r.onChannel c f).WellHeld :=
  h.congr rfl rfl

theorem putChannel (h : r.WellHeld) (c : ListenerId) (d : Standing) : (r.putChannel c d).WellHeld :=
  h.congr rfl rfl

/-- A selector loses keys, and is still kept if it is still open. -/
theorem putSelector (h : r.WellHeld) {s : SelectorId} {x x' : Roster} (hx : r.selector s = some x)
    (hheld : x'.held.Sublist x.held) (hkept : x'.isOpen = true → x'.alive = true) :
    (r.putSelector s x').WellHeld where
  distinct := by
    intro e y hy
    rcases put_cases hy with ⟨rfl, rfl⟩ | ⟨-, hy⟩
    · exact (h.distinct e x hx).sublist hheld
    · exact h.distinct e y hy
  own := by
    intro e y hy k hk
    rcases put_cases hy with ⟨rfl, rfl⟩ | ⟨-, hy⟩
    · exact h.own e x hx k (hheld.subset hk)
    · exact h.own e y hy k hk
  kept := by
    intro e y hy
    rcases put_cases hy with ⟨-, rfl⟩ | ⟨-, hy⟩
    · exact hkept
    · exact h.kept e y hy

theorem onSelector (h : r.WellHeld) (s : SelectorId) {f : Roster → Roster}
    (hheld : ∀ x, (f x).held.Sublist x.held)
    (hkept : ∀ x, (f x).isOpen = true → x.isOpen = true ∧ (f x).alive = x.alive) :
    (r.onSelector s f).WellHeld := by
  cases hx : r.selector s with
  | none => rwa [onSelector_none hx]
  | some x =>
    rw [onSelector_of hx]
    refine h.putSelector hx (hheld x) fun hopen => ?_
    obtain ⟨hwas, hsame⟩ := hkept x hopen
    rw [hsame]
    exact h.kept s x hx hwas

theorem void (h : r.WellHeld) (k : KeyId) : (r.onKey k Tie.void).WellHeld where
  __ := h
  own := by
    intro s x hx e he
    obtain ⟨t, ht, hs⟩ := h.own s x hx e he
    by_cases hek : e = k
    · subst hek
      exact ⟨t.void, by simp [onKey, ht], hs⟩
    · exact ⟨t, by simpa [onKey, hek] using ht, hs⟩

theorem cancel (h : r.WellHeld) (k : KeyId) : (r.cancel k).WellHeld := by
  have henqueue (x : Roster) : (x.enqueue k).held = x.held ∧ (x.enqueue k).isOpen = x.isOpen ∧
      (x.enqueue k).alive = x.alive := by
    unfold Roster.enqueue
    split <;> exact ⟨rfl, rfl, rfl⟩
  unfold Registry.cancel
  split
  · split
    · refine (h.void k).onSelector _ (fun x => ?_) fun x hopen => ?_
      · rw [(henqueue x).1]
      · exact ⟨(henqueue x).2.1 ▸ hopen, (henqueue x).2.2⟩
    · exact h
  · exact h

theorem strike (h : r.WellHeld) (k : KeyId) : (r.strike k).WellHeld := by
  unfold Registry.strike
  split
  · split
    · exact ((h.onChannel _ _).void k).onChannel _ _
    · exact h
  · exact h

theorem enrol (h : r.WellHeld) (c : ListenerId) (s : SelectorId) {k : KeyId}
    (hk : r.key k = none) : (r.enrol c s k).WellHeld := by
  have hnew : ∀ e x, r.selector e = some x → k ∉ x.held := by
    intro e x hx hmem
    obtain ⟨t, ht, -⟩ := h.own e x hx k hmem
    cases hk.symm.trans ht
  have hplace : ∀ e x, r.selector e = some x → ∀ j ∈ x.held,
      ∃ t, (r.putKey k ⟨s, c, true⟩).key j = some t ∧ t.selector = e := by
    intro e x hx j hj
    obtain ⟨t, ht, hte⟩ := h.own e x hx j hj
    have hjk : j ≠ k := by
      rintro rfl
      exact hnew e x hx hj
    exact ⟨t, by simp [hjk, ht], hte⟩
  refine WellHeld.onChannel ?_ c _
  cases hx : r.selector s with
  | none =>
    rw [onSelector_none (r := r.putKey k ⟨s, c, true⟩) hx]
    exact ⟨h.distinct, hplace, h.kept⟩
  | some x =>
    rw [onSelector_of (r := r.putKey k ⟨s, c, true⟩) hx]
    refine ⟨fun e y hy => ?_, fun e y hy => ?_, fun e y hy => ?_⟩
    all_goals rcases put_cases hy with ⟨he, rfl⟩ | ⟨-, hy⟩
    · refine List.nodup_append.mpr ⟨h.distinct s x hx, List.nodup_singleton k, ?_⟩
      rintro a ha b hb rfl
      exact hnew s x hx (List.mem_singleton.mp hb ▸ ha)
    · exact h.distinct e y hy
    · intro j hj
      rcases List.mem_append.mp hj with hj | hj
      · rw [he]
        exact hplace s x hx j hj
      · rw [List.mem_singleton.mp hj, he]
        exact ⟨⟨s, c, true⟩, by simp, rfl⟩
    · exact hplace e y hy
    · exact h.kept s x hx
    · exact h.kept e y hy

end WellHeld

theorem Change.wellHeld {r r' : Registry} (h : Change r r') (hr : r.WellHeld) : r'.WellHeld := by
  cases h with
  | openChannel _ | mode _ _ => exact hr.putChannel _ _
  | openSelector hnew =>
    refine ⟨fun e y hy => ?_, fun e y hy => ?_, fun e y hy => ?_⟩
    all_goals rcases put_cases hy with ⟨-, rfl⟩ | ⟨-, hy⟩
    · exact List.nodup_nil
    · exact hr.distinct e y hy
    · exact fun k hk => absurd hk List.not_mem_nil
    · exact hr.own e y hy
    · exact fun _ => rfl
    · exact hr.kept e y hy
  | cancel k => exact hr.cancel k
  | kill c => exact hr.onChannel c _
  | closeChannel c =>
    unfold Registry.closeChannel
    split
    · split
      · exact List.foldlRecOn _ _ (hr.onChannel c _) fun _ h k _ => h.cancel k
      · exact hr
    · exact hr
  | purge s =>
    unfold Registry.purge
    split
    · refine List.foldlRecOn _ _ ?_ fun r h k _ => ?_
      · exact hr.onSelector s (fun x => List.Sublist.refl x.held) fun _ h => ⟨h, rfl⟩
      · have hforget := h.onSelector s (f := Roster.forget k) (fun _ => List.filter_sublist)
          fun _ h => ⟨h, rfl⟩
        exact hforget.strike k
    · exact hr
  | closeSelector s =>
    unfold Registry.closeSelector
    split
    · split
      · refine List.foldlRecOn _ _ ?_ fun r h k _ => (h.void k).strike k
        exact hr.onSelector s (fun x => List.nil_sublist x.held) fun _ h => by cases h
      · exact hr
    · exact hr
  | select hx _ _ =>
    have hkept := hr.kept _ _ hx
    exact hr.putSelector hx (.refl _) hkept
  | unselect s p => exact hr.onSelector s (fun _ => .refl _) fun _ h => ⟨h, rfl⟩

theorem Changes.wellHeld {r r' : Registry} (h : Changes r r') (hr : r.WellHeld) : r'.WellHeld := by
  induction h with
  | refl => exact hr
  | tail _ hchange ih => exact hchange.wellHeld ih

theorem closeSelector_closed {r : Registry} {s : SelectorId} {y : Roster}
    (hy : (r.closeSelector s).selector s = some y) : y.isOpen = false := by
  have hstrikes : ∀ (ks : List KeyId) (r : Registry),
      (ks.foldl (fun r k => (r.onKey k Tie.void).strike k) r).selector = r.selector := by
    intro ks
    induction ks with
    | nil => exact fun _ => rfl
    | cons k ks ih =>
      intro r
      rw [List.foldl_cons, ih, strike]
      split
      · split <;> rfl
      · rfl
  unfold closeSelector at hy
  split at hy
  case h_1 x hx =>
    split at hy
    case isTrue =>
      rw [hstrikes, onSelector_of hx, putSelector_selector, if_pos rfl] at hy
      cases hy
      rfl
    case isFalse hclosed =>
      cases hx.symm.trans hy
      exact Bool.not_eq_true _ ▸ hclosed
  case h_2 hx => cases hx.symm.trans hy

end Registry

namespace Action

open Registry Station PolledChannels.Action

theorem keeps_deregister (c : ListenerId) (k : KeyId) :
    Keeps (fun st => st.registry.WellHeld) (deregister c k).run := by
  intro st h
  cases hl : st.listeners[c]? with
  | none =>
    simp only [deregister, removeKey, run_bind, run_listener, hl]
    exact h
  | some l =>
    show ((deregister c k).run st).2.registry.WellHeld
    rw [registry_deregister (registry_channel_of hl)]
    exact ((h.onChannel _ _).void k).onChannel _ _

theorem keeps_processCancelled (s : SelectorId) :
    Keeps (fun st => st.registry.WellHeld) (processCancelled s).run :=
  fun st h => ((orderly_processCancelled s).changes st).wellHeld h

/-- The last part of a selection, whatever it is told to have polled. -/
theorem wellHeld_endSelect (s : SelectorId) (polled : List Polled) (answer : PollAnswer) :
    Keeps (fun st => st.registry.WellHeld) (endSelect s polled answer).run := by
  refine keeps_endSelect (fun _ k h => h.cancel k)
    (fun _ h => Change.wellHeld (.purge s) h) ?_ answer
  exact fun _ _ h _ => h.onSelector s (fun _ => .refl _) fun _ h => ⟨h, rfl⟩

theorem keeps_dropListener (c : ListenerId) :
    Keeps (fun st => st.registry.WellHeld) (dropListener c).run := by
  refine keeps_bind (keeps_listener c) fun l =>
    keeps_bind (keeps_modify fun st h => h.congr rfl rfl) fun _ => ?_
  split
  · exact keeps_bind ((registry_hidesMasks.closeDescriptor c).holds _) fun _ => keeps_pure _
  · exact keeps_pure _

theorem keeps_dropSelector (s : SelectorId) :
    Keeps (fun st => st.registry.WellHeld) (dropSelector s).run := by
  refine keeps_selector_bind fun x st hx h => ?_
  have hroster := registry_selector_of hx
  by_cases hlast : x.owners = 1
  · have hclosed := ((orderly_closeSelector s).changes st).wellHeld h
    have hshut (y : Roster) := closeSelector_closed (r := st.registry) (s := s) (y := y)
    rw [← registry_closeSelector] at hshut
    simp only [hlast, if_true, run_bind, run_observe, run_modify]
    generalize ((closeSelector s).run st).2 = closed at hclosed hshut
    cases hy : closed.selectors[s]? with
    | none => rwa [modifySelector_none hy]
    | some y =>
      have hyroster := registry_selector_of hy
      have hyshut : y.isOpen = false := hshut _ hyroster
      rw [registry_modifySelector_of hy]
      exact hclosed.putSelector hyroster (.refl _) fun hopen => by
        cases hyshut.symm.trans hopen
  · simp only [hlast, if_false]
    show (st.modifySelector s fun x => { x with owners := x.owners - 1 }).registry.WellHeld
    rw [registry_modifySelector_of hx]
    refine h.putSelector hroster (.refl _) fun hopen => ?_
    have halive :
        0 < x.owners := by simpa [Selector.roster, Selector.alive] using h.kept s _ hroster hopen
    simp [Selector.roster, Selector.alive]
    omega

end Action

namespace Station

/-- The station is reached by operations. More stations are than an application can bring
about: what registration does not show may have become anything, and a selection may end with
keys that it did not poll. -/
inductive Reachable : Station → Prop where
  | start : Reachable {}
  | deed {st : Station} (h : Reachable st) (deed : Deed) : Reachable (deed.perform st)
  /-- Something happens that registration does not show. -/
  | aside {st st' : Station} (h : Reachable st) (hsame : st'.registry = st.registry) : Reachable st'
  /-- A key is taken off a channel, though no selector asks for it. -/
  | deregister {st : Station} (h : Reachable st) (c : ListenerId) (k : KeyId) :
      Reachable ((Action.deregister c k).run st).2
  | beginSelect {st : Station} (h : Reachable st) (s : SelectorId) :
      Reachable ((Action.beginSelect s).run st).2
  | endSelect {st : Station} (h : Reachable st) (s : SelectorId) (polled : List Polled)
      (answer : PollAnswer) : Reachable ((Action.endSelect s polled answer).run st).2
  | dropListener {st : Station} (h : Reachable st) (c : ListenerId) :
      Reachable ((Action.dropListener c).run st).2
  | dropSelector {st : Station} (h : Reachable st) (s : SelectorId) :
      Reachable ((Action.dropSelector s).run st).2

theorem wellHeld_perform {st : Station} (h : st.registry.WellHeld) (deed : Deed) :
    (deed.perform st).registry.WellHeld := by
  cases hregisters : deed.registers with
  | true =>
    cases deed with
    | register c s ops =>
      show ((Action.register c s ops).run st).2.registry.WellHeld
      rcases Action.registry_register c s ops st with hsame |
        ⟨-, -, -, -, -, -, -, -, -, henrol⟩
      · rwa [hsame]
      · rw [henrol]
        exact h.enrol c s st.registry_key_next
    | _ => cases hregisters
  | false =>
    cases hselects : deed.selects with
    | false => exact (Deed.changes_unselecting hregisters hselects).wellHeld h
    | true =>
      cases deed with
      | select s meanwhile answer =>
        have hbegin : Keeps (fun st => st.registry.WellHeld) (Action.beginSelect s).run :=
          fun st h => ((Action.orderly_beginSelect s).changes st).wellHeld h
        have hselect : Keeps (fun st => st.registry.WellHeld)
            (Action.select s meanwhile answer).run :=
          Action.keeps_bind hbegin fun polled =>
            Action.keeps_bind (Action.keeps_modify fun _ h => h) fun _ =>
              Action.wellHeld_endSelect s polled answer
        exact hselect st h
      | _ => cases hselects

theorem Reachable.wellHeld {st : Station} (h : st.Reachable) : st.registry.WellHeld := by
  induction h with
  | start => exact ⟨by simp [registry], by simp [registry], by simp [registry]⟩
  | deed _ deed ih => exact wellHeld_perform ih deed
  | aside _ hsame ih => rwa [hsame]
  | deregister _ c k ih => exact Action.keeps_deregister c k _ ih
  | beginSelect _ s ih => exact ((Action.orderly_beginSelect s).changes _).wellHeld ih
  | endSelect _ s polled answer ih => exact Action.wellHeld_endSelect s polled answer _ ih
  | dropListener _ c ih => exact Action.keeps_dropListener c _ ih
  | dropSelector _ s ih => exact Action.keeps_dropSelector s _ ih

theorem reachable_after (history : List Deed) : (after history).Reachable := by
  induction history using List.reverseRecOn with
  | nil => exact .start
  | append_singleton history deed ih =>
    rw [after_concat]
    exact .deed ih deed

end Station
end PolledChannels
