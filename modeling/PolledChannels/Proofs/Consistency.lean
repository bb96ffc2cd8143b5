import PolledChannels.Proofs.Deeds

/-!
# Consistent registration

Registration is spread over four collections: the keys that a channel lists, and the keys that a
selector has registered, queued for deregistration and selected. Beside them stand the flags of
keys, channels and selectors, and the lifecycle of channels. This module says how all of them agree
in every station that a history leads to.
-/

namespace PolledChannels

/-- The collections and flags of a station agree. -/
structure Station.Consistent (st : Station) : Prop where
  /-- A key stands between a channel and a selector, and is listed by the one exactly if it is
  registered with the other. -/
  listed_iff_registered : ∀ (k : KeyId) (key : Key), st.key? k = some key →
    ∃ (l : Listener) (x : Selector), st.listeners[key.channel]? = some l ∧
      st.selectors[key.selector]? = some x ∧
      (k ∈ l.core.keys ↔ k ∈ x.keys)
  /-- A channel lists its own keys, each of them once. -/
  listed : ∀ (c : ListenerId) (l : Listener), st.listeners[c]? = some l →
    l.core.keys.Nodup ∧ ∀ k ∈ l.core.keys, ∃ key : Key, st.key? k = some key ∧
    key.channel = c
  /-- A selector has registered its own keys, each of them once. -/
  registered : ∀ (s : SelectorId) (x : Selector), st.selectors[s]? = some x →
    x.keys.Nodup ∧ ∀ k ∈ x.keys, ∃ key : Key, st.key? k = some key ∧ key.selector = s
  /-- A registered key is invalid exactly if it is queued, and it is queued at most once. -/
  invalid_iff_cancelled : ∀ (s : SelectorId) (x : Selector), st.selectors[s]? = some x →
    ∀ k ∈ x.keys, (st.keyValid k = false ↔ k ∈ x.cancelled) ∧
      (k ∈ x.cancelled → x.cancelled.count k = 1)
  /-- Only registered keys are queued. -/
  cancelled_registered : ∀ (s : SelectorId) (x : Selector), st.selectors[s]? = some x →
    ∀ k ∈ x.cancelled, k ∈ x.keys
  /-- Only registered keys are selected, each of them once. -/
  selected : ∀ (s : SelectorId) (x : Selector), st.selectors[s]? = some x →
    x.selected.Nodup ∧ ∀ k ∈ x.selected, k ∈ x.keys
  /-- The channel of a valid key is open. -/
  valid_open : ∀ (k : KeyId) (key : Key), st.key? k = some key → key.valid = true →
    ∃ l : Listener, st.listeners[key.channel]? = some l ∧ l.core.isOpen = true
  /-- A closed selector is empty, and none of its keys is valid. -/
  closed_empty : ∀ (s : SelectorId) (x : Selector), st.selectors[s]? = some x →
    x.isOpen = false →
    x.registered = [] ∧ x.cancelled = [] ∧ x.selected = [] ∧
      ∀ (k : KeyId) (key : Key), st.key? k = some key → key.selector = s → key.valid = false
  /-- A channel is killed exactly if it is closed and lists no key. -/
  killed_iff : ∀ (c : ListenerId) (l : Listener), st.listeners[c]? = some l →
    (l.lifecycle = .killed ↔ l.core.isOpen = false ∧ l.core.keys = [])

namespace Registry
namespace Sound

variable {r : Registry} {k : KeyId} {t : Tie} {s : SelectorId} {x : Roster}

/-- A key that a selector holds is live or cancelled. -/
theorem invalid_iff_queued (h : r.Sound {}) (ht : r.key k = some t) (hx : r.selector s = some x)
    (hk : k ∈ x.held) : t.valid = false ↔ k ∈ x.queued := by
  have hs : t.selector = s := h.selector_of_held ht hx hk
  obtain ⟨d, y, -, hy, hkey⟩ := h.key k t ht
  rw [hs, hx] at hy
  cases hy
  constructor
  · intro hinvalid
    simpa using hkey.dead hinvalid hk
  · intro hqueued
    by_contra hvalid
    exact (hkey.live (by simpa using hvalid)).2 hqueued

theorem closed_roster (h : r.Sound {}) (hx : r.selector s = some x) (hclosed : x.isOpen = false) :
    x.held = [] ∧ x.queued = [] ∧ x.selected = [] := by
  have hs := h.selector s x hx
  have hheld := hs.shut hclosed
  refine ⟨hheld, List.eq_nil_iff_forall_not_mem.mpr fun k hk => ?_,
    List.eq_nil_iff_forall_not_mem.mpr fun k hk => ?_⟩
  · simpa [hheld] using hs.queued k hk
  · simpa [hheld] using hs.selected k hk

theorem held_of_valid (h : r.Sound {}) (ht : r.key k = some t) (hvalid : t.valid = true) :
    ∃ x, r.selector t.selector = some x ∧ k ∈ x.held := by
  obtain ⟨d, x, -, hx, hkey⟩ := h.key k t ht
  exact ⟨x, hx, by simpa using (hkey.live hvalid).1⟩

end Sound
end Registry

namespace Station

variable {st : Station}

theorem key_of_registry {k : KeyId} {t : Tie} (h : st.registry.key k = some t) :
    ∃ key, st.key? k = some key ∧ key.tie = t :=
  Option.map_eq_some_iff.mp h

theorem consistent_of_sound (h : st.registry.Sound {}) : st.Consistent where
  listed_iff_registered := by
    intro k key hkey
    obtain ⟨d, x, hd, hx, hk⟩ := h.key k key.tie (registry_key_of hkey)
    obtain ⟨l, hl, rfl⟩ := listener_of_registry hd
    obtain ⟨y, hy, rfl⟩ := selector_of_registry hx
    refine ⟨l, y, hl, hy, ?_, hk.held⟩
    intro hlisted
    have hheld : k ∈ y.roster.held := by simpa using hk.listed hlisted
    exact hheld
  listed := by
    intro c l hl
    have hc := h.channel c l.standing (registry_channel_of hl)
    refine ⟨hc.distinct, fun k hk => ?_⟩
    obtain ⟨t, ht, htc⟩ := hc.own k hk
    obtain ⟨key, hkey, rfl⟩ := key_of_registry ht
    exact ⟨key, hkey, htc⟩
  registered := by
    intro s x hx
    have hs := h.selector s x.roster (registry_selector_of hx)
    refine ⟨hs.distinct, fun k hk => ?_⟩
    obtain ⟨t, ht, hts⟩ := hs.own k hk
    obtain ⟨key, hkey, rfl⟩ := key_of_registry ht
    exact ⟨key, hkey, hts⟩
  invalid_iff_cancelled := by
    intro s x hx k hk
    have hs := h.selector s x.roster (registry_selector_of hx)
    obtain ⟨t, ht, -⟩ := hs.own k hk
    refine ⟨?_, fun hqueued => List.count_eq_one_of_mem hs.queuedOnce hqueued⟩
    rw [keyValid_eq, ht]
    exact h.invalid_iff_queued ht (registry_selector_of hx) hk
  cancelled_registered := by
    intro s x hx
    exact (h.selector s x.roster (registry_selector_of hx)).queued
  selected := by
    intro s x hx
    have hs := h.selector s x.roster (registry_selector_of hx)
    exact ⟨hs.selectedOnce, hs.selected⟩
  valid_open := by
    intro k key hkey hvalid
    obtain ⟨d, x, hd, -, hk⟩ := h.key k key.tie (registry_key_of hkey)
    obtain ⟨l, hl, rfl⟩ := listener_of_registry hd
    have hopen : l.standing.isOpen = true := by simpa using (hk.opened hvalid).2
    exact ⟨l, hl, hopen⟩
  closed_empty := by
    intro s x hx hclosed
    obtain ⟨hheld, hqueued, hselected⟩ := h.closed_roster (registry_selector_of hx) hclosed
    refine ⟨List.map_eq_nil_iff.mp hheld, hqueued, hselected, ?_⟩
    intro k key hkey hks
    by_contra hvalid
    have htie : key.tie.valid = true := Bool.not_eq_false _ ▸ hvalid
    obtain ⟨y, hy, hk⟩ := h.held_of_valid (registry_key_of hkey) htie
    rw [show key.tie.selector = s from hks, registry_selector_of hx] at hy
    cases hy
    simp [hheld] at hk
  killed_iff := by
    intro c l hl
    exact (h.channel c l.standing (registry_channel_of hl)).settled

/-- Registration is consistent in every station that a history leads to, whatever the
order of operations on however many channels and selectors, whatever polls answer and
whoever is interrupted. -/
theorem consistent_after (history : List Deed) : (Station.after history).Consistent :=
  consistent_of_sound (sound_after history)

end Station
end PolledChannels
