import PolledChannels.Proofs.CancelledKeys
import PolledChannels.Proofs.SelectionHalves

/-!
# Deregistration in spite of failures

A selection begins by letting the keys leave that were cancelled before it. Then it may end in many
ways: the kill of a channel fails, the poll fails, a wakeup cannot be read, the kill of a channel
whose last key was cancelled by the selection itself fails, or all goes well.

However it ends, the keys that were cancelled have left their selector and their channels, and every
closed channel that lost its last key is killed, also where killing it failed. Of the failures that
come up while those keys leave the first is the one that is answered (`Action.select_deregisters`).
-/

namespace PolledChannels

open PolledChannels.Action Station Registry

/-! ## Registries that deregister keys -/

namespace Registry

variable {g g' g'' : Registry} {s : SelectorId} {k : KeyId} {t : Tie}

theorem DropsKeys.trans (h : g.DropsKeys g') (h' : g'.DropsKeys g'') : g.DropsKeys g'' where
  key := by
    intro k
    rcases h'.key k with hsame | hvoid
    · rw [hsame]
      exact h.key k
    · refine .inr ?_
      rcases h.key k with hsame | hvoid'
      · rw [hvoid, hsame]
      · rw [hvoid, hvoid', Option.map_map]
        rfl
  lists := fun hk => h.lists (h'.lists hk)
  holds := fun hk => h.holds (h'.holds hk)
  usable := fun hs => h'.usable (h.usable hs)

/-- Every channel stays as it is, or it stays open or closed, kept or not, and is killed if it is
closed and lists no key. -/
def Settles (g g' : Registry) : Prop :=
  ∀ c d, g.channel c = some d → ∃ d', g'.channel c = some d' ∧
    (d' = d ∨ d'.isOpen = d.isOpen ∧ d'.alive = d.alive ∧
      (d'.isOpen = false → d'.keys = [] → d'.lifecycle = .killed))

theorem Settles.of_channel (h : g'.channel = g.channel) : g.Settles g' :=
  fun _ d hd => ⟨d, h ▸ hd, .inl rfl⟩

theorem Settles.trans (h : g.Settles g') (h' : g'.Settles g'') : g.Settles g'' := by
  intro c d hd
  obtain ⟨d', hd', rfl | ⟨hopen, halive, hkilled⟩⟩ := h c d hd
  · exact h' c d' hd'
  · obtain ⟨d'', hd'', rfl | ⟨hopen', halive', hkilled⟩⟩ := h' c d' hd'
    · exact ⟨d'', hd'', .inr ⟨hopen, halive, hkilled⟩⟩
    · exact ⟨d'', hd'', .inr ⟨hopen'.trans hopen, halive'.trans halive, hkilled⟩⟩

/-- Keys are dropped and lose their selection, and channels settle. -/
structure Deregisters (g g' : Registry) : Prop where
  dropsKeys : g.DropsKeys g'
  settles : g.Settles g'
  selected : ∀ {s k}, g'.Has Roster.selected s k → g.Has Roster.selected s k

theorem Deregisters.refl (g : Registry) : g.Deregisters g :=
  ⟨.refl g, .of_channel rfl, id⟩

theorem Deregisters.trans (h : g.Deregisters g') (h' : g'.Deregisters g'') : g.Deregisters g'' where
  dropsKeys := h.dropsKeys.trans h'.dropsKeys
  settles := h.settles.trans h'.settles
  selected := fun hk => h.selected (h'.selected hk)

theorem Deregisters.foldl {f : Registry → KeyId → Registry}
    (hf : ∀ g k, Deregisters g (f g k)) (g : Registry)
    (ks : List KeyId) : g.Deregisters (ks.foldl f g) :=
  List.foldlRecOn ks f (.refl g) fun g' h k _ => h.trans (hf g' k)

theorem deregisters_void (g : Registry) (k : KeyId) : g.Deregisters (g.onKey k Tie.void) :=
  ⟨dropsKeys_void g k, .of_channel rfl, id⟩

theorem deregisters_onSelector (g : Registry) (s : SelectorId) {f : Roster → Roster}
    (hheld : ∀ x, ∀ k ∈ (f x).held, k ∈ x.held)
    (hselected : ∀ x, ∀ k ∈ (f x).selected, k ∈ x.selected)
    (husable : ∀ x, (f x).isOpen = x.isOpen ∧ (f x).alive = x.alive) :
      g.Deregisters (g.onSelector s f) where
  dropsKeys := dropsKeys_onSelector g s hheld husable
  settles := .of_channel rfl
  selected := fun hk => hk.of_onSelector hselected

theorem deregisters_cancel (g : Registry) (k : KeyId) : g.Deregisters (g.cancel k) := by
  have hsame (x : Roster) : (x.enqueue k).held = x.held ∧ (x.enqueue k).selected = x.selected ∧
      (x.enqueue k).isOpen = x.isOpen ∧ (x.enqueue k).alive = x.alive := by
    unfold Roster.enqueue
    split <;> exact ⟨rfl, rfl, rfl, rfl⟩
  unfold cancel
  split
  · split
    · refine (deregisters_void g k).trans
        (deregisters_onSelector _ _ (fun x => ?_) (fun x => ?_) fun x => ?_)
      · rw [(hsame x).1]
        exact fun _ => id
      · rw [(hsame x).2.1]
        exact fun _ => id
      · exact (hsame x).2.2
    · exact .refl g
  · exact .refl g

theorem strike_cases (g : Registry) (k : KeyId) :
    (∃ t d, g.key k = some t ∧ g.channel t.channel = some d ∧
      g.strike k = (g.putChannel t.channel (d.dropKey k).settle).onKey k Tie.void) ∨
    (∀ t, g.key k = some t → ¬ g.Lists t.channel k) ∧ g.strike k = g := by
  unfold strike
  split
  · next t ht =>
    split
    · next hkept =>
      obtain ⟨d, hd, -⟩ := (Option.any_eq_true ..).mp hkept
      have hdropped : ((g.putChannel t.channel (d.dropKey k)).onKey k Tie.void).channel t.channel =
          some (d.dropKey k) := by simp [onKey]
      refine .inl ⟨t, d, ht, hd, ?_⟩
      rw [onChannel_of hd, onChannel_of hdropped]
      exact congrArg (fun g => g.onKey k Tie.void) (putChannel_putChannel ..)
    · next hgone =>
      refine .inr ⟨?_, rfl⟩
      rintro u hu ⟨d, hd, halive, -⟩
      cases ht.symm.trans hu
      exact hgone (by simp [hd, halive])
  · next hnone =>
    refine .inr ⟨fun t ht => ?_, rfl⟩
    cases hnone.symm.trans ht

theorem deregisters_strike (g : Registry) (k : KeyId) : g.Deregisters (g.strike k) := by
  rcases strike_cases g k with ⟨t, d, -, hd, hstrike⟩ | ⟨-, hstrike⟩
  · rw [hstrike]
    refine .trans ⟨dropsKeys_putChannel hd ?_ ?_, fun c e he => ?_, id⟩ (deregisters_void _ k)
    · simp only [Standing.settle_keys, Standing.dropKey]
      exact fun j hj => (List.mem_filter.mp hj).1
    · exact (d.dropKey k).settle_alive
    · rw [putChannel_channel]
      split
      · next hc =>
        cases hd.symm.trans (hc ▸ he)
        have hopen := (d.dropKey k).settle_isOpen
        have halive := (d.dropKey k).settle_alive
        refine ⟨_, rfl, .inr ⟨hopen, halive, fun hclosed hkeys => ?_⟩⟩
        rw [hopen] at hclosed
        rw [Standing.settle_keys] at hkeys
        rw [Standing.settle_lifecycle, if_pos ⟨hclosed, hkeys⟩]
      · exact ⟨e, he, .inl rfl⟩
  · rw [hstrike]
    exact .refl g

theorem not_lists_strike (g : Registry) (k : KeyId) (ht : (g.strike k).key k = some t) :
    ¬ (g.strike k).Lists t.channel k := by
  rcases strike_cases g k with ⟨u, d, hu, -, hstrike⟩ | ⟨hunlisted, hstrike⟩
  · rw [hstrike] at ht ⊢
    rintro ⟨d', hd', -, hk⟩
    simp only [onKey, if_true, putChannel_key, hu, Option.map_some, Option.some.injEq] at ht
    subst ht
    simp only [onKey, putChannel_channel, Tie.void_channel, if_true, Option.some.injEq] at hd'
    subst hd'
    simp [Standing.dropKey] at hk
  · rw [hstrike] at ht ⊢
    exact hunlisted t ht

theorem deregisters_dismiss (s : SelectorId) (g : Registry) (k : KeyId) :
    g.Deregisters ((g.onSelector s (Roster.forget k)).strike k) := by
  have hforget : g.Deregisters (g.onSelector s (Roster.forget k)) :=
    deregisters_onSelector g s (fun _ _ hj => (List.mem_filter.mp hj).1)
      (fun _ _ hj => (List.mem_filter.mp hj).1)
      fun _ => ⟨rfl, rfl⟩
  exact hforget.trans (deregisters_strike _ k)

theorem deregisters_purge (g : Registry) (s : SelectorId) : g.Deregisters (g.purge s) := by
  unfold purge
  split
  · refine .trans ?_ (.foldl (deregisters_dismiss s) _ _)
    exact deregisters_onSelector g s (fun _ _ => id) (fun _ _ => id) fun _ => ⟨rfl, rfl⟩
  · exact .refl g

/-! ## Keys that have left -/

/-- The key has left its selector and its channel, and is not selected. -/
def Parted (g : Registry) (s : SelectorId) (k : KeyId) : Prop :=
  g.Gone s k ∧ ¬ g.Has Roster.selected s k

theorem Parted.deregisters (h : g.Parted s k) (hs : g.Deregisters g') : g'.Parted s k :=
  ⟨h.1.dropsKeys hs.dropsKeys, fun hk => h.2 (hs.selected hk)⟩

theorem not_lists_dismiss_all (s : SelectorId) (g : Registry) {ks : List KeyId} (hk : k ∈ ks)
    (ht : (ks.foldl (fun g k => (g.onSelector s (Roster.forget k)).strike k) g).key k = some t) :
    ¬ (ks.foldl (fun g k => (g.onSelector s (Roster.forget k)).strike k) g).Lists t.channel k := by
  induction ks generalizing g with
  | nil => cases hk
  | cons j ks ih =>
    rcases List.mem_cons.mp hk with rfl | hk
    · -- it is struck off first, and only keys that are listed can be listed later
      intro hlists
      have hdrops :=
        (Deregisters.foldl (deregisters_dismiss s)
          ((g.onSelector s (Roster.forget k)).strike k) ks).dropsKeys
      obtain ⟨u, hu, rfl | rfl⟩ := hdrops.key_of ht
      · exact not_lists_strike _ k hu (hdrops.lists hlists)
      · exact not_lists_strike _ k hu (hdrops.lists hlists)
    · exact ih _ hk ht

theorem parted_purge (h : g.Queues s k) : (g.purge s).Parted s k := by
  obtain ⟨x, hx, hk⟩ := h
  have hroster := purge_selector hx
  refine ⟨⟨?_, fun t ht => ?_⟩, ?_⟩
  · rintro ⟨y, hy, hheld⟩
    cases hroster.symm.trans hy
    simp [hk] at hheld
  · simp only [purge, hx] at ht ⊢
    exact not_lists_dismiss_all s _ hk ht
  · rintro ⟨y, hy, hselected⟩
    cases hroster.symm.trans hy
    simp [hk] at hselected

/-- In a sound registry every key that is not valid any more is queued, or has left. -/
theorem Sound.parted_or_queues (h : g.Sound {}) (hmade : g.MadeFor s k) (hinvalid : g.Invalid k) :
    g.Queues s k ∨ g.Parted s k := by
  obtain ⟨t, ht, rfl⟩ := hmade
  obtain ⟨d, x, hd, hx, hsound⟩ := h.key k t ht
  by_cases hheld : k ∈ x.held
  · rcases hsound.dead (hinvalid t ht) hheld with hqueued | htaken
    · exact .inl ⟨x, hx, hqueued⟩
    · cases htaken
  · refine .inr ⟨⟨?_, ?_⟩, ?_⟩
    · rintro ⟨y, hy, hk⟩
      cases hx.symm.trans hy
      exact hheld hk
    · rintro u hu ⟨d', hd', -, hk⟩
      cases ht.symm.trans hu
      cases hd.symm.trans hd'
      rcases hsound.listed hk with hk | hleaving
      · exact hheld hk
      · cases hleaving
    · rintro ⟨y, hy, hk⟩
      cases hx.symm.trans hy
      exact hheld ((h.selector _ x hx).selected k hk)

theorem Parted.choose (h : g.Parted s k) {new : List KeyId} (hnew : k ∉ new) :
    (g.choose s new).Parted s k := by
  obtain ⟨⟨hheld, hlists⟩, hselected⟩ := h
  refine ⟨⟨?_, hlists⟩, ?_⟩
  · exact fun hk => hheld (Has.of_onSelector hk fun _ _ => id)
  · rintro ⟨y, hy, hk⟩
    rw [Registry.choose, onSelector_selector, if_pos rfl] at hy
    obtain ⟨x, hx, rfl⟩ := Option.map_eq_some_iff.mp hy
    rcases List.mem_append.mp hk with hk | hk
    · exact hselected ⟨x, hx, hk⟩
    · exact hnew hk

end Registry

/-! ## The parts of a selection -/

namespace Action

variable {st : Station} {s : SelectorId} {x : Selector}

theorem registry_beginSelect (hx : st.selectors[s]? = some x) (hopen : x.isOpen = true) :
    ((beginSelect s).run st).2.registry = st.registry.purge s := by
  have hsnapshot : Idle (snapshot s) :=
    frames_bind frames_get fun _ => frames_bind (frames_selector s) fun _ => frames_pure _
  rw [beginSelect, run_selector_bind hx, if_pos hopen, registry_bind_idle _ fun _ => hsnapshot,
    registry_processCancelled]

/-- The first failure while the queue is worked off ends the selection. -/
theorem select_of_failedKills (hx : st.selectors[s]? = some x) (hopen : x.isOpen = true) {k : KeyId}
    {e : Failure}
    (hfailed : (Station.failedKills s x.cancelled
      (st.modifySelector s fun x => { x with cancelled := [] })).head? = some (k, e))
    (meanwhile : Network) (answer : PollAnswer) :
    ((select s meanwhile answer).run st).1 = .error e := by
  have hprocess := run_processCancelled hx
  simp only [hfailed, Option.elim_some] at hprocess
  rw [select, run_bind, beginSelect, run_selector_bind hx, if_pos hopen, run_bind, hprocess]

/-- What holds when the queue was worked off, and is kept by cancelling keys, by working off the
queue and by selecting keys that were held then, holds however a selection ends. -/
theorem select_induction {P : Registry → Prop} (hx : st.selectors[s]? = some x)
    (hopen : x.isOpen = true)
    (hbase : P (st.registry.purge s)) (hcancel : ∀ r k, P r → P (r.cancel k))
    (hpurge : ∀ r, P r → P (r.purge s))
    (hchoose : ∀ r new, P r → (∀ k ∈ new, (st.registry.purge s).Holds s k) →
      P (r.choose s new))
    (meanwhile : Network) (answer : PollAnswer) :
    P ((select s meanwhile answer).run st).2.registry := by
  have hbegin := registry_beginSelect hx hopen
  rw [← hbegin] at hbase hchoose
  rw [select, run_bind]
  generalize hrun : (beginSelect s).run st = begun at hbase hchoose ⊢
  obtain ⟨_ | polled, st₁⟩ := begun
  · exact hbase
  · obtain ⟨y, hy, hkeys⟩ := beginSelect_keys hrun
    refine keeps_endSelect hcancel hpurge (fun r new hr hnew => ?_) answer _ hbase
    exact hchoose r new hr fun k hk => ⟨y, hy, hkeys.subset (hnew hk)⟩

end Action

/-! ## Whole selections -/

/-- The selector has queued the key; or all is sound, and the key was made for the selector and is
not valid any more. -/
def Station.Cancelled (st : Station) (s : SelectorId) (k : KeyId) : Prop :=
  st.registry.Queues s k ∨
    st.registry.Sound {} ∧ st.registry.MadeFor s k ∧ st.registry.Invalid k

theorem Station.Cancelled.parted_purge {st : Station} {s : SelectorId} {k : KeyId}
    (h : st.Cancelled s k) :
    (st.registry.purge s).Parted s k := by
  rcases h with hqueued | ⟨hsound, hmade, hinvalid⟩
  · exact Registry.parted_purge hqueued
  · rcases hsound.parted_or_queues hmade hinvalid with hqueued | hparted
    · exact Registry.parted_purge hqueued
    · exact hparted.deregisters (Registry.deregisters_purge _ s)

namespace Action

variable {st : Station} {s : SelectorId} {x : Selector}

theorem selector_select (hx : st.selectors[s]? = some x) (hopen : x.isOpen = true)
    (meanwhile : Network) (answer : PollAnswer) :
      ∃ y, ((select s meanwhile answer).run st).2.registry.selector s = some y := by
  refine select_induction (P := fun r => ∃ y, r.selector s = some y) hx hopen ?_ ?_ ?_ ?_
    meanwhile answer
  · exact ⟨_, purge_selector (registry_selector_of hx)⟩
  · rintro r k ⟨y, hy⟩
    obtain ⟨z, hz, -⟩ := cancel_roster ⟨y, hy, rfl, rfl⟩ k
    exact ⟨z, hz⟩
  · rintro r ⟨y, hy⟩
    exact ⟨_, purge_selector hy⟩
  · rintro r new ⟨y, hy⟩ -
    exact ⟨_, by rw [choose, onSelector_of hy, putSelector_selector, if_pos rfl]⟩

/-- However a selection ends, the cancelled keys have left, and channels have settled. -/
theorem parted_select (hx : st.selectors[s]? = some x) (hopen : x.isOpen = true)
    (meanwhile : Network) (answer : PollAnswer) :
    st.registry.DropsKeys ((select s meanwhile answer).run st).2.registry ∧
      st.registry.Settles ((select s meanwhile answer).run st).2.registry ∧
      ∀ k, st.Cancelled s k → ((select s meanwhile answer).run st).2.registry.Parted s k := by
  have hpurged := deregisters_purge st.registry s
  have hstep {r r' : Registry} (hr : st.registry.DropsKeys r ∧ st.registry.Settles r ∧
      ∀ k, st.Cancelled s k → r.Parted s k) (h : r.Deregisters r') :
      st.registry.DropsKeys r' ∧ st.registry.Settles r' ∧ ∀ k, st.Cancelled s k →
      r'.Parted s k :=
    ⟨hr.1.trans h.dropsKeys, hr.2.1.trans h.settles, fun k hk => (hr.2.2 k hk).deregisters h⟩
  refine select_induction (P := fun r => st.registry.DropsKeys r ∧ st.registry.Settles r ∧
      ∀ k, st.Cancelled s k → r.Parted s k) hx hopen ?_ ?_ ?_ ?_ meanwhile answer
  · exact ⟨hpurged.dropsKeys, hpurged.settles, fun k hk => hk.parted_purge⟩
  · exact fun r k hr => hstep hr (deregisters_cancel r k)
  · exact fun r hr => hstep hr (deregisters_purge r s)
  · -- nothing that has left is polled, so it is not selected either
    rintro r new ⟨hdrops, hsettles, hparted⟩ hnew
    refine ⟨hdrops.trans ?_, hsettles.trans (.of_channel rfl), fun k hk => ?_⟩
    · exact dropsKeys_onSelector r s (fun _ _ => id) fun _ => ⟨rfl, rfl⟩
    · exact (hparted k hk).choose fun hk' => hk.parted_purge.1.1 (hnew k hk')

/-- However a selection ends, the keys that were cancelled before it have left their selector and
their channels, and every closed channel that lost its last key is killed. The first failure while
those keys leave is answered. -/
theorem select_deregisters (hx : st.selectors[s]? = some x) (hopen : x.isOpen = true)
    (meanwhile : Network) (answer : PollAnswer) :
    ∃ outcome st' x', (select s meanwhile answer).run st = (outcome, st') ∧
      st'.selectors[s]? = some x' ∧
      (∀ k, st.Cancelled s k → k ∉ x'.keys ∧ k ∉ x'.selected) ∧
      (∀ c l, st.listeners[c]? = some l → ∃ l', st'.listeners[c]? = some l' ∧
        (∀ k key, st.Cancelled s k → st.key? k = some key → key.channel = c →
          l.alive = true →
          k ∉ l'.core.keys) ∧
        (l.core.isOpen = false → l.core.keys ≠ [] → l'.core.keys = [] →
          l'.lifecycle = .killed)) ∧
      ∀ k e, (Station.failedKills s x.cancelled
          (st.modifySelector s fun x => { x with cancelled := [] })).head? = some (k, e) →
        outcome = .error e := by
  obtain ⟨hdrops, hsettles, hparted⟩ := parted_select hx hopen meanwhile answer
  have hfailed (k : KeyId) (e : Failure) := select_of_failedKills (k := k) (e := e) hx hopen
  obtain ⟨y, hy⟩ := selector_select hx hopen meanwhile answer
  obtain ⟨x', hx', -⟩ := selector_of_registry hy
  refine ⟨_, _, x', rfl, hx', fun k hk => ?_, fun c l hl => ?_, fun k e he =>
    hfailed k e he _ _⟩
  · have hroster := registry_selector_of hx'
    exact ⟨fun hheld => (hparted k hk).1.1 ⟨_, hroster, hheld⟩,
      fun hselected => (hparted k hk).2 ⟨_, hroster, hselected⟩⟩
  · obtain ⟨d', hd', hsettled⟩ := hsettles c l.standing (registry_channel_of hl)
    obtain ⟨l', hl', rfl⟩ := Option.map_eq_some_iff.mp hd'
    refine ⟨l', hl', fun k key hk hkey hc halive hlisted => ?_, fun hclosed hkeys hkeys' => ?_⟩
    · have halive' : l'.standing.alive = true := by
        rcases hsettled with hsame | ⟨-, hsame, -⟩
        · exact hsame ▸ halive
        · exact hsame.trans halive
      obtain ⟨t, ht, hchannel⟩ :
          ∃ t, ((select s meanwhile answer).run st).2.registry.key k = some t ∧
          t.channel = c := by
        rcases hdrops.key k with hsame | hvoid
        · exact ⟨key.tie, hsame.trans (registry_key_of hkey), hc⟩
        · exact ⟨key.tie.void, by rw [hvoid, registry_key_of hkey]; rfl, hc⟩
      refine (hparted k hk).1.2 t ht ⟨l'.standing, ?_, halive', hlisted⟩
      rw [hchannel]
      exact hd'
    · rcases hsettled with hsame | ⟨hopen', -, hkilled⟩
      · exact absurd ((congrArg Standing.keys hsame).symm.trans hkeys') hkeys
      · exact hkilled (hopen'.trans hclosed) hkeys'

/-- Three closed channels with cancelled keys, the last of them with a second selector
too. The descriptor of the first is open and will fail to be closed, that of the second
is not open any more. -/
def closedStation : Station where
  listeners := [
    { id := 1, descriptor := { number := 3 },
      core := { isOpen := false, blocking := false, keys := [1] } },
    { id := 2, descriptor := { number := 4 },
      core := { isOpen := false, blocking := false, keys := [2] } },
    { id := 3, descriptor := { number := 5 },
      core := { isOpen := false, blocking := false, keys := [3, 4] } }]
  selectors := [
    { registered := [(1, Native.input), (2, Native.input), (3, Native.input)],
      cancelled := [3, 2, 1], selected := [3, 1] },
    { registered := [(4, Native.input)], cancelled := [4] }]
  keys := [
    { selector := 0, channel := 0, valid := false },
    { selector := 0, channel := 1, valid := false },
    { selector := 0, channel := 2, valid := false },
    { selector := 1, channel := 2, valid := false }]
  network := {
    files := [(3, { kind := .pipeReader 0 })], pipes := [{}], faults := [some (.os .noSpace)] }

theorem killed_though_kills_fail :
    ∃ st' x' l₀ l₁ l₂, (select 0 {} (.reported (fun _ => 0) false)).run closedStation =
        (.error (.io (.os .badDescriptor)), st') ∧
      st'.selectors[0]? = some x' ∧ (∀ k ∈ [1, 2, 3], k ∉ x'.keys ∧ k ∉ x'.selected) ∧
      st'.listeners[0]? = some l₀ ∧ l₀.lifecycle = .killed ∧
      st'.listeners[1]? = some l₁ ∧ l₁.lifecycle = .killed ∧
      st'.listeners[2]? = some l₂ ∧ 3 ∉ l₂.core.keys := by
  have hcancelled : ∀ k ∈ [1, 2, 3], closedStation.Cancelled 0 k := by
    intro k hk
    refine .inl ⟨_, rfl, ?_⟩
    show k ∈ [1, 2, 3].reverse
    exact List.mem_reverse.mpr hk
  have hlast : (((select 0 {} (.reported (fun _ => 0) false)).run closedStation).2.listeners.map
      fun l => l.core.keys) = [[], [], [4]] := by
    decide +kernel
  obtain ⟨outcome, st', x', hrun, hx', hgone, hchannels, hfailed⟩ :=
    select_deregisters (show closedStation.selectors[0]? = some _ from rfl) rfl {}
      (.reported (fun _ => 0) false)
  obtain rfl := hfailed 2 (.io (.os .badDescriptor)) (by decide +kernel)
  rw [hrun] at hlast
  have hkeys {c : ListenerId} {l : Listener} (hl : st'.listeners[c]? = some l) :
      [[], [], [4]][c]? = some l.core.keys := by
    rw [← hlast, List.getElem?_map, hl]
    rfl
  obtain ⟨l₀, hl₀, -, hkilled₀⟩ := hchannels 0 _ rfl
  obtain ⟨l₁, hl₁, -, hkilled₁⟩ := hchannels 1 _ rfl
  obtain ⟨l₂, hl₂, hleft, -⟩ := hchannels 2 _ rfl
  refine ⟨st', x', l₀, l₁, l₂, hrun, hx', fun k hk => hgone k (hcancelled k hk), hl₀, ?_,
    hl₁, ?_, hl₂, ?_⟩
  · exact hkilled₀ rfl (by decide) (Option.some.inj (hkeys hl₀)).symm
  · exact hkilled₁ rfl (by decide) (Option.some.inj (hkeys hl₁)).symm
  · exact hleft 3 _ (hcancelled 3 (by decide)) rfl rfl rfl

end Action
end PolledChannels
