import PolledChannels.Proofs.SelectionHalves

/-!
# Selecting once more

A selection that is followed by another one, with nothing in between and with the same events for
every key that is still registered, has brought everything to rest: the second one counts nothing
and changes neither keys, nor channels, nor the collections of a selector
(`Action.select_again`). 
What carries this is a fact about one key. A report that a selected key merges, or that any other
key starts from, is absorbed by it: once more it changes nothing (`Key.heed_heed`) and does not
count (`Key.gains_heed`). Keys that a strict provider expelled are not polled again.
-/

namespace PolledChannels

open PolledChannels.Action Station

/-- A report that selects and expels nothing leaves a selector without a queue as it is. -/
theorem Selector.conclude_nil {x : Selector} (hqueue : x.cancelled = []) :
    x.conclude [] [] = x := by
  have hsame : { x.enqueue [] with selected := x.selected ++ [] } = x := by
    simp [enqueue]
  rw [conclude, hsame, forget_nil, ← hqueue]

theorem Key.heed_valid (key : Key) (selected : Bool) (events : Mask) :
    (key.heed selected events).valid = key.valid := by
  unfold heed
  split <;> rfl

namespace Station

variable {st st' : Station} {key : Key} {events : Mask}

/-- A key that hears of something and is not cancelled for it takes the report in. -/
theorem heed_of_hears (hhears : st.hears events key = true)
    (hcondemns : st.condemns events key = false)
    (selected : Bool) : st.heed selected events key = key.heed selected events := by
  have hvalid := key.heed_valid selected events
  simp only [heed, hhears, if_true, hcondemns, Bool.not_false, Bool.and_true, ← hvalid]

theorem valid_of_heed {selected : Bool} (h : (st.heed selected events key).valid = true) :
    key.valid = true := by
  unfold heed at h
  split at h
  · exact (Bool.and_eq_true_iff.mp h).1
  · exact h

theorem heed_of_not_hears (hhears : st.hears events key = false) (selected : Bool) :
    st.heed selected events key = key := by
  simp [heed, hhears]

end Station

/-! ## A key that was visited -/

/-- Only these parts of a station have a say in what comes of a visit. -/
structure SameHearing (st st' : Station) : Prop where
  alive : ∀ c, st'.listenerAlive c = st.listenerAlive c
  opened : ∀ c, st'.listenerOpen c = st.listenerOpen c
  provider : st'.provider = st.provider

theorem SameHearing.trans {st st' st'' : Station} (h : SameHearing st st')
    (h' : SameHearing st' st'') :
    SameHearing st st'' :=
  ⟨fun c => (h'.alive c).trans (h.alive c), fun c => (h'.opened c).trans (h.opened c),
    h'.provider.trans h.provider⟩

namespace SameHearing

variable {st st' : Station} (h : SameHearing st st') {key key' : Key}
  (hchannel : key'.channel = key.channel) (events : Mask)
include h hchannel

theorem hears : st'.hears events key' = st.hears events key := by
  simp only [Station.hears, hchannel, h.alive]

theorem blames : st'.blames events key' = st.blames events key := by
  simp only [Station.blames, h.hears hchannel, hchannel, h.opened]

end SameHearing

/-- A key that was visited and kept is at rest: the same report would change
nothing and not count. -/
theorem SameHearing.at_rest {st st' : Station} (h : SameHearing st st') {key : Key} {events : Mask}
    (hvalid : key.valid = true) (hcondemns : st.condemns events key = false) (selected : Bool) :
    let heeded := st.heed selected events key
    let selected' := selected || (st.hears events key && key.gains selected events)
    st'.heed selected' events heeded = heeded ∧ st'.condemns events heeded = false ∧
      (st'.hears events heeded && heeded.gains selected' events) = false := by
  intro heeded selected'
  have hchannel : heeded.channel = key.channel := st.heed_channel selected events key
  have hhears := h.hears hchannel events
  have hcondemns' : st'.condemns events heeded = false := by
    have hblames : (st.blames events key && st.provider.invalid.invalidatesKey) = false := by
      simpa [condemns, hvalid] using hcondemns
    simp only [condemns, h.blames hchannel, h.provider, hblames, Bool.false_and]
  cases hheard : st.hears events key with
  | false =>
    rw [hheard] at hhears
    exact ⟨heed_of_not_hears hhears selected', hcondemns', by simp [hhears]⟩
  | true =>
    have hheeded : heeded = key.heed selected events := heed_of_hears hheard hcondemns selected
    have hselected' : selected' = (selected || key.gains selected events) := by
      simp [selected', hheard]
    rw [hheard] at hhears
    rw [heed_of_hears hhears hcondemns', hhears, hheeded, hselected', Key.heed_heed, Key.gains_heed]
    exact ⟨rfl, hheeded ▸ hcondemns', rfl⟩

/-! ## A station that took a report in -/

/-- What is reported of a key would change nothing and not count. -/
def Station.Absorbs (st : Station) (already : List KeyId) (p : KeyId × Mask) : Prop :=
  (st.key? p.1).map (st.heed (already.contains p.1) p.2) = st.key? p.1 ∧
    st.condemned p = false ∧ st.counted already p = false

namespace Concluded

variable {s : SelectorId} {already : List KeyId} {reported : List (KeyId × Mask)}
  {st st' : Station} {x : Selector}

theorem sameHearing (h : Concluded s already reported st st') : SameHearing st st' where
  alive := by
    intro c
    simp only [listenerAlive, h.listener]
    cases st.listeners[c]? with
    | none => rfl
    | some l => exact l.lose_alive _
  opened := by
    intro c
    simp only [listenerOpen, h.listener]
    cases st.listeners[c]? with
    | none => rfl
    | some l => exact l.lose_isOpen _
  provider := by rw [h.rest]

/-- A report that every key has absorbed, and that cancels none, changes nothing. -/
theorem eq_of_at_rest (h : Concluded s already reported st st') (hx : st.selectors[s]? = some x)
    (hqueue : x.cancelled = []) (hrest : ∀ p ∈ reported, st.Absorbs already p) :
    st' = { st with reports := st'.reports } := by
  have hchosen : st.chosen already reported = [] := by
    simp only [Station.chosen, List.map_eq_nil_iff, List.filter_eq_nil_iff]
    intro p hp
    simp [Station.picked, (hrest p hp).2.2]
  have hexpelled : st.expelled reported = [] := by
    simp only [Station.expelled, List.map_eq_nil_iff, List.filter_eq_nil_iff]
    intro p hp
    simp [(hrest p hp).2.1]
  have hkeys : st'.keys = st.keys := by
    refine Station.keys_ext fun k => ?_
    by_cases hk : k ∈ reported.map Prod.fst
    · obtain ⟨p, hp, rfl⟩ := List.mem_map.mp hk
      rw [h.told p hp, (hrest p hp).1]
    · exact h.untold k hk
  have hlisteners : st'.listeners = st.listeners := by
    refine List.ext_getElem? fun c => ?_
    have hsame :
        (Listener.lose fun k => (st.expelled reported).contains k && st.isKeyOf c k) = id := by
      rw [hexpelled]
      exact funext fun l => Listener.lose_of_none fun _ _ => rfl
    rw [h.listener, hsame, Option.map_id_apply]
  have hselectors : st'.selectors = st.selectors := by
    have hself := Station.modifySelector_self hx (f := Selector.conclude [] [])
      (Selector.conclude_nil hqueue)
    rw [h.selectors, hchosen, hexpelled]
    exact congrArg Station.selectors hself
  have hother := h.rest
  rw [hkeys, hlisteners, hselectors] at hother
  exact hother

section Again

variable {polled : List Polled} {events : Polled → Mask} {y : Selector} {p : Polled}
  (hpolling : Polling s x polled st) (h : Concluded s x.selected (reportOf events polled) st st')
  (hy : st'.selectors[s]? = some y)
include hpolling h hy

theorem quiet : y.isOpen = true ∧ y.cancelled = [] := by
  cases (h.selector hpolling.selector).symm.trans hy
  exact ⟨hpolling.opened, rfl⟩

/-- What is polled after a report was polled before, and its key was not expelled. -/
theorem polled_before (hp : p ∈ st'.polls y) :
    p ∈ polled ∧ st.condemned (p.key, events p) = false ∧
      ∃ key, st.key? p.key = some key ∧ key.valid = true := by
  cases (h.selector hpolling.selector).symm.trans hy
  obtain ⟨hregistered, key', l', hkey', hvalid', hl', halive', hnumber⟩ := mem_polls.mp hp
  obtain ⟨hregistered, hkept⟩ := List.mem_filter.mp hregistered
  -- the key was there and valid, since no report makes a key valid
  obtain ⟨key, hkey, hvalid, hchannel⟩ : ∃ key, st.key? p.key = some key ∧
      key.valid = true ∧
      key'.channel = key.channel := by
    by_cases hk : p.key ∈ (reportOf events polled).map Prod.fst
    · obtain ⟨q, hq, hqk⟩ := List.mem_map.mp hk
      have htold := h.told q hq
      rw [hqk, hkey'] at htold
      obtain ⟨key, hkey, hheed⟩ := Option.map_eq_some_iff.mp htold.symm
      refine ⟨key, hkey, ?_, ?_⟩
      · exact valid_of_heed (hheed ▸ hvalid')
      · rw [← hheed, heed_channel]
    · exact ⟨key', (h.untold _ hk).symm.trans hkey', hvalid', rfl⟩
  rw [h.listener, hchannel] at hl'
  obtain ⟨l, hl, rfl⟩ := Option.map_eq_some_iff.mp hl'
  rw [Listener.lose_alive] at halive'
  rw [Listener.lose_descriptor] at hnumber
  have hpolled : p ∈ polled := hpolling.polls.mem_iff.mpr
    (mem_polls.mpr ⟨hregistered, key, l, hkey, hvalid, hl, halive', hnumber⟩)
  refine ⟨hpolled, ?_, key, hkey, hvalid⟩
  rw [← contains_expelled (hpolling.reported_once events) (mem_reportOf hpolled events)]
  simpa using hkept

/-- In a station that hears the same, what is reported of a key that is polled again is absorbed. -/
theorem absorbs {again : Station} (hsame : SameHearing st' again)
    (hkeys : ∀ k, again.key? k = st'.key? k) (hp : p ∈ st'.polls y) :
    again.Absorbs y.selected (p.key, events p) := by
  obtain ⟨hpolled, hcondemned, key, hkey, hvalid⟩ := polled_before hpolling h hy hp
  have hreported := mem_reportOf hpolled events
  have hcondemns : st.condemns (events p) key = false := by
    simpa [condemned, hkey] using hcondemned
  have hselected : y.selected.contains p.key =
      (x.selected.contains p.key || (st.hears (events p) key &&
        key.gains (x.selected.contains p.key) (events p))) := by
    cases (h.selector hpolling.selector).symm.trans hy
    have hafter := st.contains_selected x (hpolling.reported_once events) hreported
    rwa [hcondemned, Bool.not_false, Bool.and_true, counted, hkey, Option.any_some] at hafter
  have hheeded : again.key? p.key = some (st.heed (x.selected.contains p.key) (events p) key) := by
    rw [hkeys, h.told _ hreported, hkey, Option.map_some]
  have hhearing : SameHearing st again := h.sameHearing.trans hsame
  obtain ⟨hheed, hcondemns', hgains⟩ :=
    hhearing.at_rest hvalid hcondemns (x.selected.contains p.key)
  rw [Station.Absorbs, condemned, counted, hheeded, hselected]
  exact ⟨congrArg some hheed, hcondemns', hgains⟩

end Again
end Concluded

/-! ## Whole selections -/

namespace Action

variable {st st₁ : Station} {s : SelectorId} {x : Selector}

/-- A selection begins with nothing to do if no key is cancelled. -/
theorem run_beginSelect_quiet (hx : st.selectors[s]? = some x) (hopen : x.isOpen = true)
    (hqueue : x.cancelled = []) : (beginSelect s).run st = (.ok (st.polls x), st) := by
  have htaken : (st.modifySelector s fun x => { x with cancelled := [] }) = st :=
    modifySelector_self hx (by rw [← hqueue])
  have hprocess := run_processCancelled_open hx (by simp [hqueue])
  rw [htaken, hqueue, without_nil] at hprocess
  rw [beginSelect, run_selector_bind hx, if_pos hopen, run_bind_ok hprocess, run_snapshot hx]

/-- A selection that ended well has taken its report in. -/
theorem concluded_of_select (h : st.registry.WellHeld) {meanwhile : Network} {answer : PollAnswer}
    {events : Polled → Mask} {n : Nat}
    (hselect : (select s meanwhile answer).run st = (.ok n, st₁))
    (hanswer : answer.events? = some events) :
    ∃ x polled st₀, Polling s x polled st₀ ∧
      Concluded s x.selected (reportOf events polled) st₀ st₁ := by
  obtain ⟨polled, st₀, hbegin, -⟩ := of_run_bind hselect
  obtain ⟨x, hpolling⟩ := polling_of_begin h hbegin
  obtain ⟨wake, hheard⟩ := answer.polling_hear (hpolling.meanwhile meanwhile)
  obtain ⟨st₂, hrun, hconcluded⟩ := run_endSelect (hpolling.meanwhile meanwhile) hanswer
  rw [run_select_of_begin hbegin, hrun] at hselect
  cases hselect
  exact ⟨_, polled, _, hheard, hconcluded⟩

/-- A selection once more, with the same events for every key that is still registered. -/
theorem select_again (h : st.Reachable) {meanwhile meanwhile' : Network}
    {answer answer' : PollAnswer} {events events' : Polled → Mask} {n : Nat}
    (hselect : (select s meanwhile answer).run st = (.ok n, st₁))
    (hx : st₁.selectors[s]? = some x)
    (hanswer : answer.events? = some events) (hanswer' : answer'.events? = some events')
    (hsame : ∀ p : Polled, p.key ∈ x.keys → events' p = events p) :
    ∃ selectors reports,
      (select s meanwhile' answer').run st₁ =
        (.ok 0, { st₁ with network := meanwhile', selectors, reports }) ∧
      selectors.map Selector.still = st₁.selectors.map Selector.still := by
  obtain ⟨x₀, polled, st₀, hpolling, hconcluded⟩ :=
    concluded_of_select h.wellHeld hselect hanswer
  obtain ⟨hopen, hqueue⟩ := hconcluded.quiet hpolling hx
  -- the second selection finds no queue
  have hbegin := run_beginSelect_quiet hx hopen hqueue
  have hreachable : st₁.Reachable := by
    have hdeed := h.deed (.select s meanwhile answer)
    rwa [show Deed.perform st (.select s meanwhile answer) = st₁ from congrArg Prod.snd hselect]
      at hdeed
  obtain ⟨y, hpolling'⟩ := polling_of_begin hreachable.wellHeld hbegin
  cases hx.symm.trans hpolling'.selector
  obtain ⟨st₂, hrun, hconcluded'⟩ := run_endSelect (hpolling'.meanwhile meanwhile') hanswer'
  obtain ⟨wake, hx'⟩ := answer'.selector_hear (hpolling'.meanwhile meanwhile').selector
  obtain ⟨selectors, hheard, hstill⟩ := answer'.hear_eq s { st₁ with network := meanwhile' }
  rw [hheard] at hrun hconcluded' hx'
  -- every key that is polled has absorbed what is reported of it
  have hrest : ∀ q ∈ reportOf events' (st₁.polls x),
      Station.Absorbs { st₁ with network := meanwhile', selectors } x.selected q := by
    intro q hq
    obtain ⟨p, hp, rfl⟩ := List.mem_map.mp hq
    have hregistered := (mem_polls.mp hp).1
    rw [hsame p (List.mem_map_of_mem hregistered)]
    exact hconcluded.absorbs hpolling hx ⟨fun _ => rfl, fun _ => rfl, rfl⟩ (fun _ => rfl) hp
  have hcount : (reportOf events' (st₁.polls x)).countP
      (counted { st₁ with network := meanwhile', selectors } x.selected) = 0 :=
    List.countP_eq_zero.mpr fun q hq => by rw [(hrest q hq).2.2]; exact Bool.false_ne_true
  have hst₂ := hconcluded'.eq_of_at_rest hx' hqueue hrest
  refine ⟨selectors, st₂.reports, ?_, hstill⟩
  rw [run_select_of_begin hbegin, hrun, hcount]
  exact congrArg _ hst₂

/-- The first key was selected and waits for nothing since, the second is new, the third is
about to be cancelled. -/
def unsettled : Station :=
  Station.after (threeChannels ++
    [.select 0 {} (.reported (fun p => if p.key = 1 then Native.hangUp else 0) false),
      .setInterest 1 0])

theorem nothing_new_the_second_time :
    ∃ st₁, (select 0 {} mixedReport).run unsettled = (.ok 1, st₁) ∧
      ∃ selectors reports,
        (select 0 {} mixedReport).run st₁ =
          (.ok 0, { st₁ with network := {}, selectors, reports }) ∧
        selectors.map Selector.still = st₁.selectors.map Selector.still := by
  have hselect : (select 0 {} mixedReport).run unsettled =
      (.ok 1, ((select 0 {} mixedReport).run unsettled).2) :=
    Prod.ext (by decide +kernel) rfl
  obtain ⟨x, hx⟩ : ∃ x, ((select 0 {} mixedReport).run unsettled).2.selectors[0]? = some x :=
    Option.isSome_iff_exists.mp (by decide +kernel)
  have hanswer : mixedReport.events? = some _ := rfl
  exact ⟨_, hselect, select_again (reachable_after _) hselect hx hanswer hanswer fun _ _ => rfl⟩

end Action
end PolledChannels
