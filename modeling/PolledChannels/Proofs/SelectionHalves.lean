import PolledChannels.Proofs.Reachable
import PolledChannels.Proofs.Withdrawals

/-!
# The two halves of a selection

The first half of a selection lets cancelled keys leave and says what is to be polled: the valid
keys that the selector still holds, each of them once. The second half takes in what the poll
reported. Where it reported at all, the second half does not fail. It changes ready sets, selects
keys and, under a strict provider, expels keys of open channels; all of this is known from the
report, key by key (`Concluded`).
-/

namespace PolledChannels

open PolledChannels.Action Station Roster

variable {s : SelectorId} {st : Station} {x : Selector} {polled : List Polled}

/-! ## Taking in a report -/

/-- What a report leaves of its selector: keys are selected and keys are expelled. -/
def Selector.conclude (chosen expelled : List KeyId) (x : Selector) : Selector :=
  { Selector.forget expelled { x.enqueue expelled with selected := x.selected ++ chosen } with
    cancelled := [] }

/-- What the second half of a selection has made of a station. -/
structure Concluded (s : SelectorId) (already : List KeyId) (reported : List (KeyId × Mask))
    (st st' : Station) : Prop where
  told : ∀ p ∈ reported,
    st'.key? p.1 = (st.key? p.1).map (st.heed (already.contains p.1) p.2)
  untold : ∀ k, k ∉ reported.map Prod.fst → st'.key? k = st.key? k
  listener : ∀ c, st'.listeners[c]? =
    st.listeners[c]?.map (Listener.lose fun k => (st.expelled reported).contains k &&
      st.isKeyOf c k)
  selectors : st'.selectors =
    st.selectors.modify s (Selector.conclude (st.chosen already reported) (st.expelled reported))
  reports : st'.reports = st.reports ++ reported.flatMap st.complaints
  rest : st' =
    { st with
      keys := st'.keys
      listeners := st'.listeners
      selectors := st'.selectors
      reports := st'.reports }

namespace Station

variable {st : Station} {already : List KeyId} {reported : List (KeyId × Mask)} {p : KeyId × Mask}
  {k : KeyId}

theorem mem_expelled : k ∈ st.expelled reported ↔ ∃ p ∈ reported, st.condemned p = true ∧
    p.1 = k := by
  simp [expelled]

/-- A key that is reported once goes by what its report says. -/
theorem contains_of_reported_once (hdistinct : (reported.map Prod.fst).Nodup) (hp : p ∈ reported)
    (P : KeyId × Mask → Bool) : ((reported.filter P).map Prod.fst).contains p.1 = P p := by
  rw [Bool.eq_iff_iff, List.contains_iff_mem, List.mem_map]
  constructor
  · rintro ⟨q, hq, hqp⟩
    obtain ⟨hq, hP⟩ := List.mem_filter.mp hq
    rwa [List.inj_on_of_nodup_map hdistinct hq hp hqp] at hP
  · exact fun hP => ⟨p, List.mem_filter.mpr ⟨hp, hP⟩, rfl⟩

theorem contains_expelled (hdistinct : (reported.map Prod.fst).Nodup) (hp : p ∈ reported) :
    (st.expelled reported).contains p.1 = st.condemned p :=
  contains_of_reported_once hdistinct hp st.condemned

/-- A key that is reported is selected afterwards if it was before or if it counts,
unless it is expelled. -/
theorem contains_selected (st : Station) (x : Selector) (hdistinct : (reported.map Prod.fst).Nodup)
    (hp : p ∈ reported) :
    (x.conclude (st.chosen x.selected reported) (st.expelled reported)).selected.contains p.1 =
      ((x.selected.contains p.1 || st.counted x.selected p) && !st.condemned p) := by
  have hchosen : p.1 ∈ st.chosen x.selected reported ↔ st.picked x.selected p = true := by
    rw [← List.contains_iff_mem, chosen, contains_of_reported_once hdistinct hp]
  have hpicked : p.1 ∈ x.selected ∨ st.picked x.selected p = true ↔
      p.1 ∈ x.selected ∨ st.counted x.selected p = true := by
    by_cases hselected : p.1 ∈ x.selected
    · simp [hselected]
    · simp [picked, hselected]
  rw [Bool.eq_iff_iff, List.contains_iff_mem]
  simp only [Selector.conclude, Selector.forget, List.mem_filter, List.mem_append, hchosen, hpicked,
    contains_expelled hdistinct hp, Bool.and_eq_true, Bool.or_eq_true, List.contains_iff_mem]

theorem heed_channel (st : Station) (selected : Bool) (events : Mask) (key : Key) :
    (st.heed selected events key).channel = key.channel := by
  unfold heed
  split
  · show (key.heed selected events).channel = key.channel
    unfold Key.heed
    split <;> rfl
  · rfl

/-- A key that is expelled is not valid any more, and its channel is open. -/
theorem of_condemned {key : Key} (hcondemned : st.condemned p = true) (hk : st.key? p.1 = some key)
    (selected : Bool) :
    (st.heed selected p.2 key).valid = false ∧ st.listenerOpen key.channel = true := by
  have hcondemns : st.condemns p.2 key = true := by simpa [condemned, hk] using hcondemned
  refine ⟨by rw [heed_of_condemns hcondemns], ?_⟩
  simp only [condemns, blames, Bool.and_eq_true] at hcondemns
  exact hcondemns.1.1.2

end Station

theorem Concluded.selector {already : List KeyId} {reported : List (KeyId × Mask)} {st' : Station}
    (h : Concluded s already reported st st') (hx : st.selectors[s]? = some x) :
    st'.selectors[s]? = some (x.conclude (st.chosen already reported) (st.expelled reported)) := by
  rw [h.selectors, List.getElem?_modify_eq, hx]
  rfl

namespace Heeded

variable {s : SelectorId} {already : List KeyId} {reported : List (KeyId × Mask)}
  {st st₁ : Station} (h : Heeded s already reported st st₁)
include h

theorem isKeyOf (c : ListenerId) (k : KeyId) : st₁.isKeyOf c k = st.isKeyOf c k := by
  unfold Station.isKeyOf
  by_cases hk : k ∈ reported.map Prod.fst
  · obtain ⟨p, hp, rfl⟩ := List.mem_map.mp hk
    rw [h.told p hp]
    cases st.key? p.1 with
    | none => rfl
    | some key => simp only [Option.map_some, Option.any_some, Station.heed_channel]
  · rw [h.untold k hk]

theorem open_of_expelled {k : KeyId} (hk : k ∈ st.expelled reported) {key : Key}
    (hkey : st₁.key? k = some key) : st₁.listenerOpen key.channel = true := by
  obtain ⟨p, hp, hcondemned, rfl⟩ := mem_expelled.mp hk
  rw [h.told p hp] at hkey
  obtain ⟨key', hkey', rfl⟩ := Option.map_eq_some_iff.mp hkey
  rw [heed_channel, listenerOpen, h.listeners]
  exact (of_condemned hcondemned hkey' true).2

/-- After the report keys are selected, and the keys in the queue leave. -/
theorem concluded (hdistinct : (reported.map Prod.fst).Nodup) :
    Concluded s already reported st
      (((st₁.modifySelector s fun x =>
          { x with selected := x.selected ++ st.chosen already reported }).modifySelector s fun x =>
        { x with cancelled := [] }).without s (st.expelled reported)) where
  told := by
    intro p hp
    rw [key?_without, contains_expelled hdistinct hp]
    show (st₁.key? p.1).map _ = _
    rw [h.told p hp, Option.map_map]
    cases hk : st.key? p.1 with
    | none => rfl
    | some key =>
      simp only [Option.map_some, Function.comp_apply]
      cases hcondemned : st.condemned p with
      | false => simp
      | true =>
        -- an expelled key is not valid already
        have hvalid := (of_condemned hcondemned hk (already.contains p.1)).1
        generalize st.heed (already.contains p.1) p.2 key = heeded at hvalid ⊢
        rw [hvalid, Bool.false_and, ← hvalid]
  untold := by
    intro k hk
    have hkept : (st.expelled reported).contains k = false := by
      rw [← Bool.not_eq_true, List.contains_iff_mem, mem_expelled]
      rintro ⟨p, hp, -, rfl⟩
      exact hk (List.mem_map_of_mem hp)
    rw [key?_without, hkept]
    show (st₁.key? k).map _ = _
    rw [h.untold k hk]
    simp
  listener := by
    intro c
    rw [listener_without]
    show (st₁.listeners[c]?).map _ = _
    rw [h.listeners]
    refine congrArg (fun lost => (st.listeners[c]?).map (Listener.lose lost)) (funext fun k => ?_)
    exact congrArg _ (h.isKeyOf c k)
  selectors := by
    show ((st₁.selectors.modify s _).modify s _).modify s _ = _
    rw [h.selectors]
    simp only [List.modify_modify_eq]
    rfl
  reports := h.reports
  rest := by
    generalize hst' : without _ s _ = st'
    have hother : st' = { st₁ with
        keys := st'.keys
        listeners := st'.listeners
        selectors := st'.selectors
        reports := st'.reports } := by
      rw [← hst']
      rfl
    exact hother.trans (congrArg (fun t : Station =>
      { t with
        keys := st'.keys
        listeners := st'.listeners
        selectors := st'.selectors
        reports := st'.reports }) h.rest)

end Heeded

/-- The second half of a selection, for distinct keys that the selector holds. -/
theorem Action.run_finishSelect {reported : List (KeyId × Mask)} (hx : st.selectors[s]? = some x)
    (hqueue : x.cancelled = []) (hdistinct : (reported.map Prod.fst).Nodup)
    (hheld : st.Holds s (reported.map Prod.fst)) :
    ∃ st', (finishSelect s reported).run st =
        (.ok (reported.countP (st.counted x.selected)), st') ∧
      Concluded s x.selected reported st st' := by
  obtain ⟨st₁, hrun, hheeded⟩ := run_visitAll hdistinct hheld x.selected
  refine ⟨_, ?_, hheeded.concluded hdistinct⟩
  generalize hst₂ : (st₁.modifySelector s fun x' =>
    { x' with selected := x'.selected ++ st.chosen x.selected reported }) = st₂
  have hx₂ : st₂.selectors[s]? = some { x.enqueue (st.expelled reported) with
      selected := x.selected ++ st.chosen x.selected reported } := by
    rw [← hst₂]
    exact selector_modifySelector (hheeded.selector hx) _
  -- the keys that are expelled are all that the queue holds
  have hqueue₂ : (x.enqueue (st.expelled reported)).cancelled = st.expelled reported := by
    simp [Selector.enqueue, hqueue]
  have hprocess := run_processCancelled_open hx₂ (by
    intro k hk key hkey
    subst hst₂
    exact hheeded.open_of_expelled (hqueue₂ ▸ hk) hkey)
  rw [hqueue₂] at hprocess
  rw [finishSelect, run_selector_bind hx, run_bind_ok hrun]
  simp only [run_bind, run_modify, hst₂, hprocess]
  rfl

/-! ## What there is to poll -/

namespace Registry

variable {r : Registry} {s : SelectorId}

/-- The roster of a selector after keys left it one after the other. -/
theorem selector_dismiss_all {x : Roster} (hx : r.selector s = some x) (ks : List KeyId) :
    (ks.foldl (fun r k => (r.onSelector s (Roster.forget k)).strike k) r).selector s =
      some { x with
        held := x.held.filter fun k => !ks.contains k
        selected := x.selected.filter fun k => !ks.contains k } := by
  induction ks generalizing r x with
  | nil => simpa using hx
  | cons k ks ih =>
    have hforget : ((r.onSelector s (forget k)).strike k).selector s = some (x.forget k) := by
      rw [strike_selector, onSelector_of hx]
      simp
    rw [List.foldl_cons, ih hforget]
    simp only [forget, List.filter_filter, List.contains_cons, Bool.not_or, bne, Bool.and_comm]

/-- The cancelled keys are gone from the roster of a selector, and so is the queue. -/
theorem purge_selector {x : Roster} (hx : r.selector s = some x) :
    (r.purge s).selector s =
      some { x with
        held := x.held.filter fun k => !x.queued.contains k
        queued := []
        selected := x.selected.filter fun k => !x.queued.contains k } := by
  have htaken : (r.onSelector s takeQueue).selector s = some x.takeQueue := by
    rw [onSelector_of hx]
    simp
  simp only [purge, hx]
  exact selector_dismiss_all htaken x.queued

end Registry

/-- What a selection would poll now. -/
def Station.polls (st : Station) (x : Selector) : List Polled :=
  x.registered.filterMap fun p => (st.key? p.1).bind fun key =>
    if key.valid && st.listenerAlive key.channel then
      st.listeners[key.channel]?.map fun l => ⟨p.1, l.descriptor.number, p.2⟩
    else none

theorem Station.mem_polls {p : Polled} :
    p ∈ st.polls x ↔ (p.key, p.mask) ∈ x.registered ∧
      ∃ key l, st.key? p.key = some key ∧ key.valid = true ∧
      st.listeners[key.channel]? = some l ∧
        l.alive = true ∧ p.number = l.descriptor.number := by
  simp only [polls, List.mem_filterMap, Option.bind_eq_some_iff]
  constructor
  · rintro ⟨q, hq, key, hkey, hp⟩
    split at hp
    · next hvalid =>
      obtain ⟨l, hl, rfl⟩ := Option.map_eq_some_iff.mp hp
      obtain ⟨hvalid, halive⟩ := Bool.and_eq_true_iff.mp hvalid
      exact ⟨hq, key, l, hkey, hvalid, hl, by simpa [listenerAlive, hl] using halive, rfl⟩
    · cases hp
  · rintro ⟨hp, key, l, hkey, hvalid, hl, halive, hnumber⟩
    refine ⟨_, hp, key, hkey, ?_⟩
    simp [listenerAlive, hl, hvalid, halive, ← hnumber]

/-- A selection is about to poll, in whatever order. -/
structure Polling (s : SelectorId) (x : Selector) (polled : List Polled) (st : Station) : Prop where
  selector : st.selectors[s]? = some x
  opened : x.isOpen = true
  queue : x.cancelled = []
  polls : polled.Perm (st.polls x)
  distinct : (polled.map Polled.key).Nodup
  held : st.Holds s (polled.map Polled.key)

namespace Polling

variable {s : SelectorId} {x : Selector} {polled polled' : List Polled} {st : Station}

theorem meanwhile (h : Polling s x polled st) (meanwhile : Network) :
    Polling s x polled { st with network := meanwhile } :=
  ⟨h.selector, h.opened, h.queue, h.polls, h.distinct, h.held⟩

theorem perm (h : Polling s x polled st) (hperm : polled'.Perm polled) :
    Polling s x polled' st where
  __ := h
  polls := hperm.trans h.polls
  distinct := (hperm.map Polled.key).nodup_iff.mpr h.distinct
  held := h.held.mono (hperm.map Polled.key).subset

end Polling

namespace Action

variable {st st₁ : Station} {s : SelectorId} {x : Selector} {polled : List Polled}

theorem run_snapshot (hx : st.selectors[s]? = some x) :
    (snapshot s).run st = (.ok (st.polls x), st) := by
  rw [snapshot, run_bind, run_get]
  dsimp only
  rw [run_selector_bind hx, run_pure, polls]
  refine congrArg (fun f => (Except.ok (x.registered.filterMap f), st)) (funext fun p => ?_)
  cases st.key? p.1 <;> rfl

/-- A selection that begins well has let the cancelled keys leave. -/
theorem of_run_beginSelect (h : (beginSelect s).run st = (.ok polled, st₁)) :
    (processCancelled s).run st = (.ok (), st₁) ∧
      ∃ x x₁, st.selectors[s]? = some x ∧ x.isOpen = true ∧
      st₁.selectors[s]? = some x₁ ∧
        polled = st₁.polls x₁ ∧ x₁.isOpen = true ∧ x₁.cancelled = [] ∧
        x₁.keys = (x.keys.filter fun k => !x.cancelled.contains k) ∧
        x₁.selected = x.selected.filter fun k => !x.cancelled.contains k := by
  cases hx : st.selectors[s]? with
  | none =>
    rw [beginSelect, run_selector_bind_none hx] at h
    cases h
  | some x =>
    rw [beginSelect, run_selector_bind hx] at h
    split at h
    · next hopen =>
      obtain ⟨_, st₂, hprocess, h⟩ := of_run_bind h
      have hroster : st₂.registry.selector s = _ :=
        (congrArg (fun r => r.selector s) (hprocess ▸ registry_processCancelled s st)).trans
          (Registry.purge_selector (registry_selector_of hx))
      obtain ⟨x₁, hx₁, hsame⟩ := selector_of_registry hroster
      rw [run_snapshot hx₁] at h
      cases h
      exact ⟨hprocess, x, x₁, rfl, hopen, hx₁, rfl, (congrArg isOpen hsame).trans hopen,
        congrArg queued hsame, congrArg held hsame, congrArg selected hsame⟩
    · cases h

/-- A selection that begins well is about to poll keys that its selector holds. -/
theorem polling_of_begin (hheld : st.registry.WellHeld)
    (h : (beginSelect s).run st = (.ok polled, st₁)) : ∃ x, Polling s x polled st₁ := by
  obtain ⟨hprocess, x, x₁, -, -, hx₁, hpolls, hopen, hqueue, -, -⟩ := of_run_beginSelect h
  have hheld₁ : st₁.registry.WellHeld := by
    have hkept := keeps_processCancelled s st hheld
    rwa [show (processCancelled s).run st = _ from hprocess] at hkept
  obtain ⟨y, hy, hkeys⟩ := beginSelect_keys h
  cases (registry_selector_of hx₁).symm.trans hy
  refine ⟨x₁, hx₁, hopen, hqueue, .of_eq hpolls, (hheld₁.distinct s _ hy).sublist hkeys,
    x₁, hx₁, hheld₁.kept s _ hy hopen, fun k hk => ⟨hkeys.subset hk, ?_⟩⟩
  obtain ⟨t, ht, hs⟩ := hheld₁.own s _ hy k (hkeys.subset hk)
  obtain ⟨key, hkey, rfl⟩ := Option.map_eq_some_iff.mp ht
  exact ⟨key, hkey, hs⟩

end Action

/-! ## What the poll answers -/

/-- A selector apart from its pipe. -/
def Selector.still (x : Selector) : Selector := { x with wake := {} }

namespace PollAnswer

/-- The events that an answer tells of, if the selection goes on with it. -/
def events? : PollAnswer → Option (Polled → Mask)
  | failed e => if e = .os .interrupted then some fun _ => 0 else none
  | reported events _ => some events
  | wakeFailed _ => none

/-- The station after a wakeup was read, if one came. -/
def hear (s : SelectorId) (st : Station) : PollAnswer → Station
  | reported _ true => st.modifySelector s fun x => { x with wake := x.wake.drain.1 }
  | _ => st

variable {s : SelectorId} {st : Station} {x : Selector}

theorem hear_eq (answer : PollAnswer) (s : SelectorId) (st : Station) :
    ∃ selectors, answer.hear s st = { st with selectors } ∧
      selectors.map Selector.still = st.selectors.map Selector.still := by
  unfold hear
  split
  · exact ⟨_, rfl, map_modify_same st.selectors s fun _ => rfl⟩
  · exact ⟨_, rfl, rfl⟩

theorem selector_hear (answer : PollAnswer) (hx : st.selectors[s]? = some x) :
    ∃ wake, (answer.hear s st).selectors[s]? = some { x with wake } := by
  unfold hear
  split
  · exact ⟨_, selector_modifySelector hx _⟩
  · exact ⟨_, hx⟩

theorem polling_hear (h : Polling s x polled st) (answer : PollAnswer) :
    ∃ wake, Polling s { x with wake } polled (answer.hear s st) := by
  obtain ⟨wake, hx⟩ := answer.selector_hear h.selector
  obtain ⟨selectors, hheard, -⟩ := answer.hear_eq s st
  obtain ⟨y, hy, halive, hkeys⟩ := h.held
  cases h.selector.symm.trans hy
  rw [hheard] at hx ⊢
  exact ⟨wake, hx, h.opened, h.queue, h.polls, h.distinct, _, hx, halive, hkeys⟩

end PollAnswer

/-- What was reported of the keys that were polled. -/
def reportOf (events : Polled → Mask) (polled : List Polled) : List (KeyId × Mask) :=
  polled.map fun p => (p.key, events p)

theorem map_fst_reportOf (events : Polled → Mask) (polled : List Polled) :
    (reportOf events polled).map Prod.fst = polled.map Polled.key := by
  simp [reportOf]

theorem mem_reportOf {p : Polled} (hp : p ∈ polled) (events : Polled → Mask) :
    (p.key, events p) ∈ reportOf events polled :=
  List.mem_map_of_mem (f := fun p => (p.key, events p)) hp

theorem Polling.reported_once (h : Polling s x polled st) (events : Polled → Mask) :
    ((reportOf events polled).map Prod.fst).Nodup := by
  rw [map_fst_reportOf]
  exact h.distinct

namespace Action

variable {st st₁ : Station} {s : SelectorId} {x : Selector} {polled : List Polled}

/-- Keys of which nothing was reported are passed over. -/
theorem run_visitAll_silent (already : List KeyId) (polled : List Polled) (st : Station) :
    (visitAll already (reportOf (fun _ => 0) polled)).run st = (.ok (0, []), st) := by
  induction polled with
  | nil => rfl
  | cons p rest ih =>
    have hvisit : (visit already p.key 0).run st = (.ok (false, false), st) := by
      rw [visit, run_bind, run_get]
      cases hk : st.key? p.key with
      | none | some key => simp only [hk]; rfl
    have hcons : reportOf (fun _ => 0) (p :: rest) = (p.key, 0) :: reportOf (fun _ => 0) rest := rfl
    simp only [hcons, visitAll, run_bind, hvisit, ih, run_pure]
    rfl

theorem run_finishSelect_silent (s : SelectorId) (polled : List Polled) (st : Station) :
    (finishSelect s []).run st = (finishSelect s (reportOf (fun _ => 0) polled)).run st := by
  cases hx : st.selectors[s]? with
  | none => rw [finishSelect, run_selector_bind_none hx, finishSelect, run_selector_bind_none hx]
  | some x =>
    rw [finishSelect, run_selector_bind hx, finishSelect, run_selector_bind hx, run_bind, run_bind,
      run_visitAll_silent]
    rfl

/-- The second half of a selection with an answer that it goes on with. -/
theorem run_endSelect (h : Polling s x polled st) {answer : PollAnswer} {events : Polled → Mask}
    (hanswer : answer.events? = some events) :
    ∃ st', (endSelect s polled answer).run st =
        (.ok ((reportOf events polled).countP ((answer.hear s st).counted x.selected)), st') ∧
      Concluded s x.selected (reportOf events polled) (answer.hear s st) st' := by
  obtain ⟨wake, hpolling⟩ := answer.polling_hear h
  have hfinish := run_finishSelect hpolling.selector hpolling.queue (hpolling.reported_once events)
    (map_fst_reportOf events polled ▸ hpolling.held)
  cases answer with
  | failed e =>
    by_cases he : e = .os .interrupted
    · simp only [PollAnswer.events?, he, if_true, Option.some.injEq] at hanswer
      subst hanswer
      rw [endSelect, if_pos he, run_finishSelect_silent s polled]
      exact hfinish
    · simp only [PollAnswer.events?, he, if_false, reduceCtorEq] at hanswer
  | reported told woken =>
    cases hanswer
    cases woken with
    | false | true => exact hfinish
  | wakeFailed e => cases hanswer

theorem run_select_of_begin (hbegin : (beginSelect s).run st = (.ok polled, st₁))
    (meanwhile : Network) (answer : PollAnswer) :
    (select s meanwhile answer).run st =
      (endSelect s polled answer).run { st₁ with network := meanwhile } := by
  rw [select, run_bind_ok hbegin]
  rfl

/-- Three channels of a strict provider come to have a key each. -/
def threeChannels : List Deed :=
  [.provide { invalid := .strict }, .openListener, .openListener, .openListener,
    .configureBlocking 0 false, .configureBlocking 1 false, .configureBlocking 2 false,
    .openSelector,
    .register 0 0 Operation.accept, .register 1 0 Operation.accept, .register 2 0 Operation.accept]

/-- A wakeup with a connection for the first key, an error for the second and no
descriptor for any other.
-/
def mixedReport : PollAnswer :=
  .reported (fun p => if p.key = 1 then Native.input else if p.key = 2 then Native.failed
    else Native.invalid)
    true

end Action
end PolledChannels
