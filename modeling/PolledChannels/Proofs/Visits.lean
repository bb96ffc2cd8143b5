import Mathlib.Logic.Function.Iterate
import PolledChannels.Proofs.SoloCalls

/-!
# What a report makes of keys

After its poll a selection visits the keys, one after the other, with what was reported of each.
What comes of a visit depends on the key alone, on its channel, and on the settings of the provider;
the other visits have no part in it. So a whole report is known from its members: how many keys
count, which are newly selected, which are cancelled, and what every key is like afterwards
(`Action.run_visitAll`).
-/

namespace PolledChannels

open PolledChannels.Action Station

namespace Mask

theorem within_self (a : Mask) : a.within a = true := by
  simp [within]

end Mask

/-! ## A report of one key -/

namespace Key

/-- How a report of a key is read. A selected key starts from what was ready before. -/
def reading (key : Key) (selected : Bool) (events : Mask) : Reading :=
  Readiness.translate events (if selected then key.ready else 0) key.interest key.ready

/-- The key with the ready set that a report gives it. -/
def heed (key : Key) (selected : Bool) (events : Mask) : Key :=
  match key.reading selected events with
  | .invalid => key
  | .ready ops _ => { key with ready := ops }

/-- The report of a key counts: a selected key has a bit that it did not have, any other key has
something ready that it waits for. -/
def gains (key : Key) (selected : Bool) (events : Mask) : Bool :=
  if selected then (key.reading selected events).changed
  else (key.heed selected events).ready.meets key.interest

section Heed

variable (key : Key) (selected : Bool) {events : Mask}

theorem reading_invalid (h : events.meets Native.invalid = true) :
    key.reading selected events = .invalid := by
  simp [reading, Readiness.translate, h]

theorem reading_ready (h : events.meets Native.invalid = false) :
    ∃ ops changed, key.reading selected events = .ready ops changed := by
  simp only [reading, Readiness.translate, h, Bool.false_eq_true, if_false]
  split <;> exact ⟨_, _, rfl⟩

theorem heed_invalid (h : events.meets Native.invalid = true) : key.heed selected events = key := by
  simp [heed, key.reading_invalid selected h]

theorem heed_failed (h : events.meets Native.invalid = false)
    (hfailed : events.meets (Native.failed ||| Native.hangUp) = true) :
    key.heed selected events = { key with ready := key.interest } := by
  simp [heed, reading, Readiness.translate, h, hfailed]

theorem heed_input (h : events.meets Native.invalid = false)
    (hfailed : events.meets (Native.failed ||| Native.hangUp) = false) :
    key.heed selected events =
      { key with ready :=
          if events.meets Native.input && key.interest.meets Operation.accept then
            (if selected then key.ready else 0) ||| Operation.accept
          else if selected then key.ready else 0 } := by
  simp [heed, reading, Readiness.translate, h, hfailed]

theorem heed_interest (events : Mask) : (key.heed selected events).interest = key.interest := by
  unfold heed
  split <;> rfl

/-- A bit became ready exactly if the ready set is not within the one before. -/
theorem changed_reading (events : Mask) :
    (key.reading selected events).changed = !(key.heed selected events).ready.within key.ready := by
  cases hinvalid : events.meets Native.invalid with
  | true => simp [key.reading_invalid selected hinvalid, key.heed_invalid selected hinvalid,
      Reading.changed, Mask.within_self]
  | false =>
    cases hfailed : events.meets (Native.failed ||| Native.hangUp) with
    | true | false => simp [heed, reading, Readiness.translate, hinvalid, hfailed, Reading.changed]

/-- The same report once more, of a key that is selected if it counted, changes nothing. -/
theorem heed_heed (events : Mask) :
    (key.heed selected events).heed (selected || key.gains selected events) events =
      key.heed selected events := by
  cases hinvalid : events.meets Native.invalid with
  | true => rw [heed_invalid _ _ hinvalid]
  | false =>
    cases hfailed : events.meets (Native.failed ||| Native.hangUp) with
    | true => rw [heed_failed _ _ hinvalid hfailed, heed_failed _ _ hinvalid hfailed]
    | false =>
      rw [heed_input _ _ hinvalid hfailed, heed_input _ _ hinvalid hfailed]
      -- a key that starts afresh twice ends with the same, and merging twice is merging once
      cases selected with
      | true =>
        split <;> simp [BitVec.or_assoc]
      | false =>
        split <;> cases key.gains false events <;> simp

theorem gains_heed (events : Mask) :
    (key.heed selected events).gains (selected || key.gains selected events) events = false := by
  have hagain := key.heed_heed selected events
  cases hselected : selected || key.gains selected events with
  | true =>
    rw [hselected] at hagain
    simp [gains, changed_reading, hagain, Mask.within_self]
  | false =>
    rw [hselected] at hagain
    obtain ⟨rfl, hgains⟩ := Bool.or_eq_false_iff.mp hselected
    simpa [gains, hagain, heed_interest] using hgains

end Heed
end Key

/-! ## Visits -/

namespace Station

variable {st : Station} {k : KeyId} {key : Key}

/-- The listening channel is open. -/
def listenerOpen (st : Station) (c : ListenerId) : Bool :=
  st.listeners[c]?.any fun l => l.core.isOpen

/-- Something was reported of the key, and its channel is still there. -/
def hears (st : Station) (events : Mask) (key : Key) : Bool :=
  events != 0 && st.listenerAlive key.channel

/-- The report says that the descriptor of an open channel is not open. -/
def blames (st : Station) (events : Mask) (key : Key) : Bool :=
  st.hears events key && events.meets Native.invalid && st.listenerOpen key.channel

/-- The report cancels the key. -/
def condemns (st : Station) (events : Mask) (key : Key) : Bool :=
  st.blames events key && st.provider.invalid.invalidatesKey && key.valid

/-- The key after a visit. -/
def heed (st : Station) (selected : Bool) (events : Mask) (key : Key) : Key :=
  if st.hears events key then
    { key.heed selected events with valid := key.valid && !st.condemns events key }
  else key

/-- The key counts. -/
def counted (st : Station) (already : List KeyId) (p : KeyId × Mask) : Bool :=
  (st.key? p.1).any fun key => st.hears p.2 key && key.gains (already.contains p.1) p.2

/-- The key is newly selected. -/
def picked (st : Station) (already : List KeyId) (p : KeyId × Mask) : Bool :=
  !already.contains p.1 && st.counted already p

/-- The key is cancelled. -/
def condemned (st : Station) (p : KeyId × Mask) : Bool :=
  (st.key? p.1).any (st.condemns p.2)

/-- The keys that a report newly selects. -/
def chosen (st : Station) (already : List KeyId) (reported : List (KeyId × Mask)) : List KeyId :=
  (reported.filter (st.picked already)).map Prod.fst

/-- The keys that a report cancels. -/
def expelled (st : Station) (reported : List (KeyId × Mask)) : List KeyId :=
  (reported.filter st.condemned).map Prod.fst

/-- What a visit tells of. -/
def complaints (st : Station) (p : KeyId × Mask) : List Report :=
  match st.key? p.1 with
  | none => []
  | some key =>
    match st.listeners[key.channel]? with
    | none => []
    | some l =>
      if st.blames p.2 key && st.provider.logging then
        [⟨invalidEvent l p.1 st.provider.invalid, st.sighting key.channel⟩]
      else []

/-- The selector holds the keys, they are its own, and it is kept. -/
def Holds (st : Station) (s : SelectorId) (ks : List KeyId) : Prop :=
  ∃ x, st.selectors[s]? = some x ∧ x.alive = true ∧
    ∀ k ∈ ks, k ∈ x.keys ∧ ∃ key, st.key? k = some key ∧ key.selector = s

theorem Holds.mono {s : SelectorId} {ks ks' : List KeyId} (h : st.Holds s ks) (hsub : ks' ⊆ ks) :
    st.Holds s ks' := by
  obtain ⟨x, hx, halive, hkeys⟩ := h
  exact ⟨x, hx, halive, fun k hk => hkeys k (hsub hk)⟩

end Station

/-- Keys are queued, and the selection is woken for each of them. -/
def Selector.enqueue (ks : List KeyId) (x : Selector) : Selector :=
  { x with cancelled := x.cancelled ++ ks, wake := Nat.iterate Pipe.pushByte ks.length x.wake }

theorem Selector.enqueue_append (ks ks' : List KeyId) (x : Selector) :
    (x.enqueue ks).enqueue ks' = x.enqueue (ks ++ ks') := by
  simp [enqueue, ← Function.iterate_add_apply, Nat.add_comm]

/-- What a report has made of a station: every key that was reported was visited, and
nothing else happened. -/
structure Heeded (s : SelectorId) (already : List KeyId) (reported : List (KeyId × Mask))
    (st st' : Station) : Prop where
  told : ∀ p ∈ reported,
    st'.key? p.1 = (st.key? p.1).map (st.heed (already.contains p.1) p.2)
  untold : ∀ k, k ∉ reported.map Prod.fst → st'.key? k = st.key? k
  selectors : st'.selectors =
    st.selectors.modify s (Selector.enqueue (st.expelled reported))
  reports : st'.reports = st.reports ++ reported.flatMap st.complaints
  rest : st' = { st with keys := st'.keys, selectors := st'.selectors, reports := st'.reports }

namespace Station

/-- The station after the visit of one key. -/
def visited (st : Station) (s : SelectorId) (already : List KeyId) (p : KeyId × Mask) : Station :=
  { st.modifyKey p.1 (st.heed (already.contains p.1) p.2) with
    selectors := st.selectors.modify s (Selector.enqueue (if st.condemned p then [p.1] else []))
    reports := st.reports ++ st.complaints p }

variable {st : Station} {s : SelectorId} {already : List KeyId} {p : KeyId × Mask} {key : Key}
    {events : Mask}

theorem selectors_enqueue_nil (st : Station) (s : SelectorId) :
    st.selectors.modify s (Selector.enqueue []) = st.selectors := by
  have hsame : Selector.enqueue [] = id := funext fun x => by simp [Selector.enqueue]
  rw [hsame, List.modify_id]

theorem modifyKey_congr (hk : st.key? k = some key) {f g : Key → Key} (hfg : f key = g key) :
    st.modifyKey k f = st.modifyKey k g := by
  unfold modifyKey
  split
  · rfl
  · have hplace : st.keys[k - 1]? = some key := by simpa [key?, *] using hk
    rw [modify_congr hplace hfg]

theorem modifyKey_self (hk : st.key? k = some key) {f : Key → Key} (hf : f key = key) :
    st.modifyKey k f = st := by
  rw [modifyKey_congr hk (g := id) hf]
  unfold modifyKey
  split
  · rfl
  · rw [List.modify_id]

theorem heed_of_condemns (hcondemns : st.condemns events key = true) (selected : Bool) :
    st.heed selected events key = { key with valid := false } := by
  obtain ⟨⟨⟨hhears, hinvalid⟩, -⟩, -⟩ : ((st.hears events key = true ∧
      events.meets Native.invalid = true) ∧ _) ∧ _ := by
    simpa [condemns, blames, and_assoc] using hcondemns
  simp [heed, hhears, hcondemns, key.heed_invalid selected hinvalid]

/-- A descriptor that is not open leaves a key as it is that is not cancelled for it. -/
theorem heed_of_not_condemns (hinvalid : events.meets Native.invalid = true)
    (hcondemns : st.condemns events key = false) (selected : Bool) :
    st.heed selected events key = key := by
  cases hhears : st.hears events key with
  | true => simp [heed, hhears, hcondemns, key.heed_invalid selected hinvalid]
  | false => simp [heed, hhears]

/-- The visit of a key that nobody is blamed for changes the key at most. -/
theorem visited_of_not_blames (hk : st.key? p.1 = some key) (hblames : st.blames p.2 key = false)
    (s : SelectorId) (already : List KeyId) :
    st.visited s already p = st.modifyKey p.1 (st.heed (already.contains p.1) p.2) := by
  have hcondemned : st.condemned p = false := by simp [condemned, condemns, hk, hblames]
  have hcomplaints : st.complaints p = [] := by
    simp only [complaints, hk, hblames]
    split <;> rfl
  simp only [visited, hcondemned, hcomplaints, List.append_nil, Bool.false_eq_true, if_false,
    selectors_enqueue_nil]
  unfold modifyKey
  split <;> rfl

end Station

theorem Heeded.visited (s : SelectorId) (already : List KeyId) (p : KeyId × Mask) (st : Station) :
    Heeded s already [p] st (st.visited s already p) where
  told := by
    intro q hq
    have hkey := st.key?_modifyKey p.1 (st.heed (already.contains p.1) p.2) p.1
    rw [List.mem_singleton.mp hq]
    exact hkey.trans (if_pos rfl)
  untold := by
    intro j hj
    exact (st.key?_modifyKey p.1 _ j).trans (if_neg (by simpa using hj))
  selectors := by
    have hexpelled : st.expelled [p] = if st.condemned p then [p.1] else [] := by
      cases h : st.condemned p <;> simp [Station.expelled, h]
    rw [hexpelled]
    rfl
  reports := by simp [Station.visited]
  rest := by
    unfold Station.visited Station.modifyKey
    split <;> rfl

/-! ## The operations -/

namespace Action

variable {st : Station} {s : SelectorId} {x : Selector} {k : KeyId} {key : Key} {l : Listener}
  {p : KeyId × Mask} {already : List KeyId}

theorem run_cancelKey_held (hk : st.key? k = some key) (hvalid : key.valid = true)
    (hs : key.selector = s) (hx : st.selectors[s]? = some x) (halive : x.alive = true)
    (hheld : k ∈ x.keys) :
    (cancelKey k).run st =
      (.ok (), (st.modifyKey k fun key => { key with valid := false }).modifySelector s
        (Selector.enqueue [k])) := by
  have hkept : st.selectorAlive s = true := by simp [selectorAlive, hx, halive]
  simp only [cancelKey, invalidate, queueCancelled, wakeup, run_bind, run_get, run_modify, hk,
    hvalid, hs, hkept, if_true, selectors_modifyKey, hx, List.contains_iff_mem.mpr hheld]
  rw [modifySelector_modifySelector]
  rfl

theorem run_cancelKey_invalid (hk : st.key? k = some key) (hvalid : key.valid = false) :
    (cancelKey k).run st = (.ok (), st) := by
  simp only [cancelKey, run_bind, run_get, hk, hvalid]
  rfl

/-- A descriptor that is not open, as a report of a key says. -/
theorem run_reportInvalid (hk : st.key? p.1 = some key) (hl : st.listeners[key.channel]? = some l)
    (hhears : st.hears p.2 key = true) (hinvalid : p.2.meets Native.invalid = true)
    (hheld : st.Holds s [p.1]) (already : List KeyId) :
    (reportInvalid key.channel p.1).run st = (.ok (), st.visited s already p) := by
  rw [reportInvalid, run_listener_bind hl]
  cases hopen : l.core.isOpen with
  | false =>
    have hblames : st.blames p.2 key = false := by
      simp [blames, listenerOpen, hl, hopen]
    have hcondemns : st.condemns p.2 key = false := by simp [condemns, hblames]
    have hsame := heed_of_not_condemns hinvalid hcondemns (already.contains p.1)
    rw [visited_of_not_blames hk hblames, modifyKey_self hk hsame]
    rfl
  | true =>
    have hblames : st.blames p.2 key = true := by
      simp [blames, listenerOpen, hl, hopen, hhears, hinvalid]
    let told : Station := { st with reports := st.reports ++ st.complaints p }
    have htell : st.tell key.channel (invalidEvent l p.1 st.provider.invalid) = told := by
      simp only [Station.tell, told, complaints, hk, hl, hblames, Bool.true_and]
      split <;> simp
    have hkTold : told.key? p.1 = some key := hk
    simp only [if_true, run_bind, run_get, run_emit, htell]
    -- the key is cancelled if the provider is strict and nobody cancelled it before
    cases hcondemns : st.condemns p.2 key with
    | true =>
      obtain ⟨hstrict, hvalid⟩ : st.provider.invalid.invalidatesKey = true ∧
          key.valid = true := by
        simpa [condemns, hblames] using hcondemns
      obtain ⟨x, hx, halive, hkeys⟩ := hheld
      obtain ⟨hmem, own, hown, hs⟩ := hkeys p.1 (List.mem_singleton_self _)
      cases hk.symm.trans hown
      have hcancel := run_cancelKey_held hkTold hvalid hs hx halive hmem
      have hvoid : st.modifyKey p.1 (st.heed (already.contains p.1) p.2) =
          st.modifyKey p.1 fun key => { key with valid := false } :=
        modifyKey_congr hk (heed_of_condemns hcondemns _)
      have hcondemned : st.condemned p = true := by simp [condemned, hk, hcondemns]
      simp only [hstrict, if_true, hcancel, visited, hcondemned]
      rw [hvoid]
      unfold modifyKey
      split <;> rfl
    | false =>
      have hsame := heed_of_not_condemns hinvalid hcondemns (already.contains p.1)
      have hcondemned : st.condemned p = false := by simp [condemned, hk, hcondemns]
      have hvisited : st.visited s already p = told := by
        simp only [visited, hcondemned, Bool.false_eq_true, if_false,
          selectors_enqueue_nil, modifyKey_self hk hsame]
        rfl
      rw [hvisited]
      split
      · next hstrict =>
        have hvalid : key.valid = false := by
          simpa [condemns, hblames, hstrict] using hcondemns
        exact run_cancelKey_invalid hkTold hvalid
      · rfl

/-- What a report makes of the ready set of a key. -/
theorem run_translateReady (hk : st.key? p.1 = some key) (hhears : st.hears p.2 key = true)
    (hheld : st.Holds s [p.1]) (already : List KeyId) :
    (translateReady key.channel p.1 p.2 (if already.contains p.1 then key.ready else 0)).run st =
      (.ok (key.reading (already.contains p.1) p.2).changed, st.visited s already p) := by
  obtain ⟨l, hl⟩ : ∃ l, st.listeners[key.channel]? = some l := by
    cases hl : st.listeners[key.channel]? with
    | none => simp [hears, listenerAlive, hl] at hhears
    | some l => exact ⟨l, rfl⟩
  simp only [translateReady, run_bind, run_get, hk]
  cases hinvalid : p.2.meets Native.invalid with
  | true =>
    have hreading := key.reading_invalid (already.contains p.1) hinvalid
    rw [show Readiness.translate p.2 _ key.interest key.ready = _ from hreading]
    simp only [run_bind, run_reportInvalid hk hl hhears hinvalid hheld already, hreading]
    rfl
  | false =>
    obtain ⟨ops, changed, hreading⟩ := key.reading_ready (already.contains p.1) hinvalid
    have hblames : st.blames p.2 key = false := by simp [blames, hinvalid]
    have hheed : st.heed (already.contains p.1) p.2 key = { key with ready := ops } := by
      simp only [heed, hhears, if_true, Key.heed, hreading, condemns, hblames,
        Bool.false_and, Bool.not_false, Bool.and_true]
    have hready : st.modifyKey p.1 (st.heed (already.contains p.1) p.2) =
        st.modifyKey p.1 fun key => { key with ready := ops } :=
      modifyKey_congr hk hheed
    rw [show Readiness.translate p.2 _ key.interest key.ready = _ from hreading,
      visited_of_not_blames hk hblames, hready, hreading]
    rfl

theorem run_visit (hheld : st.Holds s [p.1]) (already : List KeyId) :
    (visit already p.1 p.2).run st =
      (.ok (st.counted already p, st.picked already p), st.visited s already p) := by
  obtain ⟨key, hk⟩ : ∃ key, st.key? p.1 = some key := by
    obtain ⟨x, -, -, hkeys⟩ := hheld
    obtain ⟨-, key, hk, -⟩ := hkeys p.1 (List.mem_singleton_self _)
    exact ⟨key, hk⟩
  have hcounted :
      st.counted already p = (st.hears p.2 key && key.gains (already.contains p.1) p.2) := by
    simp [counted, hk]
  simp only [visit, run_bind, run_get, hk]
  cases hhears : st.hears p.2 key with
  | false =>
    have hskip : (decide (p.2 = 0) || !st.listenerAlive key.channel) = true := by
      simpa [hears, Classical.or_iff_not_imp_left] using hhears
    have hblames : st.blames p.2 key = false := by simp [blames, hhears]
    have hsame : st.heed (already.contains p.1) p.2 key = key := by simp [heed, hhears]
    rw [visited_of_not_blames hk hblames, modifyKey_self hk hsame]
    simp only [hskip, if_true, picked, hcounted, hhears, Bool.false_and, Bool.and_false]
    rfl
  | true =>
    have hskip : ¬ (decide (p.2 = 0) || !st.listenerAlive key.channel) = true := by
      simpa [hears] using hhears
    have htranslate := run_translateReady hk hhears hheld already
    rw [if_neg hskip]
    cases halready : already.contains p.1 with
    | true =>
      have hpicked : st.picked already p = false := by simp only [picked, halready]; rfl
      rw [halready] at htranslate
      rw [if_pos rfl, hcounted, hhears, hpicked, halready, Key.gains, if_pos rfl, run_bind,
        translateAndUpdate, run_bind, run_get]
      simp only [hk]
      rw [show (translateReady key.channel p.1 p.2 key.ready).run st = _ from htranslate]
      rfl
    | false =>
      have hpicked : st.picked already p = st.counted already p := by
        simp only [picked, halready, Bool.not_false, Bool.true_and]
      have hafter : (st.visited s already p).key? p.1 = some (st.heed false p.2 key) := by
        rw [(Heeded.visited s already p st).told p (List.mem_singleton_self p), hk, halready]
        rfl
      have hready : (st.heed false p.2 key).ready.meets (st.heed false p.2 key).interest =
          key.gains false p.2 := by
        simp only [heed, hhears, if_true, Key.gains, Bool.false_eq_true, if_false,
          Key.heed_interest]
      rw [halready] at htranslate
      rw [if_neg Bool.false_ne_true, hpicked, hcounted, hhears, halready, Bool.true_and, run_bind,
        show (translateAndSet key.channel p.1 p.2).run st = _ from htranslate]
      simp only [isReady, run_bind, run_get, hafter, run_pure, hready]

end Action

/-! ## Whole reports -/

namespace Heeded

variable {s : SelectorId} {already : List KeyId} {reported reported' : List (KeyId × Mask)}
  {st st' st'' : Station}

section Frame

variable (h : Heeded s already reported st st')
include h

theorem listeners : st'.listeners = st.listeners := by
  rw [h.rest]

theorem provider : st'.provider = st.provider := by
  rw [h.rest]

theorem hears (events : Mask) (key : Key) : st'.hears events key = st.hears events key := by
  simp only [Station.hears, Station.listenerAlive, h.listeners]

theorem blames (events : Mask) (key : Key) : st'.blames events key = st.blames events key := by
  simp only [Station.blames, h.hears, Station.listenerOpen, h.listeners]

theorem condemns (events : Mask) (key : Key) :
    st'.condemns events key = st.condemns events key := by
  simp only [Station.condemns, h.blames, h.provider]

theorem heed (selected : Bool) (events : Mask) (key : Key) :
    st'.heed selected events key = st.heed selected events key := by
  simp only [Station.heed, h.hears, h.condemns]

theorem selector {x : Selector} (hx : st.selectors[s]? = some x) :
    st'.selectors[s]? = some (x.enqueue (st.expelled reported)) := by
  rw [h.selectors, List.getElem?_modify_eq, hx]
  rfl

section Untold

variable {p : KeyId × Mask} (hp : p.1 ∉ reported.map Prod.fst)
include hp

/-- A visit is not touched by what others made of their keys. -/
theorem counted_untold (already : List KeyId) : st'.counted already p = st.counted already p := by
  simp only [counted, h.untold p.1 hp, h.hears]

theorem picked_untold (already : List KeyId) : st'.picked already p = st.picked already p := by
  simp only [picked, h.counted_untold hp]

theorem condemned_untold : st'.condemned p = st.condemned p := by
  simp only [condemned, h.untold p.1 hp, funext (h.condemns p.2)]

theorem complaints_untold : st'.complaints p = st.complaints p := by
  have hsighting : st'.sighting = st.sighting := by
    funext c
    simp only [sighting, h.listeners]
  simp only [complaints, h.untold p.1 hp, h.listeners, h.provider, h.blames, hsighting]

end Untold

theorem holds {ks : List KeyId} (hheld : st.Holds s ks) : st'.Holds s ks := by
  obtain ⟨x, hx, halive, hkeys⟩ := hheld
  refine ⟨_, h.selector hx, halive, fun k hk => ?_⟩
  obtain ⟨hmem, key, hkey, hs⟩ := hkeys k hk
  refine ⟨hmem, ?_⟩
  by_cases htold : k ∈ reported.map Prod.fst
  · obtain ⟨p, hp, rfl⟩ := List.mem_map.mp htold
    refine ⟨st.heed (already.contains p.1) p.2 key, by rw [h.told p hp, hkey]; rfl, ?_⟩
    rw [← hs, Station.heed]
    split
    · show (key.heed _ _).selector = key.selector
      unfold Key.heed
      split <;> rfl
    · rfl
  · exact ⟨key, (h.untold k htold).trans hkey, hs⟩

end Frame

theorem nil (s : SelectorId) (already : List KeyId) (st : Station) : Heeded s already [] st st where
  told := fun _ hp => absurd hp List.not_mem_nil
  untold := fun _ _ => rfl
  selectors := (st.selectors_enqueue_nil s).symm
  reports := (List.append_nil _).symm
  rest := rfl

/-- One report after another, of other keys. -/
theorem append (h : Heeded s already reported st st') (h' : Heeded s already reported' st' st'')
    (hdisjoint : ∀ p ∈ reported', p.1 ∉ reported.map Prod.fst) :
    Heeded s already (reported ++ reported') st st'' where
  told := by
    intro p hp
    rcases List.mem_append.mp hp with hp | hp
    · by_cases hlater : p.1 ∈ reported'.map Prod.fst
      · obtain ⟨q, hq, hqp⟩ := List.mem_map.mp hlater
        exact absurd (hqp ▸ List.mem_map_of_mem hp) (hdisjoint q hq)
      · rw [h'.untold p.1 hlater, h.told p hp]
    · rw [h'.told p hp, h.untold p.1 (hdisjoint p hp), funext (h.heed _ _)]
  untold := by
    intro k hk
    rw [List.map_append, List.mem_append, not_or] at hk
    rw [h'.untold k hk.2, h.untold k hk.1]
  selectors := by
    have hfilter : reported'.filter st'.condemned = reported'.filter st.condemned :=
      List.filter_congr fun p hp => h.condemned_untold (hdisjoint p hp)
    rw [h'.selectors, h.selectors, List.modify_modify_eq]
    simp only [expelled, hfilter, List.filter_append, List.map_append]
    exact congrArg (st.selectors.modify s) (funext fun x => x.enqueue_append _ _)
  reports := by
    have hcomplaints : reported'.flatMap st'.complaints = reported'.flatMap st.complaints := by
      rw [List.flatMap_def, List.flatMap_def]
      exact congrArg List.flatten
        (List.map_congr_left fun p hp => h.complaints_untold (hdisjoint p hp))
    rw [h'.reports, h.reports, hcomplaints, List.flatMap_append, List.append_assoc]
  rest := h'.rest.trans (congrArg (fun t : Station =>
    { t with keys := st''.keys, selectors := st''.selectors, reports := st''.reports }) h.rest)

end Heeded

/-- A whole report of keys that the selector holds. -/
theorem Action.run_visitAll {st : Station} {s : SelectorId} {reported : List (KeyId × Mask)}
    (hdistinct : (reported.map Prod.fst).Nodup) (hheld : st.Holds s (reported.map Prod.fst))
    (already : List KeyId) :
    ∃ st', (visitAll already reported).run st =
        (.ok (reported.countP (st.counted already), st.chosen already reported), st') ∧
      Heeded s already reported st st' := by
  induction reported generalizing st with
  | nil => exact ⟨st, rfl, .nil s already st⟩
  | cons p rest ih =>
    obtain ⟨hp, hrest⟩ := List.nodup_cons.mp hdistinct
    have hother : ∀ q ∈ rest, q.1 ∉ [p].map Prod.fst := by
      intro q hq hmem
      exact hp (List.mem_singleton.mp hmem ▸ List.mem_map_of_mem hq)
    have hfirst := Heeded.visited s already p st
    have hvisit := run_visit (p := p) (Station.Holds.mono hheld (by simp)) already
    obtain ⟨st', hrun, hafter⟩ := ih hrest (hfirst.holds (Station.Holds.mono hheld (by simp)))
    refine ⟨st', ?_, hfirst.append hafter hother⟩
    have hcount : rest.countP ((st.visited s already p).counted already) =
        rest.countP (st.counted already) :=
      List.countP_congr fun q hq => by rw [hfirst.counted_untold (hother q hq)]
    have hpicked : rest.filter ((st.visited s already p).picked already) =
        rest.filter (st.picked already) :=
      List.filter_congr fun q hq => hfirst.picked_untold (hother q hq) already
    simp only [visitAll, run_bind, hvisit, hrun, run_pure, chosen, hcount, hpicked,
      List.countP_cons, List.filter_cons]
    cases st.picked already p <;> cases st.counted already p <;> simp [Nat.add_comm]

end PolledChannels
