import PolledChannels.Proofs.Visits

/-!
# Keys that leave

A selection takes the queue of cancelled keys and lets one key after the other leave its selector
and its channel. A closed channel that loses its last key in this way is killed. A kill may fail;
the keys behind it in the queue leave all the same, and the first failure is the one that counts
(`Action.run_processCancelled`).

Where no channel is closed nothing fails, and what is left of the station is known from which keys
left, in whatever order they did (`Action.run_processCancelled_open`).
-/

namespace PolledChannels

open PolledChannels.Action Station Selector

/-- A selector without some keys. -/
def Selector.forget (ks : List KeyId) (x : Selector) : Selector :=
  { x with
    registered := x.registered.filter fun p => !ks.contains p.1
    selected := x.selected.filter fun k => !ks.contains k }

theorem Selector.forget_nil (x : Selector) : x.forget [] = x := by
  have hkeys : (x.registered.filter fun p => !List.contains [] p.1) = x.registered := by simp
  have hselected : (x.selected.filter fun k => !List.contains [] k) = x.selected := by simp
  rw [forget, hkeys, hselected]

/-- A channel that is kept loses keys. -/
def Listener.lose (lost : KeyId → Bool) (l : Listener) : Listener :=
  if l.alive then { l with core := { l.core with keys := l.core.keys.filter fun k => !lost k } }
    else l

theorem Listener.lose_alive (lost : KeyId → Bool) (l : Listener) :
    (l.lose lost).alive = l.alive := by
  unfold lose
  split <;> rfl

theorem Listener.lose_isOpen (lost : KeyId → Bool) (l : Listener) :
    (l.lose lost).core.isOpen = l.core.isOpen := by
  unfold lose
  split <;> rfl

theorem Listener.lose_descriptor (lost : KeyId → Bool) (l : Listener) :
    (l.lose lost).descriptor = l.descriptor := by
  unfold lose
  split <;> rfl

theorem Listener.lose_of_none {lost : KeyId → Bool} {l : Listener}
    (h : l.alive = true → ∀ k, lost k = false) : l.lose lost = l := by
  unfold lose
  split
  · next halive =>
    have hkeys : (l.core.keys.filter fun k => !lost k) = l.core.keys := by simp [h halive]
    rw [hkeys]
  · rfl

theorem Listener.lose_lose (lost lost' : KeyId → Bool) (l : Listener) :
    (l.lose lost).lose lost' = l.lose fun k => lost k || lost' k := by
  unfold lose
  cases halive : l.alive with
  | false => simp [halive]
  | true =>
    have hkept : 0 < l.owners := by simpa [alive] using halive
    simp [alive, hkept, List.filter_filter, Bool.and_comm]

namespace Station

/-- The key is one of the channel's. -/
def isKeyOf (st : Station) (c : ListenerId) (k : KeyId) : Bool :=
  (st.key? k).any fun key => key.channel == c

/-- Keys have left a selector, and those of their channels that are still kept. -/
def without (st : Station) (s : SelectorId) (ks : List KeyId) : Station :=
  { st with
    keys := st.keys.mapIdx fun i key =>
      { key with valid := key.valid && !(ks.contains (i + 1) && st.listenerAlive key.channel) }
    listeners := st.listeners.mapIdx fun c l => l.lose fun k => ks.contains k && st.isKeyOf c k
    selectors := st.selectors.modify s (Selector.forget ks) }

/-- The channel that is to be killed when a key has left: it is closed and listed no other key. -/
def orphan? (st : Station) (k : KeyId) : Option ListenerId :=
  (st.key? k).bind fun key =>
    if st.listeners[key.channel]?.any fun l => l.alive && (l.core.dropKey k).2 then some key.channel
    else none

variable {st : Station} {s : SelectorId} {k : KeyId} {ks ks' : List KeyId} {key : Key}
    {l : Listener}

theorem keys_ext {st st' : Station} (h : ∀ k, st'.key? k = st.key? k) : st'.keys = st.keys :=
  List.ext_getElem? fun i => by simpa [key?] using h (i + 1)

theorem key?_without (st : Station) (s : SelectorId) (ks : List KeyId) (k : KeyId) :
    (st.without s ks).key? k = (st.key? k).map fun key =>
      { key with valid := key.valid && !(ks.contains k && st.listenerAlive key.channel) } := by
  by_cases hk : k = 0
  · simp [key?, hk]
  · have hplace : k - 1 + 1 = k := Nat.sub_add_cancel (Nat.pos_of_ne_zero hk)
    simp only [key?, hk, if_false, without, List.getElem?_mapIdx, hplace]

theorem listener_without (st : Station) (s : SelectorId) (ks : List KeyId) (c : ListenerId) :
    (st.without s ks).listeners[c]? =
      (st.listeners[c]?).map (Listener.lose fun k => ks.contains k && st.isKeyOf c k) := by
  simp only [without, List.getElem?_mapIdx]

/-- Keys and channels decide what is left when keys have left. -/
theorem without_eq {keys : List Key} {listeners : List Listener}
    (hkeys : (st.without s ks).keys = keys) (hlisteners : (st.without s ks).listeners = listeners) :
    st.without s ks =
      { st with keys, listeners, selectors := st.selectors.modify s (Selector.forget ks) } := by
  rw [← hkeys, ← hlisteners]
  rfl

theorem listenerAlive_without (st : Station) (s : SelectorId) (ks : List KeyId) (c : ListenerId) :
    (st.without s ks).listenerAlive c = st.listenerAlive c := by
  simp only [listenerAlive, listener_without]
  cases st.listeners[c]? with
  | none => rfl
  | some l => exact l.lose_alive _

theorem isKeyOf_without (st : Station) (s : SelectorId) (ks : List KeyId)
    (c : ListenerId) (k : KeyId) :
    (st.without s ks).isKeyOf c k = st.isKeyOf c k := by
  simp only [isKeyOf, key?_without]
  cases st.key? k with
  | none => rfl
  | some key => rfl

theorem listenerOpen_without (st : Station) (s : SelectorId) (ks : List KeyId) (c : ListenerId) :
    (st.without s ks).listenerOpen c = st.listenerOpen c := by
  simp only [listenerOpen, listener_without]
  cases st.listeners[c]? with
  | none => rfl
  | some l => exact l.lose_isOpen _

theorem without_nil (st : Station) (s : SelectorId) : st.without s [] = st := by
  have hkeys : (st.without s []).keys = st.keys :=
    keys_ext fun k => by rw [key?_without]; simp
  have hlisteners : (st.without s []).listeners = st.listeners := by
    refine List.ext_getElem? fun c => ?_
    have hsame : (Listener.lose fun k => [].contains k && st.isKeyOf c k) = id :=
      funext fun l => Listener.lose_of_none fun _ _ => rfl
    rw [listener_without, hsame, Option.map_id_apply]
  have hforget : Selector.forget [] = id := funext Selector.forget_nil
  rw [without_eq hkeys hlisteners, hforget, List.modify_id]

theorem without_without (st : Station) (s : SelectorId) (ks ks' : List KeyId) :
    (st.without s ks).without s ks' = st.without s (ks ++ ks') := by
  have hforget : Selector.forget ks' ∘ Selector.forget ks = Selector.forget (ks ++ ks') := by
    funext x
    simp [Selector.forget, List.filter_filter, Bool.and_comm]
  have hkeys : ((st.without s ks).without s ks').keys = (st.without s (ks ++ ks')).keys := by
    refine List.ext_getElem? fun i => ?_
    simp only [without, List.getElem?_mapIdx, Option.map_map]
    refine congrArg (fun f => (st.keys[i]?).map f) (funext fun key => ?_)
    have halive := st.listenerAlive_without s ks key.channel
    unfold without at halive
    simp only [Function.comp_apply, halive, List.contains_append, Bool.and_or_distrib_right,
      Bool.not_or, Bool.and_assoc]
  have hlisteners :
      ((st.without s ks).without s ks').listeners = (st.without s (ks ++ ks')).listeners := by
    refine List.ext_getElem? fun c => ?_
    rw [listener_without, listener_without, listener_without, Option.map_map]
    have hlose : (Listener.lose fun k => ks'.contains k && (st.without s ks).isKeyOf c k) ∘
        (Listener.lose fun k => ks.contains k && st.isKeyOf c k) =
        Listener.lose fun k => (ks ++ ks').contains k && st.isKeyOf c k := by
      funext l
      simp only [Function.comp_apply, Listener.lose_lose, isKeyOf_without, List.contains_append,
        Bool.and_or_distrib_right]
    rw [hlose]
  have hselectors : (st.without s ks).selectors.modify s (Selector.forget ks') =
      st.selectors.modify s (Selector.forget (ks ++ ks')) := by
    simp only [without, List.modify_modify_eq, hforget]
  rw [without_eq hkeys hlisteners, hselectors]
  rfl

/-- A key whose channel is gone leaves the selector only. -/
theorem without_of_unkept
    (h : ∀ key, st.key? k = some key → st.listenerAlive key.channel = false) :
    st.without s [k] = st.modifySelector s (Selector.forget [k]) := by
  have hkeys : (st.without s [k]).keys = st.keys := by
    refine keys_ext fun j => ?_
    rw [key?_without]
    cases hj : st.key? j with
    | none => rfl
    | some key =>
      by_cases hjk : j = k
      · simp [h key (hjk ▸ hj)]
      · simp [hjk]
  have hlisteners : (st.without s [k]).listeners = st.listeners := by
    refine List.ext_getElem? fun c => ?_
    rw [listener_without]
    cases hl : st.listeners[c]? with
    | none => rfl
    | some l =>
      have hlost : l.alive = true → ∀ j, ([k].contains j && st.isKeyOf c j) = false := by
        intro halive j
        by_cases hjk : j = k
        · subst hjk
          cases hj : st.key? j with
          | none => simp [isKeyOf, hj]
          | some key =>
            have hdead := h key hj
            by_cases hc : key.channel = c
            · simp [listenerAlive, hc, hl, halive] at hdead
            · simp [isKeyOf, hj, hc]
        · simp [hjk]
      rw [Option.map_some, Listener.lose_of_none hlost]
  exact without_eq hkeys hlisteners

theorem without_of_kept (hk : st.key? k = some key) (hl : st.listeners[key.channel]? = some l)
    (halive : l.alive = true) :
    st.without s [k] =
      ((st.modifySelector s (Selector.forget [k])).modifyListener key.channel fun l =>
        { l with core := (l.core.dropKey k).1 }).modifyKey k fun key =>
          { key with valid := false } := by
  have hkept : st.listenerAlive key.channel = true := by simp [listenerAlive, hl, halive]
  have hkeys :
      (st.without s [k]).keys = (st.modifyKey k fun key => { key with valid := false }).keys := by
    refine keys_ext fun j => ?_
    rw [key?_without, key?_modifyKey]
    by_cases hjk : j = k
    · subst hjk
      simp [hk, hkept]
    · simp [hjk]
  have hlisteners : (st.without s [k]).listeners =
      st.listeners.modify key.channel fun l => { l with core := (l.core.dropKey k).1 } := by
    refine List.ext_getElem? fun c => ?_
    rw [listener_without]
    by_cases hc : key.channel = c
    · subst hc
      have hlost (j : KeyId) : ([k].contains j && st.isKeyOf key.channel j) = (j == k) := by
        by_cases hjk : j = k
        · simp [hjk, isKeyOf, hk]
        · simp [hjk]
      simp only [List.getElem?_modify_eq, hl, Option.map_some, Listener.lose, halive,
        if_true, hlost]
      rfl
    · have hlost (j : KeyId) : ([k].contains j && st.isKeyOf c j) = false := by
        by_cases hjk : j = k
        · simp [hjk, isKeyOf, hk, hc]
        · simp [hjk]
      rw [List.getElem?_modify_ne _ _ hc]
      cases st.listeners[c]? with
      | none => rfl
      | some l' => rw [Option.map_some, Listener.lose_of_none fun _ => hlost]
  rw [without_eq hkeys hlisteners]
  unfold modifyKey
  split <;> rfl

/-- A key leaves, and a channel that is orphaned by it is killed: what comes of the kill, and the
station afterwards. -/
def dismiss (st : Station) (s : SelectorId) (k : KeyId) : Except Failure Unit × Station :=
  (st.orphan? k).elim (.ok (), st.without s [k]) fun c => (kill c).run (st.without s [k])

/-- Keys leave one after the other: the kills that fail on the way, each with the key
that brought it about. -/
def failedKills (s : SelectorId) : List KeyId → Station → List (KeyId × Failure)
  | [], _ => []
  | k :: rest, st =>
    match st.dismiss s k with
    | (.ok _, st') => failedKills s rest st'
    | (.error e, st') => (k, e) :: failedKills s rest st'

theorem dismiss_of_open (h : ∀ key, st.key? k = some key → st.listenerOpen key.channel = true) :
    st.dismiss s k = (.ok (), st.without s [k]) := by
  have horphan : st.orphan? k = none := by
    cases hk : st.key? k with
    | none => simp [orphan?, hk]
    | some key =>
      have hopen := h key hk
      cases hl : st.listeners[key.channel]? with
      | none => simp [orphan?, hk, hl]
      | some l =>
        have hlopen : l.core.isOpen = true := by simpa [listenerOpen, hl] using hopen
        simp [orphan?, hk, hl, Core.dropKey, hlopen]
  rw [dismiss, horphan]
  rfl

theorem dismiss_all_of_open (s : SelectorId) (st : Station)
    (h : ∀ k ∈ ks, ∀ key, st.key? k = some key → st.listenerOpen key.channel = true) :
    failedKills s ks st = [] ∧
    ks.foldl (fun st k => (st.dismiss s k).2) st = st.without s ks := by
  induction ks generalizing st with
  | nil => exact ⟨rfl, (st.without_nil s).symm⟩
  | cons k ks ih =>
    have hfirst : st.dismiss s k = (.ok (), st.without s [k]) :=
      dismiss_of_open (h k (List.mem_cons_self ..))
    have hrest : ∀ j ∈ ks, ∀ key, (st.without s [k]).key? j = some key →
        (st.without s [k]).listenerOpen key.channel = true := by
      intro j hj key hkey
      rw [key?_without] at hkey
      obtain ⟨key', hkey', rfl⟩ := Option.map_eq_some_iff.mp hkey
      rw [listenerOpen_without]
      exact h j (List.mem_cons_of_mem _ hj) key' hkey'
    obtain ⟨hfailed, hleft⟩ := ih (st.without s [k]) hrest
    simp only [failedKills, List.foldl_cons, hfirst, hfailed, hleft, without_without]
    exact ⟨trivial, rfl⟩

end Station

namespace Action

variable {st : Station} {s : SelectorId} {x : Selector}

theorem run_dismissal (s : SelectorId) (k : KeyId) (st : Station) :
    (do forgetKey s k; deregisterKey k : Action Unit).run st = st.dismiss s k := by
  have hforget : (st.modifySelector s fun x =>
      { x with
        registered := x.registered.filter fun p => p.1 != k
        selected := x.selected.filter fun y => y != k }) = st.modifySelector s (forget [k]) := by
    refine congrArg (st.modifySelector s) (funext fun x => ?_)
    simp only [forget, List.contains_cons, List.contains_nil, Bool.or_false, bne]
  have hkey : (st.modifySelector s (forget [k])).key? k = st.key? k := rfl
  have hkept (c : ListenerId) :
      (st.modifySelector s (forget [k])).listenerAlive c = st.listenerAlive c := rfl
  simp only [forgetKey, deregisterKey, run_bind, run_modify, run_get, hforget, dismiss]
  rw [hkey]
  cases hk : st.key? k with
  | none =>
    rw [without_of_unkept (by simp [hk]), orphan?, hk]
    rfl
  | some key =>
    cases halive : st.listenerAlive key.channel with
    | false =>
      have horphan : st.orphan? k = none := by
        cases hl : st.listeners[key.channel]? with
        | none => simp [orphan?, hk, hl]
        | some l =>
          have hdead : l.alive = false := by simpa [listenerAlive, hl] using halive
          simp [orphan?, hk, hl, hdead]
      rw [horphan, without_of_unkept (by simp [hk, halive])]
      simp only [hkept, halive]
      rfl
    | true =>
      obtain ⟨l, hl, hlalive⟩ : ∃ l, st.listeners[key.channel]? = some l ∧
          l.alive = true := by
        cases hl : st.listeners[key.channel]? with
        | none => simp [listenerAlive, hl] at halive
        | some l => exact ⟨l, rfl, by simpa [listenerAlive, hl] using halive⟩
      rw [without_of_kept hk hl hlalive]
      simp only [hkept, halive, if_true]
      generalize hforgotten : st.modifySelector s (forget [k]) = forgotten
      have hl' : forgotten.listeners[key.channel]? = some l := hforgotten ▸ hl
      have hdrop : (forgotten.modifyListener key.channel fun l' =>
          { l' with core := (l.core.dropKey k).1 }) =
          forgotten.modifyListener key.channel fun l' =>
            { l' with core := (l'.core.dropKey k).1 } :=
        modifyListener_congr hl' rfl
      rw [deregister, removeKey, run_bind, run_listener_bind hl']
      simp only [run_bind, run_modify, hdrop, invalidate, run_pure]
      cases hlast : (l.core.dropKey k).2 with
      | true =>
        have horphan : st.orphan? k = some key.channel := by
          simp [orphan?, hk, hl, hlalive, hlast]
        rw [horphan, if_pos rfl]
        rfl
      | false =>
        have horphan : st.orphan? k = none := by
          simp [orphan?, hk, hl, hlast]
        rw [horphan, if_neg Bool.false_ne_true]
        rfl

/-- Work for one key after the other: the first failure counts. -/
theorem run_dismissals (s : SelectorId) (ks : List KeyId) (st : Station) :
    (forEveryKey (fun k => do forgetKey s k; deregisterKey k) ks).run st =
      ((Station.failedKills s ks st).head?.elim (.ok ()) fun p => .error p.2,
        ks.foldl (fun st k => (st.dismiss s k).2) st) := by
  induction ks generalizing st with
  | nil => rfl
  | cons k ks ih =>
    have hfirst := run_dismissal s k st
    rw [forEveryKey, run_bind_ok (run_observe _ _), run_bind_ok (run_observe _ _), hfirst, ih,
      List.foldl_cons, failedKills]
    obtain ⟨outcome, st'⟩ := st.dismiss s k
    cases outcome with
    | ok _ => rfl
    | error e => rfl

/-- The queue of a selector is taken, and every key in it leaves. -/
theorem run_processCancelled (hx : st.selectors[s]? = some x) :
    (processCancelled s).run st =
      let taken := st.modifySelector s fun x => { x with cancelled := [] }
      ((failedKills s x.cancelled taken).head?.elim (.ok ()) fun p => .error p.2,
        x.cancelled.foldl (fun st k => (st.dismiss s k).2) taken) := by
  rw [processCancelled, takeCancelled, run_bind, run_selector_bind hx]
  exact run_dismissals s x.cancelled _

/-- Keys of open channels, or of none, leave: nothing is killed. -/
theorem run_processCancelled_open (hx : st.selectors[s]? = some x)
    (hopen : ∀ k ∈ x.cancelled, ∀ key, st.key? k = some key →
      st.listenerOpen key.channel = true) :
    (processCancelled s).run st =
      (.ok (), (st.modifySelector s fun x => { x with cancelled := [] }).without s
        x.cancelled) := by
  obtain ⟨hfailed, hleft⟩ := dismiss_all_of_open s
    (st.modifySelector s fun x => { x with cancelled := [] }) hopen
  simp only [run_processCancelled hx, hfailed, hleft]
  rfl

end Action
end PolledChannels
