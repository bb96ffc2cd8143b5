import PolledChannels.Channels.State

/-!
# The registry of a station

Registration ties channels to selectors by keys. The registry of a station is what is left when
everything else is forgotten: which channels are open, block and are killed and which keys they
list, which keys a selector holds, has queued for deregistration and has selected, and between what
a key stands and whether it is valid.

The operations of this module say what a change of the station does to its registry.
-/

namespace PolledChannels

variable {k : KeyId} {x : Roster} {c : ListenerId} {d : Standing} {s : SelectorId} {l : Listener}
  {st' : Station}

/-- What registration knows of a listening channel. -/
structure Standing where
  isOpen : Bool
  blocking : Bool
  keys : List KeyId
  lifecycle : Lifecycle
  alive : Bool

/-- What registration knows of a selector. -/
structure Roster where
  isOpen : Bool
  held : List KeyId
  queued : List KeyId
  selected : List KeyId
  alive : Bool

/-- What registration knows of a key. -/
structure Tie where
  selector : SelectorId
  channel : ListenerId
  valid : Bool

/-- Channels, selectors and keys by their names. -/
@[ext]
structure Registry where
  channel : ListenerId → Option Standing
  selector : SelectorId → Option Roster
  key : KeyId → Option Tie

/-- The standing of a listening channel. -/
def Listener.standing (l : Listener) : Standing :=
  ⟨l.core.isOpen, l.core.blocking, l.core.keys, l.lifecycle, l.alive⟩

/-- The roster of a selector. -/
def Selector.roster (x : Selector) : Roster :=
  ⟨x.isOpen, x.keys, x.cancelled, x.selected, x.alive⟩

/-- The tie that a key makes. -/
def Key.tie (key : Key) : Tie :=
  ⟨key.selector, key.channel, key.valid⟩

/-- The registry of a station. -/
def Station.registry (st : Station) : Registry where
  channel c := st.listeners[c]?.map Listener.standing
  selector s := st.selectors[s]?.map Selector.roster
  key k := (st.key? k).map Key.tie

namespace Standing

/-- A channel that was just opened. -/
def fresh : Standing := ⟨true, true, [], .inUse, true⟩

def addKey (k : KeyId) (d : Standing) : Standing := { d with keys := d.keys ++ [k] }

def dropKey (k : KeyId) (d : Standing) : Standing := { d with keys := d.keys.filter (· != k) }

/-- The channel is killed if it may be. -/
def kill (d : Standing) : Standing :=
  if d.lifecycle.killPermitted d.isOpen !d.keys.isEmpty then { d with lifecycle := .killed } else d

/-- A closed channel without keys is killed. -/
def settle (d : Standing) : Standing :=
  if d.keys.isEmpty && !d.isOpen then d.kill else d

/-- The channel is flipped to closed, and killed if no key names it. -/
def shut (d : Standing) : Standing := settle { d with isOpen := false }

section Settle

variable (d : Standing)

@[simp] theorem settle_isOpen : d.settle.isOpen = d.isOpen := by
  unfold settle kill
  split
  · split <;> rfl
  · rfl

@[simp] theorem settle_blocking : d.settle.blocking = d.blocking := by
  unfold settle kill
  split
  · split <;> rfl
  · rfl

@[simp] theorem settle_keys : d.settle.keys = d.keys := by
  unfold settle kill
  split
  · split <;> rfl
  · rfl

@[simp] theorem settle_alive : d.settle.alive = d.alive := by
  unfold settle kill
  split
  · split <;> rfl
  · rfl

theorem settle_lifecycle :
    d.settle.lifecycle = if d.isOpen = false ∧ d.keys = [] then .killed else d.lifecycle := by
  obtain ⟨isOpen, blocking, keys, lifecycle, alive⟩ := d
  cases isOpen <;> cases keys <;> cases lifecycle <;> rfl

end Settle
end Standing

namespace Roster

/-- A selector that was just opened. -/
def fresh : Roster := ⟨true, [], [], [], true⟩

def adopt (k : KeyId) (x : Roster) : Roster := { x with held := x.held ++ [k] }

/-- A key that the selector holds is queued for deregistration. -/
def enqueue (k : KeyId) (x : Roster) : Roster :=
  if x.alive && x.held.contains k then { x with queued := x.queued ++ [k] } else x

theorem enqueue_of_held (halive : x.alive = true) (hk : k ∈ x.held) :
    x.enqueue k = { x with queued := x.queued ++ [k] } := by
  simp [enqueue, halive, hk]

theorem enqueue_of_not_held (hk : k ∉ x.held) : x.enqueue k = x := by
  simp [enqueue, hk]

def takeQueue (x : Roster) : Roster := { x with queued := [] }

def forget (k : KeyId) (x : Roster) : Roster :=
  { x with held := x.held.filter (· != k), selected := x.selected.filter (· != k) }

/-- Only some of the selected keys stay selected. -/
def unselect (p : KeyId → Bool) (x : Roster) : Roster :=
  { x with selected := x.selected.filter p }

/-- The selector is closed and forgets everything. -/
def clear (x : Roster) : Roster :=
  { x with isOpen := false, held := [], queued := [], selected := [] }

end Roster

/-- A key that is not valid any more. -/
def Tie.void (t : Tie) : Tie := { t with valid := false }

@[simp] theorem Tie.void_selector (t : Tie) : t.void.selector = t.selector := rfl

@[simp] theorem Tie.void_channel (t : Tie) : t.void.channel = t.channel := rfl

@[simp] theorem Tie.void_valid (t : Tie) : t.void.valid = false := rfl

theorem put_cases {ι α : Type} [DecidableEq ι] {i j : ι} {a b : α} {o : Option α}
    (h : (if j = i then some a else o) = some b) : j = i ∧ b = a ∨ j ≠ i ∧ o = some b := by
  split at h
  · next hj => exact .inl ⟨hj, (Option.some.inj h).symm⟩
  · next hj => exact .inr ⟨hj, h⟩

namespace Registry

def putChannel (r : Registry) (c : ListenerId) (d : Standing) : Registry :=
  { r with channel := fun e => if e = c then some d else r.channel e }

def putSelector (r : Registry) (s : SelectorId) (x : Roster) : Registry :=
  { r with selector := fun e => if e = s then some x else r.selector e }

def putKey (r : Registry) (k : KeyId) (t : Tie) : Registry :=
  { r with key := fun e => if e = k then some t else r.key e }

/-- Changes the standing of a channel, if there is such a channel. -/
def onChannel (r : Registry) (c : ListenerId) (f : Standing → Standing) : Registry :=
  { r with channel := fun e => if e = c then (r.channel c).map f else r.channel e }

/-- Changes the roster of a selector, if there is such a selector. -/
def onSelector (r : Registry) (s : SelectorId) (f : Roster → Roster) : Registry :=
  { r with selector := fun e => if e = s then (r.selector s).map f else r.selector e }

/-- Changes a key, if there is such a key. -/
def onKey (r : Registry) (k : KeyId) (f : Tie → Tie) : Registry :=
  { r with key := fun e => if e = k then (r.key k).map f else r.key e }

/-- A new key ties a channel to a selector. -/
def enrol (r : Registry) (c : ListenerId) (s : SelectorId) (k : KeyId) : Registry :=
  ((r.putKey k ⟨s, c, true⟩).onSelector s (Roster.adopt k)).onChannel c (Standing.addKey k)

/-- The first key that a channel lists with a selector, valid or not. -/
def firstKey (r : Registry) (c : ListenerId) (s : SelectorId) : Option KeyId :=
  (r.channel c).bind fun d => d.keys.find? fun k => (r.key k).any fun t => t.selector == s

/-- A valid key is cancelled. -/
def cancel (r : Registry) (k : KeyId) : Registry :=
  match r.key k with
  | some t => if t.valid then (r.onKey k Tie.void).onSelector t.selector (Roster.enqueue k) else r
  | none => r

/-- The channel of a key, if it is still kept, loses the key. -/
def strike (r : Registry) (k : KeyId) : Registry :=
  match r.key k with
  | some t =>
    if (r.channel t.channel).any Standing.alive then
      ((r.onChannel t.channel (Standing.dropKey k)).onKey k Tie.void).onChannel t.channel
        Standing.settle
    else r
  | none => r

/-- Every key in the queue of a selector is deregistered. -/
def purge (r : Registry) (s : SelectorId) : Registry :=
  match r.selector s with
  | some x =>
    x.queued.foldl (fun r k => (r.onSelector s (Roster.forget k)).strike k)
      (r.onSelector s Roster.takeQueue)
  | none => r

/-- An open channel is closed: it is flipped, and every key it lists is cancelled. -/
def closeChannel (r : Registry) (c : ListenerId) : Registry :=
  match r.channel c with
  | some d => if d.isOpen then d.keys.foldl cancel (r.onChannel c Standing.shut) else r
  | none => r

/-- An open selector is closed: it is emptied, and every key it held or had queued is deregistered.
-/
def closeSelector (r : Registry) (s : SelectorId) : Registry :=
  match r.selector s with
  | some x =>
    if x.isOpen then
      (x.held ++ x.queued).foldl (fun r k => (r.onKey k Tie.void).strike k)
        (r.onSelector s Roster.clear)
    else r
  | none => r

section Lookup

variable (r : Registry)

@[simp] theorem putChannel_channel (c : ListenerId) (d : Standing) (e : ListenerId) :
    (r.putChannel c d).channel e = if e = c then some d else r.channel e := rfl

@[simp] theorem putChannel_selector (c : ListenerId) (d : Standing) (s : SelectorId) :
    (r.putChannel c d).selector s = r.selector s := rfl

@[simp] theorem putChannel_key (c : ListenerId) (d : Standing) (k : KeyId) :
    (r.putChannel c d).key k = r.key k := rfl

@[simp] theorem putSelector_channel (s : SelectorId) (x : Roster) (c : ListenerId) :
    (r.putSelector s x).channel c = r.channel c := rfl

@[simp] theorem putSelector_selector (s : SelectorId) (x : Roster) (e : SelectorId) :
    (r.putSelector s x).selector e = if e = s then some x else r.selector e := rfl

@[simp] theorem putSelector_key (s : SelectorId) (x : Roster) (k : KeyId) :
    (r.putSelector s x).key k = r.key k := rfl

@[simp] theorem putKey_channel (k : KeyId) (t : Tie) (c : ListenerId) :
    (r.putKey k t).channel c = r.channel c := rfl

@[simp] theorem putKey_selector (k : KeyId) (t : Tie) (s : SelectorId) :
    (r.putKey k t).selector s = r.selector s := rfl

@[simp] theorem putKey_key (k : KeyId) (t : Tie) (e : KeyId) :
    (r.putKey k t).key e = if e = k then some t else r.key e := rfl

variable {r}

theorem onChannel_of (h : r.channel c = some d) (f : Standing → Standing) :
    r.onChannel c f = r.putChannel c (f d) := by
  simp [onChannel, putChannel, h]

theorem onSelector_of (h : r.selector s = some x) (f : Roster → Roster) :
    r.onSelector s f = r.putSelector s (f x) := by
  simp [onSelector, putSelector, h]

theorem onKey_of {t : Tie} (h : r.key k = some t) (f : Tie → Tie) :
    r.onKey k f = r.putKey k (f t) := by
  simp [onKey, putKey, h]

theorem putChannel_self (h : r.channel c = some d) : r.putChannel c d = r := by
  refine Registry.ext (funext fun e => ?_) rfl rfl
  by_cases he : e = c
  · simp [he, h]
  · simp [he]

theorem putChannel_putChannel (c : ListenerId) (d d' : Standing) :
    (r.putChannel c d).putChannel c d' = r.putChannel c d' := by
  refine Registry.ext (funext fun e => ?_) rfl rfl
  by_cases he : e = c <;> simp [he]

theorem putSelector_self (h : r.selector s = some x) : r.putSelector s x = r := by
  refine Registry.ext rfl (funext fun e => ?_) rfl
  by_cases he : e = s
  · simp [he, h]
  · simp [he]

theorem onChannel_none (h : r.channel c = none) (f : Standing → Standing) :
    r.onChannel c f = r := by
  refine Registry.ext (funext fun e => ?_) rfl rfl
  by_cases he : e = c <;> simp [onChannel, he, h]

theorem onSelector_none (h : r.selector s = none) (f : Roster → Roster) :
    r.onSelector s f = r := by
  refine Registry.ext rfl (funext fun e => ?_) rfl
  by_cases he : e = s <;> simp [onSelector, he, h]

theorem onSelector_enqueue_dead (h : ¬ (r.selector s).any Roster.alive = true) :
    r.onSelector s (Roster.enqueue k) = r := by
  cases hx : r.selector s with
  | none => exact onSelector_none hx _
  | some x =>
    have hdead : x.alive = false := by simpa [hx] using h
    rw [onSelector_of hx]
    simp [Roster.enqueue, hdead, putSelector_self hx]

end Lookup
end Registry

namespace Station

variable {st : Station} {α β : Type} {h : α → β} {key : Key} {f : α → α}

theorem registry_channel_of (h : st.listeners[c]? = some l) :
    st.registry.channel c = some l.standing := by
  simp [registry, h]

theorem registry_selector_of {x : Selector} (h : st.selectors[s]? = some x) :
    st.registry.selector s = some x.roster := by
  simp [registry, h]

theorem registry_key_of (h : st.key? k = some key) :
    st.registry.key k = some key.tie := by
  simp [registry, h]

/-- Reading a list through `h` after one place was changed. -/
theorem map_getElem?_modify (xs : List α) (i : Nat) {g : β → β}
    (hfg : ∀ a, h (f a) = g (h a)) (j : Nat) :
    (xs.modify i f)[j]?.map h = if j = i then (xs[i]?.map h).map g else xs[j]?.map h := by
  by_cases hj : j = i
  · subst hj
    simp [Function.comp_def, hfg]
  · simp [List.getElem?_modify_ne f xs (Ne.symm hj), hj]

theorem map_modify_same (xs : List α) (i : Nat)
    (hf : ∀ a, h (f a) = h a) : (xs.modify i f).map h = xs.map h := by
  refine List.ext_getElem? fun j => ?_
  rw [List.getElem?_map, List.getElem?_map, map_getElem?_modify xs i (g := id) hf]
  split
  · next hj => rw [hj, Option.map_id_apply]
  · rfl

/-- Only what a change makes of the element that is there counts. -/
theorem modify_congr {xs : List α} {i : Nat} {a : α} (ha : xs[i]? = some a) {g : α → α}
    (hfg : f a = g a) : xs.modify i f = xs.modify i g := by
  refine List.ext_getElem? fun j => ?_
  by_cases hj : i = j
  · subst hj
    simp [ha, hfg]
  · simp [List.getElem?_modify_ne _ _ hj]

theorem modifyListener_congr (hl : st.listeners[c]? = some l) {f g : Listener → Listener}
    (hfg : f l = g l) : st.modifyListener c f = st.modifyListener c g := by
  simp only [modifyListener, modify_congr hl hfg]

theorem registry_modifyListener (st : Station) (c : ListenerId) {f : Listener → Listener}
    {g : Standing → Standing} (hfg : ∀ l, (f l).standing = g l.standing) :
    (st.modifyListener c f).registry = st.registry.onChannel c g :=
  Registry.ext (funext fun e => map_getElem?_modify st.listeners c hfg e) rfl rfl

theorem registry_modifyListener_of (h : st.listeners[c]? = some l) (f : Listener → Listener) :
    (st.modifyListener c f).registry = st.registry.putChannel c (f l).standing := by
  refine Registry.ext (funext fun e => ?_) rfl rfl
  by_cases he : e = c
  · simp [registry, modifyListener, he, h]
  · simp [registry, modifyListener, List.getElem?_modify_ne f st.listeners (Ne.symm he), he]

theorem modifySelector_none (h : st.selectors[s]? = none) (f : Selector → Selector) :
    st.modifySelector s f = st := by
  rw [modifySelector, List.modify_eq_self (List.getElem?_eq_none_iff.mp h)]

theorem registry_modifySelector (st : Station) (s : SelectorId) {f : Selector → Selector}
    {g : Roster → Roster} (hfg : ∀ x, (f x).roster = g x.roster) :
    (st.modifySelector s f).registry = st.registry.onSelector s g :=
  Registry.ext rfl (funext fun e => map_getElem?_modify st.selectors s hfg e) rfl

theorem registry_modifySelector_of {x : Selector} (h : st.selectors[s]? = some x)
    (f : Selector → Selector) :
    (st.modifySelector s f).registry = st.registry.putSelector s (f x).roster := by
  refine Registry.ext rfl (funext fun e => ?_) rfl
  by_cases he : e = s
  · simp [registry, modifySelector, he, h]
  · simp [registry, modifySelector, List.getElem?_modify_ne f st.selectors (Ne.symm he), he]

theorem key?_modifyKey (st : Station) (k : KeyId) (f : Key → Key) (j : KeyId) :
    (st.modifyKey k f).key? j = if j = k then (st.key? k).map f else st.key? j := by
  by_cases hk : k = 0
  · subst hk
    by_cases hj : j = 0 <;> simp [modifyKey, key?, hj]
  · by_cases hj : j = 0
    · simp [key?, hj, Ne.symm hk]
    · have hplace : j - 1 = k - 1 ↔ j = k := by
        constructor
        · exact Nat.sub_one_cancel (Nat.pos_of_ne_zero hj) (Nat.pos_of_ne_zero hk)
        · rintro rfl
          rfl
      have hmodify :=
        map_getElem?_modify st.keys (k - 1) (f := f) (h := id) (g := f) (fun _ => rfl) (j - 1)
      simpa [modifyKey, key?, hk, hj, hplace] using hmodify

theorem selectors_modifyKey (st : Station) (k : KeyId) (f : Key → Key) :
    (st.modifyKey k f).selectors = st.selectors := by
  unfold modifyKey
  split <;> rfl

theorem listeners_modifyKey (st : Station) (k : KeyId) (f : Key → Key) :
    (st.modifyKey k f).listeners = st.listeners := by
  unfold modifyKey
  split <;> rfl

theorem registry_modifyKey (st : Station) (k : KeyId) {f : Key → Key} {g : Tie → Tie}
    (hfg : ∀ key, (f key).tie = g key.tie) :
    (st.modifyKey k f).registry = st.registry.onKey k g := by
  refine Registry.ext ?_ ?_ (funext fun e => ?_)
  · unfold modifyKey
    split <;> rfl
  · unfold modifyKey
    split <;> rfl
  · by_cases he : e = k <;> simp [registry, Registry.onKey, key?_modifyKey, he,
      Function.comp_def, hfg]

theorem map_getElem?_append (xs : List α) (a : α) (h : α → β) (j : Nat) :
    (xs ++ [a])[j]?.map h = if j = xs.length then some (h a) else xs[j]?.map h := by
  rcases Nat.lt_trichotomy j xs.length with hj | hj | hj
  · simp [List.getElem?_append_left hj, Nat.ne_of_lt hj]
  · simp [hj]
  · simp [List.getElem?_append_right (Nat.le_of_lt hj), Nat.ne_of_gt hj,
      List.getElem?_eq_none (Nat.le_of_lt hj),
      Nat.sub_ne_zero_of_lt hj]

theorem registry_append_listener (hlisteners : st'.listeners = st.listeners ++ [l])
    (hl : l.standing = d) (hselectors : st'.selectors = st.selectors) (hkeys : st'.keys = st.keys) :
    st'.registry = st.registry.putChannel st.listeners.length d := by
  subst hl
  refine Registry.ext (funext fun e => ?_) (funext fun e => ?_) (funext fun e => ?_)
  · simp only [registry, hlisteners, Registry.putChannel_channel]
    exact map_getElem?_append st.listeners l Listener.standing e
  · simp [registry, hselectors]
  · simp [registry, key?, hkeys]

theorem registry_append_selector {x : Selector} {y : Roster}
    (hselectors : st'.selectors = st.selectors ++ [x]) (hx : x.roster = y)
    (hlisteners : st'.listeners = st.listeners) (hkeys : st'.keys = st.keys) :
    st'.registry = st.registry.putSelector st.selectors.length y := by
  subst hx
  refine Registry.ext (funext fun e => ?_) (funext fun e => ?_) (funext fun e => ?_)
  · simp [registry, hlisteners]
  · simp only [registry, hselectors, Registry.putSelector_selector]
    exact map_getElem?_append st.selectors x Selector.roster e
  · simp [registry, key?, hkeys]

theorem registry_append_key {t : Tie} (hkeys : st'.keys = st.keys ++ [key])
    (hkey : key.tie = t) (hlisteners : st'.listeners = st.listeners)
    (hselectors : st'.selectors = st.selectors) :
    st'.registry = st.registry.putKey (st.keys.length + 1) t := by
  subst hkey
  refine Registry.ext (funext fun e => ?_) (funext fun e => ?_) (funext fun e => ?_)
  · simp [registry, hlisteners]
  · simp [registry, hselectors]
  · cases e with
    | zero => simp [registry, key?]
    | succ e => simpa [registry, key?, hkeys] using map_getElem?_append st.keys key Key.tie e

theorem registry_key_next (st : Station) : st.registry.key (st.keys.length + 1) = none := by
  simp [registry, key?]

end Station
end PolledChannels
