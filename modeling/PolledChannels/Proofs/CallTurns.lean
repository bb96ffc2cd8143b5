import PolledChannels.Proofs.GuardRaces
import PolledChannels.Proofs.SoloCalls

/-!
# What an access does

Races between calls are decided by little of a station: its registry, which descriptors were given
up, the numbers under which events name channels, and its front, which is what accepts, closes and
interrupts see of it. This is the scene of a station.

The turns of a call say once what each of its accesses may do: where the call stands before and
after it, what has to hold of the scene for that, and how the scene changes. Invariants of
interleavings are derived from the turns, and the accesses are not opened again.
-/

namespace PolledChannels

open PolledChannels.Action Station

variable {s : SelectorId} {c : ListenerId} {st st' : Station}

/-! ## Fronts -/

namespace Front

/-- The channel changes as the parties see it. -/
def onGate (v : Front) (c : ListenerId) (f : Gate → Gate) : Front :=
  { v with gate := fun d => if d = c then (v.gate d).map f else v.gate d }

def putSlot (v : Front) (t : ThreadId) (s : Option (Slot ListenerId)) : Front :=
  { v with slot := fun u => if u = t then s else v.slot u }

variable {v : Front} {c d : ListenerId} {f : Gate → Gate} {t u : ThreadId}
  {s : Option (Slot ListenerId)} {g : Gate}

@[simp] theorem gate_onGate_self : (v.onGate c f).gate c = (v.gate c).map f := by
  simp [onGate]

theorem gate_onGate_of_ne (h : d ≠ c) : (v.onGate c f).gate d = v.gate d := by
  simp [onGate, h]

theorem gate_onGate_some (hg : v.gate c = some g) :
    (v.onGate c f).gate c = some (f g) := by
  rw [gate_onGate_self, hg, Option.map_some]

/-- What a change leaves alone of every gate it leaves alone of the front. -/
theorem bind_gate_onGate {α : Type} {part : Gate → Option α} (hf : ∀ g, part (f g) = part g) :
    ((v.onGate d f).gate c).bind part = (v.gate c).bind part := by
  by_cases hd : c = d
  · subst hd
    cases hg : v.gate c <;> simp [hg, hf]
  · rw [gate_onGate_of_ne hd]

theorem isOpen_of_gate (hg : v.gate c = some g) : v.isOpen c = g.isOpen := by
  simp [isOpen, hg]

theorem onGate_congr {f' : Gate → Gate} (hg : v.gate c = some g) (h : f g = f' g) :
    v.onGate c f = v.onGate c f' := by
  refine Front.ext (funext fun d => ?_) rfl
  by_cases hd : d = c
  · subst hd
    simp [onGate, hg, h]
  · simp [onGate, hd]

theorem onGate_id : v.onGate c id = v := by
  refine Front.ext (funext fun d => ?_) rfl
  simp [onGate]

/-- A channel that was open after a change was open before, if the change opens nothing. -/
theorem isOpen_of_onGate (hf : ∀ g, (f g).isOpen = true → g.isOpen = true)
    (h : (v.onGate c f).isOpen d = true) : v.isOpen d = true := by
  by_cases hd : d = c
  · subst hd
    cases hg : v.gate d with
    | none => simp [isOpen, hg] at h
    | some g => simpa [isOpen, hg] using hf g (by simpa [isOpen, hg] using h)
  · simpa [isOpen, gate_onGate_of_ne hd] using h

@[simp] theorem slot_putSlot_self : (v.putSlot t s).slot t = s := by
  simp [putSlot]

theorem slot_putSlot_of_ne (h : u ≠ t) : (v.putSlot t s).slot u = v.slot u := by
  simp [putSlot, h]

end Front

section Fronts

variable {st : Station} {c : ListenerId} {l : Listener} {f : Listener → Listener}

theorem Station.gate_front (hl : st.listeners[c]? = some l) : st.front.gate c = some l.gate := by
  simp [front, hl]

theorem Station.front_modifyListener (st : Station) (c : ListenerId)
    {g : Gate → Gate} (hfg : ∀ l, (f l).gate = g l.gate) :
    (st.modifyListener c f).front = st.front.onGate c g := by
  refine Front.ext (funext fun d => ?_) rfl
  by_cases hd : d = c
  · subst hd
    simp [front, Front.onGate, modifyListener, Function.comp_def, hfg]
  · simp [front, Front.onGate, modifyListener, List.getElem?_modify_ne f _ (Ne.symm hd), hd]

theorem Station.front_modifyListener_same (st : Station) (c : ListenerId)
    (hf : ∀ l, (f l).gate = l.gate) : (st.modifyListener c f).front = st.front := by
  rw [front_modifyListener st c (g := id) hf, Front.onGate_id]

theorem Station.front_modifyKey (st : Station) (k : KeyId) (f : Key → Key) :
    (st.modifyKey k f).front = st.front := by
  unfold modifyKey
  split <;> rfl

def Gate.marked (g : Gate) : Gate :=
  { g with word := g.word ||| Guard.closedBit }

def Gate.killed (g : Gate) : Gate :=
  { g with lifecycle := .killed }

theorem Station.front_marked (st : Station) (c : ListenerId) :
    (st.modifyListener c Listener.marked).front = st.front.onGate c Gate.marked :=
  front_modifyListener st c fun _ => rfl

end Fronts

/-! ## Scenes -/

/-- What races between calls are decided by. -/
@[ext]
structure Scene where
  registry : Registry
  /-- The descriptor of the channel was closed. -/
  given : ListenerId → Bool
  /-- The number under which events name the channel. -/
  named : ListenerId → Option UInt64
  /-- The channels as parties see them. -/
  front : Front

namespace Scene

def putChannel (v : Scene) (c : ListenerId) (d : Standing) : Scene :=
  { v with registry := v.registry.putChannel c d }

def onChannel (v : Scene) (c : ListenerId) (f : Standing → Standing) : Scene :=
  { v with registry := v.registry.onChannel c f }

def onSelector (v : Scene) (s : SelectorId) (f : Roster → Roster) : Scene :=
  { v with registry := v.registry.onSelector s f }

def onKey (v : Scene) (k : KeyId) (f : Tie → Tie) : Scene :=
  { v with registry := v.registry.onKey k f }

def putKey (v : Scene) (k : KeyId) (t : Tie) : Scene :=
  { v with registry := v.registry.putKey k t }

def onGate (v : Scene) (c : ListenerId) (f : Gate → Gate) : Scene :=
  { v with front := v.front.onGate c f }

/-- The descriptor of the channel is closed. -/
def give (v : Scene) (c : ListenerId) : Scene where
  __ := v.onGate c Gate.marked
  given e := if e = c then true else v.given e

theorem onGate_congr {v : Scene} {g : Gate} {f k : Gate → Gate} (hg : v.front.gate c = some g)
    (h : f g = k g) : v.onGate c f = v.onGate c k :=
  Scene.ext rfl rfl rfl (Front.onGate_congr hg h)

theorem onGate_id (v : Scene) (c : ListenerId) : v.onGate c id = v :=
  Scene.ext rfl rfl rfl Front.onGate_id

end Scene

def Station.scene (st : Station) : Scene where
  registry := st.registry
  given c := st.listeners[c]?.any fun l => l.descriptor.isClosed
  named c := st.listeners[c]?.map fun l => l.id.toUInt64
  front := st.front

section Scenes

variable {st : Station} {c : ListenerId} {l : Listener}

theorem Station.scene_channel (hl : st.listeners[c]? = some l) :
    st.scene.registry.channel c = some l.standing :=
  registry_channel_of hl

theorem Station.scene_selector {x : Selector} (hx : st.selectors[s]? = some x) :
    st.scene.registry.selector s = some x.roster :=
  registry_selector_of hx

theorem Station.scene_named (hl : st.listeners[c]? = some l) :
    st.scene.named c = some l.id.toUInt64 := by
  simp [scene, hl]

section Changes

variable {f : Listener → Listener} {g : Standing → Standing} {k : Gate → Gate}
  (hfg : ∀ l, (f l).standing = g l.standing) (hgate : ∀ l, (f l).gate = k l.gate)
  (hdescriptor : ∀ l, (f l).descriptor = l.descriptor) (hid : ∀ l, (f l).id = l.id)
include hfg hgate hdescriptor hid

theorem Station.scene_modifyListener_on (st : Station) (c : ListenerId) :
    (st.modifyListener c f).scene = (st.scene.onGate c k).onChannel c g := by
  refine Scene.ext (registry_modifyListener st c hfg) (funext fun e => ?_) (funext fun e => ?_)
    (front_modifyListener st c hgate)
  · by_cases he : c = e
    · subst he
      simp [scene, Scene.onChannel, Scene.onGate, modifyListener, Option.any_map, hdescriptor]
    · simp [scene, Scene.onChannel, Scene.onGate, modifyListener, List.getElem?_modify_ne f _ he]
  · have hnames := map_modify_same st.listeners c (f := f) (h := fun l => l.id.toUInt64)
      fun l => by rw [hid]
    simpa [scene, Scene.onChannel, Scene.onGate, modifyListener] using congrArg (·[e]?) hnames

theorem Station.scene_modifyListener (hl : st.listeners[c]? = some l) :
    (st.modifyListener c f).scene = (st.scene.onGate c k).putChannel c (g l.standing) := by
  rw [scene_modifyListener_on hfg hgate hdescriptor hid st c]
  exact Scene.ext (Registry.onChannel_of (registry_channel_of hl) g) rfl rfl rfl

end Changes

theorem Station.scene_killed (hl : st.listeners[c]? = some l) :
    (st.modifyListener c fun l => { l with lifecycle := .killed }).scene =
      (st.scene.onGate c Gate.killed).putChannel c { l.standing with lifecycle := .killed } :=
  scene_modifyListener (g := fun d => { d with lifecycle := .killed }) (fun _ => rfl)
    (fun _ => rfl) (fun _ => rfl) (fun _ => rfl) hl

theorem Station.scene_modifyCore (hl : st.listeners[c]? = some l) (core : Core) {f : Gate → Gate}
    (hf : f l.gate =
      { l.gate with isOpen := core.isOpen, interruptedBy := core.interruptedBy }) :
    (st.modifyListener c fun l => { l with core }).scene =
      (st.scene.onGate c f).putChannel c { l.standing with
        isOpen := core.isOpen, blocking := core.blocking, keys := core.keys } := by
  rw [Scene.onGate_congr (v := st.scene) (gate_front hl) (k := fun g =>
    { g with isOpen := core.isOpen, interruptedBy := core.interruptedBy }) hf]
  exact scene_modifyListener
    (g := fun d => { d with isOpen := core.isOpen, blocking := core.blocking, keys := core.keys })
    (fun _ => rfl) (fun _ => rfl) (fun _ => rfl) (fun _ => rfl) hl

theorem Listener.isClosed_marked (l : Listener) : l.marked.descriptor.isClosed = true := by
  have hodd : (l.descriptor.word ||| Guard.closedBit).toNat % 2 = 1 := by
    rw [Guard.toNat_mark]
    omega
  exact Guard.isClosed_iff.mpr hodd

theorem Station.scene_marked (hl : st.listeners[c]? = some l) :
    (st.modifyListener c Listener.marked).scene = st.scene.give c := by
  refine Scene.ext ?_ (funext fun e => ?_) (funext fun e => ?_) (front_marked st c)
  · have hsame : l.marked.standing = l.standing := rfl
    show (st.modifyListener c Listener.marked).registry = st.registry
    rw [registry_modifyListener_of hl, hsame, Registry.putChannel_self (registry_channel_of hl)]
  · by_cases he : c = e
    · subst he
      simp [scene, Scene.give, Scene.onGate, modifyListener, hl, l.isClosed_marked]
    · simp [scene, Scene.give, Scene.onGate, modifyListener,
        List.getElem?_modify_ne _ _ he, Ne.symm he]
  · by_cases he : c = e
    · subst he
      simp [scene, Scene.give, Scene.onGate, modifyListener, hl, Listener.marked]
    · simp [scene, Scene.give, Scene.onGate, modifyListener, List.getElem?_modify_ne _ _ he]

theorem Station.scene_tell (st : Station) (c : ListenerId) (event : Event) :
    (st.tell c event).scene = st.scene := by
  unfold tell
  split <;> rfl

theorem Station.scene_modifyKey (st : Station) (k : KeyId) {f : Key → Key} {g : Tie → Tie}
    (hfg : ∀ key, (f key).tie = g key.tie) : (st.modifyKey k f).scene = st.scene.onKey k g := by
  have hlisteners : (st.modifyKey k f).listeners = st.listeners := by
    unfold modifyKey
    split <;> rfl
  refine Scene.ext (registry_modifyKey st k hfg) (funext fun e => ?_) (funext fun e => ?_)
    (front_modifyKey st k f)
  · simp [scene, Scene.onKey, hlisteners]
  · simp [scene, Scene.onKey, hlisteners]

theorem Station.scene_modifySelector (st : Station) (s : SelectorId) {f : Selector → Selector}
    {g : Roster → Roster} (hfg : ∀ x, (f x).roster = g x.roster) :
    (st.modifySelector s f).scene = st.scene.onSelector s g :=
  Scene.ext (registry_modifySelector st s hfg) rfl rfl rfl

end Scenes

/-! ## Descriptors -/

section Descriptors

variable {P : Type} {f : IoResult → P} {p' : P}

/-- Setting the bit leaves nothing more to do, or something to be done to the number. -/
theorem of_run_mark {act : GuardEffect → P}
    (h : (do
      match ← accessDescriptor c .mark with
      | (.act effect, _) => return act effect
      | (_, released) => return f released : Action P).run st = (.ok p', st')) :
    ∃ l, st.listeners[c]? = some l ∧ st' = st.modifyListener c Listener.marked ∧
      (Guard.afterMark l.descriptor.word = .done ∧ p' = f (.ok ()) ∨
        ∃ effect, Guard.afterMark l.descriptor.word = .act effect ∧ p' = act effect) := by
  obtain ⟨_, _, haccess, h⟩ := of_run_bind h
  obtain ⟨l, hl, -⟩ := of_run_listener_bind haccess
  cases (run_accessDescriptor_mark hl).symm.trans haccess
  rcases Guard.afterMark_cases l.descriptor.word with ⟨hnext, -⟩ | ⟨hnext, -⟩ |
    ⟨hnext, -⟩ <;>
    rw [hnext] at h <;> cases h
  · exact ⟨l, hl, rfl, .inl ⟨hnext, rfl⟩⟩
  · exact ⟨l, hl, rfl, .inr ⟨_, hnext, rfl⟩⟩
  · exact ⟨l, hl, rfl, .inr ⟨_, hnext, rfl⟩⟩

theorem of_run_act {effect : GuardEffect}
    (h : (do
      let r ← accessDescriptor c (.act effect)
      return f r.2 : Action P).run st = (.ok p', st')) :
    ∃ released network, p' = f released ∧ st' = { st with network } := by
  obtain ⟨r, haccess, rfl⟩ := of_run_map h
  obtain ⟨l, hl, -⟩ := of_run_listener_bind haccess
  obtain ⟨released, network, -, hrun⟩ := run_accessDescriptor_act hl effect
  cases hrun.symm.trans haccess
  exact ⟨released, network, rfl, rfl⟩

end Descriptors

/-! ## Kills -/

/-- What an access of a kill does. -/
inductive KillPoint.Turn (c : ListenerId) (v : Scene) : KillPoint → Scene → KillPoint → Prop
  | already {d : Standing} (hd : v.registry.channel c = some d) (h : d.lifecycle = .killed) :
      Turn c v .weigh v (.ended none (.ok ()))
  | promoteOnly {d : Standing} (hd : v.registry.channel c = some d)
      (h : d.lifecycle = .uninitialized) :
      Turn c v .weigh ((v.onGate c Gate.killed).putChannel c { d with lifecycle := .killed })
        (.ended none (.ok ()))
  | weigh {d : Standing} (hd : v.registry.channel c = some d) (h : d.lifecycle = .inUse) :
      Turn c v .weigh v .askOpen
  | askOpen {d : Standing} (hd : v.registry.channel c = some d) :
      Turn c v .askOpen v (.askKeys d.isOpen)
  | permitted {d : Standing} {isOpen : Bool} (hd : v.registry.channel c = some d)
      (h : d.lifecycle.killPermitted isOpen (!d.keys.isEmpty) = true) :
      Turn c v (.askKeys isOpen) v .mark
  | forbidden {d : Standing} {isOpen : Bool} (hd : v.registry.channel c = some d)
      (h : d.lifecycle.killPermitted isOpen (!d.keys.isEmpty) = false) :
      Turn c v (.askKeys isOpen) v (.ended none (.ok ()))
  | marked {g : Gate} (hg : v.front.gate c = some g) (h : Guard.afterMark g.word = .done) :
      Turn c v .mark (v.give c) (.promote (.ok ()))
  | mark {g : Gate} {effect : GuardEffect} (hg : v.front.gate c = some g)
      (h : Guard.afterMark g.word = .act effect) :
      Turn c v .mark (v.give c) (.act effect)
  | act (effect : GuardEffect) (released : IoResult) :
      Turn c v (.act effect) v (.promote released)
  | promote {d : Standing} {event : Event} (released : IoResult)
      (hd : v.registry.channel c = some d) (hkind : event.kind = .killed)
      (hname : v.named c = some event.channel) :
      Turn c v (.promote released)
        ((v.onGate c Gate.killed).putChannel c { d with lifecycle := .killed })
        (.ended (some event) released)
  | ended (event : Option Event) (released : IoResult) :
      Turn c v (.ended event released) v (.ended event released)

theorem KillPoint.turn {p p' : KillPoint} (h : (p.step c).run st = (.ok p', st')) :
    Turn c st.scene p st'.scene p' := by
  cases p with
  | weigh =>
    obtain ⟨l, hl, h⟩ := of_run_listener_bind h
    cases hlife : l.lifecycle with
    | killed =>
      rw [hlife] at h
      cases h
      exact .already (scene_channel hl) hlife
    | uninitialized =>
      rw [hlife] at h
      cases h
      rw [scene_killed hl]
      exact .promoteOnly (scene_channel hl) hlife
    | inUse =>
      rw [hlife] at h
      cases h
      exact .weigh (scene_channel hl) hlife
  | askOpen =>
    obtain ⟨l, hl, h⟩ := of_run_listener_bind h
    cases h
    exact .askOpen (scene_channel hl)
  | askKeys isOpen =>
    obtain ⟨l, hl, rfl, ⟨hpermitted, rfl⟩ | ⟨hforbidden, rfl⟩⟩ := of_run_ask h
    · exact .permitted (scene_channel hl) hpermitted
    · exact .forbidden (scene_channel hl) hforbidden
  | mark =>
    obtain ⟨l, hl, rfl, ⟨hnext, rfl⟩ | ⟨effect, hnext, rfl⟩⟩ := of_run_mark h
    · exact scene_marked hl ▸ .marked (gate_front hl) hnext
    · exact scene_marked hl ▸ .mark (gate_front hl) hnext
  | act effect =>
    obtain ⟨released, network, rfl, rfl⟩ := of_run_act h
    exact .act effect released
  | promote released =>
    obtain ⟨l, hl, h⟩ := of_run_listener_bind h
    cases h
    rw [scene_killed hl]
    exact .promote released (scene_channel hl) rfl (scene_named hl)
  | ended event released =>
    cases h
    exact .ended event released

/-! ## Deregistrations -/

/-- What an access of a deregistration does. -/
inductive LeavePoint.Turn (c : ListenerId) (k : KeyId) (v : Scene) :
    LeavePoint → Scene → LeavePoint → Prop
  | strike {d : Standing} (hd : v.registry.channel c = some d) :
      Turn c k v .strike (v.putChannel c (d.dropKey k)) .void
  | void : Turn c k v .void (v.onKey k Tie.void) .test
  | last {d : Standing} (hd : v.registry.channel c = some d) (hkeys : d.keys = [])
      (hclosed : d.isOpen = false) :
      Turn c k v .test v (.kill .weigh)
  | more {d : Standing} (hd : v.registry.channel c = some d)
      (h : d.keys ≠ [] ∨ d.isOpen = true) :
      Turn c k v .test v (.ended (.ok ()))
  | kill {v' : Scene} {point point' : KillPoint} (h : point.Turn c v v' point')
      (hbusy : point.isOver = false) :
      Turn c k v (.kill point) v' (.kill point')
  | killed (event : Event) (released : IoResult) :
      Turn c k v (.kill (.ended (some event) released)) v (.tell event released)
  | spared (released : IoResult) :
      Turn c k v (.kill (.ended none released)) v (.ended released)
  | tell (event : Event) (released : IoResult) :
      Turn c k v (.tell event released) v (.ended released)
  | ended (outcome : IoResult) : Turn c k v (.ended outcome) v (.ended outcome)

theorem LeavePoint.turn {k : KeyId} {p p' : LeavePoint} (h : (p.step c k).run st = (.ok p', st')) :
    Turn c k st.scene p st'.scene p' := by
  cases p with
  | strike =>
    obtain ⟨l, hl, h⟩ := of_run_listener_bind h
    cases h
    rw [scene_modifyCore hl (l.core.dropKey k).1 (f := id) rfl, Scene.onGate_id]
    exact .strike (scene_channel hl)
  | void =>
    cases h
    rw [scene_modifyKey st k (g := Tie.void) fun _ => rfl]
    exact .void
  | test =>
    obtain ⟨l, hl, rfl, ⟨hlast, rfl⟩ | ⟨hmore, rfl⟩⟩ := of_run_ask h
    · simp only [Bool.and_eq_true, List.isEmpty_iff, Bool.not_eq_true'] at hlast
      exact .last (scene_channel hl) hlast.1 hlast.2
    · simp only [Bool.and_eq_false_iff, List.isEmpty_eq_false_iff, Bool.not_eq_false'] at hmore
      exact .more (scene_channel hl) hmore
  | kill point =>
    cases point with
    | ended event released =>
      cases event with
      | none =>
        cases h
        exact .spared released
      | some event =>
        cases h
        exact .killed event released
    | _ =>
      obtain ⟨next, hstep, rfl⟩ := of_run_map h
      exact .kill (KillPoint.turn hstep) rfl
  | tell event released =>
    cases h
    show Turn c k st.scene _ (st.tell c event).scene _
    rw [scene_tell]
    exact .tell event released
  | ended outcome =>
    cases h
    exact .ended outcome

/-! ## Closes of a channel -/

/-- What an access of a cancellation does. -/
inductive CancelPoint.Turn (v : Scene) : CancelPoint → Scene → CancelPoint → Prop
  | swap {k : KeyId} {t : Tie} (hk : v.registry.key k = some t) (hvalid : t.valid = true) :
      Turn v (.swap k) (v.onKey k Tie.void) (.find t.selector k)
  | spent {k : KeyId} (h : ∀ t, v.registry.key k = some t → t.valid = false) :
      Turn v (.swap k) v .ended
  | find (s : SelectorId) (k : KeyId) : Turn v (.find s k) v (.queue s k)
  | lost (s : SelectorId) (k : KeyId) : Turn v (.find s k) v .ended
  | queue (s : SelectorId) (k : KeyId) :
      Turn v (.queue s k) (v.onSelector s fun x => { x with queued := x.queued ++ [k] }) (.wake s)
  | wake (s : SelectorId) : Turn v (.wake s) v .ended
  | ended : Turn v .ended v .ended

theorem Station.scene_wakeup (st : Station) (s : SelectorId) :
    (st.modifySelector s fun x => { x with wake := x.wake.pushByte }).scene = st.scene := by
  have hsame := registry_modifySelector st s (f := fun x => { x with wake := x.wake.pushByte })
    (g := id) fun _ => rfl
  refine Scene.ext ?_ rfl rfl rfl
  rw [Registry.onSelector_id] at hsame
  exact hsame

theorem CancelPoint.turn {p p' : CancelPoint} (h : p.step.run st = (.ok p', st')) :
    Turn st.scene p st'.scene p' := by
  cases p with
  | swap k =>
    simp only [step, run_bind, run_get] at h
    cases hk : st.key? k with
    | none =>
      rw [hk] at h
      cases h
      refine .spent fun t ht => ?_
      rw [show st.scene.registry.key k = none from registry_key_none hk] at ht
      cases ht
    | some key =>
      have htie : st.scene.registry.key k = some key.tie := registry_key_of hk
      rw [hk] at h
      dsimp only at h
      split at h
      · next hvalid =>
        cases h
        rw [scene_modifyKey st k (g := Tie.void) fun _ => rfl]
        exact .swap htie hvalid
      · next hspent =>
        cases h
        refine .spent fun t ht => ?_
        rw [htie] at ht
        cases ht
        exact Bool.not_eq_true _ ▸ hspent
  | find s k =>
    simp only [step, run_bind, run_get] at h
    split at h
    · cases h
      exact .lost s k
    · split at h
      · cases h
        exact .find s k
      · cases h
        exact .lost s k
  | queue s k =>
    cases h
    rw [scene_modifySelector st s (g := fun x => { x with queued := x.queued ++ [k] }) fun _ => rfl]
    exact .queue s k
  | wake s =>
    cases h
    rw [scene_wakeup]
    exact .wake s
  | ended =>
    cases h
    exact .ended

/-- What an access of a close of a channel does. -/
inductive ClosePoint.Turn (c : ListenerId) (v : Scene) :
    ClosePoint → Scene → ClosePoint → Prop
  | late {d : Standing} (hd : v.registry.channel c = some d) (h : d.isOpen = false) :
      Turn c v .shut v (.ended (.ok ()))
  | shut {d : Standing} (hd : v.registry.channel c = some d) (h : d.isOpen = true) :
      Turn c v .shut
        ((v.onGate c fun g => { g with isOpen := false }).putChannel c { d with isOpen := false })
        .look
  | killed {d : Standing} {g : Gate} (hd : v.registry.channel c = some d)
      (hg : v.front.gate c = some g) (h : d.lifecycle = .killed) (hgate : g.lifecycle = .killed) :
      Turn c v .look v (.sample (.ok ()))
  | look {d : Standing} (hd : v.registry.channel c = some d) (h : d.lifecycle ≠ .killed) :
      Turn c v .look v .mark
  | marked {g : Gate} (hg : v.front.gate c = some g) (h : Guard.afterMark g.word = .done) :
      Turn c v .mark (v.give c) (.sample (.ok ()))
  | mark {g : Gate} {effect : GuardEffect} (hg : v.front.gate c = some g)
      (h : Guard.afterMark g.word = .act effect) :
      Turn c v .mark (v.give c) (.act effect)
  | act (effect : GuardEffect) (released : IoResult) :
      Turn c v (.act effect) v (.sample released)
  | nobody {event : Event} {g : Gate} (released : IoResult)
      (hkind : event.kind = .closed) (hname : v.named c = some event.channel)
      (hg : v.front.gate c = some g) (h : g.acceptor = none) :
      Turn c v (.sample released) v (.count (event, released))
  | sample {event : Event} {g : Gate} {t : ThreadId} (released : IoResult)
      (hkind : event.kind = .closed) (hname : v.named c = some event.channel)
      (hg : v.front.gate c = some g) (h : g.acceptor = some t) :
      Turn c v (.sample released) v (.signal t (event, released))
  | signal (t : ThreadId) (closing : Event × IoResult) (sent : IoResult) :
      Turn c v (.signal t closing) v (.count (notified closing sent))
  | registered {d : Standing} (closing : Event × IoResult)
      (hd : v.registry.channel c = some d) (h : d.keys ≠ []) :
      Turn c v (.count closing) v (.tell closing (none, .ok ()))
  | count {d : Standing} (closing : Event × IoResult)
      (hd : v.registry.channel c = some d) (h : d.keys = []) :
      Turn c v (.count closing) v (.kill closing .weigh)
  | kill {v' : Scene} {point point' : KillPoint} (closing : Event × IoResult)
      (h : point.Turn c v v' point') (hbusy : point.isOver = false) :
      Turn c v (.kill closing point) v' (.kill closing point')
  | decided (closing : Event × IoResult) (event : Option Event)
      (released : IoResult) :
      Turn c v (.kill closing (.ended event released)) v (.tell closing (event, released))
  | tellOnly (closing : Event × IoResult) (released : IoResult) :
      Turn c v (.tell closing (none, released)) v (.sweep (firstFailure closing.2 released))
  | tell (closing : Event × IoResult) (event : Event) (released : IoResult) :
      Turn c v (.tell closing (some event, released)) v
        (.tellKill event (firstFailure closing.2 released))
  | tellKill (event : Event) (outcome : IoResult) :
      Turn c v (.tellKill event outcome) v (.sweep outcome)
  | sweep {d : Standing} (outcome : IoResult) (hd : v.registry.channel c = some d) :
      Turn c v (.sweep outcome) v (cancelling outcome d.keys)
  | cancel {v' : Scene} {point point' : CancelPoint} (rest : List KeyId)
      (outcome : IoResult) (h : point.Turn v v' point') (hbusy : point.isOver = false) :
      Turn c v (.cancel point rest outcome) v' (.cancel point' rest outcome)
  | cancelled (rest : List KeyId) (outcome : IoResult) :
      Turn c v (.cancel .ended rest outcome) v (cancelling outcome rest)
  | ended (outcome : IoResult) : Turn c v (.ended outcome) v (.ended outcome)

theorem ClosePoint.turn {p p' : ClosePoint} (h : (p.step c).run st = (.ok p', st')) :
    Turn c st.scene p st'.scene p' := by
  cases p with
  | shut =>
    obtain ⟨l, hl, h⟩ := of_run_listener_bind h
    cases hopen : l.core.isOpen with
    | false =>
      simp only [Core.shut?, hopen] at h
      cases h
      exact .late (scene_channel hl) hopen
    | true =>
      simp only [Core.shut?, hopen, if_true] at h
      cases h
      rw [scene_modifyCore hl { l.core with isOpen := false }
        (f := fun g => { g with isOpen := false }) rfl]
      exact .shut (scene_channel hl) hopen
  | look =>
    obtain ⟨l, hl, h⟩ := of_run_listener_bind h
    split at h
    · next hkilled =>
      cases h
      exact .killed (scene_channel hl) (gate_front hl) hkilled hkilled
    · next hlives =>
      cases h
      exact .look (scene_channel hl) hlives
  | mark =>
    obtain ⟨l, hl, rfl, ⟨hnext, rfl⟩ | ⟨effect, hnext, rfl⟩⟩ := of_run_mark h
    · exact scene_marked hl ▸ .marked (gate_front hl) hnext
    · exact scene_marked hl ▸ .mark (gate_front hl) hnext
  | act effect =>
    obtain ⟨released, network, rfl, rfl⟩ := of_run_act h
    exact .act effect released
  | sample released =>
    obtain ⟨l, hl, h⟩ := of_run_listener_bind h
    have hname := scene_named hl
    split at h
    · next hnobody =>
      cases h
      exact .nobody released rfl hname (gate_front hl) hnobody
    · next t hwaits =>
      cases h
      exact .sample released rfl hname (gate_front hl) hwaits
  | signal t closing =>
    obtain ⟨sent, hsent, rfl⟩ := of_run_map h
    obtain ⟨_, threads, hrun⟩ := run_signalThread t st
    cases hrun.symm.trans hsent
    exact .signal t closing sent
  | count closing =>
    obtain ⟨l, hl, rfl, ⟨hkeys, rfl⟩ | ⟨hkeys, rfl⟩⟩ := of_run_ask h
    · have hlisted : l.core.keys ≠ [] := by simpa [Core.registered] using hkeys
      exact .registered closing (scene_channel hl) hlisted
    · have hnone : l.core.keys = [] := by simpa [Core.registered] using hkeys
      exact .count closing (scene_channel hl) hnone
  | kill closing point =>
    cases point with
    | ended event released =>
      cases h
      exact .decided closing event released
    | _ =>
      obtain ⟨next, hstep, rfl⟩ := of_run_map h
      exact .kill closing (KillPoint.turn hstep) rfl
  | tell closing killing =>
    obtain ⟨_ | event, released⟩ := killing
    · cases h
      show Turn c st.scene _ (st.tell c closing.1).scene _
      rw [scene_tell]
      exact .tellOnly closing released
    · cases h
      show Turn c st.scene _ (st.tell c closing.1).scene _
      rw [scene_tell]
      exact .tell closing event released
  | tellKill event outcome =>
    cases h
    show Turn c st.scene _ (st.tell c event).scene _
    rw [scene_tell]
    exact .tellKill event outcome
  | sweep outcome =>
    obtain ⟨l, hl, h⟩ := of_run_listener_bind h
    cases h
    exact .sweep outcome (scene_channel hl)
  | cancel point rest outcome =>
    cases point with
    | ended =>
      cases h
      exact .cancelled rest outcome
    | _ =>
      obtain ⟨next, hstep, rfl⟩ := of_run_map h
      exact .cancel rest outcome (CancelPoint.turn hstep) rfl
  | ended outcome =>
    cases h
    exact .ended outcome

theorem ClosePoint.cancelling_ne_shut (outcome : IoResult) (ks : List KeyId) :
    cancelling outcome ks ≠ .shut := by
  cases ks <;> simp [cancelling]

theorem ClosePoint.Turn.ne_shut {v v' : Scene} {p p' : ClosePoint} (h : Turn c v p v' p') :
    p' ≠ .shut := by
  cases h with
  | sweep | cancelled => exact cancelling_ne_shut _ _
  | _ => rintro ⟨⟩

/-! ## Registrations -/

/-- What an access of a registration does. -/
inductive RegisterPoint.Turn (c : ListenerId) (s : SelectorId) (v : Scene) :
    RegisterPoint → Scene → RegisterPoint → Prop
  | refused (e : Failure) : Turn c s v .enter v (.ended (.error e))
  | enter {d : Standing} (hd : v.registry.channel c = some d) (hopen : d.isOpen = true) :
      Turn c s v .enter v .find
  | found (k : KeyId) : Turn c s v .find v (.weigh k)
  | missing : Turn c s v .find v .askSelector
  | valid (k : KeyId) : Turn c s v (.weigh k) v (.interest k)
  | invalid (k : KeyId) : Turn c s v (.weigh k) v .askSelector
  | askSelector {x : Roster} (hx : v.registry.selector s = some x) (hopen : x.isOpen = true) :
      Turn c s v .askSelector v .make
  | shut : Turn c s v .askSelector v (.ended (.error .illegalSelector))
  | make {k : KeyId} (hk : v.registry.key k = none) :
      Turn c s v .make (v.putKey k ⟨s, c, true⟩) (.askAgain k)
  | askAgain {x : Roster} (k : KeyId) (hx : v.registry.selector s = some x)
      (hopen : x.isOpen = true) :
      Turn c s v (.askAgain k) v (.adopt k)
  | shutAgain {x : Roster} (k : KeyId) (hx : v.registry.selector s = some x)
      (hclosed : x.isOpen = false) :
      Turn c s v (.askAgain k) v (.ended (.error .illegalSelector))
  | adopt (k : KeyId) : Turn c s v (.adopt k) (v.onSelector s (Roster.adopt k)) (.list k)
  | list (k : KeyId) : Turn c s v (.list k) (v.onChannel c (Standing.addKey k)) (.interest k)
  | interest (k : KeyId) : Turn c s v (.interest k) v (.store k)
  | spent (k : KeyId) (e : Failure) : Turn c s v (.interest k) v (.ended (.error e))
  | store (k : KeyId) : Turn c s v (.store k) v (.hand k)
  | hand (k : KeyId) : Turn c s v (.hand k) v (.ended (.ok k))
  | ended (outcome : Except Failure KeyId) : Turn c s v (.ended outcome) v (.ended outcome)

theorem scene_putEvents (k : KeyId) (mask : Mask) (st : Station) :
    ((putEvents k mask).run st).2.scene = st.scene := by
  have hrest : ((putEvents k mask).run st).2.listeners = st.listeners ∧
      ((putEvents k mask).run st).2.interrupts = st.interrupts := by
    simp only [putEvents, run_bind, run_get]
    split
    · split <;> exact ⟨rfl, rfl⟩
    · exact ⟨rfl, rfl⟩
  have hregistry := (registry_hidesMasks.putEvents k mask).eq st
  simp only [scene, front, hrest, hregistry]

theorem RegisterPoint.turn {ops : Mask} {p p' : RegisterPoint}
    (h : (p.step c s ops).run st = (.ok p', st')) : Turn c s st.scene p st'.scene p' := by
  cases p with
  | enter =>
    obtain ⟨l, hl, h⟩ := of_run_listener_bind h
    split at h
    · next e _ =>
      cases h
      exact .refused e
    · next hadmission =>
      cases h
      have hopen : l.core.isOpen = true := by
        by_contra hclosed
        rw [Core.admission, if_pos (by simpa using hclosed)] at hadmission
        cases hadmission
      exact .enter (scene_channel hl) hopen
  | find =>
    obtain ⟨l, hl⟩ : ∃ l, st.listeners[c]? = some l := by
      cases hl : st.listeners[c]? with
      | none =>
        simp only [step, keyFor, run_bind, run_get, run_listener, hl] at h
        cases h
      | some l => exact ⟨l, rfl⟩
    rw [step, run_bind, run_keyFor hl] at h
    dsimp only at h
    split at h
    · next k _ =>
      cases h
      exact .found k
    · cases h
      exact .missing
  | weigh k =>
    simp only [step, run_bind, run_get] at h
    split at h
    · cases h
      exact .valid k
    · cases h
      exact .invalid k
  | askSelector =>
    obtain ⟨x, hx, h⟩ := of_run_selector_bind h
    split at h
    · next hopen =>
      cases h
      exact .askSelector (scene_selector hx) hopen
    · cases h
      exact .shut
  | make =>
    cases h
    have hscene :
        ({ st with keys := st.keys ++ [{ selector := s, channel := c }] } : Station).scene =
        st.scene.putKey (st.keys.length + 1) ⟨s, c, true⟩ :=
      Scene.ext (registry_append_key rfl rfl rfl rfl) rfl rfl rfl
    rw [hscene]
    exact .make st.registry_key_next
  | askAgain k =>
    obtain ⟨x, hx, h⟩ := of_run_selector_bind h
    split at h
    · next hopen =>
      cases h
      exact .askAgain k (scene_selector hx) hopen
    · next hclosed =>
      cases h
      exact .shutAgain k (scene_selector hx) (Bool.not_eq_true _ ▸ hclosed)
  | adopt k =>
    cases h
    rw [scene_modifySelector st s (g := Roster.adopt k) fun x => by
      simp [Selector.roster, Selector.keys, Selector.alive, Roster.adopt]]
    exact .adopt k
  | list k =>
    cases h
    have hscene := scene_modifyListener_on
      (f := fun l => { l with core := { l.core with keys := l.core.keys ++ [k] } })
      (g := Standing.addKey k) (k := id) (fun _ => rfl) (fun _ => rfl) (fun _ => rfl)
      (fun _ => rfl) st c
    rw [Scene.onGate_id] at hscene
    exact hscene ▸ .list k
  | interest k =>
    simp only [step, run_bind, run_get] at h
    split at h
    · cases h
      exact .spent k _
    · split at h
      · cases h
        exact .spent k _
      · cases h
        exact .interest k
  | store k =>
    cases h
    have hsame := scene_modifyKey st k (f := fun key => { key with interest := ops })
      (g := id) fun _ => rfl
    have hid : st.scene.onKey k id = st.scene :=
      Scene.ext (Registry.onKey_id _ k) rfl rfl rfl
    rw [hsame, hid]
    exact .store k
  | hand k =>
    obtain ⟨u, st₁, hput, h⟩ := of_run_bind h
    have hscene := scene_putEvents k (Readiness.acceptEvents ops) st
    rw [hput] at hscene
    cases h
    rw [hscene]
    exact .hand k
  | ended outcome =>
    cases h
    exact .ended outcome

/-! ## Closes of a selector -/

/-- What an access of a close of a selector does. -/
inductive EmptyPoint.Turn (s : SelectorId) (v : Scene) :
    EmptyPoint → Scene → EmptyPoint → Prop
  | late {x : Roster} (hx : v.registry.selector s = some x) (h : x.isOpen = false) :
      Turn s v .shut v (.ended (.ok ()))
  | shut {x : Roster} (hx : v.registry.selector s = some x) (h : x.isOpen = true) :
      Turn s v .shut (v.onSelector s fun x => { x with isOpen := false }) .drain
  | drain {x : Roster} (hx : v.registry.selector s = some x) :
      Turn s v .drain (v.onSelector s fun x => { x with held := [] }) (.unqueue x.held)
  | unqueue {x : Roster} (ks : List KeyId) (hx : v.registry.selector s = some x) :
      Turn s v (.unqueue ks) (v.onSelector s fun x => { x with queued := [] })
        (.unselect (ks ++ x.queued))
  | unselect (ks : List KeyId) :
      Turn s v (.unselect ks) (v.onSelector s fun x => { x with selected := [] }) (.wake ks)
  | wake (ks : List KeyId) : Turn s v (.wake ks) v (voiding (.ok ()) ks)
  | void {next : EmptyPoint} (k : KeyId) (rest : List KeyId) (outcome : IoResult)
      (hnext : next = voiding outcome rest ∨ ∃ c, next = .leave c k .strike rest outcome) :
      Turn s v (.void k rest outcome) (v.onKey k Tie.void) next
  | leave {v' : Scene} {c : ListenerId} {k : KeyId} {point point' : LeavePoint} (rest : List KeyId)
      (outcome : IoResult) (h : point.Turn c k v v' point')
      (hbusy : point.isOver = false) :
      Turn s v (.leave c k point rest outcome) v' (.leave c k point' rest outcome)
  | left (c : ListenerId) (k : KeyId) (rest : List KeyId) (result outcome : IoResult) :
      Turn s v (.leave c k (.ended result) rest outcome) v
        (voiding (firstFailure outcome result) rest)
  | ended (outcome : IoResult) : Turn s v (.ended outcome) v (.ended outcome)

theorem EmptyPoint.turn {p p' : EmptyPoint} (h : (p.step s).run st = (.ok p', st')) :
    Turn s st.scene p st'.scene p' := by
  cases p with
  | shut =>
    obtain ⟨x, hx, h⟩ := of_run_selector_bind h
    split at h
    · next hopen =>
      cases h
      rw [scene_modifySelector st s (g := fun x => { x with isOpen := false }) fun _ => rfl]
      exact .shut (scene_selector hx) hopen
    · next hclosed =>
      cases h
      exact .late (scene_selector hx) (Bool.not_eq_true _ ▸ hclosed)
  | drain =>
    obtain ⟨x, hx, h⟩ := of_run_selector_bind h
    cases h
    rw [scene_modifySelector st s (g := fun x => { x with held := [] }) fun _ => rfl]
    exact .drain (scene_selector hx)
  | unqueue ks =>
    obtain ⟨x, hx, h⟩ := of_run_selector_bind h
    cases h
    rw [scene_modifySelector st s (g := fun x => { x with queued := [] }) fun _ => rfl]
    exact .unqueue ks (scene_selector hx)
  | unselect ks =>
    cases h
    rw [scene_modifySelector st s (g := fun x => { x with selected := [] }) fun _ => rfl]
    exact .unselect ks
  | wake ks =>
    cases h
    rw [scene_wakeup]
    exact .wake ks
  | void k rest outcome =>
    simp only [step, invalidate, run_bind, run_modify, run_get] at h
    have hvoid := scene_modifyKey st k (f := fun key => { key with valid := false })
      (g := Tie.void) fun _ => rfl
    split at h
    · cases h
      rw [hvoid]
      exact .void k rest outcome (.inl rfl)
    · split at h
      · cases h
        rw [hvoid]
        exact .void k rest outcome (.inr ⟨_, rfl⟩)
      · cases h
        rw [hvoid]
        exact .void k rest outcome (.inl rfl)
  | leave c k point rest outcome =>
    cases point with
    | ended result =>
      cases h
      exact .left c k rest result outcome
    | _ =>
      obtain ⟨next, hstep, rfl⟩ := of_run_map h
      exact .leave rest outcome (LeavePoint.turn hstep) rfl
  | ended outcome =>
    cases h
    exact .ended outcome

/-! ## Moves -/

/-- What an access of a call does. -/
inductive Call.Turn (v : Scene) : Call → Scene → Call → Prop
  | close {c : ListenerId} {v' : Scene} {p p' : ClosePoint} (h : p.Turn c v v' p') :
      Turn v (.close c p) v' (.close c p')
  | deregister {c : ListenerId} {k : KeyId} {v' : Scene} {p p' : LeavePoint}
      (h : p.Turn c k v v' p') :
      Turn v (.deregister c k p) v' (.deregister c k p')
  | register {c : ListenerId} {s : SelectorId} {v' : Scene} {p p' : RegisterPoint} (ops : Mask)
      (h : p.Turn c s v v' p') :
      Turn v (.register c s ops p) v' (.register c s ops p')
  | closeSelector {s : SelectorId} {v' : Scene} {p p' : EmptyPoint} (h : p.Turn s v v' p') :
      Turn v (.closeSelector s p) v' (.closeSelector s p')

theorem Call.turn {a b : Call} (h : a.step.run st = (.ok b, st')) :
    Turn st.scene a st'.scene b := by
  cases a with
  | close c p =>
    obtain ⟨p', hstep, rfl⟩ := of_run_map h
    exact .close (ClosePoint.turn hstep)
  | deregister c k p =>
    obtain ⟨p', hstep, rfl⟩ := of_run_map h
    exact .deregister (LeavePoint.turn hstep)
  | register c s ops p =>
    obtain ⟨p', hstep, rfl⟩ := of_run_map h
    exact .register ops (RegisterPoint.turn hstep)
  | closeSelector s p =>
    obtain ⟨p', hstep, rfl⟩ := of_run_map h
    exact .closeSelector (EmptyPoint.turn hstep)

namespace Interleaving

theorem play_cases (r : Interleaving) (i : Nat) :
    r.play i = r ∨ ∃ a b st', r.calls[i]? = some a ∧ r.blocked a = false ∧
      a.step.run r.station = (.ok b, st') ∧
      r.play i = ⟨st', r.calls.set i b, r.told ++ a.tells.toList⟩ := by
  unfold play
  split
  · exact .inl rfl
  · next a ha =>
    split
    · exact .inl rfl
    · next hfree =>
      split
      · exact .inl rfl
      · next b st' hstep =>
        exact .inr ⟨a, b, st', ha, Bool.not_eq_true _ ▸ hfree, hstep, rfl⟩

end Interleaving
end PolledChannels
