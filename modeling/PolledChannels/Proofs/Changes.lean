import Mathlib.Logic.Relation
import PolledChannels.Proofs.Effects
import PolledChannels.Proofs.Soundness
import PolledChannels.Proofs.ThreadSteps

/-!
# How registration changes

What happens to a registry, apart from a new key, is one of ten changes. Every change keeps a
sound registry sound, and every operation other than a registration is a chain of changes: an
accept by closing the channel of an interrupted thread, a selection by deregistering,
cancelling and selecting keys.
-/

namespace PolledChannels

namespace Registry

/-- One change of a registry that makes no key. -/
inductive Change : Registry → Registry → Prop where
  | openChannel {r : Registry} {c : ListenerId} (hnew : r.channel c = none) :
      Change r (r.putChannel c .fresh)
  | openSelector {r : Registry} {s : SelectorId} (hnew : r.selector s = none) :
      Change r (r.putSelector s .fresh)
  | mode {r : Registry} {c : ListenerId} {d : Standing} {block : Bool} (hd : r.channel c = some d)
      (hblock : block = true → ∀ k ∈ d.keys, ∀ t, r.key k = some t → t.valid = false) :
      Change r (r.putChannel c { d with blocking := block })
  | cancel {r : Registry} (k : KeyId) : Change r (r.cancel k)
  | kill {r : Registry} (c : ListenerId) : Change r (r.onChannel c Standing.kill)
  | closeChannel {r : Registry} (c : ListenerId) : Change r (r.closeChannel c)
  | purge {r : Registry} (s : SelectorId) : Change r (r.purge s)
  | closeSelector {r : Registry} (s : SelectorId) : Change r (r.closeSelector s)
  | select {r : Registry} {s : SelectorId} {x : Roster} {chosen : List KeyId}
      (hx : r.selector s = some x) (honce : chosen.Nodup) (hheld : ∀ k ∈ chosen, k ∈ x.held) :
      Change r (r.putSelector s { x with selected := chosen })
  | unselect {r : Registry} (s : SelectorId) (p : KeyId → Bool) :
      Change r (r.onSelector s (Roster.unselect p))

/-- A chain of changes. -/
abbrev Changes := Relation.ReflTransGen Change

variable {r r' : Registry}

theorem Change.sound (h : Change r r') (hr : r.Sound {}) : r'.Sound {} := by
  cases h with
  | openChannel hnew => exact hr.addChannel hnew
  | openSelector hnew => exact hr.addSelector hnew
  | mode hd hblock => exact hr.changeMode hd hblock
  | cancel k => exact hr.cancel_open k
  | kill c =>
    cases hd : r.channel c with
    | none => rwa [onChannel_none hd]
    | some d => rwa [onChannel_of hd, hr.kill_eq hd, putChannel_self hd]
  | closeChannel c => exact hr.closeChannel c
  | purge s => exact hr.purge s
  | closeSelector s => exact hr.closeSelector s
  | select hx honce hheld => exact hr.select hx honce hheld
  | unselect s p =>
    cases hx : r.selector s with
    | none => rwa [onSelector_none hx]
    | some x =>
      have hs := hr.selector s x hx
      rw [onSelector_of hx]
      exact hr.select hx (hs.selectedOnce.filter p)
        fun k hk => hs.selected k (List.mem_of_mem_filter hk)

theorem Changes.sound (h : Changes r r') (hr : r.Sound {}) : r'.Sound {} := by
  induction h with
  | refl => exact hr
  | tail _ hchange ih => exact hchange.sound ih

end Registry

/-! ## Operations that are chains of changes -/

/-- The computation changes the registry in a chain of changes. -/
def Orderly {α : Type} (m : StateM Station α) : Prop :=
  ∀ r : Registry, Keeps (fun st => r.Changes st.registry) m

namespace Orderly

variable {α β : Type} {f : Station → Station} {m : StateM Station α} {a : Action α}

theorem changes (h : Orderly m) (st : Station) :
    st.registry.Changes (m st).2.registry :=
  h _ st .refl

theorem of_effect {g : Registry → Registry}
    (heffect : ∀ st : Station, (a.run st).2.registry = g st.registry)
    (hg : ∀ r, Registry.Change r (g r)) :
    Orderly a.run := by
  intro r st hst
  show r.Changes (a.run st).2.registry
  rw [heffect]
  exact hst.tail (hg _)

theorem of_idle (h : Action.Idle a) : Orderly a.run :=
  fun r => h.holds r.Changes

theorem pure (v : α) : Orderly (Pure.pure v : StateM Station α) :=
  fun _ => .pure v

theorem bind {f : α → StateM Station β} (hm : Orderly m)
    (hf : ∀ v, Orderly (f v)) : Orderly (m >>= f) :=
  fun r => (hm r).bind fun v => hf v r

theorem bindAction {f : α → Action β} (ha : Orderly a.run)
    (hf : ∀ v, Orderly (f v).run) : Orderly (a >>= f).run :=
  fun r => Action.keeps_bind (ha r) fun v => hf v r

theorem getSet {next : Station → StateM Station α}
    (hf : ∀ st, (f st).registry = st.registry) (hnext : ∀ st, Orderly (next st)) :
    Orderly (do
      let st ← MonadState.get
      set (f st)
      next st : StateM Station α) := by
  intro r st hst
  refine hnext st r (f st) ?_
  show r.Changes (f st).registry
  rwa [hf]

theorem getSetAction {next : Station → Action α}
    (hf : ∀ st, (f st).registry = st.registry) (hnext : ∀ st, Orderly (next st).run) :
    Orderly (do
      let st ← MonadState.get
      set (f st)
      next st : Action α).run := by
  intro r st hst
  refine hnext st r (f st) ?_
  show r.Changes (f st).registry
  rwa [hf]

end Orderly

namespace Action

open Registry

theorem orderly_cancelKey (k : KeyId) : Orderly (cancelKey k).run :=
  .of_effect (registry_cancelKey k) fun _ => .cancel k

theorem orderly_kill (c : ListenerId) : Orderly (kill c).run :=
  .of_effect (registry_kill c) fun _ => .kill c

theorem orderly_closeOnBehalf (c : ListenerId) (target : Option ThreadId) :
    Orderly (closeOnBehalf c target).run :=
  .of_effect (registry_closeOnBehalf c target) fun _ => .closeChannel c

theorem orderly_interruptListener (c : ListenerId) (target : ThreadId) :
    Orderly (interruptListener c target).run :=
  .of_effect (registry_interruptListener c target) fun _ => .closeChannel c

theorem orderly_processCancelled (s : SelectorId) : Orderly (processCancelled s).run :=
  .of_effect (registry_processCancelled s) fun _ => .purge s

theorem orderly_closeSelector (s : SelectorId) : Orderly (closeSelector s).run :=
  .of_effect (registry_closeSelector s) fun _ => .closeSelector s

theorem orderly_configureBlocking (c : ListenerId) (block : Bool) :
    Orderly (configureBlocking c block).run := by
  intro r st hst
  show r.Changes ((configureBlocking c block).run st).2.registry
  rcases registry_configureBlocking c block st with hsame | ⟨d, hd, hkeyless, hmode⟩
  · rwa [hsame]
  · rw [hmode]
    exact hst.tail (.mode hd hkeyless)

theorem orderly_addListener (number : FileNumber) (address : Option Endpoint) :
    Orderly (addListener number address).run := by
  intro r st hst
  show r.Changes ((addListener number address).run st).2.registry
  obtain ⟨hadd, hnew⟩ := registry_addListener number address st
  rw [hadd]
  exact hst.tail (.openChannel hnew)

theorem orderly_openListener : Orderly (openListener).run :=
  .bindAction (.of_idle (registry_hidesAccepts.network _)) fun _ =>
    .bindAction (.of_idle (frames_demand _)) fun _ =>
    orderly_addListener _ _

theorem orderly_adoptSocket (number : FileNumber) : Orderly (adoptSocket number).run := by
  refine .bindAction (.of_idle (registry_hidesAccepts.network _)) fun r => ?_
  split
  · exact .of_idle (frames_bind (registry_hidesAccepts.network _) fun _ => frames_throw _)
  · exact orderly_addListener _ _

theorem orderly_openSelector : Orderly (openSelector).run := by
  intro r st hst
  show r.Changes ((openSelector).run st).2.registry
  obtain ⟨hadd, hnew⟩ := registry_openSelector st
  rw [hadd]
  exact hst.tail (.openSelector hnew)

theorem orderly_clearSelected (s : SelectorId) : Orderly (clearSelected s).run :=
  .of_effect (g := fun r => r.onSelector s (Roster.unselect fun _ => false))
    (fun st => Station.registry_modifySelector st s fun x => by
      simp [Roster.unselect, Selector.roster, Selector.keys, Selector.alive])
    fun _ => .unselect s _

theorem orderly_removeSelected (s : SelectorId) (k : KeyId) : Orderly (removeSelected s k).run :=
  .bindAction (.of_idle (frames_selector s)) fun _ =>
    .bindAction (.of_effect (g := fun r => r.onSelector s (Roster.unselect fun y => y != k))
      (fun st => Station.registry_modifySelector st s fun _ => rfl) fun _ => .unselect s _) fun _ =>
      .of_idle (frames_pure _)

theorem orderly_enterAccept (me : ThreadId) (c : ListenerId) : Orderly (enterAccept me c).run := by
  have hrest : Orderly (storeAcceptor me c).run := by
    refine .bindAction (.of_idle (frames_listener c)) fun l => ?_
    split
    · exact .of_idle (frames_bind (registry_hidesAccepts.modifyListener c fun _ => rfl) fun _ =>
        frames_pure _)
    · exact .of_idle (frames_pure _)
  refine .bindAction (.of_idle (frames_listener c)) fun l => ?_
  split
  · exact .of_idle (frames_throw _)
  split
  · exact .of_idle (frames_throw _)
  · refine .getSetAction (f := fun st => { st with interrupts := (st.interrupts.enter me c).1 })
      (fun _ => rfl) fun st => ?_
    split
    · exact .bindAction (orderly_interruptListener c me) fun _ => hrest
    · exact hrest

end Action

/-! ## Steps of threads -/

/-- A step of a thread that binds or accepts is a chain of changes. -/
theorem Point.orderly_advance (me : ThreadId) (signalled : Bool) {p : Point}
    (hp : p.selector? = none) : Orderly (p.advance me signalled) :=
  fun r =>
    (registry_hidesAccepts.attends (P := r.Changes) (fun c => Action.orderly_enterAccept me c r)
    fun c block => Action.orderly_configureBlocking c block r).keeps_advance signalled hp

end PolledChannels
