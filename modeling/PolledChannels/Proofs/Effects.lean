import PolledChannels.Proofs.Frames

/-!
# What operations do to the registry

Most of what a station does has nothing to do with registration: calls of the network, uses of
descriptors, events, connections, turns and signals. Such an operation is idle: the registry is the
same before and after it. For each operation that touches registration there is one equation: the
registry that it leaves is a function of the registry that it found. Later modules reason about
these functions and do not open the operations again.
-/

namespace PolledChannels

/-! ## Idle operations -/

namespace Action

variable {α : Type}

/-- The operation leaves the registry as it is. -/
abbrev Idle (a : Action α) : Prop := Frames Station.registry a

end Action

namespace Registry

variable (r : Registry)

theorem onChannel_id (c : ListenerId) : r.onChannel c id = r := by
  refine Registry.ext (funext fun e => ?_) rfl rfl
  by_cases he : e = c <;> simp [onChannel, he]

theorem onSelector_id (s : SelectorId) : r.onSelector s id = r := by
  refine Registry.ext rfl (funext fun e => ?_) rfl
  by_cases he : e = s <;> simp [onSelector, he]

theorem onKey_id (k : KeyId) : r.onKey k id = r := by
  refine Registry.ext rfl rfl (funext fun e => ?_)
  by_cases he : e = k <;> simp [onKey, he]

end Registry

namespace Station

theorem registry_modifyListener_same (st : Station) (c : ListenerId) {f : Listener → Listener}
    (hf : ∀ l, (f l).standing = l.standing) : (st.modifyListener c f).registry = st.registry := by
  rw [registry_modifyListener st c (g := id) hf, Registry.onChannel_id]

theorem registry_modifySelector_same (st : Station) (s : SelectorId) {f : Selector → Selector}
    (hf : ∀ x, (f x).roster = x.roster) : (st.modifySelector s f).registry = st.registry := by
  rw [registry_modifySelector st s (g := id) hf, Registry.onSelector_id]

theorem registry_modifyKey_same (st : Station) (k : KeyId) {f : Key → Key}
    (hf : ∀ key, (f key).tie = key.tie) : (st.modifyKey k f).registry = st.registry := by
  rw [registry_modifyKey st k (g := id) hf, Registry.onKey_id]

end Station

theorem registry_hidesMasks : Action.HidesMasks Station.registry where
  world := fun _ _ => rfl
  signals := fun _ _ => rfl
  listeners := fun st c _ hf => Station.registry_modifyListener_same st c fun l => (hf l).1
  connections := fun _ _ _ _ => rfl
  selectors := fun st s _ hf => Station.registry_modifySelector_same st s hf
  keys := fun st k _ hf => Station.registry_modifyKey_same st k hf

theorem registry_hidesAccepts : Action.HidesAccepts Station.registry where
  toHidesDescriptors := registry_hidesMasks.toHidesDescriptors
  reports _ _ := rfl
  connected _ _ _ := rfl
  standings st c _ hf := st.registry_modifyListener_same c hf
  interrupts _ _ := rfl

/-! ## What is registered -/

open Station Registry Roster Selector Listener

variable {c : ListenerId} {s : SelectorId} {d : Standing} {l : Listener} {st : Station}

namespace Station

variable {st : Station}

theorem registry_channel_none (h : st.listeners[c]? = none) : st.registry.channel c = none := by
  simp [registry, h]

theorem registry_selector_none (h : st.selectors[s]? = none) : st.registry.selector s = none := by
  simp [registry, h]

theorem registry_key_none {k : KeyId} (h : st.key? k = none) : st.registry.key k = none := by
  simp [registry, h]

theorem listener_of_registry (h : st.registry.channel c = some d) :
    ∃ l, st.listeners[c]? = some l ∧ l.standing = d :=
  Option.map_eq_some_iff.mp h

theorem selector_of_registry {x : Roster} (h : st.registry.selector s = some x) :
    ∃ y, st.selectors[s]? = some y ∧ y.roster = x :=
  Option.map_eq_some_iff.mp h

theorem selectorAlive_eq (st : Station) (s : SelectorId) :
    st.selectorAlive s = (st.registry.selector s).any Roster.alive := by
  unfold selectorAlive
  cases h : st.selectors[s]? with
  | none => simp [registry_selector_none h]
  | some x => simp [registry_selector_of h, roster]

theorem listenerAlive_eq (st : Station) (c : ListenerId) :
    st.listenerAlive c = (st.registry.channel c).any Standing.alive := by
  unfold listenerAlive
  cases h : st.listeners[c]? with
  | none => simp [registry_channel_none h]
  | some l => simp [registry_channel_of h, standing]

theorem keyValid_eq (st : Station) (k : KeyId) :
    st.keyValid k = (st.registry.key k).any Tie.valid := by
  unfold keyValid
  cases h : st.key? k with
  | none => simp [registry_key_none h]
  | some key => simp [registry_key_of h, Key.tie]

end Station

namespace Action

variable {α β : Type}

theorem registry_bind_idle (a : Action α) {f : α → Action β} (hf : ∀ v, Idle (f v))
    (st : Station) :
    ((a >>= f).run st).2.registry = (a.run st).2.registry := by
  rw [run_bind]
  rcases a.run st with ⟨_ | v, st'⟩
  · rfl
  · exact (hf v).eq st'

/-! ## Cancelling -/

theorem registry_invalidate (k : KeyId) (st : Station) :
    (st.modifyKey k fun key => { key with valid := false }).registry =
      st.registry.onKey k Tie.void :=
  registry_modifyKey st k fun _ => rfl

theorem run_queueCancelled (s : SelectorId) (k : KeyId) (st : Station)
    (halive : st.selectorAlive s = true) :
    ∃ st', (queueCancelled s k).run st = (.ok (), st') ∧
      st'.registry = st.registry.onSelector s (Roster.enqueue k) := by
  rw [selectorAlive_eq] at halive
  cases hx : st.selectors[s]? with
  | none => simp [registry_selector_none hx] at halive
  | some x =>
    rw [registry_selector_of hx] at halive
    have hroster : x.roster.alive = true := by simpa using halive
    simp only [queueCancelled, run_bind, run_get, hx]
    rw [onSelector_of (registry_selector_of hx)]
    by_cases hk : k ∈ x.keys
    · have hcontains : x.keys.contains k = true := List.contains_iff_mem.mpr hk
      simp only [hcontains, if_true, run_bind, run_modify]
      refine ⟨_, rfl, ((registry_hidesMasks.wakeup s).eq _).trans ?_⟩
      rw [enqueue_of_held hroster hk, registry_modifySelector_of hx]
      rfl
    · have hcontains : ¬ x.keys.contains k = true := mt List.contains_iff_mem.mp hk
      simp only [hcontains]
      refine ⟨st, rfl, ?_⟩
      rw [enqueue_of_not_held hk, putSelector_self (registry_selector_of hx)]

theorem run_cancelKey (k : KeyId) (st : Station) :
    ∃ st', (cancelKey k).run st = (.ok (), st') ∧ st'.registry = st.registry.cancel k := by
  simp only [cancelKey, run_bind, run_get]
  cases hk : st.key? k with
  | none => exact ⟨st, rfl, by simp [cancel, registry_key_none hk]⟩
  | some key =>
    have htie := registry_key_of hk
    by_cases hvalid : key.valid = true
    · have hcancel : st.registry.cancel k =
          (st.registry.onKey k Tie.void).onSelector key.selector (enqueue k) := by
        simp [cancel, htie, Key.tie, hvalid]
      simp only [hvalid, if_true, run_bind, invalidate, run_modify]
      by_cases halive : st.selectorAlive key.selector = true
      · simp only [halive, if_true]
        rw [hcancel, ← registry_invalidate]
        refine run_queueCancelled _ _ _ ?_
        rw [selectorAlive_eq, registry_invalidate]
        rwa [selectorAlive_eq] at halive
      · simp only [halive]
        refine ⟨_, rfl, ?_⟩
        rw [registry_invalidate, hcancel]
        rw [selectorAlive_eq] at halive
        refine (onSelector_enqueue_dead ?_).symm
        simpa [onKey] using halive
    · simp only [hvalid]
      exact ⟨st, rfl, by simp [cancel, htie, Key.tie, hvalid]⟩

theorem registry_cancelKey (k : KeyId) (st : Station) :
    ((cancelKey k).run st).2.registry = st.registry.cancel k := by
  obtain ⟨st', hrun, hregistry⟩ := run_cancelKey k st
  rw [hrun, hregistry]

theorem run_cancelKeys (ks : List KeyId) (st : Station) :
    ∃ st', (forIn ks PUnit.unit fun k _ => do
        cancelKey k
        pure (ForInStep.yield PUnit.unit) : Action PUnit).run st = (.ok PUnit.unit, st') ∧
      st'.registry = ks.foldl Registry.cancel st.registry := by
  induction ks generalizing st with
  | nil => exact ⟨st, rfl, rfl⟩
  | cons k ks ih =>
    obtain ⟨st', hrun, hcancel⟩ := run_cancelKey k st
    obtain ⟨st'', hrun', hrest⟩ := ih st'
    refine ⟨st'', ?_, ?_⟩
    · simp only [List.forIn_cons, run_bind, hrun, run_pure]
      exact hrun'
    · rw [hrest, hcancel, List.foldl_cons]

/-! ## Killing and deregistering -/

theorem registry_promote (c : ListenerId) (st : Station) :
    (st.modifyListener c fun l => { l with lifecycle := .killed }).registry =
      st.registry.onChannel c fun d => { d with lifecycle := .killed } :=
  registry_modifyListener st c fun _ => rfl

theorem run_applyEffect (number : FileNumber) (effect : Option GuardEffect) (st : Station) :
    ∃ released network,
    (applyEffect number effect).run st = (.ok released, { st with network }) := by
  cases effect with
  | none => exact ⟨_, _, rfl⟩
  | some effect =>
    cases effect with
    | release | shutDown => exact ⟨_, _, rfl⟩

theorem run_closeDescriptor (hl : st.listeners[c]? = some l) :
    ∃ v st', (closeDescriptor c).run st = (.ok v, st') ∧ st'.registry = st.registry := by
  simp only [closeDescriptor, run_listener_bind hl, run_bind, run_modify]
  obtain ⟨released, network, hrun⟩ := run_applyEffect l.descriptor.close.1.number
    l.descriptor.close.2
      (st.modifyListener c fun l' => { l' with descriptor := l.descriptor.close.1 })
  exact ⟨released, _, hrun, registry_modifyListener_same st c fun _ => rfl⟩

theorem registry_killLocked (c : ListenerId) (st : Station) :
    ((killLocked c).run st).2.registry = st.registry.onChannel c Standing.kill := by
  cases hl : st.listeners[c]? with
  | none =>
    rw [killLocked, run_listener_bind_none hl]
    exact (onChannel_none (registry_channel_none hl) _).symm
  | some l =>
    have hstanding := registry_channel_of hl
    rw [killLocked, run_listener_bind hl, onChannel_of hstanding]
    have hkept (hkill : l.standing.kill = l.standing) :
        st.registry = st.registry.putChannel c l.standing.kill := by
      rw [hkill, putChannel_self hstanding]
    have hpromoted (hkill : l.standing.kill = { l.standing with lifecycle := .killed }) :
        (st.registry.onChannel c fun d => { d with lifecycle := .killed }) =
          st.registry.putChannel c l.standing.kill := by
      rw [hkill, onChannel_of hstanding]
    cases hlife : l.lifecycle with
    | killed =>
      refine hkept ?_
      simp [Standing.kill, standing, hlife, Lifecycle.killPermitted]
    | uninitialized =>
      refine (registry_promote c st).trans (hpromoted ?_)
      simp [Standing.kill, standing, hlife, Lifecycle.killPermitted]
    | inUse =>
      simp only [Lifecycle.killAction]
      by_cases hpermitted : Lifecycle.inUse.killPermitted l.core.isOpen l.core.registered = true
      · obtain ⟨released, st', hrun, hregistry⟩ := run_closeDescriptor hl
        simp only [hpermitted, if_true, run_bind, hrun]
        refine (registry_promote c st').trans (hregistry ▸ hpromoted ?_)
        unfold Standing.kill
        exact if_pos (by simpa [standing, hlife, Core.registered] using hpermitted)
      · simp only [hpermitted]
        refine hkept ?_
        unfold Standing.kill
        exact if_neg (by simpa [standing, hlife, Core.registered] using hpermitted)

theorem registry_kill (c : ListenerId) (st : Station) :
    ((kill c).run st).2.registry = st.registry.onChannel c Standing.kill := by
  rw [kill, registry_bind_idle, registry_killLocked]
  intro r
  split
  · exact frames_bind (registry_hidesAccepts.emit _ _) fun _ => frames_demand _
  · exact frames_demand _

theorem registry_deregister (hd : st.registry.channel c = some d) (k : KeyId) :
    ((deregister c k).run st).2.registry =
      ((st.registry.onChannel c (Standing.dropKey k)).onKey k Tie.void).onChannel c
        Standing.settle := by
  obtain ⟨l, hl, rfl⟩ := listener_of_registry hd
  have hdrop : (st.modifyListener c fun l' => { l' with core := (l.core.dropKey k).1 }).registry =
      st.registry.onChannel c (Standing.dropKey k) := by
    rw [registry_modifyListener_of hl, onChannel_of hd]
    rfl
  simp only [deregister, removeKey, invalidate, run_bind, run_listener_bind hl,
    run_modify, run_pure]
  have hchannel : ((st.registry.onChannel c (Standing.dropKey k)).onKey k Tie.void).channel c =
      some (l.standing.dropKey k) := by
    simp [onChannel, onKey, hd]
  rw [onChannel_of hchannel]
  by_cases hlast : (l.core.dropKey k).2 = true
  · have hsettle : (l.standing.dropKey k).settle = (l.standing.dropKey k).kill := by
      unfold Standing.settle
      exact if_pos hlast
    simp only [hlast, if_true]
    rw [registry_kill, registry_invalidate, hdrop, onChannel_of hchannel, hsettle]
  · have hsettle : (l.standing.dropKey k).settle = l.standing.dropKey k := by
      unfold Standing.settle
      exact if_neg hlast
    simp only [hlast]
    show (modifyKey _ k _).registry = _
    rw [registry_invalidate, hdrop, hsettle, putChannel_self hchannel]

theorem registry_deregisterKey (k : KeyId) (st : Station) :
    ((deregisterKey k).run st).2.registry = st.registry.strike k := by
  simp only [deregisterKey, run_bind, run_get]
  cases hk : st.key? k with
  | none => simp [strike, registry_key_none hk, run_pure]
  | some key =>
    have htie := registry_key_of hk
    simp only [listenerAlive_eq]
    by_cases halive : (st.registry.channel key.channel).any Standing.alive = true
    · obtain ⟨d, hd⟩ : ∃ d, st.registry.channel key.channel = some d := by
        cases hd : st.registry.channel key.channel with
        | none => simp [hd] at halive
        | some d => exact ⟨d, rfl⟩
      simp only [halive, if_true, strike, htie, Key.tie]
      exact registry_deregister hd k
    · simp only [halive, strike, htie, Key.tie]
      rfl

/-! ## Closing channels -/

theorem run_surrender (hl : st.listeners[c]? = some l) :
    ∃ closing released st', (surrender c).run st = (.ok (closing, released), st') ∧
      closing.kind = .closed ∧ closing.channel = l.id.toUInt64 := by
  obtain ⟨released, st', hclose, -⟩ := run_closeDescriptor hl
  rw [surrender, run_listener_bind hl]
  dsimp only
  split
  · simp only [run_bind, run_pure]
    split
    · exact ⟨_, _, _, rfl, rfl, rfl⟩
    · next t _ =>
      obtain ⟨sent, threads, hrun⟩ := run_signalThread t st
      rw [run_bind, hrun]
      exact ⟨_, _, _, rfl, rfl, rfl⟩
  · simp only [run_bind, hclose]
    split
    · exact ⟨_, _, _, rfl, rfl, rfl⟩
    · next t _ =>
      obtain ⟨sent, threads, hrun⟩ := run_signalThread t st'
      rw [run_bind, hrun]
      exact ⟨_, _, _, rfl, rfl, rfl⟩

theorem registry_finishClose (hd : st.registry.channel c = some d) (hshut : d.isOpen = false) :
    ((finishClose c).run st).2.registry = st.registry.onChannel c Standing.settle := by
  obtain ⟨l, hl, rfl⟩ := listener_of_registry hd
  obtain ⟨closing, released, st', hrun, -⟩ := run_surrender hl
  have hregistry := (registry_hidesMasks.surrender c).of_run hrun
  have hd' : st'.registry.channel c = some l.standing := by rw [hregistry, hd]
  obtain ⟨l', hl', hsame⟩ := listener_of_registry hd'
  have hkeys : l'.core.registered = !l.standing.keys.isEmpty := by rw [← hsame]; rfl
  simp only [finishClose, run_bind, hrun, run_listener, hl', hkeys]
  rw [onChannel_of hd]
  cases hempty : l.standing.keys.isEmpty with
  | false =>
    have hsettle : l.standing.settle = l.standing := by simp [Standing.settle, hempty]
    rw [hsettle, putChannel_self hd, ← hregistry]
    exact registry_bind_idle _
      (fun killing => registry_hidesAccepts.reportClose c (closing, released) killing) st'
  | true =>
    have hsettle : l.standing.settle = l.standing.kill := by simp [Standing.settle, hempty, hshut]
    rw [hsettle, ← onChannel_of hd, ← hregistry, ← registry_killLocked]
    exact registry_bind_idle _
      (fun killing => registry_hidesAccepts.reportClose c (closing, released) killing) st'

theorem registry_closeOnBehalf (c : ListenerId) (target : Option ThreadId) (st : Station) :
    ((closeOnBehalf c target).run st).2.registry = st.registry.closeChannel c := by
  cases hl : st.listeners[c]? with
  | none =>
    rw [closeOnBehalf, run_listener_bind_none hl]
    simp [closeChannel, registry_channel_none hl]
  | some l =>
    have hd := registry_channel_of hl
    rw [closeOnBehalf, run_listener_bind hl]
    by_cases hopen : l.core.isOpen = true
    · obtain ⟨core, hcore, hflip⟩ : ∃ core, l.core.shut? target = some core ∧
          core.isOpen = false ∧ core.blocking = l.core.blocking ∧ core.keys = l.core.keys := by
        simp [Core.shut?, hopen]
      have hopen' : l.standing.isOpen = true := hopen
      simp only [closeChannel, hd, hopen', if_true, hcore, run_bind, run_modify, run_observe]
      -- the channel is flipped, settled and read again
      have hflipped : (st.modifyListener c fun l => { l with core }).registry =
          st.registry.putChannel c { l.standing with isOpen := false } := by
        rw [registry_modifyListener_of hl]
        simp only [standing, hflip.1, hflip.2.1, hflip.2.2]
        rfl
      have hchannel : (st.modifyListener c fun l => { l with core }).registry.channel c =
          some { l.standing with isOpen := false } := by
        simp [hflipped]
      have hfinish := registry_finishClose hchannel rfl
      generalize (finishClose c).run (st.modifyListener c fun l => { l with core }) = finished
        at hfinish
      have hshut : finished.2.registry = st.registry.onChannel c Standing.shut := by
        rw [hfinish, hflipped, onChannel_of hd,
          onChannel_of (d := { l.standing with isOpen := false }) (by simp),
          putChannel_putChannel]
        rfl
      have hd' : finished.2.registry.channel c = some l.standing.shut := by
        simp [hshut, onChannel, hd]
      obtain ⟨l', hl', hsame⟩ := listener_of_registry hd'
      have hkeys : l'.core.keys = l.standing.keys := by
        have := congrArg Standing.keys hsame
        rwa [Standing.shut, Standing.settle_keys] at this
      obtain ⟨st', hrun, hcancel⟩ := run_cancelKeys l.standing.keys finished.2
      simp only [run_listener, hl', hkeys, hrun]
      rw [← hshut, ← hcancel]
      rfl
    · have hrefused : l.core.shut? target = none := by simp [Core.shut?, hopen]
      have hclosed : ¬ l.standing.isOpen = true := hopen
      simp only [hrefused, closeChannel, hd, hclosed]
      rfl

theorem registry_interruptListener (c : ListenerId) (target : ThreadId) (st : Station) :
    ((interruptListener c target).run st).2.registry = st.registry.closeChannel c := by
  cases hl : st.listeners[c]? with
  | none =>
    rw [interruptListener, run_listener_bind_none hl]
    simp [closeChannel, registry_channel_none hl]
  | some l =>
    rw [interruptListener, run_listener_bind hl]
    simp only [run_bind, emit, run_modify, run_observe, run_pure, registry_closeOnBehalf]
    split <;> rfl

/-! ## Selectors -/

theorem registry_forEveryKey {work : KeyId → Action Unit} {g : Registry → KeyId → Registry}
    (hwork : ∀ k st, ((work k).run st).2.registry = g st.registry k) (ks : List KeyId)
    (st : Station) :
    ((forEveryKey work ks).run st).2.registry = ks.foldl g st.registry := by
  induction ks generalizing st with
  | nil => rfl
  | cons k ks ih =>
    simp only [forEveryKey, run_bind, run_observe]
    have houtcomes : ∀ (x y : Except Failure Unit) (st' : Station),
        ((do x; y : Action Unit).run st').2.registry = st'.registry :=
      fun x y st' => (frames_bind (frames_lift x) fun _ => frames_lift y).eq st'
    rw [List.foldl_cons, ← hwork, ← ih]
    simpa only [run_bind] using houtcomes _ _ _

theorem registry_forgetKey (s : SelectorId) (k : KeyId) (st : Station) :
    ((forgetKey s k).run st).2.registry = st.registry.onSelector s (Roster.forget k) := by
  refine Station.registry_modifySelector st s fun x => ?_
  simp [Selector.roster, Selector.keys, Selector.alive, Roster.forget, List.filter_map,
    Function.comp_def]

theorem registry_processCancelled (s : SelectorId) (st : Station) :
    ((processCancelled s).run st).2.registry = st.registry.purge s := by
  cases hx : st.selectors[s]? with
  | none =>
    simp only [processCancelled, takeCancelled, run_bind, run_selector, hx, purge,
      registry_selector_none hx]
  | some x =>
    have hroster := registry_selector_of hx
    simp only [processCancelled, takeCancelled, run_bind, run_selector, hx, run_modify, run_pure]
    rw [registry_forEveryKey (g := fun r k => (r.onSelector s (forget k)).strike k)]
    · rw [registry_modifySelector st s (g := takeQueue) fun _ => rfl]
      simp only [purge, hroster]
      rfl
    · intro k st'
      rw [run_bind, ← registry_forgetKey, ← registry_deregisterKey]
      rfl

theorem registry_closeSelector (s : SelectorId) (st : Station) :
    ((closeSelector s).run st).2.registry = st.registry.closeSelector s := by
  cases hx : st.selectors[s]? with
  | none =>
    rw [closeSelector, run_selector_bind_none hx]
    simp [Registry.closeSelector, Station.registry_selector_none hx]
  | some x =>
    have hroster := Station.registry_selector_of hx
    rw [closeSelector, run_selector_bind hx]
    by_cases hopen : x.isOpen = true
    · have hopen' : x.roster.isOpen = true := hopen
      simp only [hopen, if_true, run_bind, run_modify, wakeup]
      rw [registry_forEveryKey (g := fun r k => (r.onKey k Tie.void).strike k)]
      · rw [Station.registry_modifySelector_same _ s fun _ => ?_,
          Station.registry_modifySelector st s (g := Roster.clear) fun _ => rfl]
        · simp only [Registry.closeSelector, hroster, hopen', if_true]
          rfl
        · rfl
      · intro k st'
        rw [run_bind, ← registry_invalidate, ← registry_deregisterKey]
        rfl
    · have hclosed : ¬ x.roster.isOpen = true := hopen
      simp only [hopen, Registry.closeSelector, hroster, hclosed]
      rfl

/-! ## Opening -/

theorem registry_addListener (number : FileNumber) (address : Option Endpoint) (st : Station) :
    ((addListener number address).run st).2.registry =
        st.registry.putChannel st.listeners.length .fresh ∧
      st.registry.channel st.listeners.length = none := by
  constructor
  · simp only [addListener, takeId, emit, run_bind, run_get, run_set, run_modify, run_pure]
    split <;> exact registry_append_listener rfl rfl rfl rfl
  · exact registry_channel_none (by simp)

theorem registry_openSelector (st : Station) :
    ((openSelector).run st).2.registry = st.registry.putSelector st.selectors.length .fresh ∧
      st.registry.selector st.selectors.length = none := by
  constructor
  · simp only [openSelector, run_bind, run_get, run_set, run_pure]
    exact registry_append_selector rfl rfl rfl rfl
  · exact registry_selector_none (by simp)

/-! ## Blocking mode -/

/-- A change of the blocking mode is refused, needs nothing, fails in the network or is done; a
channel with a valid key does not begin to block. -/
theorem registry_configureBlocking (c : ListenerId) (block : Bool) (st : Station) :
    ((configureBlocking c block).run st).2.registry = st.registry ∨
      ∃ d, st.registry.channel c = some d ∧
        (block = true → ∀ k ∈ d.keys, ∀ t, st.registry.key k = some t →
          t.valid = false) ∧
        ((configureBlocking c block).run st).2.registry =
          st.registry.putChannel c { d with blocking := block } := by
  cases hl : st.listeners[c]? with
  | none =>
    rw [configureBlocking, run_listener_bind_none hl]
    exact .inl rfl
  | some l =>
    rw [configureBlocking, run_listener_bind hl]
    simp only [run_bind, run_get, run_lift]
    cases hmode : l.core.changeMode (l.core.keys.any st.keyValid) block with
    | error e => exact .inl rfl
    | ok change =>
      cases change with
      | false => exact .inl rfl
      | true =>
        have hkeyless : block = true → ∀ k ∈ l.standing.keys, ∀ t,
            st.registry.key k = some t → t.valid = false := by
          rintro rfl k hk t ht
          have hnone : l.core.keys.any st.keyValid = false := by
            cases hany : l.core.keys.any st.keyValid with
            | false => rfl
            | true =>
              rw [Core.changeMode, hany] at hmode
              split at hmode
              · simp at hmode
              · split at hmode <;> simp at hmode
          have hinvalid := List.any_eq_false.mp hnone k hk
          simpa [keyValid_eq, ht] using hinvalid
        simp only [if_true, run_bind]
        have hcalling :=
          (registry_hidesMasks.calling c fun number => Net.setBlocking number block).eq st
        generalize (calling c fun number => Net.setBlocking number block).run st = called
          at hcalling
        obtain ⟨_ | v, st'⟩ := called
        · exact .inl hcalling
        · cases v with
          | error e => exact .inl hcalling
          | ok v =>
            refine .inr ⟨l.standing, registry_channel_of hl, hkeyless, ?_⟩
            simp only [demand, run_pure, run_modify]
            rw [registry_modifyListener st' c
              (g := fun d => { d with blocking := block }) fun _ => rfl, hcalling,
              onChannel_of (registry_channel_of hl)]

end Action

/-! ## Registering -/

section Admission

variable {core : Core} {supported ops : Mask} {current : Option KeyId} {selectorOpen : Bool}

theorem Core.admission_of (hopen : core.isOpen = true) (hops : ops.within supported = true)
    (hblock : core.blocking = false) :
    core.admission supported ops current selectorOpen =
      match current with
      | some k => .ok (.renew k)
      | none => if selectorOpen then .ok .create else .error .illegalSelector := by
  simp only [admission, hopen, hops, hblock]
  rfl

/-- A new key is made only between an open channel that does not block and an open selector, and
only if no current key was found. -/
theorem Core.admission_create
    (h : core.admission supported ops current selectorOpen = .ok .create) :
    core.isOpen = true ∧ core.blocking = false ∧ selectorOpen = true ∧
      ops.within supported = true ∧ current = none := by
  unfold admission at h
  split at h
  · cases h
  split at h
  · cases h
  split at h
  · cases h
  split at h
  · cases h
  split at h
  · simp_all
  · cases h

end Admission

/-- The station with a new key between a channel and a selector. -/
def Station.enrolled (st : Station) (c : ListenerId) (s : SelectorId) : Station :=
  let k := st.keys.length + 1
  let issued : Station := { st with keys := st.keys ++ [{ selector := s, channel := c }] }
  (issued.modifySelector s fun x =>
    { x with registered := x.registered ++ [(k, (0 : Mask))] }).modifyListener c
    fun l => { l with core := { l.core with keys := l.core.keys ++ [k] } }

theorem Station.registry_enrolled (st : Station) (c : ListenerId) (s : SelectorId) :
    (st.enrolled c s).registry = st.registry.enrol c s (st.keys.length + 1) := by
  have hissued :
      ({ st with keys := st.keys ++ [{ selector := s, channel := c }] } : Station).registry =
      st.registry.putKey (st.keys.length + 1) ⟨s, c, true⟩ :=
    registry_append_key rfl rfl rfl rfl
  unfold enrolled Registry.enrol
  rw [registry_modifyListener _ c (g := Standing.addKey (st.keys.length + 1)) fun _ => rfl,
    registry_modifySelector _ s (g := Roster.adopt (st.keys.length + 1)) fun x => by
      simp [Selector.roster, Selector.keys, Selector.alive, Roster.adopt],
    hissued]

namespace Action

theorem run_keyFor (hl : st.listeners[c]? = some l) (s : SelectorId) :
    (keyFor c s).run st = (.ok (st.registry.firstKey c s), st) := by
  simp only [keyFor, run_bind, run_get, run_listener, hl, run_pure, firstKey,
    registry_channel_of hl, Option.bind_some]
  refine congrArg (fun p => (Except.ok (l.core.keys.find? p), st)) (funext fun k => ?_)
  cases hk : st.key? k with
  | none => simp [registry_key_none hk]
  | some key => simp [registry_key_of hk, Key.tie]

theorem run_register {x : Selector} (hl : st.listeners[c]? = some l)
    (hx : st.selectors[s]? = some x) (ops : Mask) :
    (register c s ops).run st =
      match l.core.admission Operation.ofListener ops
        ((st.registry.firstKey c s).filter st.keyValid)
        x.isOpen with
      | .error e => (.error e, st)
      | .ok (.renew k) => (do setInterest k ops; return k : Action KeyId).run st
      | .ok .create =>
        (do setInterest (st.keys.length + 1) ops; return st.keys.length + 1 : Action KeyId).run
          (st.enrolled c s) := by
  rw [register, run_listener_bind hl]
  simp only [run_bind, run_get, run_keyFor hl, run_selector, hx, run_lift]
  cases hadmission : l.core.admission Operation.ofListener ops
      ((st.registry.firstKey c s).filter st.keyValid) x.isOpen with
  | error e => rfl
  | ok admission =>
    cases admission with
    | renew k => simp only [run_bind]
    | create =>
      have hopen : x.isOpen = true := (Core.admission_create hadmission).2.2.1
      simp only [newKey, adoptKey, run_bind, run_get, run_set, run_selector, hx, hopen, if_true,
        run_modify, run_pure]
      rfl

/-- A registration that makes no key leaves the registry alone; one that makes a key enrols it
between an open channel that does not block and an open selector, and has found no valid key. -/
theorem registry_register (c : ListenerId) (s : SelectorId) (ops : Mask) (st : Station) :
    ((register c s ops).run st).2.registry = st.registry ∨
      ∃ d x, st.registry.channel c = some d ∧ st.registry.selector s = some x ∧
        d.isOpen = true ∧ d.blocking = false ∧ x.isOpen = true ∧
        ops.within Operation.ofListener = true ∧
        (st.registry.firstKey c s).filter st.keyValid = none ∧
        ((register c s ops).run st).2.registry = st.registry.enrol c s (st.keys.length + 1) := by
  cases hl : st.listeners[c]? with
  | none =>
    rw [register, run_listener_bind_none hl]
    exact .inl rfl
  | some l =>
    cases hx : st.selectors[s]? with
    | none =>
      refine .inl ?_
      rw [register, run_listener_bind hl]
      simp only [run_bind, run_get, run_keyFor hl, run_selector, hx]
    | some x =>
      rw [run_register hl hx]
      have hidle (k : KeyId) : Idle (do setInterest k ops; return k : Action KeyId) :=
        frames_bind (registry_hidesMasks.setInterest k ops) fun _ => frames_pure k
      split
      case h_1 => exact .inl rfl
      case h_2 k _ => exact .inl ((hidle k).eq st)
      case h_3 hadmission =>
        obtain ⟨hopen, hblock, hselector, hops, hfound⟩ := Core.admission_create hadmission
        refine .inr ⟨_, _, registry_channel_of hl, registry_selector_of hx, hopen,
          hblock, hselector, hops, hfound, ?_⟩
        rw [(hidle _).eq, registry_enrolled]

end Action
end PolledChannels
