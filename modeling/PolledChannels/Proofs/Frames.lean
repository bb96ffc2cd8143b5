import PolledChannels.Channels.Streams
import PolledChannels.Proofs.Actions
import PolledChannels.Proofs.Registry

/-!
# Views that an operation leaves alone

A view shows something of a station: its registry, its events, the life of its channels. Much of
what a station does is hidden from all of these: calls of the network, uses of descriptors, masks,
turns and signals. This module says so once, for every view that hides such things.
-/

namespace PolledChannels.Action

variable {α β σ : Type} {view : Station → σ} {a : Action α}

/-- The operation leaves what a view shows of the station as it is. -/
def Frames (view : Station → σ) (a : Action α) : Prop :=
  ∀ x, Keeps (fun st => view st = x) a.run

theorem Frames.eq (h : Frames view a) (st : Station) :
    view (a.run st).2 = view st :=
  h _ st rfl

theorem Frames.of_run (h : Frames view a) {st st' : Station} {r : Except Failure α}
    (hrun : a.run st = (r, st')) : view st' = view st := by
  have hview := h.eq st
  rwa [hrun] at hview

theorem Frames.holds (h : Frames view a) (P : σ → Prop) :
    Keeps (fun st => P (view st)) a.run := by
  intro st hst
  show P (view (a.run st).2)
  rwa [h.eq st]

theorem frames_pure (v : α) : Frames view (pure v : Action α) :=
  fun _ => keeps_pure v

theorem frames_throw (e : Failure) : Frames view (throw e : Action α) :=
  fun _ => keeps_throw e

theorem frames_get : Frames view (get : Action Station) :=
  fun _ => keeps_get

theorem frames_lift (x : Except Failure α) : Frames view (liftM x : Action α) :=
  fun _ => keeps_lift x

theorem frames_modify {f : Station → Station} (hf : ∀ st, view (f st) = view st) :
    Frames view (modify f : Action Unit) :=
  fun _ => keeps_modify fun st h => (hf st).trans h

theorem frames_bind {f : α → Action β} (ha : Frames view a)
    (hf : ∀ v, Frames view (f v)) : Frames view (a >>= f) :=
  fun x => keeps_bind (ha x) fun v => hf v x

theorem frames_observe (ha : Frames view a) : Frames view (observe a) :=
  fun x => keeps_observe (ha x)

theorem frames_listener (c : ListenerId) : Frames view (listener c) :=
  fun _ => keeps_listener c

theorem frames_selector (s : SelectorId) : Frames view (selector s) :=
  fun _ => keeps_selector s

theorem frames_get_bind {f : Station → Action α}
    (hf : ∀ st, view ((f st).run st).2 = view st) :
    Frames view (get >>= f) :=
  fun _ st h => (hf st).trans h

theorem frames_listener_bind {c : ListenerId} {f : Listener → Action α}
    (hf : ∀ st l, st.listeners[c]? = some l → view ((f l).run st).2 = view st) :
    Frames view (listener c >>= f) :=
  fun _ => keeps_listener_bind fun l st hl h => (hf st l hl).trans h

theorem frames_forIn {γ : Type} {f : γ → β → Action (ForInStep β)}
    (hf : ∀ x b, Frames view (f x b)) (xs : List γ) (b : β) : Frames view (forIn xs b f) := by
  induction xs generalizing b with
  | nil => exact frames_pure b
  | cons x xs ih =>
    rw [List.forIn_cons]
    refine frames_bind (hf x b) fun step => ?_
    cases step with
    | done b => exact frames_pure b
    | yield b => exact ih b

theorem frames_demand (x : Except IoError α) : Frames view (demand x) := by
  cases x with
  | ok a => exact frames_pure a
  | error e => exact frames_throw (.io e)

theorem frames_turnTaken (me : ThreadId) (c : ListenerId) : Frames view (turnTaken me c) := by
  refine frames_bind frames_get fun st => ?_
  split <;> exact frames_pure _

theorem frames_viewed (c : ListenerId) : Frames view (viewed c) := by
  refine frames_bind (frames_listener c) fun l => ?_
  split
  · exact frames_pure _
  · exact frames_throw _

theorem frames_enterView (c : ListenerId) : Frames view (enterView c) := by
  refine frames_bind (frames_viewed c) fun l => ?_
  split
  · exact frames_throw _
  split
  · exact frames_throw _
  · exact frames_pure _

theorem frames_isReady (k : KeyId) : Frames view (isReady k) := by
  refine frames_bind frames_get fun st => ?_
  split <;> exact frames_pure _

/-- The view shows nothing of the network and of the descriptors of connections. -/
structure HidesNetwork (view : Station → σ) : Prop where
  world : ∀ (st : Station) (network : Network), view { st with network } = view st
  connections : ∀ (st : Station) (i : ConnectionId) (f : Connection → Connection),
    (∀ x, (f x).id = x.id) → view (st.modifyConnection i f) = view st

/-- The view shows nothing of threads and of the descriptors of channels either. -/
structure HidesDescriptors (view : Station → σ) : Prop extends HidesNetwork view where
  signals : ∀ (st : Station) (threads : List Thread), view { st with threads } = view st
  listeners : ∀ (st : Station) (c : ListenerId) (f : Listener → Listener),
    (∀ l, (f l).standing = l.standing ∧ (f l).id = l.id ∧
      (f l).localAddress = l.localAddress) →
    view (st.modifyListener c f) = view st

/-- The view shows nothing of masks and ready sets either. -/
structure HidesMasks (view : Station → σ) : Prop extends HidesDescriptors view where
  selectors : ∀ (st : Station) (s : SelectorId) (f : Selector → Selector),
    (∀ x, (f x).roster = x.roster) → view (st.modifySelector s f) = view st
  keys : ∀ (st : Station) (k : KeyId) (f : Key → Key),
    (∀ key, (f key).tie = key.tie) → view (st.modifyKey k f) = view st

/-- The view shows nothing of events, nor which connections there are. -/
structure HidesEvents (view : Station → σ) : Prop extends HidesNetwork view where
  reports : ∀ (st : Station) (reports : List Report), view { st with reports } = view st
  connected : ∀ (st : Station) (nextId : Nat) (connections : List Connection),
    view { st with nextId, connections } = view st

/-- The view shows nothing of binding and accepting. -/
structure HidesAccepts (view : Station → σ) :
    Prop extends HidesDescriptors view, HidesEvents view where
  standings : ∀ (st : Station) (c : ListenerId) (f : Listener → Listener),
    (∀ l, (f l).standing = l.standing) → view (st.modifyListener c f) = view st
  interrupts : ∀ (st : Station) (interrupts : Interrupts ListenerId),
    view { st with interrupts } = view st

/-! ## Calls of the network and descriptors -/

namespace HidesNetwork

variable (hv : HidesNetwork view)
include hv

theorem network (a : Net α) : Frames view (Action.network a) :=
  fun _ st h => (hv.world st _).trans h

theorem applyEffect (number : FileNumber) (effect : Option GuardEffect) :
    Frames view (Action.applyEffect number effect) := by
  cases effect with
  | none => exact frames_pure _
  | some effect =>
    cases effect with
    | release => exact hv.network _
    | shutDown => exact frames_bind (hv.network _) fun _ => frames_pure _

theorem acquireConnection (i : ConnectionId) : Frames view (Action.acquireConnection i) := by
  refine frames_bind frames_get fun st => ?_
  split
  · exact frames_throw _
  · split
    · exact frames_throw _
    · exact frames_bind (frames_modify fun st => hv.connections st i _ fun _ => rfl) fun _ =>
        frames_pure _

theorem releaseConnection (i : ConnectionId) : Frames view (Action.releaseConnection i) := by
  refine frames_bind frames_get fun st => ?_
  split
  · exact frames_pure _
  · exact frames_bind (frames_modify fun st => hv.connections st i _ fun _ => rfl) fun _ =>
      frames_bind (hv.applyEffect _ _) fun _ => frames_pure _

theorem callingConnection (i : ConnectionId) (call : FileNumber → Net α) :
    Frames view (Action.callingConnection i call) :=
  frames_bind (hv.acquireConnection i) fun _ => frames_bind (hv.network _) fun _ =>
    frames_bind (hv.releaseConnection i) fun _ => frames_pure _

theorem callingOpen (i : ConnectionId) (call : FileNumber → Net α) :
    Frames view (Action.callingOpen i call) := by
  refine frames_bind frames_get fun st => ?_
  split
  · exact frames_throw _
  · split
    · exact frames_throw _
    · exact frames_bind (hv.callingConnection i call) fun _ => frames_demand _

theorem configureConnection (i : ConnectionId) (block : Bool) :
    Frames view (Action.configureConnection i block) :=
  frames_bind (hv.callingOpen i _) fun _ =>
    frames_modify fun st => hv.connections st i _ fun _ => rfl

theorem closeConnectionDescriptor (i : ConnectionId) :
    Frames view (Action.closeConnectionDescriptor i) := by
  refine frames_bind frames_get fun st => ?_
  split
  · exact frames_pure _
  · exact frames_bind (frames_modify fun st => hv.connections st i _ fun _ => rfl) fun _ =>
      hv.applyEffect _ _

theorem dropConnection (i : ConnectionId) : Frames view (Action.dropConnection i) :=
  frames_bind (hv.closeConnectionDescriptor i) fun _ => frames_pure _

end HidesNetwork

namespace HidesDescriptors

variable (hv : HidesDescriptors view)
include hv

theorem acquire (c : ListenerId) : Frames view (Action.acquire c) := by
  refine frames_bind (frames_listener c) fun l => ?_
  split
  · exact frames_throw _
  · exact frames_bind (frames_modify fun st => hv.listeners st c _ fun _ => ⟨rfl, rfl, rfl⟩)
      fun _ => frames_pure _

theorem release (c : ListenerId) : Frames view (Action.release c) :=
  frames_bind (frames_listener c) fun _ =>
    frames_bind (frames_modify fun st => hv.listeners st c _ fun _ => ⟨rfl, rfl, rfl⟩) fun _ =>
      frames_bind (hv.applyEffect _ _) fun _ => frames_pure _

theorem closeDescriptor (c : ListenerId) : Frames view (Action.closeDescriptor c) :=
  frames_bind (frames_listener c) fun _ =>
    frames_bind (frames_modify fun st => hv.listeners st c _ fun _ => ⟨rfl, rfl, rfl⟩) fun _ =>
      hv.applyEffect _ _

theorem calling (c : ListenerId) (call : FileNumber → Net α) :
    Frames view (Action.calling c call) :=
  frames_bind (hv.acquire c) fun _ => frames_bind (hv.network _) fun _ =>
    frames_bind (hv.release c) fun _ => frames_pure _

/-! ## Signals -/

theorem signalThread (t : ThreadId) : Frames view (Action.signalThread t) := by
  refine frames_get_bind fun st => ?_
  split
  · rfl
  · exact hv.signals st _

theorem surrender (c : ListenerId) : Frames view (Action.surrender c) := by
  refine frames_bind (frames_listener c) fun l => ?_
  dsimp only
  cases l.acceptor with
  | none =>
    split
    · exact frames_bind (frames_pure _) fun _ => frames_pure _
    · exact frames_bind (hv.closeDescriptor c) fun _ => frames_pure _
  | some t =>
    split
    · exact frames_bind (frames_pure _) fun _ =>
        frames_bind (hv.signalThread t) fun _ => frames_pure _
    · exact frames_bind (hv.closeDescriptor c) fun _ =>
        frames_bind (hv.signalThread t) fun _ => frames_pure _

section Kills

variable {c : ListenerId} (hkilled : Frames view
  (modify fun st => st.modifyListener c fun l => { l with lifecycle := .killed } : Action Unit))
include hkilled

theorem killLocked : Frames view (Action.killLocked c) := by
  refine frames_bind (frames_listener c) fun l => ?_
  split
  · exact frames_pure _
  · exact frames_bind hkilled fun _ => frames_pure _
  · split
    · exact frames_bind (hv.closeDescriptor c) fun _ => frames_bind hkilled fun _ => frames_pure _
    · exact frames_pure _

theorem kill (hemit : ∀ event, Frames view (emit (some c) event)) :
    Frames view (Action.kill c) := by
  refine frames_bind (hv.killLocked hkilled) fun r => ?_
  split
  · exact frames_bind (hemit _) fun _ => frames_demand _
  · exact frames_demand _

end Kills

/-! ## Accepting -/

theorem endAttempt (c : ListenerId) (a : Attempt) : Frames view (Action.endAttempt c a) :=
  frames_bind (hv.release c) fun _ => frames_pure _

theorem callAccept (c : ListenerId) (number : FileNumber) :
    Frames view (Action.callAccept c number) := by
  refine frames_bind (hv.network _) fun r => ?_
  split
  · exact frames_pure _
  · exact hv.endAttempt _ _
  · exact frames_bind (frames_listener c) fun _ => hv.endAttempt _ _

theorem attemptAccept (c : ListenerId) : Frames view (Action.attemptAccept c) := by
  refine frames_bind (frames_observe (hv.acquire c)) fun r => ?_
  split
  · exact frames_pure _
  · refine frames_bind (hv.network _) fun r => ?_
    split
    · exact hv.endAttempt _ _
    · exact hv.callAccept _ _
    · refine frames_bind (hv.network _) fun r => ?_
      split
      · exact hv.endAttempt _ _
      · split
        · exact hv.endAttempt _ _
        · exact hv.callAccept _ _

theorem resumeAccept (c : ListenerId) (signalled : Bool) :
    Frames view (Action.resumeAccept c signalled) := by
  unfold Action.resumeAccept
  split
  · exact hv.endAttempt _ _
  · refine frames_bind (frames_listener c) fun l => frames_bind frames_get fun st => ?_
    split
    · exact frames_pure _
    · exact hv.callAccept _ _

theorem takeTurn (me : ThreadId) (c : ListenerId) : Frames view (Action.takeTurn me c) :=
  frames_modify fun st => hv.listeners st c _ fun _ => ⟨rfl, rfl, rfl⟩

theorem giveTurn (c : ListenerId) : Frames view (Action.giveTurn c) :=
  frames_modify fun st => hv.listeners st c _ fun _ => ⟨rfl, rfl, rfl⟩

end HidesDescriptors

/-! ## Masks and ready sets -/

namespace HidesMasks

variable (hv : HidesMasks view)
include hv

theorem wakeup (s : SelectorId) : Frames view (Action.wakeup s) :=
  frames_modify fun st => hv.selectors st s _ fun _ => rfl

theorem drainWake (s : SelectorId) : Frames view (Action.drainWake s) :=
  frames_modify fun st => hv.selectors st s _ fun _ => rfl

theorem recordMask (s : SelectorId) (k : KeyId) (mask : Mask) :
    Frames view (Action.recordMask s k mask) := by
  refine frames_modify fun st => hv.selectors st s _ fun x => ?_
  have hkeys : ∀ ps : List (KeyId × Mask),
      (ps.map fun p => if p.1 = k then (k, mask) else p).map Prod.fst = ps.map Prod.fst := by
    intro ps
    induction ps with
    | nil => rfl
    | cons p ps ih =>
      rw [List.map_cons, List.map_cons, ih, List.map_cons]
      split
      case isTrue hp => rw [hp]
      case isFalse => rfl
  simp [Selector.roster, Selector.keys, Selector.alive, hkeys]

theorem putEvents (k : KeyId) (mask : Mask) : Frames view (Action.putEvents k mask) := by
  refine frames_bind frames_get fun st => ?_
  split
  · split
    · exact hv.recordMask _ _ _
    · exact frames_pure _
  · exact frames_pure _

theorem setInterest (k : KeyId) (ops : Mask) : Frames view (Action.setInterest k ops) := by
  refine frames_bind frames_get fun st => ?_
  split
  · exact frames_throw _
  · exact frames_bind (frames_lift _) fun _ =>
      frames_bind (frames_modify fun st => hv.keys st k _ fun _ => rfl) fun _ => hv.putEvents _ _

theorem setReady (k : KeyId) (ops : Mask) : Frames view (Action.setReady k ops) :=
  frames_modify fun st => hv.keys st k _ fun _ => rfl

end HidesMasks

/-! ## Events and connections -/

namespace HidesEvents

variable (hv : HidesEvents view)
include hv

theorem emit (seen : Option ListenerId) (event : Event) : Frames view (Action.emit seen event) := by
  refine frames_modify fun st => ?_
  split
  · exact hv.reports st _
  · rfl

theorem reportClose (c : ListenerId) (closing : Event × IoResult)
    (killing : Option Event × IoResult) :
    Frames view (Action.reportClose c closing killing) := by
  refine frames_bind (hv.emit _ _) fun _ => ?_
  split
  · exact frames_bind (hv.emit _ _) fun _ => frames_bind (frames_demand _) fun _ => frames_demand _
  · exact frames_bind (frames_demand _) fun _ => frames_demand _

theorem bindable (c : ListenerId) (requested : Option Endpoint) :
    Frames view (Action.bindable c requested) := by
  refine frames_bind (frames_listener c) fun l => ?_
  split
  · exact frames_throw _
  split
  · exact frames_throw _
  split
  · exact frames_throw _
  · refine frames_bind frames_get fun st => ?_
    split
    · exact frames_pure _
    · exact frames_bind (hv.emit _ _) fun _ => frames_throw _

theorem closeConnection (i : ConnectionId) : Frames view (Action.closeConnection i) := by
  refine frames_bind frames_get fun st => ?_
  split
  · exact frames_throw _
  · split
    · exact frames_pure _
    · exact frames_bind (hv.closeConnectionDescriptor i) fun _ =>
        frames_bind (hv.emit _ _) fun _ => frames_demand _

theorem addConnection (number : FileNumber) (remote : Endpoint) :
    Frames view (Action.addConnection number remote) :=
  fun _ st h => (hv.connected st _ _).trans h

theorem keepConnection (c : ListenerId) (number : FileNumber) (remote : Endpoint) :
    Frames view (Action.keepConnection c number remote) := by
  refine frames_bind (hv.network _) fun r => ?_
  split
  · exact frames_bind (hv.network _) fun _ => frames_throw _
  · refine frames_bind (frames_listener c) fun l => frames_bind (hv.addConnection _ _) fun i =>
      frames_bind frames_get fun st => ?_
    split
    · exact frames_bind (hv.emit _ _) fun _ =>
        frames_bind (frames_observe (hv.closeConnection i)) fun _ => frames_throw _
    · exact frames_bind (hv.network _) fun _ => frames_bind (hv.emit _ _) fun _ => frames_pure _

end HidesEvents

/-! ## Binding and accepting -/

namespace HidesAccepts

variable (hv : HidesAccepts view)
include hv

theorem modifyListener (c : ListenerId) {f : Listener → Listener}
    (hf : ∀ l, (f l).standing = l.standing) :
    Frames view (modify fun st => st.modifyListener c f : Action Unit) :=
  frames_modify fun st => hv.standings st c f hf

theorem replaceListener (c : ListenerId) {f : Listener → Listener → Listener}
    {next : Listener → Action α} (hf : ∀ l, (f l l).standing = l.standing)
    (hnext : ∀ l, Frames view (next l)) :
    Frames view (do
      let l ← listener c
      modify fun st => st.modifyListener c (f l)
      next l) := by
  refine frames_listener_bind fun st l hl => ((hnext l).eq _).trans ?_
  show view (st.modifyListener c (f l)) = view st
  rw [Station.modifyListener_congr hl (g := fun l => f l l) rfl]
  exact hv.standings st c _ hf

theorem bindListener (c : ListenerId) (requested : Option Endpoint) (backlog : Int) :
    Frames view (Action.bind c requested backlog) := by
  refine frames_bind (hv.bindable c requested) fun address =>
    frames_bind (hv.acquire c) fun number =>
    frames_bind (hv.network _) fun r => ?_
  split
  · exact frames_bind (hv.release c) fun _ => frames_throw _
  · exact frames_bind (hv.modifyListener c fun _ => rfl) fun _ =>
      frames_bind (frames_listener c) fun _ =>
      frames_bind (hv.emit _ _) fun _ => hv.release c

theorem leaveAccept (me : ThreadId) (c : ListenerId) (a : Attempt) :
    Frames view (Action.leaveAccept me c a) := by
  refine frames_bind (frames_modify fun st => ?_) fun _ =>
    hv.replaceListener c (fun l => ?_) fun l => ?_
  · exact (hv.interrupts _ _).trans (hv.standings st c _ fun _ => rfl)
  · simp only [Core.conclude]
    split
    · rfl
    · split <;> rfl
  · split
    · exact frames_bind (hv.network _) fun _ => frames_throw _
    · exact frames_throw _
    · exact frames_bind (hv.keepConnection _ _ _) fun _ => frames_pure _
    · exact frames_throw _
    · exact frames_pure _

end HidesAccepts
/-! ## Selections -/

section Parts

variable {P : Station → Prop} {s : SelectorId}

/-- What taking in the events of every key keeps, taking in a whole report keeps. -/
theorem keeps_visitAll_of (hupdate : ∀ c k events, Keeps P (translateAndUpdate c k events).run)
    (hset : ∀ c k events, Keeps P (translateAndSet c k events).run) (already : List KeyId)
    (reported : List (KeyId × Mask)) : Keeps P (visitAll already reported).run := by
  have hvisit (k : KeyId) (events : Mask) : Keeps P (visit already k events).run := by
    refine keeps_bind keeps_get fun st => ?_
    split
    · exact keeps_pure _
    split
    · exact keeps_pure _
    split
    · exact keeps_bind (hupdate _ k events) fun _ => keeps_pure _
    · exact keeps_bind (hset _ k events) fun _ =>
        (frames_bind (frames_isReady k) fun _ => frames_pure _).holds P
  induction reported with
  | nil => exact keeps_pure _
  | cons p rest ih => exact keeps_bind (hvisit p.1 p.2) fun _ => keeps_bind ih fun _ => keeps_pure _

theorem keeps_forEveryKey {work : KeyId → Action Unit} (hwork : ∀ k, Keeps P (work k).run)
    (ks : List KeyId) : Keeps P (forEveryKey work ks).run := by
  induction ks with
  | nil => exact keeps_pure _
  | cons k ks ih =>
    exact keeps_bind (keeps_observe (hwork k)) fun _ => keeps_bind (keeps_observe ih) fun _ =>
      keeps_bind (keeps_lift _) fun _ => keeps_lift _

theorem keeps_processCancelled_of (htake : Keeps P (takeCancelled s).run)
    (hforget : ∀ k, Keeps P (forgetKey s k).run)
    (hderegister : ∀ k, Keeps P (deregisterKey k).run) :
    Keeps P (processCancelled s).run :=
  keeps_bind htake fun ks =>
    keeps_forEveryKey (fun k => keeps_bind (hforget k) fun _ => hderegister k) ks

theorem keeps_beginSelect_of (hprocess : Keeps P (processCancelled s).run) :
    Keeps P (beginSelect s).run := by
  refine keeps_bind (keeps_selector s) fun x => ?_
  split
  · exact keeps_bind hprocess fun _ =>
      keeps_bind keeps_get fun _ => keeps_bind (keeps_selector s) fun _ => keeps_pure _
  · exact keeps_throw _

theorem keeps_endSelect_of (hprocess : Keeps P (processCancelled s).run)
    (hvisit : ∀ already reported, Keeps P (visitAll already reported).run)
    (hselect : ∀ f : Selector → Selector,
      (∀ x, ∃ selected wake, f x = { x with selected, wake }) →
      Keeps P (modify fun st => st.modifySelector s f : Action Unit).run)
    (polled : List Polled) (answer : PollAnswer) : Keeps P (endSelect s polled answer).run := by
  have hfinish (reported : List (KeyId × Mask)) : Keeps P (finishSelect s reported).run :=
    keeps_bind (keeps_selector s) fun _ => keeps_bind (hvisit _ reported) fun _ =>
      keeps_bind (hselect _ fun _ => ⟨_, _, rfl⟩) fun _ =>
        keeps_bind hprocess fun _ => keeps_pure _
  unfold endSelect
  split
  · split
    · exact hfinish []
    · exact keeps_throw _
  · unfold finishWoken
    split
    · exact keeps_bind (hselect _ fun _ => ⟨_, _, rfl⟩) fun _ => hfinish _
    · exact hfinish _
  · exact keeps_throw _

end Parts

section Visits

variable {P : Station → Prop} (hreport : ∀ c k, Keeps P (reportInvalid c k).run)
  (hready : ∀ k ops, Keeps P (setReady k ops).run)
include hreport hready

/-- What a report of an invalid descriptor and a change of a ready set keep,
taking in events keeps. -/
theorem keeps_translateReady (c : ListenerId) (k : KeyId) (events initial : Mask) :
    Keeps P (translateReady c k events initial).run := by
  refine keeps_bind keeps_get fun st => ?_
  split
  · exact keeps_pure _
  · split
    · exact keeps_bind (hreport c k) fun _ => keeps_pure _
    · exact keeps_bind (hready k _) fun _ => keeps_pure _

theorem keeps_translateAndUpdate (c : ListenerId) (k : KeyId) (events : Mask) :
    Keeps P (translateAndUpdate c k events).run := by
  refine keeps_bind keeps_get fun st => ?_
  split
  · exact keeps_pure _
  · exact keeps_translateReady hreport hready c k events _

theorem keeps_visitAll (already : List KeyId) (reported : List (KeyId × Mask)) :
    Keeps P (visitAll already reported).run :=
  keeps_visitAll_of (fun c k events => keeps_translateAndUpdate hreport hready c k events)
    (fun c k events => keeps_translateReady hreport hready c k events 0) already reported

end Visits

end PolledChannels.Action
