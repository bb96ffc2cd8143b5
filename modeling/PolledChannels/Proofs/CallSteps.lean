import PolledChannels.Proofs.Encounters
import PolledChannels.Proofs.Frames

/-!
# What accesses are made of

An access reads, and then changes a channel, a key or a selector, tells of an event, signals a
thread, or does something to a descriptor. What all of these keep, every access keeps. So whoever
wants to know that accesses leave something alone looks at the changes and not at the calls.
-/

namespace PolledChannels

open PolledChannels.Action

namespace Station

variable {st : Station} {c : ListenerId} {l : Listener}

theorem listener_modifyListener (hl : st.listeners[c]? = some l) (f : Listener → Listener) :
    (st.modifyListener c f).listeners[c]? = some (f l) := by
  simp [modifyListener, hl]

theorem modifyListener_self (hl : st.listeners[c]? = some l) {f : Listener → Listener}
    (hf : f l = l) : st.modifyListener c f = st := by
  have hsame : st.modifyListener c id = st := by
    simp [modifyListener]
  rw [modifyListener_congr hl (g := id) hf, hsame]

end Station

/-! ## Calls inside calls -/

theorem ShutPoint.eq_of_isOver {p : ShutPoint} (hover : p.isOver = true) :
    ∃ outcome, p = .rest (.ended outcome) := by
  cases p with
  | rest point =>
    cases point with
    | ended outcome => exact ⟨outcome, rfl⟩
    | _ => cases hover
  | _ => cases hover

section Inside

variable {c : ListenerId} {point : KillPoint}

theorem LeavePoint.step_kill (k : KeyId) (hbusy : point.isOver = false) :
    step c k (.kill point) = (do return .kill (← point.step c)) := by
  cases point with
  | ended event released => cases hbusy
  | _ => rfl

theorem ClosePoint.step_kill (closing : Event × IoResult) (hbusy : point.isOver = false) :
    step c (.kill closing point) = (do return .kill closing (← point.step c)) := by
  cases point with
  | ended event released => cases hbusy
  | _ => rfl

theorem ClosePoint.step_cancel (rest : List KeyId) (outcome : IoResult) {point : CancelPoint}
    (hbusy : point.isOver = false) :
    step c (.cancel point rest outcome) = (do return .cancel (← point.step) rest outcome) := by
  cases point with
  | ended => cases hbusy
  | _ => rfl

theorem AcceptPoint.step_own {me : ThreadId} {signalled : Bool} {point : ShutPoint}
    (hbusy : point.isOver = false) :
    step me c signalled (.own point) = (do return .own (← point.step c (some me))) := by
  cases point with
  | rest point =>
    cases point with
    | ended outcome => cases hbusy
    | _ => rfl
  | _ => rfl

theorem InterruptPoint.step_shut {t : ThreadId} (c : ListenerId) {point : ShutPoint}
    (hbusy : point.isOver = false) :
    step t (.shut c point) = (do return .shut c (← point.step c (some t))) := by
  cases point with
  | rest point =>
    cases point with
    | ended outcome => cases hbusy
    | _ => rfl
  | _ => rfl

end Inside

/-! ## Changes -/

theorem Action.HidesDescriptors.accessDescriptor {σ : Type} {view : Station → σ}
    (hv : HidesDescriptors view) (c : ListenerId)
    (call : Guard.Call) : Frames view (Action.accessDescriptor c call) :=
  frames_bind (frames_listener c) fun _ =>
    frames_bind (frames_modify fun st => hv.listeners st c _ fun _ => ⟨rfl, rfl, rfl⟩) fun _ =>
      frames_bind (hv.applyEffect _ _) fun _ => frames_pure _

/-- A change that leaves the descriptor, the mode and the address of a channel alone, adds no key
and does not open it. -/
def KeepsSocket (f : Listener → Listener) : Prop :=
  ∀ l, (f l).descriptor = l.descriptor ∧ (f l).localAddress = l.localAddress ∧
    (f l).core.blocking = l.core.blocking ∧ (∀ k ∈ (f l).core.keys, k ∈ l.core.keys) ∧
    ((f l).core.isOpen = true → l.core.isOpen = true)

theorem keepsSocket_shut :
    KeepsSocket fun l => { l with core := { l.core with isOpen := false } } :=
  fun _ => ⟨rfl, rfl, rfl, fun _ hk => hk, fun hopen => absurd hopen Bool.false_ne_true⟩

/-- Changes of the channel that keep its socket, signals and keys that become
invalid keep the property. -/
structure KeptByClosing (c : ListenerId) (P : Station → Prop) : Prop where
  touch : ∀ {f}, KeepsSocket f →
    Keeps P (modify fun st => st.modifyListener c f : Action Unit).run
  threads : ∀ (threads : List Thread) (st : Station), P st → P { st with threads }
  invalidate : ∀ k, Keeps P (Action.invalidate k).run

section Steps

variable {c : ListenerId} {P : Station → Prop} {α : Type}

/-- The access to a descriptor that a kill is about to do. -/
def KillPoint.call? : KillPoint → Option Guard.Call
  | mark => some .mark
  | act effect => some (.act effect)
  | _ => none

def ClosePoint.call? : ClosePoint → Option Guard.Call
  | mark => some .mark
  | act effect => some (.act effect)
  | kill _ point => point.call?
  | _ => none

def ShutPoint.call? : ShutPoint → Option Guard.Call
  | rest point => point.call?
  | _ => none

theorem keeps_ask (yes no : α) (test : Listener → Bool) :
    Keeps P (do if test (← listener c) then return yes else return no : Action α).run := by
  refine keeps_bind (keeps_listener c) fun l => ?_
  split <;> exact keeps_pure _

theorem keeps_then {a : Action Unit} (ha : Keeps P a.run) (v : α) :
    Keeps P (do a; return v : Action α).run :=
  keeps_bind ha fun _ => keeps_pure v

variable (h : KeptByClosing c P)
include h

theorem KillPoint.keeps_step {p : KillPoint}
    (hcall : ∀ call, p.call? = some call → Keeps P (accessDescriptor c call).run) :
    Keeps P (p.step c).run := by
  have hkill (event : Option Event) (released : IoResult) : Keeps P (do
      modify fun st => st.modifyListener c fun l => { l with lifecycle := .killed }
      return KillPoint.ended event released : Action KillPoint).run :=
    keeps_then (h.touch (f := fun l => { l with lifecycle := .killed })
      fun _ => ⟨rfl, rfl, rfl, fun _ hk => hk, id⟩) _
  cases p with
  | weigh =>
    refine keeps_bind (keeps_listener c) fun l => ?_
    split
    · exact keeps_pure _
    · exact hkill _ _
    · exact keeps_pure _
  | askOpen => exact keeps_bind (keeps_listener c) fun _ => keeps_pure _
  | askKeys isOpen =>
    exact keeps_ask _ _ fun l => l.lifecycle.killPermitted isOpen l.core.registered
  | mark =>
    refine keeps_bind (hcall _ rfl) fun r => ?_
    split <;> exact keeps_pure _
  | act effect => exact keeps_bind (hcall _ rfl) fun _ => keeps_pure _
  | promote released => exact keeps_bind (keeps_listener c) fun _ => hkill _ _
  | ended event released => exact keeps_pure _

omit h in
theorem CancelPoint.keeps_step (hinvalidate : ∀ k, Keeps P (invalidate k).run)
    (hselectors : ∀ s f, Keeps P (modify fun st => st.modifySelector s f : Action Unit).run)
    (p : CancelPoint) : Keeps P p.step.run := by
  cases p with
  | swap k =>
    refine keeps_bind keeps_get fun st => ?_
    split
    · exact keeps_pure _
    · split
      · exact keeps_then (hinvalidate k) _
      · exact keeps_pure _
  | find s k =>
    refine keeps_bind keeps_get fun st => ?_
    split
    · exact keeps_pure _
    · split <;> exact keeps_pure _
  | queue s k | wake s => exact keeps_then (hselectors s _) _
  | ended => exact keeps_pure _

theorem keeps_shut : Keeps P (ClosePoint.step c .shut).run := by
  refine keeps_listener_bind fun l st hl hst => ?_
  split
  · exact hst
  · next core hshut =>
    have hcore : core = { l.core with isOpen := false } := by
      unfold Core.shut? at hshut
      split at hshut
      · exact (Option.some.inj hshut).symm
      · cases hshut
    show P (st.modifyListener c fun l => { l with core })
    rw [Station.modifyListener_congr hl
      (g := fun l => { l with core := { l.core with isOpen := false } }) (by rw [hcore])]
    exact h.touch keepsSocket_shut st hst

theorem ClosePoint.keeps_step {p : ClosePoint}
    (hcall : ∀ call, p.call? = some call → Keeps P (accessDescriptor c call).run)
    (hemit : ∀ event, p.tells = some event → Keeps P (emit (some c) event).run)
    (hcancel : ∀ point rest outcome, p = .cancel point rest outcome → Keeps P point.step.run) :
    Keeps P (p.step c).run := by
  cases p with
  | shut => exact keeps_shut h
  | look | sample =>
    refine keeps_bind (keeps_listener c) fun l => ?_
    split <;> exact keeps_pure _
  | mark =>
    refine keeps_bind (hcall _ rfl) fun r => ?_
    split <;> exact keeps_pure _
  | act effect => exact keeps_bind (hcall _ rfl) fun _ => keeps_pure _
  | signal t closing =>
    refine keeps_bind (fun st hst => ?_) fun _ => keeps_pure _
    obtain ⟨sent, threads, hrun⟩ := run_signalThread t st
    rw [hrun]
    exact h.threads threads st hst
  | count closing => exact keeps_ask _ _ fun l => l.core.registered
  | kill closing point =>
    cases point with
    | ended event released => exact keeps_pure _
    | _ => exact keeps_bind (KillPoint.keeps_step h hcall) fun _ => keeps_pure _
  | tell closing killing =>
    refine keeps_bind (hemit _ rfl) fun _ => ?_
    split <;> exact keeps_pure _
  | tellKill event outcome => exact keeps_then (hemit _ rfl) _
  | sweep outcome => exact keeps_bind (keeps_listener c) fun _ => keeps_pure _
  | cancel point rest outcome =>
    cases point with
    | ended => exact keeps_pure _
    | _ => exact keeps_bind (hcancel _ _ _ rfl) fun _ => keeps_pure _
  | ended outcome => exact keeps_pure _

theorem keeps_strike (k : KeyId) : Keeps P (LeavePoint.step c k .strike).run := by
  refine keeps_listener_bind fun l st hl hst => ?_
  show P (st.modifyListener c fun l' => { l' with core := (l.core.dropKey k).1 })
  rw [Station.modifyListener_congr hl (g := fun l => { l with core := (l.core.dropKey k).1 }) rfl]
  exact h.touch (f := fun l => { l with core := (l.core.dropKey k).1 })
    (fun _ => ⟨rfl, rfl, rfl, fun _ hk => (List.mem_filter.mp hk).1, id⟩) st hst

theorem LeavePoint.keeps_step {k : KeyId} {p : LeavePoint}
    (hcall : ∀ call point, p = .kill point → point.call? = some call →
      Keeps P (accessDescriptor c call).run)
    (hemit : ∀ event, p.tells = some event → Keeps P (emit (some c) event).run) :
    Keeps P (p.step c k).run := by
  cases p with
  | strike => exact keeps_strike h k
  | void => exact keeps_then (h.invalidate k) _
  | test =>
    refine keeps_bind (keeps_listener c) fun l => ?_
    dsimp only
    split <;> exact keeps_pure _
  | kill point =>
    cases point with
    | ended event released => cases event <;> exact keeps_pure _
    | _ =>
      exact keeps_bind (KillPoint.keeps_step h fun call => hcall call _ rfl) fun _ => keeps_pure _
  | tell event released => exact keeps_then (hemit _ rfl) _
  | ended outcome => exact keeps_pure _

omit h in
theorem RegisterPoint.keeps_step {s : SelectorId} {ops : Mask} {p : RegisterPoint}
    (hselectors : ∀ f, Keeps P (modify fun st => st.modifySelector s f : Action Unit).run)
    (hmake : p = .make → Keeps P (newKey c s).run)
    (hlist : ∀ k, p = .list k → Keeps P (p.step c s ops).run)
    (hstore : ∀ k, Keeps P (modify fun st =>
      st.modifyKey k fun key => { key with interest := ops } : Action Unit).run)
    (hhand : ∀ k, Keeps P (putEvents k (Readiness.acceptEvents ops)).run) :
    Keeps P (p.step c s ops).run := by
  have hask (yes no : RegisterPoint) : Keeps P (do
      if (← selector s).isOpen then return yes else return no : Action RegisterPoint).run := by
    refine keeps_bind (keeps_selector s) fun x => ?_
    split <;> exact keeps_pure _
  cases p with
  | enter =>
    refine keeps_bind (keeps_listener c) fun l => ?_
    split <;> exact keeps_pure _
  | find =>
    refine keeps_bind (keeps_bind keeps_get fun st =>
      keeps_bind (keeps_listener c) fun _ => keeps_pure _) fun r => ?_
    split <;> exact keeps_pure _
  | weigh k =>
    refine keeps_bind keeps_get fun st => ?_
    split <;> exact keeps_pure _
  | askSelector | askAgain k => exact hask _ _
  | make => exact keeps_bind (hmake rfl) fun _ => keeps_pure _
  | adopt k => exact keeps_then (hselectors _) _
  | list k => exact hlist k rfl
  | interest k =>
    refine keeps_bind keeps_get fun st => ?_
    split
    · exact keeps_pure _
    · split <;> exact keeps_pure _
  | store k => exact keeps_then (hstore k) _
  | hand k => exact keeps_then (hhand k) _
  | ended outcome => exact keeps_pure _

theorem ShutPoint.keeps_step {target : Option ThreadId} {p : ShutPoint}
    (hcall : ∀ call, p.call? = some call → Keeps P (accessDescriptor c call).run)
    (hemit : ∀ event, Keeps P (emit (some c) event).run)
    (hselectors : ∀ s f, Keeps P (modify fun st => st.modifySelector s f : Action Unit).run) :
    Keeps P (p.step c target).run := by
  cases p with
  | flip =>
    refine keeps_bind (keeps_listener c) fun l => ?_
    split
    · exact keeps_then (h.touch keepsSocket_shut) _
    · exact keeps_pure _
  | credit t =>
    exact keeps_then
      (h.touch (f := fun l => { l with core := { l.core with interruptedBy := some t } })
      fun _ => ⟨rfl, rfl, rfl, fun _ hk => hk, id⟩) _
  | rest point =>
    exact keeps_bind (ClosePoint.keeps_step h hcall (fun event _ => hemit event)
      fun point _ _ _ => point.keeps_step h.invalidate hselectors) fun _ => keeps_pure _

end Steps

/-! ## Accepts and interrupts -/

/-- What an accept tells, the regions it enters and what it asks the network keep the property. -/
structure KeptByAsking (c : ListenerId) (P : Station → Prop) : Prop where
  emit : ∀ event, Keeps P (Action.emit (some c) event).run
  slots : ∀ {st : Station} interrupts, P st → P { st with interrupts }
  isBlocking : ∀ number, Keeps P (network (Net.isBlocking number)).run
  poll : ∀ number, Keeps P (network (Net.poll number Native.input)).run

/-- What an accept does beside its accesses to the descriptor, and apart from taking a connection
and from what becomes of it, keeps the property. -/
structure KeptByAccepting (c : ListenerId) (P : Station → Prop) : Prop
    extends KeptByClosing c P, KeptByAsking c P where
  selectors : ∀ s f, Keeps P (modify fun st => st.modifySelector s f : Action Unit).run

/-- A change of what an accept notes of itself on its channel. -/
def NotesAccept (f : Listener → Listener) : Prop :=
  ∀ l, ∃ turn acceptor interruptedBy,
    f l = { l with turn, acceptor, core := { l.core with interruptedBy } }

theorem NotesAccept.keepsSocket {f : Listener → Listener} (hf : NotesAccept f) :
    KeepsSocket f := by
  intro l
  obtain ⟨turn, acceptor, interruptedBy, h⟩ := hf l
  rw [h]
  exact ⟨rfl, rfl, rfl, fun _ hk => hk, id⟩

/-- The same for an accept that does not close its channel. -/
structure KeptByOpenAccept (c : ListenerId) (P : Station → Prop) : Prop
    extends KeptByAsking c P where
  touch : ∀ {f}, NotesAccept f →
    Keeps P (modify fun st => st.modifyListener c f : Action Unit).run

def AcceptPoint.call? : AcceptPoint → Option Guard.Call
  | own point => point.call?
  | take call => some call
  | leave _ => some .leave
  | give _ => some (.act .release)
  | _ => none

/-- The next access may call accept. -/
def AcceptPoint.accepts : AcceptPoint → Bool
  | request | inside => true
  | _ => false

section KeptByAccepting

variable {c : ListenerId} {P : Station → Prop}

theorem KeptByAccepting.keptByOpenAccept (h : KeptByAccepting c P) : KeptByOpenAccept c P :=
  ⟨h.toKeptByAsking, fun hf => h.touch hf.keepsSocket⟩

theorem keeps_tellInterrupt (h : KeptByOpenAccept c P) (t : ThreadId) :
    Keeps P (tellInterrupt c t).run :=
  keeps_bind (keeps_listener c) fun _ => h.emit _

theorem AcceptPoint.keeps_enterCall {number : FileNumber}
    (haccept : Keeps P (network (Net.accept number)).run) : Keeps P (enterCall number).run := by
  refine keeps_bind haccept fun r => ?_
  split <;> exact keeps_pure _

theorem AcceptPoint.keeps_step {p : AcceptPoint} (h : KeptByOpenAccept c P) (me : ThreadId)
    (signalled : Bool) (hown : ∀ point, p = .own point → Keeps P (point.step c (some me)).run)
    (hcall : ∀ call, p.call? = some call → Keeps P (accessDescriptor c call).run)
    (haccept : p.accepts = true → ∀ number, Keeps P (network (Net.accept number)).run)
    (hdrop : ∀ number, p = .drop number → Keeps P (network (Net.close number)).run)
    (hkeep : ∀ number remote, p = .keep number remote →
      Keeps P (keepConnection c number remote).run) :
    Keeps P (p.step me c signalled).run := by
  have htouch {f : Listener → Listener} (hf : NotesAccept f) (p : AcceptPoint) :
      Keeps P (do modify fun st => st.modifyListener c f; return p : Action AcceptPoint).run :=
    keeps_then (h.touch hf) p
  cases p with
  | turn => exact htouch (f := fun l => { l with turn := some me }) (fun _ => ⟨_, _, _, rfl⟩) _
  | askOpen | askAgain | again | test a => exact keeps_ask _ _ fun l => l.core.isOpen
  | askBound => exact keeps_ask _ _ Listener.isBound
  | register =>
    intro st hst
    have hrest : Keeps P
        (if (st.interrupts.enter me c).2 then return .tell
          else return .askAgain : Action AcceptPoint).run := by
      split <;> exact keeps_pure _
    exact hrest _ (h.slots _ hst)
  | tell => exact keeps_then (keeps_tellInterrupt h me) _
  | own point =>
    cases hover : point.isOver with
    | false =>
      rw [step_own hover]
      exact keeps_bind (hown point rfl) fun _ => keeps_pure _
    | true =>
      obtain ⟨outcome, rfl⟩ := ShutPoint.eq_of_isOver hover
      exact keeps_pure _
  | store =>
    exact htouch (f := fun l => { l with acceptor := some me }) (fun _ => ⟨_, _, _, rfl⟩) _
  | take call | leave a | give a =>
    exact keeps_bind (hcall _ rfl) fun _ => keeps_pure _
  | mode =>
    refine keeps_bind (keeps_listener c) fun l =>
      keeps_bind (h.isBlocking _) fun r => ?_
    split <;> exact keeps_pure _
  | poll =>
    refine keeps_bind (keeps_listener c) fun l => keeps_bind (h.poll _) fun r => ?_
    split
    · exact keeps_pure _
    · split <;> exact keeps_pure _
  | request => exact keeps_bind (keeps_listener c) fun _ => keeps_enterCall (haccept rfl _)
  | inside =>
    refine keeps_bind (keeps_listener c) fun l => ?_
    split
    · exact keeps_pure _
    · refine keeps_bind keeps_get fun st => ?_
      split
      · exact keeps_pure _
      · exact keeps_enterCall (haccept rfl _)
  | fault e => exact keeps_bind (keeps_listener c) fun _ => keeps_pure _
  | clear a =>
    exact htouch (f := fun l => { l with acceptor := none }) (fun _ => ⟨_, _, _, rfl⟩) _
  | exit a => exact keeps_then (fun _ => h.slots _) _
  | hear a =>
    refine keeps_bind (keeps_listener c) fun l => ?_
    split
    · exact htouch (f := fun l => { l with core := { l.core with interruptedBy := none } })
        (fun _ => ⟨_, _, _, rfl⟩) _
    · exact keeps_pure _
  | drop number => exact keeps_bind (hdrop _ rfl) fun _ => keeps_pure _
  | keep number remote =>
    exact keeps_bind (keeps_observe (hkeep _ _ rfl)) fun _ => keeps_pure _
  | back answer =>
    exact htouch (f := fun l => { l with turn := none }) (fun _ => ⟨_, _, _, rfl⟩) _
  | ended answer => exact keeps_pure _

theorem InterruptPoint.keeps_step {p : InterruptPoint} (h : ∀ c, KeptByAccepting c P)
    (t : ThreadId)
    (hcall : ∀ c call, Keeps P (accessDescriptor c call).run) : Keeps P (p.step t).run := by
  cases p with
  | find =>
    refine keeps_bind keeps_get fun st => ?_
    split <;> exact keeps_pure _
  | mark => exact fun _ => (h 0).slots _
  | tell c => exact keeps_then (keeps_tellInterrupt (h c).keptByOpenAccept t) _
  | shut c point =>
    cases hover : point.isOver with
    | false =>
      rw [step_shut c hover]
      exact keeps_bind
        (ShutPoint.keeps_step (h c).toKeptByClosing (fun call _ => hcall c call) (h c).emit
        (h c).selectors) fun _ => keeps_pure _
    | true =>
      obtain ⟨outcome, rfl⟩ := ShutPoint.eq_of_isOver hover
      exact keeps_pure _
  | ended => exact keeps_pure _

end KeptByAccepting
end PolledChannels
