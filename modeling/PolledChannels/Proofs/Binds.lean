import PolledChannels.Proofs.FailedBinds
import PolledChannels.Proofs.Enactments
import PolledChannels.Proofs.Strides

/-!
# Binds access by access

A bind of a channel cut into accesses, as other calls are: it looks at the open flag and at the
address, asks the policy, takes a use of the descriptor, makes its three calls of the network under
that use, remembers the address, tells of it and ends the use. A bind that runs alone is a bind;
and one that nobody keeps from moving comes to its end, wherever it stands.
-/

namespace PolledChannels

open PolledChannels.Action

/-- Where a bind stands that has its turn at the channel. -/
inductive BindPoint where
  | askOpen
  /-- About to see whether the channel has an address. -/
  | askBound
  /-- About to look at the address asked for, and to ask the policy. -/
  | weigh
  | deny (denial : Denial)
  /-- Taking a use of the descriptor. -/
  | take (address : Endpoint) (call : Guard.Call)
  /-- About to bind the socket. -/
  | claim (address : Endpoint)
  | listen
  /-- About to ask for the name of the socket. -/
  | name
  | store (bound : Endpoint)
  | tell (bound : Endpoint)
  /-- The answer is known, and the use is to end. -/
  | leave (answer : Except Failure Unit)
  /-- The use was the last one, and the number is to go back to the kernel. -/
  | give (answer : Except Failure Unit)
  | ended (answer : Except Failure Unit)

namespace BindPoint

/-- What follows an access that takes a use. -/
def taking (address : Endpoint) : Guard.Call → BindPoint
  | .held => claim address
  | .refused => ended (.error (.io .socketClosed))
  | call => take address call

/-- What follows the end of the use. -/
def left (answer : Except Failure Unit) : Guard.Call → BindPoint
  | .act _ => give answer
  | _ => ended answer

/-- What follows a call of the network; one that fails ends the bind. -/
def answered {α : Type} (next : α → BindPoint) : Except IoError α → BindPoint
  | .error e => leave (.error (.io e))
  | .ok v => next v

/-- Makes a call of the network and goes on with its answer. -/
def calls {α : Type} (c : ListenerId) (call : FileNumber → Net α) (next : α → BindPoint) :
    Action BindPoint := do
  return answered next (← network (call (← listener c).descriptor.number))

def step (c : ListenerId) (requested : Option Endpoint) (backlog : Int) :
    BindPoint → Action BindPoint
  | askOpen => do
    if (← listener c).core.isOpen then return askBound else return ended (.error .closed)
  | askBound => do
    if (← listener c).isBound then return ended (.error .alreadyBound) else return weigh
  | weigh =>
    match Listening.address? requested with
    | none => return ended (.error .unsupportedAddress)
    | some address => do
      match (← get).provider.checkListen address.port with
      | .ok _ => return take address .look
      | .error denial => return deny denial
  | deny denial => do
    let l ← listener c
    emit (some c) { eventOf l .listenDenied with detail := some denial.message }
    return ended (.error (.denied denial))
  | take address call => return taking address (← accessDescriptor c call).1
  | claim address => calls c (fun number => Net.bind number address) fun _ => listen
  | listen =>
    calls c (fun number => Net.listen number (Listening.effectiveBacklog backlog)) fun _ => name
  | name => calls c Net.localAddress store
  | store bound => do
    modify fun st => st.modifyListener c fun l => { l with localAddress := some bound }
    return tell bound
  | tell bound => do
    let l ← listener c
    emit (some c) (boundEvent l bound (Listening.effectiveBacklog backlog))
    return leave (.ok ())
  | leave answer => return left answer (← accessDescriptor c .leave).1
  | give answer => do
    let _ ← accessDescriptor c (.act .release)
    return ended answer
  | ended answer => return ended answer

/-- The lock that the next access needs. -/
def wants (c : ListenerId) : BindPoint → Option Lock
  | askBound | store _ => some (.state c)
  | _ => none

/-- A use is taken by looking at the word and putting it into the word that was seen. -/
def isProper : BindPoint → Prop
  | take _ call => call = .look ∨ ∃ seen, call = .claim seen ∧ Guard.isClosed seen = false
  | _ => True

/-! ## A bind that runs alone -/

section Solo

variable {st : Station} {c : ListenerId} {l : Listener} {requested : Option Endpoint}
    {backlog : Int} {call : Guard.Call} {p : BindPoint} {α : Type}

/-- A call of the network touches nothing but the network, and its answer decides
how the bind goes on. -/
theorem run_calls (call : FileNumber → Net α) (next : α → BindPoint)
    {r : Except IoError α} {n : Network} (hl : st.listeners[c]? = some l)
    (hcall : (call l.descriptor.number).run st.network = (r, n)) :
    (calls c call next).run st = (.ok (answered next r), { st with network := n }) := by
  rw [calls, run_listener_bind hl, run_network_bind, hcall]
  rfl

theorem run_take (hl : st.listeners[c]? = some l) (address : Endpoint)
    (hcall : (take address call).isProper) :
    (step c requested backlog (.take address call)).run st =
      (.ok (taking address (Guard.step l.descriptor.word call).2.1),
        st.putWord c (Guard.step l.descriptor.word call).1) := by
  have hquiet : (Guard.step l.descriptor.word call).2.2 = none := by
    rcases hcall with rfl | ⟨seen, rfl, -⟩
    · rfl
    · rw [Guard.step]
      split <;> rfl
  rw [step]
  exact run_bind_ok (run_accessDescriptor hl hquiet)

theorem run_weigh {address : Endpoint} (h : Listening.address? requested = some address) :
    (step c requested backlog .weigh).run st =
      (.ok (match st.provider.checkListen address.port with
        | .ok _ => .take address .look
        | .error denial => .deny denial), st) := by
  simp only [step, h, run_bind, run_get]
  cases st.provider.checkListen address.port <;> rfl

/-- The rest of a bind, once its calls of the network are made. -/
def settle (c : ListenerId) (depth : Int) : Except IoError Endpoint → Action Unit
  | .error e => do
    release c
    throw (.io e)
  | .ok bound => do
    modify fun st => st.modifyListener c fun l => { l with localAddress := some bound }
    let l ← listener c
    emit (some c) (boundEvent l bound depth)
    release c

/-- From a point on, a bind that runs alone does what is left of the operation. -/
abbrev Follows (c : ListenerId) (requested : Option Endpoint) (backlog : Int) (l : Listener)
    (p : BindPoint) (a : Action Unit) : Prop :=
  Enacts (step c requested backlog) (Lists c l) p a.run (Replies .ended fun _ => True)

theorem follows_leave (answer : Except Failure Unit) {f : Unit → Action Unit}
    (hf : (f ()).run = pure answer) :
    Follows c requested backlog l (.leave answer) (release c >>= f) := by
  refine (enacts_release (.give answer) rfl rfl rfl rfl).andThen fun _ => ?_
  rw [hf]
  exact .done fun _ _ => ⟨rfl, trivial⟩

theorem follows_tell (bound : Endpoint) :
    Follows c requested backlog l (.tell bound) (do
      let l ← listener c
      emit (some c) (boundEvent l bound (Listening.effectiveBacklog backlog))
      release c) := by
  have hleave : Follows c requested backlog l (.leave (.ok ())) (release c >>= pure) :=
    follows_leave (.ok ()) rfl
  rw [bind_pure] at hleave
  exact .read (hleave.access fun st hl => ⟨_, run_listener_bind hl _, rfl,
    (congrArg (·[c]?) (st.listeners_tell c _)).trans hl⟩)

theorem follows_store (bound : Endpoint) :
    Follows c requested backlog l (.store bound)
      (settle c (Listening.effectiveBacklog backlog) (.ok bound)) :=
  .touch (fun _ _ => rfl) rfl (follows_tell bound)

theorem follows_calls (call : FileNumber → Net α) {next : α → BindPoint}
    {f : α → Net Endpoint} (hp : step c requested backlog p = calls c call next)
    (hnext : ∀ v, Follows c requested backlog l (next v)
      (network (f v) >>= settle c (Listening.effectiveBacklog backlog))) :
    Follows c requested backlog l p
      (network (call l.descriptor.number >>= f) >>= settle c
        (Listening.effectiveBacklog backlog)) := by
  intro st hl
  generalize hcall : (call l.descriptor.number).run st.network = r
  have hstep := run_calls call next hl hcall
  rw [← hp] at hstep
  have hrun := run_network_bind (call l.descriptor.number >>= f)
    (settle c (Listening.effectiveBacklog backlog)) st
  rw [Net.run_bind, hcall] at hrun
  obtain ⟨e | v, n⟩ := r
  · exact (follows_leave (.error (.io e)) rfl).via hstep hrun hl
  · exact (hnext v).via hstep (hrun.trans (run_network_bind (f v) _ { st with network := n }).symm)
      hl

theorem follows_name :
    Follows c requested backlog l .name
      (network (Net.localAddress l.descriptor.number) >>= settle c
        (Listening.effectiveBacklog backlog)) := by
  rw [← bind_pure (Net.localAddress l.descriptor.number)]
  exact follows_calls Net.localAddress rfl follows_store

theorem follows_listen :
    Follows c requested backlog l .listen
      (network (do
        Net.listen l.descriptor.number (Listening.effectiveBacklog backlog)
        Net.localAddress l.descriptor.number) >>= settle c (Listening.effectiveBacklog backlog)) :=
  follows_calls (fun number => Net.listen number (Listening.effectiveBacklog backlog)) rfl fun _ =>
    follows_name

theorem follows_claim (address : Endpoint) :
    Follows c requested backlog l (.claim address)
      (network (establish l.descriptor.number address (Listening.effectiveBacklog backlog)) >>=
        settle c (Listening.effectiveBacklog backlog)) :=
  follows_calls (fun number => Net.bind number address) rfl fun _ => follows_listen

theorem follows_take (address : Endpoint) (hcall : (take address call).isProper) :
    Follows c requested backlog l (.take address call) (do
      let number ← acquire c
      settle c (Listening.effectiveBacklog backlog)
        (← network (establish number address (Listening.effectiveBacklog backlog)))) :=
  .taking (f := ExceptT.bindCont _) hcall (fun _ => rfl) (fun _ => rfl)
    (.done fun _ _ => ⟨rfl, trivial⟩)
    (follows_claim address)

/-- The address that a bind asks for, if the policy lets it have that. -/
def permitted (c : ListenerId) (requested : Option Endpoint) (l : Listener) : Action Endpoint :=
  match Listening.address? requested with
  | none => throw .unsupportedAddress
  | some address => do
    match (← get).provider.checkListen address.port with
    | .ok _ => return address
    | .error denial =>
      emit (some c) { eventOf l .listenDenied with detail := some denial.message }
      throw (.denied denial)

section Permitted

variable {f : Endpoint → Action Unit}
  (hf : ∀ address, Follows c requested backlog l (.take address .look) (f address))

include hf

theorem follows_weigh : Follows c requested backlog l .weigh (permitted c requested l >>= f) := by
  intro st hl
  cases haddress : Listening.address? requested with
  | none =>
    have hrun : (permitted c requested l >>= f).run st = (.error .unsupportedAddress, st) := by
      rw [permitted, haddress]
      rfl
    rw [hrun]
    exact ⟨_, ⟨rfl, trivial⟩, .one (by rw [step, haddress]; rfl)⟩
  | some address =>
    have hweigh : (step c requested backlog .weigh).run st = _ := run_weigh haddress
    cases hpolicy : st.provider.checkListen address.port with
    | ok _ =>
      rw [hpolicy] at hweigh
      have hrun : (permitted c requested l).run st = (.ok address, st) := by
        simp only [permitted, haddress, run_bind, run_get, hpolicy, run_pure]
      exact (hf address).via hweigh (run_bind_ok hrun) hl
    | error denial =>
      rw [hpolicy] at hweigh
      have hrun : (permitted c requested l >>= f).run st = (.error (.denied denial),
          st.tell c { eventOf l .listenDenied with detail := some denial.message }) := by
        simp only [permitted, haddress, run_bind, run_get, hpolicy]
        rfl
      rw [hrun]
      exact ⟨_, ⟨rfl, trivial⟩, .head hweigh (.one (run_listener_bind hl _))⟩

theorem follows_askBound :
    Follows c requested backlog l .askBound
      ((if l.isBound then throw .alreadyBound else permitted c requested l) >>= f) := by
  refine .ask rfl ?_
  cases l.isBound with
  | true => exact .done fun _ _ => ⟨rfl, trivial⟩
  | false => exact follows_weigh hf

end Permitted

/-- A bind that runs alone is a bind. -/
theorem follows : Follows c requested backlog l .askOpen (Action.bind c requested backlog) := by
  have hbind :
      Action.bind c requested backlog = bindable c requested >>= fun address => acquire c >>=
      fun number => network (establish number address (Listening.effectiveBacklog backlog)) >>=
        settle c (Listening.effectiveBacklog backlog) := rfl
  rw [hbind, bindable, bind_assoc]
  refine .read (.ask rfl ?_)
  cases l.core.isOpen with
  | false => exact .done fun _ _ => ⟨rfl, trivial⟩
  | true => exact follows_askBound fun address => follows_take address (.inl rfl)

/-! ## A bind that comes to its end -/

/-- From here a bind that nobody keeps from moving comes to its answer. -/
def Finishes (c : ListenerId) (requested : Option Endpoint) (backlog : Int) (st : Station)
    (p : BindPoint) : Prop :=
  ∃ answer st', Solo (step c requested backlog) st p st' (.ended answer)

/-- A bind that nobody keeps from moving comes to its answer, wherever it stands. -/
theorem finishes (hl : st.listeners[c]? = some l) (hp : p.isProper) :
    Finishes c requested backlog st p := by
  have hend {p : BindPoint} {a : Action Unit} (h : Follows c requested backlog l p a) :
      Finishes c requested backlog st p := by
    obtain ⟨_, ⟨rfl, -⟩, hsolo⟩ := h st hl
    exact ⟨_, _, hsolo⟩
  have hrest (address : Endpoint) : Follows c requested backlog l (.take address .look) _ :=
    follows_take address (.inl rfl)
  cases p with
  | askOpen => exact hend follows
  | askBound => exact hend (follows_askBound hrest)
  | weigh => exact hend (follows_weigh hrest)
  | deny denial => exact ⟨_, _, .one (run_listener_bind hl _)⟩
  | take address call => exact hend (follows_take address hp)
  | claim address => exact hend (follows_claim address)
  | listen => exact hend follows_listen
  | name => exact hend follows_name
  | store bound => exact hend (follows_store bound)
  | tell bound => exact hend (follows_tell bound)
  | leave answer => exact hend (follows_leave answer (f := fun _ => ExceptT.mk (pure answer)) rfl)
  | give answer =>
    obtain ⟨released, network, -, haccess⟩ := run_accessDescriptor_act hl .release
    exact ⟨answer, _, .one (run_bind_ok haccess)⟩
  | ended answer => exact ⟨answer, st, .refl⟩

end Solo
end BindPoint
end PolledChannels
