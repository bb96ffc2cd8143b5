import PolledChannels.Proofs.RegisteredModes
import PolledChannels.Proofs.Strides

/-!
# Accepts that answer that nothing is there

An accept goes by the mode of the descriptor, and the channel reports its own flag. Calls on
a channel are run one after the other, each to its end, and then an accept that is alone
with the channel answers that nothing is there. Then it found the descriptor non-blocking
and no connection pending.

The flag of the channel says that it does not block, exactly if the channel is no stray: a channel
that was adopted over a non-blocking descriptor counts as blocking until a call writes its flag, and
until then an accept on it may come back empty although the channel says that it blocks.
-/

namespace PolledChannels

open PolledChannels.Action Relation

/-! ## What the network says of a listening socket -/

namespace Network

/-- No call is told to fail as if nothing were there. -/
def Tempered (n : Network) : Prop :=
  some (.os .again) ∉ n.faults

variable {n : Network} {fd : FileNumber}

theorem Tempered.fault? (h : n.Tempered) : n.fault? ≠ some (.os .again) := by
  intro hfault
  refine h (List.mem_of_mem_head? ?_)
  rw [Network.fault?, Option.join_eq_some_iff] at hfault
  exact hfault

theorem pending_of_polled (hfd : 0 ≤ fd) (h : n.polled fd Native.input = 0) :
    n.pending fd = [] := by
  unfold pending
  split
  · next s hs =>
    obtain ⟨blocking, hfile⟩ := file?_of_socket? hs
    split
    · next backlog pending hstate =>
      have hevents : n.fileEvents ⟨.socket s, blocking⟩ =
          Native.whenever (!pending.isEmpty) Native.readable := by
        rw [fileEvents]
        dsimp only
        rw [hstate]
      rw [polled, if_neg (Int.not_lt.mpr hfd), hfile] at h
      dsimp only at h
      rw [hevents] at h
      cases pending with
      | nil => rfl
      | cons p rest =>
        have hwaits : Native.readable &&& (asked Native.input ||| Native.always) ≠ 0 := by decide
        exact absurd h hwaits
    · rfl
  · rfl

end Network

namespace Net

variable {n n' : Network} {fd : FileNumber}

theorem mode_of_isBlocking {b : Bool} (h : (isBlocking fd).run n = (.ok b, n')) :
    n.mode? fd = some b ∧ n'.mode? fd = some b := by
  rw [isBlocking, run_consult_bind] at h
  split at h
  · cases h
  · rw [run_file_bind] at h
    split at h
    · next f hfile =>
      cases h
      have hmode : n.consulted.mode? fd = some f.blocking := by
        rw [Network.mode?, hfile]
        rfl
      exact ⟨hmode, hmode⟩
    · cases h

theorem polled_of_poll {events answer : Mask} (h : (poll fd events).run n = (.ok answer, n')) :
    n.polled fd events = answer := by
  rw [poll, run_consult_bind] at h
  split at h
  · cases h
  · cases h
    rfl

/-- The kernel only says that nothing is there of a non-blocking socket without connections. -/
theorem idle_of_accept_again (ht : n.Tempered) (h : (accept fd).run n = (.error (.os .again), n')) :
    n.mode? fd = some false ∧ n.pending fd = [] := by
  rcases accept_cases h with ⟨e, he, -, hidle⟩ | ⟨⟨⟩, -⟩ |
    ⟨p, m, -, ⟨⟨⟩, -⟩ | ⟨⟨⟩, -⟩⟩
  cases he
  exact (hidle rfl).resolve_left ht.fault?

end Net

/-! ## What an accept has seen -/

/-- What an accept vouches for by where it stands. About to poll, it has seen that the mode is
non-blocking; with an attempt that came to nothing, it has seen that nothing was there; with
one that was interrupted, it has seen the channel closed. Of a closed channel it need not
vouch for anything. -/
def AcceptPoint.Vouches (loose closed seen : Prop) : AcceptPoint → Prop
  | poll => closed ∨ loose
  | fault e => e = .os .again → closed ∨ seen
  | leave a | give a => a = .unavailable → closed ∨ seen
  | clear a | exit a | hear a =>
    (a = .unavailable → closed ∨ seen) ∧ (a = .interrupted → closed)
  | test a =>
    a.completed = false ∧ (a = .unavailable → closed ∨ seen) ∧ (a = .interrupted → closed)
  | back answer | ended answer => answer = .ok none → seen
  | _ => True

namespace AcceptPoint

variable {loose loose' closed closed' seen seen' : Prop} {p p' : AcceptPoint}

theorem Vouches.mono (h : p.Vouches loose closed seen) (hloose : loose → closed' ∨ loose')
    (hclosed : closed → closed') (hseen : seen → seen') : p.Vouches loose' closed' seen' := by
  have hpast (h : closed ∨ seen) : closed' ∨ seen' := h.imp hclosed hseen
  cases p with
  | poll => exact h.elim (fun hshut => .inl (hclosed hshut)) hloose
  | fault e => exact fun he => hpast (h he)
  | leave a | give a => exact fun ha => hpast (h ha)
  | clear a | exit a | hear a => exact ⟨fun ha => hpast (h.1 ha), fun ha => hclosed (h.2 ha)⟩
  | test a => exact ⟨h.1, fun ha => hpast (h.2.1 ha), fun ha => hclosed (h.2.2 ha)⟩
  | back answer | ended answer => exact fun ha => hseen (h ha)
  | _ => trivial

theorem vouches_tried {a : Attempt} (h : a = .unavailable → closed ∨ seen) :
    (tried a).Vouches loose closed seen := by
  cases a with
  | interrupted => trivial
  | _ => exact ⟨h, by rintro ⟨⟩⟩

section After

variable {c : ListenerId} {st st' : Station} {l : Listener} {me : ThreadId} {signalled : Bool}

theorem vouches_enterCall {number : FileNumber} (ht : st.network.Tempered)
    (hnow : st.network.mode? number = some false → st.network.pending number = [] →
      closed ∨ seen)
    (hrun : (enterCall number).run st = (.ok p', st')) : p'.Vouches loose closed seen := by
  generalize hcall : (Net.accept number).run st.network = answer
  obtain ⟨r, n⟩ := answer
  rw [enterCall, run_network_bind, hcall] at hrun
  dsimp only at hrun
  split at hrun
  · cases hrun
    trivial
  · cases hrun
    rintro ⟨⟩
  · next e =>
    cases hrun
    rintro rfl
    obtain ⟨hmode, hpending⟩ := Net.idle_of_accept_again ht hcall
    exact hnow hmode hpending

/-- What an accept vouches for while it makes calls of the network, after its own access. -/
theorem vouches_working (hp : p.isWorking = true)
    (h : p.Vouches (st.network.mode? l.descriptor.number = some false) closed seen)
    (hl : st.listeners[c]? = some l) (hfd : 0 ≤ l.descriptor.number) (ht : st.network.Tempered)
    (hnow : st.network.mode? l.descriptor.number = some false →
      st.network.pending l.descriptor.number = [] → closed ∨ seen)
    (hrun : (p.step me c signalled).run st = (.ok p', st')) :
    p'.Vouches (st'.network.mode? l.descriptor.number = some false) closed seen := by
  cases p with
  | mode =>
    generalize hcall : (Net.isBlocking l.descriptor.number).run st.network = answer
    obtain ⟨r, n⟩ := answer
    rw [step, run_listener_bind hl, run_network_bind, hcall] at hrun
    dsimp only at hrun
    split at hrun
    · cases hrun
      rintro ⟨⟩
    · cases hrun
      trivial
    · cases hrun
      exact .inr (Net.mode_of_isBlocking hcall).2
  | poll =>
    generalize hcall : (Net.poll l.descriptor.number Native.input).run st.network = answer
    obtain ⟨r, n⟩ := answer
    rw [step, run_listener_bind hl, run_network_bind, hcall] at hrun
    dsimp only at hrun
    split at hrun
    · next e =>
      cases hrun
      intro hnothing
      split at hnothing <;> cases hnothing
    · next events =>
      split at hrun
      · next hnone =>
        cases hrun
        subst hnone
        intro _
        have hpending := Network.pending_of_polled hfd (Net.polled_of_poll hcall)
        exact h.elim .inl fun hmode => hnow hmode hpending
      · cases hrun
        trivial
  | request =>
    rw [step, run_listener_bind hl] at hrun
    exact vouches_enterCall ht hnow hrun
  | inside =>
    rw [step, run_listener_bind hl] at hrun
    dsimp only at hrun
    split at hrun
    · cases hrun
      rintro ⟨⟩
    · rw [run_bind, run_get] at hrun
      dsimp only at hrun
      split at hrun
      · cases hrun
        trivial
      · exact vouches_enterCall ht hnow hrun
  | fault e =>
    rw [step, run_listener_bind hl] at hrun
    cases hrun
    intro hnothing
    unfold classify at hnothing
    split at hnothing
    · cases hnothing
    split at hnothing
    · next hagain => exact h hagain
    split at hnothing <;> cases hnothing
  | _ => cases hp

/-- What an accept vouches for after an access that makes no call of the network. -/
theorem vouches_idle (hp : p.isWorking = false)
    (h : p.Vouches loose (l.core.isOpen = false) seen) (hl : st.listeners[c]? = some l)
    (hrun : (p.step me c signalled).run st = (.ok p', st')) :
    p'.Vouches loose' (l.core.isOpen = false) seen := by
  have hgate {g : Gate} (hg : st.front.gate c = some g) : g.isOpen = l.core.isOpen := by
    rw [Station.gate_front hl] at hg
    cases hg
    rfl
  by_cases hown : ∃ point, p = .own point
  · obtain ⟨point, rfl⟩ := hown
    cases hover : point.isOver with
    | true =>
      obtain ⟨outcome, rfl⟩ := ShutPoint.eq_of_isOver hover
      cases hrun
      trivial
    | false =>
      rw [step_own hover] at hrun
      obtain ⟨point', -, rfl⟩ := of_run_map hrun
      trivial
  · have hstride := stride (fun point hpoint => absurd ⟨point, hpoint⟩ hown) hrun
    generalize st.front = v at hgate hstride
    generalize st'.front = v' at hstride
    cases hstride with
    | turn | askOpen | askBound | tell | owned | askAgain | store | again | own => trivial
    | closed | unbound | drop => rintro ⟨⟩
    | register hp' =>
      rw [hp']
      split <;> trivial
    | shut hg hshut | ceased hg hshut =>
      exact ⟨by rintro ⟨⟩, fun _ => (hgate hg).symm.trans hshut⟩
    | take call hg hp' =>
      rw [hp']
      unfold taking
      split
      · trivial
      · exact ⟨by rintro ⟨⟩, by rintro ⟨⟩⟩
      · trivial
    | work hworking => cases hp.symm.trans hworking
    | leave a hg hp' =>
      rw [hp']
      unfold left
      split
      · exact h
      · exact vouches_tried h
    | give a hp' =>
      rw [hp']
      exact vouches_tried h
    | clear a | exit a | back answer | ended answer => exact h
    | mine a hg hmine hp' =>
      rw [hp']
      cases a <;> first | trivial | rintro ⟨⟩
    | other a hg hother hp' =>
      rw [hp']
      cases a with
      | taken number remote => trivial
      | _ => exact ⟨rfl, h⟩
    | test a hg =>
      intro hnone
      rw [hgate hg] at hnone
      split at hnone
      · next hopen =>
        cases a with
        | unavailable =>
          rcases h.2.1 rfl with hshut | hseen
          · cases hopen.symm.trans hshut
          · exact hseen
        | interrupted => cases hopen.symm.trans (h.2.2 rfl)
        | taken number remote => cases h.1
        | failed e => cases hnone
      · cases hnone
    | @keep r number remote hkept => cases r <;> rintro ⟨⟩

end After
end AcceptPoint

/-! ## An accept that is alone with its channel -/

/-- The call has come to its end. -/
def Agent.isOver : Agent → Bool
  | register _ _ point => point.isOver
  | configure _ point => point.isOver
  | cancel point => point.isOver
  | deregister _ point => point.isOver
  | close _ point => point.isOver
  | accept _ point => point.isOver
  | view _ point => point.isOver

/-- The call is an accept that has answered that nothing is there. -/
def Agent.isEmptyHanded : Agent → Bool
  | accept _ (.ended (.ok none)) => true
  | _ => false

theorem Agent.eq_of_isEmptyHanded {me : ThreadId} {p : AcceptPoint}
    (h : (Agent.accept me p).isEmptyHanded = true) : p = .ended (.ok none) := by
  cases p with
  | ended answer =>
    rcases answer with f | _ | i
    · cases h
    · rfl
    · cases h
  | _ => cases h

theorem Agent.applied?_eq_none {a : Agent} (h : a.begins = true ∨ a.isOver = true) :
    a.applied? = none := by
  rw [Option.eq_none_iff_forall_ne_some]
  intro b happlied
  obtain ⟨q, hchange, happlies⟩ := change_of_applied happlied
  cases a with
  | configure block point =>
    cases hchange
    cases q with
    | enter | ended outcome => cases happlies
    | _ => rcases h with h | h <;> cases h
  | view me point =>
    cases point with
    | loosen timeout point | fasten answer point => rcases h with h | h <;> cases h
    | _ => cases hchange
  | _ => cases hchange

namespace ModeRace

/-- One thing that happens while a call is alone with the channel: the call does an access, and the
network is not told to say that nothing is there; or something happens elsewhere. -/
inductive Alone (i : Nat) : ModeRace → ModeRace → Prop
  | access {r : ModeRace} (signalled : Bool) (h : r.station.network.Tempered) :
      Alone i r (r.play i signalled)
  | elsewhere {r : ModeRace} {station : Station}
      (h : r.station.Undisturbed r.channel r.given station) : Alone i r { r with station }

/-- Meanwhile the descriptor was non-blocking, and no connection was pending. -/
def FoundIdle (i : Nat) (number : FileNumber) (r r' : ModeRace) : Prop :=
  ∃ r₁, ReflTransGen (Alone i) r r₁ ∧ ReflTransGen (Alone i) r₁ r' ∧
    r₁.station.network.mode? number = some false ∧ r₁.station.network.pending number = []

variable {i : Nat} {r₀ r r' : ModeRace} {l₀ l : Listener} {me : ThreadId} {p : AcceptPoint}

theorem FoundIdle.later {number : FileNumber} (h : FoundIdle i number r₀ r) (hr : Alone i r r') :
    FoundIdle i number r₀ r' := by
  obtain ⟨r₁, hbefore, hafter, hidle⟩ := h
  exact ⟨r₁, hbefore, hafter.tail hr, hidle⟩

theorem Kept.blocking_iff (h : r.Kept l) (hquiet : ∀ a ∈ r.agents, a.applied? = none)
    (hgiven : r.given = false) (hmode : r.station.network.mode? l.descriptor.number = some false) :
    l.core.blocking = false ↔ r.stray = false := by
  cases hstray : r.stray with
  | true => simp [h.stray hstray]
  | false =>
    rcases h.mode hgiven hquiet with hagree | ⟨htrue, -⟩
    · have hfree : l.core.blocking = false := (Option.some_inj.mp (hmode.symm.trans hagree)).symm
      simp [hfree]
    · cases hstray.symm.trans htrue

/-- An accept on a channel with which it is alone since `r₀`. -/
structure Accepting (i : Nat) (me : ThreadId) (r₀ : ModeRace) (l₀ : Listener) (r : ModeRace)
    (l : Listener) (p : AcceptPoint) : Prop where
  kept : r.Kept l
  begun : ReflTransGen (Alone i) r₀ r
  place : r.agents[i]? = some (.accept me p)
  quiet : ∀ a ∈ r.agents, a.applied? = none
  number : l.descriptor.number = l₀.descriptor.number
  blocking : l.core.blocking = l₀.core.blocking
  stray : r.stray = r₀.stray
  vouches :
    p.Vouches (r.station.network.mode? l.descriptor.number = some false) (l.core.isOpen = false)
    (FoundIdle i l.descriptor.number r₀ r ∧ (l₀.core.blocking = false ↔ r₀.stray = false))

namespace Accepting

/-- If nothing is there now, the accept has seen it, unless the channel is closed. -/
theorem found (h : Accepting i me r₀ l₀ r l p)
    (hmode : r.station.network.mode? l.descriptor.number = some false)
    (hpending : r.station.network.pending l.descriptor.number = []) :
    l.core.isOpen = false ∨
      FoundIdle i l.descriptor.number r₀ r ∧
      (l₀.core.blocking = false ↔ r₀.stray = false) := by
  cases hgiven : r.given with
  | true => exact .inl (h.kept.given hgiven)
  | false =>
    refine .inr ⟨⟨r, h.begun, .refl, hmode, hpending⟩, ?_⟩
    rw [← h.blocking, ← h.stray]
    exact h.kept.blocking_iff h.quiet hgiven hmode

theorem access (h : Accepting i me r₀ l₀ r l p) (hfd : 0 ≤ l.descriptor.number)
    {signalled : Bool} (ht : r.station.network.Tempered) :
      ∃ l' p', Accepting i me r₀ l₀ (r.play i signalled) l' p' := by
  have hstep : Alone i r (r.play i signalled) := .access signalled ht
  rcases r.play_cases i signalled with hsame | ⟨a, a', st', ha, hwaits, hrun, hplay⟩
  · rw [hsame]
    exact ⟨l, p, h⟩
  · rw [hplay] at hstep ⊢
    cases ha.symm.trans h.place
    obtain ⟨p', st₁, hpoint, hnext⟩ := of_run_bind hrun
    cases hnext
    obtain ⟨l', hm⟩ := h.kept.moves (List.mem_of_getElem? h.place) hrun
    have hvouches : p'.Vouches (st'.network.mode? l.descriptor.number = some false)
        (l.core.isOpen = false)
        (FoundIdle i l.descriptor.number r₀ r ∧
          (l₀.core.blocking = false ↔ r₀.stray = false)) := by
      cases hworking : p.isWorking with
      | true =>
        exact AcceptPoint.vouches_working hworking h.vouches h.kept.listed hfd ht h.found hpoint
      | false => exact AcceptPoint.vouches_idle hworking h.vouches h.kept.listed hpoint
    refine ⟨l', p', ?_⟩
    exact {
      kept := h.kept.moved h.place hwaits hrun hm
      begun := h.begun.tail hstep
      place := Guard.Race.getElem?_set_of_getElem? h.place
      quiet := fun d hd => by
        rcases mem_agents_after hd with rfl | ⟨j, -, hd⟩
        · rfl
        · exact h.quiet d (List.mem_of_getElem? hd)
      number := hm.number.trans h.number
      blocking := (hm.blocking_eq rfl).trans h.blocking
      stray := (Bool.and_true _).trans h.stray
      vouches := by
        rw [hm.number]
        exact hvouches.mono .inr hm.closed (And.imp_left fun hfound => hfound.later hstep) }

theorem elsewhere (h : Accepting i me r₀ l₀ r l p) {st' : Station}
    (hst : r.station.Undisturbed r.channel r.given st') :
    ∃ l' p', Accepting i me r₀ l₀ { r with station := st' } l' p' := by
  obtain ⟨l', hkept, hcore, hdescriptor⟩ := h.kept.elsewhere hst
  have hstep : Alone i r { r with station := st' } := .elsewhere hst
  refine ⟨l', p, ?_⟩
  exact {
    kept := hkept
    begun := h.begun.tail hstep
    place := h.place
    quiet := h.quiet
    number := by rw [hdescriptor, h.number]
    blocking := by rw [hcore, h.blocking]
    stray := h.stray
    vouches := by
      rw [hcore, hdescriptor]
      refine h.vouches.mono (fun hmode => ?_) id (And.imp_left fun hfound => hfound.later hstep)
      cases hgiven : r.given with
      | true => exact .inl (h.kept.given hgiven)
      | false =>
        obtain ⟨_, -, -, -, -, hsame⟩ := hst.channel l h.kept.listed
        exact .inr ((hsame hgiven).1.trans hmode) }

theorem reached (h : Accepting i me r₀ l₀ r l p) (hfd : 0 ≤ l₀.descriptor.number)
    (hr : ReflTransGen (Alone i) r r') : ∃ l' p', Accepting i me r₀ l₀ r' l' p' := by
  induction hr with
  | refl => exact ⟨l, p, h⟩
  | tail _ hstep ih =>
    obtain ⟨l₁, p₁, h₁⟩ := ih
    cases hstep with
    | access signalled ht => exact h₁.access (h₁.number ▸ hfd) ht
    | elsewhere hst => exact h₁.elsewhere hst

end Accepting
end ModeRace

/-! ## Channels that were opened or adopted -/

/-- A channel is made: it is opened over a new socket, or an open file is adopted that no connection
has. `blocks` is the mode of its descriptor. -/
inductive Station.Makes (st : Station) (c : ListenerId) (blocks : Bool) (st' : Station) : Prop
  | opened (hnew : st.network.mode? st.network.nextNumber = none)
      (hothers : ∀ x ∈ st.connections, x.descriptor.number < st.network.nextNumber)
      (hblocks : blocks = true) (h : openListener.run st = (.ok c, st'))
  | adopted (number : FileNumber) (hlow : 0 ≤ number) (hhigh : number < st.network.nextNumber)
      (hothers : ∀ x ∈ st.connections, x.descriptor.number ≠ number)
      (hmode : st.network.mode? number = some blocks)
        (h : (adoptSocket number).run st = (.ok c, st'))

section Makes

variable {st st' : Station} {c : ListenerId}

theorem listed_of_addListener {number : FileNumber} {address : Option Endpoint}
    (h : (addListener number address).run st = (.ok c, st')) :
    ∃ id, st'.listeners[c]? = some { id, descriptor := { number }, localAddress := address } ∧
      st'.network = st.network ∧ st'.connections = st.connections := by
  have hemit (seen : Option ListenerId) (event : Event) (st : Station) :
      ((emit seen event).run st).2.listeners = st.listeners ∧
        ((emit seen event).run st).2.network = st.network ∧
        ((emit seen event).run st).2.connections = st.connections := by
    rw [emit, run_modify]
    split <;> exact ⟨rfl, rfl, rfl⟩
  obtain ⟨id, st₁, hid, h⟩ := of_run_bind h
  cases hid
  obtain ⟨_, st₂, hget, h⟩ := of_run_bind h
  cases hget
  obtain ⟨_, st₃, hset, h⟩ := of_run_bind h
  cases hset
  obtain ⟨_, st₄, htold, h⟩ := of_run_bind h
  obtain ⟨hlisteners, hnetwork, hconnections⟩ := hemit _ _ _
  rw [htold] at hlisteners hnetwork hconnections
  cases h
  refine ⟨st.nextId, ?_, hnetwork, hconnections⟩
  rw [hlisteners]
  exact List.getElem?_concat_length

/-- A new channel says that it blocks, whatever the mode of its descriptor, and is a stray if that
is non-blocking. -/
theorem ModeRace.begins_of_makes {blocks : Bool} (h : st.Makes c blocks st') {agents : List Agent}
    (hagents : ∀ a ∈ agents, a.begins = true) :
    ∃ l, Begins { station := st', channel := c, agents, stray := !blocks } l ∧
      0 ≤ l.descriptor.number := by
  have hbegins {number : FileNumber} {address : Option Endpoint} {st₁ : Station}
      (hmade : (addListener number address).run st₁ = (.ok c, st'))
      (hmode : st₁.network.mode? number = some blocks)
        (hbelow : number < st₁.network.nextNumber)
      (hothers : ∀ x ∈ st₁.connections, x.descriptor.number ≠ number)
        (hlow : 0 ≤ number) :
      ∃ l, Begins { station := st', channel := c, agents, stray := !blocks } l ∧
        0 ≤ l.descriptor.number := by
    obtain ⟨id, hl, hnetwork, hconnections⟩ := listed_of_addListener hmade
    refine ⟨{ id, descriptor := { number }, localAddress := address }, ?_, hlow⟩
    exact {
      listed := hl
      agents := hagents
      given := rfl
      stray := fun _ => rfl
      keyed := by simp
      marked := fun hmarked => absurd hmarked (by decide : ¬ Guard.isClosed 0 = true)
      mode := by
        rw [hnetwork, hmode]
        cases blocks with
        | true => exact .inl rfl
        | false => exact .inr ⟨rfl, rfl⟩
      below := by rwa [hnetwork]
      connections := by rwa [hconnections] }
  cases h with
  | opened hnew hothers hblocks h =>
    subst hblocks
    rw [openListener, run_network_bind, Net.serverSocket, if_pos rfl, Net.newSocket,
      Net.run_consult_bind] at h
    cases hfault : st.network.fault? with
    | some e =>
      rw [hfault] at h
      cases h
    | none =>
      rw [hfault] at h
      refine hbegins h (Network.mode?_addFile_new (n := st.network.consulted) hnew _) ?_ ?_ ?_
      · show (st.network.nextNumber : Int) < ((st.network.nextNumber + 1 : Nat) : Int)
        omega
      · exact fun x hx => Int.ne_of_lt (hothers x hx)
      · show 0 ≤ (st.network.nextNumber : Int)
        omega
  | adopted number hlow hhigh hothers hmode h =>
    have hspares :
        ((Net.localAddress number).run st.network).2.Spares number fun m => m = some blocks :=
      Net.spares_settled.localAddress st.network ⟨hmode, hhigh⟩
    rw [adoptSocket, run_network_bind] at h
    split at h
    · obtain ⟨_, _, -, h⟩ := of_run_bind h
      cases h
    · exact hbegins h hspares.mode hspares.below hothers hlow

/-- A channel was opened, or adopted over a descriptor of either mode, and any calls on it have come
to their ends. Then an accept that runs alone answers that nothing is there. So it found the
descriptor non-blocking and no connection pending; and the flag of the channel said that it does not
block exactly if the channel was no stray: its descriptor blocked when it was made, or a call has
written the flag since. -/
theorem ModeRace.empty_accept_nonblocking_iff {blocks : Bool} (hmade : st.Makes c blocks st')
    {agents : List Agent} (hagents : ∀ a ∈ agents, a.begins = true) {r r' : ModeRace}
    (hr : ReflTransGen Happens
      { station := st', channel := c, agents, stray := !blocks } r)
    (hdone : ∀ a ∈ r.agents, a.begins = true ∨ a.isOver = true) {i : Nat} {me : ThreadId}
    (hi : r.agents[i]? = some (.accept me .turn)) (hr' : ReflTransGen (Alone i) r r')
    (hanswer : r'.agents[i]?.any Agent.isEmptyHanded = true) :
    ∃ l, r.station.listeners[c]? = some l ∧ FoundIdle i l.descriptor.number r r' ∧
      (l.core.blocking = false ↔ r.stray = false) := by
  obtain ⟨l₀, hbegins, hlow⟩ := begins_of_makes hmade hagents
  obtain ⟨hchannel, l, hkept, hnumber⟩ := (Kept.begins hbegins).reached hr
  have hlisted : r.station.listeners[c]? = some l := by
    have hchannel : r.channel = c := hchannel
    rw [← hchannel]
    exact hkept.listed
  have hstart : Accepting i me r l r l .turn := by
    refine ⟨hkept, .refl, hi, ?_, rfl, rfl, rfl, trivial⟩
    exact fun a ha => Agent.applied?_eq_none (hdone a ha)
  obtain ⟨l', p', hend⟩ := hstart.reached (hnumber ▸ hlow) hr'
  rw [hend.place] at hanswer
  have hvouches := hend.vouches
  rw [Agent.eq_of_isEmptyHanded hanswer] at hvouches
  obtain ⟨hfound, hflag⟩ := hvouches rfl
  rw [hend.number] at hfound
  exact ⟨l, hlisted, hfound, hflag⟩

end Makes

namespace ModeRace

theorem alone_plays {r : ModeRace} {i : Nat} (n : Nat)
    (h : ∀ k < n, (r.plays (List.replicate k i)).station.network.Tempered) :
    ReflTransGen (Alone i) r (r.plays (List.replicate n i)) :=
  reaches_replicate n fun k hk => .access false (h k hk)

/-- A station beside a listening socket that does not block. -/
def looseStation : Station where
  network := ((do
    let fd ← Net.serverSocket true
    Net.bind fd .wildcard
    Net.listen fd 5
    Net.setBlocking fd false : Net Unit).run {}).2

/-- The socket is adopted, and an accept is about to begin. -/
def strayRace : ModeRace where
  station := ((adoptSocket 3).run looseStation).2
  channel := 0
  agents := [.accept 0 .turn]
  stray := true

theorem stray_accept_comes_back_empty :
    (strayRace.plays (List.replicate 16 0)).agents[0]?.any Agent.isEmptyHanded = true ∧
      ∃ l, strayRace.station.listeners[0]? = some l ∧ l.core.blocking = true ∧
        FoundIdle 0 l.descriptor.number strayRace (strayRace.plays (List.replicate 16 0)) := by
  have hmade : looseStation.Makes 0 false strayRace.station := by
    refine .adopted 3 (by decide) (by decide +kernel) ?_ (by rfl) (by rfl)
    intro x hx
    cases hx
  have hcalm : ∀ k < 16, (strayRace.plays (List.replicate k 0)).station.network.faults = [] := by
    decide +kernel
  have halone :
      ReflTransGen (Alone 0) strayRace (strayRace.plays (List.replicate 16 0)) := by
    refine alone_plays 16 fun k hk => ?_
    rw [Network.Tempered, hcalm k hk]
    exact List.not_mem_nil
  have hanswer :
      (strayRace.plays (List.replicate 16 0)).agents[0]?.any Agent.isEmptyHanded = true := by
    decide +kernel
  have hagents : ∀ a ∈ strayRace.agents, a.begins = true := by decide
  obtain ⟨l, hl, hfound, hflag⟩ :=
    empty_accept_nonblocking_iff hmade hagents .refl (by decide) rfl halone hanswer
  refine ⟨hanswer, l, hl, ?_, hfound⟩
  rw [← Bool.not_eq_false]
  intro hfree
  cases hflag.mp hfree

end ModeRace
end PolledChannels
