import PolledChannels.Proofs.NetCalls
import PolledChannels.Proofs.SoloCalls

/-!
# Binds that fail

A bind of an open channel asks for its address and the policy, takes a use of the descriptor, and
then makes three calls of the network: it binds the socket, makes it listen and asks for its name.
The channel remembers the address only after the third. So a bind that fails leaves the channel
unbound; but where the first call had been made, the socket keeps its port, and no later bind of the
channel can succeed.
-/

namespace PolledChannels

open Station Network

variable {n : Network} {s : Socket} {address : Endpoint} {r : Except IoError Endpoint} {depth : Int}
  {number : FileNumber}

namespace Network

/-- The number stands for a socket that holds no port. -/
def Unbound (n : Network) (fd : FileNumber) : Prop :=
  ∃ s, n.socket? fd = some s ∧ s.holdsPort = false

/-- The number stands for a socket that holds a port. -/
def HoldsPort (n : Network) (fd : FileNumber) : Prop :=
  ∃ s, n.socket? fd = some s ∧ s.holdsPort = true

variable {fd : FileNumber}

theorem HoldsPort.not_unbound (h : n.HoldsPort fd) : ¬ n.Unbound fd := by
  rintro ⟨s, hs, hfree⟩
  obtain ⟨s', hs', hheld⟩ := h
  cases hs.symm.trans hs'
  rw [hfree] at hheld
  cases hheld

theorem socket?_modifyFile (hs : n.socket? fd = some s) (s' : Socket) :
    (n.modifyFile fd fun f => { f with kind := .socket s' }).socket? fd = some s' := by
  obtain ⟨blocking, hfile⟩ := file?_of_socket? hs
  simp only [socket?, file?_modifyFile, if_true, hfile, Option.map_some]

end Network

namespace Net

variable {n n' : Network} {fd : FileNumber} {s : Socket}

theorem run_bind_socket (hs : n.socket? fd = some s) (hgo : n.fault? = none) (e : Endpoint) :
    (bind fd e).run n =
      (match Network.addressFault? n.host s e with
        | some errno => fail errno
        | none =>
          if s.holdsPort || s.state matches .connected _ _ _ then fail .invalidArgument
          else if e.port = 0 then do
            let port ← pickPort
            setSocket fd { s with address := some (e.withPort port), holdsPort := true }
          else if n.consulted.inUse fd s e then fail .addressInUse
          else setSocket fd { s with address := some e, holdsPort := true, fixedPort := true } :
        Net Unit).run n.consulted := by
  have hs' : n.consulted.socket? fd = some s := hs
  rw [bind, run_consult_bind, hgo]
  exact run_bind_ok (run_socket hs' _)

theorem run_bind_told (e : Endpoint) {f : IoError} (hfault : n.fault? = some f) :
    (bind fd e).run n = (.error f, n.consulted) := by
  rw [bind, run_consult_bind, hfault]

theorem bind_takes_or_fails (hs : n.socket? fd = some s) (e : Endpoint) :
    (∃ f, (bind fd e).run n = (.error f, n.consulted)) ∨
      ∃ n', (bind fd e).run n = (.ok (), n') ∧ n'.HoldsPort fd := by
  have hs' : n.consulted.socket? fd = some s := hs
  cases hfault : n.fault? with
  | some f => exact .inl ⟨f, run_bind_told e hfault⟩
  | none =>
    rw [run_bind_socket hs hfault]
    cases addressFault? n.host s e with
    | some errno => exact .inl ⟨_, rfl⟩
    | none =>
      by_cases hbusy : (s.holdsPort || s.state matches .connected _ _ _) = true
      · exact .inl ⟨_, by rw [if_pos hbusy]; rfl⟩
      rw [if_neg hbusy]
      by_cases hany : e.port = 0
      · let picked : Network := { n.consulted with nextPort := n.consulted.freePort + 1 }
        have hpicked : picked.socket? fd = some s := hs'
        rw [if_pos hany]
        exact .inr ⟨_, rfl, _, socket?_modifyFile hpicked _, rfl⟩
      rw [if_neg hany]
      by_cases htaken : n.consulted.inUse fd s e = true
      · exact .inl ⟨_, by rw [if_pos htaken]; rfl⟩
      · rw [if_neg htaken]
        exact .inr ⟨_, rfl, _, socket?_modifyFile hs' _, rfl⟩

theorem bind_fails_of_holdsPort (h : n.HoldsPort fd) (e : Endpoint) :
    ∃ f, ((bind fd e).run n).1 = .error f := by
  obtain ⟨s, hs, hheld⟩ := h
  cases hfault : n.fault? with
  | some f => exact ⟨f, by rw [run_bind_told e hfault]⟩
  | none =>
    rw [run_bind_socket hs hfault]
    cases addressFault? n.host s e with
    | some errno => exact ⟨_, rfl⟩
    | none =>
      simp only [hheld, Bool.true_or, if_true]
      exact ⟨_, rfl⟩

theorem keeps_holdsPort_consult : Keeps (Network.HoldsPort · fd) consult :=
  keeps_consult fun _ h => h

theorem keeps_holdsPort_listen (backlog : Int) :
    Keeps (Network.HoldsPort · fd) (listen fd backlog) := by
  refine keeps_bind keeps_holdsPort_consult fun _ => ?_
  rintro n ⟨s, hs, hheld⟩
  rw [run_bind_ok (run_socket hs _)]
  split
  · exact ⟨s, hs, hheld⟩
  · exact ⟨_, socket?_modifyFile hs _, hheld⟩
  · rw [if_pos hheld, run_get_bind]
    split
    · exact ⟨s, hs, hheld⟩
    · exact ⟨_, socket?_modifyFile hs _, hheld⟩

theorem keeps_holdsPort_localAddress : Keeps (Network.HoldsPort · fd) (localAddress fd) :=
  keeps_bind keeps_holdsPort_consult fun _ =>
    keeps_bind (keeps_file fd) fun _ => keeps_endpointOf _

end Net

/-! ## Binds of a channel -/

/-- The station with other outcomes ahead of its calls of the network. -/
def Station.facing (st : Station) (faults : List (Option IoError)) : Station :=
  { st with network := { st.network with faults } }

/-- A bind that asks for the address comes to its calls of the network: the address is supported,
the policy lets the channel listen there, and the descriptor was not closed. -/
structure Station.Admits (st : Station) (l : Listener) (requested : Option Endpoint)
    (address : Endpoint) : Prop where
  supported : Listening.address? requested = some address
  allowed : st.provider.checkListen address.port = .ok ()
  live : l.descriptor.isClosed = false

/-- A bind comes to its calls of the network, and the first of them succeeds. -/
def Station.TakesPort (st : Station) (l : Listener) (requested : Option Endpoint) : Prop :=
  ∃ address n, st.Admits l requested address ∧
    (Net.bind l.descriptor.number address).run st.network = (.ok (), n)

namespace Action

variable {st st' left : Station} {c : ListenerId} {l : Listener} {n' : Network} {α : Type}

/-- What a bind tells once the channel has its address. -/
def boundEvent (l : Listener) (bound : Endpoint) (depth : Int) : Event :=
  { eventOf l .bound with
    fd := shownNumber l.descriptor, localAddress := some bound.render,
    detail := some s!"backlog={depth}" }

theorem run_bindable_unbound (hl : st.listeners[c]? = some l) (hopen : l.core.isOpen = true)
    (hfree : l.localAddress = none) (requested : Option Endpoint) :
    (bindable c requested).run st =
      match Listening.address? requested with
      | none => (.error .unsupportedAddress, st)
      | some address =>
        match st.provider.checkListen address.port with
        | .error denial =>
          (.error (.denied denial),
            st.tell c { eventOf l .listenDenied with detail := some denial.message })
        | .ok _ => (.ok address, st) := by
  have hunbound : l.isBound = false := by
    rw [Listener.isBound, hfree]
    rfl
  rw [bindable, run_listener_bind hl, hopen, hunbound]
  simp only [Bool.not_true, Bool.false_eq_true, if_false]
  cases Listening.address? requested with
  | none => rfl
  | some address =>
    simp only [run_bind, run_get]
    cases st.provider.checkListen address.port <;> rfl

theorem taken_ne_last (hlive : l.descriptor.isClosed = false) :
    ¬ l.descriptor.word + Guard.oneUse = Guard.closedBit + Guard.oneUse := by
  intro hsame
  have hclosed : l.descriptor.word = Guard.closedBit := by
    simpa using hsame
  rw [Descriptor.isClosed, hclosed] at hlive
  cases hlive

theorem putWord_taken (hl : st.listeners[c]? = some l) :
    (st.putWord c (l.descriptor.word + Guard.oneUse)).putWord c
      (l.descriptor.word + Guard.oneUse - Guard.oneUse) = st := by
  have hword : l.descriptor.word + Guard.oneUse - Guard.oneUse = l.descriptor.word := by
    simp
  rw [hword, putWord, putWord, modifyListener_modifyListener]
  exact modifyListener_self hl rfl

theorem run_release_taken (hl : st.listeners[c]? = some l) (hlive : l.descriptor.isClosed = false) :
    (release c).run (st.putWord c (l.descriptor.word + Guard.oneUse)) = (.ok (), st) := by
  rw [run_release (listener_putWord hl _), if_neg (taken_ne_last hlive), putWord_taken hl]

theorem tell_putWord (st : Station) (c : ListenerId) (word : UInt64) (event : Event) :
    (st.putWord c word).tell c event = (st.tell c event).putWord c word := by
  have hsighting : (st.putWord c word).sighting c = st.sighting c := by
    cases hl : st.listeners[c]? with
    | none => simp [sighting, putWord, modifyListener, hl]
    | some l =>
      simp only [sighting, listener_putWord hl, hl]
      rfl
  have hprovider : (st.putWord c word).provider = st.provider := rfl
  unfold Station.tell
  rw [hsighting, hprovider]
  cases st.provider.logging <;> rfl

theorem putAddress_putWord (st : Station) (c : ListenerId) (word : UInt64) (bound : Endpoint) :
    ((st.putWord c word).modifyListener c fun l => { l with localAddress := some bound }) =
      (st.modifyListener c fun l => { l with localAddress := some bound }).putWord c word := by
  simp only [putWord, modifyListener_modifyListener]
  rfl

theorem run_network_taken (word : UInt64)
    (hcalls : (establish number address depth).run st.network = (r, n)) :
    (network (establish number address depth)).run (st.putWord c word) =
      (.ok r, ({ st with network := n } : Station).putWord c word) := by
  have hsame : (st.putWord c word).network = st.network := rfl
  rw [run_network, hsame, hcalls]
  rfl

section Establishing

variable {requested : Option Endpoint} {backlog : Int} {address : Endpoint} {n : Network}
  (hl : st.listeners[c]? = some l) (hlive : l.descriptor.isClosed = false)
  (hgo : (bindable c requested).run st = (.ok address, st))

include hl hlive

theorem run_acquire_live :
    (acquire c).run st =
      (.ok l.descriptor.number, st.putWord c (l.descriptor.word + Guard.oneUse)) := by
  have hopen : Guard.isClosed l.descriptor.word = false := hlive
  rw [run_acquire hl, hopen]
  rfl

include hgo

theorem run_bind_fails {e : IoError}
    (hcalls : (establish l.descriptor.number address (Listening.effectiveBacklog backlog)).run
      st.network = (.error e, n)) :
    (bind c requested backlog).run st = (.error (.io e), { st with network := n }) := by
  have hl' : ({ st with network := n } : Station).listeners[c]? = some l := hl
  rw [bind, run_bind_ok hgo, run_bind_ok (run_acquire_live hl hlive),
    run_bind_ok (run_network_taken _ hcalls)]
  exact run_bind_ok (run_release_taken hl' hlive)

theorem run_bind_succeeds {bound : Endpoint}
    (hcalls : (establish l.descriptor.number address (Listening.effectiveBacklog backlog)).run
      st.network = (.ok bound, n)) :
    (bind c requested backlog).run st =
      (.ok (), (({ st with network := n } : Station).modifyListener c fun l =>
        { l with localAddress := some bound }).tell c
          (boundEvent l bound (Listening.effectiveBacklog backlog))) := by
  let named : Station := ({ st with network := n } : Station).modifyListener c fun l =>
    { l with localAddress := some bound }
  let told := named.tell c (boundEvent l bound (Listening.effectiveBacklog backlog))
  have hnamed : named.listeners[c]? = some { l with localAddress := some bound } :=
    listener_modifyListener hl _
  have htold : told.listeners[c]? = some { l with localAddress := some bound } :=
    (congrArg (·[c]?) (named.listeners_tell c _)).trans hnamed
  have hput : (modify fun st => st.modifyListener c fun l => { l with localAddress := some bound } :
        Action Unit).run
        (({ st with network := n } : Station).putWord c (l.descriptor.word + Guard.oneUse)) =
      (.ok (), named.putWord c (l.descriptor.word + Guard.oneUse)) := by
    rw [run_modify, putAddress_putWord]
  have hemit : (emit (some c) (boundEvent l bound (Listening.effectiveBacklog backlog))).run
        (named.putWord c (l.descriptor.word + Guard.oneUse)) =
      (.ok (), told.putWord c (l.descriptor.word + Guard.oneUse)) := by
    rw [run_emit, tell_putWord]
  rw [bind, run_bind_ok hgo, run_bind_ok (run_acquire_live hl hlive),
    run_bind_ok (run_network_taken _ hcalls)]
  refine (run_bind_ok hput).trans ((run_listener_bind (listener_putWord hnamed _) _).trans ?_)
  exact (run_bind_ok hemit).trans
    (run_release_taken (l := { l with localAddress := some bound }) htold hlive)

end Establishing

theorem run_bind_unbound (hl : st.listeners[c]? = some l) (hopen : l.core.isOpen = true)
    (hfree : l.localAddress = none) (requested : Option Endpoint) (backlog : Int) :
    (bind c requested backlog).run st =
      match Listening.address? requested with
      | none => (.error .unsupportedAddress, st)
      | some address =>
        match st.provider.checkListen address.port with
        | .error denial =>
          (.error (.denied denial),
            st.tell c { eventOf l .listenDenied with detail := some denial.message })
        | .ok _ =>
          if l.descriptor.isClosed then (.error (.io .socketClosed), st)
          else
            match (establish l.descriptor.number address (Listening.effectiveBacklog backlog)).run
              st.network with
            | (.error e, n) => (.error (.io e), { st with network := n })
            | (.ok bound, n) =>
              (.ok (), (({ st with network := n } : Station).modifyListener c fun l =>
                { l with localAddress := some bound }).tell c
                  (boundEvent l bound (Listening.effectiveBacklog backlog))) := by
  have hbindable := run_bindable_unbound hl hopen hfree requested
  cases haddress : Listening.address? requested with
  | none =>
    rw [haddress] at hbindable
    rw [bind, run_bind, hbindable]
  | some address =>
    rw [haddress] at hbindable
    cases hpolicy : st.provider.checkListen address.port with
    | error denial =>
      simp only [hpolicy] at hbindable
      rw [bind, run_bind, hbindable]
      simp only [hpolicy]
    | ok _ =>
      simp only [hpolicy] at hbindable ⊢
      cases hlive : l.descriptor.isClosed with
      | true =>
        have hclosed : Guard.isClosed l.descriptor.word = true := hlive
        rw [bind, run_bind_ok hbindable, run_bind, run_acquire hl, hclosed]
        rfl
      | false =>
        generalize hcalls : (establish l.descriptor.number address
          (Listening.effectiveBacklog backlog)).run st.network = r
        obtain ⟨e | bound, n⟩ := r
        · exact run_bind_fails hl hlive hbindable hcalls
        · exact run_bind_succeeds hl hlive hbindable hcalls

theorem tell_changes (st : Station) (c : ListenerId) (event : Event) :
    ∃ reports, st.tell c event = { st with reports } := by
  unfold Station.tell
  split <;> exact ⟨_, rfl⟩

/-- The two stations go through the operation alike: it answers the same and tells the same, and
what it leaves differs only in what was told before. -/
def Alike {α : Type} (a : Action α) (st st' : Station) : Prop :=
  ∃ told, (a.run st).2.reports = st.reports ++ told ∧
    a.run st' = ((a.run st).1, { (a.run st).2 with reports := st'.reports ++ told })

theorem alike_of_same {a : Action α} {r : Except Failure α}
    (reports : List Report) (h : a.run st = (r, left)) (hleft : left.reports = st.reports)
    (h' : a.run { st with reports } = (r, { left with reports })) :
      Alike a st { st with reports } := by
  refine ⟨[], ?_, ?_⟩
  · rw [h, hleft, List.append_nil]
  · rw [h', h, List.append_nil]

theorem alike_of_told {a : Action α} {r : Except Failure α} {event : Event}
    (reports : List Report) (h : a.run st = (r, left.tell c event))
    (hleft : left.reports = st.reports)
    (h' : a.run { st with reports } = (r, Station.tell { left with reports } c event)) :
    Alike a st { st with reports } := by
  have hsighting : sighting { left with reports } c = left.sighting c := rfl
  cases hlogging : left.provider.logging with
  | false =>
    have htell : left.tell c event = left := by
      simp [Station.tell, hlogging]
    have htell' : Station.tell { left with reports } c event = { left with reports } := by
      simp [Station.tell, hlogging]
    rw [htell] at h
    rw [htell'] at h'
    exact alike_of_same reports h hleft h'
  | true =>
    refine ⟨[⟨event, left.sighting c⟩], ?_, ?_⟩
    · rw [h]
      simp [Station.tell, hlogging, hleft]
    · rw [h', h]
      simp only [Station.tell, hlogging, hsighting]
      rfl

theorem alike_bind (hl : st.listeners[c]? = some l) (hopen : l.core.isOpen = true)
    (hfree : l.localAddress = none) (requested : Option Endpoint) (backlog : Int)
    (reports : List Report) : Alike (bind c requested backlog) st { st with reports } := by
  have hrun := run_bind_unbound hl hopen hfree requested backlog
  have hl' : ({ st with reports } : Station).listeners[c]? = some l := hl
  have hrun' := run_bind_unbound hl' hopen hfree requested backlog
  cases haddress : Listening.address? requested with
  | none =>
    simp only [haddress] at hrun hrun'
    exact alike_of_same reports hrun rfl hrun'
  | some address =>
    cases hpolicy : st.provider.checkListen address.port with
    | error denial =>
      simp only [haddress, hpolicy] at hrun hrun'
      exact alike_of_told reports hrun rfl hrun'
    | ok _ =>
      cases hlive : l.descriptor.isClosed with
      | true =>
        simp only [haddress, hpolicy, hlive, if_true] at hrun hrun'
        exact alike_of_same reports hrun rfl hrun'
      | false =>
        simp only [haddress, hpolicy, hlive, Bool.false_eq_true, if_false] at hrun hrun'
        generalize (establish l.descriptor.number address
          (Listening.effectiveBacklog backlog)).run st.network = r at hrun hrun'
        obtain ⟨e | bound, n⟩ := r
        · exact alike_of_same reports hrun (rfl : _ = st.reports) hrun'
        · exact alike_of_told reports hrun rfl hrun'

theorem holdsPort_establish (hs : n.socket? number = some s)
    (hport : ∃ n₁, (Net.bind number address).run n = (.ok (), n₁))
    (hcalls : (establish number address depth).run n = (r, n')) : n'.HoldsPort number := by
  obtain ⟨n₁, hport⟩ := hport
  rcases Net.bind_takes_or_fails hs address with ⟨f, hfail⟩ | ⟨n₂, hbind, hheld⟩
  · rw [hfail] at hport
    cases hport
  · have hrest : (establish number address depth).run n =
        (do Net.listen number depth; Net.localAddress number : Net Endpoint).run n₂ :=
      Net.run_bind_ok hbind
    have hkept :
        ((do Net.listen number depth; Net.localAddress number : Net Endpoint).run n₂).2.HoldsPort
        number :=
      Net.keeps_bind (Net.keeps_holdsPort_listen depth)
        (fun _ => Net.keeps_holdsPort_localAddress) n₂ hheld
    rw [← hrest, hcalls] at hkept
    exact hkept

theorem establish_fails (hs : n.socket? number = some s)
    (hport : ¬ ∃ n₁, (Net.bind number address).run n = (.ok (), n₁))
    (hcalls : (establish number address depth).run n = (r, n')) : n' = n.consulted := by
  rcases Net.bind_takes_or_fails hs address with ⟨f, hfail⟩ | ⟨n₂, hbind, -⟩
  · rw [establish, Net.run_bind, hfail] at hcalls
    exact (congrArg Prod.snd hcalls).symm
  · exact absurd ⟨n₂, hbind⟩ hport

section Failing

variable {s : Socket} (hl : st.listeners[c]? = some l) (hopen : l.core.isOpen = true)
  (hfree : l.localAddress = none)

include hl hopen hfree

theorem bind_fails_of_holdsPort (hheld : st.network.HoldsPort l.descriptor.number)
    (requested : Option Endpoint) (backlog : Int) :
    ∃ f, ((bind c requested backlog).run st).1 = .error f := by
  rw [run_bind_unbound hl hopen hfree]
  cases Listening.address? requested with
  | none => exact ⟨_, rfl⟩
  | some address =>
    dsimp only
    cases st.provider.checkListen address.port with
    | error denial => exact ⟨_, rfl⟩
    | ok _ =>
      dsimp only
      split
      · exact ⟨_, rfl⟩
      obtain ⟨f, hfail⟩ := Net.bind_fails_of_holdsPort hheld address
      generalize hkernel : (Net.bind l.descriptor.number address).run st.network = kernel at hfail
      obtain ⟨e | _, n⟩ := kernel
      · refine ⟨.io e, ?_⟩
        rw [establish, Net.run_bind, hkernel]
      · cases hfail

/-- What a bind that fails leaves behind: nothing but what it told, if it never took a port; and
otherwise a socket with a port. -/
theorem failed_bind_leaves (hs : st.network.socket? l.descriptor.number = some s)
    {requested : Option Endpoint} {backlog : Int} {f : Failure}
    (hbind : (bind c requested backlog).run st = (.error f, st')) :
    (¬ st.TakesPort l requested ∧
      ∃ faults reports, st' = { st with network := { st.network with faults }, reports }) ∨
    (st.TakesPort l requested ∧
      ∃ n, st' = { st with network := n } ∧ n.HoldsPort l.descriptor.number) := by
  rw [run_bind_unbound hl hopen hfree] at hbind
  cases haddress : Listening.address? requested with
  | none =>
    simp only [haddress] at hbind
    cases hbind
    refine .inl ⟨?_, _, _, rfl⟩
    rintro ⟨address, -, hadmits, -⟩
    cases haddress.symm.trans hadmits.supported
  | some address =>
    have honly {address' : Endpoint} (hadmits : st.Admits l requested address') :
        address' = address := by
      cases haddress.symm.trans hadmits.supported
      rfl
    cases hpolicy : st.provider.checkListen address.port with
    | error denial =>
      simp only [haddress, hpolicy] at hbind
      cases hbind
      refine .inl ⟨?_, st.network.faults, tell_changes st c _⟩
      rintro ⟨address', -, hadmits, -⟩
      cases honly hadmits
      cases hpolicy.symm.trans hadmits.allowed
    | ok _ =>
      cases hlive : l.descriptor.isClosed with
      | true =>
        simp only [haddress, hpolicy, hlive, if_true] at hbind
        cases hbind
        refine .inl ⟨?_, _, _, rfl⟩
        rintro ⟨address', -, hadmits, -⟩
        cases hlive.symm.trans hadmits.live
      | false =>
        simp only [haddress, hpolicy, hlive, Bool.false_eq_true, if_false] at hbind
        generalize hcalls : (establish l.descriptor.number address
          (Listening.effectiveBacklog backlog)).run st.network = r at hbind
        obtain ⟨e | bound, n⟩ := r
        · cases hbind
          by_cases hport : ∃ n₁, (Net.bind l.descriptor.number address).run st.network =
              (.ok (), n₁)
          · exact .inr
              ⟨⟨address, hport.choose, ⟨haddress, hpolicy, hlive⟩, hport.choose_spec⟩,
              n, rfl, holdsPort_establish hs hport hcalls⟩
          · refine .inl ⟨?_, st.network.faults.tail, st.reports, ?_⟩
            · rintro ⟨address', n₁, hadmits, hbound⟩
              cases honly hadmits
              exact hport ⟨n₁, hbound⟩
            · rw [establish_fails hs hport hcalls]
              rfl
        · cases hbind

/-- A bind that fails leaves the channel without an address. The kernel's socket has no port
either, and a later bind behaves as if the failed one had not happened, exactly if the failed one
did not come to the kernel's bind or that call failed. Where the kernel's bind succeeded and a
later call failed, the socket keeps its port, and no later bind of the channel succeeds. -/
theorem failed_bind_unbound_iff (hs : st.network.socket? l.descriptor.number = some s)
    (hunbound : s.holdsPort = false) {requested : Option Endpoint} {backlog : Int} {f : Failure}
    (hbind : (bind c requested backlog).run st = (.error f, st')) :
    st'.listeners = st.listeners ∧
      (st'.network.Unbound l.descriptor.number ↔ ¬ st.TakesPort l requested) ∧
      (st'.network.Unbound l.descriptor.number → ∀ faults requested' backlog',
        Alike (bind c requested' backlog') (st.facing faults) (st'.facing faults)) ∧
      (¬ st'.network.Unbound l.descriptor.number → ∀ faults requested' backlog',
        ∃ f', ((bind c requested' backlog').run (st'.facing faults)).1 = .error f') := by
  rcases failed_bind_leaves hl hopen hfree hs hbind with
    ⟨hnever, faults, reports, rfl⟩ | ⟨htakes, n, rfl, hheld⟩
  · have hstill : Network.Unbound { st.network with faults } l.descriptor.number :=
      ⟨s, hs, hunbound⟩
    refine ⟨rfl, iff_of_true hstill hnever, fun _ faults' requested' backlog' => ?_,
      fun hbound => absurd hstill hbound⟩
    have hl' : (st.facing faults').listeners[c]? = some l := hl
    exact alike_bind hl' hopen hfree requested' backlog' reports
  · have hbound : ¬ Network.Unbound n l.descriptor.number := hheld.not_unbound
    refine ⟨rfl, iff_of_false hbound (not_not_intro htakes), fun h => absurd h hbound,
      fun _ faults' requested' backlog' => ?_⟩
    have hl' : (facing { st with network := n } faults').listeners[c]? = some l := hl
    exact bind_fails_of_holdsPort hl' hopen hfree hheld requested' backlog'

end Failing

/-- A new channel whose socket is bound but cannot be made to listen: the bind fails with the error
of that call, the channel has no address, the socket keeps its port, and the same bind fails from
then on, though it would have succeeded on the channel as it was. -/
theorem failed_listen_keeps_port :
    let st := (openListener.run {}).2.facing [none, some (.os .addressInUse)]
    let left := ((bind 0 none 5).run st).2
    ((bind 0 none 5).run st).1 = .error (.io (.os .addressInUse)) ∧
      left.listeners.map Listener.isBound = [false] ∧ ¬ left.network.Unbound 3 ∧
      ((bind 0 none 5).run (st.facing [])).1 = .ok () ∧
      ∃ f, ((bind 0 none 5).run (left.facing [])).1 = .error f := by
  intro st left
  have hl : st.listeners[0]? = some { id := 1, descriptor := { number := 3 } } := rfl
  have hs : st.network.socket? 3 = some { settings := { reuseAddress := true } } := rfl
  have hbind : (bind 0 none 5).run st = (.error (.io (.os .addressInUse)), left) := rfl
  have hleft := failed_bind_unbound_iff hl rfl rfl hs rfl hbind
  have htakes : st.TakesPort { id := 1, descriptor := { number := 3 } } none :=
    ⟨.wildcard, _, ⟨rfl, rfl, rfl⟩, rfl⟩
  have hbound : ¬ left.network.Unbound 3 := fun h => hleft.2.1.1 h htakes
  exact ⟨rfl, rfl, hbound, rfl, hleft.2.2.2 hbound [] none 5⟩

end Action
end PolledChannels
