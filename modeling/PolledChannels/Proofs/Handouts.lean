import PolledChannels.Proofs.FileModes
import PolledChannels.Proofs.Positions

/-!
# What the kernel hands out

The kernel numbers the files that it opens one after the other. The parties of an encounter make
the kernel open files, and whatever number is given out in the course of an access is handed to the
party whose access it was.

The rest of the module is about what accesses leave alone: the numbers of channels, the
connections that were there before, and of the network whatever the calls leave alone that
the access is made of.
-/

namespace PolledChannels

open PolledChannels.Action

namespace Network

variable {n n' : Network}

/-- Every open file has a number that was given out. -/
def Fresh (n : Network) : Prop :=
  ∀ p ∈ n.files, p.1 < n.nextNumber

instance : Decidable n.Fresh :=
  inferInstanceAs (Decidable (∀ p ∈ n.files, p.1 < n.nextNumber))

/-- The numbers that one network has given out and another not yet. -/
def givenOut (n n' : Network) : List FileNumber :=
  (List.range' n.nextNumber (n'.nextNumber - n.nextNumber)).map Int.ofNat

theorem givenOut_eq_nil (h : n'.nextNumber = n.nextNumber) : n.givenOut n' = [] := by
  rw [givenOut, h, Nat.sub_self]
  rfl

theorem givenOut_next (h : n'.nextNumber = n.nextNumber + 1) :
    n.givenOut n' = [(n.nextNumber : Int)] := by
  rw [givenOut, h, Nat.add_sub_cancel_left]
  rfl

theorem mem_givenOut {number : FileNumber} (h : number ∈ n.givenOut n') :
    n.nextNumber ≤ number ∧ number < n'.nextNumber := by
  obtain ⟨m, hm, rfl⟩ := List.mem_map.mp h
  obtain ⟨hlow, hhigh⟩ := List.mem_range'_1.mp hm
  exact ⟨Int.ofNat_le.mpr hlow, Int.ofNat_lt.mpr (by omega)⟩

theorem nodup_givenOut : (n.givenOut n').Nodup :=
  List.Nodup.map (fun _ _ => Int.ofNat.inj) List.nodup_range'

theorem Fresh.mode?_next (h : n.Fresh) : n.mode? n.nextNumber = none := by
  refine Option.map_eq_none_iff.mpr (List.lookup_eq_none_iff.mpr fun p hp => ?_)
  exact bne_iff_ne.mpr (Int.ne_of_gt (h p hp))

/-- The peer of the connection that waits longest at a listening socket. -/
def caller? (n : Network) (fd : FileNumber) : Option Endpoint :=
  (n.pending fd).head?.map Pending.remoteAddress

/-- The numbers below a bound were given out, and so was that of every open file. -/
structure Numbered (k : Nat) (n : Network) : Prop where
  fresh : n.Fresh
  reached : k ≤ n.nextNumber

end Network

namespace Net

variable {k : Nat} {fd : FileNumber} {n : Network}

theorem numbered_modifyFile {f : File → File} (h : n.Numbered k) :
    (n.modifyFile fd f).Numbered k := by
  refine ⟨fun p hp => ?_, h.reached⟩
  obtain ⟨q, hq, rfl⟩ := List.mem_map.mp hp
  have hbelow := h.fresh q hq
  split <;> exact hbelow

theorem numbered_eraseFile (h : n.Numbered k) : (n.eraseFile fd).Numbered k :=
  ⟨fun p hp => h.fresh p (List.mem_filter.mp hp).1, h.reached⟩

theorem numbered_addFile (file : File) (h : n.Numbered k) : (n.addFile file).1.Numbered k := by
  refine ⟨fun p hp => ?_, Nat.le_succ_of_le h.reached⟩
  have hnext : ((n.nextNumber : Nat) : Int) < ((n.nextNumber + 1 : Nat) : Int) := by omega
  rcases List.mem_append.mp hp with hp | hp
  · exact Int.lt_trans (h.fresh p hp) hnext
  · cases List.mem_singleton.mp hp
    exact hnext

theorem Opened.mode? {p : Pending} {m : Network} (h : Opened fd p n m) (hfresh : n.Fresh) :
    m.nextNumber = n.nextNumber + 1 ∧ m.mode? n.nextNumber = some true := by
  obtain ⟨f, file, hf, hblocking, rfl⟩ := h.opened
  have hnew : (n.consulted.modifyFile fd f).mode? n.nextNumber = none :=
    (Network.mode?_modifyFile hf).trans hfresh.mode?_next
  exact ⟨rfl, hblocking ▸ Network.mode?_addFile_new hnew file⟩

theorem numbered_settled : Settled (Network.Numbered k) where
  consulted h := ⟨h.fresh, h.reached⟩
  files _ h := numbered_modifyFile h
  links _ h := ⟨h.fresh, h.reached⟩
  pipes _ h := ⟨h.fresh, h.reached⟩

theorem numbered_accept : Keeps (Network.Numbered k) (accept fd) :=
  numbered_settled.accept numbered_addFile fun file h =>
    numbered_eraseFile (numbered_settled.consulted (numbered_addFile file h))

end Net

/-! ## Who is handed what -/

/-- A number that the kernel gave out to the party at a place, and the peer of the connection that
waited longest at the channel then. -/
structure Gift where
  taker : Nat
  number : FileNumber
  peer : Option Endpoint
  deriving DecidableEq, Repr

namespace Encounter

/-- The peer of the connection that waits longest at the channel on which the party
at a place accepts. -/
def caller? (e : Encounter) (i : Nat) : Option Endpoint :=
  match e.parties[i]? with
  | some (.accept _ c _) =>
    e.station.listeners[c]?.bind fun l => e.station.network.caller? l.descriptor.number
  | _ => none

/-- What the kernel hands out in a beat. -/
def gifts (e : Encounter) : Beat → List Gift
  | .access i signalled =>
    (e.station.network.givenOut (e.access i signalled).station.network).map
      (⟨i, ·, e.caller? i⟩)
  | .world _ => []

/-- What the kernel hands out in the course of the beats. -/
def handed (e : Encounter) : List Beat → List Gift
  | [] => []
  | beat :: beats => e.gifts beat ++ (e.play beat).handed beats

/-- The world goes on giving out numbers, and leaves alone what was handed to the party at a
place. -/
def Spared (e : Encounter) (i : Nat) (given : List Gift) : Beat → Prop
  | .access _ _ => True
  | .world network => network.Fresh ∧ e.station.network.nextNumber ≤ network.nextNumber ∧
      ∀ g ∈ given, g.taker = i → network.mode? g.number = e.station.network.mode? g.number

/-- So it is in all of the beats. -/
def SparedAll (e : Encounter) (i : Nat) (given : List Gift) : List Beat → Prop
  | [] => True
  | beat :: beats =>
    e.Spared i given beat ∧ (e.play beat).SparedAll i (given ++ e.gifts beat) beats

instance (e : Encounter) (i : Nat) (given : List Gift) :
    (beat : Beat) → Decidable (e.Spared i given beat)
  | .access _ _ => isTrue trivial
  | .world _ => inferInstanceAs (Decidable (_ ∧ _ ∧ ∀ g ∈ given, g.taker = i → _))

instance decidableSparedAll (e : Encounter) (i : Nat) (given : List Gift) :
    (beats : List Beat) → Decidable (e.SparedAll i given beats)
  | [] => isTrue trivial
  | beat :: beats =>
    have := decidableSparedAll (e.play beat) i (given ++ e.gifts beat) beats
    inferInstanceAs (Decidable (_ ∧ _))

end Encounter

/-! ## What accesses leave alone -/

def Station.numbers (st : Station) : List FileNumber :=
  st.listeners.map fun l => l.descriptor.number

variable {f : Listener → Listener}

theorem Station.numbers_modifyListener (st : Station) (c : ListenerId)
    (hf : ∀ l, (f l).descriptor.number = l.descriptor.number) :
    (st.modifyListener c f).numbers = st.numbers :=
  map_modify_same st.listeners c hf

/-- The network is so, the channels have these numbers, and these connections were made first. -/
structure Station.Rests (Q : Network → Prop) (numbers : List FileNumber) (made : List Connection)
    (st : Station) : Prop where
  network : Q st.network
  numbers : st.numbers = numbers
  made : made <+: st.connections

section Rests

variable {Q : Network → Prop} {numbers : List FileNumber} {made : List Connection}

theorem rests_same {f : Station → Station}
    (hf : ∀ st, ((f st).network, (f st).listeners, (f st).connections) =
      (st.network, st.listeners, st.connections)) :
    Keeps (Station.Rests Q numbers made) (modify f : Action Unit).run := by
  intro st h
  obtain ⟨hnetwork, hrest⟩ := Prod.mk.inj (hf st)
  obtain ⟨hlisteners, hconnections⟩ := Prod.mk.inj hrest
  exact ⟨hnetwork.symm ▸ h.network, (congrArg _ hlisteners).trans h.numbers,
    hconnections.symm ▸ h.made⟩

theorem rests_network {α : Type} {a : Net α} (ha : Net.Keeps Q a) :
    Keeps (Station.Rests Q numbers made) (network a).run :=
  fun st h => ⟨ha st.network h.network, h.numbers, h.made⟩

theorem rests_emit (seen : Option ListenerId) (event : Event) :
    Keeps (Station.Rests Q numbers made) (emit seen event).run := by
  refine rests_same fun st => ?_
  split <;> rfl

theorem rests_listener (hf : ∀ l, (f l).descriptor.number = l.descriptor.number)
    (c : ListenerId) :
    Keeps (Station.Rests Q numbers made)
      (modify fun st => st.modifyListener c f : Action Unit).run :=
  fun st h => ⟨h.network, (st.numbers_modifyListener c hf).trans h.numbers, h.made⟩

theorem rests_modify (hf : KeepsSocket f) (c : ListenerId) :
    Keeps (Station.Rests Q numbers made)
      (modify fun st => st.modifyListener c f : Action Unit).run :=
  rests_listener (fun l => by rw [(hf l).1]) c

variable (hQ : Net.Settled Q)
include hQ

theorem rests_keptByAccepting (c : ListenerId) :
    KeptByAccepting c (Station.Rests Q numbers made) where
  touch hf := rests_modify hf c
  threads threads := rests_same (f := fun st => { st with threads }) fun _ => rfl
  invalidate _ := rests_same fun st => by
    unfold Station.modifyKey
    split <;> rfl
  emit := rests_emit (some c)
  selectors _ _ := rests_same fun _ => rfl
  slots _ h := ⟨h.network, h.numbers, h.made⟩
  isBlocking _ := rests_network hQ.isBlocking
  poll _ := rests_network (hQ.poll _)

theorem rests_applyEffect {number : FileNumber} (hclose : Net.Keeps Q (Net.close number))
    (effect : Option GuardEffect) :
      Keeps (Station.Rests Q numbers made) (applyEffect number effect).run := by
  cases effect with
  | none => exact keeps_pure _
  | some effect =>
    cases effect with
    | release => exact rests_network hclose
    | shutDown => exact keeps_bind (rests_network (hQ.shutdown 2)) fun _ => keeps_pure _

theorem rests_accessDescriptor (hclose : ∀ number ∈ numbers, Net.Keeps Q (Net.close number))
    (c : ListenerId) (call : Guard.Call) :
    Keeps (Station.Rests Q numbers made) (accessDescriptor c call).run := by
  refine keeps_listener_bind fun l st hl h => ?_
  have hmem : l.descriptor.number ∈ numbers := by
    rw [← h.numbers]
    exact List.mem_map.mpr ⟨l, List.mem_of_getElem? hl, rfl⟩
  refine keeps_bind (rests_listener ?_ c) (fun _ =>
    keeps_bind (rests_applyEffect hQ (hclose _ hmem) _) fun _ => keeps_pure _) st h
  exact fun _ => rfl

end Rests

/-! ## What becomes of a connection -/

section Keeping

variable {c : ListenerId} {number : FileNumber} {remote : Endpoint} {st st' : Station}

theorem exists_run_emit (seen : Option ListenerId) (event : Event) (st : Station) :
    ∃ reports, (emit seen event).run st = (.ok (), { st with reports }) := by
  unfold emit
  rw [run_modify]
  split
  · exact ⟨_, rfl⟩
  · exact ⟨st.reports, rfl⟩

theorem rests_closeConnection {before : List Connection} {x : Connection}
    (hx : x.descriptor = { number }) (hst : st.connections = before ++ [x]) :
    ((closeConnection before.length).run st).2.Rests (· = ((Net.close number).run st.network).2)
      st.numbers before := by
  have hplace : st.connections[before.length]? = some x := by simp [hst]
  have hmodify (f : Connection → Connection) :
      before <+: st.connections.modify before.length f := by
    simp [hst, List.modify_eq_take_cons_drop]
  have heffect : ({ number } : Descriptor).close.2 = some .release := by
    simp only [Descriptor.close, Descriptor.alone]
    decide
  have hlive : ({ number } : Descriptor).isClosed = false := by
    show Guard.isClosed 0 = false
    decide
  have hclose : (closeConnectionDescriptor before.length).run st =
      (.ok ((Net.close number).run st.network).1, { st.modifyConnection before.length
        (fun x' => { x' with descriptor := x.descriptor.close.1 }) with
        network := ((Net.close number).run st.network).2 }) := by
    rw [closeConnectionDescriptor, run_bind, run_get]
    dsimp only
    rw [hplace]
    dsimp only
    rw [hx, heffect]
    rfl
  rw [closeConnection, run_bind, run_get]
  dsimp only
  rw [hplace]
  dsimp only
  rw [hx, hlive, if_neg Bool.false_ne_true, run_bind_ok hclose]
  refine keeps_bind (rests_emit _ _) (fun _ => ?_) _ ⟨rfl, rfl, hmodify _⟩
  cases ((Net.close number).run st.network).1 with
  | ok u => exact keeps_pure _
  | error e => exact keeps_throw _

/-- A connection is kept, or its number goes back to the kernel. -/
theorem keepConnection_cases {r : Except Failure ConnectionId}
    (h : (keepConnection c number remote).run st = (r, st')) :
    ∃ n, n = ((Net.setBlocking number true).run st.network).2 ∧
      ((∃ f, r = .error f ∧
          (st'.Rests (· = ((Net.close number).run n).2) st.numbers st.connections ∨
            st.listeners[c]? = none ∧ st'.Rests (· = n) st.numbers st.connections)) ∨
        ∃ x : Connection, r = .ok st.connections.length ∧ x.descriptor = { number } ∧
        x.remote = remote ∧
          x.blocking = true ∧
          st'.Rests (· = ((Net.localAddress number).run n).2) st.numbers
            (st.connections ++ [x])) := by
  refine ⟨_, rfl, ?_⟩
  rw [keepConnection, run_network_bind] at h
  generalize Net.setBlocking number true = call at h ⊢
  generalize hn : (call.run st.network).2 = n at h ⊢
  cases hset : (call.run st.network).1 with
  | error e =>
    rw [hset] at h
    cases h
    exact .inl ⟨_, rfl, .inl ⟨rfl, rfl, List.prefix_rfl⟩⟩
  | ok u =>
    rw [hset] at h
    cases hl : st.listeners[c]? with
    | none =>
      have hnone : ({ st with network := n } : Station).listeners[c]? = none := hl
      rw [run_listener_bind_none hnone] at h
      cases h
      exact .inl ⟨_, rfl, .inr ⟨rfl, rfl, rfl, List.prefix_rfl⟩⟩
    | some l =>
      have hsome : ({ st with network := n } : Station).listeners[c]? = some l := hl
      let x : Connection := { id := st.nextId, descriptor := { number }, remote }
      let st₁ : Station :=
        { st with network := n, nextId := st.nextId + 1, connections := st.connections ++ [x] }
      have hadd : (addConnection number remote).run { st with network := n } =
        (.ok st.connections.length, st₁) := rfl
      rw [run_listener_bind hsome, run_bind_ok hadd, run_bind_ok (run_get _)] at h
      split at h
      · obtain ⟨reports, hemit⟩ := exists_run_emit (some c) _ st₁
        rw [run_bind_ok hemit, run_bind_ok (run_observe _ _)] at h
        cases h
        have hmade : ({ st₁ with reports } : Station).connections = st.connections ++ [x] := rfl
        exact .inl ⟨_, rfl, .inl (rests_closeConnection rfl hmade)⟩
      · obtain ⟨reports, hemit⟩ := exists_run_emit (some c) _
          { st₁ with network := ((Net.localAddress number).run n).2 }
        rw [run_network_bind, run_bind_ok hemit] at h
        cases h
        exact .inr ⟨x, rfl, rfl, rfl, rfl, rfl, rfl, List.prefix_rfl⟩

theorem rests_keepConnection {Q : Network → Prop} {numbers : List FileNumber}
    {made : List Connection} (hQ : Net.Settled Q) (hclose : Net.Keeps Q (Net.close number))
    (hset : Net.Keeps Q (Net.setBlocking number true)) (c : ListenerId) (remote : Endpoint) :
    Keeps (Station.Rests Q numbers made) (keepConnection c number remote).run := by
  intro st h
  have hn := hset st.network h.network
  obtain ⟨n, rfl, ⟨f, -, hrests | ⟨-, hrests⟩⟩ | ⟨x, -, -, -, -, hrests⟩⟩ :=
    keepConnection_cases (Prod.ext rfl rfl : (keepConnection c number remote).run st = (_, _))
  · exact ⟨hrests.network ▸ hclose _ hn, hrests.numbers.trans h.numbers,
      h.made.trans hrests.made⟩
  · exact ⟨hrests.network ▸ hn, hrests.numbers.trans h.numbers, h.made.trans hrests.made⟩
  · exact ⟨hrests.network ▸ hQ.localAddress _ hn, hrests.numbers.trans h.numbers,
      (h.made.trans (List.prefix_append _ _)).trans hrests.made⟩

end Keeping

/-! ## Parties -/

/-- The descriptor that an accept parts with in its next access. -/
def AcceptPoint.parts? : AcceptPoint → Option FileNumber
  | drop number | keep number _ => some number
  | _ => none

namespace Party

def parts? : Party → Option FileNumber
  | accept _ _ point => point.parts?
  | _ => none

/-- The next access may call accept. -/
def accepts : Party → Bool
  | accept _ _ point => point.accepts
  | _ => false

variable {a b : Party} {signalled : Bool} {st st' : Station}

/-- An access of a party keeps what the calls keep that it is made of. -/
theorem rests_step {Q : Network → Prop} {made : List Connection} (hQ : Net.Settled Q)
    (hclose : ∀ number ∈ st.numbers, Net.Keeps Q (Net.close number))
    (haccept : a.accepts = true → ∀ number, Net.Keeps Q (Net.accept number))
    (htaken : ∀ number, a.parts? = some number →
      Net.Keeps Q (Net.close number) ∧ Net.Keeps Q (Net.setBlocking number true))
      (signalled : Bool) :
    Keeps (Station.Rests Q st.numbers made) (a.step signalled).run := by
  have hw (c : ListenerId) : KeptByAccepting c (Station.Rests Q st.numbers made) :=
    rests_keptByAccepting hQ c
  have hcall (c : ListenerId) (call : Guard.Call) :
      Keeps (Station.Rests Q st.numbers made) (accessDescriptor c call).run :=
    rests_accessDescriptor hQ hclose c call
  have hshut (c : ListenerId) {target : Option ThreadId} {p : ShutPoint} :
      Keeps (Station.Rests Q st.numbers made) (p.step c target).run :=
    ShutPoint.keeps_step (hw c).toKeptByClosing (fun call _ => hcall c call) (hw c).emit
      (hw c).selectors
  cases a with
  | accept me c p =>
    refine keeps_bind
      (AcceptPoint.keeps_step (hw c).keptByOpenAccept me signalled (fun _ _ => hshut c)
      (fun call _ => hcall c call) (fun haccepts number => rests_network (haccept haccepts number))
      (fun number hp => ?_) fun number remote hp => ?_) fun _ => keeps_pure _
    · subst hp
      exact rests_network (htaken number rfl).1
    · subst hp
      exact rests_keepConnection hQ (htaken number rfl).1 (htaken number rfl).2 c remote
  | close c p => exact keeps_bind (hshut c) fun _ => keeps_pure _
  | interrupt t p =>
    exact keeps_bind (InterruptPoint.keeps_step hw t hcall) fun _ => keeps_pure _

/-- After an access the channels have their numbers, the connections are there, and the network has
given out at least as many numbers. -/
theorem goes_on (hfresh : st.network.Fresh) (hrun : (a.step signalled).run st = (.ok b, st')) :
    st'.Rests (Network.Numbered st.network.nextNumber) st.numbers st.connections := by
  have hclose (number : FileNumber) :
      Net.Keeps (Network.Numbered st.network.nextNumber) (Net.close number) :=
    Net.numbered_settled.close Net.numbered_eraseFile
  have hkeeps :
      Keeps (Station.Rests (Network.Numbered st.network.nextNumber) st.numbers st.connections)
      (a.step signalled).run :=
    rests_step Net.numbered_settled (fun number _ => hclose number) (fun _ _ => Net.numbered_accept)
      (fun number _ =>
        ⟨hclose number, Net.numbered_settled.setBlocking Net.numbered_modifyFile⟩) signalled
  have hrests := hkeeps st ⟨⟨hfresh, Nat.le_refl _⟩, rfl, List.prefix_rfl⟩
  rwa [hrun] at hrests

theorem nextNumber_eq (haccepts : a.accepts = false)
    (hrun : (a.step signalled).run st = (.ok b, st')) :
    st'.network.nextNumber = st.network.nextNumber := by
  have hQ : Net.Settled fun n => n.nextNumber = st.network.nextNumber :=
    ⟨fun h => h, fun _ h => h, fun _ h => h, fun _ h => h⟩
  have hkeeps : Keeps (Station.Rests _ st.numbers st.connections) (a.step signalled).run :=
    rests_step hQ (fun _ _ => hQ.close fun h => h)
      (fun haccept => absurd (haccepts.symm.trans haccept) Bool.false_ne_true)
      (fun _ _ => ⟨hQ.close fun h => h, hQ.setBlocking fun h => h⟩) signalled
  have hrests := hkeeps st ⟨rfl, rfl, List.prefix_rfl⟩
  rw [hrun] at hrests
  exact hrests.network

/-- An access leaves a descriptor alone that is neither that of a channel nor one to part with. -/
theorem mode?_eq {fd : FileNumber} (hbelow : fd < st.network.nextNumber)
    (hchannels : fd ∉ st.numbers)
    (hparts : a.parts? ≠ some fd) (hrun : (a.step signalled).run st = (.ok b, st')) :
    st'.network.mode? fd = st.network.mode? fd := by
  have hkeeps :
      Keeps (Station.Rests (Network.Spares fd (· = st.network.mode? fd)) st.numbers st.connections)
      (a.step signalled).run := by
    refine rests_step Net.spares_settled (fun number hmem => Net.spares_close ?_)
      (fun _ _ => Net.spares_accept) (fun number htaken => ?_) signalled
    · exact fun h => hchannels (h ▸ hmem)
    · have hne : number ≠ fd := fun h => hparts (h ▸ htaken)
      exact ⟨Net.spares_close hne, Net.spares_setBlocking fun h => absurd h hne⟩
  have hrests := hkeeps st ⟨⟨rfl, hbelow⟩, rfl, List.prefix_rfl⟩
  rw [hrun] at hrests
  exact hrests.network.mode

end Party
end PolledChannels
