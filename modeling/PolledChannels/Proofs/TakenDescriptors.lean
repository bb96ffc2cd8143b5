import PolledChannels.Proofs.Handouts

/-!
# Descriptors that an accept takes

Threads accept, close channels and interrupt each other, calls of the kernel fail as they
like, and the policy denies what it likes. In the course of an accept the kernel hands out
one descriptor at most. From then on the accept has it in hand, through its way out of the
region and whatever it finds there. When it answers, the descriptor is that of the
connection it answers with, open and blocking; or the answer is a failure, and the
descriptor has gone back to the kernel. 
What is said of an accept holds as long as the world leaves alone what was handed to it. The others
may have lost theirs, but they still have only what was handed to them, and so nobody parts with a
descriptor of somebody else.
-/

namespace PolledChannels

open PolledChannels.Action Station Network

variable {a : Attempt} {p : AcceptPoint} {number : FileNumber}

/-! ## In whose hands a descriptor is -/

section Custody

/-- The descriptor is the one that was handed out, and the peer is known. If it was spared, it is
open and blocks. -/
structure Station.InHand (st : Station) (spared : Prop) (c : ListenerId) (given : List Gift)
    (number : FileNumber) (remote : Endpoint) : Prop where
  given : ∃ taker, given = [⟨taker, number, some remote⟩]
  opened : spared → st.network.mode? number = some true
  channel : c < st.numbers.length

/-- At most one descriptor was handed out, and it went back to the kernel. -/
structure Station.Disposed (st : Station) (spared : Prop) (given : List Gift) : Prop where
  once : given.length ≤ 1
  freed : spared → ∀ g ∈ given, st.network.mode? g.number = none

/-- What became of the descriptor fits the answer of the accept. -/
def Station.Answered (st : Station) (spared : Prop) (given : List Gift) :
    AcceptAnswer → Prop
  | .ok (some i) => ∃ (g : Gift) (x : Connection), given = [g] ∧ st.connections[i]? = some x ∧
      x.descriptor = { number := g.number } ∧ g.peer = some x.remote ∧ x.blocking = true ∧
      (spared → st.network.mode? g.number = some true)
  | .ok none => given = []
  | .error _ => st.Disposed spared given

/-- What an attempt came to fits what was handed out. -/
def Attempt.Carries (st : Station) (spared : Prop) (c : ListenerId) (given : List Gift) :
    Attempt → Prop
  | taken number remote => st.InHand spared c given number remote
  | failed _ => st.Disposed spared given
  | _ => given = []

/-- Where an accept stands fits what was handed out. -/
def AcceptPoint.Carries (st : Station) (spared : Prop) (c : ListenerId) (given : List Gift) :
    AcceptPoint → Prop
  -- only a peer that cannot be named makes a call fail that has opened a descriptor
  | fault e => st.Disposed spared given ∧ (given ≠ [] → e = Storage.unreadable)
  | leave a | give a | clear a | exit a | hear a => a.Carries st spared c given
  | test a => a.completed = false ∧ a.Carries st spared c given
  | drop number => ∃ taker peer, given = [⟨taker, number, peer⟩]
  | keep number remote => st.InHand spared c given number remote
  | back answer | ended answer => st.Answered spared given answer
  | _ => given = []

variable {st st' : Station} {spared : Prop} {c : ListenerId} {given : List Gift}

theorem Station.disposed_nil : st.Disposed spared [] :=
  ⟨Nat.zero_le 1, fun _ _ hg => absurd hg List.not_mem_nil⟩

theorem Attempt.Carries.disposed (h : a.Carries st spared c given)
    (hnothing : a.completed = false) :
    st.Disposed spared given := by
  cases a with
  | taken number remote => cases hnothing
  | failed e => exact h
  | _ =>
    cases (h : given = [])
    exact disposed_nil

theorem AcceptPoint.Carries.length_le (h : p.Carries st spared c given) : given.length ≤ 1 := by
  have hattempt {a : Attempt} (h : a.Carries st spared c given) : given.length ≤ 1 := by
    cases a with
    | taken number remote =>
      obtain ⟨taker, rfl⟩ := h.given
      exact Nat.le_refl 1
    | _ => exact (h.disposed rfl).once
  have hanswer {answer} (h : st.Answered spared given answer) : given.length ≤ 1 := by
    rcases answer with f | _ | i
    · exact h.once
    · cases (h : given = [])
      exact Nat.zero_le 1
    · obtain ⟨g, x, rfl, -⟩ := h
      exact Nat.le_refl 1
  cases p with
  | fault e => exact h.1.once
  | leave a | give a | clear a | exit a | hear a => exact hattempt h
  | test a => exact hattempt h.2
  | drop number =>
    obtain ⟨taker, peer, rfl⟩ := h
    exact Nat.le_refl 1
  | keep number remote => exact hattempt (a := .taken number remote) h
  | back answer | ended answer => exact hanswer h
  | _ =>
    cases (h : given = [])
    exact Nat.zero_le 1

theorem AcceptPoint.Carries.of_parts (h : p.Carries st spared c given)
    (hparts : p.parts? = some number) : ∃ g ∈ given, g.number = number := by
  cases p with
  | drop number' =>
    cases hparts
    obtain ⟨taker, peer, rfl⟩ := h
    exact ⟨_, List.mem_singleton_self _, rfl⟩
  | keep number' remote =>
    cases hparts
    obtain ⟨taker, rfl⟩ := h.given
    exact ⟨_, List.mem_singleton_self _, rfl⟩
  | _ => cases hparts

/-- The channels have their numbers, the connections are there, and so are the descriptors
if they were spared. -/
structure Station.LeavesAlone (st : Station) (spared : Prop) (given : List Gift) (st' : Station) :
    Prop where
  modes : spared → ∀ g ∈ given, st'.network.mode? g.number = st.network.mode? g.number
  numbers : st'.numbers = st.numbers
  made : st.connections <+: st'.connections

section Leaves

variable (hleaves : st.LeavesAlone spared given st')
include hleaves

theorem Station.InHand.leaves {remote : Endpoint} (h : st.InHand spared c given number remote) :
    st'.InHand spared c given number remote := by
  obtain ⟨taker, hgiven⟩ := h.given
  refine ⟨⟨taker, hgiven⟩, fun hspared => ?_, hleaves.numbers ▸ h.channel⟩
  have hmem : ⟨taker, number, some remote⟩ ∈ given := hgiven ▸ List.mem_singleton_self _
  exact (hleaves.modes hspared _ hmem).trans (h.opened hspared)

theorem Station.Disposed.leaves (h : st.Disposed spared given) : st'.Disposed spared given :=
  ⟨h.once, fun hspared g hg => (hleaves.modes hspared g hg).trans (h.freed hspared g hg)⟩

theorem Station.Answered.leaves {answer : AcceptAnswer}
    (h : st.Answered spared given answer) : st'.Answered spared given answer := by
  rcases answer with f | _ | i
  · exact Station.Disposed.leaves hleaves h
  · exact h
  · obtain ⟨g, x, rfl, hx, hnumber, hpeer, hblocking, hmode⟩ := h
    refine ⟨g, x, rfl, ?_, hnumber, hpeer, hblocking, fun hspared => ?_⟩
    · obtain ⟨rest, hrest⟩ := hleaves.made
      rw [← hrest, List.getElem?_append_left (List.getElem?_eq_some_iff.mp hx).1]
      exact hx
    · exact (hleaves.modes hspared g (List.mem_singleton_self g)).trans (hmode hspared)

theorem Attempt.Carries.leaves (h : a.Carries st spared c given) :
    a.Carries st' spared c given := by
  cases a with
  | taken number remote => exact Station.InHand.leaves hleaves h
  | failed e => exact Station.Disposed.leaves hleaves h
  | _ => exact h

theorem AcceptPoint.Carries.leaves (h : p.Carries st spared c given) :
    p.Carries st' spared c given := by
  cases p with
  | fault e => exact ⟨h.1.leaves hleaves, h.2⟩
  | leave a | give a | clear a | exit a | hear a => exact Attempt.Carries.leaves hleaves h
  | test a => exact ⟨h.1, h.2.leaves hleaves⟩
  | keep number remote => exact Station.InHand.leaves hleaves h
  | back answer | ended answer => exact Station.Answered.leaves hleaves h
  | _ => exact h

end Leaves
end Custody

/-! ## Accesses of an accept -/

namespace AcceptPoint

variable {st st' : Station} {spared : Prop} {c : ListenerId} {given : List Gift} {me : ThreadId}
  {signalled : Bool} {p p' : AcceptPoint}

theorem carries_tried (h : a.Carries st spared c given) : (tried a).Carries st spared c given := by
  rcases tried_cases a with ⟨rfl, htried⟩ | ⟨-, htried⟩
  · exact htried ▸ h
  · exact htried ▸ h

/-- Outside of an attempt an accept takes what it has in hand along. -/
theorem Stride.carries {v v' : Front} (h : Stride me c v p v' p') (hidle : p.isWorking = false)
    (hparts : p.parts? = none) (hcarries : p.Carries st spared c given) :
      p'.Carries st spared c given := by
  have hnothing (hgiven : given = []) : st.Disposed spared given :=
    hgiven ▸ disposed_nil
  cases h with
  | closed | unbound => exact hnothing hcarries
  | register hp' =>
    subst hp'
    split <;> exact hcarries
  | take call hg hp' =>
    rcases taking_cases _ with ⟨-, htaking⟩ | ⟨-, htaking⟩ |
      ⟨-, htaking⟩ <;> rw [hp', htaking]
    · exact hcarries
    · exact hnothing hcarries
    · exact hcarries
  | work h h' => exact absurd (hidle.symm.trans h) Bool.false_ne_true
  | leave a hg hp' =>
    rcases left_cases a _ with ⟨-, hleft⟩ | ⟨-, hleft⟩ <;> rw [hp', hleft]
    · exact hcarries
    · exact carries_tried hcarries
  | give a hp' =>
    rw [hp']
    exact carries_tried hcarries
  | mine a hg h hp' =>
    rcases heard_cases true a with ⟨number, remote, rfl, hheard⟩ |
      ⟨hempty, hheard⟩ <;> rw [hp', hheard]
    · obtain ⟨taker, hgiven⟩ := hcarries.given
      exact ⟨taker, _, hgiven⟩
    · exact Attempt.Carries.disposed hcarries hempty
  | other a hg h hp' =>
    rcases heard_cases false a with ⟨number, remote, rfl, hheard⟩ |
      ⟨hempty, hheard⟩ <;> rw [hp', hheard]
    · exact hcarries
    · exact ⟨hempty, hcarries⟩
  | test a hg =>
    obtain ⟨hempty, hcarries⟩ := hcarries
    split
    · cases a with
      | taken number remote => cases hempty
      | _ => exact hcarries
    · exact hcarries.disposed hempty
  | drop | keep => cases hparts
  | _ => exact hcarries

/-- An attempt that does not get to the call, and what follows a call that failed. -/
theorem carries_work (hworks : p.isWorking = true) (haccepts : p.accepts = false)
    (hcarries : p.Carries st spared c given) (hleaves : st.LeavesAlone spared given st')
    (hrun : (p.step me c signalled).run st = (.ok p', st')) : p'.Carries st' spared c given := by
  have hnothing (hgiven : given = []) : st'.Disposed spared given :=
    hgiven ▸ disposed_nil
  cases p with
  | mode =>
    obtain ⟨l, hl, hrun⟩ := of_run_listener_bind hrun
    rw [run_network_bind] at hrun
    split at hrun <;> cases hrun
    · exact hnothing hcarries
    · exact hcarries
    · exact hcarries
  | poll =>
    obtain ⟨l, hl, hrun⟩ := of_run_listener_bind hrun
    rw [run_network_bind] at hrun
    split at hrun
    · cases hrun
      show (if _ then _ else _ : Attempt).Carries _ spared c given
      split
      · exact hcarries
      · exact hnothing hcarries
    · split at hrun <;> cases hrun <;> exact hcarries
  | fault e =>
    obtain ⟨l, hl, hrun⟩ := of_run_listener_bind hrun
    cases hrun
    obtain ⟨hdisposed, hunreadable⟩ := hcarries
    have hempty {e' : IoError} (he : e = e') (hother : e' ≠ Storage.unreadable) : given = [] :=
      Classical.byContradiction fun hgiven => hother (he.symm.trans (hunreadable hgiven))
    show (classify _ e).Carries st spared c given
    unfold classify
    split
    · next he => exact hempty he (by decide)
    · split
      · next he => exact hempty he (by decide)
      · split <;> exact hdisposed
  | request | inside => cases haccepts
  | _ => cases hworks

/-- A descriptor that is dropped goes back to the kernel. -/
theorem carries_drop (hcarries : (drop number).Carries st spared c given)
    (hrun : ((drop number).step me c signalled).run st = (.ok p', st')) :
    p'.Carries st' spared c given := by
  obtain ⟨taker, peer, rfl⟩ := hcarries
  rw [step, run_network_bind] at hrun
  cases hrun
  refine ⟨Nat.le_refl 1, fun _ g hg => ?_⟩
  cases List.mem_singleton.mp hg
  exact Net.mode?_close number st.network

/-- A descriptor that is kept becomes that of a connection, or goes back to the kernel. -/
theorem carries_keep {remote : Endpoint} (hcarries : (keep number remote).Carries st spared c given)
    (hrun : ((keep number remote).step me c signalled).run st = (.ok p', st')) :
    p'.Carries st' spared c given := by
  obtain ⟨⟨taker, rfl⟩, hopened, hchannel⟩ := hcarries
  rw [step, run_bind_ok (run_observe _ _)] at hrun
  cases hrun
  generalize hkeep : (keepConnection c number remote).run st = out
  obtain ⟨r, st'⟩ := out
  obtain ⟨n, rfl, ⟨f, rfl, hrests | ⟨hnone, -⟩⟩ |
    ⟨x, rfl, hx, hremote, hblocking, hrests⟩⟩ := keepConnection_cases hkeep
  · refine ⟨Nat.le_refl 1, fun _ g hg => ?_⟩
    cases List.mem_singleton.mp hg
    exact hrests.network ▸ Net.mode?_close number _
  · rw [numbers, List.length_map] at hchannel
    exact absurd hchannel (Nat.not_lt.mpr (List.getElem?_eq_none_iff.mp hnone))
  · refine ⟨_, x, rfl, ?_, hx, congrArg some hremote.symm, hblocking, fun hspared => ?_⟩
    · obtain ⟨rest, hrest⟩ := hrests.made
      rw [← hrest]
      simp
    · have hset : ((Net.setBlocking number true).run st.network).2.mode? number = some true := by
        rcases Net.setBlocking_cases (Prod.ext rfl rfl :
          (Net.setBlocking number true).run st.network =
            (_, _)) with ⟨-, hmode⟩ | ⟨-, hmode⟩
        · exact hmode
        · exact hmode.trans (hopened hspared)
      exact hrests.network ▸ (Net.mode?_settled (some true)).localAddress _ hset

/-- A call that opens a descriptor hands it to the accept, with the peer that waited longest. -/
theorem carries_enterCall (hfresh : st.network.Fresh) (hchannel : c < st.numbers.length)
    (hrun : (enterCall number).run st = (.ok p', st')) (taker : Nat) :
    p'.Carries st' spared c
      ((st.network.givenOut st'.network).map (⟨taker, ·, st.network.caller? number⟩)) := by
  rw [enterCall, run_network_bind] at hrun
  generalize hout : (Net.accept number).run st.network = out at hrun
  obtain ⟨r, n'⟩ := out
  have hsame : st.network.givenOut st.network.consulted = [] := givenOut_eq_nil rfl
  rcases Net.accept_cases hout with ⟨e, rfl, rfl, -⟩ | ⟨rfl, rfl⟩ |
    ⟨q, m, hopened, ⟨rfl, rfl⟩ | ⟨rfl, rfl⟩⟩ <;>
    cases hrun
  · show Carries _ spared c ((st.network.givenOut st.network.consulted).map _) _
    rw [hsame]
    exact ⟨disposed_nil, fun h => absurd rfl h⟩
  · show Carries _ spared c ((st.network.givenOut st.network.consulted).map _) _
    rw [hsame]
    rfl
  · obtain ⟨hnext, hmode⟩ := hopened.mode? hfresh
    obtain ⟨rest, hwaits⟩ := hopened.waits
    have hgiven : st.network.givenOut m.consulted = [(st.network.nextNumber : Int)] :=
      givenOut_next hnext
    have hpeer : st.network.caller? number = some q.remoteAddress := by
      rw [caller?, hwaits]
      rfl
    show Carries _ spared c ((st.network.givenOut m.consulted).map _) _
    rw [hgiven, hpeer]
    exact ⟨⟨taker, rfl⟩, fun _ => hmode, hchannel⟩
  · have hgiven : st.network.givenOut (m.consulted.eraseFile st.network.nextNumber) =
        [(st.network.nextNumber : Int)] :=
      givenOut_next (hopened.mode? hfresh).1
    show Carries _ spared c ((st.network.givenOut (m.consulted.eraseFile _)).map _) _
    rw [hgiven]
    refine ⟨⟨Nat.le_refl 1, fun _ g hg => ?_⟩, fun _ => rfl⟩
    cases List.mem_singleton.mp hg
    exact mode?_eraseFile_self

/-- What is handed out to an accept in its next access. -/
theorem carries_accepts (hfresh : st.network.Fresh) (haccepts : p.accepts = true)
    (hcarries : p.Carries st spared c given) (hrun : (p.step me c signalled).run st = (.ok p', st'))
    (taker : Nat) :
    p'.Carries st' spared c (given ++ (st.network.givenOut st'.network).map
      (⟨taker, ·, st.listeners[c]?.bind fun l =>
        st.network.caller? l.descriptor.number⟩)) := by
  have hcall {l : Listener} (hl : st.listeners[c]? = some l)
      (hrun : (enterCall l.descriptor.number).run st = (.ok p', st')) :
      p'.Carries st' spared c ([] ++ (st.network.givenOut st'.network).map
        (⟨taker, ·, st.listeners[c]?.bind fun l =>
          st.network.caller? l.descriptor.number⟩)) := by
    have hchannel : c < st.numbers.length := by
      rw [numbers, List.length_map]
      exact (List.getElem?_eq_some_iff.mp hl).1
    rw [hl]
    exact carries_enterCall hfresh hchannel hrun taker
  cases p with
  | request =>
    cases (hcarries : given = [])
    obtain ⟨l, hl, hrun⟩ := of_run_listener_bind hrun
    exact hcall hl hrun
  | inside =>
    cases (hcarries : given = [])
    obtain ⟨l, hl, hrun⟩ := of_run_listener_bind hrun
    split at hrun
    · cases hrun
      rw [givenOut_eq_nil rfl]
      rfl
    · rw [run_bind_ok (run_get _)] at hrun
      split at hrun
      · cases hrun
        rw [givenOut_eq_nil rfl]
        rfl
      · exact hcall hl hrun
  | _ => cases haccepts

/-- What an accept has in hand after an access is what it had before and what was handed to it. -/
theorem carries_step (hproper : ∀ point, p = .own point → point.isProper)
    (hfresh : st.network.Fresh)
    (hcarries : p.Carries st spared c given) (hrun : (p.step me c signalled).run st = (.ok p', st'))
    (hnext : p.accepts = false → st'.network.nextNumber = st.network.nextNumber)
    (hleaves : p.parts? = none → st.LeavesAlone spared given st') (taker : Nat) :
    p'.Carries st' spared c (given ++ (st.network.givenOut st'.network).map
      (⟨taker, ·, st.listeners[c]?.bind fun l =>
        st.network.caller? l.descriptor.number⟩)) := by
  cases haccepts : p.accepts with
  | true => exact carries_accepts hfresh haccepts hcarries hrun taker
  | false =>
    rw [givenOut_eq_nil (hnext haccepts), List.map_nil, List.append_nil]
    cases hparts : p.parts? with
    | some number =>
      cases p with
      | drop => exact carries_drop hcarries hrun
      | keep => exact carries_keep hcarries hrun
      | _ => cases hparts
    | none =>
      cases hworks : p.isWorking with
      | true => exact carries_work hworks haccepts hcarries (hleaves hparts) hrun
      | false =>
        exact (stride hproper hrun).carries hworks hparts (hcarries.leaves (hleaves hparts))

end AcceptPoint

/-! ## Encounters -/

theorem Party.of_run_accept {a : Party} {signalled : Bool} {me : ThreadId} {c : ListenerId}
    {p' : AcceptPoint}
    {st st' : Station} (h : (a.step signalled).run st = (.ok (.accept me c p'), st')) :
    ∃ p, a = .accept me c p ∧ (p.step me c signalled).run st = (.ok p', st') := by
  cases a with
  | accept me' c' p =>
    obtain ⟨p₁, st₁, hp, h⟩ := of_run_bind h
    cases h
    exact ⟨p, rfl, hp⟩
  | close c' p | interrupt t p =>
    obtain ⟨p₁, st₁, hp, h⟩ := of_run_bind h
    cases h

namespace Encounter

variable {e : Encounter} {k i : Nat} {given : List Gift}

/-- An access changes nothing, or it is that of the party. -/
theorem access_cases (e : Encounter) (j : Nat) (signalled : Bool) :
    e.access j signalled = e ∨ ∃ a b st', e.parties[j]? = some a ∧
      (a.step signalled).run e.station = (.ok b, st') ∧ (e.access j signalled).station = st' ∧
      (e.access j signalled).parties = e.parties.set j b := by
  unfold access
  split
  · exact .inl rfl
  · next a ha =>
    split
    · exact .inl rfl
    · split
      · exact .inl rfl
      · next b st' hrun => exact .inr ⟨a, b, st', ha, hrun, rfl, rfl⟩

/-- Every accept has in hand what was handed to it, no number was handed out twice, and none is that
of a channel. What was handed to the party at the place is spared. -/
structure Held (k i : Nat) (given : List Gift) (e : Encounter) : Prop where
  proper : e.position.Proper
  network : e.station.network.Numbered k
  channels : ∀ number ∈ e.station.numbers, number < k
  bounds : ∀ g ∈ given, k ≤ g.number ∧ g.number < e.station.network.nextNumber
  apart : (given.map Gift.number).Nodup
  carries : ∀ ⦃j : Nat⦄ ⦃me : ThreadId⦄ ⦃c : ListenerId⦄ ⦃p : AcceptPoint⦄,
    e.parties[j]? = some (.accept me c p) →
    p.Carries e.station (j = i) c (given.filter (·.taker = j))

theorem Held.play_proper (h : Held k i given e) (beat : Beat) : (e.play beat).position.Proper := by
  rcases play_cases h.proper beat with hsame | ⟨j, a, b, v, haccess, hmoved⟩
  · exact hsame ▸ h.proper
  · exact hmoved ▸ h.proper.moved haccess

section Access

variable (h : Held k i given e) {j : Nat} {a b : Party} {signalled : Bool} {st' : Station}
    {gifts : List Gift}
include h

theorem Held.leaves (hrun : (a.step signalled).run e.station = (.ok b, st')) (spared : Prop)
    {mine : List Gift} (hmine : ∀ g ∈ mine, g ∈ given)
    (hparts : ∀ g ∈ mine, a.parts? ≠ some g.number) :
    e.station.LeavesAlone spared mine st' := by
  have hrests := Party.goes_on h.network.fresh hrun
  refine ⟨fun _ g hg => ?_, hrests.numbers, hrests.made⟩
  obtain ⟨hlow, hhigh⟩ := h.bounds g (hmine g hg)
  exact Party.mode?_eq hhigh (fun hmem => Int.not_lt.mpr hlow (h.channels _ hmem))
    (hparts g hg) hrun

/-- A party parts with nothing that was handed to another one. -/
theorem Held.parts_apart (ha : e.parties[j]? = some a) {g : Gift} (hg : g ∈ given)
    (hother : g.taker ≠ j) :
    a.parts? ≠ some g.number := by
  intro hparts
  cases a with
  | accept me c p =>
    obtain ⟨g', hg', hnumber⟩ := (h.carries ha).of_parts hparts
    obtain ⟨hmem, htaker⟩ := List.mem_filter.mp hg'
    have hsame : g' = g := List.inj_on_of_nodup_map h.apart hmem hg hnumber
    exact hother (hsame ▸ of_decide_eq_true htaker)
  | _ => cases hparts

/-- What an access hands out is new. -/
theorem Held.bounds_access (hrun : (a.step signalled).run e.station = (.ok b, st'))
    (peer : Option Endpoint)
    (hgifts : gifts = (e.station.network.givenOut st'.network).map (⟨j, ·, peer⟩)) :
    (∀ g ∈ given ++ gifts, k ≤ g.number ∧ g.number < st'.network.nextNumber) ∧
      ((given ++ gifts).map Gift.number).Nodup := by
  have hnumbers : gifts.map Gift.number = e.station.network.givenOut st'.network := by
    rw [hgifts, List.map_map]
    exact List.map_id _
  have hreached : ((e.station.network.nextNumber : Nat) : Int) ≤ (st'.network.nextNumber : Nat) :=
    Int.ofNat_le.mpr (Party.goes_on h.network.fresh hrun).network.reached
  have hnew {g : Gift} (hg : g ∈ gifts) :
      e.station.network.nextNumber ≤ g.number ∧ g.number < st'.network.nextNumber :=
    mem_givenOut (hnumbers ▸ List.mem_map_of_mem hg)
  have hk : (k : Int) ≤ (e.station.network.nextNumber : Nat) := Int.ofNat_le.mpr h.network.reached
  constructor
  · intro g hg
    rcases List.mem_append.mp hg with hg | hg
    · obtain ⟨hlow, hhigh⟩ := h.bounds g hg
      exact ⟨hlow, Int.lt_of_lt_of_le hhigh hreached⟩
    · exact ⟨Int.le_trans hk (hnew hg).1, (hnew hg).2⟩
  · rw [List.map_append]
    refine List.nodup_append.mpr ⟨h.apart, hnumbers ▸ nodup_givenOut, ?_⟩
    intro x hx y hy hxy
    obtain ⟨g, hg, rfl⟩ := List.mem_map.mp hx
    obtain ⟨g', hg', rfl⟩ := List.mem_map.mp hy
    exact Int.not_lt.mpr (hnew hg').1 (hxy ▸ (h.bounds g hg).2)

/-- What the parties have in hand after an access. -/
theorem Held.carries_access (ha : e.parties[j]? = some a)
    (hrun : (a.step signalled).run e.station = (.ok b, st'))
    (hgifts : gifts = (e.station.network.givenOut st'.network).map (⟨j, ·, e.caller? j⟩))
    {j' : Nat}
    {me : ThreadId} {c : ListenerId} (hp : (e.parties.set j b)[j']? = some (.accept me c p)) :
    p.Carries st' (j' = i) c ((given ++ gifts).filter (·.taker = j')) := by
  have htakers (g : Gift) (hg : g ∈ gifts) : g.taker = j := by
    rw [hgifts] at hg
    obtain ⟨number, -, rfl⟩ := List.mem_map.mp hg
    rfl
  rw [List.filter_append]
  by_cases hj : j = j'
  · subst hj
    have hb : b = .accept me c p := by
      rw [Guard.Race.getElem?_set_of_getElem? ha] at hp
      exact Option.some.inj hp
    subst hb
    obtain ⟨q, rfl, hq⟩ := Party.of_run_accept hrun
    have hall : gifts.filter (·.taker = j) = gifts :=
      List.filter_eq_self.mpr fun g hg => decide_eq_true (htakers g hg)
    have hpeer : e.caller? j =
        e.station.listeners[c]?.bind fun l => e.station.network.caller? l.descriptor.number := by
      rw [caller?, ha]
    rw [hall, hgifts, hpeer]
    refine AcceptPoint.carries_step (fun point hpoint => ?_) h.network.fresh (h.carries ha) hq
      (fun haccepts => Party.nextNumber_eq (a := .accept me c q) haccepts hrun) (fun hparts => ?_) j
    · subst hpoint
      exact h.proper ha (.own me point)
    · refine h.leaves hrun _ (fun g hg => (List.mem_filter.mp hg).1) fun g _ => ?_
      show q.parts? ≠ some g.number
      rw [hparts]
      rintro ⟨⟩
  · rw [List.getElem?_set_ne hj] at hp
    have hnone : gifts.filter (·.taker = j') = [] :=
      List.filter_eq_nil_iff.mpr fun g hg htaker =>
        hj ((htakers g hg).symm.trans (of_decide_eq_true htaker))
    rw [hnone, List.append_nil]
    refine (h.carries hp).leaves
      (h.leaves hrun _ (fun g hg => (List.mem_filter.mp hg).1) fun g hg => ?_)
    obtain ⟨hmem, htaker⟩ := List.mem_filter.mp hg
    exact h.parts_apart ha hmem fun htaker' => hj (htaker'.symm.trans (of_decide_eq_true htaker))

end Access

/-- A beat hands out what it hands out, and everybody still has in hand what was handed to them. -/
theorem Held.play (h : Held k i given e) {beat : Beat} (hspared : e.Spared i given beat) :
    Held k i (given ++ e.gifts beat) (e.play beat) := by
  have hproper := h.play_proper beat
  cases beat with
  | access j signalled =>
    rcases e.access_cases j signalled with hsame | ⟨a, b, st', ha, hrun, hstation, hparties⟩
    · have hgifts : e.gifts (.access j signalled) = [] := by
        rw [gifts, hsame, givenOut_eq_nil rfl]
        rfl
      rw [hgifts, List.append_nil, Encounter.play, hsame]
      exact h
    · have hgifts : e.gifts (.access j signalled) =
          (e.station.network.givenOut st'.network).map (⟨j, ·, e.caller? j⟩) := by
        rw [gifts, hstation]
      have hrests := Party.goes_on h.network.fresh hrun
      obtain ⟨hbounds, hapart⟩ := h.bounds_access hrun _ hgifts
      refine ⟨hproper, ?_, ?_, ?_, hapart, ?_⟩ <;>
        simp only [Encounter.play, hstation, hparties]
      · exact ⟨hrests.network.fresh, Nat.le_trans h.network.reached hrests.network.reached⟩
      · exact hrests.numbers ▸ h.channels
      · exact hbounds
      · exact fun _ _ _ _ hp => h.carries_access ha hrun hgifts hp
  | world network =>
    obtain ⟨hfresh, hnext, hmodes⟩ := hspared
    have hreached : ((e.station.network.nextNumber : Nat) : Int) ≤ (network.nextNumber : Nat) :=
      Int.ofNat_le.mpr hnext
    rw [gifts, List.append_nil]
    refine ⟨hproper, ⟨hfresh, Nat.le_trans h.network.reached hnext⟩, h.channels,
      fun g hg => ⟨(h.bounds g hg).1, Int.lt_of_lt_of_le (h.bounds g hg).2 hreached⟩, h.apart,
      fun j me c p hp => ?_⟩
    have hleaves :
        e.station.LeavesAlone (j = i) (given.filter (·.taker = j)) { e.station with network } := by
      refine ⟨fun hj g hg => ?_, rfl, List.prefix_rfl⟩
      obtain ⟨hmem, htaker⟩ := List.mem_filter.mp hg
      exact hmodes g hmem ((of_decide_eq_true htaker).trans hj)
    exact (h.carries hp).leaves hleaves

theorem Held.after (h : Held k i given e) {beats : List Beat}
    (hspared : e.SparedAll i given beats) :
    Held k i (given ++ e.handed beats) (e.after beats) := by
  induction beats generalizing e given with
  | nil => exact (List.append_nil given).symm ▸ h
  | cons beat beats ih =>
    obtain ⟨hfirst, hrest⟩ := hspared
    rw [handed, ← List.append_assoc]
    exact ih (h.play hfirst) hrest

theorem held_start (hnew : ∀ a ∈ e.parties, a.isNew = true) (hfresh : e.station.network.Fresh)
    (hchannels : ∀ number ∈ e.station.numbers, number < e.station.network.nextNumber)
    (i : Nat) :
    Held e.station.network.nextNumber i [] e where
  proper := proper_start hnew
  network := ⟨hfresh, Nat.le_refl _⟩
  channels := hchannels
  bounds _ hg := absurd hg List.not_mem_nil
  apart := List.nodup_nil
  carries j me c p hp := by
    cases AcceptPoint.eq_turn (hnew _ (List.mem_of_getElem? hp))
    rfl

/-- Threads accept on channels, close them and interrupt each other, and calls of the kernel and
the policy answer as they like. Nothing that the kernel hands out to the accepts is handed out
twice. An accept is handed one descriptor at most. Once it answers with a connection, the
descriptor is that of the connection, which is open and blocks and has the address of the peer;
with any failure, the descriptor has gone back to the kernel; and if it answers that nothing is
there, there was none. -/
theorem accepted_descriptor_kept_or_freed (hnew : ∀ a ∈ e.parties, a.isNew = true)
    (hfresh : e.station.network.Fresh)
    (hchannels : ∀ number ∈ e.station.numbers, number < e.station.network.nextNumber)
    {me : ThreadId}
    {c : ListenerId} (hi : e.parties[i]? = some (.accept me c .turn)) {beats : List Beat}
    (hspared : e.SparedAll i [] beats) :
    ((e.handed beats).map Gift.number).Nodup ∧
      ∃ mine, mine = (e.handed beats).filter (·.taker = i) ∧ mine.length ≤ 1 ∧
        ∀ answer, (e.after beats).answer? i = some answer →
          (e.after beats).station.Answered True mine answer := by
  have h := (held_start hnew hfresh hchannels i).after hspared
  rw [List.nil_append] at h
  obtain ⟨p, hp⟩ := accept_after hnew hi beats
  have hcarries := h.carries hp
  rw [eq_self i] at hcarries
  refine ⟨h.apart, _, rfl, hcarries.length_le, fun answer hanswer => ?_⟩
  rw [answer?, hp] at hanswer
  cases p with
  | back | ended =>
    cases hanswer
    exact hcarries
  | _ => cases hanswer

/-- A thread is about to accept, and another to interrupt it. -/
def acceptAndInterrupt : Encounter :=
  ⟨boundStation, [.accept 7 0 .turn, .interrupt 7 .find], []⟩

/-- The thread waits in its accept until somebody connects. It has the connection in hand when the
interrupt closes the channel. -/
def takenThenInterrupted : List Beat :=
  List.replicate 12 (.access 0 false) ++
    .world ((Net.connect (.v4 ⟨127, 0, 0, 1⟩ 0) (.v4 ⟨127, 0, 0, 1⟩ 40687)).run
      boundStation.network).2 ::
      .access 0 false :: List.replicate 21 (.access 1 false) ++ List.replicate 10 (.access 0 false)

theorem interrupted_accept_frees_descriptor :
    acceptAndInterrupt.SparedAll 0 [] takenThenInterrupted ∧
      ∃ e, e = acceptAndInterrupt.after takenThenInterrupted ∧
        acceptAndInterrupt.handed takenThenInterrupted =
          [⟨0, 5, some (.v4 ⟨127, 0, 0, 1⟩ 40688)⟩] ∧
        e.answer? 0 = some (.error .closedByInterrupt) ∧ e.station.network.mode? 5 = none := by
  have hspared : acceptAndInterrupt.SparedAll 0 [] takenThenInterrupted := by decide +kernel
  have hhanded : acceptAndInterrupt.handed takenThenInterrupted =
      [⟨0, 5, some (.v4 ⟨127, 0, 0, 1⟩ 40688)⟩] := by decide +kernel
  have hanswer : (acceptAndInterrupt.after takenThenInterrupted).answer? 0 =
      some (.error .closedByInterrupt) := by decide +kernel
  have hchannels :
      ∀ number ∈ boundStation.numbers, number < boundStation.network.nextNumber := by
    decide +kernel
  obtain ⟨-, mine, hmine, -, hanswered⟩ :=
    accepted_descriptor_kept_or_freed (e := acceptAndInterrupt)
    (by decide) (by decide +kernel) hchannels (i := 0) rfl hspared
  have hmem : ⟨0, 5, some (.v4 ⟨127, 0, 0, 1⟩ 40688)⟩ ∈ mine := by
    rw [hmine, hhanded]
    decide
  generalize he : acceptAndInterrupt.after takenThenInterrupted = e at hanswer hanswered
  have hdisposed : e.station.Disposed True mine := hanswered _ hanswer
  exact ⟨hspared, e, rfl, hhanded, hanswer, hdisposed.freed trivial _ hmem⟩

end Encounter
end PolledChannels
