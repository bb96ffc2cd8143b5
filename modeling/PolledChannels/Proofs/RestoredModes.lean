import PolledChannels.Proofs.EmptyAccepts
import PolledChannels.Proofs.LostConnections

/-!
# Accepts with a timeout put the mode back

An accept through the blocking view that has a timeout makes the channel non-blocking, and
makes it block again whatever its attempts and its waits come to. If nobody else is at work on
the channel and the kernel sets the mode when it is asked to, then the channel is closed at
the end, or it blocks, its descriptor blocks, and its address, its keys, its state and its
timeout are what they were.

Nothing else that the accept does shows in the profile of the channel, and neither change of
the mode meets an obstacle: the channel is open, it lists no valid key because it blocks,
and the mode can be set.
-/

namespace PolledChannels

open PolledChannels.Action Station Relation

/-! ## What an accept leaves alone -/

/-- What an application set up of a channel. -/
structure Profile where
  isOpen : Bool
  alive : Bool
  keys : List KeyId
  lifecycle : Lifecycle
  localAddress : Option Endpoint
  timeout : Option UInt32

def Listener.profile (l : Listener) : Profile :=
  ⟨l.core.isOpen, l.alive, l.core.keys, l.lifecycle, l.localAddress, l.timeout⟩

/-- The profile of a channel, and the keys. -/
def Station.profile (c : ListenerId) (st : Station) : Option Profile × List Key :=
  (st.listeners[c]?.map Listener.profile, st.keys)

section Profiles

variable {c : ListenerId} {st st' : Station}

theorem Station.profile_modifyListener (st : Station) {f : Listener → Listener}
    (hf : ∀ l, (f l).profile = l.profile) : (st.modifyListener c f).profile c = st.profile c := by
  refine Prod.ext ?_ rfl
  simp [profile, modifyListener, Function.comp_def, hf]

theorem profile_hidesEvents : HidesEvents (Station.profile c) where
  world _ _ := rfl
  connections _ _ _ _ := rfl
  reports _ _ := rfl
  connected _ _ _ := rfl

theorem frames_profile_accessDescriptor (call : Guard.Call) :
    Frames (Station.profile c) (accessDescriptor c call) :=
  frames_bind (frames_listener c) fun _ =>
    frames_bind (frames_modify fun st => st.profile_modifyListener fun _ => rfl) fun _ =>
      frames_bind (profile_hidesEvents.applyEffect _ _) fun _ => frames_pure _

theorem profile_keptByOpenAccept (x : Option Profile × List Key) :
    KeptByOpenAccept c fun st => st.profile c = x where
  touch hf := by
    refine frames_modify (fun st => st.profile_modifyListener fun l => ?_) x
    obtain ⟨turn, acceptor, interruptedBy, h⟩ := hf l
    rw [h]
    rfl
  emit event := profile_hidesEvents.emit _ event x
  slots _ h := h
  isBlocking _ := profile_hidesEvents.network _ x
  poll _ := profile_hidesEvents.network _ x

theorem ModePoint.frames_profile (block : Bool) (p : ModePoint) :
    Frames (Station.profile c) (p.step c block) := by
  refine fun x => keeps_step (fun call _ => frames_profile_accessDescriptor call x)
    (fun _ _ => profile_hidesEvents.network _ x)
    fun _ => frames_modify (fun st => st.profile_modifyListener fun l => ?_) x
  rfl

/-- Unless it closes the channel, no access of an accept shows in the profile. -/
theorem AcceptPoint.frames_profile {p : AcceptPoint} (hp : ∀ point, p ≠ .own point)
    (me : ThreadId) (signalled : Bool) : Frames (Station.profile c) (p.step me c signalled) :=
  fun x => keeps_step (profile_keptByOpenAccept x) me signalled
    (fun point hown => absurd hown (hp point))
    (fun call _ => frames_profile_accessDescriptor call x)
      (fun _ _ => profile_hidesEvents.network _ x)
    (fun _ _ => profile_hidesEvents.network _ x) fun number remote _ =>
      profile_hidesEvents.keepConnection c number remote x

/-- Nor does any access of an accept through the view. -/
theorem ViewPoint.frames_profile {p : ViewPoint}
    (hp : ∀ caller point, p ≠ .accept caller (.own point))
    (me : ThreadId) (signalled : Bool) : Frames (Station.profile c) (p.step me c signalled) := by
  refine fun x => keeps_step me signalled (fun _ point _ => point.frames_profile false x)
    (fun caller point haccept => AcceptPoint.frames_profile (fun own hown => ?_) me signalled x)
    (fun call _ => frames_profile_accessDescriptor call x)
      (fun _ => profile_hidesEvents.network _ x)
    (fun _ point _ => point.frames_profile true x) fun i => profile_hidesEvents.dropConnection i x
  exact hp caller own (by rw [haccept, hown])

end Profiles

/-! ## The flag along the accept -/

theorem Net.setBlocking_ok {n : Network} {fd : FileNumber} {m : Bool} (hfault : n.fault? = none)
    (hmode : n.mode? fd = some m) (block : Bool) : ((setBlocking fd block).run n).1 = .ok () := by
  rw [setBlocking, run_consult_bind, hfault]
  rw [run_file_bind]
  cases hfile : n.consulted.file? fd with
  | some f => rfl
  | none =>
    have hnone : n.mode? fd = none := congrArg (Option.map File.blocking) hfile
    cases hnone.symm.trans hmode

section Flags

variable {c : ListenerId} {st st' : Station} {l : Listener} {block flag stray : Bool}

namespace ModePoint

variable {p p' : ModePoint}

/-- Nothing is in the way of a change on an open channel that lists no valid key. -/
theorem obstacle?_eq_none (hopen : l.core.isOpen = true)
    (hfree : l.core.keys.any st.keyValid = false) (hword : Guard.isClosed l.descriptor.word = false)
    (hcall : ∀ call, p = .take call → call.takes = true)
    (hset : p = .set → ((Net.setBlocking l.descriptor.number block).run st.network).1 = .ok ()) :
    p.obstacle? block st l = none := by
  cases p with
  | enter => simp [obstacle?, hopen]
  | askKeys => simp [obstacle?, hfree]
  | take call =>
    have hweigh : (taking (Guard.weigh l.descriptor.word)).failure? = none := by
      simp [Guard.weigh, hword, taking, failure?]
    have htakes := hcall call rfl
    cases call with
    | look => exact hweigh
    | claim seen =>
      rw [obstacle?, Guard.step]
      split
      · rfl
      · exact hweigh
    | _ => cases htakes
  | set =>
    rw [obstacle?, hset rfl]
    rfl
  | _ => rfl

/-- A change ends well when it has written the flag, or found that there is nothing to do. -/
theorem cases_of_step_ended {u : Unit} (hl : st.listeners[c]? = some l)
    (hrun : (p.step c block).run st = (.ok (.ended (.ok u)), st')) :
    p = .store ∨ p = .ended (.ok u) ∨ l.core.blocking = block := by
  cases p with
  | enter =>
    rw [step, run_listener_bind hl] at hrun
    dsimp only at hrun
    split at hrun
    · cases hrun
    split at hrun
    · next hsame => exact .inr (.inr hsame)
    split at hrun <;> cases hrun
  | askKeys =>
    rw [step, run_listener_bind hl, run_bind_ok (run_get st)] at hrun
    split at hrun <;> cases hrun
  | take call =>
    obtain ⟨⟨call', released⟩, st₁, -, hrun⟩ := of_run_bind hrun
    cases call' <;> cases hrun
  | set =>
    rw [step, run_listener_bind hl, run_network_bind] at hrun
    cases hrun
  | leave r =>
    obtain ⟨⟨call', released⟩, st₁, -, hrun⟩ := of_run_bind hrun
    cases call' <;> cases r <;> cases hrun
  | give r =>
    obtain ⟨_, st₁, -, hrun⟩ := of_run_bind hrun
    cases r <;> cases hrun
  | store => exact .inl rfl
  | ended outcome =>
    cases hrun
    exact .inr (.inl rfl)

/-- A change that has not failed: until the flag is written it says the opposite, and then the
channel is no stray. -/
def Stands (block flag stray : Bool) : ModePoint → Prop
  | ended outcome => outcome = .ok () ∧ flag = block ∧ stray = false
  | p => p.failure? = none ∧ flag = !block

theorem stands_of_busy (hbusy : p.isOver = false) :
    p.Stands block flag stray ↔ p.failure? = none ∧ flag = !block := by
  cases p with
  | ended outcome => cases hbusy
  | _ => rfl

theorem Stands.step {flag' stray' : Bool} (h : p.Stands block l.core.blocking stray)
    (hbusy : p.isOver = false) (hl : st.listeners[c]? = some l)
    (hrun : (p.step c block).run st = (.ok p', st')) (hfree : p.obstacle? block st l = none)
    (hstore : p = .store → flag' = block ∧ stray' = false)
    (hother : p ≠ .store → flag' = l.core.blocking) : p'.Stands block flag' stray' := by
  obtain ⟨hfine, hflag⟩ := (stands_of_busy hbusy).mp h
  have hfine' : p'.failure? = none := by
    rw [failure?_step hl hrun, hfine, hfree]
    rfl
  cases hover : p'.isOver with
  | false =>
    refine (stands_of_busy hover).mpr ⟨hfine', ?_⟩
    rw [hother, hflag]
    rintro rfl
    cases hrun
    cases hover
  | true =>
    cases p' with
    | ended outcome =>
      cases outcome with
      | error f => cases hfine'
      | ok u =>
        rcases cases_of_step_ended hl hrun with rfl | rfl | hsame
        · exact ⟨rfl, hstore rfl⟩
        · cases hbusy
        · exact absurd (hsame.symm.trans hflag) (by simp)
    | _ => cases hover

end ModePoint

namespace ViewPoint

variable {p p' : ViewPoint} {me : ThreadId} {signalled : Bool}

/-- The flag by where the accept stands: it says that the channel blocks before the first change of
the mode and after the second one, and not in between. -/
def Stands (flag stray : Bool) : ViewPoint → Prop
  | enter | askBound | askMode | askTimeout => flag = true
  | loosen _ q => q.Stands false flag stray
  | accept caller _ => flag = false ∧ caller ≠ .channel ∧ caller ≠ .view
  | fasten _ q => q.Stands true flag stray
  | drop _ _ => False
  | ended _ => flag = true ∧ stray = false
  | _ => flag = false

theorem stands_polled (deadline : Nat) (r : Except IoError Bool) :
    (polled deadline r).Stands false stray := by
  rcases r with e | b
  · rfl
  · cases b with
    | false => rfl
    | true => exact ⟨rfl, by rintro ⟨⟩, by rintro ⟨⟩⟩

theorem stands_answered (deadline : Nat) (r : AcceptAnswer) :
    (answered deadline r).Stands false stray := by
  rcases r with f | _ | i <;> rfl

/-- Between the two changes of the mode nothing but an accept, a wait or the
second change follows. -/
theorem stands_between (hl : st.listeners[c]? = some l) (hopen : l.core.isOpen = true)
    (hp : p.Stands false stray) (hchange : (Agent.view me p).change? = none)
    (hrun : (p.step me c signalled).run st = (.ok p', st')) : p'.Stands false stray := by
  cases p with
  | enter | askBound | askMode | askTimeout => cases hp
  | loosen timeout q | fasten answer q => cases hchange
  | accept caller point =>
    obtain ⟨-, hchannel, hview⟩ := hp
    cases point with
    | ended answer =>
      cases hrun
      cases caller with
      | channel => exact absurd rfl hchannel
      | view => exact absurd rfl hview
      | timed timeout | again deadline => exact stands_answered _ answer
    | _ =>
      obtain ⟨point', -, rfl⟩ := of_run_map hrun
      exact ⟨rfl, hchannel, hview⟩
  | look deadline =>
    rw [step, run_listener_bind hl, hopen] at hrun
    cases hrun
    rfl
  | clock deadline =>
    rw [step, run_bind_ok (run_get st)] at hrun
    split at hrun <;> (cases hrun; rfl)
  | take deadline call =>
    obtain ⟨⟨call', released⟩, st₁, -, hrun⟩ := of_run_bind hrun
    cases hrun
    cases call' <;> rfl
  | poll deadline =>
    rw [step, run_listener_bind hl, run_network_bind] at hrun
    cases hrun
    unfold reported
    split
    · rfl
    · split <;> rfl
  | inside deadline =>
    rw [step, run_listener_bind hl, run_bind_ok (run_get st)] at hrun
    split at hrun
    · cases hrun
      rfl
    split at hrun
    · cases hrun
      rfl
    split at hrun <;> (cases hrun; rfl)
  | leave deadline r =>
    obtain ⟨⟨call', released⟩, st₁, -, hrun⟩ := of_run_bind hrun
    cases hrun
    unfold left
    split
    · rfl
    · exact stands_polled deadline r
  | give deadline r =>
    obtain ⟨_, -, rfl⟩ := of_run_map hrun
    exact stands_polled deadline r
  | askOpen answer =>
    rw [step, run_listener_bind hl, hopen] at hrun
    cases hrun
    exact ⟨rfl, rfl⟩
  | drop i f => exact hp.elim
  | ended answer => cases hp.1

/-- Before the first change of the mode: the channel is there and bound, it
blocks and has a timeout. -/
theorem stands_before (hl : st.listeners[c]? = some l) (halive : l.alive = true)
    (hbound : l.isBound = true)
    (hblocking : l.core.blocking = true) (htimeout : l.timeout.getD 0 ≠ 0)
    (hp : p.Stands true stray) (hchange : (Agent.view me p).change? = none)
    (hrun : (p.step me c signalled).run st = (.ok p', st')) : p'.Stands true stray := by
  cases p with
  | enter =>
    rw [step, run_listener_bind hl, halive] at hrun
    cases hrun
    rfl
  | askBound =>
    rw [step, run_listener_bind hl, hbound] at hrun
    cases hrun
    rfl
  | askMode =>
    rw [step, run_listener_bind hl, hblocking] at hrun
    cases hrun
    rfl
  | askTimeout =>
    rw [step, run_listener_bind hl] at hrun
    rw [if_neg htimeout] at hrun
    cases hrun
    exact ⟨rfl, rfl⟩
  | loosen timeout q | fasten answer q => cases hchange
  | accept caller point => cases hp.1
  | drop i f => exact hp.elim
  | ended answer =>
    cases hrun
    exact hp
  | _ => cases hp

theorem Stands.step {flag' stray' : Bool} (h : p.Stands l.core.blocking stray)
    (hl : st.listeners[c]? = some l) (halive : l.alive = true) (hopen : l.core.isOpen = true)
    (hbound : l.isBound = true) (htimeout : l.timeout.getD 0 ≠ 0)
    (hrun : (p.step me c signalled).run st = (.ok p', st'))
    (hfree : ∀ b q, (Agent.view me p).change? = some (b, q) → q.obstacle? b st l = none)
    (hstore : ∀ b, (Agent.view me p).stores = some b → flag' = b ∧ stray' = false)
    (hother : (Agent.view me p).stores = none → flag' = l.core.blocking ∧ stray' = stray) :
    p'.Stands flag' stray' := by
  have hmode {b : Bool} {q q' : ModePoint} (hchange : (Agent.view me p).change? = some (b, q))
      (hq : q.Stands b l.core.blocking stray) (hbusy : q.isOver = false)
      (hpoint : (q.step c b).run st = (.ok q', st')) : q'.Stands b flag' stray' := by
    refine hq.step hbusy hl hpoint (hfree b q hchange) ?_ fun hne => ?_
    · rintro rfl
      exact hstore b (by rw [Agent.stores, hchange])
    · exact (hother (Agent.stores_of_change hchange hne)).1
  cases hchange : (Agent.view me p).change? with
  | none =>
    obtain ⟨rfl, rfl⟩ := hother (by rw [Agent.stores, hchange])
    cases hblocking : l.core.blocking with
    | true => exact stands_before hl halive hbound hblocking htimeout (hblocking ▸ h) hchange hrun
    | false => exact stands_between hl hopen (hblocking ▸ h) hchange hrun
  | some change =>
    cases p with
    | loosen timeout q =>
      cases q with
      | ended outcome =>
        obtain ⟨rfl, hflag, -⟩ := h
        cases hrun
        exact ⟨(hother rfl).1.trans hflag, by rintro ⟨⟩, by rintro ⟨⟩⟩
      | _ =>
        obtain ⟨q', hpoint, rfl⟩ := of_run_map hrun
        exact hmode rfl h rfl hpoint
    | fasten answer q =>
      cases q with
      | ended outcome =>
        obtain ⟨rfl, hflag, hstray⟩ := h
        cases hrun
        exact ⟨(hother rfl).1.trans hflag, (hother rfl).2.trans hstray⟩
      | _ =>
        obtain ⟨q', hpoint, rfl⟩ := of_run_map hrun
        exact hmode rfl h rfl hpoint
    | _ => cases hchange

end ViewPoint
end Flags

/-! ## An accept that is alone with its channel -/

namespace ModeRace

/-- One thing that happens while nobody but a call operates on the channel: the call does an access,
and the kernel sets the mode when it is asked to; or something happens elsewhere and the channel and
its keys stay as they are. -/
inductive Solitary (i : Nat) : ModeRace → ModeRace → Prop
  | access {r : ModeRace} (signalled : Bool)
      (h : ∀ a, r.agents[i]? = some a → a.sets = true → r.station.network.fault? = none) :
      Solitary i r (r.play i signalled)
  | elsewhere {r : ModeRace} {station : Station}
      (h : r.station.Undisturbed r.channel r.given station)
      (hchannel : station.listeners[r.channel]? = r.station.listeners[r.channel]?)
      (hkeys : ∀ l, r.station.listeners[r.channel]? = some l →
        ∀ k ∈ l.core.keys, station.keyValid k = r.station.keyValid k) :
      Solitary i r { r with station }

variable {i : Nat} {me : ThreadId} {r₀ r r' : ModeRace} {l₀ l : Listener} {p : ViewPoint}

/-- A channel on which an accept through the view waits for some time, and that
may be made blocking. -/
structure Timed (r : ModeRace) (l : Listener) : Prop where
  alive : l.alive = true
  bound : l.isBound = true
  timeout : l.timeout.getD 0 ≠ 0
  unkeyed : ∀ k ∈ l.core.keys, r.station.keyValid k = false

/-- An accept through the view on a channel that is closed, or as it was apart from its mode. -/
structure Restoring (i : Nat) (me : ThreadId) (r₀ : ModeRace) (l₀ : Listener) (r : ModeRace)
    (l : Listener) (p : ViewPoint) : Prop where
  timed : r₀.Timed l₀
  kept : r.Kept l
  place : r.agents[i]? = some (.view me p)
  quiet : ∀ k a, k ≠ i → r.agents[k]? = some a → a.applied? = none
  unchanged : l.core.isOpen = true → l.profile = l₀.profile ∧
    (∀ k ∈ l₀.core.keys, r.station.keyValid k = r₀.station.keyValid k) ∧
    p.Stands l.core.blocking r.stray

theorem Kept.exists_mode (h : r.Kept l) (hopen : l.core.isOpen = true) :
    ∃ b, r.station.network.mode? l.descriptor.number = some b := by
  have hgiven : r.given = false := by
    rw [← Bool.not_eq_true]
    intro hgiven
    cases hopen.symm.trans (h.given hgiven)
  by_cases hnone : ∀ a ∈ r.agents, a.applied? = none
  · rcases h.mode hgiven hnone with hmode | ⟨-, hmode⟩
    · exact ⟨_, hmode⟩
    · exact ⟨_, hmode⟩
  · simp only [not_forall] at hnone
    obtain ⟨a, ha, happlied⟩ := hnone
    obtain ⟨b, hb⟩ := Option.ne_none_iff_exists'.mp happlied
    exact ⟨b, h.applied hgiven a ha b hb⟩

namespace Restoring

section Access

variable {p' : ViewPoint} {st' : Station} {l' : Listener} {signalled : Bool}

theorem obstacle?_eq_none (h : Restoring i me r₀ l₀ r l p) (hopen : l.core.isOpen = true)
    (hset : (Agent.view me p).sets = true → r.station.network.fault? = none) {b : Bool}
    {q : ModePoint}
    (hchange : (Agent.view me p).change? = some (b, q)) : q.obstacle? b r.station l = none := by
  obtain ⟨hprofile, hvalid, -⟩ := h.unchanged hopen
  have hkeys : l.core.keys = l₀.core.keys := congrArg Profile.keys hprofile
  refine ModePoint.obstacle?_eq_none hopen ?_ ?_ ?_ ?_
  · rw [hkeys, List.any_eq_false]
    intro k hk
    rw [hvalid k hk, h.timed.unkeyed k hk]
    exact Bool.false_ne_true
  · rw [← Bool.not_eq_true]
    intro hmarked
    cases hopen.symm.trans (h.kept.marked hmarked)
  · rintro call rfl
    exact ((Agent.of_change (c := r.channel) hchange).2.2 _
      (h.kept.relies _ (List.mem_of_getElem? h.place))).2
  · rintro rfl
    obtain ⟨m, hmode⟩ := h.kept.exists_mode hopen
    exact Net.setBlocking_ok (hset (by rw [Agent.sets, hchange])) hmode b

/-- An access that leaves the channel open is none by which the accept closes it. -/
theorem not_own (h : Restoring i me r₀ l₀ r l p) (hopen : l.core.isOpen = true)
    (hrun : (p.step me r.channel signalled).run r.station = (.ok p', st'))
    (hl' : st'.listeners[r.channel]? = some l') (hopen' : l'.core.isOpen = true) (caller : Caller)
    (point : ShutPoint) : p ≠ .accept caller (.own point) := by
  rintro rfl
  have hrelies : point.Relies (r.station.facts l r.given) :=
    h.kept.relies _ (List.mem_of_getElem? h.place)
  have hunaware : point.knows = false := by
    rw [← Bool.not_eq_true]
    intro hknows
    cases hopen.symm.trans (hrelies hknows)
  have hbusy : point.isOver = false := by
    cases point with
    | rest point =>
      cases point with
      | shut => rfl
      | _ => cases hunaware
    | _ => rfl
  rw [ViewPoint.step_accept me signalled caller rfl, AcceptPoint.step_own hbusy] at hrun
  obtain ⟨_, st₁, hown, hrest⟩ := of_run_bind hrun
  cases hrest
  obtain ⟨point', st₁, hshut, hrest⟩ := of_run_bind hown
  cases hrest
  cases hopen'.symm.trans (ShutPoint.closed_of_step hunaware h.kept.listed hshut hl')

end Access

theorem access (h : Restoring i me r₀ l₀ r l p) {signalled : Bool}
    (hset : ∀ a, r.agents[i]? = some a → a.sets = true → r.station.network.fault? = none) :
    ∃ l' p', Restoring i me r₀ l₀ (r.play i signalled) l' p' := by
  rcases r.play_cases i signalled with hsame | ⟨a, a', st', ha, hwaits, hrun, hplay⟩
  · rw [hsame]
    exact ⟨l, p, h⟩
  · rw [hplay]
    cases ha.symm.trans h.place
    obtain ⟨p', st₁, hpoint, hnext⟩ := of_run_bind hrun
    cases hnext
    obtain ⟨l', hm⟩ := h.kept.moves (List.mem_of_getElem? h.place) hrun
    refine ⟨l', p', h.timed, h.kept.moved h.place hwaits hrun hm, ?_, fun k d hk hd => ?_,
      fun hopen' => ?_⟩
    · exact Guard.Race.getElem?_set_of_getElem? h.place
    · rw [List.getElem?_set_ne (Ne.symm hk)] at hd
      exact h.quiet k d hk hd
    · have hopen : l.core.isOpen = true := by
        by_contra hclosed
        cases hopen'.symm.trans (hm.closed (Bool.eq_false_iff.mpr hclosed))
      obtain ⟨hprofile, hvalid, hstands⟩ := h.unchanged hopen
      have hview : st'.profile r.channel = r.station.profile r.channel :=
        (ViewPoint.frames_profile (h.not_own hopen hpoint hm.listed hopen') me signalled).of_run
          hpoint
      have hsame : l'.profile = l.profile := by
        have hfirst := congrArg Prod.fst hview
        simp only [profile, hm.listed, h.kept.listed] at hfirst
        exact Option.some.inj hfirst
      have hkeys (k : KeyId) : st'.keyValid k = r.station.keyValid k := by
        have hlist : st'.keys = r.station.keys := congrArg Prod.snd hview
        rw [keyValid, keyValid, key?, key?, hlist]
      refine ⟨hsame.trans hprofile, fun k hk => (hkeys k).trans (hvalid k hk), ?_⟩
      refine hstands.step h.kept.listed
        ((congrArg Profile.alive hprofile).trans h.timed.alive) hopen
        ?_ ?_ hpoint (fun b q => h.obstacle?_eq_none hopen (hset _ h.place)) (fun b hstores => ?_)
        fun hstores => ?_
      · rw [Listener.isBound, show l.localAddress = l₀.localAddress from congrArg
          Profile.localAddress hprofile]
        exact h.timed.bound
      · rw [show l.timeout = l₀.timeout from congrArg Profile.timeout hprofile]
        exact h.timed.timeout
      · refine ⟨(Agent.applied?_after_store h.kept.listed hstores hrun).2.2 l' hm.listed, ?_⟩
        show (r.stray && (Agent.view me p).stores.isNone) = false
        rw [hstores]
        exact Bool.and_false _
      · refine ⟨hm.blocking_eq hstores, ?_⟩
        show (r.stray && (Agent.view me p).stores.isNone) = r.stray
        rw [hstores]
        exact Bool.and_true _

theorem elsewhere (h : Restoring i me r₀ l₀ r l p) {st' : Station}
    (hst : r.station.Undisturbed r.channel r.given st')
    (hchannel : st'.listeners[r.channel]? = r.station.listeners[r.channel]?)
    (hkeys : ∀ l, r.station.listeners[r.channel]? = some l →
      ∀ k ∈ l.core.keys, st'.keyValid k = r.station.keyValid k) :
    Restoring i me r₀ l₀ { r with station := st' } l p := by
  obtain ⟨l', hkept, -⟩ := h.kept.elsewhere hst
  cases (hkept.listed.symm.trans hchannel).trans h.kept.listed
  refine ⟨h.timed, hkept, h.place, h.quiet, fun hopen => ?_⟩
  obtain ⟨hprofile, hvalid, hstands⟩ := h.unchanged hopen
  refine ⟨hprofile, fun k hk => (hkeys l h.kept.listed k ?_).trans (hvalid k hk), hstands⟩
  rw [show l.core.keys = l₀.core.keys from congrArg Profile.keys hprofile]
  exact hk

theorem reached (h : Restoring i me r₀ l₀ r l p)
    (hr : ReflTransGen (Solitary i) r r') :
    ∃ l' p', Restoring i me r₀ l₀ r' l' p' ∧ r'.channel = r.channel := by
  induction hr with
  | refl => exact ⟨l, p, h, rfl⟩
  | tail _ hstep ih =>
    obtain ⟨l₁, p₁, h₁, hchannel⟩ := ih
    cases hstep with
    | access signalled hset =>
      obtain ⟨l', p', h'⟩ := h₁.access hset
      exact ⟨l', p', h', (channel_play _ i signalled).trans hchannel⟩
    | elsewhere hst hsame hkeys => exact ⟨l₁, p₁, h₁.elsewhere hst hsame hkeys, hchannel⟩

theorem restored {answer : Except Failure ConnectionId}
    (h : Restoring i me r₀ l₀ r l (.ended answer)) (hopen : l.core.isOpen = true) :
    l.core.blocking = true ∧ r.station.network.mode? l.descriptor.number = some true := by
  obtain ⟨hflag, hstray⟩ := (h.unchanged hopen).2.2
  have hgiven : r.given = false := by
    rw [← Bool.not_eq_true]
    intro hgiven
    cases hopen.symm.trans (h.kept.given hgiven)
  have hquiet (a : Agent) (ha : a ∈ r.agents) : a.applied? = none := by
    obtain ⟨k, hk⟩ := List.getElem?_of_mem ha
    by_cases hki : k = i
    · subst hki
      cases hk.symm.trans h.place
      rfl
    · exact h.quiet k a hki hk
  rcases h.kept.mode hgiven hquiet with hmode | ⟨htrue, -⟩
  · exact ⟨hflag, hmode.trans (congrArg some hflag)⟩
  · cases hstray.symm.trans htrue

end Restoring

/-- A channel was opened, or adopted over a descriptor of either mode, and any calls on it have come
to their ends. It is bound, says that it blocks and has a timeout. Then an accept through the view
runs while nobody else operates on the channel and the kernel sets the mode when it is asked to.
Whatever the accept answers: the channel is closed; or it says that it blocks, its descriptor
blocks, and its profile and the validity of its keys are as before. -/
theorem timed_accept_restores_mode {st st' : Station} {c : ListenerId} {blocks : Bool}
    (hmade : st.Makes c blocks st') {agents : List Agent}
    (hagents : ∀ a ∈ agents, a.begins = true)
    (hr : ReflTransGen Happens
      { station := st', channel := c, agents, stray := !blocks } r)
    (hdone : ∀ a ∈ r.agents, a.begins = true ∨ a.isOver = true)
    (hl : r.station.listeners[c]? = some l) (halive : l.alive = true) (hbound : l.isBound = true)
    (hblocking : l.core.blocking = true) (htimeout : l.timeout.getD 0 ≠ 0)
    (hi : r.agents[i]? = some (.view me .enter)) (hr' : ReflTransGen (Solitary i) r r')
    {answer : Except Failure ConnectionId} (hanswer : r'.answer? i = some answer) :
    ∃ l', r'.station.listeners[c]? = some l' ∧
      (l'.core.isOpen = false ∨
        l'.core.blocking = true ∧ r'.station.network.mode? l'.descriptor.number = some true ∧
          l'.profile = l.profile ∧
          ∀ k ∈ l.core.keys, r'.station.keyValid k = r.station.keyValid k) := by
  obtain ⟨l₀, hbegins, -⟩ := begins_of_makes hmade hagents
  obtain ⟨hchannel, l₁, hkept, -⟩ := (Kept.begins hbegins).reached hr
  have hchannel : r.channel = c := hchannel
  subst hchannel
  cases hkept.listed.symm.trans hl
  have htimed : r.Timed l := by
    refine ⟨halive, hbound, htimeout, fun k hk => ?_⟩
    rw [← Bool.not_eq_true]
    intro hvalid
    cases hblocking.symm.trans (hkept.keyed ⟨k, hk, hvalid⟩)
  have hstart : Restoring i me r l r l .enter :=
    ⟨htimed, hkept, hi, fun k a _ ha => Agent.applied?_eq_none
      (hdone a (List.mem_of_getElem? ha)), fun _ => ⟨rfl, fun _ _ => rfl, hblocking⟩⟩
  obtain ⟨l', p', hend, hchannel⟩ := hstart.reached hr'
  obtain ⟨me', hplace⟩ := place_of_answer hanswer
  cases hend.place.symm.trans hplace
  refine ⟨l', hchannel ▸ hend.kept.listed, ?_⟩
  cases hopen' : l'.core.isOpen with
  | false => exact .inl rfl
  | true =>
    obtain ⟨hprofile, hvalid, -⟩ := hend.unchanged hopen'
    obtain ⟨hflag, hmode⟩ := hend.restored hopen'
    exact .inr ⟨hflag, hmode, hprofile, hvalid⟩

theorem solitary_plays (n : Nat)
    (h : ∀ k < n, (r.plays (List.replicate k i)).station.network.fault? = none) :
    ReflTransGen (Solitary i) r (r.plays (List.replicate n i)) :=
  reaches_replicate n fun k hk => .access false fun _ _ _ => h k hk

/-- A listening socket that does not block, to which somebody has connected. -/
def visitedLoose : Station where
  network := ((do
    let fd ← Net.serverSocket true
    Net.bind fd .wildcard
    Net.listen fd 5
    Net.setBlocking fd false
    let _ ← Net.connect (.v4 ⟨127, 0, 0, 1⟩ 0) (.v4 ⟨127, 0, 0, 1⟩ 40687) :
        Net Unit).run {}).2

/-- The socket is adopted, and an accept through the view is about to begin. -/
def adoptedVisit : ModeRace where
  station := ((adoptSocket 3).run visitedLoose).2
  channel := 0
  agents := [.view 0 .enter]
  stray := true

/-- The view has got a timeout. -/
def timedVisit : ModeRace :=
  { adoptedVisit with
    station := adoptedVisit.station.modifyListener 0 fun l => { l with timeout := some 100 } }

/-- The accept takes the connection, and the channel blocks afterwards although it did not
before. -/
theorem timed_accept_mends_stray :
    timedVisit.station.network.mode? 3 = some false ∧
      ∃ r', r' = timedVisit.plays (List.replicate 38 0) ∧ r'.answer? 0 = some (.ok 0) ∧
        ∃ l l', timedVisit.station.listeners[0]? = some l ∧
        r'.station.listeners[0]? = some l' ∧
          l'.core.blocking = true ∧ r'.station.network.mode? l'.descriptor.number = some true ∧
          l'.profile = l.profile := by
  have hmade : visitedLoose.Makes 0 false adoptedVisit.station := by
    refine .adopted 3 (by decide) (by decide +kernel) ?_ (by decide +kernel) (by rfl)
    intro x hx
    cases hx
  have hundisturbed : adoptedVisit.station.Undisturbed 0 false timedVisit.station := by
    refine ⟨fun l hl =>
      ⟨_, listener_modifyListener hl _, rfl, rfl, fun _ _ hv => hv, fun _ => ?_⟩⟩
    exact ⟨rfl, Nat.le_refl _, fun x hx => .inl hx⟩
  have hto : ReflTransGen Happens adoptedVisit timedVisit :=
    .single (.elsewhere hundisturbed)
  have hcalm :
      ∀ k < 38, (timedVisit.plays (List.replicate k 0)).station.network.fault? = none := by
    decide +kernel
  have hanswer :
      (timedVisit.plays (List.replicate 38 0)).answer? 0 = some (.ok 0) := by decide +kernel
  have hopen : (timedVisit.plays (List.replicate 38 0)).station.listeners[0]?.all
      (fun l => l.core.isOpen) = true := by decide +kernel
  obtain ⟨l, hl, halive, hbound, hblocking, htimeout⟩ :
      ∃ l, timedVisit.station.listeners[0]? = some l ∧
      l.alive = true ∧ l.isBound = true ∧ l.core.blocking = true ∧
      l.timeout.getD 0 ≠ 0 := by
    decide +kernel
  have hagents : ∀ a ∈ adoptedVisit.agents, a.begins = true := by decide
  obtain ⟨l', hl', hend⟩ :=
    timed_accept_restores_mode hmade hagents hto (by decide) hl halive hbound
    hblocking htimeout (i := 0) rfl (solitary_plays 38 hcalm) hanswer
  rw [hl'] at hopen
  refine ⟨by decide +kernel, _, rfl, hanswer, l, l', hl, hl', ?_⟩
  rcases hend with hclosed | ⟨hflag, hmode, hprofile, -⟩
  · cases hclosed.symm.trans hopen
  · exact ⟨hflag, hmode, hprofile⟩

end ModeRace
end PolledChannels
