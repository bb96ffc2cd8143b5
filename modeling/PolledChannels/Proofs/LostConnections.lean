import PolledChannels.Proofs.CallTurns
import PolledChannels.Proofs.HangUps
import PolledChannels.Proofs.RegisteredModes

/-!
# Connections that an accept through the view gives up

An accept through the blocking view has taken a connection. If it has a timeout, it makes the
channel block again before it answers, and other calls may have got in its way: a key was
registered, the channel was closed, or the kernel refuses. Then the accept answers with that
failure and gives the connection up.

So the accept answers with its connection exactly if no access that was to make the channel block
again met an obstacle, and with a failure exactly if one of them met an obstacle with that failure.
-/

namespace PolledChannels

open PolledChannels.Action Relation

/-! ## What a change of the mode fails with -/

section Changes

variable {st st' : Station} {c : ListenerId} {l : Listener}

theorem exists_run_accessDescriptor (hl : st.listeners[c]? = some l) (call : Guard.Call) :
    ∃ released st', (accessDescriptor c call).run st =
      (.ok ((Guard.step l.descriptor.word call).2.1, released), st') := by
  obtain ⟨released, network, hrun⟩ := run_applyEffect l.descriptor.number
    (Guard.step l.descriptor.word call).2.2 (st.modifyListener c fun l' =>
      { l' with descriptor :=
        { l'.descriptor with word := (Guard.step l.descriptor.word call).1 } })
  exact ⟨released, _, (run_listener_bind hl _).trans (run_bind_ok hrun)⟩

namespace ModePoint

variable {p p' : ModePoint} {block : Bool}

/-- What the change has failed with. -/
def failure? : ModePoint → Option Failure
  | leave (.error e) | give (.error e) => some (.io e)
  | ended (.error f) => some f
  | _ => none

/-- What the next access of the change fails with, on a channel as it is at a station. -/
def obstacle? (block : Bool) (st : Station) (l : Listener) : ModePoint → Option Failure
  | enter => if l.core.isOpen then none else some .closed
  | askKeys => if l.core.keys.any st.keyValid then some .illegalBlockingMode else none
  | take call => (taking (Guard.step l.descriptor.word call).2.1).failure?
  | set => (leave ((Net.setBlocking l.descriptor.number block).run st.network).1).failure?
  | _ => none

theorem failure?_settled (r : IoResult) : (settled r).failure? = (leave r).failure? := by
  cases r <;> rfl

/-- Nothing but an obstacle makes a change fail, and a change that has failed has failed for
good. -/
theorem failure?_step (hl : st.listeners[c]? = some l)
    (hrun : (p.step c block).run st = (.ok p', st')) :
    p'.failure? = p.failure?.or (p.obstacle? block st l) := by
  cases p with
  | enter =>
    rw [step, run_listener_bind hl] at hrun
    cases hopen : l.core.isOpen with
    | false =>
      simp only [hopen] at hrun
      cases hrun
      simp [failure?, obstacle?, hopen]
    | true =>
      simp only [obstacle?, hopen, failure?, if_true, Option.or_none]
      simp only [hopen, Bool.not_true, Bool.false_eq_true, if_false] at hrun
      split at hrun
      · cases hrun
        rfl
      · split at hrun
        all_goals
          cases hrun
          rfl
  | askKeys =>
    rw [step, run_listener_bind hl, run_bind_ok (run_get st)] at hrun
    cases hkeyed : l.core.keys.any st.keyValid with
    | false | true =>
      rw [hkeyed] at hrun
      cases hrun
      simp only [obstacle?, hkeyed]
      rfl
  | take call =>
    obtain ⟨rfl, -⟩ := of_run_access hl hrun
    rfl
  | set =>
    rw [step, run_listener_bind hl, run_network_bind] at hrun
    cases hrun
    rfl
  | leave r =>
    obtain ⟨rfl, -⟩ := of_run_access hl hrun
    simp only [obstacle?, Option.or_none]
    unfold left
    split
    · cases r <;> rfl
    · exact failure?_settled r
  | give r =>
    obtain ⟨_, -, rfl⟩ := of_run_map hrun
    simp only [obstacle?, Option.or_none, failure?_settled]
    cases r <;> rfl
  | store =>
    cases hrun
    rfl
  | ended outcome =>
    cases hrun
    simp only [obstacle?, Option.or_none]

theorem failure?_of_obstacle {f : Failure} (h : p.obstacle? block st l = some f) :
    p.failure? = none := by
  cases p with
  | enter | askKeys | take call | set => rfl
  | _ => cases h

/-- Every access of a change on a channel that is there can be done. -/
theorem exists_run_step (hl : st.listeners[c]? = some l) (block : Bool) (p : ModePoint) :
    ∃ p' st', (p.step c block).run st = (.ok p', st') := by
  cases p with
  | enter =>
    rw [step, run_listener_bind hl]
    dsimp only
    split
    · exact ⟨_, _, rfl⟩
    split
    · exact ⟨_, _, rfl⟩
    split <;> exact ⟨_, _, rfl⟩
  | askKeys =>
    rw [step, run_listener_bind hl, run_bind_ok (run_get st)]
    split <;> exact ⟨_, _, rfl⟩
  | take call | leave r | give r =>
    obtain ⟨released, st₁, haccess⟩ := exists_run_accessDescriptor hl _
    exact ⟨_, _, run_bind_ok haccess⟩
  | set =>
    rw [step, run_listener_bind hl, run_network_bind]
    exact ⟨_, _, rfl⟩
  | store | ended outcome => exact ⟨_, _, rfl⟩

end ModePoint
end Changes

/-! ## An accept with a connection in hand -/

/-- The accept has taken the connection `j`, and what follows has failed so far
with a failure or not. -/
inductive ViewPoint.Has (j : ConnectionId) : ViewPoint → Option Failure → Prop
  | taken (caller : Caller) : Has j (.accept caller (.ended (.ok (some j)))) none
  | askOpen : Has j (.askOpen (.ok j)) none
  | fasten (q : ModePoint) : Has j (.fasten (.ok j) q) q.failure?
  | drop (f : Failure) : Has j (.drop j f) (some f)
  | answered : Has j (.ended (.ok j)) none
  | failed (f : Failure) : Has j (.ended (.error f)) (some f)

/-- What the next access fails with, if it is to make the channel block again. -/
def ViewPoint.obstacle? (st : Station) (l : Listener) : ViewPoint → Option Failure
  | fasten _ q => q.obstacle? true st l
  | _ => none

section Has

variable {st st' : Station} {c : ListenerId} {l : Listener} {me : ThreadId} {signalled : Bool}
  {j : ConnectionId} {p p' : ViewPoint} {failed : Option Failure}

theorem ViewPoint.Has.step (h : p.Has j failed) (hl : st.listeners[c]? = some l)
    (hrun : (p.step me c signalled).run st = (.ok p', st')) :
    p'.Has j (failed.or (p.obstacle? st l)) := by
  cases h with
  | taken caller =>
    cases hrun
    cases caller with
    | channel | view => exact .answered
    | timed timeout | again deadline => exact .askOpen
  | askOpen =>
    rw [step, run_listener_bind hl] at hrun
    cases hopen : l.core.isOpen with
    | true =>
      rw [hopen] at hrun
      cases hrun
      exact .fasten .enter
    | false =>
      rw [hopen] at hrun
      cases hrun
      exact .answered
  | fasten q =>
    cases q with
    | ended outcome =>
      cases hrun
      cases outcome with
      | ok _ => exact .answered
      | error f => exact .drop f
    | _ =>
      obtain ⟨q', hpoint, rfl⟩ := of_run_map hrun
      rw [obstacle?, ← ModePoint.failure?_step hl hpoint]
      exact .fasten q'
  | drop f =>
    obtain ⟨_, -, rfl⟩ := of_run_map hrun
    exact .failed f
  | answered =>
    cases hrun
    exact .answered
  | failed f =>
    cases hrun
    exact .failed f

/-- An accept that answers with a failure has just given its connection up, or
had answered already. -/
theorem ViewPoint.Has.eq_of_failed {f : Failure} (h : p.Has j failed)
    (hl : st.listeners[c]? = some l)
    (hrun : (p.step me c signalled).run st = (.ok (.ended (.error f)), st')) :
    p = .drop j f ∨ p = .ended (.error f) := by
  cases h with
  | taken caller => cases caller <;> cases hrun
  | askOpen =>
    rw [ViewPoint.step, run_listener_bind hl] at hrun
    split at hrun <;> cases hrun
  | fasten q =>
    cases q with
    | ended outcome => cases outcome <;> cases hrun
    | _ =>
      obtain ⟨q', st₁, -, hrun⟩ := of_run_bind hrun
      cases hrun
  | drop g =>
    obtain ⟨_, st₁, -, hrun⟩ := of_run_bind hrun
    cases hrun
    exact .inl rfl
  | answered => cases hrun
  | failed g =>
    cases hrun
    exact .inr rfl

theorem closed_of_dropConnection (hrun : (dropConnection j).run st = (.ok (), st')) {x : Connection}
    (hx : st'.connections[j]? = some x) : x.descriptor.isClosed = true := by
  obtain ⟨released, st₁, hclose, hrest⟩ := of_run_bind hrun
  cases hrest
  cases hbefore : st.connections[j]? with
  | none =>
    rw [closeConnectionDescriptor, run_bind_ok (run_get st), hbefore] at hclose
    cases hclose
    cases hbefore.symm.trans hx
  | some y =>
    obtain ⟨released', st₂, hclose', hy, -⟩ := HangUpPoint.solo_descriptor hbefore
    cases hclose.symm.trans hclose'
    cases hx.symm.trans hy
    exact y.isClosed_marked

end Has

namespace ModeRace

variable {i : Nat} {me : ThreadId} {j : ConnectionId} {f : Failure} {r₀ r r' : ModeRace}
  {p : ViewPoint} {failed : Option Failure} {st' : Station} {signalled : Bool}

/-- The connection that an accept through the view has just taken. -/
def taken? (r : ModeRace) (i : Nat) : Option ConnectionId :=
  match r.agents[i]? with
  | some (.view _ (.accept _ (.ended (.ok (some j))))) => some j
  | _ => none

/-- What an accept through the view has answered. -/
def answer? (r : ModeRace) (i : Nat) : Option (Except Failure ConnectionId) :=
  match r.agents[i]? with
  | some (.view _ (.ended answer)) => some answer
  | _ => none

theorem place_of_taken (h : r.taken? i = some j) :
    ∃ me caller, r.agents[i]? = some (.view me (.accept caller (.ended (.ok (some j))))) := by
  unfold taken? at h
  split at h
  · next hplace =>
    cases h
    exact ⟨_, _, hplace⟩
  · cases h

theorem place_of_answer {answer : Except Failure ConnectionId} (h : r.answer? i = some answer) :
    ∃ me, r.agents[i]? = some (.view me (.ended answer)) := by
  unfold answer? at h
  split at h
  · next hplace =>
    cases h
    exact ⟨_, hplace⟩
  · cases h

/-- On the way, an access of the accept that was to make the channel block again failed. -/
def Thwarted (i : Nat) (f : Failure) (r r' : ModeRace) : Prop :=
  ∃ r₁ me p l signalled, ReflTransGen Happens r r₁ ∧
    r₁.agents[i]? = some (.view me p) ∧
    r₁.waits (.view me p) = false ∧ r₁.station.listeners[r₁.channel]? = some l ∧
    p.obstacle? r₁.station l = some f ∧ ReflTransGen Happens (r₁.play i signalled) r'

/-- On the way, the accept closed its connection. -/
def GivesUp (i : Nat) (j : ConnectionId) (r r' : ModeRace) : Prop :=
  ∃ r₁ signalled, ReflTransGen Happens r r₁ ∧
    (∃ me f, r₁.agents[i]? = some (.view me (.drop j f))) ∧
    (∀ x, (r₁.play i signalled).station.connections[j]? = some x →
      x.descriptor.isClosed = true) ∧
    ReflTransGen Happens (r₁.play i signalled) r'

theorem Thwarted.later (h : Thwarted i f r₀ r) (hr : Happens r r') : Thwarted i f r₀ r' := by
  obtain ⟨r₁, me, p, l, signalled, hto, hplace, hwaits, hl, hobstacle, hfrom⟩ := h
  exact ⟨r₁, me, p, l, signalled, hto, hplace, hwaits, hl, hobstacle, hfrom.tail hr⟩

theorem GivesUp.later (h : GivesUp i j r₀ r) (hr : Happens r r') : GivesUp i j r₀ r' := by
  obtain ⟨r₁, signalled, hto, hdrop, hclosed, hfrom⟩ := h
  exact ⟨r₁, signalled, hto, hdrop, hclosed, hfrom.tail hr⟩

theorem play_of_run {a a' : Agent} (ha : r.agents[i]? = some a) (hwaits : r.waits a = false)
    (hrun : (a.step r.channel signalled).run r.station = (.ok a', st')) :
    r.play i signalled =
      { r with
        station := st', agents := r.agents.set i a'
        given := r.given || a.gives, stray := r.stray && a.stores.isNone } := by
  simp only [play, ha, hwaits, hrun]
  rfl

/-- An accept that took the connection `j` before `r₀`. -/
structure Tracks (i : Nat) (me : ThreadId) (j : ConnectionId) (r₀ r : ModeRace) (p : ViewPoint)
    (failed : Option Failure) : Prop where
  kept : ∃ l, r.Kept l
  begun : ReflTransGen Happens r₀ r
  place : r.agents[i]? = some (.view me p)
  has : p.Has j failed
  why : ∀ f, failed = some f → Thwarted i f r₀ r
  lost : ∀ f, p = .ended (.error f) → GivesUp i j r₀ r

namespace Tracks

theorem access {l : Listener} {p' : ViewPoint}
    (h : Tracks i me j r₀ r p failed) (hl : r.station.listeners[r.channel]? = some l)
    (hwaits : r.waits (.view me p) = false)
    (hrun : (p.step me r.channel signalled).run r.station = (.ok p', st')) :
    Tracks i me j r₀ (r.play i signalled) p' (failed.or (p.obstacle? r.station l)) := by
  have hstep : Happens r (r.play i signalled) := .access r i signalled
  have hagent :
      (Agent.step r.channel signalled (.view me p)).run r.station = (.ok (.view me p'), st') :=
    run_bind_ok hrun
  have hplay := play_of_run h.place hwaits hagent
  obtain ⟨l₁, hkept⟩ := h.kept
  obtain ⟨l', hkept', -⟩ := hkept.play i signalled
  refine ⟨⟨l', hkept'⟩, h.begun.tail hstep, ?_, h.has.step hl hrun, fun f hf => ?_, ?_⟩
  · rw [hplay]
    exact Guard.Race.getElem?_set_of_getElem? h.place
  · cases failed with
    | some g => exact (h.why f hf).later hstep
    | none => exact ⟨r, me, p, l, signalled, h.begun, h.place, hwaits, hl, hf, .refl⟩
  · rintro f rfl
    rcases h.has.eq_of_failed hl hrun with rfl | rfl
    · refine ⟨r, signalled, h.begun, ⟨me, f, h.place⟩, fun x hx => ?_, .refl⟩
      obtain ⟨_, st₁, hdrop, hrest⟩ := of_run_bind hrun
      cases hrest
      rw [hplay] at hx
      exact closed_of_dropConnection hdrop hx
    · exact (h.lost f rfl).later hstep

theorem beside (h : Tracks i me j r₀ r p failed) (hr : Happens r r') (hkept : ∃ l, r'.Kept l)
    (hplace : r'.agents[i]? = r.agents[i]?) : Tracks i me j r₀ r' p failed :=
  ⟨hkept, h.begun.tail hr, hplace.trans h.place, h.has, fun f hf => (h.why f hf).later hr,
    fun f hf => (h.lost f hf).later hr⟩

theorem happens (h : Tracks i me j r₀ r p failed) (hr : Happens r r') :
    ∃ p' failed', Tracks i me j r₀ r' p' failed' ∧ ∀ f, failed = some f →
    failed' = some f := by
  obtain ⟨l, hkept⟩ := h.kept
  cases hr with
  | elsewhere hst =>
    obtain ⟨l', hkept', -⟩ := hkept.elsewhere hst
    exact ⟨p, failed, h.beside (.elsewhere hst) ⟨l', hkept'⟩ rfl, fun _ => id⟩
  | access k signalled =>
    obtain ⟨l', hkept', -⟩ := hkept.play k signalled
    rcases r.play_cases k signalled with hsame | ⟨a, a', st', ha, hwaits, hrun, hplay⟩
    · exact ⟨p, failed, h.beside (.access r k signalled) ⟨l', hkept'⟩ (by rw [hsame]),
        fun _ => id⟩
    · by_cases hk : k = i
      · subst hk
        cases ha.symm.trans h.place
        obtain ⟨p', st₁, hpoint, hrest⟩ := of_run_bind hrun
        cases hrest
        refine ⟨p', _, h.access hkept.listed hwaits hpoint, ?_⟩
        rintro f rfl
        rfl
      · refine ⟨p, failed, h.beside (.access r k signalled) ⟨l', hkept'⟩ ?_, fun _ => id⟩
        rw [hplay]
        exact List.getElem?_set_ne hk

theorem reached (h : Tracks i me j r₀ r p failed) (hr : ReflTransGen Happens r r') :
    ∃ p' failed', Tracks i me j r₀ r' p' failed' ∧ ∀ f, failed = some f →
    failed' = some f := by
  induction hr with
  | refl => exact ⟨p, failed, h, fun _ => id⟩
  | tail _ hstep ih =>
    obtain ⟨p₁, failed₁, h₁, hstill₁⟩ := ih
    obtain ⟨p', failed', h', hstill⟩ := h₁.happens hstep
    exact ⟨p', failed', h', fun f hf => hstill f (hstill₁ f hf)⟩

/-- The accept meets an obstacle. It had not failed before. -/
theorem thwart {l : Listener} (h : Tracks i me j r₀ r p failed) (signalled : Bool)
    (hwaits : r.waits (.view me p) = false) (hl : r.station.listeners[r.channel]? = some l)
    (hobstacle : p.obstacle? r.station l = some f) :
    ∃ p', Tracks i me j r₀ (r.play i signalled) p' (some f) := by
  have hhas := h.has
  cases hhas with
  | fasten q =>
    have hbusy : q.isOver = false := by
      cases q with
      | ended outcome => cases hobstacle
      | _ => rfl
    obtain ⟨q', st', hpoint⟩ := q.exists_run_step hl true
    have hrun : (ViewPoint.step me r.channel signalled (.fasten (.ok j) q)).run r.station =
        (.ok (.fasten (.ok j) q'), st') := by
      rw [ViewPoint.step_fasten me signalled _ hbusy]
      exact run_bind_ok hpoint
    have htracks := h.access hl hwaits hrun
    rw [hobstacle, ModePoint.failure?_of_obstacle hobstacle] at htracks
    exact ⟨_, htracks⟩
  | _ => cases hobstacle

end Tracks

/-- An accept through the view has taken a connection, and other calls are at work on the channel in
any order. When the accept answers, it answers with that connection exactly if no access by which
it was to make the channel block again met an obstacle. It answers with a failure exactly if one of
them met an obstacle with this failure, and then it has closed the connection. -/
theorem taken_connection_answered_iff {l : Listener} (hbegin : r₀.Begins l)
    (hr₀ : ReflTransGen Happens r₀ r) (htaken : r.taken? i = some j)
    (hr : ReflTransGen Happens r r') {answer : Except Failure ConnectionId}
    (hanswer : r'.answer? i = some answer) :
    (answer = .ok j ↔ ∀ f, ¬ Thwarted i f r r') ∧
      ∀ f, (answer = .error f ↔ Thwarted i f r r') ∧
      (answer = .error f → GivesUp i j r r') := by
  obtain ⟨-, l₁, hkept, -⟩ := (Kept.begins hbegin).reached hr₀
  obtain ⟨me, caller, hi⟩ := place_of_taken htaken
  obtain ⟨me', hplace'⟩ := place_of_answer hanswer
  have hstart : Tracks i me j r r (.accept caller (.ended (.ok (some j)))) none :=
    ⟨⟨l₁, hkept⟩, .refl, hi, .taken caller, by rintro f ⟨⟩, by rintro f ⟨⟩⟩
  -- whatever thwarts the accept on the way is what it answers
  have hthwarted (f : Failure) (h : Thwarted i f r r') : answer = .error f := by
    obtain ⟨r₁, me₁, p₁, l₁, signalled, hto, hplace, hwaits, hl, hobstacle, hfrom⟩ := h
    obtain ⟨p, failed, htracks, -⟩ := hstart.reached hto
    cases htracks.place.symm.trans hplace
    obtain ⟨p', hfails⟩ := htracks.thwart signalled hwaits hl hobstacle
    obtain ⟨p'', failed', hend, hstill⟩ := hfails.reached hfrom
    cases hend.place.symm.trans hplace'
    have hhas := hend.has
    rw [hstill f rfl] at hhas
    cases hhas
    rfl
  obtain ⟨p, failed, hend, -⟩ := hstart.reached hr
  cases hend.place.symm.trans hplace'
  have hhas := hend.has
  cases hhas with
  | answered =>
    have hnever (f : Failure) (h : Thwarted i f r r') : False := by
      cases hthwarted f h
    refine ⟨⟨fun _ => hnever, fun _ => rfl⟩, fun f =>
      ⟨⟨?_, fun h => (hnever f h).elim⟩, ?_⟩⟩ <;> rintro ⟨⟩
  | failed g =>
    refine ⟨⟨by rintro ⟨⟩, fun hnever => absurd (hend.why g rfl) (hnever g)⟩, fun f =>
      ⟨⟨?_, hthwarted f⟩, ?_⟩⟩
    · rintro ⟨⟩
      exact hend.why g rfl
    · rintro ⟨⟩
      exact hend.lost g rfl

/-- A channel with a timeout, to which somebody has connected. -/
def visitedStation : Station :=
  { timedStation with
    network := ((Net.connect (.v4 ⟨127, 0, 0, 1⟩ 0) (.v4 ⟨127, 0, 0, 1⟩ 40687)).run
      timedStation.network).2 }

/-- An accept through the view, and a registration. -/
def visitedRace : ModeRace where
  station := visitedStation
  channel := 0
  agents := [.view 0 .enter, .register 0 16 .enter]

/-- The accept has made the channel non-blocking, the channel is registered, and the accept takes
the connection. -/
def keyedVisit : ModeRace :=
  visitedRace.plays (List.replicate 11 0 ++ List.replicate 10 1 ++ List.replicate 17 0)

theorem registered_meanwhile_loses_connection :
    keyedVisit.taken? 0 = some 0 ∧
      (keyedVisit.plays (List.replicate 6 0)).answer? 0 = some (.error .illegalBlockingMode) ∧
      Thwarted 0 .illegalBlockingMode keyedVisit (keyedVisit.plays (List.replicate 6 0)) ∧
      GivesUp 0 0 keyedVisit (keyedVisit.plays (List.replicate 6 0)) := by
  have hbegins : visitedRace.Begins
      { id := 1, descriptor := { number := 3 }, timeout := some 100,
        localAddress := timedStation.listeners[0]?.bind Listener.localAddress } :=
    { listed := by rfl
      agents := by decide
      given := rfl
      keyed := by simp
      marked := by rintro ⟨⟩
      stray := by rintro ⟨⟩
      mode := .inl (by decide +kernel)
      below := by decide +kernel
      connections := by
        intro x hx
        cases hx }
  have htaken : keyedVisit.taken? 0 = some 0 := by decide +kernel
  have hanswer : (keyedVisit.plays (List.replicate 6 0)).answer? 0 =
      some (.error .illegalBlockingMode) := by decide +kernel
  have hfails :=
    (taken_connection_answered_iff hbegins (reaches_plays _ _) htaken (reaches_plays _ _)
    hanswer).2 .illegalBlockingMode
  exact ⟨htaken, hanswer, hfails.1.mp rfl, hfails.2 rfl⟩

end ModeRace
end PolledChannels
