import PolledChannels.Proofs.ModeTurns

/-!
# Registered channels do not block

Whatever calls are at work on a channel and in whatever order they do their accesses: whenever the
channel lists a valid key, its flag says that it does not block, and so does the mode of its
descriptor in the kernel, until a close has given the descriptor back.

The flag, the mode and the list are written in different accesses, and keys become invalid
without the lock of registrations. The invariant has, beside what each call relies on, that only
one call keeps that lock, and that the mode of the descriptor is what the one call that is
between its call of the network and the flag has set, or else what the flag says. Only a stray
channel, one that was adopted over a non-blocking descriptor, may have a flag that says something
else, until a call writes the flag.
-/

namespace PolledChannels

open PolledChannels.Action Relation

section Locks

variable {c : ListenerId} {st st' : Station} {signalled : Bool} {f : Facts}

/-! ## The lock of registrations -/

/-- The call keeps the lock of registrations. -/
def Agent.Locks (c : ListenerId) (a : Agent) : Prop :=
  .lock (.registering c) ∈ a.holds c

theorem ShutPoint.registering_not_mem (c : ListenerId) (p : ShutPoint) :
    .registering c ∉ p.holds c := by
  cases p with
  | rest point => cases point <;> simp [holds, ClosePoint.holds]
  | _ => simp [holds]

theorem AcceptPoint.registering_not_mem (me : ThreadId) (c : ListenerId) (p : AcceptPoint) :
    .lock (.registering c) ∉ (Party.accept me c p).holds := by
  intro hmem
  cases p with
  | own point =>
    rcases List.mem_cons.mp hmem with hturn | hmem
    · cases hturn
    · obtain ⟨lock, hlock, hsame⟩ := List.mem_map.mp hmem
      cases hsame
      exact point.registering_not_mem c hlock
  | _ => simp [Party.holds] at hmem

theorem Agent.change_of_locks {a : Agent} (h : a.Locks c) :
    (∃ s ops p, a = .register s ops p ∧ p.holds c ≠ []) ∨
      ∃ b q, a.change? = some (b, q) ∧ q ≠ .enter ∧ q.isOver = false := by
  have hmode {q : ModePoint} (hq : .lock (.registering c) ∈ (q.holds c).map Bar.lock) :
      q ≠ .enter ∧ q.isOver = false := by
    cases q with
    | enter | ended outcome => cases hq
    | _ => exact ⟨by rintro ⟨⟩, rfl⟩
  cases a with
  | register s ops p =>
    refine .inl ⟨s, ops, p, rfl, ?_⟩
    intro hnil
    have hmem : Bar.lock (.registering c) ∈ (p.holds c).map Bar.lock := h
    rw [hnil] at hmem
    cases hmem
  | configure block point => exact .inr ⟨block, point, rfl, hmode h⟩
  | cancel point => cases h
  | deregister k point =>
    exfalso
    have hmem : Bar.lock (.registering c) ∈ (point.holds c).map Bar.lock := h
    cases point with
    | kill point => cases point <;> simp [LeavePoint.holds] at hmem
    | _ => simp [LeavePoint.holds] at hmem
  | close target point =>
    exfalso
    obtain ⟨lock, hlock, hsame⟩ := List.mem_map.mp h
    cases hsame
    exact point.registering_not_mem c hlock
  | accept me point => exact absurd h (AcceptPoint.registering_not_mem me c point)
  | view me point =>
    cases point with
    | loosen timeout point => exact .inr ⟨false, point, rfl, hmode h⟩
    | fasten answer point => exact .inr ⟨true, point, rfl, hmode h⟩
    | accept caller point => exact absurd h (AcceptPoint.registering_not_mem me c point)
    | _ => cases h

namespace Agent

variable {a a' : Agent} {b : Bool} {q : ModePoint}

/-- A call in a change of the mode keeps, waits for and relies on what the change does. -/
theorem of_change (h : a.change? = some (b, q)) :
    a.holds c = (q.holds c).map .lock ∧ a.wants c = (q.wants c).map .lock ∧
      ∀ f, a.Relies f → q.Relies f b := by
  cases a with
  | configure block point =>
    cases h
    exact ⟨rfl, rfl, fun _ => id⟩
  | view me point =>
    cases point with
    | loosen timeout point | fasten answer point =>
      cases h
      exact ⟨rfl, rfl, fun _ => id⟩
    | _ => cases h
  | _ => cases h

theorem locks_of_change (h : a.change? = some (b, q)) (hq : q ≠ .enter)
    (hover : q.isOver = false) :
    a.Locks c := by
  rw [Locks, (of_change h).1]
  cases q with
  | enter => exact absurd rfl hq
  | ended outcome => cases hover
  | _ => exact .head _

theorem locks_of_lists (h : a.lists = true) : a.Locks c := by
  cases a with
  | register s ops point =>
    cases point with
    | make | list k => exact .head _
    | _ => cases h
  | _ => cases h

theorem locks_after (hrun : (a.step c signalled).run st = (.ok a', st')) (h : a'.Locks c) :
    a.Locks c ∨ a.wants c = some (.lock (.registering c)) := by
  rcases change_of_locks h with ⟨s, ops, p', rfl, hheld⟩ | ⟨b, q', hchange', hbegun, hbusy⟩
  · cases a with
    | register s₀ ops₀ p =>
      cases p with
      | enter => exact .inr rfl
      | ended outcome =>
        cases hrun
        exact absurd rfl hheld
      | _ => exact .inl (.head _)
    | _ =>
      obtain ⟨x, st₁, -, hrun⟩ := of_run_bind hrun
      cases hrun
  · have hunder : ∃ b q, a.change? = some (b, q) ∧ q.isOver = false := by
      by_contra hnone
      have hidle : ∀ b q, a.change? = some (b, q) → q.isOver = true := by
        intro b q hq
        by_contra hover
        exact hnone ⟨b, q, hq, Bool.eq_false_iff.mpr hover⟩
      rcases change_begins hidle hrun hchange' with hq | hover
      · exact hbegun hq
      · cases hbusy.symm.trans hover
    obtain ⟨b, q, hchange, hover⟩ := hunder
    cases hq : q with
    | enter =>
      subst hq
      exact .inr (of_change hchange).2.1
    | _ => exact .inl (locks_of_change hchange (by rw [hq]; rintro ⟨⟩) hover)

theorem closed_of_gives (ha : a.Relies f) (h : a.gives = true) : f.closed := by
  have hmode {b : Bool} {q : ModePoint} (hq : q.Relies f b) (h : q.gives = true) : f.closed := by
    cases q with
    | give r => exact hq.2
    | _ => cases h
  have hshut {p : ShutPoint} (hp : p.Relies f) (h : p.gives = true) : f.closed := by
    refine hp ?_
    cases p with
    | rest point =>
      cases point with
      | shut => cases h
      | _ => rfl
    | _ => cases h
  have haccept {p : AcceptPoint} (hp : p.Relies f) (h : p.gives = true) : f.closed := by
    cases p with
    | give attempt => exact hp.2
    | own point => exact hshut hp h
    | _ => cases h
  cases a with
  | configure block point => exact hmode ha h
  | deregister k point =>
    cases point with
    | kill point => exact ha
    | _ => cases h
  | close target point => exact hshut ha h
  | accept me point => exact haccept ha h
  | view me point =>
    cases point with
    | loosen timeout point | fasten answer point => exact hmode ha h
    | give deadline r => exact ha
    | accept caller point => exact haccept ha h
    | _ => cases h
  | _ => cases h

end Agent
end Locks

namespace ModeRace

theorem play_cases (r : ModeRace) (i : Nat) (signalled : Bool) :
    r.play i signalled = r ∨
      ∃ a a' st', r.agents[i]? = some a ∧ r.waits a = false ∧
        (a.step r.channel signalled).run r.station = (.ok a', st') ∧
        r.play i signalled =
          { r with
            station := st', agents := r.agents.set i a'
            given := r.given || a.gives, stray := r.stray && a.stores.isNone } := by
  unfold play
  split
  · exact .inl rfl
  · next a ha =>
    split
    · exact .inl rfl
    · next hwaits =>
      split
      · exact .inl rfl
      · next a' st' hrun =>
          exact .inr ⟨a, a', st', ha, Bool.eq_false_iff.mpr hwaits, hrun, rfl⟩

theorem channel_play (r : ModeRace) (i : Nat) (signalled : Bool) :
    (r.play i signalled).channel = r.channel := by
  rcases r.play_cases i signalled with hsame | ⟨a, a', st', -, -, -, hplay⟩
  · rw [hsame]
  · rw [hplay]

/-! ## The mode between its call and the flag -/

section Told

variable {agents : List Agent} {i : Nat} {a a' : Agent} {mode : Option Bool} {flag stray b : Bool}

theorem mem_agents_after {d : Agent} (hd : d ∈ agents.set i a') :
    d = a' ∨ ∃ j, j ≠ i ∧ agents[j]? = some d := by
  obtain ⟨j, hj⟩ := List.getElem?_of_mem hd
  rcases Guard.Race.getElem?_set_cases hj with ⟨-, hsame⟩ | ⟨hne, hold⟩
  · exact .inl hsame
  · exact .inr ⟨j, hne, hold⟩

/-- The mode of the descriptor is what a call has set and not written down; if there is no such
call, it is what the flag says, or non-blocking if the channel is a stray. -/
structure Told (agents : List Agent) (mode : Option Bool) (flag stray : Bool) : Prop where
  applied : ∀ a ∈ agents, ∀ b, a.applied? = some b → mode = some b
  settled : (∀ a ∈ agents, a.applied? = none) → mode = some flag ∨ stray = true ∧
    mode = some false

/-- A call moves and neither sets the mode nor writes it down. -/
theorem Told.moved (h : Told agents mode flag stray) (ha : agents[i]? = some a)
    (hsame : a'.applied? = a.applied?) : Told (agents.set i a') mode flag stray := by
  refine ⟨fun d hd b hb => ?_, fun hall => h.settled fun d hd => ?_⟩
  · rcases mem_agents_after hd with rfl | ⟨j, -, hd⟩
    · exact h.applied a (List.mem_of_getElem? ha) b (hsame.symm.trans hb)
    · exact h.applied d (List.mem_of_getElem? hd) b hb
  · by_cases hda : d = a
    · subst hda
      exact hsame.symm.trans
        (hall a' (List.mem_of_getElem? (Guard.Race.getElem?_set_of_getElem? ha)))
    · exact hall d (Guard.Race.mem_set_of_ne ha hd hda)

theorem Told.set (hothers : ∀ j d, j ≠ i → agents[j]? = some d → d.applied? = none)
    (ha : agents[i]? = some a) (ha' : a'.applied? = some b) :
    Told (agents.set i a') (some b) flag stray := by
  refine ⟨fun d hd b' hb' => ?_, fun hall => ?_⟩
  · rcases mem_agents_after hd with rfl | ⟨j, hj, hd⟩
    · exact ha'.symm.trans hb'
    · cases (hothers j d hj hd).symm.trans hb'
  · cases ha'.symm.trans (hall a' (List.mem_of_getElem? (Guard.Race.getElem?_set_of_getElem? ha)))

theorem Told.written (hothers : ∀ j d, j ≠ i → agents[j]? = some d → d.applied? = none)
    (ha' : a'.applied? = none) : Told (agents.set i a') (some b) b stray := by
  refine ⟨fun d hd b' hb' => ?_, fun _ => .inl rfl⟩
  rcases mem_agents_after hd with rfl | ⟨j, hj, hd⟩
  · cases ha'.symm.trans hb'
  · cases (hothers j d hj hd).symm.trans hb'

end Told

/-! ## The invariant -/

/-- What holds in every race. -/
structure Kept (r : ModeRace) (l : Listener) : Prop where
  listed : r.station.listeners[r.channel]? = some l
  relies : ∀ a ∈ r.agents, a.Relies (r.station.facts l r.given)
  /-- Only one call keeps the lock of registrations. -/
  alone : ∀ (i j : Nat) (a b : Agent), r.agents[i]? = some a → r.agents[j]? = some b →
    a.Locks r.channel → b.Locks r.channel → i = j
  keyed : (r.station.facts l r.given).keyed → l.core.blocking = false
  marked : Guard.isClosed l.descriptor.word = true → l.core.isOpen = false
  given : r.given = true → l.core.isOpen = false
  stray : r.stray = true → l.core.blocking = true
  below : r.given = false → l.descriptor.number < r.station.network.nextNumber
  connections :
    r.given = false → ∀ x ∈ r.station.connections, x.descriptor.number ≠ l.descriptor.number
  /-- The mode is what a call has set and not written down. -/
  applied : r.given = false → ∀ a ∈ r.agents, ∀ b, a.applied? = some b →
    r.station.network.mode? l.descriptor.number = some b
  /-- The mode is what the flag says, if no call is between the two and the channel is no stray. -/
  mode : r.given = false → (∀ a ∈ r.agents, a.applied? = none) →
    r.station.network.mode? l.descriptor.number = some l.core.blocking ∨
      r.stray = true ∧ r.station.network.mode? l.descriptor.number = some false

namespace Kept

variable {r : ModeRace} {l : Listener}

/-- A call that has set the mode relies on what its change relies on. -/
theorem relies_of_applied (h : r.Kept l) {a : Agent} (ha : a ∈ r.agents) {b : Bool}
    (happlied : a.applied? = some b) :
    l.core.blocking = !b ∧ (b = true → ¬ (r.station.facts l r.given).keyed) := by
  obtain ⟨q, hchange, happlies⟩ := Agent.change_of_applied happlied
  have hq := (Agent.of_change (c := r.channel) hchange).2.2 _ (h.relies a ha)
  cases q with
  | leave r | store => exact hq
  | give r => exact hq.1
  | _ => cases happlies

/-- The channel with a valid key does not block, and neither does its descriptor. -/
theorem nonblocking (h : r.Kept l) (hkeyed : (r.station.facts l r.given).keyed) :
    l.core.blocking = false ∧
      (r.station.network.mode? l.descriptor.number = some false ∨
        r.given = true ∧ l.core.isOpen = false) := by
  refine ⟨h.keyed hkeyed, ?_⟩
  cases hgiven : r.given with
  | true => exact .inr ⟨rfl, h.given hgiven⟩
  | false =>
    left
    by_cases hbetween : ∃ a ∈ r.agents, ∃ b, a.applied? = some b
    · obtain ⟨a, ha, b, happlied⟩ := hbetween
      have hnone := (h.relies_of_applied ha happlied).2
      cases b with
      | true => exact absurd hkeyed (hnone rfl)
      | false => exact h.applied hgiven a ha false happlied
    · have hnone (a : Agent) (ha : a ∈ r.agents) : a.applied? = none := by
        rw [Option.eq_none_iff_forall_ne_some]
        intro b happlied
        exact hbetween ⟨a, ha, b, happlied⟩
      rcases h.mode hgiven hnone with hmode | ⟨-, hmode⟩
      · rw [hmode, h.keyed hkeyed]
      · exact hmode

/-! ### One access -/

section Access

variable {a a' b : Agent} {i j : Nat} {st' : Station} {signalled : Bool}

theorem meets (h : r.Kept l) (a : Agent) :
    r.station.Meets r.channel (a.hold r.station l r.given) where
  channel := ⟨l, h.listed, ⟨rfl, .inl rfl, id, .inl⟩, fun _ hk hv => .inl ⟨hk, hv⟩⟩
  number hkept := ⟨⟨.inl rfl, h.below hkept.1⟩, h.connections hkept.1⟩

/-- What an access leaves of the channel and of what calls rely on. -/
structure Moves (r : ModeRace) (l : Listener) (a : Agent) (st' : Station) (l' : Listener) :
    Prop where
  listed : st'.listeners[r.channel]? = some l'
  number : l'.descriptor.number = l.descriptor.number
  closed : l.core.isOpen = false → l'.core.isOpen = false
  marked : Guard.isClosed l'.descriptor.word = true →
    Guard.isClosed l.descriptor.word = true ∨ l.core.isOpen = false
  blocking : l'.core.blocking = l.core.blocking ∨ a.stores = some l'.core.blocking
  keyed : a.lists = false → (st'.facts l' (r.given || a.gives)).keyed →
    (r.station.facts l r.given).keyed
  network : (r.given || a.gives) = false → st'.network.Spares l.descriptor.number
    fun m => m = r.station.network.mode? l.descriptor.number ∨ a.sets = true
  connections : (r.given || a.gives) = false →
    ∀ x ∈ st'.connections, x.descriptor.number ≠ l.descriptor.number

theorem moves (h : r.Kept l) (ha : a ∈ r.agents)
    (hrun : (a.step r.channel signalled).run r.station = (.ok a', st')) :
    ∃ l', Moves r l a st' l' := by
  have hmeets : st'.Meets r.channel (a.hold r.station l r.given) := by
    have hkeeps :=
      Agent.upholds (c := r.channel) (Agent.suits (h.relies a ha)) signalled _ (h.meets a)
    rwa [hrun] at hkeeps
  obtain ⟨l', hl', hfits, hlive⟩ := hmeets.channel
  have hkept (hgiven : (r.given || a.gives) = false) : (a.hold r.station l r.given).kept :=
    Bool.or_eq_false_iff.mp hgiven
  refine ⟨l', hl', hfits.number, ?_, hfits.marked, hfits.blocking, ?_,
    fun hgiven => (hmeets.number (hkept hgiven)).network,
    fun hgiven => (hmeets.number (hkept hgiven)).connections⟩
  · intro hclosed
    rw [← Bool.not_eq_true]
    intro hopen
    cases hclosed.symm.trans (hfits.opened hopen)
  · rintro hlists ⟨k, hk, hv⟩
    rcases hlive k hk hv with hlive | hnew
    · exact ⟨k, hlive⟩
    · cases hlists.symm.trans hnew

namespace Moves

variable {l' : Listener}

theorem blocking_eq (h : Moves r l a st' l') (hstores : a.stores = none) :
    l'.core.blocking = l.core.blocking := by
  rcases h.blocking with hsame | hnew
  · exact hsame
  · cases hstores.symm.trans hnew

/-- Calls that keep the lock see neither the flag nor the list change. -/
theorem drifts (h : Moves r l a st' l') {locked : Prop}
    (hquiet : locked → a.stores = none ∧ a.lists = false) :
    (r.station.facts l r.given).Drifts (st'.facts l' (r.given || a.gives)) locked where
  blocking hlocked := h.blocking_eq (hquiet hlocked).1
  keyed hlocked := h.keyed (hquiet hlocked).2
  closed := h.closed
  foreign n hn := by
    rcases hn with hgiven | hne
    · exact .inl (by rw [hgiven]; rfl)
    · exact .inr (by rw [h.number]; exact hne)

/-- A listed valid key came with a call that relies on the flag, or was there before. -/
theorem keyed_blocking (h : Moves r l a st' l') (hr : r.Kept l)
    (ha : a.Relies (r.station.facts l r.given))
    (hkeyed : (st'.facts l' (r.given || a.gives)).keyed) : l'.core.blocking = false := by
  cases hlists : a.lists with
  | true =>
    cases a with
    | register s ops point =>
      rw [h.blocking_eq rfl]
      cases point with
      | make | list k => exact ha
      | _ => cases hlists
    | _ => cases hlists
  | false =>
    have hwas := h.keyed hlists hkeyed
    rcases h.blocking with hsame | hstores
    · exact hsame.trans (hr.keyed hwas)
    · -- a change to blocking has looked for keys, and relies on there being none
      have hq := (Agent.of_change (c := r.channel) (Agent.change_of_stores hstores)).2.2 _ ha
      rw [← Bool.not_eq_true]
      intro hblocks
      exact hq.2 hblocks hwas

end Moves

theorem not_locks_of_waits (hwaits : r.waits a = false)
    (hwants : a.wants r.channel = some (.lock (.registering r.channel))) (hb : b ∈ r.agents) :
    ¬ b.Locks r.channel := by
  intro hlocks
  rw [waits, hwants] at hwaits
  have hany := List.any_eq_false.mp hwaits b hb
  exact hany (List.contains_iff_mem.mpr hlocks)

theorem quiet_of_locks (h : r.Kept l) (ha : r.agents[i]? = some a) (hj : j ≠ i)
    (hb : r.agents[j]? = some b) (hlocks : b.Locks r.channel) :
      a.stores = none ∧ a.lists = false := by
  have hfree : ¬ a.Locks r.channel := fun hheld => hj (h.alone j i b a hb ha hlocks hheld)
  refine ⟨?_, ?_⟩
  · rw [Option.eq_none_iff_forall_ne_some]
    intro block hstores
    exact hfree (Agent.locks_of_change (Agent.change_of_stores hstores) (by rintro ⟨⟩) rfl)
  · rw [← Bool.not_eq_true]
    exact fun hlists => hfree (Agent.locks_of_lists hlists)

theorem relies_after (h : r.Kept l) (ha : r.agents[i]? = some a) {l' : Listener}
    (hm : Moves r l a st' l') (hrun : (a.step r.channel signalled).run r.station = (.ok a', st'))
    (hb : b ∈ r.agents.set i a') : b.Relies (st'.facts l' (r.given || a.gives)) := by
  rcases mem_agents_after hb with rfl | ⟨j, hj, hb⟩
  · refine Agent.Relies.after h.listed hm.listed h.marked ?_ (hm.drifts False.elim)
      (h.relies a (List.mem_of_getElem? ha)) hm.blocking_eq
      (fun hstores hlists => hm.drifts fun _ => ⟨hstores, hlists⟩) hrun
    intro hgiven
    rw [hm.number]
    exact h.below (Bool.or_eq_false_iff.mp hgiven).1
  · exact (h.relies b (List.mem_of_getElem? hb)).drift (hm.drifts (h.quiet_of_locks ha hj hb))

theorem locks_of_applied {b : Bool} (h : a.applied? = some b) : a.Locks r.channel := by
  obtain ⟨q, hchange, happlies⟩ := Agent.change_of_applied h
  refine Agent.locks_of_change hchange ?_ ?_
  · rintro rfl
    cases happlies
  · cases q with
    | ended outcome => cases happlies
    | _ => rfl

/-- While a call keeps the lock, no other has set the mode without writing it down. -/
theorem applied?_eq_none (h : r.Kept l) (ha : r.agents[i]? = some a) (hlocks : a.Locks r.channel)
    (hj : j ≠ i) (hb : r.agents[j]? = some b) : b.applied? = none := by
  rw [Option.eq_none_iff_forall_ne_some]
  intro block happlied
  exact hj (h.alone j i b a hb ha (locks_of_applied happlied) hlocks)

theorem told_after (h : r.Kept l) (ha : r.agents[i]? = some a) {l' : Listener}
    (hm : Moves r l a st' l') (hrun : (a.step r.channel signalled).run r.station = (.ok a', st'))
    (hgiven : (r.given || a.gives) = false) :
    Told (r.agents.set i a') (st'.network.mode? l.descriptor.number) l'.core.blocking
      (r.stray && a.stores.isNone) := by
  have hkept := (Bool.or_eq_false_iff.mp hgiven).1
  have htold :
      Told r.agents (r.station.network.mode? l.descriptor.number) l.core.blocking r.stray :=
    ⟨h.applied hkept, h.mode hkept⟩
  -- where the mover keeps the lock, nobody else has set the mode
  have hothers (hlocks : a.Locks r.channel) (j : Nat) (d : Agent) (hj : j ≠ i)
      (hd : r.agents[j]? = some d) : d.applied? = none :=
    h.applied?_eq_none ha hlocks hj hd
  cases hsets : a.sets with
  | true =>
    obtain ⟨block, hchange⟩ := Agent.change_of_sets hsets
    have hlocks : a.Locks r.channel := Agent.locks_of_change hchange (by rintro ⟨⟩) rfl
    have hstores : a.stores = none := Agent.stores_of_change hchange (by rintro ⟨⟩)
    rw [hm.blocking_eq hstores, hstores, Option.isNone_none, Bool.and_true]
    obtain ⟨hbefore, b, ⟨happlied, hmode⟩ | ⟨happlied, hmode⟩⟩ :=
      Agent.applied?_after_set h.listed hsets hrun
    · rw [hmode]
      exact .set (hothers hlocks) ha happlied
    · rw [hmode]
      exact htold.moved ha (happlied.trans hbefore.symm)
  | false =>
    have hmode :
        st'.network.mode? l.descriptor.number = r.station.network.mode? l.descriptor.number := by
      rcases (hm.network hgiven).mode with hsame | hset
      · exact hsame
      · cases hsets.symm.trans hset
    rw [hmode]
    cases hstores : a.stores with
    | some block =>
      have hlocks : a.Locks r.channel :=
        Agent.locks_of_change (Agent.change_of_stores hstores) (by rintro ⟨⟩) rfl
      obtain ⟨hbefore, hafter, hflag⟩ := Agent.applied?_after_store h.listed hstores hrun
      rw [hflag l' hm.listed, htold.applied a (List.mem_of_getElem? ha) block hbefore]
      exact .written (hothers hlocks) hafter
    | none =>
      rw [hm.blocking_eq hstores, Option.isNone_none, Bool.and_true]
      exact htold.moved ha (Agent.applied?_after h.listed hsets hstores hrun)

end Access

theorem moved {a a' : Agent} {i : Nat} {st' : Station} {signalled : Bool} {l' : Listener}
    (h : r.Kept l) (ha : r.agents[i]? = some a) (hwaits : r.waits a = false)
    (hrun : (a.step r.channel signalled).run r.station = (.ok a', st')) (hm : Moves r l a st' l') :
    Kept { r with
      station := st', agents := r.agents.set i a'
      given := r.given || a.gives, stray := r.stray && a.stores.isNone } l' := by
  have hmem : a ∈ r.agents := List.mem_of_getElem? ha
  exact {
    listed := hm.listed
    relies := fun b hb => h.relies_after ha hm hrun hb
    alone := Guard.Race.alone_set (P := Agent.Locks r.channel) ha h.alone fun hlocks =>
      (Agent.locks_after hrun hlocks).imp_right fun hwants _ _ hk =>
        not_locks_of_waits hwaits hwants (List.mem_of_getElem? hk)
    keyed := hm.keyed_blocking h (h.relies a hmem)
    marked := fun hbit => hm.closed ((hm.marked hbit).elim h.marked id)
    given := fun hgiven => hm.closed ((Bool.or_eq_true_iff.mp hgiven).elim h.given
      (Agent.closed_of_gives (h.relies a hmem)))
    stray := fun hstray => by
      obtain ⟨hstray, hstores⟩ := Bool.and_eq_true_iff.mp hstray
      rw [hm.blocking_eq (Option.isNone_iff_eq_none.mp hstores)]
      exact h.stray hstray
    below := fun hgiven => by
      rw [hm.number]
      exact (hm.network hgiven).below
    connections := fun hgiven => by
      rw [hm.number]
      exact hm.connections hgiven
    applied := fun hgiven => by
      rw [hm.number]
      exact (h.told_after ha hm hrun hgiven).applied
    mode := fun hgiven => by
      rw [hm.number]
      exact (h.told_after ha hm hrun hgiven).settled }

theorem play (h : r.Kept l) (i : Nat) (signalled : Bool) :
    ∃ l', (r.play i signalled).Kept l' ∧ l'.descriptor.number = l.descriptor.number := by
  rcases r.play_cases i signalled with hsame | ⟨a, a', st', ha, hwaits, hrun, hplay⟩
  · rw [hsame]
    exact ⟨l, h, rfl⟩
  · rw [hplay]
    obtain ⟨l', hm⟩ := h.moves (List.mem_of_getElem? ha) hrun
    exact ⟨l', h.moved ha hwaits hrun hm, hm.number⟩

theorem elsewhere (h : r.Kept l) {st' : Station}
    (hst : r.station.Undisturbed r.channel r.given st') :
    ∃ l', Kept { r with station := st' } l' ∧ l'.core = l.core ∧
    l'.descriptor = l.descriptor := by
  obtain ⟨l', hl', hcore, hdescriptor, hvalid, hkept⟩ := hst.channel l h.listed
  have hkeyed (hk : (st'.facts l' r.given).keyed) : (r.station.facts l r.given).keyed := by
    obtain ⟨k, hk, hv⟩ := hk
    rw [hcore] at hk
    exact ⟨k, hk, hvalid k hk hv⟩
  have hdrifts (locked : Prop) :
      (r.station.facts l r.given).Drifts (st'.facts l' r.given) locked := by
    refine ⟨fun _ => ?_, fun _ => hkeyed, fun hclosed => ?_, fun n hn => ?_⟩
    · show l'.core.blocking = l.core.blocking
      rw [hcore]
    · show l'.core.isOpen = false
      rw [hcore]
      exact hclosed
    · show r.given = true ∨ n ≠ l'.descriptor.number
      rw [hdescriptor]
      exact hn
  refine ⟨l', ?_, hcore, hdescriptor⟩
  exact {
    listed := hl'
    relies := fun a ha => (h.relies a ha).drift (c := r.channel) (hdrifts _)
    alone := h.alone
    keyed := fun hk => by
      rw [hcore]
      exact h.keyed (hkeyed hk)
    marked := by
      rw [hcore, hdescriptor]
      exact h.marked
    given := by
      rw [hcore]
      exact h.given
    stray := by
      rw [hcore]
      exact h.stray
    below := fun hgiven => by
      rw [hdescriptor]
      have hbelow := h.below hgiven
      have hgrown : r.station.network.nextNumber ≤ st'.network.nextNumber := (hkept hgiven).2.1
      show l.descriptor.number < st'.network.nextNumber
      omega
    connections := fun hgiven x hx => by
      rw [hdescriptor]
      rcases (hkept hgiven).2.2 x hx with hold | hne
      · exact h.connections hgiven x hold
      · exact hne
    applied := fun hgiven a ha b happlied => by
      rw [hdescriptor]
      exact (hkept hgiven).1.trans (h.applied hgiven a ha b happlied)
    mode := fun hgiven hnone => by
      rw [hdescriptor, hcore, (hkept hgiven).1]
      exact h.mode hgiven hnone }

theorem begins (h : r.Begins l) : r.Kept l := by
  have hidle (a : Agent) (ha : a ∈ r.agents) :
      a.Relies (r.station.facts l r.given) ∧ ¬ a.Locks r.channel := by
    have hbegins := h.agents a ha
    cases a with
    | cancel point => exact ⟨trivial, by rintro ⟨⟩⟩
    | close target point =>
      cases point with
      | flip => exact ⟨by rintro ⟨⟩, by rintro ⟨⟩⟩
      | _ => cases hbegins
    | deregister k point =>
      cases point with
      | strike => exact ⟨trivial, by rintro ⟨⟩⟩
      | _ => cases hbegins
    | accept me point =>
      cases point with
      | turn => exact ⟨trivial, by rintro ⟨⟩⟩
      | _ => cases hbegins
    | register s ops point | configure block point | view me point =>
      cases point with
      | enter => exact ⟨trivial, by rintro ⟨⟩⟩
      | _ => cases hbegins
  have hnone (a : Agent) (ha : a ∈ r.agents) : a.applied? = none := by
    rw [Option.eq_none_iff_forall_ne_some]
    intro b happlied
    exact (hidle a ha).2 (locks_of_applied happlied)
  exact {
    listed := h.listed
    relies := fun a ha => (hidle a ha).1
    alone := fun i j a b ha _ hlocks _ => absurd hlocks (hidle a (List.mem_of_getElem? ha)).2
    keyed := fun ⟨k, hk, hv⟩ => h.keyed k hk hv
    marked := h.marked
    given := fun hgiven => by cases h.given.symm.trans hgiven
    stray := h.stray
    below := fun _ => h.below
    connections := fun _ => h.connections
    applied := fun _ a ha b happlied => by cases (hnone a ha).symm.trans happlied
    mode := fun _ _ => h.mode }

theorem reached (h : r.Kept l) {r' : ModeRace} (hr : ReflTransGen Happens r r') :
    r'.channel = r.channel ∧ ∃ l', r'.Kept l' ∧
    l'.descriptor.number = l.descriptor.number := by
  induction hr with
  | refl => exact ⟨rfl, l, h, rfl⟩
  | tail _ hstep ih =>
    obtain ⟨hchannel, l₁, hkept, hnumber⟩ := ih
    cases hstep with
    | access i signalled =>
      obtain ⟨l', hkept', hnumber'⟩ := hkept.play i signalled
      exact ⟨(channel_play _ i signalled).trans hchannel, l', hkept', hnumber'.trans hnumber⟩
    | elsewhere hst =>
      obtain ⟨l', hkept', -, hdescriptor⟩ := hkept.elsewhere hst
      exact ⟨hchannel, l', hkept', by rw [hdescriptor, hnumber]⟩

end Kept

/-- For every race of registrations, mode changes, cancellations, deregistrations, closes, accepts,
and accepts through the blocking view on one channel, whose mode nobody else sets: at every point of
it, if the channel lists a valid key, its flag says that it does not block, and the mode of its
descriptor is non-blocking, unless the channel is closed and its descriptor was given back. -/
theorem registered_never_blocks {r r' : ModeRace} {l : Listener} (hr : r.Begins l)
    (h : ReflTransGen Happens r r') :
    ∃ l', r'.station.listeners[r.channel]? = some l' ∧
    l'.descriptor.number = l.descriptor.number ∧
      ∀ k ∈ l'.core.keys, r'.station.keyValid k = true →
        l'.core.blocking = false ∧
          (r'.station.network.mode? l'.descriptor.number = some false ∨
            r'.given = true ∧ l'.core.isOpen = false) := by
  obtain ⟨hchannel, l', hkept, hnumber⟩ := (Kept.begins hr).reached h
  refine ⟨l', hchannel ▸ hkept.listed, hnumber, fun k hk hv => ?_⟩
  exact hkept.nonblocking ⟨k, hk, hv⟩

/-- Some calls move, one after the other. -/
def plays (r : ModeRace) (moves : List Nat) : ModeRace :=
  moves.foldl (fun r i => r.play i false) r

theorem reaches_plays (moves : List Nat) (r : ModeRace) :
    ReflTransGen Happens r (r.plays moves) := by
  induction moves generalizing r with
  | nil => exact .refl
  | cons i rest ih => exact .head (.access r i false) (ih (r.play i false))

/-- One call does its accesses, each of which is a step. -/
theorem reaches_replicate {S : ModeRace → ModeRace → Prop} {r : ModeRace} {i : Nat} (n : Nat)
    (h : ∀ k < n, S (r.plays (List.replicate k i))
      ((r.plays (List.replicate k i)).play i false)) :
    ReflTransGen S r (r.plays (List.replicate n i)) := by
  induction n with
  | zero => exact .refl
  | succ n ih =>
    have hlast :
        r.plays (List.replicate (n + 1) i) = (r.plays (List.replicate n i)).play i false := by
      rw [List.replicate_succ', plays, List.foldl_append]
      rfl
    rw [hlast]
    exact (ih fun k hk => h k (Nat.lt_succ_of_lt hk)).tail (h n (Nat.lt_succ_self n))

/-- A bound channel with a timeout, and a selector. -/
def timedStation : Station :=
  ((do
    let c ← openListener
    bind c none 5
    setTimeout c 100
    let _ ← openSelector : Action Unit).run {}).2

/-- An accept through the view, a registration, and a change to blocking. -/
def timedRace : ModeRace where
  station := timedStation
  channel := 0
  agents := [.view 0 .enter, .register 0 16 .enter, .configure true .enter]

/-- The view waits for a connection, the channel is registered meanwhile, and the change to
blocking is refused. -/
def waitingView : ModeRace :=
  timedRace.plays (List.replicate 33 0 ++ List.replicate 10 1 ++ List.replicate 2 2)

theorem registered_while_view_waits :
    waitingView.station.keyValid 1 = true ∧ waitingView.given = false ∧
      ∃ l, waitingView.station.listeners[0]? = some l ∧ 1 ∈ l.core.keys ∧
      l.core.blocking = false ∧
        waitingView.station.network.mode? l.descriptor.number = some false := by
  have hbegins : timedRace.Begins
      { id := 1, descriptor := { number := 3 }, timeout := some 100,
        localAddress := timedStation.listeners[0]?.bind Listener.localAddress } :=
    { listed := by rfl
      agents := by decide
      given := rfl
      keyed := by simp
      marked := by rintro ⟨⟩
      stray := by rintro ⟨⟩
      mode := .inl (by rfl)
      below := by decide +kernel
      connections := by
        intro x hx
        cases hx }
  have hvalid : waitingView.station.keyValid 1 = true := by decide +kernel
  have hgiven : waitingView.given = false := by decide +kernel
  have hkeys :
      waitingView.station.listeners[0]?.map (fun l => l.core.keys) = some [1] := by decide +kernel
  have hreached : ReflTransGen Happens timedRace waitingView := by
    unfold waitingView
    exact reaches_plays _ timedRace
  obtain ⟨l, hl, -, hquiet⟩ := registered_never_blocks hbegins hreached
  have hlisted : 1 ∈ l.core.keys := by
    have hl : waitingView.station.listeners[0]? = some l := hl
    rw [hl, Option.map_some, Option.some_inj] at hkeys
    rw [hkeys]
    exact .head _
  obtain ⟨hflag, hmode | ⟨hgave, -⟩⟩ := hquiet 1 hlisted hvalid
  · exact ⟨hvalid, hgiven, l, hl, hlisted, hflag, hmode⟩
  · cases hgiven.symm.trans hgave

end ModeRace
end PolledChannels
