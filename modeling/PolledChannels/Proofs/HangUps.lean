import PolledChannels.Proofs.GuardRaces
import PolledChannels.Proofs.SoloCalls

/-!
# Closes of a connection

Threads close the same connection at once. A close looks whether the descriptor is closed, and if
it is not, it closes the descriptor and tells of it. The look and the closing are two accesses, and
the closing does not say whether somebody else was first. So every close that looks before the
descriptor is closed tells of it. Alone, a close does what the operation does.

A race is a station and the closes at work on one of its connections. Meanwhile the connection may
be read and written, and the rest of the station changes as it likes. What the closes have told or
are bound to tell only grows when a close finds the descriptor open, and that is over as soon as one
of them has closed it.
-/

namespace PolledChannels

open PolledChannels.Action Station Relation

namespace Action

/-- A connection; one that is gone counts as closed. -/
def connection (i : ConnectionId) : Action Connection := do
  match (← get).connections[i]? with
  | some x => return x
  | none => throw .closed

/-- One access of a call to the descriptor of a connection: where that call stands afterwards, and
the outcome of what it did to the number. -/
def accessConnection (i : ConnectionId) (call : Guard.Call) :
    Action (Guard.Call × IoResult) := do
  let x ← connection i
  let r := Guard.step x.descriptor.word call
  modify fun st => st.modifyConnection i fun x =>
    { x with descriptor := { x.descriptor with word := r.1 } }
  let released ← applyEffect x.descriptor.number r.2.2
  return (r.2.1, released)

end Action

/-! ## One close -/

/-- The close of a connection, as it is told. -/
def Connection.closing (x : Connection) (released : IoResult) : Event :=
  { connectionEvent x .closed with
    fd := shownNumber x.descriptor, remoteAddress := some x.remote.render,
    errno := shownErrno released }

/-- Where a close of a connection stands. -/
inductive HangUpPoint where
  /-- About to see whether the descriptor is closed. -/
  | test
  /-- Found the descriptor open, and about to set its bit. -/
  | mark
  /-- About to do something to the number. -/
  | act (effect : GuardEffect)
  | tell (released : IoResult)
  | ended (outcome : Except Failure Unit)

namespace HangUpPoint

def step (i : ConnectionId) : HangUpPoint → Action HangUpPoint
  | test => do
    if (← connection i).descriptor.isClosed then return ended (.ok ()) else return mark
  | mark => do
    match ← accessConnection i .mark with
    | (.act effect, _) => return act effect
    | (_, released) => return tell released
  | act effect => return tell (← accessConnection i (.act effect)).2
  | tell released => do
    let x ← connection i
    emit none (x.closing released)
    return ended (released.mapError Failure.io)
  | ended outcome => return ended outcome

def isOver : HangUpPoint → Bool
  | ended _ => true
  | _ => false

/-- The close has found the descriptor open and has not closed it. -/
def isBetween : HangUpPoint → Bool
  | mark => true
  | _ => false

/-- The close has found the descriptor open and has not told of it. -/
def isDue : HangUpPoint → Bool
  | mark | act _ | tell _ => true
  | _ => false

end HangUpPoint

section Solo

variable {st : Station} {i : ConnectionId} {x : Connection}

theorem run_connection_bind {α : Type} (hx : st.connections[i]? = some x)
    (f : Connection → Action α) :
    (connection i >>= f).run st = (f x).run st := by
  simp only [connection, run_bind, run_get, hx]
  rfl

theorem Station.connection_modifyConnection (hx : st.connections[i]? = some x)
    (f : Connection → Connection) : (st.modifyConnection i f).connections[i]? = some (f x) := by
  simp [modifyConnection, hx]

theorem Station.modifyConnection_congr (hx : st.connections[i]? = some x)
    {f g : Connection → Connection}
    (hfg : f x = g x) : st.modifyConnection i f = st.modifyConnection i g := by
  rw [modifyConnection, modifyConnection, modify_congr hx hfg]

theorem Station.modifyConnection_self (hx : st.connections[i]? = some x)
    {f : Connection → Connection} (hf : f x = x) : st.modifyConnection i f = st := by
  have hsame : st.modifyConnection i id = st := by
    simp [modifyConnection]
  rw [modifyConnection_congr hx (g := id) hf, hsame]

/-- The bit of the connection's descriptor is set. -/
def Connection.marked (x : Connection) : Connection :=
  { x with descriptor := { x.descriptor with word := x.descriptor.word ||| Guard.closedBit } }

theorem run_accessConnection_mark (hx : st.connections[i]? = some x) :
    (accessConnection i .mark).run st =
      (.ok (Guard.afterMark x.descriptor.word, .ok ()),
        st.modifyConnection i Connection.marked) := by
  have hmarked : st.modifyConnection i Connection.marked = st.modifyConnection i fun x' =>
      { x' with descriptor :=
        { x'.descriptor with word := x.descriptor.word ||| Guard.closedBit } } :=
    modifyConnection_congr hx rfl
  rw [accessConnection, run_connection_bind hx, hmarked]
  rfl

theorem run_accessConnection_act (hx : st.connections[i]? = some x) (effect : GuardEffect) :
    ∃ released network,
      (applyEffect x.descriptor.number (some effect)).run st =
        (.ok released, { st with network }) ∧
      (accessConnection i (.act effect)).run st = (.ok (.done, released), { st with network }) := by
  obtain ⟨released, network, hrun⟩ := run_applyEffect x.descriptor.number (some effect) st
  refine ⟨released, network, hrun, ?_⟩
  have hsame : (st.modifyConnection i fun x' =>
      { x' with descriptor := { x'.descriptor with word := x.descriptor.word } }) = st :=
    modifyConnection_self hx rfl
  rw [accessConnection, run_connection_bind hx]
  simp only [Guard.step, run_bind, run_modify, hsame, hrun, run_pure]

/-- A close of a descriptor sets the bit, and does to the number what it then owes. -/
theorem run_closeConnectionDescriptor_marked (hx : st.connections[i]? = some x) :
    (closeConnectionDescriptor i).run st =
      match Guard.afterMark x.descriptor.word with
      | .act effect =>
        (applyEffect x.descriptor.number (some effect)).run
          (st.modifyConnection i Connection.marked)
      | _ => (.ok (.ok ()), st.modifyConnection i Connection.marked) := by
  have hmarked : st.modifyConnection i Connection.marked = st.modifyConnection i fun x' =>
      { x' with descriptor :=
        { x.descriptor with word := x.descriptor.word ||| Guard.closedBit } } :=
    modifyConnection_congr hx rfl
  rw [closeConnectionDescriptor, run_bind_ok (run_get st), hmarked]
  simp only [hx, Descriptor.close, Descriptor.alone, Guard.step, run_bind, run_modify]
  rcases Guard.afterMark_cases x.descriptor.word with ⟨hnext, -⟩ | ⟨hnext, -⟩ |
    ⟨hnext, -⟩
  · simp only [hnext]
    rfl
  · simp only [hnext]
  · simp only [hnext]

namespace HangUpPoint

/-- What follows the access that sets the bit. -/
def marked (word : UInt64) : HangUpPoint :=
  match Guard.afterMark word with
  | .act effect => act effect
  | _ => tell (.ok ())

theorem run_test (hx : st.connections[i]? = some x) :
    (step i .test).run st =
      (.ok (if x.descriptor.isClosed then .ended (.ok ()) else .mark), st) := by
  rw [step, run_connection_bind hx]
  split <;> rfl

theorem run_mark (hx : st.connections[i]? = some x) :
    (step i .mark).run st =
      (.ok (marked x.descriptor.word), st.modifyConnection i Connection.marked) := by
  rw [step, run_bind_ok (run_accessConnection_mark hx), marked]
  cases Guard.afterMark x.descriptor.word <;> rfl

/-- The accesses that close the descriptor are, alone, the close of a descriptor. -/
theorem solo_descriptor (hx : st.connections[i]? = some x) :
    ∃ released st', (closeConnectionDescriptor i).run st = (.ok released, st') ∧
      st'.connections[i]? = some x.marked ∧ Solo (step i) st .mark st' (.tell released) := by
  have hx' := connection_modifyConnection hx Connection.marked
  have hmark := run_mark hx
  rw [run_closeConnectionDescriptor_marked hx]
  unfold marked at hmark
  cases hnext : Guard.afterMark x.descriptor.word with
  | act effect =>
    rw [hnext] at hmark
    obtain ⟨released, network, happly, haccess⟩ := run_accessConnection_act hx' effect
    exact ⟨released, _, happly, hx', .head hmark (.one (run_bind_ok haccess))⟩
  | _ =>
    rw [hnext] at hmark
    exact ⟨.ok (), _, rfl, hx', .one hmark⟩

/-- A close that runs alone is a close. -/
theorem solo (hx : st.connections[i]? = some x) :
    ∃ outcome st', (closeConnection i).run st = (outcome, st') ∧
      Solo (step i) st .test st' (.ended outcome) := by
  have htest := run_test hx
  rw [closeConnection, run_bind_ok (run_get st), hx]
  dsimp only
  cases hclosed : x.descriptor.isClosed with
  | true =>
    rw [hclosed] at htest
    exact ⟨.ok (), st, rfl, .one htest⟩
  | false =>
    rw [hclosed] at htest
    obtain ⟨released, st', hclose, hx', hsolo⟩ := solo_descriptor hx
    refine ⟨released.mapError Failure.io, ((emit none (x.closing released)).run st').2, ?_,
      .head htest (hsolo.trans (.one (run_connection_bind hx' _)))⟩
    rw [if_neg Bool.false_ne_true, run_bind_ok hclose, run_bind]
    cases released <;> rfl

end HangUpPoint
end Solo

/-! ## Closes that overlap -/

/-- How often it was told that the channel with an id is closed. -/
def Station.closings (st : Station) (id : Nat) : Nat :=
  st.reports.countP fun report => report.event.kind == .closed &&
    report.event.channel == id.toUInt64

/-- Something happens beside the closes of a connection. The connection may be used; nothing else
closes it or tells of that, and events are told as before. -/
structure Station.Besides (i : ConnectionId) (st st' : Station) : Prop where
  connection : ∀ x, st.connections[i]? = some x → ∃ x', st'.connections[i]? = some x' ∧
    x'.id = x.id ∧ x'.descriptor.isClosed = x.descriptor.isClosed ∧
    st'.closings x.id = st.closings x.id
  logging : st'.provider.logging = st.provider.logging

/-- Closes at work on a connection of a station. -/
structure HangUpRace where
  station : Station
  connection : ConnectionId
  calls : List HangUpPoint

namespace HangUpRace

/-- One of the closes does its next access. -/
def play (r : HangUpRace) (j : Nat) : HangUpRace :=
  match r.calls[j]? with
  | none => r
  | some p =>
    let s := (p.step r.connection).run r.station
    { r with station := s.2, calls := r.calls.set j (s.1.toOption.getD (.ended (.error .closed))) }

/-- One of the closes does an access, or something happens beside them. -/
inductive Happens (r : HangUpRace) : HangUpRace → Prop
  | access (j : Nat) : Happens r (r.play j)
  | besides {st : Station} (h : r.station.Besides r.connection st) :
    Happens r { r with station := st }

/-- The connection is open and events are told; the closes are about to look, and
there is one at least. -/
structure Begins (r : HangUpRace) (x : Connection) : Prop where
  listed : r.station.connections[r.connection]? = some x
  isOpen : x.descriptor.isClosed = false
  logging : r.station.provider.logging = true
  calls : ∀ p ∈ r.calls, p = .test
  some : r.calls ≠ []

/-- The closes that are between their look and the closing of the descriptor. -/
def between (r : HangUpRace) : Nat :=
  r.calls.countP HangUpPoint.isBetween

/-- What was told of the close, and what the closes are bound to tell. -/
def owed (r : HangUpRace) (id : Nat) : Nat :=
  r.station.closings id + r.calls.countP HangUpPoint.isDue

/-- On a way from one race to the other, two closes stood between their look and the closing. -/
def Overlaps (r r' : HangUpRace) : Prop :=
  ∃ r₁, ReflTransGen Happens r r₁ ∧ ReflTransGen Happens r₁ r' ∧
    2 ≤ r₁.between

end HangUpRace

/-- What an access of a close can do: to the bit, to the close and to what is told. -/
inductive HangUpPoint.Turn : Bool → HangUpPoint → Bool → HangUpPoint → Nat → Prop
  | miss : Turn false .test false .mark 0
  | find : Turn true .test true (.ended (.ok ())) 0
  | mark {closed p} (hdue : p.isDue = true) (hafter : p.isBetween = false) :
    Turn closed .mark true p 0
  | act {closed effect released} : Turn closed (.act effect) closed (.tell released) 0
  | tell {closed released outcome} : Turn closed (.tell released) closed (.ended outcome) 1
  | ended {closed outcome} : Turn closed (.ended outcome) closed (.ended outcome) 0

section Turns

variable {st : Station} {i : ConnectionId} {x : Connection}

theorem Connection.isClosed_marked (x : Connection) : x.marked.descriptor.isClosed = true := by
  refine Guard.isClosed_iff.mpr ?_
  have hword : x.marked.descriptor.word.toNat = 2 * (x.descriptor.word.toNat / 2) + 1 :=
    Guard.toNat_mark
  omega

theorem HangUpPoint.due_marked (word : UInt64) :
    (marked word).isDue = true ∧ (marked word).isBetween = false := by
  unfold marked
  cases Guard.afterMark word <;> exact ⟨rfl, rfl⟩

theorem HangUpPoint.run_tell (hx : st.connections[i]? = some x) (hlog : st.provider.logging = true)
    (released : IoResult) :
    (step i (.tell released)).run st =
      (.ok (.ended (released.mapError Failure.io)),
        { st with reports := st.reports ++ [⟨x.closing released, none⟩] }) := by
  rw [step, run_connection_bind hx]
  simp only [emit, run_bind, run_modify, hlog]
  rfl

theorem HangUpPoint.turn_step (hx : st.connections[i]? = some x) (hlog : st.provider.logging = true)
    (p : HangUpPoint) :
    ∃ p' st' x' news, (p.step i).run st = (.ok p', st') ∧ st'.connections[i]? = some x' ∧
      x'.id = x.id ∧ st'.provider.logging = true ∧
      st'.closings x.id = st.closings x.id + news ∧
      Turn x.descriptor.isClosed p x'.descriptor.isClosed p' news := by
  cases p with
  | test =>
    refine ⟨_, st, x, 0, run_test hx, hx, rfl, hlog, rfl, ?_⟩
    cases x.descriptor.isClosed with
    | false => exact .miss
    | true => exact .find
  | mark =>
    refine ⟨_, _, x.marked, 0, run_mark hx, connection_modifyConnection hx _, rfl,
      hlog, rfl, ?_⟩
    rw [x.isClosed_marked]
    exact .mark (due_marked _).1 (due_marked _).2
  | act effect =>
    obtain ⟨released, network, -, haccess⟩ := run_accessConnection_act hx effect
    exact ⟨_, _, x, 0, run_bind_ok haccess, hx, rfl, hlog, rfl, .act⟩
  | tell released =>
    refine ⟨_, _, x, 1, run_tell hx hlog released, hx, rfl, hlog, ?_, .tell⟩
    simp [closings, Connection.closing, connectionEvent]
  | ended outcome => exact ⟨_, st, x, 0, rfl, hx, rfl, hlog, rfl, .ended⟩

end Turns

namespace HangUpRace

open Guard.Race

variable {r r₁ r' : HangUpRace} {x x' : Connection} {before : Nat} {st : Station}

/-- Until the descriptor is closed nothing is told, and the closes have looked at most. Afterwards
one close has closed it, beside those that have looked and not come to that yet. -/
structure Owes (before : Nat) (r : HangUpRace) (x : Connection) : Prop where
  listed : r.station.connections[r.connection]? = some x
  logging : r.station.provider.logging = true
  untold : x.descriptor.isClosed = false → r.station.closings x.id = before ∧
    ∀ p ∈ r.calls, p = .test ∨ p = .mark
  bound : x.descriptor.isClosed = true → before + 1 + r.between ≤ r.owed x.id

theorem Begins.owes (h : r.Begins x) : r.Owes (r.station.closings x.id) x where
  __ := h
  untold _ := ⟨rfl, fun p hp => .inl (h.calls p hp)⟩
  bound hclosed := absurd (h.isOpen.symm.trans hclosed) Bool.false_ne_true

/-- Before the descriptor is closed, the closes that have to tell are those
between look and closing. -/
theorem Owes.owed_open (h : r.Owes before x) (hopen : x.descriptor.isClosed = false) :
    r.owed x.id = before + r.between := by
  obtain ⟨htold, hearly⟩ := h.untold hopen
  have hsame : r.calls.countP HangUpPoint.isDue = r.calls.countP HangUpPoint.isBetween := by
    refine List.countP_congr fun p hp => ?_
    rcases hearly p hp with rfl | rfl <;> rfl
  rw [owed, between, htold, hsame]

theorem Owes.between_le (h : r.Owes before x) : before + r.between ≤ r.owed x.id := by
  cases hclosed : x.descriptor.isClosed with
  | false => exact Nat.le_of_eq (h.owed_open hclosed).symm
  | true => exact Nat.le_trans (by omega) (h.bound hclosed)

/-- What is owed does not get less, and it gets more only by a look that finds
the descriptor open. -/
def Grows (r r' : HangUpRace) (x' : Connection) : Prop :=
  r.owed x'.id ≤ r'.owed x'.id ∧
    (r'.owed x'.id = r.owed x'.id ∨ x'.descriptor.isClosed = false)

theorem Owes.turn {j news : Nat} {p p' : HangUpPoint} (h : r.Owes before x)
    (hp : r.calls[j]? = some p) (hx' : st.connections[r.connection]? = some x') (hid : x'.id = x.id)
    (hlog : st.provider.logging = true) (htold : st.closings x.id = r.station.closings x.id + news)
    (hturn : HangUpPoint.Turn x.descriptor.isClosed p x'.descriptor.isClosed p' news)
    (hr' : r' = { r with station := st, calls := r.calls.set j p' }) :
    r'.Owes before x' ∧ r.Grows r' x' := by
  have hdue : r'.calls.countP HangUpPoint.isDue + p.isDue.toNat =
      r.calls.countP HangUpPoint.isDue + p'.isDue.toNat := by
    rw [hr']
    exact countP_set_add _ hp
  have hbetween : r'.between + p.isBetween.toNat = r.between + p'.isBetween.toNat := by
    rw [hr']
    exact countP_set_add _ hp
  have howed : r'.owed x.id + p.isDue.toNat = r.owed x.id + news + p'.isDue.toNat := by
    have hstation : r'.station.closings x.id = r.station.closings x.id + news := by
      rw [hr', htold]
    unfold owed
    omega
  have hlisted' : r'.station.connections[r'.connection]? = some x' := by rw [hr', hx']
  have hlogging' : r'.station.provider.logging = true := by rw [hr', hlog]
  -- A close that has passed the closing of the descriptor finds it closed.
  have hlate (hearly : p ≠ .test ∧ p ≠ .mark) : x.descriptor.isClosed = true := by
    by_contra hopen
    rcases (h.untold (Bool.eq_false_iff.mpr hopen)).2 p (List.mem_of_getElem? hp) with rfl | rfl
    · exact hearly.1 rfl
    · exact hearly.2 rfl
  have hclosed (hx'closed : x'.descriptor.isClosed = true) (hsame : r'.owed x.id = r.owed x.id)
      (hbound : before + 1 + r'.between ≤ r'.owed x.id) :
        r'.Owes before x' ∧ r.Grows r' x' := by
    refine ⟨⟨hlisted', hlogging', fun hopen => ?_, fun _ => hid.symm ▸ hbound⟩, ?_⟩
    · cases hopen.symm.trans hx'closed
    · unfold Grows
      rw [hid]
      exact ⟨Nat.le_of_eq hsame.symm, .inl hsame⟩
  have hbound := h.bound
  have hopen := h.owed_open
  have huntold := h.untold
  generalize x.descriptor.isClosed = closed at *
  generalize hx'closed : x'.descriptor.isClosed = closed' at *
  cases hturn with
  | miss =>
    have hgrown : r'.owed x.id = r.owed x.id + 1 := howed
    refine ⟨⟨hlisted', hlogging', fun _ => ⟨?_, ?_⟩, fun hc => ?_⟩, ?_⟩
    · rw [hid, hr']
      exact htold.trans (huntold rfl).1
    · intro q hq
      rw [hr'] at hq
      rcases List.mem_or_eq_of_mem_set hq with hold | rfl
      · exact (huntold rfl).2 q hold
      · exact .inr rfl
    · cases hx'closed.symm.trans hc
    · rw [Grows, hid]
      exact ⟨by omega, .inr hx'closed⟩
  | find =>
    have hsame : r'.owed x.id = r.owed x.id := howed
    have hstill : r'.between = r.between := hbetween
    exact hclosed rfl hsame (by rw [hsame, hstill]; exact hbound rfl)
  | mark hdue' hafter =>
    rw [hdue'] at howed
    rw [hafter] at hbetween
    have hsame : r'.owed x.id = r.owed x.id := Nat.add_right_cancel howed
    have hone : r'.between + 1 = r.between := hbetween
    refine hclosed rfl hsame ?_
    -- The first to close the descriptor tells beside those that stay between.
    cases closed with
    | false =>
      have hfirst := hopen rfl
      omega
    | true =>
      have hmore := hbound rfl
      omega
  | act | tell | ended =>
    have hlater := hlate ⟨by rintro ⟨⟩, by rintro ⟨⟩⟩
    have hmore := hbound hlater
    simp only [HangUpPoint.isDue, HangUpPoint.isBetween, Bool.toNat_true, Bool.toNat_false]
      at howed hbetween
    exact hclosed hlater (by omega) (by omega)

theorem Owes.play (h : r.Owes before x) (j : Nat) :
    ∃ x', x'.id = x.id ∧ (r.play j).Owes before x' ∧ r.Grows (r.play j) x' := by
  cases hp : r.calls[j]? with
  | none =>
    have hstill : r.play j = r := by simp only [HangUpRace.play, hp]
    rw [hstill]
    exact ⟨x, rfl, h, Nat.le_refl _, .inl rfl⟩
  | some p =>
    obtain ⟨p', st, x', news, hrun, hx', hid, hlog, htold, hturn⟩ :=
      p.turn_step h.listed h.logging
    refine ⟨x', hid, h.turn hp hx' hid hlog htold hturn ?_⟩
    simp only [HangUpRace.play, hp, hrun, Except.toOption, Option.getD_some]

theorem Owes.besides (h : r.Owes before x) (hst : r.station.Besides r.connection st) :
    ∃ x', x'.id = x.id ∧ Owes before { r with station := st } x' ∧
    r.Grows { r with station := st } x' := by
  obtain ⟨x', hx', hid, hclosed, htold⟩ := hst.connection x h.listed
  have howed : owed { r with station := st } x'.id = r.owed x'.id := by
    rw [owed, owed, hid, htold]
  refine ⟨x', hid, ⟨hx', hst.logging.trans h.logging, fun hopen => ?_, fun hc => ?_⟩,
    Nat.le_of_eq howed.symm, .inl howed⟩
  · obtain ⟨hsame, hcalls⟩ := h.untold (hclosed ▸ hopen)
    exact ⟨by rw [hid, htold, hsame], hcalls⟩
  · rw [howed, hid]
    exact h.bound (hclosed ▸ hc)

theorem Owes.happens (h : r.Owes before x) (hstep : Happens r r') :
    ∃ x', x'.id = x.id ∧ r'.Owes before x' ∧ r.Grows r' x' := by
  cases hstep with
  | access j => exact h.play j
  | besides hst => exact h.besides hst

theorem length_happens (hstep : Happens r r') : r'.calls.length = r.calls.length := by
  cases hstep with
  | access j =>
    unfold HangUpRace.play
    split
    · rfl
    · exact List.length_set
  | besides hst => rfl

theorem Owes.reaches (h : r.Owes before x) (hrun : ReflTransGen Happens r r') :
    ∃ x', x'.id = x.id ∧ r'.Owes before x' ∧ r.owed x.id ≤ r'.owed x.id ∧
      r'.calls.length = r.calls.length := by
  induction hrun with
  | refl => exact ⟨x, rfl, h, Nat.le_refl _, rfl⟩
  | tail _ hstep ih =>
    obtain ⟨x₁, hid₁, h₁, hle₁, hlen⟩ := ih
    obtain ⟨x', hid, h', hle, -⟩ := h₁.happens hstep
    rw [hid, hid₁] at hle
    exact ⟨x', hid.trans hid₁, h', Nat.le_trans hle₁ hle, (length_happens hstep).trans hlen⟩

/-- More than one notice is owed only where two closes stood between look and closing. -/
theorem Begins.owed_le (h : r.Begins x) (hrun : ReflTransGen Happens r r') :
    r'.owed x.id ≤ r.station.closings x.id + 1 ∨ r.Overlaps r' := by
  induction hrun with
  | refl =>
    left
    have hnone : r.between = 0 := by
      refine List.countP_eq_zero.mpr fun p hp => ?_
      rw [h.calls p hp]
      exact Bool.false_ne_true
    rw [h.owes.owed_open h.isOpen, hnone]
    omega
  | @tail r₁ r' hrun₁ hstep ih =>
    rcases ih with hle | ⟨r₂, hto, hfrom, htwo⟩
    · obtain ⟨x₁, hid₁, h₁, -⟩ := h.owes.reaches hrun₁
      obtain ⟨x', hid, h', -, hsame | hopen⟩ := h₁.happens hstep
      · rw [hid, hid₁] at hsame
        exact .inl (hsame ▸ hle)
      · have howed := h'.owed_open hopen
        rw [hid, hid₁] at howed
        by_cases htwo : 2 ≤ r'.between
        · exact .inr ⟨r', hrun₁.tail hstep, .refl, htwo⟩
        · exact .inl (by omega)
    · exact .inr ⟨r₂, hto, hfrom.tail hstep, htwo⟩

/-- Where all closes have come to their ends, everything owed is told, and that is
one notice at least. -/
theorem Begins.told (h : r.Begins x) (hrun : ReflTransGen Happens r r')
    (hover : ∀ p ∈ r'.calls, p.isOver = true) :
    r'.owed x.id = r'.station.closings x.id ∧ r.station.closings x.id + 1 ≤ r'.owed x.id := by
  obtain ⟨x', hid, h', -, hlen⟩ := h.owes.reaches hrun
  have hnone : r'.calls.countP HangUpPoint.isDue = 0 := by
    refine List.countP_eq_zero.mpr fun p hp => ?_
    have hend := hover p hp
    cases p with
    | ended outcome => exact Bool.false_ne_true
    | _ => cases hend
  refine ⟨by rw [owed, hnone, Nat.add_zero], ?_⟩
  have hclosed : x'.descriptor.isClosed = true := by
    by_contra hopen
    obtain ⟨p, hp⟩ := List.exists_mem_of_ne_nil r'.calls (by
      intro hnil
      rw [hnil] at hlen
      exact h.some (List.length_eq_zero_iff.mp hlen.symm))
    have hend := hover p hp
    rcases (h'.untold (Bool.eq_false_iff.mpr hopen)).2 p hp with rfl | rfl <;> cases hend
  have hbound := h'.bound hclosed
  rw [hid] at hbound
  omega

/-- By the time all closes of a connection have returned, its close was told; and it was told once
exactly if never two of them were between their look and the closing of the descriptor. -/
theorem close_told_once_iff (hbegin : r.Begins x) (hrun : ReflTransGen Happens r r')
    (hover : ∀ p ∈ r'.calls, p.isOver = true) :
    r.station.closings x.id + 1 ≤ r'.station.closings x.id ∧
      (r'.station.closings x.id = r.station.closings x.id + 1 ↔ ¬ r.Overlaps r') := by
  obtain ⟨hall, hone⟩ := hbegin.told hrun hover
  refine ⟨by omega, ?_, fun hnever => ?_⟩
  · rintro hsame ⟨r₁, hto, hfrom, htwo⟩
    obtain ⟨x₁, hid₁, h₁, -⟩ := hbegin.owes.reaches hto
    obtain ⟨-, -, -, hle, -⟩ := h₁.reaches hfrom
    have hbetween := h₁.between_le
    rw [hid₁] at hle hbetween
    omega
  · have hle := (hbegin.owed_le hrun).resolve_right hnever
    omega

/-- The closes do accesses one after the other. -/
def plays (r : HangUpRace) : List Nat → HangUpRace
  | [] => r
  | j :: rest => (r.play j).plays rest

theorem reaches_plays (r : HangUpRace) (js : List Nat) :
    ReflTransGen Happens r (r.plays js) := by
  induction js generalizing r with
  | nil => exact .refl
  | cons j rest ih => exact .head (.access j) (ih (r.play j))

/-- A station that has accepted a connection. -/
def acceptedStation : Station :=
  ((do
    modify fun st => { st with provider := { logging := true } }
    let c ← openListener
    bind c none 5
    let _ ← network (Net.connect (.v4 ⟨127, 0, 0, 1⟩ 0) (.v4 ⟨127, 0, 0, 1⟩ 40687))
    let _ ← enterAccept 0 c
    match ← attemptAccept c with
    | some attempt => let _ ← leaveAccept 0 c attempt
    | none => pure () : Action Unit).run {}).2

/-- Two threads are about to close the connection. -/
def twoClosers : HangUpRace :=
  ⟨acceptedStation, 0, [.test, .test]⟩

/-- Both look, and then one after the other goes on to its end. -/
def bothLook : HangUpRace :=
  twoClosers.plays [0, 1]

theorem overlapping_closes_tell_twice :
    ∃ x, twoClosers.Begins x ∧ twoClosers.Overlaps (bothLook.plays [0, 0, 0, 1, 1]) ∧
      twoClosers.station.closings x.id = 0 ∧
      (bothLook.plays [0, 0, 0, 1, 1]).station.closings x.id = 2 ∧
      (bothLook.plays [0, 0, 0, 1, 1]).station.closings x.id ≠ twoClosers.station.closings
        x.id + 1 := by
  obtain ⟨x, hx, hopen, hid⟩ : ∃ x, acceptedStation.connections[0]? = some x ∧
      x.descriptor.isClosed = false ∧ x.id = 2 := by
    decide +kernel
  have hbegin : twoClosers.Begins x :=
    ⟨hx, hopen, by decide +kernel, by simp [twoClosers], by simp [twoClosers]⟩
  have hlook := twoClosers.reaches_plays [0, 1]
  have hrest := bothLook.reaches_plays [0, 0, 0, 1, 1]
  have hoverlap : twoClosers.Overlaps (bothLook.plays [0, 0, 0, 1, 1]) :=
    ⟨bothLook, hlook, hrest, by decide +kernel⟩
  have honce := close_told_once_iff hbegin (hlook.trans hrest) (by decide +kernel)
  refine ⟨x, hbegin, ?_⟩
  rw [hid] at honce ⊢
  exact ⟨hoverlap, by decide +kernel, by decide +kernel, fun hone => honce.2.mp hone hoverlap⟩

end HangUpRace
end PolledChannels
