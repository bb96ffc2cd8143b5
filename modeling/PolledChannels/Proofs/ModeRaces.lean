import PolledChannels.Proofs.ModeKeeping

/-!
# Calls that race over the blocking mode

Any number of calls are at work on one channel: registrations, changes of the blocking mode whose
call of the network may fail, cancellations, deregistrations, closes, accepts, and accepts through
the blocking view, which make the channel non-blocking and blocking again. Each does its accesses
one by one, in any order that the locks allow, and the rest of the station changes beside them as it
likes, as long as nobody else sets the mode of the descriptor.

What a call relies on goes by where it stands. A call that keeps the lock of registrations relies
on the flag of the channel, a change to blocking that has looked for keys relies on there being
none, and a call that is about to give the descriptor back relies on the channel being closed.
Given what its call relies on, every access suits what it is to keep of the channel.
-/

namespace PolledChannels

open PolledChannels.Action

/-- A call at work on a channel. -/
inductive Agent where
  | register (s : SelectorId) (ops : Mask) (point : RegisterPoint)
  | configure (block : Bool) (point : ModePoint)
  | cancel (point : CancelPoint)
  | deregister (k : KeyId) (point : LeavePoint)
  | close (target : Option ThreadId) (point : ShutPoint)
  | accept (me : ThreadId) (point : AcceptPoint)
  | view (me : ThreadId) (point : ViewPoint)

namespace Agent

def step (c : ListenerId) (signalled : Bool) : Agent → Action Agent
  | register s ops point => return register s ops (← point.step c s ops)
  | configure block point => return configure block (← point.step c block)
  | cancel point => return cancel (← point.step)
  | deregister k point => return deregister k (← point.step c k)
  | close target point => return close target (← point.step c target)
  | accept me point => return accept me (← point.step me c signalled)
  | view me point => return view me (← point.step me c signalled)

/-- What the next access needs. -/
def wants (c : ListenerId) : Agent → Option Bar
  | register _ _ point => (point.wants c).map .lock
  | configure _ point => (point.wants c).map .lock
  | cancel _ => none
  | deregister _ point => (point.wants c).map .lock
  | close _ point => (point.wants c).map .lock
  | accept me point => (Party.accept me c point).wants
  | view me point => point.wants me c

/-- What the call keeps. -/
def holds (c : ListenerId) : Agent → List Bar
  | register _ _ point => (point.holds c).map .lock
  | configure _ point => (point.holds c).map .lock
  | cancel _ => []
  | deregister _ point => (point.holds c).map .lock
  | close _ point => (point.holds c).map .lock
  | accept me point => (Party.accept me c point).holds
  | view me point => point.holds me c

/-- The call has not done anything. -/
def begins : Agent → Bool
  | register _ _ .enter | configure _ .enter | cancel (.swap _) | deregister _ .strike
  | close _ .flip
  | accept _ .turn | view _ .enter => true
  | _ => false

/-- The change of the mode that the call is in, with the mode that it wants. -/
def change? : Agent → Option (Bool × ModePoint)
  | configure block point => some (block, point)
  | view _ (.loosen _ point) => some (false, point)
  | view _ (.fasten _ point) => some (true, point)
  | _ => none

/-- The next access writes the flag. -/
def stores (a : Agent) : Option Bool :=
  match a.change? with
  | some (block, .store) => some block
  | _ => none

end Agent

/-! ## Accesses that give the number back -/

def KillPoint.gives : KillPoint → Bool
  | act .release => true
  | _ => false

def ShutPoint.gives : ShutPoint → Bool
  | rest (.act .release) => true
  | rest (.kill _ point) => point.gives
  | _ => false

def ModePoint.gives : ModePoint → Bool
  | give _ => true
  | _ => false

def AcceptPoint.gives : AcceptPoint → Bool
  | give _ => true
  | own point => point.gives
  | _ => false

def ViewPoint.gives : ViewPoint → Bool
  | loosen _ point | fasten _ point => point.gives
  | accept _ point => point.gives
  | give _ _ => true
  | _ => false

/-- The next access of the call gives the number back to the kernel. -/
def Agent.gives : Agent → Bool
  | configure _ point => point.gives
  | deregister _ (.kill point) => point.gives
  | close _ point => point.gives
  | accept _ point => point.gives
  | view _ point => point.gives
  | _ => false

/-! ## Races -/

/-- A station and the calls at work on one of its channels. -/
structure ModeRace where
  station : Station
  channel : ListenerId
  agents : List Agent
  /-- The descriptor of the channel was given back. -/
  given : Bool := false
  /-- The channel was adopted over a non-blocking descriptor, and nobody has
  written its flag since. -/
  stray : Bool := false

/-- The rest of the station changed, and nothing that the mode of the channel goes by: the channel
has its flags, its list and its descriptor, no key of the list became valid, and nobody else set the
mode of the descriptor or took its number. -/
structure Station.Undisturbed (c : ListenerId) (given : Bool) (st st' : Station) : Prop where
  channel : ∀ l, st.listeners[c]? = some l →
    ∃ l', st'.listeners[c]? = some l' ∧ l'.core = l.core ∧ l'.descriptor = l.descriptor ∧
      (∀ k ∈ l.core.keys, st'.keyValid k = true → st.keyValid k = true) ∧
      (given = false →
        st'.network.mode? l.descriptor.number = st.network.mode? l.descriptor.number ∧
        st.network.nextNumber ≤ st'.network.nextNumber ∧
        ∀ x ∈ st'.connections, x ∈ st.connections ∨
        x.descriptor.number ≠ l.descriptor.number)

namespace ModeRace

/-- A call waits for what another one keeps. -/
def waits (r : ModeRace) (a : Agent) : Bool :=
  match a.wants r.channel with
  | none => false
  | some bar => r.agents.any fun b => (b.holds r.channel).contains bar

/-- A call does its next access, unless it waits. -/
def play (r : ModeRace) (i : Nat) (signalled : Bool) : ModeRace :=
  match r.agents[i]? with
  | none => r
  | some a =>
    if r.waits a then r
    else
      match (a.step r.channel signalled).run r.station with
      | (.error _, _) => r
      | (.ok next, station) =>
        { r with
          station, agents := r.agents.set i next
          given := r.given || a.gives, stray := r.stray && a.stores.isNone }

/-- One thing that happens in a race. -/
inductive Happens : ModeRace → ModeRace → Prop
  | access (r : ModeRace) (i : Nat) (signalled : Bool) : Happens r (r.play i signalled)
  | elsewhere {r : ModeRace} {station : Station}
      (h : r.station.Undisturbed r.channel r.given station) : Happens r { r with station }

/-- Calls that are about to begin, on a channel that does not block if it lists a valid key, and
whose mode is what its flag says. Only the flag of a stray channel may say that it blocks where the
mode does not. -/
structure Begins (r : ModeRace) (l : Listener) : Prop where
  listed : r.station.listeners[r.channel]? = some l
  agents : ∀ a ∈ r.agents, a.begins = true
  given : r.given = false
  stray : r.stray = true → l.core.blocking = true
  keyed : ∀ k ∈ l.core.keys, r.station.keyValid k = true → l.core.blocking = false
  marked : Guard.isClosed l.descriptor.word = true → l.core.isOpen = false
  mode : r.station.network.mode? l.descriptor.number = some l.core.blocking ∨
    r.stray = true ∧ r.station.network.mode? l.descriptor.number = some false
  below : l.descriptor.number < r.station.network.nextNumber
  connections : ∀ x ∈ r.station.connections, x.descriptor.number ≠ l.descriptor.number

end ModeRace

/-! ## What a call relies on -/

/-- What calls rely on: the flag, whether a valid key is listed, whether the channel is closed, and
which numbers are not the channel's. -/
structure Facts where
  blocking : Bool
  keyed : Prop
  closed : Prop
  foreign : FileNumber → Prop

/-- Taking a use of the descriptor. -/
def Guard.Call.takes : Guard.Call → Bool
  | .look | .claim _ => true
  | _ => false

/-- The close has flipped the channel, or found it flipped. -/
def ShutPoint.knows : ShutPoint → Bool
  | flip | rest .shut => false
  | _ => true

def ShutPoint.Relies (f : Facts) (p : ShutPoint) : Prop :=
  p.knows = true → f.closed

def LeavePoint.Relies (f : Facts) : LeavePoint → Prop
  | kill _ => f.closed
  | _ => True

def RegisterPoint.Relies (f : Facts) : RegisterPoint → Prop
  | enter | ended _ => True
  | _ => f.blocking = false

/-- A change under way goes from one mode to the other; a change to blocking that has looked for
keys relies on there being none. -/
def ModePoint.Relies (f : Facts) (block : Bool) : ModePoint → Prop
  | enter | ended _ => True
  | askKeys => f.blocking = !block
  | take call => (f.blocking = !block ∧ (block = true → ¬ f.keyed)) ∧ call.takes = true
  | set | store | leave _ => f.blocking = !block ∧ (block = true → ¬ f.keyed)
  | give _ => (f.blocking = !block ∧ (block = true → ¬ f.keyed)) ∧ f.closed

def Attempt.Relies (f : Facts) : Attempt → Prop
  | taken number _ => f.foreign number
  | _ => True

def AcceptPoint.Relies (f : Facts) : AcceptPoint → Prop
  | own point => point.Relies f
  | take call => call.takes = true
  | give a => a.Relies f ∧ f.closed
  | leave a | clear a | exit a | hear a => a.Relies f
  | drop number | keep number _ => f.foreign number
  | _ => True

def ViewPoint.Relies (f : Facts) : ViewPoint → Prop
  | loosen _ point => point.Relies f false
  | accept _ point => point.Relies f
  | take _ call => call.takes = true
  | give _ _ => f.closed
  | fasten _ point => point.Relies f true
  | _ => True

def Agent.Relies (f : Facts) : Agent → Prop
  | register _ _ point => point.Relies f
  | configure block point => point.Relies f block
  | cancel _ => True
  | deregister _ point => point.Relies f
  | close _ point => point.Relies f
  | accept _ point => point.Relies f
  | view _ point => point.Relies f

/-- What others may change while a call is at work: the channel may be closed and numbers may become
foreign, and unless the call keeps the lock of registrations, the flag and the list may change. -/
structure Facts.Drifts (f f' : Facts) (locked : Prop) : Prop where
  blocking : locked → f'.blocking = f.blocking
  keyed : locked → f'.keyed → f.keyed
  closed : f.closed → f'.closed
  foreign : ∀ n, f.foreign n → f'.foreign n

section Drifts

variable {f f' : Facts} {c : ListenerId} {locked : Prop}

theorem Facts.Drifts.mono {P Q : Prop} (hf : f.Drifts f' P) (h : Q → P) : f.Drifts f' Q :=
  ⟨fun hq => hf.blocking (h hq), fun hq => hf.keyed (h hq), hf.closed, hf.foreign⟩

theorem ModePoint.Relies.drift {block : Bool} {p : ModePoint} (h : p.Relies f block)
    (hf : f.Drifts f' (.registering c ∈ p.holds c)) : p.Relies f' block := by
  have hkept (hlock : .registering c ∈ p.holds c) (h : f.blocking = !block ∧
      (block = true → ¬ f.keyed)) :
      f'.blocking = !block ∧ (block = true → ¬ f'.keyed) :=
    ⟨(hf.blocking hlock).trans h.1, fun hb hk => h.2 hb (hf.keyed hlock hk)⟩
  cases p with
  | enter | ended outcome => trivial
  | askKeys => exact (hf.blocking (.head _)).trans h
  | take call => exact ⟨hkept (.head _) h.1, h.2⟩
  | set | store | leave r => exact hkept (.head _) h
  | give r => exact ⟨hkept (.head _) h.1, hf.closed h.2⟩

theorem Attempt.Relies.drift {a : Attempt} (h : a.Relies f) (hf : f.Drifts f' locked) :
    a.Relies f' := by
  cases a with
  | taken number remote => exact hf.foreign number h
  | _ => trivial

theorem AcceptPoint.Relies.drift {p : AcceptPoint} (h : p.Relies f)
    (hf : f.Drifts f' locked) : p.Relies f' := by
  cases p with
  | own point => exact fun hknows => hf.closed (h hknows)
  | take call => exact h
  | give a => exact ⟨h.1.drift hf, hf.closed h.2⟩
  | leave a | clear a | exit a | hear a => exact Attempt.Relies.drift h hf
  | drop number | keep number remote => exact hf.foreign number h
  | _ => trivial

theorem ViewPoint.Relies.drift {me : ThreadId} {p : ViewPoint} (h : p.Relies f)
    (hf : f.Drifts f' (.lock (.registering c) ∈ p.holds me c)) : p.Relies f' := by
  have hmode {point : ModePoint} (hsame : p.holds me c = (point.holds c).map .lock) :
      f.Drifts f' (.registering c ∈ point.holds c) :=
    hf.mono fun hp => hsame ▸ List.mem_map_of_mem hp
  cases p with
  | loosen timeout point | fasten answer point => exact ModePoint.Relies.drift h (hmode rfl)
  | accept caller point => exact AcceptPoint.Relies.drift h hf
  | take deadline call => exact h
  | give deadline r => exact hf.closed h
  | _ => trivial

theorem Agent.Relies.drift {a : Agent} (h : a.Relies f)
    (hf : f.Drifts f' (.lock (.registering c) ∈ a.holds c)) : a.Relies f' := by
  cases a with
  | register s ops point =>
    cases point with
    | enter | ended outcome => trivial
    | _ => exact (hf.blocking (.head _)).trans h
  | configure block point =>
    exact ModePoint.Relies.drift h (hf.mono fun hp => List.mem_map_of_mem hp)
  | cancel point => trivial
  | deregister k point =>
    cases point with
    | kill point => exact hf.closed h
    | _ => trivial
  | close target point => exact fun hknows => hf.closed (h hknows)
  | accept me point => exact AcceptPoint.Relies.drift h hf
  | view me point => exact ViewPoint.Relies.drift h hf

end Drifts

/-! ## What an access changes -/

/-- The mode of the descriptor is set, and the flag is not yet written. -/
def ModePoint.applies : ModePoint → Bool
  | leave (.ok _) | give (.ok _) | store => true
  | _ => false

namespace Agent

/-- The next access sets the mode of the descriptor. -/
def sets (a : Agent) : Bool :=
  match a.change? with
  | some (_, .set) => true
  | _ => false

/-- The next access makes a key or lists one. -/
def lists : Agent → Bool
  | register _ _ .make | register _ _ (.list _) => true
  | _ => false

/-- The mode that the call has set and not yet written down. -/
def applied? (a : Agent) : Option Bool :=
  match a.change? with
  | some (block, point) => if point.applies then some block else none
  | none => none

/-- What the next access of a call keeps of the channel. -/
def hold (a : Agent) (st : Station) (l : Listener) (given : Bool) : Hold where
  number := l.descriptor.number
  blocking b := b = l.core.blocking ∨ a.stores = some b
  live k := k ∈ l.core.keys ∧ st.keyValid k = true ∨ a.lists = true
  opened := l.core.isOpen = true
  marked := Guard.isClosed l.descriptor.word = true ∨ l.core.isOpen = false
  kept := given = false ∧ a.gives = false
  mode m := m = st.network.mode? l.descriptor.number ∨ a.sets = true

def Suits (h : Hold) : Agent → Prop
  | register _ _ point => point.Suits h
  | configure block point => point.Suits h block
  | cancel _ => True
  | deregister _ point => point.Suits h
  | close _ point => point.Suits h
  | accept _ point => point.Suits h
  | view _ point => point.Suits h

theorem upholds {c : ListenerId} {h : Hold} {a : Agent} (ha : a.Suits h) (signalled : Bool) :
    Upholds c h (a.step c signalled) := by
  cases a with
  | register s ops point =>
    exact upholds_bind (RegisterPoint.upholds ha s ops) fun _ => upholds_pure _
  | configure block point => exact upholds_bind (ModePoint.upholds ha) fun _ => upholds_pure _
  | cancel point =>
    exact upholds_bind (point.keeps_step upholds_invalidate upholds_selectors) fun _ =>
      upholds_pure _
  | deregister k point => exact upholds_bind (LeavePoint.upholds ha k) fun _ => upholds_pure _
  | close target point => exact upholds_bind (ShutPoint.upholds ha target) fun _ => upholds_pure _
  | accept me point =>
    exact upholds_bind (AcceptPoint.upholds ha me signalled) fun _ => upholds_pure _
  | view me point => exact upholds_bind (ViewPoint.upholds ha me signalled) fun _ => upholds_pure _

end Agent

/-- What calls rely on, as it is at a station. -/
def Station.facts (st : Station) (l : Listener) (given : Bool) : Facts where
  blocking := l.core.blocking
  keyed := ∃ k ∈ l.core.keys, st.keyValid k = true
  closed := l.core.isOpen = false
  foreign n := given = true ∨ n ≠ l.descriptor.number

section Suits

variable {h : Hold} {f : Facts}

theorem Guard.Call.suits_of_takes {call : Guard.Call} (hcall : call.takes = true) :
    call.Suits h := by
  cases call with
  | look | claim seen => trivial
  | _ => cases hcall

theorem KillPoint.suits {p : KillPoint} (hmarked : h.marked)
    (hgives : p.gives = true → ¬ h.kept) :
    p.Suits h := by
  cases p with
  | mark => exact hmarked
  | act effect =>
    cases effect with
    | release => exact hgives rfl
    | shutDown => trivial
  | _ => trivial

theorem ShutPoint.suits {p : ShutPoint} (hp : p.Relies f) (hmarked : f.closed → h.marked)
    (hgives : p.gives = true → ¬ h.kept) : p.Suits h := by
  cases p with
  | rest point =>
    cases point with
    | mark => exact hmarked (hp rfl)
    | act effect =>
      cases effect with
      | release => exact hgives rfl
      | shutDown => trivial
    | kill closing point => exact KillPoint.suits (hmarked (hp rfl)) hgives
    | _ => trivial
  | _ => trivial

theorem ModePoint.suits {block : Bool} {p : ModePoint} (hp : p.Relies f block)
    (hgives : p.gives = true → ¬ h.kept) (hset : p = .set → h.mode (some block))
    (hstore : p = .store → h.blocking block) : p.Suits h block := by
  cases p with
  | take call => exact Guard.Call.suits_of_takes hp.2
  | set => exact fun _ => hset rfl
  | give r => exact hgives rfl
  | store => exact hstore rfl
  | _ => trivial

theorem AcceptPoint.suits {p : AcceptPoint} (hp : p.Relies f) (hmarked : f.closed → h.marked)
    (hgives : p.gives = true → ¬ h.kept)
    (hforeign : ∀ n, f.foreign n → h.kept → n ≠ h.number) :
    p.Suits h := by
  cases p with
  | own point => exact ShutPoint.suits hp hmarked hgives
  | take call => exact Guard.Call.suits_of_takes hp
  | give a => exact hgives rfl
  | drop number | keep number remote => exact hforeign number hp
  | _ => trivial

/-- Every access suits what it keeps, given what the call relies on. -/
theorem Agent.suits {a : Agent} {st : Station} {l : Listener} {given : Bool}
    (ha : a.Relies (st.facts l given)) : a.Suits (a.hold st l given) := by
  have hmarked : (st.facts l given).closed → (a.hold st l given).marked := .inr
  have hgives (hgive : a.gives = true) : ¬ (a.hold st l given).kept := by
    rintro ⟨-, hgave⟩
    cases hgive.symm.trans hgave
  have hforeign (n : FileNumber) (hn : (st.facts l given).foreign n)
      (hkept : (a.hold st l given).kept) :
      n ≠ (a.hold st l given).number := by
    rcases hn with hgiven | hne
    · cases hgiven.symm.trans hkept.1
    · exact hne
  have hmode {block : Bool} {point : ModePoint} (hchange : a.change? = some (block, point))
      (hp : point.Relies (st.facts l given) block)
      (hgives : point.gives = true → ¬ (a.hold st l given).kept) :
      point.Suits (a.hold st l given) block := by
    refine ModePoint.suits hp hgives ?_ ?_
    · rintro rfl
      exact .inr (by rw [sets, hchange])
    · rintro rfl
      exact .inr (by rw [stores, hchange])
  cases a with
  | register s ops point =>
    cases point with
    | make | list k => exact fun _ => .inr rfl
    | _ => trivial
  | configure block point => exact hmode rfl ha hgives
  | cancel point => trivial
  | deregister k point =>
    cases point with
    | kill point => exact KillPoint.suits (hmarked ha) hgives
    | _ => trivial
  | close target point => exact ShutPoint.suits ha hmarked hgives
  | accept me point => exact AcceptPoint.suits ha hmarked hgives hforeign
  | view me point =>
    cases point with
    | loosen timeout point | fasten answer point => exact hmode rfl ha hgives
    | accept caller point => exact AcceptPoint.suits ha hmarked hgives hforeign
    | take deadline call => exact Guard.Call.suits_of_takes ha
    | give deadline r => exact hgives rfl
    | _ => trivial

end Suits
end PolledChannels
