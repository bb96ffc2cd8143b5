import PolledChannels.Proofs.Binds
import PolledChannels.Proofs.ParkedAccepts

/-!
# Binds that race with closes of the channel

A bind runs together with closes of its channel, in any order of accesses. The bind looks at the
open flag, and takes its use of the descriptor some accesses later; a close flips the channel and
then marks the descriptor.

A bind that finds the channel closed says so, and one that has its use is not disturbed any more.
But a descriptor that is marked after the bind found the channel open and before it has its use is
refused, and what the bind answers then does not say that the channel is closed.
-/

namespace PolledChannels

open PolledChannels.Action

variable {provider : Provider} {word : UInt64} {c : ListenerId} {g : Gate}

/-- What is noted of an access. -/
inductive BindNote where
  /-- The bind found the channel open, or closed. -/
  | found (isOpen : Bool)
  /-- The bind took its use of the descriptor. -/
  | took
  /-- A call of the network failed that the bind made. -/
  | failed (e : IoError)
  /-- A close marked the descriptor. -/
  | marked
  deriving DecidableEq, Repr

/-- What is noted of an access of a bind, by where it leads to. -/
def BindPoint.note : BindPoint → BindPoint → Option BindNote
  | askOpen, askBound => some (.found true)
  | askOpen, _ => some (.found false)
  | take _ _, claim _ => some .took
  | claim _, leave (.error (.io e)) | listen, leave (.error (.io e))
  | name, leave (.error (.io e)) =>
    some (.failed e)
  | _, _ => none

/-- The next access of the close marks the descriptor. -/
def ShutPoint.marks : ShutPoint → Bool
  | rest .mark | rest (.kill _ .mark) => true
  | _ => false

/-- A bind of a channel and closes of it under way on a station, with what was noted of
them, oldest first. -/
structure BindRace where
  station : Station
  channel : ListenerId
  requested : Option Endpoint
  backlog : Int
  bind : BindPoint := .askOpen
  closes : List ShutPoint
  log : List BindNote := []

namespace BindRace

/-- One thing that happens in a race. -/
inductive Beat where
  /-- The bind does its next access. -/
  | bind
  /-- The close at a place does its next access. -/
  | close (i : Nat)
  /-- The network becomes something else. -/
  | world (network : Network)

/-- Some close keeps the lock. -/
def keeps (r : BindRace) : Option Lock → Bool
  | none => false
  | some lock => r.closes.any fun p => (p.holds r.channel).contains lock

/-- The bind does its next access, unless it waits. -/
def moveBind (r : BindRace) : BindRace :=
  if r.keeps (r.bind.wants r.channel) then r
  else
    match (r.bind.step r.channel r.requested r.backlog).run r.station with
    | (.error _, _) => r
    | (.ok next, station) =>
      { r with station, bind := next, log := r.log ++ (r.bind.note next).toList }

/-- A close does its next access, unless it waits. -/
def moveClose (r : BindRace) (i : Nat) : BindRace :=
  match r.closes[i]? with
  | none => r
  | some p =>
    if r.keeps (p.wants r.channel) then r
    else
      match (p.step r.channel none).run r.station with
      | (.error _, _) => r
      | (.ok next, station) =>
        { r with station, closes := r.closes.set i next
                 log := r.log ++ if p.marks then [.marked] else [] }

def play (r : BindRace) : Beat → BindRace
  | .bind => r.moveBind
  | .close i => r.moveClose i
  | .world network => { r with station := { r.station with network } }

def after (r : BindRace) (beats : List Beat) : BindRace :=
  beats.foldl play r

/-! ## The order of the notes -/

/-- The descriptor was marked when the bind had found the channel open and had not taken its use. -/
def Overtaken (log : List BindNote) : Prop :=
  ∃ earlier later, log = earlier ++ .marked :: later ∧ .found true ∈ earlier ∧
    .took ∉ earlier

/-- The bind found the channel open and has no use yet. -/
structure Unserved (log : List BindNote) : Prop where
  found : .found true ∈ log
  untaken : .took ∉ log
  marked : .marked ∈ log → Overtaken log

/-- The bind has its use, and had it in time. -/
structure Served (log : List BindNote) : Prop where
  took : .took ∈ log
  timely : ¬ Overtaken log

section Orders

variable {log : List BindNote} {note : BindNote}

theorem overtaken_concat :
    Overtaken (log ++ [note]) ↔
      Overtaken log ∨ note = .marked ∧ .found true ∈ log ∧ .took ∉ log := by
  constructor
  · rintro ⟨earlier, later, hlog, hfound, htook⟩
    rcases List.eq_nil_or_concat later with rfl | ⟨later', last, rfl⟩
    · obtain ⟨rfl, hlast⟩ := List.append_inj' hlog rfl
      cases hlast
      exact .inr ⟨rfl, hfound, htook⟩
    · have hsplit : log ++ [note] = (earlier ++ .marked :: later') ++ [last] := by simpa using hlog
      obtain ⟨rfl, -⟩ := List.append_inj' hsplit rfl
      exact .inl ⟨earlier, later', rfl, hfound, htook⟩
  · rintro (⟨earlier, later, rfl, hfound, htook⟩ | ⟨rfl, hfound, htook⟩)
    · exact ⟨earlier, later ++ [note], by simp, hfound, htook⟩
    · exact ⟨log, [], rfl, hfound, htook⟩

theorem not_overtaken_of_unfound (h : .found true ∉ log) : ¬ Overtaken log := by
  rintro ⟨earlier, later, rfl, hfound, -⟩
  exact h (List.mem_append_left _ hfound)

theorem Unserved.mark (h : Unserved log) : Unserved (log ++ [.marked]) where
  found := List.mem_append_left _ h.found
  untaken := by simpa using h.untaken
  marked := fun _ => overtaken_concat.mpr (.inr ⟨rfl, h.found, h.untaken⟩)

theorem Served.concat (h : Served log) (note : BindNote) : Served (log ++ [note]) where
  took := List.mem_append_left _ h.took
  timely := by
    rw [overtaken_concat]
    rintro (hover | ⟨-, -, htook⟩)
    · exact h.timely hover
    · exact htook h.took

theorem served_of_unmarked (hmarked : .marked ∉ log) : Served (log ++ [.took]) where
  took := by simp
  timely := by
    rintro ⟨earlier, later, hlog, -⟩
    have hmem : BindNote.marked ∈ log ++ [.took] := by
      rw [hlog]
      simp
    simp [hmarked] at hmem

end Orders
end BindRace

/-! ## What an access does -/

namespace BindPoint

/-- The bind has not yet asked the policy. -/
def isEarly : BindPoint → Bool
  | askOpen | askBound | weigh => true
  | _ => false

/-- What an access of a bind does: where it leads to, and the word that it leaves. -/
inductive Stride (requested : Option Endpoint) (provider : Provider) (l : Listener) :
    BindPoint → UInt64 → BindPoint → Prop
  | shut (h : l.core.isOpen = false) :
      Stride requested provider l .askOpen l.descriptor.word (.ended (.error .closed))
  | isOpen (h : l.core.isOpen = true) :
    Stride requested provider l .askOpen l.descriptor.word .askBound
  | bound (h : l.isBound = true) :
      Stride requested provider l .askBound l.descriptor.word (.ended (.error .alreadyBound))
  | unbound : Stride requested provider l .askBound l.descriptor.word .weigh
  | unsupported (h : Listening.address? requested = none) :
      Stride requested provider l .weigh l.descriptor.word (.ended (.error .unsupportedAddress))
  | denied {address : Endpoint} {denial : Denial}
    (haddress : Listening.address? requested = some address)
      (h : provider.checkListen address.port = .error denial) :
      Stride requested provider l .weigh l.descriptor.word (.deny denial)
  | allowed (address : Endpoint) :
      Stride requested provider l .weigh l.descriptor.word (.take address .look)
  | deny (denial : Denial) :
      Stride requested provider l (.deny denial) l.descriptor.word
        (.ended (.error (.denied denial)))
  | refused {address : Endpoint} {call : Guard.Call} (h : Guard.isClosed l.descriptor.word = true) :
      Stride requested provider l (.take address call) l.descriptor.word
        (.ended (.error (.io .socketClosed)))
  | seen {address : Endpoint} {call : Guard.Call} (h : Guard.isClosed l.descriptor.word = false) :
      Stride requested provider l (.take address call) l.descriptor.word
        (.take address (.claim l.descriptor.word))
  | taken {address : Endpoint} {call : Guard.Call} (h : Guard.isClosed l.descriptor.word = false) :
      Stride requested provider l (.take address call) (l.descriptor.word + Guard.oneUse)
        (.claim address)
  | claim {address : Endpoint} (r : IoResult) :
      Stride requested provider l (.claim address) l.descriptor.word (answered (fun _ => .listen) r)
  | listen (r : IoResult) :
      Stride requested provider l .listen l.descriptor.word (answered (fun _ => .name) r)
  | name (r : Except IoError Endpoint) :
      Stride requested provider l .name l.descriptor.word (answered .store r)
  | store (bound : Endpoint) :
      Stride requested provider l (.store bound) l.descriptor.word (.tell bound)
  | tell (bound : Endpoint) :
      Stride requested provider l (.tell bound) l.descriptor.word (.leave (.ok ()))
  | leave (answer : Except Failure Unit) (call : Guard.Call) :
      Stride requested provider l (.leave answer) (l.descriptor.word - Guard.oneUse)
        (left answer call)
  | give (answer : Except Failure Unit) :
      Stride requested provider l (.give answer) l.descriptor.word (.ended answer)
  | ended (answer : Except Failure Unit) :
      Stride requested provider l (.ended answer) l.descriptor.word (.ended answer)

section Stride

variable {st st' : Station} {c : ListenerId} {l : Listener} {requested : Option Endpoint}
  {backlog : Int} {p p' : BindPoint}

theorem of_run_calls {α : Type} (call : FileNumber → Net α) (next : α → BindPoint)
    (hl : st.listeners[c]? = some l) (h : (calls c call next).run st = (.ok p', st')) :
    ∃ r, p' = answered next r ∧ st'.listeners = st.listeners := by
  rw [run_calls call next hl rfl] at h
  cases h
  exact ⟨_, rfl, rfl⟩

theorem Stride.isProper (h : Stride requested provider l p word p') : p'.isProper := by
  cases h with
  | allowed address => exact .inl rfl
  | seen hlive => exact .inr ⟨_, rfl, hlive⟩
  | claim r | listen r | name r => cases r <;> trivial
  | leave answer call => cases call <;> trivial
  | _ => trivial

theorem Stride.isClosed (h : Stride requested provider l p word p') :
    Guard.isClosed word = Guard.isClosed l.descriptor.word := by
  cases h with
  | taken hlive => exact Guard.isClosed_taken
  | leave answer call => exact Guard.isClosed_left
  | _ => rfl

theorem Stride.isEarly (h : Stride requested provider l p word p') (hearly : p'.isEarly = true) :
    p.isEarly = true := by
  cases h with
  | isOpen hopen | unbound => rfl
  | claim r | listen r | name r => cases r <;> cases hearly
  | leave answer call => cases call <;> cases hearly
  | _ => cases hearly

theorem isEarly_taking (address : Endpoint) (call : Guard.Call) :
    (taking address call).isEarly = false := by
  cases call <;> rfl

theorem isEarly_left (answer : Except Failure Unit) (call : Guard.Call) :
    (left answer call).isEarly = false := by
  cases call <;> rfl

theorem stride_take {address : Endpoint} {call : Guard.Call} (hp : (take address call).isProper) :
    Stride requested provider l (.take address call) (Guard.step l.descriptor.word call).1
      (taking address (Guard.step l.descriptor.word call).2.1) := by
  have hweigh : Stride requested provider l (.take address call) l.descriptor.word
      (taking address (Guard.weigh l.descriptor.word)) := by
    cases hclosed : Guard.isClosed l.descriptor.word with
    | true =>
      rw [Guard.weigh, if_pos hclosed]
      exact .refused hclosed
    | false =>
      rw [Guard.weigh, hclosed]
      exact .seen hclosed
  rcases hp with rfl | ⟨seen, rfl, hseen⟩
  · exact hweigh
  · by_cases hword : l.descriptor.word = seen
    · subst hword
      rw [Guard.step, if_pos rfl]
      exact .taken hseen
    · rw [Guard.step, if_neg hword]
      exact hweigh

/-- What an access of a bind does to its channel, and when it leaves everything as it is. -/
theorem stride (hl : st.listeners[c]? = some l) (hp : p.isProper)
    (h : (p.step c requested backlog).run st = (.ok p', st')) :
    ∃ word l', Stride requested st.provider l p word p' ∧ st'.listeners[c]? = some l' ∧
      l'.descriptor.word = word ∧ l'.core = l.core ∧ (p'.isEarly = true → st' = st) := by
  cases p with
  | askOpen =>
    rw [step, run_listener_bind hl] at h
    cases hopen : l.core.isOpen with
    | true =>
      rw [hopen] at h
      cases h
      exact ⟨_, l, .isOpen hopen, hl, rfl, rfl, fun _ => rfl⟩
    | false =>
      rw [hopen] at h
      cases h
      exact ⟨_, l, .shut hopen, hl, rfl, rfl, fun _ => rfl⟩
  | askBound =>
    rw [step, run_listener_bind hl] at h
    cases hbound : l.isBound with
    | true =>
      rw [hbound] at h
      cases h
      exact ⟨_, l, .bound hbound, hl, rfl, rfl, fun _ => rfl⟩
    | false =>
      rw [hbound] at h
      cases h
      exact ⟨_, l, .unbound, hl, rfl, rfl, fun _ => rfl⟩
  | weigh =>
    cases haddress : Listening.address? requested with
    | none =>
      rw [step, haddress] at h
      cases h
      exact ⟨_, l, .unsupported haddress, hl, rfl, rfl, fun _ => rfl⟩
    | some address =>
      simp only [step, haddress, run_bind, run_get] at h
      cases hpolicy : st.provider.checkListen address.port with
      | error denial =>
        rw [hpolicy] at h
        cases h
        exact ⟨_, l, .denied haddress hpolicy, hl, rfl, rfl, fun _ => rfl⟩
      | ok _ =>
        rw [hpolicy] at h
        cases h
        exact ⟨_, l, .allowed address, hl, rfl, rfl, fun _ => rfl⟩
  | deny denial =>
    rw [step, run_listener_bind hl, run_bind, run_emit] at h
    cases h
    exact ⟨_, l, .deny denial, (congrArg (·[c]?) (st.listeners_tell c _)).trans hl, rfl, rfl,
      fun hearly => by cases hearly⟩
  | take address call =>
    rw [run_take hl address hp] at h
    cases h
    have hl' := Station.listener_putWord hl (Guard.step l.descriptor.word call).1
    exact ⟨_, _, stride_take hp, hl', rfl, rfl,
      fun hearly => by rw [isEarly_taking] at hearly; cases hearly⟩
  | claim address =>
    obtain ⟨r, rfl, hlisteners⟩ := of_run_calls (fun number => Net.bind number address)
      (fun _ => .listen) hl h
    exact ⟨_, l, .claim r, hlisteners ▸ hl, rfl, rfl,
      fun hearly => by cases r <;> cases hearly⟩
  | listen =>
    obtain ⟨r, rfl, hlisteners⟩ := of_run_calls
      (fun number => Net.listen number (Listening.effectiveBacklog backlog)) (fun _ => .name) hl h
    exact ⟨_, l, .listen r, hlisteners ▸ hl, rfl, rfl,
      fun hearly => by cases r <;> cases hearly⟩
  | name =>
    obtain ⟨r, rfl, hlisteners⟩ := of_run_calls Net.localAddress .store hl h
    exact ⟨_, l, .name r, hlisteners ▸ hl, rfl, rfl,
      fun hearly => by cases r <;> cases hearly⟩
  | store bound =>
    cases h
    exact ⟨_, _, .store bound, Station.listener_modifyListener hl _, rfl, rfl,
      fun hearly => by cases hearly⟩
  | tell bound =>
    rw [step, run_listener_bind hl, run_bind, run_emit] at h
    cases h
    exact ⟨_, l, .tell bound, (congrArg (·[c]?) (st.listeners_tell c _)).trans hl, rfl, rfl,
      fun hearly => by cases hearly⟩
  | leave answer =>
    rw [step, run_bind_ok (run_accessDescriptor hl rfl)] at h
    cases h
    exact ⟨_, _, .leave answer _, Station.listener_putWord hl _, rfl, rfl,
      fun hearly => by rw [isEarly_left] at hearly; cases hearly⟩
  | give answer =>
    obtain ⟨released, network, -, haccess⟩ := run_accessDescriptor_act hl .release
    rw [step, run_bind_ok haccess] at h
    cases h
    exact ⟨_, l, .give answer, hl, rfl, rfl, fun hearly => by cases hearly⟩
  | ended answer =>
    cases h
    exact ⟨_, l, .ended answer, hl, rfl, rfl, fun hearly => by cases hearly⟩

end Stride
end BindPoint

/-- A kill or the rest of a close marks the descriptor where it says so, and touches neither the
word nor the flag otherwise. -/
theorem ClosePoint.Turn.seal {w w' : Scene} {p p' : ClosePoint} (h : Turn c w p w' p')
    (hp : p ≠ .shut) (hg : w.front.gate c = some g) :
    ∃ g', w'.front.gate c = some g' ∧ g'.isOpen = g.isOpen ∧
      g'.word = if (ShutPoint.rest p).marks then g.word ||| Guard.closedBit else g.word := by
  cases h with
  | shut => exact absurd rfl hp
  | marked | mark => exact ⟨_, Front.gate_onGate_some hg, rfl, rfl⟩
  | kill closing h =>
    cases h with
    | marked | mark | promoteOnly | promote => exact ⟨_, Front.gate_onGate_some hg, rfl, rfl⟩
    | _ => exact ⟨g, hg, rfl, rfl⟩
  | cancel rest outcome h => exact ⟨g, h.front ▸ hg, rfl, rfl⟩
  | _ => exact ⟨g, hg, rfl, rfl⟩

/-- What a move of a close does to the word, and that the channel is closed after it, or as it
was. -/
theorem ShutPoint.Stride.seal {v v' : Front} {p p' : ShutPoint}
    (h : Stride c none v p v' p') (hg : v.gate c = some g) :
    ∃ g', v'.gate c = some g' ∧
      g'.word = (if p.marks then g.word ||| Guard.closedBit else g.word) ∧
      (g'.isOpen = false ∨ p ≠ .flip ∧ g'.isOpen = g.isOpen) := by
  cases h with
  | flip hg' h hp' => exact ⟨_, Front.gate_onGate_some hg, rfl, .inl rfl⟩
  | shut hg' h =>
    cases hg.symm.trans hg'
    exact ⟨g, hg, rfl, .inl h⟩
  | credit t => exact ⟨_, Front.gate_onGate_some hg, rfl, .inr ⟨by rintro ⟨⟩, rfl⟩⟩
  | rest hw hpoint h =>
    obtain ⟨g', hg', hopen, hword⟩ := h.seal hpoint (hw ▸ hg)
    exact ⟨g', hg', hword, .inr ⟨by rintro ⟨⟩, hopen⟩⟩

/-! ## What closes leave alone -/

/-- The provider of the station, and the address of the channel. -/
def Station.terms (c : ListenerId) (st : Station) : Provider × Option (Option Endpoint) :=
  (st.provider, st.listeners[c]?.map Listener.localAddress)

section Terms

variable (c d : ListenerId)

theorem Station.terms_modifyListener (st : Station) {f : Listener → Listener}
    (hf : ∀ l, (f l).localAddress = l.localAddress) :
      (st.modifyListener d f).terms c = st.terms c := by
  have hmap : (st.modifyListener d f).listeners[c]?.map Listener.localAddress =
      st.listeners[c]?.map Listener.localAddress := by
    simpa [modifyListener] using congrArg (·[c]?) (map_modify_same st.listeners d hf)
  exact Prod.ext rfl hmap

theorem Station.terms_modifyKey (st : Station) (k : KeyId) (f : Key → Key) :
    (st.modifyKey k f).terms c = st.terms c := by
  unfold modifyKey
  split <;> rfl

theorem terms_hidesDescriptors : HidesDescriptors (Station.terms c) where
  world _ _ := rfl
  signals _ _ := rfl
  listeners st d _ hf := st.terms_modifyListener c d fun l => (hf l).2.2
  connections _ _ _ _ := rfl

theorem frames_terms_emit (seen : Option ListenerId) (event : Event) :
    Frames (Station.terms c) (emit seen event) := by
  refine frames_modify fun st => ?_
  split <;> rfl

theorem terms_keptByClosing (x : Provider × Option (Option Endpoint)) :
    KeptByClosing d fun st => st.terms c = x where
  touch hf := keeps_modify fun st h => (st.terms_modifyListener c d fun l => (hf l).2.1).trans h
  threads _ _ h := h
  invalidate k := keeps_modify fun st h => (st.terms_modifyKey c k _).trans h

theorem ShutPoint.frames_terms (target : Option ThreadId) (p : ShutPoint) :
    Frames (Station.terms c) (p.step d target) :=
  fun x => keeps_step (terms_keptByClosing c d x)
    (fun call _ => (terms_hidesDescriptors c).accessDescriptor d call x)
    (fun event => frames_terms_emit c _ event x) fun _ _ => keeps_modify fun _ h => h

end Terms

/-! ## What a race keeps -/

namespace BindRace

/-- The answer is a success, or the error of a call of the network that failed. -/
def Explained (log : List BindNote) (answer : Except Failure Unit) : Prop :=
  answer = .ok () ∨ ∃ e, answer = .error (.io e) ∧ .failed e ∈ log

/-- What was noted by the time the bind stands at a point. -/
def Told (log : List BindNote) : BindPoint → Prop
  | .askOpen => .found true ∉ log ∧ .took ∉ log
  | .askBound | .weigh | .take _ _ => Unserved log
  | .deny _ => False
  | .claim _ | .listen | .name | .store _ | .tell _ => Served log
  | .leave answer | .give answer => Served log ∧ Explained log answer
  | .ended answer =>
    answer = .error .closed ∧ .found true ∉ log ∨
      answer = .error (.io .socketClosed) ∧ Overtaken log ∨ Served log ∧ Explained log answer

/-- What holds at every moment of a race that begins with an open channel without an address, where
the address is supported and the policy allows it. -/
structure Kept (r : BindRace) (l : Listener) : Prop where
  listed : r.station.listeners[r.channel]? = some l
  proper : ∀ p ∈ r.closes, p.isProper
  flipped : ∀ p ∈ r.closes, p ≠ .flip → l.core.isOpen = false
  shut : .marked ∈ r.log → l.core.isOpen = false
  marked : Guard.isClosed l.descriptor.word = true ↔ .marked ∈ r.log
  orderly : r.bind.isProper
  free : r.bind.isEarly = true → l.localAddress = none ∧
    ∃ address, Listening.address? r.requested = some address ∧
      r.station.provider.checkListen address.port = .ok ()
  told : Told r.log r.bind

section Told

variable {log : List BindNote} {p p' : BindPoint} {requested : Option Endpoint}
  {provider : Provider} {l : Listener} {word : UInt64}

theorem Explained.concat {answer : Except Failure Unit} (h : Explained log answer)
    (note : BindNote) :
    Explained (log ++ [note]) answer := by
  rcases h with h | ⟨e, h, hfailed⟩
  · exact .inl h
  · exact .inr ⟨e, h, List.mem_append_left _ hfailed⟩

theorem Told.mark (h : Told log p) : Told (log ++ [.marked]) p := by
  cases p with
  | askOpen => exact ⟨by simpa using h.1, by simpa using h.2⟩
  | askBound | weigh | take address call => exact Unserved.mark h
  | deny denial => exact h.elim
  | claim address | listen | name | store bound | tell bound => exact Served.concat h _
  | leave answer | give answer => exact ⟨h.1.concat _, h.2.concat _⟩
  | ended answer =>
    rcases h with ⟨hanswer, hfound⟩ | ⟨hanswer, hover⟩ | ⟨hserved, hexplained⟩
    · exact .inl ⟨hanswer, by simpa using hfound⟩
    · exact .inr (.inl ⟨hanswer, overtaken_concat.mpr (.inl hover)⟩)
    · exact .inr (.inr ⟨hserved.concat _, hexplained.concat _⟩)

theorem told_quiet (hquiet : p.note p' = none) (h : Told log p') :
    Told (log ++ (p.note p').toList) p' := by
  rw [hquiet, Option.toList_none, List.append_nil]
  exact h

theorem told_answered {α : Type} {next : α → BindPoint} (h : Served log) (r : Except IoError α)
    (hnext : ∀ v, Told log (next v)) (hquiet : ∀ v, p.note (next v) = none)
    (hnote : ∀ e, p.note (.leave (.error (.io e))) = some (.failed e)) :
    Told (log ++ (p.note (.answered next r)).toList) (.answered next r) := by
  cases r with
  | error e =>
    show Told (log ++ (p.note (.leave (.error (.io e)))).toList) (.leave (.error (.io e)))
    rw [hnote]
    exact ⟨h.concat _, .inr ⟨e, rfl, by simp⟩⟩
  | ok v => exact told_quiet (hquiet v) (hnext v)

/-- What an access of a bind adds to the log tells where it leads to. -/
theorem Told.stride (h : Told log p) (hstride : p.Stride requested provider l word p')
    (hshut : .marked ∈ log → l.core.isOpen = false)
    (hmarked : Guard.isClosed l.descriptor.word = true ↔ .marked ∈ log)
    (hfree : p.isEarly = true → l.localAddress = none ∧
      ∃ address, Listening.address? requested = some address ∧
        provider.checkListen address.port = .ok ()) :
    Told (log ++ (p.note p').toList) p' := by
  cases hstride with
  | shut hclosed => exact .inl ⟨rfl, by simpa [BindPoint.note] using h.1⟩
  | isOpen hopen =>
    refine ⟨by simp [BindPoint.note], by simpa [BindPoint.note] using h.2, fun hmark => ?_⟩
    have hmark : .marked ∈ log := by simpa [BindPoint.note] using hmark
    cases hopen.symm.trans (hshut hmark)
  | bound hbound =>
    have hunbound : l.isBound = false := by
      rw [Listener.isBound, (hfree rfl).1]
      rfl
    cases hbound.symm.trans hunbound
  | unsupported hnone =>
    obtain ⟨-, address, haddress, -⟩ := hfree rfl
    cases hnone.symm.trans haddress
  | denied haddress hdenied =>
    obtain ⟨-, address, haddress', hallowed⟩ := hfree rfl
    cases haddress.symm.trans haddress'
    cases hdenied.symm.trans hallowed
  | unbound | allowed address | seen hlive | store bound | ended answer => exact told_quiet rfl h
  | deny denial => exact h.elim
  | refused hclosed =>
    have hover : Overtaken log := Unserved.marked h (hmarked.mp hclosed)
    exact told_quiet rfl (.inr (.inl ⟨rfl, hover⟩))
  | taken hlive =>
    refine served_of_unmarked fun hmark => ?_
    cases hlive.symm.trans (hmarked.mpr hmark)
  | claim r | listen r | name r => exact told_answered h r (fun _ => h) (fun _ => rfl) fun _ => rfl
  | tell bound => exact told_quiet rfl ⟨h, .inl rfl⟩
  | leave answer call =>
    cases call with
    | act effect => exact told_quiet rfl h
    | _ => exact told_quiet rfl (.inr (.inr h))
  | give answer => exact told_quiet rfl (.inr (.inr h))

end Told

section Kept

variable {r : BindRace} {l : Listener}

theorem marked_mem_note {log : List BindNote} (p p' : BindPoint) :
    .marked ∈ log ++ (p.note p').toList ↔ .marked ∈ log := by
  have hnote : p.note p' ≠ some .marked := by
    unfold BindPoint.note
    split <;> simp
  cases hp : p.note p' with
  | none => simp
  | some note =>
    have hne : note ≠ .marked := fun h => hnote (h ▸ hp)
    simp [Ne.symm hne]

theorem Kept.moveBind (h : Kept r l) : ∃ l', Kept r.moveBind l' := by
  unfold BindRace.moveBind
  split
  · exact ⟨l, h⟩
  split
  · exact ⟨l, h⟩
  next next station hrun =>
    obtain ⟨word, l', hstride, hl', hword, hcore, hearly⟩ :=
      BindPoint.stride h.listed h.orderly hrun
    refine ⟨l', hl', h.proper, ?_, ?_, ?_, hstride.isProper, fun hfree => ?_, ?_⟩
    · rw [hcore]
      exact h.flipped
    · rw [marked_mem_note, hcore]
      exact h.shut
    · rw [marked_mem_note, hword, hstride.isClosed]
      exact h.marked
    · have hstation := hearly hfree
      subst hstation
      cases hl'.symm.trans h.listed
      exact h.free (hstride.isEarly hfree)
    · exact h.told.stride hstride h.shut h.marked h.free

theorem Kept.moveClose (h : Kept r l) (i : Nat) : ∃ l', Kept (r.moveClose i) l' := by
  unfold BindRace.moveClose
  split
  · exact ⟨l, h⟩
  next p hp =>
  split
  · exact ⟨l, h⟩
  split
  · exact ⟨l, h⟩
  next next station hrun =>
    have hmem : p ∈ r.closes := List.mem_of_getElem? hp
    have hstride := ShutPoint.stride (h.proper p hmem) hrun
    obtain ⟨g', hg', hword, hopen⟩ := hstride.seal (Station.gate_front h.listed)
    obtain ⟨l', hl', rfl⟩ := Option.map_eq_some_iff.mp hg'
    -- whoever has moved has flipped the channel, or found it closed
    have hshut : l'.core.isOpen = false := by
      rcases hopen with hopen | ⟨hflipped, hopen⟩
      · exact hopen
      · exact hopen.trans (h.flipped p hmem hflipped)
    have hterms := (ShutPoint.frames_terms r.channel r.channel none p).of_run hrun
    have hprovider : station.provider = r.station.provider := congrArg Prod.fst hterms
    have haddress : l'.localAddress = l.localAddress := by
      have hmap := congrArg Prod.snd hterms
      simpa [Station.terms, hl', h.listed] using hmap
    refine ⟨l', hl', ?_, fun _ _ _ => hshut, fun _ => hshut, ?_, h.orderly,
      fun hearly => ?_, ?_⟩
    · intro q hq
      rcases List.mem_or_eq_of_mem_set hq with hq | rfl
      · exact h.proper q hq
      · exact hstride.isProper
    · have hword : l'.descriptor.word = _ := hword
      rw [hword]
      cases hmarks : p.marks with
      | true => simp [Guard.isClosed_mark]
      | false => simpa [Listener.gate] using h.marked
    · dsimp only
      rw [haddress, hprovider]
      exact h.free hearly
    · cases hmarks : p.marks with
      | true => exact h.told.mark
      | false => simpa using h.told

theorem Kept.play (h : Kept r l) (beat : Beat) : ∃ l', Kept (r.play beat) l' := by
  cases beat with
  | bind => exact h.moveBind
  | close i => exact h.moveClose i
  | world network =>
    exact ⟨l, ⟨h.listed, h.proper, h.flipped, h.shut, h.marked, h.orderly, h.free, h.told⟩⟩

theorem Kept.after (h : Kept r l) (beats : List Beat) : ∃ l', Kept (r.after beats) l' := by
  refine List.foldlRecOn (motive := fun r => ∃ l, Kept r l) beats _ ⟨l, h⟩ ?_
  rintro r ⟨l', h'⟩ beat -
  exact h'.play beat

/-- No close keeps the lock that a bind needs. -/
def Unhindered (r : BindRace) : Prop :=
  ∀ p ∈ r.closes, .state r.channel ∉ p.holds r.channel

theorem Unhindered.keeps (h : r.Unhindered) : r.keeps (r.bind.wants r.channel) = false := by
  have hwants :
      r.bind.wants r.channel = none ∨ r.bind.wants r.channel = some (.state r.channel) := by
    cases r.bind <;> first | exact .inl rfl | exact .inr rfl
  rcases hwants with hwants | hwants
  · rw [hwants]
    rfl
  · rw [hwants, BindRace.keeps, List.any_eq_false]
    intro p hp
    simpa using h p hp

/-- The accesses of a bind that runs alone are those of the race. -/
theorem Unhindered.solo (h : r.Unhindered) {st' : Station} {p' : BindPoint}
    (hsolo : Solo (BindPoint.step r.channel r.requested r.backlog) r.station r.bind st' p') :
    ∃ n, (r.after (List.replicate n .bind)).bind = p' := by
  have hrun (x : Station × BindPoint) (hx : Relation.ReflTransGen
      (fun x y : Station × BindPoint =>
        (BindPoint.step r.channel r.requested r.backlog x.2).run x.1 = (.ok y.2, y.1))
          x (st', p')) :
      ∀ log, ∃ n, (({ r with station := x.1, bind := x.2, log } : BindRace).after
        (List.replicate n .bind)).bind = p' := by
    induction hx using Relation.ReflTransGen.head_induction_on with
    | refl => exact fun log => ⟨0, rfl⟩
    | @head x y hstep hrest ih =>
      intro log
      obtain ⟨n, hn⟩ := ih (log ++ (x.2.note y.2).toList)
      refine ⟨n + 1, ?_⟩
      have hmove : ({ r with station := x.1, bind := x.2, log } : BindRace).moveBind =
          { r with station := y.1, bind := y.2, log := log ++ (x.2.note y.2).toList } := by
        have hfree : ({ r with station := x.1, bind := x.2, log } : BindRace).Unhindered := h
        rw [BindRace.moveBind, hfree.keeps]
        simp only [Bool.false_eq_true, if_false, hstep]
      rw [List.replicate_succ]
      show (({ r with station := x.1, bind := x.2, log } : BindRace).moveBind.after _).bind = p'
      rw [hmove]
      exact hn
  exact hrun _ hsolo r.log

/-- A bind that no close keeps from moving comes to its answer by accesses of its own. -/
theorem Kept.returns (h : Kept r l) (hfree : r.Unhindered) :
    ∃ n answer, (r.after (List.replicate n .bind)).bind = .ended answer := by
  have hfinishes : BindPoint.Finishes r.channel r.requested r.backlog r.station r.bind :=
    BindPoint.finishes h.listed h.orderly
  obtain ⟨answer, st', hsolo⟩ := hfinishes
  obtain ⟨n, hn⟩ := hfree.solo hsolo
  exact ⟨n, answer, hn⟩

end Kept

/-- A bind and closes about to begin, on an open channel without an address whose
descriptor is not closed. -/
theorem kept_start {st : Station} {l : Listener} {requested : Option Endpoint} {backlog : Int}
    {address : Endpoint} {closes : List ShutPoint} (hl : st.listeners[c]? = some l)
    (hadmits : st.Admits l requested address) (hfree : l.localAddress = none)
    (hnew : ∀ p ∈ closes, p = .flip) :
    Kept { station := st, channel := c, requested, backlog, closes } l where
  listed := hl
  proper := fun p hp => by
    rw [hnew p hp]
    trivial
  flipped := fun p hp hmoved => absurd (hnew p hp) hmoved
  shut := fun hmarked => by cases hmarked
  marked := by
    have hlive : Guard.isClosed l.descriptor.word = false := hadmits.live
    simp [hlive]
  orderly := trivial
  free := fun _ => ⟨hfree, address, hadmits.supported, hadmits.allowed⟩
  told := ⟨by simp, by simp⟩

/-- For every order in which a bind and closes of its channel do their accesses, where the address
is supported, the policy allows it and the calls of the network that the bind makes succeed: the
bind answers with a success or says that the channel is closed, exactly if the descriptor was not
marked between its look at the open flag and its use. Where it was, the bind answers that the
socket is closed, which counts as a failure of the network. And a bind always comes to its answer,
once no close keeps it from moving. -/
theorem bind_tells_of_close_iff {st : Station} {c : ListenerId} {l : Listener}
    {requested : Option Endpoint} {backlog : Int} {address : Endpoint} {closes : List ShutPoint}
    (hl : st.listeners[c]? = some l) (hadmits : st.Admits l requested address)
    (hfree : l.localAddress = none) (hnew : ∀ p ∈ closes, p = .flip) {beats : List Beat}
    {r : BindRace}
    (hr : r = BindRace.after { station := st, channel := c, requested, backlog, closes } beats) :
    (∀ answer, r.bind = .ended answer → (∀ e, .failed e ∉ r.log) →
      ((answer = .ok () ∨ ∃ f, answer = .error f ∧ f.kind = .closedChannel) ↔
        ¬ Overtaken r.log) ∧
      (Overtaken r.log → answer = .error (.io .socketClosed))) ∧
    (r.Unhindered → ∃ n answer, (r.after (List.replicate n .bind)).bind = .ended answer) := by
  obtain ⟨l', hkept⟩ := (kept_start hl hadmits hfree hnew).after beats
  rw [← hr] at hkept
  refine ⟨fun answer hanswer hsucceed => ?_, hkept.returns⟩
  have htold := hkept.told
  rw [hanswer] at htold
  rcases htold with ⟨rfl, hfound⟩ | ⟨rfl, hover⟩ | ⟨hserved, rfl | ⟨e, -, hfailed⟩⟩
  · have htimely := not_overtaken_of_unfound hfound
    exact ⟨iff_of_true (.inr ⟨_, rfl, rfl⟩) htimely, fun hover => absurd hover htimely⟩
  · refine ⟨iff_of_false ?_ (not_not_intro hover), fun _ => rfl⟩
    rintro (hok | ⟨f, hfailure, hkind⟩)
    · cases hok
    · cases hfailure
      cases hkind
  · exact ⟨iff_of_true (.inl rfl) hserved.timely, fun hover => absurd hover hserved.timely⟩
  · exact absurd hfailed (hsucceed e)

/-- A bind of a new channel finds it open and is allowed to listen; then somebody closes the
channel, and the bind asks for its use. -/
def overtaken : BindRace :=
  BindRace.after
    { station := (openListener.run {}).2, channel := 0, requested := none, backlog := 5,
      closes := [.flip] }
    (List.replicate 3 .bind ++ List.replicate 16 (.close 0) ++ [.bind])

theorem bind_overtaken_by_close :
    overtaken.closes.all ShutPoint.isOver = true ∧
      overtaken.log = [.found true, .marked, .marked] ∧
      overtaken.bind = .ended (.error (.io .socketClosed)) ∧
      Failure.kind (.io .socketClosed) = .ioFailure ∧
      ¬ ((.error (.io .socketClosed) : Except Failure Unit) = .ok () ∨
        ∃ f, (.error (.io .socketClosed) : Except Failure Unit) = .error f ∧
        f.kind = .closedChannel) := by
  have hl :
      (openListener.run {}).2.listeners[0]? = some { id := 1, descriptor := { number := 3 } } := rfl
  have hadmits :
      (openListener.run {}).2.Admits { id := 1, descriptor := { number := 3 } } none .wildcard :=
    ⟨rfl, rfl, rfl⟩
  have hlog : overtaken.log = [.found true, .marked, .marked] := by decide +kernel
  have hended : overtaken.bind = .ended (.error (.io .socketClosed)) := rfl
  have hsucceed : ∀ e, .failed e ∉ overtaken.log := by
    intro e
    rw [hlog]
    simp
  have hover : Overtaken overtaken.log := ⟨[.found true], [.marked], hlog, by simp, by simp⟩
  have hiff := ((bind_tells_of_close_iff hl hadmits rfl (by simp) rfl).1 _ hended hsucceed).1
  exact ⟨by decide +kernel, hlog, hended, rfl, fun h => hiff.mp h hover⟩

end BindRace
end PolledChannels
