import Mathlib.Data.List.Induction
import PolledChannels.Proofs.Frames

/-!
# The life of a channel as its events tell it

The events of one channel form a word: it is opened once; while it is not bound, it may be
denied to listen and may be bound; while it is bound, connections may be accepted and denied;
as long as it is open, invalid descriptors and interrupts may be told; then it is closed once
and, last of all, killed. `Stage.next` says which event may come at which stage, and
`Stage.replay` reads a word. 
The diary of a station is what such words are about: the events that were kept, and of each channel
its number, whether it is open or killed, and its address. A diary is faithful if the events of
every channel with a number of its own form a word that leads to the stage the channel is at.
-/

namespace PolledChannels

variable {e : Event} {events : List Event} {p : Page} {d : Diary} {c : ListenerId} {n : Nat}

/-- How far a channel has come; the text is that of its address. -/
inductive Stage where
  | unopened
  | live (address : Option String)
  | closed (address : Option String)
  | killed (address : Option String)
  deriving DecidableEq, Repr

namespace Stage

/-- The stage that an event leads to, if it may come now. -/
def next : Stage → Event → Option Stage
  | unopened, e => if e.kind = .opened then some (live e.localAddress) else none
  | live none, e =>
    match e.kind with
    | .listenDenied | .invalidDescriptor | .interrupted => some (live none)
    | .bound => e.localAddress.map fun a => live (some a)
    | .closed => some (closed none)
    | _ => none
  | live (some a), e =>
    match e.kind with
    | .accepted | .acceptDenied | .invalidDescriptor | .interrupted => some (live (some a))
    | .closed => some (closed (some a))
    | _ => none
  | closed address, e => if e.kind = .killed then some (killed address) else none
  | killed _, _ => none

/-- The stage that a word of events leads to. -/
def replay (events : List Event) : Option Stage := events.foldlM next unopened

def address : Stage → Option String
  | unopened => none
  | live a | closed a | killed a => a

def isClosed : Stage → Bool
  | closed _ | killed _ => true
  | _ => false

def isKilled : Stage → Bool
  | killed _ => true
  | _ => false

theorem replay_concat (events : List Event) (e : Event) :
    replay (events ++ [e]) = (replay events).bind fun stage => stage.next e := by
  simp [replay, List.foldlM_append]

variable {stage : Stage}

/-- A channel is opened, bound, closed and killed in this order, and all else
leaves it where it is. -/
theorem next_cases {stage' : Stage} (h : stage.next e = some stage') :
    (stage = unopened ∧ e.kind = .opened ∧ stage' = live e.localAddress) ∨
    (stage = live none ∧ e.kind = .bound ∧ e.localAddress.isSome = true ∧
      stage' = live e.localAddress) ∨
    (∃ a, stage = live a ∧ stage' = live a ∧
      e.kind ∉ [.opened, .bound, .closed, .killed]) ∨
    (∃ a, stage = live a ∧ e.kind = .closed ∧ stage' = closed a) ∨
    ∃ a, stage = closed a ∧ e.kind = .killed ∧ stage' = killed a := by
  cases stage with
  | unopened =>
    obtain ⟨hkind, hstage⟩ := Option.ite_none_right_eq_some.mp h
    exact .inl ⟨rfl, hkind, (Option.some.inj hstage).symm⟩
  | live address =>
    cases address with
    | none =>
      cases hkind : e.kind with
      | bound =>
        simp only [next, hkind] at h
        obtain ⟨a, ha, rfl⟩ := Option.map_eq_some_iff.mp h
        simp [ha]
      | listenDenied | invalidDescriptor | interrupted | closed =>
        simp only [next, hkind, Option.some.injEq] at h
        simp [← h]
      | _ => simp [next, hkind] at h
    | some a =>
      cases hkind : e.kind with
      | accepted | acceptDenied | invalidDescriptor | interrupted | closed =>
        simp only [next, hkind, Option.some.injEq] at h
        simp [← h]
      | _ => simp [next, hkind] at h
  | closed a =>
    obtain ⟨hkind, hstage⟩ := Option.ite_none_right_eq_some.mp h
    exact .inr (.inr (.inr (.inr ⟨a, rfl, hkind, (Option.some.inj hstage).symm⟩)))
  | killed a => cases h

theorem next_of_aside (hkind : e.kind = .invalidDescriptor ∨ e.kind = .interrupted)
    (a : Option String) : (live a).next e = some (live a) := by
  cases a <;> rcases hkind with hkind | hkind <;> simp [next, hkind]

/-- What stages show from a certain event on, they show exactly if the event is in the word. -/
theorem exists_mem_iff (tells : Event → Prop) (shows : Stage → Prop)
    (hstart : ¬ shows unopened)
    (hnext : ∀ {stage e stage'}, next stage e = some stage' →
      (shows stage' ↔ shows stage ∨ tells e))
    (h : replay events = some stage) : (∃ e ∈ events, tells e) ↔ shows stage := by
  induction events using List.reverseRecOn generalizing stage with
  | nil =>
    cases h
    simpa using hstart
  | append_singleton events e ih =>
    rw [replay_concat] at h
    obtain ⟨before, hbefore, hlast⟩ := Option.bind_eq_some_iff.mp h
    rw [hnext hlast, ← ih hbefore]
    simp [or_and_right, exists_or]

theorem closed_mem_iff (h : replay events = some stage) :
    (∃ e ∈ events, e.kind = .closed) ↔ stage.isClosed = true := by
  refine exists_mem_iff (·.kind = .closed) (·.isClosed = true) Bool.false_ne_true
    (fun hnext => ?_) h
  rcases next_cases hnext with ⟨rfl, hkind, rfl⟩ | ⟨rfl, hkind, -, rfl⟩ |
    ⟨a, rfl, rfl, hkind⟩ |
    ⟨a, rfl, hkind, rfl⟩ | ⟨a, rfl, hkind, rfl⟩ <;> simp_all [isClosed]

theorem killed_mem_iff (h : replay events = some stage) :
    (∃ e ∈ events, e.kind = .killed) ↔ stage.isKilled = true := by
  refine exists_mem_iff (·.kind = .killed) (·.isKilled = true) Bool.false_ne_true
    (fun hnext => ?_) h
  rcases next_cases hnext with ⟨rfl, hkind, rfl⟩ | ⟨rfl, hkind, -, rfl⟩ |
    ⟨a, rfl, rfl, hkind⟩ |
    ⟨a, rfl, hkind, rfl⟩ | ⟨a, rfl, hkind, rfl⟩ <;> simp_all [isKilled]

theorem bound_mem_iff (h : replay events = some stage) :
    (∃ e ∈ events, e.kind = .bound ∨ e.kind = .opened ∧ e.localAddress.isSome = true) ↔
      stage.address.isSome = true := by
  refine exists_mem_iff (fun e => e.kind = .bound ∨ e.kind = .opened ∧
    e.localAddress.isSome = true)
    (·.address.isSome = true) Bool.false_ne_true (fun hnext => ?_) h
  rcases next_cases hnext with ⟨rfl, hkind, rfl⟩ | ⟨rfl, hkind, haddress, rfl⟩ |
    ⟨a, rfl, rfl, hkind⟩ |
    ⟨a, rfl, hkind, rfl⟩ | ⟨a, rfl, hkind, rfl⟩ <;> simp_all [address]

theorem address_of_mem (h : replay events = some stage) (he : e ∈ events)
    (hkind : e.kind = .bound ∨ e.kind = .opened ∧ e.localAddress.isSome = true) :
    e.localAddress = stage.address := by
  induction events using List.reverseRecOn generalizing stage with
  | nil => cases he
  | append_singleton events last ih =>
    rw [replay_concat] at h
    obtain ⟨before, hbefore, hlast⟩ := Option.bind_eq_some_iff.mp h
    rcases List.mem_append.mp he with he | he
    · have haddress := ih hbefore he
      have hsome : before.address.isSome = true := (bound_mem_iff hbefore).mp ⟨e, he, hkind⟩
      rw [haddress]
      -- a channel that has an address gets no other
      rcases next_cases hlast with ⟨rfl, -, rfl⟩ | ⟨rfl, -, -, rfl⟩ | ⟨a, rfl, rfl, -⟩ |
        ⟨a, rfl, -, rfl⟩ | ⟨a, rfl, -, rfl⟩
      · cases hsome
      · cases hsome
      all_goals rfl
    · cases List.mem_singleton.mp he
      rcases next_cases hlast with ⟨rfl, -, rfl⟩ | ⟨rfl, -, -, rfl⟩ |
        ⟨a, rfl, rfl, hother⟩ | ⟨a, rfl, hother, rfl⟩ | ⟨a, rfl, hother, rfl⟩
      · rfl
      · rfl
      all_goals simp_all

end Stage

/-! ## Pages and diaries -/

/-- What the events of a channel tell of it. -/
structure Page where
  id : Nat
  isOpen : Bool
  lifecycle : Lifecycle
  address : Option Endpoint

namespace Page

def stage (p : Page) : Stage :=
  if p.lifecycle = .killed then .killed (p.address.map Endpoint.render)
  else if p.isOpen then .live (p.address.map Endpoint.render)
  else .closed (p.address.map Endpoint.render)

structure Sound (p : Page) : Prop where
  used : p.lifecycle ≠ .uninitialized
  killed : p.lifecycle = .killed → p.isOpen = false

theorem address_stage (p : Page) : p.stage.address = p.address.map Endpoint.render := by
  unfold stage
  split
  · rfl
  · split <;> rfl

theorem isKilled_stage (p : Page) : p.stage.isKilled = true ↔ p.lifecycle = .killed := by
  unfold stage
  split
  case isTrue hkilled => simp [Stage.isKilled, hkilled]
  case isFalse hkilled => split <;> simp [Stage.isKilled, hkilled]

theorem Sound.isClosed_stage (h : p.Sound) : p.stage.isClosed = true ↔ p.isOpen = false := by
  unfold stage
  split
  case isTrue hkilled => simp [Stage.isClosed, h.killed hkilled]
  case isFalse => split <;> simp_all [Stage.isClosed]

theorem Sound.stage_open (h : p.Sound) (hopen : p.isOpen = true) :
    p.stage = .live (p.address.map Endpoint.render) := by
  have hlive : p.lifecycle ≠ .killed := fun hkilled => by simp [h.killed hkilled] at hopen
  simp [stage, hlive, hopen]

/-- A channel that a connection may be taken from. -/
def Accepting (p : Page) : Prop := p.isOpen = true ∧ p.address.isSome = true

def close (p : Page) : Page := { p with isOpen := false }

def kill (p : Page) : Page := { p with lifecycle := .killed }

theorem Sound.next_close (h : p.Sound) (hopen : p.isOpen = true) (hkind : e.kind = .closed) :
    p.stage.next e = some p.close.stage := by
  have hlive : p.lifecycle ≠ .killed := fun hkilled => by simp [h.killed hkilled] at hopen
  rw [h.stage_open hopen]
  simp only [stage, close, hlive, if_false]
  cases p.address <;> simp [Stage.next, hkind]

theorem sound_kill (hclosed : p.isOpen = false) : p.kill.Sound where
  used := by simp [kill]
  killed := fun _ => hclosed

theorem next_kill (hlife : p.lifecycle = .inUse) (hclosed : p.isOpen = false)
    (hkind : e.kind = .killed) : p.stage.next e = some p.kill.stage := by
  simp [stage, kill, hlife, hclosed, Stage.next, hkind]

end Page

/-- What the life of channels leaves in a station. -/
structure Diary where
  /-- One page for each listening channel. -/
  pages : List Page
  /-- The numbers of the connections. -/
  guests : List Nat
  nextId : Nat
  logging : Bool
  memory : EventMemory
  /-- What each thread is blocked on. -/
  blocked : ThreadId → Option ListenerId

namespace Diary

def numbers (d : Diary) : List Nat := d.pages.map Page.id ++ d.guests

/-- No other channel is told of under the number. -/
def OwnNumber (d : Diary) (n : Nat) : Prop := ∀ m ∈ d.numbers, m.toUInt64 = n.toUInt64 → m = n

structure Faithful (d : Diary) : Prop where
  logging : d.logging = true
  sound : ∀ p ∈ d.pages, p.Sound
  fresh : ∀ n ∈ d.numbers, n < d.nextId
  distinct : d.numbers.Nodup
  named : ∀ e ∈ d.memory.events, ∃ n ∈ d.numbers, e.channel = n.toUInt64
  word : ∀ p ∈ d.pages, d.OwnNumber p.id →
    Stage.replay (d.memory.ofChannel p.id.toUInt64) = some p.stage

def tell (d : Diary) (e : Event) : Diary := { d with memory := d.memory.emit e }

/-- The diary with a page in the place of another. -/
def turn (d : Diary) (c : ListenerId) (p : Page) : Diary := { d with pages := d.pages.set c p }

/-- The diary with a page for a new channel. -/
def opened (d : Diary) (address : Option Endpoint) : Diary :=
  { d with pages := d.pages ++ [⟨d.nextId, true, .inUse, address⟩], nextId := d.nextId + 1 }

/-- The diary with the number of a new connection. -/
def joined (d : Diary) : Diary :=
  { d with guests := d.guests ++ [d.nextId], nextId := d.nextId + 1 }

theorem ofChannel_tell_own (d : Diary) {n : UInt64} (he : e.channel = n) :
    (d.tell e).memory.ofChannel n = d.memory.ofChannel n ++ [e] := by
  simp [tell, EventMemory.emit, EventMemory.ofChannel, he]

theorem ofChannel_tell_other (d : Diary) {n : UInt64} (he : e.channel ≠ n) :
    (d.tell e).memory.ofChannel n = d.memory.ofChannel n := by
  simp [tell, EventMemory.emit, EventMemory.ofChannel, he]

theorem id_mem_numbers (hp : p ∈ d.pages) : p.id ∈ d.numbers :=
  List.mem_append_left _ (List.mem_map_of_mem hp)

theorem numbers_turn {p' : Page} (hp : d.pages[c]? = some p) (hid : p'.id = p.id) :
    (d.turn c p').numbers = d.numbers := by
  have hpages : (d.pages.set c p').map Page.id = d.pages.map Page.id := by
    refine List.ext_getElem? fun j => ?_
    by_cases hj : c = j
    · subst hj
      obtain ⟨hc, hp⟩ := List.getElem?_eq_some_iff.mp hp
      simp [hc, hp, hid]
    · simp [hj]
  simp [numbers, turn, hpages]

theorem turn_self (hp : d.pages[c]? = some p) : d.turn c p = d := by
  obtain ⟨hc, rfl⟩ := List.getElem?_eq_some_iff.mp hp
  simp [turn]

namespace Faithful

variable {d : Diary} (h : d.Faithful) {q : Page}
include h

/-- Fewer than 2⁶⁴ channels have a number of their own each. -/
theorem ownNumber (hfew : d.nextId ≤ UInt64.size) (hn : n ∈ d.numbers) : d.OwnNumber n := by
  intro m hm hword
  have hm' : m < UInt64.size := Nat.lt_of_lt_of_le (h.fresh m hm) hfew
  have hn' : n < UInt64.size := Nat.lt_of_lt_of_le (h.fresh n hn) hfew
  calc m = m.toUInt64.toNat := (UInt64.toNat_ofNat_of_lt' hm').symm
    _ = n.toUInt64.toNat := congrArg UInt64.toNat hword
    _ = n := UInt64.toNat_ofNat_of_lt' hn'

theorem place_unique {i j : ListenerId} (hp : d.pages[i]? = some p)
    (hq : d.pages[j]? = some q) (hid : p.id = q.id) : i = j := by
  have hnodup : (d.pages.map Page.id).Nodup := (List.nodup_append.mp h.distinct).1
  have hi : i < (d.pages.map Page.id).length := by
    simpa using (List.getElem?_eq_some_iff.mp hp).1
  exact (List.getElem?_inj hi hnodup).mp (by simp [hp, hq, hid])

/-- What is told of a channel is not told of another that has a number of its own. -/
theorem word_other (hq : q ∈ d.pages) (hown : d.OwnNumber q.id) (hn : n ∈ d.numbers)
    (hne : n ≠ q.id) (he : e.channel = n.toUInt64) :
    Stage.replay ((d.tell e).memory.ofChannel q.id.toUInt64) = some q.stage := by
  rw [ofChannel_tell_other d fun hchannel => hne (hown n hn (he.symm.trans hchannel))]
  exact h.word q hq hown

theorem named_tell (hn : n ∈ d.numbers) (he : e.channel = n.toUInt64) :
    ∀ e' ∈ (d.tell e).memory.events, ∃ n ∈ d.numbers, e'.channel = n.toUInt64 := by
  intro e' he'
  rcases List.mem_append.mp he' with he' | he'
  · exact h.named e' he'
  · rw [List.mem_singleton.mp he']
    exact ⟨n, hn, he⟩

theorem turn_tell {p' : Page} (hp : d.pages[c]? = some p) (hid : p'.id = p.id) (hsound : p'.Sound)
    (he : e.channel = p.id.toUInt64) (hnext : p.stage.next e = some p'.stage) :
    ((d.turn c p').tell e).Faithful := by
  have hmem : p ∈ d.pages := List.mem_of_getElem? hp
  have hnumbers : ((d.turn c p').tell e).numbers = d.numbers := numbers_turn hp hid
  refine ⟨h.logging, fun q hq => ?_, ?_, ?_, ?_, fun q hq hown => ?_⟩
  · rcases List.mem_or_eq_of_mem_set hq with hq | rfl
    · exact h.sound q hq
    · exact hsound
  · rw [hnumbers]
    exact h.fresh
  · rw [hnumbers]
    exact h.distinct
  · rw [hnumbers]
    exact h.named_tell (id_mem_numbers hmem) he
  · rw [OwnNumber, hnumbers] at hown
    show Stage.replay ((d.tell e).memory.ofChannel q.id.toUInt64) = some q.stage
    obtain ⟨j, hj⟩ := List.getElem?_of_mem hq
    by_cases hjc : c = j
    · -- the channel of the event
      subst hjc
      obtain ⟨hc, rfl⟩ : c < d.pages.length ∧ p' = q := by
        simpa [tell, turn, List.getElem?_set] using hj
      rw [hid] at hown ⊢
      rw [ofChannel_tell_own d he, Stage.replay_concat, h.word p hmem hown]
      exact hnext
    · have hq : d.pages[j]? = some q := by
        simpa [tell, turn, List.getElem?_set, hjc] using hj
      exact h.word_other (List.mem_of_getElem? hq) hown (id_mem_numbers hmem)
        (fun hid => hjc (h.place_unique hp hq hid)) he

theorem tell_guest (hn : n ∈ d.guests) (he : e.channel = n.toUInt64) : (d.tell e).Faithful := by
  have hmem : n ∈ d.numbers := List.mem_append_right _ hn
  refine ⟨h.logging, h.sound, h.fresh, h.distinct, h.named_tell hmem he, fun q hq hown => ?_⟩
  refine h.word_other hq hown hmem (fun hid => ?_) he
  exact (List.nodup_append.mp h.distinct).2.2 q.id (List.mem_map_of_mem hq) n hn hid.symm

theorem numbers_next {numbers : List Nat} (hnumbers : numbers.Perm (d.nextId :: d.numbers)) :
    (∀ n ∈ numbers, n < d.nextId + 1) ∧ numbers.Nodup := by
  constructor
  · intro n hn
    rcases List.mem_cons.mp (hnumbers.mem_iff.mp hn) with rfl | hn
    · exact Nat.lt_succ_self _
    · exact Nat.lt_succ_of_lt (h.fresh n hn)
  · refine hnumbers.nodup_iff.mpr (List.nodup_cons.mpr ⟨fun hn => ?_, h.distinct⟩)
    exact Nat.lt_irrefl _ (h.fresh _ hn)

theorem joined : d.joined.Faithful := by
  have hnumbers : d.joined.numbers.Perm (d.nextId :: d.numbers) := by
    rw [numbers, Diary.joined, ← List.append_assoc]
    exact List.perm_append_singleton _ _
  have hsub {n : Nat} (hn : n ∈ d.numbers) : n ∈ d.joined.numbers :=
    hnumbers.mem_iff.mpr (List.mem_cons_of_mem _ hn)
  obtain ⟨hfresh, hdistinct⟩ := h.numbers_next hnumbers
  refine ⟨h.logging, h.sound, hfresh, hdistinct, fun e he => ?_, fun p hp hown => ?_⟩
  · obtain ⟨n, hn, hchannel⟩ := h.named e he
    exact ⟨n, hsub hn, hchannel⟩
  · exact h.word p hp fun m hm => hown m (hsub hm)

theorem opened {address : Option Endpoint} (he : e.channel = d.nextId.toUInt64)
    (hkind : e.kind = .opened) (haddress : e.localAddress = address.map Endpoint.render) :
    ((d.opened address).tell e).Faithful := by
  have hnumbers : (d.opened address).numbers.Perm (d.nextId :: d.numbers) := by
    simp only [numbers, Diary.opened, List.map_append, List.map_singleton, List.append_assoc]
    exact List.perm_middle
  have hnew : d.nextId ∈ (d.opened address).numbers := hnumbers.mem_iff.mpr List.mem_cons_self
  have hsub {n : Nat} (hn : n ∈ d.numbers) : n ∈ (d.opened address).numbers :=
    hnumbers.mem_iff.mpr (List.mem_cons_of_mem _ hn)
  obtain ⟨hfresh, hdistinct⟩ := h.numbers_next hnumbers
  refine ⟨h.logging, fun p hp => ?_, hfresh, hdistinct, fun e' he' => ?_, fun p hp hown => ?_⟩
  · rcases List.mem_append.mp hp with hp | hp
    · exact h.sound p hp
    · rw [List.mem_singleton.mp hp]
      exact ⟨by simp, by simp⟩
  · rcases List.mem_append.mp he' with he' | he'
    · obtain ⟨n, hn, hchannel⟩ := h.named e' he'
      exact ⟨n, hsub hn, hchannel⟩
    · rw [List.mem_singleton.mp he']
      exact ⟨d.nextId, hnew, he⟩
  · show Stage.replay ((d.tell e).memory.ofChannel p.id.toUInt64) = some p.stage
    rcases List.mem_append.mp hp with hp | hp
    · have hne : d.nextId ≠ p.id := fun hid =>
        Nat.lt_irrefl _ (hid ▸ h.fresh p.id (id_mem_numbers hp))
      rw [ofChannel_tell_other d fun hchannel => hne (hown _ hnew (he.symm.trans hchannel))]
      exact h.word p hp fun m hm => hown m (hsub hm)
    · -- nothing was told under a new number that is its own
      cases List.mem_singleton.mp hp
      have hnone : d.memory.ofChannel d.nextId.toUInt64 = [] := by
        refine List.filter_eq_nil_iff.mpr fun e' he' hchannel => ?_
        obtain ⟨n, hn, hn'⟩ := h.named e' he'
        have hid : n = d.nextId := hown n (hsub hn) (hn'.symm.trans (eq_of_beq hchannel))
        exact Nat.lt_irrefl _ (hid ▸ h.fresh n hn)
      rw [ofChannel_tell_own d he, hnone]
      simp [Stage.replay, Stage.next, hkind, haddress, Page.stage]

end Faithful
end Diary
end PolledChannels
