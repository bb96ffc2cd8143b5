import PolledChannels.Proofs.Courses
import PolledChannels.Proofs.Deeds

/-!
# Events tell the lives of channels

A station whose events are kept from the beginning does one work after the other, each from its
first step to its last. Then the events of every listening channel form a word, and the word leads
to the stage that the channel is at: from its events alone one can tell whether a channel is open,
whether it is killed, and what its address is.
-/

namespace PolledChannels

open PolledChannels.Action Interrupts

/-! ## Works -/

/-- An operation that is done at once. -/
inductive Errand where
  | bindViewed (c : ListenerId) (address : Option Endpoint) (backlog : Int)
  | closeViewed (c : ListenerId)
  | deregister (c : ListenerId) (k : KeyId)
  | openView (c : ListenerId)
  | setTimeout (c : ListenerId) (timeout : UInt32)
  | getOption (c : ListenerId) (option : SocketOption)
  | setOption (c : ListenerId) (option : SocketOption) (value : Int)
  | getViewedOption (c : ListenerId) (option : SocketOption)
  | setViewedOption (c : ListenerId) (option : SocketOption) (value : Int)
  | setReady (k : KeyId) (ops : Mask)
  | putEvents (k : KeyId) (mask : Mask)
  | configureConnection (i : ConnectionId) (block : Bool)
  | connectionAddress (i : ConnectionId)
  | shutdownOutput (i : ConnectionId)
  | read (i : ConnectionId) (n : Nat)
  | write (i : ConnectionId) (bytes : List UInt8)
  | closeConnection (i : ConnectionId)
  | dropConnection (i : ConnectionId)
  | dropListener (c : ListenerId)
  | dropSelector (s : SelectorId)

namespace Errand

/-- What is done; answers do not count here. -/
def action : Errand → Action Unit
  | bindViewed c address backlog => do
    let _ ← viewed c
    Action.bind c address backlog
  | closeViewed c => Action.closeViewed c
  | deregister c k => Action.deregister c k
  | openView c => Action.openView c
  | setTimeout c timeout => Action.setTimeout c timeout
  | getOption c option => do
    let _ ← Action.getOption c option
  | setOption c option value => Action.setOption c option value
  | getViewedOption c option => do
    let _ ← Action.getViewedOption c option
  | setViewedOption c option value => Action.setViewedOption c option value
  | setReady k ops => Action.setReady k ops
  | putEvents k mask => Action.putEvents k mask
  | configureConnection i block => Action.configureConnection i block
  | connectionAddress i => do
    let _ ← Action.connectionAddress i
  | shutdownOutput i => Action.shutdownOutput i
  | read i n => do
    let _ ← readConnection i n
  | write i bytes => do
    let _ ← writeConnection i bytes
  | closeConnection i => Action.closeConnection i
  | dropConnection i => Action.dropConnection i
  | dropListener c => Action.dropListener c
  | dropSelector s => Action.dropSelector s

theorem quiet_getOption (c : ListenerId) (option : SocketOption) :
    Quiet (Action.getOption c option) := by
  refine frames_bind (frames_listener c) fun l => ?_
  split
  · exact frames_bind (diary_hidesMasks.calling c _) fun _ => frames_demand _
  · exact frames_throw _

theorem quiet_setOption (c : ListenerId) (option : SocketOption) (value : Int) :
    Quiet (Action.setOption c option value) := by
  refine frames_bind (frames_demand _) fun word => frames_bind (frames_listener c) fun l => ?_
  split
  · exact frames_bind (diary_hidesMasks.calling c _) fun _ => frames_demand _
  · exact frames_throw _

theorem chronicles_action (e : Errand) : Chronicles e.action := by
  cases e with
  | bindViewed c address backlog =>
    exact chronicles_bind (Quiet.chronicles (frames_viewed c)) fun _ =>
      chronicles_bindListener c address backlog
  | closeViewed c =>
    refine chronicles_bind (Quiet.chronicles (frames_listener c)) fun l => ?_
    split
    · exact chronicles_closeOnBehalf c none
    · exact Quiet.chronicles (frames_pure _)
  | deregister c k => exact chronicles_deregister c k
  | openView c | setTimeout c timeout =>
    exact Quiet.chronicles (quiet_modifyListener c fun _ => rfl)
  | getOption c option =>
    exact Quiet.chronicles (frames_bind (quiet_getOption c option) fun _ => frames_pure _)
  | setOption c option value => exact (quiet_setOption c option value).chronicles
  | getViewedOption c option =>
    exact Quiet.chronicles (frames_bind (frames_bind (frames_viewed c) fun _ =>
      quiet_getOption c option) fun _ => frames_pure _)
  | setViewedOption c option value =>
    exact Quiet.chronicles (frames_bind (frames_viewed c) fun _ => quiet_setOption c option value)
  | setReady k ops => exact Quiet.chronicles (diary_hidesMasks.setReady k ops)
  | putEvents k mask => exact Quiet.chronicles (diary_hidesMasks.putEvents k mask)
  | configureConnection i block =>
    exact Quiet.chronicles (diary_hidesMasks.configureConnection i block)
  | connectionAddress i =>
    exact Quiet.chronicles (frames_bind (diary_hidesMasks.callingOpen i _) fun _ => frames_pure _)
  | shutdownOutput i => exact Quiet.chronicles (diary_hidesMasks.callingOpen i _)
  | read i n | write i bytes =>
    exact Quiet.chronicles
      (frames_bind (frames_bind (diary_hidesMasks.callingConnection i _) fun _ =>
      frames_demand _) fun _ => frames_pure _)
  | closeConnection i => exact chronicles_closeConnection i
  | dropConnection i => exact Quiet.chronicles (diary_hidesMasks.dropConnection i)
  | dropListener c => exact (quiet_dropListener c).chronicles
  | dropSelector s => exact chronicles_dropSelector s

end Errand

/-- The deed is no mere step of a thread, and events are kept after it. -/
def Deed.isWhole : Deed → Bool
  | step _ _ _ _ => false
  | provide provider => provider.logging
  | _ => true

/-- The operation begins at the point. -/
def Point.isStart : Point → Bool
  | bind _ _ _ | accept _ .channel | view _ | select _ _ => true
  | _ => false

/-- One thing that a station does from beginning to end. -/
inductive Work where
  | deed (deed : Deed) (hwhole : deed.isWhole = true)
  | errand (errand : Errand)
  /-- Thread `me` does an operation that may wait. -/
  | task (me : ThreadId) (start : Point) (hstart : start.isStart = true) (pauses : List Pause)
  /-- A thread ends. -/
  | exit (me : ThreadId)

/-- The station after a work; a task that is not over after its last pause is left out. -/
def Work.perform (st : Station) : Work → Station
  | deed d _ => d.perform st
  | errand e => (e.action.run st).2
  | task me start _ pauses => (start.course me pauses st).getD st
  | exit me => { st with interrupts := st.interrupts.remove me }

/-- A station that keeps events does one work after the other. -/
def Station.worked (world : Network) (provider : Provider) (works : List Work) : Station :=
  works.foldl Work.perform { network := world, provider := { provider with logging := true } }

theorem Station.worked_concat (world : Network) (provider : Provider) (works : List Work)
    (work : Work) :
    worked world provider (works ++ [work]) = work.perform (worked world provider works) := by
  simp [worked]

/-! ## Works keep the diary faithful -/

namespace Station

variable {st : Station}

theorem free_provide (h : Free st) {provider : Provider} (hlog : provider.logging = true) :
    Free { st with provider } := by
  have hkept : st.provider.logging = true := h.1.logging
  have hdiary : diary { st with provider } = st.diary := by
    simp [diary, memory, hlog, hkept]
  unfold Free Chronicled
  rwa [hdiary]

theorem free_interrupts (h : Free st) {interrupts : Interrupts ListenerId}
    (hblockers : interrupts.blockers = fun _ => none) : Free { st with interrupts } := by
  refine h.reblock ?_
  rw [← hblockers]
  rfl

theorem free_interrupt (h : Free st) (target : ThreadId) : Free (interrupt target st).2 := by
  have hnone : st.interrupts.blockers target = none := congrFun h.2 target
  have hother : (st.interrupts.interruptOther target).1.blockers = st.interrupts.blockers ∧
      (st.interrupts.interruptOther target).2 = none := by
    unfold interruptOther
    cases hs : st.interrupts.slot? target with
    | none => exact ⟨rfl, rfl⟩
    | some s =>
      have hblocker : s.blocker = st.interrupts.blockers target := by simp [blockers, hs]
      refine ⟨?_, hblocker.trans hnone⟩
      rw [blockers_put, hblocker, Function.update_eq_self]
  have hrun : (interrupt target st).2 =
      { st with interrupts := (st.interrupts.interruptOther target).1 } := by
    rw [interrupt_eq, hother.2]
    rfl
  rw [hrun]
  exact free_interrupts h (hother.1.trans h.2)

end Station

theorem Action.quiet_removeSelected (s : SelectorId) (k : KeyId) : Quiet (removeSelected s k) :=
  frames_bind (frames_selector s) fun _ => frames_bind (frames_modify fun _ => rfl) fun _ =>
    frames_pure _

theorem Action.chronicles_select (s : SelectorId) (meanwhile : Network) (answer : PollAnswer) :
    Chronicles (select s meanwhile answer) :=
  chronicles_bind (chronicles_beginSelect s) fun polled =>
    chronicles_bind (Quiet.chronicles (frames_modify fun _ => rfl)) fun _ =>
      chronicles_endSelect s polled answer

theorem Deed.free {st : Station} (h : Free st) {deed : Deed} (hwhole : deed.isWhole = true) :
    Free (deed.perform st) := by
  cases deed with
  | meet world | pass moment | openSelector | clearSelected s => exact h
  | provide provider => exact Station.free_provide h hwhole
  | openListener => exact chronicles_openListener _ st h
  | adoptSocket number => exact chronicles_adoptSocket number _ st h
  | step me signalled point hpoint => cases hwhole
  | configureBlocking c block => exact (quiet_configureBlocking c block).chronicles _ st h
  | register c s ops => exact (quiet_register c s ops).chronicles _ st h
  | setInterest k ops => exact Quiet.chronicles (diary_hidesMasks.setInterest k ops) _ st h
  | cancel k => exact (quiet_cancelKey k).chronicles _ st h
  | close c => exact chronicles_closeOnBehalf c none _ st h
  | kill c => exact chronicles_kill c _ st h
  | translateInterest k ops => exact Quiet.chronicles (diary_hidesMasks.putEvents k _) _ st h
  | translateAndSet c k events => exact chronicles_translateReady c k events 0 _ st h
  | translateAndUpdate c k events => exact chronicles_translateAndUpdate c k events _ st h
  | select s meanwhile answer => exact chronicles_select s meanwhile answer _ st h
  | wakeup s => exact Quiet.chronicles (diary_hidesMasks.wakeup s) _ st h
  | removeSelected s k => exact (quiet_removeSelected s k).chronicles _ st h
  | closeSelector s => exact chronicles_closeSelector s _ st h
  | interrupt target => exact Station.free_interrupt h target
  | interruptSelf me =>
    exact Station.free_interrupts h ((blockers_interruptSelf _ me).trans h.2)
  | takeFlag me => exact Station.free_interrupts h ((blockers_takeFlag _ me).trans h.2)

theorem Work.free {st : Station} (h : Free st) (work : Work) : Free (work.perform st) := by
  cases work with
  | deed d hwhole => exact d.free h hwhole
  | errand e => exact e.chronicles_action _ st h
  | task me start hstart pauses =>
    -- no thread is blocked where an operation starts, so nothing more is asked of the station
    have hready : start.Ready Free (Engaged me) st := by
      cases start with
      | attempt c caller | inAccept c caller => cases hstart
      | _ => exact h
    show Free ((start.course me pauses st).getD st)
    cases hcourse : start.course me pauses st with
    | none => exact h
    | some st' => exact Point.free_course hready hcourse
  | exit me =>
    refine Station.free_interrupts h ?_
    funext t
    have hnone : st.interrupts.blockers t = none := congrFun h.2 t
    by_cases ht : t = me
    · simp [blockers, slot?_remove, ht]
    · simpa [blockers, slot?_remove, ht] using hnone

theorem Station.free_worked (world : Network) (provider : Provider) (works : List Work) :
    Free (worked world provider works) := by
  induction works using List.reverseRecOn with
  | nil =>
    refine ⟨⟨rfl, ?_, ?_, List.nodup_nil, ?_, ?_⟩, rfl⟩
    all_goals
      intro x hx
      cases hx
  | append_singleton works work ih =>
    rw [worked_concat]
    exact work.free ih

/-! ## Lives -/

/-- The events that were kept of a listening channel. -/
def Station.eventsOf (st : Station) (l : Listener) : List Event := st.memory.ofChannel l.id.toUInt64

/-- Every listening channel whose number no other channel has, and that is every one as long as no
more than 2⁶⁴ - 1 numbers are given, is told of by a word of events: it leads to the stage the
channel is at. Its close is told exactly if it is not open, its kill exactly if it is killed; and
it was bound, or opened with an address, exactly if it has an address, and to that address. -/
theorem Station.events_tell_lives {world : Network} {provider : Provider} {works : List Work}
    {st : Station} (hst : st = worked world provider works) :
    (st.nextId ≤ UInt64.size → ∀ l ∈ st.listeners, st.diary.OwnNumber l.id) ∧
      ∀ l ∈ st.listeners, st.diary.OwnNumber l.id →
        Stage.replay (st.eventsOf l) = some l.page.stage ∧
        ((∃ e ∈ st.eventsOf l, e.kind = .closed) ↔ l.core.isOpen = false) ∧
        ((∃ e ∈ st.eventsOf l, e.kind = .killed) ↔ l.lifecycle = .killed) ∧
        ((∃ e ∈ st.eventsOf l, e.kind = .bound ∨ e.kind = .opened ∧
          e.localAddress.isSome = true) ↔
          l.isBound = true) ∧
        ∀ e ∈ st.eventsOf l, e.kind = .bound ∨ e.kind = .opened ∧
        e.localAddress.isSome = true →
          e.localAddress = l.localAddress.map Endpoint.render := by
  have hfree : Free st := hst ▸ free_worked world provider works
  refine ⟨fun hfew l hl => ?_, fun l hl hown => ?_⟩
  · have hpage : l.page ∈ st.diary.pages := List.mem_map_of_mem hl
    exact hfree.1.ownNumber hfew (Diary.id_mem_numbers hpage)
  · have hpage : l.page ∈ st.diary.pages := List.mem_map_of_mem hl
    have hword := hfree.1.word l.page hpage hown
    refine ⟨hword, ?_, ?_, ?_, fun e he hkind => ?_⟩
    · exact (Stage.closed_mem_iff hword).trans (hfree.1.sound _ hpage).isClosed_stage
    · exact (Stage.killed_mem_iff hword).trans l.page.isKilled_stage
    · refine (Stage.bound_mem_iff hword).trans ?_
      rw [Page.address_stage, Option.isSome_map]
      rfl
    · exact (Stage.address_of_mem hword he hkind).trans l.page.address_stage

/-- A channel is opened and bound, and a thread that was interrupted before accepts on it. -/
def Station.interruptedLife : List Work :=
  [.deed .openListener rfl, .task 0 (.bind 0 none 0) rfl [{}], .deed (.interruptSelf 0) rfl,
    .task 0 (.accept 0 .channel) rfl [{}, {}]]

theorem Station.life_ended_by_interrupt :
    ∃ st l, st = worked {} {} interruptedLife ∧ l ∈ st.listeners ∧
    st.diary.OwnNumber l.id ∧
      Stage.replay (st.eventsOf l) = some (.killed (some "0.0.0.0:40687")) ∧
      (∃ e ∈ st.eventsOf l, e.kind = .closed) ∧
      (∃ e ∈ st.eventsOf l, e.kind = .killed) ∧
      (∃ e ∈ st.eventsOf l, e.kind = .bound ∨ e.kind = .opened ∧
        e.localAddress.isSome = true) ∧
      ∀ e ∈ st.eventsOf l, e.kind = .bound → e.localAddress = some "0.0.0.0:40687" := by
  let l : Listener :=
    { id := 1, descriptor := { number := 3, word := 1 }, core := { isOpen := false }
      lifecycle := .killed, localAddress := some (.v4 ⟨0, 0, 0, 0⟩ 40687) }
  have hlisteners : (worked {} {} interruptedLife).listeners = [l] := by decide
  have hmem : l ∈ (worked {} {} interruptedLife).listeners := by
    rw [hlisteners]
    exact List.mem_singleton_self l
  have hnext : (worked {} {} interruptedLife).nextId = 2 := by decide
  obtain ⟨hnumbers, hlives⟩ := @events_tell_lives {} {} interruptedLife _ rfl
  have hown := hnumbers (by rw [hnext]; decide) l hmem
  obtain ⟨hword, hclosed, hkilled, hbound, haddress⟩ := hlives l hmem hown
  have hrender : l.localAddress.map Endpoint.render = some "0.0.0.0:40687" := by decide
  have hstage : l.page.stage = .killed (some "0.0.0.0:40687") := by decide
  rw [hstage] at hword
  rw [hrender] at haddress
  exact ⟨_, l, rfl, hmem, hown, hword, hclosed.mpr rfl, hkilled.mpr rfl, hbound.mpr rfl,
    fun e he hkind => haddress e he (.inl hkind)⟩

end PolledChannels
