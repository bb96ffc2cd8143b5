import PolledChannels.Proofs.Diary
import PolledChannels.Proofs.Effects

/-!
# What operations write into the diary

An operation that is run to its end leaves a faithful diary faithful. Most operations write
nothing into it. Those that do open a channel, bind it, take a connection, tell of a
refusal or of an invalid descriptor, close a channel or kill it; each of these tells of the
very change that it makes.

While a thread accepts it is blocked on its channel. An interrupt of the thread is then told as an
event of that channel, so what threads are blocked on is kept track of along with the diary.
-/

namespace PolledChannels

open Station Listener

variable {f : Listener → Listener} {c : ListenerId} {e : Event} {st : Station} {l : Listener}
  {b : ThreadId → Option ListenerId}

def Listener.page (l : Listener) : Page := ⟨l.id, l.core.isOpen, l.lifecycle, l.localAddress⟩

/-- What each thread is blocked on. -/
def Interrupts.blockers {β : Type} (i : Interrupts β) (t : ThreadId) : Option β :=
  (i.slot? t).bind Slot.blocker

namespace Station

/-- The events that were kept, without what observers saw. -/
def memory (st : Station) : EventMemory := ⟨st.reports.map Report.event⟩

def diary (st : Station) : Diary where
  pages := st.listeners.map Listener.page
  guests := st.connections.map Connection.id
  nextId := st.nextId
  logging := st.provider.logging
  memory := st.memory
  blocked := st.interrupts.blockers

variable {st : Station} {c : ListenerId} {l : Listener}

theorem page_of (hl : st.listeners[c]? = some l) : st.diary.pages[c]? = some l.page := by
  simp [diary, hl]

theorem listener_of_page {p : Page} (hp : st.diary.pages[c]? = some p) :
    ∃ l, st.listeners[c]? = some l ∧ l.page = p := by
  simpa [diary] using hp

theorem diary_modifyListener (hl : st.listeners[c]? = some l) (f : Listener → Listener) :
    (st.modifyListener c f).diary = st.diary.turn c (f l).page := by
  have hpages : (st.listeners.modify c f).map page =
      (st.listeners.map page).set c (f l).page := by
    refine List.ext_getElem? fun j => ?_
    by_cases hj : c = j
    · subst hj
      obtain ⟨hc, hl⟩ := List.getElem?_eq_some_iff.mp hl
      simp [hc, hl]
    · simp [List.getElem?_modify_ne _ _ hj, hj]
  simp only [diary, Diary.turn, modifyListener, memory, hpages]

theorem diary_modifyListener_of (hl : st.listeners[c]? = some l) (hf : (f l).page = l.page) :
    (st.modifyListener c f).diary = st.diary := by
  rw [diary_modifyListener hl, hf, Diary.turn_self (page_of hl)]

theorem diary_modifyListener_same (st : Station) (c : ListenerId)
    (hf : ∀ l, (f l).page = l.page) :
    (st.modifyListener c f).diary = st.diary := by
  cases hl : st.listeners[c]? with
  | none =>
    have hnone : st.listeners.length ≤ c := List.getElem?_eq_none_iff.mp hl
    rw [modifyListener, List.modify_eq_self hnone]
  | some l => exact diary_modifyListener_of hl (hf l)

theorem diary_modifyKey (st : Station) (k : KeyId) (f : Key → Key) :
    (st.modifyKey k f).diary = st.diary := by
  unfold modifyKey
  split <;> rfl

end Station

namespace Action

theorem diary_hidesMasks : HidesMasks Station.diary where
  world _ _ := rfl
  signals _ _ := rfl
  listeners st c f hf := diary_modifyListener_same st c fun l => by
    obtain ⟨hstanding, hid, haddress⟩ := hf l
    have hopen : (f l).core.isOpen = l.core.isOpen := congrArg Standing.isOpen hstanding
    have hlife : (f l).lifecycle = l.lifecycle := congrArg Standing.lifecycle hstanding
    simp [page, hopen, hlife, hid, haddress]
  connections st i f hf := by
    simp only [diary, modifyConnection, memory, map_modify_same st.connections i hf]
  selectors _ _ _ _ := rfl
  keys st k f _ := diary_modifyKey st k f

/-! ## Operations that write nothing -/

/-- The operation writes nothing into the diary. -/
abbrev Quiet {α : Type} (a : Action α) : Prop := Frames Station.diary a

variable {α β : Type} {a : Action α}

theorem quiet_modifyListener (c : ListenerId) (hf : ∀ l, (f l).page = l.page) :
    Quiet (modify fun st => st.modifyListener c f : Action Unit) :=
  frames_modify fun st => diary_modifyListener_same st c hf

theorem quiet_cancelKey (k : KeyId) : Quiet (cancelKey k) := by
  refine frames_bind frames_get fun st => ?_
  split
  · exact frames_pure _
  split
  · refine frames_bind (frames_modify fun st => st.diary_modifyKey k _) fun _ => ?_
    split
    · refine frames_bind frames_get fun st => ?_
      split
      · exact frames_pure _
      split
      · exact frames_bind (frames_modify fun _ => rfl) fun _ => diary_hidesMasks.wakeup _
      · exact frames_pure _
    · exact frames_pure _
  · exact frames_pure _

theorem quiet_register (c : ListenerId) (s : SelectorId) (ops : Mask) :
    Quiet (register c s ops) := by
  refine frames_bind (frames_listener c) fun l => frames_bind frames_get fun st => ?_
  refine frames_bind (frames_bind frames_get fun _ => frames_bind (frames_listener c) fun _ =>
    frames_pure _) fun current => frames_bind (frames_selector s) fun x => ?_
  refine frames_bind (frames_lift _) fun admission => ?_
  split
  · exact frames_bind (diary_hidesMasks.setInterest _ _) fun _ => frames_pure _
  · refine frames_bind (frames_get_bind fun _ => rfl) fun k => ?_
    refine frames_bind (frames_bind (frames_selector s) fun x => ?_) fun _ => ?_
    · split
      · exact frames_modify fun _ => rfl
      · exact frames_throw _
    · exact frames_bind (quiet_modifyListener c fun _ => rfl) fun _ =>
        frames_bind (diary_hidesMasks.setInterest _ _) fun _ => frames_pure _

theorem quiet_removeKey (c : ListenerId) (k : KeyId) : Quiet (removeKey c k) := by
  refine frames_listener_bind fun st l hl => ?_
  show ((st.modifyListener c fun l' =>
    { l' with core := (l.core.dropKey k).1 }).modifyKey k _).diary = _
  rw [diary_modifyKey]
  exact diary_modifyListener_of hl rfl

theorem quiet_configureBlocking (c : ListenerId) (block : Bool) :
    Quiet (configureBlocking c block) := by
  refine frames_bind (frames_listener c) fun l => frames_bind frames_get fun st =>
    frames_bind (frames_lift _) fun change => ?_
  split
  · exact frames_bind (diary_hidesMasks.calling c _) fun _ =>
      frames_bind (frames_demand _) fun _ =>
      quiet_modifyListener c fun _ => rfl
  · exact frames_pure _

theorem quiet_dropListener (c : ListenerId) : Quiet (dropListener c) := by
  refine frames_bind (frames_listener c) fun l =>
    frames_bind (quiet_modifyListener c fun _ => rfl) fun _ => ?_
  split
  · exact frames_bind (diary_hidesMasks.closeDescriptor c) fun _ => frames_pure _
  · exact frames_pure _

/-! ## Operations that keep the diary faithful -/

/-- The diary is faithful, and `b` says what threads are blocked on. -/
def Chronicled (b : ThreadId → Option ListenerId) (st : Station) : Prop :=
  st.diary.Faithful ∧ st.diary.blocked = b

/-- The operation leaves a faithful diary faithful, and threads blocked as they are. -/
def Chronicles (a : Action α) : Prop := ∀ b, Keeps (Chronicled b) a.run

theorem Quiet.chronicles (h : Quiet a) : Chronicles a :=
  fun b => h.holds fun d => d.Faithful ∧ d.blocked = b

theorem chronicles_bind {f : α → Action β} (ha : Chronicles a)
    (hf : ∀ v, Chronicles (f v)) : Chronicles (a >>= f) :=
  fun b => keeps_bind (ha b) fun v => hf v b

theorem chronicles_observe (ha : Chronicles a) : Chronicles (observe a) :=
  fun b => keeps_observe (ha b)

theorem chronicles_listener_bind {f : Listener → Action α}
    (hf : ∀ {b st l}, st.listeners[c]? = some l → Chronicled b st →
      Chronicled b ((f l).run st).2) :
    Chronicles (listener c >>= f) :=
  fun _ => keeps_listener_bind fun _ _ hl h => hf hl h

theorem chronicles_demand (x : Except IoError α) : Chronicles (demand x) :=
  Quiet.chronicles (frames_demand x)

section Emit

variable {b : ThreadId → Option ListenerId} {st : Station} {c : ListenerId} {l : Listener}

theorem diary_emit (hlog : st.diary.logging = true) (seen : Option ListenerId) (e : Event) :
    ((emit seen e).run st).2.diary = st.diary.tell e := by
  have hemit : ((emit seen e).run st).2 =
      { st with reports := st.reports ++ [⟨e, seen.bind st.sighting⟩] } :=
    if_pos hlog
  simp [hemit, diary, memory, Diary.tell, EventMemory.emit]

theorem listeners_emit (seen : Option ListenerId) (e : Event) (st : Station) :
    ((emit seen e).run st).2.listeners = st.listeners := by
  show (if st.provider.logging then _ else st : Station).listeners = _
  split <;> rfl

theorem Chronicled.sound (h : Chronicled b st) (hl : st.listeners[c]? = some l) : l.page.Sound :=
  h.1.sound _ (List.mem_of_getElem? (page_of hl))

theorem Chronicled.turn_emit (h : Chronicled b st) (hl : st.listeners[c]? = some l) {st' : Station}
    {p : Page} (hturn : st'.diary = st.diary.turn c p) (hid : p.id = l.id) (hsound : p.Sound)
    (seen : Option ListenerId) (he : e.channel = l.id.toUInt64)
    (hnext : l.page.stage.next e = some p.stage) :
      Chronicled b ((Action.emit seen e).run st').2 := by
  have hlog : st'.diary.logging = true := by
    rw [hturn]
    exact h.1.logging
  unfold Chronicled
  rw [diary_emit hlog, hturn]
  exact ⟨h.1.turn_tell (page_of hl) hid hsound he hnext, h.2⟩

theorem Chronicled.emit (h : Chronicled b st) (hl : st.listeners[c]? = some l)
    (seen : Option ListenerId) (he : e.channel = l.id.toUInt64)
    (hnext : l.page.stage.next e = some l.page.stage) :
    Chronicled b ((Action.emit seen e).run st).2 :=
  h.turn_emit hl (Diary.turn_self (page_of hl)).symm rfl (h.sound hl) seen he hnext

theorem Chronicled.emit_aside (h : Chronicled b st) (hl : st.listeners[c]? = some l)
    (hopen : l.core.isOpen = true) (seen : Option ListenerId) (he : e.channel = l.id.toUInt64)
    (hkind : e.kind = .invalidDescriptor ∨ e.kind = .interrupted) :
    Chronicled b ((Action.emit seen e).run st).2 := by
  refine h.emit hl seen he ?_
  rw [(h.sound hl).stage_open hopen]
  exact Stage.next_of_aside hkind _

end Emit

/-! ## Selecting -/

theorem chronicles_reportInvalid (c : ListenerId) (k : KeyId) : Chronicles (reportInvalid c k) := by
  refine chronicles_listener_bind fun {b st l} hl h => ?_
  split
  case isTrue hopen =>
    have hrest (strict : Bool) : Chronicles (if strict then cancelKey k else pure ()) := by
      cases strict with
      | true => exact (quiet_cancelKey k).chronicles
      | false => exact Quiet.chronicles (frames_pure _)
    exact hrest _ b _ (h.emit_aside hl hopen _ rfl (.inl rfl))
  case isFalse => exact h

theorem chronicles_translateReady (c : ListenerId) (k : KeyId) (events initial : Mask) :
    Chronicles (translateReady c k events initial) :=
  fun b => keeps_translateReady (fun c k => chronicles_reportInvalid c k b)
    (fun k ops => Quiet.chronicles (diary_hidesMasks.setReady k ops) b) c k events initial

theorem chronicles_translateAndUpdate (c : ListenerId) (k : KeyId) (events : Mask) :
    Chronicles (translateAndUpdate c k events) :=
  fun b => keeps_translateAndUpdate (fun c k => chronicles_reportInvalid c k b)
    (fun k ops => Quiet.chronicles (diary_hidesMasks.setReady k ops) b) c k events

/-! ## Killing and closing -/

/-- A channel that was closed is turned into a killed one, and there is an event to tell of it; or
nothing happens. -/
theorem run_killLocked (hl : st.listeners[c]? = some l) (hused : l.lifecycle ≠ .uninitialized) :
    ∃ event released st', (killLocked c).run st = (.ok (event, released), st') ∧
      (event = none ∧ st'.diary = st.diary ∨
        ∃ e, event = some e ∧ e.kind = .killed ∧ e.channel = l.id.toUInt64 ∧
          l.lifecycle = .inUse ∧ l.core.isOpen = false ∧
          st'.diary = st.diary.turn c l.page.kill) := by
  rw [killLocked, run_listener_bind hl]
  cases hlife : l.lifecycle with
  | uninitialized => exact absurd hlife hused
  | killed => exact ⟨none, .ok (), st, rfl, .inl ⟨rfl, rfl⟩⟩
  | inUse =>
    simp only [Lifecycle.killAction]
    split
    case isFalse => exact ⟨none, .ok (), st, rfl, .inl ⟨rfl, rfl⟩⟩
    case isTrue hpermitted =>
      obtain ⟨released, st', hrun, -⟩ := run_closeDescriptor hl
      have hdiary := (diary_hidesMasks.closeDescriptor c).of_run hrun
      obtain ⟨l', hl', hpage⟩ := listener_of_page (hdiary ▸ page_of hl)
      simp only [run_bind, hrun, run_modify, run_pure]
      have hclosed : l.core.isOpen = false ∧ l.core.registered = false := by
        simpa [Lifecycle.killPermitted] using hpermitted
      refine ⟨_, _, _, rfl, .inr ⟨_, rfl, rfl, rfl, trivial, hclosed.1, ?_⟩⟩
      rw [diary_modifyListener hl', hdiary, ← hpage]
      rfl

theorem chronicles_kill (c : ListenerId) : Chronicles (kill c) := by
  intro b st h
  cases hl : st.listeners[c]? with
  | none =>
    rw [kill, killLocked, run_bind, run_listener_bind_none hl]
    exact h
  | some l =>
    obtain ⟨event, released, st', hrun, hkill⟩ := run_killLocked hl (h.sound hl).used
    rw [kill, run_bind, hrun]
    rcases hkill with ⟨rfl, hdiary⟩ | ⟨e, rfl, hkind, hchannel, hlife, hclosed, hdiary⟩
    · refine chronicles_demand released b st' ?_
      unfold Chronicled
      rwa [hdiary]
    · refine chronicles_demand released b _ ?_
      exact h.turn_emit hl hdiary rfl (Page.sound_kill hclosed) (some c) hchannel
        (Page.next_kill hlife hclosed hkind)

theorem chronicles_deregister (c : ListenerId) (k : KeyId) : Chronicles (deregister c k) := by
  refine chronicles_bind (quiet_removeKey c k).chronicles fun last => ?_
  split
  · exact chronicles_kill c
  · exact Quiet.chronicles (frames_pure _)

theorem chronicles_deregisterKey (k : KeyId) : Chronicles (deregisterKey k) := by
  refine chronicles_bind (Quiet.chronicles frames_get) fun st => ?_
  split
  · exact Quiet.chronicles (frames_pure _)
  split
  · exact chronicles_deregister _ k
  · exact Quiet.chronicles (frames_pure _)

theorem chronicles_modifySelector (s : SelectorId) (f : Selector → Selector) :
    Chronicles (modify fun st => st.modifySelector s f : Action Unit) :=
  Quiet.chronicles (frames_modify fun _ => rfl)

theorem chronicles_processCancelled (s : SelectorId) : Chronicles (processCancelled s) :=
  fun b => keeps_processCancelled_of
    (keeps_bind (keeps_selector s) fun _ =>
      keeps_bind (chronicles_modifySelector s _ b) fun _ => keeps_pure _)
    (fun _ => chronicles_modifySelector s _ b) fun k => chronicles_deregisterKey k b

theorem chronicles_beginSelect (s : SelectorId) : Chronicles (beginSelect s) :=
  fun b => keeps_beginSelect_of (chronicles_processCancelled s b)

theorem chronicles_endSelect (s : SelectorId) (polled : List Polled) (answer : PollAnswer) :
    Chronicles (endSelect s polled answer) :=
  fun b => keeps_endSelect_of (chronicles_processCancelled s b)
    (keeps_visitAll_of (fun c k events => chronicles_translateAndUpdate c k events b)
      fun c k events => chronicles_translateReady c k events 0 b)
    (fun f _ => chronicles_modifySelector s f b) polled answer

theorem chronicles_closeSelector (s : SelectorId) : Chronicles (closeSelector s) := by
  refine chronicles_bind (Quiet.chronicles (frames_selector s)) fun x => ?_
  split
  · refine chronicles_bind (chronicles_modifySelector s _) fun _ =>
      chronicles_bind (Quiet.chronicles (diary_hidesMasks.wakeup s)) fun _ b =>
        keeps_forEveryKey (fun k => ?_) _
    exact chronicles_bind (Quiet.chronicles (frames_modify fun st => st.diary_modifyKey k _))
      (fun _ => chronicles_deregisterKey k) b
  · exact Quiet.chronicles (frames_pure _)

theorem chronicles_dropSelector (s : SelectorId) : Chronicles (dropSelector s) := by
  refine chronicles_bind (Quiet.chronicles (frames_selector s)) fun x => ?_
  split
  · exact chronicles_bind (chronicles_observe (chronicles_closeSelector s)) fun _ =>
      chronicles_modifySelector s _
  · exact chronicles_modifySelector s _

/-- The close of a channel that was just flipped is told, and then the kill that comes with it. -/
theorem Chronicled.finishClose {st₁ : Station} (h : Chronicled b st)
    (hl : st.listeners[c]? = some l)
    (hopen : l.core.isOpen = true) (hflip : st₁.diary = st.diary.turn c l.page.close) :
    Chronicled b ((Action.finishClose c).run st₁).2 := by
  have hsound : l.page.close.Sound := ⟨(h.sound hl).used, fun _ => rfl⟩
  have hclosed : (st.diary.turn c l.page.close).pages[c]? = some l.page.close := by
    simp [Diary.turn, (List.getElem?_eq_some_iff.mp (page_of hl)).1]
  obtain ⟨l₁, hl₁, hpage₁⟩ := listener_of_page (hflip ▸ hclosed)
  obtain ⟨closing, released, st₂, hrun, hkind, hchannel⟩ := run_surrender hl₁
  have hdiary := ((diary_hidesMasks.surrender c).of_run hrun).trans hflip
  have hnumber : l₁.id = l.id := congrArg Page.id hpage₁
  rw [hnumber] at hchannel
  obtain ⟨l₂, hl₂, hpage₂⟩ := listener_of_page (hdiary ▸ hclosed)
  have htold (st' : Station) (hst : st'.diary = st.diary.turn c l.page.close) :
      Chronicled b ((Action.emit (some c) closing).run st').2 :=
    h.turn_emit hl hst rfl hsound (some c) hchannel ((h.sound hl).next_close hopen hkind)
  have hdemands (x y : IoResult) : Chronicles (do demand x; demand y) :=
    chronicles_bind (chronicles_demand x) fun _ => chronicles_demand y
  simp only [Action.finishClose, run_bind, hrun, run_listener, hl₂]
  split
  · exact hdemands released (.ok ()) b _ (htold st₂ hdiary)
  · have hused : l₂.lifecycle ≠ .uninitialized := fun hlife =>
      hsound.used (by rw [← hpage₂]; exact hlife)
    obtain ⟨event, released', st₃, hkill, hcases⟩ := run_killLocked hl₂ hused
    rw [run_bind, hkill]
    rcases hcases with ⟨rfl, hsame⟩ | ⟨e, rfl, hkind', hchannel', hlife, hshut, hturn⟩
    · exact hdemands released released' b _ (htold st₃ (hsame.trans hdiary))
    · refine hdemands released released' b _ ?_
      -- both changes come before both events; the kill may as well have come
      -- after the close was told
      have hlog : st₂.diary.logging = true := by
        rw [hdiary]
        exact h.1.logging
      have hclose := htold st₂ hdiary
      have hl₃ : ((Action.emit (some c) closing).run st₂).2.listeners[c]? = some l₂ := by
        rw [listeners_emit, hl₂]
      refine hclose.turn_emit hl₃ ?_ rfl (Page.sound_kill hshut) (some c) hchannel'
        (Page.next_kill hlife hshut hkind')
      show ((Action.emit (some c) closing).run st₃).2.diary = _
      rw [diary_emit hlog, diary_emit (by rwa [hturn]), hturn]
      rfl

/-- Only the first close of a channel tells of anything. -/
theorem chronicles_closeOnBehalf (c : ListenerId) (target : Option ThreadId) :
    Chronicles (closeOnBehalf c target) := by
  refine chronicles_listener_bind fun {b st l} hl h => ?_
  cases hcore : l.core.shut? target with
  | none => exact h
  | some core =>
    obtain ⟨hopen, hshut⟩ : l.core.isOpen = true ∧ core.isOpen = false := by
      unfold Core.shut? at hcore
      split at hcore
      case isTrue hopen => exact ⟨hopen, (Option.some.inj hcore) ▸ rfl⟩
      case isFalse => cases hcore
    have hflip : (st.modifyListener c fun l => { l with core }).diary =
        st.diary.turn c l.page.close := by
      rw [diary_modifyListener hl]
      simp [page, Page.close, hshut]
    have hcancel (outcome : Except Failure Unit) : Quiet (do
        for k in (← listener c).core.keys do cancelKey k
        outcome : Action Unit) :=
      frames_bind (frames_listener c) fun l => frames_bind
        (frames_forIn (fun k _ => frames_bind (quiet_cancelKey k) fun _ => frames_pure _) _ _)
        fun _ => frames_lift outcome
    show Chronicled b ((observe (finishClose c) >>= _).run
      (st.modifyListener c fun l => { l with core })).2
    rw [run_bind, run_observe]
    exact (hcancel _).chronicles b _ (h.finishClose hl hopen hflip)

/-- An open channel tells of an interrupt and then of its close. -/
theorem Chronicled.interruptListener (h : Chronicled b st) (hl : st.listeners[c]? = some l)
    (hopen : l.core.isOpen = true) (target : ThreadId) :
    Chronicled b ((Action.interruptListener c target).run st).2 := by
  rw [Action.interruptListener, run_listener_bind hl]
  refine chronicles_bind (chronicles_observe (chronicles_closeOnBehalf c (some target)))
    (fun _ => Quiet.chronicles (frames_pure ())) b _ ?_
  exact h.emit_aside hl hopen (some c) rfl (.inr rfl)

/-! ## Opening and binding -/

theorem chronicles_addListener (number : FileNumber) (address : Option Endpoint) :
    Chronicles (addListener number address) := by
  intro b st h
  let l : Listener := { id := st.nextId, descriptor := { number }, localAddress := address }
  let st₁ : Station := { st with nextId := st.nextId + 1, listeners := st.listeners ++ [l] }
  have hdiary : st₁.diary = st.diary.opened address := by
    simp [st₁, l, diary, memory, Diary.opened, page]
  have hlog : st₁.diary.logging = true := h.1.logging
  show Chronicled b ((emit none { eventOf l .opened with
    fd := shownNumber l.descriptor, localAddress := address.map Endpoint.render }).run st₁).2
  unfold Chronicled
  rw [diary_emit hlog, hdiary]
  exact ⟨h.1.opened rfl rfl rfl, h.2⟩

theorem chronicles_openListener : Chronicles openListener :=
  chronicles_bind (Quiet.chronicles (diary_hidesMasks.network _)) fun _ =>
    chronicles_bind (chronicles_demand _) fun _ => chronicles_addListener _ _

theorem chronicles_adoptSocket (number : FileNumber) : Chronicles (adoptSocket number) := by
  refine chronicles_bind (Quiet.chronicles (diary_hidesMasks.network _)) fun r => ?_
  split
  · exact Quiet.chronicles (frames_bind (diary_hidesMasks.network _) fun _ => frames_throw _)
  · exact chronicles_addListener _ _

theorem run_bind_of_keeps {P Q : Station → Prop} {f : α → Action β}
    (ha : Keeps P a.run) (hPQ : ∀ st, P st → Q st) (hf : ∀ v st, P st → Q ((f v).run st).2)
    (h : P st) :
    Q ((a >>= f).run st).2 := by
  have hst := ha st h
  rw [run_bind]
  generalize a.run st = r at hst
  obtain ⟨_ | v, st'⟩ := r
  · exact hPQ st' hst
  · exact hf v st' hst

theorem run_bind_keeps {Q : Station → Prop} {f : α → Action β} (ha : Q (a.run st).2)
    (hf : ∀ v, Keeps Q (f v).run) : Q ((a >>= f).run st).2 := by
  rw [run_bind]
  generalize a.run st = r at ha
  obtain ⟨_ | v, st'⟩ := r
  · exact ha
  · exact hf v st' ha

/-- The diary is faithful, and the channel has a certain page. -/
def ChronicledAt (b : ThreadId → Option ListenerId) (c : ListenerId) (p : Page) (st : Station) :
    Prop :=
  Chronicled b st ∧ st.diary.pages[c]? = some p

theorem Quiet.chronicledAt (h : Quiet a) (b : ThreadId → Option ListenerId)
    (c : ListenerId) (p : Page) : Keeps (ChronicledAt b c p) a.run :=
  h.holds fun d => (d.Faithful ∧ d.blocked = b) ∧ d.pages[c]? = some p

/-- A bind is refused, or denied and told of; or it goes on with a channel that is
open and not bound. -/
theorem run_bindable (c : ListenerId) (requested : Option Endpoint) (h : Chronicled b st) :
    (∃ f, ((bindable c requested).run st).1 = .error f ∧
      Chronicled b ((bindable c requested).run st).2) ∨
    ∃ address l, (bindable c requested).run st = (.ok address, st) ∧
    st.listeners[c]? = some l ∧
      l.core.isOpen = true ∧ l.localAddress = none := by
  cases hl : st.listeners[c]? with
  | none =>
    rw [bindable, run_listener_bind_none hl]
    exact .inl ⟨_, rfl, h⟩
  | some l =>
    rw [bindable, run_listener_bind hl]
    split
    · exact .inl ⟨_, rfl, h⟩
    case isFalse hopen =>
    split
    · exact .inl ⟨_, rfl, h⟩
    case isFalse hbound =>
    have hopen : l.core.isOpen = true := by simpa using hopen
    have hbound : l.localAddress = none := by simpa [isBound] using hbound
    split
    · exact .inl ⟨_, rfl, h⟩
    case h_2 address =>
    rw [run_bind, run_get]
    dsimp only
    split
    · exact .inr ⟨_, l, rfl, rfl, hopen, hbound⟩
    · refine .inl ⟨_, rfl, h.emit hl (some c) rfl ?_⟩
      rw [(h.sound hl).stage_open hopen]
      simp [page, hbound, Stage.next, eventOf]

/-- A channel that is open and not bound gets its address, and this is told. -/
theorem Chronicled.bound (h : Chronicled b st) (hl : st.listeners[c]? = some l)
    (hopen : l.core.isOpen = true) (hbound : l.localAddress = none) (address : Endpoint)
    (hkind : e.kind = .bound) (hchannel : e.channel = l.id.toUInt64)
    (haddress : e.localAddress = some address.render) :
    Chronicled b ((Action.emit (some c) e).run
      (st.modifyListener c fun l => { l with localAddress := some address })).2 := by
  have hsound := h.sound hl
  refine h.turn_emit hl (diary_modifyListener hl _) rfl ⟨hsound.used, hsound.killed⟩ (some c)
    hchannel ?_
  have hlive : l.lifecycle ≠ .killed := fun hkilled => by
    have hclosed := hsound.killed hkilled
    simp [page, hopen] at hclosed
  rw [hsound.stage_open hopen]
  simp [page, Page.stage, hbound, hopen, hlive, Stage.next, hkind, haddress]

theorem chronicles_bindListener (c : ListenerId) (requested : Option Endpoint) (backlog : Int) :
    Chronicles (bind c requested backlog) := by
  intro b st h
  rw [bind, run_bind]
  rcases run_bindable c requested h with ⟨f, hfailed, hkept⟩ |
    ⟨address, l, hrun, hl, hopen, hbound⟩
  · generalize (bindable c requested).run st = r at hfailed hkept
    obtain ⟨outcome, st'⟩ := r
    cases hfailed
    exact hkept
  · rw [hrun]
    refine run_bind_of_keeps (Quiet.chronicledAt (diary_hidesMasks.acquire c) b c l.page)
      (fun _ h => h.1) (fun number st h => ?_) ⟨h, page_of hl⟩
    refine run_bind_of_keeps (Quiet.chronicledAt (diary_hidesMasks.network _) b c l.page)
      (fun _ h => h.1) (fun r st h => ?_) h
    split
    · exact Quiet.chronicles
        (frames_bind (diary_hidesMasks.release c) fun _ => frames_throw _) b st h.1
    case h_2 bound =>
      obtain ⟨l', hl', hpage⟩ := listener_of_page h.2
      have hl₁ :
          (st.modifyListener c fun l => { l with localAddress := some bound }).listeners[c]? =
          some { l' with localAddress := some bound } := by
        simp [modifyListener, hl']
      show Chronicled b ((listener c >>= _).run
        (st.modifyListener c fun l => { l with localAddress := some bound })).2
      rw [run_listener_bind hl₁]
      refine Quiet.chronicles (diary_hidesMasks.release c) b _ ?_
      exact h.1.bound hl' ((congrArg Page.isOpen hpage).trans hopen)
        ((congrArg Page.address hpage).trans hbound) bound rfl rfl rfl

end Action
end PolledChannels
