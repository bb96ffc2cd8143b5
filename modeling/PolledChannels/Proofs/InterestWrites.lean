import PolledChannels.Proofs.Interests

/-!
# Writes of interest sets

Stations are reached here together with the list of all writes of interest sets and of masks on the
way, and nothing is asked of the order of writes: calls from different threads may overtake each
other, and anybody may hand a selector any mask. The mask of a key is that of its interest set
exactly if the mask handed over last is that of the set stored last.
-/

namespace PolledChannels

open PolledChannels.Action Station

variable {k : KeyId} {log : List Write} {st : Station}

/-- A write of an interest set or of a mask. -/
inductive Write where
  /-- The key gets an interest set. -/
  | store (k : KeyId) (ops : Mask)
  /-- The selector of the key is handed a mask. -/
  | hand (k : KeyId) (mask : Mask)
  deriving DecidableEq

namespace Write

def key : Write → KeyId
  | store k _ => k
  | hand k _ => k

/-- What each key got last, `0` at first. -/
def stored : List Write → KeyId → Mask
  | [] => fun _ => 0
  | store k ops :: older => Function.update (stored older) k ops
  | hand _ _ :: older => stored older

/-- The mask that was handed over last for each key, `0` at first. -/
def handed : List Write → KeyId → Mask
  | [] => fun _ => 0
  | store _ _ :: older => handed older
  | hand k mask :: older => Function.update (handed older) k mask

/-- The mask of whatever a key got was handed over before it got anything else, and no other was. -/
inductive Paired (k : KeyId) : List Write → Prop where
  | start : Paired k []
  | change (ops : Mask) {older : List Write} (h : Paired k older) :
      Paired k (hand k (Readiness.acceptEvents ops) :: store k ops :: older)
  | other {w : Write} {older : List Write} (hw : w.key ≠ k) (h : Paired k older) :
    Paired k (w :: older)

theorem Paired.handed_eq (h : Paired k log) :
    handed log k = Readiness.acceptEvents (stored log k) := by
  induction h with
  | start => exact show (0 : Mask) = Readiness.acceptEvents 0 by decide
  | change ops _ _ => simp [handed, stored]
  | @other w older hw _ ih =>
    cases w with
    | store j | hand j =>
      have hj : k ≠ j := Ne.symm hw
      simp only [handed, stored, Function.update_of_ne hj, ih]

end Write

/-- The writes of a change of an interest set that came to its end, the last one first. -/
def Write.ofChange (ops : Mask) : Except Failure KeyId → List Write
  | .ok k => [.hand k (Readiness.acceptEvents ops), .store k ops]
  | .error _ => []

/-- The writes of a mask that is handed over: there is none if there is no such key. -/
def Write.ofHand (st : Station) (k : KeyId) (mask : Mask) : List Write :=
  if (st.key? k).isSome then [.hand k mask] else []

/-- The writes of a deed, the last one first. -/
def Deed.writes (st : Station) : Deed → List Write
  | register c s ops => Write.ofChange ops ((Action.register c s ops).run st).1
  | setInterest k ops => Write.ofChange ops (((Action.setInterest k ops).run st).1.map fun _ => k)
  | translateInterest k ops => Write.ofHand st k (Readiness.acceptEvents ops)
  | _ => []

/-- The writes of a history, the last one first. -/
def Deed.writesOf (st : Station) : List Deed → List Write
  | [] => []
  | deed :: history => writesOf (deed.perform st) history ++ deed.writes st

namespace Station

theorem ledger_interrupt (target : ThreadId) (st : Station) :
    (interrupt target st).2.ledger = st.ledger := by
  rw [interrupt_eq]
  cases (st.interrupts.interruptOther target).2 with
  | none => rfl
  | some c =>
    exact (bypasses_interruptListener c target).eq
      { st with interrupts := (st.interrupts.interruptOther target).1 }

/-- The station is reached by operations, and the log lists the writes on the way, the last one
first. The two writes of a change of an interest set may have anything between them. -/
inductive Written : List Write → Station → Prop where
  | start : Written [] {}
  | deed {log : List Write} {st : Station} (h : Written log st) (deed : Deed) :
      Written (deed.writes st ++ log) (deed.perform st)
  /-- A registration has made a key, which an open selector adopted; its interest set is to come. -/
  | enrol {log : List Write} {st : Station} (h : Written log st) (c : ListenerId) {s : SelectorId}
      {x : Selector} (hx : st.selectors[s]? = some x) (hopen : x.isOpen = true) :
      Written log (st.enrolled c s)
  /-- A change of an interest set has made its checks and stores it. -/
  | store {log : List Write} {st : Station} (h : Written log st) {k : KeyId} {key : Key}
      {ops : Mask} (hk : st.key? k = some key) (hops : ops.within Operation.ofListener = true) :
      Written (.store k ops :: log) (st.modifyKey k fun key => { key with interest := ops })
  /-- A mask is handed over, whatever it is. -/
  | put {log : List Write} {st : Station} (h : Written log st) (k : KeyId) (mask : Mask) :
      Written (Write.ofHand st k mask ++ log) ((putEvents k mask).run st).2
  /-- Something happens that has nothing to do with interest. -/
  | aside {log : List Write} {st st' : Station} (h : Written log st)
    (hsame : st'.ledger = st.ledger) :
      Written log st'
  | deregister {log : List Write} {st : Station} (h : Written log st) (c : ListenerId) (k : KeyId) :
      Written log ((Action.deregister c k).run st).2
  | beginSelect {log : List Write} {st : Station} (h : Written log st) (s : SelectorId) :
      Written log ((Action.beginSelect s).run st).2
  | endSelect {log : List Write} {st : Station} (h : Written log st) (s : SelectorId)
      (polled : List Polled) (answer : PollAnswer) :
      Written log ((Action.endSelect s polled answer).run st).2
  | dropListener {log : List Write} {st : Station} (h : Written log st) (c : ListenerId) :
      Written log ((Action.dropListener c).run st).2
  | dropSelector {log : List Write} {st : Station} (h : Written log st) (s : SelectorId) :
      Written log ((Action.dropSelector s).run st).2

open Write in
theorem follows_hand (h : st.ledger.Follows (stored log) (handed log)) (k : KeyId) (mask : Mask) :
    ((putEvents k mask).run st).2.ledger.Follows (stored (ofHand st k mask ++ log))
      (handed (ofHand st k mask ++ log)) := by
  have hfollows := follows_putEvents h k mask
  unfold ofHand
  split at hfollows
  · next hk => rwa [if_pos hk]
  · next hk => rwa [if_neg hk]

open Write in
theorem follows_perform (h : st.ledger.Follows (stored log) (handed log)) (deed : Deed) :
    (deed.perform st).ledger.Follows (stored (deed.writes st ++ log))
      (handed (deed.writes st ++ log)) := by
  cases deed with
  | meet world => exact h
  | provide provider => exact h
  | pass moment => exact h
  | openListener => exact bypasses_openListener.attunes st h
  | adoptSocket number => exact (bypasses_adoptSocket number).attunes st h
  | openSelector => exact attunes_openSelector st h
  | step me signalled point hpoint =>
    have hsame := (ledger_attends me st.ledger).keeps_advance signalled hpoint st rfl
    show ((point.advance me signalled) st).2.ledger.Follows (stored log) (handed log)
    rwa [hsame]
  | configureBlocking c block => exact (bypasses_configureBlocking c block).attunes st h
  | register c s ops =>
    have hregisters := registers_register h c s ops
    show ((register c s ops).run st).2.ledger.Follows
      (stored (ofChange ops ((register c s ops).run st).1 ++ log))
      (handed (ofChange ops ((register c s ops).run st).1 ++ log))
    generalize (register c s ops).run st = r at hregisters
    obtain ⟨_ | k, st'⟩ := r <;> exact hregisters
  | setInterest k ops =>
    show ((setInterest k ops).run st).2.ledger.Follows
      (stored (ofChange ops (((setInterest k ops).run st).1.map fun _ => k) ++ log))
      (handed (ofChange ops (((setInterest k ops).run st).1.map fun _ => k) ++ log))
    rcases follows_setInterest h k ops with ⟨hok, hfollows⟩ | ⟨e, herror⟩
    · rw [hok]
      exact hfollows
    · rw [herror]
      exact h
  | cancel k => exact (bypasses_cancelKey k).attunes st h
  | close c => exact (bypasses_closeOnBehalf c none).attunes st h
  | kill c => exact (bypasses_kill c).attunes st h
  | translateInterest k ops => exact follows_hand h k (Readiness.acceptEvents ops)
  | translateAndSet c k events => exact attunes_translateAndSet c k events st h
  | translateAndUpdate c k events => exact attunes_translateAndUpdate c k events st h
  | select s meanwhile answer => exact attunes_select s meanwhile answer st h
  | wakeup s => exact (bypasses_wakeup s).attunes st h
  | removeSelected s k => exact (bypasses_removeSelected s k).attunes st h
  | clearSelected s => exact (bypasses_clearSelected s).attunes st h
  | closeSelector s => exact attunes_closeSelector s st h
  | interrupt target =>
    show (interrupt target st).2.ledger.Follows (stored log) (handed log)
    rwa [ledger_interrupt]
  | interruptSelf me => exact h
  | takeFlag me => exact h

/-- Along every way interest sets and masks are what was written last. -/
theorem Written.follows (h : Written log st) :
    st.ledger.Follows (Write.stored log) (Write.handed log) := by
  induction h with
  | start =>
    exact ⟨by simp [ledger, key?], by simp [ledger, key?], by simp [ledger], by simp [ledger],
      by simp [ledger], fun _ _ => ⟨rfl, rfl⟩⟩
  | deed _ deed ih => exact follows_perform ih deed
  | enrol _ c hx hopen ih =>
    rw [ledger_enrolled c hx]
    exact ih.enrol (by simp [ledger, key?]) (ledger_sheet_of hx) hopen
  | @store _ _ _ k key ops hk hops ih =>
    have haccount := ledger_account_of hk
    rw [ledger_modifyKey_of hk]
    exact ih.putAccount (b := { key.account with interest := ops }) haccount
      ⟨hops, (ih.proper k _ haccount).ready⟩ rfl
  | put _ k mask ih => exact follows_hand ih k mask
  | aside _ hsame ih => rwa [hsame]
  | deregister _ c k ih => exact (bypasses_deregister c k).attunes _ ih
  | beginSelect _ s ih => exact attunes_beginSelect s _ ih
  | endSelect _ s polled answer ih => exact attunes_endSelect s polled answer _ ih
  | dropListener _ c ih => exact (bypasses_dropListener c).attunes _ ih
  | dropSelector _ s ih => exact attunes_dropSelector s _ ih

theorem Written.deeds (h : Written log st) (history : List Deed) :
    Written (Deed.writesOf st history ++ log)
      (history.foldl (fun st deed => deed.perform st) st) := by
  induction history generalizing log st with
  | nil => exact h
  | cons deed history ih =>
    rw [Deed.writesOf, List.append_assoc]
    exact ih (h.deed deed)

/-- The mask that a selector holds of a key. -/
def maskOf (st : Station) (s : SelectorId) (k : KeyId) : Option Mask :=
  st.selectors[s]?.bind fun x => x.registered.lookup k

end Station

namespace Action

theorem setInterest_error {ops : Mask} {st' : Station} {e : Failure}
    (h : (setInterest k ops).run st = (.error e, st')) : st' = st := by
  rcases setInterest_cases k ops st with ⟨e', herror, -⟩ | ⟨key, -, -, hrun⟩
  · rw [herror] at h
    cases h
    rfl
  · obtain ⟨st'', hput, -⟩ := putEvents_hands k (Readiness.acceptEvents ops)
      (st.modifyKey k fun key => { key with interest := ops })
    rw [hrun, hput] at h
    cases h

/-- A registration that fails leaves the station alone, unless nobody keeps the channel: then
there is a new key. -/
theorem register_error {c : ListenerId} {s : SelectorId} {ops : Mask} {st' : Station} {e : Failure}
    (h : (register c s ops).run st = (.error e, st')) :
    st' = st ∨ st.listenerAlive c = false ∧ st' = st.enrolled c s := by
  have hset {k : KeyId} {st₀ : Station}
      (h : (do setInterest k ops; return k : Action KeyId).run st₀ = (.error e, st')) :
      (setInterest k ops).run st₀ = (.error e, st') := by
    rw [run_bind] at h
    rcases hrun : (setInterest k ops).run st₀ with ⟨_ | _, st₁⟩ <;> rw [hrun]
      at h <;> cases h
    rfl
  cases hl : st.listeners[c]? with
  | none =>
    rw [register, run_listener_bind_none hl] at h
    cases h
    exact .inl rfl
  | some l =>
    cases hx : st.selectors[s]? with
    | none =>
      rw [register, run_listener_bind hl] at h
      simp only [run_bind, run_get, run_keyFor hl, run_selector, hx] at h
      cases h
      exact .inl rfl
    | some x =>
      rw [run_register hl hx] at h
      split at h
      case h_1 =>
        cases h
        exact .inl rfl
      case h_2 => exact .inl (setInterest_error (hset h))
      case h_3 hadmission =>
        have hfailed := hset h
        refine .inr ⟨?_, setInterest_error hfailed⟩
        have hkey : (st.enrolled c s).key? (st.keys.length + 1) =
            some { selector := s, channel := c } := by
          simp [enrolled, key?, modifyListener, modifySelector]
        have halive : (st.enrolled c s).listenerAlive c = st.listenerAlive c := by
          simp [enrolled, listenerAlive, modifyListener, modifySelector, hl, Listener.alive]
        rcases setInterest_cases (st.keys.length + 1) ops (st.enrolled c s) with
          ⟨_, -, hrefused⟩ | ⟨key, -, -, hrun⟩
        · have hops := (Core.admission_create hadmission).2.2.2.1
          have := hrefused _ hkey
          rw [halive] at this
          simpa [hops] using this
        · obtain ⟨st'', hput, -⟩ :=
            putEvents_hands (st.keys.length + 1) (Readiness.acceptEvents ops)
            ((st.enrolled c s).modifyKey (st.keys.length + 1) fun key =>
              { key with interest := ops })
          rw [hrun, hput] at hfailed
          cases hfailed

end Action

namespace Station

theorem enrolled_known {key : Key} (hk : st.key? k = some key) (c : ListenerId) (s : SelectorId) :
    (st.enrolled c s).key? k = some key ∧
      ∀ t, (st.enrolled c s).maskOf t k = st.maskOf t k := by
  have hplace : k ≠ 0 ∧ st.keys[k - 1]? = some key := by
    unfold key? at hk
    split at hk
    · cases hk
    · next hzero => exact ⟨hzero, hk⟩
  have hlt : k - 1 < st.keys.length := (List.getElem?_eq_some_iff.mp hplace.2).1
  constructor
  · simp [enrolled, key?, modifyListener, modifySelector, hplace.1,
      List.getElem?_append_left hlt, hplace.2]
  · intro t
    have hnew : (k == st.keys.length + 1) = false := by
      have hle : k ≤ st.keys.length := Nat.le_of_pred_lt hlt
      exact beq_eq_false_iff_ne.mpr (Nat.ne_of_lt (Nat.lt_succ_of_le hle))
    by_cases ht : t = s
    · subst ht
      cases hx : st.selectors[t]? <;>
        simp [enrolled, maskOf, modifyListener, modifySelector, hx, List.lookup_append,
          List.lookup_cons, hnew]
    · simp [enrolled, maskOf, modifyListener, modifySelector,
        List.getElem?_modify_ne _ _ (Ne.symm ht)]

/-- **Masks follow interest sets.**  On every way a station is reached, both sets of a registered
key hold nothing but acceptance. The mask that its selector holds is that of its interest set
exactly if the mask handed over last is that of the set stored last; so it is if the writes for the
key come in pairs. A change of an interest set and a registration that fail write nothing. -/
theorem Written.mask_follows_interest {log : List Write} {st : Station} (h : Written log st) :
    (∀ (s : SelectorId) (x : Selector) (k : KeyId) (mask : Mask), st.selectors[s]? = some x →
      (k, mask) ∈ x.registered → ∃ key, st.key? k = some key ∧
        key.interest.within Operation.accept = true ∧ key.ready.within Operation.accept = true ∧
        (mask = Readiness.acceptEvents key.interest ↔
          Write.handed log k = Readiness.acceptEvents (Write.stored log k)) ∧
        (Write.Paired k log → mask = Readiness.acceptEvents key.interest)) ∧
    (∀ k ops e st', (Action.setInterest k ops).run st = (.error e, st') → st' = st) ∧
    ∀ c s ops e st', (Action.register c s ops).run st = (.error e, st') →
      (st.listenerAlive c = true → st' = st) ∧
      ∀ k key, st.key? k = some key → st'.key? k = some key ∧
      ∀ t, st'.maskOf t k = st.maskOf t k := by
  refine ⟨fun s x k mask hx hmask => ?_, fun _ _ _ _ =>
    setInterest_error, fun c s ops e st' herror => ?_⟩
  · have hfollows := h.follows
    obtain ⟨a, ha, -, hmaskOf⟩ := hfollows.masks s x.sheet (ledger_sheet_of hx) (k, mask) hmask
    obtain ⟨key, hk, rfl⟩ := Option.map_eq_some_iff.mp ha
    have hproper := hfollows.proper k _ ha
    have hinterest : key.interest = Write.stored log k := hfollows.interest k _ ha
    have hiff : mask = Readiness.acceptEvents key.interest ↔
        Write.handed log k = Readiness.acceptEvents (Write.stored log k) := by
      rw [hinterest, show mask = Write.handed log k from hmaskOf]
    exact ⟨key, hk, hproper.interest, hproper.ready, hiff, fun hpaired =>
      hiff.mpr hpaired.handed_eq⟩
  · rcases register_error herror with rfl | ⟨hdead, rfl⟩
    · exact ⟨fun _ => rfl, fun k key hk => ⟨hk, fun _ => rfl⟩⟩
    · exact ⟨fun halive => absurd (hdead.symm.trans halive) Bool.false_ne_true,
        fun k key hk => enrolled_known hk c s⟩

/-- A channel is registered for acceptance. -/
def registeredOnce : List Deed :=
  [.openListener, .configureBlocking 0 false, .openSelector, .register 0 0 Operation.accept]

theorem written_registeredOnce :
    Written (Write.ofChange Operation.accept (.ok 1)) (after registeredOnce) := by
  have hlog : Deed.writesOf {} registeredOnce = Write.ofChange Operation.accept (.ok 1) := by
    decide +kernel
  have hwritten := Written.start.deeds registeredOnce
  rwa [hlog] at hwritten

/-- One caller asks for acceptance again; before its set is handed over, another
one drops interest. -/
def overtaken : Station :=
  [Deed.setInterest 1 0, .translateInterest 1 Operation.accept].foldl
    (fun st deed => deed.perform st)
    ((after registeredOnce).modifyKey 1 fun key => { key with interest := Operation.accept })

/-- A registration is followed. Of two changes at once the selector may follow the one and the key
the other: here it goes on to wait for a key that asks for nothing. -/
theorem selector_waits_for_dropped_interest :
    (∃ key, (after registeredOnce).key? 1 = some key ∧
      Native.input = Readiness.acceptEvents key.interest) ∧
    overtaken.selectors[0]? = some { registered := [(1, Native.input)] } ∧
    ∃ key, overtaken.key? 1 = some key ∧ key.interest = 0 ∧
      ¬ Native.input = Readiness.acceptEvents key.interest := by
  constructor
  · obtain ⟨key, hk, -, -, -, hfollows⟩ := written_registeredOnce.mask_follows_interest.1 0
      { registered := [(1, Native.input)] } 1 Native.input (by decide +kernel)
        (List.mem_singleton_self _)
    exact ⟨key, hk, hfollows (.change _ .start)⟩
  · have hkey : (after registeredOnce).key? 1 =
        some { selector := 0, channel := 0, interest := Operation.accept } := by
      decide +kernel
    have haccept : Operation.accept.within Operation.ofListener = true := by decide
    have hwritten := (written_registeredOnce.store hkey haccept).deeds
      [.setInterest 1 0, .translateInterest 1 Operation.accept]
    have hlog : Deed.writesOf
        ((after registeredOnce).modifyKey 1 fun key => { key with interest := Operation.accept })
        [.setInterest 1 0, .translateInterest 1 Operation.accept] =
          [.hand 1 Native.input, .hand 1 0, .store 1 0] := by
      decide +kernel
    rw [hlog] at hwritten
    have hx :
        overtaken.selectors[0]? = some { registered := [(1, Native.input)] } := by decide +kernel
    have hdropped : overtaken.key? 1 = some { selector := 0, channel := 0, interest := 0 } := by
      decide +kernel
    obtain ⟨key, hk, -, -, hiff, -⟩ := hwritten.mask_follows_interest.1 0 _ 1 Native.input hx
      (List.mem_singleton_self _)
    cases hdropped.symm.trans hk
    exact ⟨hx, _, hdropped, rfl, fun hsame => absurd (hiff.mp hsame) (by decide)⟩

/-- Whoever hands over another set than that of the key makes the mask another one. -/
theorem handed_mask_may_differ :
    ¬ ∀ (history : List Deed) (s : SelectorId) (x : Selector) (k : KeyId) (mask : Mask) (key :
      Key), (after history).selectors[s]? = some x → (k, mask) ∈ x.registered →
        (after history).key? k = some key → mask = Readiness.acceptEvents key.interest := by
  intro h
  have hmask := h (registeredOnce ++ [.translateInterest 1 0]) 0 { registered := [(1, 0)] } 1 0
    { selector := 0, channel := 0, interest := Operation.accept } (by decide +kernel)
    (List.mem_singleton_self _) (by decide +kernel)
  exact absurd hmask (by decide)

end Station
end PolledChannels
