import Mathlib.Logic.Function.Basic
import PolledChannels.Proofs.Deeds
import PolledChannels.Proofs.Ledger

/-!
# Interest sets and the masks of selectors

The interest set of a key stands with the key; the mask that poll is asked with stands with its
selector. A change of the interest set stores it and then hands the mask over, and either may be
seen without the other. `Ledger.Follows` says what the two are in terms of what was stored and
what was handed over last, and that interest and ready sets hold nothing but acceptance. Here
every operation is shown to keep that: one lemma for each way the ledger changes, one for each
operation that changes it.
-/

namespace PolledChannels

open PolledChannels.Action Station

namespace Mask

theorem within_or {a b m : Mask} (ha : a.within m = true) (hb : b.within m = true) :
    (a ||| b).within m = true := by
  simp only [within, beq_iff_eq] at *
  rw [BitVec.and_or_distrib_right, ha, hb]
  rfl

theorem zero_within (m : Mask) : (0 : Mask).within m = true := by
  simp [within]

end Mask

/-- Nothing is ready but what can be waited for, and what was. -/
theorem Readiness.within_translate {events initial interest old m ops : Mask} {changed : Bool}
    (hinterest : interest.within m = true) (hinitial : initial.within m = true)
    (haccept : Operation.accept.within m = true)
    (h : translate events initial interest old = .ready ops changed) : ops.within m = true := by
  unfold translate at h
  split at h
  · cases h
  split at h
  · cases h
    exact hinterest
  · cases h
    split
    · exact Mask.within_or hinitial haccept
    · exact hinitial

theorem Key.checkInterest_ok {key : Key} {alive : Bool} {supported ops : Mask} :
    key.checkInterest (if alive then some supported else none) ops = .ok () ↔
      key.valid = true ∧ alive = true ∧ ops.within supported = true := by
  unfold checkInterest
  cases hvalid : key.valid <;> cases alive <;> cases hops : ops.within supported <;> simp [hops]

/-! ## What follows what -/

/-- Both sets hold nothing but acceptance. -/
structure Account.Proper (a : Account) : Prop where
  interest : a.interest.within Operation.accept = true
  ready : a.ready.within Operation.accept = true

namespace Sheet

/-- The mask of a key is replaced. -/
def record (k : KeyId) (mask : Mask) (x : Sheet) : Sheet :=
  { x with masks := x.masks.map fun p => if p.1 = k then (k, mask) else p }

def forget (k : KeyId) (x : Sheet) : Sheet := { x with masks := x.masks.filter fun p => p.1 != k }

/-- The selector is closed and forgets everything. -/
def clear (x : Sheet) : Sheet := { x with isOpen := false, masks := [] }

end Sheet

namespace Ledger

variable {g : Ledger} {stored handed : KeyId → Mask} {k : KeyId} {a : Account} {s : SelectorId}
  {x x' : Sheet} {ops mask : Mask}

/-- The interest set of a key is the one that was stored last, and the mask its selector holds is
the one handed over last. Both sets of a key hold nothing but acceptance. Selectors are kept while
they are open, and hold nothing when they are closed. -/
structure Follows (stored handed : KeyId → Mask) (g : Ledger) : Prop where
  proper : ∀ k a, g.account k = some a → a.Proper
  interest : ∀ k a, g.account k = some a → a.interest = stored k
  masks : ∀ s x, g.sheet s = some x → ∀ p ∈ x.masks,
    ∃ a, g.account p.1 = some a ∧ a.selector = s ∧ p.2 = handed p.1
  kept : ∀ s x, g.sheet s = some x → x.isOpen = true → x.alive = true
  closed : ∀ s x, g.sheet s = some x → x.isOpen = false → x.masks = []
  fresh : ∀ k, g.account k = none → stored k = 0 ∧ handed k = 0

/-- The selector of a key, if it is still kept, records a mask. -/
def hand (g : Ledger) (k : KeyId) (mask : Mask) : Ledger :=
  match g.account k with
  | some a =>
    if (g.sheet a.selector).any Sheet.alive then g.onSheet a.selector (Sheet.record k mask) else g
  | none => g

namespace Follows

theorem putSheet (h : g.Follows stored handed) (hx : g.sheet s = some x)
    (hmasks : ∀ p ∈ x'.masks, p ∈ x.masks) (hkept : x'.isOpen = true → x'.alive = true)
    (hclosed : x'.isOpen = false → x'.masks = []) : (g.putSheet s x').Follows stored handed where
  __ := h
  masks := by
    intro e y hy p hp
    rcases put_cases hy with ⟨rfl, rfl⟩ | ⟨-, hy⟩
    · exact h.masks e x hx p (hmasks p hp)
    · exact h.masks e y hy p hp
  kept := by
    intro e y hy
    rcases put_cases hy with ⟨rfl, rfl⟩ | ⟨-, hy⟩
    · exact hkept
    · exact h.kept e y hy
  closed := by
    intro e y hy
    rcases put_cases hy with ⟨rfl, rfl⟩ | ⟨-, hy⟩
    · exact hclosed
    · exact h.closed e y hy

theorem putAccount {b : Account} (h : g.Follows stored handed) (ha : g.account k = some a)
    (hb : b.Proper) (hselector : b.selector = a.selector) :
    (g.putAccount k b).Follows (Function.update stored k b.interest) handed where
  __ := h
  proper := by
    intro j c hc
    rcases put_cases hc with ⟨rfl, rfl⟩ | ⟨-, hc⟩
    · exact hb
    · exact h.proper j c hc
  interest := by
    intro j c hc
    rcases put_cases hc with ⟨rfl, rfl⟩ | ⟨hj, hc⟩
    · rw [Function.update_self]
    · rw [Function.update_of_ne hj]
      exact h.interest j c hc
  masks := by
    intro s x hx p hp
    obtain ⟨c, hc, hs, hmask⟩ := h.masks s x hx p hp
    by_cases hj : p.1 = k
    · rw [hj] at hc ⊢
      cases ha.symm.trans hc
      exact ⟨b, putAccount_self g k b, hselector.trans hs, hj ▸ hmask⟩
    · exact ⟨c, (putAccount_of_ne hj).trans hc, hs, hmask⟩
  fresh := by
    intro j hj
    have hjk : j ≠ k := by
      rintro rfl
      cases (putAccount_self g j b).symm.trans hj
    rw [putAccount_of_ne hjk] at hj
    rw [Function.update_of_ne hjk]
    exact h.fresh j hj

theorem setReady (h : g.Follows stored handed) (ha : g.account k = some a)
    (hops : ops.within Operation.accept = true) :
    (g.putAccount k { a with ready := ops }).Follows stored handed := by
  have hput :=
    h.putAccount (b := { a with ready := ops }) ha ⟨(h.proper k a ha).interest, hops⟩ rfl
  have hsame : Function.update stored k a.interest = stored := by
    rw [h.interest k a ha, Function.update_eq_self]
  exact hsame ▸ hput

theorem selector_of_mask (h : g.Follows stored handed) (ha : g.account k = some a)
    (hx : g.sheet s = some x) (hmask : (k, mask) ∈ x.masks) :
      a.selector = s ∧ x.alive = true := by
  obtain ⟨b, hb, hs, -⟩ := h.masks s x hx _ hmask
  cases ha.symm.trans hb
  refine ⟨hs, ?_⟩
  cases hopen : x.isOpen with
  | true => exact h.kept s x hx hopen
  | false =>
    rw [h.closed s x hx hopen] at hmask
    cases hmask

theorem hand (h : g.Follows stored handed) (ha : g.account k = some a) (mask : Mask) :
    (g.hand k mask).Follows stored (Function.update handed k mask) := by
  have hfresh : ∀ j, g.account j = none → stored j = 0 ∧
      Function.update handed k mask j = 0 := by
    intro j hj
    have hjk : j ≠ k := by
      rintro rfl
      cases ha.symm.trans hj
    rw [Function.update_of_ne hjk]
    exact h.fresh j hj
  have hother {e : SelectorId} {y : Sheet} (hy : g.sheet e = some y) {p : KeyId × Mask}
      (hp : p ∈ y.masks) (hpk : p.1 ≠ k) :
      ∃ b, g.account p.1 = some b ∧ b.selector = e ∧
      p.2 = Function.update handed k mask p.1 := by
    rw [Function.update_of_ne hpk]
    exact h.masks e y hy p hp
  have hown {e : SelectorId} {y : Sheet} (hy : g.sheet e = some y) {p : KeyId × Mask}
      (hp : p ∈ y.masks) (hpk : p.1 = k) : a.selector = e ∧ y.alive = true :=
    h.selector_of_mask (hpk ▸ ha) hy hp
  unfold Ledger.hand
  rw [ha]
  dsimp only
  split
  · next halive =>
    obtain ⟨x, hx, hxalive⟩ := (Option.any_eq_true ..).mp halive
    rw [onSheet_of hx]
    refine ⟨h.proper, h.interest, fun e y hy p hp => ?_, fun e y hy => ?_,
      fun e y hy => ?_, hfresh⟩
    · rcases put_cases hy with ⟨rfl, rfl⟩ | ⟨he, hy⟩
      · obtain ⟨q, hq, rfl⟩ := List.mem_map.mp hp
        split
        · exact ⟨a, ha, rfl, by rw [Function.update_self]⟩
        · next hqk => exact hother hx hq hqk
      · exact hother hy hp fun hpk => he (hown hy hp hpk).1.symm
    · rcases put_cases hy with ⟨rfl, rfl⟩ | ⟨-, hy⟩
      · exact fun _ => hxalive
      · exact h.kept e y hy
    · rcases put_cases hy with ⟨rfl, rfl⟩ | ⟨-, hy⟩
      · intro hclosed
        simp [Sheet.record, h.closed _ x hx hclosed]
      · exact h.closed e y hy
  · next hdead =>
    -- nobody keeps the selector, so it holds no mask of the key
    refine ⟨h.proper, h.interest, fun e y hy p hp => hother hy hp fun hpk =>
      hdead ?_, h.kept, h.closed, hfresh⟩
    obtain ⟨rfl, halive⟩ := hown hy hp hpk
    simp [hy, halive]

theorem enrol (h : g.Follows stored handed) (hk : g.account k = none) (hx : g.sheet s = some x)
    (hopen : x.isOpen = true) :
    ((g.putAccount k ⟨s, 0, 0⟩).putSheet s { x with masks := x.masks ++ [(k, 0)] }).Follows
      stored
      handed := by
  have hheld {e : SelectorId} {y : Sheet} (hy : g.sheet e = some y) {p : KeyId × Mask}
      (hp : p ∈ y.masks) :
      ∃ b, (g.putAccount k ⟨s, 0, 0⟩).account p.1 = some b ∧ b.selector = e ∧
      p.2 = handed p.1 := by
    obtain ⟨b, hb, he, hmask⟩ := h.masks e y hy p hp
    have hpk : p.1 ≠ k := by
      intro hpk
      rw [hpk, hk] at hb
      cases hb
    exact ⟨b, (putAccount_of_ne hpk).trans hb, he, hmask⟩
  obtain ⟨hstored, hhanded⟩ := h.fresh k hk
  refine ⟨fun j b hb => ?_, fun j b hb => ?_, fun e y hy p hp => ?_, fun e y hy => ?_,
    fun e y hy => ?_, fun j hj => ?_⟩
  · rcases put_cases hb with ⟨rfl, rfl⟩ | ⟨-, hb⟩
    · exact ⟨Mask.zero_within _, Mask.zero_within _⟩
    · exact h.proper j b hb
  · rcases put_cases hb with ⟨rfl, rfl⟩ | ⟨-, hb⟩
    · exact hstored.symm
    · exact h.interest j b hb
  · rcases put_cases hy with ⟨rfl, rfl⟩ | ⟨-, hy⟩
    · rcases List.mem_append.mp hp with hp | hp
      · exact hheld hx hp
      · obtain rfl := List.mem_singleton.mp hp
        exact ⟨⟨e, 0, 0⟩, putAccount_self g k _, rfl, hhanded.symm⟩
    · exact hheld hy hp
  · rcases put_cases hy with ⟨rfl, rfl⟩ | ⟨-, hy⟩
    · exact h.kept e x hx
    · exact h.kept e y hy
  · rcases put_cases hy with ⟨rfl, rfl⟩ | ⟨-, hy⟩
    · intro hclosed
      cases hopen.symm.trans hclosed
    · exact h.closed e y hy
  · have hjk : j ≠ k := by
      rintro rfl
      cases (putAccount_self g j ⟨s, 0, 0⟩).symm.trans hj
    exact h.fresh j ((putAccount_of_ne hjk).symm.trans hj)

theorem addSheet (h : g.Follows stored handed) (s : SelectorId) :
    (g.putSheet s ⟨true, true, []⟩).Follows stored handed := by
  refine ⟨h.proper, h.interest, fun e y hy p hp => ?_, fun e y hy => ?_,
    fun e y hy => ?_, h.fresh⟩
  · rcases put_cases hy with ⟨rfl, rfl⟩ | ⟨-, hy⟩
    · cases hp
    · exact h.masks e y hy p hp
  · rcases put_cases hy with ⟨rfl, rfl⟩ | ⟨-, hy⟩
    · exact fun _ => rfl
    · exact h.kept e y hy
  · rcases put_cases hy with ⟨rfl, rfl⟩ | ⟨-, hy⟩
    · exact fun _ => rfl
    · exact h.closed e y hy

end Follows
end Ledger

/-! ## Operations -/

namespace Action

variable {α : Type} {stored handed : KeyId → Mask} {s : SelectorId} {x : Selector} {st : Station}

/-- The operation keeps interest sets, ready sets and masks in agreement. -/
abbrev Attunes (stored handed : KeyId → Mask) (a : Action α) : Prop :=
  Keeps (fun st => st.ledger.Follows stored handed) a.run

theorem Bypasses.attunes {a : Action α} (h : Bypasses a) : Attunes stored handed a := by
  intro st hst
  rwa [h.eq]

theorem keeps_get_bind {P : Station → Prop} {f : Station → Action α}
    (hf : ∀ st, P st → P ((f st).run st).2) : Keeps P (get >>= f).run :=
  hf

/-! ### Ready sets -/

theorem bypasses_reportInvalid (c : ListenerId) (k : KeyId) : Bypasses (reportInvalid c k) := by
  refine frames_bind (frames_listener c) fun l => ?_
  split
  · refine frames_bind frames_get fun st => frames_bind (ledger_hidesAccepts.emit _ _) fun _ => ?_
    split
    · exact bypasses_cancelKey k
    · exact frames_pure _
  · exact frames_pure _

theorem attunes_translateReady (c : ListenerId) (k : KeyId) (events : Mask) {initial : Mask}
    (hinitial : initial.within Operation.accept = true) :
    Attunes stored handed (translateReady c k events initial) := by
  refine keeps_get_bind fun st h => ?_
  split
  · exact h
  · next key hk =>
    have hproper := h.proper k _ (ledger_account_of hk)
    split
    · exact keeps_bind (bypasses_reportInvalid c k).attunes (fun _ => keeps_pure _) st h
    · next ops changed hready =>
      show (st.modifyKey k fun key => { key with ready := ops }).ledger.Follows stored handed
      rw [ledger_modifyKey_of hk]
      exact h.setReady (ledger_account_of hk)
        (Readiness.within_translate hproper.interest hinitial (by decide) hready)

theorem attunes_translateAndSet (c : ListenerId) (k : KeyId) (events : Mask) :
    Attunes stored handed (translateAndSet c k events) :=
  attunes_translateReady c k events (Mask.zero_within _)

theorem attunes_translateAndUpdate (c : ListenerId) (k : KeyId) (events : Mask) :
    Attunes stored handed (translateAndUpdate c k events) := by
  refine keeps_get_bind fun st h => ?_
  split
  · exact h
  · next key hk =>
    exact attunes_translateReady c k events (h.proper k _ (ledger_account_of hk)).ready st h

/-! ### Keys that leave -/

theorem bypasses_deregisterKey (k : KeyId) : Bypasses (deregisterKey k) := by
  refine frames_bind frames_get fun st => ?_
  split
  · exact frames_pure _
  · split
    · exact bypasses_deregister _ k
    · exact frames_pure _

theorem attunes_forgetKey (s : SelectorId) (k : KeyId) : Attunes stored handed (forgetKey s k) := by
  refine keeps_modify fun st h => ?_
  rw [st.ledger_modifySelector s (g := Sheet.forget k) fun _ => rfl]
  cases hx : st.ledger.sheet s with
  | none => rwa [Ledger.onSheet_none hx]
  | some x =>
    rw [Ledger.onSheet_of hx]
    refine h.putSheet hx (fun p hp => List.mem_of_mem_filter hp) (h.kept s x hx) fun hclosed => ?_
    simp [Sheet.forget, h.closed s x hx hclosed]

theorem attunes_processCancelled (s : SelectorId) : Attunes stored handed (processCancelled s) := by
  have htake : Bypasses (takeCancelled s) :=
    frames_bind (frames_selector s) fun _ =>
      frames_bind (bypasses_modifySelector s fun _ => rfl) fun _ => frames_pure _
  exact keeps_processCancelled_of htake.attunes (attunes_forgetKey s) fun k =>
    (bypasses_deregisterKey k).attunes

/-! ### Selections -/

theorem attunes_beginSelect (s : SelectorId) : Attunes stored handed (beginSelect s) :=
  keeps_beginSelect_of (attunes_processCancelled s)

theorem attunes_endSelect (s : SelectorId) (polled : List Polled) (answer : PollAnswer) :
    Attunes stored handed (endSelect s polled answer) := by
  refine keeps_endSelect_of (attunes_processCancelled s)
    (keeps_visitAll_of attunes_translateAndUpdate attunes_translateAndSet)
      (fun f hf => ?_) polled answer
  refine (bypasses_modifySelector s fun x => ?_).attunes
  obtain ⟨selected, wake, hx⟩ := hf x
  rw [hx]
  rfl

theorem attunes_select (s : SelectorId) (meanwhile : Network) (answer : PollAnswer) :
    Attunes stored handed (select s meanwhile answer) :=
  keeps_bind (attunes_beginSelect s) fun _ => keeps_bind (keeps_modify fun _ h => h) fun _ =>
    attunes_endSelect s _ answer

/-! ### Selectors -/

theorem attunes_openSelector : Attunes stored handed openSelector := by
  intro st h
  show Ledger.Follows stored handed (ledger { st with selectors := st.selectors ++ [{}] })
  rw [ledger_append_selector]
  exact h.addSheet _

/-- The keys of a selector that is closed leave their channels; it is emptied itself. -/
theorem ledger_closeSelector (hx : st.selectors[s]? = some x) :
    ((closeSelector s).run st).2.ledger =
      if x.isOpen then st.ledger.putSheet s x.sheet.clear else st.ledger := by
  rw [closeSelector, run_selector_bind hx]
  cases hopen : x.isOpen with
  | false => rfl
  | true =>
    have hrest : Bypasses (do
        wakeup s
        forEveryKey (fun k => do invalidate k; deregisterKey k) (x.keys ++ x.cancelled)) :=
      frames_bind (bypasses_wakeup s) fun _ v => keeps_forEveryKey (fun k =>
        (frames_bind (bypasses_invalidate k) fun _ => bypasses_deregisterKey k) v) _
    have hcleared := st.ledger_modifySelector s (g := Sheet.clear)
      (f := fun x => { x with isOpen := false, registered := [], cancelled := [], selected := [] })
      fun _ => rfl
    rw [Ledger.onSheet_of (ledger_sheet_of hx)] at hcleared
    exact (hrest.eq _).trans hcleared

theorem attunes_closeSelector (s : SelectorId) : Attunes stored handed (closeSelector s) := by
  intro st h
  cases hx : st.selectors[s]? with
  | none =>
    rw [closeSelector, run_selector_bind_none hx]
    exact h
  | some x =>
    show ((closeSelector s).run st).2.ledger.Follows stored handed
    rw [ledger_closeSelector hx]
    split
    · exact h.putSheet (ledger_sheet_of hx) (fun _ hp => absurd hp List.not_mem_nil)
        (fun hopen => absurd hopen Bool.false_ne_true) fun _ => rfl
    · exact h

theorem attunes_dropSelector (s : SelectorId) : Attunes stored handed (dropSelector s) := by
  -- a selector that is closed, or that others keep, may be let go
  have hletGo {st : Station} (h : st.ledger.Follows stored handed)
      (hkept : ∀ x, st.selectors[s]? = some x → x.isOpen = true → 1 < x.owners) :
      (st.modifySelector s fun x => { x with owners := x.owners - 1 }).ledger.Follows
        stored handed := by
    cases hx : st.selectors[s]? with
    | none => rwa [modifySelector_none hx]
    | some x =>
      have hsheet := ledger_sheet_of hx
      rw [ledger_modifySelector_of hx]
      refine h.putSheet hsheet (fun _ hp => hp) (fun hopen => ?_) (h.closed s x.sheet hsheet)
      have howners := hkept x hx hopen
      simp only [Selector.sheet, Selector.alive, decide_eq_true_eq]
      omega
  refine keeps_selector_bind fun x st hx h => ?_
  by_cases hlast : x.owners = 1
  · simp only [hlast, if_true, run_bind, run_observe, run_modify]
    refine hletGo (attunes_closeSelector s st h) fun y hy hopen => ?_
    have hsheet := ledger_sheet_of hy
    rw [ledger_closeSelector hx] at hsheet
    split at hsheet
    · rcases put_cases hsheet with ⟨-, hclear⟩ | ⟨hne, -⟩
      · have hshut : y.sheet.isOpen = false := by rw [hclear]; rfl
        cases hshut.symm.trans hopen
      · exact absurd rfl hne
    · next hshut =>
      rw [ledger_sheet_of hx, Option.some.injEq] at hsheet
      exact absurd ((congrArg Sheet.isOpen hsheet).trans hopen) hshut
  · simp only [hlast, if_false]
    refine hletGo h fun y hy hopen => ?_
    cases hx.symm.trans hy
    have halive := h.kept s _ (ledger_sheet_of hx) hopen
    simp only [Selector.sheet, Selector.alive, decide_eq_true_eq] at halive
    omega

/-! ### Interest sets -/

theorem putEvents_hands (k : KeyId) (mask : Mask) (st : Station) :
    ∃ st', (putEvents k mask).run st = (.ok (), st') ∧ st'.ledger = st.ledger.hand k mask := by
  cases hk : st.key? k with
  | none =>
    refine ⟨st, by simp only [putEvents, run_bind, run_get, hk, run_pure], ?_⟩
    have hnone : st.ledger.account k = none := by simp [ledger, hk]
    rw [Ledger.hand, hnone]
  | some key =>
    have hsheet :
        (st.ledger.sheet key.selector).any Sheet.alive = st.selectorAlive key.selector := by
      simp only [selectorAlive, ledger, Option.any_map]
      cases st.selectors[key.selector]? <;> rfl
    simp only [putEvents, run_bind, run_get, hk, Ledger.hand, ledger_account_of hk, Key.account,
      hsheet]
    cases st.selectorAlive key.selector with
    | true => exact ⟨_, rfl, st.ledger_modifySelector key.selector fun _ => rfl⟩
    | false => exact ⟨st, rfl, rfl⟩

theorem follows_putEvents (h : st.ledger.Follows stored handed) (k : KeyId) (mask : Mask) :
    ((putEvents k mask).run st).2.ledger.Follows stored
      (if (st.key? k).isSome then Function.update handed k mask else handed) := by
  obtain ⟨st', hput, hledger⟩ := putEvents_hands k mask st
  rw [hput, hledger]
  cases hk : st.key? k with
  | none =>
    have hnone : st.ledger.account k = none := by simp [ledger, hk]
    rw [Ledger.hand, hnone]
    exact h
  | some key => exact h.hand (ledger_account_of hk) mask

theorem setInterest_cases (k : KeyId) (ops : Mask) (st : Station) :
    (∃ e, (setInterest k ops).run st = (.error e, st) ∧ ∀ key, st.key? k = some key →
      ¬ (key.valid = true ∧ st.listenerAlive key.channel = true ∧
        ops.within Operation.ofListener = true)) ∨
      ∃ key, st.key? k = some key ∧ ops.within Operation.ofListener = true ∧
        (setInterest k ops).run st = (putEvents k (Readiness.acceptEvents ops)).run
          (st.modifyKey k fun key => { key with interest := ops }) := by
  cases hk : st.key? k with
  | none =>
    refine .inl ⟨.illegalSelector, ?_, fun _ h => by cases h⟩
    simp only [setInterest, run_bind, run_get, hk]
    rfl
  | some key =>
    simp only [setInterest, run_bind, run_get, hk, run_lift, run_modify]
    cases hcheck : key.checkInterest
        (if st.listenerAlive key.channel then some Operation.ofListener else none) ops with
    | error e =>
      refine .inl ⟨e, rfl, ?_⟩
      rintro _ ⟨rfl⟩ hpasses
      cases (Key.checkInterest_ok.mpr hpasses).symm.trans hcheck
    | ok _ => exact .inr ⟨key, rfl, (Key.checkInterest_ok.mp hcheck).2.2, rfl⟩

theorem follows_setInterest (h : st.ledger.Follows stored handed) (k : KeyId) (ops : Mask) :
    ((setInterest k ops).run st).1 = .ok () ∧ ((setInterest k ops).run st).2.ledger.Follows
        (Function.update stored k ops) (Function.update handed k (Readiness.acceptEvents ops)) ∨
      ∃ e, (setInterest k ops).run st = (.error e, st) := by
  rcases setInterest_cases k ops st with ⟨e, herror, -⟩ | ⟨key, hk, hops, hrun⟩
  · exact .inr ⟨e, herror⟩
  · obtain ⟨st', hput, hledger⟩ := putEvents_hands k (Readiness.acceptEvents ops)
      (st.modifyKey k fun key => { key with interest := ops })
    have haccount := ledger_account_of hk
    have hstore := h.putAccount (b := { key.account with interest := ops }) haccount
      ⟨hops, (h.proper k _ haccount).ready⟩ rfl
    rw [hrun, hput, hledger, ledger_modifyKey_of hk]
    exact .inl ⟨rfl, hstore.hand (Ledger.putAccount_self _ _ _) _⟩

theorem ledger_enrolled (c : ListenerId) (hx : st.selectors[s]? = some x) :
    (st.enrolled c s).ledger = (st.ledger.putAccount (st.keys.length + 1) ⟨s, 0, 0⟩).putSheet s
      { x.sheet with masks := x.sheet.masks ++ [(st.keys.length + 1, 0)] } := by
  have hkey := st.ledger_append_key { selector := s, channel := c }
  have hx' :
      ({ st with keys := st.keys ++ [{ selector := s, channel := c }] } : Station).selectors[s]? =
      some x := hx
  have hsheet := ledger_modifySelector_of hx'
    fun x => { x with registered := x.registered ++ [(st.keys.length + 1, (0 : Mask))] }
  exact hsheet.trans (congrArg (fun g : Ledger => g.putSheet s _) hkey)

/-- A registration has stored an interest set and handed its mask over, or it has failed. -/
def Registers (stored handed : KeyId → Mask) (ops : Mask) :
    Except Failure KeyId × Station → Prop
  | (.ok k, st) => st.ledger.Follows (Function.update stored k ops)
      (Function.update handed k (Readiness.acceptEvents ops))
  | (.error _, st) => st.ledger.Follows stored handed

theorem registers_setInterest (h : st.ledger.Follows stored handed) (k : KeyId) (ops : Mask) :
    Registers stored handed ops ((do setInterest k ops; return k : Action KeyId).run st) := by
  rw [run_bind]
  rcases follows_setInterest h k ops with ⟨hok, hfollows⟩ | ⟨e, herror⟩
  · generalize (setInterest k ops).run st = r at hok hfollows
    obtain ⟨r, st'⟩ := r
    cases hok
    exact hfollows
  · rw [herror]
    exact h

theorem registers_register (h : st.ledger.Follows stored handed) (c : ListenerId)
    (s : SelectorId) (ops : Mask) : Registers stored handed ops ((register c s ops).run st) := by
  cases hl : st.listeners[c]? with
  | none =>
    rw [register, run_listener_bind_none hl]
    exact h
  | some l =>
    cases hx : st.selectors[s]? with
    | none =>
      rw [register, run_listener_bind hl]
      simp only [run_bind, run_get, run_keyFor hl, run_selector, hx]
      exact h
    | some x =>
      rw [run_register hl hx]
      split
      case h_1 e _ => exact h
      case h_2 k _ => exact registers_setInterest h k ops
      case h_3 hadmission =>
        refine registers_setInterest ?_ _ ops
        rw [ledger_enrolled c hx]
        exact h.enrol (by simp [ledger, key?]) (ledger_sheet_of hx)
          (Core.admission_create hadmission).2.2.1

end Action

end PolledChannels
