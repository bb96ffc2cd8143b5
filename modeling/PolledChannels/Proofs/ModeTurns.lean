import PolledChannels.Proofs.ModeRaces

/-!
# What a move does in a race over the blocking mode

After its own access, a call relies on what holds then. A call is in at most one change of the
mode, and the change goes on from where it stands; whether the mode is set and not yet written down
changes where it is set and where it is written down, and nowhere else.
-/

namespace PolledChannels

open PolledChannels.Action

variable {a a' : Agent} {b signalled : Bool} {q : ModePoint} {me : ThreadId}

/-! ## What a call relies on after its own access -/

section Steps

variable {c : ListenerId} {st st' : Station} {l l' : Listener} {given given' : Bool}
    {target : Option ThreadId} {p p' : ShutPoint}

/-- The access by which a close shuts the channel. -/
theorem ShutPoint.closed_of_step (hp : p.knows = false)
    (hl : st.listeners[c]? = some l) (hrun : (p.step c target).run st = (.ok p', st'))
    (hl' : st'.listeners[c]? = some l') :
    l'.core.isOpen = false := by
  cases p with
  | flip =>
    rw [step, run_listener_bind hl] at hrun
    split at hrun
    · cases hrun
      cases (Station.listener_modifyListener hl _).symm.trans hl'
      rfl
    · next hclosed =>
      cases hrun
      cases hl.symm.trans hl'
      exact Bool.eq_false_iff.mpr hclosed
  | credit t => cases hp
  | rest point =>
    cases point with
    | shut =>
      obtain ⟨point', st₁, hshut, hrest⟩ := of_run_bind hrun
      cases hrest
      rw [ClosePoint.step, run_listener_bind hl] at hshut
      unfold Core.shut? at hshut
      cases hopen : l.core.isOpen with
      | false =>
        simp only [hopen] at hshut
        cases hshut
        cases hl.symm.trans hl'
        exact hopen
      | true =>
        simp only [hopen] at hshut
        cases hshut
        cases (Station.listener_modifyListener hl _).symm.trans hl'
        rfl
    | _ => cases hp

theorem ShutPoint.Relies.after (h : p.Relies (st.facts l given)) (hl : st.listeners[c]? = some l)
    (hl' : st'.listeners[c]? = some l') (hclosed : l.core.isOpen = false → l'.core.isOpen = false)
    (hrun : (p.step c target).run st = (.ok p', st')) : p'.Relies (st'.facts l' given') := by
  intro hknows
  cases hp : p.knows with
  | true => exact hclosed (h hp)
  | false => exact closed_of_step hp hl hrun hl'

theorem LeavePoint.Relies.after {k : KeyId} {p p' : LeavePoint}
    (h : p.Relies (st.facts l given)) (hl : st.listeners[c]? = some l)
    (hl' : st'.listeners[c]? = some l') (hclosed : l.core.isOpen = false → l'.core.isOpen = false)
    (hrun : (p.step c k).run st = (.ok p', st')) : p'.Relies (st'.facts l' given') := by
  cases p with
  | strike =>
    rw [step, run_listener_bind hl] at hrun
    cases hrun
    trivial
  | void | ended outcome =>
    cases hrun
    trivial
  | test =>
    rw [step, run_listener_bind hl] at hrun
    dsimp only at hrun
    split at hrun
    · next htest =>
      cases hrun
      have hshut : l.core.isOpen = false := by
        simpa using (Bool.and_eq_true_iff.mp htest).2
      exact hclosed hshut
    · cases hrun
      trivial
  | kill point =>
    cases point with
    | ended event released =>
      cases event with
      | none | some event =>
        cases hrun
        trivial
    | _ =>
      obtain ⟨point', -, rfl⟩ := of_run_map hrun
      exact hclosed h
  | tell event released =>
    obtain ⟨_, -, rfl⟩ := of_run_map hrun
    trivial

theorem RegisterPoint.Relies.after {s : SelectorId} {ops : Mask} {p p' : RegisterPoint}
    (h : p.Relies (st.facts l given)) (hl : st.listeners[c]? = some l)
    (hblocking : l'.core.blocking = l.core.blocking)
    (hrun : (p.step c s ops).run st = (.ok p', st')) : p'.Relies (st'.facts l' given') := by
  have hrest (hfree : l.core.blocking = false) : p'.Relies (st'.facts l' given') := by
    cases p' with
    | enter | ended outcome => trivial
    | _ => exact hblocking.trans hfree
  cases p with
  | enter =>
    rw [step, run_listener_bind hl, Core.admission] at hrun
    split at hrun
    · cases hrun
      trivial
    · next admission hadmitted =>
      cases hblocks : l.core.blocking with
      | false => exact hrest hblocks
      | true =>
        rw [hblocks] at hadmitted
        split at hadmitted
        · cases hadmitted
        split at hadmitted
        · cases hadmitted
        · cases hadmitted
  | ended outcome =>
    cases hrun
    trivial
  | _ => exact hrest h

theorem Guard.Call.step_of_takes {call : Guard.Call} (hcall : call.takes = true) (word : UInt64) :
    (Guard.step word call).2.1 = .held ∨ (Guard.step word call).2.1 = .refused ∨
      ∃ seen, (Guard.step word call).2.1 = .claim seen := by
  have hweigh : Guard.weigh word = .refused ∨ ∃ seen, Guard.weigh word = .claim seen :=
    (Guard.weigh_cases word).imp_right fun hclaim => ⟨word, hclaim.1⟩
  cases call with
  | look => exact .inr hweigh
  | claim seen =>
    rw [Guard.step]
    split
    · exact .inl rfl
    · exact .inr hweigh
  | _ => cases hcall

/-- A use that was the last one was the last one of a closed descriptor. -/
theorem Guard.isClosed_of_last {word : UInt64} (h : word = Guard.closedBit + Guard.oneUse) :
    Guard.isClosed word = true := by
  subst h
  rfl

theorem Agent.stores_of_change (h : a.change? = some (b, q)) (hq : q ≠ .store) :
    a.stores = none := by
  rw [stores, h]
  cases q with
  | store => exact absurd rfl hq
  | _ => rfl

theorem ModePoint.Relies.after {block : Bool} {p p' : ModePoint}
    (h : p.Relies (st.facts l given) block) (hl : st.listeners[c]? = some l)
    (hmarked : Guard.isClosed l.descriptor.word = true → l.core.isOpen = false)
    (hdrift : p ≠ .store → (st.facts l given).Drifts (st'.facts l' given') True)
    (hrun : (p.step c block).run st = (.ok p', st')) : p'.Relies (st'.facts l' given') block := by
  have hkept (hp : p ≠ .store) (h : (st.facts l given).blocking = !block ∧
      (block = true → ¬ (st.facts l given).keyed)) :
      (st'.facts l' given').blocking = !block ∧
      (block = true → ¬ (st'.facts l' given').keyed) :=
    ⟨((hdrift hp).blocking trivial).trans h.1, fun hb hk =>
      h.2 hb ((hdrift hp).keyed trivial hk)⟩
  cases p with
  | enter =>
    have hp : (ModePoint.enter) ≠ .store := by rintro ⟨⟩
    rw [step, run_listener_bind hl] at hrun
    dsimp only at hrun
    split at hrun
    · cases hrun
      trivial
    split at hrun
    · cases hrun
      trivial
    next hdiffers =>
      have hflag : (st.facts l given).blocking = !block := by
        show l.core.blocking = !block
        cases hb : l.core.blocking <;> cases block <;> simp_all
      split at hrun
      · cases hrun
        exact ((hdrift hp).blocking trivial).trans hflag
      · next hblock =>
        cases hrun
        exact ⟨hkept hp ⟨hflag, fun hb => absurd hb hblock⟩, rfl⟩
  | askKeys =>
    rw [step, run_listener_bind hl, run_bind, run_get] at hrun
    dsimp only at hrun
    split at hrun
    · cases hrun
      trivial
    · next hnone =>
      cases hrun
      refine ⟨hkept (by rintro ⟨⟩) ⟨h, fun _ => ?_⟩, rfl⟩
      rintro ⟨k, hk, hvalid⟩
      exact hnone (List.any_eq_true.mpr ⟨k, hk, hvalid⟩)
  | take call =>
    obtain ⟨rfl, -⟩ := of_run_access hl hrun
    rcases Guard.Call.step_of_takes h.2 l.descriptor.word with hnext | hnext |
      ⟨seen, hnext⟩ <;> rw [hnext]
    · exact hkept (by rintro ⟨⟩) h.1
    · trivial
    · exact ⟨hkept (by rintro ⟨⟩) h.1, rfl⟩
  | set =>
    rw [step, run_listener_bind hl, run_network_bind] at hrun
    cases hrun
    exact hkept (by rintro ⟨⟩) h
  | leave r =>
    obtain ⟨rfl, -⟩ := of_run_access hl hrun
    rw [Guard.step, Guard.afterLeave]
    split
    · next hlast =>
      exact ⟨hkept (by rintro ⟨⟩) h,
        (hdrift (by rintro ⟨⟩)).closed (hmarked (Guard.isClosed_of_last hlast))⟩
    · cases r with
      | ok _ => exact hkept (by rintro ⟨⟩) h
      | error e => trivial
  | give r =>
    obtain ⟨_, -, rfl⟩ := of_run_map hrun
    cases r with
    | ok _ => exact hkept (by rintro ⟨⟩) h.1
    | error e => trivial
  | store | ended outcome =>
    cases hrun
    trivial

theorem AcceptPoint.relies_tried {f : Facts} {a : Attempt} (h : a.Relies f) :
    (tried a).Relies f := by
  cases a with
  | interrupted => trivial
  | _ => exact h

/-- What an accept took has a number that was not given out before. -/
theorem AcceptPoint.relies_enterCall {number : FileNumber} {p' : AcceptPoint}
    (hbelow : given = false → l'.descriptor.number < st.network.nextNumber)
    (hrun : (enterCall number).run st = (.ok p', st')) : p'.Relies (st'.facts l' given) := by
  generalize hcall : (Net.accept number).run st.network = answer
  obtain ⟨r, n⟩ := answer
  have hnetwork : (network (Net.accept number)).run st = (.ok r, { st with network := n }) := by
    rw [run_network, hcall]
  rw [enterCall, run_bind_ok hnetwork] at hrun
  split at hrun
  · cases hrun
    trivial
  · next taken remote =>
    cases hrun
    show given = true ∨ taken ≠ l'.descriptor.number
    cases hgiven : given with
    | true => exact .inl rfl
    | false =>
      have hnumber := Net.accept_number hcall
      have hlt := hbelow hgiven
      exact .inr fun hsame => absurd (hsame ▸ hlt) (by rw [hnumber]; exact Int.lt_irrefl _)
  · cases hrun
    trivial

section Accesses

variable (hl : st.listeners[c]? = some l) (hl' : st'.listeners[c]? = some l')
  (hmarked : Guard.isClosed l.descriptor.word = true → l.core.isOpen = false)
  (hbelow : given' = false → l'.descriptor.number < st.network.nextNumber)
  (hdrift : (st.facts l given).Drifts (st'.facts l' given') False)

include hl hl' hmarked hbelow hdrift

theorem AcceptPoint.Relies.after {p p' : AcceptPoint} (h : p.Relies (st.facts l given))
    (hrun : (p.step me c signalled).run st = (.ok p', st')) : p'.Relies (st'.facts l' given') := by
  cases p with
  | turn | back answer | ended answer =>
    cases hrun
    trivial
  | askOpen | askBound | askAgain | again | test a =>
    obtain ⟨-, -, -, ⟨-, rfl⟩ | ⟨-, rfl⟩⟩ := of_run_ask hrun <;> trivial
  | register =>
    obtain ⟨st₁, _, hget, hrun⟩ := of_run_bind hrun
    cases hget
    obtain ⟨_, _, hset, hrun⟩ := of_run_bind hrun
    split at hrun <;> cases hrun <;> trivial
  | tell =>
    obtain ⟨_, -, rfl⟩ := of_run_map hrun
    rintro ⟨⟩
  | own point =>
    cases hover : point.isOver with
    | true =>
      obtain ⟨outcome, rfl⟩ := ShutPoint.eq_of_isOver hover
      cases hrun
      trivial
    | false =>
      rw [step_own hover] at hrun
      obtain ⟨point', hpoint, rfl⟩ := of_run_map hrun
      exact ShutPoint.Relies.after h hl hl' hdrift.closed hpoint
  | store =>
    cases hrun
    rfl
  | take call =>
    obtain ⟨rfl, -⟩ := of_run_access hl hrun
    rcases Guard.Call.step_of_takes h l.descriptor.word with hnext | hnext |
      ⟨seen, hnext⟩ <;> rw [hnext]
    · trivial
    · trivial
    · rfl
  | mode =>
    rw [step, run_listener_bind hl, run_network_bind] at hrun
    split at hrun <;> cases hrun <;> trivial
  | poll =>
    rw [step, run_listener_bind hl, run_network_bind] at hrun
    split at hrun
    · cases hrun
      show Attempt.Relies _ _
      split <;> trivial
    · split at hrun <;> cases hrun <;> trivial
  | request =>
    rw [step, run_listener_bind hl] at hrun
    exact relies_enterCall hbelow hrun
  | inside =>
    rw [step, run_listener_bind hl] at hrun
    dsimp only at hrun
    split at hrun
    · cases hrun
      trivial
    · rw [run_bind, run_get] at hrun
      dsimp only at hrun
      split at hrun
      · cases hrun
        trivial
      · exact relies_enterCall hbelow hrun
  | fault e =>
    rw [step, run_listener_bind hl] at hrun
    cases hrun
    show Attempt.Relies _ _
    unfold classify
    split
    · trivial
    split
    · trivial
    split <;> trivial
  | leave a =>
    obtain ⟨rfl, -⟩ := of_run_access hl hrun
    rw [Guard.step, Guard.afterLeave]
    split
    · next hlast =>
      exact ⟨Attempt.Relies.drift h hdrift,
        hdrift.closed (hmarked (Guard.isClosed_of_last hlast))⟩
    · exact relies_tried (Attempt.Relies.drift h hdrift)
  | give a =>
    obtain ⟨_, -, rfl⟩ := of_run_map hrun
    exact relies_tried (h.1.drift hdrift)
  | clear a | exit a =>
    cases hrun
    exact Attempt.Relies.drift h hdrift
  | hear a =>
    have hheard (mine : Bool) : (heard mine a).Relies (st'.facts l' given') := by
      cases a with
      | taken number remote => cases mine <;> exact hdrift.foreign number h
      | _ => cases mine <;> trivial
    rw [step, run_listener_bind hl] at hrun
    split at hrun
    · have hnext : p' = heard true a := by
        cases hrun
        rfl
      rw [hnext]
      exact hheard true
    · have hnext : p' = heard false a := by
        cases hrun
        rfl
      rw [hnext]
      exact hheard false
  | drop number | keep number remote =>
    obtain ⟨_, -, rfl⟩ := of_run_map hrun
    trivial

theorem ViewPoint.Relies.after {p p' : ViewPoint} (h : p.Relies (st.facts l given))
    (hquiet : (Agent.view me p).stores = none →
      (st.facts l given).Drifts (st'.facts l' given') True)
    (hrun : (p.step me c signalled).run st = (.ok p', st')) : p'.Relies (st'.facts l' given') := by
  have hpolled (deadline : Nat) (r : Except IoError Bool) :
      (polled deadline r).Relies (st'.facts l' given') := by
    rcases r with e | _ | _ <;> trivial
  cases p with
  | enter | askBound | askMode | look deadline | askOpen answer =>
    obtain ⟨-, -, -, ⟨-, rfl⟩ | ⟨-, rfl⟩⟩ := of_run_ask hrun <;> trivial
  | askTimeout =>
    rw [step, run_listener_bind hl] at hrun
    dsimp only at hrun
    split at hrun <;> cases hrun <;> trivial
  | loosen timeout point =>
    have h : point.Relies (st.facts l given) false := h
    cases point with
    | ended outcome =>
      cases hrun
      cases outcome <;> trivial
    | _ =>
      obtain ⟨point', hpoint, rfl⟩ := of_run_map hrun
      exact ModePoint.Relies.after h hl hmarked
        (fun hp => hquiet (Agent.stores_of_change rfl hp)) hpoint
  | accept caller point =>
    have h : point.Relies (st.facts l given) := h
    cases point with
    | ended answer =>
      have hanswered (deadline : Nat) :
          (answered deadline answer).Relies (st'.facts l' given') := by
        rcases answer with f | _ | i <;> trivial
      have hnext : p' = returned st.now answer caller := by
        cases hrun
        rfl
      rw [hnext]
      cases caller with
      | channel | view => trivial
      | timed timeout | again deadline => exact hanswered _
    | _ =>
      obtain ⟨point', hpoint, rfl⟩ := of_run_map hrun
      exact AcceptPoint.Relies.after hl hl' hmarked hbelow hdrift h hpoint
  | clock deadline =>
    rw [step, run_bind, run_get] at hrun
    dsimp only at hrun
    split at hrun
    · cases hrun
      trivial
    · cases hrun
      rfl
  | take deadline call =>
    obtain ⟨rfl, -⟩ := of_run_access hl hrun
    rcases Guard.Call.step_of_takes h l.descriptor.word with hnext | hnext |
      ⟨seen, hnext⟩ <;> rw [hnext]
    · trivial
    · trivial
    · rfl
  | poll deadline =>
    rw [step, run_listener_bind hl, run_network_bind] at hrun
    have hreported (r : Except IoError Mask) :
        (reported deadline r).Relies (st'.facts l' given') := by
      unfold reported
      split
      · trivial
      · split <;> trivial
    have hnext :
        p' = reported deadline ((Net.poll l.descriptor.number Native.input).run st.network).1 := by
      cases hrun
      rfl
    rw [hnext]
    exact hreported _
  | inside deadline =>
    rw [step, run_listener_bind hl, run_bind, run_get] at hrun
    dsimp only at hrun
    split at hrun
    · cases hrun
      trivial
    split at hrun
    · cases hrun
      trivial
    split at hrun <;> cases hrun <;> trivial
  | leave deadline r =>
    obtain ⟨rfl, -⟩ := of_run_access hl hrun
    rw [Guard.step, Guard.afterLeave]
    split
    · next hlast => exact hdrift.closed (hmarked (Guard.isClosed_of_last hlast))
    · exact hpolled deadline r
  | give deadline r =>
    obtain ⟨_, -, rfl⟩ := of_run_map hrun
    exact hpolled deadline r
  | fasten answer point =>
    have h : point.Relies (st.facts l given) true := h
    cases point with
    | ended outcome =>
      cases hrun
      cases outcome with
      | ok _ => trivial
      | error f => cases answer <;> trivial
    | _ =>
      obtain ⟨point', hpoint, rfl⟩ := of_run_map hrun
      exact ModePoint.Relies.after h hl hmarked
        (fun hp => hquiet (Agent.stores_of_change rfl hp)) hpoint
  | drop i f =>
    obtain ⟨_, -, rfl⟩ := of_run_map hrun
    trivial
  | ended answer =>
    cases hrun
    trivial

/-- After its own access a call relies on what holds then. -/
theorem Agent.Relies.after (h : a.Relies (st.facts l given))
    (hblocking : a.stores = none → l'.core.blocking = l.core.blocking)
    (hquiet : a.stores = none → a.lists = false →
      (st.facts l given).Drifts (st'.facts l' given') True)
    (hrun : (a.step c signalled).run st = (.ok a', st')) : a'.Relies (st'.facts l' given') := by
  cases a with
  | register s ops point =>
    obtain ⟨point', hpoint, rfl⟩ := of_run_map hrun
    exact RegisterPoint.Relies.after h hl (hblocking rfl) hpoint
  | configure block point =>
    obtain ⟨point', hpoint, rfl⟩ := of_run_map hrun
    exact ModePoint.Relies.after h hl hmarked
      (fun hp => hquiet (stores_of_change rfl hp) rfl) hpoint
  | cancel point =>
    obtain ⟨point', -, rfl⟩ := of_run_map hrun
    trivial
  | deregister k point =>
    obtain ⟨point', hpoint, rfl⟩ := of_run_map hrun
    exact LeavePoint.Relies.after h hl hl' hdrift.closed hpoint
  | close target point =>
    obtain ⟨point', hpoint, rfl⟩ := of_run_map hrun
    exact ShutPoint.Relies.after h hl hl' hdrift.closed hpoint
  | accept me point =>
    obtain ⟨point', hpoint, rfl⟩ := of_run_map hrun
    exact AcceptPoint.Relies.after hl hl' hmarked hbelow hdrift h hpoint
  | view me point =>
    obtain ⟨point', hpoint, rfl⟩ := of_run_map hrun
    exact ViewPoint.Relies.after hl hl' hmarked hbelow hdrift h (fun hs => hquiet hs rfl) hpoint

end Accesses

end Steps

/-! ## Changes of the mode inside calls -/

namespace Action

variable {α β : Type} {P : β → Prop}

/-- What the operation answers has the property. -/
def Yields (P : α → Prop) (a : Action α) : Prop :=
  ∀ st v st', a.run st = (.ok v, st') → P v

theorem yields_pure {v : β} (h : P v) : Yields P (pure v : Action β) := by
  rintro st _ st' ⟨⟩
  exact h

theorem yields_bind {a : Action α} {f : α → Action β} (hf : ∀ v, Yields P (f v)) :
    Yields P (a >>= f) := by
  intro st v st' hrun
  obtain ⟨u, st₁, -, hrun⟩ := of_run_bind hrun
  exact hf u st₁ v st' hrun

theorem yields_ite {v w : β} (hv : P v) (hw : P w) :
    Yields P (if b then return v else return w : Action β) := by
  split
  · exact yields_pure hv
  · exact yields_pure hw

end Action

section Changes

variable {c : ListenerId} {st st' : Station} {signalled : Bool} {q' : ModePoint}

/-- An accept through the view that is in no mode change may at most begin one. -/
theorem ViewPoint.yields_step {p : ViewPoint} (hp : (Agent.view me p).change? = none) :
    Yields (fun p' => ∀ b q, (Agent.view me p').change? = some (b, q) → q = .enter)
      (p.step me c signalled) := by
  have hidle {p' : ViewPoint} (hp' : (Agent.view me p').change? = none) (b : Bool) (q : ModePoint)
      (hq : (Agent.view me p').change? = some (b, q)) : q = .enter := by
    cases hp'.symm.trans hq
  have hpolled (deadline : Nat) (r : Except IoError Bool) :
      (Agent.view me (polled deadline r)).change? = none := by
    rcases r with e | _ | _ <;> rfl
  cases p with
  | enter | askBound | askMode | look deadline =>
    exact yields_bind fun l => yields_ite (hidle rfl) (hidle rfl)
  | askTimeout =>
    refine yields_bind fun l => ?_
    dsimp only
    split
    · exact yields_pure (hidle rfl)
    · refine yields_pure fun b q hq => ?_
      cases hq
      rfl
  | loosen timeout point | fasten answer point => cases hp
  | accept caller point =>
    cases point with
    | ended answer =>
      have hanswered (deadline : Nat) :
          (Agent.view me (answered deadline answer)).change? = none := by
        rcases answer with f | _ | i <;> rfl
      refine yields_bind fun st => yields_pure (hidle ?_)
      cases caller with
      | channel | view => rfl
      | timed timeout | again deadline => exact hanswered _
    | _ => exact yields_bind fun _ => yields_pure (hidle rfl)
  | clock deadline =>
    refine yields_bind fun st => ?_
    split <;> exact yields_pure (hidle rfl)
  | take deadline call =>
    refine yields_bind fun r => yields_pure (hidle ?_)
    cases r.1 <;> rfl
  | poll deadline =>
    refine yields_bind fun l => yields_bind fun r => yields_pure (hidle ?_)
    unfold reported
    split
    · rfl
    · split <;> rfl
  | inside deadline =>
    refine yields_bind fun l => yields_bind fun st => ?_
    split
    · exact yields_pure (hidle rfl)
    split
    · exact yields_pure (hidle rfl)
    split <;> exact yields_pure (hidle rfl)
  | leave deadline r =>
    refine yields_bind fun x => yields_pure (hidle ?_)
    unfold left
    split
    · rfl
    · exact hpolled deadline r
  | give deadline r => exact yields_bind fun _ => yields_pure (hidle (hpolled deadline r))
  | askOpen answer =>
    refine yields_bind fun l => yields_ite (fun b q hq => ?_) (hidle rfl)
    cases hq
    rfl
  | drop i f => exact yields_bind fun _ => yields_pure (hidle rfl)
  | ended answer => exact yields_pure (hidle rfl)

/-- A call that is in a mode change takes the next access of that change. -/
theorem Agent.change_step (ha : a.change? = some (b, q)) (hover : q.isOver = false)
    (hrun : (a.step c signalled).run st = (.ok a', st')) :
    ∃ q', a'.change? = some (b, q') ∧ (q.step c b).run st = (.ok q', st') := by
  cases a with
  | configure block point =>
    cases ha
    obtain ⟨q', hq, rfl⟩ := of_run_map hrun
    exact ⟨q', rfl, hq⟩
  | view me point =>
    cases point with
    | loosen timeout point =>
      cases ha
      obtain ⟨point', hpoint, rfl⟩ := of_run_map hrun
      rw [ViewPoint.step_loosen me signalled timeout hover] at hpoint
      obtain ⟨q', hq, rfl⟩ := of_run_map hpoint
      exact ⟨q', rfl, hq⟩
    | fasten answer point =>
      cases ha
      obtain ⟨point', hpoint, rfl⟩ := of_run_map hrun
      rw [ViewPoint.step_fasten me signalled answer hover] at hpoint
      obtain ⟨q', hq, rfl⟩ := of_run_map hpoint
      exact ⟨q', rfl, hq⟩
    | _ => cases ha
  | _ => cases ha

/-- A call that was in no mode change, or whose change was over, may at most begin one. -/
theorem Agent.change_begins (ha : ∀ b q, a.change? = some (b, q) → q.isOver = true)
    (hrun : (a.step c signalled).run st = (.ok a', st')) (ha' : a'.change? = some (b, q')) :
    q' = .enter ∨ q'.isOver = true := by
  cases a with
  | configure block point =>
    have hover : point.isOver = true := ha block point rfl
    obtain ⟨point', hpoint, rfl⟩ := of_run_map hrun
    cases ha'
    rw [ModePoint.step_over hover] at hpoint
    cases hpoint
    exact .inr hover
  | view me point =>
    obtain ⟨point', hpoint, rfl⟩ := of_run_map hrun
    cases point with
    | loosen timeout point =>
      cases point with
      | ended outcome =>
        cases hpoint
        rcases outcome with f | _ <;> cases ha'
      | _ => cases ha _ _ rfl
    | fasten answer point =>
      cases point with
      | ended outcome =>
        cases hpoint
        rcases outcome with f | _
        · cases answer <;> cases ha'
        · cases ha'
      | _ => cases ha _ _ rfl
    | _ => exact .inl (ViewPoint.yields_step rfl _ _ _ hpoint b q' ha')
  | register s ops point | cancel point | deregister k point | close target point
  | accept me point =>
    obtain ⟨point', -, rfl⟩ := of_run_map hrun
    cases ha'

/-- Whether the mode is set changes where it is set and where it is written down, and nowhere
else. -/
theorem ModePoint.applies_step {block : Bool} {l : Listener}
    (hl : st.listeners[c]? = some l) (hset : q ≠ .set) (hstore : q ≠ .store)
    (hrun : (q.step c block).run st = (.ok q', st')) : q'.applies = q.applies := by
  have hsettled (r : IoResult) : (settled r).applies = (leave r).applies := by
    cases r <;> rfl
  cases q with
  | enter =>
    rw [step, run_listener_bind hl] at hrun
    dsimp only at hrun
    split at hrun
    · cases hrun
      rfl
    split at hrun
    · cases hrun
      rfl
    split at hrun <;> cases hrun <;> rfl
  | askKeys =>
    rw [step, run_listener_bind hl, run_bind, run_get] at hrun
    dsimp only at hrun
    split at hrun <;> cases hrun <;> rfl
  | take call =>
    obtain ⟨r, -, rfl⟩ := of_run_map hrun
    cases r.1 <;> rfl
  | set => exact absurd rfl hset
  | leave r =>
    obtain ⟨x, -, rfl⟩ := of_run_map hrun
    unfold left
    split
    · cases r <;> rfl
    · exact hsettled r
  | give r =>
    obtain ⟨x, -, rfl⟩ := of_run_map hrun
    rw [hsettled r]
    cases r <;> rfl
  | store => exact absurd rfl hstore
  | ended outcome =>
    cases hrun
    rfl

namespace Agent

variable {a a' : Agent} {b : Bool} {q : ModePoint} {l : Listener}

theorem applied?_of_change (h : a.change? = some (b, q)) :
    a.applied? = if q.applies then some b else none := by
  rw [applied?, h]

/-- In no change, at the beginning of one or at its end, no mode is set. -/
theorem applied?_of_idle (h : ∀ b q, a.change? = some (b, q) → q = .enter ∨ q.isOver = true) :
    a.applied? = none := by
  cases hchange : a.change? with
  | none => rw [applied?, hchange]
  | some x =>
    obtain ⟨b, q⟩ := x
    rw [applied?_of_change hchange]
    rcases h b q hchange with rfl | hover
    · rfl
    · cases q with
      | ended outcome => rfl
      | _ => cases hover

theorem change_of_stores (h : a.stores = some b) : a.change? = some (b, .store) := by
  unfold stores at h
  split at h
  · next hchange =>
    cases h
    exact hchange
  · cases h

theorem change_of_sets (h : a.sets = true) : ∃ b, a.change? = some (b, .set) := by
  unfold sets at h
  split at h
  · next b hchange => exact ⟨b, hchange⟩
  · cases h

theorem change_of_applied (h : a.applied? = some b) :
    ∃ q, a.change? = some (b, q) ∧ q.applies = true := by
  unfold applied? at h
  split at h
  · next block q hchange =>
    split at h
    · next happlies =>
      cases h
      exact ⟨q, hchange, happlies⟩
    · cases h
  · cases h

theorem applied?_after (hl : st.listeners[c]? = some l) (hsets : a.sets = false)
    (hstores : a.stores = none)
    (hrun : (a.step c signalled).run st = (.ok a', st')) : a'.applied? = a.applied? := by
  by_cases hidle : ∀ b q, a.change? = some (b, q) → q.isOver = true
  · rw [applied?_of_idle fun b q hq => change_begins hidle hrun hq,
      applied?_of_idle fun b q hq => .inr (hidle b q hq)]
  · simp only [Classical.not_forall, Bool.not_eq_true] at hidle
    obtain ⟨b, q, hchange, hover⟩ := hidle
    obtain ⟨q', hchange', hq⟩ := change_step hchange hover hrun
    have happlies : q'.applies = q.applies := by
      refine ModePoint.applies_step hl ?_ ?_ hq
      · rintro rfl
        rw [sets, hchange] at hsets
        cases hsets
      · rintro rfl
        rw [stores, hchange] at hstores
        cases hstores
    rw [applied?_of_change hchange', applied?_of_change hchange, happlies]

theorem applied?_after_store (hl : st.listeners[c]? = some l) (hstores : a.stores = some b)
    (hrun : (a.step c signalled).run st = (.ok a', st')) :
    a.applied? = some b ∧ a'.applied? = none ∧
      ∀ l', st'.listeners[c]? = some l' → l'.core.blocking = b := by
  have hchange : a.change? = some (b, .store) := change_of_stores hstores
  obtain ⟨q', hchange', hq⟩ := change_step hchange rfl hrun
  cases hq
  refine ⟨by rw [applied?_of_change hchange]; rfl, by rw [applied?_of_change hchange']; rfl, ?_⟩
  intro l' hl'
  cases (Station.listener_modifyListener hl _).symm.trans hl'
  rfl

theorem applied?_after_set (hl : st.listeners[c]? = some l) (hsets : a.sets = true)
    (hrun : (a.step c signalled).run st = (.ok a', st')) :
    a.applied? = none ∧
      (∃ b, a'.applied? = some b ∧ st'.network.mode? l.descriptor.number = some b ∨
        a'.applied? = none ∧
          st'.network.mode? l.descriptor.number = st.network.mode? l.descriptor.number) := by
  obtain ⟨b, hchange⟩ := change_of_sets hsets
  obtain ⟨q', hchange', hq⟩ := change_step hchange rfl hrun
  refine ⟨by rw [applied?_of_change hchange]; rfl, b, ?_⟩
  generalize hset : (Net.setBlocking l.descriptor.number b).run st.network = answer
  obtain ⟨r, n⟩ := answer
  rw [ModePoint.step, run_listener_bind hl, run_network_bind, hset] at hq
  cases hq
  rcases Net.setBlocking_cases hset with ⟨rfl, hmode⟩ | ⟨⟨e, rfl⟩, hmode⟩
  · exact .inl ⟨by rw [applied?_of_change hchange']; rfl, hmode⟩
  · exact .inr ⟨by rw [applied?_of_change hchange']; rfl, hmode⟩

end Agent

end Changes
end PolledChannels
