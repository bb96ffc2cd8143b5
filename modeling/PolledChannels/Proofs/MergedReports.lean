import PolledChannels.Proofs.Visits

/-!
# Reports merged one after the other

A report of a key that was selected before merges into its ready set: pending connections add to the
set, an error or a hang-up puts the interest set in its place. Yet reports that come one after the
other come to the same as one report of all their events, in the ready set and in whether something
became ready, and reports of a descriptor that is not open may stand between them.
-/

namespace PolledChannels

open PolledChannels.Action Station

namespace Mask

theorem meets_or (a b m : Mask) : (a ||| b).meets m = (a.meets m || b.meets m) := by
  have hor : (a ||| b) &&& m = 0 ↔ a &&& m = 0 ∧ b &&& m = 0 := by
    rw [BitVec.and_or_distrib_right]
    exact BitVec.or_eq_zero_iff
  cases ha : a.meets m <;> cases hb : b.meets m <;> simp_all [meets]

theorem or_within (a b m : Mask) : (a ||| b).within m = (a.within m && b.within m) := by
  have hmeets (a : Mask) : a.within m = !a.meets (~~~m) := by simp [within, meets, bne]
  simp [hmeets, meets_or]

theorem or_eq_of_within {a b : Mask} (h : b.within a = true) : a ||| b = a := by
  have hnone : b &&& ~~~a = 0 := by simpa [within] using h
  ext i hi
  have hbit : (b[i] && !a[i]) = false := by simpa using congrArg (fun m : Mask => m[i]) hnone
  rw [BitVec.getElem_or]
  cases ha : a[i] <;> simp_all

theorem accept_within {a : Mask} (h : a.meets Operation.accept = true) :
    Operation.accept.within a = true := by
  have hbit (m : Mask) : m &&& Operation.accept = if m[4] then Operation.accept else 0 :=
    m.and_twoPow 4
  have hset : a[4] = true := by
    by_contra hclear
    simp [meets, hbit, hclear] at h
  rw [within, BitVec.and_comm, hbit]
  simp [hset]

end Mask

namespace Readiness

/-- The ready set that a valid report of a selected key leaves. -/
def merge (interest ready events : Mask) : Mask :=
  if events.meets (Native.failed ||| Native.hangUp) then interest
  else if events.meets Native.input &&
    interest.meets Operation.accept then ready ||| Operation.accept
  else ready

variable (interest ready a b : Mask)

theorem merge_or : merge interest (merge interest ready a) b = merge interest ready (a ||| b) := by
  simp only [merge, Mask.meets_or]
  cases b.meets (Native.failed ||| Native.hangUp) with
  | true => simp
  | false =>
    cases haccept : interest.meets Operation.accept with
    | false => cases a.meets (Native.failed ||| Native.hangUp) <;> simp
    | true =>
      have hsame := Mask.or_eq_of_within (Mask.accept_within haccept)
      cases a.meets (Native.failed ||| Native.hangUp) <;> cases a.meets Native.input <;>
        cases b.meets Native.input <;> simp [BitVec.or_assoc, hsame]

/-- Something becomes ready by the two exactly if it does by one of them. -/
theorem merge_or_within : (merge interest ready (a ||| b)).within ready =
    ((merge interest ready a).within ready &&
      (merge interest ready (a ||| b)).within (merge interest ready a)) := by
  simp only [merge, Mask.meets_or]
  cases a.meets (Native.failed ||| Native.hangUp) with
  | true => simp [Mask.within_self]
  | false =>
    cases hin : a.meets Native.input && interest.meets Operation.accept with
    | false => simp [Mask.within_self]
    | true =>
      obtain ⟨hinput, haccept⟩ := Bool.and_eq_true_iff.mp hin
      cases b.meets (Native.failed ||| Native.hangUp) with
      | true =>
        -- what makes acceptance ready is part of what the failure makes ready
        have hpart :
            interest.within ready = (interest.within ready && Operation.accept.within ready) := by
          rw [← Mask.or_within, Mask.or_eq_of_within (Mask.accept_within haccept)]
        cases hready : Operation.accept.within ready with
        | true => simp [Mask.or_eq_of_within hready, Mask.within_self]
        | false =>
          rw [hready, Bool.and_false] at hpart
          simp [Mask.or_within, hpart, hready]
      | false => simp [hinput, haccept, Mask.within_self]

end Readiness

namespace Key

variable (key : Key) {a b : Mask}

theorem heed_selected (h : a.meets Native.invalid = false) :
    key.heed true a = { key with ready := Readiness.merge key.interest key.ready a } := by
  cases hfailed : a.meets (Native.failed ||| Native.hangUp) with
  | true => simp [heed_failed _ _ h hfailed, Readiness.merge, hfailed]
  | false => simp [heed_input _ _ h hfailed, Readiness.merge, hfailed]

theorem gains_selected (events : Mask) :
    key.gains true events = !(key.heed true events).ready.within key.ready :=
  key.changed_reading true events

/-- Two valid reports come to what one report of both their events comes to. -/
theorem heed_or (ha : a.meets Native.invalid = false) (hb : b.meets Native.invalid = false) :
    (key.heed true a).heed true b = key.heed true (a ||| b) ∧
      (key.gains true a || (key.heed true a).gains true b) = key.gains true (a ||| b) := by
  have hor : (a ||| b).meets Native.invalid = false := by simp [Mask.meets_or, ha, hb]
  have hmerge := Readiness.merge_or key.interest key.ready a b
  simp only [gains_selected, heed_selected _ ha, heed_selected _ hb, heed_selected _ hor, hmerge,
    ← Bool.not_and, ← Readiness.merge_or_within, and_self]

/-- The key after reports of it, one after the other. -/
def heedAll (key : Key) : List Mask → Key
  | [] => key
  | events :: rest => (key.heed true events).heedAll rest

/-- What the reports answer: whether something became ready. -/
def answers (key : Key) : List Mask → List Bool
  | [] => []
  | events :: rest => key.gains true events :: (key.heed true events).answers rest

theorem heedAll_with (masks : List Mask) : ∃ ready, key.heedAll masks = { key with ready } := by
  induction masks generalizing key with
  | nil => exact ⟨key.ready, rfl⟩
  | cons events rest ih =>
    obtain ⟨ready, hrest⟩ := ih (key.heed true events)
    have hheed : ∃ ready, key.heed true events = { key with ready } := by
      unfold heed
      split <;> exact ⟨_, rfl⟩
    obtain ⟨ready', hheed⟩ := hheed
    exact ⟨ready, by rw [heedAll, hrest, hheed]⟩

/-- Valid reports come to what one report of all their events comes to. -/
theorem heedAll_or {masks : List Mask}
    (h : ∀ events ∈ masks, events.meets Native.invalid = false) :
    key.heedAll masks = key.heed true (masks.foldr (· ||| ·) 0) ∧
      (key.answers masks).any id = key.gains true (masks.foldr (· ||| ·) 0) ∧
      (masks.foldr (· ||| ·) 0).meets Native.invalid = false := by
  induction masks generalizing key with
  | nil =>
    have hnone : key.heed true 0#32 = key := key.heed_selected (a := 0#32) rfl
    simp [heedAll, answers, gains_selected, hnone, Mask.within_self, Mask.meets]
  | cons a rest ih =>
    obtain ⟨ha, hrest⟩ := List.forall_mem_cons.mp h
    obtain ⟨hheed, hgains, hvalid⟩ := ih (key.heed true a) hrest
    obtain ⟨hheed', hgains'⟩ := key.heed_or ha hvalid
    rw [List.foldr_cons, heedAll, answers, List.any_cons, hheed, hgains, hheed',
      Mask.meets_or, ha, hvalid]
    exact ⟨rfl, hgains', rfl⟩

/-- Reports of a descriptor that is not open have no part in it. -/
theorem heedAll_filter (masks : List Mask) :
    key.heedAll (masks.filter fun events => !events.meets Native.invalid) = key.heedAll masks ∧
      key.answers (masks.filter fun events => !events.meets Native.invalid) =
        ((masks.zip (key.answers masks)).filter fun p => !p.1.meets Native.invalid).map
          Prod.snd := by
  induction masks generalizing key with
  | nil => exact ⟨rfl, rfl⟩
  | cons events rest ih =>
    cases h : events.meets Native.invalid with
    | true => simpa [h, heedAll, answers, key.heed_invalid true h] using ih key
    | false => simpa [h, heedAll, answers] using ih (key.heed true events)

end Key

namespace Action

variable {st : Station} {c : ListenerId} {k : KeyId} {key : Key} {l : Listener}

/-- Merges reports of a key, one after the other. -/
def updateAll (c : ListenerId) (k : KeyId) : List Mask → Action (List Bool)
  | [] => return []
  | events :: rest => do
    let changed ← translateAndUpdate c k events
    return changed :: (← updateAll c k rest)

/-- A lenient provider only tells of a descriptor that is not open. -/
theorem run_reportInvalid_lenient (hl : st.listeners[c]? = some l)
    (hlenient : st.provider.invalid = .lenient)
    (k : KeyId) : ∃ reports, (reportInvalid c k).run st = (.ok (), { st with reports }) := by
  rw [reportInvalid, run_listener_bind hl]
  cases l.core.isOpen with
  | false => exact ⟨st.reports, rfl⟩
  | true =>
    simp only [if_true, run_bind, run_get, run_emit, hlenient, InvalidPolicy.invalidatesKey,
      Bool.false_eq_true, if_false, run_pure, Station.tell]
    split
    · exact ⟨_, rfl⟩
    · exact ⟨st.reports, rfl⟩

/-- The channel is there, and invalid reports of its keys are only told. -/
def Tolerates (c : ListenerId) (st : Station) : Prop :=
  (∃ l, st.listeners[c]? = some l) ∧ st.provider.invalid = .lenient

theorem run_translateAndUpdate (hk : st.key? k = some key) {events : Mask}
    (h : Tolerates c st ∨ events.meets Native.invalid = false) :
    ∃ st', (translateAndUpdate c k events).run st = (.ok (key.gains true events), st') ∧
      st'.key? k = some (key.heed true events) ∧ (Tolerates c st → Tolerates c st') := by
  simp only [translateAndUpdate, translateReady, run_bind, run_get, hk]
  cases hinvalid : events.meets Native.invalid with
  | true =>
    obtain ⟨⟨l, hl⟩, hlenient⟩ := h.resolve_right (by simp [hinvalid])
    obtain ⟨reports, hrun⟩ := run_reportInvalid_lenient hl hlenient k
    have hreading := key.reading_invalid true hinvalid
    rw [show Readiness.translate events key.ready key.interest key.ready = _ from hreading,
      Key.gains, if_pos rfl, hreading, key.heed_invalid true hinvalid]
    exact ⟨_, run_bind_ok hrun, hk, id⟩
  | false =>
    obtain ⟨ops, changed, hreading⟩ := key.reading_ready true hinvalid
    rw [show Readiness.translate events key.ready key.interest key.ready = _ from hreading,
      Key.gains, if_pos rfl, Key.heed, hreading]
    refine ⟨_, rfl, by simp [key?_modifyKey, hk], ?_⟩
    unfold modifyKey
    split <;> exact id

theorem run_updateAll (hk : st.key? k = some key) {masks : List Mask}
    (h : Tolerates c st ∨ ∀ events ∈ masks, events.meets Native.invalid = false) :
    ∃ st', (updateAll c k masks).run st = (.ok (key.answers masks), st') ∧
      st'.key? k = some (key.heedAll masks) := by
  induction masks generalizing st key with
  | nil => exact ⟨st, rfl, hk⟩
  | cons events rest ih =>
    obtain ⟨st₁, hrun, hk₁, htolerates⟩ :=
      run_translateAndUpdate hk (h.imp_right fun h => h events (List.mem_cons_self ..))
    obtain ⟨st₂, hrest, hk₂⟩ :=
      ih hk₁ (h.imp htolerates fun h events he => h events (List.mem_cons_of_mem _ he))
    refine ⟨st₂, ?_, hk₂⟩
    rw [updateAll, run_bind_ok hrun, run_bind_ok hrest]
    rfl

/-- Reports that are merged into the ready set of a key one after the other come to what one report
of all their events comes to, and something becomes ready by them exactly if it does by that one.
Under a lenient provider, reports of a descriptor that is not open change neither the ready set nor
what the other reports answer. -/
theorem merged_reports_add_up (hk : st.key? k = some key) (hl : st.listeners[c]? = some l)
    (masks : List Mask) :
    ((∀ events ∈ masks, events.meets Native.invalid = false) →
      ∃ answers changed st₁ st₂ ready, (updateAll c k masks).run st = (.ok answers, st₁) ∧
      (translateAndUpdate c k (masks.foldr (· ||| ·) 0)).run st = (.ok changed, st₂) ∧
      st₁.key? k = some { key with ready } ∧ st₂.key? k = some { key with ready } ∧
      answers.any id = changed) ∧
    (st.provider.invalid = .lenient → ∃ answers others st₁ st₂ ready,
      (updateAll c k masks).run st = (.ok answers, st₁) ∧
      (updateAll c k (masks.filter fun events => !events.meets Native.invalid)).run st =
        (.ok others, st₂) ∧
      st₁.key? k = some { key with ready } ∧ st₂.key? k = some { key with ready } ∧
      others = ((masks.zip answers).filter fun p => !p.1.meets Native.invalid).map Prod.snd) := by
  obtain ⟨ready, hready⟩ := key.heedAll_with masks
  refine ⟨fun h => ?_, fun hlenient => ?_⟩
  · obtain ⟨hheed, hgains, hvalid⟩ := key.heedAll_or h
    obtain ⟨st₁, hrun₁, hk₁⟩ := run_updateAll (c := c) hk (.inr h)
    obtain ⟨st₂, hrun₂, hk₂, -⟩ := run_translateAndUpdate (c := c) hk (.inr hvalid)
    exact ⟨_, _, st₁, st₂, ready, hrun₁, hrun₂, hready ▸ hk₁,
      hready ▸ hheed ▸ hk₂, hgains⟩
  · obtain ⟨hheed, hanswers⟩ := key.heedAll_filter masks
    have htolerates : Tolerates c st := ⟨⟨l, hl⟩, hlenient⟩
    obtain ⟨st₁, hrun₁, hk₁⟩ := run_updateAll hk (.inl htolerates)
    obtain ⟨st₂, hrun₂, hk₂⟩ := run_updateAll hk (.inl htolerates)
    exact ⟨_, _, st₁, st₂, ready, hrun₁, hrun₂, hready ▸ hk₁,
      hready ▸ hheed ▸ hk₂, hanswers⟩

/-- A key that waits for connections, and has something else ready. -/
def waiting : Key where
  selector := 0
  channel := 0
  interest := Operation.accept
  ready := Operation.read

theorem input_and_hang_up_add_up :
    let st : Station :=
      { listeners := [{ id := 1, descriptor := { number := 3 } }], keys := [waiting] }
    ∃ answers changed st₁ st₂ ready,
      (updateAll 0 1 [Native.input, Native.hangUp]).run st = (.ok answers, st₁) ∧
      (translateAndUpdate 0 1 (Native.input ||| (Native.hangUp ||| 0))).run st =
        (.ok changed, st₂) ∧
      st₁.key? 1 = some { waiting with ready } ∧ st₂.key? 1 = some { waiting with ready } ∧
      answers.any id = changed := by
  intro st
  have hk : st.key? 1 = some waiting := rfl
  have hl : st.listeners[0]? = some { id := 1, descriptor := { number := 3 } } := rfl
  exact (merged_reports_add_up hk hl [Native.input, Native.hangUp]).1
    (List.forall_mem_cons.mpr ⟨rfl, List.forall_mem_singleton.mpr rfl⟩)

end Action
end PolledChannels
