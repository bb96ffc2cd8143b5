import PolledChannels.Proofs.SelectionHalves

/-!
# The order of visits

Nothing says in which order a selection visits the keys that it polled. Whatever order it is, the
selection answers the same and leaves the same station, up to the order in which the newly selected
keys stand among the selected ones and the order in which events were told
(`Action.selectIn_order_irrelevant`).
-/

namespace PolledChannels

open PolledChannels.Action

namespace Station

/-- The stations differ at most in the order of the selected keys of one selector, and in the order
of what was told. -/
def Rearranged (s : SelectorId) (st st' : Station) : Prop :=
  ∃ (rearrange : List KeyId → List KeyId) (reports : List Report),
    (∀ ks, (rearrange ks).Perm ks) ∧ reports.Perm st.reports ∧
      st' =
        { st.modifySelector s fun x => { x with selected := rearrange x.selected } with reports }

theorem Rearranged.refl (s : SelectorId) (st : Station) : Rearranged s st st := by
  refine ⟨id, st.reports, fun _ => .refl _, .refl _, ?_⟩
  have hsame : (fun x : Selector => { x with selected := id x.selected }) = id := rfl
  rw [modifySelector, hsame, List.modify_id]

end Station

namespace Concluded

variable {s : SelectorId} {already : List KeyId} {reported reported' : List (KeyId × Mask)}
  {st st₁ st₂ : Station} {x : Selector}

/-- Two reports of the same, in two orders. -/
theorem rearranged (hx : st.selectors[s]? = some x) (h₁ : Concluded s already reported st st₁)
    (h₂ : Concluded s already reported' st st₂) (hperm : reported'.Perm reported) :
    Station.Rearranged s st₁ st₂ := by
  have hchosen : (st.chosen already reported').Perm (st.chosen already reported) :=
    (hperm.filter _).map _
  have hexpelled : (st.expelled reported').Perm (st.expelled reported) :=
    (hperm.filter _).map _
  have hcontains (k : KeyId) :
      (st.expelled reported').contains k = (st.expelled reported).contains k := by
    rw [Bool.eq_iff_iff, List.contains_iff_mem, List.contains_iff_mem, hexpelled.mem_iff]
  have hkeys : st₂.keys = st₁.keys := by
    refine Station.keys_ext fun k => ?_
    by_cases hk : k ∈ reported.map Prod.fst
    · obtain ⟨p, hp, rfl⟩ := List.mem_map.mp hk
      rw [h₁.told p hp, h₂.told p (hperm.mem_iff.mpr hp)]
    · rw [h₁.untold k hk, h₂.untold k (mt (hperm.map _).mem_iff.mp hk)]
  have hlisteners : st₂.listeners = st₁.listeners := by
    refine List.ext_getElem? fun c => ?_
    rw [h₁.listener, h₂.listener]
    simp only [hcontains]
  have hreports : st₂.reports.Perm st₁.reports := by
    rw [h₁.reports, h₂.reports]
    exact (hperm.flatMap_right _).append_left _
  -- of the selector only the order of what is newly selected depends on the order of the report
  generalize hy : x.conclude (st.chosen already reported) (st.expelled reported) = y
  generalize hy' : x.conclude (st.chosen already reported') (st.expelled reported') = y'
  have hselected : y'.selected.Perm y.selected := by
    subst hy hy'
    simp only [Selector.conclude, Selector.forget, hcontains]
    exact (hchosen.append_left _).filter _
  have hsame : y' = { y with selected := y'.selected } := by
    subst hy hy'
    simp only [Selector.conclude, Selector.forget, Selector.enqueue, hcontains, hexpelled.length_eq]
  let rearrange (ks : List KeyId) : List KeyId := if ks = y.selected then y'.selected else ks
  refine ⟨rearrange, st₂.reports, fun ks => ?_, hreports, ?_⟩
  · by_cases hks : ks = y.selected
    · simpa [rearrange, hks] using hselected
    · simp [rearrange, hks]
  · have hselectors : st₂.selectors =
        st₁.selectors.modify s fun x => { x with selected := rearrange x.selected } := by
      rw [h₁.selectors, h₂.selectors, List.modify_modify_eq]
      exact Station.modify_congr hx (by simp [hy, hy', rearrange, ← hsame])
    have hrest : st₂ = { st₁ with
        keys := st₂.keys
        listeners := st₂.listeners
        selectors := st₂.selectors
        reports := st₂.reports } := by
      rw [h₁.rest]
      exact h₂.rest
    rw [hrest, hkeys, hlisteners, hselectors]
    rfl

end Concluded

/-! ## Whole selections -/

namespace PollAnswer

theorem run_endSelect_none {answer : PollAnswer} (h : answer.events? = none) (s : SelectorId) :
    ∃ e, ∀ polled st, (endSelect s polled answer).run st = (.error e, st) := by
  cases answer with
  | failed e =>
    refine ⟨.io e, fun polled st => ?_⟩
    have he : e ≠ .os .interrupted := by
      rintro rfl
      simp [events?] at h
    rw [endSelect, if_neg he]
    rfl
  | reported events woken => cases h
  | wakeFailed e => exact ⟨.io e, fun _ _ => rfl⟩

end PollAnswer

namespace Action

/-- A whole selection that visits what it polled in an order of its own. -/
def selectIn (order : List Polled → List Polled) (s : SelectorId) (meanwhile : Network)
    (answer : PollAnswer) : Action Nat := do
  let polled ← beginSelect s
  modify fun st => { st with network := meanwhile }
  endSelect s (order polled) answer

theorem selectIn_id : selectIn id = select := rfl

/-- A selection in one order and in another. -/
theorem selectIn_order_irrelevant {st : Station} (h : st.Reachable) (s : SelectorId)
    (meanwhile : Network) (answer : PollAnswer) {order order' : List Polled → List Polled}
    (horder : ∀ polled, (order polled).Perm polled)
    (horder' : ∀ polled, (order' polled).Perm polled) :
    ((selectIn order s meanwhile answer).run st).1 =
      ((selectIn order' s meanwhile answer).run st).1 ∧
      Station.Rearranged s ((selectIn order s meanwhile answer).run st).2
        ((selectIn order' s meanwhile answer).run st).2 := by
  simp only [selectIn, run_bind, run_modify]
  generalize hbegin : (beginSelect s).run st = begun
  obtain ⟨e | polled, st₁⟩ := begun
  · exact ⟨rfl, .refl s st₁⟩
  · obtain ⟨x, hpolling⟩ := polling_of_begin h.wellHeld hbegin
    have hmet := hpolling.meanwhile meanwhile
    have hperm : (order' polled).Perm (order polled) := (horder' polled).trans (horder polled).symm
    cases hevents : answer.events? with
    | none =>
      obtain ⟨e, hend⟩ := PollAnswer.run_endSelect_none hevents s
      simp only [hend]
      exact ⟨trivial, .refl s _⟩
    | some events =>
      obtain ⟨st₂, hrun, hconcluded⟩ := run_endSelect (hmet.perm (horder polled)) hevents
      obtain ⟨st₂', hrun', hconcluded'⟩ := run_endSelect (hmet.perm (horder' polled)) hevents
      obtain ⟨wake, hx⟩ := answer.selector_hear hmet.selector
      have hreport : (reportOf events (order' polled)).Perm (reportOf events (order polled)) :=
        hperm.map _
      simp only [hrun, hrun']
      exact ⟨congrArg _ (hreport.countP_eq _).symm,
        hconcluded.rearranged hx hconcluded' hreport⟩

theorem selected_in_either_order :
    ∃ st₁ st₂, (selectIn id 0 {} mixedReport).run (Station.after threeChannels) =
      (.ok 2, st₁) ∧
      (selectIn List.reverse 0 {} mixedReport).run (Station.after threeChannels) =
        (.ok 2, st₂) ∧
      Station.Rearranged 0 st₁ st₂ ∧ (st₁.selectors.map fun x => x.selected) = [[1, 2]] ∧
      (st₂.selectors.map fun x => x.selected) = [[2, 1]] := by
  obtain ⟨hanswer, hrearranged⟩ :=
    selectIn_order_irrelevant (Station.reachable_after threeChannels) 0 {}
    mixedReport (fun polled => List.Perm.refl (id polled)) List.reverse_perm
  have htwo : ((selectIn id 0 {} mixedReport).run (Station.after threeChannels)).1 = .ok 2 := by
    decide +kernel
  exact ⟨_, _, Prod.ext htwo rfl, Prod.ext (hanswer.symm.trans htwo) rfl,
    hrearranged, by decide +kernel, by decide +kernel⟩

end Action
end PolledChannels
