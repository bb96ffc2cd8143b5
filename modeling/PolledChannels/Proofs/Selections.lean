import PolledChannels.Proofs.Changes

/-!
# Whole selections

A selection deregisters cancelled keys, polls, takes in what was reported and deregisters cancelled
keys again. Whatever the poll answers, this is a chain of changes of a sound registry: the reported
keys are keys that the selector holds, each of them is newly selected at most once, and a strict
provider cancels a key whose descriptor is not open.
-/

namespace PolledChannels

open Registry PolledChannels.Action

variable {st st' : Station} {reported : List (KeyId × Mask)} {s : SelectorId} {x : Roster}
  {polled : List Polled}

/-- More keys are selected. -/
def Registry.choose (r : Registry) (s : SelectorId) (new : List KeyId) : Registry :=
  r.onSelector s fun x => { x with selected := x.selected ++ new }

namespace Action

variable {α : Type} {already : List KeyId}

/-! ## Taking in what was reported -/

section Visits

variable {P : Registry → Prop}

/-- What cancelling keys keeps, a report of an invalid descriptor keeps. -/
theorem keeps_reportInvalid (hP : ∀ r k, P r → P (r.cancel k)) (c : ListenerId) (k : KeyId) :
    Keeps (fun st => P st.registry) (reportInvalid c k).run := by
  refine keeps_bind ((frames_listener c).holds P) fun l => ?_
  split
  · refine keeps_bind (frames_get.holds P) fun st =>
      keeps_bind ((registry_hidesAccepts.emit _ _).holds P) fun _ => ?_
    split
    · intro st hst
      show P ((cancelKey k).run st).2.registry
      rw [registry_cancelKey]
      exact hP _ _ hst
    · exact (frames_pure _).holds P
  · exact (frames_pure _).holds P

/-- What cancelling keys keeps, taking in a whole report keeps. -/
theorem keeps_visits (hP : ∀ r k, P r → P (r.cancel k)) (already : List KeyId)
    (reported : List (KeyId × Mask)) :
    Keeps (fun st => P st.registry) (visitAll already reported).run :=
  keeps_visitAll (keeps_reportInvalid hP)
    (fun k ops => (registry_hidesMasks.setReady k ops).holds P)
    already reported

end Visits

theorem visit_selected {k : KeyId} {events : Mask} {counts : Bool}
    (h : (visit already k events).run st = (.ok (counts, true), st')) : k ∉ already := by
  intro hk
  have hcontains : already.contains k = true := List.contains_iff_mem.mpr hk
  obtain ⟨st₁, st₂, hget, h⟩ := of_run_bind h
  split at h
  · cases h
  split at h
  · cases h
  · obtain ⟨update, st₃, -, h⟩ := of_run_bind h
    cases h

/-- The newly selected keys are reported keys, in their order, that were not selected before. -/
theorem visitAll_selected {n : Nat} {selected : List KeyId}
    (h : (visitAll already reported).run st = (.ok (n, selected), st')) :
    selected.Sublist (reported.map Prod.fst) ∧ ∀ k ∈ selected, k ∉ already := by
  induction reported generalizing n selected st st' with
  | nil =>
    cases h
    exact ⟨.slnil, by simp⟩
  | cons p rest ih =>
    obtain ⟨⟨counts, new⟩, st₁, hvisit, h⟩ := of_run_bind h
    obtain ⟨⟨m, more⟩, st₂, hrest, h⟩ := of_run_bind h
    obtain ⟨hsub, hnew⟩ := ih hrest
    cases h
    cases new with
    | false => exact ⟨hsub.cons _, hnew⟩
    | true =>
      refine ⟨hsub.cons_cons _, ?_⟩
      intro k hk
      rcases List.mem_cons.mp hk with rfl | hk
      · exact visit_selected hvisit
      · exact hnew k hk

/-! ## The parts of a selection -/

/-- Cancelling a key changes neither what a selector holds nor what it has selected. -/
theorem cancel_roster {r : Registry}
    (h : ∃ y, r.selector s = some y ∧ y.held = x.held ∧ y.selected = x.selected) (k : KeyId) :
    ∃ y, (r.cancel k).selector s = some y ∧ y.held = x.held ∧ y.selected = x.selected := by
  obtain ⟨y, hy, hheld, hselected⟩ := h
  unfold Registry.cancel
  split
  · split
    · rename_i t ht hvalid
      by_cases hs : s = t.selector
      · refine ⟨y.enqueue k, by simp [onSelector, onKey, ← hs, hy], ?_⟩
        unfold Roster.enqueue
        split <;> exact ⟨hheld, hselected⟩
      · exact ⟨y, by simp [onSelector, onKey, hs, hy], hheld, hselected⟩
    · exact ⟨y, hy, hheld, hselected⟩
  · exact ⟨y, hy, hheld, hselected⟩

/-- The last part of a selection, for keys that the selector holds. -/
theorem changes_finishSelect (hsound : st.registry.Sound {}) (hx : st.registry.selector s = some x)
    (honce : (reported.map Prod.fst).Nodup)
    (hheld : ∀ k ∈ reported.map Prod.fst, k ∈ x.held) :
    st.registry.Changes ((finishSelect s reported).run st).2.registry := by
  have hs := hsound.selector s x hx
  obtain ⟨selector, hselector, rfl⟩ := Station.selector_of_registry hx
  rw [finishSelect, run_selector_bind hselector, run_bind]
  have hvisited := keeps_visits
    (P := fun r => st.registry.Changes r ∧ ∃ y, r.selector s = some y ∧
      y.held = selector.roster.held ∧ y.selected = selector.roster.selected)
    (fun r k h => ⟨h.1.tail (.cancel k), cancel_roster h.2 k⟩) selector.selected reported st
    ⟨.refl, _, hx, rfl, rfl⟩
  generalize hrun : (visitAll selector.selected reported).run st = visited at hvisited ⊢
  obtain ⟨_ | ⟨n, new⟩, st'⟩ := visited
  · exact hvisited.1
  · obtain ⟨hchanges, y, hy, hyheld, hyselected⟩ := hvisited
    obtain ⟨hsub, hnew⟩ := visitAll_selected hrun
    obtain ⟨z, hz, rfl⟩ := Station.selector_of_registry hy
    -- what was selected before and what is new have nothing in common
    have hchosen : (z.roster.selected ++ new).Nodup := by
      rw [hyselected]
      exact hs.selectedOnce.append (honce.sublist hsub) fun k hk hk' => hnew k hk' hk
    have hchosenHeld : ∀ k ∈ z.roster.selected ++ new, k ∈ z.roster.held := by
      intro k hk
      rw [hyheld]
      rcases List.mem_append.mp hk with hk | hk
      · exact hs.selected k (hyselected ▸ hk)
      · exact hheld k (hsub.subset hk)
    have hselect :
        (st'.modifySelector s fun x => { x with selected := x.selected ++ new }).registry =
        st'.registry.putSelector s { z.roster with selected := z.roster.selected ++ new } :=
      Station.registry_modifySelector_of hz _
    simp only [run_bind, run_modify]
    rw [← run_bind, registry_bind_idle _ fun _ =>
      frames_pure n, registry_processCancelled, hselect]
    exact (hchanges.tail (.select hy hchosen hchosenHeld)).tail (.purge s)

theorem filterMap_sublist_map {β γ : Type} {f : β → Option γ} {g : β → γ}
    (h : ∀ a b, f a = some b → b = g a) (xs : List β) :
      (xs.filterMap f).Sublist (xs.map g) := by
  induction xs with
  | nil => exact .slnil
  | cons a xs ih =>
    cases hfa : f a with
    | none =>
      rw [List.filterMap_cons_none hfa]
      exact ih.cons _
    | some b =>
      rw [List.filterMap_cons_some hfa, h a b hfa]
      exact ih.cons_cons _

/-- A selection polls keys that its selector holds, each of them once. -/
theorem snapshot_keys (h : (snapshot s).run st = (.ok polled, st')) :
    st' = st ∧ ∃ x, st.registry.selector s = some x ∧
    (polled.map Polled.key).Sublist x.held := by
  cases hx : st.selectors[s]? with
  | none =>
    simp only [snapshot, run_bind, run_get, run_selector, hx] at h
    cases h
  | some x =>
    simp only [snapshot, run_bind, run_get, run_selector, hx] at h
    cases h
    refine ⟨rfl, x.roster, Station.registry_selector_of hx, ?_⟩
    show List.Sublist _ (x.registered.map Prod.fst)
    rw [List.map_filterMap]
    refine filterMap_sublist_map (fun p k hk => ?_) x.registered
    obtain ⟨polled, hpolled, rfl⟩ := Option.map_eq_some_iff.mp hk
    split at hpolled
    · cases hpolled
    · split at hpolled
      · obtain ⟨l, -, rfl⟩ := Option.map_eq_some_iff.mp hpolled
        rfl
      · cases hpolled

theorem orderly_beginSelect (s : SelectorId) : Orderly (beginSelect s).run := by
  refine .bindAction (.of_idle (frames_selector s)) fun x => ?_
  split
  · refine .bindAction (orderly_processCancelled s) fun _ => ?_
    exact .of_idle (frames_bind frames_get fun _ => frames_bind (frames_selector s) fun _ =>
      frames_pure _)
  · exact .of_idle (frames_throw _)

theorem beginSelect_keys (h : (beginSelect s).run st = (.ok polled, st')) :
    ∃ x, st'.registry.selector s = some x ∧ (polled.map Polled.key).Sublist x.held := by
  obtain ⟨x, st₁, -, h⟩ := of_run_bind h
  split at h
  · obtain ⟨_, st₂, -, h⟩ := of_run_bind h
    obtain ⟨rfl, hkeys⟩ := snapshot_keys h
    exact hkeys
  · cases h

theorem changes_endSelect (hsound : st.registry.Sound {}) (hx : st.registry.selector s = some x)
    (hkeys : (polled.map Polled.key).Sublist x.held) (answer : PollAnswer) :
    st.registry.Changes ((endSelect s polled answer).run st).2.registry := by
  have hs := hsound.selector s x hx
  cases answer with
  | failed e =>
    by_cases he : e = .os .interrupted
    · simp only [endSelect, he, if_true]
      exact changes_finishSelect hsound hx (by simp) (by simp)
    · simp only [endSelect, he, if_false]
      exact .refl
  | reported events woken =>
    have hreported :
        (polled.map fun p => (p.key, events p)).map Prod.fst = polled.map Polled.key := by
      simp [Function.comp_def]
    have hfinish : ∀ st' : Station, st'.registry = st.registry →
        st.registry.Changes
          ((finishSelect s (polled.map fun p => (p.key, events p))).run st').2.registry := by
      intro st' hst'
      rw [← hst'] at hsound hx ⊢
      refine changes_finishSelect hsound hx ?_ ?_
      · rw [hreported]
        exact hs.distinct.sublist hkeys
      · rw [hreported]
        exact fun k hk => hkeys.subset hk
    unfold endSelect finishWoken
    cases woken with
    | false => exact hfinish st rfl
    | true => exact hfinish _ ((registry_hidesMasks.drainWake s).eq st)
  | wakeFailed e => exact .refl

section Parts

variable {P : Registry → Prop} {s : SelectorId} (hcancel : ∀ r k, P r → P (r.cancel k))
  (hpurge : ∀ r, P r → P (r.purge s))
include hcancel hpurge

/-- What is kept by cancelling keys, by working off the queue and by selecting reported keys is kept
by the last part of a selection, also where that fails. -/
theorem keeps_finishSelect
    (hchoose : ∀ r new, P r → new ⊆ reported.map Prod.fst → P (r.choose s new)) :
    Keeps (fun st => P st.registry) (finishSelect s reported).run := by
  refine keeps_selector_bind fun x st hx hst => ?_
  have hvisited := keeps_visits hcancel x.selected reported st hst
  rw [run_bind]
  generalize hrun : (visitAll x.selected reported).run st = visited at hvisited ⊢
  obtain ⟨_ | ⟨n, new⟩, st'⟩ := visited
  · exact hvisited
  · have hchosen :
        (st'.modifySelector s fun x => { x with selected := x.selected ++ new }).registry =
        st'.registry.choose s new := st'.registry_modifySelector s fun _ => rfl
    simp only [run_bind, run_modify]
    rw [← run_bind, registry_bind_idle _ fun _ =>
      frames_pure n, registry_processCancelled, hchosen]
    exact hpurge _ (hchoose _ new hvisited (visitAll_selected hrun).1.subset)

/-- What is kept by cancelling keys, by working off the queue and by selecting polled keys is kept
by all that comes after the poll. -/
theorem keeps_endSelect
    (hchoose : ∀ r new, P r → new ⊆ polled.map Polled.key → P (r.choose s new))
    (answer : PollAnswer) : Keeps (fun st => P st.registry) (endSelect s polled answer).run := by
  cases answer with
  | failed e =>
    rw [endSelect]
    split
    · refine keeps_finishSelect hcancel hpurge fun r new hr hnew => hchoose r new hr ?_
      exact fun k hk => absurd (hnew hk) List.not_mem_nil
    · exact (frames_throw _).holds P
  | reported events woken =>
    have hreported :
        (polled.map fun p => (p.key, events p)).map Prod.fst = polled.map Polled.key := by
      rw [List.map_map]
      rfl
    have hfinish : Keeps (fun st => P st.registry)
        (finishSelect s (polled.map fun p => (p.key, events p))).run :=
      keeps_finishSelect hcancel hpurge fun r new hr hnew => hchoose r new hr (hreported ▸ hnew)
    cases woken with
    | false => exact hfinish
    | true => exact keeps_bind ((registry_hidesMasks.drainWake s).holds P) fun _ => hfinish
  | wakeFailed e => exact (frames_throw _).holds P

end Parts

/-- A whole selection, with what the network becomes while it polls and what the poll answers. -/
def select (s : SelectorId) (meanwhile : Network) (answer : PollAnswer) : Action Nat := do
  let polled ← beginSelect s
  modify fun st => { st with network := meanwhile }
  endSelect s polled answer

theorem changes_select (hsound : st.registry.Sound {}) (s : SelectorId) (meanwhile : Network)
    (answer : PollAnswer) :
      st.registry.Changes ((select s meanwhile answer).run st).2.registry := by
  have hbegin := (orderly_beginSelect s).changes st
  rw [select, run_bind]
  generalize hrun : (beginSelect s).run st = begun at hbegin ⊢
  obtain ⟨_ | polled, st'⟩ := begun
  · exact hbegin
  · obtain ⟨x, hx, hkeys⟩ := beginSelect_keys hrun
    have hmet : ({ st' with network := meanwhile } : Station).registry.Sound {} :=
      hbegin.sound hsound
    exact hbegin.trans (changes_endSelect hmet hx hkeys answer)

end Action

/-! ## Selections of threads -/

namespace Step

variable {outcome : Outcome}

/-- A thread that begins a selection has made a whole one with a failed poll; or it waits, and the
selection has begun well. -/
theorem startSelect_cases {timeout : Option Nat} {move : Move}
    (h : startSelect s timeout st = (move, st')) :
    (∃ outcome, move = .done outcome ∧
      ∃ meanwhile e, ((Action.select s meanwhile (.failed e)).run st).2 = st') ∨
    ∃ polled deadline st₀ n, move = .goto (.inSelect s polled deadline) ∧
      (beginSelect s).run st = (.ok polled, st₀) ∧ st' = { st₀ with network := n } := by
  rw [startSelect, run_after] at h
  generalize hbegin : (beginSelect s).run st = begun at h
  obtain ⟨f | polled, st₁⟩ := begun
  · cases h
    refine .inl ⟨_, rfl, {}, .os .interrupted, ?_⟩
    rw [select, run_bind, hbegin]
  · dsimp only at h
    rw [run_after, run_network] at h
    generalize Net.consult.run st₁.network = consulted at h
    obtain ⟨e | v, meanwhile⟩ := consulted
    · dsimp only at h
      rw [run_after] at h
      cases h
      refine .inl ⟨_, rfl, meanwhile, e, ?_⟩
      rw [select, run_bind, hbegin]
      rfl
    · cases h
      exact .inr ⟨_, _, _, _, rfl, rfl, rfl⟩

/-- A thread whose selection ends after it waited has made a whole selection. -/
theorem resumeSelect_done {timeout deadline : Option Nat} {signalled : Bool} {outcome : Outcome}
    {meanwhile : Network} {st₁ st₂ : Station}
    (hstart : startSelect s timeout st = (.goto (.inSelect s polled deadline), st₁))
    (hresume : resumeSelect s polled deadline signalled { st₁ with network := meanwhile } =
      (.done outcome, st₂)) :
    ∃ answer, ((Action.select s meanwhile answer).run st).2 = st₂ := by
  obtain ⟨_, hdone, -⟩ | ⟨_, _, st₀, n, hmove, hbegin, hst₁⟩ := startSelect_cases hstart
  · cases hdone
  cases hmove
  have hselect : ∀ answer, after (endSelect s polled answer)
      (fun r => pure (.done (.selected r))) { st₁ with network := meanwhile } =
        (.done outcome, st₂) →
      ((select s meanwhile answer).run st).2 = st₂ := by
    intro answer hend
    rw [select, run_bind, hbegin]
    rw [hst₁] at hend
    exact congrArg Prod.snd hend
  rw [resumeSelect, run_get] at hresume
  split at hresume
  · exact ⟨_, hselect _ hresume⟩
  split at hresume
  · exact ⟨_, hselect _ hresume⟩
  · cases hresume

end Step
end PolledChannels
