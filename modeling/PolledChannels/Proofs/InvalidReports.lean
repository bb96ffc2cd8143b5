import PolledChannels.Proofs.SelectionHalves

/-!
# Reports of descriptors that are not open

A report that a descriptor is not open leaves the ready set of its key alone. That does not keep
the key from being selected. Of a key that was not selected a selection asks what its ready set
holds after the visit, not whether the visit put it there: where something is left in it from an
earlier selection, the key counts and is newly selected (`Action.invalid_report_counts_iff`).
-/

namespace PolledChannels

open PolledChannels.Action Station

/-! ## What the first half leaves alone -/

namespace Station

/-- What letting keys leave does not touch: the settings, the channel, the interest set and the
ready set of every key, and which channels are open. -/
def outlook (st : Station) : Provider × List (ListenerId × Mask × Mask) × List Bool :=
  (st.provider, st.keys.map fun key => (key.channel, key.interest, key.ready),
    st.listeners.map fun l => l.core.isOpen)

theorem outlook_modifyListener (st : Station) (c : ListenerId) {f : Listener → Listener}
    (hf : ∀ l, (f l).core.isOpen = l.core.isOpen) :
      (st.modifyListener c f).outlook = st.outlook := by
  simp only [outlook, modifyListener, map_modify_same st.listeners c
    (h := fun l => l.core.isOpen) hf]

theorem outlook_without (st : Station) (s : SelectorId) (ks : List KeyId) :
    (st.without s ks).outlook = st.outlook := by
  have hkeys : (st.without s ks).keys.map (fun key => (key.channel, key.interest, key.ready)) =
      st.keys.map fun key => (key.channel, key.interest, key.ready) := by
    refine List.ext_getElem? fun i => ?_
    simp only [without, List.getElem?_map, List.getElem?_mapIdx, Option.map_map]
    rfl
  have hopen : (st.without s ks).listeners.map (fun l => l.core.isOpen) =
      st.listeners.map fun l => l.core.isOpen := by
    refine List.ext_getElem? fun c => ?_
    rw [List.getElem?_map, List.getElem?_map, listener_without, Option.map_map]
    exact congrArg (fun f => (st.listeners[c]?).map f) (funext fun l => l.lose_isOpen _)
  simp only [outlook, hkeys, hopen]
  rfl

end Station

namespace Action

theorem outlook_hidesEvents : HidesEvents Station.outlook where
  world _ _ := rfl
  connections _ _ _ _ := rfl
  reports _ _ := rfl
  connected _ _ _ := rfl

theorem outlook_hidesDescriptors : HidesDescriptors Station.outlook where
  toHidesNetwork := outlook_hidesEvents.toHidesNetwork
  signals _ _ := rfl
  listeners st c _ hf := st.outlook_modifyListener c fun l => congrArg Standing.isOpen (hf l).1

theorem frames_outlook_kill (c : ListenerId) : Frames Station.outlook (kill c) :=
  outlook_hidesDescriptors.kill (frames_modify fun st => st.outlook_modifyListener c fun _ => rfl)
    fun _ =>
    outlook_hidesEvents.emit _ _

theorem outlook_processCancelled (s : SelectorId) (st : Station) :
    ((processCancelled s).run st).2.outlook = st.outlook := by
  have hdismiss (k : KeyId) (st : Station) : (st.dismiss s k).2.outlook = st.outlook := by
    unfold dismiss
    cases st.orphan? k with
    | none => exact st.outlook_without s [k]
    | some c => exact ((frames_outlook_kill c).eq _).trans (st.outlook_without s [k])
  have hall (ks : List KeyId) (st : Station) :
      (ks.foldl (fun st k => (st.dismiss s k).2) st).outlook = st.outlook :=
    List.foldlRecOn (motive := fun st' => st'.outlook = st.outlook) ks _ rfl fun st' h k _ =>
      (hdismiss k st').trans h
  cases hx : st.selectors[s]? with
  | none => simp only [processCancelled, takeCancelled, run_bind, run_selector, hx]
  | some x =>
    rw [run_processCancelled hx]
    exact hall _ _

end Action

namespace Station

variable {st st' : Station} (h : st'.outlook = st.outlook)
include h

theorem key_of_outlook {k : KeyId} {key key' : Key} (hk : st.key? k = some key)
    (hk' : st'.key? k = some key') :
    key'.channel = key.channel ∧ key'.interest = key.interest ∧ key'.ready = key.ready := by
  have hkeys := congrArg (fun o => o.2.1[k - 1]?) h
  by_cases hzero : k = 0
  · simp [key?, hzero] at hk
  · simp only [key?, hzero, if_false] at hk hk'
    simpa [outlook, hk, hk'] using hkeys

theorem listenerOpen_of_outlook (c : ListenerId) : st'.listenerOpen c = st.listenerOpen c := by
  have hopen := congrArg (fun o => o.2.2[c]?) h
  simp only [outlook, List.getElem?_map] at hopen
  unfold listenerOpen
  cases hl : st.listeners[c]? <;> cases hl' : st'.listeners[c]? <;> simp_all

end Station

/-! ## The report of one key -/

/-- A descriptor that is not open lets a key count by what its ready set held before. -/
theorem Key.gains_invalid (key : Key) (selected : Bool) {events : Mask}
    (h : events.meets Native.invalid = true) :
    key.gains selected events = (!selected && key.ready.meets key.interest) := by
  cases selected with
  | true => simp [gains, key.reading_invalid true h, Reading.changed]
  | false => simp [gains, key.heed_invalid false h]

/-- Where two predicates differ at one member only, so do the counts. -/
theorem countP_of_differs_once {α : Type} [DecidableEq α] {xs : List α} {a : α}
    {f g : α → Bool} (hdistinct : xs.Nodup) (ha : a ∈ xs) (hg : g a = false)
    (hsame : ∀ b, b ≠ a → f b = g b) :
    xs.countP f = xs.countP g + if f a then 1 else 0 := by
  have hrest : (xs.erase a).countP f = (xs.erase a).countP g :=
    List.countP_congr fun b hb => by rw [hsame b (hdistinct.mem_erase_iff.mp hb).1]
  have hperm := List.perm_cons_erase ha
  rw [hperm.countP_eq f, hperm.countP_eq g, List.countP_cons, List.countP_cons, hrest, hg]
  rfl

section Visit

variable {st st' : Station} {s : SelectorId} {x : Selector} {polled : List Polled} {p : Polled}
  {key : Key} {events : Polled → Mask} (hpolling : Polling s x polled st) (hp : p ∈ polled)
  (hkey : st.key? p.key = some key)
include hpolling hp hkey

theorem Polling.live : key.valid = true ∧ st.listenerAlive key.channel = true := by
  obtain ⟨-, key', l, hkey', hvalid, hl, halive, -⟩ :=
    mem_polls.mp (hpolling.polls.mem_iff.mp hp)
  cases hkey.symm.trans hkey'
  exact ⟨hvalid, by simpa [listenerAlive, hl] using halive⟩

variable (hinvalid : (events p).meets Native.invalid = true)
include hinvalid

theorem Polling.hears_invalid : st.hears (events p) key = true := by
  have hsome : (events p != 0) = true := by
    rw [bne_iff_ne]
    intro hzero
    simp [hzero, Mask.meets] at hinvalid
  rw [hears, hsome, (hpolling.live hp hkey).2, Bool.true_and]

/-- The key counts if it was not selected and something is left in its ready set. -/
theorem Polling.counted_invalid : st.counted x.selected (p.key, events p) =
    (!x.selected.contains p.key && key.ready.meets key.interest) := by
  rw [counted, hkey, Option.any_some, hpolling.hears_invalid hp hkey hinvalid, Bool.true_and,
    key.gains_invalid _ hinvalid]

/-- The key is expelled if the provider is strict and its channel is open. -/
theorem Polling.condemned_invalid : st.condemned (p.key, events p) =
    (st.listenerOpen key.channel && st.provider.invalid.invalidatesKey) := by
  simp only [condemned, hkey, Option.any_some, condemns, blames,
    hpolling.hears_invalid hp hkey hinvalid, hinvalid, (hpolling.live hp hkey).1, Bool.true_and,
    Bool.and_true]

theorem Polling.countP_invalid :
    (reportOf events polled).countP (st.counted x.selected) =
      (reportOf (Function.update events p 0) polled).countP (st.counted x.selected) +
        if p.key ∉ x.selected ∧ key.ready.meets key.interest = true then 1 else 0 := by
  have hcounted := hpolling.counted_invalid hp hkey hinvalid
  have honce := countP_of_differs_once (f := fun q => st.counted x.selected (q.key, events q))
    (g := fun q => st.counted x.selected (q.key, Function.update events p 0 q))
    hpolling.distinct.of_map hp (by simp [counted, hears])
    fun q hq => by simp [Function.update_of_ne hq]
  rw [reportOf, reportOf, List.countP_map, List.countP_map]
  refine honce.trans ?_
  rw [hcounted]
  simp [Function.comp_def]

/-- The key is selected afterwards if it was before or if something is left in its ready set, unless
it is expelled. -/
theorem Concluded.selected_invalid (h : Concluded s x.selected (reportOf events polled) st st')
    {y : Selector} (hy : st'.selectors[s]? = some y) :
    p.key ∈ y.selected ↔ (p.key ∈ x.selected ∨ key.ready.meets key.interest = true) ∧
      ¬ (st.listenerOpen key.channel = true ∧ st.provider.invalid.invalidatesKey = true) := by
  cases (h.selector hpolling.selector).symm.trans hy
  have hcontains := st.contains_selected x (hpolling.reported_once events) (mem_reportOf hp events)
  rw [hpolling.counted_invalid hp hkey hinvalid, hpolling.condemned_invalid hp hkey hinvalid]
    at hcontains
  rw [← List.contains_iff_mem, hcontains]
  by_cases hselected : p.key ∈ x.selected
  · simp [hselected, Decidable.imp_iff_not_or]
  · simp [hselected, Decidable.imp_iff_not_or]

theorem Concluded.ready_invalid (h : Concluded s x.selected (reportOf events polled) st st') :
    ∃ key', st'.key? p.key = some key' ∧ key'.ready = key.ready := by
  refine ⟨_, by rw [h.told _ (mem_reportOf hp events), hkey]; rfl, ?_⟩
  have hready := congrArg Key.ready (key.heed_invalid (x.selected.contains p.key) hinvalid)
  rwa [heed, hpolling.hears_invalid hp hkey hinvalid, if_pos rfl]

end Visit

/-! ## Whole selections -/

namespace Action

variable {st st₁ : Station} {s : SelectorId} {x : Selector} {polled : List Polled} {p : Polled}
  {key : Key} {events : Polled → Mask}

/-- A key that is polled through a descriptor that is not open keeps its ready set, and what this
holds decides whether the key counts and is selected. -/
theorem invalid_report_counts_iff (h : st.Reachable) (hx : st.selectors[s]? = some x)
    (hbegin : (beginSelect s).run st = (.ok polled, st₁)) (hp : p ∈ polled)
    (hkey : st.key? p.key = some key) (hinvalid : (events p).meets Native.invalid = true)
    (meanwhile : Network) (woken : Bool) :
    ∃ n st' x' key',
      ((select s meanwhile (.reported (Function.update events p 0) woken)).run st).1 = .ok n ∧
      (select s meanwhile (.reported events woken)).run st =
        (.ok (n + if p.key ∉ x.selected ∧ key.ready.meets key.interest = true then 1
          else 0), st') ∧
      st'.selectors[s]? = some x' ∧
      (p.key ∈ x'.selected ↔
        (p.key ∈ x.selected ∨ key.ready.meets key.interest = true) ∧
          ¬ (st.listenerOpen key.channel = true ∧ st.provider.invalid.invalidatesKey = true)) ∧
      st'.key? p.key = some key' ∧ key'.ready = key.ready := by
  obtain ⟨hprocess, x₀, x₁, hx₀, -, hx₁, -, -, -, hkeys₁, hselected₁⟩ :=
    of_run_beginSelect hbegin
  cases hx.symm.trans hx₀
  obtain ⟨x₂, hpolling⟩ := polling_of_begin h.wellHeld hbegin
  cases hx₁.symm.trans hpolling.selector
  -- when it is polled, the key is selected as it was before, and holds what it held before
  have houtlook : st₁.outlook = st.outlook := by
    have hkept := outlook_processCancelled s st
    rwa [hprocess] at hkept
  obtain ⟨hregistered, key₁, -, hkey₁, -⟩ := mem_polls.mp (hpolling.polls.mem_iff.mp hp)
  have hselected : p.key ∈ x₁.selected ↔ p.key ∈ x.selected := by
    have hheld : p.key ∈ x₁.keys := List.mem_map_of_mem hregistered
    rw [hkeys₁] at hheld
    rw [hselected₁, List.mem_filter]
    exact and_iff_left (List.mem_filter.mp hheld).2
  -- the two selections, with what is reported of the key and without, visit the keys of one station
  have hmet := hpolling.meanwhile meanwhile
  let answer (told : Polled → Mask) : PollAnswer := .reported told woken
  have hevents (told : Polled → Mask) : (answer told).events? = some told := rfl
  have hhear (told : Polled → Mask) : (answer told).hear s { st₁ with network := meanwhile } =
      (answer events).hear s { st₁ with network := meanwhile } := by
    cases woken <;> rfl
  obtain ⟨wake, hheard⟩ := (answer events).polling_hear hmet
  obtain ⟨st', hrun, hconcluded⟩ := run_endSelect hmet (hevents events)
  obtain ⟨st'', hrun', -⟩ := run_endSelect hmet (hevents (Function.update events p 0))
  obtain ⟨selectors, hstation, -⟩ :=
    (answer events).hear_eq s { st₁ with network := meanwhile }
  rw [hhear] at hrun'
  generalize (answer events).hear s { st₁ with network := meanwhile } = heard
    at hheard hrun hrun' hconcluded hstation
  replace houtlook : heard.outlook = st.outlook := by rw [hstation]; exact houtlook
  replace hkey₁ : heard.key? p.key = some key₁ := by rw [hstation]; exact hkey₁
  obtain ⟨hchannel, hinterest, hready⟩ := key_of_outlook houtlook hkey hkey₁
  have hopen := listenerOpen_of_outlook houtlook key.channel
  have hprovider : heard.provider = st.provider := congrArg Prod.fst houtlook
  have hcount := hheard.countP_invalid hp hkey₁ hinvalid
  have hafter := hconcluded.selector hheard.selector
  have hiff := Concluded.selected_invalid hheard hp hkey₁ hinvalid hconcluded hafter
  obtain ⟨key', hkey', hready'⟩ := Concluded.ready_invalid hheard hp hkey₁ hinvalid hconcluded
  simp only [hselected, hchannel, hinterest, hready, hopen, hprovider] at hcount hiff
  have hquiet :=
    (run_select_of_begin hbegin meanwhile (answer (Function.update events p 0))).trans hrun'
  refine ⟨_, st', _, key', congrArg Prod.fst hquiet, ?_, hafter, hiff, hkey',
    hready'.trans hready⟩
  rw [run_select_of_begin hbegin, hrun, hcount]

/-- A key was selected once, with what its ready set says, and is not selected any more. -/
def staleStation : Station :=
  Station.after [.openListener, .configureBlocking 0 false, .openSelector,
    .register 0 0 Operation.accept,
    .select 0 {} (.reported (fun _ => Native.hangUp) false), .clearSelected 0]

theorem stale_key_selected :
    ∃ st' x' key', (select 0 {} (.reported (fun _ => Native.invalid) false)).run staleStation =
      (.ok 1, st') ∧
      st'.selectors[0]? = some x' ∧ 1 ∈ x'.selected ∧ st'.key? 1 = some key' ∧
      key'.ready = Operation.accept := by
  have hbegin : (beginSelect 0).run staleStation =
      (.ok [⟨1, 3, Native.input⟩], ((beginSelect 0).run staleStation).2) :=
    Prod.ext (by decide +kernel) rfl
  have hquiet : ((select 0 {} (.reported
      (Function.update (fun _ => Native.invalid) ⟨1, 3, Native.input⟩ 0) false)).run
        staleStation).1 = .ok 0 := by
    decide +kernel
  have hkey : staleStation.key? 1 = some ⟨0, 0, Operation.accept, Operation.accept, true⟩ := by
    decide +kernel
  have hx : staleStation.selectors[0]? = some { registered := [(1, Native.input)] } := by
    decide +kernel
  obtain ⟨n, st', x', key', hn, hrun, hx', hselected, hkey', hready⟩ :=
    @invalid_report_counts_iff _ _ _ _ _ _ _ (fun _ => Native.invalid) (reachable_after _) hx hbegin
      (List.mem_singleton_self _) hkey (by decide) {} false
  cases hquiet.symm.trans hn
  refine ⟨st', x', key', hrun, hx', hselected.mpr ⟨.inr (by decide), ?_⟩, hkey', hready⟩
  decide +kernel

end Action
end PolledChannels
