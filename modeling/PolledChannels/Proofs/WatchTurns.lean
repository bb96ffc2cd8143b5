import PolledChannels.Proofs.AdoptionRaces
import PolledChannels.Proofs.Watches

/-!
# What a move of a watch does

A key of a station can only become invalid, a channel can only lose keys from its list, and a
selector can only lose keys from its collection while threads select, cancel, close and wake: the
registry drops keys. Beyond this a move is the access of a cancellation, an access of the selecting
thread, or quiet.

The turns of a selection say once what each of its accesses may do. Invariants of watches are
derived from these facts, and the accesses are not opened again.
-/

namespace PolledChannels

open PolledChannels.Action Station Registry

variable {c : ListenerId} {p' : CancelPoint} {p : ClosePoint} {st st' : Station} {s : SelectorId}

/-! ## Registries that drop keys -/

namespace Registry

/-- The selector has the key in one of its lists. -/
def Has (g : Registry) (list : Roster → List KeyId) (s : SelectorId) (k : KeyId) : Prop :=
  ∃ x, g.selector s = some x ∧ k ∈ list x

/-- The selector holds the key. -/
def Holds (g : Registry) (s : SelectorId) (k : KeyId) : Prop := g.Has Roster.held s k

/-- The selector has queued the key. -/
def Queues (g : Registry) (s : SelectorId) (k : KeyId) : Prop := g.Has Roster.queued s k

/-- The channel is kept and lists the key. -/
def Lists (g : Registry) (c : ListenerId) (k : KeyId) : Prop :=
  ∃ d, g.channel c = some d ∧ d.alive = true ∧ k ∈ d.keys

/-- The selector is open and kept. -/
def Usable (g : Registry) (s : SelectorId) : Prop :=
  ∃ x, g.selector s = some x ∧ x.isOpen = true ∧ x.alive = true

/-- Keys become invalid and leave lists and collections, and nothing else happens to them. -/
structure DropsKeys (g g' : Registry) : Prop where
  key : ∀ k, g'.key k = g.key k ∨ g'.key k = (g.key k).map Tie.void
  lists : ∀ {c k}, g'.Lists c k → g.Lists c k
  holds : ∀ {s k}, g'.Holds s k → g.Holds s k
  usable : ∀ {s}, g.Usable s → g'.Usable s

variable {g g' : Registry} {f : Roster → Roster}

theorem DropsKeys.refl (g : Registry) : g.DropsKeys g :=
  ⟨fun _ => .inl rfl, id, id, id⟩

theorem dropsKeys_void (g : Registry) (k : KeyId) : g.DropsKeys (g.onKey k Tie.void) where
  key := by
    intro f
    by_cases hf : f = k
    · subst hf
      exact .inr (by simp [onKey])
    · exact .inl (by simp [onKey, hf])
  lists := id
  holds := id
  usable := id

theorem onSelector_selector (g : Registry) (s t : SelectorId) (f : Roster → Roster) :
    (g.onSelector s f).selector t = if t = s then (g.selector s).map f else g.selector t := rfl

theorem Has.of_onSelector {list : Roster → List KeyId} {t : SelectorId} {k : KeyId}
    (h : (g.onSelector s f).Has list t k) (hlist : ∀ x, ∀ k ∈ list (f x), k ∈ list x) :
      g.Has list t k := by
  obtain ⟨x, hx, hk⟩ := h
  rw [onSelector_selector] at hx
  split at hx
  · next ht =>
    obtain ⟨y, hy, rfl⟩ := Option.map_eq_some_iff.mp hx
    exact ⟨y, ht ▸ hy, hlist y k hk⟩
  · exact ⟨x, hx, hk⟩

theorem dropsKeys_onSelector (g : Registry) (s : SelectorId)
    (hheld : ∀ x, ∀ k ∈ (f x).held, k ∈ x.held)
    (husable : ∀ x, (f x).isOpen = x.isOpen ∧ (f x).alive = x.alive) :
    g.DropsKeys (g.onSelector s f) where
  key := fun _ => .inl rfl
  lists := id
  holds := fun hk => hk.of_onSelector hheld
  usable := by
    rintro t ⟨x, hx, hopen, halive⟩
    by_cases ht : t = s
    · subst ht
      obtain ⟨hopen', halive'⟩ := husable x
      exact ⟨f x, by simp [onSelector_selector, hx], hopen'.trans hopen, halive'.trans halive⟩
    · exact ⟨x, by simp [onSelector_selector, ht, hx], hopen, halive⟩

theorem dropsKeys_putChannel {d d' : Standing} (hd : g.channel c = some d)
    (hkeys : ∀ k ∈ d'.keys, k ∈ d.keys) (halive : d'.alive = d.alive) :
    g.DropsKeys (g.putChannel c d') where
  key := fun _ => .inl rfl
  lists := by
    rintro e k ⟨x, hx, hkept, hk⟩
    rcases put_cases hx with ⟨rfl, rfl⟩ | ⟨-, hx⟩
    · exact ⟨d, hd, halive ▸ hkept, hkeys k hk⟩
    · exact ⟨x, hx, hkept, hk⟩
  holds := id
  usable := id

end Registry

/-! ## Accesses that drop keys -/

section Turns

variable {c : ListenerId} {k : KeyId} {v v' : Scene}

theorem KillPoint.Turn.dropsKeys {p p' : KillPoint} (t : p.Turn c v v' p') :
    v.registry.DropsKeys v'.registry := by
  cases t with
  | promoteOnly hd _ | promote _ hd _ _ => exact dropsKeys_putChannel hd (fun _ h => h) rfl
  | _ => exact .refl _

theorem LeavePoint.Turn.dropsKeys {p p' : LeavePoint} (t : p.Turn c k v v' p') :
    v.registry.DropsKeys v'.registry := by
  cases t with
  | strike hd => exact dropsKeys_putChannel hd (fun _ h => (List.mem_filter.mp h).1) rfl
  | void => exact dropsKeys_void _ _
  | kill t _ => exact t.dropsKeys
  | _ => exact .refl _

theorem CancelPoint.Turn.dropsKeys {p : CancelPoint} (t : p.Turn v v' p') :
    v.registry.DropsKeys v'.registry := by
  cases t with
  | swap _ _ => exact dropsKeys_void _ _
  | queue s k => exact dropsKeys_onSelector _ s (fun _ _ h => h) fun _ => ⟨rfl, rfl⟩
  | _ => exact .refl _

theorem ClosePoint.Turn.dropsKeys {p' : ClosePoint} (t : p.Turn c v v' p') :
    v.registry.DropsKeys v'.registry := by
  cases t with
  | shut hd _ => exact dropsKeys_putChannel hd (fun _ h => h) rfl
  | kill _ t _ | cancel _ _ t _ => exact t.dropsKeys
  | _ => exact .refl _

end Turns

/-! ## Wakeups -/

/-- A byte waits in the wake pipe of the selector. -/
def Station.Woken (st : Station) (s : SelectorId) : Prop :=
  ∃ x, st.selectors[s]? = some x ∧ 0 < x.wake.size

theorem Pipe.pushByte_pos (p : Pipe) : 0 < p.pushByte.size := by
  unfold pushByte
  split
  · exact Nat.succ_pos _
  · next hfull =>
    have hcapacity : 0 < capacity := by decide
    omega

theorem Station.Woken.of_selectors (h : st.Woken s) (hsame : st'.selectors = st.selectors) :
    st'.Woken s := by
  obtain ⟨x, hx, hsize⟩ := h
  exact ⟨x, hsame ▸ hx, hsize⟩

theorem Station.Woken.of_modifySelector (h : st.Woken s) (t : SelectorId)
    {f : Selector → Selector}
    (hf : ∀ x, x.wake.size ≤ (f x).wake.size) : (st.modifySelector t f).Woken s := by
  obtain ⟨x, hx, hsize⟩ := h
  by_cases hst : t = s
  · subst hst
    exact ⟨f x, selector_modifySelector hx f, Nat.lt_of_lt_of_le hsize (hf x)⟩
  · exact ⟨x, by simpa [modifySelector, List.getElem?_modify_ne f _ hst] using hx, hsize⟩

theorem Pipe.size_le_pushByte (p : Pipe) : p.size ≤ p.pushByte.size := by
  unfold pushByte
  split
  · exact Nat.le_succ _
  · exact Nat.le_refl _

theorem Station.registry_selector_congr (h : st'.selectors = st.selectors) :
    st'.registry.selector = st.registry.selector := by
  funext s
  simp [registry, h]

/-- What happens to a station while no key is queued, taken or made invalid. -/
structure Station.Quiet (st st' : Station) : Prop where
  key : st'.registry.key = st.registry.key
  selector : st'.registry.selector = st.registry.selector
  dropsKeys : st.registry.DropsKeys st'.registry
  woken : ∀ {s}, st.Woken s → st'.Woken s

/-- What is registered is left alone, and no byte is taken out of a pipe. -/
theorem Station.Quiet.of_registry (hsame : st'.registry = st.registry)
    (hwoken : ∀ {s}, st.Woken s → st'.Woken s) : st.Quiet st' :=
  ⟨congrArg _ hsame, congrArg _ hsame, hsame ▸ .refl _, hwoken⟩

theorem Station.Quiet.refl (st : Station) : st.Quiet st :=
  .of_registry rfl id

/-! ## Frames -/

section Frames

variable {c : ListenerId}

theorem selectors_hidesAccepts : HidesAccepts Station.selectors where
  world _ _ := rfl
  signals _ _ := rfl
  listeners _ _ _ _ := rfl
  connections _ _ _ _ := rfl
  reports _ _ := rfl
  connected _ _ _ := rfl
  standings _ _ _ _ := rfl
  interrupts _ _ := rfl

theorem selectors_keptByClosing (c : ListenerId) (x : List Selector) :
    KeptByClosing c fun st => st.selectors = x where
  touch _ := keeps_modify fun _ h => h
  threads _ _ h := h
  invalidate k := keeps_modify fun st h => (st.selectors_modifyKey k _).trans h

theorem LeavePoint.selectors_step {k : KeyId} {p p' : LeavePoint}
    (h : (p.step c k).run st = (.ok p', st')) : st'.selectors = st.selectors := by
  have hframes : Frames Station.selectors (p.step c k) := fun x =>
    keeps_step (selectors_keptByClosing c x)
      (fun call _ _ _ => selectors_hidesAccepts.accessDescriptor c call x)
      fun event _ => selectors_hidesAccepts.emit _ event x
  exact hframes.of_run h

/-- A close leaves the selectors alone until it cancels keys. -/
theorem ClosePoint.frames_step
    (h : ∀ point rest outcome, p = .cancel point rest outcome → point = .ended) :
    Frames Station.selectors (p.step c) :=
  fun x => keeps_step (selectors_keptByClosing c x)
    (fun call _ => selectors_hidesAccepts.accessDescriptor c call x)
    (fun event _ => selectors_hidesAccepts.emit _ event x) fun point rest outcome hp => by
      rw [h point rest outcome hp]
      exact keeps_pure _

end Frames

/-! ## Cancellations -/

namespace CancelPoint

variable {st st' : Station} {s : SelectorId} {k : KeyId}

theorem not_holds_of_lost (h : (step (.find s k)).run st = (.ok .ended, st'))
    (husable : st.registry.Usable s) : ¬ st.registry.Holds s k := by
  obtain ⟨x, hx, -, halive⟩ := husable
  obtain ⟨y, hy, rfl⟩ := selector_of_registry hx
  rintro ⟨z, hz, hk⟩
  rw [hx] at hz
  cases hz
  have hkept : st.selectorAlive s = true := by
    rw [selectorAlive_eq, hx]
    exact halive
  have hfound : (st.selectorAlive s && y.keys.contains k) = true := by
    rw [hkept, show y.keys.contains k = true from List.contains_iff_mem.mpr hk]
    rfl
  simp only [step, run_bind, run_get, hy, hfound, if_true] at h
  cases h

theorem woken_of_wake (h : (step (.wake s)).run st = (.ok p', st'))
    (husable : st.registry.Usable s) :
    st'.Woken s := by
  obtain ⟨x, hx, -⟩ := husable
  obtain ⟨y, hy, -⟩ := selector_of_registry hx
  cases h
  exact ⟨_, selector_modifySelector hy _, y.wake.pushByte_pos⟩

theorem woken_step {p : CancelPoint} (h : p.step.run st = (.ok p', st')) (hs : st.Woken s) :
    st'.Woken s := by
  cases p with
  | swap k =>
    simp only [step, run_bind, run_get] at h
    split at h
    · cases h
      exact hs
    · split at h
      · cases h
        exact hs.of_selectors (st.selectors_modifyKey k _)
      · cases h
        exact hs
  | find t k =>
    simp only [step, run_bind, run_get] at h
    split at h
    · cases h
      exact hs
    · split at h <;>
      · cases h
        exact hs
  | queue t k =>
    cases h
    exact hs.of_modifySelector t fun _ => Nat.le_refl _
  | wake t =>
    cases h
    exact hs.of_modifySelector t fun x => x.wake.size_le_pushByte
  | ended =>
    cases h
    exact hs

end CancelPoint

/-! ## Visits -/

namespace VisitPoint

theorem cancelling_close (c : ListenerId) (p : ClosePoint) (a : CancelPoint) :
    (close c p).cancelling = some a ↔ ∃ rest outcome, p = .cancel a rest outcome := by
  cases p <;> simp [cancelling, eq_comm]

theorem cancelling_next {outcome : IoResult} {ks : List KeyId} {b : CancelPoint}
    (h : (close c (ClosePoint.cancelling outcome ks)).cancelling = some b) :
      ∃ k, b = .swap k := by
  cases ks with
  | nil => cases h
  | cons k ks =>
    cases h
    exact ⟨k, rfl⟩

/-- A close that is between two cancellations, or in none, leaves the keys alone and may be about to
begin a cancellation. -/
theorem close_turn {v v' : Scene} {p' : ClosePoint} (t : p.Turn c v v' p')
    (hrest : ∀ point rest outcome, p = .cancel point rest outcome → point = .ended) :
    v'.registry.key = v.registry.key ∧
      ∀ b, (close c p').cancelling = some b → ∃ k, b = .swap k := by
  cases t with
  | kill _ t _ =>
    refine ⟨t.registry.1, fun b hb => ?_⟩
    cases hb
  | sweep outcome _ | cancelled rest outcome => exact ⟨rfl, fun b hb => cancelling_next hb⟩
  | cancel rest outcome _ hbusy =>
    rw [hrest _ rest outcome rfl] at hbusy
    cases hbusy
  | _ =>
    refine ⟨rfl, fun b hb => ?_⟩
    cases hb

theorem close_quiet {p' : ClosePoint}
    (hrest : ∀ point rest outcome, p = .cancel point rest outcome → point = .ended)
    (h : (p.step c).run st = (.ok p', st')) : st.Quiet st' := by
  have hselectors : st'.selectors = st.selectors := (ClosePoint.frames_step hrest).of_run h
  have t := ClosePoint.turn h
  exact ⟨(close_turn t hrest).1, registry_selector_congr hselectors, t.dropsKeys,
    fun hs => hs.of_selectors hselectors⟩

/-- An access of a visitor is one of the cancellation that it is in, or it is quiet; then the
visitor is back, or it may be about to begin a cancellation. -/
theorem step_cases {p p' : VisitPoint} (h : p.step.run st = (.ok p', st')) :
    (∃ a b, p.cancelling = some a ∧ a.isOver = false ∧ p'.cancelling = some b ∧
      a.step.run st = (.ok b, st')) ∨
    ((∀ a, p.cancelling = some a → a = .ended) ∧
      (p' = p ∨ ∀ b, p'.cancelling = some b → ∃ k, b = .swap k) ∧ st.Quiet st') := by
  cases p with
  | cancel a =>
    obtain ⟨b, hstep, rfl⟩ := of_run_map h
    cases a with
    | ended =>
      cases hstep
      exact .inr ⟨fun a ha => (Option.some.inj ha).symm, .inl rfl, .refl _⟩
    | _ => exact .inl ⟨_, b, rfl, rfl, rfl, hstep⟩
  | close c p =>
    obtain ⟨q, hstep, rfl⟩ := of_run_map h
    by_cases hbusy : ∃ a rest outcome, p = .cancel a rest outcome ∧ a.isOver = false
    · obtain ⟨a, rest, outcome, rfl, hbusy⟩ := hbusy
      rw [ClosePoint.step_cancel rest outcome hbusy] at hstep
      obtain ⟨b, haccess, rfl⟩ := of_run_map hstep
      exact .inl ⟨a, b, rfl, hbusy, rfl, haccess⟩
    · have hrest : ∀ a rest outcome, p = .cancel a rest outcome → a = .ended := by
        intro a rest outcome hp
        cases a with
        | ended => rfl
        | _ => exact absurd ⟨_, rest, outcome, hp, rfl⟩ hbusy
      refine .inr ⟨fun a ha => ?_, .inr (close_turn (ClosePoint.turn hstep) hrest).2,
        close_quiet hrest hstep⟩
      obtain ⟨rest, outcome, hp⟩ := (cancelling_close c p a).mp ha
      exact hrest a rest outcome hp
  | wakeup s written =>
    cases written with
    | true =>
      cases h
      exact .inr ⟨by rintro _ ⟨⟩, .inl rfl, .refl _⟩
    | false =>
      cases h
      refine .inr ⟨by rintro _ ⟨⟩, .inr (by rintro _ ⟨⟩), ?_⟩
      exact .of_registry (congrArg Scene.registry (st.scene_wakeup s))
        fun hs => hs.of_modifySelector s fun x => x.wake.size_le_pushByte

theorem dropsKeys {p p' : VisitPoint} (h : p.step.run st = (.ok p', st')) :
    st.registry.DropsKeys st'.registry := by
  rcases step_cases h with ⟨a, b, -, -, -, haccess⟩ | ⟨-, -, hquiet⟩
  · exact (CancelPoint.turn haccess).dropsKeys
  · exact hquiet.dropsKeys

end VisitPoint

/-! ## Selections -/

namespace SelectPoint

/-- Between the look which keys were selected before and the second taking of the queue, and
in no cancellation. -/
def gathers : SelectPoint → Bool
  | sample _ | visit _ | blame _ _ _ | tell _ _ _ _ | weigh _ _ | select _ => true
  | _ => false

/-- The poll was answered. -/
def isAnswered : SelectPoint → Bool
  | drain _ | sample _ | ended _ => true
  | _ => false

/-- What an access of a selection does. -/
inductive Turn (s : SelectorId) (st : Station) : SelectPoint → Station → SelectPoint → Prop
  | enter : Turn s st .enter st (.take .poll)
  | refused (h : ¬ st.registry.Usable s) : Turn s st .enter st (.ended (.error .illegalSelector))
  | take {x : Selector} (next : Afterwards) (hx : st.selectors[s]? = some x) :
      Turn s st (.take next) (st.modifySelector s fun x => { x with cancelled := [] })
        (proceed ⟨x.cancelled, .ok (), next⟩)
  | forget (k : KeyId) (batch : Batch) :
      Turn s st (.forget k batch)
        (st.modifySelector s fun x =>
          { x with registered := x.registered.filter fun p => p.1 != k })
        (.unselect k batch)
  | unselect (k : KeyId) (batch : Batch) :
      Turn s st (.unselect k batch)
        (st.modifySelector s fun x => { x with selected := x.selected.filter fun y => y != k })
        (.look k batch)
  | look {k : KeyId} {key : Key} (batch : Batch) (hk : st.key? k = some key) :
      Turn s st (.look k batch) st (.leave key.channel k .strike batch)
  | gone {k : KeyId} (batch : Batch)
      (h : ∀ key, st.key? k = some key → st.listenerAlive key.channel = false) :
      Turn s st (.look k batch) st (proceed batch)
  | leave {c : ListenerId} {k : KeyId} {point point' : LeavePoint} {st' : Station} (batch : Batch)
      (h : (point.step c k).run st = (.ok point', st')) :
      Turn s st (.leave c k point batch) st' (.leave c k point' batch)
  | left (c : ListenerId) (k : KeyId) (result outcome : IoResult) (batch : Batch) :
      Turn s st (.leave c k (.ended result) batch) st (proceed { batch with outcome })
  | snapshot (polled : List Polled) : Turn s st .snapshot st (.poll polled)
  | poll {p' : SelectPoint} (polled : List Polled) (h : p'.isAnswered = true) :
      Turn s st (.poll polled) st p'
  | read (reported : List (KeyId × Mask)) :
      Turn s st (.drain reported)
        (st.modifySelector s fun x =>
          { x with wake := { x.wake with size := x.wake.size - chunk } })
        (.drain reported)
  | drained (reported : List (KeyId × Mask)) : Turn s st (.drain reported) st (.sample reported)
  | gather {p p' : SelectPoint} {st' : Station} (hp : p.gathers = true) (hquiet : st.Quiet st')
      (hp' : p'.gathers = true ∨ ∃ k harvest, p' = .cancel k (.swap k) harvest) :
        Turn s st p st' p'
  | cancel {point point' : CancelPoint} {st' : Station} (k : KeyId) (harvest : Harvest)
      (hbusy : point.isOver = false) (h : point.step.run st = (.ok point', st')) :
      Turn s st (.cancel k point harvest) st' (.cancel k point' harvest)
  | cancelled {p' : SelectPoint} (k : KeyId) (harvest : Harvest) (h : p'.gathers = true) :
      Turn s st (.cancel k .ended harvest) st p'
  | select (harvest : Harvest) :
      Turn s st (.select harvest)
        (st.modifySelector s fun x => { x with selected := x.selected ++ harvest.newly })
        (.take (.answer harvest.count))
  | again (answer : Except Failure Nat) : Turn s st (.ended answer) st .enter

theorem gathers_visited (k : KeyId) (changed : Bool) (harvest : Harvest) :
    (visited k changed harvest).gathers = true := by
  unfold visited
  split <;> rfl

theorem isAnswered_answered (polled : List Polled) (answer : PollAnswer) :
    (answered polled answer).isAnswered = true := by
  cases answer with
  | failed e =>
    simp only [answered]
    split <;> rfl
  | reported events woken => cases woken <;> rfl
  | wakeFailed e => rfl

theorem quiet_tell (st : Station) (c : ListenerId) (event : Event) :
    st.Quiet (st.tell c event) := by
  refine .of_registry (congrArg Scene.registry (st.scene_tell c event)) fun hs => hs.of_selectors ?_
  unfold Station.tell
  split <;> rfl

theorem quiet_setReady (st : Station) (k : KeyId) (ops : Mask) :
    st.Quiet (st.modifyKey k fun key => { key with ready := ops }) := by
  have hsame := registry_modifyKey st k (f := fun key => { key with ready := ops })
    (g := id) fun _ => rfl
  rw [onKey_id] at hsame
  exact .of_registry hsame fun hs => hs.of_selectors (st.selectors_modifyKey k _)

theorem turn {answer : PollAnswer} {p p' : SelectPoint}
    (h : (p.step s answer).run st = (.ok p', st')) :
    Turn s st p st' p' := by
  cases p with
  | enter =>
    obtain ⟨x, hx, h⟩ := of_run_selector_bind h
    split at h
    · cases h
      exact .enter
    · next hclosed =>
      cases h
      refine .refused ?_
      rintro ⟨y, hy, hopen, -⟩
      rw [registry_selector_of hx] at hy
      cases hy
      exact hclosed hopen
  | take next =>
    obtain ⟨ks, htake, rfl⟩ := of_run_map h
    obtain ⟨x, hx, htake⟩ := of_run_selector_bind htake
    cases htake
    exact .take next hx
  | forget k batch =>
    cases h
    exact .forget k batch
  | unselect k batch =>
    cases h
    exact .unselect k batch
  | look k batch =>
    simp only [step, run_bind, run_get] at h
    split at h
    · next hk =>
      cases h
      exact .gone batch fun key hkey => by rw [hk] at hkey; cases hkey
    · next key hk =>
      split at h
      · cases h
        exact .look batch hk
      · next hdead =>
        cases h
        refine .gone batch fun key' hkey => ?_
        rw [hk] at hkey
        cases hkey
        exact Bool.not_eq_true _ ▸ hdead
  | leave c k point batch =>
    cases point with
    | ended result =>
      cases h
      exact .left c k result _ batch
    | _ =>
      obtain ⟨point', hstep, rfl⟩ := of_run_map h
      exact .leave batch hstep
  | snapshot =>
    obtain ⟨polled, hsnapshot, rfl⟩ := of_run_map h
    obtain ⟨st₂, st₃, hget, hsnapshot⟩ := of_run_bind hsnapshot
    cases hget
    obtain ⟨x, hx, hsnapshot⟩ := of_run_selector_bind hsnapshot
    cases hsnapshot
    exact .snapshot _
  | poll polled =>
    cases h
    exact .poll polled (isAnswered_answered polled answer)
  | drain reported =>
    obtain ⟨x, hx, h⟩ := of_run_selector_bind h
    split at h
    · cases h
      exact .drained reported
    · cases h
      exact .read reported
  | sample reported =>
    obtain ⟨x, hx, h⟩ := of_run_selector_bind h
    cases h
    exact .gather rfl (.refl _) (.inl rfl)
  | visit harvest =>
    obtain ⟨already, _ | ⟨⟨k, events⟩, rest⟩, count, newly⟩ := harvest
    · cases h
      exact .gather rfl (.refl _) (.inl rfl)
    · simp only [step, run_bind, run_get] at h
      split at h
      · cases h
        exact .gather rfl (.refl _) (.inl rfl)
      · split at h
        · cases h
          exact .gather rfl (.refl _) (.inl rfl)
        · split at h
          · cases h
            exact .gather rfl (.refl _) (.inl rfl)
          · cases h
            exact .gather rfl (quiet_setReady _ _ _) (.inl (gathers_visited _ _ _))
  | blame c k harvest =>
    obtain ⟨l, hl, h⟩ := of_run_listener_bind h
    split at h
    · cases h
      exact .gather rfl (.refl _) (.inl rfl)
    · cases h
      exact .gather rfl (.refl _) (.inl (gathers_visited _ _ _))
  | tell c k policy harvest =>
    obtain ⟨l, hl, h⟩ := of_run_listener_bind h
    rw [run_bind, run_emit] at h
    dsimp only at h
    split at h
    · cases h
      exact .gather rfl (quiet_tell _ _ _) (.inr ⟨k, harvest, rfl⟩)
    · cases h
      exact .gather rfl (quiet_tell _ _ _) (.inl (gathers_visited _ _ _))
  | cancel k point harvest =>
    cases point with
    | ended =>
      cases h
      exact .cancelled k harvest (gathers_visited _ _ _)
    | _ =>
      obtain ⟨point', hstep, rfl⟩ := of_run_map h
      exact .cancel k harvest rfl hstep
  | weigh k harvest =>
    obtain ⟨ready, st₁, hready, hnext⟩ := of_run_bind h
    obtain rfl : st₁ = st := (frames_isReady k : Frames id (isReady k)).of_run hready
    split at hnext
    · cases hnext
      exact .gather rfl (.refl _) (.inl rfl)
    · cases hnext
      exact .gather rfl (.refl _) (.inl rfl)
  | select harvest =>
    cases h
    exact .select harvest
  | ended answer =>
    cases h
    exact .again answer

theorem Turn.dropsKeys {p p' : SelectPoint} (t : Turn s st p st' p') :
    st.registry.DropsKeys st'.registry := by
  have hselector (f : Selector → Selector) (g : Roster → Roster)
      (hfg : ∀ x, (f x).roster = g x.roster) (hheld : ∀ x, ∀ k ∈ (g x).held, k ∈ x.held)
      (husable : ∀ x, (g x).isOpen = x.isOpen ∧ (g x).alive = x.alive) :
      st.registry.DropsKeys (st.modifySelector s f).registry := by
    rw [registry_modifySelector st s hfg]
    exact dropsKeys_onSelector _ s hheld husable
  cases t with
  | take next hx =>
    exact hselector _ Roster.takeQueue (fun _ => rfl) (fun _ _ h => h) fun _ => ⟨rfl, rfl⟩
  | forget k batch =>
    refine hselector _ (fun x => { x with held := x.held.filter (· != k) }) (fun x => ?_)
      (fun _ _ h => (List.mem_filter.mp h).1) fun _ => ⟨rfl, rfl⟩
    simp [Selector.roster, Selector.keys, Selector.alive, List.filter_map, Function.comp_def]
  | unselect k batch =>
    exact hselector _ (Roster.unselect (· != k)) (fun _ => rfl) (fun _ _ h => h) fun _ =>
      ⟨rfl, rfl⟩
  | leave batch h => exact (LeavePoint.turn h).dropsKeys
  | read reported => exact hselector _ id (fun _ => rfl) (fun _ _ h => h) fun _ => ⟨rfl, rfl⟩
  | gather hp hquiet hp' => exact hquiet.dropsKeys
  | cancel k harvest hbusy h => exact (CancelPoint.turn h).dropsKeys
  | select harvest =>
    exact hselector _ (fun x => { x with selected := x.selected ++ harvest.newly }) (fun _ => rfl)
      (fun _ _ h => h) fun _ => ⟨rfl, rfl⟩
  | _ => exact .refl _

end SelectPoint
end PolledChannels
