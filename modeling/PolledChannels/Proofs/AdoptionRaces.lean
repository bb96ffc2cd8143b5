import PolledChannels.Proofs.ListingRaces
import PolledChannels.Proofs.LiveKeys

/-!
# Registrations that race with a close of the selector

A registration runs together with a close of its selector, in any order of accesses. The
registration asks twice whether the selector is open and then hands its key over; the close flips
the selector and later takes everything out of it, once.

The selector is left empty, and the channel without a valid key for it, exactly if the key is not
handed over late: after the close took everything out.
-/

namespace PolledChannels

open Station Registry

/-- The key that the selector was handed and that the channel does not list yet. -/
def RegisterPoint.adopted : RegisterPoint → Option KeyId
  | list k => some k
  | _ => none

namespace EmptyPoint

/-- Everything was taken out of the collection. -/
def drained : EmptyPoint → Bool
  | shut | drain => false
  | _ => true

/-- The keys that are still to be made invalid. -/
def remaining : EmptyPoint → List KeyId
  | unqueue ks | unselect ks | wake ks => ks
  | void k rest _ => k :: rest
  | leave _ _ _ rest _ => rest
  | _ => []

@[simp] theorem drained_voiding (outcome : IoResult) (ks : List KeyId) :
    (voiding outcome ks).drained = true := by
  cases ks <;> rfl

@[simp] theorem remaining_voiding (outcome : IoResult) (ks : List KeyId) :
    (voiding outcome ks).remaining = ks := by
  cases ks <;> rfl

theorem ne_shut_of_drained {q : EmptyPoint} (h : q.drained = true) : q ≠ .shut := by
  rintro rfl
  cases h

end EmptyPoint

/-- While no key was handed over late: a valid key of the selector that the channel lists, or is
about to list, is in the collection before it is emptied, or is about to be made invalid. -/
structure Collected (c : ListenerId) (s : SelectorId) (g : Registry) (d : Standing) (x : Roster)
    (p : RegisterPoint) (q : EmptyPoint) : Prop where
  channel : g.channel c = some d
  selector : g.selector s = some x
  emptied : q.drained = true → x.held = []
  /-- A selector that was closed before is empty and is handed nothing. -/
  shut : q = .shut → x.isOpen = false → x.held = [] ∧ ∀ k, p ≠ .adopt k
  known : ∀ k, k ∈ d.keys ∨ p.pending = some k → ∃ t, g.key k = some t
  listed : ∀ k t, k ∈ d.keys ∨ p.adopted = some k → g.key k = some t → t.selector = s →
    t.valid = true → q.drained = false ∧ k ∈ x.held ∨ k ∈ q.remaining

section CloseOfSelector

variable {c e : ListenerId} {s : SelectorId} {v v' : Scene} {d : Standing} {x : Roster}
  {p p' : RegisterPoint} {q q' : EmptyPoint} {point point' : KillPoint} {k : KeyId}

theorem Collected.toPoint (h : Collected c s v.registry d x p q)
    (hadopt : ∀ k, p' = .adopt k → x.isOpen = true)
    (hpending : ∀ k, p'.pending = some k → p.pending = some k)
    (hadopted : p'.adopted = none) : Collected c s v.registry d x p' q where
  __ := h
  shut := by
    intro hshut hclosed
    refine ⟨(h.shut hshut hclosed).1, fun k hk => ?_⟩
    rw [hadopt k hk] at hclosed
    cases hclosed
  known := fun k hk => h.known k (hk.imp_right (hpending k))
  listed := by
    intro k t hk ht hselector hvalid
    refine h.listed k t (.inl (hk.resolve_right ?_)) ht hselector hvalid
    simp [hadopted]

theorem Collected.make (h : Collected c s v.registry d x .make q) (hk : v.registry.key k = none) :
    Collected c s (v.putKey k ⟨s, c, true⟩).registry d x (.askAgain k) q where
  __ := h
  shut := fun hshut hclosed => ⟨(h.shut hshut hclosed).1, by simp⟩
  known := by
    intro e he
    by_cases hek : e = k
    · exact ⟨⟨s, c, true⟩, by simp [Scene.putKey, hek]⟩
    · obtain ⟨t, ht⟩ :=
        h.known e (he.imp_right fun hpending => absurd (Option.some.inj hpending).symm hek)
      exact ⟨t, by simp [Scene.putKey, hek, ht]⟩
  listed := by
    intro e t he ht hselector hvalid
    have hlisted : e ∈ d.keys := he.resolve_right (by rintro ⟨⟩)
    have hek : e ≠ k := by
      rintro rfl
      obtain ⟨u, hu⟩ := h.known e (.inl hlisted)
      rw [hk] at hu
      cases hu
    have hold : v.registry.key e = some t := by simpa [Scene.putKey, hek] using ht
    exact h.listed e t (.inl hlisted) hold hselector hvalid

theorem Collected.adopt (h : Collected c s v.registry d x (.adopt k) q)
    (hearly : q.drained = false) :
    Collected c s (v.onSelector s (Roster.adopt k)).registry d (x.adopt k) (.list k) q where
  __ := h
  selector := by simp [Scene.onSelector, onSelector, h.selector]
  emptied := by
    intro hdrained
    rw [hearly] at hdrained
    cases hdrained
  shut := fun hshut hclosed => absurd rfl ((h.shut hshut hclosed).2 k)
  listed := by
    intro e t he ht hselector hvalid
    rcases he with hlisted | hadopted
    · rcases h.listed e t (.inl hlisted) ht hselector hvalid with ⟨-, hheld⟩ | hremains
      · exact .inl ⟨hearly, by simp [Roster.adopt, hheld]⟩
      · exact .inr hremains
    · cases hadopted
      exact .inl ⟨hearly, by simp [Roster.adopt]⟩

theorem Collected.list (h : Collected c s v.registry d x (.list k) q) :
    Collected c s (v.onChannel c (Standing.addKey k)).registry (d.addKey k) x (.interest k) q where
  __ := h
  channel := by simp [Scene.onChannel, onChannel, h.channel]
  shut := fun hshut hclosed => ⟨(h.shut hshut hclosed).1, by simp⟩
  known := by
    rintro e (hlisted | hpending)
    · rcases List.mem_append.mp hlisted with hold | hnew
      · exact h.known e (.inl hold)
      · exact h.known e (.inr (by rw [List.mem_singleton.mp hnew]; rfl))
    · cases hpending
  listed := by
    rintro e t (hlisted | hadopted) ht hselector hvalid
    · rcases List.mem_append.mp hlisted with hold | hnew
      · exact h.listed e t (.inl hold) ht hselector hvalid
      · exact h.listed e t (.inr (by rw [List.mem_singleton.mp hnew]; rfl)) ht hselector hvalid
    · cases hadopted

theorem Collected.register (h : Collected c s v.registry d x p q) (t : p.Turn c s v v' p')
    (hearly : ∀ k, p = .adopt k → q.drained = false) :
    ∃ d' x', Collected c s v'.registry d' x' p' q := by
  cases t with
  | make hk => exact ⟨d, x, h.make hk⟩
  | askAgain k hx hopen =>
    rw [h.selector] at hx
    cases hx
    exact ⟨d, x, h.toPoint (fun _ _ => hopen) (fun _ hk => hk) rfl⟩
  | adopt k => exact ⟨d, _, h.adopt (hearly k rfl)⟩
  | list k => exact ⟨_, x, h.list⟩
  | ended outcome => exact ⟨d, x, h⟩
  | _ => exact ⟨d, x, h.toPoint (by rintro _ ⟨⟩) (by rintro _ ⟨⟩) rfl⟩

/-- The close goes on: keys only become invalid and leave the channel's list, and what was going to
be emptied or made invalid still is. -/
theorem Collected.toStage {d' : Standing} {x' : Roster} {g : Registry}
    (h : Collected c s v.registry d x p q) (hlive : v.registry.RevivesNoKey g)
    (hplaces : v.registry.SamePlaces g) (hchannel : g.channel c = some d')
    (hkeys : ∀ k ∈ d'.keys, k ∈ d.keys) (hselector : g.selector s = some x')
    (hnext : q' ≠ .shut) (hemptied : q'.drained = true → x'.held = [])
    (hcarry : ∀ k t, g.key k = some t → t.valid = true →
      (q.drained = false ∧ k ∈ x.held ∨ k ∈ q.remaining) →
        q'.drained = false ∧ k ∈ x'.held ∨ k ∈ q'.remaining) :
    Collected c s g d' x' p q' where
  channel := hchannel
  selector := hselector
  emptied := hemptied
  shut := fun hshut => absurd hshut hnext
  known := by
    intro k hk
    obtain ⟨t, ht⟩ := h.known k (hk.imp_left (hkeys k))
    obtain ⟨t', ht', -⟩ := hplaces k t ht
    exact ⟨t', ht'⟩
  listed := by
    intro k t hk ht hs hvalid
    exact hcarry k t ht hvalid
      (h.listed k t (hk.imp_left (hkeys k)) (hlive k t ht hvalid) hs hvalid)

theorem Registry.SamePlaces.void (g : Registry) (k : KeyId) :
    g.SamePlaces (g.onKey k Tie.void) := by
  intro f t ht
  by_cases hf : f = k
  · subst hf
    exact ⟨t.void, by simp [onKey, ht], rfl, rfl⟩
  · exact ⟨t, by simp [onKey, hf, ht], rfl, rfl⟩

theorem KillPoint.Turn.registry (t : point.Turn e v v' point') :
    v'.registry.key = v.registry.key ∧ v'.registry.selector = v.registry.selector := by
  cases t <;> exact ⟨rfl, rfl⟩

theorem LeavePoint.Turn.selector {point point' : LeavePoint}
    (t : point.Turn e k v v' point') : v'.registry.selector = v.registry.selector := by
  cases t with
  | kill t hbusy => exact t.registry.2
  | _ => rfl

theorem KillPoint.Turn.listed (t : point.Turn e v v' point') (hd : v.registry.channel c = some d) :
    ∃ d', v'.registry.channel c = some d' ∧ d'.keys = d.keys := by
  have hput {d' d'' : Standing} (hd' : v.registry.channel e = some d')
      (hkeys : d''.keys = d'.keys) :
      ∃ d₁, (v.putChannel e d'').registry.channel c = some d₁ ∧ d₁.keys = d.keys := by
    by_cases hce : c = e
    · subst hce
      rw [hd] at hd'
      cases hd'
      exact ⟨d'', by simp [Scene.putChannel], hkeys⟩
    · exact ⟨d, by simp [Scene.putChannel, hce, hd], rfl⟩
  cases t with
  | promoteOnly hd' hraw | promote released hd' hkind hname => exact hput hd' rfl
  | _ => exact ⟨d, hd, rfl⟩

theorem LeavePoint.Turn.listed {point point' : LeavePoint}
    (t : point.Turn e k v v' point') (hd : v.registry.channel c = some d) :
    v.registry.RevivesNoKey v'.registry ∧ v.registry.SamePlaces v'.registry ∧
      ∃ d', v'.registry.channel c = some d' ∧ ∀ k ∈ d'.keys, k ∈ d.keys := by
  cases t with
  | @strike d' hd' =>
    refine ⟨.refl _, .refl _, ?_⟩
    by_cases hce : c = e
    · subst hce
      rw [hd] at hd'
      cases hd'
      exact ⟨d.dropKey k, by simp [Scene.putChannel], fun k hk => (List.mem_filter.mp hk).1⟩
    · exact ⟨d, by simp [Scene.putChannel, hce, hd], fun _ hk => hk⟩
  | void => exact ⟨.void _ k, .void _ k, d, hd, fun _ hk => hk⟩
  | kill t hbusy =>
    obtain ⟨d', hd', hkeys⟩ := t.listed hd
    have hkey := t.registry.1
    refine ⟨fun k t ht _ => hkey ▸ ht, fun k t ht => ⟨t, hkey ▸ ht, rfl, rfl⟩,
      d', hd', ?_⟩
    exact fun k hk => hkeys ▸ hk
  | _ => exact ⟨.refl _, .refl _, d, hd, fun _ hk => hk⟩

theorem Collected.onSelector (h : Collected c s v.registry d x p q) (f : Roster → Roster)
    (hnext : q' ≠ .shut) (hemptied : q'.drained = true → (f x).held = [])
    (hcarry : ∀ k, q.drained = false ∧ k ∈ x.held ∨ k ∈ q.remaining →
      q'.drained = false ∧ k ∈ (f x).held ∨ k ∈ q'.remaining) :
    Collected c s (v.onSelector s f).registry d (f x) p q' :=
  h.toStage (.refl _) (.refl _) h.channel (fun _ hk => hk)
    (by simp [Scene.onSelector, Registry.onSelector, h.selector]) hnext hemptied
    fun k _ _ _ => hcarry k

theorem Collected.close (h : Collected c s v.registry d x p q) (t : q.Turn s v v' q') :
    ∃ d' x', Collected c s v'.registry d' x' p q' := by
  -- once the collection was emptied, what is still to be made invalid is all that counts
  have hrest (hdrained : q.drained = true) {k : KeyId}
      (hk : q.drained = false ∧ k ∈ x.held ∨ k ∈ q.remaining) : k ∈ q.remaining := by
    rcases hk with ⟨hearly, -⟩ | hk
    · rw [hdrained] at hearly
      cases hearly
    · exact hk
  cases t with
  | late hx hclosed =>
    rw [h.selector] at hx
    cases hx
    have hempty := (h.shut rfl hclosed).1
    refine ⟨d, x, h.toStage (.refl _) (.refl _) h.channel (fun _ hk => hk) h.selector (by simp)
      (fun _ => hempty) ?_⟩
    rintro k t - - (⟨-, hheld⟩ | hremains)
    · rw [hempty] at hheld
      cases hheld
    · cases hremains
  | shut hx hopen =>
    refine ⟨d, _, h.onSelector _ (by simp) Bool.false_ne_true.elim ?_⟩
    rintro k (⟨-, hheld⟩ | hremains)
    · exact .inl ⟨rfl, hheld⟩
    · cases hremains
  | drain hx =>
    rw [h.selector] at hx
    cases hx
    refine ⟨d, _, h.onSelector _ (by simp) (fun _ => rfl) ?_⟩
    rintro k (⟨-, hheld⟩ | hremains)
    · exact .inr hheld
    · cases hremains
  | @unqueue y ks hx =>
    refine ⟨d, _, h.onSelector _ (by simp) (fun _ => h.emptied rfl) fun k hk => ?_⟩
    exact .inr (List.mem_append_left y.queued (hrest rfl hk))
  | unselect ks =>
    exact ⟨d, _, h.onSelector _ (by simp) (fun _ => h.emptied rfl) fun k hk =>
      .inr (hrest rfl hk)⟩
  | wake ks | left e k rest result outcome =>
    refine ⟨d, x, h.toStage (.refl _) (.refl _) h.channel (fun _ hk => hk) h.selector
      (EmptyPoint.ne_shut_of_drained (by simp)) (fun _ => h.emptied rfl) fun k t _ _ hk => ?_⟩
    exact .inr (by rw [EmptyPoint.remaining_voiding]; exact hrest rfl hk)
  | void k rest outcome hnext =>
    have hremaining : q'.drained = true ∧ q'.remaining = rest := by
      rcases hnext with rfl | ⟨e, rfl⟩
      · exact ⟨by simp, by simp⟩
      · exact ⟨rfl, rfl⟩
    refine ⟨d, x, h.toStage (.void _ k) (.void _ k) h.channel (fun _ hk => hk) h.selector
      (EmptyPoint.ne_shut_of_drained hremaining.1) (fun _ => h.emptied rfl) ?_⟩
    intro e t he hvalid hk
    right
    rw [hremaining.2]
    rcases List.mem_cons.mp (hrest rfl hk) with rfl | hmem
    · simp only [Scene.onKey, onKey, if_true, Option.map_eq_some_iff] at he
      obtain ⟨u, -, rfl⟩ := he
      cases hvalid
    · exact hmem
  | leave rest outcome t hbusy =>
    obtain ⟨hlive, hplaces, d', hd', hkeys⟩ := t.listed h.channel
    refine ⟨d', x, h.toStage hlive hplaces hd' hkeys (by rw [t.selector]; exact h.selector)
      (by simp) (fun _ => h.emptied rfl) fun k t _ _ hk => ?_⟩
    exact .inr (hrest rfl hk)
  | ended outcome => exact ⟨d, x, h⟩

/-- The selector was handed a key after it was emptied. -/
def Stranded (s : SelectorId) (g : Registry) (q : EmptyPoint) : Prop :=
  q.drained = true ∧ ∃ x, g.selector s = some x ∧ x.held ≠ []

theorem Stranded.register (h : Stranded s v.registry q) (t : p.Turn c s v v' p') :
    Stranded s v'.registry q := by
  obtain ⟨hdrained, x, hx, hheld⟩ := h
  refine ⟨hdrained, ?_⟩
  cases t with
  | adopt k =>
    exact ⟨x.adopt k, by simp [Scene.onSelector, onSelector, hx], by simp [Roster.adopt]⟩
  | _ => exact ⟨x, hx, hheld⟩

theorem Stranded.close (h : Stranded s v.registry q) (t : q.Turn s v v' q') :
    Stranded s v'.registry q' := by
  obtain ⟨hdrained, x, hx, hheld⟩ := h
  have hon (f : Roster → Roster) (hf : (f x).held = x.held) :
      ∃ y, (v.onSelector s f).registry.selector s = some y ∧ y.held ≠ [] :=
    ⟨f x, by simp [Scene.onSelector, onSelector, hx], hf ▸ hheld⟩
  cases t with
  | late hx' hclosed | shut hx' hopen | drain hx' => cases hdrained
  | unqueue ks hx' | unselect ks => exact ⟨rfl, hon _ rfl⟩
  | wake ks | left e k rest result outcome => exact ⟨by simp, x, hx, hheld⟩
  | void k rest outcome hnext =>
    refine ⟨?_, x, hx, hheld⟩
    rcases hnext with rfl | ⟨e, rfl⟩
    · simp
    · rfl
  | leave rest outcome t hbusy =>
    exact ⟨rfl, x, by rw [t.selector]; exact hx, hheld⟩
  | ended outcome => exact ⟨rfl, x, hx, hheld⟩

end CloseOfSelector

namespace Interleaving

section CloseOfSelector

variable {c : ListenerId} {s : SelectorId} {ops : Mask} {r : Interleaving}

/-- The registration is about to hand its key to the selector when the close emptied it. -/
def AdoptsLate (c : ListenerId) (s : SelectorId) (ops : Mask) (r : Interleaving) : Prop :=
  ∃ k q, r.calls = [.register c s ops (.adopt k), .closeSelector s q] ∧ q.drained = true

def KeysCollected (c : ListenerId) (s : SelectorId) (ops : Mask) (r : Interleaving) : Prop :=
  ∃ d x p q, r.calls = [.register c s ops p, .closeSelector s q] ∧
    Collected c s r.station.registry d x p q

def KeyStranded (c : ListenerId) (s : SelectorId) (ops : Mask) (r : Interleaving) : Prop :=
  ∃ p q, r.calls = [.register c s ops p, .closeSelector s q] ∧ Stranded s r.station.registry q

theorem KeysCollected.play (h : KeysCollected c s ops r) {j : Nat}
    (hearly : ¬ (j = 0 ∧ AdoptsLate c s ops r)) : KeysCollected c s ops (r.play j) := by
  obtain ⟨d, x, p, q, hcalls, h⟩ := h
  refine play_two hcalls ⟨d, x, p, q, hcalls, h⟩ (fun st a told hj turn => ?_)
    fun st b told turn => ?_
  · cases turn with
    | register _ turn =>
      have hlate (k : KeyId) (hp : p = .adopt k) : q.drained = false := by
        subst hp
        exact Bool.not_eq_true _ ▸ fun hdrained => hearly ⟨hj, k, q, hcalls, hdrained⟩
      obtain ⟨d', x', h'⟩ := Collected.register (v := r.station.scene) h turn hlate
      exact ⟨d', x', _, q, rfl, h'⟩
  · cases turn with
    | closeSelector turn =>
      obtain ⟨d', x', h'⟩ := Collected.close (v := r.station.scene) h turn
      exact ⟨d', x', p, _, rfl, h'⟩

theorem KeysCollected.stranded (h : KeysCollected c s ops r)
    (hlate : AdoptsLate c s ops r) : KeyStranded c s ops (r.play 0) := by
  obtain ⟨st, calls, told⟩ := r
  obtain ⟨d, x, p, q, rfl, h⟩ := h
  obtain ⟨k, q', hcalls, hdrained⟩ := hlate
  cases hcalls
  have hplay :
      (⟨st, [.register c s ops (.adopt k), .closeSelector s q], told⟩ : Interleaving).play 0 =
      ⟨st.modifySelector s fun x => { x with registered := x.registered ++ [(k, (0 : Mask))] },
        [.register c s ops (.list k), .closeSelector s q], told⟩ := by
    show (⟨_, _, told ++ []⟩ : Interleaving) = _
    rw [List.append_nil]
    rfl
  rw [hplay]
  refine ⟨_, q, rfl, hdrained, ?_⟩
  obtain ⟨y, hy, rfl⟩ := Option.map_eq_some_iff.mp h.selector
  let adopt (x : Selector) : Selector := { x with registered := x.registered ++ [(k, (0 : Mask))] }
  have hadopted : (st.modifySelector s adopt).selectors[s]? = some (adopt y) := by
    simp [modifySelector, hy]
  refine ⟨_, registry_selector_of hadopted, ?_⟩
  simp [Selector.roster, Selector.keys, adopt]

theorem KeyStranded.play (h : KeyStranded c s ops r) (j : Nat) :
    KeyStranded c s ops (r.play j) := by
  obtain ⟨p, q, hcalls, h⟩ := h
  refine play_two hcalls ⟨p, q, hcalls, h⟩ (fun st a told _ turn => ?_) fun st b told turn => ?_
  · cases turn with
    | register _ turn => exact ⟨_, q, rfl, Stranded.register (v := r.station.scene) h turn⟩
  · cases turn with
    | closeSelector turn => exact ⟨p, _, rfl, Stranded.close (v := r.station.scene) h turn⟩

/-- At the beginning a valid key that the channel lists is held by its selector. -/
theorem keysCollected_initial {history : List Deed} {l : Listener} {x : Selector}
    (hl : (Station.after history).listeners[c]? = some l)
    (hx : (Station.after history).selectors[s]? = some x) :
    KeysCollected c s ops
      ⟨Station.after history, [.register c s ops .enter, .closeSelector s .shut], []⟩ := by
  have hsound := sound_after history
  have hchannel := registry_channel_of hl
  have hselector := registry_selector_of hx
  refine ⟨l.standing, x.roster, .enter, .shut, rfl, ?_⟩
  exact
    { channel := hchannel
      selector := hselector
      emptied := Bool.false_ne_true.elim
      shut := fun _ hclosed => ⟨(hsound.selector s _ hselector).shut hclosed, by simp⟩
      known := by
        rintro k (hlisted | hpending)
        · obtain ⟨t, ht, -⟩ := (hsound.channel c _ hchannel).own k hlisted
          exact ⟨t, ht⟩
        · cases hpending
      listed := by
        rintro k t - ht rfl hvalid
        obtain ⟨d, y, -, hy, hkey⟩ := hsound.key k t ht
        rw [hselector] at hy
        cases hy
        exact .inl ⟨rfl, (hkey.live hvalid).1.resolve_right (by simp)⟩ }

/-- A registration of a channel with a selector runs together with a close of the selector, in any
order of accesses. Once both are over the selector is empty and the channel lists no valid key for
it, exactly if the registration did not hand its key over late. -/
theorem closed_selector_is_empty_iff {history : List Deed} {l : Listener} {x : Selector}
    (hl : (Station.after history).listeners[c]? = some l)
    (hx : (Station.after history).selectors[s]? = some x) {moves : List Nat} {r : Interleaving}
    (hr : r = (⟨Station.after history, [.register c s ops .enter, .closeSelector s .shut], []⟩ :
      Interleaving).after moves)
    (hover : ∀ call ∈ r.calls, call.isOver = true) :
    ((∀ x', r.station.selectors[s]? = some x' → x'.registered = []) ∧
        ∀ l' k key, r.station.listeners[c]? = some l' → k ∈ l'.core.keys →
          r.station.key? k = some key → key.selector = s → key.valid = false) ↔
      ¬ (⟨Station.after history, [.register c s ops .enter, .closeSelector s .shut], []⟩ :
        Interleaving).Meets 0 (AdoptsLate c s ops) moves := by
  have hkept := kept_unless_meets (keysCollected_initial hl hx : KeysCollected c s ops _)
    (fun _ _ h hearly => h.play hearly) (fun _ h hlate => h.stranded hlate) (fun _ j h => h.play j)
    moves
  rw [← hr] at hkept
  have hclosed {p : RegisterPoint} {q : EmptyPoint}
      (hcalls : r.calls = [.register c s ops p, .closeSelector s q]) :
      ∃ outcome, q = .ended outcome := by
    have hq : q.isOver = true := hover (.closeSelector s q) (by simp [hcalls])
    cases q with
    | ended outcome => exact ⟨outcome, rfl⟩
    | _ => cases hq
  rcases hkept with ⟨⟨d, y, p, q, hcalls, h⟩, hnever⟩ | ⟨⟨p, q, hcalls, h⟩, hmet⟩
  · obtain ⟨_, rfl⟩ := hclosed hcalls
    refine iff_of_true ⟨fun x' hx' => ?_, fun l' k key hl' hk hkey hs => ?_⟩ hnever
    · have hy := h.selector
      rw [registry_selector_of hx'] at hy
      cases hy
      exact List.map_eq_nil_iff.mp (h.emptied rfl)
    · have hd := h.channel
      rw [registry_channel_of hl'] at hd
      cases hd
      by_contra hvalid
      rcases h.listed k key.tie (.inl hk) (registry_key_of hkey) hs
        (by simpa [Key.tie] using hvalid) with ⟨hearly, -⟩ | hremains
      · cases hearly
      · cases hremains
  · refine iff_of_false ?_ (not_not_intro hmet)
    rintro ⟨hempty, -⟩
    obtain ⟨-, y, hy, hheld⟩ := h
    obtain ⟨x', hx', rfl⟩ := Option.map_eq_some_iff.mp hy
    exact hheld (by simp [Selector.roster, Selector.keys, hempty x' hx'])

end CloseOfSelector

/-- The registration comes to where it hands its key over, the close runs from beginning to end, and
the registration goes on. -/
def adoptedAfterClose : List Nat :=
  List.replicate 5 0 ++ List.replicate 5 1 ++ List.replicate 5 0

theorem closed_selector_keeps_key :
    ∃ r,
    r = (⟨unregistered, [.register 0 0 Operation.accept .enter, .closeSelector 0 .shut], []⟩ :
        Interleaving).after adoptedAfterClose ∧
      (∀ call ∈ r.calls, call.isOver = true) ∧
      ¬ ((∀ x', r.station.selectors[0]? = some x' → x'.registered = []) ∧
        ∀ l' k key, r.station.listeners[0]? = some l' → k ∈ l'.core.keys →
          r.station.key? k = some key → key.selector = 0 → key.valid = false) := by
  have hl : unregistered.listeners[0]? =
      some { id := 1, descriptor := { number := 3 }, core := { blocking := false } } := by
    decide
  have hx : unregistered.selectors[0]? = some ({} : Selector) := by
    decide
  have hover : ∀ call ∈ ((⟨unregistered, [.register 0 0 Operation.accept .enter,
      .closeSelector 0 .shut], []⟩ : Interleaving).after adoptedAfterClose).calls,
      call.isOver = true := by
    decide
  refine ⟨_, rfl, hover, fun hgood =>
    (closed_selector_is_empty_iff hl hx rfl hover).mp hgood ?_⟩
  exact ⟨List.replicate 5 0 ++ List.replicate 5 1, List.replicate 4 0, rfl, 1,
    .ended (.ok ()), rfl, rfl⟩

end Interleaving
end PolledChannels
