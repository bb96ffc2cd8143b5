import PolledChannels.Proofs.CallTurns
import PolledChannels.Proofs.Deeds

/-!
# Registrations that race with a close of the channel

A registration runs together with a close of its channel, in any order of
accesses. The registration looks at the open flag long before it lists its key,
and the close looks at the keys twice: to see whether it may kill the channel, and
to take the keys that it cancels. 
No valid key is left, and a killed channel lists none, exactly if the key is not listed late: after
the close took the keys, or after it found none and decided to kill.
-/

namespace PolledChannels

open Registry

namespace Interleaving

/-- The call at place `i` makes a move from an interleaving of the kind. -/
def Meets (r : Interleaving) (i : Nat) (P : Interleaving → Prop) (moves : List Nat) : Prop :=
  ∃ earlier later, moves = earlier ++ i :: later ∧ P (r.after earlier)

section Meets

variable {r : Interleaving} {i : Nat} {P : Interleaving → Prop}

theorem meets_concat {moves : List Nat} {j : Nat} :
    r.Meets i P (moves ++ [j]) ↔ r.Meets i P moves ∨ j = i ∧ P (r.after moves) := by
  constructor
  · rintro ⟨earlier, later, hmoves, hP⟩
    rcases List.eq_nil_or_concat later with rfl | ⟨later', k, rfl⟩
    · obtain ⟨rfl, hlast⟩ := List.append_inj' hmoves rfl
      cases hlast
      exact .inr ⟨rfl, hP⟩
    · have hsplit : moves ++ [j] = (earlier ++ i :: later') ++ [k] := by simpa using hmoves
      obtain ⟨rfl, -⟩ := List.append_inj' hsplit rfl
      exact .inl ⟨earlier, later', rfl, hP⟩
  · rintro (⟨earlier, later, rfl, hP⟩ | ⟨rfl, hP⟩)
    · exact ⟨earlier, later ++ [j], by simp, hP⟩
    · exact ⟨moves, [], rfl, hP⟩

/-- What every move keeps but those of one call from one kind of state holds until such a move, and
what such a move does lasts. -/
theorem kept_unless_meets {Good Bad : Interleaving → Prop} (hstart : Good r)
    (hkeep : ∀ r j, Good r → ¬ (j = i ∧ P r) → Good (r.play j))
    (hmeet : ∀ r, Good r → P r → Bad (r.play i)) (hlast : ∀ r j, Bad r → Bad (r.play j))
    (moves : List Nat) :
    Good (r.after moves) ∧ ¬ r.Meets i P moves ∨ Bad (r.after moves) ∧
    r.Meets i P moves := by
  induction moves using List.reverseRecOn with
  | nil =>
    refine .inl ⟨hstart, ?_⟩
    rintro ⟨earlier, later, hmoves, -⟩
    simp at hmoves
  | append_singleton moves j ih =>
    rw [after_concat, meets_concat]
    rcases ih with ⟨hgood, hnever⟩ | ⟨hbad, hmet⟩
    · by_cases hnow : j = i ∧ P (r.after moves)
      · obtain ⟨rfl, hP⟩ := hnow
        exact .inr ⟨hmeet _ hgood hP, .inr ⟨rfl, hP⟩⟩
      · refine .inl ⟨hkeep _ j hgood hnow, ?_⟩
        rintro (hmet | hmet)
        · exact hnever hmet
        · exact hnow hmet
    · exact .inr ⟨hlast _ j hbad, .inl hmet⟩

end Meets

/-- What holds of two calls holds after a move, if a turn of the first keeps it
and one of the second. -/
theorem play_two {r : Interleaving} {a b : Call} {j : Nat} {P : Interleaving → Prop}
    (hcalls : r.calls = [a, b]) (hr : P r)
    (hfirst : ∀ st a' told, j = 0 → a.Turn r.station.scene st.scene a' →
      P ⟨st, [a', b], told⟩)
    (hsecond : ∀ st b' told, b.Turn r.station.scene st.scene b' → P ⟨st, [a, b'], told⟩) :
    P (r.play j) := by
  rcases r.play_cases j with hsame | ⟨x, y, st, hx, -, hstep, hplay⟩
  · rwa [hsame]
  · rw [hplay, hcalls]
    rw [hcalls] at hx
    match j, hx with
    | 0, hx =>
      cases hx
      exact hfirst st y _ rfl (Call.turn hstep)
    | 1, hx =>
      cases hx
      exact hsecond st y _ (Call.turn hstep)
    | j + 2, hx => simp at hx

end Interleaving

namespace RegisterPoint

/-- Between the first look at the channel and the end. -/
def underWay : RegisterPoint → Bool
  | enter | ended _ => false
  | _ => true

/-- The key that was made and that the channel does not list yet. -/
def pending : RegisterPoint → Option KeyId
  | askAgain k | adopt k | list k => some k
  | _ => none

/-- The selector was found open, and is to be asked again. -/
def asks : RegisterPoint → Bool
  | make | askAgain _ => true
  | _ => false

end RegisterPoint

namespace ClosePoint

/-- The close found no key, and goes on to kill whatever is listed meanwhile. -/
def decided : ClosePoint → Bool
  | kill _ .mark | kill _ (.act _) | kill _ (.promote _) => true
  | _ => false

/-- The keys that are to be cancelled were taken. -/
def swept : ClosePoint → Bool
  | cancel _ _ _ | ended _ => true
  | _ => false

/-- The keys that are still to be cancelled. -/
def remaining : ClosePoint → List KeyId
  | cancel (.swap k) rest _ => k :: rest
  | cancel _ rest _ => rest
  | _ => []

@[simp] theorem swept_cancelling (outcome : IoResult) (ks : List KeyId) :
    (cancelling outcome ks).swept = true := by
  cases ks <;> rfl

@[simp] theorem decided_cancelling (outcome : IoResult) (ks : List KeyId) :
    (cancelling outcome ks).decided = false := by
  cases ks <;> rfl

@[simp] theorem remaining_cancelling (outcome : IoResult) (ks : List KeyId) :
    (cancelling outcome ks).remaining = ks := by
  cases ks <;> rfl

end ClosePoint

/-- While no key was listed late: every valid key of the channel is listed before the close takes
the keys, or is about to be cancelled, or is not listed yet. -/
structure Timely (c : ListenerId) (s : SelectorId) (g : Registry) (d : Standing)
    (p : RegisterPoint) (q : ClosePoint) : Prop where
  channel : g.channel c = some d
  begun : d.lifecycle ≠ .uninitialized
  spared : q.decided = true ∨ d.lifecycle = .killed → d.keys = []
  /-- A registration gets past its first look only while the channel is open. -/
  entered : p.underWay = true → q = .shut → d.isOpen = true
  opened : p.asks = true → ∃ x, g.selector s = some x ∧ x.isOpen = true
  fresh : ∀ k, p.pending = some k →
    g.key k = some ⟨s, c, true⟩ ∧ k ∉ d.keys ∧ k ∉ q.remaining
  known : ∀ k, k ∈ d.keys ∨ k ∈ q.remaining → ∃ t, g.key k = some t
  live : ∀ k t, g.key k = some t → t.channel = c → t.valid = true →
    p.pending = some k ∨ k ∈ q.remaining ∨
      q.swept = false ∧ k ∈ d.keys ∧ (q = .shut → d.isOpen = true)

/-- The key was listed late: the channel lists it and is killed or is going to be, or it is valid
and nobody is going to cancel it. -/
def Missed (c : ListenerId) (k : KeyId) (g : Registry) (q : ClosePoint) : Prop :=
  (∃ d, g.channel c = some d ∧ k ∈ d.keys ∧
    (q.decided = true ∨ d.lifecycle = .killed)) ∨
    q.swept = true ∧ k ∉ q.remaining ∧ ∃ t, g.key k = some t ∧ t.channel = c ∧
    t.valid = true

section CloseOfChannel

variable {c : ListenerId} {s : SelectorId} {v v' : Scene} {d : Standing}
  {p p' : RegisterPoint} {q q' : ClosePoint} {k : KeyId}

theorem Timely.toPoint (h : Timely c s v.registry d p q)
    (hunder : p'.underWay = true → q = .shut → d.isOpen = true)
    (hopened : p'.asks = true → ∃ x, v.registry.selector s = some x ∧ x.isOpen = true)
    (hpending : p'.pending = p.pending) : Timely c s v.registry d p' q where
  __ := h
  entered := hunder
  opened := hopened
  fresh := fun k hk => h.fresh k (hpending ▸ hk)
  live := fun k t hk hc hvalid => hpending ▸ h.live k t hk hc hvalid

/-- The close goes on: it takes keys from the list alone, and what was going to be
cancelled still is. -/
theorem Timely.advance (h : Timely c s v.registry d p q) (hnext : q' ≠ .shut)
    (hdecided : q'.decided = true → d.keys = [])
    (hremaining : ∀ k ∈ q'.remaining, k ∈ d.keys ∨ k ∈ q.remaining)
    (hcarry : ∀ k t, v.registry.key k = some t → t.valid = true →
      k ∈ q.remaining ∨ q.swept = false ∧ k ∈ d.keys ∧ (q = .shut → d.isOpen = true) →
        k ∈ q'.remaining ∨ q'.swept = false ∧ k ∈ d.keys) :
          Timely c s v.registry d p q' where
  __ := h
  spared := fun hlate => hlate.elim hdecided fun hkilled => h.spared (.inr hkilled)
  entered := fun _ hshut => absurd hshut hnext
  fresh := by
    intro k hk
    obtain ⟨hkey, hunlisted, hunswept⟩ := h.fresh k hk
    exact ⟨hkey, hunlisted, fun hmem => (hremaining k hmem).elim hunlisted hunswept⟩
  known := fun k hk => h.known k (hk.elim .inl (hremaining k))
  live := by
    intro k t hk hc hvalid
    refine (h.live k t hk hc hvalid).imp_right fun hcovered => ?_
    exact (hcarry k t hk hvalid hcovered).imp_right fun hlisted =>
      ⟨hlisted.1, hlisted.2, fun hshut => absurd hshut hnext⟩

theorem Timely.toStage (h : Timely c s v.registry d p q) (hnext : q' ≠ .shut)
    (hswept : q'.swept = q.swept) (hremaining : q'.remaining = q.remaining)
    (hdecided : q'.decided = true → d.keys = []) : Timely c s v.registry d p q' := by
  refine h.advance hnext hdecided (fun k hk => .inr (hremaining ▸ hk)) fun k t _ _ hcovered => ?_
  rw [hremaining, hswept]
  exact hcovered.imp_right fun hlisted => ⟨hlisted.1, hlisted.2.1⟩

theorem Timely.toUndecided (h : Timely c s v.registry d p q) (hnext : q' ≠ .shut)
    (hswept : q'.swept = q.swept) (hremaining : q'.remaining = q.remaining)
    (hdecided : q'.decided = false) : Timely c s v.registry d p q' :=
  h.toStage hnext hswept hremaining fun hlate => absurd hlate (ne_true_of_eq_false hdecided)

/-- A key that is made is known to the registration alone. -/
theorem Timely.make (h : Timely c s v.registry d .make q) (hk : v.registry.key k = none) :
    Timely c s (v.putKey k ⟨s, c, true⟩).registry d (.askAgain k) q := by
  have hnew (hmem : k ∈ d.keys ∨ k ∈ q.remaining) : False := by
    obtain ⟨t, ht⟩ := h.known k hmem
    cases hk.symm.trans ht
  exact
    { h with
      fresh := by
        rintro e ⟨rfl⟩
        exact ⟨by simp [Scene.putKey], fun hlisted => hnew (.inl
          hlisted), fun hswept => hnew (.inr hswept)⟩
      known := by
        intro e he
        by_cases hek : e = k
        · exact ⟨_, by simp [Scene.putKey, hek]; rfl⟩
        · obtain ⟨t, ht⟩ := h.known e he
          exact ⟨t, by simp [Scene.putKey, hek, ht]⟩
      live := by
        intro e t he hc hvalid
        by_cases hek : e = k
        · exact .inl (by rw [hek]; rfl)
        · have hold : v.registry.key e = some t := by simpa [Scene.putKey, hek] using he
          rcases h.live e t hold hc hvalid with hpending | hrest
          · cases hpending
          · exact .inr hrest }

/-- A key is listed in time: the close has not taken the keys, and will find this one. -/
theorem Timely.list (h : Timely c s v.registry d (.list k) q)
    (hdecided : q.decided = false) (hkilled : d.lifecycle ≠ .killed) (hswept : q.swept = false) :
    Timely c s (v.onChannel c (Standing.addKey k)).registry (d.addKey k) (.interest k) q := by
  obtain ⟨hkey, -, -⟩ := h.fresh k rfl
  exact
    { channel := by simp [Scene.onChannel, onChannel, h.channel]
      begun := h.begun
      spared := by
        rintro (hlate | hlate)
        · rw [hdecided] at hlate
          cases hlate
        · exact absurd hlate hkilled
      entered := fun _ hshut => h.entered rfl hshut
      opened := Bool.false_ne_true.elim
      fresh := by rintro _ ⟨⟩
      known := by
        intro e he
        have hcases : e = k ∨ e ∈ d.keys ∨ e ∈ q.remaining := by
          simpa [Standing.addKey, or_assoc, or_left_comm] using he
        rcases hcases with rfl | hold
        · exact ⟨_, hkey⟩
        · exact h.known e hold
      live := by
        intro e t he hc hvalid
        rcases h.live e t he hc hvalid with hpending | hremains | ⟨-, hlisted, hopen⟩
        · cases hpending
          exact .inr (.inr ⟨hswept, by simp [Standing.addKey], h.entered rfl⟩)
        · exact .inr (.inl hremains)
        · exact .inr (.inr ⟨hswept, by simp [Standing.addKey, hlisted], hopen⟩) }

theorem Timely.register (h : Timely c s v.registry d p q) (t : p.Turn c s v v' p')
    (hearly : ∀ k, p = .list k →
      q.decided = false ∧ d.lifecycle ≠ .killed ∧ q.swept = false) :
    ∃ d', Timely c s v'.registry d' p' q := by
  cases t with
  | refused e | shut | spent k e | hand k =>
    exact ⟨d, h.toPoint Bool.false_ne_true.elim Bool.false_ne_true.elim rfl⟩
  | enter hd hopen =>
    rw [h.channel] at hd
    cases hd
    exact ⟨d, h.toPoint (fun _ _ => hopen) Bool.false_ne_true.elim rfl⟩
  | found k | missing | valid k | invalid k | askAgain k hx hopen | interest k | store k =>
    exact ⟨d, h.toPoint (fun _ => h.entered rfl) Bool.false_ne_true.elim rfl⟩
  | askSelector hx hopen =>
    exact ⟨d, h.toPoint (fun _ => h.entered rfl) (fun _ => ⟨_, hx, hopen⟩) rfl⟩
  | make hk => exact ⟨d, h.make hk⟩
  | shutAgain k hx hclosed =>
    -- nobody closes the selector meanwhile
    obtain ⟨x, hx', hopen⟩ := h.opened rfl
    rw [hx] at hx'
    cases hx'
    rw [hclosed] at hopen
    cases hopen
  | adopt k =>
    refine ⟨d, ?_⟩
    exact
      { h with
        entered := fun _ => h.entered rfl
        opened := Bool.false_ne_true.elim }
  | list k =>
    obtain ⟨hdecided, hkilled, hswept⟩ := hearly k rfl
    exact ⟨_, h.list hdecided hkilled hswept⟩
  | ended outcome => exact ⟨d, h⟩

theorem Timely.putChannel (h : Timely c s v.registry d p q) {d' : Standing}
    (hkeys : d'.keys = d.keys) (hbegun : d'.lifecycle ≠ .uninitialized) (hnext : q' ≠ .shut)
    (hswept : q'.swept = false) (hremaining : q'.remaining = q.remaining)
    (hspared : q'.decided = true ∨ d'.lifecycle = .killed → d.keys = []) :
    Timely c s (v.putChannel c d').registry d' p q' where
  channel := by simp [Scene.putChannel]
  begun := hbegun
  spared := fun hlate => hkeys ▸ hspared hlate
  entered := fun _ hshut => absurd hshut hnext
  opened := h.opened
  fresh := fun k hk => hkeys ▸ hremaining ▸ h.fresh k hk
  known := fun k hk => h.known k (hkeys ▸ hremaining ▸ hk)
  live := by
    intro k t hk hc hvalid
    rw [hremaining, hkeys]
    rcases h.live k t hk hc hvalid with hpending | hremains | ⟨-, hlisted, -⟩
    · exact .inl hpending
    · exact .inr (.inl hremains)
    · exact .inr (.inr ⟨hswept, hlisted, fun hshut => absurd hshut hnext⟩)

theorem Timely.kill {closing : Event × IoResult} {point point' : KillPoint}
    (h : Timely c s v.registry d p (.kill closing point)) (t : point.Turn c v v' point') :
    ∃ d', Timely c s v'.registry d' p (.kill closing point') := by
  cases t with
  | already hd hkilled | weigh hd huse | askOpen hd | forbidden hd hforbidden =>
    exact ⟨d, h.toUndecided (by simp) rfl rfl rfl⟩
  | promoteOnly hd hraw =>
    rw [h.channel] at hd
    cases hd
    exact absurd hraw h.begun
  | permitted hd hpermitted =>
    rw [h.channel] at hd
    cases hd
    refine ⟨d, h.toStage (by simp) rfl rfl fun _ => ?_⟩
    cases hlife : d.lifecycle with
    | uninitialized => exact absurd hlife h.begun
    | inUse =>
      rw [hlife] at hpermitted
      simp only [Lifecycle.killPermitted, Bool.not_not, Bool.and_eq_true] at hpermitted
      exact List.isEmpty_iff.mp hpermitted.2
    | killed => exact h.spared (.inr hlife)
  | marked | mark | act => exact ⟨d, h.toStage (by simp) rfl rfl fun _ => h.spared (.inl rfl)⟩
  | promote released hd hkind hname =>
    rw [h.channel] at hd
    cases hd
    exact ⟨_, h.putChannel rfl (by simp) (by simp) rfl rfl fun _ => h.spared (.inl rfl)⟩
  | ended event released => exact ⟨d, h⟩

theorem Timely.cancel {point point' : CancelPoint} {rest : List KeyId}
    {outcome : IoResult} (h : Timely c s v.registry d p (.cancel point rest outcome))
    (t : point.Turn v v' point') :
    Timely c s v'.registry d p (.cancel point' rest outcome) := by
  cases t with
  | @swap k t hk hvalid =>
    have hother (e : KeyId) (he : e ≠ k) :
        (v.onKey k Tie.void).registry.key e = v.registry.key e := by
      simp [Scene.onKey, onKey, he]
    have hvoid : (v.onKey k Tie.void).registry.key k = some t.void := by
      simp [Scene.onKey, onKey, hk]
    exact
      { h with
        spared := fun hlate => h.spared (hlate.imp_left Bool.false_ne_true.elim)
        entered := by rintro _ ⟨⟩
        fresh := by
          intro e he
          obtain ⟨hkey, hunlisted, hunswept⟩ := h.fresh e he
          have hne : e ≠ k := fun heq => hunswept (heq ▸ List.mem_cons_self)
          exact ⟨(hother e hne).trans hkey, hunlisted, fun hmem =>
            hunswept (List.mem_cons_of_mem k hmem)⟩
        known := by
          intro e he
          by_cases hek : e = k
          · subst hek
            exact ⟨_, hvoid⟩
          · rw [hother e hek]
            exact h.known e (he.imp_right (List.mem_cons_of_mem k))
        live := by
          intro e u he hc hlive
          by_cases hek : e = k
          · subst hek
            rw [hvoid] at he
            cases he
            cases hlive
          · rw [hother e hek] at he
            rcases h.live e u he hc hlive with hpending | hremains | ⟨hearly, -⟩
            · exact .inl hpending
            · exact .inr (.inl ((List.mem_cons.mp hremains).resolve_left hek))
            · cases hearly }
  | @spent k hdead =>
    refine h.advance (by simp) Bool.false_ne_true.elim
      (fun e he => .inr (List.mem_cons_of_mem k he)) ?_
    rintro e u he hlive (hremains | ⟨hearly, -⟩)
    · rcases List.mem_cons.mp hremains with rfl | hmem
      · rw [hdead u he] at hlive
        cases hlive
      · exact .inl hmem
    · cases hearly
  | find x k | lost x k | wake x => exact h.toUndecided (by simp) rfl rfl rfl
  | queue x k =>
    have hnext : Timely c s v.registry d p (.cancel (.wake x) rest outcome) :=
      h.toUndecided (by simp) rfl rfl rfl
    exact
      { hnext with
        opened := by
          intro hasks
          obtain ⟨y, hy, hopen⟩ := h.opened hasks
          by_cases hsx : s = x
          · subst hsx
            exact ⟨{ y with queued := y.queued ++ [k] },
              by simp [Scene.onSelector, onSelector, hy], hopen⟩
          · exact ⟨y, by simp [Scene.onSelector, onSelector, hsx, hy], hopen⟩ }
  | ended => exact h

theorem Timely.close (h : Timely c s v.registry d p q) (t : q.Turn c v v' q') :
    ∃ d', Timely c s v'.registry d' p q' := by
  cases t with
  | late hd hclosed =>
    rw [h.channel] at hd
    cases hd
    refine ⟨d, h.advance (by simp) Bool.false_ne_true.elim (by rintro _ ⟨⟩) ?_⟩
    -- a channel that was closed before has no valid key
    rintro k t - - (hremains | ⟨-, -, hopen⟩)
    · cases hremains
    · rw [hclosed] at hopen
      exact absurd (hopen rfl) Bool.false_ne_true
  | shut hd hopen =>
    rw [h.channel] at hd
    cases hd
    exact ⟨_, h.putChannel rfl h.begun (by simp) rfl rfl fun hlate =>
      h.spared (hlate.imp_left Bool.false_ne_true.elim)⟩
  | killed | look | marked | mark | act | nobody | sample | signal | registered | count | decided
  | tellOnly | tell | tellKill =>
    exact ⟨d, h.toUndecided (by simp) rfl rfl rfl⟩
  | kill closing t hbusy => exact h.kill t
  | sweep outcome hd =>
    rw [h.channel] at hd
    cases hd
    refine ⟨d, h.advance (ClosePoint.cancelling_ne_shut _ _) (by simp)
      (fun k hk => .inl (by simpa using hk)) ?_⟩
    rintro k t - - (hremains | ⟨-, hlisted, -⟩)
    · cases hremains
    · exact .inl (by simpa using hlisted)
  | cancel rest outcome t hbusy => exact ⟨d, h.cancel t⟩
  | cancelled rest outcome =>
    exact ⟨d, h.toStage (ClosePoint.cancelling_ne_shut _ _) (by simp; rfl)
      (by simp; rfl) (by simp)⟩
  | ended outcome => exact ⟨d, h⟩

theorem Missed.register (h : Missed c k v.registry q) (t : p.Turn c s v v' p') :
    Missed c k v'.registry q := by
  cases t with
  | @make e he =>
    rcases h with hlisted | ⟨hswept, hunswept, t, hk, hc, hvalid⟩
    · exact .inl hlisted
    · have hne : k ≠ e := by
        rintro rfl
        rw [he] at hk
        cases hk
      exact .inr ⟨hswept, hunswept, t, by simp [Scene.putKey, hne, hk], hc, hvalid⟩
  | list e =>
    rcases h with ⟨d, hd, hlisted, hlate⟩ | hlive
    · refine .inl ⟨d.addKey e, ?_, by simp [Standing.addKey, hlisted], hlate⟩
      simp [Scene.onChannel, onChannel, hd]
    · exact .inr hlive
  | _ => exact h

theorem Missed.of_listed (t : q.Turn c v v' q') (hd : v.registry.channel c = some d)
    (hlisted : k ∈ d.keys) (hlate : q.decided = true ∨ d.lifecycle = .killed) :
    Missed c k v'.registry q' := by
  have hput {d' : Standing} {q' : ClosePoint} (hkeys : d'.keys = d.keys)
      (hlate' : q'.decided = true ∨ d'.lifecycle = .killed) :
      Missed c k (v.putChannel c d').registry q' :=
    .inl ⟨d', by simp [Scene.putChannel], hkeys ▸ hlisted, hlate'⟩
  have hkilled (hundecided : q.decided = false) : d.lifecycle = .killed := by
    rw [hundecided] at hlate
    exact hlate.resolve_left Bool.false_ne_true
  cases t with
  | shut hd' hopen =>
    rw [hd] at hd'
    cases hd'
    exact hput rfl (.inr (hkilled rfl))
  | kill closing t hbusy =>
    cases t with
    | already hd' hkilled' => exact .inl ⟨d, hd, hlisted, .inr (hkilled rfl)⟩
    | promoteOnly hd' hraw | promote released hd' hkind hname =>
      rw [hd] at hd'
      cases hd'
      exact hput rfl (.inr rfl)
    | marked | mark | act | permitted => exact .inl ⟨d, hd, hlisted, .inl rfl⟩
    | _ => exact .inl ⟨d, hd, hlisted, .inr (hkilled rfl)⟩
  | cancel rest outcome t hbusy =>
    cases t <;> exact .inl ⟨d, hd, hlisted, .inr (hkilled rfl)⟩
  | _ => exact .inl ⟨d, hd, hlisted, .inr (hkilled rfl)⟩

theorem Missed.of_live {t : Tie} (turn : q.Turn c v v' q') (hswept : q.swept = true)
    (hunswept : k ∉ q.remaining) (hk : v.registry.key k = some t) (hc : t.channel = c)
    (hvalid : t.valid = true) : Missed c k v'.registry q' := by
  cases turn with
  | @cancel _ point point' rest outcome turn hbusy =>
    cases turn with
    | @swap e u he hlive =>
      have hne : k ≠ e := fun heq => hunswept (heq ▸ List.mem_cons_self)
      refine .inr ⟨rfl, fun hmem => hunswept (List.mem_cons_of_mem e hmem), t, ?_, hc, hvalid⟩
      simp [Scene.onKey, onKey, hne, hk]
    | @spent e hdead =>
      exact .inr ⟨rfl, fun hmem => hunswept (List.mem_cons_of_mem e hmem), t, hk, hc, hvalid⟩
    | _ => exact .inr ⟨rfl, hunswept, t, hk, hc, hvalid⟩
  | cancelled rest outcome =>
    refine .inr ⟨ClosePoint.swept_cancelling _ _, ?_, t, hk, hc, hvalid⟩
    rw [ClosePoint.remaining_cancelling]
    exact hunswept
  | ended outcome => exact .inr ⟨rfl, hunswept, t, hk, hc, hvalid⟩
  | _ => cases hswept

theorem Missed.close (h : Missed c k v.registry q) (t : q.Turn c v v' q') :
    Missed c k v'.registry q' := by
  rcases h with ⟨d, hd, hlisted, hlate⟩ | ⟨hswept, hunswept, u, hk, hc, hvalid⟩
  · exact .of_listed t hd hlisted hlate
  · exact .of_live t hswept hunswept hk hc hvalid

end CloseOfChannel

namespace Interleaving

section CloseOfChannel

variable {c : ListenerId} {s : SelectorId} {ops : Mask} {r : Interleaving}

/-- The registration is about to list its key when the close took the keys that it cancels, or
killed the channel, or found no key and decided to. -/
def ListsLate (c : ListenerId) (s : SelectorId) (ops : Mask) (r : Interleaving) : Prop :=
  ∃ k q l, r.calls = [.register c s ops (.list k), .close c q] ∧
    r.station.listeners[c]? = some l ∧
    (q.decided = true ∨ l.lifecycle = .killed ∨ q.swept = true)

def KeysTimely (c : ListenerId) (s : SelectorId) (ops : Mask) (r : Interleaving) : Prop :=
  ∃ d p q, r.calls = [.register c s ops p, .close c q] ∧ Timely c s r.station.registry d p q

def KeyMissed (c : ListenerId) (s : SelectorId) (ops : Mask) (r : Interleaving) : Prop :=
  ∃ k p q, r.calls = [.register c s ops p, .close c q] ∧ Missed c k r.station.registry q

theorem KeysTimely.play (h : KeysTimely c s ops r) {j : Nat}
    (hearly : ¬ (j = 0 ∧ ListsLate c s ops r)) : KeysTimely c s ops (r.play j) := by
  obtain ⟨d, p, q, hcalls, h⟩ := h
  refine play_two hcalls ⟨d, p, q, hcalls, h⟩ (fun st a told hj turn => ?_)
    fun st b told turn => ?_
  · cases turn with
    | register _ turn =>
      have hlate (k : KeyId) (hp : p = .list k) :
          q.decided = false ∧ d.lifecycle ≠ .killed ∧ q.swept = false := by
        subst hp
        obtain ⟨l, hl, hd⟩ := Option.map_eq_some_iff.mp h.channel
        have hnone := fun hlate => hearly ⟨hj, k, q, l, hcalls, hl, hlate⟩
        refine ⟨Bool.not_eq_true _ ▸ fun hdecided => hnone (.inl hdecided), fun hkilled => ?_,
          Bool.not_eq_true _ ▸ fun hswept => hnone (.inr (.inr hswept))⟩
        exact hnone (.inr (.inl (by rw [← hkilled, ← hd]; rfl)))
      obtain ⟨d', h'⟩ := Timely.register (v := r.station.scene) h turn hlate
      exact ⟨d', _, q, rfl, h'⟩
  · cases turn with
    | close turn =>
      obtain ⟨d', h'⟩ := Timely.close (v := r.station.scene) h turn
      exact ⟨d', p, _, rfl, h'⟩

/-- Nothing keeps a registration from listing its key. -/
theorem play_list (st : Station) (k : KeyId) (q : ClosePoint) (told : List Event) :
    (⟨st, [.register c s ops (.list k), .close c q], told⟩ : Interleaving).play 0 =
      ⟨st.modifyListener c fun l => { l with core := { l.core with keys := l.core.keys ++ [k] } },
        [.register c s ops (.interest k), .close c q], told⟩ := by
  have hclose : .keys c ∉ (Call.close c q).holds := by
    cases q <;> simp [Call.holds, ClosePoint.holds]
  have hregister : .keys c ∉ (Call.register c s ops (.list k)).holds := by
    simp [Call.holds, RegisterPoint.holds]
  have hfree : blocked ⟨st, [.register c s ops (.list k), .close c q], told⟩
      (.register c s ops (.list k)) = false := by
    simp [blocked, Call.wants, RegisterPoint.wants, hclose, hregister]
  simp only [play, List.getElem?_cons_zero, hfree]
  show (⟨_, _, told ++ []⟩ : Interleaving) = _
  rw [List.append_nil]
  rfl

theorem KeysTimely.missed (h : KeysTimely c s ops r)
    (hlate : ListsLate c s ops r) : KeyMissed c s ops (r.play 0) := by
  obtain ⟨st, calls, told⟩ := r
  obtain ⟨d, p, q, rfl, h⟩ := h
  obtain ⟨k, q', l, hcalls, hl, hlate⟩ := hlate
  cases hcalls
  rw [play_list]
  refine ⟨k, _, q, rfl, ?_⟩
  obtain ⟨hkey, -, hunswept⟩ := h.fresh k rfl
  have hd : d = l.standing := by
    have hchannel := h.channel
    rw [Station.registry_channel_of hl] at hchannel
    exact (Option.some.inj hchannel).symm
  show Missed c k (st.modifyListener c _).registry q
  rw [Station.registry_modifyListener st c (g := Standing.addKey k) fun _ => rfl]
  have hlisted : (st.registry.onChannel c (Standing.addKey k)).channel c = some (d.addKey k) := by
    simp [onChannel, h.channel]
  rcases hlate with hdecided | hkilled | hswept
  · exact .inl ⟨_, hlisted, by simp [Standing.addKey], .inl hdecided⟩
  · exact .inl ⟨_, hlisted, by simp [Standing.addKey], .inr (by rw [hd]; exact hkilled)⟩
  · exact .inr ⟨hswept, hunswept, _, hkey, rfl, rfl⟩

theorem KeyMissed.play (h : KeyMissed c s ops r) (j : Nat) :
    KeyMissed c s ops (r.play j) := by
  obtain ⟨k, p, q, hcalls, h⟩ := h
  refine play_two hcalls ⟨k, p, q, hcalls, h⟩ (fun st a told _ turn => ?_)
    fun st b told turn => ?_
  · cases turn with
    | register _ turn => exact ⟨k, _, q, rfl, Missed.register (v := r.station.scene) h turn⟩
  · cases turn with
    | close turn => exact ⟨k, p, _, rfl, Missed.close (v := r.station.scene) h turn⟩

/-- At the beginning every valid key of the channel is listed, and the channel is open. -/
theorem keysTimely_initial {history : List Deed} {l : Listener}
    (hl : (Station.after history).listeners[c]? = some l) :
    KeysTimely c s ops
      ⟨Station.after history, [.register c s ops .enter, .close c .shut], []⟩ := by
  have hsound := Station.sound_after history
  have hchannel := Station.registry_channel_of hl
  have hc := hsound.channel c _ hchannel
  refine ⟨l.standing, .enter, .shut, rfl, ?_⟩
  exact
    { channel := hchannel
      begun := hc.begun
      spared := by
        rintro (hdecided | hkilled)
        · cases hdecided
        · exact (hc.settled.mp hkilled).2
      entered := Bool.false_ne_true.elim
      opened := Bool.false_ne_true.elim
      fresh := by rintro _ ⟨⟩
      known := by
        rintro k (hlisted | hremains)
        · obtain ⟨t, ht, -⟩ := hc.own k hlisted
          exact ⟨t, ht⟩
        · cases hremains
      live := by
        rintro k t hk rfl hvalid
        obtain ⟨d, x, hd, -, hkey⟩ := hsound.key k t hk
        rw [hchannel] at hd
        cases hd
        have hheld := (hkey.live hvalid).1.resolve_right (by simp)
        have hopen := (hkey.opened hvalid).2.resolve_right (by simp)
        exact .inr (.inr ⟨rfl, hkey.held hheld, fun _ => hopen⟩) }

/-- A registration of a channel runs together with a close of it, in any order of accesses. Once
both are over no valid key names the channel, and a killed channel lists no key, exactly if the
registration did not list its key late. -/
theorem no_key_outlives_close_iff {history : List Deed} {l : Listener}
    (hl : (Station.after history).listeners[c]? = some l) {moves : List Nat} {r : Interleaving}
    (hr : r = (⟨Station.after history, [.register c s ops .enter, .close c .shut], []⟩ :
      Interleaving).after moves)
    (hover : ∀ call ∈ r.calls, call.isOver = true) :
    ((∀ k key, r.station.key? k = some key → key.channel = c → key.valid = false) ∧
        ∀ l', r.station.listeners[c]? = some l' → l'.lifecycle = .killed →
        l'.core.keys = []) ↔
      ¬ (⟨Station.after history, [.register c s ops .enter, .close c .shut], []⟩ :
        Interleaving).Meets 0 (ListsLate c s ops) moves := by
  have hkept := kept_unless_meets (keysTimely_initial hl : KeysTimely c s ops _)
    (fun _ _ h hearly => h.play hearly) (fun _ h hlate => h.missed hlate)
      (fun _ j h => h.play j) moves
  rw [← hr] at hkept
  have hclosed {p : RegisterPoint} {q : ClosePoint}
      (hcalls : r.calls = [.register c s ops p, .close c q]) :
      (∃ outcome, p = .ended outcome) ∧ ∃ outcome, q = .ended outcome := by
    have hp : p.isOver = true := hover (.register c s ops p) (by simp [hcalls])
    have hq : q.isOver = true := hover (.close c q) (by simp [hcalls])
    refine ⟨?_, ?_⟩
    · cases p with
      | ended outcome => exact ⟨outcome, rfl⟩
      | _ => cases hp
    · cases q with
      | ended outcome => exact ⟨outcome, rfl⟩
      | _ => cases hq
  rcases hkept with ⟨⟨d, p, q, hcalls, h⟩, hnever⟩ | ⟨⟨k, p, q, hcalls, h⟩, hmet⟩
  · obtain ⟨⟨_, rfl⟩, _, rfl⟩ := hclosed hcalls
    refine iff_of_true ⟨fun k key hk hc => ?_, fun l' hl' hkilled => ?_⟩ hnever
    · by_contra hvalid
      rcases h.live k key.tie (Station.registry_key_of hk) hc (by simpa [Key.tie] using hvalid) with
        hpending | hremains | ⟨hearly, -⟩
      · cases hpending
      · cases hremains
      · cases hearly
    · have hd := h.channel
      rw [Station.registry_channel_of hl'] at hd
      cases hd
      exact h.spared (.inr hkilled)
  · obtain ⟨⟨_, rfl⟩, _, rfl⟩ := hclosed hcalls
    refine iff_of_false ?_ (not_not_intro hmet)
    rintro ⟨hdead, hempty⟩
    rcases h with ⟨d, hd, hlisted, hlate⟩ | ⟨-, -, t, ht, hc, hvalid⟩
    · obtain ⟨l', hl', rfl⟩ := Option.map_eq_some_iff.mp hd
      have hkeys : l'.core.keys = [] := hempty l' hl' (hlate.resolve_left Bool.false_ne_true)
      rw [show l'.standing.keys = [] from hkeys] at hlisted
      cases hlisted
    · obtain ⟨key, hkey, rfl⟩ := Option.map_eq_some_iff.mp ht
      have hspent : key.valid = false := hdead k key hkey hc
      rw [show key.tie.valid = false from hspent] at hvalid
      cases hvalid

end CloseOfChannel

/-- A channel that does not block and a selector, and nothing registered. -/
def unregistered : Station :=
  Station.after [.openListener, .openSelector, .configureBlocking 0 false]

/-- The registration comes to where it lists its key, the close runs from beginning to end, and the
registration goes on. -/
def listedAfterClose : List Nat :=
  List.replicate 6 0 ++ List.replicate 15 1 ++ List.replicate 4 0

theorem key_outlives_close :
    ∃ r, r = (⟨unregistered, [.register 0 0 Operation.accept .enter, .close 0 .shut], []⟩ :
        Interleaving).after listedAfterClose ∧
      (∀ call ∈ r.calls, call.isOver = true) ∧
      ¬ ((∀ k key, r.station.key? k = some key → key.channel = 0 → key.valid = false) ∧
        ∀ l', r.station.listeners[0]? = some l' → l'.lifecycle = .killed →
        l'.core.keys = []) := by
  have hl : unregistered.listeners[0]? =
      some { id := 1, descriptor := { number := 3 }, core := { blocking := false } } := by
    decide
  have hover :
      ∀ call ∈ ((⟨unregistered, [.register 0 0 Operation.accept .enter, .close 0 .shut],
      []⟩ : Interleaving).after listedAfterClose).calls, call.isOver = true := by
    decide
  refine ⟨_, rfl, hover, fun hgood => (no_key_outlives_close_iff hl rfl hover).mp hgood ?_⟩
  refine ⟨List.replicate 6 0 ++ List.replicate 15 1, List.replicate 3 0, rfl, ?_⟩
  exact ⟨1, .ended (.ok ()), _, rfl, rfl, .inr (.inr rfl)⟩

end Interleaving
end PolledChannels
