import PolledChannels.Proofs.Deeds

/-!
# Live keys of a channel with a selector

A registration looks for the first key that the channel lists with the selector, and asks only then
whether this key is valid. A key that was cancelled stays listed until the next selection. So a
registration that comes after a cancellation makes a second key, and while the cancelled key stands
in front of it, the second key is not found again.

This module settles when a channel has at most one valid key with a selector: as long as no
registration meets a pair whose valid key is shadowed by a cancelled one, and no longer.
-/

namespace PolledChannels

open Station PolledChannels.Action Registry

namespace Registry

/-- No key becomes valid or moves. -/
def RevivesNoKey (r r' : Registry) : Prop :=
  ∀ k t, r'.key k = some t → t.valid = true → r.key k = some t

namespace RevivesNoKey

variable {r r' r'' : Registry}

theorem refl (r : Registry) : RevivesNoKey r r :=
  fun _ _ h _ => h

theorem trans (h : RevivesNoKey r r') (h' : RevivesNoKey r' r'') : RevivesNoKey r r'' :=
  fun k t ht hvalid => h k t (h' k t ht hvalid) hvalid

theorem void (r : Registry) (k : KeyId) : RevivesNoKey r (r.onKey k Tie.void) := by
  intro e t ht hvalid
  by_cases he : e = k
  · simp only [onKey, he, if_true, Option.map_eq_some_iff] at ht
    obtain ⟨u, -, rfl⟩ := ht
    cases hvalid
  · simpa [onKey, he] using ht

theorem cancel (r : Registry) (k : KeyId) : RevivesNoKey r (r.cancel k) := by
  unfold Registry.cancel
  split
  · split
    · exact void r k
    · exact refl r
  · exact refl r

theorem strike (r : Registry) (k : KeyId) : RevivesNoKey r (r.strike k) := by
  unfold Registry.strike
  split
  · split
    · exact void r k
    · exact refl r
  · exact refl r

theorem foldl {f : Registry → KeyId → Registry} (hf : ∀ r k, RevivesNoKey r (f r k))
    (ks : List KeyId) (r : Registry) : RevivesNoKey r (ks.foldl f r) :=
  List.foldlRecOn ks f (refl r) fun r' h k _ => h.trans (hf r' k)

end RevivesNoKey

theorem Change.revivesNoKey {r r' : Registry} (h : Change r r') : RevivesNoKey r r' := by
  cases h with
  | cancel k => exact .cancel r k
  | closeChannel c =>
    unfold Registry.closeChannel
    split
    · split
      · exact RevivesNoKey.foldl RevivesNoKey.cancel _ (r.onChannel c Standing.shut)
      · exact .refl r
    · exact .refl r
  | purge s =>
    unfold Registry.purge
    split
    · exact RevivesNoKey.foldl
        (fun r k => RevivesNoKey.strike (r.onSelector s (Roster.forget k)) k) _
        (r.onSelector s Roster.takeQueue)
    · exact .refl r
  | closeSelector s =>
    unfold Registry.closeSelector
    split
    · split
      · exact RevivesNoKey.foldl
          (fun r k => (RevivesNoKey.void r k).trans (RevivesNoKey.strike _ k)) _
          (r.onSelector s Roster.clear)
      · exact .refl r
    · exact .refl r
  | _ => exact .refl r

theorem Changes.revivesNoKey {r r' : Registry} (h : Changes r r') : RevivesNoKey r r' := by
  induction h with
  | refl => exact .refl r
  | tail _ hchange ih => exact ih.trans hchange.revivesNoKey

end Registry

namespace Station

/-- The key is valid and ties the channel to the selector. -/
def LiveKey (st : Station) (c : ListenerId) (s : SelectorId) (k : KeyId) : Prop :=
  ∃ key, st.key? k = some key ∧ key.channel = c ∧ key.selector = s ∧ key.valid = true

/-- No channel has two valid keys with one selector. -/
def OneLiveKey (st : Station) : Prop :=
  ∀ c s k k', st.LiveKey c s k → st.LiveKey c s k' → k = k'

/-- The channel has a valid key with the selector, but the first key that it lists with the
selector is not valid. -/
def Shadowed (st : Station) (c : ListenerId) (s : SelectorId) : Prop :=
  (∃ k, st.LiveKey c s k) ∧
    ∃ first, (Action.keyFor c s).run st = (.ok (some first), st) ∧ st.keyValid first = false

end Station

/-- The deed registers a channel with a selector, though their valid key is shadowed. -/
def Deed.duplicates (st : Station) : Deed → Prop
  | register c s ops => ops.within Operation.ofListener = true ∧ st.Shadowed c s
  | _ => False

/-! ## What a registration finds -/

namespace Registry

variable {r : Registry} {c : ListenerId} {s : SelectorId} {k : KeyId}

/-- A channel with a valid key stands open and does not block, its selector is open, and a
registration finds some key. -/
theorem Sound.of_live (h : r.Sound {}) (hk : r.key k = some ⟨s, c, true⟩) :
    ∃ d x, r.channel c = some d ∧ r.selector s = some x ∧
      d.isOpen = true ∧ d.blocking = false ∧ d.alive = true ∧ x.isOpen = true ∧
      k ∈ d.keys := by
  obtain ⟨d, x, hd, hx, hc, hs, hkey⟩ := h.places hk
  obtain ⟨hmode, hopen⟩ := hkey.opened rfl
  have hheld : k ∈ x.held := by simpa using (hkey.live rfl).1
  refine ⟨d, x, hd, hx, by simpa using hopen, hmode, hc.kept, ?_, hkey.held hheld⟩
  by_contra hclosed
  simp [hs.shut (by simpa using hclosed)] at hheld

theorem Sound.firstKey_of_live (h : r.Sound {}) (hk : r.key k = some ⟨s, c, true⟩) :
    ∃ first valid, r.firstKey c s = some first ∧ r.key first = some ⟨s, c, valid⟩ := by
  obtain ⟨d, x, hd, -, -, -, -, -, hlisted⟩ := h.of_live hk
  have hfound : (d.keys.find? fun k => (r.key k).any fun t => t.selector == s).isSome = true := by
    rw [List.find?_isSome]
    exact ⟨k, hlisted, by simp [hk]⟩
  obtain ⟨first, hfirst⟩ := Option.isSome_iff_exists.mp hfound
  have hmem := List.mem_of_find?_eq_some hfirst
  have hselector := List.find?_some hfirst
  obtain ⟨t, ht, htc⟩ := (h.channel c d hd).own first hmem
  refine ⟨first, t.valid, by simp [firstKey, hd, hfirst], ?_⟩
  have hts : t.selector = s := by simpa [ht] using hselector
  rw [ht, ← hts, ← htc]

end Registry

namespace Station

variable {st : Station} {c : ListenerId} {s : SelectorId} {k : KeyId}

theorem liveKey_iff : st.LiveKey c s k ↔ st.registry.key k = some ⟨s, c, true⟩ := by
  constructor
  · rintro ⟨key, hkey, rfl, rfl, hvalid⟩
    rw [registry_key_of hkey, Key.tie, hvalid]
  · intro hk
    obtain ⟨key, hkey, htie⟩ := Option.map_eq_some_iff.mp hk
    simp only [Key.tie, Tie.mk.injEq] at htie
    exact ⟨key, hkey, htie.2.1, htie.1, htie.2.2⟩

/-- The pair is shadowed exactly if it has a valid key and its first key is not valid. -/
theorem shadowed_iff : st.Shadowed c s ↔
    (∃ k, st.LiveKey c s k) ∧
      ∃ first, st.registry.firstKey c s = some first ∧ st.keyValid first = false := by
  unfold Shadowed
  refine and_congr_right fun _ => exists_congr fun first => and_congr_left fun _ => ?_
  cases hl : st.listeners[c]? with
  | none =>
    have hnone : st.registry.firstKey c s = none := by
      simp [firstKey, registry_channel_none hl]
    simp only [keyFor, run_bind, run_get, run_listener, hl, hnone]
    constructor
    · intro h
      cases congrArg Prod.fst h
    · intro h
      cases h
  | some l =>
    rw [run_keyFor hl]
    exact ⟨fun h => Except.ok.inj (congrArg Prod.fst h), fun h => by rw [h]⟩

end Station

namespace Action

variable {st : Station} {c : ListenerId} {s : SelectorId} {k : KeyId} {ops : Mask}

/-- A registration answers with the key, replaces its interest set and makes no key. -/
def Renews (st : Station) (c : ListenerId) (s : SelectorId) (ops : Mask) (k : KeyId) : Prop :=
  ∃ st', (register c s ops).run st = (.ok k, st') ∧
    st'.keys = (st.modifyKey k fun key => { key with interest := ops }).keys

theorem run_putEvents (k : KeyId) (mask : Mask) (st : Station) :
    ∃ st', (putEvents k mask).run st = (.ok (), st') ∧ st'.keys = st.keys := by
  simp only [putEvents, run_bind, run_get]
  split
  · split
    · exact ⟨_, rfl, rfl⟩
    · exact ⟨_, rfl, rfl⟩
  · exact ⟨_, rfl, rfl⟩

/-- The interest set of a valid key of a channel that is kept can be replaced by anything that the
channel can wait for. -/
theorem run_setInterest {key : Key} (hkey : st.key? k = some key) (hvalid : key.valid = true)
    (halive : st.listenerAlive key.channel = true) (hops : ops.within Operation.ofListener = true) :
    ∃ st', (setInterest k ops).run st = (.ok (), st') ∧
      st'.keys = (st.modifyKey k fun key => { key with interest := ops }).keys := by
  obtain ⟨st', hrun, hkeys⟩ := run_putEvents k (Readiness.acceptEvents ops)
    (st.modifyKey k fun key => { key with interest := ops })
  refine ⟨st', ?_, hkeys⟩
  simp only [setInterest, run_bind, run_get, hkey, halive, if_true]
  have hcheck : key.checkInterest (some Operation.ofListener) ops = .ok () := by
    simp [Key.checkInterest, hvalid, hops]
  rw [hcheck]
  exact hrun

/-- What a registration comes to for a pair that has a valid key. -/
theorem admission_of_live {l : Listener} {x : Selector} (h : st.registry.Sound {})
    (hlive : st.LiveKey c s k) (hl : st.listeners[c]? = some l) (hx : st.selectors[s]? = some x)
    (hops : ops.within Operation.ofListener = true) (current : Option KeyId) :
    l.core.admission Operation.ofListener ops current x.isOpen =
      match current with
      | some k => .ok (.renew k)
      | none => .ok .create := by
  obtain ⟨d, y, hd, hy, hopen, hblock, -, hselector, -⟩ := h.of_live (liveKey_iff.mp hlive)
  rw [registry_channel_of hl] at hd
  rw [registry_selector_of hx] at hy
  cases hd
  cases hy
  rw [Core.admission_of hopen hops hblock]
  cases current with
  | some k => rfl
  | none => exact if_pos hselector

/-- A registration renews the first key of the pair if it is valid. -/
theorem register_renews (h : st.registry.Sound {}) (hlive : st.LiveKey c s k)
    (hshadow : ¬ st.Shadowed c s) (hops : ops.within Operation.ofListener = true) :
    ∃ first, st.LiveKey c s first ∧ Renews st c s ops first := by
  have htie := liveKey_iff.mp hlive
  obtain ⟨d, y, hd, hy, -, -, halive, -, -⟩ := h.of_live htie
  obtain ⟨l, hl, rfl⟩ := listener_of_registry hd
  obtain ⟨x, hx, rfl⟩ := selector_of_registry hy
  obtain ⟨first, valid, hfirst, hkey⟩ := h.firstKey_of_live htie
  have hvalid : st.keyValid first = true := by
    by_contra hinvalid
    exact hshadow (shadowed_iff.mpr ⟨⟨k, hlive⟩, first, hfirst, by simpa using hinvalid⟩)
  have hfirstLive : st.LiveKey c s first := by
    rw [keyValid_eq, hkey] at hvalid
    have hvalid' : valid = true := by simpa using hvalid
    rw [liveKey_iff, hkey, hvalid']
  obtain ⟨key, hk, rfl, rfl, hkeyValid⟩ := hfirstLive
  have hkept : st.listenerAlive key.channel = true := by
    simpa [listenerAlive_eq, hd] using halive
  obtain ⟨st', hrun, hkeys⟩ := run_setInterest hk hkeyValid hkept hops
  refine ⟨first, ⟨key, hk, rfl, rfl, hkeyValid⟩, st', ?_, hkeys⟩
  rw [run_register hl hx, admission_of_live h hlive hl hx hops, hfirst]
  simp only [Option.filter, hvalid, if_true, run_bind, hrun, run_pure]

/-- A registration makes another key if the first key of the pair is not valid. -/
theorem register_duplicates (h : st.registry.Sound {}) (hshadow : st.Shadowed c s)
    (hops : ops.within Operation.ofListener = true) :
    ∃ st', (register c s ops).run st = (.ok (st.keys.length + 1), st') ∧
      st'.registry = st.registry.enrol c s (st.keys.length + 1) := by
  obtain ⟨⟨k, hlive⟩, first, hfirst, hinvalid⟩ := shadowed_iff.mp hshadow
  obtain ⟨d, y, hd, hy, hopen, hblock, -, hselector, -⟩ := h.of_live (liveKey_iff.mp hlive)
  obtain ⟨l, hl, rfl⟩ := listener_of_registry hd
  obtain ⟨x, hx, rfl⟩ := selector_of_registry hy
  have henrolled := st.registry_enrolled c s
  have hsound := h.enrol st.registry_key_next hd hy hopen hblock hselector
  have hnew : (st.enrolled c s).LiveKey c s (st.keys.length + 1) := by
    rw [liveKey_iff, henrolled]
    simp [enrol, onChannel, onSelector]
  rw [← henrolled] at hsound
  obtain ⟨d', -, hd', -, -, -, halive, -, -⟩ := hsound.of_live (liveKey_iff.mp hnew)
  obtain ⟨key, hk, rfl, rfl, hkeyValid⟩ := hnew
  have hkept : (st.enrolled key.channel key.selector).listenerAlive key.channel = true := by
    simpa [listenerAlive_eq, hd'] using halive
  obtain ⟨st', hrun, -⟩ := run_setInterest hk hkeyValid hkept hops
  refine ⟨st', ?_, ?_⟩
  · rw [run_register hl hx, admission_of_live h hlive hl hx hops, hfirst]
    simp only [Option.filter, hinvalid, Bool.false_eq_true, if_false, run_bind, hrun, run_pure]
  · have hidle := (registry_hidesMasks.setInterest (st.keys.length + 1) ops).eq
      (st.enrolled key.channel key.selector)
    rw [hrun] at hidle
    exact hidle.trans henrolled

/-- A registration renews a live key exactly if the pair is not shadowed. -/
theorem renews_iff (h : st.registry.Sound {}) (hlive : st.LiveKey c s k)
    (hops : ops.within Operation.ofListener = true) :
    (∃ first, st.LiveKey c s first ∧ Renews st c s ops first) ↔ ¬ st.Shadowed c s := by
  constructor
  · rintro ⟨first, hfirst, st', hrun, -⟩ hshadow
    obtain ⟨st'', hrun', -⟩ := register_duplicates h hshadow hops
    have hnew : first = st.keys.length + 1 := by
      rw [hrun] at hrun'
      exact Except.ok.inj (congrArg Prod.fst hrun')
    rw [liveKey_iff, hnew, st.registry_key_next] at hfirst
    cases hfirst
  · exact fun hshadow => register_renews h hlive hshadow hops

end Action

/-! ## How many live keys there are -/

namespace Station

variable {st st' : Station}

theorem OneLiveKey.revivesNoKey (hone : st.OneLiveKey)
    (h : st.registry.RevivesNoKey st'.registry) : st'.OneLiveKey := by
  intro c s k k' hk hk'
  rw [liveKey_iff] at hk hk'
  exact hone c s k k' (liveKey_iff.mpr (h k _ hk rfl)) (liveKey_iff.mpr (h k' _ hk' rfl))

/-- The live keys after an enrolment are the new key and those that were there. -/
theorem liveKey_enrol {c c' : ListenerId} {s s' : SelectorId} {n k : KeyId}
    (h : st'.registry = st.registry.enrol c s n) :
    st'.LiveKey c' s' k ↔ if k = n then c' = c ∧ s' = s else st.LiveKey c' s' k := by
  rw [liveKey_iff, liveKey_iff, h]
  by_cases hk : k = n
  · simp only [enrol, onChannel, onSelector, putKey, hk, if_true,
      Option.some.injEq, Tie.mk.injEq, and_true]
    constructor
    · rintro ⟨rfl, rfl⟩
      exact ⟨rfl, rfl⟩
    · rintro ⟨rfl, rfl⟩
      exact ⟨rfl, rfl⟩
  · simp only [enrol, onChannel, onSelector, putKey, hk, if_false]

end Station

namespace Deed

variable {st : Station} {deed : Deed}

theorem oneLiveKey (hsound : st.registry.Sound {}) (hone : st.OneLiveKey)
    (hdeed : ¬ deed.duplicates st) : (deed.perform st).OneLiveKey := by
  cases hregisters : deed.registers with
  | false => exact hone.revivesNoKey (Deed.changes hsound hregisters).revivesNoKey
  | true =>
    cases deed with
    | register c s ops =>
      rcases Action.registry_register c s ops st with
        hsame | ⟨d, x, hd, hx, -, -, -, hops, hfound, henrol⟩
      · refine hone.revivesNoKey ?_
        show st.registry.RevivesNoKey ((Action.register c s ops).run st).2.registry
        rw [hsame]
        exact .refl _
      · -- a live key of the pair would be found, and would be shadowed
        have hnone : ∀ k, ¬ st.LiveKey c s k := by
          intro k hk
          obtain ⟨first, valid, hfirst, -⟩ :=
            hsound.firstKey_of_live (Station.liveKey_iff.mp hk)
          refine hdeed ⟨hops, Station.shadowed_iff.mpr ⟨⟨k, hk⟩, first, hfirst, ?_⟩⟩
          simpa [hfirst, Option.filter] using hfound
        intro c' s' k k' hk hk'
        replace hk := (Station.liveKey_enrol henrol).mp hk
        replace hk' := (Station.liveKey_enrol henrol).mp hk'
        split at hk
        case isTrue hkn =>
          split at hk'
          case isTrue hkn' => rw [hkn, hkn']
          case isFalse =>
            obtain ⟨rfl, rfl⟩ := hk
            exact absurd hk' (hnone k')
        case isFalse =>
          split at hk'
          case isTrue hkn' =>
            obtain ⟨rfl, rfl⟩ := hk'
            exact absurd hk (hnone k)
          case isFalse => exact hone c' s' k k' hk hk'
    | _ => cases hregisters

theorem not_oneLiveKey (hsound : st.registry.Sound {}) (hdeed : deed.duplicates st) :
    ¬ (deed.perform st).OneLiveKey := by
  cases deed with
  | register c s ops =>
    obtain ⟨hops, hshadow⟩ := hdeed
    obtain ⟨k, hk⟩ := hshadow.1
    obtain ⟨st', hrun, henrol⟩ := Action.register_duplicates hsound hshadow hops
    have hperform : (register c s ops).perform st = st' := by
      show ((Action.register c s ops).run st).2 = st'
      rw [hrun]
    have hkn : k ≠ st.keys.length + 1 := by
      rintro rfl
      rw [Station.liveKey_iff, st.registry_key_next] at hk
      cases hk
    rw [hperform]
    intro hone
    refine hkn (hone c s k (st.keys.length + 1) ?_ ?_)
    · rwa [Station.liveKey_enrol henrol, if_neg hkn]
    · rw [Station.liveKey_enrol henrol, if_pos rfl]
      exact ⟨rfl, rfl⟩
  | _ => cases hdeed

end Deed

namespace Station

theorem oneLiveKey_initial : ({} : Station).OneLiveKey := by
  rintro c s k k' ⟨key, hkey, -⟩ -
  simp [key?] at hkey

/-- Along a history every pair has at most one live key exactly as long as no registration meets a
shadowed pair. -/
theorem oneLiveKey_iff (history : List Deed) :
    (∀ earlier later, history = earlier ++ later → (Station.after earlier).OneLiveKey) ↔
      ∀ earlier deed later, history = earlier ++ deed :: later →
        ¬ deed.duplicates (Station.after earlier) := by
  constructor
  · intro hone earlier deed later hsplit hdeed
    refine Deed.not_oneLiveKey (sound_after earlier) hdeed ?_
    rw [← after_concat]
    exact hone (earlier ++ [deed]) later (by simpa using hsplit)
  · intro hdeeds earlier
    induction earlier using List.reverseRecOn with
    | nil => exact fun _ _ => oneLiveKey_initial
    | append_singleton earlier deed ih =>
      intro later hsplit
      have hsplit' : history = earlier ++ deed :: later := by simpa using hsplit
      rw [after_concat]
      exact Deed.oneLiveKey (sound_after earlier) (ih (deed :: later) hsplit')
        (hdeeds earlier deed later hsplit')

/-- When a channel has at most one live key with a selector. Along a history this holds exactly as
long as no registration meets a shadowed pair; and for a pair that has a live key, a registration
renews a live key exactly if the pair is not shadowed. -/
theorem one_live_key_unless_shadowed (history : List Deed) :
    ((∀ earlier later, history = earlier ++ later → (Station.after earlier).OneLiveKey) ↔
      ∀ earlier deed later, history = earlier ++ deed :: later →
        ¬ deed.duplicates (Station.after earlier)) ∧
    ∀ c s k ops, (Station.after history).LiveKey c s k →
    ops.within Operation.ofListener = true →
      ((∃ first, (Station.after history).LiveKey c s first ∧
          Action.Renews (Station.after history) c s ops first) ↔
        ¬ (Station.after history).Shadowed c s) :=
  ⟨oneLiveKey_iff history, fun _ _ _ _ hlive hops =>
    renews_iff (sound_after history) hlive hops⟩

/-- A registration, a cancellation and two registrations more leave a channel with two live keys. -/
theorem two_live_keys_after_cancel :
    ¬ ∀ earlier later,
      [.openListener, .openSelector, .configureBlocking 0 false, .register 0 0 Operation.accept,
        .cancel 1, .register 0 0 Operation.accept, .register 0 0 0] = earlier ++ later →
      (Station.after earlier).OneLiveKey := by
  intro hone
  refine (one_live_key_unless_shadowed _).1.mp hone
    [.openListener, .openSelector, .configureBlocking 0 false, .register 0 0 Operation.accept,
      .cancel 1, .register 0 0 Operation.accept] (.register 0 0 0) [] rfl ⟨by decide, ?_⟩
  exact ⟨⟨2, _, rfl, rfl, rfl, rfl⟩, 1, rfl, rfl⟩

end Station

end PolledChannels
