import Mathlib.Data.List.Nodup
import PolledChannels.Proofs.Registry

/-!
# Sound registries

In a sound registry every key is in one of three states. A live key is valid, listed by its channel
and held by its selector. A cancelled key is not valid, still listed and held, and queued once. A
key that is gone is not valid, and neither listed nor held. Beside that, a channel is killed
exactly if it is closed and lists no key, and a closed selector holds nothing.

Operations take keys from one state to the next in several steps. What such a step still owes is
written down as debts, so that `Sound` can be followed through the middle of an operation.
-/

namespace PolledChannels

variable {k : KeyId} {t : Tie} {c : ListenerId} {d : Standing} {s : SelectorId} {x : Roster}
  {o' : Debts}

/-- What an operation under way still owes. -/
structure Debts where
  /-- Keys that were taken off their queue and that their selector still holds. -/
  taken : List KeyId := []
  /-- Keys that their selector has forgotten and that their channel may still list. -/
  leaving : List KeyId := []
  /-- Keys that may be valid although their channel is closed. -/
  closing : List KeyId := []

namespace Registry

/-- A channel lists its own keys, and is killed when it is closed and lists none. -/
structure ChannelSound (r : Registry) (c : ListenerId) (d : Standing) : Prop where
  kept : d.alive = true
  distinct : d.keys.Nodup
  own : ∀ k ∈ d.keys, ∃ t, r.key k = some t ∧ t.channel = c
  begun : d.lifecycle ≠ .uninitialized
  settled : d.lifecycle = .killed ↔ d.isOpen = false ∧ d.keys = []

/-- A selector holds its own keys, queues and selects only keys that it holds, and holds
none when it is closed. -/
structure SelectorSound (r : Registry) (s : SelectorId) (x : Roster) : Prop where
  kept : x.alive = true
  distinct : x.held.Nodup
  queuedOnce : x.queued.Nodup
  selectedOnce : x.selected.Nodup
  own : ∀ k ∈ x.held, ∃ t, r.key k = some t ∧ t.selector = s
  queued : ∀ k ∈ x.queued, k ∈ x.held
  selected : ∀ k ∈ x.selected, k ∈ x.held
  shut : x.isOpen = false → x.held = []

/-- A key between its channel and its selector is live, cancelled or gone, up to debts. -/
structure KeySound (o : Debts) (k : KeyId) (t : Tie) (d : Standing) (x : Roster) : Prop where
  listed : k ∈ d.keys → k ∈ x.held ∨ k ∈ o.leaving
  held : k ∈ x.held → k ∈ d.keys
  live : t.valid = true → (k ∈ x.held ∨ k ∈ o.leaving) ∧ k ∉ x.queued
  opened : t.valid = true → d.blocking = false ∧ (d.isOpen = true ∨ k ∈ o.closing)
  dead : t.valid = false → k ∈ x.held → k ∈ x.queued ∨ k ∈ o.taken
  taken : k ∈ o.taken → t.valid = false ∧ k ∈ x.held ∧ k ∉ x.queued

/-- Everything in a registry is sound, up to debts. -/
structure Sound (o : Debts) (r : Registry) : Prop where
  channel : ∀ c d, r.channel c = some d → ChannelSound r c d
  selector : ∀ s x, r.selector s = some x → SelectorSound r s x
  key : ∀ k t, r.key k = some t →
    ∃ d x, r.channel t.channel = some d ∧ r.selector t.selector = some x ∧ KeySound o k t d x

/-- Every key stays between the channel and the selector that it was made for. -/
def SamePlaces (r r' : Registry) : Prop :=
  ∀ k t, r.key k = some t →
    ∃ t', r'.key k = some t' ∧ t'.channel = t.channel ∧ t'.selector = t.selector

section Places

variable {r r' : Registry}

theorem SamePlaces.refl (r : Registry) : SamePlaces r r :=
  fun _ t h => ⟨t, h, rfl, rfl⟩

theorem SamePlaces.putKey {t' : Tie} (ht : r.key k = some t) (hc : t'.channel = t.channel)
    (hs : t'.selector = t.selector) : SamePlaces r (r.putKey k t') := by
  intro e u hu
  by_cases he : e = k
  · subst he
    have hut : u = t := Option.some.inj (hu.symm.trans ht)
    subst hut
    exact ⟨t', by simp, hc, hs⟩
  · exact ⟨u, by simp [he, hu], rfl, rfl⟩

theorem ChannelSound.mono (h : ChannelSound r c d) (hp : SamePlaces r r') :
    ChannelSound r' c d where
  __ := h
  own := by
    intro k hk
    obtain ⟨t, ht, hc⟩ := h.own k hk
    obtain ⟨t', ht', hc', -⟩ := hp k t ht
    exact ⟨t', ht', hc'.trans hc⟩

theorem SelectorSound.mono (h : SelectorSound r s x) (hp : SamePlaces r r') :
    SelectorSound r' s x where
  __ := h
  own := by
    intro k hk
    obtain ⟨t, ht, hs⟩ := h.own k hk
    obtain ⟨t', ht', -, hs'⟩ := hp k t ht
    exact ⟨t', ht', hs'.trans hs⟩

end Places

namespace Sound

variable {r : Registry} {o : Debts}

theorem places (h : r.Sound o) (ht : r.key k = some t) :
    ∃ d x, r.channel t.channel = some d ∧ r.selector t.selector = some x ∧
      ChannelSound r t.channel d ∧ SelectorSound r t.selector x ∧ KeySound o k t d x := by
  obtain ⟨d, x, hd, hx, hk⟩ := h.key k t ht
  exact ⟨d, x, hd, hx, h.channel _ _ hd, h.selector _ _ hx, hk⟩

/-- Changes of one selector: the selector has to be sound again, and so have the keys tied to it. -/
theorem putSelector (h : r.Sound o) {x' : Roster} (hx : r.selector s = some x)
    (hs : SelectorSound r s x')
    (hkeys : ∀ k t d, r.key k = some t → t.selector = s → r.channel t.channel = some d →
      KeySound o k t d x → KeySound o' k t d x')
    (hothers : ∀ k t d y, r.key k = some t → t.selector ≠ s →
      KeySound o k t d y → KeySound o' k t d y) :
    (r.putSelector s x').Sound o' where
  channel := fun c d hd => (h.channel c d hd).mono (SamePlaces.refl r)
  selector := by
    intro e y hy
    rcases put_cases hy with ⟨rfl, rfl⟩ | ⟨-, hy⟩
    · exact hs.mono (SamePlaces.refl r)
    · exact (h.selector e y hy).mono (SamePlaces.refl r)
  key := by
    intro k t ht
    obtain ⟨d, y, hd, hy, hk⟩ := h.key k t ht
    by_cases he : t.selector = s
    · have hyx : y = x := by
        rw [he] at hy
        exact Option.some.inj (hy.symm.trans hx)
      subst hyx
      exact ⟨d, x', hd, by simp [he], hkeys k t d ht he hd hk⟩
    · exact ⟨d, y, hd, by simp [he, hy], hothers k t d y ht he hk⟩

/-- Changes of one channel: the channel has to be sound again, and so have the keys tied to it. -/
theorem putChannel (h : r.Sound o) {d' : Standing} (hd : r.channel c = some d)
    (hc : ChannelSound r c d')
    (hkeys : ∀ k t x, r.key k = some t → t.channel = c → r.selector t.selector = some x →
      KeySound o k t d x → KeySound o' k t d' x)
    (hothers : ∀ k t e x, r.key k = some t → t.channel ≠ c →
      KeySound o k t e x → KeySound o' k t e x) :
    (r.putChannel c d').Sound o' where
  selector := fun s x hx => (h.selector s x hx).mono (SamePlaces.refl r)
  channel := by
    intro e y hy
    rcases put_cases hy with ⟨rfl, rfl⟩ | ⟨-, hy⟩
    · exact hc.mono (SamePlaces.refl r)
    · exact (h.channel e y hy).mono (SamePlaces.refl r)
  key := by
    intro k t ht
    obtain ⟨e, x, he, hx, hk⟩ := h.key k t ht
    by_cases hec : t.channel = c
    · have hed : e = d := by
        rw [hec] at he
        exact Option.some.inj (he.symm.trans hd)
      subst hed
      exact ⟨d', x, by simp [hec], hx, hkeys k t x ht hec hx hk⟩
    · exact ⟨e, x, by simp [hec, he], hx, hothers k t e x ht hec hk⟩

theorem putKey (h : r.Sound o) {t' : Tie} (ht : r.key k = some t) (hc : t'.channel = t.channel)
    (hs : t'.selector = t.selector)
    (hkey : ∀ d x, r.channel t.channel = some d → r.selector t.selector = some x →
      KeySound o k t d x → KeySound o' k t' d x)
    (hothers : ∀ e u d x, e ≠ k → KeySound o e u d x → KeySound o' e u d x) :
    (r.putKey k t').Sound o' where
  channel := fun c d hd => (h.channel c d hd).mono (SamePlaces.putKey ht hc hs)
  selector := fun s x hx => (h.selector s x hx).mono (SamePlaces.putKey ht hc hs)
  key := by
    intro e u hu
    rcases put_cases hu with ⟨rfl, rfl⟩ | ⟨he, hu⟩
    · obtain ⟨d, x, hd, hx, hk⟩ := h.key e t ht
      exact ⟨d, x, by simp [hc, hd], by simp [hs, hx], hkey d x hd hx hk⟩
    · obtain ⟨d, x, hd, hx, hk⟩ := h.key e u hu
      exact ⟨d, x, hd, hx, hothers e u d x he hk⟩

/-- A debt that no key is behind need not be kept. -/
theorem weaken (h : r.Sound o)
    (hkey : ∀ k t d x, r.key k = some t → KeySound o k t d x → KeySound o' k t d x) :
    r.Sound o' where
  __ := h
  key := by
    intro k t ht
    obtain ⟨d, x, hd, hx, hk⟩ := h.key k t ht
    exact ⟨d, x, hd, hx, hkey k t d x ht hk⟩

theorem not_listed (h : r.Sound o) (hk : r.key k = none) (hd : r.channel c = some d) :
    k ∉ d.keys := by
  intro hmem
  obtain ⟨t, ht, -⟩ := (h.channel c d hd).own k hmem
  simp [hk] at ht

theorem not_held (h : r.Sound o) (hk : r.key k = none) (hx : r.selector s = some x) :
    k ∉ x.held := by
  intro hmem
  obtain ⟨t, ht, -⟩ := (h.selector s x hx).own k hmem
  simp [hk] at ht

theorem selector_of_held (h : r.Sound o) (ht : r.key k = some t) (hx : r.selector s = some x)
    (hk : k ∈ x.held) : t.selector = s := by
  obtain ⟨u, hu, hs⟩ := (h.selector s x hx).own k hk
  have hut : u = t := Option.some.inj (hu.symm.trans ht)
  rw [← hut, hs]

end Sound

/-! ## Single steps -/

namespace Sound

variable {r : Registry} {o : Debts} {k : KeyId} {ks taken leaving closing : List KeyId}

/-- A new key between an open channel that does not block and a selector has still to be
listed and adopted. -/
theorem issue (h : r.Sound {}) (hk : r.key k = none) (hd : r.channel c = some d)
    (hx : r.selector s = some x) (hopen : d.isOpen = true) (hblock : d.blocking = false) :
    (r.putKey k ⟨s, c, true⟩).Sound { leaving := [k] } := by
  have hplaces : SamePlaces r (r.putKey k ⟨s, c, true⟩) := by
    intro e t ht
    have he : e ≠ k := by
      rintro rfl
      simp [hk] at ht
    exact ⟨t, by simp [he, ht], rfl, rfl⟩
  refine ⟨fun e y hy => (h.channel e y hy).mono hplaces,
    fun e y hy => (h.selector e y hy).mono hplaces, ?_⟩
  intro e t ht
  rcases put_cases ht with ⟨rfl, rfl⟩ | ⟨he, ht⟩
  · have hlist := h.not_listed hk hd
    have hhold := h.not_held hk hx
    have hqueue : e ∉ x.queued := fun hq => hhold ((h.selector s x hx).queued e hq)
    refine ⟨d, x, hd, hx, ?_⟩
    constructor <;> simp_all
  · obtain ⟨d', x', hd', hx', hks⟩ := h.key e t ht
    refine ⟨d', x', hd', hx', ?_⟩
    constructor <;> grind [KeySound]

theorem addKey (h : r.Sound { leaving := [k] }) (ht : r.key k = some t)
    (hd : r.channel t.channel = some d) (hopen : d.isOpen = true) (hnew : k ∉ d.keys) :
    (r.putChannel t.channel (d.addKey k)).Sound { leaving := [k] } := by
  have hc := h.channel _ _ hd
  refine h.putChannel hd ?_ ?_ ?_
  · refine { kept := hc.kept, begun := hc.begun, distinct := ?_, own := ?_, settled := ?_ }
    · simpa [Standing.addKey] using List.Nodup.concat hnew hc.distinct
    · intro e he
      rcases List.mem_append.mp he with he | he
      · exact hc.own e he
      · exact ⟨t, by simpa [List.mem_singleton.mp he] using ht, rfl⟩
    · have := hc.settled
      simp_all [Standing.addKey]
  · intro e u x hu huc _ hks
    constructor <;> grind [KeySound, Standing.addKey]
  · intro e u d' x _ _ hks
    exact hks

theorem adopt (h : r.Sound { leaving := [k] }) (ht : r.key k = some t)
    (hd : r.channel t.channel = some d) (hx : r.selector t.selector = some x)
    (hvalid : t.valid = true) (hlist : k ∈ d.keys) (hopen : x.isOpen = true)
    (hnew : k ∉ x.held) :
    (r.putSelector t.selector (x.adopt k)).Sound {} := by
  have hs := h.selector _ _ hx
  refine h.putSelector hx ?_ ?_ ?_
  · refine { hs with distinct := ?_, own := ?_, queued := ?_, selected := ?_, shut := ?_ }
    · simpa [Roster.adopt] using List.Nodup.concat hnew hs.distinct
    · intro e he
      rcases List.mem_append.mp he with he | he
      · exact hs.own e he
      · exact ⟨t, by simpa [List.mem_singleton.mp he] using ht, rfl⟩
    · exact fun e he => List.mem_append_left _ (hs.queued e he)
    · exact fun e he => List.mem_append_left _ (hs.selected e he)
    · intro hshut
      exact absurd hshut (by simp [Roster.adopt, hopen])
  · intro e u d' hu hus hd' hks
    have hlist' : e = k → e ∈ d'.keys := by
      rintro rfl
      rw [Option.some.inj (hu.symm.trans ht), hd] at hd'
      rwa [← Option.some.inj hd']
    constructor <;> grind [KeySound, Roster.adopt]
  · intro e u d' y hu hus hks
    have hek : e ≠ k := by
      rintro rfl
      exact hus (by rw [Option.some.inj (hu.symm.trans ht)])
    constructor <;> grind [KeySound]

/-- A valid key that its selector holds is made invalid, and has still to be queued. Its channel
may be closed. -/
theorem void (h : r.Sound { closing := k :: ks }) (ht : r.key k = some t)
    (hx : r.selector t.selector = some x) (hvalid : t.valid = true) (hheld : k ∈ x.held) :
    (r.putKey k t.void).Sound { taken := [k], closing := ks } := by
  refine h.putKey ht rfl rfl ?_ ?_
  · intro d y _ hy hks
    have hyx : y = x := Option.some.inj (hy.symm.trans hx)
    subst hyx
    constructor <;> grind [KeySound, Tie.void]
  · intro e u d y hek hks
    constructor <;> grind [KeySound]

/-- A key that its selector does not hold is made invalid. -/
theorem voidForgotten (h : r.Sound o) (ht : r.key k = some t) (hx : r.selector t.selector = some x)
    (hheld : k ∉ x.held) : (r.putKey k t.void).Sound o := by
  refine h.putKey ht rfl rfl ?_ ?_
  · intro d y _ hy hks
    have hyx : y = x := Option.some.inj (hy.symm.trans hx)
    subst hyx
    constructor <;> grind [KeySound, Tie.void]
  · intro e u d y _ hks
    exact hks

theorem enqueue (h : r.Sound ⟨[k], leaving, closing⟩) (ht : r.key k = some t)
    (hx : r.selector t.selector = some x) (hheld : k ∈ x.held) :
    (r.putSelector t.selector (x.enqueue k)).Sound ⟨[], leaving, closing⟩ := by
  have hs := h.selector _ _ hx
  have hnew : k ∉ x.queued := by
    obtain ⟨d, y, -, hy, hks⟩ := h.key k t ht
    have hyx : y = x := Option.some.inj (hy.symm.trans hx)
    exact hyx ▸ (hks.taken (by simp)).2.2
  rw [Roster.enqueue_of_held hs.kept hheld]
  refine h.putSelector hx ?_ ?_ ?_
  · refine { hs with queuedOnce := ?_, queued := ?_ }
    · simpa using List.Nodup.concat hnew hs.queuedOnce
    · intro e he
      rcases List.mem_append.mp he with he | he
      · exact hs.queued e he
      · simpa [List.mem_singleton.mp he] using hheld
  · intro e u d hu hus _ hks
    constructor <;> grind [KeySound]
  · intro e u d y hu hus hks
    have hek : e ≠ k := by
      rintro rfl
      exact hus (by rw [Option.some.inj (hu.symm.trans ht)])
    constructor <;> grind [KeySound]

/-- The queue of a selector is taken: its keys have still to be deregistered. -/
theorem takeQueue (h : r.Sound {}) (hx : r.selector s = some x) :
    (r.putSelector s x.takeQueue).Sound { taken := x.queued } := by
  have hs := h.selector _ _ hx
  refine h.putSelector hx ?_ ?_ ?_
  · exact { hs with queuedOnce := List.nodup_nil, queued := by simp [Roster.takeQueue] }
  · intro e u d hu hus _ hks
    have hheld := hs.queued e
    constructor <;> grind [KeySound, Roster.takeQueue]
  · intro e u d y hu hus hks
    have hnot : e ∉ x.queued := fun he => hus (h.selector_of_held hu hx (hs.queued e he))
    constructor <;> grind [KeySound]

/-- A selector forgets a key that was taken off its queue: the key has still to leave its
channel. -/
theorem forget (h : r.Sound { taken := k :: ks }) (ht : r.key k = some t)
    (hx : r.selector t.selector = some x) (hks : k ∉ ks) :
    (r.putSelector t.selector (x.forget k)).Sound { taken := ks, leaving := [k] } := by
  have hs := h.selector _ _ hx
  have htaken : t.valid = false ∧ k ∈ x.held ∧ k ∉ x.queued := by
    obtain ⟨d, y, -, hy, hks⟩ := h.key k t ht
    have hyx : y = x := Option.some.inj (hy.symm.trans hx)
    exact hyx ▸ hks.taken (by simp)
  refine h.putSelector hx ?_ ?_ ?_
  · refine { hs with distinct := hs.distinct.filter _, selectedOnce := hs.selectedOnce.filter _,
                     own := ?_, queued := ?_, selected := ?_, shut := ?_ }
    · exact fun e he => hs.own e (List.mem_of_mem_filter he)
    · intro e he
      have hek : e ≠ k := fun hek => htaken.2.2 (hek ▸ he)
      simpa [Roster.forget, hek] using hs.queued e he
    · intro e he
      simp only [Roster.forget, List.mem_filter] at he ⊢
      exact ⟨hs.selected e he.1, he.2⟩
    · intro hshut
      simp [Roster.forget, hs.shut hshut]
  · intro e u d hu hus _ hkey
    constructor <;> grind [KeySound, Roster.forget]
  · intro e u d y hu hus hkey
    have hek : e ≠ k := by
      rintro rfl
      exact hus (by rw [Option.some.inj (hu.symm.trans ht)])
    constructor <;> grind [KeySound]

theorem settle (h : r.Sound o) (hd : r.channel c = some d) {d' : Standing}
    (halive : d'.alive = d.alive) (hlife : d'.lifecycle = d.lifecycle)
    (hopen : d.isOpen = false → d'.isOpen = false) (hsub : d'.keys.Sublist d.keys) :
    ChannelSound r c d'.settle := by
  have hc := h.channel _ _ hd
  refine { kept := ?_, distinct := ?_, own := ?_, begun := ?_, settled := ?_ }
  · rw [Standing.settle_alive, halive, hc.kept]
  · rw [Standing.settle_keys]
    exact hc.distinct.sublist hsub
  · intro k hk
    rw [Standing.settle_keys] at hk
    exact hc.own k (hsub.subset hk)
  · rw [Standing.settle_lifecycle, hlife]
    split
    · decide
    · exact hc.begun
  · rw [Standing.settle_lifecycle, Standing.settle_isOpen, Standing.settle_keys, hlife]
    split
    case isTrue hdone => simp [hdone]
    case isFalse hmore =>
      simp only [hmore, iff_false]
      intro hkilled
      obtain ⟨hshut, hnil⟩ := hc.settled.mp hkilled
      exact hmore ⟨hopen hshut, List.sublist_nil.mp (hnil ▸ hsub)⟩

/-- A channel loses a key that its selector does not hold and that is not valid any more. -/
theorem leave (h : r.Sound ⟨taken, k :: ks, closing⟩) (ht : r.key k = some t)
    (hd : r.channel t.channel = some d) (hx : r.selector t.selector = some x)
    (hvalid : t.valid = false) (hheld : k ∉ x.held) :
    (r.putChannel t.channel (d.dropKey k).settle).Sound ⟨taken, ks, closing⟩ := by
  have hkeys : (d.dropKey k).settle.keys = d.keys.filter (· != k) := Standing.settle_keys _
  have hmode : (d.dropKey k).settle.blocking = d.blocking := Standing.settle_blocking _
  have hflag : (d.dropKey k).settle.isOpen = d.isOpen := Standing.settle_isOpen _
  refine h.putChannel hd (h.settle hd rfl rfl id List.filter_sublist) ?_ ?_
  · intro e u y hu huc hy hks
    have hheld' : e = k → e ∉ y.held := by
      rintro rfl
      rw [Option.some.inj (hu.symm.trans ht), hx] at hy
      rwa [← Option.some.inj hy]
    have hvalid' : e = k → u.valid = false := by
      rintro rfl
      rw [Option.some.inj (hu.symm.trans ht), hvalid]
    constructor <;> grind [KeySound]
  · intro e u d' y hu huc hks
    have hek : e ≠ k := by
      rintro rfl
      exact huc (by rw [Option.some.inj (hu.symm.trans ht)])
    constructor <;> grind [KeySound]

/-- A selector is emptied and closed: what it held has still to leave the channels. -/
theorem clear (h : r.Sound {}) (hx : r.selector s = some x) :
    (r.putSelector s x.clear).Sound { leaving := x.held } := by
  have hs := h.selector _ _ hx
  refine h.putSelector hx ?_ ?_ ?_
  · constructor <;> simp [Roster.clear, hs.kept]
  · intro e u d hu hus _ hks
    constructor <;> grind [KeySound, Roster.clear]
  · intro e u d y hu hus hks
    constructor <;> grind [KeySound]

/-- A channel is flipped to closed, and killed if it lists no key: its keys may still be valid. -/
theorem shut (h : r.Sound {}) (hd : r.channel c = some d) :
    (r.putChannel c d.shut).Sound { closing := d.keys } := by
  have hkeys : d.shut.keys = d.keys := Standing.settle_keys _
  have hmode : d.shut.blocking = d.blocking := Standing.settle_blocking _
  refine h.putChannel hd (h.settle hd rfl rfl (fun _ => rfl) (List.Sublist.refl _)) ?_ ?_
  · intro e u x hu huc _ hks
    constructor <;> grind [KeySound]
  · intro e u d' x hu huc hks
    constructor <;> grind [KeySound]

/-- A selector selects other keys among those that it holds. -/
theorem select (h : r.Sound o) (hx : r.selector s = some x) {chosen : List KeyId}
    (honce : chosen.Nodup) (hheld : ∀ k ∈ chosen, k ∈ x.held) :
    (r.putSelector s { x with selected := chosen }).Sound o := by
  have hs := h.selector _ _ hx
  refine h.putSelector hx ?_ ?_ ?_
  · exact { hs with selectedOnce := honce, selected := hheld }
  · intro e u d hu hus _ hks
    exact { hks with }
  · intro e u d y _ _ hks
    exact hks

/-- A channel changes its blocking mode; it begins to block only without a valid key. -/
theorem changeMode (h : r.Sound {}) (hd : r.channel c = some d) {block : Bool}
    (hblock : block = true → ∀ k ∈ d.keys, ∀ t, r.key k = some t → t.valid = false) :
    (r.putChannel c { d with blocking := block }).Sound {} := by
  have hc := h.channel _ _ hd
  refine h.putChannel hd ?_ ?_ ?_
  · exact { hc with }
  · intro e u x hu huc hx hks
    refine { hks with opened := ?_ }
    intro hvalid
    refine ⟨?_, (hks.opened hvalid).2⟩
    have hheld : e ∈ x.held := by simpa using (hks.live hvalid).1
    cases block with
    | false => rfl
    | true => simp [hblock rfl e (hks.held hheld) u hu] at hvalid
  · intro e u d' x _ _ hks
    exact hks

theorem addChannel (h : r.Sound {}) (hnew : r.channel c = none) :
    (r.putChannel c .fresh).Sound {} := by
  refine ⟨?_, fun s x hx => (h.selector s x hx).mono (SamePlaces.refl r), ?_⟩
  · intro e d hd
    rcases put_cases hd with ⟨-, rfl⟩ | ⟨-, hd⟩
    · constructor <;> simp [Standing.fresh]
    · exact (h.channel e d hd).mono (SamePlaces.refl r)
  · intro k t ht
    obtain ⟨d, x, hd, hx, hk⟩ := h.key k t ht
    have htc : t.channel ≠ c := by
      rintro rfl
      simp [hnew] at hd
    exact ⟨d, x, by simp [htc, hd], hx, hk⟩

theorem addSelector (h : r.Sound {}) (hnew : r.selector s = none) :
    (r.putSelector s .fresh).Sound {} := by
  refine ⟨fun c d hd => (h.channel c d hd).mono (SamePlaces.refl r), ?_, ?_⟩
  · intro e x hx
    rcases put_cases hx with ⟨-, rfl⟩ | ⟨-, hx⟩
    · constructor <;> simp [Roster.fresh]
    · exact (h.selector e x hx).mono (SamePlaces.refl r)
  · intro k t ht
    obtain ⟨d, x, hd, hx, hk⟩ := h.key k t ht
    have hts : t.selector ≠ s := by
      rintro rfl
      simp [hnew] at hx
    exact ⟨d, x, hd, by simp [hts, hx], hk⟩

/-- In a sound registry there is nothing left to kill. -/
theorem kill_eq (h : r.Sound o) (hd : r.channel c = some d) : d.kill = d := by
  have hc := h.channel _ _ hd
  have hsettled := hc.settled
  have hbegun := hc.begun
  obtain ⟨isOpen, blocking, keys, lifecycle, alive⟩ := d
  cases lifecycle <;> cases isOpen <;> cases keys <;>
    simp_all [Standing.kill, Lifecycle.killPermitted]

end Sound

/-! ## Whole operations -/

/-- No selector holds the key any more. -/
def Forgotten (r : Registry) (k : KeyId) : Prop :=
  ∀ s x, r.selector s = some x → k ∉ x.held

section Strike

variable {r : Registry} {k : KeyId}

theorem strike_of (ht : r.key k = some t) (hd : r.channel t.channel = some d)
    (halive : d.alive = true) :
    r.strike k = (r.putKey k t.void).putChannel t.channel (d.dropKey k).settle := by
  have hany : (r.channel t.channel).any Standing.alive = true := by simp [hd, halive]
  simp only [strike, ht, hany, if_true, onChannel_of hd]
  rw [onKey_of (by simpa using ht), onChannel_of (d := d.dropKey k) (by simp)]
  exact putChannel_putChannel (r := r.putKey k t.void) t.channel (d.dropKey k) (d.dropKey k).settle

theorem strike_selector (r : Registry) (k : KeyId) (s : SelectorId) :
    (r.strike k).selector s = r.selector s := by
  unfold strike
  split
  · split <;> rfl
  · rfl

theorem SamePlaces.strike (r : Registry) (k : KeyId) : SamePlaces r (r.strike k) := by
  intro e t ht
  unfold Registry.strike
  split
  · split
    · by_cases he : e = k
      · exact ⟨t.void, by simp [onChannel, onKey, he ▸ ht, he], rfl, rfl⟩
      · exact ⟨t, by simp [onChannel, onKey, he, ht], rfl, rfl⟩
    · exact ⟨t, ht, rfl, rfl⟩
  · exact ⟨t, ht, rfl, rfl⟩

end Strike

namespace Sound

variable {r : Registry} {o : Debts} {k : KeyId} {ks taken leaving closing : List KeyId}

/-- Cancelling a key keeps the registry sound. A closed channel owes one cancellation less. -/
theorem cancel (h : r.Sound { closing := k :: ks }) : (r.cancel k).Sound { closing := ks } := by
  have hweaken (hdead : ∀ t, r.key k = some t → t.valid = false) :
      r.Sound { closing := ks } := by
    refine h.weaken fun e t d x ht hks => { hks with opened := ?_ }
    intro hvalid
    have hek : e ≠ k := by
      rintro rfl
      simp [hdead t ht] at hvalid
    simpa [hek] using hks.opened hvalid
  unfold Registry.cancel
  split
  case h_2 hnone => exact hweaken (by simp [hnone])
  case h_1 t ht =>
    split
    case isFalse hinvalid =>
      refine hweaken fun u hu => ?_
      rw [← Option.some.inj (ht.symm.trans hu)]
      simpa using hinvalid
    case isTrue hvalid =>
      obtain ⟨d, x, -, hx, -, -, hks⟩ := h.places ht
      have hheld : k ∈ x.held := by simpa using (hks.live hvalid).1
      have hvoid := h.void ht hx hvalid hheld
      rw [onKey_of ht, onSelector_of (x := x) (by simpa using hx)]
      exact hvoid.enqueue (t := t.void) (by simp) (by simpa using hx) hheld

theorem cancel_open (h : r.Sound {}) (k : KeyId) : (r.cancel k).Sound {} := by
  refine cancel (h.weaken fun e t d x _ hks => { hks with opened := ?_ })
  intro hvalid
  have := hks.opened hvalid
  simp_all

theorem strike (h : r.Sound ⟨taken, k :: ks, closing⟩) (hgone : r.Forgotten k) :
    (r.strike k).Sound ⟨taken, ks, closing⟩ := by
  cases ht : r.key k with
  | none =>
    have hsame : r.strike k = r := by simp [Registry.strike, ht]
    rw [hsame]
    refine h.weaken fun e t d x hte hks => ?_
    have hek : e ≠ k := by
      rintro rfl
      simp [ht] at hte
    constructor <;> grind [KeySound]
  | some t =>
    obtain ⟨d, x, hd, hx, hc, -, -⟩ := h.places ht
    have hheld : k ∉ x.held := hgone t.selector x hx
    rw [strike_of ht hd hc.kept]
    exact (h.voidForgotten ht hx hheld).leave (t := t.void) (by simp) (by simpa using hd)
      (by simpa using hx) rfl hheld

/-- Every key of a queue that was taken is forgotten by its selector and leaves its channel. -/
theorem purgeLoop {s : SelectorId} :
    ∀ (ks : List KeyId) (r : Registry), r.Sound { taken := ks } → ks.Nodup →
      (∀ k ∈ ks, ∃ t, r.key k = some t ∧ t.selector = s) →
      (ks.foldl (fun r k => (r.onSelector s (Roster.forget k)).strike k) r).Sound {}
  | [], r, h, _, _ => h
  | k :: ks, r, h, hnodup, hown => by
      obtain ⟨t, ht, rfl⟩ := hown k (by simp)
      obtain ⟨d, x, -, hx, -, -, -⟩ := h.places ht
      obtain ⟨hnew, hrest⟩ := List.nodup_cons.mp hnodup
      have hforget := h.forget ht hx hnew
      have hgone : (r.putSelector t.selector (x.forget k)).Forgotten k := by
        intro e y hy
        rcases put_cases hy with ⟨-, rfl⟩ | ⟨he, hy⟩
        · simp [Roster.forget]
        · exact fun hk => he (h.selector_of_held ht hy hk).symm
      rw [List.foldl_cons, onSelector_of hx]
      refine purgeLoop ks _ (hforget.strike hgone) hrest ?_
      intro e he
      obtain ⟨u, hu, hus⟩ := hown e (List.mem_cons_of_mem _ he)
      obtain ⟨v, hv, -, hvs⟩ :=
        SamePlaces.strike (r.putSelector t.selector (x.forget k)) k e u hu
      exact ⟨v, hv, hvs.trans hus⟩

theorem purge (h : r.Sound {}) (s : SelectorId) : (r.purge s).Sound {} := by
  unfold Registry.purge
  split
  case h_2 => exact h
  case h_1 x hx =>
    have hs := h.selector _ _ hx
    rw [onSelector_of hx]
    refine purgeLoop x.queued _ (h.takeQueue hx) hs.queuedOnce ?_
    exact fun k hk => hs.own k (hs.queued k hk)

theorem cancelLoop :
    ∀ (ks : List KeyId) (r : Registry), r.Sound { closing := ks } →
      (ks.foldl Registry.cancel r).Sound {}
  | [], _, h => h
  | _ :: ks, _, h => cancelLoop ks _ h.cancel

theorem closeChannel (h : r.Sound {}) (c : ListenerId) : (r.closeChannel c).Sound {} := by
  unfold Registry.closeChannel
  split
  case h_2 => exact h
  case h_1 d hd =>
    split
    case isFalse => exact h
    case isTrue =>
      rw [onChannel_of hd]
      exact cancelLoop d.keys _ (h.shut hd)

theorem strikeLoop :
    ∀ (ks : List KeyId) (r : Registry), r.Sound { leaving := ks } →
    (∀ k ∈ ks, r.Forgotten k) →
      (ks.foldl (fun r k => (r.onKey k Tie.void).strike k) r).Sound {}
  | [], _, h, _ => h
  | k :: ks, r, h, hgone => by
      have hvoid : (r.onKey k Tie.void).Sound { leaving := k :: ks } := by
        cases ht : r.key k with
        | none =>
          have hsame : r.onKey k Tie.void = r := by
            ext e <;> simp only [onKey, ht]
            split <;> simp_all
          rwa [hsame]
        | some t =>
          obtain ⟨d, x, -, hx, -, -, -⟩ := h.places ht
          rw [onKey_of ht]
          exact h.voidForgotten ht hx (hgone k (by simp) t.selector x hx)
      rw [List.foldl_cons]
      refine strikeLoop ks _ (hvoid.strike (hgone k (by simp))) ?_
      intro e he s x hx
      rw [strike_selector] at hx
      exact hgone e (List.mem_cons_of_mem _ he) s x hx

theorem closeSelector (h : r.Sound {}) (s : SelectorId) : (r.closeSelector s).Sound {} := by
  unfold Registry.closeSelector
  split
  case h_2 => exact h
  case h_1 x hx =>
    split
    case isFalse => exact h
    case isTrue =>
      have hs := h.selector _ _ hx
      rw [onSelector_of hx]
      refine strikeLoop (x.held ++ x.queued) _ ?_ ?_
      · refine (h.clear hx).weaken fun e t d y _ hks => ?_
        constructor <;> grind [KeySound]
      · intro k hk e y hy
        have hheld : k ∈ x.held := (List.mem_append.mp hk).elim id (hs.queued k)
        rcases put_cases hy with ⟨-, rfl⟩ | ⟨he, hy⟩
        · simp [Roster.clear]
        · obtain ⟨t, ht, hts⟩ := hs.own k hheld
          exact fun hky => he ((h.selector_of_held ht hy hky).symm.trans hts)

/-- A new key between an open channel that does not block and an open selector keeps
the registry sound. -/
theorem enrol (h : r.Sound {}) (hk : r.key k = none) (hd : r.channel c = some d)
    (hx : r.selector s = some x) (hopen : d.isOpen = true) (hblock : d.blocking = false)
    (hselector : x.isOpen = true) : (r.enrol c s k).Sound {} := by
  have hissue := h.issue hk hd hx hopen hblock
  have hlist := hissue.addKey (t := ⟨s, c, true⟩) (by simp) (by simpa using hd) hopen
    (h.not_listed hk hd)
  have hadopt := hlist.adopt (t := ⟨s, c, true⟩) (d := d.addKey k) (x := x) (by simp) (by simp)
    (by simpa using hx) rfl (by simp [Standing.addKey]) hselector (h.not_held hk hx)
  have hsame : r.enrol c s k =
      ((r.putKey k ⟨s, c, true⟩).putChannel c (d.addKey k)).putSelector s (x.adopt k) := by
    unfold Registry.enrol
    rw [onSelector_of (x := x) (by simpa using hx), onChannel_of (d := d) (by simpa using hd)]
    rfl
  rw [hsame]
  exact hadopt

end Sound
end Registry
end PolledChannels
