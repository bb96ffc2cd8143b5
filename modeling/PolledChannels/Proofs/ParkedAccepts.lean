import PolledChannels.Proofs.Positions

/-!
# Nobody waits in an accept on a closed channel

An accept looks whether the channel is open, writes its thread down, takes a use of the descriptor
and makes its call in accesses of their own, and a close may fall between any two of them. A use
that is taken before the close marks the descriptor is found by the mark, so the socket is shut down
under it; a use that is asked for later is refused. Which of the two it is depends on the guarding
word alone, so an encounter is followed here by the stances of its parties towards one channel.
-/

namespace PolledChannels

open PolledChannels.Action

namespace Guard

variable {word : UInt64} {effect : GuardEffect}

theorem isClosed_mark : isClosed (word ||| closedBit) = true := by
  rw [isClosed_iff, toNat_mark]
  omega

theorem mark_of_isClosed (h : isClosed word = true) : word ||| closedBit = word := by
  rw [isClosed_iff] at h
  rw [← UInt64.toNat_inj, toNat_mark]
  omega

theorem isClosed_of_afterMark (h : afterMark word = .done) : isClosed word = true := by
  rcases afterMark_cases word with ⟨-, hclosed⟩ | ⟨hnext, -⟩ | ⟨hnext, -⟩
  · exact hclosed
  · cases h.symm.trans hnext
  · cases h.symm.trans hnext

/-- The first mark finds a use, which it shuts down, or none. -/
theorem afterMark_act (h : afterMark word = .act effect) :
    isClosed word = false ∧ (effect = .shutDown ∨ word.toNat = 0) := by
  rcases afterMark_cases word with ⟨hnext, -⟩ | ⟨-, hword⟩ | ⟨hnext, hopen, -⟩
  · cases h.symm.trans hnext
  · refine ⟨?_, .inr hword⟩
    rw [← Bool.not_eq_true, isClosed_iff, hword]
    decide
  · cases h.symm.trans hnext
    exact ⟨hopen, .inl rfl⟩

end Guard

/-- What decides whether a descriptor may be used. -/
structure Seal where
  isOpen : Bool
  word : UInt64
  lifecycle : Lifecycle

def Gate.seal (g : Gate) : Seal :=
  ⟨g.isOpen, g.word, g.lifecycle⟩

/-- What a party is about to do to the descriptor of a channel, or has done. -/
inductive Stance where
  | idle
  /-- About to take a use, if the word is still what it saw. -/
  | claim (seen : UInt64)
  | use
  /-- Its use was the last one, and the number is to go back. -/
  | give
  /-- Flipped the channel, and is to mark its descriptor. -/
  | owe
  /-- Marked the descriptor, and is to do something to the number. -/
  | act (effect : GuardEffect)
  /-- The descriptor is marked, and what the mark asked for is done. -/
  | past
  | gone

namespace Stance

/-- What the next access does to the number. -/
@[grind] def effect? : Stance → Option GuardEffect
  | act effect => some effect
  | give => some .release
  | _ => none

/-- Kept by the turn at the channel. -/
@[grind] def hasTurn : Stance → Bool
  | claim _ | use | give => true
  | _ => false

/-- Kept by the lock that every close takes. -/
@[grind] def hasLock : Stance → Bool
  | owe | act _ | past => true
  | _ => false

/-- The close found the channel flipped, or flipped it. -/
@[grind] def hasFlipped : Stance → Bool
  | owe | act _ | past | gone => true
  | _ => false

/-- The close marked the descriptor, or found it marked. -/
@[grind] def hasMarked : Stance → Bool
  | act _ | past | gone => true
  | _ => false

/-- What an access does to the seal of a channel and to the stance of the party. -/
inductive Turn (q : Seal) : Stance → Seal → Stance → Prop
  | stay {s : Stance} (hs : s.effect? = none) : Turn q s q s
  | weigh {s s' : Stance} (hs : s = idle ∨ ∃ seen, s = claim seen)
      (hs' : s' = idle ∨ s' = claim q.word ∧ Guard.isClosed q.word = false) : Turn q s q s'
  | hold : Turn q (claim q.word) { q with word := q.word + Guard.oneUse } use
  | last (h : q.word.toNat = 3) : Turn q use { q with word := q.word - Guard.oneUse } give
  | leave (h : q.word.toNat ≠ 3) : Turn q use { q with word := q.word - Guard.oneUse } idle
  | give : Turn q give q idle
  | flip (h : q.isOpen = true) : Turn q idle { q with isOpen := false } owe
  | late (h : q.isOpen = false) : Turn q idle q gone
  | dead (h : q.lifecycle = .killed) : Turn q owe q past
  | marked {s : Stance} (hs : s = owe ∨ s = past) (h : Guard.afterMark q.word = .done) :
      Turn q s { q with word := q.word ||| Guard.closedBit } past
  | mark {s : Stance} {effect : GuardEffect} (hs : s = owe ∨ s = past)
      (h : Guard.afterMark q.word = .act effect) :
      Turn q s { q with word := q.word ||| Guard.closedBit } (act effect)
  | act (effect : GuardEffect) : Turn q (act effect) q past
  | kill : Turn q past { q with lifecycle := .killed } past
  | finish : Turn q past q gone
  | part : Turn q gone q idle

/-- What holds of a seal, the stances towards it, and what was done to the number. The word
counts the one use there may be. A marked descriptor with a use is shut down, and one that was
given back has no use. -/
structure Sound (q : Seal) (has : Stance → Prop) (did : GuardEffect → Prop) : Prop where
  used : has use → q.word.toNat / 2 = 1
  unused : ¬ has use → q.word.toNat / 2 = 0
  claimed : ∀ seen, has (claim seen) → Guard.isClosed seen = false
  flipped : ∀ s, has s → s.hasFlipped = true → q.isOpen = false
  marked : ∀ s, has s → s.hasMarked = true → Guard.isClosed q.word = true
  owed : q.isOpen = false → Guard.isClosed q.word = true ∨ has owe
  killed : q.lifecycle = .killed → Guard.isClosed q.word = true
  shutDown : Guard.isClosed q.word = true → has use → did .shutDown ∨ has (act .shutDown)
  released : did .release ∨ has (act .release) ∨ has give →
    Guard.isClosed q.word = true ∧ ¬ has use
  settled : has gone → ¬ has owe ∧ ∀ effect, ¬ has (act effect)

namespace Sound

variable {q q' : Seal} {others : Stance → Prop} {did : GuardEffect → Prop} {s s' : Stance}
    {effect : GuardEffect}

/-- An access that does nothing to the number leaves what was done as it is. -/
theorem quiet {has : Stance → Prop} (hs : s.effect? = none) (h : Sound q has did) :
    Sound q has fun effect => did effect ∨ s.effect? = some effect := by
  simpa only [hs, reduceCtorEq, or_false] using h

section Word

variable (hturn : ∀ t, others t → t.hasTurn = false)

include hturn

/-- The claim saw this word, so no close marked it before the use was taken. -/
theorem hold (h : Sound q (fun t => others t ∨ t = claim q.word) did) :
    Sound { q with word := q.word + Guard.oneUse } (fun t => others t ∨ t = use) did := by
  have hother : ¬ others use := fun ho => Bool.noConfusion (hturn use ho)
  have hzero : q.word.toNat / 2 = 0 := h.unused (by simp [hother])
  have hword := Guard.toNat_add_use (show q.word.toNat + 2 < 2 ^ 64 by omega)
  have hopen : Guard.isClosed (q.word + Guard.oneUse) = false :=
    Guard.isClosed_taken.trans (h.claimed q.word (.inr rfl))
  cases h
  constructor <;> grind

/-- The last use of a marked descriptor gives its number back, and no other use does. -/
theorem leave (h : Sound q (fun t => others t ∨ t = use) did)
    (hs' : s' = if q.word.toNat = 3 then give else idle) :
    Sound { q with word := q.word - Guard.oneUse } (fun t => others t ∨ t = s') did := by
  have hother : ¬ others use := fun ho => Bool.noConfusion (hturn use ho)
  have hone : q.word.toNat / 2 = 1 := h.used (.inr rfl)
  have hword := Guard.toNat_sub_use (show 2 ≤ q.word.toNat by omega)
  have hclosed : Guard.isClosed (q.word - Guard.oneUse) = Guard.isClosed q.word :=
    Guard.isClosed_left
  have hlast : Guard.isClosed q.word = true ↔ q.word.toNat % 2 = 1 := Guard.isClosed_iff
  cases h
  constructor <;> grind

end Word

section Lock

variable (hlock : ∀ t, others t → t.hasLock = false)

include hlock

/-- Whoever flipped the channel has let go of the lock, so the mark is made. -/
theorem late (h : Sound q (fun t => others t ∨ t = idle) did) (hopen : q.isOpen = false) :
    Sound q (fun t => others t ∨ t = gone) did := by
  have hnobody : ¬ (others owe ∨ owe = idle) := by
    rintro (ho | ho)
    · exact Bool.noConfusion (hlock owe ho)
    · cases ho
  have hclosed : Guard.isClosed q.word = true := (h.owed hopen).resolve_right hnobody
  cases h
  constructor <;> grind

theorem finish (h : Sound q (fun t => others t ∨ t = past) did) :
    Sound q (fun t => others t ∨ t = gone) did := by
  cases h
  constructor <;> grind

end Lock

/-- A mark that finds the descriptor marked changes nothing. -/
theorem remark (h : Sound q (fun t => others t ∨ t = s) did) (hs : s = owe ∨ s = past)
    (hmark : Guard.afterMark q.word = .done) :
    Sound { q with word := q.word ||| Guard.closedBit } (fun t => others t ∨ t = past) did := by
  cases h
  have hclosed := Guard.isClosed_of_afterMark hmark
  rw [Guard.mark_of_isClosed hclosed]
  constructor <;> grind

/-- The first mark: a use that it finds is shut down, and without a use the number goes back. -/
theorem mark (h : Sound q (fun t => others t ∨ t = s) did)
    (hs : s = owe ∨ s = past) (hmark : Guard.afterMark q.word = .act effect) :
    Sound { q with word := q.word ||| Guard.closedBit } (fun t => others t ∨
      t = act effect) did := by
  cases h
  obtain ⟨hopen, heffect⟩ := Guard.afterMark_act hmark
  have hclosed : Guard.isClosed (q.word ||| Guard.closedBit) = true := Guard.isClosed_mark
  have hword : (q.word ||| Guard.closedBit).toNat / 2 = q.word.toNat / 2 := by
    rw [Guard.toNat_mark]
    omega
  constructor <;> grind

theorem weigh (h : Sound q (fun t => others t ∨ t = s) did)
    (hs : s = idle ∨ ∃ seen, s = claim seen)
    (hs' : s' = idle ∨ s' = claim q.word ∧ Guard.isClosed q.word = false) :
    Sound q (fun t => others t ∨ t = s') did := by
  cases h
  constructor <;> grind

theorem flip (h : Sound q (fun t => others t ∨ t = idle) did) (hopen : q.isOpen = true) :
    Sound { q with isOpen := false } (fun t => others t ∨ t = owe) did := by
  cases h
  constructor <;> grind

theorem dead (h : Sound q (fun t => others t ∨ t = owe) did) (hdead : q.lifecycle = .killed) :
    Sound q (fun t => others t ∨ t = past) did := by
  cases h
  constructor <;> grind

theorem kill (h : Sound q (fun t => others t ∨ t = past) did) :
    Sound { q with lifecycle := .killed } (fun t => others t ∨ t = past) did := by
  cases h
  constructor <;> grind

theorem part (h : Sound q (fun t => others t ∨ t = gone) did) :
    Sound q (fun t => others t ∨ t = idle) did := by
  cases h
  constructor <;> grind

/-- What a close does to the number is what its mark asked for. -/
theorem perform (h : Sound q (fun t => others t ∨ t = act effect) did) :
    Sound q (fun t => others t ∨ t = past) fun e => did e ∨ (act effect).effect? = some e := by
  have hopen : q.isOpen = false := h.flipped (act effect) (.inr rfl) rfl
  have hclosed : Guard.isClosed q.word = true := h.marked (act effect) (.inr rfl) rfl
  cases h
  constructor <;> grind

theorem giveBack (h : Sound q (fun t => others t ∨ t = give) did) :
    Sound q (fun t => others t ∨ t = idle) fun effect => did effect ∨
    give.effect? = some effect := by
  cases h
  constructor <;> grind

theorem turn (hsound : Sound q (fun t => others t ∨ t = s) did) (h : Turn q s q' s')
    (hturn : s.hasTurn = true ∨ s'.hasTurn = true → ∀ t, others t → t.hasTurn = false)
    (hlock : s.hasLock = true ∨ s = idle ∧ s'.hasFlipped = true → ∀ t, others t →
      t.hasLock = false) :
    Sound q' (fun t => others t ∨ t = s') fun effect => did effect ∨
    s.effect? = some effect := by
  cases h with
  | stay hs => exact hsound.quiet hs
  | weigh hs hs' =>
    refine (hsound.weigh hs hs').quiet ?_
    obtain rfl | ⟨seen, rfl⟩ := hs <;> rfl
  | hold => exact (hsound.hold (hturn (.inl rfl))).quiet rfl
  | last h => exact (hsound.leave (hturn (.inl rfl)) (if_pos h).symm).quiet rfl
  | leave h => exact (hsound.leave (hturn (.inl rfl)) (if_neg h).symm).quiet rfl
  | give => exact hsound.giveBack
  | flip h => exact (hsound.flip h).quiet rfl
  | late h => exact (hsound.late (hlock (.inr ⟨rfl, rfl⟩)) h).quiet rfl
  | dead h => exact (hsound.dead h).quiet rfl
  | marked hs h =>
    refine (hsound.remark hs h).quiet ?_
    obtain rfl | rfl := hs <;> rfl
  | mark hs h =>
    refine (hsound.mark hs h).quiet ?_
    obtain rfl | rfl := hs <;> rfl
  | act effect => exact hsound.perform
  | kill => exact hsound.kill.quiet rfl
  | finish => exact (hsound.finish (hlock (.inl rfl))).quiet rfl
  | part => exact hsound.part.quiet rfl

end Sound
end Stance

/-! ## Stances of parties -/

def ClosePoint.stance : ClosePoint → Stance
  | shut => .idle
  | look | mark => .owe
  | act effect | kill _ (.act effect) => .act effect
  | ended _ => .gone
  | _ => .past

def ShutPoint.stance : ShutPoint → Stance
  | flip => .idle
  | credit _ => .owe
  | rest point => point.stance

def AcceptPoint.stance : AcceptPoint → Stance
  | own point => point.stance
  | take (.claim seen) => .claim seen
  | mode | poll | request | inside | fault _ | leave _ => .use
  | give _ => .give
  | _ => .idle

/-- How the party stands towards the channel. -/
def Party.stance (c : ListenerId) : Party → Stance
  | accept _ d point => if d = c then point.stance else .idle
  | close d point => if d = c then point.stance else .idle
  | interrupt _ (.shut d point) => if d = c then point.stance else .idle
  | interrupt _ _ => .idle

/-- What the note says was done to the number of the channel. -/
def Note.effect? (c : ListenerId) : Note → Option GuardEffect
  | did d effect => if d = c then some effect else none
  | _ => none

section Stances

variable {v v' : Front} {c d : ListenerId} {g : Gate} {target : Option ThreadId} {me : ThreadId}
    {w w' : Scene} {p p' : AcceptPoint} {a b : Party}

/-- What is noted of a close is what it does to the number. -/
theorem ShutPoint.effect_note (p : ShutPoint) :
    (p.note v c target).bind (Note.effect? d) = if c = d then p.stance.effect? else none := by
  cases p with
  | flip =>
    simp only [note]
    split <;> simp [Note.effect?, stance, Stance.effect?]
  | credit t => simp [note, stance, Stance.effect?]
  | rest point =>
    cases point with
    | act effect => rfl
    | kill closing point =>
      cases point with
      | act effect => rfl
      | _ => exact (ite_self none).symm
    | sample released =>
      cases hacceptor : (v.gate c).bind Gate.acceptor <;>
        simp [note, hacceptor, Note.effect?, stance, ClosePoint.stance, Stance.effect?]
    | _ => exact (ite_self none).symm

theorem AcceptPoint.effect_note (p : AcceptPoint) :
    (p.note v me c).bind (Note.effect? d) = if c = d then p.stance.effect? else none := by
  cases p with
  | own point => exact point.effect_note
  | take call =>
    have hstance : (take call).stance.effect? = none := by
      cases call <;> rfl
    rw [hstance, ite_self, note]
    split <;> rfl
  | give a => rfl
  | _ => exact (ite_self none).symm

theorem Party.effect_note (a : Party) :
    (a.note v).bind (Note.effect? d) = (a.stance d).effect? := by
  have hstance {c : ListenerId} (s : Stance) : (if c = d then s.effect? else none) =
      (if c = d then s else .idle).effect? := by
    split <;> rfl
  cases a with
  | accept me c p | close c p => exact p.effect_note.trans (hstance _)
  | interrupt t p =>
    cases p with
    | shut c p => exact p.effect_note.trans (hstance _)
    | _ => rfl

theorem KillPoint.Turn.stances {p p' : KillPoint}
    (closing : Event × IoResult) (h : Turn c w p w' p') (hg : w.front.gate c = some g) :
    ∃ g', w'.front.gate c = some g' ∧
    Stance.Turn g.seal (ClosePoint.kill closing p).stance g'.seal
      (ClosePoint.kill closing p').stance := by
  cases h with
  | promoteOnly | promote => exact ⟨g.killed, Front.gate_onGate_some hg, .kill⟩
  | marked hg' h =>
    cases hg.symm.trans hg'
    exact ⟨g.marked, Front.gate_onGate_some hg, .marked (.inr rfl) h⟩
  | mark hg' h =>
    cases hg.symm.trans hg'
    exact ⟨g.marked, Front.gate_onGate_some hg, .mark (.inr rfl) h⟩
  | act effect released => exact ⟨g, hg, .act effect⟩
  | _ => exact ⟨g, hg, .stay rfl⟩

theorem ClosePoint.stance_cancelling (outcome : IoResult) (ks : List KeyId) :
    Stance.Turn g.seal .past g.seal (cancelling outcome ks).stance := by
  cases ks with
  | nil => exact .finish
  | cons k ks => exact .stay rfl

theorem ClosePoint.Turn.stances {p p' : ClosePoint} (h : Turn c w p w' p')
    (hp : p ≠ .shut) (hg : w.front.gate c = some g) :
    ∃ g', w'.front.gate c = some g' ∧ Stance.Turn g.seal p.stance g'.seal p'.stance := by
  cases h with
  | shut | late => exact absurd rfl hp
  | killed _ hg' _ h =>
    cases hg.symm.trans hg'
    exact ⟨g, hg, .dead h⟩
  | marked hg' h =>
    cases hg.symm.trans hg'
    exact ⟨g.marked, Front.gate_onGate_some hg, .marked (.inl rfl) h⟩
  | mark hg' h =>
    cases hg.symm.trans hg'
    exact ⟨g.marked, Front.gate_onGate_some hg, .mark (.inl rfl) h⟩
  | act effect released => exact ⟨g, hg, .act effect⟩
  | kill closing h => exact h.stances closing hg
  | sweep outcome | cancelled rest outcome => exact ⟨g, hg, stance_cancelling outcome _⟩
  | cancel rest outcome h => exact ⟨g, h.front ▸ hg, .stay rfl⟩
  | _ => exact ⟨g, hg, .stay rfl⟩

theorem ShutPoint.Stride.stances {p p' : ShutPoint} (h : Stride c target v p v' p')
    (hg : v.gate c = some g) :
    ∃ g', v'.gate c = some g' ∧ Stance.Turn g.seal p.stance g'.seal p'.stance := by
  cases h with
  | flip hg' h hp' =>
    cases hg.symm.trans hg'
    have hstance : p'.stance = .owe := by
      subst hp'
      cases target <;> rfl
    rw [hstance]
    exact ⟨_, Front.gate_onGate_some hg, .flip h⟩
  | shut hg' h =>
    cases hg.symm.trans hg'
    exact ⟨g, hg, .late h⟩
  | credit t => exact ⟨_, Front.gate_onGate_some hg, .stay rfl⟩
  | rest hw hpoint h => exact h.stances hpoint (hw ▸ hg)

theorem AcceptPoint.stance_tried (a : Attempt) : (tried a).stance = .idle := by
  rcases tried_cases a with ⟨-, h⟩ | ⟨-, h⟩ <;> (rw [h]; rfl)

theorem AcceptPoint.stance_of_isWorking
    (h : p.isWorking = true ∨ ∃ a, p = .leave a) : p.stance = .use := by
  rcases h with h | ⟨a, rfl⟩
  · cases p with
    | mode | poll | request | inside | fault => rfl
    | _ => cases h
  · rfl

/-- Taking a use ends with the use, or waits for the word it saw, or comes to nothing. -/
theorem AcceptPoint.turn_take (g : Gate) (call : Guard.Call)
    (hcall : call = .look ∨ ∃ seen, call = .claim seen) :
    Stance.Turn g.seal (take call).stance
      ({ g with word := (Guard.step g.word call).1 } : Gate).seal
      (taking (Guard.step g.word call).2.1).stance := by
  have hweigh : (taking (Guard.weigh g.word)).stance = .idle ∨
      (taking (Guard.weigh g.word)).stance = .claim g.word ∧ Guard.isClosed g.word = false := by
    rcases Guard.weigh_cases g.word with h | ⟨h, hopen⟩
    · exact .inl (by rw [h]; rfl)
    · exact .inr ⟨by rw [h]; rfl, hopen⟩
  rcases hcall with rfl | ⟨seen, rfl⟩
  · exact .weigh (.inl rfl) hweigh
  · by_cases hseen : g.word = seen
    · subst hseen
      simp only [Guard.step, if_true]
      exact .hold
    · simp only [Guard.step, if_neg hseen]
      exact .weigh (.inr ⟨seen, rfl⟩) hweigh

theorem AcceptPoint.stance_heard (mine : Bool) (a : Attempt) : (heard mine a).stance = .idle := by
  rcases heard_cases mine a with ⟨_, _, -, h⟩ | ⟨-, h⟩ <;> (rw [h]; cases mine <;> rfl)

/-- A use is taken by looking at the word and putting the use into it. -/
def AcceptPoint.isOrderly : AcceptPoint → Prop
  | take call => call = .look ∨ ∃ seen, call = .claim seen
  | _ => True

theorem AcceptPoint.isOrderly_tried (a : Attempt) : (tried a).isOrderly := by
  rcases tried_cases a with ⟨-, h⟩ | ⟨-, h⟩ <;> (rw [h]; trivial)

theorem AcceptPoint.isOrderly_taking (word : UInt64) {call : Guard.Call}
    (hcall : call = .look ∨ ∃ seen, call = .claim seen) :
    (taking (Guard.step word call).2.1).isOrderly := by
  have hweigh : (taking (Guard.weigh word)).isOrderly := by
    rcases Guard.weigh_cases word with h | ⟨h, -⟩
    · rw [h]
      trivial
    · rw [h]
      exact .inr ⟨word, rfl⟩
  rcases hcall with rfl | ⟨seen, rfl⟩
  · exact hweigh
  · by_cases hseen : word = seen
    · simp only [Guard.step, if_pos hseen]
      trivial
    · simp only [Guard.step, if_neg hseen]
      exact hweigh

theorem AcceptPoint.Stride.isOrderly (h : Stride me c v p v' p')
    (hp : p.isOrderly) : p'.isOrderly := by
  cases h with
  | register hp' =>
    subst hp'
    split <;> trivial
  | store | again => exact .inl rfl
  | take call hg hp' =>
    subst hp'
    exact isOrderly_taking _ hp
  | work h h' =>
    rcases h' with h' | ⟨a, rfl⟩
    · cases p' with
      | take call => cases h'
      | _ => trivial
    · trivial
  | leave a hg hp' =>
    subst hp'
    rcases left_cases a _ with ⟨-, h⟩ | ⟨-, h⟩
    · rw [h]
      trivial
    · rw [h]
      exact isOrderly_tried a
  | give a hp' =>
    subst hp'
    exact isOrderly_tried a
  | mine a hg h hp' =>
    subst hp'
    rcases heard_cases true a with ⟨_, _, -, h⟩ | ⟨-, h⟩ <;> (rw [h]; trivial)
  | other a hg h hp' =>
    subst hp'
    rcases heard_cases false a with ⟨_, _, -, h⟩ | ⟨-, h⟩ <;> (rw [h]; trivial)
  | _ => trivial

theorem AcceptPoint.Stride.stances (h : Stride me c v p v' p')
    (hp : p.isOrderly) (hg : v.gate c = some g) :
    ∃ g', v'.gate c = some g' ∧ Stance.Turn g.seal p.stance g'.seal p'.stance := by
  cases h with
  | register hp' =>
    subst hp'
    refine ⟨g, hg, ?_⟩
    split <;> exact .stay rfl
  | own h => exact h.stances hg
  | owned outcome => exact ⟨g, hg, .part⟩
  | store | clear a => exact ⟨_, Front.gate_onGate_some hg, .stay rfl⟩
  | take call hg' hp' =>
    cases hg.symm.trans hg'
    subst hp'
    exact ⟨_, Front.gate_onGate_some hg, turn_take g call hp⟩
  | work h h' =>
    rw [stance_of_isWorking (.inl h), stance_of_isWorking h']
    exact ⟨g, hg, .stay rfl⟩
  | leave a hg' hp' =>
    cases hg.symm.trans hg'
    subst hp'
    refine ⟨_, Front.gate_onGate_some hg, ?_⟩
    rcases left_cases a g.word with ⟨hword, h⟩ | ⟨hword, h⟩
    · rw [h]
      exact .last hword
    · rw [h, stance_tried]
      exact .leave hword
  | give a hp' =>
    subst hp'
    rw [stance_tried]
    exact ⟨g, hg, .give⟩
  | mine a hg' h hp' =>
    subst hp'
    rw [stance_heard]
    exact ⟨_, Front.gate_onGate_some hg, .stay rfl⟩
  | other a hg' h hp' =>
    subst hp'
    rw [stance_heard]
    exact ⟨g, hg, .stay rfl⟩
  | _ => exact ⟨g, hg, .stay rfl⟩

def Party.isOrderly : Party → Prop
  | accept _ _ p => p.isOrderly
  | _ => True

theorem Party.Stride.isOrderly (h : Stride v a v' b) (ha : a.isOrderly) :
    b.isOrderly := by
  cases h with
  | accept h => exact h.isOrderly ha
  | close h | interrupt h => trivial

/-- What an access of a party does to a channel and to how the party stands towards it. -/
theorem Party.Stride.stances (h : Stride v a v' b) (ha : a.isOrderly) (hg : v.gate c = some g) :
    ∃ g', v'.gate c = some g' ∧ Stance.Turn g.seal (a.stance c) g'.seal (b.stance c) := by
  -- a party at another channel stands idle towards this one, and leaves it as it is
  have hparty {d : ListenerId} {q q' : Stance}
      (hsame : d = c → ∃ g', v'.gate c = some g' ∧ Stance.Turn g.seal q g'.seal q')
      (hother : c ≠ d → v'.gate c = v.gate c) :
      ∃ g', v'.gate c = some g' ∧ Stance.Turn g.seal (if d = c then q else .idle) g'.seal
        (if d = c then q' else .idle) := by
    by_cases hd : d = c
    · simp only [if_pos hd]
      exact hsame hd
    · simp only [if_neg hd]
      exact ⟨g, (hother (Ne.symm hd)).trans hg, .stay rfl⟩
  cases h with
  | accept h => exact hparty (by rintro rfl; exact h.stances ha hg) h.gate_of_ne
  | close h => exact hparty (by rintro rfl; exact h.stances hg) h.gate_of_ne
  | interrupt h =>
    cases h with
    | find | absent | ended => exact ⟨g, hg, .stay rfl⟩
    | mark hp' =>
      subst hp'
      refine ⟨g, hg, ?_⟩
      cases (v.slot _).bind Slot.blocker <;> exact .stay rfl
    | tell d =>
      simp only [stance, ShutPoint.stance, ite_self]
      exact ⟨g, hg, .stay rfl⟩
    | shut d h => exact hparty (by rintro rfl; exact h.stances hg) h.gate_of_ne
    | release d outcome =>
      refine ⟨g, hg, ?_⟩
      simp only [stance]
      split
      · exact .part
      · exact .stay rfl

/-! ## What stances keep -/

theorem Party.Closes.stance {p : ShutPoint} (h : a.Closes c target p) :
    a.stance c = p.stance := by
  cases h <;> simp [Party.stance, AcceptPoint.stance]

/-- Whoever flipped the channel, or found it flipped, closes it. -/
theorem Party.closes_of_hasFlipped (h : (a.stance c).hasFlipped = true) :
    ∃ target p, a.Closes c target p := by
  cases a with
  | accept me d p =>
    simp only [stance] at h
    split at h
    · next hd =>
      subst hd
      cases p with
      | own p => exact ⟨_, p, .own me p⟩
      | take call => cases call <;> cases h
      | _ => cases h
    · cases h
  | close d p =>
    simp only [stance] at h
    split at h
    · next hd =>
      subst hd
      exact ⟨_, p, .close p⟩
    · cases h
  | interrupt t p =>
    cases p with
    | shut d p =>
      simp only [stance] at h
      split at h
      · next hd =>
        subst hd
        exact ⟨_, p, .interrupt t p⟩
      · cases h
    | _ => cases h

theorem ShutPoint.hasTurn_stance (p : ShutPoint) : p.stance.hasTurn = false := by
  cases p with
  | rest point =>
    cases point with
    | kill closing point => cases point <;> rfl
    | _ => rfl
  | _ => rfl

theorem Party.holds_of_hasTurn (h : (a.stance c).hasTurn = true) : .turn c ∈ a.holds := by
  have hshut (d : ListenerId) (p : ShutPoint) :
      (if d = c then p.stance else .idle).hasTurn = false := by
    split
    · exact p.hasTurn_stance
    · rfl
  cases a with
  | accept me d p =>
    simp only [stance] at h
    split at h
    · next hd =>
      subst hd
      cases p with
      | own p => exact List.mem_cons_self ..
      | turn | ended => cases h
      | _ => exact List.mem_singleton.mpr rfl
    · cases h
  | close d p => cases (hshut d p).symm.trans h
  | interrupt t p =>
    cases p with
    | shut d p => cases (hshut d p).symm.trans h
    | _ => cases h

theorem ShutPoint.holds_of_hasLock {p : ShutPoint} (h : p.stance.hasLock = true) :
    .closing c ∈ p.holds c := by
  cases p with
  | flip => cases h
  | credit t => exact List.mem_singleton.mpr rfl
  | rest point =>
    cases point with
    | shut | ended => cases h
    | _ => exact List.mem_cons_self ..

theorem Stance.hasFlipped_of_hasLock {s : Stance} (h : s.hasLock = true) : s.hasFlipped = true := by
  cases s with
  | owe | act | past => rfl
  | _ => cases h

theorem Party.holds_of_hasLock (h : (a.stance c).hasLock = true) :
    .lock (.closing c) ∈ a.holds := by
  obtain ⟨target, p, hcloses⟩ := closes_of_hasFlipped (Stance.hasFlipped_of_hasLock h)
  rw [hcloses.stance] at h
  exact hcloses.holds (ShutPoint.holds_of_hasLock h)

/-- A close begins with the lock that every close takes. -/
theorem Party.Stride.wants_closing (h : Stride v a v' b) (ha : a.stance c = .idle)
    (hb : (b.stance c).hasFlipped = true) : a.wants = some (.lock (.closing c)) := by
  obtain ⟨target, p', hcloses⟩ := closes_of_hasFlipped hb
  rw [hcloses.stance] at hb
  rcases h.closes hcloses with ⟨p, hp, hstride⟩ | ⟨rfl, -⟩
  · rw [hp.stance] at ha
    refine hp.wants ?_
    cases hstride with
    | flip => rfl
    | shut => rfl
    | credit t => cases ha
    | rest _ hpoint turn =>
      cases turn with
      | shut | late => exact absurd rfl hpoint
      | kill closing turn => cases turn <;> cases ha
      | _ => cases ha
  · cases hb

theorem Party.stance_of_isNew (h : a.isNew = true) : a.isOrderly ∧ a.stance c = .idle := by
  cases a with
  | accept me d p =>
    cases p with
    | turn => exact ⟨trivial, ite_self _⟩
    | _ => cases h
  | close d p =>
    cases p with
    | flip => exact ⟨trivial, ite_self _⟩
    | _ => cases h
  | interrupt t p =>
    cases p with
    | find => exact ⟨trivial, rfl⟩
    | _ => cases h

end Stances

/-! ## Encounters with a guarded descriptor -/

namespace Position

variable {x : Position} {i j : Nat} {a b : Party} {v : Front} {c : ListenerId} {s : Stance}

/-- Somebody stands so towards the channel. -/
def Has (x : Position) (c : ListenerId) (s : Stance) : Prop :=
  ∃ (j : Nat) (a : Party), x.parties[j]? = some a ∧ a.stance c = s

/-- Somebody else does. -/
def Others (x : Position) (i : Nat) (c : ListenerId) (s : Stance) : Prop :=
  ∃ (j : Nat) (a : Party), j ≠ i ∧ x.parties[j]? = some a ∧ a.stance c = s

/-- Somebody did this to the number of the channel. -/
def Did (x : Position) (c : ListenerId) (effect : GuardEffect) : Prop :=
  ∃ j, (j, .did c effect) ∈ x.log

structure Guarded (x : Position) (c : ListenerId) : Prop where
  orderly : ∀ ⦃j : Nat⦄ ⦃a : Party⦄, x.parties[j]? = some a → a.isOrderly
  sound : ∃ g, x.front.gate c = some g ∧ Stance.Sound g.seal (x.Has c) (x.Did c)

theorem has_eq (hi : x.parties[i]? = some a) :
    x.Has c = fun s => x.Others i c s ∨ s = a.stance c := by
  refine funext fun s => propext ⟨?_, ?_⟩
  · rintro ⟨j, d, hj, hs⟩
    by_cases hji : j = i
    · subst hji
      cases hi.symm.trans hj
      exact .inr hs.symm
    · exact .inl ⟨j, d, hji, hj, hs⟩
  · rintro (⟨j, d, -, hj, hs⟩ | rfl)
    · exact ⟨j, d, hj, hs⟩
    · exact ⟨i, a, hi, rfl⟩

theorem others_moved : (x.moved i a b v).Others i c = x.Others i c := by
  refine funext fun s => propext ⟨?_, ?_⟩
  · rintro ⟨j, d, hji, hj, hs⟩
    exact ⟨j, d, hji, (place_moved_of_ne hji).symm.trans hj, hs⟩
  · rintro ⟨j, d, hji, hj, hs⟩
    exact ⟨j, d, hji, (place_moved_of_ne hji).trans hj, hs⟩

theorem did_moved :
    (x.moved i a b v).Did c = fun effect => x.Did c effect ∨
    (a.stance c).effect? = some effect := by
  have hnote (effect : GuardEffect) :
      a.note x.front = some (.did c effect) ↔ (a.stance c).effect? = some effect := by
    rw [← a.effect_note (v := x.front)]
    cases a.note x.front with
    | none => simp
    | some note => cases note <;> simp [Note.effect?]
  refine funext fun effect => propext ?_
  rw [← hnote]
  cases h : a.note x.front with
  | none => simp [Did, moved, h]
  | some note => simp [Did, moved, h, exists_or, eq_comm (a := note)]

theorem Guarded.moved (hx : x.Guarded c) (hexclusive : x.Exclusive) (h : x.Access i a b v) :
    (x.moved i a b v).Guarded c := by
  have hmoved := hexclusive.moved h
  obtain ⟨g, hg, hsound⟩ := hx.sound
  obtain ⟨g', hg', hturn⟩ := h.stride.stances (hx.orderly h.place) hg
  refine ⟨fun j d hj => ?_, g', hg', ?_⟩
  · rcases cases_moved hj with ⟨rfl, rfl⟩ | ⟨-, hj⟩
    · exact h.stride.isOrderly (hx.orderly h.place)
    · exact hx.orderly hj
  · rw [has_eq h.place_moved, others_moved, did_moved]
    rw [has_eq h.place] at hsound
    refine hsound.turn hturn ?_ ?_
    · rintro hhas t ⟨j, d, hji, hj, rfl⟩
      rw [← Bool.not_eq_true]
      intro hd
      rcases hhas with ha | hb
      · exact hji (hexclusive hj h.place (Party.holds_of_hasTurn hd) (Party.holds_of_hasTurn ha))
      · exact hji (hmoved ((place_moved_of_ne hji).trans hj) h.place_moved
          (Party.holds_of_hasTurn hd) (Party.holds_of_hasTurn hb))
    · rintro hhas t ⟨j, d, hji, hj, rfl⟩
      rw [← Bool.not_eq_true]
      intro hd
      rcases hhas with ha | ⟨ha, hb⟩
      · exact hji (hexclusive hj h.place (Party.holds_of_hasLock hd) (Party.holds_of_hasLock ha))
      · exact h.not_holds (h.stride.wants_closing ha hb) hj (Party.holds_of_hasLock hd)

end Position

/-! ## Waiting in the call -/

/-- Whoever waits in an accept on the number is answered, and every accept on it fails. -/
def Network.refuses (n : Network) (number : FileNumber) : Bool :=
  n.polled number Native.input != 0 && !((Net.accept number).run n).1.isOk

namespace AcceptPoint

variable {st : Station} {c : ListenerId} {l : Listener} {me : ThreadId} {p : AcceptPoint}
  {signalled : Bool}

theorem enterCall_of_refuses {number : FileNumber} (href : st.network.refuses number = true) :
    ((enterCall number).run st).1 ≠ .ok .inside := by
  have hfails := (Bool.and_eq_true_iff.mp href).2
  rw [enterCall, run_network_bind]
  intro h
  split at h
  · next hok => simp [hok, Except.isOk, Except.toBool] at hfails
  · cases h
  · cases h

theorem not_inside_of_refuses (hl : st.listeners[c]? = some l)
    (href : st.network.refuses l.descriptor.number = true) (hp : p = .request ∨ p = .inside) :
    ((p.step me c signalled).run st).1 ≠ .ok .inside := by
  rcases hp with rfl | rfl
  · rw [step, run_listener_bind hl]
    exact enterCall_of_refuses href
  · have hanswered : st.network.polled l.descriptor.number Native.input ≠ 0 :=
      bne_iff_ne.mp (Bool.and_eq_true_iff.mp href).1
    rw [step, run_listener_bind hl]
    cases signalled with
    | true => rintro ⟨⟩
    | false =>
      simp only [Bool.false_eq_true, if_false, run_bind, run_get, if_neg hanswered]
      exact enterCall_of_refuses href

end AcceptPoint

namespace Encounter

/-- The next access of an accept on the channel finds its thread waiting in the call: it makes the
call and has no answer, or it is in the call and still has none. -/
def Parks (e : Encounter) (c : ListenerId) (j : Nat) : Prop :=
  ∃ me p signalled, e.parties[j]? = some (.accept me c p) ∧ (p = .request ∨ p = .inside) ∧
    ((p.step me c signalled).run e.station).1 = .ok .inside

/-- What is assumed of the network: a socket that was shut down refuses, as long as its number has
not gone back. -/
def Heeds (e : Encounter) (c : ListenerId) : Prop :=
  e.position.Did c .shutDown → ¬ e.position.Did c .release →
    ∀ l, e.station.listeners[c]? = some l → e.station.network.refuses l.descriptor.number = true

variable {e : Encounter} {c : ListenerId} {l : Listener}

theorem guarded_start (hnew : ∀ a ∈ e.parties, a.isNew = true) (hlog : e.log = [])
    (hl : e.station.listeners[c]? = some l) (hopen : l.core.isOpen = true)
    (hunused : l.descriptor.word = 0) (hlive : l.lifecycle ≠ .killed) : e.position.Guarded c := by
  have hstance {j : Nat} {a : Party} (ha : e.parties[j]? = some a) :
      a.isOrderly ∧ a.stance c = .idle :=
    Party.stance_of_isNew (hnew a (List.mem_of_getElem? ha))
  have hidle {s : Stance} (h : e.position.Has c s) : s = .idle := by
    obtain ⟨j, a, ha, rfl⟩ := h
    exact (hstance ha).2
  have hdid {effect : GuardEffect} : ¬ e.position.Did c effect := by
    rintro ⟨j, h⟩
    rw [show e.position.log = [] from hlog] at h
    cases h
  have hword : l.gate.seal.word = 0 := hunused
  refine ⟨fun j a ha => (hstance ha).1, l.gate, Station.gate_front hl, ?_⟩
  constructor
  case unused => simp [hword]
  case owed => exact fun h => by cases hopen.symm.trans h
  case killed => exact fun h => absurd h hlive
  all_goals grind

theorem guarded_after (hnew : ∀ a ∈ e.parties, a.isNew = true) (hlog : e.log = [])
    (hl : e.station.listeners[c]? = some l) (hopen : l.core.isOpen = true)
    (hunused : l.descriptor.word = 0) (hlive : l.lifecycle ≠ .killed) (beats : List Beat) :
    (e.after beats).position.Guarded c :=
  kept (I := fun x => x.Guarded c) hnew (guarded_start hnew hlog hl hopen hunused hlive)
    (fun hexclusive h hx => hx.moved hexclusive h) beats

theorem gone_later (hnew : ∀ a ∈ e.parties, a.isNew = true) {i : Nat} {earlier : List Beat}
    (hi : e.parties[i]? = some (.close c .flip)) (hover : (e.after earlier).isOver i = true)
    (later : List Beat) : (e.after (earlier ++ later)).position.Has c .gone := by
  have hkept : ∃ p, (e.after (earlier ++ later)).parties[i]? = some (.close c p) ∧
      p.isOver = true := by
    refine kept_later (I := fun x => ∃ p, x.parties[i]? = some (.close c p) ∧ p.isOver = true)
      hnew ?_ ?_ later
    · obtain ⟨p, hp⟩ := close_after hnew hi earlier
      rw [isOver, hp] at hover
      exact ⟨p, hp, hover⟩
    · rintro x j a b v - haccess ⟨p, hp, hover⟩
      by_cases hij : i = j
      · subst hij
        cases hp.symm.trans haccess.place
        cases hstride : haccess.stride with
        | close h => exact ⟨_, haccess.place_moved, h.isOver hover⟩
      · exact ⟨p, (Position.place_moved_of_ne hij).trans hp, hover⟩
  obtain ⟨p, hp, hover⟩ := hkept
  obtain ⟨outcome, rfl⟩ := ShutPoint.eq_of_isOver hover
  exact ⟨i, _, hp, if_pos rfl⟩

/-- Once a close has returned, nobody waits in an accept on the channel, and nobody comes to. -/
theorem close_leaves_nobody_waiting {st : Station} {l : Listener}
    (hl : st.listeners[c]? = some l) (hopen : l.core.isOpen = true)
    (hunused : l.descriptor.word = 0) (hlive : l.lifecycle ≠ .killed) {parties : List Party}
    (hnew : ∀ a ∈ parties, a.isNew = true) {i : Nat} (hi : parties[i]? = some (.close c .flip))
    (earlier later : List Beat)
    (hover : ((⟨st, parties, []⟩ : Encounter).after earlier).isOver i = true)
    (hheeds : ((⟨st, parties, []⟩ : Encounter).after (earlier ++ later)).Heeds c) (j : Nat) :
    ¬ ((⟨st, parties, []⟩ : Encounter).after (earlier ++ later)).Parks c j := by
  rintro ⟨me, p, signalled, hj, hp, hinside⟩
  have hgone := gone_later hnew hi hover later
  obtain ⟨-, g, hg, hsound⟩ :=
    guarded_after (e := ⟨st, parties, []⟩) hnew rfl hl hopen hunused hlive
    (earlier ++ later)
  generalize (⟨st, parties, []⟩ : Encounter).after (earlier ++ later) = e at *
  have huse : e.position.Has c .use := by
    refine ⟨j, _, hj, ?_⟩
    rcases hp with rfl | rfl <;> exact if_pos rfl
  have hclosed : Guard.isClosed g.seal.word = true := hsound.marked _ hgone rfl
  have hshut : e.position.Did c .shutDown :=
    (hsound.shutDown hclosed huse).resolve_right ((hsound.settled hgone).2 _)
  have hkept : ¬ e.position.Did c .release := fun h => (hsound.released (.inl h)).2 huse
  obtain ⟨l', hl', -⟩ := Option.map_eq_some_iff.mp hg
  exact AcceptPoint.not_inside_of_refuses hl' (hheeds hshut hkept l' hl') hp hinside

/-- The accept waits in its call, and the other thread closes the channel. -/
def closedUnderAccept : List Beat :=
  List.replicate 12 (.access 0 false) ++ List.replicate 18 (.access 1 false)

theorem accept_woken_by_close :
    (acceptAndClose.after (List.replicate 12 (.access 0 false))).Parks 0 0 ∧
      ∃ e, e = acceptAndClose.after (closedUnderAccept ++ []) ∧ e.isOver 0 = false ∧
        .did 0 .shutDown ∈ e.notes 1 ∧ ¬ e.Parks 0 0 := by
  have hheeds : (acceptAndClose.after (closedUnderAccept ++ [])).Heeds 0 := by
    intro _ _ l hl
    have hrefuses : ((acceptAndClose.after (closedUnderAccept ++ [])).station.listeners[0]?.all
        fun l => (acceptAndClose.after (closedUnderAccept ++ [])).station.network.refuses
          l.descriptor.number) = true := by
      decide +kernel
    rw [hl] at hrefuses
    exact hrefuses
  have hparks : (acceptAndClose.after (List.replicate 12 (.access 0 false))).Parks 0 0 :=
    ⟨7, .inside, false, rfl, .inr rfl, rfl⟩
  refine ⟨hparks, _, rfl, by decide +kernel, by decide +kernel, ?_⟩
  exact close_leaves_nobody_waiting (i := 1) rfl rfl rfl (by decide) (by decide) rfl
    closedUnderAccept [] (by decide +kernel) hheeds 0

end Encounter
end PolledChannels
