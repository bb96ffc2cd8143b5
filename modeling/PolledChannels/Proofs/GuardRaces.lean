import Mathlib.Algebra.Group.Nat.Defs
import Mathlib.Data.List.Induction
import PolledChannels.Descriptor

/-!
# Races on a guarded descriptor

Any number of calls take, end and close a guarded descriptor at once. A race is the guarding word,
where each call stands, and what happened so far; a move starts a call or lets one call do its next
atomic access. Over every order of moves:

* the word is twice the uses in flight, and one more once a close set its bit;
* the number goes back to the kernel once, after a close and when no use is left;
* a close that found uses shuts the socket down in a later access, and by then the last of those
  uses may have given the number back.
-/

namespace PolledChannels.Guard

open scoped List

variable {call : Call} {i : Nat} {moves : List Move}

section Words

variable {word : UInt64}

theorem isClosed_iff : isClosed word = true ↔ word.toNat % 2 = 1 := by
  have hand : (word &&& closedBit).toNat = word.toNat % 2 := by
    simp [closedBit, Nat.and_one_is_mod]
  rw [isClosed, bne_iff_ne, ne_eq, ← UInt64.toNat_inj, hand, UInt64.toNat_zero]
  omega

theorem toNat_mark : (word ||| closedBit).toNat = 2 * (word.toNat / 2) + 1 := by
  have hor : (word ||| closedBit).toNat = word.toNat ||| 1 := by
    simp [closedBit]
  have hdiv : (word.toNat ||| 1) / 2 = word.toNat / 2 := by
    simp [Nat.or_div_two]
  have hmod : (word.toNat ||| 1) % 2 = 1 := by
    simp
  rw [hor]
  omega

theorem toNat_add_use (h : word.toNat + 2 < 2 ^ 64) :
    (word + oneUse).toNat = word.toNat + 2 := by
  have hadd : (word + oneUse).toNat = (word.toNat + 2) % 2 ^ 64 := by
    simp [oneUse, UInt64.toNat_add]
  rw [hadd, Nat.mod_eq_of_lt h]

theorem toNat_sub_use (h : 2 ≤ word.toNat) :
    (word - oneUse).toNat = word.toNat - 2 := by
  have hle : oneUse ≤ word := by
    rw [UInt64.le_iff_toNat_le]
    exact h
  rw [UInt64.toNat_sub_of_le _ _ hle]
  rfl

theorem isClosed_taken : isClosed (word + oneUse) = isClosed word := by
  have hadd : (word + oneUse).toNat = (word.toNat + 2) % 2 ^ 64 := by
    simp [oneUse, UInt64.toNat_add]
  rw [Bool.eq_iff_iff, isClosed_iff, isClosed_iff, hadd]
  omega

theorem isClosed_left : isClosed (word - oneUse) = isClosed word := by
  have htaken : isClosed (word - oneUse + oneUse) = isClosed (word - oneUse) := isClosed_taken
  rw [← htaken, UInt64.sub_add_cancel]

end Words

/-- The call has a use that still counts in the word. -/
def Call.inUse : Call → Bool
  | .held | .leave => true
  | _ => false

/-- The call is about to give the number back. -/
def Call.releasing : Call → Bool
  | .act .release => true
  | _ => false

/-- The call came to its end, and has no use. -/
def Call.isFinished : Call → Bool
  | .refused | .done => true
  | _ => false

theorem Call.idle_of_isFinished (h : call.isFinished) :
    call.inUse = false ∧ call.releasing = false := by
  cases call with
  | refused | done => exact ⟨rfl, rfl⟩
  | _ => cases h

section NextCalls

theorem weigh_cases (word : UInt64) :
    weigh word = .refused ∨ weigh word = .claim word ∧ isClosed word = false := by
  unfold weigh
  split
  · exact .inl rfl
  · next hopen => exact .inr ⟨rfl, by simpa using hopen⟩

theorem afterMark_cases (word : UInt64) :
    afterMark word = .done ∧ isClosed word = true ∨
      afterMark word = .act .release ∧ word.toNat = 0 ∨
      afterMark word = .act .shutDown ∧ isClosed word = false ∧ word.toNat ≠ 0 := by
  have hzero : word = 0 ↔ word.toNat = 0 := by
    rw [← UInt64.toNat_inj]
    rfl
  unfold afterMark
  split
  · next hclosed => exact .inl ⟨rfl, hclosed⟩
  · next hopen =>
    split
    · next h => exact .inr (.inl ⟨rfl, hzero.mp h⟩)
    · next h => exact .inr (.inr ⟨rfl, by simpa using hopen, fun h0 => h (hzero.mpr h0)⟩)

theorem afterLeave_cases (word : UInt64) :
    afterLeave word = .act .release ∧ word.toNat = 3 ∨
      afterLeave word = .done ∧ word.toNat ≠ 3 := by
  have hlast : word = closedBit + oneUse ↔ word.toNat = 3 := by
    rw [← UInt64.toNat_inj]
    rfl
  unfold afterLeave
  split
  · next h => exact .inl ⟨rfl, hlast.mp h⟩
  · next h => exact .inr ⟨rfl, fun h3 => h (hlast.mpr h3)⟩

end NextCalls

/-- What an access amounts to. -/
inductive Event where
  /-- A use was taken. -/
  | acquired
  /-- A close set its bit. -/
  | marked
  /-- A use was taken off the word. -/
  | ended
  /-- Something was done to the number. -/
  | did (effect : GuardEffect)
  deriving DecidableEq, Repr

/-- What the access of a call amounts to, by where the call stands before and after it. -/
def events (before after : Call) : Option GuardEffect → List Event
  | some effect => [.did effect]
  | none =>
    match before, after with
    | .claim _, .held => [.acquired]
    | .mark, _ => [.marked]
    | .leave, _ => [.ended]
    | _, _ => []

/-- The word, the calls, and what happened, the oldest first. -/
structure Race where
  word : UInt64 := 0
  calls : List Call := []
  log : List Event := []

inductive Move where
  /-- Some thread asks for a use. -/
  | acquire
  /-- Some thread closes. -/
  | close
  /-- The use of a call that holds one is to end. -/
  | drop (i : Nat)
  /-- A call does its next access. -/
  | step (i : Nat)
  /-- A call fails to exchange the word though nobody changed it, as the weak exchange may. -/
  | fail (i : Nat)
  deriving DecidableEq, Repr

namespace Race

/-- A move; one that does not apply changes nothing. -/
def play (r : Race) : Move → Race
  | .acquire => { r with calls := r.calls ++ [.look] }
  | .close => { r with calls := r.calls ++ [.mark] }
  | .drop i =>
    match r.calls[i]? with
    | some .held => { r with calls := r.calls.set i .leave }
    | _ => r
  | .step i =>
    match r.calls[i]? with
    | some call =>
      let (word, after, effect) := Guard.step r.word call
      { word, calls := r.calls.set i after, log := r.log ++ events call after effect }
    | none => r
  | .fail i =>
    match r.calls[i]? with
    | some (.claim _) => { r with calls := r.calls.set i (weigh r.word) }
    | _ => r

/-- The race after the moves, from a descriptor nobody uses. -/
def after (moves : List Move) : Race :=
  moves.foldl play {}

/-- The uses in flight. -/
def alive (r : Race) : Nat :=
  r.calls.countP Call.inUse

/-- The calls about to give the number back. -/
def pending (r : Race) : Nat :=
  r.calls.countP Call.releasing

/-- How often the number was given back. -/
def releases (r : Race) : Nat :=
  r.log.count (.did .release)

theorem after_concat (moves : List Move) (m : Move) :
    after (moves ++ [m]) = (after moves).play m := by
  simp [after]

/-- What one move may do to a race. -/
inductive Turn (r : Race) : Move → Race → Prop
  | idle {m : Move} : Turn r m r
  | start {m : Move} {call : Call} (h : call = .look ∨ call = .mark) :
      Turn r m { r with calls := r.calls ++ [call] }
  | drop {m : Move} {i : Nat} (h : r.calls[i]? = some .held) :
      Turn r m { r with calls := r.calls.set i .leave }
  | weigh {m : Move} {i : Nat} {call : Call} (h : r.calls[i]? = some call)
      (hcall : call = .look ∨ ∃ seen, call = .claim seen) :
      Turn r m { r with calls := r.calls.set i (Guard.weigh r.word) }
  | acquire {i : Nat} (h : r.calls[i]? = some (.claim r.word)) :
      Turn r (.step i) ⟨r.word + oneUse, r.calls.set i .held, r.log ++ [.acquired]⟩
  | mark {i : Nat} (h : r.calls[i]? = some .mark) :
      Turn r (.step i)
        ⟨r.word ||| closedBit, r.calls.set i (afterMark r.word), r.log ++ [.marked]⟩
  | leave {i : Nat} (h : r.calls[i]? = some .leave) :
      Turn r (.step i)
        ⟨r.word - oneUse, r.calls.set i (afterLeave r.word), r.log ++ [.ended]⟩
  | act {i : Nat} {effect : GuardEffect} (h : r.calls[i]? = some (.act effect)) :
      Turn r (.step i) ⟨r.word, r.calls.set i .done, r.log ++ [.did effect]⟩

theorem set_self {l : List Call} (h : l[i]? = some call) : l.set i call = l := by
  obtain ⟨hi, rfl⟩ := List.getElem?_eq_some_iff.mp h
  exact List.set_getElem_self hi

theorem turn_step (r : Race) (i : Nat) : Turn r (.step i) (r.play (.step i)) := by
  simp only [play]
  split
  · next call hcall =>
    have hsame : Turn r (.step i) ⟨r.word, r.calls.set i call, r.log ++ []⟩ := by
      rw [set_self hcall, List.append_nil]
      exact .idle
    cases call with
    | look =>
      have hturn := Turn.weigh (m := .step i) hcall (.inl rfl)
      simpa [Guard.step, events] using hturn
    | claim seen =>
      by_cases hseen : r.word = seen
      · subst hseen
        simpa [Guard.step, events] using Turn.acquire hcall
      · have hturn := Turn.weigh (m := .step i) hcall (.inr ⟨seen, rfl⟩)
        have hevents : events (.claim seen) (Guard.weigh r.word) none = [] := by
          unfold Guard.weigh
          split <;> rfl
        simpa [Guard.step, hseen, hevents] using hturn
    | mark => exact .mark hcall
    | leave => exact .leave hcall
    | act effect => exact .act hcall
    | held | refused | done => exact hsame
  · exact .idle

theorem turn_play (r : Race) (m : Move) : Turn r m (r.play m) := by
  cases m with
  | acquire => exact .start (.inl rfl)
  | close => exact .start (.inr rfl)
  | drop i =>
    simp only [play]
    split
    · next h => exact .drop h
    · exact .idle
  | step i => exact turn_step r i
  | fail i =>
    simp only [play]
    split
    · next seen h => exact .weigh h (.inr ⟨seen, rfl⟩)
    · exact .idle

section Counting

variable {α : Type} {l : List α} {i : Nat} {a b x : α}

theorem countP_set_add (p : α → Bool) (h : l[i]? = some a) :
    (l.set i b).countP p + (p a).toNat = l.countP p + (p b).toNat := by
  obtain ⟨hi, rfl⟩ := List.getElem?_eq_some_iff.mp h
  have hle := List.boole_getElem_le_countP (p := p) hi
  rw [List.countP_set hi]
  cases ha : p l[i] <;> cases hb : p b <;> simp_all

theorem mem_set_of_ne (h : l[i]? = some a) (hx : x ∈ l) (hne : x ≠ a) :
    x ∈ l.set i b := by
  obtain ⟨j, hj, rfl⟩ := List.getElem_of_mem hx
  have hij : i ≠ j := by
    rintro rfl
    obtain ⟨_, ha⟩ := List.getElem?_eq_some_iff.mp h
    exact hne ha
  rw [← List.getElem_set_ne hij (by simpa using hj)]
  exact List.getElem_mem _

theorem getElem?_set_of_getElem? (h : l[i]? = some a) : (l.set i b)[i]? = some b :=
  List.getElem?_set_self (List.getElem?_eq_some_iff.mp h).1

theorem getElem?_set_cases {j : Nat} (h : (l.set i b)[j]? = some x) :
    j = i ∧ x = b ∨ j ≠ i ∧ l[j]? = some x := by
  rw [List.getElem?_set] at h
  split at h
  · next hij =>
    split at h
    · exact .inl ⟨hij.symm, (Option.some.inj h).symm⟩
    · cases h
  · next hij => exact .inr ⟨Ne.symm hij, h⟩

/-- Only one place has something, and still does after a move: who comes to it had it before, or
nobody had it. -/
theorem alone_set {P : α → Prop} (ha : l[i]? = some a)
    (halone : ∀ (j k : Nat) (x y : α), l[j]? = some x → l[k]? = some y → P x →
      P y → j = k)
    (hmoves : P b → P a ∨ ∀ (k : Nat) (y : α), l[k]? = some y → ¬ P y)
    (j k : Nat) (x y : α)
    (hj : (l.set i b)[j]? = some x) (hk : (l.set i b)[k]? = some y) (hx : P x) (hy : P y) :
      j = k := by
  have hother {j : Nat} {x : α} (hji : j ≠ i) (hj : l[j]? = some x) (hx : P x) : ¬ P b := by
    intro hb
    rcases hmoves hb with hhad | hnobody
    · exact hji (halone j i x a hj ha hx hhad)
    · exact hnobody j x hj hx
  rcases getElem?_set_cases hj with ⟨rfl, rfl⟩ | ⟨hji, hj'⟩
  · rcases getElem?_set_cases hk with ⟨rfl, rfl⟩ | ⟨hki, hk'⟩
    · rfl
    · exact absurd hx (hother hki hk' hy)
  · rcases getElem?_set_cases hk with ⟨rfl, rfl⟩ | ⟨-, hk'⟩
    · exact absurd hy (hother hji hj' hx)
    · exact halone j k x y hj' hk' hx hy

end Counting

section Order

variable {log : List Event} {a b e : Event}

/-- In a longer log, `b` comes after `a` if it did before, or if it is new and `a` is not. -/
theorem order_concat (h : [a, b] <+ log ++ [e]) : [a, b] <+ log ∨ e = b ∧ a ∈ log := by
  have hrev := h.reverse
  rw [List.reverse_append] at hrev
  cases hrev with
  | cons _ hold =>
    left
    simpa using hold.reverse
  | cons_cons _ hold =>
    right
    exact ⟨rfl, List.mem_reverse.mp (List.singleton_sublist.mp hold)⟩

theorem order_of_concat_ne (h : [a, b] <+ log ++ [e]) (he : e ≠ b) : [a, b] <+ log := by
  rcases order_concat h with hold | ⟨hnew, _⟩
  · exact hold
  · exact absurd hnew he

theorem order_of_mem (h : a ∈ log) : [a, b] <+ log ++ [b] :=
  (List.singleton_sublist.mpr h).append (List.Sublist.refl [b])

end Order

/-- The word counts the uses, the calls agree with the word, and the number is given back once,
when close was called and no use is left. -/
structure Balanced (r : Race) : Prop where
  word : r.word.toNat = 2 * r.alive + if .marked ∈ r.log then 1 else 0
  claims : ∀ seen, .claim seen ∈ r.calls → isClosed seen = false
  acts : ∀ effect, .act effect ∈ r.calls → .marked ∈ r.log
  releases : r.pending + r.releases = if .marked ∈ r.log ∧ r.alive = 0 then 1 else 0
  barred : ¬ [.marked, .acquired] <+ r.log

namespace Balanced

variable {r : Race} {a b : Call}

theorem initial : Balanced {} where
  word := by simp [alive]
  claims := by simp
  acts := by simp
  releases := by simp [pending, Race.releases]
  barred := by simp

theorem isClosed_word (h : Balanced r) : isClosed r.word = true ↔ .marked ∈ r.log := by
  have hword := h.word
  rw [isClosed_iff]
  by_cases hmarked : .marked ∈ r.log
  · rw [if_pos hmarked] at hword
    exact ⟨fun _ => hmarked, fun _ => by omega⟩
  · rw [if_neg hmarked] at hword
    exact ⟨fun _ => by omega, fun h => absurd h hmarked⟩

theorem of_calls {calls : List Call} (h : Balanced r) (halive : calls.countP Call.inUse = r.alive)
    (hpending : calls.countP Call.releasing = r.pending)
    (hclaims : ∀ seen, .claim seen ∈ calls → isClosed seen = false)
    (hacts : ∀ effect, .act effect ∈ calls → .act effect ∈ r.calls) :
    Balanced { r with calls } := by
  have hsame : ({ r with calls } : Race).alive = r.alive := halive
  have hsame' : ({ r with calls } : Race).pending = r.pending := hpending
  exact
    { word := by rw [hsame]; exact h.word
      claims := hclaims
      acts := fun effect he => h.acts effect (hacts effect he)
      releases := by rw [hsame, hsame']; exact h.releases
      barred := h.barred }

theorem start (h : Balanced r) (hcall : call = .look ∨ call = .mark) :
    Balanced { r with calls := r.calls ++ [call] } := by
  apply h.of_calls
  · rcases hcall with rfl | rfl <;> simp [alive, Call.inUse]
  · rcases hcall with rfl | rfl <;> simp [pending, Call.releasing]
  · intro seen hseen
    rcases List.mem_append.mp hseen with hold | hnew
    · exact h.claims seen hold
    · rcases hcall with rfl | rfl <;> simp at hnew
  · intro effect heffect
    rcases List.mem_append.mp heffect with hold | hnew
    · exact hold
    · rcases hcall with rfl | rfl <;> simp at hnew

theorem of_set (h : Balanced r) (hi : r.calls[i]? = some a) (huse : a.inUse = b.inUse)
    (hreleasing : a.releasing = b.releasing)
    (hclaim : ∀ seen, b = .claim seen → isClosed seen = false)
    (hact : ∀ effect, b ≠ .act effect) :
    Balanced { r with calls := r.calls.set i b } := by
  apply h.of_calls
  · have halive := countP_set_add (b := b) Call.inUse hi
    rw [huse] at halive
    exact Nat.add_right_cancel halive
  · have hpending := countP_set_add (b := b) Call.releasing hi
    rw [hreleasing] at hpending
    exact Nat.add_right_cancel hpending
  · intro seen hseen
    rcases List.mem_or_eq_of_mem_set hseen with hold | hnew
    · exact h.claims seen hold
    · exact hclaim seen hnew.symm
  · intro effect heffect
    rcases List.mem_or_eq_of_mem_set heffect with hold | hnew
    · exact hold
    · exact absurd hnew.symm (hact effect)

theorem drop (h : Balanced r) (hi : r.calls[i]? = some .held) :
    Balanced { r with calls := r.calls.set i .leave } :=
  h.of_set hi rfl rfl (by simp) (by simp)

theorem weigh (h : Balanced r) (hi : r.calls[i]? = some call)
    (hcall : call = .look ∨ ∃ seen, call = .claim seen) :
    Balanced { r with calls := r.calls.set i (Guard.weigh r.word) } := by
  have hidle : call.inUse = false ∧ call.releasing = false := by
    rcases hcall with rfl | ⟨seen, rfl⟩ <;> exact ⟨rfl, rfl⟩
  rcases weigh_cases r.word with hnext | ⟨hnext, hopen⟩
  · rw [hnext]
    exact h.of_set hi hidle.1 hidle.2 (by simp) (by simp)
  · rw [hnext]
    refine h.of_set hi hidle.1 hidle.2 ?_ (by simp)
    intro seen hseen
    cases hseen
    exact hopen

/-- An access that moves one call on and is logged; what is left to show is arithmetic. -/
theorem of_access {word : UInt64} {e : Event} (h : Balanced r)
    (hi : r.calls[i]? = some a) (hclaim : ∀ seen, b ≠ .claim seen)
    (hact : ∀ effect, b = .act effect → .marked ∈ r.log ∨ e = .marked)
    (he : e = .acquired → .marked ∉ r.log)
    (hword : ∀ n, n + a.inUse.toNat = r.alive + b.inUse.toNat →
      word.toNat = 2 * n + if .marked ∈ r.log ∨ e = .marked then 1 else 0)
    (hreleases : ∀ n k, n + a.inUse.toNat = r.alive + b.inUse.toNat →
      k + a.releasing.toNat = r.pending + b.releasing.toNat →
      k + (r.releases + if e = .did .release then 1 else 0) =
        if (.marked ∈ r.log ∨ e = .marked) ∧ n = 0 then 1 else 0) :
    Balanced ⟨word, r.calls.set i b, r.log ++ [e]⟩ := by
  have hmarked : .marked ∈ r.log ++ [e] ↔ .marked ∈ r.log ∨ e = .marked := by
    simp [eq_comm]
  have hcount : (r.log ++ [e]).count (.did .release) =
      r.releases + if e = .did .release then 1 else 0 := by
    simp [Race.releases, List.count_singleton]
  constructor
  · simp only [hmarked]
    exact hword _ (countP_set_add _ hi)
  · intro seen hseen
    rcases List.mem_or_eq_of_mem_set hseen with hold | hnew
    · exact h.claims seen hold
    · exact absurd hnew.symm (hclaim seen)
  · intro effect heffect
    rw [hmarked]
    rcases List.mem_or_eq_of_mem_set heffect with hold | hnew
    · exact .inl (h.acts effect hold)
    · exact hact effect hnew.symm
  · simp only [hmarked, Race.releases, hcount]
    exact hreleases _ _ (countP_set_add _ hi) (countP_set_add _ hi)
  · intro horder
    rcases order_concat horder with hold | ⟨hacquired, hmarked⟩
    · exact h.barred hold
    · exact he hacquired hmarked

theorem acquire (h : Balanced r) (hi : r.calls[i]? = some (.claim r.word))
    (hfew : r.alive < 2 ^ 62) :
    Balanced ⟨r.word + oneUse, r.calls.set i .held, r.log ++ [.acquired]⟩ := by
  have hopen : .marked ∉ r.log := by
    rw [← h.isClosed_word, h.claims _ (List.mem_of_getElem? hi)]
    simp
  have hword : r.word.toNat = 2 * r.alive := by
    simpa [hopen] using h.word
  have hreleases : r.pending + r.releases = 0 := by
    simpa [hopen] using h.releases
  refine h.of_access hi (by simp) (by simp) (fun _ => hopen) ?_ ?_
  · intro n hn
    have hn : n = r.alive + 1 := hn
    rw [toNat_add_use (by omega), hword, hn]
    simp [hopen]
    omega
  · intro n k _ hk
    have hk : k = r.pending := hk
    simp [hopen, hk]
    omega

theorem mark (h : Balanced r) (hi : r.calls[i]? = some .mark) :
    Balanced ⟨r.word ||| closedBit, r.calls.set i (afterMark r.word), r.log ++ [.marked]⟩ := by
  have hword := h.word
  have hreleases := h.releases
  have hmark : (r.word ||| closedBit).toNat = 2 * r.alive + 1 := by
    rw [toNat_mark, hword]
    split <;> omega
  have hmove : ∀ b : Call, b.inUse = false → (∀ seen, b ≠ .claim seen) →
      r.pending + b.releasing.toNat + r.releases = (if r.alive = 0 then 1 else 0) →
      Balanced ⟨r.word ||| closedBit, r.calls.set i b, r.log ++ [.marked]⟩ := by
    intro b huse hclaim hdue
    refine h.of_access hi hclaim (by simp) (by simp) ?_ ?_
    · intro n hn
      rw [huse] at hn
      have halive : n = r.alive := hn
      simp [hmark, halive]
    · intro n k hn hk
      rw [huse] at hn
      have halive : n = r.alive := hn
      have hpending : k = r.pending + b.releasing.toNat := hk
      simpa [halive, hpending] using hdue
  rcases afterMark_cases r.word with ⟨hnext, hclosed⟩ | ⟨hnext, hunused⟩ |
    ⟨hnext, hopen, hused⟩
  · have hmarked := h.isClosed_word.mp hclosed
    rw [hnext]
    refine hmove .done rfl (by simp) ?_
    simpa [Call.releasing, hmarked] using hreleases
  · -- Nobody used the descriptor: this close owes the release.
    have hunmarked : .marked ∉ r.log := by
      intro hmarked
      rw [if_pos hmarked] at hword
      omega
    have halive : r.alive = 0 := by
      omega
    rw [if_neg (fun hfree => hunmarked hfree.1)] at hreleases
    rw [hnext]
    refine hmove (.act .release) rfl (by simp) ?_
    simp only [Call.releasing, Bool.toNat_true, if_pos halive]
    omega
  · -- The last of the uses will owe it.
    have hunmarked : .marked ∉ r.log := by
      rw [← h.isClosed_word, hopen]
      simp
    rw [if_neg hunmarked] at hword
    have halive : r.alive ≠ 0 := by
      omega
    rw [hnext]
    refine hmove (.act .shutDown) rfl (by simp) ?_
    simpa [Call.releasing, halive, hunmarked] using hreleases

theorem leave (h : Balanced r) (hi : r.calls[i]? = some .leave) :
    Balanced ⟨r.word - oneUse, r.calls.set i (afterLeave r.word), r.log ++ [.ended]⟩ := by
  have hword := h.word
  have hreleases := h.releases
  have halive : 0 < r.alive :=
    List.countP_pos_iff.mpr ⟨_, List.mem_of_getElem? hi, rfl⟩
  have hnone : r.pending + r.releases = 0 := by
    simpa [Nat.ne_of_gt halive] using hreleases
  have hleave : (r.word - oneUse).toNat = r.word.toNat - 2 :=
    toNat_sub_use (by omega)
  rcases afterLeave_cases r.word with ⟨hnext, hlast⟩ | ⟨hnext, hmore⟩
  · -- The word says: closed, and this was the only use.
    have hmarked : .marked ∈ r.log := by
      rw [← h.isClosed_word, isClosed_iff, hlast]
    rw [if_pos hmarked] at hword
    rw [hnext]
    refine h.of_access hi (by simp) (by simp [hmarked]) (by simp) ?_ ?_
    · intro n hn
      have hn : n + 1 = r.alive := hn
      simp [hleave, hmarked]
      omega
    · intro n k hn hk
      have hn : n + 1 = r.alive := hn
      have hk : k = r.pending + 1 := hk
      have hzero : n = 0 := by
        omega
      simp [hk, hmarked, hzero]
      omega
  · rw [hnext]
    refine h.of_access hi (by simp) (by simp) (by simp) ?_ ?_
    · intro n hn
      have hn : n + 1 = r.alive := hn
      rw [hleave, hword]
      simp
      omega
    · intro n k hn hk
      have hn : n + 1 = r.alive := hn
      have hk : k = r.pending := hk
      have hkept : ¬(.marked ∈ r.log ∧ n = 0) := by
        rintro ⟨hmarked, hzero⟩
        rw [if_pos hmarked] at hword
        omega
      simp [hk, hkept]
      omega

theorem act {effect : GuardEffect} (h : Balanced r) (hi : r.calls[i]? = some (.act effect)) :
    Balanced ⟨r.word, r.calls.set i .done, r.log ++ [.did effect]⟩ := by
  have hword := h.word
  have hreleases := h.releases
  refine h.of_access hi (by simp) (by simp) (by simp) ?_ ?_
  · intro n hn
    have hn : n = r.alive := hn
    simpa [hn] using hword
  · intro n k hn hk
    obtain rfl : n = r.alive := hn
    cases effect with
    | release =>
      have hpending : k + 1 = r.pending := hk
      simp only [reduceCtorEq, or_false, if_true]
      omega
    | shutDown =>
      have hpending : k = r.pending := hk
      simpa [hpending] using hreleases

theorem turn {m : Move} {r' : Race} (h : Balanced r) (t : Turn r m r') (hfew : r.alive < 2 ^ 62) :
    Balanced r' := by
  cases t with
  | idle => exact h
  | start hcall => exact h.start hcall
  | drop hi => exact h.drop hi
  | weigh hi hcall => exact h.weigh hi hcall
  | acquire hi => exact h.acquire hi hfew
  | mark hi => exact h.mark hi
  | leave hi => exact h.leave hi
  | act hi => exact h.act hi

end Balanced

/-- Fewer than `2 ^ 62` uses are in flight at any time. -/
def FewUses (moves : List Move) : Prop :=
  ∀ earlier, earlier <+: moves → (after earlier).alive < 2 ^ 62

theorem FewUses.of_append {more : List Move} (h : FewUses (moves ++ more)) : FewUses moves :=
  fun earlier hearlier => h earlier (hearlier.trans (List.prefix_append moves more))

theorem balanced_after (hfew : FewUses moves) : Balanced (after moves) := by
  induction moves using List.reverseRecOn with
  | nil => exact .initial
  | append_singleton moves m ih =>
    have hbefore := ih hfew.of_append
    rw [after_concat]
    exact hbefore.turn (turn_play _ m) (hfew moves (List.prefix_append moves [m]))

theorem length_calls_le (moves : List Move) : (after moves).calls.length ≤ moves.length := by
  induction moves using List.reverseRecOn with
  | nil => exact Nat.le_refl 0
  | append_singleton moves m ih =>
    rw [after_concat]
    have hturn := turn_play (after moves) m
    generalize (after moves).play m = next at hturn
    cases hturn <;> simp <;> omega

theorem fewUses_of_length (h : moves.length < 2 ^ 62) : FewUses moves := by
  intro earlier hearlier
  calc (after earlier).alive
      ≤ (after earlier).calls.length := List.countP_le_length
    _ ≤ earlier.length := length_calls_le earlier
    _ ≤ moves.length := hearlier.length_le
    _ < 2 ^ 62 := h

/-- A close that was called has set its bit or is about to. -/
theorem Turn.marking {r r' : Race} {m : Move} (t : Turn r m r')
    (h : .mark ∈ r.calls ∨ .marked ∈ r.log) :
    .mark ∈ r'.calls ∨ .marked ∈ r'.log := by
  rcases h with hcall | hlog
  · cases t with
    | idle => exact .inl hcall
    | start _ => exact .inl (List.mem_append_left _ hcall)
    | drop hi | acquire hi | leave hi | act hi => exact .inl (mem_set_of_ne hi hcall (by simp))
    | weigh hi hlooks =>
      refine .inl (mem_set_of_ne hi hcall ?_)
      rcases hlooks with rfl | ⟨seen, rfl⟩ <;> simp
    | mark _ => exact .inr (by simp)
  · right
    cases t <;> simp [hlog]

theorem marking_after (h : .close ∈ moves) :
    .mark ∈ (after moves).calls ∨ .marked ∈ (after moves).log := by
  induction moves using List.reverseRecOn with
  | nil => cases h
  | append_singleton moves m ih =>
    rw [after_concat]
    rcases List.mem_append.mp h with hold | hnew
    · exact (turn_play _ m).marking (ih hold)
    · obtain rfl := List.mem_singleton.mp hnew
      left
      simp [play]

/-- Over any interleaving, the number goes back to the kernel at most once and never while a use is
in flight; no use is taken once a close set its bit; and after a close, when every call came to its
end, the number has gone back exactly once. -/
theorem released_once_and_unused (moves : List Move) (hfew : FewUses moves) :
    (after moves).releases ≤ 1 ∧
      (.did .release ∈ (after moves).log → (after moves).alive = 0) ∧
      ¬ [.marked, .acquired] <+ (after moves).log ∧
      (.close ∈ moves → (∀ call ∈ (after moves).calls, call.isFinished) →
        (after moves).releases = 1) := by
  have h := balanced_after hfew
  have hreleases := h.releases
  refine ⟨?_, ?_, h.barred, ?_⟩
  · split at hreleases <;> omega
  · intro hreleased
    have hpos : 0 < (after moves).releases := List.count_pos_iff.mpr hreleased
    split at hreleases
    · next hfree => exact hfree.2
    · omega
  · intro hclose hfinished
    have hmarked : .marked ∈ (after moves).log := by
      rcases marking_after hclose with hmark | hlog
      · cases hfinished _ hmark
      · exact hlog
    have halive : (after moves).alive = 0 := by
      apply List.countP_eq_zero.mpr
      intro call hcall
      simp [Call.idle_of_isFinished (hfinished call hcall)]
    have hpending : (after moves).pending = 0 := by
      apply List.countP_eq_zero.mpr
      intro call hcall
      simp [Call.idle_of_isFinished (hfinished call hcall)]
    rw [if_pos ⟨hmarked, halive⟩] at hreleases
    omega

/-- Two calls race for a use, and a third closes while both are held. -/
def twoUses : List Move :=
  [.acquire, .acquire, .step 0, .step 1, .step 0, .step 1, .fail 1, .step 1, .close, .step 2,
    .acquire, .step 3, .drop 0, .step 0, .step 2, .drop 1, .step 1, .step 1]

theorem released_once_by_last_use :
    FewUses twoUses ∧ .close ∈ twoUses ∧
    (∀ call ∈ (after twoUses).calls, call.isFinished) ∧
      (after twoUses).releases = 1 := by
  have hfew : FewUses twoUses := fewUses_of_length (by decide)
  have hclose : .close ∈ twoUses := by
    decide
  have hfinished : ∀ call ∈ (after twoUses).calls, call.isFinished := by
    decide
  obtain ⟨_, _, _, honce⟩ := released_once_and_unused twoUses hfew
  exact ⟨hfew, hclose, hfinished, honce hclose hfinished⟩

theorem play_act {r : Race} {effect : GuardEffect} (h : r.calls[i]? = some (.act effect)) :
    (r.play (.step i)).log = r.log ++ [.did effect] := by
  simp [play, h, Guard.step, events]

theorem log_after_append (moves more : List Move) :
    ∃ events, (after (moves ++ more)).log = (after moves).log ++ events := by
  induction more using List.reverseRecOn with
  | nil => exact ⟨[], by simp⟩
  | append_singleton more m ih =>
    obtain ⟨events, hevents⟩ := ih
    rw [← List.append_assoc, after_concat]
    have hturn := turn_play (after (moves ++ more)) m
    generalize (after (moves ++ more)).play m = next at hturn
    cases hturn <;> simp [hevents]

/-- A late shutdown is an access of a close that comes after the release. -/
theorem shutDown_late_iff :
    [.did .release, .did .shutDown] <+ (after moves).log ↔
      ∃ earlier i later, moves = earlier ++ .step i :: later ∧
        (after earlier).calls[i]? = some (.act .shutDown) ∧
        .did .release ∈ (after earlier).log := by
  constructor
  · intro hlate
    induction moves using List.reverseRecOn with
    | nil => cases hlate
    | append_singleton moves m ih =>
      have hold : [.did .release, .did .shutDown] <+ (after moves).log →
          ∃ earlier i later, moves ++ [m] = earlier ++ .step i :: later ∧
            (after earlier).calls[i]? = some (.act .shutDown) ∧
            .did .release ∈ (after earlier).log := by
        intro hlate
        obtain ⟨earlier, i, later, rfl, hcall, hreleased⟩ := ih hlate
        exact ⟨earlier, i, later ++ [m], by simp, hcall, hreleased⟩
      rw [after_concat] at hlate
      have hturn := turn_play (after moves) m
      generalize (after moves).play m = next at hturn hlate
      cases hturn with
      | idle | start _ | drop _ | weigh _ _ => exact hold hlate
      | acquire _ | mark _ | leave _ => exact hold (order_of_concat_ne hlate (by simp))
      | act hi =>
        rcases order_concat hlate with hlate | ⟨he, hreleased⟩
        · exact hold hlate
        · cases he
          exact ⟨moves, _, [], rfl, hi, hreleased⟩
  · rintro ⟨earlier, i, later, rfl, hcall, hreleased⟩
    obtain ⟨events, hevents⟩ := log_after_append (earlier ++ [.step i]) later
    rw [List.append_cons, hevents, after_concat, play_act hcall]
    exact (order_of_mem hreleased).trans (List.sublist_append_left _ events)

/-- A close that found uses shuts the socket down in an access of its own. It does so to a number
that was given back exactly if, by then, no use is in flight and none is about to give it back: the
last use went between the two accesses of the close. -/
theorem shutDown_after_release_iff (moves : List Move) (hfew : FewUses moves) :
    [.did .release, .did .shutDown] <+ (after moves).log ↔
      ∃ earlier i later, moves = earlier ++ .step i :: later ∧
        (after earlier).calls[i]? = some (.act .shutDown) ∧
        (after earlier).alive = 0 ∧ (after earlier).pending = 0 := by
  have hfree : ∀ earlier i later, moves = earlier ++ .step i :: later →
      (after earlier).calls[i]? = some (.act .shutDown) →
      (.did .release ∈ (after earlier).log ↔
        (after earlier).alive = 0 ∧ (after earlier).pending = 0) := by
    rintro earlier i later rfl hcall
    have h := balanced_after hfew.of_append
    have hmarked := h.acts .shutDown (List.mem_of_getElem? hcall)
    have hreleases := h.releases
    rw [← List.count_pos_iff]
    show 0 < (after earlier).releases ↔ _
    by_cases halive : (after earlier).alive = 0
    · rw [if_pos ⟨hmarked, halive⟩] at hreleases
      omega
    · rw [if_neg (fun hfree => halive hfree.2)] at hreleases
      omega
  rw [shutDown_late_iff]
  constructor
  · rintro ⟨earlier, i, later, hmoves, hcall, hreleased⟩
    exact ⟨earlier, i, later, hmoves, hcall, (hfree earlier i later hmoves hcall).mp hreleased⟩
  · rintro ⟨earlier, i, later, hmoves, hcall, hunused⟩
    exact ⟨earlier, i, later, hmoves, hcall, (hfree earlier i later hmoves hcall).mpr hunused⟩

/-- One call holds a use while another closes; the use ends and gives the number back, and only
then does the close shut it down. -/
def handover : List Move :=
  [.acquire, .step 0, .step 0, .close, .step 1, .drop 0, .step 0, .step 0, .step 1]

theorem shutDown_after_handover :
    FewUses handover ∧ [.did .release, .did .shutDown] <+ (after handover).log := by
  have hfew : FewUses handover := fewUses_of_length (by decide)
  refine ⟨hfew, (shutDown_after_release_iff handover hfew).mpr ?_⟩
  refine ⟨handover.take 8, 1, [], rfl, ?_, ?_, ?_⟩
  · decide
  · decide
  · decide

end Race
end PolledChannels.Guard
