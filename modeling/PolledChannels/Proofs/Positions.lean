import PolledChannels.Proofs.Strides

/-!
# Positions of encounters

A position is the front of an encounter, its parties, and what was noted of them. What a party
keeps it took when nobody else kept it, so no two parties ever keep the same. Whatever holds at the
beginning of an encounter and survives every access holds after all beats.
-/

namespace PolledChannels

open PolledChannels.Action

variable {v v' : Front} {c : ListenerId} {target : Option ThreadId} {p p' : ShutPoint} {n : Note}
  {a b : Party} {t : ThreadId} {i : Nat}

theorem ShutPoint.note_cases (h : p.note v c target = some n) :
    p = .flip ∧ v.isOpen c = true ∧ n = .flipped c target ∨
      p ≠ .flip ∧ ((∃ effect, n = .did c effect) ∨ (∃ t, n = .sampled c t) ∨
        ∃ t, n = .signalled c t) := by
  unfold note at h
  split at h
  · split at h
    · next hopen =>
      cases h
      exact .inl ⟨rfl, hopen, rfl⟩
    · cases h
  · cases h
    exact .inr ⟨by rintro ⟨⟩, .inl ⟨_, rfl⟩⟩
  · cases h
    exact .inr ⟨by rintro ⟨⟩, .inl ⟨_, rfl⟩⟩
  · obtain ⟨t, -, rfl⟩ := Option.map_eq_some_iff.mp h
    exact .inr ⟨by rintro ⟨⟩, .inr (.inl ⟨t, rfl⟩)⟩
  · cases h
    exact .inr ⟨by rintro ⟨⟩, .inr (.inr ⟨_, rfl⟩)⟩
  · cases h

/-- The notes that closes make. -/
def Note.ofClose : Note → Bool
  | flipped _ _ | did _ _ | sampled _ _ | signalled _ _ => true
  | _ => false

theorem ShutPoint.ofClose_note (h : p.note v c target = some n) : n.ofClose = true := by
  rcases note_cases h with ⟨-, -, rfl⟩ |
    ⟨-, ⟨effect, rfl⟩ | ⟨t, rfl⟩ | ⟨t, rfl⟩⟩ <;> rfl

/-! ## Parties -/

namespace Party

open AcceptPoint (tried_cases left_cases taking_cases heard_cases)

/-- What an access of a party does. -/
inductive Stride (v : Front) : Party → Front → Party → Prop
  | accept {me : ThreadId} {c : ListenerId} {p p' : AcceptPoint} {v' : Front}
      (h : AcceptPoint.Stride me c v p v' p') : Stride v (.accept me c p) v' (.accept me c p')
  | close {c : ListenerId} {p p' : ShutPoint} {v' : Front} (h : ShutPoint.Stride c none v p v' p') :
      Stride v (.close c p) v' (.close c p')
  | interrupt {t : ThreadId} {p p' : InterruptPoint} {v' : Front}
      (h : InterruptPoint.Stride t v p v' p') : Stride v (.interrupt t p) v' (.interrupt t p')

/-- The party closes the channel, and the close stands at a point. -/
inductive Closes (c : ListenerId) : Party → Option ThreadId → ShutPoint → Prop
  | close (p : ShutPoint) : Closes c (.close c p) none p
  | interrupt (t : ThreadId) (p : ShutPoint) : Closes c (.interrupt t (.shut c p)) (some t) p
  | own (me : ThreadId) (p : ShutPoint) : Closes c (.accept me c (.own p)) (some me) p

variable {v v' : Front} {a b : Party} {c d : ListenerId} {target : Option ThreadId}
  {p p' : ShutPoint} {signalled : Bool} {lock : Lock}

/-- A close goes on, or it is over and its party goes on without it. -/
theorem Stride.of_closes (h : Stride v a v' b) (ha : a.Closes c target p) :
    (∃ p', b.Closes c target p' ∧ ShutPoint.Stride c target v p v' p') ∨
      p.isOver = true ∧ v' = v ∧ ∀ d target' p', ¬ b.Closes d target' p' := by
  cases ha with
  | close p =>
    cases h with
    | close h => exact .inl ⟨_, .close _, h⟩
  | interrupt t p =>
    cases h with
    | interrupt h =>
      cases h with
      | shut c h => exact .inl ⟨_, .interrupt t _, h⟩
      | release c outcome => exact .inr ⟨rfl, rfl, by rintro d target' p' ⟨⟩⟩
  | own me p =>
    cases h with
    | accept h =>
      cases h with
      | own h => exact .inl ⟨_, .own me _, h⟩
      | owned outcome => exact .inr ⟨rfl, rfl, by rintro d target' p' ⟨⟩⟩
      | work h _ => cases h

/-- A close was under way before, or is about to begin. -/
theorem Stride.closes (h : Stride v a v' b) (hb : b.Closes c target p') :
    (∃ p, a.Closes c target p ∧ ShutPoint.Stride c target v p v' p') ∨
      p' = .flip ∧ v' = v ∧ ∀ d target' p, ¬ a.Closes d target' p := by
  cases hb with
  | close p' =>
    cases h with
    | close h => exact .inl ⟨_, .close _, h⟩
  | interrupt t p' =>
    cases h with
    | interrupt h =>
      cases h with
      | mark hp' =>
        cases hblocker : (v.slot t).bind Slot.blocker <;> simp [hblocker, InterruptPoint.found]
          at hp'
      | tell c => exact .inr ⟨rfl, rfl, by rintro d target' p' ⟨⟩⟩
      | shut c h => exact .inl ⟨_, .interrupt t _, h⟩
  | own me p' =>
    cases h with
    | accept h =>
      cases h with
      | tell => exact .inr ⟨rfl, rfl, by rintro d target' p' ⟨⟩⟩
      | own h => exact .inl ⟨_, .own me _, h⟩
      | register hp' => split at hp' <;> cases hp'
      | take call hg hp' =>
        rcases taking_cases (Guard.step _ call).2.1 with ⟨-, h⟩ | ⟨-, h⟩ | ⟨-, h⟩ <;>
          (rw [h] at hp'; cases hp')
      | work h h' => rcases h' with h' | ⟨a, h'⟩ <;> cases h'
      | leave a hg hp' =>
        rcases left_cases a _ with ⟨-, h⟩ | ⟨-, h⟩
        · rw [h] at hp'
          cases hp'
        · rcases tried_cases a with ⟨-, h'⟩ | ⟨-, h'⟩ <;> (rw [h, h'] at hp'; cases hp')
      | give a hp' =>
        rcases tried_cases a with ⟨-, h⟩ | ⟨-, h⟩ <;> (rw [h] at hp'; cases hp')
      | mine a hg h hp' =>
        rcases heard_cases true a with ⟨_, _, -, h⟩ | ⟨-, h⟩ <;> (rw [h] at hp'; cases hp')
      | other a hg h hp' =>
        rcases heard_cases false a with ⟨_, _, -, h⟩ | ⟨-, h⟩ <;> (rw [h] at hp'; cases hp')

theorem Stride.isOpen_of_isOpen (h : Stride v a v' b) (hopen : v'.isOpen d = true) :
    v.isOpen d = true := by
  have hshut {c : ListenerId} {target : Option ThreadId} {p p' : ShutPoint}
      (h : ShutPoint.Stride c target v p v' p') : v.isOpen d = true := by
    obtain ⟨f, rfl, hf⟩ := h.change
    exact Front.isOpen_of_onGate (fun g => (hf g).2.2) hopen
  cases h with
  | close h => exact hshut h
  | interrupt h =>
    cases h with
    | shut c h => exact hshut h
    | _ => exact hopen
  | accept h =>
    cases h with
    | own h => exact hshut h
    | store | take | leave | clear | mine =>
      refine Front.isOpen_of_onGate ?_ hopen
      exact fun _ => id
    | _ => exact hopen

theorem Stride.isOpen_eq_false (h : Stride v a v' b) (hclosed : v.isOpen d = false) :
    v'.isOpen d = false := by
  rw [← Bool.not_eq_true] at hclosed ⊢
  exact fun hopen => hclosed (h.isOpen_of_isOpen hopen)

theorem Closes.holds (h : a.Closes c target p) (hlock : lock ∈ p.holds c) :
    .lock lock ∈ a.holds := by
  cases h <;> simp [Party.holds, hlock]

theorem Closes.wants (h : a.Closes c target p) (hlock : p.wants c = some lock) :
    a.wants = some (.lock lock) := by
  cases h <;> simp [Party.wants, hlock]

theorem Closes.note (h : a.Closes c target p) : a.note v = p.note v c target := by
  cases h <;> rfl

theorem holds_cases {bar : Bar} (h : bar ∈ a.holds) :
    (∃ me c p, a = .accept me c p ∧ p ≠ .turn ∧ p.isOver = false ∧ bar = .turn c) ∨
      (∃ t c, (a = .interrupt t (.tell c) ∨ ∃ p, a = .interrupt t (.shut c p)) ∧
        bar = .slot t) ∨
      ∃ c target p lock, a.Closes c target p ∧ lock ∈ p.holds c ∧ bar = .lock lock := by
  cases a with
  | accept me c p =>
    cases p with
    | turn | ended answer => cases h
    | own p =>
      rcases List.mem_cons.mp h with rfl | h
      · exact .inl ⟨me, c, _, rfl, by rintro ⟨⟩, rfl, rfl⟩
      · obtain ⟨lock, hlock, rfl⟩ := List.mem_map.mp h
        exact .inr (.inr ⟨c, _, p, lock, .own me p, hlock, rfl⟩)
    | _ => exact .inl ⟨me, c, _, rfl, by rintro ⟨⟩, rfl, List.mem_singleton.mp h⟩
  | close c p =>
    obtain ⟨lock, hlock, rfl⟩ := List.mem_map.mp h
    exact .inr (.inr ⟨c, _, p, lock, .close p, hlock, rfl⟩)
  | interrupt t p =>
    cases p with
    | tell c => exact .inr (.inl ⟨t, c, .inl rfl, List.mem_singleton.mp h⟩)
    | shut c p =>
      rcases List.mem_cons.mp h with rfl | h
      · exact .inr (.inl ⟨t, c, .inr ⟨p, rfl⟩, rfl⟩)
      · obtain ⟨lock, hlock, rfl⟩ := List.mem_map.mp h
        exact .inr (.inr ⟨c, _, p, lock, .interrupt t p, hlock, rfl⟩)
    | _ => cases h

end Party

/-! ## What parties leave alone -/

section Gates

variable {v v' : Front} {c d : ListenerId} {target : Option ThreadId} {me : ThreadId}

theorem ShutPoint.Stride.gate_of_ne (h : Stride d target v p v' p') (hne : c ≠ d) :
    v'.gate c = v.gate c := by
  obtain ⟨f, rfl, -⟩ := h.change
  exact Front.gate_onGate_of_ne hne

theorem AcceptPoint.Stride.gate_of_ne {p p' : AcceptPoint} (h : Stride me d v p v' p')
    (hne : c ≠ d) :
    v'.gate c = v.gate c := by
  cases h with
  | own h => exact h.gate_of_ne hne
  | store | take | leave | clear | mine => exact Front.gate_onGate_of_ne hne
  | _ => rfl

theorem Front.isSome_gate_onGate {f : Gate → Gate} (h : (v.gate c).isSome = true) :
    ((v.onGate d f).gate c).isSome = true := by
  by_cases hd : c = d
  · subst hd
    simpa using h
  · rwa [gate_onGate_of_ne hd]

theorem Party.Stride.isSome_gate (h : Stride v a v' b) (hg : (v.gate c).isSome = true) :
    (v'.gate c).isSome = true := by
  have hshut {d : ListenerId} {target : Option ThreadId} {p p' : ShutPoint}
      (h : ShutPoint.Stride d target v p v' p') : (v'.gate c).isSome = true := by
    obtain ⟨f, rfl, -⟩ := h.change
    exact Front.isSome_gate_onGate hg
  cases h with
  | accept h =>
    cases h with
    | own h => exact hshut h
    | store | take | leave | clear | mine => exact Front.isSome_gate_onGate hg
    | _ => exact hg
  | close h => exact hshut h
  | interrupt h =>
    cases h with
    | shut d h => exact hshut h
    | _ => exact hg

/-- An access to a channel is one of a close, or one of an accept that does not close. Any other
leaves the channel alone, and comes after the close of the party if there is one. -/
theorem Party.Stride.on_channel (h : Stride v a v' b) (c : ListenerId) :
    (∃ target p p', a.Closes c target p ∧ b.Closes c target p' ∧
        ShutPoint.Stride c target v p v' p') ∨
      (∃ me p p', a = .accept me c p ∧ b = .accept me c p' ∧ (∀ q, p ≠ .own q) ∧
        AcceptPoint.Stride me c v p v' p') ∨
      v'.gate c = v.gate c ∧ (∀ target p, a.Closes c target p → p.isOver = true) ∧
        ∀ me p, a = .accept me c p → ∃ q, p = .own q := by
  by_cases hcloses : ∃ target p, a.Closes c target p
  · obtain ⟨target, p, ha⟩ := hcloses
    rcases h.of_closes ha with ⟨p', hb, hstride⟩ | ⟨hover, rfl, -⟩
    · exact .inl ⟨target, p, p', ha, hb, hstride⟩
    · refine .inr (.inr ⟨rfl, ?_, ?_⟩)
      · intro target' p' ha'
        cases ha <;> cases ha' <;> exact hover
      · rintro me p rfl
        cases ha
        exact ⟨_, rfl⟩
  · have hnot (target : Option ThreadId) (p : ShutPoint) (ha : a.Closes c target p) :
        p.isOver = true :=
      absurd ⟨target, p, ha⟩ hcloses
    cases h with
    | @accept me d p p' _ h =>
      by_cases hd : c = d
      · subst hd
        refine .inr (.inl ⟨me, p, p', rfl, rfl, ?_, h⟩)
        rintro q rfl
        exact hcloses ⟨_, q, .own me q⟩
      · refine .inr (.inr ⟨h.gate_of_ne hd, hnot, ?_⟩)
        rintro me p ⟨⟩
        exact absurd rfl hd
    | @close d p p' _ h =>
      refine .inr (.inr ⟨h.gate_of_ne ?_, hnot, by rintro me p ⟨⟩⟩)
      rintro rfl
      exact hcloses ⟨_, p, .close p⟩
    | @interrupt t p p' _ h =>
      cases h with
      | @shut p p' _ d h =>
        refine .inr (.inr ⟨h.gate_of_ne ?_, hnot, by rintro me p ⟨⟩⟩)
        rintro rfl
        exact hcloses ⟨_, p, .interrupt t p⟩
      | _ => exact .inr (.inr ⟨rfl, hnot, by rintro me p ⟨⟩⟩)

end Gates

/-! ## What parties keep -/

section Locks

variable {v v' : Front} {c : ListenerId} {lock : Lock}

theorem ClosePoint.holds_cancelling {outcome : IoResult} {ks : List KeyId}
    (hlock : lock ∈ (cancelling outcome ks).holds c) : lock ∈ [Lock.closing c] := by
  cases ks with
  | nil => cases hlock
  | cons k ks => exact hlock

theorem ClosePoint.Turn.holds {v v' : Scene} {p p' : ClosePoint} (h : Turn c v p v' p')
    (hlock : lock ∈ p'.holds c) : lock ∈ p.holds c ∨ p.wants c = some lock := by
  cases h with
  | shut => exact .inr (congrArg some (List.mem_singleton.mp hlock).symm)
  | look | killed =>
    rcases List.mem_cons.mp hlock with rfl | hlock
    · exact .inl (List.mem_singleton.mpr rfl)
    · exact .inr (congrArg some (List.mem_singleton.mp hlock).symm)
  | registered | decided =>
    rw [List.mem_singleton.mp hlock]
    exact .inl (List.mem_cons_self ..)
  | sweep | cancelled => exact .inl (holds_cancelling hlock)
  | _ => exact .inl hlock

theorem ShutPoint.Stride.holds (h : Stride c target v p v' p') (hlock : lock ∈ p'.holds c) :
    lock ∈ p.holds c ∨ p.wants c = some lock := by
  cases h with
  | flip hg h hp' =>
    subst hp'
    right
    cases target <;> exact congrArg some (List.mem_singleton.mp hlock).symm
  | shut hg h => cases hlock
  | credit t => exact .inl hlock
  | rest _ _ h => exact h.holds hlock

/-- What a party keeps after an access it kept before, or was free to take. -/
theorem Party.Stride.holds {bar : Bar} (h : Stride v a v' b) (hbar : bar ∈ b.holds) :
    bar ∈ a.holds ∨ a.wants = some bar := by
  rcases holds_cases hbar with ⟨me, c, p', rfl, -, hover, rfl⟩ | ⟨t, c, hb, rfl⟩ |
    ⟨c, target, p', lock, hb, hlock, rfl⟩
  · cases h with
    | @accept _ _ p _ _ h =>
      cases p with
      | turn => exact .inr rfl
      | own p => exact .inl (List.mem_cons_self ..)
      | ended answer =>
        cases h with
        | work h _ => cases h
        | ended answer => cases hover
      | _ => exact .inl (List.mem_singleton.mpr rfl)
  · rcases hb with rfl | ⟨p, rfl⟩
    · cases h with
      | interrupt h =>
        cases h with
        | mark hp' => exact .inr rfl
    · cases h with
      | interrupt h =>
        cases h with
        | mark hp' => exact .inr rfl
        | tell c => exact .inl (List.mem_singleton.mpr rfl)
        | shut c h => exact .inl (List.mem_cons_self ..)
  · rcases h.closes hb with ⟨p, ha, hstride⟩ | ⟨rfl, -⟩
    · rcases hstride.holds hlock with hlock | hwants
      · exact .inl (ha.holds hlock)
      · exact .inr (ha.wants hwants)
    · cases hlock

end Locks

/-! ## Positions -/

/-- The front of an encounter, its parties, and what was noted of them. -/
structure Position where
  front : Front
  parties : List Party
  log : List (Nat × Note)

def Encounter.position (e : Encounter) : Position :=
  ⟨e.station.front, e.parties, e.log⟩

namespace Position

def notes (x : Position) (i : Nat) : List Note :=
  notesOf x.log i

/-- The party at a place made an access. -/
def moved (x : Position) (i : Nat) (a b : Party) (v : Front) : Position where
  front := v
  parties := x.parties.set i b
  log := x.log ++ ((a.note x.front).map fun note => (i, note)).toList

/-- The party at a place does not wait, and its next access leads to another point and front. -/
structure Access (x : Position) (i : Nat) (a b : Party) (v : Front) : Prop where
  place : x.parties[i]? = some a
  free : a.waits x.parties = false
  stride : a.Stride x.front v b

/-- No two parties keep the same. -/
def Exclusive (x : Position) : Prop :=
  ∀ ⦃i j : Nat⦄ ⦃a b : Party⦄ ⦃bar : Bar⦄, x.parties[i]? = some a →
    x.parties[j]? = some b →
    bar ∈ a.holds → bar ∈ b.holds → i = j

/-- No close is at its beginning twice. -/
def Proper (x : Position) : Prop :=
  ∀ ⦃i : Nat⦄ ⦃a : Party⦄ ⦃c : ListenerId⦄ ⦃target : Option ThreadId⦄
    ⦃p : ShutPoint⦄, x.parties[i]? = some a → a.Closes c target p → p.isProper

variable {x : Position} {i j : Nat} {a b d : Party} {v : Front} {bar : Bar}

theorem notes_moved_self : (x.moved i a b v).notes i = x.notes i ++ (a.note x.front).toList := by
  cases hnote : a.note x.front <;> simp [notes, notesOf, moved, hnote, List.filterMap_append]

theorem notes_moved_of_ne (hji : j ≠ i) : (x.moved i a b v).notes j = x.notes j := by
  cases hnote : a.note x.front <;>
    simp [notes, notesOf, moved, hnote, List.filterMap_append, Ne.symm hji]

theorem mem_notes : n ∈ x.notes j ↔ (j, n) ∈ x.log := by
  simp [notes, notesOf]

theorem mem_log_moved :
    (j, n) ∈ (x.moved i a b v).log ↔ (j, n) ∈ x.log ∨ j = i ∧
    a.note x.front = some n := by
  cases hnote : a.note x.front <;> simp [moved, hnote, eq_comm]

theorem Access.place_moved (h : x.Access i a b v) : (x.moved i a b v).parties[i]? = some b :=
  Guard.Race.getElem?_set_of_getElem? h.place

theorem place_moved_of_ne (hji : j ≠ i) : (x.moved i a b v).parties[j]? = x.parties[j]? :=
  List.getElem?_set_ne (Ne.symm hji)

theorem cases_moved (hj : (x.moved i a b v).parties[j]? = some d) :
    j = i ∧ d = b ∨ j ≠ i ∧ x.parties[j]? = some d :=
  Guard.Race.getElem?_set_cases hj

theorem Access.accept_moved {p : AcceptPoint} (h : x.Access i a b v)
    (hj : x.parties[j]? = some (.accept t c p)) :
    ∃ p', (x.moved i a b v).parties[j]? = some (.accept t c p') := by
  by_cases hji : j = i
  · subst hji
    cases hj.symm.trans h.place
    cases hstride : h.stride with
    | accept => exact ⟨_, h.place_moved⟩
  · exact ⟨p, (place_moved_of_ne hji).trans hj⟩

theorem Access.of_accept_moved {p' : AcceptPoint} (h : x.Access i a b v)
    (hj : (x.moved i a b v).parties[j]? = some (.accept t c p')) :
    ∃ p, x.parties[j]? = some (.accept t c p) ∧
      (p = p' ∨ j = i ∧ AcceptPoint.Stride t c x.front p v p') := by
  rcases cases_moved hj with ⟨rfl, rfl⟩ | ⟨-, hj⟩
  · cases hstride : h.stride with
    | accept hstep => exact ⟨_, h.place, .inr ⟨rfl, hstep⟩⟩
  · exact ⟨p', hj, .inl rfl⟩

theorem Access.not_holds (h : x.Access i a b v) (hwants : a.wants = some bar)
    (hj : x.parties[j]? = some d) : bar ∉ d.holds := by
  intro hbar
  have hfree := h.free
  rw [Party.waits, hwants] at hfree
  exact List.any_eq_false.mp hfree d (List.mem_of_getElem? hj) (List.contains_iff_mem.mpr hbar)

theorem Exclusive.moved (hx : x.Exclusive) (h : x.Access i a b v) :
    (x.moved i a b v).Exclusive := by
  intro j k d d' bar
  refine Guard.Race.alone_set (P := (bar ∈ ·.holds)) h.place
    (fun _ _ _ _ hj hk => hx hj hk) ?_ j k d d'
  exact fun hb => (h.stride.holds hb).imp_right fun hwants _ _ hj => h.not_holds hwants hj

/-- An accept of the thread on the channel is in one of these phases. -/
def Within (x : Position) (P : Phase → Bool) (t : ThreadId) (c : ListenerId) : Prop :=
  ∃ (j : Nat) (p : AcceptPoint), x.parties[j]? = some (.accept t c p) ∧ P p.phase = true

/-- An accept stays within phases that end with a certain one, unless it is in
that one and moves. -/
theorem Within.moved {P : Phase → Bool} {last : Phase}
    (hP : ∀ {isOpen q q'}, Phase.Next isOpen q q' → P q = true → P q' = true ∨ q = last)
    (hx : x.Within P t c) (h : x.Access i a b v)
    (hlast : ∀ p, a = .accept t c p → p.phase ≠ last) :
    (x.moved i a b v).Within P t c := by
  obtain ⟨j, p, hj, hp⟩ := hx
  by_cases hji : j = i
  · subst hji
    cases hj.symm.trans h.place
    cases hstride : h.stride with
    | @accept _ _ _ p' _ hp' =>
      rcases hP hp'.phases hp with hwithin | hphase
      · exact ⟨j, p', h.place_moved, hwithin⟩
      · exact absurd hphase (hlast p rfl)
  · exact ⟨j, p, (place_moved_of_ne hji).trans hj, hp⟩

end Position

theorem ShutPoint.Stride.isProper (h : Stride c target v p v' p') : p'.isProper := by
  cases h with
  | flip hg h hp' =>
    subst hp'
    cases target with
    | none => exact fun h => by cases h
    | some t => trivial
  | shut hg h | credit t => exact fun h => by cases h
  | rest _ _ h => exact h.ne_shut

theorem ShutPoint.Stride.isOver (h : Stride c target v p v' p') (hover : p.isOver = true) :
    p'.isOver = true := by
  obtain ⟨outcome, rfl⟩ := eq_of_isOver hover
  cases h with
  | rest _ _ h =>
    cases h
    rfl

theorem Position.Proper.moved {x : Position} (hx : x.Proper) (h : x.Access i a b v) :
    (x.moved i a b v).Proper := by
  intro j d c target p hj hd
  rcases cases_moved hj with ⟨rfl, rfl⟩ | ⟨-, hj⟩
  · rcases h.stride.closes hd with ⟨p₀, -, hstride⟩ | ⟨rfl, -⟩
    · exact hstride.isProper
    · trivial
  · exact hx hj hd

/-- Past the flip of a close the channel is closed. -/
def Position.Flipped (x : Position) : Prop :=
  ∀ ⦃i : Nat⦄ ⦃a : Party⦄ ⦃c : ListenerId⦄ ⦃target : Option ThreadId⦄
    ⦃p : ShutPoint⦄, x.parties[i]? = some a → a.Closes c target p → p ≠ .flip →
    x.front.isOpen c = false

theorem Position.Flipped.moved {x : Position} (hx : x.Flipped) (h : x.Access i a b v) :
    (x.moved i a b v).Flipped := by
  intro j d c target p hj hd hp
  have hkeep : x.front.isOpen c = false → v.isOpen c = false := h.stride.isOpen_eq_false
  rcases cases_moved hj with ⟨rfl, rfl⟩ | ⟨-, hj⟩
  · rcases h.stride.closes hd with ⟨p₀, ha, hstride⟩ | ⟨rfl, -⟩
    · cases hp₀ : hstride with
      | flip hg hopen hp' => exact Front.isOpen_of_gate (Front.gate_onGate_some hg)
      | shut hg hclosed => exact (Front.isOpen_of_gate hg).trans hclosed
      | credit t | rest h' => exact hkeep (hx h.place ha (by rintro ⟨⟩))
    · exact absurd rfl hp
  · exact hkeep (hx hj hd hp)

theorem Party.stride {signalled : Bool} {st st' : Station}
    (ha : ∀ c target p, a.Closes c target p → p.isProper)
    (h : (a.step signalled).run st = (.ok b, st')) : a.Stride st.front st'.front b := by
  cases a with
  | accept me c p =>
    obtain ⟨p', hp, rfl⟩ := of_run_map h
    refine .accept (AcceptPoint.stride (fun point hpoint => ?_) hp)
    subst hpoint
    exact ha c _ point (.own me point)
  | close c p =>
    obtain ⟨p', hp, rfl⟩ := of_run_map h
    exact .close (ShutPoint.stride (ha c _ p (.close p)) hp)
  | interrupt t p =>
    obtain ⟨p', hp, rfl⟩ := of_run_map h
    refine .interrupt (InterruptPoint.stride (fun c point hpoint => ?_) hp)
    subst hpoint
    exact ha c _ point (.interrupt t point)

theorem Party.holds_of_isNew (h : a.isNew = true) : a.holds = [] := by
  cases a with
  | accept me c p =>
    cases p with
    | turn => rfl
    | _ => cases h
  | close c p =>
    cases p with
    | flip => rfl
    | _ => cases h
  | interrupt t p =>
    cases p with
    | find => rfl
    | _ => cases h

theorem AcceptPoint.eq_turn {me : ThreadId} {p : AcceptPoint}
    (h : (Party.accept me c p).isNew = true) :
    p = .turn := by
  cases p with
  | turn => rfl
  | _ => cases h

theorem Party.Closes.eq_flip (hcloses : a.Closes c target p) (h : a.isNew = true) : p = .flip := by
  cases hcloses with
  | close p =>
    cases p with
    | flip => rfl
    | _ => cases h
  | _ => cases h

namespace Encounter

variable {e : Encounter} {I : Position → Prop}

theorem flipped_start (hnew : ∀ a ∈ e.parties, a.isNew = true) : e.position.Flipped := by
  intro i a c target p ha hcloses hp
  exact absurd (hcloses.eq_flip (hnew a (List.mem_of_getElem? ha))) hp

theorem play_cases (hproper : e.position.Proper) (beat : Beat) :
    (e.play beat).position = e.position ∨
      ∃ i a b v, e.position.Access i a b v ∧
      (e.play beat).position = e.position.moved i a b v := by
  cases beat with
  | world network => exact .inl rfl
  | access i signalled =>
    simp only [play, access]
    cases ha : e.parties[i]? with
    | none => exact .inl rfl
    | some a =>
      dsimp only
      cases hfree : a.waits e.parties with
      | true => exact .inl rfl
      | false =>
        cases hrun : (a.step signalled).run e.station with
        | mk r st' =>
          cases r with
          | error f => exact .inl rfl
          | ok b =>
            refine .inr ⟨i, a, b, st'.front, ⟨ha, hfree, ?_⟩, rfl⟩
            exact Party.stride (fun c target p => hproper ha) hrun

theorem exclusive_start (hnew : ∀ a ∈ e.parties, a.isNew = true) : e.position.Exclusive := by
  intro i j a b bar ha _ hbar _
  rw [Party.holds_of_isNew (hnew a (List.mem_of_getElem? ha))] at hbar
  cases hbar

theorem proper_start (hnew : ∀ a ∈ e.parties, a.isNew = true) : e.position.Proper := by
  intro i a c target p ha hcloses
  rw [hcloses.eq_flip (hnew a (List.mem_of_getElem? ha))]
  trivial

theorem after_append (e : Encounter) (beats more : List Beat) :
    e.after (beats ++ more) = (e.after beats).after more :=
  List.foldl_append

/-- What survives every access is handed on, along with what nobody has to ask for. -/
theorem kept_from (hexclusive : e.position.Exclusive)
    (hproper : e.position.Proper) (hstart : I e.position)
    (hkeep : ∀ {x i a b v}, x.Exclusive → x.Access i a b v → I x → I (x.moved i a b v))
    (beats : List Beat) :
    (e.after beats).position.Exclusive ∧ (e.after beats).position.Proper ∧
      I (e.after beats).position := by
  induction beats using List.reverseRecOn with
  | nil => exact ⟨hexclusive, hproper, hstart⟩
  | append_singleton beats beat ih =>
    obtain ⟨hexclusive, hproper, hI⟩ := ih
    rw [after_concat]
    rcases play_cases hproper beat with hsame | ⟨i, a, b, v, haccess, hmoved⟩
    · rw [hsame]
      exact ⟨hexclusive, hproper, hI⟩
    · rw [hmoved]
      exact ⟨hexclusive.moved haccess, hproper.moved haccess, hkeep hexclusive haccess hI⟩

theorem kept (hnew : ∀ a ∈ e.parties, a.isNew = true) (hstart : I e.position)
    (hkeep : ∀ {x i a b v}, x.Exclusive → x.Access i a b v → I x → I (x.moved i a b v))
    (beats : List Beat) : I (e.after beats).position :=
  (kept_from (exclusive_start hnew) (proper_start hnew) hstart hkeep beats).2.2

theorem kept_later (hnew : ∀ a ∈ e.parties, a.isNew = true)
    {earlier : List Beat} (hstart : I (e.after earlier).position)
    (hkeep : ∀ {x i a b v}, x.Exclusive → x.Access i a b v → I x → I (x.moved i a b v))
    (later : List Beat) : I (e.after (earlier ++ later)).position := by
  obtain ⟨hexclusive, hproper, -⟩ :=
    kept_from (I := fun _ => True) (exclusive_start hnew) (proper_start hnew) trivial
      (fun _ _ _ => trivial) earlier
  rw [after_append]
  exact (kept_from hexclusive hproper hstart hkeep later).2.2

theorem accept_after (hnew : ∀ a ∈ e.parties, a.isNew = true) {me : ThreadId} {p : AcceptPoint}
    (hi : e.parties[i]? = some (.accept me c p)) (beats : List Beat) :
    ∃ p', (e.after beats).parties[i]? = some (.accept me c p') := by
  refine kept (I := fun x => ∃ p', x.parties[i]? = some (.accept me c p')) hnew
    ⟨p, hi⟩ ?_ beats
  rintro x j a b v - haccess ⟨p', hp'⟩
  exact haccess.accept_moved hp'

theorem close_after (hnew : ∀ a ∈ e.parties, a.isNew = true)
    (hi : e.parties[i]? = some (.close c p))
    (beats : List Beat) : ∃ p', (e.after beats).parties[i]? = some (.close c p') := by
  refine kept (I := fun x => ∃ p', x.parties[i]? = some (.close c p')) hnew ⟨p, hi⟩ ?_ beats
  rintro x j a b v - haccess ⟨p', hp'⟩
  by_cases hij : i = j
  · subst hij
    cases hp'.symm.trans haccess.place
    cases hstride : haccess.stride with
    | @close _ _ p'' _ _ => exact ⟨p'', haccess.place_moved⟩
  · exact ⟨p', (Position.place_moved_of_ne hij).trans hp'⟩

end Encounter

/-- A channel that was opened and bound, and blocks. -/
def boundStation : Station :=
  Station.after [.openListener, .step 0 false (.bind 0 none 0) rfl]

/-- One thread is about to accept on the channel, and another to close it. -/
def acceptAndClose : Encounter :=
  ⟨boundStation, [.accept 7 0 .turn, .close 0 .flip], []⟩

end PolledChannels
