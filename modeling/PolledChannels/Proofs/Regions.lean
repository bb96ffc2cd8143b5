import PolledChannels.Proofs.Positions

/-!
# Regions and whose interrupt closed a channel

While a thread is in the region of an accept, the channel is its blocker, and whoever interrupts the
thread closes the channel on its behalf. The interrupter keeps the slot of the thread until the
close is over, and the thread needs the slot to leave its region. So a channel is never credited to
a thread that is not in its region, and a credit is not lost before the thread looks for it.
-/

namespace PolledChannels

variable {target : Option ThreadId} {p p' : ShutPoint}

/-! ## Fronts -/

/-- What the thread is blocked on. -/
def Front.blocker (v : Front) (t : ThreadId) : Option ListenerId :=
  (v.slot t).bind Slot.blocker

/-- The interrupt flag of the thread. -/
def Front.flag (v : Front) (t : ThreadId) : Bool :=
  (v.slot t).any Slot.interrupted

/-- The thread whose interrupt closed the channel, if it is written down. -/
def Front.interruptedBy (v : Front) (c : ListenerId) : Option ThreadId :=
  (v.gate c).bind Gate.interruptedBy

/-- The channel is the blocker of the thread. -/
def Phase.isRegistered : Phase → Bool
  | entered | trying | clearing | leaving => true
  | _ => false

/-- Between the beginning and the end of what may block. -/
def Phase.inRegion : Phase → Bool
  | entered | trying | clearing | leaving | hearing => true
  | _ => false

/-- The channel that the interrupt closes. -/
def InterruptPoint.blocker? : InterruptPoint → Option ListenerId
  | tell c | shut c _ => some c
  | _ => none

section Phases

variable {isOpen : Bool} {q q' : Phase} {p : AcceptPoint}

theorem Phase.inRegion_of_isRegistered (h : q.isRegistered = true) : q.inRegion = true := by
  cases q with
  | entered | trying | clearing | leaving => rfl
  | _ => cases h

theorem Phase.Next.isRegistered (h : Next isOpen q q') (hq : q.isRegistered = true) :
    q'.isRegistered = true ∨ q = .leaving := by
  cases h with
  | stay => exact .inl hq
  | write | giveUp | clear => exact .inl rfl
  | leave => exact .inr rfl
  | refuse hs => rcases hs with rfl | rfl <;> cases hq
  | _ => cases hq

theorem Phase.Next.inRegion (h : Next isOpen q q') (hq : q.inRegion = true) :
    q'.inRegion = true ∨ q = .hearing := by
  cases h with
  | stay => exact .inl hq
  | write | giveUp | clear | leave => exact .inl rfl
  | hear => exact .inr rfl
  | refuse hs => rcases hs with rfl | rfl <;> cases hq
  | _ => cases hq

/-- A region is entered by an accept that found its channel bound. -/
theorem Phase.Next.of_isRegistered (h : Next isOpen q q') (hq' : q'.isRegistered = true) :
    q.isRegistered = true ∨ q = .bound ∧ q' = .entered := by
  cases h with
  | stay => exact .inl hq'
  | enter => exact .inr ⟨rfl, rfl⟩
  | write | clear => exact .inl rfl
  | giveUp hs => rcases hs with rfl | rfl <;> exact .inl rfl
  | _ => cases hq'

theorem AcceptPoint.eq_exit (h : p.phase = .leaving) : ∃ a, p = .exit a := by
  cases p with
  | exit a => exact ⟨a, rfl⟩
  | _ => cases h

theorem AcceptPoint.eq_hear (h : p.phase = .hearing) : ∃ a, p = .hear a := by
  cases p with
  | hear a => exact ⟨a, rfl⟩
  | _ => cases h

end Phases

/-! ## Strides -/

section Strides

variable {v v' : Front} {a b : Party} {c d : ListenerId} {t me : ThreadId}

theorem Party.Closes.point_eq {target' : Option ThreadId} (h : a.Closes c target p)
    (h' : a.Closes c target' p') : p = p' := by
  cases h <;> cases h' <;> rfl

theorem Party.closes_of_note (h : a.note v = some (.flipped c target)) :
    a.Closes c target .flip ∧ v.isOpen c = true := by
  have hshut {d : ListenerId} {target' : Option ThreadId} {p : ShutPoint}
      (h : p.note v d target' = some (.flipped c target)) :
      p = .flip ∧ v.isOpen c = true ∧ d = c ∧ target' = target := by
    rcases ShutPoint.note_cases h with ⟨hp, hopen, hn⟩ |
      ⟨-, ⟨_, hn⟩ | ⟨_, hn⟩ | ⟨_, hn⟩⟩
    · cases hn
      exact ⟨hp, hopen, rfl, rfl⟩
    · cases hn
    · cases hn
    · cases hn
  cases a with
  | accept me d p =>
    cases p with
    | own p =>
      obtain ⟨rfl, hopen, rfl, rfl⟩ := hshut h
      exact ⟨.own me _, hopen⟩
    | take call =>
      simp only [note, AcceptPoint.note] at h
      split at h <;> cases h
    | _ => cases h
  | close d p =>
    obtain ⟨rfl, hopen, rfl, rfl⟩ := hshut h
    exact ⟨.close _, hopen⟩
  | interrupt t p =>
    cases p with
    | shut d p =>
      obtain ⟨rfl, hopen, rfl, rfl⟩ := hshut h
      exact ⟨.interrupt t _, hopen⟩
    | _ => cases h

theorem ShutPoint.Stride.slot (h : Stride c target v p v' p') : v'.slot = v.slot := by
  obtain ⟨f, rfl, -⟩ := h.change
  rfl

theorem AcceptPoint.Stride.slot_of_ne {p p' : AcceptPoint} (h : Stride me c v p v' p')
    (hne : t ≠ me) :
    v'.slot t = v.slot t := by
  cases h with
  | register | exit => exact Front.slot_putSlot_of_ne hne
  | own h => exact congrFun h.slot t
  | _ => rfl

theorem InterruptPoint.Stride.slot_of_ne {p p' : InterruptPoint} (h : Stride me v p v' p')
    (hne : t ≠ me) : v'.slot t = v.slot t := by
  cases h with
  | mark => exact Front.slot_putSlot_of_ne hne
  | shut c h => exact congrFun h.slot t
  | _ => rfl

/-- What an access does to the slot of a thread: the thread enters its region or leaves it, or
somebody interrupts the thread. -/
theorem Party.Stride.slot (h : Stride v a v' b) (t : ThreadId) :
    (∃ d, a = .accept t d .register ∧
        b = .accept t d (if v.flag t then .tell else .askAgain) ∧
        v'.slot t = some { (v.slot t).getD {} with blocker := some d }) ∨
      (∃ d r, a = .accept t d (.exit r) ∧
        v'.slot t = (v.slot t).map fun s => { s with blocker := none }) ∨
      (a = .interrupt t .mark ∧ b = .interrupt t (InterruptPoint.found (v.blocker t)) ∧
        v'.slot t = (v.slot t).map fun s => { s with interrupted := true }) ∨
      v'.slot t = v.slot t ∧
      (∀ d p, a = .accept t d p → p ≠ .register ∧ p.phase ≠ .leaving) ∧
        a ≠ .interrupt t .mark := by
  cases h with
  | @accept me d p p' _ h =>
    by_cases hme : t = me
    · subst hme
      cases h with
      | register hp' => exact .inl ⟨d, rfl, by rw [hp']; rfl, Front.slot_putSlot_self⟩
      | exit r => exact .inr (.inl ⟨d, r, rfl, Front.slot_putSlot_self⟩)
      | own h =>
        refine .inr (.inr (.inr ⟨congrFun h.slot t, ?_, by rintro ⟨⟩⟩))
        rintro d p ⟨⟩
        exact ⟨by rintro ⟨⟩, by rintro ⟨⟩⟩
      | work hp h' =>
        refine .inr (.inr (.inr ⟨rfl, ?_, by rintro ⟨⟩⟩))
        rintro d p ⟨⟩
        rw [AcceptPoint.phase_of_isWorking (.inl hp)]
        refine ⟨?_, by rintro ⟨⟩⟩
        rintro rfl
        cases hp
      | _ =>
        refine .inr (.inr (.inr ⟨rfl, ?_, by rintro ⟨⟩⟩))
        rintro d p ⟨⟩
        exact ⟨by rintro ⟨⟩, by rintro ⟨⟩⟩
    · refine .inr (.inr (.inr ⟨h.slot_of_ne hme, ?_, by rintro ⟨⟩⟩))
      rintro d p ⟨⟩
      exact absurd rfl hme
  | close h =>
    exact .inr (.inr (.inr ⟨congrFun h.slot t, by rintro d p ⟨⟩, by rintro ⟨⟩⟩))
  | @interrupt u p p' _ h =>
    by_cases hu : t = u
    · subst hu
      cases h with
      | mark hp' => exact .inr (.inr (.inl ⟨rfl, by rw [hp']; rfl, Front.slot_putSlot_self⟩))
      | shut d h =>
        exact .inr (.inr (.inr ⟨congrFun h.slot t, by rintro d p ⟨⟩, by rintro ⟨⟩⟩))
      | _ => exact .inr (.inr (.inr ⟨rfl, by rintro d p ⟨⟩, by rintro ⟨⟩⟩))
    · refine .inr (.inr (.inr ⟨h.slot_of_ne hu, by rintro d p ⟨⟩, ?_⟩))
      rintro ⟨⟩
      exact hu rfl

theorem Party.Stride.flag (h : Stride v a v' b) (hflag : v.flag t = true) : v'.flag t = true := by
  obtain ⟨s, hs, hinterrupted⟩ : ∃ s, v.slot t = some s ∧ s.interrupted = true := by
    simpa [Front.flag, Option.any_eq_true] using hflag
  rcases h.slot t with ⟨d, -, -, hslot⟩ | ⟨d, r, -, hslot⟩ | ⟨-, -, hslot⟩ |
    ⟨hslot, -⟩ <;>
    simp [Front.flag, hslot, hs, hinterrupted]

theorem ShutPoint.Stride.interruptedBy (h : Stride c target v p v' p') :
    (∃ u, p = .credit u ∧ v'.interruptedBy c = (v.gate c).map fun _ => u) ∨
      v'.interruptedBy c = v.interruptedBy c ∧ ∀ u, p ≠ .credit u := by
  cases h with
  | flip => exact .inr ⟨Front.bind_gate_onGate fun _ => rfl, by rintro u ⟨⟩⟩
  | shut => exact .inr ⟨rfl, by rintro u ⟨⟩⟩
  | credit u =>
    refine .inl ⟨u, rfl, ?_⟩
    cases hg : v.gate c <;> simp [Front.interruptedBy, hg]
  | rest hw hpoint turn =>
    obtain ⟨f, hfront, hf⟩ := turn.change hpoint
    rw [hfront, hw]
    exact .inr ⟨Front.bind_gate_onGate fun g => by rw [hf g], by rintro u ⟨⟩⟩

/-- What an access does to the thread that a channel is credited to: a close writes it down, or the
thread finds itself there. -/
theorem Party.Stride.interruptedBy (h : Stride v a v' b) (c : ListenerId) :
    (∃ target u, a.Closes c target (.credit u) ∧
        v'.interruptedBy c = (v.gate c).map fun _ => u) ∨
      (∃ me r, a = .accept me c (.hear r) ∧ v.interruptedBy c = some me ∧
        v'.interruptedBy c = none ∧ a.note v = some (.heard true)) ∨
      v'.interruptedBy c = v.interruptedBy c ∧
      (∀ target u, ¬ a.Closes c target (.credit u)) ∧
        ∀ me r, a = .accept me c (.hear r) → v.interruptedBy c ≠ some me := by
  rcases h.on_channel c with ⟨target, p, p', ha, -, hstride⟩ |
    ⟨me, p, p', rfl, -, hown, hstride⟩ | ⟨hgate, hcloses, haccept⟩
  · rcases hstride.interruptedBy with ⟨u, rfl, hcredit⟩ | ⟨hsame, hp⟩
    · exact .inl ⟨target, u, ha, hcredit⟩
    · refine .inr (.inr ⟨hsame, fun target' u ha' => ?_, ?_⟩)
      · exact hp u (ha.point_eq ha')
      · rintro me r rfl
        cases ha
  · have hnot (target : Option ThreadId) (u : ThreadId) :
        ¬ (Party.accept me c p).Closes c target (.credit u) := by
      rintro ⟨⟩
      exact hown _ rfl
    cases hstride with
    | mine r hg hmine =>
      have hmine' : v.interruptedBy c = some me := by
        rw [Front.interruptedBy, hg, Option.bind_some, hmine]
      refine .inr (.inl ⟨me, r, rfl, hmine', ?_, ?_⟩)
      · simp [Front.interruptedBy, hg]
      · simp [note, AcceptPoint.note, hg, hmine]
    | other r hg hother =>
      refine .inr (.inr ⟨rfl, hnot, ?_⟩)
      rintro me r ⟨⟩
      rwa [Front.interruptedBy, hg, Option.bind_some]
    | store | take | leave | clear =>
      refine .inr (.inr ⟨?_, hnot, by rintro me r ⟨⟩⟩)
      exact Front.bind_gate_onGate fun _ => rfl
    | own => exact absurd rfl (hown _)
    | work hp h' =>
      refine .inr (.inr ⟨rfl, hnot, ?_⟩)
      rintro me r ⟨⟩
      cases hp
    | _ => exact .inr (.inr ⟨rfl, hnot, by rintro me r ⟨⟩⟩)
  · refine .inr (.inr ⟨congrArg (Option.bind · Gate.interruptedBy) hgate, ?_, ?_⟩)
    · intro target u ha
      cases hcloses target _ ha
    · intro me r ha
      obtain ⟨q, hq⟩ := haccept me _ ha
      cases hq

/-- The channel is closed, and the close goes on by writing down whom it is made for. -/
theorem Party.Stride.flipped (h : Stride v a v' b) (hnote : a.note v = some (.flipped c target)) :
    v.isOpen c = true ∧ v'.isOpen c = false ∧ b.Closes c target (ShutPoint.flipped target) := by
  obtain ⟨ha, hopen⟩ := closes_of_note hnote
  refine ⟨hopen, ?_⟩
  rcases h.of_closes ha with ⟨p', hb, hstride⟩ | ⟨⟨⟩, -⟩
  cases hstride with
  | flip hg hopen hp' => exact ⟨Front.isOpen_of_gate (Front.gate_onGate_some hg), hp' ▸ hb⟩
  | shut hg hclosed => cases (hopen.symm.trans (Front.isOpen_of_gate hg)).trans hclosed

/-- An interrupt closes what it found to be the blocker of the thread. -/
theorem InterruptPoint.Stride.blocker? {q q' : InterruptPoint} (h : Stride t v q v' q')
    (hq' : q'.blocker? = some d) : q.blocker? = some d ∨ q = .mark ∧ v.blocker t = some d := by
  cases h with
  | mark hp' =>
    subst hp'
    refine .inr ⟨rfl, ?_⟩
    change (found (v.blocker t)).blocker? = some d at hq'
    cases hblocker : v.blocker t with
    | none =>
      rw [hblocker] at hq'
      cases hq'
    | some c =>
      rw [hblocker] at hq'
      exact hq'
  | tell c | shut c h => exact .inl hq'
  | _ => cases hq'

theorem Party.holds_slot {q : InterruptPoint} (h : q.blocker? = some d) :
    .slot t ∈ (Party.interrupt t q).holds := by
  cases q with
  | tell c => exact List.mem_singleton.mpr rfl
  | shut c p => exact List.mem_cons_self ..
  | _ => cases h

theorem AcceptPoint.Stride.entered {p p' : AcceptPoint} (h : Stride me c v p v' p')
    (hp' : p'.phase.isRegistered = true) : p.phase.isRegistered = true ∨ p = .register := by
  rcases h.phases.of_isRegistered hp' with hp | ⟨hbound, -⟩
  · exact .inl hp
  · cases p with
    | register => exact .inr rfl
    | askBound =>
      cases h with
      | work h _ => cases h
      | _ => cases hp'
    | _ => cases hbound

theorem AcceptPoint.eq_hear_of_note {p : AcceptPoint} {mine : Bool}
    (h : p.note v me c = some (.heard mine)) :
    (∃ r, p = .hear r) ∧ (mine = true → v.interruptedBy c = some me) := by
  cases p with
  | hear r =>
    refine ⟨⟨r, rfl⟩, fun hmine => ?_⟩
    cases h
    obtain ⟨g, hg, hby⟩ : ∃ g, v.gate c = some g ∧ g.interruptedBy = some me := by
      simpa [Option.any_eq_true] using hmine
    rw [Front.interruptedBy, hg, Option.bind_some, hby]
  | own point => cases ShutPoint.ofClose_note h
  | take call =>
    rw [note] at h
    split at h <;> cases h
  | _ => cases h

end Strides

/-! ## Regions -/

namespace Position

variable {x : Position} {i : Nat} {a b : Party} {v : Front} {t : ThreadId} {c d : ListenerId}

/-- The blocker of the thread is the channel in whose region it is, and so is what interrupts
of the thread close. -/
structure Regions (x : Position) (t : ThreadId) : Prop where
  blocker : ∀ ⦃d : ListenerId⦄, x.front.blocker t = some d → x.Within Phase.isRegistered t d
  interrupts : ∀ ⦃j : Nat⦄ ⦃q : InterruptPoint⦄ ⦃d : ListenerId⦄,
    x.parties[j]? = some (.interrupt t q) → q.blocker? = some d →
    x.Within Phase.isRegistered t d
  entered : ∀ ⦃j : Nat⦄ ⦃d : ListenerId⦄ ⦃p : AcceptPoint⦄,
    x.parties[j]? = some (.accept t d p) →
    p.phase.isRegistered = true → ∃ flag, (j, .entered flag) ∈ x.log

theorem Regions.moved (hx : x.Regions t) (h : x.Access i a b v) : (x.moved i a b v).Regions t where
  blocker d hd := by
    change (v.slot t).bind Slot.blocker = some d at hd
    rcases h.stride.slot t with ⟨d', -, rfl, hslot⟩ | ⟨d', r, -, hslot⟩ |
      ⟨rfl, -, hslot⟩ | ⟨hslot, hother, -⟩
    · rw [hslot] at hd
      cases hd
      refine ⟨i, _, h.place_moved, ?_⟩
      split <;> rfl
    · rw [hslot] at hd
      cases hs : x.front.slot t <;> simp [hs] at hd
    · have hblocker : x.front.blocker t = some d := by
        rw [hslot] at hd
        cases hs : x.front.slot t with
        | none => simp [hs] at hd
        | some s => simpa [hs, Front.blocker] using hd
      exact (hx.blocker hblocker).moved Phase.Next.isRegistered h (by rintro p ⟨⟩)
    · rw [hslot] at hd
      exact (hx.blocker hd).moved Phase.Next.isRegistered h fun p ha => (hother d p ha).2
  interrupts j q d hj hq := by
    rcases cases_moved hj with ⟨rfl, rfl⟩ | ⟨hji, hj'⟩
    · cases hstride : h.stride with
      | interrupt hstep =>
        have hwithin : x.Within Phase.isRegistered t d := by
          rcases hstep.blocker? hq with hq | ⟨rfl, hblocker⟩
          · exact hx.interrupts h.place hq
          · exact hx.blocker hblocker
        exact hwithin.moved Phase.Next.isRegistered h (by rintro p ⟨⟩)
    · refine (hx.interrupts hj' hq).moved Phase.Next.isRegistered h ?_
      -- the slot is kept by whoever interrupts, so the thread cannot leave
      rintro p rfl hleaving
      obtain ⟨r, rfl⟩ := AcceptPoint.eq_exit hleaving
      exact h.not_holds rfl hj' (Party.holds_slot hq)
  entered j d p hj hp := by
    have hgrows {flag : Bool} (hlog : (j, .entered flag) ∈ x.log) :
        ∃ flag, (j, .entered flag) ∈ (x.moved i a b v).log :=
      ⟨flag, mem_log_moved.mpr (.inl hlog)⟩
    rcases cases_moved hj with ⟨rfl, rfl⟩ | ⟨hji, hj⟩
    · cases hstride : h.stride with
      | accept hstep =>
        rcases hstep.entered hp with hp | rfl
        · exact hgrows (hx.entered h.place hp).choose_spec
        · exact ⟨_, mem_log_moved.mpr (.inr ⟨rfl, rfl⟩)⟩
    · exact hgrows (hx.entered hj hp).choose_spec

/-! ## Credits -/

/-- Somebody flipped the channel on this behalf. -/
def FlippedBy (x : Position) (c : ListenerId) (target : Option ThreadId) : Prop :=
  ∃ j, (j, .flipped c target) ∈ x.log

/-- A close is about to write the thread down. -/
def Crediting (x : Position) (c : ListenerId) (t : ThreadId) : Prop :=
  ∃ (j : Nat) (a : Party) (target : Option ThreadId),
    x.parties[j]? = some a ∧ a.Closes c target (.credit t)

/-- An accept of the thread on the channel found that its own interrupt closed the channel. -/
def HeardOwn (x : Position) (c : ListenerId) (t : ThreadId) : Prop :=
  ∃ (j : Nat) (p : AcceptPoint), x.parties[j]? = some (.accept t c p) ∧
    (j, .heard true) ∈ x.log

theorem flippedBy_moved :
    (x.moved i a b v).FlippedBy c target ↔
      x.FlippedBy c target ∨ a.note x.front = some (.flipped c target) := by
  simp [FlippedBy, mem_log_moved, exists_or]

theorem heardOwn_moved (h : x.Access i a b v) :
    (x.moved i a b v).HeardOwn c t ↔ x.HeardOwn c t ∨
      (∃ r, a = .accept t c (.hear r)) ∧ x.front.interruptedBy c = some t ∧
        a.note x.front = some (.heard true) := by
  constructor
  · rintro ⟨j, p', hj, hlog⟩
    obtain ⟨p, hp, -⟩ := h.of_accept_moved hj
    rcases mem_log_moved.mp hlog with hlog | ⟨rfl, hnote⟩
    · exact .inl ⟨j, p, hp, hlog⟩
    · cases hp.symm.trans h.place
      obtain ⟨⟨r, rfl⟩, hby⟩ := AcceptPoint.eq_hear_of_note hnote
      exact .inr ⟨⟨r, rfl⟩, hby rfl, hnote⟩
  · rintro (⟨j, p, hj, hlog⟩ | ⟨⟨r, rfl⟩, -, hnote⟩)
    · obtain ⟨p', hp'⟩ := h.accept_moved hj
      exact ⟨j, p', hp', mem_log_moved.mpr (.inl hlog)⟩
    · obtain ⟨p', hp'⟩ := h.accept_moved h.place
      exact ⟨i, p', hp', mem_log_moved.mpr (.inr ⟨rfl, hnote⟩)⟩

/-- The thread that a channel is credited to is the one on whose behalf it was flipped, which is in
its region and finds the credit there. -/
structure Credits (x : Position) (t : ThreadId) (c : ListenerId) : Prop where
  gate : (x.front.gate c).isSome = true
  credit : ∀ ⦃j : Nat⦄ ⦃a : Party⦄ ⦃target : Option ThreadId⦄ ⦃u : ThreadId⦄,
    x.parties[j]? = some a →
    a.Closes c target (.credit u) → target = some u ∧ x.FlippedBy c (some u)
  closed : ∀ ⦃target : Option ThreadId⦄, x.FlippedBy c target → x.front.isOpen c = false
  once : ∀ ⦃target target' : Option ThreadId⦄, x.FlippedBy c target →
    x.FlippedBy c target' →
    target = target'
  credited : x.front.interruptedBy c = some t →
    x.FlippedBy c (some t) ∧ x.Within Phase.inRegion t c
  heard : x.HeardOwn c t → x.FlippedBy c (some t)
  kept : x.FlippedBy c (some t) →
    x.Crediting c t ∨ x.front.interruptedBy c = some t ∨ x.HeardOwn c t

/-- Whoever writes the thread down closes the channel for it, in its region. -/
theorem Credits.within (hx : x.Credits t c) (hregions : x.Regions t) (hi : x.parties[i]? = some a)
    (ha : a.Closes c target (.credit t)) : x.Within Phase.inRegion t c := by
  obtain ⟨rfl, -⟩ := hx.credit hi ha
  have hwithin : x.Within Phase.isRegistered t c := by
    cases ha with
    | interrupt t p => exact hregions.interrupts hi rfl
    | own t p => exact ⟨i, _, hi, rfl⟩
  obtain ⟨j, p, hj, hp⟩ := hwithin
  exact ⟨j, p, hj, Phase.inRegion_of_isRegistered hp⟩

theorem Credits.moved (hx : x.Credits t c) (hregions : x.Regions t) (h : x.Access i a b v) :
    (x.moved i a b v).Credits t c where
  gate := h.stride.isSome_gate hx.gate
  credit j d target u hj hd := by
    rcases cases_moved hj with ⟨rfl, rfl⟩ | ⟨-, hj⟩
    · rcases h.stride.closes hd with ⟨p, ha, hstride⟩ | ⟨⟨⟩, -⟩
      generalize hcredit : ShutPoint.credit u = q at hstride
      cases hstride with
      | flip hg hopen hp' =>
        obtain ⟨⟩ | ⟨u'⟩ := target
        · cases hcredit.trans hp'
        · cases hcredit.trans hp'
          refine ⟨rfl, flippedBy_moved.mpr (.inr ?_)⟩
          rw [ha.note, ShutPoint.note, Front.isOpen_of_gate hg, if_pos hopen]
      | _ => cases hcredit
    · obtain ⟨htarget, hflipped⟩ := hx.credit hj hd
      exact ⟨htarget, flippedBy_moved.mpr (.inl hflipped)⟩
  closed target htarget := by
    rcases flippedBy_moved.mp htarget with hold | hnew
    · exact h.stride.isOpen_eq_false (hx.closed hold)
    · exact (h.stride.flipped hnew).2.1
  once target target' h₁ h₂ := by
    have hfirst {target target' : Option ThreadId} (hold : x.FlippedBy c target)
        (hnew : a.note x.front = some (.flipped c target')) : False := by
      cases (hx.closed hold).symm.trans (h.stride.flipped hnew).1
    rcases flippedBy_moved.mp h₁ with h₁ | h₁
    · rcases flippedBy_moved.mp h₂ with h₂ | h₂
      · exact hx.once h₁ h₂
      · exact (hfirst h₁ h₂).elim
    · rcases flippedBy_moved.mp h₂ with h₂ | h₂
      · exact (hfirst h₂ h₁).elim
      · cases h₁.symm.trans h₂
        rfl
  credited ht := by
    change v.interruptedBy c = some t at ht
    rcases h.stride.interruptedBy c with ⟨target, u, ha, hby⟩ | ⟨me, r, -, -, hby, -⟩ |
      ⟨hsame, -, hhear⟩
    · rw [hby] at ht
      obtain ⟨g, -, rfl⟩ := Option.map_eq_some_iff.mp ht
      refine ⟨flippedBy_moved.mpr (.inl (hx.credit h.place ha).2), ?_⟩
      refine (hx.within hregions h.place ha).moved Phase.Next.inRegion h ?_
      rintro p rfl
      cases ha
      rintro ⟨⟩
    · cases hby.symm.trans ht
    · obtain ⟨hflipped, hwithin⟩ := hx.credited (hsame.symm.trans ht)
      refine ⟨flippedBy_moved.mpr (.inl hflipped), hwithin.moved Phase.Next.inRegion h ?_⟩
      intro p ha hphase
      obtain ⟨r, rfl⟩ := AcceptPoint.eq_hear hphase
      exact hhear t r ha (hsame.symm.trans ht)
  heard hheard := by
    rcases (heardOwn_moved h).mp hheard with hold | ⟨-, hby, -⟩
    · exact flippedBy_moved.mpr (.inl (hx.heard hold))
    · exact flippedBy_moved.mpr (.inl (hx.credited hby).1)
  kept hflipped := by
    rcases flippedBy_moved.mp hflipped with hold | hnew
    · have hcredits := h.stride.interruptedBy c
      obtain ⟨g, hg⟩ := Option.isSome_iff_exists.mp hx.gate
      rcases hx.kept hold with ⟨j, d, target, hj, hd⟩ | hby | hheard
      · by_cases hji : j = i
        · subst hji
          cases hj.symm.trans h.place
          rcases hcredits with ⟨target', u, ha, hby⟩ | ⟨me, r, rfl, -⟩ | ⟨-, hnot, -⟩
          · cases hd.point_eq ha
            exact .inr (.inl (hby.trans (by rw [hg]; rfl)))
          · cases hd
          · exact absurd hd (hnot target t)
        · exact .inl ⟨j, d, target, (place_moved_of_ne hji).trans hj, hd⟩
      · rcases hcredits with ⟨target', u, ha, hby'⟩ | ⟨me, r, rfl, hme, -, hnote⟩ |
          ⟨hsame, -⟩
        · cases hx.once hold (hx.credit h.place ha).2
          exact .inr (.inl (hby'.trans (by rw [hg]; rfl)))
        · cases hby.symm.trans hme
          exact .inr (.inr ((heardOwn_moved h).mpr (.inr ⟨⟨r, rfl⟩, hby, hnote⟩)))
        · exact .inr (.inl (hsame.trans hby))
      · exact .inr (.inr ((heardOwn_moved h).mpr (.inl hheard)))
    · exact .inl ⟨i, b, some t, h.place_moved, (h.stride.flipped hnew).2.2⟩

end Position

namespace Encounter

variable {e : Encounter} {t : ThreadId} {c : ListenerId}

theorem regions_start (hnew : ∀ a ∈ e.parties, a.isNew = true)
    (hidle : e.station.front.blocker t = none) : e.position.Regions t where
  blocker d hd := by cases hidle.symm.trans hd
  interrupts j q d hj hq := by
    have hfind := hnew _ (List.mem_of_getElem? hj)
    cases q with
    | find => cases hq
    | _ => cases hfind
  entered j d p hj hp := by
    cases AcceptPoint.eq_turn (hnew _ (List.mem_of_getElem? hj))
    cases hp

theorem credits_start {l : Listener} (hnew : ∀ a ∈ e.parties, a.isNew = true)
    (hlog : e.log = [])
    (hl : e.station.listeners[c]? = some l) (hby : e.station.front.interruptedBy c ≠ some t) :
    e.position.Credits t c := by
  have hnever {j : Nat} {n : Note} : (j, n) ∉ e.position.log := by
    rw [show e.position.log = [] from hlog]
    exact List.not_mem_nil
  have hunflipped {target : Option ThreadId} : ¬ e.position.FlippedBy c target :=
    fun ⟨_, h⟩ => hnever h
  exact {
    gate := Option.isSome_iff_exists.mpr ⟨l.gate, Station.gate_front hl⟩
    credit := fun j a target u hj ha => by cases ha.eq_flip (hnew a (List.mem_of_getElem? hj))
    closed := fun target h => absurd h hunflipped
    once := fun target target' h => absurd h hunflipped
    credited := fun h => absurd h hby
    heard := fun ⟨_, _, _, h⟩ => absurd h hnever
    kept := fun h => absurd h hunflipped }

end Encounter

end PolledChannels
