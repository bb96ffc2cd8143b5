import PolledChannels.Proofs.Positions

/-!
# Whom a close signals

A close looks which thread accepts on the channel and signals that thread in a later access. The
accept takes its thread off the channel without asking anybody, so it may do so between the two,
and the signal then goes to a thread that is in no accept any more. Nothing else can go wrong:
once the channel is flipped nobody comes to write a thread down who was not about to, and only
one accept has the turn.
-/

namespace PolledChannels

/-- Which thread accepts on the channel, as a close sees it. -/
def Front.acceptor (v : Front) (c : ListenerId) : Option ThreadId :=
  (v.gate c).bind Gate.acceptor

/-- From where an accept wrote its thread down to where it takes it off. An accept that found the
channel closed takes its thread off without having written it down. -/
def Phase.isRecorded : Phase → Bool
  | trying | clearing => true
  | _ => false

/-- The accept found the channel open, and has not taken its thread off. -/
def Phase.mayRecord : Phase → Bool
  | bound | entered | trying | clearing => true
  | _ => false

/-- What was noted since a note was last made. -/
def since (n : Nat × Note) (log : List (Nat × Note)) : List (Nat × Note) :=
  log.reverse.takeWhile (· != n)

theorem since_concat_self (n : Nat × Note) (log : List (Nat × Note)) :
    since n (log ++ [n]) = [] := by
  simp [since]

theorem since_concat_of_ne {n m : Nat × Note} (h : m ≠ n) (log : List (Nat × Note)) :
    since n (log ++ [m]) = m :: since n log := by
  simp [since, h]

section Strides

variable {v v' : Front} {c d : ListenerId} {me t : ThreadId} {p p' : AcceptPoint}
    {target : Option ThreadId} {closing : Event × IoResult} {isOpen : Bool}
      {q q' : Phase} {a b : Party}

theorem Phase.mayRecord_of_isRecorded (h : q.isRecorded = true) : q.mayRecord = true := by
  cases q with
  | trying | clearing => rfl
  | _ => cases h

/-- An accept whose thread is written down takes it off before it goes on. -/
theorem Phase.Next.isRecorded (h : Next isOpen q q')
    (hq : q.isRecorded = true) : q'.isRecorded = true ∨ q = .clearing := by
  cases h with
  | stay => exact .inl hq
  | write | giveUp => exact .inl rfl
  | clear => exact .inr rfl
  | refuse hs => rcases hs with rfl | rfl <;> cases hq
  | _ => cases hq

/-- Only an accept that finds the channel open comes to write its thread down. -/
theorem Phase.Next.mayRecord (h : Next isOpen q q')
    (hq' : q'.mayRecord = true) : q.mayRecord = true ∨ isOpen = true := by
  cases h with
  | stay => exact .inl hq'
  | pass hopen => exact .inr hopen
  | enter | write => exact .inl rfl
  | giveUp hs => rcases hs with rfl | rfl <;> exact .inl rfl
  | _ => cases hq'

theorem AcceptPoint.eq_clear (h : p.phase = .clearing) : ∃ a, p = .clear a := by
  cases p with
  | clear a => exact ⟨a, rfl⟩
  | _ => cases h

theorem AcceptPoint.holds_of_mayRecord (me : ThreadId) (c : ListenerId)
    (h : p.phase.mayRecord = true) :
    .turn c ∈ (Party.accept me c p).holds := by
  cases p with
  | turn | ended => cases h
  | own point => exact List.mem_cons_self ..
  | _ => exact List.mem_singleton.mpr rfl

theorem ShutPoint.Stride.acceptor {p p' : ShutPoint}
    (h : Stride d target v p v' p') : v'.acceptor c = v.acceptor c := by
  obtain ⟨f, rfl, hf⟩ := h.change
  exact Front.bind_gate_onGate fun g => (hf g).2.1

theorem Party.eq_clear_of_note (h : a.note v = some (.cleared c t)) :
    ∃ r, a = .accept t c (.clear r) := by
  cases a with
  | accept me d p =>
    cases p with
    | own q => cases ShutPoint.ofClose_note h
    | take call =>
      simp only [note, AcceptPoint.note] at h
      split at h <;> cases h
    | clear r =>
      cases h
      exact ⟨r, rfl⟩
    | _ => cases h
  | close d q => cases ShutPoint.ofClose_note h
  | interrupt u q =>
    cases q with
    | shut d q => cases ShutPoint.ofClose_note h
    | _ => cases h

theorem AcceptPoint.Stride.acceptor (h : Stride me c v p v' p') :
    (p = .store ∧ p' = .take .look ∧ v'.acceptor c = (v.gate c).map fun _ => me) ∨
      (∃ a, p = .clear a ∧ p' = .exit a ∧ v'.acceptor c = none) ∨
      v'.acceptor c = v.acceptor c ∧ ∀ a, p ≠ .clear a := by
  cases h with
  | store =>
    refine .inl ⟨rfl, rfl, ?_⟩
    cases hg : v.gate c <;> simp [Front.acceptor, hg]
  | clear a =>
    refine .inr (.inl ⟨a, rfl, rfl, ?_⟩)
    cases hg : v.gate c <;> simp [Front.acceptor, hg]
  | own h => exact .inr (.inr ⟨h.acceptor, by rintro a ⟨⟩⟩)
  | take | leave | mine =>
    refine .inr (.inr ⟨?_, by rintro a ⟨⟩⟩)
    exact Front.bind_gate_onGate fun _ => rfl
  | work h h' =>
    refine .inr (.inr ⟨rfl, ?_⟩)
    rintro a rfl
    cases h
  | _ => exact .inr (.inr ⟨rfl, by rintro a ⟨⟩⟩)

theorem Party.Stride.acceptor (h : Stride v a v' b) (c : ListenerId) :
    (∃ me, a = .accept me c .store ∧ b = .accept me c (.take .look) ∧
        v'.acceptor c = (v.gate c).map fun _ => me) ∨
      (∃ me r, a = .accept me c (.clear r) ∧ b = .accept me c (.exit r) ∧
        v'.acceptor c = none) ∨
      v'.acceptor c = v.acceptor c ∧ ∀ me r, a ≠ .accept me c (.clear r) := by
  rcases h.on_channel c with ⟨target, p, p', ha, -, hstride⟩ |
    ⟨me, p, p', rfl, rfl, -, hstride⟩ | ⟨hgate, -, haccept⟩
  · refine .inr (.inr ⟨hstride.acceptor, ?_⟩)
    rintro me r rfl
    cases ha
  · rcases hstride.acceptor with ⟨rfl, rfl, hstore⟩ | ⟨r, rfl, rfl, hclear⟩ |
      ⟨hsame, hp⟩
    · exact .inl ⟨me, rfl, rfl, hstore⟩
    · exact .inr (.inl ⟨me, r, rfl, rfl, hclear⟩)
    · refine .inr (.inr ⟨hsame, ?_⟩)
      rintro me r ⟨⟩
      exact hp r rfl
  · refine .inr (.inr ⟨congrArg (Option.bind · Gate.acceptor) hgate, ?_⟩)
    rintro me r rfl
    obtain ⟨q, hq⟩ := haccept me _ rfl
    cases hq

theorem ClosePoint.Turn.of_signal {w w' : Scene} {p p' : ClosePoint}
    (h : Turn c w p w' p') (hp' : p' = .signal t closing) :
    w' = w ∧ ∃ released, p = .sample released ∧
      ∃ g, w.front.gate c = some g ∧ g.acceptor = some t := by
  have hcancelling (outcome : IoResult) (ks : List KeyId) :
      cancelling outcome ks ≠ .signal t closing := by
    cases ks <;> simp [cancelling]
  cases h with
  | sample released _ _ hg hacceptor =>
    cases hp'
    exact ⟨rfl, released, rfl, _, hg, hacceptor⟩
  | sweep | cancelled => exact absurd hp' (hcancelling _ _)
  | _ => cases hp'

/-- A close comes to signal the thread that it finds on the channel. -/
theorem Party.Stride.sampled (h : Stride v a v' b)
    (hb : b.Closes c target (.rest (.signal t closing))) :
    v' = v ∧ v.acceptor c = some t ∧ a.note v = some (.sampled c t) := by
  rcases h.closes hb with ⟨p, ha, hstride⟩ | ⟨h, -⟩
  · cases hstride with
    | flip hg hopen hp' => cases target <;> cases hp'
    | rest hw hpoint turn =>
      subst hw
      obtain ⟨rfl, released, rfl, g, hg, hacceptor⟩ := turn.of_signal rfl
      have hsampled := (congrArg (Option.bind · Gate.acceptor) hg).trans hacceptor
      refine ⟨rfl, hsampled, ?_⟩
      rw [ha.note]
      exact congrArg (Option.map (Note.sampled c)) hsampled
  · cases h

end Strides

/-! ## Encounters -/

namespace Position

variable {x : Position} {i j : Nat} {a b : Party} {v : Front} {c : ListenerId} {t : ThreadId}

/-- The thread wrote itself down in an accept on the channel, and has not taken itself off. -/
def Attends (x : Position) (c : ListenerId) (t : ThreadId) : Prop :=
  x.front.acceptor c = some t ∧ x.Within Phase.isRecorded t c

/-- Somebody took the thread off the channel since the close at a place found it there. -/
def Gone (x : Position) (i : Nat) (c : ListenerId) (t : ThreadId) : Prop :=
  ∃ k, (k, .cleared c t) ∈ since (i, .sampled c t) x.log

/-- What is known of threads that are written down, and of those that a close is about to signal. -/
structure Attended (x : Position) (c : ListenerId) : Prop where
  flipped : x.Flipped
  attends : ∀ t, x.front.acceptor c = some t → x.Attends c t
  signals : ∀ ⦃i : Nat⦄ ⦃a : Party⦄ ⦃target : Option ThreadId⦄ ⦃t : ThreadId⦄
    ⦃closing : Event × IoResult⦄, x.parties[i]? = some a →
    a.Closes c target (.rest (.signal t closing)) →
    x.front.acceptor c = some t ∧ ¬ x.Gone i c t ∨
      x.front.acceptor c = none ∧ x.Gone i c t ∧
      ∀ (j : Nat) (me : ThreadId) (p : AcceptPoint),
        x.parties[j]? = some (.accept me c p) → p.phase.mayRecord = false

/-- Of two accepts that may write a thread down, or have, only one has the turn. -/
theorem Exclusive.accept (hx : x.Exclusive) {me me' : ThreadId} {p p' : AcceptPoint}
    (hi : x.parties[i]? = some (.accept me c p)) (hp : p.phase.mayRecord = true)
    (hj : x.parties[j]? = some (.accept me' c p')) (hp' : p'.phase.mayRecord = true) : i = j :=
  hx hi hj (AcceptPoint.holds_of_mayRecord me c hp) (AcceptPoint.holds_of_mayRecord me' c hp')

theorem attends_moved (h : x.Access i a b v)
    (hx : ∀ t, x.front.acceptor c = some t → x.Attends c t)
    (ht : v.acceptor c = some t) : (x.moved i a b v).Attends c t := by
  refine ⟨ht, ?_⟩
  rcases h.stride.acceptor c with ⟨me, -, rfl, hstore⟩ | ⟨me, r, -, -, hclear⟩ |
    ⟨hsame, hnot⟩
  · rw [hstore] at ht
    obtain ⟨g, -, rfl⟩ := Option.map_eq_some_iff.mp ht
    exact ⟨i, _, h.place_moved, rfl⟩
  · cases hclear.symm.trans ht
  · refine (hx t (hsame.symm.trans ht)).2.moved Phase.Next.isRecorded h fun p ha hphase => ?_
    obtain ⟨r, rfl⟩ := AcceptPoint.eq_clear hphase
    exact hnot t r ha

/-- Whoever else moves, what was noted since the close found the thread only grows. -/
theorem gone_moved (hji : j ≠ i) :
    (x.moved i a b v).Gone j c t ↔ x.Gone j c t ∨ a.note x.front = some (.cleared c t) := by
  cases hnote : a.note x.front with
  | none => simp [Gone, moved, hnote]
  | some n =>
    have hne : (i, n) ≠ (j, .sampled c t) := fun h => hji (congrArg Prod.fst h).symm
    have hsince : since (j, .sampled c t) (x.moved i a b v).log =
        (i, n) :: since (j, .sampled c t) x.log := by
      simp only [moved, hnote, Option.map_some, Option.toList_some, since_concat_of_ne hne]
    simp only [Gone, hsince, List.mem_cons, Prod.mk.injEq, exists_or, exists_eq_left,
      Option.some.injEq]
    rw [or_comm, eq_comm]

theorem Attended.moved (hx : x.Attended c) (hexclusive : x.Exclusive) (h : x.Access i a b v) :
    (x.moved i a b v).Attended c := by
  refine ⟨hx.flipped.moved h, fun t => attends_moved h hx.attends, ?_⟩
  intro j d target t closing hj hd
  rcases cases_moved hj with ⟨rfl, rfl⟩ | ⟨hji, hj⟩
  · -- the close has just found the thread
    obtain ⟨rfl, hacceptor, hnote⟩ := h.stride.sampled hd
    refine .inl ⟨hacceptor, ?_⟩
    rintro ⟨k, hk⟩
    simp only [moved, hnote, Option.map_some, Option.toList_some, since_concat_self] at hk
    cases hk
  rw [gone_moved hji]
  have hclosed : x.front.isOpen c = false := hx.flipped hj hd (by rintro ⟨⟩)
  rcases hx.signals hj hd with ⟨hacceptor, hgone⟩ | ⟨hacceptor, hgone, hnobody⟩
  · obtain ⟨-, k, p, hk, hrecorded⟩ := hx.attends t hacceptor
    have hp := Phase.mayRecord_of_isRecorded hrecorded
    rcases h.stride.acceptor c with ⟨me, rfl, -, -⟩ | ⟨me, r, rfl, rfl, hclear⟩ |
      ⟨hsame, hnot⟩
    · cases hexclusive.accept hk hp h.place rfl
      cases hk.symm.trans h.place
      cases hrecorded
    · -- the accept of the thread takes it off, and nobody else has the turn
      cases hexclusive.accept hk hp h.place rfl
      cases hk.symm.trans h.place
      refine .inr ⟨hclear, .inr rfl, fun l me p hl => ?_⟩
      rcases cases_moved hl with ⟨rfl, hb⟩ | ⟨hli, hl⟩
      · cases hb
        rfl
      · rw [← Bool.not_eq_true]
        exact fun hp => hli (hexclusive.accept hl hp h.place rfl)
    · refine .inl ⟨hsame.trans hacceptor, ?_⟩
      rintro (hgone' | hnote)
      · exact hgone hgone'
      · obtain ⟨r, ha⟩ := Party.eq_clear_of_note hnote
        exact hnot t r ha
  · rcases h.stride.acceptor c with ⟨me, rfl, -, -⟩ | ⟨me, r, rfl, -, -⟩ | ⟨hsame, -⟩
    · cases hnobody i me _ h.place
    · cases hnobody i me _ h.place
    · refine .inr ⟨hsame.trans hacceptor, .inl hgone, fun k me p hk => ?_⟩
      rcases cases_moved hk with ⟨rfl, rfl⟩ | ⟨-, hk⟩
      · rw [← Bool.not_eq_true]
        intro hp
        cases hstride : h.stride with
        | accept hstep =>
          rcases hstep.phases.mayRecord hp with hbefore | hopen
          · cases (hnobody k me _ h.place).symm.trans hbefore
          · cases hclosed.symm.trans hopen
      · exact hnobody k me p hk

end Position

namespace Encounter

variable {e : Encounter} {c : ListenerId}

theorem attended_start (hnew : ∀ a ∈ e.parties, a.isNew = true)
    (hnobody : e.station.front.acceptor c = none) : e.position.Attended c where
  flipped := flipped_start hnew
  attends t ht := by cases hnobody.symm.trans ht
  signals i a target t closing ha hcloses := by
    cases hcloses.eq_flip (hnew a (List.mem_of_getElem? ha))

theorem attended_after (hnew : ∀ a ∈ e.parties, a.isNew = true)
    (hnobody : e.station.front.acceptor c = none) (beats : List Beat) :
    (e.after beats).position.Attended c :=
  kept (I := fun x => x.Attended c) hnew (attended_start hnew hnobody)
    (fun hexclusive h hx => hx.moved hexclusive h) beats

/-- A close that is about to signal a thread finds it in its accept, written down on the channel,
exactly if the thread was not taken off since the close found it there. -/
theorem signalled_within_accept_iff {st : Station} {parties : List Party}
    (hnew : ∀ a ∈ parties, a.isNew = true) (hnobody : st.front.acceptor c = none)
    (beats : List Beat) {i : Nat} {a : Party} {target : Option ThreadId} {t : ThreadId}
    {closing : Event × Except IoError Unit}
    (hi : ((⟨st, parties, []⟩ : Encounter).after beats).parties[i]? = some a)
    (hcloses : a.Closes c target (.rest (.signal t closing))) :
    ((⟨st, parties, []⟩ : Encounter).after beats).position.Attends c t ↔
      ¬ ((⟨st, parties, []⟩ : Encounter).after beats).position.Gone i c t := by
  have hattended := attended_after (e := ⟨st, parties, []⟩) hnew hnobody beats
  rcases hattended.signals hi hcloses with ⟨hacceptor, hgone⟩ | ⟨hacceptor, hgone, -⟩
  · exact iff_of_true (hattended.attends t hacceptor) hgone
  · refine iff_of_false ?_ (not_not.mpr hgone)
    rintro ⟨ht, -⟩
    cases hacceptor.symm.trans ht

/-- The accept waits in its call, the close finds its thread and shuts the socket down, and the
accept runs to its end before the close goes on. -/
def lateSignal : List Beat :=
  List.replicate 12 (.access 0 false) ++ List.replicate 5 (.access 1 false) ++
    List.replicate 12 (.access 0 false)

theorem signalled_after_accept :
    ∃ e closing, e = acceptAndClose.after lateSignal ∧
      e.parties[1]? = some (.close 0 (.rest (.signal 7 closing))) ∧ e.isOver 0 = true ∧
      ¬ e.position.Attends 0 7 := by
  obtain ⟨closing, hsignal⟩ : ∃ closing, (acceptAndClose.after lateSignal).parties[1]? =
      some (.close 0 (.rest (.signal 7 closing))) := ⟨_, rfl⟩
  have hgone : (acceptAndClose.after lateSignal).position.Gone 1 0 7 := ⟨0, by decide +kernel⟩
  refine ⟨_, closing, rfl, hsignal, by decide +kernel, fun hattends => ?_⟩
  exact (signalled_within_accept_iff (by decide) rfl lateSignal hsignal (.close _)).mp
    hattends hgone

end Encounter
end PolledChannels
