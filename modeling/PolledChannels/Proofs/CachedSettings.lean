import PolledChannels.Settings.Cache

/-!
# Callers that race for a setting

Any number of calls resolve one setting at once. A race is the byte of the setting, where each call
stands, and what was parsed so far; a move starts a call or lets one call do its next access. Every
race is at a stage: nobody has claimed the byte, a call has, it has parsed a value, or it has stored
that value. A stage says where calls may stand, and a move leads to the same stage or to the next.
-/

namespace PolledChannels.Cache

/-- What a text may stand for: a byte with no other meaning. -/
abbrev Value := { word : UInt8 // word ≠ unresolved ∧ word ≠ resolving }

theorem value?_coe (v : Value) : value? v.1 = some v.1 :=
  if_neg (not_or.mpr v.2)

/-- The call claimed the byte and has not stored a value yet. -/
def Call.claims : Call → Bool
  | .parse | .store _ => true
  | _ => false

/-- How far the setting is resolved. -/
inductive Stage where
  | unclaimed
  | claimed
  | parsed (v : Value)
  | stored (v : Value)

namespace Stage

def word : Stage → UInt8
  | unclaimed => unresolved
  | claimed | parsed _ => resolving
  | stored v => v.1

def values : Stage → List UInt8
  | unclaimed | claimed => []
  | parsed v | stored v => [v.1]

/-- Where a call may stand at a stage. -/
def Admits : Stage → Call → Prop
  | _, .load | _, .claim => True
  | unclaimed, _ => False
  | claimed, .parse => True
  | parsed v, .store word | stored v, .done (some word) => word = v.1
  | _, .reload | _, .done none => True
  | _, _ => False

/-- One stage comes after the other. -/
inductive Next : Stage → Stage → Prop
  | claim : Next unclaimed claimed
  | parse (v : Value) : Next claimed (parsed v)
  | store (v : Value) : Next (parsed v) (stored v)

variable {g g' : Stage} {call : Call}

/-- A call that claims nothing may stay where it is. -/
theorem Next.admits (h : g.Next g') (hcall : g.Admits call) (hclaims : call.claims = false) :
    g'.Admits call := by
  cases h <;> rcases call with _ | _ | _ | _ | _ | _ | _ <;> simp_all [Admits, Call.claims]

theorem claims_of_unclaimed (h : unclaimed.Admits call) : call.claims = false := by
  cases call with
  | load | claim => rfl
  | _ => exact h.elim

/-- An access leaves the stage as it is, or leads to the next one. Only the call that claimed the
byte does the latter, or one that claims it. -/
theorem step_cases (h : g.Admits call) (v : Value) :
    (step v.1 g.word call).1 = g.word ∧ g.Admits (step v.1 g.word call).2 ∧
        (step v.1 g.word call).2.claims = false ∧ call ≠ .parse ∨
      ∃ g', g.Next g' ∧ (step v.1 g.word call).1 = g'.word ∧
      g'.Admits (step v.1 g.word call).2 ∧
        g'.values = (if call = .parse then g.values ++ [v.1] else g.values) ∧
        (g = unclaimed ∨ call.claims = true) := by
  cases g with
  | unclaimed =>
    cases call with
    | load => exact .inl ⟨rfl, trivial, rfl, by simp⟩
    | claim => exact .inr ⟨_, .claim, rfl, trivial, rfl, .inl rfl⟩
    | _ => exact h.elim
  | claimed =>
    rcases call with _ | _ | _ | _ | _ | _ | _
    case parse => exact .inr ⟨_, .parse v, rfl, rfl, rfl, .inr rfl⟩
    case store | done.some => exact h.elim
    all_goals exact .inl ⟨rfl, trivial, rfl, by simp⟩
  | parsed w =>
    rcases call with _ | _ | _ | _ | word | _ | _
    case store =>
      cases h
      exact .inr ⟨_, .store w, rfl, rfl, rfl, .inr rfl⟩
    case parse | done.some => exact h.elim
    all_goals exact .inl ⟨rfl, trivial, rfl, by simp⟩
  | stored w =>
    cases call with
    | parse | store => exact h.elim
    | done answer => exact .inl ⟨rfl, h, rfl, by simp⟩
    | _ => exact .inl (by simp [step, word, Admits, value?_coe w, w.2.1, Call.claims])

end Stage

/-- The byte, the calls in the order of their starts, and the values that were parsed. -/
structure Race where
  word : UInt8 := unresolved
  calls : List Call := []
  parsed : List UInt8 := []

inductive Move where
  /-- Some thread asks for the setting. -/
  | start
  /-- A call does its next access; should it parse now, its text stands for the value. -/
  | step (i : Nat) (v : Value)

namespace Race

/-- A move; one that does not apply changes nothing. -/
def play (r : Race) : Move → Race
  | .start => { r with calls := r.calls ++ [.load] }
  | .step i v =>
    match r.calls[i]? with
    | some call =>
      { word := (Cache.step v.1 r.word call).1
        calls := r.calls.set i (Cache.step v.1 r.word call).2
        parsed := if call = .parse then r.parsed ++ [v.1] else r.parsed }
    | none => r

def run (r : Race) (moves : List Move) : Race :=
  moves.foldl play r

/-- The race after the moves, from a setting that nobody asked for yet. -/
def after (moves : List Move) : Race :=
  run {} moves

theorem after_append (moves later : List Move) : after (moves ++ later) = (after moves).run later :=
  List.foldl_append

/-- The race is at the stage, and only the call at one place may have claimed the byte. -/
structure At (g : Stage) (owner : Nat) (r : Race) : Prop where
  word : r.word = g.word
  parsed : r.parsed = g.values
  fits : ∀ (j : Nat) (call : Call), r.calls[j]? = some call →
    g.Admits call ∧ (call.claims = true → j = owner)

variable {g : Stage} {owner i j : Nat} {r : Race} {call : Call} {v : Value}

theorem call_start (h : (r.play .start).calls[j]? = some call) :
    r.calls[j]? = some call ∨ call = .load := by
  rw [play, List.getElem?_append] at h
  split at h
  · exact .inl h
  · exact .inr (List.mem_singleton.mp (List.mem_of_getElem? h))

theorem call_step (hi : r.calls[i]? = some call) {call' : Call}
    (h : (r.play (.step i v)).calls[j]? = some call') :
    j = i ∧ call' = (Cache.step v.1 r.word call).2 ∨ j ≠ i ∧ r.calls[j]? = some call' := by
  obtain ⟨hlt, -⟩ := List.getElem?_eq_some_iff.mp hi
  simp only [play, hi, List.getElem?_set, hlt, if_true] at h
  split at h
  · next hsame => exact .inl ⟨hsame.symm, (Option.some.inj h).symm⟩
  · next hne => exact .inr ⟨Ne.symm hne, h⟩

theorem play_absent (hi : r.calls[i]? = none) : r.play (.step i v) = r := by
  simp only [play, hi]

/-- A move leaves the race at its stage, or leads it to the next one. -/
theorem At.play (h : At g owner r) (m : Move) :
    ∃ g' owner', (g' = g ∨ g.Next g') ∧ At g' owner' (r.play m) := by
  cases m with
  | start =>
    refine ⟨g, owner, .inl rfl, { h with fits := fun j call hj => ?_ }⟩
    rcases call_start hj with hj | rfl
    · exact h.fits j call hj
    · exact ⟨trivial, by simp [Call.claims]⟩
  | step i v =>
    cases hi : r.calls[i]? with
    | none => exact ⟨g, owner, .inl rfl, (play_absent hi).symm ▸ h⟩
    | some call =>
      have hplay : (r.play (.step i v)).word = (Cache.step v.1 r.word call).1 ∧
          (r.play (.step i v)).parsed = if call = .parse then r.parsed ++ [v.1] else r.parsed := by
        simp only [Race.play, hi, and_self]
      obtain ⟨hadmits, howner⟩ := h.fits i call hi
      have hcases := Stage.step_cases hadmits v
      rw [← h.word, ← h.parsed] at hcases
      rcases hcases with
        ⟨hword, hcall, hidle, hparse⟩ | ⟨g', hnext, hword, hcall, hvalues, hclaims⟩
      · refine ⟨g, owner, .inl rfl, (hplay.1.trans hword).trans h.word,
          (hplay.2.trans (if_neg hparse)).trans h.parsed, fun j call' hj => ?_⟩
        rcases call_step hi hj with ⟨-, rfl⟩ | ⟨-, hj⟩
        · exact ⟨hcall, by simp [hidle]⟩
        · exact h.fits j call' hj
      · refine ⟨g', i, .inr hnext, hplay.1.trans hword, hplay.2.trans hvalues.symm,
          fun j call' hj => ?_⟩
        rcases call_step hi hj with ⟨hsame, rfl⟩ | ⟨hne, hj⟩
        · exact ⟨hcall, fun _ => hsame⟩
        · obtain ⟨hadmits', howner'⟩ := h.fits j call' hj
          have hother : call'.claims = false := by
            rcases hclaims with rfl | hclaims
            · exact Stage.claims_of_unclaimed hadmits'
            · rw [← Bool.not_eq_true]
              exact fun hclaims' => hne ((howner' hclaims').trans (howner hclaims).symm)
          exact ⟨hnext.admits hadmits' hother, by simp [hother]⟩

theorem At.run (h : At g owner r) (moves : List Move) :
    ∃ g' owner', At g' owner' (r.run moves) := by
  induction moves generalizing g owner r with
  | nil => exact ⟨g, owner, h⟩
  | cons m moves ih =>
    obtain ⟨g', owner', -, h'⟩ := h.play m
    exact ih h'

/-- The call gets the value at its first access, or got it. -/
def Gets (v : Value) (call : Call) : Prop :=
  call = .load ∨ call = .done (some v.1)

theorem Gets.step (h : Gets v call) (w : UInt8) : (Cache.step w v.1 call).2 = .done (some v.1) := by
  rcases h with rfl | rfl <;> simp [Cache.step, v.2.1, value?_coe]

/-- Where a value is stored it stays, and the calls from a place on get it. -/
theorem At.run_stored {n : Nat} (h : At (.stored v) owner r)
    (hgets : ∀ i call, n ≤ i → r.calls[i]? = some call → Gets v call) (moves : List Move) :
    (r.run moves).word = v.1 ∧
      ∀ i call, n ≤ i → (r.run moves).calls[i]? = some call → Gets v call := by
  induction moves generalizing owner r with
  | nil => exact ⟨h.word, hgets⟩
  | cons m moves ih =>
    obtain ⟨g', owner', rfl | hnext, h'⟩ := h.play m
    · refine ih h' fun j call' hj hcall => ?_
      cases m with
      | start =>
        rcases call_start hcall with hcall | rfl
        · exact hgets j call' hj hcall
        · exact .inl rfl
      | step i w =>
        cases hi : r.calls[i]? with
        | none => exact hgets j call' hj (play_absent hi ▸ hcall)
        | some call =>
          rcases call_step hi hcall with ⟨rfl, rfl⟩ | ⟨-, hcall⟩
          · rw [h.word]
            exact .inr ((hgets j call hj hi).step w.1)
          · exact hgets j call' hj hcall
    · cases hnext

/-- Whatever calls ask for a setting, and in whatever order they make their accesses: at most one
value is parsed, and it is the answer of every call that has one; the byte is claimed once, then
takes that value and never changes again; and a call that starts after another was answered is
answered by its first access. -/
theorem settings_resolved_once (moves : List Move) :
    (after moves).parsed.length ≤ 1 ∧
      (∀ v, .done (some v) ∈ (after moves).calls → (after moves).parsed = [v]) ∧
      (∀ m, ((after moves).play m).word = (after moves).word ∨
        (after moves).word = unresolved ∧ ((after moves).play m).word = resolving ∨
        (after moves).word = resolving ∧ (after moves).parsed = [((after moves).play m).word]) ∧
      ∀ v, .done (some v) ∈ (after moves).calls → ∀ later : List Move,
        (after (moves ++ later)).word = v ∧
        ∀ i w, (after moves).calls.length ≤ i → i < (after (moves ++ later)).calls.length →
          ((after (moves ++ later)).play (.step i w)).calls[i]? = some (.done (some v)) := by
  obtain ⟨g, owner, h⟩ := (show At .unclaimed 0 {} from ⟨rfl, rfl, by simp⟩).run moves
  change At g owner (after moves) at h
  have hstored {v : UInt8} (hv : .done (some v) ∈ (after moves).calls) :
      ∃ w : Value, g = .stored w ∧ w.1 = v := by
    obtain ⟨i, hi⟩ := List.getElem?_of_mem hv
    have hadmits := (h.fits i _ hi).1
    cases g with
    | stored w => exact ⟨w, rfl, hadmits.symm⟩
    | _ => exact hadmits.elim
  refine ⟨?_, fun v hv => ?_, fun m => ?_, fun v hv later => ?_⟩
  · rw [h.parsed]
    cases g <;> simp [Stage.values]
  · obtain ⟨w, rfl, rfl⟩ := hstored hv
    exact h.parsed
  · obtain ⟨g', owner', rfl | hnext, h'⟩ := h.play m
    · exact .inl (h'.word.trans h.word.symm)
    · rw [h.word, h'.word, h.parsed]
      cases hnext with
      | claim => exact .inr (.inl ⟨rfl, rfl⟩)
      | parse v => exact .inl rfl
      | store v => exact .inr (.inr ⟨rfl, rfl⟩)
  · obtain ⟨v, rfl, rfl⟩ := hstored hv
    rw [after_append]
    obtain ⟨hword, hgets⟩ := h.run_stored (fun i call hi hcall => by
      cases (List.getElem?_eq_none hi).symm.trans hcall) later
    refine ⟨hword, fun i w hi hlt => ?_⟩
    have hcall := List.getElem?_eq_getElem hlt
    simp only [play, hcall, List.getElem?_set_self hlt, hword, (hgets i _ hi hcall).step]

-- The first call parses 3 and stores it; the second finds it at work and goes without a value; the
-- third starts later and gets 3, whatever its own text stands for.
example :
    let v : Value := ⟨3, by decide⟩
    let w : Value := ⟨1, by decide⟩
    after [.start, .start, .step 0 v, .step 0 v, .step 1 w, .step 0 v, .step 0 v, .start,
        .step 2 w] =
      { word := 3, calls := [.done (some 3), .done none, .done (some 3)], parsed := [3] } :=
  rfl

end Race
end PolledChannels.Cache
