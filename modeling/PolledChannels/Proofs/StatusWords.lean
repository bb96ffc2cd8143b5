import PolledChannels.Status

/-!
# Statuses and their words

Words from the last sentinel upwards stand for one status each, and no two of them for the same. A
status has a word of its own unless it counts 2^31 or more: such a count wraps to a negative word,
which stands for a sentinel or for nothing. The words that a primitive may hand out are those of
counts and of the two sentinels that ask for another try, and these normalize to a count.
-/

namespace PolledChannels.Status

variable {n : Int32} {s : Status}

def sentinels : List Status :=
  [endOfStream, unavailable, interrupted, unsupported, thrown, unsupportedCase]

/-- What the status counts; a sentinel counts nothing. -/
def counted : Status → Nat
  | progress count => count.toNat
  | _ => 0

/-- The status is a count or asks for another try. -/
def mayBeLeft : Status → Bool
  | progress _ | unavailable | interrupted => true
  | _ => false

theorem ofRaw?_cases (n : Int32) :
    0 ≤ n ∧ ofRaw? n = some (progress n.toUInt32) ∨
      (∃ s ∈ sentinels, s.toRaw = n ∧ ofRaw? n = some s) ∨
      n < rawUnsupportedCase ∧ ofRaw? n = none := by
  fun_cases ofRaw? n with
  | case7 _ _ _ _ _ _ hn => exact .inl ⟨hn, rfl⟩
  | case8 h1 h2 h3 h4 h5 h6 hn =>
    refine .inr (.inr ⟨?_, rfl⟩)
    have hwords : rawEndOfStream.toInt = -1 ∧ rawUnavailable.toInt = -2 ∧
        rawInterrupted.toInt = -3 ∧
        rawUnsupported.toInt = -4 ∧ rawThrown.toInt = -5 ∧ rawUnsupportedCase.toInt = -6 ∧
        (0 : Int32).toInt = 0 := by decide
    simp only [← Int32.toInt_inj, Int32.le_iff_toInt_le, Int32.lt_iff_toInt_lt] at *
    omega
  | _ => exact .inr (.inl ⟨_, by decide, .symm ‹_›, rfl⟩)

theorem toRaw_of_ofRaw? (h : ofRaw? n = some s) : s.toRaw = n := by
  rcases ofRaw?_cases n with ⟨-, hread⟩ | ⟨s', -, hword, hread⟩ |
    ⟨-, hread⟩ <;> cases hread.symm.trans h
  · exact Int32.toInt32_toUInt32 n
  · exact hword

/-- What holds of every sentinel. -/
theorem word_of_sentinel (hs : s ∈ sentinels) :
    rawUnsupportedCase ≤ s.toRaw ∧ s.toRaw < 0 ∧ ofRaw? s.toRaw = some s ∧
      check s.toRaw = s.mayBeLeft ∧
      (s.mayBeLeft = true → normalize s.toRaw = 0 ∧ s.counted = 0) := by
  revert s
  decide

theorem ofRaw?_eq_none_iff : ofRaw? n = none ↔ n < rawUnsupportedCase := by
  have hneg : rawUnsupportedCase ≤ 0 := by decide
  rcases ofRaw?_cases n with ⟨hn, hread⟩ | ⟨s, hs, rfl, hread⟩ |
    ⟨hn, hread⟩ <;> rw [hread]
  · simpa using Int32.le_trans hneg hn
  · simpa using (word_of_sentinel hs).1
  · simpa using hn

/-- A count of 2^31 or more wraps to a negative word. -/
theorem nonneg_toInt32_iff (k : UInt32) : 0 ≤ k.toInt32 ↔ ¬ 2147483648 ≤ k := by
  have hk := k.toNat_lt
  have hword : k.toInt32.toInt = k.toBitVec.toInt := rfl
  rw [Int32.le_iff_toInt_le, UInt32.le_iff_toNat_le, hword, BitVec.toInt_eq_toNat_cond,
    UInt32.toNat_toBitVec]
  split <;> simp <;> omega

theorem ofRaw?_toRaw_iff (s : Status) :
    ofRaw? s.toRaw = some s ↔ ¬ ∃ k, s = progress k ∧ 2147483648 ≤ k := by
  cases s with
  | progress k =>
    have hneg : rawUnsupportedCase ≤ 0 := by decide
    simp only [progress.injEq, exists_eq_left', ← nonneg_toInt32_iff, toRaw]
    rcases ofRaw?_cases k.toInt32 with ⟨hn, hread⟩ | ⟨s, hs, hword, hread⟩ |
      ⟨hn, hread⟩ <;> rw [hread]
    · simpa using hn
    · rw [← hword]
      refine iff_of_false (fun h => ?_) (Int32.not_le.mpr (word_of_sentinel hs).2.1)
      cases h
      simp [sentinels] at hs
    · simpa using Int32.lt_of_lt_of_le hn hneg
  | _ => exact iff_of_true (by decide) (by rintro ⟨k, ⟨⟩, -⟩)

theorem toInt_of_nonneg (hn : 0 ≤ n) : n.toInt = n.toUInt32.toNat := by
  rw [Int32.toNat_toUInt32_of_le hn, Int32.toInt_eq_toNatClampNeg hn]

theorem check_iff (n : Int32) : check n = true ↔ ∃ s, ofRaw? n = some s ∧
    s.mayBeLeft = true := by
  rcases ofRaw?_cases n with ⟨hn, hread⟩ | ⟨s, hs, rfl, hread⟩ |
    ⟨hn, hread⟩ <;> rw [hread]
  · exact iff_of_true (by simp only [check, hn, decide_true, Bool.true_or]) ⟨_, rfl, rfl⟩
  · rw [(word_of_sentinel hs).2.2.2.1]
    exact ⟨fun h => ⟨s, rfl, h⟩, fun ⟨_, hsame, h⟩ => Option.some.inj hsame ▸ h⟩
  · refine iff_of_false (fun h => ?_) (by simp)
    simp only [check, Bool.or_eq_true, decide_eq_true_eq, beq_iff_eq] at h
    rcases h with (h | rfl) | rfl
    · exact absurd (Int32.lt_of_le_of_lt h hn) (by decide)
    all_goals exact absurd hn (by decide)

theorem normalize_of_check (h : check n = true) :
    ∃ s, ofRaw? n = some s ∧ (normalize n).toInt = s.counted := by
  rcases ofRaw?_cases n with ⟨hn, hread⟩ | ⟨s, hs, rfl, hread⟩ | ⟨hn, hread⟩
  · have hcount : ¬ (n = rawUnavailable ∨ n = rawInterrupted) := by
      rintro (rfl | rfl) <;> exact absurd hn (by decide)
    exact ⟨_, hread, by rw [normalize, if_neg hcount, toInt_of_nonneg hn, counted]⟩
  · obtain ⟨-, -, -, hcheck, hnone⟩ := word_of_sentinel hs
    obtain ⟨hword, hcounted⟩ := hnone (hcheck ▸ h)
    exact ⟨s, hread, by rw [hword, hcounted]; rfl⟩
  · obtain ⟨s, hs, -⟩ := (check_iff n).mp h
    cases hread.symm.trans hs

/-- A word is read as the status it is the word of, and as nothing exactly below the last
sentinel. A status is read back from its word unless it counts 2^31 or more. The words that may be
left to a caller are those of counts and of the two sentinels that ask for another try; they
normalize to what is counted. -/
theorem words_denote_statuses :
    (∀ n s, ofRaw? n = some s → s.toRaw = n) ∧
      (∀ n, ofRaw? n = none ↔ n < -6) ∧
      (∀ s, ofRaw? s.toRaw = some s ↔ ¬ ∃ k, s = progress k ∧ 2147483648 ≤ k) ∧
      ∀ n, (check n = true ↔ ∃ s, ofRaw? n = some s ∧ s.mayBeLeft = true) ∧
        (check n = true → 0 ≤ normalize n ∧
          ∃ s, ofRaw? n = some s ∧ (normalize n).toInt = s.counted) := by
  refine ⟨fun n s => toRaw_of_ofRaw?, fun n => ofRaw?_eq_none_iff, ofRaw?_toRaw_iff,
    fun n => ⟨check_iff n, fun h => ?_⟩⟩
  obtain ⟨s, hread, hcounted⟩ := normalize_of_check h
  refine ⟨Int32.le_iff_toInt_le.mpr ?_, s, hread, hcounted⟩
  rw [hcounted]
  exact Int.natCast_nonneg _

end PolledChannels.Status
