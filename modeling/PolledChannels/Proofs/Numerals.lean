import PolledChannels.Address.Text

/-!
# Numerals

A numeral is one digit, or a numeral of a positive number and a digit after it. So its digits have
values, they give the number, and only the numeral of zero begins with a zero.
-/

namespace PolledChannels.Text

/-- The digits below the radix have their values. -/
def Values (value? : Char → Option Nat) (radix : Nat) : Prop :=
  ∀ d < radix, value? d.digitChar = some d

theorem values_digit : Values digitValue? 10 := by
  unfold Values
  decide

theorem values_hex : Values hexValue? 16 := by
  unfold Values
  decide

/-- The digits write the number, without leading zeros. -/
inductive Numeral (radix : Nat) : Nat → List Char → Prop where
  | digit {d : Nat} (hd : d < radix) : Numeral radix d [d.digitChar]
  | append {n d : Nat} {digits : List Char} (h : Numeral radix n digits) (hn : 0 < n)
    (hd : d < radix) :
    Numeral radix (n * radix + d) (digits ++ [d.digitChar])

theorem numeral_toDigits {radix : Nat} (hradix : 1 < radix) (n : Nat) :
    Numeral radix n (Nat.toDigits radix n) := by
  induction n using Nat.strongRecOn with
  | ind n ih =>
    by_cases hn : n < radix
    · rw [Nat.toDigits_of_lt_base hn]
      exact .digit hn
    · have hle := Nat.le_of_not_lt hn
      have hlead := ih (n / radix) (Nat.div_lt_self (by omega) hradix)
      have hlast := hlead.append (Nat.div_pos hle (by omega)) (Nat.mod_lt n (by omega))
      rwa [Nat.div_add_mod', ← Nat.toDigits_of_base_le hradix hle] at hlast

section Numerals

variable {value? : Char → Option Nat} {radix n : Nat} {digits : List Char}

theorem Numeral.ne_nil (h : Numeral radix n digits) : digits ≠ [] := by
  cases h <;> simp

theorem Numeral.isSome (h : Numeral radix n digits) (hvalue : Values value? radix) :
    ∀ c ∈ digits, (value? c).isSome = true := by
  induction h with
  | digit hd => simp [hvalue _ hd]
  | append _ _ hd ih => simpa [hvalue _ hd, or_imp, forall_and] using ih

theorem Numeral.digitsValue (h : Numeral radix n digits) (hvalue : Values value? radix) :
    Address.digitsValue value? radix digits = n := by
  unfold Address.digitsValue
  induction h with
  | digit hd => simp [hvalue _ hd]
  | append _ _ hd ih => simp [ih, hvalue _ hd]

theorem Numeral.head?_of_pos (h : Numeral radix n digits) (hvalue : Values value? radix)
    (hn : 0 < n) : digits.head? ≠ some '0' := by
  induction h with
  | digit hd =>
    intro hzero
    have hnone := hvalue 0 (by omega)
    rw [show Nat.digitChar 0 = '0' from rfl, ← Option.some.inj hzero, hvalue _ hd] at hnone
    exact Nat.ne_of_gt hn (Option.some.inj hnone)
  | append h hlead _ ih =>
    rw [List.head?_append, Option.or_of_isSome (by simpa using h.ne_nil)]
    exact ih hlead

/-- Only the numeral of zero begins with a zero. -/
theorem Numeral.head?_of_long (h : Numeral radix n digits) (hvalue : Values value? radix)
    (hlong : 1 < digits.length) : digits.head? ≠ some '0' := by
  refine h.head?_of_pos hvalue ?_
  cases h with
  | digit => simp at hlong
  | append _ hn hd => exact Nat.add_pos_left (Nat.mul_pos hn (Nat.zero_lt_of_lt hd)) _

end Numerals

end PolledChannels.Text
