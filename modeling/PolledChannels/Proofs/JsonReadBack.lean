import PolledChannels.Json.Writer
import PolledChannels.Proofs.JsonValues

/-!
# What is written is read back

A value is written without blanks and read from the front. A string gives back its
characters, however they were escaped; an integer gives back its digits as long as no other
digit, point or exponent follows; containers give back their items and members, the latter in
the order of their keys.

A proper value without doubles is read back as it was, if it is not nested too deeply. An object
whose members stand in any order is read back with its members in order.
-/

namespace PolledChannels.Json

variable {n fuel d : Nat} {c : Char} {cs rest ds : List Char} {v : Json} {positive : Bool}

/-! ## Strings -/

theorem hexValue_digitChar : ∀ n < 16, Text.hexValue? (Nat.digitChar n) = some n := by decide

theorem utf8Size_digitChar : ∀ n < 16, (Nat.digitChar n).utf8Size = 1 := by decide

theorem fourHex_small (h : n < 256) (rest : List Char) :
    fourHex ('0' :: '0' :: Nat.digitChar (n / 16) :: Nat.digitChar (n % 16) :: rest) =
      .ok (n, rest) := by
  have hhigh : n / 16 < 16 := by omega
  have hlow : n % 16 < 16 := by omega
  have hvalue : n / 16 * 16 + n % 16 = n := by omega
  have hzero : Text.hexValue? '0' = some 0 := by decide
  have hsize : '0'.utf8Size = 1 := by decide
  simp [fourHex, byteSize, utf8Size_digitChar _ hhigh, utf8Size_digitChar _ hlow, hsize,
    hexValue_digitChar _ hhigh, hexValue_digitChar _ hlow, hzero, hvalue]

theorem numbered_control (h : c.toNat < 32) (rest : List Char) :
    numbered ('0' :: '0' :: Nat.digitChar (c.toNat / 16) :: Nat.digitChar (c.toNat % 16) :: rest) =
      .ok (c, rest) := by
  have hhalves : ¬ (0xDC00 ≤ c.toNat ∧ c.toNat ≤ 0xDFFF) ∧
      ¬ (0xD800 ≤ c.toNat ∧ c.toNat ≤ 0xDBFF) := by
    omega
  have hsmall : c.toNat < 256 := by omega
  simp only [numbered, fourHex_small hsmall, if_neg hhalves.1, if_neg hhalves.2, Char.ofNat_toNat]

theorem stringRest_escape (h : escape cs = .ok (c, rest)) (fuel : Nat) (taken : List Char) :
    stringRest (fuel + 1) taken ('\\' :: cs) = stringRest fuel (c :: taken) rest := by
  simp [stringRest, h]

theorem eq_ofNat_of_toNat (h : c.toNat = n) : Char.ofNat n = c := by
  rw [← h, Char.ofNat_toNat]

theorem stringRest_escapedChar (c : Char) (fuel : Nat) (taken cs : List Char) :
    stringRest (fuel + 1) taken (escapedChar c ++ cs) = stringRest fuel (c :: taken) cs := by
  simp only [escapedChar]
  iterate 5
    split
    · next h => exact stringRest_escape (by simp [escape, h]) fuel taken
  split
  · next h => exact stringRest_escape (by simpa [escape] using eq_ofNat_of_toNat h) fuel taken
  split
  · next h => exact stringRest_escape (by simpa [escape] using eq_ofNat_of_toNat h) fuel taken
  split
  · next h => exact stringRest_escape (by simp [escape, numbered_control h]) fuel taken
  · next hquote hslash _ _ _ _ _ hcontrol => simp [stringRest, hquote, hslash, hcontrol]

theorem length_le_escaped (cs : List Char) : cs.length ≤ (cs.flatMap escapedChar).length := by
  induction cs with
  | nil => simp
  | cons c cs ih =>
    have hone : 1 ≤ (escapedChar c).length := by
      simp only [escapedChar]
      repeat' split
      all_goals simp
    simp only [List.flatMap_cons, List.length_append, List.length_cons]
    omega

theorem stringRest_escaped (h : cs.length < fuel) (taken rest : List Char) :
    stringRest fuel taken (cs.flatMap escapedChar ++ '"' :: rest) =
      .ok (String.ofList (taken.reverse ++ cs), rest) := by
  induction cs generalizing fuel taken with
  | nil =>
    obtain ⟨fuel, rfl⟩ : ∃ m, fuel = m + 1 := Nat.exists_eq_add_one.mpr h
    simp [stringRest]
  | cons c cs ih =>
    obtain ⟨fuel, rfl⟩ : ∃ m, fuel = m + 1 := Nat.exists_eq_add_one.mpr (by omega)
    have hmore : cs.length < fuel := by simpa using h
    rw [List.flatMap_cons, List.append_assoc, stringRest_escapedChar, ih hmore]
    simp

theorem stringBody_escaped (s : String) (rest : List Char) :
    stringBody (s.toList.flatMap escapedChar ++ '"' :: rest) = .ok (s, rest) := by
  have hfuel : s.toList.length < (s.toList.flatMap escapedChar ++ '"' :: rest).length + 1 := by
    have := length_le_escaped s.toList
    simp only [List.length_append]
    omega
  rw [stringBody, stringRest_escaped hfuel, List.reverse_nil, List.nil_append, String.ofList_toList]

/-! ## Numbers -/

/-- What may follow a value: nothing, a comma or a closing bracket. -/
def Ends (rest : List Char) : Prop := ∀ c ∈ rest.head?, c = ',' ∨ c = ']' ∨ c = '\x7d'

theorem ends_comma (cs : List Char) : Ends (',' :: cs) := by simp [Ends]

theorem ends_bracket (cs : List Char) : Ends (']' :: cs) := by simp [Ends]

theorem ends_brace (cs : List Char) : Ends ('\x7d' :: cs) := by simp [Ends]

/-- What ends a value starts neither another digit nor a fraction nor an exponent. -/
theorem Ends.cases (h : Ends rest) :
    rest = [] ∨ ∃ cs, rest = ',' :: cs ∨ rest = ']' :: cs ∨ rest = '\x7d' :: cs := by
  cases rest with
  | nil => exact .inl rfl
  | cons c cs =>
    rcases h c rfl with rfl | rfl | rfl
    · exact .inr ⟨cs, .inl rfl⟩
    · exact .inr ⟨cs, .inr (.inl rfl)⟩
    · exact .inr ⟨cs, .inr (.inr rfl)⟩

theorem Ends.no_digit (h : Ends rest) : startsWithDigit rest = false := by
  rcases h.cases with rfl | ⟨cs, rfl | rfl | rfl⟩ <;> rfl

theorem afterInteger_ends {digits : Nat} (h : Ends rest) :
    afterInteger positive digits rest =
      if positive then .ok (int digits, rest)
      else if 0 < digits ∧ digits ≤ UInt64.size / 2 then .ok (int (-digits), rest)
      else .ok (float (-digits.toUInt64.toFloat).toBits, rest) := by
  rcases h.cases with rfl | ⟨cs, rfl | rfl | rfl⟩ <;> rfl

theorem digitValue_of_isDigit (h : c.isDigit = true) :
    Text.digitValue? c = some (c.toNat - '0'.toNat) := by
  simp only [Char.isDigit, Bool.and_eq_true, decide_eq_true_eq] at h
  exact if_pos h

theorem le_ofDigitChars (ds : List Char) (n : Nat) : n ≤ Nat.ofDigitChars 10 ds n := by
  rw [Nat.ofDigitChars_eq_ofDigitChars_zero]
  have hpos : 0 < 10 ^ ds.length := Nat.pow_pos (by decide)
  have := Nat.le_mul_of_pos_left n hpos
  omega

theorem significand_digits (hds : ∀ c ∈ ds, c.isDigit = true)
    (hrest : startsWithDigit rest = false) (hfits : Nat.ofDigitChars 10 ds n ≤ maxSignificand) :
    significand n (ds ++ rest) = (Nat.ofDigitChars 10 ds n, rest) := by
  induction ds generalizing n with
  | nil =>
    cases rest with
    | nil => rfl
    | cons c cs =>
      have hnone : Text.digitValue? c = none := by simpa [startsWithDigit] using hrest
      simp [significand, hnone]
  | cons d ds ih =>
    rw [Nat.ofDigitChars_cons, Nat.mul_comm] at hfits
    have hstep : n * 10 + (d.toNat - '0'.toNat) ≤ maxSignificand :=
      Nat.le_trans (le_ofDigitChars ds _) hfits
    have hmore := ih (fun c hc => hds c (List.mem_cons_of_mem _ hc)) hfits
    rw [Nat.ofDigitChars_cons, Nat.mul_comm, ← hmore]
    simp only [List.cons_append, significand, digitValue_of_isDigit (hds d List.mem_cons_self),
      if_pos hstep]

theorem digitChar_ne_zero : ∀ n < 10, 0 < n → Nat.digitChar n ≠ '0' := by decide

theorem toDigits_cons (h : 0 < n) : ∃ c ds, Nat.toDigits 10 n = c :: ds ∧ c ≠ '0' := by
  induction n using Nat.strongRecOn with
  | _ n ih =>
    by_cases hsmall : n < 10
    · exact ⟨_, _, Nat.toDigits_of_lt_base hsmall, digitChar_ne_zero n hsmall h⟩
    · obtain ⟨c, ds, hds, hc⟩ := ih (n / 10) (by omega) (by omega)
      rw [Nat.toDigits_of_base_le (by decide) (by omega), hds]
      exact ⟨c, _, rfl, hc⟩

theorem number_toDigits (hfits : n ≤ maxSignificand) (hrest : startsWithDigit rest = false) :
    number positive (Nat.toDigits 10 n ++ rest) = afterInteger positive n rest := by
  rcases Nat.eq_zero_or_pos n with rfl | hpos
  · simp [Nat.toDigits_zero, number, hrest]
  · obtain ⟨c, ds, hds, hc⟩ := toDigits_cons hpos
    have hall : ∀ x ∈ c :: ds, x.isDigit = true := fun x hx =>
      Nat.isDigit_of_mem_toDigits (by decide) (by decide) (hds ▸ hx)
    have hvalue : Nat.ofDigitChars 10 ds (c.toNat - '0'.toNat) = n := by
      rw [← @Nat.ofDigitChars_ten_toDigits n, hds, Nat.ofDigitChars_cons,
        Nat.mul_zero, Nat.zero_add]
    have hsig : significand (c.toNat - '0'.toNat) (ds ++ rest) = (n, rest) := by
      have hall' : ∀ x ∈ ds, x.isDigit = true := fun x hx => hall x (List.mem_cons_of_mem _ hx)
      rw [significand_digits hall' hrest (hvalue ▸ hfits), hvalue]
    rw [hds, List.cons_append]
    simp only [number, digitValue_of_isDigit (hall c List.mem_cons_self), hsig, hrest,
      Bool.false_eq_true, if_false]

/-! ## Values -/

/-- A reader reads a written value back, whatever ends it. -/
def ReadsBack (reader : Reader Json) (v : Json) : Prop :=
  ∀ rest, Ends rest → reader (render v ++ rest) = .ok (v, rest)

theorem renderInt_cases {n : Int} (h : fits n = true) :
    (renderInt n = Nat.toDigits 10 n.toNat ∧ n = (n.toNat : Int) ∧
      n.toNat ≤ maxSignificand) ∨
      ∃ m : Nat, renderInt n = '-' :: Nat.toDigits 10 m ∧ n = -(m : Int) ∧ 0 < m ∧
      m ≤ UInt64.size / 2 := by
  simp only [fits, Bool.and_eq_true, decide_eq_true_eq] at h
  by_cases hneg : n < 0
  · refine .inr ⟨n.natAbs, by simp [renderInt, hneg], by omega, by omega, by omega⟩
  · refine .inl ⟨?_, by omega, ?_⟩
    · have habs : n.natAbs = n.toNat := by omega
      simp [renderInt, hneg, habs]
    · have hsize : 0 < UInt64.size := by decide
      simp only [maxSignificand]
      omega

theorem skipBlanks_cons (h : isBlank c = false) (cs : List Char) :
    skipBlanks (c :: cs) = c :: cs := by
  simp [skipBlanks, h]

theorem ne_of_isDigit {x : Char} (hc : c.isDigit = true) (hx : x.isDigit = false) : c ≠ x := by
  rintro rfl
  exact Bool.false_ne_true (hx.symm.trans hc)

theorem isBlank_of_isDigit (h : c.isDigit = true) : isBlank c = false := by
  have hspace : c ≠ ' ' := ne_of_isDigit h rfl
  have hline : c ≠ '\n' := ne_of_isDigit h rfl
  have htab : c ≠ '\t' := ne_of_isDigit h rfl
  have hreturn : c ≠ '\r' := ne_of_isDigit h rfl
  simp [isBlank, hspace, hline, htab, hreturn]

theorem toDigits_digit (n : Nat) : ∃ c ds, Nat.toDigits 10 n = c :: ds ∧ c.isDigit = true := by
  cases hds : Nat.toDigits 10 n with
  | nil => exact absurd hds Nat.toDigits_ne_nil
  | cons c ds =>
    exact ⟨c, ds, rfl, Nat.isDigit_of_mem_toDigits (by decide) (by decide)
      (hds ▸ List.mem_cons_self)⟩

theorem render_cons (h : v.floatFree = true) :
    ∃ c cs, render v = c :: cs ∧ isBlank c = false ∧ c ≠ ']' := by
  cases v with
  | null | string s | array items | object members => exact ⟨_, _, rfl, rfl, by decide⟩
  | bool b => cases b <;> exact ⟨_, _, rfl, rfl, by decide⟩
  | int n =>
    simp only [render, renderInt]
    split
    · exact ⟨_, _, rfl, rfl, by decide⟩
    · obtain ⟨c, ds, hds, hc⟩ := toDigits_digit n.natAbs
      exact ⟨c, ds, hds, isBlank_of_isDigit hc, ne_of_isDigit hc rfl⟩
  | float bits => cases h

section Scalars

variable {inner : Option (Reader Json)}

theorem valueWith_toDigits (n : Nat) (rest : List Char) :
    valueWith inner (Nat.toDigits 10 n ++ rest) = number true (Nat.toDigits 10 n ++ rest) := by
  obtain ⟨c, ds, hds, hc⟩ := toDigits_digit n
  have hn : c ≠ 'n' := ne_of_isDigit hc rfl
  have ht : c ≠ 't' := ne_of_isDigit hc rfl
  have hf : c ≠ 'f' := ne_of_isDigit hc rfl
  have hminus : c ≠ '-' := ne_of_isDigit hc rfl
  rw [hds, List.cons_append]
  simp [valueWith, skipBlanks_cons (isBlank_of_isDigit hc), hn, ht, hf, hminus,
    digitValue_of_isDigit hc]

theorem valueWith_minus (cs : List Char) : valueWith inner ('-' :: cs) = number false cs := by
  simp [valueWith, skipBlanks, isBlank]

theorem valueWith_int {n : Int} (h : fits n = true) : ReadsBack (valueWith inner) (int n) := by
  intro rest hrest
  rcases renderInt_cases h with ⟨hdigits, hn, hfits⟩ | ⟨m, hdigits, rfl, hpos, hfits⟩
  · rw [render, hdigits, valueWith_toDigits, number_toDigits hfits hrest.no_digit,
      afterInteger_ends hrest, if_pos rfl, ← hn]
  · have hword : m ≤ maxSignificand := by
      simp only [maxSignificand]
      omega
    rw [render, hdigits, List.cons_append, valueWith_minus, number_toDigits hword hrest.no_digit,
      afterInteger_ends hrest, if_neg Bool.false_ne_true, if_pos ⟨hpos, hfits⟩]

theorem valueWith_string (s : String) : ReadsBack (valueWith inner) (string s) := by
  intro rest _
  have hopen :
      render (string s) ++ rest = '"' :: (s.toList.flatMap escapedChar ++ '"' :: rest) := by
    simp [render, renderString]
  rw [hopen]
  simp [valueWith, skipBlanks, isBlank, stringBody_escaped, Text.digitValue?, Except.map]

theorem valueWith_null : ReadsBack (valueWith inner) null := by
  intro rest _
  simp [render, valueWith, skipBlanks, isBlank, word, Except.map]

theorem valueWith_bool (b : Bool) : ReadsBack (valueWith inner) (bool b) := by
  intro rest _
  cases b <;> simp [render, valueWith, skipBlanks, isBlank, word, Except.map]

end Scalars

section Containers

variable {item : Reader Json} {items : List Json} {members : Members}

theorem ends_renderItems (items : List Json) (rest : List Char) :
    Ends (renderItems false items ++ ']' :: rest) := by
  cases items with
  | nil => exact ends_bracket rest
  | cons v vs => exact ends_comma _

theorem ends_renderMembers (members : Members) (rest : List Char) :
    Ends (renderMembers false members ++ '\x7d' :: rest) := by
  cases members with
  | nil => exact ends_brace rest
  | cons m ms => exact ends_comma _

theorem itemsRest_item (hblank : isBlank c = false) (hc : c ≠ ']')
    (hread : item (c :: cs) = .ok (v, rest)) (fuel : Nat) (first : Bool) (taken : List Json) :
    itemsRest item (fuel + 1) first taken ((if first then [] else [',']) ++ c :: cs) =
      itemsRest item fuel false (v :: taken) rest := by
  have hcomma : isBlank ',' = false := rfl
  cases first <;> simp [itemsRest, skipBlanks_cons hcomma, skipBlanks_cons hblank, hc, hread]

theorem itemsRest_render (hfree : ∀ v ∈ items, v.floatFree = true)
    (hback : ∀ v ∈ items, ReadsBack item v) (hfuel : items.length < fuel) (first : Bool)
    (taken : List Json) (rest : List Char) :
    itemsRest item fuel first taken (renderItems first items ++ ']' :: rest) =
      .ok (array (taken.reverse ++ items), rest) := by
  induction items generalizing fuel first taken with
  | nil =>
    obtain ⟨fuel, rfl⟩ : ∃ m, fuel = m + 1 := Nat.exists_eq_add_one.mpr hfuel
    simp [renderItems, itemsRest, skipBlanks, isBlank]
  | cons v vs ih =>
    obtain ⟨fuel, rfl⟩ : ∃ m, fuel = m + 1 := Nat.exists_eq_add_one.mpr (by omega)
    obtain ⟨c, cs, hrender, hblank, hc⟩ := render_cons (hfree v List.mem_cons_self)
    have hread := hback v List.mem_cons_self _ (ends_renderItems vs rest)
    have hmore := ih (fun x hx => hfree x (List.mem_cons_of_mem _ hx))
      (fun x hx => hback x (List.mem_cons_of_mem _ hx)) (by simpa using hfuel) false (v :: taken)
    have hall : (v :: taken).reverse ++ vs = taken.reverse ++ v :: vs := by simp
    rw [hrender, List.cons_append] at hread
    rw [hall] at hmore
    simp only [renderItems, hrender, List.cons_append, List.append_assoc]
    rw [itemsRest_item hblank hc hread, hmore]

theorem member_render (hback : ReadsBack item v) (k : String) (hrest : Ends rest) :
    member item (k.toList.flatMap escapedChar ++ '"' :: ':' :: (render v ++ rest)) =
      .ok ((k, v), rest) := by
  have hcolon : isBlank ':' = false := rfl
  simp [member, stringBody_escaped, skipBlanks_cons hcolon, hback rest hrest]

theorem membersRest_member {m : String × Json} (hread : member item cs = .ok (m, rest))
    (fuel : Nat) (first : Bool) (taken : Members) :
    membersRest item (fuel + 1) first taken ((if first then [] else [',']) ++ '"' :: cs) =
      membersRest item fuel false (insert m.1 m.2 taken) rest := by
  have hcomma : isBlank ',' = false := rfl
  have hquote : isBlank '"' = false := rfl
  cases first <;> simp [membersRest, skipBlanks_cons hcomma, skipBlanks_cons hquote, hread]

theorem membersRest_render (hback : ∀ m ∈ members, ReadsBack item m.2)
    (hfuel : members.length < fuel) (first : Bool) (taken : Members) (rest : List Char) :
    membersRest item fuel first taken (renderMembers first members ++ '\x7d' :: rest) =
      .ok (object (members.foldl (fun ms m => insert m.1 m.2 ms) taken), rest) := by
  induction members generalizing fuel first taken with
  | nil =>
    obtain ⟨fuel, rfl⟩ : ∃ m, fuel = m + 1 := Nat.exists_eq_add_one.mpr hfuel
    simp [renderMembers, membersRest, skipBlanks, isBlank]
  | cons m ms ih =>
    obtain ⟨fuel, rfl⟩ : ∃ m, fuel = m + 1 := Nat.exists_eq_add_one.mpr (by omega)
    obtain ⟨k, v⟩ := m
    have hread := member_render (hback _ List.mem_cons_self) k (ends_renderMembers ms rest)
    have hmore := ih (fun x hx => hback x (List.mem_cons_of_mem _ hx)) (by simpa using hfuel) false
      (insert k v taken)
    simp only [renderMembers, renderString, List.nil_append, List.cons_append, List.append_assoc]
    rw [membersRest_member hread, hmore, List.foldl_cons]

theorem length_le_renderItems (first : Bool) (hfree : ∀ v ∈ items, v.floatFree = true) :
    items.length ≤ (renderItems first items).length := by
  induction items generalizing first with
  | nil => simp
  | cons v vs ih =>
    obtain ⟨c, cs, hrender, -⟩ := render_cons (hfree v List.mem_cons_self)
    have := ih false fun x hx => hfree x (List.mem_cons_of_mem _ hx)
    simp only [renderItems, hrender, List.length_append, List.length_cons]
    omega

theorem length_le_renderMembers (members : Members) (first : Bool) :
    members.length ≤ (renderMembers first members).length := by
  induction members generalizing first with
  | nil => simp
  | cons m ms ih =>
    have := ih false
    simp only [renderMembers, renderString, List.length_append, List.length_cons]
    omega

theorem valueWith_array (hfree : ∀ v ∈ items, v.floatFree = true)
    (hback : ∀ v ∈ items, ReadsBack item v) :
      ReadsBack (valueWith (some item)) (array items) := by
  intro rest _
  have hfuel : items.length < (renderItems true items ++ ']' :: rest).length + 1 := by
    have := length_le_renderItems true hfree
    simp only [List.length_append]
    omega
  have hread := itemsRest_render hfree hback hfuel true [] rest
  have hopen : isBlank '[' = false := rfl
  have htext : render (array items) ++ rest = '[' :: (renderItems true items ++ ']' :: rest) := by
    simp [render]
  rw [htext, valueWith, skipBlanks_cons hopen]
  simpa [Text.digitValue?] using hread

theorem valueWith_object (hback : ∀ m ∈ members, ReadsBack item m.2) (rest : List Char) :
    valueWith (some item) (render (object members) ++ rest) = .ok
      (object (sorted members), rest) := by
  have hfuel : members.length < (renderMembers true members ++ '\x7d' :: rest).length + 1 := by
    have := length_le_renderMembers members true
    simp only [List.length_append]
    omega
  have hread := membersRest_render hback hfuel true [] rest
  have hopen : isBlank '\x7b' = false := rfl
  have htext : render (object members) ++ rest =
      '\x7b' :: (renderMembers true members ++ '\x7d' :: rest) := by
    simp [render]
  rw [htext, valueWith, skipBlanks_cons hopen]
  simpa [Text.digitValue?, sorted] using hread

end Containers

/-- A value that is no container is read back whether containers may be nested or not. -/
theorem valueWith_flat {inner : Option (Reader Json)} (hfree : v.floatFree = true)
    (hproper : v.proper = true) (hflat : v.depth = 0) : ReadsBack (valueWith inner) v := by
  cases v with
  | null => exact valueWith_null
  | bool b => exact valueWith_bool b
  | int n => exact valueWith_int hproper
  | float bits => cases hfree
  | string s => exact valueWith_string s
  | array items | object members => cases hflat

/-- A proper value without doubles is read back as it was by a reader that goes deep enough. -/
theorem value_render (hfree : v.floatFree = true) (hproper : ProperWithin d v) :
    ReadsBack (value d) v := by
  -- what is in a container is read by the reader for one level less, so the induction is on levels
  induction d generalizing v with
  | zero => exact valueWith_flat hfree hproper.1 (Nat.le_zero.mp hproper.2)
  | succ d ih =>
    cases v with
    | array items =>
      have hitems := (everywhere_array.mp hfree).2
      have hproper' := (everywhere_array.mp hproper.1).2
      have hdepth := depth_array_le.mp hproper.2
      exact valueWith_array hitems fun v hv => ih (hitems v hv) ⟨hproper' v hv, hdepth v hv⟩
    | object members =>
      obtain ⟨horder, hproper'⟩ := everywhere_object.mp hproper.1
      have hmembers := (everywhere_object.mp hfree).2
      have hdepth := depth_object_le.mp hproper.2
      intro rest _
      rw [value, valueWith_object fun m hm => ih (hmembers m hm) ⟨hproper' m hm, hdepth m hm⟩,
        sorted_of_inOrder (by simpa [isProper] using horder)]
    | _ => exact valueWith_flat hfree hproper.1 rfl

/-- An object with proper values is read back with its members in order. -/
theorem read_object (hd : depthLimit = d + 1) {members : Members}
    (hfree : ∀ m ∈ members, m.2.floatFree = true)
    (hproper : ∀ m ∈ members, ProperWithin d m.2) :
    read (render (object members)) = .ok (object (sorted members)) := by
  have hback : ∀ m ∈ members, ReadsBack (value d) m.2 := fun m hm =>
    value_render (hfree m hm) (hproper m hm)
  have hvalue : value depthLimit (render (object members)) = .ok (object (sorted members), []) := by
    simpa [hd, value] using valueWith_object hback []
  simp [read, hvalue, skipBlanks]

/-! ## No control characters -/

/-- No control character stands in the text. -/
def Visible (cs : List Char) : Prop := ∀ c ∈ cs, 32 ≤ c.toNat

@[simp] theorem visible_nil : Visible [] := by simp [Visible]

@[simp] theorem visible_cons : Visible (c :: cs) ↔ 32 ≤ c.toNat ∧ Visible cs := by
  simp [Visible]

@[simp] theorem visible_append : Visible (cs ++ ds) ↔ Visible cs ∧ Visible ds := by
  simp only [Visible, List.forall_mem_append]

theorem visible_toDigits (n : Nat) : Visible (Nat.toDigits 10 n) := by
  intro c hc
  have hdigit : c.isDigit = true := Nat.isDigit_of_mem_toDigits (by decide) (by decide) hc
  simp only [Char.isDigit, Bool.and_eq_true, decide_eq_true_eq] at hdigit
  have hlow : 48 ≤ c.toNat := hdigit.1
  omega

theorem digitChar_visible : ∀ n < 16, 32 ≤ (Nat.digitChar n).toNat := by decide

theorem visible_escapedChar (c : Char) : Visible (escapedChar c) := by
  simp only [escapedChar]
  iterate 7
    split
    · exact visible_cons.mpr ⟨by decide, visible_cons.mpr ⟨by decide, visible_nil⟩⟩
  split
  · next h =>
    have hhigh := digitChar_visible (c.toNat / 16) (by omega)
    have hlow := digitChar_visible (c.toNat % 16) (by omega)
    simp [hhigh, hlow]
  · next h => exact visible_cons.mpr ⟨Nat.le_of_not_lt h, visible_nil⟩

theorem visible_renderString (s : String) : Visible (renderString s) := by
  have hbody : Visible (s.toList.flatMap escapedChar) := by
    intro x hx
    obtain ⟨c, -, hc⟩ := List.mem_flatMap.mp hx
    exact visible_escapedChar c x hc
  simp [renderString, hbody]

theorem visible_renderItems {items : List Json} (h : ∀ v ∈ items, Visible (render v))
    (first : Bool) :
    Visible (renderItems first items) := by
  induction items generalizing first with
  | nil => exact visible_nil
  | cons v vs ih =>
    have hv := h v List.mem_cons_self
    have hvs := ih (fun x hx => h x (List.mem_cons_of_mem _ hx)) false
    cases first <;> simp [renderItems, hv, hvs]

theorem visible_renderMembers {members : Members}
    (h : ∀ m ∈ members, Visible (render m.2)) (first : Bool) :
    Visible (renderMembers first members) := by
  induction members generalizing first with
  | nil => exact visible_nil
  | cons m ms ih =>
    have hm := h m List.mem_cons_self
    have hms := ih (fun x hx => h x (List.mem_cons_of_mem _ hx)) false
    have hkey := visible_renderString m.1
    cases first <;> simp [renderMembers, hm, hms, hkey]

theorem visible_render_flat (hfree : v.floatFree = true) (hflat : v.depth = 0) :
    Visible (render v) := by
  cases v with
  | null => simp [render]
  | bool b => cases b <;> simp [render]
  | int n =>
    simp only [render, renderInt]
    split
    · exact visible_cons.mpr ⟨by decide, visible_toDigits _⟩
    · exact visible_toDigits _
  | float bits => cases hfree
  | string s => exact visible_renderString s
  | array items | object members => cases hflat

/-- A value without doubles is written without control characters. -/
theorem visible_render (hfree : v.floatFree = true) (hdepth : v.depth ≤ d) :
    Visible (render v) := by
  induction d generalizing v with
  | zero => exact visible_render_flat hfree (Nat.le_zero.mp hdepth)
  | succ d ih =>
    cases v with
    | array items =>
      have hitems := visible_renderItems (fun v hv =>
        ih ((everywhere_array.mp hfree).2 v hv) (depth_array_le.mp hdepth v hv)) true
      simp [render, hitems]
    | object members =>
      have hmembers := visible_renderMembers (fun m hm =>
        ih ((everywhere_object.mp hfree).2 m hm) (depth_object_le.mp hdepth m hm)) true
      simp [render, hmembers]
    | _ => exact visible_render_flat hfree rfl

end PolledChannels.Json
