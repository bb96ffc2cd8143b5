import PolledChannels.Json.Reader

/-!
# Values that a text can hold

A value is proper if its integers fit 64 bits and the members of its objects stand in the order of
their keys, each key once. What is read from a text is proper, and its containers are nested no
deeper than the reader allows.

The order of members is kept by `insert`, which also says what is found under a key afterwards.
-/

namespace PolledChannels

theorem map_eq_ok {ε α β : Type} {x : Except ε α} {f : α → β} {b : β} :
    x.map f = .ok b ↔ ∃ a, x = .ok a ∧ f a = b := by
  cases x <;> simp [Except.map]

namespace Json

/-! ## Tests on every part of a value -/

mutual

/-- A value and everything in it passes a test. -/
def everywhere (test : Json → Bool) : Json → Bool
  | array items => test (array items) && everyItem test items
  | object members => test (object members) && everyMember test members
  | v => test v

def everyItem (test : Json → Bool) : List Json → Bool
  | [] => true
  | v :: vs => everywhere test v && everyItem test vs

def everyMember (test : Json → Bool) : Members → Bool
  | [] => true
  | (_, v) :: ms => everywhere test v && everyMember test ms

end

mutual

def depth : Json → Nat
  | array items => depthOfItems items + 1
  | object members => depthOfMembers members + 1
  | _ => 0

def depthOfItems : List Json → Nat
  | [] => 0
  | v :: vs => max (depth v) (depthOfItems vs)

def depthOfMembers : Members → Nat
  | [] => 0
  | (_, v) :: ms => max (depth v) (depthOfMembers ms)

end

/-- An integer that fits 64 bits, with or without a sign. -/
def fits (n : Int) : Bool := -((UInt64.size / 2 : Nat) : Int) ≤ n && n < (UInt64.size : Int)

/-- The members stand in the order of their keys. -/
def InOrder (members : Members) : Prop := members.Pairwise fun a b => a.1 < b.1

instance (members : Members) : Decidable (InOrder members) :=
  inferInstanceAs (Decidable (members.Pairwise fun a b => a.1 < b.1))

/-- What `proper` asks of a single value. -/
def isProper : Json → Bool
  | int n => fits n
  | object members => decide (InOrder members)
  | _ => true

/-- Integers fit 64 bits, and the members of objects stand in the order of their keys. -/
def proper (v : Json) : Bool := everywhere isProper v

def floatFree (v : Json) : Bool :=
  everywhere (fun | float _ => false | _ => true) v

section Tests

variable {test : Json → Bool} {items : List Json} {members : Members} {d : Nat}

theorem everyItem_eq_all : everyItem test items = items.all (everywhere test) := by
  induction items with
  | nil => rfl
  | cons v vs ih => simp [everyItem, ih]

theorem everyMember_eq_all :
    everyMember test members = members.all fun m => everywhere test m.2 := by
  induction members with
  | nil => rfl
  | cons m ms ih => simp [everyMember, ih]

theorem everywhere_array :
    everywhere test (array items) = true ↔
      test (array items) = true ∧ ∀ v ∈ items, everywhere test v = true := by
  simp [everywhere, everyItem_eq_all]

theorem everywhere_object :
    everywhere test (object members) = true ↔
      test (object members) = true ∧ ∀ m ∈ members, everywhere test m.2 = true := by
  simp [everywhere, everyMember_eq_all]

theorem depthOfItems_le : depthOfItems items ≤ d ↔ ∀ v ∈ items, v.depth ≤ d := by
  induction items with
  | nil => simp [depthOfItems]
  | cons v vs ih => rw [depthOfItems, Nat.max_le, ih, List.forall_mem_cons]

theorem depthOfMembers_le :
    depthOfMembers members ≤ d ↔ ∀ m ∈ members, m.2.depth ≤ d := by
  induction members with
  | nil => simp [depthOfMembers]
  | cons m ms ih => rw [depthOfMembers, Nat.max_le, ih, List.forall_mem_cons]

theorem depth_array_le : (array items).depth ≤ d + 1 ↔ ∀ v ∈ items, v.depth ≤ d := by
  simp [depth, depthOfItems_le]

theorem depth_object_le : (object members).depth ≤ d + 1 ↔
    ∀ m ∈ members, m.2.depth ≤ d := by
  simp [depth, depthOfMembers_le]

end Tests

/-! ## Members in order -/

section Members

variable {key : String} {value : Json} {members : Members}

theorem mem_insert {m : String × Json} (h : m ∈ insert key value members) :
    m = (key, value) ∨ m ∈ members := by
  induction members with
  | nil => exact .inl (by simpa [insert] using h)
  | cons first rest ih =>
    obtain ⟨k, v⟩ := first
    simp only [insert] at h
    split at h
    · rcases List.mem_cons.mp h with h | h
      · exact .inl h
      · exact .inr (List.mem_cons_of_mem _ h)
    · split at h
      · exact List.mem_cons.mp h
      · rcases List.mem_cons.mp h with h | h
        · exact .inr (h ▸ List.mem_cons_self)
        · exact (ih h).imp_right (List.mem_cons_of_mem _)

theorem InOrder.insert (h : InOrder members) : InOrder (insert key value members) := by
  induction members with
  | nil => simp [Json.insert, InOrder]
  | cons first rest ih =>
    obtain ⟨k, v⟩ := first
    obtain ⟨hfirst, hrest⟩ := List.pairwise_cons.mp h
    simp only [Json.insert]
    split
    · next heq =>
      subst heq
      exact List.pairwise_cons.mpr ⟨hfirst, hrest⟩
    · next hne =>
      split
      · next hlt =>
        refine List.pairwise_cons.mpr ⟨fun m hm => ?_, h⟩
        rcases List.mem_cons.mp hm with rfl | hm
        · exact hlt
        · exact String.lt_trans hlt (hfirst m hm)
      · next hnot =>
        have hafter : k < key := Std.lt_of_le_of_ne (String.not_lt.mp hnot) (Ne.symm hne)
        refine List.pairwise_cons.mpr ⟨fun m hm => ?_, ih hrest⟩
        rcases mem_insert hm with rfl | hm
        · exact hafter
        · exact hfirst m hm

theorem insert_last (h : ∀ m ∈ members, m.1 < key) :
    insert key value members = members ++ [(key, value)] := by
  induction members with
  | nil => rfl
  | cons first rest ih =>
    have hlt : first.1 < key := h first List.mem_cons_self
    have hne : key ≠ first.1 := fun heq => String.lt_irrefl _ (heq ▸ hlt)
    have hrest := ih fun m hm => h m (List.mem_cons_of_mem _ hm)
    simp [insert, hne, String.lt_asymm hlt, hrest]

theorem foldl_insert (taken : Members) (h : InOrder (taken ++ members)) :
    members.foldl (fun ms m => insert m.1 m.2 ms) taken = taken ++ members := by
  induction members generalizing taken with
  | nil => simp
  | cons m ms ih =>
    have hlast : ∀ x ∈ taken, x.1 < m.1 := fun x hx =>
      (List.pairwise_append.mp h).2.2 x hx m List.mem_cons_self
    have hmoved : InOrder ((taken ++ [m]) ++ ms) := by simpa using h
    simp [insert_last hlast, ih _ hmoved]

theorem sorted_of_inOrder (h : InOrder members) : sorted members = members := by
  simpa [sorted] using foldl_insert [] (by simpa using h)

theorem inOrder_sorted : InOrder (sorted members) := by
  have hfold : ∀ taken : Members, InOrder taken →
      InOrder (members.foldl (fun ms m => insert m.1 m.2 ms) taken) := by
    induction members with
    | nil => exact fun _ h => h
    | cons m ms ih => exact fun _ h => ih _ h.insert
  exact hfold [] List.Pairwise.nil

theorem InOrder.nodup (h : InOrder members) : (members.map Prod.fst).Nodup := by
  refine List.pairwise_map.mpr (h.imp fun hlt heq => ?_)
  exact String.lt_irrefl _ (heq ▸ hlt)

@[simp] theorem lookup_cons_ite (k : String) :
    ((key, value) :: members).lookup k = if k = key then some value else members.lookup k := by
  by_cases h : k = key
  · simp [h]
  · have hbeq : (k == key) = false := beq_eq_false_iff_ne.mpr h
    simp [List.lookup_cons, hbeq, h]

theorem lookup_insert (k : String) :
    (insert key value members).lookup k = if k = key then some value else members.lookup k := by
  induction members with
  | nil => simp [insert]
  | cons first rest ih =>
    obtain ⟨k', v'⟩ := first
    simp only [insert]
    split
    · next heq =>
      subst heq
      by_cases h : k = key <;> simp [h]
    · next hne =>
      split
      · simp
      · by_cases h : k = k'
        · subst h
          simp [Ne.symm hne]
        · simp [h, ih]

theorem lookup_eq_none_of_nodup (h : (((key, value) :: members).map Prod.fst).Nodup) :
    members.lookup key = none := by
  refine List.lookup_eq_none_iff.mpr fun m hm => ?_
  have hnew : key ∉ members.map Prod.fst := (List.nodup_cons.mp h).1
  simpa using fun heq : key = m.1 => hnew (heq ▸ List.mem_map_of_mem hm)

theorem lookup_sorted (h : (members.map Prod.fst).Nodup) (k : String) :
    (sorted members).lookup k = members.lookup k := by
  have hfold : ∀ taken : Members,
      (members.foldl (fun ms m => insert m.1 m.2 ms) taken).lookup k =
        (members.lookup k).or (taken.lookup k) := by
    induction members with
    | nil => simp
    | cons m ms ih =>
      intro taken
      rw [List.foldl_cons, ih (List.nodup_cons.mp h).2, lookup_insert, lookup_cons_ite]
      by_cases hk : k = m.1
      · subst hk
        simp [lookup_eq_none_of_nodup h]
      · simp [hk]
  simpa [sorted] using hfold []

end Members

/-! ## What is read -/

/-- Whatever a reader reads has a property. -/
def Reads {α : Type} (reader : Reader α) (P : α → Prop) : Prop :=
  ∀ {cs : List Char} {a : α} {rest : List Char}, reader cs = .ok (a, rest) → P a

/-- A number as it is kept: an integer that fits 64 bits, or a double. -/
inductive IsNumber : Json → Prop where
  | int {n : Int} (h : fits n = true) : IsNumber (int n)
  | float (bits : UInt64) : IsNumber (float bits)

section Numbers

variable {positive : Bool} {n digits : Nat} {cs rest : List Char} {v : Json} {exponent start : Int}

theorem significand_le (h : n ≤ maxSignificand) : (significand n cs).1 ≤ maxSignificand := by
  induction cs generalizing n with
  | nil => exact h
  | cons c cs ih =>
    simp only [significand]
    split
    · split
      · next hfits => exact ih hfits
      · exact h
    · exact h

theorem isNumber_double (h : double positive digits exponent cs = .ok (v, rest)) :
    IsNumber v := by
  simp only [double] at h
  split at h
  · cases h
    exact .float _
  · cases h

theorem reads_withExponent : Reads (withExponent positive digits start) IsNumber := by
  intro cs v rest h
  simp only [withExponent] at h
  split at h
  · cases h
  · split at h
    · cases h
    · split at h
      · exact isNumber_double h
      · split at h
        · cases h
        · cases h
          exact .float _

theorem reads_finishDouble :
    Reads (finishDouble positive digits exponent) IsNumber := by
  intro cs v rest h
  simp only [finishDouble] at h
  split at h
  · exact reads_withExponent h
  · exact isNumber_double h

theorem reads_withFraction : Reads (withFraction positive digits start) IsNumber := by
  intro cs v rest h
  simp only [withFraction] at h
  split at h
  · exact reads_finishDouble h
  · split at h
    · cases h
    · exact reads_finishDouble h

theorem fits_natCast (h : digits ≤ maxSignificand) : fits (digits : Int) = true := by
  simp only [fits, maxSignificand, UInt64.size, Bool.and_eq_true, decide_eq_true_eq] at *
  omega

theorem fits_neg (h : digits ≤ UInt64.size / 2) : fits (-digits : Int) = true := by
  simp only [fits, UInt64.size, Bool.and_eq_true, decide_eq_true_eq] at *
  omega

theorem reads_afterInteger (hfits : digits ≤ maxSignificand) :
    Reads (afterInteger positive digits) IsNumber := by
  intro cs v rest h
  simp only [afterInteger] at h
  split at h
  · exact reads_withFraction h
  · split at h
    · exact reads_withExponent h
    · split at h
      · cases h
        exact .int (fits_natCast hfits)
      · split at h
        · next hsmall =>
          cases h
          exact .int (fits_neg hsmall.2)
        · cases h
          exact .float _

theorem reads_longInteger : Reads (longInteger positive digits) IsNumber := by
  intro cs v rest h
  simp only [longInteger] at h
  split at h
  · exact reads_withFraction h
  · exact reads_finishDouble h

theorem digitValue_le {c : Char} {d : Nat} (h : Text.digitValue? c = some d) :
    d ≤ maxSignificand := by
  simp only [Text.digitValue?] at h
  split at h
  · next hc =>
    cases h
    have hle : c.toNat ≤ 57 := hc.2
    have : '0'.toNat = 48 := rfl
    simp only [maxSignificand, UInt64.size]
    omega
  · cases h

theorem reads_number : Reads (number positive) IsNumber := by
  intro cs v rest h
  simp only [number] at h
  split at h
  · cases h
  · split at h
    · cases h
    · exact reads_afterInteger (Nat.zero_le _) h
  · split at h
    · cases h
    · next hd =>
      split at h
      · exact reads_longInteger h
      · exact reads_afterInteger (significand_le (digitValue_le hd)) h

end Numbers

/-- A proper value whose containers are nested at most `d` deep. -/
def ProperWithin (d : Nat) (v : Json) : Prop := v.proper = true ∧ v.depth ≤ d

section Containers

variable {item : Reader Json} {P : Json → Prop} {first : Bool} {fuel : Nat}

theorem itemsRest_ok (hitem : Reads item P) {taken : List Json} (htaken : ∀ x ∈ taken, P x) :
    Reads (itemsRest item fuel first taken) fun v => ∃ items, v = array items ∧
    ∀ x ∈ items, P x := by
  intro cs v rest h
  induction fuel generalizing first taken cs with
  | zero => cases h
  | succ fuel ih =>
    have hmore : ∀ {x : Json}, P x → ∀ y ∈ x :: taken, P y := by
      intro x hx y hy
      rcases List.mem_cons.mp hy with rfl | hy
      · exact hx
      · exact htaken y hy
    simp only [itemsRest] at h
    split at h
    · cases h
    · split at h
      · cases h
        exact ⟨_, rfl, fun x hx => htaken x (List.mem_reverse.mp hx)⟩
      · split at h
        · split at h
          · next hread => exact ih (hmore (hitem hread)) h
          · cases h
        · split at h
          · split at h
            · cases h
            · split at h
              · cases h
              · split at h
                · next hread => exact ih (hmore (hitem hread)) h
                · cases h
          · cases h

theorem member_ok (hitem : Reads item P) : Reads (member item) fun m => P m.2 := by
  intro cs m rest h
  simp only [member] at h
  split at h
  · cases h
  · split at h
    · cases h
    · split at h
      · cases h
      · split at h
        · next hread =>
          cases h
          exact hitem hread
        · cases h

theorem membersRest_ok (hitem : Reads item P)
    {taken : Members} (horder : InOrder taken) (htaken : ∀ m ∈ taken, P m.2) :
    Reads (membersRest item fuel first taken) fun v =>
      ∃ members, v = object members ∧ InOrder members ∧ ∀ m ∈ members, P m.2 := by
  intro cs v rest h
  induction fuel generalizing first taken cs with
  | zero => cases h
  | succ fuel ih =>
    have hmore : ∀ {k : String} {x : Json}, P x → ∀ m ∈ insert k x taken, P m.2 := by
      intro k x hx m hm
      rcases mem_insert hm with rfl | hm
      · exact hx
      · exact htaken m hm
    simp only [membersRest] at h
    split at h
    · cases h
    · split at h
      · cases h
        exact ⟨_, rfl, horder, htaken⟩
      · split at h
        · split at h
          · cases h
          · split at h
            · next hread => exact ih horder.insert (hmore (member_ok hitem hread)) h
            · cases h
        · split at h
          · split at h
            · cases h
            · split at h
              · split at h
                · next hread => exact ih horder.insert (hmore (member_ok hitem hread)) h
                · cases h
              · split at h <;> cases h
          · cases h

end Containers

theorem properWithin_of_isNumber {v : Json} (h : IsNumber v) (d : Nat) : ProperWithin d v := by
  cases h with
  | int h => exact ⟨by simpa [proper, everywhere, isProper] using h, Nat.zero_le d⟩
  | float bits => exact ⟨rfl, Nat.zero_le d⟩

theorem properWithin_array {items : List Json} {d : Nat} (h : ∀ v ∈ items, ProperWithin d v) :
    ProperWithin (d + 1) (array items) :=
  ⟨everywhere_array.mpr ⟨rfl, fun v hv => (h v hv).1⟩, depth_array_le.mpr fun v hv =>
    (h v hv).2⟩

theorem properWithin_object {members : Members} {d : Nat} (horder : InOrder members)
    (h : ∀ m ∈ members, ProperWithin d m.2) : ProperWithin (d + 1) (object members) :=
  ⟨everywhere_object.mpr ⟨by simpa [isProper] using horder, fun m hm => (h m hm).1⟩,
    depth_object_le.mpr fun m hm => (h m hm).2⟩

theorem reads_valueWith {inner : Option (Reader Json)} {d : Nat}
    (hinner : ∀ item ∈ inner, ∃ d', d = d' + 1 ∧ Reads item (ProperWithin d')) :
    Reads (valueWith inner) (ProperWithin d) := by
  intro cs v rest h
  simp only [valueWith] at h
  split at h
  · cases h
  iterate 3
    split at h
    · obtain ⟨_, -, heq⟩ := map_eq_ok.mp h
      cases heq
      exact ⟨rfl, Nat.zero_le d⟩
  split at h
  · exact properWithin_of_isNumber (reads_number h) d
  split at h
  · exact properWithin_of_isNumber (reads_number h) d
  split at h
  · obtain ⟨_, -, heq⟩ := map_eq_ok.mp h
    cases heq
    exact ⟨rfl, Nat.zero_le d⟩
  split at h
  · split at h
    · cases h
    · next item =>
      obtain ⟨d', rfl, hitem⟩ := hinner item rfl
      split at h
      · obtain ⟨items, rfl, hall⟩ := itemsRest_ok hitem (by simp) h
        exact properWithin_array hall
      · obtain ⟨members, rfl, horder, hall⟩ :=
          membersRest_ok hitem List.Pairwise.nil (by simp) h
        exact properWithin_object horder hall
  · cases h

/-- What is read is proper, and nested no deeper than the reader allows. -/
theorem reads_value (d : Nat) : Reads (value d) (ProperWithin d) := by
  induction d with
  | zero => exact reads_valueWith (by simp)
  | succ d ih =>
    refine reads_valueWith fun item hitem => ⟨d, rfl, ?_⟩
    cases hitem
    exact ih

theorem properWithin_of_read {cs : List Char} {v : Json} (h : read cs = .ok v) :
    ProperWithin depthLimit v := by
  simp only [read] at h
  split at h
  · cases h
  · next hvalue =>
    split at h
    · cases h
      exact reads_value depthLimit hvalue
    · cases h

end Json
end PolledChannels
