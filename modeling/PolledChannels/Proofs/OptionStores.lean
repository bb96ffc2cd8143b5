import Mathlib.Data.List.Induction
import PolledChannels.Options

/-!
# Options written through typed setters

A setter takes a value that its option admits, if the option may be written, and else changes
nothing. So a store that typed setters wrote holds, for each option, what the last of them that
succeeded was given: getters and the listing show these values and no others.
-/

namespace PolledChannels

/-- The word may stand for the option. -/
def SocketOption.admits (o : SocketOption) (word : Int) : Bool :=
  if o.isFlag then word = 0 ∨ word = 1
  else if o.isSize then 0 < word
  else 0 ≤ word ∧ word ≤ 255

def OptionValue.text : OptionValue → String
  | flag on => toString on
  | number n => toString n

/-- A call of a typed setter: with a flag where the option is one, and else with a number. -/
inductive Setting where
  | flag (o : SocketOption) (ho : o.isFlag = true) (on : Bool)
  | number (o : SocketOption) (ho : o.isFlag = false) (n : Int32)

namespace Setting

def option : Setting → SocketOption
  | flag o _ _ => o
  | number o _ _ => o

def value : Setting → OptionValue
  | flag _ _ on => .flag on
  | number _ _ n => .number n.toInt

def word : Setting → Int
  | flag _ _ on => SocketOption.flagWord on
  | number _ _ n => n.toInt

/-- The option may be written, and the word stand for it. -/
def isTaken (readOnly : List SocketOption) (x : Setting) : Bool :=
  !readOnly.contains x.option && x.option.admits x.word

/-- The last of the calls that set the option. -/
def last (readOnly : List SocketOption) (xs : List Setting) (o : SocketOption) : Option Setting :=
  xs.reverse.find? fun x => x.option == o && x.isTaken readOnly

theorem typed_word (x : Setting) : x.option.typed x.word = x.value := by
  cases x with
  | flag o ho on =>
    cases on <;> simp [option, word, value, SocketOption.typed, SocketOption.flagWord, ho]
  | number o ho n => simp [option, word, value, SocketOption.typed, ho]

theorem shown_word (x : Setting) :
    x.option.shown x.word = x.option.name ++ "=" ++ x.value.text := by
  simp only [← x.typed_word, SocketOption.shown, SocketOption.typed]
  split <;> rfl

theorem checked_word (x : Setting) :
    x.option.checked x.word = .ok x.word ∧ x.option.admits x.word = true ∨
      (∃ e, x.option.checked x.word = .error e) ∧ x.option.admits x.word = false := by
  cases x with
  | flag o ho on =>
    cases on <;> simp [option, word, SocketOption.checked, SocketOption.admits,
      SocketOption.flagWord, ho]
  | number o ho n =>
    simp only [option, word, SocketOption.checked, SocketOption.admits, ho]
    grind

theorem of_last {readOnly : List SocketOption} {xs : List Setting} {o : SocketOption} {x : Setting}
    (h : last readOnly xs o = some x) : x.option = o ∧ x.option.admits x.word = true := by
  have hx := List.find?_some h
  simp only [isTaken, Bool.and_eq_true, beq_iff_eq] at hx
  exact ⟨hx.1, hx.2.2⟩

end Setting

namespace OptionStore

/-- Calls a typed setter. -/
def apply (s : OptionStore) (x : Setting) : OptionStore × IoResult :=
  s.setTyped x.option x.word

/-- An empty store, after calls of typed setters. -/
def after (readOnly : List SocketOption) (xs : List Setting) : OptionStore :=
  xs.foldl (fun s x => (s.apply x).1) { readOnly }

theorem apply_cases (s : OptionStore) (x : Setting) :
    x.isTaken s.readOnly = true ∧ s.apply x =
        ({ s with values := (x.option, x.word) :: s.values.filter fun p => p.1 != x.option },
          .ok ()) ∨
      x.isTaken s.readOnly = false ∧ ∃ e, s.apply x = (s, .error e) := by
  unfold apply setTyped Setting.isTaken
  rcases x.checked_word with ⟨hword, hadmits⟩ | ⟨⟨e, hword⟩, hadmits⟩
  · by_cases hkept : x.option ∈ s.readOnly <;> simp [hword, hadmits, set, hkept]
  · simp [hword, hadmits]

theorem readOnly_apply (s : OptionStore) (x : Setting) : (s.apply x).1.readOnly = s.readOnly := by
  rcases s.apply_cases x with ⟨-, happly⟩ | ⟨-, e, happly⟩ <;> rw [happly]

theorem lookup_filter {o o' : SocketOption} (h : o ≠ o') (values : List (SocketOption × Int)) :
    (values.filter fun p => p.1 != o').lookup o = values.lookup o := by
  induction values with
  | nil => rfl
  | cons p values ih => by_cases hp : p.1 = o' <;> grind

theorem get_apply (s : OptionStore) (x : Setting) (o : SocketOption) :
    (s.apply x).1.get o = if x.option == o && x.isTaken s.readOnly then .ok x.word
      else s.get o := by
  rcases s.apply_cases x with ⟨htaken, happly⟩ | ⟨htaken, e, happly⟩ <;> rw [happly, htaken]
  · by_cases ho : x.option = o
    · simp [get, ho]
    · have hlookup := lookup_filter (Ne.symm ho) s.values
      simp [get, ho, List.lookup_cons, beq_false_of_ne (Ne.symm ho), hlookup]
  · simp

theorem readOnly_after (readOnly : List SocketOption) (xs : List Setting) :
    (after readOnly xs).readOnly = readOnly := by
  induction xs using List.reverseRecOn with
  | nil => rfl
  | append_singleton xs x ih =>
    rw [after, List.foldl_append] at *
    exact (readOnly_apply _ x).trans ih

theorem get_after (readOnly : List SocketOption) (xs : List Setting) (o : SocketOption) :
    (after readOnly xs).get o =
      (Setting.last readOnly xs o).elim (.error (.os .noProtocolOption)) fun x => .ok x.word := by
  induction xs using List.reverseRecOn with
  | nil => rfl
  | append_singleton xs x ih =>
    have hkept := readOnly_after readOnly xs
    rw [after] at ih hkept ⊢
    rw [List.foldl_append, List.foldl_cons, List.foldl_nil, get_apply, hkept, ih]
    simp only [Setting.last, List.reverse_append, List.reverse_cons, List.reverse_nil,
      List.nil_append, List.cons_append, List.find?_cons]
    cases x.option == o && x.isTaken readOnly <;> rfl

end OptionStore

/-- What is left of calls of typed setters. -/
structure OptionStore.Holds (s : OptionStore) (readOnly : List SocketOption) (xs : List Setting) :
    Prop where
  /-- A setter succeeds if the option may be written and the value stand for it. -/
  succeeds_iff : ∀ x, (s.apply x).2 = .ok () ↔ x.isTaken readOnly = true
  /-- A setter that fails changes nothing. -/
  failed : ∀ x e, (s.apply x).2 = .error e → (s.apply x).1 = s
  /-- A getter gives what the last setter that succeeded was given, and fails if none did. -/
  getTyped : ∀ o, s.getTyped o =
    (Setting.last readOnly xs o).elim (.error (.os .noProtocolOption)) fun x => .ok x.value
  /-- Every word stands for its option. -/
  admits : ∀ o word, s.get o = .ok word → o.admits word = true
  /-- The listing has the options that were set, in order, with their values. -/
  render : s.render = "TcpOptions[" ++ " ".intercalate (SocketOption.all.filterMap fun o =>
    (Setting.last readOnly xs o).map fun x => o.name ++ "=" ++ x.value.text) ++ "]"

/-- Whatever typed setters are called, the store holds the values of the last that succeeded. -/
theorem typed_options_hold_last_settings (readOnly : List SocketOption) (xs : List Setting) :
    (OptionStore.after readOnly xs).Holds readOnly xs where
  succeeds_iff x := by
    rcases (OptionStore.after readOnly xs).apply_cases x with ⟨htaken, happly⟩ |
      ⟨htaken, e, happly⟩ <;>
      rw [OptionStore.readOnly_after] at htaken <;> simp [happly, htaken]
  failed x e h := by
    rcases (OptionStore.after readOnly xs).apply_cases x with ⟨-, happly⟩ | ⟨-, e, happly⟩
    · rw [happly] at h
      cases h
    · rw [happly]
  getTyped o := by
    rw [OptionStore.getTyped, OptionStore.get_after]
    cases hlast : Setting.last readOnly xs o with
    | none => rfl
    | some x =>
      obtain ⟨rfl, -⟩ := Setting.of_last hlast
      exact congrArg Except.ok x.typed_word
  admits o word h := by
    rw [OptionStore.get_after] at h
    cases hlast : Setting.last readOnly xs o with
    | none => simp [hlast] at h
    | some x =>
      obtain ⟨rfl, hadmits⟩ := Setting.of_last hlast
      rw [hlast] at h
      cases h
      exact hadmits
  render := by
    rw [OptionStore.render, SocketOption.listing]
    refine congrArg
      (fun item => "TcpOptions[" ++ " ".intercalate (SocketOption.all.filterMap item) ++ "]")
      (funext fun o => ?_)
    rw [OptionStore.get_after]
    cases hlast : Setting.last readOnly xs o with
    | none => rfl
    | some x =>
      obtain ⟨rfl, -⟩ := Setting.of_last hlast
      exact congrArg some x.shown_word

end PolledChannels
