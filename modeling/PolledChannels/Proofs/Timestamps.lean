import Mathlib.Data.List.Forall2
import PolledChannels.Proofs.Gregorian
import PolledChannels.Time.Timestamp

/-!
# Timestamps read back, and their order

The text of a moment is a row of numbers, each padded with zeros and ended by a separator. Read
back with the same layout it gives the moment, and the moment gives the clock to the millisecond.
Rows of numbers that fit their widths sort as text as the numbers sort, and dates and times of day
sort as the instants they denote.
-/

namespace PolledChannels
namespace Text

/-! ## Padded numerals -/

theorem toList_padded (width n : Nat) :
    (padded width n).toList =
      List.replicate (width - (Nat.toDigits 10 n).length) '0' ++ Nat.toDigits 10 n :=
  String.toList_ofList

theorem isDigit_of_mem_padded {width n : Nat} {c : Char} (h : c ∈ (padded width n).toList) :
    c.isDigit = true := by
  rw [toList_padded, List.mem_append] at h
  rcases h with h | h
  · rw [List.eq_of_mem_replicate h]
    decide
  · exact Nat.isDigit_of_mem_toDigits (by decide) (by decide) h

theorem ofDigitChars_padded (width n : Nat) :
    Nat.ofDigitChars 10 (padded width n).toList 0 = n := by
  rw [toList_padded, Nat.ofDigitChars_append, Nat.ofDigitChars_replicate_zero, Nat.mul_zero,
    Nat.ofDigitChars_ten_toDigits]

theorem le_length_padded (width n : Nat) : width ≤ (padded width n).toList.length := by
  rw [toList_padded, List.length_append, List.length_replicate]
  omega

theorem length_padded {width n : Nat} (hwidth : 0 < width) (h : n < 10 ^ width) :
    (padded width n).toList.length = width := by
  have hle := (Nat.length_toDigits_le_iff (by decide) hwidth).mpr h
  rw [toList_padded, List.length_append, List.length_replicate]
  omega

/-! ## The order of digits -/

theorem digit_bounds {c : Char} (h : c.isDigit = true) : 48 ≤ c.toNat ∧ c.toNat ≤ 57 := by
  simp only [Char.isDigit, Bool.and_eq_true, decide_eq_true_eq, ge_iff_le, UInt32.le_iff_toNat_le]
    at h
  exact h

theorem ofDigitChars_cons_eq (c : Char) (digits : List Char) :
    Nat.ofDigitChars 10 (c :: digits) 0 =
      10 ^ digits.length * (c.toNat - 48) + Nat.ofDigitChars 10 digits 0 := by
  rw [Nat.ofDigitChars_cons, Nat.ofDigitChars_eq_ofDigitChars_zero, Nat.mul_zero, Nat.zero_add]
  rfl

theorem ofDigitChars_lt {digits : List Char} (h : ∀ c ∈ digits, c.isDigit = true) :
    Nat.ofDigitChars 10 digits 0 < 10 ^ digits.length := by
  induction digits with
  | nil => decide
  | cons c digits ih =>
    have hrest := ih fun d hd => h d (List.mem_cons_of_mem c hd)
    have hc := digit_bounds (h c List.mem_cons_self)
    have hmul : 10 ^ digits.length * (c.toNat - 48) ≤ 10 ^ digits.length * 9 :=
      Nat.mul_le_mul_left _ (by omega)
    rw [ofDigitChars_cons_eq, List.length_cons, Nat.pow_succ]
    omega

/-- Of two numbers with a leading part and a rest below the base, the leading parts decide first. -/
theorem leading_lt_iff {base x y a b : Nat} (ha : a < base) (hb : b < base) :
    base * x + a < base * y + b ↔ x < y ∨ x = y ∧ a < b := by
  rcases Nat.lt_trichotomy x y with h | rfl | h
  · have hle : base * (x + 1) ≤ base * y := Nat.mul_le_mul_left _ h
    rw [Nat.mul_succ] at hle
    omega
  · omega
  · have hle : base * (y + 1) ≤ base * x := Nat.mul_le_mul_left _ h
    rw [Nat.mul_succ] at hle
    omega

/-- Digits of one length sort as their values. -/
theorem digits_lt_iff {a b : List Char} (hlength : a.length = b.length)
    (ha : ∀ c ∈ a, c.isDigit = true) (hb : ∀ c ∈ b, c.isDigit = true) :
    a < b ↔ Nat.ofDigitChars 10 a 0 < Nat.ofDigitChars 10 b 0 := by
  induction a generalizing b with
  | nil =>
    obtain rfl : b = [] := List.length_eq_zero_iff.mp hlength.symm
    simp
  | cons x a ih =>
    obtain ⟨y, b, rfl⟩ := List.exists_of_length_succ b hlength.symm
    rw [List.forall_mem_cons] at ha hb
    have hrest : a.length = b.length := Nat.succ.inj hlength
    have hx := digit_bounds ha.1
    have hy := digit_bounds hb.1
    have halt := ofDigitChars_lt ha.2
    have hblt := ofDigitChars_lt hb.2
    have hlt : x < y ↔ x.toNat - 48 < y.toNat - 48 := by
      rw [Char.lt_def, UInt32.lt_iff_toNat_lt]
      change x.toNat < y.toNat ↔ _
      omega
    have heq : x = y ↔ x.toNat - 48 = y.toNat - 48 := by
      rw [← Char.toNat_inj]
      omega
    rw [List.cons_lt_cons_iff, ofDigitChars_cons_eq, ofDigitChars_cons_eq, hrest,
      leading_lt_iff (hrest ▸ halt) hblt, ih hrest ha.2 hb.2, hlt, heq]

/-- Of texts that begin with parts of one length, the parts decide first. -/
theorem append_lt_append_iff {a b c d : List Char} (h : a.length = b.length) :
    a ++ c < b ++ d ↔ a < b ∨ a = b ∧ c < d := by
  induction a generalizing b with
  | nil =>
    obtain rfl : b = [] := List.length_eq_zero_iff.mp h.symm
    simp
  | cons x a ih =>
    obtain ⟨y, b, rfl⟩ := List.exists_of_length_succ b h.symm
    have hlength : a.length = b.length := Nat.succ.inj h
    simp only [List.cons_append, List.cons_lt_cons_iff, ih hlength, List.cons.injEq]
    grind

section Padded

variable {width m n : Nat}

theorem padded_lt_iff (hwidth : 0 < width) (hm : m < 10 ^ width) (hn : n < 10 ^ width) :
    (padded width m).toList < (padded width n).toList ↔ m < n := by
  rw [digits_lt_iff ((length_padded hwidth hm).trans (length_padded hwidth hn).symm)
    (fun _ => isDigit_of_mem_padded) (fun _ => isDigit_of_mem_padded), ofDigitChars_padded,
    ofDigitChars_padded]

theorem padded_inj : (padded width m).toList = (padded width n).toList ↔ m = n := by
  constructor
  · intro h
    calc
      m = Nat.ofDigitChars 10 (padded width m).toList 0 := (ofDigitChars_padded width m).symm
      _ = Nat.ofDigitChars 10 (padded width n).toList 0 := by rw [h]
      _ = n := ofDigitChars_padded width n
  · rintro rfl
    rfl

end Padded

/-! ## Rows of numbers -/

/-- The place of a number in a row: the digits it is padded to, whether it may have more, and the
separator after it. -/
structure Field where
  width : Nat
  wider : Bool
  stop : Char
  deriving DecidableEq, Repr

namespace Field

/-- A number written in its place. -/
def write (f : Field) (n : Nat) : List Char :=
  (padded f.width n).toList ++ [f.stop]

/-- A number of `length` digits may stand in the place. -/
def admits (f : Field) (length : Nat) : Bool :=
  length == f.width || f.wider && f.width < length

/-- The number in its place at the start of a text, and the text after it. -/
def read (f : Field) (text : List Char) : Option (Nat × List Char) :=
  let digits := text.takeWhile Char.isDigit
  match text.dropWhile Char.isDigit with
  | [] => none
  | stop :: rest =>
    if stop = f.stop ∧ f.admits digits.length then some (Nat.ofDigitChars 10 digits 0, rest)
      else none

/-- The number fits the place. -/
structure Fits (f : Field) (n : Nat) : Prop where
  stop : f.stop.isDigit = false
  pos : 0 < f.width
  lt : f.wider = false → n < 10 ^ f.width

/-- The number has no more digits than the place is wide. -/
def Fills (f : Field) (n : Nat) : Prop :=
  0 < f.width ∧ n < 10 ^ f.width

theorem Fits.admits {f : Field} {n : Nat} (h : f.Fits n) :
    f.admits (padded f.width n).toList.length = true := by
  have hle := le_length_padded f.width n
  unfold Field.admits
  cases hwider : f.wider with
  | false => simp [length_padded h.pos (h.lt hwider)]
  | true =>
    simp
    omega

theorem Fits.read_write {f : Field} {n : Nat} (h : f.Fits n) (rest : List Char) :
    f.read (f.write n ++ rest) = some (n, rest) := by
  have hdigits : ∀ c ∈ (padded f.width n).toList, c.isDigit = true :=
    fun _ => isDigit_of_mem_padded
  have htake : (f.write n ++ rest).takeWhile Char.isDigit = (padded f.width n).toList := by
    rw [write, List.append_assoc, List.takeWhile_append_of_pos hdigits]
    simp [h.stop]
  have hdrop : (f.write n ++ rest).dropWhile Char.isDigit = f.stop :: rest := by
    rw [write, List.append_assoc, List.dropWhile_append_of_pos hdigits]
    simp [h.stop]
  rw [read, htake, hdrop]
  simp only [h.admits, ofDigitChars_padded, and_self, if_true]

end Field

/-- A row of numbers in their places. -/
def writeRow : List Field → List Nat → List Char
  | f :: fs, n :: ns => f.write n ++ writeRow fs ns
  | _, _ => []

/-- The numbers of a row. -/
def readRow : List Field → List Char → Option (List Nat)
  | [], [] => some []
  | [], _ :: _ => none
  | f :: fs, text => do
      let (n, rest) ← f.read text
      let ns ← readRow fs rest
      return n :: ns

variable {fs : List Field} {ns : List Nat}

theorem readRow_writeRow (h : List.Forall₂ Field.Fits fs ns) :
    readRow fs (writeRow fs ns) = some ns := by
  induction h with
  | nil => rfl
  | cons hfits _ ih => simp [readRow, writeRow, hfits.read_write, ih]

/-- In places that no number overflows two rows sort as their numbers. -/
theorem writeRow_lt_iff {ms : List Nat} (hm : List.Forall₂ Field.Fills fs ms)
    (hn : List.Forall₂ Field.Fills fs ns) :
    writeRow fs ms < writeRow fs ns ↔ ms < ns := by
  induction hm generalizing ns with
  | nil =>
    cases hn
    simp [writeRow]
  | cons hfits _ ih =>
    cases hn with
    | cons hfits' hn =>
      simp only [writeRow, Field.write, List.append_assoc]
      have hlength := (length_padded hfits.1 hfits.2).trans (length_padded hfits'.1 hfits'.2).symm
      rw [append_lt_append_iff hlength, padded_lt_iff hfits.1 hfits.2 hfits'.2, padded_inj,
        List.cons_lt_cons_iff, ← ih hn]
      simp

theorem length_writeRow (h : List.Forall₂ Field.Fills fs ns) :
    (writeRow fs ns).length = (fs.map fun f => f.width + 1).sum := by
  induction h with
  | nil => rfl
  | cons hfits _ ih =>
    rw [writeRow, Field.write, List.length_append, List.length_append,
      length_padded hfits.1 hfits.2, ih]
    rfl

end Text

/-! ## The order of dates -/

namespace Date

/-- An earlier year, or else an earlier month, or else an earlier day. -/
def Before (x y : Date) : Prop :=
  x.year < y.year ∨ x.year = y.year ∧
    (x.month < y.month ∨ x.month = y.month ∧ x.day < y.day)

section Order

variable {x y : Date}

theorem beforeMarch_le {year other : Int} (h : year ≤ other) :
    beforeMarch year ≤ beforeMarch other := by
  unfold beforeMarch
  omega

theorem daysBeforeMonth_le {month other : Int} (h : month ≤ other) :
    daysBeforeMonth month ≤ daysBeforeMonth other := by
  unfold daysBeforeMonth
  omega

theorem Before.sinceEpoch_lt (h : x.Before y) (hx : x.Exists) (hy : y.Exists) :
    x.sinceEpoch < y.sinceEpoch := by
  obtain ⟨hpos, hle, hday, hdayLe⟩ := hx
  obtain ⟨hpos', hle', hday', -⟩ := hy
  have hcount := sinceEpoch_eq hpos hle
  have hcount' := sinceEpoch_eq hpos' hle'
  have hlength := monthLength_eq hpos hle
  have hend := beforeMarch_succ x.marchYear
  have hstart := daysBeforeMonth_marchMonth_nonneg hpos'
  unfold marchDay at hcount hcount'
  -- the order is the same if years begin in March
  have hmarch : x.marchYear < y.marchYear ∨ x.marchYear = y.marchYear ∧
      (x.marchMonth < y.marchMonth ∨ x.marchMonth = y.marchMonth ∧ x.day < y.day) := by
    unfold Before at h
    unfold marchYear marchMonth
    split <;> split <;> omega
  rcases hmarch with hyear | ⟨hyear, hmonth | ⟨hmonth, hlt⟩⟩
  · have hyears := beforeMarch_le (Int.add_one_le_of_lt hyear)
    omega
  · have hmonths := daysBeforeMonth_le (Int.add_one_le_of_lt hmonth)
    rw [hyear] at hcount
    omega
  · rw [hyear, hmonth] at hcount
    omega

theorem before_trichotomy (x y : Date) : x.Before y ∨ x = y ∨ y.Before x := by
  obtain ⟨year, month, day⟩ := x
  obtain ⟨year', month', day'⟩ := y
  unfold Before
  rw [Date.mk.injEq]
  dsimp only
  omega

theorem before_iff (hx : x.Exists) (hy : y.Exists) :
    x.Before y ↔ x.sinceEpoch < y.sinceEpoch := by
  constructor
  · intro h
    exact h.sinceEpoch_lt hx hy
  · intro h
    rcases before_trichotomy x y with hbefore | rfl | hafter
    · exact hbefore
    · omega
    · have := hafter.sinceEpoch_lt hy hx
      omega

theorem sinceEpoch_inj (hx : x.Exists) (hy : y.Exists) : x.sinceEpoch = y.sinceEpoch ↔ x = y := by
  constructor
  · intro h
    rw [← ofDays_sinceEpoch hx, h, ofDays_sinceEpoch hy]
  · rintro rfl
    rfl

end Order

theorem year_ofDays_pos {days : Int} (h : 0 ≤ days) : 1970 ≤ (ofDays days).year := by
  obtain ⟨hexists, hcount⟩ := ofDays_exists days
  have hfirst : (⟨1970, 1, 1⟩ : Date).Exists := ⟨by decide, by decide, by decide, by decide⟩
  have hzero : sinceEpoch ⟨1970, 1, 1⟩ = 0 := by decide
  by_contra hyear
  have hearly := Before.sinceEpoch_lt (.inl (Int.not_le.mp hyear)) hexists hfirst
  omega

end Date

/-! ## Moments -/

namespace Moment

/-- Milliseconds since midnight. -/
def timeOfDay (m : Moment) : Nat :=
  ((m.hour * 60 + m.minute) * 60 + m.second) * 1000 + m.millisecond

/-- Milliseconds since 1970 began. -/
def instant (m : Moment) : Int :=
  m.date.sinceEpoch * 86400000 + m.timeOfDay

/-- The date stands in the calendar and the time on a clock. -/
structure Exists (m : Moment) : Prop where
  date : m.date.Exists
  hour : m.hour < 24
  minute : m.minute < 60
  second : m.second < 60
  millisecond : m.millisecond < 1000

/-- The places of the numbers in the text of a moment. -/
def layout : List Text.Field :=
  [⟨4, true, '-'⟩, ⟨2, false, '-'⟩, ⟨2, false, 'T'⟩, ⟨2, false, ':'⟩,
    ⟨2, false, ':'⟩, ⟨2, false, '.'⟩, ⟨3, false, 'Z'⟩]

/-- The numbers of a moment, in the order of its text. -/
def numbers (m : Moment) : List Nat :=
  [m.date.year.toNat, m.date.month, m.date.day, m.hour, m.minute, m.second, m.millisecond]

/-- The moment that a text denotes. -/
def read? (text : String) : Option Moment :=
  match Text.readRow layout text.toList with
  | some [year, month, day, hour, minute, second, millisecond] =>
    some ⟨⟨year, month, day⟩, hour, minute, second, millisecond⟩
  | _ => none

section Text

variable {m other : Moment}

theorem toList_render (h : 0 ≤ m.date.year) :
    m.render.toList = Text.writeRow layout m.numbers := by
  simp [render, renderYear, h, layout, numbers, Text.writeRow, Text.Field.write]

/-- The numbers but for the year have their digits. -/
theorem Exists.numbers_lt (h : m.Exists) : m.date.month < 100 ∧ m.date.day < 100 ∧
    m.hour < 100 ∧
    m.minute < 100 ∧ m.second < 100 ∧ m.millisecond < 1000 := by
  obtain ⟨⟨-, hmonth, -, hday⟩, hhour, hminute, hsecond, hmilli⟩ := h
  have hlength := Date.monthLength_bounds m.date.year m.date.month
  omega

theorem Exists.numbers_fit (h : m.Exists) : List.Forall₂ Text.Field.Fits layout m.numbers := by
  obtain ⟨hmonth, hday, hhour, hminute, hsecond, hmilli⟩ := h.numbers_lt
  have hfits {width : Nat} {stop : Char} {n : Nat} (hstop : stop.isDigit = false) (hpos : 0 < width)
      (hlt : n < 10 ^ width) :
        Text.Field.Fits ⟨width, false, stop⟩ n := ⟨hstop, hpos, fun _ => hlt⟩
  have hyear : Text.Field.Fits ⟨4, true, '-'⟩ m.date.year.toNat :=
    ⟨by decide, by decide, fun h => absurd h (by decide)⟩
  exact .cons hyear (.cons (hfits (by decide) (by decide) hmonth)
    (.cons (hfits (by decide) (by decide) hday) (.cons (hfits (by decide) (by decide) hhour)
    (.cons (hfits (by decide) (by decide) hminute) (.cons (hfits (by decide) (by decide) hsecond)
    (.cons (hfits (by decide) (by decide) hmilli) .nil))))))

theorem Exists.numbers_fill (h : m.Exists) (hyear : m.date.year ≤ 9999) :
    List.Forall₂ Text.Field.Fills layout m.numbers := by
  obtain ⟨hmonth, hday, hhour, hminute, hsecond, hmilli⟩ := h.numbers_lt
  have hdigits : m.date.year.toNat < 10000 := by omega
  exact .cons ⟨by decide, hdigits⟩ (.cons ⟨by decide, hmonth⟩ (.cons ⟨by decide, hday⟩
    (.cons ⟨by decide, hhour⟩ (.cons ⟨by decide, hminute⟩ (.cons ⟨by decide, hsecond⟩
    (.cons ⟨by decide, hmilli⟩ .nil))))))

theorem Exists.read_render (h : m.Exists) (hyear : 0 ≤ m.date.year) :
    read? m.render = some m := by
  rw [read?, toList_render hyear, Text.readRow_writeRow h.numbers_fit]
  obtain ⟨⟨year, month, day⟩, hour, minute, second, millisecond⟩ := m
  simp only [numbers, Int.toNat_of_nonneg hyear]

/-- The numbers of two moments sort as their instants. -/
theorem Exists.numbers_lt_iff (h : m.Exists) (h' : other.Exists) (hyear : 0 ≤ m.date.year)
    (hyear' : 0 ≤ other.date.year) : m.numbers < other.numbers ↔ m.instant < other.instant := by
  have hdates := Date.before_iff h.date h'.date
  have hsame := Date.sinceEpoch_inj h.date h'.date
  obtain ⟨⟨year, month, day⟩, hour, minute, second, milli⟩ := m
  obtain ⟨⟨year', month', day'⟩, hour', minute', second', milli'⟩ := other
  obtain ⟨-, hhour, hminute, hsecond, hmilli⟩ := h
  obtain ⟨-, hhour', hminute', hsecond', hmilli'⟩ := h'
  simp only [numbers, List.cons_lt_cons_iff, List.not_lt_nil, and_false, or_false, instant,
    timeOfDay, Date.Before, Date.mk.injEq] at *
  omega

theorem Exists.instant_inj (h : m.Exists) (h' : other.Exists) :
    m.instant = other.instant ↔ m = other := by
  have hsame := Date.sinceEpoch_inj h.date h'.date
  obtain ⟨date, hour, minute, second, milli⟩ := m
  obtain ⟨date', hour', minute', second', milli'⟩ := other
  obtain ⟨-, hhour, hminute, hsecond, hmilli⟩ := h
  obtain ⟨-, hhour', hminute', hsecond', hmilli'⟩ := h'
  simp only [instant, timeOfDay, Moment.mk.injEq] at *
  rw [← hsame]
  omega

end Text
end Moment

namespace Clock

/-- The clock shows a time of 1970 or later. -/
structure SinceEpoch (c : Clock) : Prop where
  seconds : 0 ≤ c.seconds
  nanoseconds : c.nanoseconds < 1000000000

/-- Milliseconds since 1970 began. -/
def milliseconds (c : Clock) : Int :=
  c.seconds * 1000 + c.nanoseconds / 1000000

namespace SinceEpoch

variable {c other : Clock}

theorem moment_eq (h : c.SinceEpoch) : c.moment = Moment.ofEpoch c.seconds.toNat c.nanoseconds :=
  if_neg (Int.not_lt.mpr h.seconds)

theorem moment_exists (h : c.SinceEpoch) : c.moment.Exists := by
  have hnanoseconds := h.nanoseconds
  rw [h.moment_eq]
  constructor
  case date => exact (Date.ofDays_exists _).1
  all_goals
    unfold Moment.ofEpoch
    dsimp only
    omega

theorem instant_moment (h : c.SinceEpoch) : c.moment.instant = c.milliseconds := by
  have hseconds := h.seconds
  rw [h.moment_eq]
  unfold Moment.instant Moment.timeOfDay Moment.ofEpoch Clock.milliseconds
  dsimp only
  rw [(Date.ofDays_exists _).2]
  omega

theorem year_nonneg (h : c.SinceEpoch) : 0 ≤ c.moment.date.year := by
  have hyear : 1970 ≤ c.moment.date.year := by
    rw [h.moment_eq]
    exact Date.year_ofDays_pos (Int.natCast_nonneg _)
  omega

theorem read_timestamp (h : c.SinceEpoch) : Moment.read? c.timestamp = some c.moment :=
  h.moment_exists.read_render h.year_nonneg

theorem toList_timestamp (h : c.SinceEpoch) :
    c.timestamp.toList = Text.writeRow Moment.layout c.moment.numbers :=
  Moment.toList_render h.year_nonneg

end SinceEpoch

/-- **A timestamp denotes the millisecond of the clock, and timestamps sort in time order.**  The
text is read back as a moment that exists and whose instant the clock shows. Up to the year 9999 it
has 24 characters, and of two texts the smaller one is the earlier one. -/
theorem timestamp_denotes_and_sorts {c other : Clock} (h : c.SinceEpoch) (h' : other.SinceEpoch) :
    (∃ m, Moment.read? c.timestamp = some m ∧ m.Exists ∧ m.instant = c.milliseconds) ∧
    (c.moment.date.year ≤ 9999 → other.moment.date.year ≤ 9999 →
      c.timestamp.length = 24 ∧
      (c.timestamp < other.timestamp ↔ c.milliseconds < other.milliseconds) ∧
      (c.timestamp = other.timestamp ↔ c.milliseconds = other.milliseconds)) := by
  refine ⟨⟨c.moment, h.read_timestamp, h.moment_exists, h.instant_moment⟩,
    fun hyear hyear' => ?_⟩
  have hfill := h.moment_exists.numbers_fill hyear
  have hfill' := h'.moment_exists.numbers_fill hyear'
  rw [← h.instant_moment, ← h'.instant_moment]
  refine ⟨?_, ?_, ?_⟩
  · rw [← String.length_toList, h.toList_timestamp, Text.length_writeRow hfill]
    rfl
  · change c.timestamp.toList < other.timestamp.toList ↔ _
    rw [h.toList_timestamp, h'.toList_timestamp, Text.writeRow_lt_iff hfill hfill']
    exact h.moment_exists.numbers_lt_iff h'.moment_exists h.year_nonneg h'.year_nonneg
  · rw [h.moment_exists.instant_inj h'.moment_exists]
    constructor
    · intro heq
      have hread := h.read_timestamp
      rw [heq, h'.read_timestamp] at hread
      exact (Option.some.inj hread).symm
    · intro heq
      rw [timestamp, timestamp, heq]

/-- The last millisecond of a leap day and the first of the next month. -/
theorem leap_day_sorts_before_march :
    SinceEpoch ⟨951868799, 999999999⟩ ∧ SinceEpoch ⟨951868800, 0⟩ ∧
    (∃ m, Moment.read? (timestamp ⟨951868799, 999999999⟩) = some m ∧ m.Exists ∧
      m.instant = 951868799999) ∧
    (timestamp ⟨951868799, 999999999⟩).length = 24 ∧
    timestamp ⟨951868799, 999999999⟩ < timestamp ⟨951868800, 0⟩ := by
  have h : SinceEpoch ⟨951868799, 999999999⟩ := ⟨by decide, by decide⟩
  have h' : SinceEpoch ⟨951868800, 0⟩ := ⟨by decide, by decide⟩
  obtain ⟨hread, hsort⟩ := timestamp_denotes_and_sorts h h'
  obtain ⟨hlength, hlt, -⟩ := hsort (by decide) (by decide)
  exact ⟨h, h', hread, hlength, hlt.mpr (by decide)⟩

end Clock
end PolledChannels
