import Mathlib.Data.Nat.Find
import Mathlib.Data.List.TakeWhile
import Mathlib.Algebra.Order.Ring.Int
import MindscapeLocalCore.Library.NumberText

/-!
Dates and times of Python with the offset from UTC that they are written with, the moments that
they stand for, and their ISO text.
-/

namespace MindscapeLocalCore.Library.DateTimes

def dayLength : ℕ := 86400000000

/-- Microseconds from the start of year 1 to the end of year 9999. -/
def wallBound : ℕ := 3652059 * dayLength

structure DateTime where
  /-- microseconds of the wall clock since the start of year 1 -/
  wall : ℕ
  /-- microseconds that the wall clock is ahead of UTC; a naive time has no offset -/
  offset : Option ℤ
  wall_lt : wall < wallBound
  offset_lt : ∀ o ∈ offset, o.natAbs < dayLength
  deriving DecidableEq

def DateTime.moment (d : DateTime) : Bool × ℤ :=
  (d.offset.isSome, d.wall - d.offset.getD 0)

/-- `a <= b`, which raises for a naive time and one with an offset. -/
def le? (a b : DateTime) : Option Bool :=
  if a.moment.1 = b.moment.1 then some (decide (a.moment.2 ≤ b.moment.2)) else none

/-! ### Text -/

def pad (width n : ℕ) : List Char :=
  let digits := Nat.toDigits 10 n
  List.replicate (width - digits.length) '0' ++ digits

def daysBeforeYear (year : ℕ) : ℕ := 365 * year + year / 4 - year / 100 + year / 400

def isLeap (year : ℕ) : Bool :=
  year % 4 = 0 && (year % 100 ≠ 0 || year % 400 = 0)

def daysBeforeMonth (leap : Bool) (month : ℕ) : ℕ :=
  [0, 31, 59, 90, 120, 151, 181, 212, 243, 273, 304, 334].getD month 0 +
    if leap && 2 ≤ month then 1 else 0

def yearOf (day : ℕ) : ℕ := Nat.findGreatest (fun year => daysBeforeYear year ≤ day) 9998

def monthOf (leap : Bool) (day : ℕ) : ℕ :=
  Nat.findGreatest (fun month => daysBeforeMonth leap month ≤ day) 11

def dateText (day : ℕ) : List Char :=
  let year := yearOf day
  let leap := isLeap (year + 1)
  let ofYear := day - daysBeforeYear year
  let month := monthOf leap ofYear
  pad 4 (year + 1) ++ '-' :: (pad 2 (month + 1) ++ '-' ::
    pad 2 (ofYear - daysBeforeMonth leap month + 1))

def fractionText (micros : ℕ) : List Char := if micros = 0 then [] else '.' :: pad 6 micros

def secondText (micros : ℕ) : List Char :=
  pad 2 (micros / 1000000) ++ fractionText (micros % 1000000)

def timeText (micros : ℕ) : List Char :=
  pad 2 (micros / 3600000000) ++ ':' :: (pad 2 (micros / 60000000 % 60) ++ ':' ::
    secondText (micros % 60000000))

def offsetText : Option ℤ → List Char
  | none => []
  | some o =>
      (if o < 0 then '-' else '+') :: (pad 2 (o.natAbs / 3600000000) ++ ':' ::
        (pad 2 (o.natAbs / 60000000 % 60) ++
          if o.natAbs % 60000000 = 0 then [] else ':' :: secondText (o.natAbs % 60000000)))

def isoformat (d : DateTime) : String :=
  String.ofList (dateText (d.wall / dayLength) ++ 'T' ::
    (timeText (d.wall % dayLength) ++ offsetText d.offset))

/-! ### Reading the text -/

variable {a r r' : List Char} {m n width : ℕ}

/-- The text does not go on with a digit. -/
def Stops (r : List Char) : Prop := ∀ c ∈ r.head?, c.isDigit = false

theorem stops_cons {c : Char} (h : c.isDigit = false) : Stops (c :: r) := by
  rintro _ ⟨⟩
  exact h

theorem takeWhile_of_stops (ha : ∀ c ∈ a, c.isDigit = true) (hr : Stops r) :
    (a ++ r).takeWhile Char.isDigit = a := by
  rw [List.takeWhile_append_of_pos ha]
  cases r with
  | nil => exact List.append_nil a
  | cons c r =>
      rw [List.takeWhile_cons, hr c rfl]
      exact List.append_nil a

theorem isDigit_of_mem_pad {c : Char} (h : c ∈ pad width n) : c.isDigit = true := by
  rcases List.mem_append.mp h with hzero | hdigit
  · rw [(List.mem_replicate.mp hzero).2]
    decide
  · exact Nat.isDigit_of_mem_toDigits (by decide) (by decide) hdigit

theorem pad_inj (h : pad width m = pad width n) : m = n := by
  have hvalue := congrArg (fun digits => Nat.ofDigitChars 10 digits 0) h
  simpa only [pad, Nat.ofDigitChars_append, Nat.ofDigitChars_replicate_zero, Nat.mul_zero,
    Nat.ofDigitChars_ten_toDigits] using hvalue

theorem pad_append_inj (hr : Stops r) (hr' : Stops r') (h : pad width m ++ r = pad width n ++ r') :
    m = n ∧ r = r' := by
  have hdigits := congrArg (List.takeWhile Char.isDigit) h
  rw [takeWhile_of_stops (fun _ => isDigit_of_mem_pad) hr,
    takeWhile_of_stops (fun _ => isDigit_of_mem_pad) hr'] at hdigits
  rw [hdigits] at h
  exact ⟨pad_inj hdigits, List.append_cancel_left h⟩

theorem pad_cons_inj {c : Char} (hc : c.isDigit = false)
    (h : pad width m ++ c :: r = pad width n ++ c :: r') : m = n ∧ r = r' := by
  obtain ⟨hn, hr⟩ := pad_append_inj (stops_cons hc) (stops_cons hc) h
  exact ⟨hn, (List.cons.inj hr).2⟩

theorem daysBeforeYear_yearOf_le (day : ℕ) : daysBeforeYear (yearOf day) ≤ day :=
  Nat.findGreatest_spec (P := fun year => daysBeforeYear year ≤ day) (Nat.zero_le _) (Nat.zero_le _)

theorem daysBeforeMonth_monthOf_le (leap : Bool) (day : ℕ) :
    daysBeforeMonth leap (monthOf leap day) ≤ day := by
  have hzero : daysBeforeMonth leap 0 ≤ day := by
    cases leap <;> exact Nat.zero_le day
  exact Nat.findGreatest_spec (P := fun month => daysBeforeMonth leap month ≤ day)
    (Nat.zero_le _) hzero

theorem dateText_append_inj (h : dateText m ++ 'T' :: r = dateText n ++ 'T' :: r') :
    m = n ∧ r = r' := by
  simp only [dateText, List.append_assoc, List.cons_append] at h
  obtain ⟨hyear, h⟩ := pad_cons_inj (by decide) h
  obtain ⟨hmonth, h⟩ := pad_cons_inj (by decide) h
  obtain ⟨hday, h⟩ := pad_cons_inj (by decide) h
  have hyear : yearOf m = yearOf n := Nat.succ.inj hyear
  refine ⟨?_, h⟩
  have hm := daysBeforeYear_yearOf_le m
  have hn := daysBeforeYear_yearOf_le n
  have hm' := daysBeforeMonth_monthOf_le (isLeap (yearOf m + 1)) (m - daysBeforeYear (yearOf m))
  have hn' := daysBeforeMonth_monthOf_le (isLeap (yearOf n + 1)) (n - daysBeforeYear (yearOf n))
  have hmonth := Nat.succ.inj hmonth
  have hday := Nat.succ.inj hday
  rw [← hyear] at hn hn' hmonth hday
  rw [hmonth] at hm' hday
  omega

theorem fractionText_append_inj (hr : Stops r) (hr' : Stops r') (hdot : '.' ∉ r.head?)
    (hdot' : '.' ∉ r'.head?) (h : fractionText m ++ r = fractionText n ++ r') : m = n ∧ r = r' := by
  rw [fractionText, fractionText] at h
  split at h
  · rename_i hm
    split at h
    · rename_i hn
      exact ⟨hm.trans hn.symm, h⟩
    · rw [List.nil_append] at h
      rw [h] at hdot
      exact absurd rfl hdot
  · split at h
    · rw [List.nil_append] at h
      rw [← h] at hdot'
      exact absurd rfl hdot'
    · exact pad_append_inj hr hr' (List.cons.inj h).2

theorem stops_fractionText_append (hr : Stops r) : Stops (fractionText n ++ r) := by
  rw [fractionText]
  split
  · exact hr
  · exact stops_cons (by decide)

theorem secondText_append_inj (hr : Stops r) (hr' : Stops r') (hdot : '.' ∉ r.head?)
    (hdot' : '.' ∉ r'.head?) (h : secondText m ++ r = secondText n ++ r') : m = n ∧ r = r' := by
  rw [secondText, secondText, List.append_assoc, List.append_assoc] at h
  obtain ⟨hseconds, h⟩ := pad_append_inj (stops_fractionText_append hr)
    (stops_fractionText_append hr') h
  obtain ⟨hmicros, h⟩ := fractionText_append_inj hr hr' hdot hdot' h
  exact ⟨by omega, h⟩

theorem timeText_append_inj (hr : Stops r) (hr' : Stops r') (hdot : '.' ∉ r.head?)
    (hdot' : '.' ∉ r'.head?) (h : timeText m ++ r = timeText n ++ r') : m = n ∧ r = r' := by
  simp only [timeText, List.append_assoc, List.cons_append] at h
  obtain ⟨hhours, h⟩ := pad_cons_inj (by decide) h
  obtain ⟨hminutes, h⟩ := pad_cons_inj (by decide) h
  obtain ⟨hseconds, h⟩ := secondText_append_inj hr hr' hdot hdot' h
  exact ⟨by omega, h⟩

theorem natAbs_inj_of_sign {o o' : ℤ} (hsign : o < 0 ↔ o' < 0) (h : o.natAbs = o'.natAbs) :
    o = o' := by
  omega

theorem offsetText_inj {o o' : Option ℤ} (h : offsetText o = offsetText o') : o = o' := by
  cases o with
  | none =>
      cases o' with
      | none => rfl
      | some o' => cases h
  | some o =>
      cases o' with
      | none => cases h
      | some o' =>
          obtain ⟨hsign, h⟩ := List.cons.inj h
          obtain ⟨hhours, h⟩ := pad_cons_inj (by decide) h
          have hstops : ∀ o : ℤ, Stops
              (if o.natAbs % 60000000 = 0 then [] else ':' :: secondText (o.natAbs % 60000000)) := by
            intro o
            split
            · rintro _ ⟨⟩
            · exact stops_cons (by decide)
          obtain ⟨hminutes, h⟩ := pad_append_inj (hstops o) (hstops o') h
          have hrest : o.natAbs % 60000000 = o'.natAbs % 60000000 := by
            split at h
            · rename_i hzero
              split at h
              · rename_i hzero'
                exact hzero.trans hzero'.symm
              · cases h
            · split at h
              · cases h
              · have hseconds : secondText (o.natAbs % 60000000) ++ [] =
                    secondText (o'.natAbs % 60000000) ++ [] := by
                  rw [List.append_nil, List.append_nil]
                  exact (List.cons.inj h).2
                have hnil : Stops [] := by rintro _ ⟨⟩
                have hdot : '.' ∉ ([] : List Char).head? := by rintro ⟨⟩
                exact (secondText_append_inj hnil hnil hdot hdot hseconds).1
          have habs : o.natAbs = o'.natAbs := by omega
          have hsigns : o < 0 ↔ o' < 0 := by
            split at hsign
            · rename_i hneg
              split at hsign
              · rename_i hneg'
                exact iff_of_true hneg hneg'
              · exact absurd hsign (by decide)
            · rename_i hpos
              split at hsign
              · exact absurd hsign (by decide)
              · rename_i hpos'
                exact iff_of_false hpos hpos'
          rw [natAbs_inj_of_sign hsigns habs]

theorem offsetText_head (o : Option ℤ) :
    Stops (offsetText o) ∧ '.' ∉ (offsetText o).head? := by
  cases o with
  | none =>
      constructor
      · rintro _ ⟨⟩
      · rintro ⟨⟩
  | some o =>
      rw [offsetText]
      split
      · exact ⟨stops_cons (by decide), by rintro ⟨⟩⟩
      · exact ⟨stops_cons (by decide), by rintro ⟨⟩⟩

theorem isoformat_inj {d d' : DateTime} : isoformat d = isoformat d' ↔ d = d' := by
  constructor
  · intro h
    obtain ⟨hdays, h⟩ := dateText_append_inj (String.ofList_injective h)
    obtain ⟨hstops, hdot⟩ := offsetText_head d.offset
    obtain ⟨hstops', hdot'⟩ := offsetText_head d'.offset
    obtain ⟨htime, h⟩ := timeText_append_inj hstops hstops' hdot hdot' h
    have hoffset := offsetText_inj h
    have hwall : d.wall = d'.wall := by
      rw [← Nat.div_add_mod d.wall dayLength, hdays, htime, Nat.div_add_mod]
    cases d with
    | mk wall offset wall_lt offset_lt =>
        cases d' with
        | mk wall' offset' wall_lt' offset_lt' =>
            obtain rfl : wall = wall' := hwall
            obtain rfl : offset = offset' := hoffset
            rfl
  · rintro rfl
    rfl

end MindscapeLocalCore.Library.DateTimes
