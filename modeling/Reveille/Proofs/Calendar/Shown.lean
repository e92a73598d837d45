import Reveille.Calendar.Instant
import Reveille.Proofs.Calendar.Dates
import Reveille.Proofs.Calendar.Literals
import Reveille.Proofs.Text.Digits

/-!
# Times and dates as they are shown

All fields but the year have a fixed width, so the text of a time of day, of a date and of a
second in UTC tells which one it is.
-/

namespace Reveille

open Reveille.Calendar Reveille.Text

/-! ### Times of day -/

/-- A whole second of the day, or a leap second as a whole. -/
def Calendar.TimeOfDay.IsWhole (t : TimeOfDay) : Prop :=
  t.second < 86400 ∧ (t.nanos = 0 ∨ t.nanos = nanosPerSecond ∧ t.second % 60 = 59)

theorem fields_lt {t : TimeOfDay} (whole : t.IsWhole) :
    t.hour < 100 ∧ t.minute < 100 ∧ t.secondOfMinute < 100 := by
  obtain ⟨ofDay, nanos⟩ := whole
  unfold nanosPerSecond at nanos
  unfold TimeOfDay.hour TimeOfDay.minute TimeOfDay.secondOfMinute nanosPerSecond
  omega

theorem length_padded_two {n : Nat} (small : n < 100) : (padded 2 n).toList.length = 2 :=
  length_padded ((Nat.length_toDigits_le_iff (by decide) Nat.two_pos).mpr small)

theorem length_clockText {t : TimeOfDay} (whole : t.IsWhole) : t.clockText.toList.length = 8 := by
  obtain ⟨hour, minute, second⟩ := fields_lt whole
  simp only [TimeOfDay.clockText, String.toList_append, List.length_append,
    length_padded_two hour, length_padded_two minute, length_padded_two second,
    String.reduceToList, List.length_cons, List.length_nil]

theorem padded_delimits {n m : Nat} (small : n < 100) (small' : m < 100) {x y : List Char}
    (same : (padded 2 n).toList ++ x = (padded 2 m).toList ++ y) : n = m ∧ x = y := by
  obtain ⟨digits, rest⟩ := List.append_inj same
    ((length_padded_two small).trans (length_padded_two small').symm)
  refine ⟨?_, rest⟩
  rw [← ofDigits_padded 2 n, digits, ofDigits_padded]

theorem clockText_inj {t u : TimeOfDay} (whole : t.IsWhole) (whole' : u.IsWhole)
    (same : t.clockText.toList = u.clockText.toList) : t = u := by
  obtain ⟨hour, minute, second⟩ := fields_lt whole
  obtain ⟨hour', minute', second'⟩ := fields_lt whole'
  simp only [TimeOfDay.clockText, String.toList_append, List.append_assoc] at same
  obtain ⟨hours, same⟩ := padded_delimits hour hour' same
  obtain ⟨minutes, same⟩ := padded_delimits minute minute' (List.append_cancel_left same)
  have seconds := (padded_delimits second second' (congrArg (· ++ [])
    (List.append_cancel_left same))).1
  obtain ⟨s, n⟩ := t
  obtain ⟨s', n'⟩ := u
  obtain ⟨ofDay, nanos⟩ := whole
  obtain ⟨ofDay', nanos'⟩ := whole'
  simp only [TimeOfDay.hour, TimeOfDay.minute, TimeOfDay.secondOfMinute, nanosPerSecond]
    at hours minutes seconds ofDay ofDay' nanos nanos'
  -- Second 60 is shown for a leap second only.
  have leap : n = n' := by omega
  have ofDays : s = s' := by omega
  rw [leap, ofDays]

/-- A clock text starts with a digit. -/
theorem head?_clockText (t : TimeOfDay) :
    ∃ d, t.clockText.toList.head? = some d ∧ d.isDigit = true := by
  obtain ⟨d, s, text⟩ := List.exists_cons_of_ne_nil (padded_ne_nil 2 t.hour)
  refine ⟨d, ?_, isDigit_of_mem_padded (by rw [text]; exact List.mem_cons_self)⟩
  rw [TimeOfDay.clockText, String.toList_append, String.toList_append, String.toList_append,
    String.toList_append, text]
  rfl

theorem Calendar.isWhole_of_isTime {s : List Char} {t : TimeOfDay} (time : IsTime s t) :
    t.IsWhole := by
  cases time with
  | hour hour =>
    obtain ⟨_, _, -, -, -, -, hour⟩ := hour
    exact ⟨by dsimp only; omega, .inl rfl⟩
  | minute hour minute =>
    obtain ⟨_, _, -, -, -, -, hour⟩ := hour
    obtain ⟨_, _, -, -, -, -, minute⟩ := minute
    exact ⟨by dsimp only; omega, .inl rfl⟩
  | second hour minute second =>
    obtain ⟨_, _, -, -, -, -, hour⟩ := hour
    obtain ⟨_, _, -, -, -, -, minute⟩ := minute
    obtain ⟨_, _, -, -, -, -, second⟩ := second
    exact ⟨by dsimp only; omega, .inl rfl⟩

/-! ### Dates -/

namespace Calendar

theorem padded_inj {width n n' : Nat}
    (same : (padded width n).toList = (padded width n').toList) : n = n' := by
  rw [← ofDigits_padded width n, same, ofDigits_padded]

theorem sign_notMem_padded {sign : Char} (noDigit : sign.isDigit = false) (width n : Nat) :
    sign ∉ (padded width n).toList := by
  intro mem
  rw [isDigit_of_mem_padded mem] at noDigit
  cases noDigit

theorem signed_inj {year year' : Int}
    (same : (if year < 0 then "-" else "+").toList ++ (padded 4 year.natAbs).toList =
      (if year' < 0 then "-" else "+").toList ++ (padded 4 year'.natAbs).toList) :
    year = year' := by
  by_cases before : year < 0
  · by_cases before' : year' < 0
    · rw [if_pos before, if_pos before'] at same
      have absolute := padded_inj (List.append_cancel_left same)
      omega
    · rw [if_pos before, if_neg before'] at same
      exact absurd (List.cons.inj same).1 (by decide)
  · by_cases before' : year' < 0
    · rw [if_neg before, if_pos before'] at same
      exact absurd (List.cons.inj same).1 (by decide)
    · rw [if_neg before, if_neg before'] at same
      have absolute := padded_inj (List.append_cancel_left same)
      omega

theorem ne_signed (n width n' : Nat) (year : Int) :
    (padded width n).toList ≠
      (if year < 0 then "-" else "+").toList ++ (padded 4 n').toList := by
  intro same
  split at same
  · have sign : '-' ∈ (padded width n).toList := by
      rw [same]
      exact List.mem_cons_self
    exact sign_notMem_padded (by decide) width n sign
  · have sign : '+' ∈ (padded width n).toList := by
      rw [same]
      exact List.mem_cons_self
    exact sign_notMem_padded (by decide) width n sign

/-- Four digits without a sign are a year from 0 to 9999, and no other year has that text. -/
theorem yearText_inj {year year' : Int}
    (same : (Date.yearText year).toList = (Date.yearText year').toList) : year = year' := by
  unfold Date.yearText at same
  by_cases short : 0 ≤ year ∧ year ≤ 9999
  · by_cases short' : 0 ≤ year' ∧ year' ≤ 9999
    · rw [if_pos short, if_pos short'] at same
      have values := padded_inj same
      omega
    · rw [if_pos short, if_neg short', String.toList_append] at same
      exact absurd same (ne_signed year.toNat 4 year'.natAbs year')
  · by_cases short' : 0 ≤ year' ∧ year' ≤ 9999
    · rw [if_neg short, if_pos short', String.toList_append] at same
      exact absurd same.symm (ne_signed year'.toNat 4 year.natAbs year)
    · rw [if_neg short, if_neg short', String.toList_append, String.toList_append] at same
      exact signed_inj same

theorem dateText_inj {d d' : Date} (small : d.month < 100 ∧ d.day < 100)
    (small' : d'.month < 100 ∧ d'.day < 100) (same : d.text.toList = d'.text.toList) : d = d' := by
  obtain ⟨year, month, day⟩ := d
  obtain ⟨year', month', day'⟩ := d'
  obtain ⟨months, days⟩ := small
  obtain ⟨months', days'⟩ := small'
  simp only [Date.text, String.toList_append, List.append_assoc] at same
  obtain ⟨years, same⟩ := List.append_inj' same (by
    simp only [List.length_append, length_padded_two months, length_padded_two months',
      length_padded_two days, length_padded_two days'])
  obtain ⟨sameMonth, same⟩ := padded_delimits months months' (List.append_cancel_left same)
  have sameDay : (padded 2 day).toList = (padded 2 day').toList := List.append_cancel_left same
  rw [Date.mk.injEq]
  exact ⟨yearText_inj years, sameMonth, padded_inj sameDay⟩

/-! ### Seconds in UTC -/

theorem isWhole_toLocal (epoch : Int) : (Instant.ofEpoch epoch).toLocal.time.IsWhole := by
  unfold Instant.toLocal Instant.ofEpoch LocalTime.ofSeconds secondsPerDay TimeOfDay.IsWhole
  dsimp only
  omega

theorem epoch_inj {epoch epoch' : Int}
    (days : (Instant.ofEpoch epoch).toLocal.days = (Instant.ofEpoch epoch').toLocal.days)
    (time : (Instant.ofEpoch epoch).toLocal.time = (Instant.ofEpoch epoch').toLocal.time) :
    epoch = epoch' := by
  unfold Instant.toLocal Instant.ofEpoch LocalTime.ofSeconds secondsPerDay at days time
  rw [TimeOfDay.mk.injEq] at time
  dsimp only at days time
  omega

theorem toList_utcText (epoch : Int) :
    ((Instant.ofEpoch epoch).toLocal.textWith "T" ++ "Z").toList =
      (Instant.ofEpoch epoch).toLocal.date.text.toList ++
        ('T' :: ((Instant.ofEpoch epoch).toLocal.time.clockText.toList ++ ['Z'])) := by
  have whole : (Instant.ofEpoch epoch).toLocal.time.fractionText = "" := rfl
  simp [LocalTime.textWith, TimeOfDay.text, whole]

/-- Two seconds that have dates are not shown alike. -/
theorem utcText_inj {epoch epoch' : Int} (dated : Instant.isDated epoch = true)
    (same : Instant.utcText? epoch = Instant.utcText? epoch') : epoch = epoch' := by
  unfold Instant.utcText? at same
  rw [if_pos dated] at same
  split at same
  · have texts := congrArg String.toList (Option.some.inj same)
    rw [toList_utcText, toList_utcText] at texts
    obtain ⟨dates, clocks⟩ := List.append_inj' texts (by
      simp only [List.length_cons, List.length_append, length_clockText (isWhole_toLocal _)])
    have clocks := List.append_cancel_right (List.cons.inj clocks).2
    apply epoch_inj
    · apply Date.ofDays_inj
      exact dateText_inj (Date.fields_ofDays_lt _) (Date.fields_ofDays_lt _) dates
    · exact clockText_inj (isWhole_toLocal epoch) (isWhole_toLocal epoch') clocks
  · cases same

end Calendar

end Reveille
