import Reveille.Calendar.Date

/-!
# Days as dates

A date tells the day that it was made of, in every era of 400 years. So two days never have the
same date.
-/

namespace Reveille.Calendar.Date

/-! ### Days of an era

An era is four centuries, a century 25 times four years. A leap day ends four years, except that
of a century other than the last one of its era.
-/

theorem exists_parts {day : Nat} (inEra : day < 146097) : ∃ century quad year rest : Nat,
    day = 36524 * century + 1461 * quad + 365 * year + rest ∧ century ≤ 3 ∧ quad ≤ 24 ∧ year ≤ 3 ∧
      rest ≤ 365 ∧ (rest = 365 → year = 3 ∧ (quad = 24 → century = 3)) := by
  obtain ⟨century, rest, ofCentury⟩ : ∃ century rest : Nat, day = 36524 * century + rest ∧
      century ≤ 3 ∧ rest ≤ 36524 ∧ (rest = 36524 → century = 3) :=
    ⟨min (day / 36524) 3, day - 36524 * min (day / 36524) 3, by omega⟩
  obtain ⟨quad, rest', ofQuad⟩ : ∃ quad rest' : Nat, rest = 1461 * quad + rest' ∧ rest' < 1461 :=
    ⟨rest / 1461, rest % 1461, by omega⟩
  exact ⟨century, quad, min (rest' / 365) 3, rest' - 365 * min (rest' / 365) 3, by omega⟩

theorem yearOfEra_eq {century quad year rest : Nat} (centuries : century ≤ 3) (quads : quad ≤ 24)
    (years : year ≤ 3) (days : rest ≤ 365)
    (leap : rest = 365 → year = 3 ∧ (quad = 24 → century = 3)) {day : Nat}
    (parts : day = 36524 * century + 1461 * quad + 365 * year + rest) :
    (day - day / 1460 + day / 36524 - day / 146096) / 365 = 100 * century + 4 * quad + year := by
  -- The last day of the era is the first one that a fifth century would have.
  have ofCentury : day / 36524 = century + day / 146096 := by
    by_cases last : rest = 365 ∧ quad = 24
    · obtain ⟨rfl, rfl⟩ := last
      obtain ⟨rfl, era⟩ := leap rfl
      obtain rfl := era rfl
      omega
    · have short : day / 146096 = 0 := by omega
      omega
  by_cases late : 1460 ≤ 24 * century + quad + 365 * year + rest
  · have quadsOfDay : day / 1460 = 25 * century + quad + 1 := by omega
    omega
  · have quadsOfDay : day / 1460 = 25 * century + quad := by omega
    omega

theorem daysBefore_eq (century : Nat) {quad year y : Nat} (quads : quad ≤ 24) (years : year ≤ 3)
    (parts : y = 100 * century + 4 * quad + year) :
    365 * y + y / 4 - y / 100 = 36524 * century + 1461 * quad + 365 * year := by
  omega

/-- The date of a day of a year that starts on 1 March. -/
def ofMarch (year : Int) (day : Nat) : Date :=
  let month := (5 * day + 2) / 153
  { year := if month < 10 then year else year + 1
    month := if month < 10 then month + 3 else month - 9
    day := day - (153 * month + 2) / 5 + 1 }

theorem exists_ofMarch (days : Int) : ∃ (era : Int) (year day : Nat), year < 400 ∧ day ≤ 365 ∧
    days + 719468 = era * 146097 + (365 * year + year / 4 - year / 100 + day : Nat) ∧
    ofDays days = ofMarch (era * 400 + year) day := by
  obtain ⟨era, dayOfEra, split, inEra⟩ : ∃ (era : Int) (day : Nat),
      days + epochDay = era * eraDays + day ∧ day < 146097 := by
    unfold eraDays
    exact ⟨(days + epochDay) / 146097, ((days + epochDay) % 146097).toNat, by omega, by omega⟩
  have eras : (days + epochDay) / eraDays = era := by
    unfold eraDays at split ⊢
    omega
  have inside : ((days + epochDay) % eraDays).toNat = dayOfEra := by
    unfold eraDays at split ⊢
    omega
  obtain ⟨century, quad, year, day, parts, centuries, quads, years, ofYear, leap⟩ :=
    exists_parts inEra
  have yearOfEra := yearOfEra_eq centuries quads years ofYear leap parts
  have start := daysBefore_eq century quads years rfl
  have ofYearDay : dayOfEra - (36524 * century + 1461 * quad + 365 * year) = day := by
    omega
  refine ⟨era, 100 * century + 4 * quad + year, day, by omega, ofYear, ?_, ?_⟩
  · rw [start, ← parts]
    exact split
  · unfold ofDays
    simp only [eras, inside, yearOfEra, start, ofYearDay]
    rfl

theorem toDays_ofMarch {era : Int} {year day : Nat} (inEra : year < 400) (ofYear : day ≤ 365) :
    (ofMarch (era * 400 + year) day).toDays =
      era * 146097 + (365 * year + year / 4 - year / 100 + day : Nat) - 719468 := by
  have month : (5 * day + 2) / 153 ≤ 11 ∧ (153 * ((5 * day + 2) / 153) + 2) / 5 ≤ day := by omega
  unfold toDays ofMarch epochDay eraDays
  generalize (5 * day + 2) / 153 = m at month ⊢
  by_cases early : m < 10
  · have march : ¬ m + 3 ≤ 2 := by omega
    have back : (m + 3 + 9) % 12 = m := by omega
    simp only [if_pos early, if_neg march, back]
    omega
  · have january : m - 9 ≤ 2 := by omega
    have back : (m - 9 + 9) % 12 = m := by omega
    simp only [if_neg early, if_pos january, back]
    omega

theorem toDays_ofDays (days : Int) : (ofDays days).toDays = days := by
  obtain ⟨era, year, day, inEra, ofYear, split, same⟩ := exists_ofMarch days
  rw [same, toDays_ofMarch inEra ofYear]
  omega

theorem ofDays_inj {days days' : Int} (same : ofDays days = ofDays days') : days = days' := by
  rw [← toDays_ofDays days, same, toDays_ofDays]

theorem fields_ofDays_lt (days : Int) : (ofDays days).month < 100 ∧ (ofDays days).day < 100 := by
  obtain ⟨era, year, day, -, ofYear, -, same⟩ := exists_ofMarch days
  rw [same]
  unfold ofMarch
  constructor
  · dsimp only
    split <;> omega
  · dsimp only
    omega

end Reveille.Calendar.Date
