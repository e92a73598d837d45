import Mathlib.Data.List.Forall2
import Reveille.Calendar.TimeOfDay
import Reveille.Calendar.Weekday
import Reveille.Proofs.Text.Blank

/-!
# Literals of the calendar

`TimeOfDay.ofLiteral?` reads exactly the times `hh[:mm[:ss]]`, and `Weekday.ofName?` exactly the
two names of each weekday.
-/

namespace Reveille.Calendar

open Reveille.Text

/-- Two digits whose value is below the limit. -/
def IsField (limit : Nat) (s : List Char) (n : Nat) : Prop :=
  ∃ a b, s = [a, b] ∧ a.isDigit = true ∧ b.isDigit = true ∧
    10 * decimalValue a + decimalValue b = n ∧ n < limit

/-- One to three fields with colons between them; a missing one is zero. -/
inductive IsTime : List Char → TimeOfDay → Prop where
  | hour {a : List Char} {h : Nat} (hour : IsField 24 a h) : IsTime a ⟨3600 * h, 0⟩
  | minute {a b : List Char} {h m : Nat} (hour : IsField 24 a h) (minute : IsField 60 b m) :
      IsTime (a ++ ':' :: b) ⟨3600 * h + 60 * m, 0⟩
  | second {a b c : List Char} {h m s : Nat} (hour : IsField 24 a h) (minute : IsField 60 b m)
      (second : IsField 60 c s) :
      IsTime (a ++ ':' :: (b ++ ':' :: c)) ⟨3600 * h + 60 * m + s, 0⟩

/-! ### Times -/

theorem mapM_eq_some_iff {α β : Type} {f : α → Option β} {as : List α} {bs : List β} :
    as.mapM f = some bs ↔ List.Forall₂ (fun a b => f a = some b) as bs := by
  induction as generalizing bs with
  | nil => cases bs <;> simp
  | cons a as ih =>
    rw [List.mapM_cons]
    constructor
    · intro h
      obtain ⟨b, first, h⟩ := Option.bind_eq_some_iff.mp h
      obtain ⟨rest, later, h⟩ := Option.bind_eq_some_iff.mp h
      cases h
      exact .cons first (ih.mp later)
    · rintro (_ | ⟨first, later⟩)
      rw [first, ih.mpr later]
      rfl

theorem isField_iff {limit n : Nat} {s : List Char} :
    IsField limit s n ↔ TimeOfDay.twoDigits? s = some n ∧ n < limit := by
  constructor
  · rintro ⟨a, b, rfl, ha, hb, rfl, small⟩
    exact ⟨by simp [TimeOfDay.twoDigits?, ha, hb], small⟩
  · rintro ⟨read, small⟩
    unfold TimeOfDay.twoDigits? at read
    split at read
    · next a b =>
      split at read
      · next digits =>
        simp only [Bool.and_eq_true] at digits
        exact ⟨a, b, rfl, digits.1, digits.2, Option.some.inj read, small⟩
      · cases read
    · cases read

theorem colon_notMem_of_twoDigits {s : List Char} {n : Nat}
    (read : TimeOfDay.twoDigits? s = some n) : ':' ∉ s := by
  have field : IsField (n + 1) s n := isField_iff.mpr ⟨read, Nat.lt_succ_self n⟩
  obtain ⟨a, b, rfl, ha, hb, -, -⟩ := field
  intro mem
  rcases List.mem_pair.mp mem with rfl | rfl
  · exact absurd ha (by decide)
  · exact absurd hb (by decide)

theorem mapM_splitOn_eq_some_iff {s : List Char} {ns : List Nat} (some : ns ≠ []) :
    (s.splitOn ':').mapM TimeOfDay.twoDigits? = .some ns ↔
      ∃ parts, s = [':'].intercalate parts ∧
        List.Forall₂ (fun p n => TimeOfDay.twoDigits? p = .some n) parts ns := by
  constructor
  · intro h
    exact ⟨s.splitOn ':', (List.intercalate_splitOn ':').symm, mapM_eq_some_iff.mp h⟩
  · rintro ⟨parts, whole, fields⟩
    have clean : ∀ p ∈ parts, ':' ∉ p := by
      clear whole some
      induction fields with
      | nil => simp
      | cons read _ ih => exact List.forall_mem_cons.mpr ⟨colon_notMem_of_twoDigits read, ih⟩
    have nonempty : parts ≠ [] := by
      rintro rfl
      cases fields
      exact some rfl
    rw [(splitOn_eq_iff clean nonempty).mpr whole]
    exact mapM_eq_some_iff.mpr fields

theorem ofFields?_eq_some_iff {hour minute second : Nat} {t : TimeOfDay} :
    TimeOfDay.ofFields? hour minute second 0 = some t ↔
      hour < 24 ∧ minute < 60 ∧ second < 60 ∧
        (⟨3600 * hour + 60 * minute + second, 0⟩ : TimeOfDay) = t := by
  simp [TimeOfDay.ofFields?, nanosPerSecond, and_assoc]

theorem ofLiteral?_eq_some_iff {s : List Char} {t : TimeOfDay} :
    TimeOfDay.ofLiteral? s = some t ↔ IsTime s t := by
  unfold TimeOfDay.ofLiteral?
  rw [map_chars_split]
  constructor
  · intro h
    split at h
    · next read =>
      obtain ⟨parts, rfl, _ | ⟨first, _ | _⟩⟩ := (mapM_splitOn_eq_some_iff (by simp)).mp read
      obtain ⟨hh, -, -, rfl⟩ := ofFields?_eq_some_iff.mp h
      simpa using IsTime.hour (isField_iff.mpr ⟨first, hh⟩)
    · next read =>
      obtain ⟨parts, rfl, _ | ⟨first, _ | ⟨second, _ | _⟩⟩⟩ :=
        (mapM_splitOn_eq_some_iff (by simp)).mp read
      obtain ⟨hh, hm, -, rfl⟩ := ofFields?_eq_some_iff.mp h
      simpa using IsTime.minute (isField_iff.mpr ⟨first, hh⟩) (isField_iff.mpr ⟨second, hm⟩)
    · next read =>
      obtain ⟨parts, rfl, _ | ⟨first, _ | ⟨second, _ | ⟨third, _ | _⟩⟩⟩⟩ :=
        (mapM_splitOn_eq_some_iff (by simp)).mp read
      obtain ⟨hh, hm, hs, rfl⟩ := ofFields?_eq_some_iff.mp h
      simpa using IsTime.second (isField_iff.mpr ⟨first, hh⟩) (isField_iff.mpr ⟨second, hm⟩)
        (isField_iff.mpr ⟨third, hs⟩)
    · cases h
  · rintro (⟨fh⟩ | ⟨fh, fm⟩ | ⟨fh, fm, fs⟩)
    · obtain ⟨first, hh⟩ := isField_iff.mp fh
      rw [(mapM_splitOn_eq_some_iff (by simp)).mpr ⟨[s], by simp, .cons first .nil⟩]
      exact ofFields?_eq_some_iff.mpr ⟨hh, by decide, by decide, rfl⟩
    · obtain ⟨first, hh⟩ := isField_iff.mp fh
      obtain ⟨second, hm⟩ := isField_iff.mp fm
      rw [(mapM_splitOn_eq_some_iff (by simp)).mpr
        ⟨_, by simp, .cons first (.cons second .nil)⟩]
      exact ofFields?_eq_some_iff.mpr ⟨hh, hm, by decide, rfl⟩
    · obtain ⟨first, hh⟩ := isField_iff.mp fh
      obtain ⟨second, hm⟩ := isField_iff.mp fm
      obtain ⟨third, hs⟩ := isField_iff.mp fs
      rw [(mapM_splitOn_eq_some_iff (by simp)).mpr
        ⟨_, by simp, .cons first (.cons second (.cons third .nil))⟩]
      exact ofFields?_eq_some_iff.mpr ⟨hh, hm, hs, rfl⟩

/-! ### Weekdays -/

theorem ofName?_eq_some_iff {name : List Char} {d : Weekday} :
    Weekday.ofName? name = some d ↔ d.fullName.toList = name ∨ d.shortName.toList = name := by
  constructor
  · intro h
    simpa using List.find?_some h
  · rintro (rfl | rfl) <;> cases d <;> rfl

end Reveille.Calendar
