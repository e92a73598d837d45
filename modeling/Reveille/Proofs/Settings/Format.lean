import Reveille.Proofs.Json5.Documents
import Reveille.Proofs.Number.Whole
import Reveille.Settings.Format

/-!
# Printed settings

What printed settings are read as. Two things are lost on the way: the interval becomes the
nearest number of the floating-point format, and a text with a line or paragraph separator makes
the whole no document.
-/

namespace Reveille

open Reveille.Json Reveille.Json5 Reveille.Number Reveille.Text

namespace Json5

theorem readText_printedText (s : String) : readText (.string (printedText s)) = .ok s :=
  text_printedText s

namespace Shape

variable {α : Type} {shape : Shape α}

theorem find?_of_mem {fields : List (Field α)} (distinct : (fields.map (·.name)).Nodup)
    {f : Field α} (mem : f ∈ fields) : fields.find? (·.name = f.name) = some f := by
  induction fields with
  | nil => cases mem
  | cons g gs ih =>
    rw [List.map_cons, List.nodup_cons] at distinct
    rcases List.mem_cons.mp mem with rfl | later
    · exact List.find?_cons_of_pos (decide_eq_true rfl)
    · have other : g.name ≠ f.name := fun same =>
        distinct.1 (same ▸ List.mem_map_of_mem later)
      rw [List.find?_cons_of_neg (by simpa using other), ih distinct.2 later]

/-- An object that has all fields in order is read like the array of their values. -/
theorem read_zip (distinct : (shape.fields.map (·.name)).Nodup) (ds : List Document)
    (all : ds.length = shape.fields.length) :
    shape.read (.object ((shape.fields.map fun f => printedText f.name).zip ds)) =
      readItems shape.fields ds shape.blank := by
  have members : ∀ (fs : List (Field α)) (ds : List Document) (seen : List String) (a : α),
      (∀ f ∈ fs, f ∈ shape.fields) → (fs.map (·.name)).Nodup →
      (∀ f ∈ fs, f.name ∉ seen) → ds.length = fs.length →
      shape.readMembers seen ((fs.map fun f => printedText f.name).zip ds) a =
        readItems fs ds a := by
    intro fs
    induction fs with
    | nil => intro ds seen a _ _ _ none; rw [List.length_eq_zero_iff.mp none]; rfl
    | cons f fs ih =>
      intro ds seen a known names fresh full
      obtain ⟨d, ds, rfl⟩ := List.exists_cons_of_length_eq_add_one full
      rw [List.map_cons, List.nodup_cons] at names
      rw [List.forall_mem_cons] at known fresh
      rw [List.map_cons, List.zip_cons_cons, readMembers, text_printedText]
      simp only [find?_of_mem distinct known.1, if_neg fresh.1, bind, Except.bind, readItems]
      cases f.read d with
      | error fault => rfl
      | ok put =>
        refine ih ds _ _ known.2 names.2 (fun g mem again => ?_) (Nat.succ.inj full)
        rcases List.mem_cons.mp again with same | before
        · exact names.1 (same ▸ List.mem_map_of_mem mem)
        · exact fresh.2 g mem before
  exact members shape.fields ds [] shape.blank (fun _ mem => mem) distinct (by simp) all

end Shape

theorem readWord_printedNumber {n : Nat} (word : n ≤ maxWord) :
    readWord (printedNumber n) = .ok (min (nearestWhole n) maxWord) := by
  obtain ⟨m, read, whole⟩ := Magnitude.ofDecimal?_word word
  have digits : ofDigits (decimal (n : Int).natAbs ++ []) = n := by
    rw [List.append_nil, Int.natAbs_natCast, ofDigits_decimal]
  have unsigned : ¬ (n : Int) < 0 := Int.not_lt.mpr (Int.natCast_nonneg n)
  have number : floating .none (.decimal (decimal (n : Int).natAbs) none none) =
      .ok (.finite ⟨false, m⟩) := by
    unfold floating
    dsimp only [Option.getD_none]
    rw [digits, List.length_nil, Int.natCast_zero, Int.sub_zero, read]
    rfl
  rw [printedNumber, if_neg unsigned, readWord, number, ← whole]
  rfl

end Json5

/-! ### Records -/

namespace PingSettings

def reread (s : PingSettings) : PingSettings :=
  { s with interval := min (nearestWhole s.interval) maxWord }

def document (s : PingSettings) : Document :=
  .object [(printedText "enabled", .bool s.enabled),
    (printedText "interval_secs", printedNumber s.interval)]

theorem reread?_toJson (s : PingSettings) : reread? s.toJson = some s.document :=
  rfl

theorem read_document {s : PingSettings} (word : s.interval ≤ maxWord) :
    shape.read s.document = .ok s.reread := by
  refine (shape.read_zip (by decide) [.bool s.enabled, printedNumber s.interval] rfl).trans ?_
  simp only [shape, Shape.readItems, readBool, readWord_printedNumber word, Except.map,
    bind, Except.bind]
  rfl

end PingSettings

namespace WakeSettings

def document (s : WakeSettings) : Document :=
  .object [(printedText "method", .string (printedText s.method.name)),
    (printedText "command", .string (printedText s.command)),
    (printedText "broadcast", .string (printedText s.broadcast))]

theorem readVariant_name (m : WakeMethod) :
    readVariant WakeMethod.byName (.string (printedText m.name)) = .ok m := by
  cases m <;> rfl

theorem read_document (s : WakeSettings) : shape.read s.document = .ok s := by
  refine (shape.read_zip (by decide) [.string (printedText s.method.name),
    .string (printedText s.command), .string (printedText s.broadcast)] rfl).trans ?_
  simp only [shape, Shape.readItems, readText_printedText, readVariant_name, Except.map,
    bind, Except.bind]

end WakeSettings

namespace LogSettings

def document (s : LogSettings) : Document :=
  .object [(printedText "level", .string (printedText s.level))]

theorem read_document (s : LogSettings) : shape.read s.document = .ok s := by
  refine (shape.read_zip (by decide) [.string (printedText s.level)] rfl).trans ?_
  simp only [shape, Shape.readItems, readText_printedText, Except.map, bind,
    Except.bind]

end LogSettings

namespace Settings

/-- Settings as they are read again. -/
def reread (s : Settings) : Settings :=
  { s with ping := s.ping.reread }

def document (s : Settings) : Document :=
  .object [(printedText "rules", .string (printedText s.rules)),
    (printedText "fifo", .string (printedText s.fifo)),
    (printedText "socket", .string (printedText s.socket)),
    (printedText "ping", s.ping.document), (printedText "wake", s.wake.document),
    (printedText "log", s.log.document)]

theorem read_document {s : Settings} (word : s.ping.interval ≤ maxWord) :
    shape.read s.document = .ok s.reread := by
  refine (shape.read_zip (by decide) [.string (printedText s.rules), .string (printedText s.fifo),
    .string (printedText s.socket), s.ping.document, s.wake.document, s.log.document] rfl).trans ?_
  simp only [shape, Shape.readItems, readText_printedText,
    PingSettings.read_document word, s.wake.read_document, s.log.read_document, Except.map, bind,
    Except.bind]
  rfl

/-- The texts that can be chosen freely. -/
def texts (s : Settings) : List String :=
  [s.rules, s.fifo, s.socket, s.wake.command, s.wake.broadcast, s.log.level]

def hasSeparator (s : Settings) : Bool :=
  s.texts.any fun t => t.toList.any isSeparator

theorem reread?_toJson (s : Settings) :
    reread? s.toJson = if s.hasSeparator then none else some s.document := by
  cases separated : s.hasSeparator with
  | false =>
    have plain : ∀ t ∈ s.texts, rereadText? t = some (printedText t) := by
      intro t mem
      have all := List.any_eq_false.mp separated t mem
      exact if_neg all
    simp only [texts, List.forall_mem_cons] at plain
    obtain ⟨rules, fifo, socket, command, broadcast, level, -⟩ := plain
    have ping := s.ping.reread?_toJson
    have method : rereadText? s.wake.method.name = some (printedText s.wake.method.name) := by
      cases s.wake.method <;> rfl
    simp only [toJson, WakeSettings.toJson, LogSettings.toJson, reread?, rereadMembers?, rules, fifo,
      socket, command, broadcast, level, ping, method, Option.map_some, Option.bind_some]
    rfl
  | true =>
    obtain ⟨t, mem, some⟩ := List.any_eq_true.mp separated
    have none : rereadText? t = none := if_pos some
    simp only [texts, List.mem_cons, List.not_mem_nil, or_false] at mem
    rcases mem with rfl | rfl | rfl | rfl | rfl | rfl <;>
      simp only [toJson, WakeSettings.toJson, LogSettings.toJson, reread?, rereadMembers?, none,
        Option.map_none, Option.bind_none, Option.bind_fun_none, if_true]

theorem isWhole_toJson (s : Settings) : isWhole s.toJson = true :=
  rfl

theorem read_print {s : Settings} (word : s.ping.interval ≤ maxWord) :
    read s.print.toList = if s.hasSeparator then .error .malformed else .ok s.reread := by
  rw [read, print, Value.pretty, String.toList_ofList, read?_pretty s.isWhole_toJson, reread?_toJson]
  by_cases separated : s.hasSeparator = true
  · rw [if_pos separated, if_pos separated]
  · rw [if_neg separated, if_neg separated]
    dsimp only
    rw [read_document word]
    rfl

theorem reread_eq_iff {s : Settings} (word : s.ping.interval ≤ maxWord) :
    s.reread = s ↔ wholeStep s.ping.interval ∣ s.ping.interval ∨ s.ping.interval = maxWord := by
  rw [← min_nearestWhole_eq_iff word]
  constructor
  · exact congrArg fun s : Settings => s.ping.interval
  · intro same
    rw [reread, PingSettings.reread, same]

end Settings

end Reveille
