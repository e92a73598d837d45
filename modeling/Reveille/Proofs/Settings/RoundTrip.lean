import Reveille.Proofs.Files.Places
import Reveille.Proofs.Settings.Format
import Reveille.Proofs.Text.Utf8
import Reveille.Settings.Store

/-!
# Saving and loading

Settings that were saved are loaded as they were, unless a text has a line or paragraph
separator, or the interval is no number of the floating-point format.
-/

namespace Reveille

open Reveille.Files Reveille.Number Reveille.Text

namespace Settings

variable {fs fs' : Files} {p : Pathname} {s : Settings}

/-- A file that was written holds what was written, unless it is a pipe. -/
theorem readText_of_write {text : String} (written : fs.write p (utf8 text) = .ok fs')
    (regular : fs'.at? p ≠ some .pipe) : fs'.has p = true ∧ fs'.readText p = .ok text := by
  obtain ⟨q, target, noFolder, ⟨pipe, rfl⟩ | rfl⟩ := write_eq_ok written
  · rw [at?_of_target? target] at regular
    exact absurd pipe regular
  · have kept := (target?_congr (sameFolders_put noFolder (e := .file (utf8 text)) (by simp))).trans
      target
    have entry : (fs.put q (.file (utf8 text))).get? q = some (.file (utf8 text)) :=
      (get?_put (ne_root_of_get? noFolder) q).trans (if_pos rfl)
    refine ⟨?_, bind_eq_ok_iff.mpr ⟨utf8 text, ?_, ?_⟩⟩
    · rw [has, at?_of_target? kept, entry]
      rfl
    · refine bind_eq_ok_iff.mpr ⟨q, (target?_eq_some_iff.mp kept).2, ?_⟩
      rw [entry]
      rfl
    · rw [ofUtf8?_utf8]
      rfl

theorem load_of_readText {text : String} (there : fs.has p = true)
    (held : fs.readText p = .ok text) :
    load fs p = (read text.toList).mapError .malformed := by
  rw [load, if_pos there, readFile, held]
  rfl

theorem load_saved (saved : save fs p s = (fs', .ok ())) (regular : fs'.at? p ≠ some .pipe)
    (word : s.ping.interval ≤ maxWord) :
    load fs' p =
      if s.hasSeparator then .error (.malformed .malformed) else .ok s.reread := by
  obtain ⟨there, text⟩ : fs'.has p = true ∧ fs'.readText p = .ok s.print := by
    unfold save at saved
    split at saved
    · cases (Prod.mk.inj saved).2
    · next made =>
      split at saved
      · cases (Prod.mk.inj saved).2
      · next written =>
        obtain rfl := (Prod.mk.inj saved).1
        exact readText_of_write written regular
  rw [load_of_readText there text, read_print word]
  split <;> rfl

/-- There is nothing to load from a pipe. -/
theorem load_of_pipe (pipe : fs.at? p = some .pipe) :
    load fs p = .error (.malformed .malformed) := by
  obtain ⟨q, placed, entry⟩ := at?_eq_some_iff.mp pipe
  have there : fs.has p = true := by
    rw [has, pipe]
    rfl
  have text : fs.readText p = .ok "" := by
    refine bind_eq_ok_iff.mpr ⟨[], bind_eq_ok_iff.mpr ⟨q, placed, ?_⟩, ?_⟩
    · rw [entry]
      rfl
    · rfl
  rw [load_of_readText there text]
  rfl

/-- Saved settings are loaded as they were exactly if no text has a separator and the interval is
a number of the floating-point format, or the greatest that there is. Whatever is loaded differs
in the interval at most. -/
theorem load_saved_eq_ok_iff (saved : save fs p s = (fs', .ok ())) (word : s.ping.interval ≤ maxWord) :
    (load fs' p = .ok s ↔
      fs'.at? p ≠ some .pipe ∧ s.hasSeparator = false ∧
        (wholeStep s.ping.interval ∣ s.ping.interval ∨ s.ping.interval = maxWord)) ∧
    ∀ c, load fs' p = .ok c →
      c = { s with ping.interval := min (nearestWhole s.ping.interval) maxWord } := by
  by_cases pipe : fs'.at? p = some .pipe
  · simp [load_of_pipe pipe, pipe]
  · rw [load_saved saved pipe word, ← reread_eq_iff word]
    by_cases separated : s.hasSeparator = true
    · simp [separated]
    · rw [if_neg separated]
      refine ⟨?_, fun c loaded => (Except.ok.inj loaded).symm⟩
      rw [Except.ok.injEq]
      simp [pipe, separated]

theorem save_bare (s : Settings) :
    save ⟨[], []⟩ ⟨"settings"⟩ s =
      (put ⟨[], []⟩ ["settings"] (.file (utf8 s.print)), .ok ()) := by
  have made : makeFolders ⟨[], []⟩ ⟨"settings"⟩ = (⟨[], []⟩, .ok ()) := by decide
  have written : ∀ bytes, write ⟨[], []⟩ ⟨"settings"⟩ bytes =
      .ok (put ⟨[], []⟩ ["settings"] (.file bytes)) := by
    intro bytes
    rfl
  rw [save, made]
  dsimp only
  rw [written]

theorem at?_bare (bytes : List UInt8) :
    (put ⟨[], []⟩ ["settings"] (.file bytes)).at? ⟨"settings"⟩ ≠ some .pipe := by
  have entry : (put ⟨[], []⟩ ["settings"] (.file bytes)).at? ⟨"settings"⟩ = some (.file bytes) :=
    rfl
  rw [entry]
  exact fun same => by cases same

/-- Every kind of escape, and an even interval beyond those that are all kept. -/
theorem load_saved_eq_ok_iff_escapes :
    let s : Settings :=
      { rules := "~/\"rules\"\\\n", fifo := "\t\x7f\x01/é", socket := "\x08\x0c\r\x00",
        ping := { interval := 9007199254740994 },
        wake := { method := .command, command := "// \x27wake\x27 /* on */", broadcast := "" } }
    load (put ⟨[], []⟩ ["settings"] (.file (utf8 s.print))) ⟨"settings"⟩ = .ok s := by
  intro s
  have word : s.ping.interval ≤ maxWord := by decide
  have fits : wholeStep s.ping.interval ∣ s.ping.interval := by decide
  exact (load_saved_eq_ok_iff (save_bare s) word).1.mpr ⟨at?_bare _, by decide, .inl fits⟩

/-- The first interval that is changed, and a text that cannot be loaded. -/
theorem not_load_saved :
    (let s : Settings := { ping := { interval := 9007199254740993 } }
    ∃ fs', save ⟨[], []⟩ ⟨"settings"⟩ s = (fs', .ok ()) ∧
      load fs' ⟨"settings"⟩ = .ok { ping := { interval := 9007199254740992 } }) ∧
    (let s : Settings := { rules := "\u2028" }
    ∃ fs', save ⟨[], []⟩ ⟨"settings"⟩ s = (fs', .ok ()) ∧
      load fs' ⟨"settings"⟩ = .error (.malformed .malformed)) := by
  refine ⟨⟨_, save_bare _, ?_⟩, ⟨_, save_bare _, ?_⟩⟩
  · rw [load_saved (save_bare _) (at?_bare _) (by decide), if_neg (by decide)]
    decide
  · rw [load_saved (save_bare _) (at?_bare _) (by decide), if_pos (by decide)]

end Settings

end Reveille
