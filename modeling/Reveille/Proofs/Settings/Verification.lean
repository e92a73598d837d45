import Reveille.Proofs.Outcomes
import Reveille.Proofs.Settings.RoundTrip
import Reveille.Settings.Verify
import Reveille.Wake.Waker

/-!
# Verification and what the daemon asks for

Settings are verified before a daemon is started with them. What is found wrong is what the
daemon would refuse, each fault once and in a fixed order.
-/

namespace Reveille

open Reveille.Files Reveille.Net Reveille.RuleText Reveille.Text

namespace Settings

inductive Check where
  | interval
  | command
  | broadcast
  | logLevel
  | clash
  | rules
deriving DecidableEq, Repr

def Check.all : List Check := [interval, command, broadcast, logLevel, clash, rules]

def Finding.check : Finding → Check
  | .interval => .interval
  | .command => .command
  | .broadcast _ => .broadcast
  | .logLevel _ _ => .logLevel
  | .clash => .clash
  | .rules _ _ => .rules

/-- A check in the terms of the daemon: the words of its command, the address it sends packets
to, the rules that it reads. -/
def Check.Passes (home : Option String) (fs : Files) (s : Settings) : Check → Prop
  | .interval => 1 ≤ s.ping.interval
  | .command => words s.wake.command.toList ≠ []
  | .broadcast => ∃ endpoint, Endpoint.ofText? s.wake.broadcast.toList = some endpoint
  | .logLevel => LogFilter.check s.log.level = .ok ()
  | .clash => (s.fifoPath home).same (s.socketPath home) = false
  | .rules => ∃ rules, readRules fs (s.rulesPath home) = .ok rules

variable {home : Option String} {fs : Files} {p : Pathname} {s : Settings}

instance : DecidablePred (Check.Passes home fs s)
  | .interval => inferInstanceAs (Decidable (1 ≤ s.ping.interval))
  | .command => inferInstanceAs (Decidable (words s.wake.command.toList ≠ []))
  | .broadcast => decidable_of_iff _ Option.isSome_iff_exists
  | .logLevel => inferInstanceAs (Decidable (LogFilter.check s.log.level = .ok ()))
  | .clash => inferInstanceAs (Decidable ((s.fifoPath home).same (s.socketPath home) = false))
  | .rules =>
    match read : readRules fs (s.rulesPath home) with
    | .ok rules => .isTrue ⟨rules, read⟩
    | .error cause => .isFalse fun ⟨rules, same⟩ => by rw [read] at same; cases same

/-! ### Findings -/

theorem map_check_findingIf {wrong : Prop} [Decidable wrong] {f : Finding}
    (exact : wrong ↔ ¬ f.check.Passes home fs s) :
    (findingIf wrong f).map Finding.check = [f.check].filter (¬ ·.Passes home fs s) := by
  rw [findingIf]
  by_cases failed : wrong
  · simp [failed, exact.mp failed]
  · simp [failed, not_not.mp (mt exact.mpr failed)]

theorem map_check_levelFindings (home : Option String) (fs : Files) :
    s.levelFindings.map Finding.check = [Check.logLevel].filter (¬ ·.Passes home fs s) := by
  rw [levelFindings]
  cases level : LogFilter.check s.log.level <;> simp [Check.Passes, level, Finding.check]

theorem map_check_rulesFindings :
    (s.rulesFindings home fs).map Finding.check = [Check.rules].filter (¬ ·.Passes home fs s) := by
  rw [rulesFindings]
  cases read : readRules fs (s.rulesPath home) <;> simp [Check.Passes, read, Finding.check]

theorem map_check_findings :
    (s.findings home fs).map Finding.check = Check.all.filter (¬ ·.Passes home fs s) := by
  have interval : s.ping.interval = 0 ↔ ¬ Check.interval.Passes home fs s := by
    simp only [Check.Passes]
    omega
  have command : trim s.wake.command.toList = [] ↔ ¬ Check.command.Passes home fs s :=
    words_eq_nil_iff.symm.trans not_not.symm
  have broadcast : Endpoint.ofText? s.wake.broadcast.toList = none ↔
      ¬ Check.broadcast.Passes home fs s := by
    rw [Check.Passes, ← Option.isSome_iff_exists, Option.not_isSome_iff_eq_none]
  have clash : (s.fifoPath home).same (s.socketPath home) = true ↔
      ¬ Check.clash.Passes home fs s :=
    (Bool.not_eq_false _).symm.to_iff
  simp only [findings, List.map_append]
  rw [map_check_findingIf interval, map_check_findingIf command, map_check_findingIf broadcast,
    map_check_levelFindings home fs, map_check_findingIf clash, map_check_rulesFindings]
  simp only [← List.filter_append]
  rfl

theorem findings_eq_nil_iff :
    s.findings home fs = [] ↔ ∀ c : Check, c.Passes home fs s := by
  have every : ∀ c : Check, c ∈ Check.all := by
    intro c
    cases c <;> decide
  rw [← List.map_eq_nil_iff (f := Finding.check), map_check_findings, List.filter_eq_nil_iff]
  simp [every]

/-! ### The daemon -/

theorem ofSettings_eq_ok_iff :
    (∃ w, Waker.ofSettings s.wake = .ok w) ↔
      words s.wake.command.toList ≠ [] ∧
        ∃ e, Endpoint.ofText? s.wake.broadcast.toList = some e := by
  rw [Waker.ofSettings]
  cases Endpoint.ofText? s.wake.broadcast.toList with
  | none => simp
  | some endpoint => cases words s.wake.command.toList <;> simp

theorem verify_of_load (there : fs.has p = true) (loaded : load fs p = .ok s) :
    verify home fs p = .ok (s.findings home fs) := by
  rw [load, if_pos there] at loaded
  rw [verify, if_pos there, loaded]

theorem load_of_verify {found : List Finding} (verified : verify home fs p = .ok found) :
    fs.has p = true ∧ ∃ c, load fs p = .ok c ∧ found = c.findings home fs := by
  unfold verify at verified
  split at verified
  · next there =>
    split at verified
    · next c read => exact ⟨there, c, (if_pos there).trans read, (Except.ok.inj verified).symm⟩
    · cases verified
  · cases verified

/-- Settings are found to be all right exactly if the daemon could be started with them, and else
each failed check is found once, in order. -/
theorem verify_agrees (home : Option String) (fs : Files) (p : Pathname) :
    (verify home fs p = .ok [] ↔
      fs.has p = true ∧ ∃ c, load fs p = .ok c ∧ 1 ≤ c.ping.interval ∧
        LogFilter.check c.log.level = .ok () ∧
        (c.fifoPath home).same (c.socketPath home) = false ∧
        (∃ w, Waker.ofSettings c.wake = .ok w) ∧
        ∃ rules, readRules fs (c.rulesPath home) = .ok rules) ∧
    ∀ c, fs.has p = true → load fs p = .ok c →
      ∃ found, verify home fs p = .ok found ∧
        found.map Finding.check = Check.all.filter (¬ ·.Passes home fs c) := by
  refine ⟨⟨fun verified => ?_, ?_⟩, fun c there loaded => ?_⟩
  · obtain ⟨there, c, loaded, none⟩ := load_of_verify verified
    have passes := findings_eq_nil_iff.mp none.symm
    exact ⟨there, c, loaded, passes .interval, passes .logLevel, passes .clash,
      ofSettings_eq_ok_iff.mpr ⟨passes .command, passes .broadcast⟩, passes .rules⟩
  · rintro ⟨there, c, loaded, interval, level, clash, waker, rules⟩
    have wake := ofSettings_eq_ok_iff.mp waker
    have passes : c.findings home fs = [] := findings_eq_nil_iff.mpr fun
      | .interval => interval
      | .command => wake.1
      | .broadcast => wake.2
      | .logLevel => level
      | .clash => clash
      | .rules => rules
    rw [verify_of_load there loaded, passes]
  · exact ⟨_, verify_of_load there loaded, map_check_findings⟩

/-! ### Settings beside a rules file -/

/-- Printed settings in a root with a rules file. -/
def besideRules (rules : String) (s : Settings) : Files :=
  put (put ⟨[], []⟩ ["rules"] (.file (utf8 rules))) ["settings"] (.file (utf8 s.print))

variable {text : String}

theorem load_besideRules (word : s.ping.interval ≤ maxWord) (plain : s.hasSeparator = false)
    (fits : s.reread = s) : load (besideRules text s) ⟨"settings"⟩ = .ok s := by
  have printed : readText (besideRules text s) ⟨"settings"⟩ = .ok s.print :=
    bind_eq_ok_iff.mpr ⟨utf8 s.print, rfl, by rw [ofUtf8?_utf8]; rfl⟩
  rw [load_of_readText rfl printed, read_print word, plain, fits]
  rfl

theorem readRules_besideRules (text : String) (s : Settings) :
    readRules (besideRules text s) ⟨"rules"⟩ =
      (parseRules text.toList).mapError FileFault.malformed := by
  have held : (besideRules text s).get? ["rules"] = some (.file (utf8 text)) := by
    rw [besideRules, get?_put (by decide), if_neg (by decide), get?_put (by decide), if_pos rfl]
  have read : (besideRules text s).readText ⟨"rules"⟩ = .ok text :=
    bind_eq_ok_iff.mpr ⟨utf8 text, bind_eq_ok_iff.mpr ⟨["rules"], rfl, by rw [held]; rfl⟩,
      by rw [ofUtf8?_utf8]; rfl⟩
  rw [readRules, read]
  rfl

/-- Settings as the daemon wants them beside a rule, and settings with four faults beside a text
that is no rule. -/
theorem verify_agrees_beside_rules :
    verify none (besideRules "wake 00:11:22:33:44:55:\n  now not Sun\n" { rules := "rules" })
      ⟨"settings"⟩ = .ok [] ∧
    let s : Settings :=
      { rules := "rules", fifo := "run//motion", socket := "run/motion", ping := { interval := 0 },
        wake := { command := " \t", broadcast := "nowhere" } }
    ∃ found, verify none (besideRules "wake 00:11:22:33:44:55:\n  later not Sun\n" s)
        ⟨"settings"⟩ = .ok found ∧
      found.map Finding.check = [.interval, .command, .broadcast, .clash, .rules] := by
  constructor
  · exact (verify_agrees none _ ⟨"settings"⟩).1.mpr ⟨rfl, { rules := "rules" },
      load_besideRules (by decide) (by decide) (by decide), by decide, by decide, by decide,
      ⟨_, rfl⟩, show Check.rules.Passes none _ _ by decide +kernel⟩
  · intro s
    have loaded : load (besideRules "wake 00:11:22:33:44:55:\n  later not Sun\n" s)
        ⟨"settings"⟩ = .ok s :=
      load_besideRules (by decide) (by decide) (by decide)
    obtain ⟨found, verified, failed⟩ := (verify_agrees none _ ⟨"settings"⟩).2 s rfl loaded
    exact ⟨found, verified, failed.trans (by decide +kernel)⟩

end Settings

end Reveille
