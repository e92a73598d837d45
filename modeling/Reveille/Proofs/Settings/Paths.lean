import Reveille.Proofs.Files.FileNames
import Reveille.Proofs.Settings.Verification

/-!
# The paths of verified settings

Of the three paths that a daemon makes something at, verification keeps two apart: that of the
named pipe and that of the control socket. The third is made from that of the socket, and may be
the same as either.
-/

namespace Reveille

open Reveille.Files Reveille.Text

namespace Settings

variable {home : Option String} {fs : Files} {p : Pathname} {s : Settings}

theorem parts_pidPath (home : Option String) (s : Settings) :
    (Pathname.nameOf? (s.socketPath home).chars = none ∧ s.pidPath home = s.socketPath home) ∨
      ∃ front name, Pathname.nameOf? (s.socketPath home).chars = some name ∧
        (s.socketPath home).parts = front ++ [.name name] ∧
        (s.pidPath home).parts = front ++ [(s.socketPath home).partWith "pid" name] := by
  rw [pidPath]
  cases named : Pathname.nameOf? (s.socketPath home).chars with
  | none => exact .inl ⟨rfl, withExtension_of_nameOf? "pid" named⟩
  | some name =>
    obtain ⟨front, socket, pid⟩ := parts_withExtension "pid" named (by decide) (by decide)
    exact .inr ⟨front, name, rfl, socket, pid⟩

/-- The socket takes the path for the process number exactly if its own path has no name, or one
that the extension leaves as it is. -/
theorem socket_same_pid_iff :
    (s.socketPath home).same (s.pidPath home) = true ↔
      ∀ name, Pathname.nameOf? (s.socketPath home).chars = some name →
        (s.socketPath home).partWith "pid" name = .name name := by
  rw [Pathname.same_iff]
  rcases parts_pidPath home s with ⟨none, same⟩ | ⟨front, name, named, socket, pid⟩
  · simp [none, same]
  · rw [socket, pid, named]
    simp [eq_comm]

/-- The pipe takes the path for the process number exactly if it is the path of the socket with
the other extension. -/
theorem fifo_same_pid_iff (apart : (s.fifoPath home).same (s.socketPath home) = false) :
    (s.fifoPath home).same (s.pidPath home) = true ↔
      ∃ front name, Pathname.nameOf? (s.socketPath home).chars = some name ∧
        (s.socketPath home).parts = front ++ [.name name] ∧
        (s.fifoPath home).parts = front ++ [(s.socketPath home).partWith "pid" name] := by
  rcases parts_pidPath home s with ⟨none, same⟩ | ⟨front, name, named, socket, pid⟩
  · rw [same, apart, none]
    simp
  · rw [Pathname.same_iff, pid]
    constructor
    · exact fun fifo => ⟨front, name, named, socket, fifo⟩
    · rintro ⟨front', name', named', socket', fifo⟩
      obtain rfl := Option.some.inj (named.symm.trans named')
      rw [fifo, List.append_cancel_right (socket'.symm.trans socket)]

/-- Verified settings keep the pipe and the socket apart. They do not keep either of them apart
from the file for the process number. -/
theorem verified_paths (verified : verify home fs p = .ok []) :
    ∃ c, load fs p = .ok c ∧ (c.fifoPath home).same (c.socketPath home) = false ∧
      ((c.socketPath home).same (c.pidPath home) = true ↔
        ∀ name, Pathname.nameOf? (c.socketPath home).chars = some name →
          (c.socketPath home).partWith "pid" name = .name name) ∧
      ((c.fifoPath home).same (c.pidPath home) = true ↔
        ∃ front name, Pathname.nameOf? (c.socketPath home).chars = some name ∧
          (c.socketPath home).parts = front ++ [.name name] ∧
          (c.fifoPath home).parts = front ++ [(c.socketPath home).partWith "pid" name]) := by
  obtain ⟨-, c, loaded, none⟩ := load_of_verify verified
  have apart : (c.fifoPath home).same (c.socketPath home) = false :=
    findings_eq_nil_iff.mp none.symm .clash
  exact ⟨c, loaded, apart, socket_same_pid_iff, fifo_same_pid_iff apart⟩

theorem verify_besideRules (fifo socket : String)
    (plain : ({ rules := "rules", fifo, socket } : Settings).hasSeparator = false)
    (apart : (Pathname.ofText none fifo).same (.ofText none socket) = false) :
    verify none (besideRules "" { rules := "rules", fifo, socket }) ⟨"settings"⟩ = .ok [] := by
  have word : ({ rules := "rules", fifo, socket } : Settings).ping.interval ≤ maxWord :=
    show 5 ≤ maxWord by decide
  have fits := (reread_eq_iff word).mpr (.inl (show Number.wholeStep 5 ∣ 5 by decide))
  have level : LogFilter.check "info" = .ok () := by decide
  have command : words "wakeonlan".toList ≠ [] := by decide
  have broadcast : ∃ e, Net.Endpoint.ofText? "255.255.255.255:9".toList = some e := ⟨_, rfl⟩
  have passes : ∀ c : Check, c.Passes none (besideRules "" { rules := "rules", fifo, socket })
      { rules := "rules", fifo, socket } := by
    intro c
    cases c with
    | interval => exact Nat.le_add_left 1 4
    | command => exact command
    | broadcast => exact broadcast
    | logLevel => exact level
    | clash => exact apart
    | rules => exact ⟨[], readRules_besideRules "" _⟩
  rw [verify_of_load rfl (load_besideRules word plain fits), findings_eq_nil_iff.mpr passes]

theorem verified_paths_usual :
    ∃ c, load (besideRules "" { rules := "rules" }) ⟨"settings"⟩ = .ok c ∧
      (c.fifoPath none).same (c.socketPath none) = false := by
  obtain ⟨c, loaded, apart, -⟩ :=
    verified_paths (verify_besideRules "/tmp/motion-wol.fifo" "/tmp/motion-wol.sock"
      (by decide) (by decide))
  exact ⟨c, loaded, apart⟩

/-- Verified settings whose pipe, and others whose socket, takes the path for the process
number. -/
theorem verified_paths_clash :
    (let s : Settings := { rules := "rules", fifo := "/run/motion.pid", socket := "/run/motion.sock" }
    verify none (besideRules "" s) ⟨"settings"⟩ = .ok [] ∧
      load (besideRules "" s) ⟨"settings"⟩ = .ok s ∧
      (s.fifoPath none).same (s.pidPath none) = true) ∧
    (let s : Settings := { rules := "rules", fifo := "/run/motion", socket := "/run/motion.pid" }
    verify none (besideRules "" s) ⟨"settings"⟩ = .ok [] ∧
      load (besideRules "" s) ⟨"settings"⟩ = .ok s ∧
      (s.socketPath none).same (s.pidPath none) = true) :=
  ⟨⟨verify_besideRules _ _ (by decide) (by decide),
      load_besideRules (by decide) (by decide) (by decide), by decide⟩,
    verify_besideRules _ _ (by decide) (by decide),
    load_besideRules (by decide) (by decide) (by decide), by decide⟩

end Settings

end Reveille
