import Reveille.Daemon.Holdings
import Reveille.Proofs.Files.Places

/-!
# Taking hold and letting go

Each step by which a daemon takes hold of a place changes that place only, and letting go leaves
nothing at the places that were held.
-/

namespace Reveille.Daemon

open Reveille.Files

variable {refusals : Refusals} {process : Nat} {sites : Sites} {p r : Pathname} {q : Place}
  {fs fs' fs'' : Files} {fault : Fault}

theorem attempt_eq_ok {α : Type} {call : Call} {result : Except FileError α} {a : α}
    (done : refusals.attempt call result = .ok a) : result = .ok a := by
  unfold Refusals.attempt at done
  split at done
  · cases done
  · exact done

theorem attempt_of_none {α : Type} {call : Call} (allowed : refusals call = none)
    (result : Except FileError α) : refusals.attempt call result = result := by
  rw [Refusals.attempt, allowed]

/-! ### The named pipe -/

theorem at?_of_takeFifo (taken : takeFifo refusals p fs = .ok fs') :
    fs.at? p = none ∨ fs.at? p = some .pipe := by
  unfold takeFifo at taken
  split at taken
  · next pipe => exact .inr pipe
  · cases taken
  · next none => exact .inl none

theorem takeFifo_eq_ok (taken : takeFifo refusals p fs = .ok fs') :
    ChangedAt [p] fs fs' ∧ fs.IsSlot p := by
  unfold takeFifo at taken
  split at taken
  · next pipe =>
    obtain rfl := Except.ok.inj taken
    obtain ⟨q, placed, entry⟩ := at?_eq_some_iff.mp pipe
    exact ⟨.refl [p] fs, q, target?_of_place placed entry (by simp), by simp [entry]⟩
  · cases taken
  · split at taken
    · cases taken
    · have made := attempt_eq_ok (mapError_eq_ok_iff.mp taken)
      obtain ⟨q, target, free, rfl⟩ := make_eq_ok made
      have noFolder : fs.get? q ≠ some .folder := by simp [free]
      exact ⟨changedAt_put target noFolder (by simp), q, target, noFolder⟩

/-! ### The process number -/

theorem changedAt_write {bytes : List UInt8} (written : fs.write p bytes = .ok fs') :
    ChangedAt [p] fs fs' ∧ fs.IsSlot p := by
  obtain ⟨q, target, noFolder, ⟨-, rfl⟩ | rfl⟩ := write_eq_ok written
  · exact ⟨.refl [p] fs', q, target, noFolder⟩
  · exact ⟨changedAt_put target noFolder (by simp), q, target, noFolder⟩

theorem write_of_written {bytes : List UInt8} (written : fs.write p bytes = .ok fs')
    (others : List UInt8) : ∃ fs'', fs'.write p others = .ok fs'' := by
  obtain ⟨q, target, noFolder, ⟨pipe, rfl⟩ | rfl⟩ := write_eq_ok written
  · exact ⟨fs', bind_eq_ok_iff.mpr ⟨q, (target?_eq_some_iff.mp target).2, by rw [pipe]; rfl⟩⟩
  · have changed := changedAt_put target noFolder (e := .file bytes) (by simp)
    have kept := (target?_congr changed.folders).trans target
    have entry : (fs.put q (.file bytes)).get? q = some (.file bytes) :=
      (get?_put (ne_root_of_get? noFolder) q).trans (if_pos rfl)
    exact ⟨_, bind_eq_ok_iff.mpr ⟨q, (target?_eq_some_iff.mp kept).2, by rw [entry]; rfl⟩⟩

theorem takePid_eq_ok (taken : takePid refusals process p fs = (fs', .ok ())) :
    ChangedAt [p] fs fs' ∧ fs.IsSlot p := by
  unfold takePid at taken
  split at taken
  · cases (Prod.mk.inj taken).2
  · next fs₁ opened =>
    split at taken
    · cases (Prod.mk.inj taken).2
    · next fs₂ written =>
      obtain rfl := (Prod.mk.inj taken).1
      obtain ⟨first, slot⟩ := changedAt_write (attempt_eq_ok opened)
      obtain ⟨second, -⟩ := changedAt_write (attempt_eq_ok written)
      exact ⟨first.trans second, slot⟩

theorem takePid_eq_error (refused : takePid refusals process p fs = (fs', .error fault)) :
    ChangedAt [p] fs fs' ∧ (refusals .writePid = none → fs' = fs) := by
  unfold takePid at refused
  split at refused
  · obtain rfl := (Prod.mk.inj refused).1
    exact ⟨.refl [p] fs, fun _ => rfl⟩
  · next fs₁ opened =>
    have opened := attempt_eq_ok opened
    split at refused
    · next cause failed =>
      obtain rfl := (Prod.mk.inj refused).1
      refine ⟨(changedAt_write opened).1, fun allowed => ?_⟩
      obtain ⟨fs₂, written⟩ := write_of_written opened (PidFile.bytes process)
      rw [attempt_of_none allowed, PidFile.write, written] at failed
      cases failed
    · cases (Prod.mk.inj refused).2

/-! ### The socket -/

theorem clearSocket_eq_ok (cleared : clearSocket refusals p fs = .ok fs') :
    ChangedAt [p] fs fs' ∧ fs'.at? p = none ∧ (fs.at? p = none ∨ fs.at? p = some .socket) := by
  unfold clearSocket at cleared
  split at cleared
  · next none =>
    obtain rfl := Except.ok.inj cleared
    exact ⟨.refl [p] fs, none, .inl none⟩
  · next socket =>
    have removed := attempt_eq_ok (mapError_eq_ok_iff.mp cleared)
    obtain ⟨q, target, noFolder, rfl⟩ := remove_eq_ok removed
    have changed := changedAt_erase target noFolder
    refine ⟨changed, ?_, .inr socket⟩
    rw [at?_of_target? ((target?_congr changed.folders).trans target),
      get?_erase (ne_root_of_get? noFolder), if_pos rfl]
  · cases cleared

theorem takeSocket_eq_ok (taken : takeSocket refusals p fs = .ok fs') :
    ChangedAt [p] fs fs' ∧ fs.IsSlot p := by
  have bound := attempt_eq_ok (mapError_eq_ok_iff.mp taken)
  obtain ⟨p', path, made⟩ := bind_eq_ok_iff.mp bound
  obtain rfl : p' = p := by
    unfold socketPath at path
    split at path
    · cases path
    · split at path
      · cases path
      · exact (Except.ok.inj path).symm
  obtain ⟨q, target, free, rfl⟩ := make_eq_ok (mapError_eq_ok_iff.mp made)
  have noFolder : fs.get? q ≠ some .folder := by simp [free]
  exact ⟨changedAt_put target noFolder (by simp), q, target, noFolder⟩

/-! ### Letting go -/

/-- Entries are gone at these paths at most, and nothing else has changed. -/
structure Cleared (ps : List Pathname) (fs fs' : Files) : Prop where
  changed : ChangedAt ps fs fs'
  kept : ∀ {x e}, fs'.get? x = some e → fs.get? x = some e
  gone : ∀ p ∈ ps, fs.IsSlot p → fs'.at? p = none

theorem cleared_discard (p : Pathname) (fs : Files) : Cleared [p] fs (discard p fs) := by
  unfold discard
  split
  · next fs' removed =>
    obtain ⟨q, target, noFolder, rfl⟩ := remove_eq_ok removed
    have entries : ∀ x, (fs.erase q).get? x = if x = q then none else fs.get? x :=
      get?_erase (ne_root_of_get? noFolder)
    have changed := changedAt_erase target noFolder
    refine ⟨changed, fun {x e} left => ?_, fun p' mem _ => ?_⟩
    · rw [entries] at left
      split at left
      · cases left
      · exact left
    · obtain rfl := List.mem_singleton.mp mem
      rw [at?_of_target? ((target?_congr changed.folders).trans target), entries, if_pos rfl]
  · next cause refused =>
    refine ⟨.refl [p] fs, id, fun p' mem slot => ?_⟩
    obtain rfl := List.mem_singleton.mp mem
    obtain ⟨q, target, noFolder⟩ := slot
    rw [at?_of_target? target]
    cases entry : fs.get? q with
    | none => rfl
    | some e =>
      have plain : e ≠ .folder := fun same => noFolder (entry.trans (congrArg some same))
      rw [remove_of_target? target entry plain] at refused
      cases refused

namespace Cleared

variable {ps ps' : List Pathname}

theorem refl (fs : Files) : Cleared [] fs fs :=
  ⟨.refl [] fs, id, fun _ mem => by cases mem⟩

theorem at?_eq_none (cleared : Cleared ps fs fs') (free : fs.at? r = none) :
    fs'.at? r = none := by
  cases left : fs'.at? r with
  | none => rfl
  | some e =>
    obtain ⟨x, placed, entry⟩ := at?_eq_some_iff.mp left
    have before := place_congr cleared.changed.folders.symm placed (.inl (entry ▸ rfl))
    rw [at?_eq_some_iff.mpr ⟨x, before, cleared.kept entry⟩] at free
    cases free

theorem append (first : Cleared ps fs fs') (second : Cleared ps' fs' fs'') :
    Cleared (ps ++ ps') fs fs'' := by
  have changed : ChangedAt (ps ++ ps') fs fs'' :=
    (first.changed.mono (List.subset_append_left ps ps')).trans
      (second.changed.mono (List.subset_append_right ps ps'))
  refine ⟨changed, first.kept ∘ second.kept, fun p mem slot => ?_⟩
  rcases List.mem_append.mp mem with before | after
  · exact second.at?_eq_none (first.gone p before slot)
  · exact second.gone p after (slot.congr first.changed.folders)

end Cleared

/-- The paths of what is held, in the order in which it is let go. -/
def Holdings.paths (h : Holdings) (sites : Sites) : List Pathname :=
  (if h.fifo then [sites.fifo] else []) ++ (if h.socket then [sites.socket] else []) ++
    (if h.pid then [sites.pid] else [])

theorem Holdings.paths_subset (h : Holdings) (sites : Sites) :
    h.paths sites ⊆ [sites.fifo, sites.pid, sites.socket] := by
  obtain ⟨fifo, pid, socket⟩ := h
  cases fifo <;> cases pid <;> cases socket <;> simp [paths]

theorem cleared_release (h : Holdings) (sites : Sites) (fs : Files) :
    Cleared (h.paths sites) fs (h.release sites fs) := by
  have held : ∀ (b : Bool) (p : Pathname) (fs : Files),
      Cleared (if b then [p] else []) fs (if b then discard p fs else fs) := by
    intro b p fs
    cases b
    · exact .refl fs
    · exact cleared_discard p fs
  exact ((held h.fifo sites.fifo fs).append (held h.socket sites.socket _)).append
    (held h.pid sites.pid _)

end Reveille.Daemon
