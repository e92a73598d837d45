import Reveille.Proofs.Daemon.Holdings

/-!
# What a daemon leaves behind

However far a daemon comes and whatever ends it, it leaves the files of others as they were, and
nothing of its own.
-/

namespace Reveille.Daemon

open Reveille.Files Reveille.RuleText

/-- No two paths of a daemon lead to one place. -/
def Sites.Apart (sites : Sites) (fs : Files) : Prop :=
  [sites.rules, sites.fifo, sites.socket, sites.pid].Pairwise (Files.Apart fs)

instance (sites : Sites) (fs : Files) : Decidable (sites.Apart fs) :=
  inferInstanceAs (Decidable (List.Pairwise _ _))

/-- What holds of the files before a daemon was started and after it has ended. -/
structure Tidy (refusals : Refusals) (sites : Sites) (before after : Files)
    (fault : Option Fault) : Prop where
  fifo : after.at? sites.fifo = before.at? sites.fifo ∨ after.at? sites.fifo = none
  socket : after.at? sites.socket = before.at? sites.socket ∨ after.at? sites.socket = none
  /-- Unless the process number could not be written to the file that was opened for it. -/
  pid : refusals .writePid = none →
    after.at? sites.pid = before.at? sites.pid ∨ after.at? sites.pid = none
  foreignFifo : ∀ e, before.at? sites.fifo = some e → e ≠ .pipe →
    after.at? sites.fifo = some e ∧ fault ≠ none
  foreignSocket : ∀ e, before.at? sites.socket = some e → e ≠ .socket →
    after.at? sites.socket = some e ∧ fault ≠ none
  others : ∀ p, Apart before sites.fifo p → Apart before sites.socket p →
    Apart before sites.pid p → after.at? p = before.at? p

variable {home : Option String} {lives : Int → Bool} {refusals : Refusals} {process : Nat}
  {sites : Sites} {fs fs' : Files} {s : Settings} {o : Overrides}

/-- How far a daemon comes. -/
inductive Acquired (refusals : Refusals) (process : Nat) (sites : Sites) (fs : Files) :
    Standing → Prop
  | noFifo {fault} (refused : takeFifo refusals sites.fifo fs = .error fault) :
    Acquired refusals process sites fs ⟨fs, {}, some fault⟩
  | noPid {fs₁ fs₂ fault} (fifo : takeFifo refusals sites.fifo fs = .ok fs₁)
      (refused : takePid refusals process sites.pid fs₁ = (fs₂, .error fault)) :
    Acquired refusals process sites fs ⟨fs₂, { fifo := true }, some fault⟩
  | notCleared {fs₁ fs₂ fault} (fifo : takeFifo refusals sites.fifo fs = .ok fs₁)
      (pid : takePid refusals process sites.pid fs₁ = (fs₂, .ok ()))
      (refused : clearSocket refusals sites.socket fs₂ = .error fault) :
    Acquired refusals process sites fs ⟨fs₂, { fifo := true, pid := true }, some fault⟩
  | noSocket {fs₁ fs₂ fs₃ fault} (fifo : takeFifo refusals sites.fifo fs = .ok fs₁)
      (pid : takePid refusals process sites.pid fs₁ = (fs₂, .ok ()))
      (cleared : clearSocket refusals sites.socket fs₂ = .ok fs₃)
      (refused : takeSocket refusals sites.socket fs₃ = .error fault) :
    Acquired refusals process sites fs ⟨fs₃, { fifo := true, pid := true }, some fault⟩
  | all {fs₁ fs₂ fs₃ fs₄} (fifo : takeFifo refusals sites.fifo fs = .ok fs₁)
      (pid : takePid refusals process sites.pid fs₁ = (fs₂, .ok ()))
      (cleared : clearSocket refusals sites.socket fs₂ = .ok fs₃)
      (socket : takeSocket refusals sites.socket fs₃ = .ok fs₄) :
    Acquired refusals process sites fs
      ⟨fs₄, { fifo := true, pid := true, socket := true }, none⟩

theorem acquired (refusals : Refusals) (process : Nat) (sites : Sites) (fs : Files) :
    Acquired refusals process sites fs (acquire refusals process sites fs) := by
  unfold acquire
  split
  · next fault refused => exact .noFifo refused
  · next fs₁ fifo =>
    split
    · next refused => exact .noPid fifo refused
    · next fs₂ pid =>
      split
      · next refused => exact .notCleared fifo pid refused
      · next fs₃ cleared =>
        split
        · next refused => exact .noSocket fifo pid cleared refused
        · next socket => exact .all fifo pid cleared socket

theorem run_of_fault {fault : Fault} (refused : Plan.make home lives fs s o = .error fault) :
    run home lives refusals process fs s o = (fs, some fault) := by
  unfold run launch
  rw [refused]

/-- A daemon that gets as far as its places ends with letting go of those that it holds. -/
theorem run_of_plan {plan : Plan} (planned : Plan.make home lives fs s o = .ok plan) :
    run home lives refusals process fs s o =
      ((acquire refusals process plan.sites fs).holdings.release plan.sites
        (acquire refusals process plan.sites fs).files,
        (acquire refusals process plan.sites fs).fault) := by
  have reached := acquired refusals process plan.sites fs
  unfold run launch
  rw [planned]
  dsimp only
  unfold Plan.launch
  generalize acquire refusals process plan.sites fs = standing at reached ⊢
  cases reached <;> rfl

/-! ### The plan -/

theorem sites_of_make {plan : Plan} (planned : Plan.make home lives fs s o = .ok plan) :
    plan.sites = Sites.of home s o := by
  unfold Plan.make at planned
  dsimp only at planned
  split at planned
  · cases planned
  · obtain ⟨rules, -, planned⟩ := bind_eq_ok_iff.mp planned
    obtain ⟨waker, -, planned⟩ := bind_eq_ok_iff.mp planned
    rw [← Except.ok.inj planned]

theorem make_eq_error (refused :
    PidFile.isRunning lives fs (Sites.of home s o).pid = true ∨
      (∃ cause, readRules fs (Sites.of home s o).rules = .error cause) ∨
      ∃ cause, Waker.ofSettings s.wake = .error cause) :
    ∃ fault, Plan.make home lives fs s o = .error fault := by
  cases planned : Plan.make home lives fs s o with
  | error fault => exact ⟨fault, rfl⟩
  | ok plan =>
    unfold Plan.make at planned
    dsimp only at planned
    split at planned
    · cases planned
    · next idle =>
      obtain ⟨rules, read, planned⟩ := bind_eq_ok_iff.mp planned
      obtain ⟨waker, woken, -⟩ := bind_eq_ok_iff.mp planned
      rw [mapError_eq_ok_iff] at read woken
      rcases refused with running | ⟨cause, none⟩ | ⟨cause, none⟩
      · exact absurd running idle
      · rw [read] at none
        cases none
      · rw [woken] at none
        cases none

/-! ### The files -/

theorem Tidy.refl (refusals : Refusals) (sites : Sites) (fs : Files) (fault : Fault) :
    Tidy refusals sites fs fs (some fault) :=
  ⟨.inl rfl, .inl rfl, fun _ => .inl rfl, fun _ entry _ => ⟨entry, nofun⟩,
    fun _ entry _ => ⟨entry, nofun⟩, fun _ _ _ _ => rfl⟩

namespace Acquired

variable {st : Standing} {p : Pathname} {e : Entry}

theorem changed_of_pid {fs₁ fs₂ : Files} {r : Except Fault Unit}
    (fifo : takeFifo refusals sites.fifo fs = .ok fs₁)
    (pid : takePid refusals process sites.pid fs₁ = (fs₂, r)) :
    ChangedAt [sites.fifo, sites.pid] fs fs₂ := by
  have first := (takeFifo_eq_ok fifo).1.mono (List.subset_append_left _ [sites.pid])
  refine first.trans (ChangedAt.mono ?_ (List.subset_append_right [sites.fifo] _))
  cases r with
  | error fault => exact (takePid_eq_error pid).1
  | ok _ => exact (takePid_eq_ok pid).1

theorem changed (reached : Acquired refusals process sites fs st) :
    ChangedAt [sites.fifo, sites.pid, sites.socket] fs st.files := by
  have two : [sites.fifo, sites.pid] ⊆ [sites.fifo, sites.pid, sites.socket] :=
    List.subset_append_left _ [sites.socket]
  have third : [sites.socket] ⊆ [sites.fifo, sites.pid, sites.socket] :=
    List.subset_append_right [sites.fifo, sites.pid] _
  cases reached with
  | noFifo _ => exact .refl _ fs
  | noPid fifo refused => exact (changed_of_pid fifo refused).mono two
  | notCleared fifo pid _ => exact (changed_of_pid fifo pid).mono two
  | noSocket fifo pid cleared _ =>
    exact ((changed_of_pid fifo pid).mono two).trans ((clearSocket_eq_ok cleared).1.mono third)
  | all fifo pid cleared socket =>
    exact (((changed_of_pid fifo pid).mono two).trans
      ((clearSocket_eq_ok cleared).1.mono third)).trans ((takeSocket_eq_ok socket).1.mono third)

theorem slots (reached : Acquired refusals process sites fs st) :
    ∀ p ∈ st.holdings.paths sites, fs.IsSlot p := by
  have pidSlot : ∀ {fs₁ fs₂}, takeFifo refusals sites.fifo fs = .ok fs₁ →
      takePid refusals process sites.pid fs₁ = (fs₂, .ok ()) → fs.IsSlot sites.pid :=
    fun fifo pid => (takePid_eq_ok pid).2.congr (takeFifo_eq_ok fifo).1.folders.symm
  cases reached with
  | noFifo _ => exact fun _ mem => by cases mem
  | noPid fifo _ => exact List.forall_mem_singleton.mpr (takeFifo_eq_ok fifo).2
  | notCleared fifo pid _ =>
    exact List.forall_mem_cons.mpr ⟨(takeFifo_eq_ok fifo).2,
      List.forall_mem_singleton.mpr (pidSlot fifo pid)⟩
  | noSocket fifo pid _ _ =>
    exact List.forall_mem_cons.mpr ⟨(takeFifo_eq_ok fifo).2,
      List.forall_mem_singleton.mpr (pidSlot fifo pid)⟩
  | all fifo pid cleared socket =>
    have before := (changed_of_pid fifo pid).folders.trans (clearSocket_eq_ok cleared).1.folders
    exact List.forall_mem_cons.mpr ⟨(takeFifo_eq_ok fifo).2, List.forall_mem_cons.mpr
      ⟨(takeSocket_eq_ok socket).2.congr before.symm,
        List.forall_mem_singleton.mpr (pidSlot fifo pid)⟩⟩

theorem eq_of_at? {x : Entry} (known : fs.at? p = none ∨ fs.at? p = some x)
    (entry : fs.at? p = some e) : e = x := by
  rcases known with free | taken
  · rw [free] at entry
    cases entry
  · exact Option.some.inj (entry.symm.trans taken)

/-- Letting go of the places, however many of them are held, leaves tidy files. -/
theorem tidy (reached : Acquired refusals process sites fs st) (apart : sites.Apart fs) :
    Tidy refusals sites fs (st.holdings.release sites st.files) st.fault := by
  simp only [Sites.Apart, List.pairwise_cons, List.mem_cons, List.not_mem_nil, or_false,
    forall_eq_or_imp, forall_eq] at apart
  obtain ⟨-, ⟨fifoSocket, fifoPid⟩, socketPid, -⟩ := apart
  have released := cleared_release st.holdings sites st.files
  have gone : ∀ p ∈ st.holdings.paths sites, (st.holdings.release sites st.files).at? p = none :=
    fun p mem => released.gone p mem ((reached.slots p mem).congr reached.changed.folders)
  have others : ∀ p, Apart fs sites.fifo p → Apart fs sites.socket p → Apart fs sites.pid p →
      (st.holdings.release sites st.files).at? p = fs.at? p := by
    intro p fifo socket pid
    have all := reached.changed.trans (released.changed.mono (st.holdings.paths_subset sites))
    exact all.at?_eq (by simp [fifo, socket, pid])
  have socketKept : ∀ {fs'}, ChangedAt [sites.fifo, sites.pid] fs fs' →
      fs'.at? sites.socket = fs.at? sites.socket :=
    fun changed => changed.at?_eq (by simp [fifoSocket, socketPid.symm])
  cases reached with
  | noFifo refused => exact .refl ..
  | noPid fifo refused =>
    have known := at?_of_takeFifo fifo
    have fifoOnly := released.changed.mono (List.subset_append_left [sites.fifo] [sites.pid])
    have socketSame := socketKept ((changed_of_pid fifo refused).trans fifoOnly)
    refine ⟨.inr (gone _ (by simp [Holdings.paths])), .inl socketSame, fun allowed => .inl ?_,
      fun e entry foreign => absurd (eq_of_at? known entry) foreign,
      fun e entry _ => ⟨socketSame.trans entry, fun same => by cases same⟩, others⟩
    obtain rfl := (takePid_eq_error refused).2 allowed
    exact ((takeFifo_eq_ok fifo).1.trans released.changed).at?_eq
      (List.forall_mem_singleton.mpr fifoPid)
  | notCleared fifo pid refused =>
    have known := at?_of_takeFifo fifo
    have socketSame := socketKept ((changed_of_pid fifo pid).trans released.changed)
    exact ⟨.inr (gone _ (by simp [Holdings.paths])), .inl socketSame,
      fun _ => .inr (gone _ (by simp [Holdings.paths])),
      fun e entry foreign => absurd (eq_of_at? known entry) foreign,
      fun e entry _ => ⟨socketSame.trans entry, fun same => by cases same⟩, others⟩
  | noSocket fifo pid cleared refused =>
    have known := at?_of_takeFifo fifo
    obtain ⟨-, free, stale⟩ := clearSocket_eq_ok cleared
    rw [socketKept (changed_of_pid fifo pid)] at stale
    exact ⟨.inr (gone _ (by simp [Holdings.paths])), .inr (released.at?_eq_none free),
      fun _ => .inr (gone _ (by simp [Holdings.paths])),
      fun e entry foreign => absurd (eq_of_at? known entry) foreign,
      fun e entry foreign => absurd (eq_of_at? stale entry) foreign, others⟩
  | all fifo pid cleared socket =>
    have known := at?_of_takeFifo fifo
    obtain ⟨-, -, stale⟩ := clearSocket_eq_ok cleared
    rw [socketKept (changed_of_pid fifo pid)] at stale
    exact ⟨.inr (gone _ (by simp [Holdings.paths])), .inr (gone _ (by simp [Holdings.paths])),
      fun _ => .inr (gone _ (by simp [Holdings.paths])),
      fun e entry foreign => absurd (eq_of_at? known entry) foreign,
      fun e entry foreign => absurd (eq_of_at? stale entry) foreign, others⟩

end Acquired

/-- However a daemon ends, the files are tidy and the rules are as they were. If it may not start,
nothing has changed at all. -/
theorem run_tidy (home : Option String) (lives : Int → Bool) (refusals : Refusals) (process : Nat)
    (fs : Files) (s : Settings) (o : Overrides) (apart : (Sites.of home s o).Apart fs) :
    Tidy refusals (Sites.of home s o) fs (run home lives refusals process fs s o).1
        (run home lives refusals process fs s o).2 ∧
      (run home lives refusals process fs s o).1.at? (Sites.of home s o).rules =
        fs.at? (Sites.of home s o).rules ∧
      (PidFile.isRunning lives fs (Sites.of home s o).pid = true ∨
        (∃ cause, readRules fs (Sites.of home s o).rules = .error cause) ∨
        (∃ cause, Waker.ofSettings s.wake = .error cause) →
          (run home lives refusals process fs s o).1 = fs ∧
            (run home lives refusals process fs s o).2 ≠ none) := by
  have tidy : Tidy refusals (Sites.of home s o) fs (run home lives refusals process fs s o).1
      (run home lives refusals process fs s o).2 := by
    cases planned : Plan.make home lives fs s o with
    | error fault =>
      rw [run_of_fault planned]
      exact .refl ..
    | ok plan =>
      rw [run_of_plan planned]
      rw [← sites_of_make planned] at apart ⊢
      exact (acquired refusals process plan.sites fs).tidy apart
  refine ⟨tidy, ?_, fun refused => ?_⟩
  · have rulesApart := (List.pairwise_cons.mp apart).1
    simp only [List.mem_cons, List.not_mem_nil, or_false, forall_eq_or_imp, forall_eq] at rulesApart
    obtain ⟨fifo, socket, pid⟩ := rulesApart
    exact tidy.others _ fifo.symm socket.symm pid.symm
  · obtain ⟨fault, planned⟩ := make_eq_error refused
    rw [run_of_fault planned]
    exact ⟨rfl, nofun⟩

theorem run_tidy_emptyRules :
    Tidy .none ⟨⟨"rules"⟩, ⟨"fifo"⟩, ⟨"control.sock"⟩, ⟨"control.pid"⟩⟩
      ⟨[], [(["rules"], .file []), (["fifo"], .pipe)]⟩
      (run none (fun _ => false) .none 7 ⟨[], [(["rules"], .file []), (["fifo"], .pipe)]⟩
        { rules := "rules", fifo := "fifo", socket := "control.sock" } {}).1
      (run none (fun _ => false) .none 7 ⟨[], [(["rules"], .file []), (["fifo"], .pipe)]⟩
        { rules := "rules", fifo := "fifo", socket := "control.sock" } {}).2 :=
  (run_tidy none (fun _ => false) .none 7 ⟨[], [(["rules"], .file []), (["fifo"], .pipe)]⟩
    { rules := "rules", fifo := "fifo", socket := "control.sock" } {} (by decide)).1

/-- Four different paths can lead to three places: then the daemon removes the rules as the file
of its process number. And a file that was opened for the number stays if it could not be written
to. -/
theorem not_tidy_of_different_paths :
    (let fs : Files := ⟨[], [(["control.pid"], .file []), (["old"], .folder)]⟩
    let s : Settings := { rules := "old/../control.pid", fifo := "fifo", socket := "control.sock" }
    let sites := Sites.of none s {}
    [sites.rules, sites.fifo, sites.socket, sites.pid].Pairwise (fun p r => p.same r = false) ∧
      fs.at? sites.rules = some (.file []) ∧
      (run none (fun _ => false) .none 7 fs s {}).1.at? sites.rules = none) ∧
    (let fs : Files := ⟨[], [(["rules"], .file [])]⟩
    let s : Settings := { rules := "rules", fifo := "fifo", socket := "control.sock" }
    let sites := Sites.of none s {}
    let refusals : Refusals := fun call => if call = .writePid then some .unsupported else none
    sites.Apart fs ∧ fs.at? sites.pid = none ∧
      (run none (fun _ => false) refusals 7 fs s {}).1.at? sites.pid = some (.file [])) := by
  decide

end Reveille.Daemon
