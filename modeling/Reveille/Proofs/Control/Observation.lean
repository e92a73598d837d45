import Reveille.Proofs.Daemon.Moments
import Reveille.Proofs.Engine.Run

/-!
# Looking on changes nothing

Motions and switches decide what an engine does. Pings, dry runs and statuses, and requests for
anything else, may come in between at will: no motion is answered otherwise, and nothing that a
later motion looks at is changed.
-/

namespace Reveille

open Reveille.Calendar Reveille.Control Reveille.Net

@[simp] theorem Registry.setAllEnabled_setAllEnabled (reg : Registry) (enabled enabled' : Bool) :
    (reg.setAllEnabled enabled).setAllEnabled enabled' = reg.setAllEnabled enabled' := by
  rw [setAllEnabled, setAllEnabled, List.map_map]
  rfl

namespace Engine

def Reply.woken? : Reply → Option (List Host)
  | .woken hosts => some hosts
  | _ => none

def Op.motionEpoch? : Op → Option Int
  | .motion now => some now.epoch
  | _ => none

/-- The engines make the same of every motion. -/
structure Alike (e e' : Engine) : Prop where
  registry : e.registry = e'.registry
  motion : e.motion = e'.motion
  wakes : e.wakes = e'.wakes

def Silent (e : Engine) : Prop :=
  ∀ r ∈ e.registry.rules, r.enabled = false

variable {e e' e'' : Engine}

theorem Alike.refl (e : Engine) : Alike e e :=
  ⟨rfl, rfl, rfl⟩

theorem Alike.symm (alike : Alike e e') : Alike e' e :=
  ⟨alike.registry.symm, alike.motion.symm, alike.wakes.symm⟩

theorem Alike.trans (alike : Alike e e') (alike' : Alike e' e'') : Alike e e'' :=
  ⟨alike.registry.trans alike'.registry, alike.motion.trans alike'.motion,
    alike.wakes.trans alike'.wakes⟩

theorem Alike.step (alike : Alike e e') (op : Op) : Alike (e.step op).1 (e'.step op).1 ∧
    (e.step op).2.woken? = (e'.step op).2.woken? := by
  obtain ⟨registry, motion, wakes, pings⟩ := e
  obtain ⟨registry', motion', wakes', pings'⟩ := e'
  obtain ⟨rfl, rfl, rfl⟩ := alike
  cases op <;> exact ⟨⟨rfl, rfl, rfl⟩, rfl⟩

/-! ### Engines without enabled rules -/

theorem silent_disableAll (e : Engine) : e.disableAll.Silent := by
  intro r mem
  obtain ⟨before, -, rfl⟩ := List.mem_map.mp mem
  rfl

theorem Silent.disableAll (silent : e.Silent) : e.disableAll = e := by
  have same : e.registry.rules.map (·.setEnabled false) = e.registry.rules := by
    refine (List.map_congr_left fun r mem => ?_).trans (List.map_id e.registry.rules)
    rw [Rule.setEnabled, ← silent r mem]
    rfl
  rw [Engine.disableAll, Registry.disableAll, Registry.setAllEnabled, same]

theorem Silent.onMotion (silent : e.Silent) (now : Instant) :
    e.onMotion now = ({ e with motion := e.motion.record now.epoch }, []) := by
  have none : e.dryRun now (e.motion.record now.epoch).previous = [] := by
    rw [dryRun, Registry.wakes, List.map_eq_nil_iff, List.filter_eq_nil_iff]
    intro r mem
    simp [silent r mem]
  rw [Engine.onMotion, none]
  rfl

/-- Until a switch enables the rules, motions are taken notice of and wake nobody. -/
theorem Silent.run (silent : e.Silent) {ops : List Op} (off : .enable ∉ ops) :
    (e.after ops).Silent ∧ (e.after ops).wakes = e.wakes ∧
      (e.after ops).motion = (ops.filterMap Op.motionEpoch?).foldl Motion.record e.motion ∧
      (e.trace ops).filterMap (·.2.woken?) = (ops.filterMap Op.motionEpoch?).map fun _ => [] := by
  induction ops generalizing e with
  | nil => exact ⟨silent, rfl, rfl, rfl⟩
  | cons op ops ih =>
    rw [List.mem_cons, not_or] at off
    cases op with
    | motion now =>
      have first : (e.step (.motion now)) =
          ({ e with motion := e.motion.record now.epoch }, .woken []) := by
        rw [step, silent.onMotion now]
      rw [after, trace, first]
      obtain ⟨silent', wakes, motion, woken⟩ :=
        @ih { e with motion := e.motion.record now.epoch } silent off.2
      exact ⟨silent', wakes, motion, congrArg ([] :: ·) woken⟩
    | enable => exact absurd rfl off.1
    | disable =>
      have first : e.step .disable = (e, .done) := by
        rw [step, silent.disableAll]
      rw [after, trace, first]
      exact ih silent off.2
    -- The record of pings is another one, which no field of the conclusion reads.
    | ping host epoch => exact @ih (e.recordPing host epoch) silent off.2
    | _ => exact ih silent off.2

end Engine

namespace Control

open Engine

/-- Something asked of an engine: an operation, or a request over a connection. -/
inductive Demand where
  | direct (op : Op)
  | request (process : Nat) (now : Instant) (r : Request)

namespace Demand

/-- The motion or the switch that is asked for, if any. -/
def decision? : Demand → Option Op
  | .direct (.motion now) => some (.motion now)
  | .direct .enable => some .enable
  | .direct .disable => some .disable
  | .direct _ => none
  | .request _ now r =>
    if r.method = "motion" then some (.motion now)
    else if r.method = "enable" then some .enable
    else if r.method = "disable" then some .disable
    else none

def IsSwitch (d : Demand) : Prop :=
  d.decision? = some .enable ∨ d.decision? = some .disable

/-- The engine after it, and the hosts to wake if it is a motion. -/
def meet (e : Engine) : Demand → Engine × Option (List Host)
  | .direct op => ((e.step op).1, (e.step op).2.woken?)
  | .request process now r =>
    ((dispatch process now e r).1, (dispatch process now e r).2.2.hosts?)

/-- The engine after all of them, and the hosts to wake, motion by motion. -/
def run (e : Engine) : List Demand → Engine × List (List Host)
  | [] => (e, [])
  | d :: ds => ((run (d.meet e).1 ds).1, (d.meet e).2.toList ++ (run (d.meet e).1 ds).2)

variable {e e' : Engine} {d : Demand} {op : Op}

/-! ### One demand -/

/-- A request does what the operation does that it asks for, and else nothing. -/
theorem meet_request (process : Nat) (now : Instant) (e : Engine) (r : Request) :
    (request process now r).meet e = (request process now r).decision?.elim (e, none) fun op =>
      ((e.step op).1, (e.step op).2.woken?) := by
  cases named : Method.ofName? r.method with
  | none =>
    have unknown := ofName?_eq_none_iff.mp named
    simp only [List.mem_cons, not_or] at unknown
    simp [meet, dispatch, named, decision?, unknown, Outcome.hosts?]
  | some method =>
    rw [meet, dispatch, named, decision?, ofName?_eq_some_iff.mp named]
    cases method <;> rfl

theorem meet_of_decision (asked : d.decision? = some op) (e : Engine) :
    d.meet e = ((e.step op).1, (e.step op).2.woken?) := by
  cases d with
  | direct direct => cases direct <;> cases asked <;> rfl
  | request process now r => rw [meet_request, asked, Option.elim_some]

theorem alike_meet_of_no_decision (asked : d.decision? = none) (e : Engine) :
    Alike (d.meet e).1 e ∧ (d.meet e).2 = none := by
  cases d with
  | direct direct => cases direct <;> cases asked <;> exact ⟨⟨rfl, rfl, rfl⟩, rfl⟩
  | request process now r =>
    rw [meet_request, asked, Option.elim_none]
    exact ⟨.refl e, rfl⟩

/-! ### Runs -/

/-- A run comes to what the decisions come to that are asked for in it. -/
theorem alike_run (alike : Alike e e') (ds : List Demand) :
    Alike (run e ds).1 (e'.after (ds.filterMap decision?)) ∧
      (run e ds).2 = (e'.trace (ds.filterMap decision?)).filterMap (·.2.woken?) := by
  induction ds generalizing e e' with
  | nil => exact ⟨alike, rfl⟩
  | cons d ds ih =>
    cases asked : d.decision? with
    | none =>
      obtain ⟨same, silent⟩ := alike_meet_of_no_decision asked e
      rw [List.filterMap_cons_none asked, run, silent]
      exact ih (same.trans alike)
    -- The record of pings may differ from here on, so the engines stay alike and not equal.
    | some op =>
      obtain ⟨next, woken⟩ := alike.step op
      obtain ⟨later, laterWoken⟩ := ih next
      rw [List.filterMap_cons_some asked, run, meet_of_decision asked, after, trace, laterWoken,
        List.filterMap_cons, ← woken]
      refine ⟨later, ?_⟩
      cases (e.step op).2.woken? <;> rfl

theorem meet_of_isSwitch (switch : d.IsSwitch) : ∃ enabled, ∀ e,
    d.meet e = ({ e with registry := e.registry.setAllEnabled enabled }, none) := by
  rcases switch with asked | asked
  · exact ⟨true, meet_of_decision asked⟩
  · exact ⟨false, meet_of_decision asked⟩

theorem run_switches (e : Engine) {ds : List Demand} (switches : ∀ d ∈ ds, d.IsSwitch)
    {last : Demand} (switch : last.IsSwitch) (later : List Demand) :
    run e (ds ++ last :: later) = run e (last :: later) := by
  induction ds generalizing e with
  | nil => rfl
  | cons d ds ih =>
    rw [List.forall_mem_cons] at switches
    obtain ⟨enabled, first⟩ := meet_of_isSwitch switches.1
    obtain ⟨enabled', second⟩ := meet_of_isSwitch switch
    rw [List.cons_append, run, first, ih _ switches.2, run, run, second, second,
      Registry.setAllEnabled_setAllEnabled]
    rfl

/-- Runs that ask for the same motions and switches wake the same hosts, motion by motion, and end
with the same rules, motions and wakes, whatever else was asked in between. Of switches in a row
the last one counts. Once the rules are disabled, and as long as nothing enables them, motions wake
nobody and put no wake on record, and are taken notice of. -/
theorem run_settled_by_decisions :
    (∀ (e : Engine) (ds ds' : List Demand), ds.filterMap decision? = ds'.filterMap decision? →
      (run e ds).2 = (run e ds').2 ∧ Alike (run e ds).1 (run e ds').1) ∧
    (∀ (e : Engine) (ds : List Demand) (last : Demand) (later : List Demand),
      (∀ d ∈ ds, d.IsSwitch) → last.IsSwitch →
      run e (ds ++ last :: later) = run e (last :: later)) ∧
    (∀ (e : Engine) (d : Demand), d.decision? = some .disable → (d.meet e).1.Silent) ∧
    ∀ (e : Engine) (ds : List Demand), e.Silent → .enable ∉ ds.filterMap decision? →
      (run e ds).1.Silent ∧ (run e ds).1.wakes = e.wakes ∧
      (run e ds).1.motion =
        ((ds.filterMap decision?).filterMap Op.motionEpoch?).foldl Motion.record e.motion ∧
      (run e ds).2 = ((ds.filterMap decision?).filterMap Op.motionEpoch?).map fun _ => [] := by
  refine ⟨fun e ds ds' same => ?_, fun e ds last later switches switch =>
    run_switches e switches switch later, fun e d asked => ?_, fun e ds silent off => ?_⟩
  · obtain ⟨alike, woken⟩ := alike_run (.refl e) ds
    obtain ⟨alike', woken'⟩ := alike_run (.refl e) ds'
    rw [← same] at alike' woken'
    exact ⟨woken.trans woken'.symm, alike.trans alike'.symm⟩
  · rw [meet_of_decision asked]
    exact silent_disableAll e
  · obtain ⟨alike, woken⟩ := alike_run (.refl e) ds
    obtain ⟨still, wakes, motion, none⟩ := silent.run off
    refine ⟨?_, alike.wakes.trans wakes, alike.motion.trans motion, woken.trans none⟩
    rw [Silent, alike.registry]
    exact still

/-- Two motions with a switch in between, asked for in two ways, once under observation. -/
def observed : List Demand :=
  [.direct (.motion (.ofEpoch 1700000000)), .direct .status,
    .request 1 (.ofEpoch 1700000001) (.new "status"), .direct (.ping desk 1700000002),
    .request 1 (.ofEpoch 1700000003) (.new "disable"),
    .direct (.dryRun (.ofEpoch 1700000004) none), .request 1 (.ofEpoch 1700000005) (.new "reload"),
    .request 1 (.ofEpoch 1700000050) (.new "motion"), .request 1 (.ofEpoch 1700000051) (.new "stop")]

def unobserved : List Demand :=
  [.request 1 (.ofEpoch 1700000000) (.new "motion"), .direct .disable,
    .direct (.motion (.ofEpoch 1700000050))]

theorem run_settled_by_decisions_office :
    observed.filterMap decision? = unobserved.filterMap decision? ∧
    (run (.new office) observed).2 = [[desk, printer], []] ∧
    Alike (run (.new office) observed).1 (run (.new office) unobserved).1 ∧
    (direct .enable).IsSwitch ∧ (direct .disable).IsSwitch ∧
    run (.new office) (direct .enable :: direct .disable :: unobserved) =
      run (.new office) (direct .disable :: unobserved) ∧
    (Engine.new office).disableAll.Silent ∧ .enable ∉ unobserved.filterMap decision? ∧
    (run (Engine.new office).disableAll unobserved).2 = [[], []] := by
  obtain ⟨settled, switched, disabled, silenced⟩ := run_settled_by_decisions
  have same : observed.filterMap decision? = unobserved.filterMap decision? := by decide
  have off : .enable ∉ unobserved.filterMap decision? := by decide
  have silent : (Engine.new office).disableAll.Silent := disabled (.new office) (direct .disable) rfl
  obtain ⟨woken, alike⟩ := settled (.new office) observed unobserved same
  exact ⟨same, woken.trans (by decide), alike, .inl rfl, .inr rfl,
    switched (.new office) [direct .enable] (direct .disable) unobserved
      (List.forall_mem_singleton.mpr (.inl rfl)) (.inr rfl),
    silent, off, (silenced _ unobserved silent off).2.2.2⟩

end Demand

end Control

end Reveille
