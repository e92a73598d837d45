import Reveille.Proofs.Engine.Run

/-!
# Engines and their history

An engine keeps little of its run: two times of motions, a wake for each host, a switch for each
rule. It answers every motion as if it looked at all that was ever asked and answered.
-/

namespace Reveille.Engine

open Reveille.Calendar Reveille.Net

/-- All that was asked of an engine, with its answers, in order. -/
abbrev History := List (Op × Reply)

namespace History

variable {α : Type} {h : History} {now : Instant} {host : Host}

/-- When an operation woke the host. -/
def wakeTime? (host : Host) : Op × Reply → Option Int
  | (.motion now, .woken hosts) => if host ∈ hosts then some now.epoch else none
  | _ => none

def motionTime? : Op × Reply → Option Int
  | (.motion now, _) => some now.epoch
  | _ => none

def switch? : Op × Reply → Option Bool
  | (.enable, _) => some true
  | (.disable, _) => some false
  | _ => none

/-- What is read off the latest operation that something can be read off. -/
def latest? (read : Op × Reply → Option α) (h : History) : Option α :=
  (h.filterMap read).getLast?

/-- The host was not woken yet, or its latest wake is at least so many seconds ago. -/
def Due (h : History) (now : Instant) (host : Host) (seconds : Nat) : Prop :=
  ∀ last ∈ latest? (wakeTime? host) h, (seconds : Int) ≤ now.epoch - last

/-- There was a motion, and the latest is more than so many seconds ago. -/
def Quiet (h : History) (now : Instant) (seconds : Nat) : Prop :=
  ∃ last ∈ latest? motionTime? h, (seconds : Int) < now.epoch - last

/-- What a condition on a host says of a motion after this history. -/
def Means (h : History) (now : Instant) (host : Host) : Condition → Prop
  | .dayOfWeek days => now.toLocal.weekday ∈ days
  | .timeBetween start stop =>
    start.before now.toLocal.time = true ∧ now.toLocal.time.before stop = true
  | .inactiveFor n => Quiet h now n
  | .holdOff n => Due h now host n

def enabled (h : History) (r : Rule) : Bool :=
  (latest? switch? h).getD r.enabled

/-- The rule has to fire at a motion after this history. -/
def Fires (h : History) (now : Instant) (r : Rule) : Prop :=
  enabled h r = true ∧ Due h now r.host r.holdOff ∧
    r.conditions.Sat fun b => Means h now r.host b.condition

instance (seconds : Nat) : Decidable (Due h now host seconds) := by
  unfold Due
  infer_instance

instance (seconds : Nat) : Decidable (Quiet h now seconds) := by
  unfold Quiet
  infer_instance

instance : DecidablePred (Means h now host) := fun c => by
  cases c <;> unfold Means <;> infer_instance

instance : DecidablePred (Fires h now) := fun r => by
  unfold Fires
  infer_instance

theorem latest?_concat (read : Op × Reply → Option α) (h : History) (x : Op × Reply) :
    latest? read (h ++ [x]) = (read x).or (latest? read h) := by
  rw [latest?, List.filterMap_append]
  cases found : read x with
  | none => simp [found, latest?]
  | some a => simp [found]

theorem mem_of_latest? {read : Op × Reply → Option α} {a : α} (found : latest? read h = some a) :
    ∃ x ∈ h, read x = some a :=
  List.mem_filterMap.mp (List.mem_of_getLast? found)

def Dated (h : History) : Prop :=
  ∀ x ∈ h, ∀ now, x.1 = .motion now → Instant.isDated now.epoch = true

theorem Dated.motion (dated : Dated h) {last : Int} (found : latest? motionTime? h = some last) :
    Instant.isDated last = true := by
  obtain ⟨⟨op, reply⟩, mem, read⟩ := mem_of_latest? found
  cases op with
  | motion now =>
    cases read
    exact dated _ mem now rfl
  | _ => cases read

theorem Dated.wake (dated : Dated h) {last : Int} (found : latest? (wakeTime? host) h = some last) :
    Instant.isDated last = true := by
  obtain ⟨⟨op, reply⟩, mem, read⟩ := mem_of_latest? found
  unfold wakeTime? at read
  split at read
  · next now hosts same =>
    split at read
    · cases read
      exact dated _ mem now (congrArg Prod.fst same)
    · cases read
  · cases read

end History

open History

/-! ### What an engine keeps -/

/-- The engine over the registry has on record what the history says. -/
structure Records (reg : Registry) (h : History) (e : Engine) : Prop where
  rules : e.registry.rules = reg.rules.map fun r => r.setEnabled (enabled h r)
  motion : e.motion.last = latest? motionTime? h
  wakes : ∀ host, e.wakes.get? host = latest? (wakeTime? host) h

variable {reg : Registry} {h : History} {e : Engine} {now : Instant} {r : Rule}

theorem records_new (reg : Registry) : Records reg [] (new reg) where
  rules := (List.map_id reg.rules).symm
  motion := rfl
  wakes _ := rfl

theorem Records.other {x : Op × Reply} {e' : Engine} (records : Records reg h e)
    (noMotion : motionTime? x = none) (noWake : ∀ host, wakeTime? host x = none)
    (motion : e'.motion = e.motion) (wakes : e'.wakes = e.wakes)
    (rules : e'.registry.rules = reg.rules.map fun r => r.setEnabled (enabled (h ++ [x]) r)) :
    Records reg (h ++ [x]) e' where
  rules := rules
  motion := by rw [latest?_concat, noMotion, motion, Option.none_or, records.motion]
  wakes host := by rw [latest?_concat, noWake, wakes, Option.none_or, records.wakes]

theorem Records.setAllEnabled (records : Records reg h e) (b : Bool) :
    (e.registry.setAllEnabled b).rules = reg.rules.map (·.setEnabled b) := by
  rw [Registry.setAllEnabled, records.rules, List.map_map]
  rfl

theorem Records.step (records : Records reg h e) (op : Op) :
    Records reg (h ++ [(op, (e.step op).2)]) (e.step op).1 := by
  have kept : ∀ x, switch? x = none →
      e.registry.rules = reg.rules.map fun r => r.setEnabled (enabled (h ++ [x]) r) := by
    intro x silent
    simp only [enabled, latest?_concat, silent, Option.none_or]
    exact records.rules
  have switched : ∀ x b, switch? x = some b → (e.registry.setAllEnabled b).rules =
      reg.rules.map fun r => r.setEnabled (enabled (h ++ [x]) r) := by
    intro x b switch
    simp only [enabled, latest?_concat, switch, Option.some_or, Option.getD_some]
    exact records.setAllEnabled b
  cases op with
  | motion now =>
    refine ⟨kept _ rfl, ?_, fun host => ?_⟩
    · rw [latest?_concat]
      rfl
    · have read : wakeTime? host (.motion now, (e.step (.motion now)).2) =
          if host ∈ (e.firing now).map Rule.host then some now.epoch else none := rfl
      rw [latest?_concat, read, get?_wakes_motion]
      split
      · rfl
      · exact records.wakes host
  | enable => exact records.other rfl (fun _ => rfl) rfl rfl (switched _ true rfl)
  | disable => exact records.other rfl (fun _ => rfl) rfl rfl (switched _ false rfl)
  | _ => exact records.other rfl (fun _ => rfl) rfl rfl (kept _ rfl)

theorem Records.run (records : Records reg h e) (ops : List Op) :
    Records reg (h ++ e.trace ops) (e.after ops) := by
  induction ops generalizing h e with
  | nil => rwa [trace, List.append_nil, after]
  | cons op ops ih =>
    rw [trace, after, List.append_cons]
    exact ih (records.step op)

/-! ### What a motion wakes -/

theorem Records.due_iff (records : Records reg h e) (past : Dated h)
    (present : Instant.isDated now.epoch = true) (host : Host) (seconds : Nat) :
    holdOffElapsed seconds (e.wakes.get? host) now.epoch = true ↔ Due h now host seconds := by
  rw [records.wakes, Due]
  cases found : latest? (wakeTime? host) h with
  | none => simp [holdOffElapsed]
  | some last =>
    rw [holdOffElapsed_some_iff (sub_lt_maxSeconds (past.wake found) present)]
    simp

theorem Records.quiet_iff (records : Records reg h e) (past : Dated h)
    (present : Instant.isDated now.epoch = true) (seconds : Nat) :
    inactiveFor seconds (some (e.motion.last.getD now.epoch)) now.epoch = true ↔
      Quiet h now seconds := by
  rw [records.motion, Quiet]
  cases found : latest? motionTime? h with
  | none =>
    -- The first motion of all counts as its own predecessor: no time has gone by.
    rw [Option.getD_none, inactiveFor_some_iff (sub_lt_maxSeconds present present)]
    simp
  | some last =>
    rw [Option.getD_some, inactiveFor_some_iff (sub_lt_maxSeconds (past.motion found) present)]
    simp

theorem Records.check_iff (records : Records reg h e) (past : Dated h)
    (present : Instant.isDated now.epoch = true) (host : Host) (c : Condition) :
    (BoundCondition.ofCondition host c).check (e.contextAt now) = true ↔ Means h now host c := by
  cases c with
  | dayOfWeek days => exact List.contains_iff_mem
  | timeBetween start stop => exact Bool.and_eq_true_iff
  | inactiveFor n => exact records.quiet_iff past present n
  | holdOff n => exact records.due_iff past present host n

theorem Records.holds_iff (records : Records reg h e) (past : Dated h)
    (present : Instant.isDated now.epoch = true) (own : r.AsksOwnHost) :
    r.holds (e.contextAt now) = true ↔ Due h now r.host r.holdOff ∧
      r.conditions.Sat fun b => Means h now r.host b.condition := by
  have conditions : r.conditions.holds (e.contextAt now) = true ↔
      r.conditions.Sat fun b => Means h now r.host b.condition := by
    refine When.eval_iff_sat fun b mem => ?_
    obtain ⟨c, rfl⟩ := own b mem
    exact records.check_iff past present r.host c
  rw [Rule.holds, Bool.and_eq_true, conditions]
  exact and_congr_left' (records.due_iff past present r.host r.holdOff)

theorem Records.hosts_firing (records : Records reg h e) (past : Dated h)
    (present : Instant.isDated now.epoch = true) (own : ∀ r ∈ reg.rules, r.AsksOwnHost) :
    (e.firing now).map Rule.host = (reg.rules.filter fun r => Fires h now r).map Rule.host := by
  rw [firing, records.rules, List.filter_map, List.map_map]
  have same : ∀ r ∈ reg.rules, ((r.setEnabled (enabled h r)).enabled &&
      (r.setEnabled (enabled h r)).holds (e.contextAt now)) = decide (Fires h now r) := by
    intro r mem
    rw [Rule.holds_setEnabled, Bool.eq_iff_iff, Bool.and_eq_true,
      records.holds_iff past present (own r mem), decide_eq_true_iff]
    rfl
  exact congrArg (List.map Rule.host) (List.filter_congr same)

/-- Every motion of a run wakes exactly the hosts, in order, of the rules that have to fire after
the history up to it. -/
theorem trace_motion_of_history (reg : Registry) (built : ∀ r ∈ reg.rules, r.Built)
    (ops : List Op) (dated : ∀ now, .motion now ∈ ops → Instant.isDated now.epoch = true)
    (i : Nat) (now : Instant) (event : ops[i]? = some (.motion now)) :
    ((new reg).trace ops)[i]? = some (.motion now, .woken
      ((reg.rules.filter fun r => Fires (((new reg).trace ops).take i) now r).map Rule.host)) := by
  have records := (records_new reg).run (ops.take i)
  rw [List.nil_append, ← take_trace] at records
  have past : Dated (((new reg).trace ops).take i) := by
    rintro ⟨op, reply⟩ mem t rfl
    have asked := List.mem_map_of_mem (f := Prod.fst) (List.mem_of_mem_take mem)
    rw [map_fst_trace] at asked
    exact dated t asked
  have present := dated now (List.mem_of_getElem? event)
  rw [getElem?_trace_motion event,
    records.hosts_firing past present fun r mem => (built r mem).asksOwnHost]

theorem trace_motion_of_history_morning : (∀ r ∈ office.rules, r.Built) ∧
    (∀ now, .motion now ∈ morning → Instant.isDated now.epoch = true) ∧
    morning[6]? = some (.motion (.ofEpoch 1700000700)) ∧
    ((new office).trace morning)[6]? =
      some (.motion (.ofEpoch 1700000700), .woken [desk, desk]) :=
  ⟨office_built, morning_dated, rfl,
    (trace_motion_of_history office office_built morning morning_dated 6 _ rfl).trans (by decide)⟩

end Reveille.Engine
