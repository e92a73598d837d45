import Reveille.Engine.Status
import Reveille.Proofs.Rule.Built

/-!
# Runs of an engine

A run is a list of operations on an engine, in any order and at any instants. Its trace holds
each operation with its answer.
-/

namespace Reveille

open Reveille.Calendar Reveille.Net

theorem HostLog.get?_recordAll (log : HostLog) (hosts : List Host) (epoch : Int) (host : Host) :
    (log.recordAll hosts epoch).get? host =
      if host ∈ hosts then some epoch else log.get? host := by
  unfold recordAll
  induction hosts generalizing log with
  | nil => rfl
  | cons h hs ih =>
    rw [List.foldl_cons, ih]
    by_cases later : host ∈ hs
    · simp [later]
    · by_cases same : host = h
      · simp [same]
      · simp [later, same, get?_record_of_ne log epoch same]

namespace Engine

inductive Op where
  | motion (now : Instant)
  | dryRun (now : Instant) (previousMotion : Option Int)
  | ping (host : Host) (epoch : Int)
  | enable
  | disable
  | status
deriving DecidableEq

inductive Reply where
  /-- A motion woke these hosts. -/
  | woken (hosts : List Host)
  /-- A motion would wake these hosts. -/
  | wouldWake (hosts : List Host)
  | status (status : Status)
  | done
deriving DecidableEq

def step (e : Engine) : Op → Engine × Reply
  | .motion now => ((e.onMotion now).1, .woken (e.onMotion now).2)
  | .dryRun now previousMotion => (e, .wouldWake (e.dryRun now previousMotion))
  | .ping host epoch => (e.recordPing host epoch, .done)
  | .enable => (e.enableAll, .done)
  | .disable => (e.disableAll, .done)
  | .status => (e, .status e.status)

def after (e : Engine) : List Op → Engine
  | [] => e
  | op :: ops => (e.step op).1.after ops

/-- The operations of a run with their answers. -/
def trace (e : Engine) : List Op → List (Op × Reply)
  | [] => []
  | op :: ops => (op, (e.step op).2) :: (e.step op).1.trace ops

variable {e : Engine} {ops : List Op} {op : Op} {now : Instant} {host : Host}

/-! ### Runs -/

theorem after_append (e : Engine) (ops ops' : List Op) :
    e.after (ops ++ ops') = (e.after ops).after ops' := by
  induction ops generalizing e with
  | nil => rfl
  | cons op ops ih => exact ih (e.step op).1

theorem take_trace (e : Engine) (ops : List Op) (n : Nat) :
    (e.trace ops).take n = e.trace (ops.take n) := by
  induction ops generalizing e n with
  | nil => simp [trace]
  | cons op ops ih =>
    cases n with
    | zero => rfl
    | succ n => rw [trace, List.take_succ_cons, List.take_succ_cons, trace, ih]

theorem getElem?_trace (e : Engine) (ops : List Op) (i : Nat) :
    (e.trace ops)[i]? = ops[i]?.map fun op => (op, ((e.after (ops.take i)).step op).2) := by
  induction ops generalizing e i with
  | nil => rfl
  | cons op ops ih =>
    cases i with
    | zero => rfl
    | succ i =>
      rw [trace, List.getElem?_cons_succ, List.getElem?_cons_succ, ih, List.take_succ_cons, after]

theorem map_fst_trace (e : Engine) (ops : List Op) : (e.trace ops).map Prod.fst = ops := by
  induction ops generalizing e with
  | nil => rfl
  | cons op ops ih => rw [trace, List.map_cons, ih]

theorem take_succ_of_getElem? {i : Nat} (event : ops[i]? = some op) :
    ops.take (i + 1) = ops.take i ++ [op] := by
  rw [List.take_add_one, event, Option.toList_some]

theorem after_take_succ (e : Engine) {i : Nat} (event : ops[i]? = some op) :
    e.after (ops.take (i + 1)) = ((e.after (ops.take i)).step op).1 := by
  rw [take_succ_of_getElem? event, after_append]
  rfl

theorem after_of_step {P : Engine → Prop} (step : ∀ e op, P e → P (e.step op).1) (start : P e)
    (ops : List Op) : P (e.after ops) := by
  induction ops generalizing e with
  | nil => exact start
  | cons op ops ih => exact ih (step e op start)

/-! ### Motions -/

def contextAt (e : Engine) (now : Instant) : Context :=
  .ofInstant now (some (e.motion.last.getD now.epoch)) e.wakes

/-- The rules that a motion fires, in order. -/
def firing (e : Engine) (now : Instant) : List Rule :=
  e.registry.rules.filter fun r => r.enabled && r.holds (e.contextAt now)

theorem onMotion_snd : (e.onMotion now).2 = (e.firing now).map Rule.host := rfl

theorem getElem?_trace_motion {i : Nat} (event : ops[i]? = some (.motion now)) :
    (e.trace ops)[i]? =
      some (.motion now, .woken (((e.after (ops.take i)).firing now).map Rule.host)) := by
  rw [getElem?_trace, event, Option.map_some, step, onMotion_snd]

theorem motion_of_getElem?_trace {i : Nat} {reply : Reply}
    (found : (e.trace ops)[i]? = some (.motion now, reply)) : ops[i]? = some (.motion now) ∧
      reply = .woken (((e.after (ops.take i)).firing now).map Rule.host) := by
  rw [getElem?_trace] at found
  obtain ⟨op, asked, same⟩ := Option.map_eq_some_iff.mp found
  cases same
  exact ⟨asked, rfl⟩

theorem get?_wakes_motion :
    (e.step (.motion now)).1.wakes.get? host =
      if host ∈ (e.firing now).map Rule.host then some now.epoch else e.wakes.get? host :=
  HostLog.get?_recordAll e.wakes _ now.epoch host

/-! ### One morning in an office

A run whose clock steps back, over rules that share a host.
-/

def desk : Host := ⟨none, ⟨0, 17, 34, 51, 68, 85⟩⟩

def printer : Host := ⟨none, ⟨0, 17, 34, 51, 68, 86⟩⟩

/-- The desk a minute apart, the desk after ten quiet minutes, the printer unless it was quiet. -/
def office : Registry :=
  ⟨[Rule.make desk 60 ⟨[]⟩, Rule.make desk 0 ⟨[.leaf (.inactiveFor 600)]⟩,
    Rule.make printer 30 ⟨[.not (.leaf (.inactiveFor 300))]⟩]⟩

def morning : List Op :=
  [.motion (.ofEpoch 1700000000), .motion (.ofEpoch 1699999000), .disable,
    .motion (.ofEpoch 1700000050), .enable, .ping desk 1700000051, .motion (.ofEpoch 1700000700)]

theorem office_built : ∀ r ∈ office.rules, r.Built := by
  intro r mem
  simp only [office, List.mem_cons, List.not_mem_nil, or_false] at mem
  rcases mem with rfl | rfl | rfl <;> exact .make _ _ _

theorem morning_dated : ∀ now, .motion now ∈ morning → Instant.isDated now.epoch = true := by
  intro now mem
  simp only [morning, List.mem_cons, Op.motion.injEq, reduceCtorEq, List.not_mem_nil, or_false,
    false_or] at mem
  rcases mem with rfl | rfl | rfl | rfl <;> rfl

end Engine

end Reveille
