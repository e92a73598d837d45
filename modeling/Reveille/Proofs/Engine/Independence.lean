import Reveille.Proofs.Engine.Run

/-!
# Hosts do not interfere

What happens to some of the hosts depends on their rules only: not on the rules of other hosts,
and not on the order of the rules. Two engines run side by side, one over all rules and one over
those of the chosen hosts in any order, and stay in step.
-/

namespace Reveille.Engine

open Reveille.Calendar Reveille.Net

/-- On the chosen hosts the second engine is like the first, and it has no rules of others. -/
structure InStep (chosen : Host → Bool) (e e' : Engine) : Prop where
  own : ∀ r ∈ e.registry.rules, r.AsksOwnHost
  rules : e'.registry.rules.Perm (e.registry.rules.filter fun r => chosen r.host)
  motion : e'.motion = e.motion
  wakes : ∀ host, chosen host = true → e'.wakes.get? host = e.wakes.get? host

variable {chosen : Host → Bool} {e e' : Engine} {now : Instant}

namespace InStep

theorem holds_eq (h : InStep chosen e e') {r : Rule} (mem : r ∈ e.registry.rules)
    (among : chosen r.host = true) :
    r.holds (e'.contextAt now) = r.holds (e.contextAt now) := by
  have context : e'.contextAt now = { e.contextAt now with wakes := e'.wakes } := by
    rw [contextAt, contextAt, h.motion]
    rfl
  rw [context]
  exact Rule.holds_congr (h.own r mem) (h.wakes r.host among)

theorem firing_perm (h : InStep chosen e e') (now : Instant) :
    (e'.firing now).Perm ((e.firing now).filter fun r => chosen r.host) := by
  have fires : ∀ r ∈ e.registry.rules.filter fun r => chosen r.host,
      (r.enabled && r.holds (e'.contextAt now)) = (r.enabled && r.holds (e.contextAt now)) := by
    intro r mem
    obtain ⟨mem, among⟩ := List.mem_filter.mp mem
    rw [h.holds_eq mem among]
  have kept := h.rules.filter fun r => r.enabled && r.holds (e'.contextAt now)
  rw [List.filter_congr fires, List.filter_filter] at kept
  rw [firing, firing, List.filter_filter]
  simpa only [Bool.and_comm] using kept

theorem hosts_perm (h : InStep chosen e e') (now : Instant) :
    ((e'.firing now).map Rule.host).Perm (((e.firing now).map Rule.host).filter chosen) := by
  rw [List.filter_map]
  exact (h.firing_perm now).map Rule.host

theorem wakes_iff (h : InStep chosen e e') {host : Host} (among : chosen host = true) :
    host ∈ (e'.firing now).map Rule.host ↔ host ∈ (e.firing now).map Rule.host := by
  rw [(h.hosts_perm now).mem_iff, List.mem_filter]
  exact and_iff_left among

theorem setAllEnabled (h : InStep chosen e e') (b : Bool) :
    InStep chosen { e with registry := e.registry.setAllEnabled b }
      { e' with registry := e'.registry.setAllEnabled b } where
  own r mem := by
    obtain ⟨before, found, rfl⟩ := List.mem_map.mp mem
    exact h.own before found
  rules := by
    have switched := h.rules.map (·.setEnabled b)
    rw [Registry.setAllEnabled, Registry.setAllEnabled, List.filter_map]
    exact switched
  motion := h.motion
  wakes := h.wakes

theorem step (h : InStep chosen e e') (op : Op) :
    InStep chosen (e.step op).1 (e'.step op).1 := by
  cases op with
  | motion now =>
    refine ⟨h.own, h.rules, congrArg (·.record now.epoch) h.motion, fun host among => ?_⟩
    rw [get?_wakes_motion, get?_wakes_motion, h.wakes host among,
      if_congr (h.wakes_iff among) rfl rfl]
  | enable => exact h.setAllEnabled true
  | disable => exact h.setAllEnabled false
  | _ => exact ⟨h.own, h.rules, h.motion, h.wakes⟩

theorem after (h : InStep chosen e e') (ops : List Op) :
    InStep chosen (e.after ops) (e'.after ops) := by
  induction ops generalizing e e' with
  | nil => exact h
  | cons op ops ih => exact ih (h.step op)

end InStep

theorem inStep_new {reg reg' : Registry} (built : ∀ r ∈ reg.rules, r.Built)
    (kept : reg'.rules.Perm (reg.rules.filter fun r => chosen r.host)) :
    InStep chosen (new reg) (new reg') where
  own r mem := (built r mem).asksOwnHost
  rules := kept
  motion := rfl
  wakes _ _ := rfl

/-- A registry that keeps the rules of the chosen hosts, in any order, wakes these hosts at the
same motions and as often, and has the same wakes of theirs on record after every step. -/
theorem chosen_hosts_independent (reg reg' : Registry) (chosen : Host → Bool)
    (built : ∀ r ∈ reg.rules, r.Built)
    (kept : reg'.rules.Perm (reg.rules.filter fun r => chosen r.host)) (ops : List Op) :
    (∀ (i : Nat) (now : Instant), ops[i]? = some (.motion now) → ∃ hosts hosts',
      ((new reg).trace ops)[i]? = some (.motion now, .woken hosts) ∧
      ((new reg').trace ops)[i]? = some (.motion now, .woken hosts') ∧
      (hosts'.filter chosen).Perm (hosts.filter chosen)) ∧
    ∀ (i : Nat) (host : Host), chosen host = true →
      ((new reg').after (ops.take i)).wakes.get? host =
        ((new reg).after (ops.take i)).wakes.get? host := by
  have start := inStep_new built kept
  refine ⟨fun i now event => ⟨_, _, getElem?_trace_motion event, getElem?_trace_motion event, ?_⟩,
    fun i host among => (start.after (ops.take i)).wakes host among⟩
  have same := ((start.after (ops.take i)).hosts_perm now).filter chosen
  simpa only [List.filter_filter, Bool.and_self] using same

theorem chosen_hosts_independent_desk :
    (∀ r ∈ office.rules, r.Built) ∧
    [Rule.make desk 0 ⟨[.leaf (.inactiveFor 600)]⟩, Rule.make desk 60 ⟨[]⟩].Perm
      (office.rules.filter fun r => r.host = desk) ∧
    ((new ⟨[Rule.make desk 0 ⟨[.leaf (.inactiveFor 600)]⟩, Rule.make desk 60 ⟨[]⟩]⟩).after
        (morning.take 7)).wakes.get? desk =
      ((new office).after (morning.take 7)).wakes.get? desk :=
  have kept : [Rule.make desk 0 ⟨[.leaf (.inactiveFor 600)]⟩, Rule.make desk 60 ⟨[]⟩].Perm
      (office.rules.filter fun r => r.host = desk) := by decide
  ⟨office_built, kept,
    (chosen_hosts_independent office ⟨_⟩ (· = desk) office_built kept morning).2 7 desk (by decide)⟩

end Reveille.Engine
