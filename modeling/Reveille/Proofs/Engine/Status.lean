import Mathlib.Data.List.Induction
import Reveille.Proofs.Calendar.Shown
import Reveille.Proofs.Engine.History
import Reveille.Proofs.Json.Reading

/-!
# What a status says of a run

A status counts the rules, names each host once in the order of the rules, and tells for each what
happened to it last. It is shown without loss, except for times that have no date.
-/

namespace Reveille

open Reveille.Calendar Reveille.Json Reveille.Net

/-! ### Hosts in the order of the rules -/

/-- Everything of the second list once, in the order in which it appears there first. -/
structure FirstAppearances {α : Type} [DecidableEq α] (distinct all : List α) : Prop where
  once : distinct.Nodup
  mem_iff : ∀ a, a ∈ distinct ↔ a ∈ all
  order : distinct.Pairwise fun a b => all.idxOf a < all.idxOf b

theorem FirstAppearances.concat {α : Type} [DecidableEq α] {distinct all : List α}
    (first : FirstAppearances distinct all) (a : α) :
    FirstAppearances (if a ∈ distinct then distinct else distinct ++ [a]) (all ++ [a]) := by
  have earlier : distinct.Pairwise fun b c => (all ++ [a]).idxOf b < (all ++ [a]).idxOf c := by
    refine first.order.imp_of_mem ?_
    intro b c memb memc before
    rwa [List.idxOf_append_of_mem ((first.mem_iff b).mp memb),
      List.idxOf_append_of_mem ((first.mem_iff c).mp memc)]
  split
  · next known =>
    refine ⟨first.once, fun b => ?_, earlier⟩
    rw [List.mem_append, List.mem_singleton, first.mem_iff]
    constructor
    · exact .inl
    · rintro (mem | rfl)
      · exact mem
      · exact (first.mem_iff b).mp known
  · next new =>
    have absent : a ∉ all := fun mem => new ((first.mem_iff a).mpr mem)
    refine ⟨?_, fun b => ?_, ?_⟩
    · rw [List.nodup_append]
      refine ⟨first.once, List.pairwise_singleton _ a, ?_⟩
      rintro b mem c memc rfl
      obtain rfl := List.mem_singleton.mp memc
      exact new mem
    · rw [List.mem_append, List.mem_append, first.mem_iff]
    · rw [List.pairwise_append]
      refine ⟨earlier, List.pairwise_singleton _ _, ?_⟩
      intro b mem c memc
      obtain rfl := List.mem_singleton.mp memc
      have among := (first.mem_iff b).mp mem
      rw [List.idxOf_append_of_mem among, List.idxOf_append_of_notMem absent]
      have := List.idxOf_lt_length_of_mem among
      omega

theorem Registry.hosts_firstAppearances (reg : Registry) :
    FirstAppearances reg.hosts (reg.rules.map Rule.host) := by
  obtain ⟨rules⟩ := reg
  unfold hosts
  induction rules using List.reverseRecOn with
  | nil => exact ⟨List.nodup_nil, fun _ => Iff.rfl, .nil⟩
  | append_singleton rules r ih =>
    rw [List.map_append, List.foldl_append]
    exact ih.concat r.host

/-! ### What an engine keeps -/

namespace Engine

open History

namespace History

def pingTime? (host : Host) : Op × Reply → Option Int
  | (.ping pinged epoch, _) => if pinged = host then some epoch else none
  | _ => none

def motions (h : History) : List Int :=
  h.filterMap motionTime?

end History

/-- The records of the engine are complete: its pings and the last motion but one too. -/
structure Remembers (reg : Registry) (h : History) (e : Engine) : Prop extends
    Records reg h e where
  previous : e.motion.previous = ((motions h).dropLast.getLast?).or (motions h).getLast?
  pings : ∀ host, e.pings.get? host = latest? (pingTime? host) h

variable {reg : Registry} {h : History} {e : Engine}

theorem remembers_new (reg : Registry) : Remembers reg [] (new reg) where
  toRecords := records_new reg
  previous := rfl
  pings _ := rfl

theorem Remembers.step (remembers : Remembers reg h e) (op : Op) :
    Remembers reg (h ++ [(op, (e.step op).2)]) (e.step op).1 := by
  have silent : ∀ x, motionTime? x = none → motions (h ++ [x]) = motions h := by
    intro x none
    simp [motions, none]
  have unanswered : ∀ x, (∀ host, pingTime? host x = none) → ∀ host,
      latest? (pingTime? host) (h ++ [x]) = latest? (pingTime? host) h := by
    intro x none host
    rw [latest?_concat, none, Option.none_or]
  refine ⟨remembers.toRecords.step op, ?_, ?_⟩
  · cases op with
    | motion now =>
      have times : motions (h ++ [(.motion now, (e.step (.motion now)).2)]) =
          motions h ++ [now.epoch] := by
        simp [motions, motionTime?]
      have last : e.motion.last = (motions h).getLast? := remembers.motion
      rw [times, List.dropLast_concat, ← last, List.getLast?_concat, Option.or_some]
      rfl
    | _ =>
      rw [silent _ rfl]
      exact remembers.previous
  · intro host
    cases op with
    | ping pinged epoch =>
      have read : pingTime? host (.ping pinged epoch, (e.step (.ping pinged epoch)).2) =
          if pinged = host then some epoch else none := rfl
      have log : (e.step (.ping pinged epoch)).1.pings = e.pings.record pinged epoch := rfl
      rw [latest?_concat, read, log]
      by_cases same : pinged = host
      · rw [if_pos same, same, HostLog.get?_record_self, Option.some_or]
      · rw [if_neg same, Option.none_or, HostLog.get?_record_of_ne _ _ (Ne.symm same)]
        exact remembers.pings host
    | _ =>
      rw [unanswered _ fun _ => rfl]
      exact remembers.pings host

theorem Remembers.run (remembers : Remembers reg h e) (ops : List Op) :
    Remembers reg (h ++ e.trace ops) (e.after ops) := by
  induction ops generalizing h e with
  | nil => rwa [trace, List.append_nil, after]
  | cons op ops ih =>
    rw [trace, after, List.append_cons]
    exact ih (remembers.step op)

/-! ### Status -/

/-- What a status has to say after a history of an engine over the registry. -/
structure Reports (reg : Registry) (h : History) (s : Status) : Prop where
  rules : s.rules = reg.rules.length
  enabled : s.enabled = reg.rules.countP (History.enabled h)
  hosts : FirstAppearances (s.hosts.map HostStatus.host) (reg.rules.map Rule.host)
  lastWake : ∀ x ∈ s.hosts, x.lastWake = latest? (wakeTime? x.host) h
  lastPing : ∀ x ∈ s.hosts, x.lastPing = latest? (pingTime? x.host) h
  noMotion : motions h = [] → s.lastMotion = none ∧ s.previousMotion = none
  oneMotion : ∀ only, motions h = [only] →
    s.lastMotion = some only ∧ s.previousMotion = some only
  moreMotions : ∀ before previous last, motions h = before ++ [previous, last] →
    s.lastMotion = some last ∧ s.previousMotion = some previous

theorem Remembers.reports (remembers : Remembers reg h e) : Reports reg h e.status := by
  have last : e.status.lastMotion = (motions h).getLast? := remembers.motion
  have previous : e.status.previousMotion = _ := remembers.previous
  have hosts : e.status.hosts.map HostStatus.host = e.registry.hosts := by
    rw [status, List.map_map]
    exact List.map_id _
  have owners : e.registry.rules.map Rule.host = reg.rules.map Rule.host := by
    rw [remembers.rules, List.map_map]
    rfl
  refine ⟨?_, ?_, ?_, ?_, ?_, ?_, ?_, ?_⟩
  · show e.registry.rules.length = _
    rw [remembers.rules, List.length_map]
  · show e.registry.rules.countP _ = _
    rw [remembers.rules, List.countP_map]
    rfl
  · rw [hosts, ← owners]
    exact e.registry.hosts_firstAppearances
  · intro x mem
    obtain ⟨host, -, rfl⟩ := List.mem_map.mp mem
    exact remembers.wakes host
  · intro x mem
    obtain ⟨host, -, rfl⟩ := List.mem_map.mp mem
    exact remembers.pings host
  · intro none
    rw [last, previous, none]
    exact ⟨rfl, rfl⟩
  · intro only one
    rw [last, previous, one]
    exact ⟨rfl, rfl⟩
  · intro before previous' last' more
    rw [last, previous, more]
    simp

end Engine

/-! ### The status as it is shown -/

structure HostStatus.ShownBy (v : Value) (x : HostStatus) : Prop where
  address : v.get? "address" = x.host.address.map fun a => .string a.text
  mac : v.get? "mac" = some (.string x.host.mac.text)
  lastWake : v.get? "last_wake" = some (timeValue x.lastWake)
  lastPing : v.get? "last_ping" = some (timeValue x.lastPing)

structure Status.ShownBy (v : Value) (s : Status) : Prop where
  rules : v.get? "rules" = some (.int s.rules)
  enabled : v.get? "enabled" = some (.int s.enabled)
  lastMotion : v.get? "last_motion" = some (timeValue s.lastMotion)
  previousMotion : v.get? "previous_motion" = some (timeValue s.previousMotion)
  hosts : ∃ vs, v.get? "hosts" = some (.array vs) ∧ List.Forall₂ HostStatus.ShownBy vs s.hosts

theorem HostStatus.shownBy_toJson (x : HostStatus) : ShownBy x.toJson x := by
  obtain ⟨⟨address, mac⟩, lastWake, lastPing⟩ := x
  cases address <;>
    exact ⟨Value.get?_ofMembers _ _, Value.get?_ofMembers _ _, Value.get?_ofMembers _ _,
      Value.get?_ofMembers _ _⟩

theorem Status.shownBy_toJson (s : Status) : ShownBy s.toJson s := by
  refine ⟨Value.get?_ofMembers _ _, Value.get?_ofMembers _ _, Value.get?_ofMembers _ _,
    Value.get?_ofMembers _ _, s.hosts.map HostStatus.toJson, Value.get?_ofMembers _ _, ?_⟩
  rw [List.forall₂_map_left_iff, List.forall₂_same]
  intro x _
  exact x.shownBy_toJson

theorem timeValue_eq_null_iff {time : Option Int} :
    timeValue time = .null ↔ ∀ epoch ∈ time, Instant.isDated epoch = false := by
  cases time with
  | none => simp [timeValue, Value.ofOption]
  | some epoch =>
    simp only [Option.mem_some_iff, forall_eq']
    cases dated : Instant.isDated epoch <;> simp [timeValue, Instant.utcText?, dated, Value.ofOption]

/-- A time that has a date is shown as no other. -/
theorem timeValue_inj {epoch : Int} {time : Option Int} (dated : Instant.isDated epoch = true)
    (same : timeValue time = timeValue (some epoch)) : time = some epoch := by
  have text : Instant.utcText? epoch = some _ := if_pos dated
  have shown : timeValue (some epoch) = .ofOption ((Instant.utcText? epoch).map .string) := rfl
  rw [shown, text] at same
  cases time with
  | none => cases same
  | some other =>
    have shown : timeValue (some other) = .ofOption ((Instant.utcText? other).map .string) := rfl
    rw [shown] at same
    cases found : Instant.utcText? other with
    | none =>
      rw [found] at same
      cases same
    | some text' =>
      rw [found] at same
      have texts : text' = _ := Value.string.inj same
      rw [texts, ← text] at found
      rw [utcText_inj dated found.symm]

namespace Engine

open History

/-- After any run the status says what became of it: how many rules there are and how many are
switched on, each host of theirs with its own latest wake and ping, and the last two motions. All
this is shown, and of two times that have dates it is told which one is meant. -/
theorem status_of_run :
    (∀ (reg : Registry) (ops : List Op),
      Reports reg ((new reg).trace ops) ((new reg).after ops).status) ∧
    (∀ s : Status, s.ShownBy s.toJson) ∧
    (∀ time : Option Int,
      timeValue time = .null ↔ ∀ epoch ∈ time, Instant.isDated epoch = false) ∧
    ∀ (epoch : Int) (time : Option Int), Instant.isDated epoch = true →
      timeValue time = timeValue (some epoch) → time = some epoch := by
  refine ⟨?_, Status.shownBy_toJson, fun _ => timeValue_eq_null_iff, fun _ _ => timeValue_inj⟩
  intro reg ops
  exact ((remembers_new reg).run ops).reports

/-- The hardware address of the desk at a network address: another host. -/
def deskAtHome : Host := ⟨some (.v4 192 168 1 101), desk.mac⟩

def household : Registry :=
  ⟨[Rule.make desk 0 ⟨[]⟩, Rule.make deskAtHome 0 ⟨[.leaf (.inactiveFor 300)]⟩,
    Rule.make desk 60 ⟨[]⟩]⟩

/-- The last ping is at a second that has no date. -/
def evening : List Op :=
  [.motion (.ofEpoch 1700000000), .ping desk 1700000001, .ping deskAtHome 9000000000000, .disable]

theorem status_of_run_evening :
    let s := ((new household).after evening).status
    motions ((new household).trace evening) = [1700000000] ∧
    s.lastMotion = some 1700000000 ∧ s.previousMotion = some 1700000000 ∧
    s.rules = 3 ∧ s.enabled = 0 ∧ s.hosts.map HostStatus.host = [desk, deskAtHome] ∧
    (∀ x ∈ s.hosts, x.host = desk → x.lastWake = some 1700000000 ∧ x.lastPing = some 1700000001) ∧
    (∀ x ∈ s.hosts, x.host = deskAtHome → x.lastWake = none ∧ timeValue x.lastPing = .null) ∧
    Instant.isDated 1700000001 = true ∧
    ∀ time, timeValue time = timeValue (some 1700000001) → time = some 1700000001 := by
  intro s
  obtain ⟨reports, -, absent, told⟩ := status_of_run
  have report := reports household evening
  have one : motions ((new household).trace evening) = [1700000000] := by decide
  have dated : Instant.isDated 1700000001 = true := by decide
  refine ⟨one, (report.oneMotion _ one).1, (report.oneMotion _ one).2, report.rules, ?_, by decide,
    ?_, ?_, dated, fun time => told 1700000001 time dated⟩
  · exact report.enabled.trans (by decide)
  · intro x mem same
    rw [report.lastWake x mem, report.lastPing x mem, same]
    decide
  · intro x mem same
    rw [report.lastWake x mem, absent, report.lastPing x mem, same]
    decide

end Engine

end Reveille
