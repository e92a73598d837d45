import Reveille.Net.Host

/-!
# Host logs

A host log holds one time for each host on record: the last wake, or the last answer to a ping.
-/

namespace Reveille

open Reveille.Net

/-- Epoch seconds by host, no host twice. -/
structure HostLog where
  entries : List (Host × Int)
  nodup : (entries.map Prod.fst).Nodup
deriving DecidableEq, Repr

namespace HostLog

def empty : HostLog := ⟨[], List.nodup_nil⟩

/-- The time on record for a host. -/
def get? (log : HostLog) (host : Host) : Option Int :=
  (log.entries.find? (·.1 = host)).map (·.2)

theorem nodup_record {entries : List (Host × Int)} (nodup : (entries.map Prod.fst).Nodup)
    (host : Host) (epoch : Int) :
    (((host, epoch) :: entries.filter (·.1 ≠ host)).map Prod.fst).Nodup := by
  rw [List.map_cons, List.nodup_cons]
  constructor
  · intro mem
    obtain ⟨entry, kept, same⟩ := List.mem_map.mp mem
    exact of_decide_eq_true (List.mem_filter.mp kept).2 same
  · exact nodup.sublist (List.filter_sublist.map _)

/-- The log with this time for the host, in place of any earlier one. -/
def record (log : HostLog) (host : Host) (epoch : Int) : HostLog :=
  ⟨(host, epoch) :: log.entries.filter (·.1 ≠ host), nodup_record log.nodup host epoch⟩

def recordAll (log : HostLog) (hosts : List Host) (epoch : Int) : HostLog :=
  hosts.foldl (fun log host => log.record host epoch) log

def size (log : HostLog) : Nat := log.entries.length

def isEmpty (log : HostLog) : Bool := log.entries.isEmpty

@[simp] theorem get?_empty (host : Host) : empty.get? host = none := rfl

@[simp] theorem get?_record_self (log : HostLog) (host : Host) (epoch : Int) :
    (log.record host epoch).get? host = some epoch := by
  simp [get?, record]

theorem get?_record_of_ne (log : HostLog) {host other : Host} (epoch : Int) (h : other ≠ host) :
    (log.record host epoch).get? other = log.get? other := by
  have hkeep : ∀ es : List (Host × Int),
      (es.filter (·.1 ≠ host)).find? (·.1 = other) = es.find? (·.1 = other) := by
    intro es
    induction es with
    | nil => rfl
    | cons e es ih =>
      by_cases he : e.1 = host
      · have hne : e.1 ≠ other := fun hh => h (hh ▸ he)
        simpa [List.filter_cons, List.find?_cons, he, hne, h.symm] using ih
      · by_cases ho : e.1 = other
        · simp [ho, h]
        · simpa [List.filter_cons, List.find?_cons, he, ho] using ih
  simp only [get?, record, List.find?_cons]
  rw [hkeep]
  simp [h.symm]

end HostLog

end Reveille
