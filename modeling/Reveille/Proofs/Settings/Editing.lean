import Mathlib.Data.List.Nodup
import Reveille.Command.Run
import Reveille.Proofs.Text.Blank
import Reveille.Proofs.Text.Digits
import Reveille.Settings.Stepwise

/-!
# Edits of one setting

An edit that fails leaves all settings as they were, and one that succeeds changes the setting of
its key and no other. So edits of two keys may change places, and of the edits of one key the last
that succeeds counts.
-/

namespace Reveille

namespace Command.Finished

theorem files_fail (files : Files) (mode : Mode) (exit : Exit) (message : String)
    (details : Option Details) : (fail files mode exit message details).files = files := by
  cases mode <;> rfl

theorem exit_fail (files : Files) (mode : Mode) (exit : Exit) (message : String)
    (details : Option Details) : (fail files mode exit message details).exit = exit := by
  cases mode <;> rfl

end Command.Finished

open Reveille.Command Reveille.Files Reveille.Net Reveille.Text

namespace Settings

/-! ### Names of keys -/

namespace Key

/-- The parts of the name of a key, points between them. -/
def parts : Key → List String
  | rules => ["rules"]
  | fifo => ["fifo"]
  | socket => ["socket"]
  | pingEnabled => ["ping", "enabled"]
  | pingInterval => ["ping", "interval_secs"]
  | wakeMethod => ["wake", "method"]
  | wakeCommand => ["wake", "command"]
  | wakeBroadcast => ["wake", "broadcast"]
  | logLevel => ["log", "level"]

theorem ofParts?_eq_some_iff {ps : List String} {key : Key} :
    ofParts? ps = some key ↔ ps = key.parts := by
  constructor
  · intro found
    unfold ofParts? at found
    split at found <;> cases found <;> rfl
  · rintro rfl
    cases key <;> rfl

theorem parts_split_iff {name : String} {key : Key} :
    (split '.' name.toList).map Piece.text = key.parts ↔ name = key.name := by
  have cut : (split '.' name.toList).map Piece.text =
      (name.toList.splitOn '.').map String.ofList := by
    rw [← map_chars_split, List.map_map]
    rfl
  have clean : ∀ p ∈ key.parts.map String.toList, '.' ∉ p := by
    cases key <;> decide
  have some : key.parts.map String.toList ≠ [] := by
    cases key <;> exact List.cons_ne_nil _ _
  have joined : key.name.toList = ['.'].intercalate (key.parts.map String.toList) := by
    cases key <;> decide
  have back : String.ofList ∘ String.toList = id := by
    funext text
    exact String.ofList_toList
  have forth : String.toList ∘ String.ofList = id := by
    funext chars
    exact String.toList_ofList
  rw [cut]
  constructor
  · intro same
    have pieces : name.toList.splitOn '.' = key.parts.map String.toList := by
      rw [← same, List.map_map, forth, List.map_id]
    rw [splitOn_eq_iff clean some, ← joined] at pieces
    exact String.toList_inj.mp pieces
  · rintro rfl
    rw [(splitOn_eq_iff clean some).mpr joined, List.map_map, back, List.map_id]

theorem name_inj {key key' : Key} (same : key.name = key'.name) : key = key' := by
  cases key <;> cases key' <;> first | rfl | exact absurd same (by decide)

theorem ofName?_eq_some_iff {name : String} {key : Key} :
    ofName? name = some key ↔ name = key.name := by
  constructor
  · intro found
    have same := List.find?_some found
    exact (of_decide_eq_true same).symm
  · rintro rfl
    cases key <;> rfl

theorem mem_names_iff {name : String} : name ∈ all.map Key.name ↔ ∃ key : Key, name = key.name := by
  rw [List.mem_map]
  constructor
  · rintro ⟨key, -, rfl⟩
    exact ⟨key, rfl⟩
  · rintro ⟨key, rfl⟩
    exact ⟨key, by cases key <;> decide, rfl⟩

theorem ofParts?_split (name : String) :
    ofParts? ((split '.' name.toList).map Piece.text) = ofName? name := by
  apply Option.ext
  intro key
  rw [ofParts?_eq_some_iff, parts_split_iff, ofName?_eq_some_iff]

end Key

/-! ### Steps -/

theorem run_assign (value : String) (key : Key) (s : Settings) :
    (Editing.assign value key).run.run s =
      match s.setKey value key with
      | .ok t => (.ok (), t)
      | .error f => (.error f, s) := by
  cases key with
  | pingEnabled =>
    unfold Editing.assign Editing.readFlag setKey
    cases ofWord? flagWords value <;> rfl
  | pingInterval =>
    unfold Editing.assign Editing.readInterval setKey
    cases readNat maxWord value.toList <;> rfl
  | wakeMethod =>
    unfold Editing.assign Editing.readMethod setKey
    cases ofWord? WakeMethod.byName value <;> rfl
  | wakeBroadcast =>
    unfold Editing.assign Editing.checkAddress setKey
    cases Endpoint.ofText? value.toList <;> rfl
  | _ => rfl

/-- No step assigns anything before the last one that can fail. -/
theorem edit_eq (name value : String) (s : Settings) :
    s.edit name value =
      match s.set name value with
      | .ok t => (t, .ok ())
      | .error f => (s, .error f) := by
  unfold edit Editing.assignNamed set
  rw [Key.ofParts?_split]
  cases Key.ofName? name with
  | none => rfl
  | some key =>
    dsimp only
    rw [run_assign]
    cases s.setKey value key <;> rfl

/-! ### What a text stands for -/

/-- What a key holds. -/
inductive Setting where
  | text (text : String)
  | flag (flag : Bool)
  | number (number : Nat)
  | method (method : WakeMethod)
deriving DecidableEq

def get (s : Settings) : Key → Setting
  | .rules => .text s.rules
  | .fifo => .text s.fifo
  | .socket => .text s.socket
  | .pingEnabled => .flag s.ping.enabled
  | .pingInterval => .number s.ping.interval
  | .wakeMethod => .method s.wake.method
  | .wakeCommand => .text s.wake.command
  | .wakeBroadcast => .text s.wake.broadcast
  | .logLevel => .text s.log.level

/-- Nothing but the keys makes up the settings. -/
theorem eq_of_get_eq {s t : Settings} (same : ∀ key, s.get key = t.get key) : s = t := by
  obtain ⟨rules, fifo, socket, ⟨enabled, interval⟩, ⟨method, command, broadcast⟩, ⟨level⟩⟩ := s
  obtain ⟨rules', fifo', socket', ⟨enabled', interval'⟩, ⟨method', command', broadcast'⟩,
    ⟨level'⟩⟩ := t
  obtain rfl := Setting.text.inj (same .rules)
  obtain rfl := Setting.text.inj (same .fifo)
  obtain rfl := Setting.text.inj (same .socket)
  obtain rfl := Setting.flag.inj (same .pingEnabled)
  obtain rfl := Setting.number.inj (same .pingInterval)
  obtain rfl := Setting.method.inj (same .wakeMethod)
  obtain rfl := Setting.text.inj (same .wakeCommand)
  obtain rfl := Setting.text.inj (same .wakeBroadcast)
  obtain rfl := Setting.text.inj (same .logLevel)
  rfl

/-- What a text stands for as the value of a key. Of a network address only the text is kept. -/
inductive Denotes : Key → String → Setting → Prop where
  | text {key : Key} {value : String}
      (free : key ∈ [Key.rules, .fifo, .socket, .wakeCommand, .logLevel]) :
      Denotes key value (.text value)
  | yes {value : String}
      (word : String.ofList (lower value.toList) ∈ ["true", "1", "yes", "on"]) :
      Denotes .pingEnabled value (.flag true)
  | no {value : String}
      (word : String.ofList (lower value.toList) ∈ ["false", "0", "no", "off"]) :
      Denotes .pingEnabled value (.flag false)
  | number {value : String} {n : Nat} (numeral : IsNumeral maxWord value.toList n) :
      Denotes .pingInterval value (.number n)
  | packet {value : String} (word : String.ofList (lower value.toList) = "packet") :
      Denotes .wakeMethod value (.method .packet)
  | command {value : String} (word : String.ofList (lower value.toList) = "command") :
      Denotes .wakeMethod value (.method .command)
  | address {value : String} {endpoint : Endpoint}
      (read : Endpoint.ofText? value.toList = some endpoint) :
      Denotes .wakeBroadcast value (.text value)

theorem ofWord?_eq_some_iff {α : Type} {words : List (String × α)} {value : String} {a : α}
    (distinct : (words.map Prod.fst).Nodup) :
    ofWord? words value = some a ↔ (String.ofList (lower value.toList), a) ∈ words := by
  have sound : ∀ w b, words.find? (·.1.toList = lower value.toList) = some (w, b) →
      w = String.ofList (lower value.toList) ∧ (w, b) ∈ words := by
    intro w b found
    have same := List.find?_some found
    have same : w.toList = lower value.toList := of_decide_eq_true same
    exact ⟨by rw [← same, String.ofList_toList], List.mem_of_find?_eq_some found⟩
  unfold ofWord?
  constructor
  · intro read
    obtain ⟨⟨w, b⟩, found, rfl⟩ := Option.map_eq_some_iff.mp read
    obtain ⟨rfl, mem⟩ := sound w b found
    exact mem
  · intro mem
    cases found : words.find? (·.1.toList = lower value.toList) with
    | none =>
      have none := List.find?_eq_none.mp found _ mem
      simp at none
    | some pair =>
      obtain ⟨w, b⟩ := pair
      obtain ⟨same, other⟩ := sound w b found
      have one := List.inj_on_of_nodup_map distinct other mem same
      rw [Option.map_some, one]

theorem byName_eq : WakeMethod.byName = [("packet", .packet), ("command", .command)] :=
  rfl

theorem exists_denotes_of_setKey {value : String} {key : Key} {s t : Settings}
    (set : s.setKey value key = .ok t) : ∃ v, Denotes key value v ∧ t.get key = v := by
  cases key with
  | pingEnabled =>
    dsimp only [setKey] at set
    split at set
    · next flag read =>
      cases set
      have mem := (ofWord?_eq_some_iff (by decide)).mp read
      refine ⟨.flag flag, ?_, rfl⟩
      cases flag with
      | true => exact .yes (by simpa [flagWords] using mem)
      | false => exact .no (by simpa [flagWords] using mem)
    · cases set
  | pingInterval =>
    dsimp only [setKey] at set
    split at set
    · next n read =>
      cases set
      exact ⟨.number n, .number (readNat_eq_ok_iff.mp read), rfl⟩
    · cases set
  | wakeMethod =>
    dsimp only [setKey] at set
    split at set
    · next method read =>
      cases set
      have mem := (ofWord?_eq_some_iff (by decide)).mp read
      refine ⟨.method method, ?_, rfl⟩
      cases method with
      | packet => exact .packet (by simpa [byName_eq] using mem)
      | command => exact .command (by simpa [byName_eq] using mem)
    · cases set
  | wakeBroadcast =>
    dsimp only [setKey] at set
    split at set
    · next endpoint read =>
      cases set
      exact ⟨.text value, .address read, rfl⟩
    · cases set
  | _ =>
    cases set
    exact ⟨.text value, .text (by decide), rfl⟩

theorem exists_setKey_of_denotes {value : String} {key : Key} {v : Setting}
    (denotes : Denotes key value v) (s : Settings) :
    ∃ t, s.setKey value key = .ok t ∧ t.get key = v := by
  cases denotes with
  | text free =>
    simp only [List.mem_cons, List.not_mem_nil, or_false] at free
    rcases free with rfl | rfl | rfl | rfl | rfl <;> exact ⟨_, rfl, rfl⟩
  | yes word =>
    have read : ofWord? flagWords value = some true :=
      (ofWord?_eq_some_iff (by decide)).mpr (by simpa [flagWords] using word)
    rw [setKey, read]
    exact ⟨_, rfl, rfl⟩
  | no word =>
    have read : ofWord? flagWords value = some false :=
      (ofWord?_eq_some_iff (by decide)).mpr (by simpa [flagWords] using word)
    rw [setKey, read]
    exact ⟨_, rfl, rfl⟩
  | number numeral =>
    rw [setKey, readNat_eq_ok_iff.mpr numeral]
    exact ⟨_, rfl, rfl⟩
  | packet word =>
    have read : ofWord? WakeMethod.byName value = some .packet :=
      (ofWord?_eq_some_iff (by decide)).mpr (by rw [word, byName_eq]; decide)
    rw [setKey, read]
    exact ⟨_, rfl, rfl⟩
  | command word =>
    have read : ofWord? WakeMethod.byName value = some .command :=
      (ofWord?_eq_some_iff (by decide)).mpr (by rw [word, byName_eq]; decide)
    rw [setKey, read]
    exact ⟨_, rfl, rfl⟩
  | address read =>
    rw [setKey, read]
    exact ⟨_, rfl, rfl⟩

/-! ### What an edit does -/

/-- Settings with another value under a key, and else the same. -/
structure Changed (key : Key) (v : Setting) (s t : Settings) : Prop where
  here : t.get key = v
  elsewhere : ∀ other, other ≠ key → t.get other = s.get other

theorem Changed.unique {key : Key} {v : Setting} {s t u : Settings} (toT : Changed key v s t)
    (toU : Changed key v s u) : t = u := by
  apply eq_of_get_eq
  intro other
  by_cases same : other = key
  · rw [same, toT.here, toU.here]
  · rw [toT.elsewhere other same, toU.elsewhere other same]

theorem changed_of_setKey {value : String} {key : Key} {s t : Settings}
    (set : s.setKey value key = .ok t) : Changed key (t.get key) s t := by
  refine ⟨rfl, ?_⟩
  intro other different
  cases key with
  | rules | fifo | socket | wakeCommand | logLevel =>
    cases set
    cases other <;> first | rfl | exact absurd rfl different
  | pingEnabled | pingInterval | wakeMethod | wakeBroadcast =>
    dsimp only [setKey] at set
    split at set
    · cases set
      cases other <;> first | rfl | exact absurd rfl different
    · cases set

theorem setKey_eq_ok_iff {value : String} {key : Key} {s t : Settings} :
    s.setKey value key = .ok t ↔ ∃ v, Denotes key value v ∧ Changed key v s t := by
  constructor
  · intro set
    obtain ⟨v, denotes, rfl⟩ := exists_denotes_of_setKey set
    exact ⟨_, denotes, changed_of_setKey set⟩
  · rintro ⟨v, denotes, changed⟩
    obtain ⟨u, set, rfl⟩ := exists_setKey_of_denotes denotes s
    rw [set, changed.unique (changed_of_setKey set)]

theorem edit_eq_ok_iff {name value : String} {s t : Settings} :
    s.edit name value = (t, .ok ()) ↔
      ∃ key v, name = key.name ∧ Denotes key value v ∧ Changed key v s t := by
  rw [edit_eq]
  constructor
  · intro edit
    unfold set at edit
    split at edit
    · next u set =>
      cases edit
      split at set
      · next key named =>
        obtain ⟨v, denotes, changed⟩ := setKey_eq_ok_iff.mp set
        exact ⟨key, v, Key.ofName?_eq_some_iff.mp named, denotes, changed⟩
      · cases set
    · cases edit
  · rintro ⟨key, v, named, denotes, changed⟩
    rw [set, Key.ofName?_eq_some_iff.mpr named]
    dsimp only
    rw [setKey_eq_ok_iff.mpr ⟨v, denotes, changed⟩]

theorem edit_error {name value : String} {s t : Settings} {f : EditFault}
    (edit : s.edit name value = (t, .error f)) : t = s ∧ s.set name value = .error f := by
  rw [edit_eq] at edit
  cases set : s.set name value <;> rw [set] at edit <;> cases edit
  exact ⟨rfl, rfl⟩

/-- Whether an edit succeeds does not depend on the settings it starts from. -/
theorem exists_edit_of_denotes {value : String} {key : Key} {v : Setting}
    (denotes : Denotes key value v) (s : Settings) :
    ∃ t, s.edit key.name value = (t, .ok ()) ∧ Changed key v s t := by
  obtain ⟨t, set, rfl⟩ := exists_setKey_of_denotes denotes s
  have changed := changed_of_setKey set
  exact ⟨t, edit_eq_ok_iff.mpr ⟨key, _, rfl, denotes, changed⟩, changed⟩

/-! ### Edits after each other -/

theorem edit_comm {name name' value value' : String} {s t u : Settings} (different : name ≠ name')
    (first : s.edit name value = (t, .ok ())) (second : t.edit name' value' = (u, .ok ())) :
    ∃ t', s.edit name' value' = (t', .ok ()) ∧ t'.edit name value = (u, .ok ()) := by
  obtain ⟨key, v, rfl, denotes, change⟩ := edit_eq_ok_iff.mp first
  obtain ⟨key', v', rfl, denotes', change'⟩ := edit_eq_ok_iff.mp second
  have apart : key ≠ key' := fun same => different (by rw [same])
  obtain ⟨t', first', early⟩ := exists_edit_of_denotes denotes' s
  refine ⟨t', first', edit_eq_ok_iff.mpr ⟨key, v, rfl, denotes, ?_, ?_⟩⟩
  · rw [change'.elsewhere key apart, change.here]
  · intro other elsewhere
    by_cases same : other = key'
    · rw [same, change'.here, early.here]
    · rw [change'.elsewhere other same, change.elsewhere other elsewhere,
        early.elsewhere other same]

theorem edit_of_edit {name value value' : String} {s t u : Settings}
    (first : s.edit name value = (t, .ok ())) (second : t.edit name value' = (u, .ok ())) :
    s.edit name value' = (u, .ok ()) := by
  obtain ⟨key, v, rfl, denotes, change⟩ := edit_eq_ok_iff.mp first
  obtain ⟨key', v', named, denotes', change'⟩ := edit_eq_ok_iff.mp second
  obtain rfl := Key.name_inj named
  refine edit_eq_ok_iff.mpr ⟨key, v', rfl, denotes', change'.here, ?_⟩
  intro other elsewhere
  rw [change'.elsewhere other elsewhere, change.elsewhere other elsewhere]

/-- The settings after edits of names to values, of which any may fail. -/
def after (s : Settings) (edits : List (String × String)) : Settings :=
  edits.foldl (fun s e => (s.edit e.1 e.2).1) s

/-- The edit succeeds, and is one of the key. -/
def Hits (key : Key) (e : String × String) : Prop :=
  e.1 = key.name ∧ ∃ v, Denotes key e.2 v

theorem get_edit_of_not_hits {key : Key} {name value : String}
    (misses : ¬ Hits key (name, value)) (s : Settings) :
    (s.edit name value).1.get key = s.get key := by
  rcases edit : s.edit name value with ⟨t, f | done⟩
  · exact congrArg (get · key) (edit_error edit).1
  · obtain ⟨key', v, rfl, denotes, change⟩ := edit_eq_ok_iff.mp edit
    apply change.elsewhere
    rintro rfl
    exact misses ⟨rfl, v, denotes⟩

theorem get_after_of_not_hits {key : Key} {edits : List (String × String)}
    (misses : ∀ e ∈ edits, ¬ Hits key e) (s : Settings) : (s.after edits).get key = s.get key := by
  induction edits generalizing s with
  | nil => rfl
  | cons e edits ih =>
    obtain ⟨now, later⟩ := List.forall_mem_cons.mp misses
    exact (ih later _).trans (get_edit_of_not_hits now s)

theorem get_after_of_last {key : Key} {value : String} {v : Setting}
    {before later : List (String × String)} (denotes : Denotes key value v)
    (misses : ∀ e ∈ later, ¬ Hits key e) (s : Settings) :
    (s.after (before ++ (key.name, value) :: later)).get key = v := by
  obtain ⟨t, edit, change⟩ := exists_edit_of_denotes denotes (s.after before)
  have split : s.after (before ++ (key.name, value) :: later) = t.after later := by
    rw [after, List.foldl_append, List.foldl_cons]
    exact congrArg (fun r => r.1.after later) edit
  rw [split, get_after_of_not_hits misses, change.here]

/-! ### One setting or none -/

theorem run_of_edit_error {w : Surroundings} {i : Invocation} {name value : String}
    {s t : Settings} {f : EditFault} (asked : i.action = .settings (.set name value))
    (loaded : load w.files (w.settingsPath i) = .ok s)
    (failed : s.edit name value = (t, .error f)) :
    ∃ e, w.run i = .finished e ∧ e.files = w.files ∧ e.exit = .arguments := by
  have set := (edit_error failed).2
  rw [Surroundings.run, asked]
  dsimp only [Surroundings.settings, Surroundings.withSettings]
  rw [loaded]
  dsimp only
  rw [set]
  exact ⟨_, rfl, Finished.files_fail .., Finished.exit_fail ..⟩

/-- An edit changes one setting or none, and edits are kept apart by their keys. -/
theorem edit_one_setting (s : Settings) :
    (∀ name value t f, s.edit name value = (t, .error f) → t = s ∧
      ∀ (w : Surroundings) (i : Invocation), i.action = .settings (.set name value) →
        load w.files (w.settingsPath i) = .ok s →
        ∃ e, w.run i = .finished e ∧ e.files = w.files ∧ e.exit.code ≠ 0) ∧
    (∀ name value t, s.edit name value = (t, .ok ()) ↔
      ∃ key v, name = key.name ∧ Denotes key value v ∧ Changed key v s t) ∧
    (∀ name, (∃ key : Key, name = key.name) ↔
      name ∈ ["rules", "fifo", "socket", "ping.enabled", "ping.interval_secs", "wake.method",
        "wake.command", "wake.broadcast", "log.level"]) ∧
    (∀ name name' value value' t u, name ≠ name' → s.edit name value = (t, .ok ()) →
      t.edit name' value' = (u, .ok ()) →
      ∃ t', s.edit name' value' = (t', .ok ()) ∧ t'.edit name value = (u, .ok ())) ∧
    (∀ name value value' t u, s.edit name value = (t, .ok ()) →
      t.edit name value' = (u, .ok ()) → s.edit name value' = (u, .ok ())) ∧
    ∀ (key : Key) (later : List (String × String)), (∀ e ∈ later, ¬ Hits key e) →
      (s.after later).get key = s.get key ∧
      ∀ before value v, Denotes key value v →
        (s.after (before ++ (key.name, value) :: later)).get key = v := by
  refine ⟨?_, fun _ _ _ => edit_eq_ok_iff, ?_, fun _ _ _ _ _ _ => edit_comm,
    fun _ _ _ _ _ => edit_of_edit, ?_⟩
  · intro name value t f failed
    refine ⟨(edit_error failed).1, fun w i asked loaded => ?_⟩
    obtain ⟨e, run, files, exit⟩ := run_of_edit_error asked loaded failed
    exact ⟨e, run, files, by rw [exit]; decide⟩
  · intro name
    rw [← Key.mem_names_iff]
    rfl
  · intro key later misses
    exact ⟨get_after_of_not_hits misses s, fun _ _ _ denotes => get_after_of_last denotes misses s⟩

/-- A settings file at the root that names another pipe. -/
def atRoot : Surroundings where
  environment := ⟨none, some "/s.json"⟩
  files := ⟨[], [(["s.json"], .file (utf8 "\x7b\"fifo\": \"/f\"\x7d"))]⟩
  lives := fun _ => false
  now := .ofEpoch 0
  terminal := true

def piped : Settings := { fifo := "/f" }

theorem edit_one_setting_piped :
    let i : Invocation := ⟨none, false, false, false, .settings (.set "ping.enabled" "maybe")⟩
    let quiet : Settings := { piped with ping := { enabled := false } }
    let both : Settings := { quiet with wake := { method := .command } }
    (∃ e, atRoot.run i = .finished e ∧ e.files = atRoot.files ∧ e.exit.code ≠ 0) ∧
    (piped.edit "ping.enabled" "OFF" = (quiet, .ok ()) ∧
      quiet.edit "wake.method" "Command" = (both, .ok ()) ∧
      ∃ t, piped.edit "wake.method" "Command" = (t, .ok ()) ∧
        t.edit "ping.enabled" "OFF" = (both, .ok ())) ∧
    (quiet.edit "ping.enabled" "1" = (piped, .ok ()) ∧
      piped.edit "ping.enabled" "1" = (piped, .ok ())) ∧
    (piped.after [("fifo", "/g"), ("ping.enabled", "0"), ("ping.enabled", "maybe"),
      ("wake.method", "Command")]).get .pingEnabled = .flag false := by
  intro i quiet both
  obtain ⟨failing, -, -, swap, again, run⟩ := edit_one_setting piped
  have loaded : load atRoot.files (atRoot.settingsPath i) = .ok piped := by decide +kernel
  have failed : piped.edit "ping.enabled" "maybe" = (piped, .error (.flag "maybe")) := by decide
  have off : piped.edit "ping.enabled" "OFF" = (quiet, .ok ()) := by decide
  have command : quiet.edit "wake.method" "Command" = (both, .ok ()) := by decide
  have on : quiet.edit "ping.enabled" "1" = (piped, .ok ()) := by decide
  have later : ∀ e ∈ [("ping.enabled", "maybe"), ("wake.method", "Command")],
      ¬ Hits .pingEnabled e := by
    simp only [List.forall_mem_cons]
    refine ⟨?_, fun hit => absurd hit.1 (by decide), fun _ none => absurd none List.not_mem_nil⟩
    rintro ⟨-, v, denotes⟩
    cases denotes with
    | text free => exact absurd free (by decide)
    | yes word => exact absurd word (by decide)
    | no word => exact absurd word (by decide)
  refine ⟨(failing _ _ _ _ failed).2 atRoot i rfl loaded, ⟨off, command, ?_⟩, ⟨on, ?_⟩, ?_⟩
  · exact swap _ _ _ _ _ _ (by decide) off command
  · exact again _ _ _ _ _ off on
  · exact (run .pingEnabled _ later).2 [("fifo", "/g")] "0" (.flag false) (.no (by decide))

end Settings

end Reveille
