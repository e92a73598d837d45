import Reveille.Control.Connection
import Reveille.Proofs.Json.Records
import Reveille.Proofs.Text.Blank
import Reveille.Proofs.Text.Utf8

/-!
# Messages on lines

A message is printed on one line, and what the other end reads off that line is the message: every
request of a client, and every response to a request that could be read.
-/

namespace Reveille.Control

open Reveille.Calendar Reveille.Json Reveille.Text

/-! ### Lines -/

theorem linesOf_append {line : List UInt8} (clean : lineEnd ∉ line) (more : List UInt8) :
    linesOf (line ++ lineEnd :: more) = line :: linesOf more := by
  induction line with
  | nil =>
    show (if lineEnd = lineEnd then _ else _) = _
    rw [if_pos rfl]
  | cons b bs ih =>
    rw [List.mem_cons, not_or] at clean
    rw [List.cons_append, linesOf, if_neg (Ne.symm clean.1), ih clean.2]

theorem firstLine_append {line : List UInt8} (clean : lineEnd ∉ line) (more : List UInt8) :
    firstLine (line ++ lineEnd :: more) = line ++ [lineEnd] := by
  induction line with
  | nil =>
    show (if lineEnd = lineEnd then _ else _) = _
    rw [if_pos rfl]
    rfl
  | cons b bs ih =>
    rw [List.mem_cons, not_or] at clean
    rw [List.cons_append, firstLine, if_neg (Ne.symm clean.1), ih clean.2, List.cons_append]

theorem lineEnd_notMem_compact {v : Value} (free : v.FloatFree) : lineEnd ∉ utf8 v.compact := by
  intro mem
  obtain ⟨c, within, byte⟩ := exists_mem_of_mem_utf8 mem (by decide)
  rw [Value.compact, String.toList_ofList] at within
  have visible := v.toNat_of_mem_compactChars free c within
  have ten : lineEnd.toNat = 10 := rfl
  omega

/-! ### Values that may be absent -/

/-- The value is read as it is printed, and not taken for an absent one. -/
structure Carried (v : Value) : Prop where
  exactly : v.Exact (maxDepth - 1)
  there : v ≠ .null

theorem takes_carried {v : Value} (carried : Carried v) :
    Takes (optional (anyValue (maxDepth - 1))) v.compactChars (some v) := by
  obtain ⟨exactly, there⟩ := carried
  obtain ⟨c, cs, text, opens⟩ := Value.exists_cons_compactChars exactly.free
  have other : c ≠ 'n' := by
    rintro rfl
    exact there (Value.Opens.eq_null opens)
  exact (Value.takes_reader exactly).optional text opens.solid.1 other

theorem takes_ofOption {id : Option Value} (carried : ∀ v, id = some v → Carried v) :
    Takes (optional (anyValue (maxDepth - 1))) (Value.ofOption id).compactChars id := by
  cases id with
  | none => exact Takes.optional_null (anyValue (maxDepth - 1))
  | some v => exact takes_carried (carried v rfl)

/-! ### Requests -/

theorem carried_one : Carried (.int 1) :=
  ⟨Value.exact_int (n := 1) (by decide), by simp⟩

namespace Request

theorem fills_new (method : String) : shape.Fills (maxDepth - 1) [] shape.blank
    [("jsonrpc", .string Control.version), ("method", .string method), ("id", .int 1)]
    (new method) := by
  have version := ((takes_quoted Control.version).optional rfl (by decide) (by decide)).map
    fun v (r : Request) => { r with version := v }
  have named := (takes_quoted method).map fun v (r : Request) => { r with method := v }
  have number := (takes_carried carried_one).map fun v (r : Request) => { r with id := v }
  refine .member rfl (by simp) version (.member rfl (by simp) named (.member rfl (by simp) number
    (.done ?_)))
  simp [shape]

theorem read_requestLine (method : String) :
    Request.read (requestLine method).toList = .ok (new method) := by
  have takes : Takes (shape.read maxDepth) (new method).toJson.compactChars (new method) :=
    (fills_new method).takes (by decide)
  have read : readWhole? (shape.read maxDepth) ((new method).toJson.compactChars ++ []) = _ :=
    readWhole?_of_takes takes (by simp)
  rw [List.append_nil] at read
  rw [requestLine, Value.compact, String.toList_ofList]
  exact read

theorem floatFree_new (method : String) : (new method).toJson.FloatFree :=
  ⟨trivial, trivial, trivial, trivial⟩

theorem ofBytes_requestLine (method : String) :
    Line.ofBytes (utf8 (requestLine method)) = .request (new method) := by
  obtain ⟨cs, text⟩ : ∃ cs, (requestLine method).toList = '\x7b' :: cs ++ ['\x7d'] := by
    rw [requestLine, Value.compact, String.toList_ofList]
    exact Value.exists_compactChars_object _
  have read := read_requestLine method
  unfold Line.ofBytes
  rw [ofUtf8?_utf8]
  dsimp only
  rw [text, trim_of_ends (by decide) (by decide), ← text]
  split
  · next none => rw [text] at none; cases none
  · rw [read]

/-- The id of a request that was read is not null. -/
theorem id_of_read {text : List Char} {r : Request} (read : Request.read text = .ok r) :
    ∀ v, r.id = some v → v.Fits (maxDepth - 1) ∧ v ≠ .null := by
  obtain ⟨⟨r', s⟩, record, read⟩ := bind_eq_ok_iff.mp read
  dsimp only at read
  split at read
  · cases read
    refine shape.read_keeps (P := fun r => ∀ v, r.id = some v → v.Fits (maxDepth - 1) ∧ v ≠ .null)
      ?_ (by simp [shape]) record
    simp only [shape, List.forall_mem_cons, List.not_mem_nil, false_imp_iff, implies_true, and_true]
    refine ⟨?_, ?_, ?_⟩
    · intro s s' set field a kept
      obtain ⟨⟨v, s₁⟩, -, made⟩ := map_eq_ok_iff.mp field
      cases made
      exact kept
    · intro s s' set field a kept
      obtain ⟨⟨v, s₁⟩, -, made⟩ := map_eq_ok_iff.mp field
      cases made
      exact kept
    · intro s s' set field a kept v same
      obtain ⟨⟨v', s₁⟩, taken, made⟩ := map_eq_ok_iff.mp field
      cases made
      obtain rfl : v' = some v := same
      exact reader_of_optional taken
  · cases read

end Request

/-! ### Responses -/

namespace Response

/-- The response is read as it is printed. -/
structure Carried (r : Response) : Prop where
  result : ∀ v, r.result = some v → Control.Carried v
  code : ∀ e, r.error = some e → -(Nat.pow 2 31 : Int) ≤ e.code ∧ e.code < Nat.pow 2 31
  id : ∀ v, r.id = some v → Control.Carried v

theorem takes_error {e : ResponseError}
    (code : -(Nat.pow 2 31 : Int) ≤ e.code ∧ e.code < Nat.pow 2 31) :
    Takes (optional (ResponseError.shape.read (maxDepth - 1))) e.toJson.compactChars (some e) := by
  have number := (takes_int32 code.1 code.2).map fun v (e : ResponseError) => { e with code := v }
  have text := (takes_quoted e.message).map fun v (e : ResponseError) => { e with message := v }
  have fills : ResponseError.shape.Fills (maxDepth - 1 - 1) [] ResponseError.shape.blank
      [("code", .int e.code), ("message", .string e.message)] e := by
    refine .member rfl (by simp) number (.member rfl (by simp) text (.done ?_))
    simp [ResponseError.shape]
  obtain ⟨cs, start⟩ := Value.exists_compactChars_object
    [("code", .int e.code), ("message", .string e.message)]
  exact (fills.takes (by decide)).optional start (by decide) (by decide)

theorem takes_toJson {r : Response} (carried : r.Carried) :
    Takes (shape.read maxDepth) r.toJson.compactChars r := by
  obtain ⟨held, code, named⟩ := carried
  have first := (takes_quoted r.version).map fun v (r : Response) => { r with version := v }
  have last := (takes_ofOption named).map fun v (r : Response) => { r with id := v }
  have fills : shape.Fills (maxDepth - 1) [] shape.blank (("jsonrpc", .string r.version) ::
      ((r.result.map fun v => ("result", v)).toList ++
        ((r.error.map fun e => ("error", e.toJson)).toList ++ [("id", .ofOption r.id)]))) r := by
    refine .member rfl List.not_mem_nil first ?_
    -- A result or an error may be left out, so the keys seen before the id are known by bounds only.
    refine .ofOption (fun v r => { r with result := v }) rfl (by simp) ?_ rfl ?_
    · intro v same
      exact (takes_carried (held v same)).map fun v (r : Response) => { r with result := v }
    · intro seen above below
      refine .ofOption (fun v r => { r with error := v }) rfl ?_ ?_ rfl ?_
      · exact fun mem => absurd (below mem) (by simp)
      · intro e same
        exact (takes_error (code e same)).map fun v (r : Response) => { r with error := v }
      · intro seen' above' below'
        have there : "jsonrpc" ∈ seen' := above' (above List.mem_cons_self)
        have among : ∀ key ∈ seen', key ∈ ["error", "result", "jsonrpc"] :=
          fun key mem => List.cons_subset_cons _ below (below' mem)
        refine .member rfl (fun mem => absurd (among "id" mem) (by simp)) last (.done ?_)
        simp [shape, there]
  have members : r.toJson = .object _ := rfl
  rw [members, List.append_assoc, List.append_assoc]
  exact fills.takes (by decide)

theorem floatFree_toJson {r : Response} (carried : r.Carried) : r.toJson.FloatFree := by
  obtain ⟨held, -, named⟩ := carried
  refine Value.floatFreeMembers_iff.mpr fun m mem => ?_
  simp only [List.append_assoc, List.mem_append, List.mem_singleton, Option.mem_toList,
    Option.map_eq_some_iff] at mem
  rcases mem with rfl | ⟨v, same, rfl⟩ | ⟨e, -, rfl⟩ | rfl
  · trivial
  · exact (held v same).exactly.free
  · exact ⟨trivial, trivial, trivial⟩
  · cases id : r.id with
    | none => trivial
    | some v => exact (named v id).exactly.free

/-- The response is sent as one line, which is read as the response. -/
theorem readReply_bytes {r : Response} (carried : r.Carried) :
    ∃ line, r.bytes = line ++ [lineEnd] ∧ lineEnd ∉ line ∧
      ∀ more, readReply (r.bytes ++ more) = .ok r := by
  have clean := lineEnd_notMem_compact (floatFree_toJson carried)
  refine ⟨utf8 r.toJson.compact, rfl, clean, ?_⟩
  intro more
  have feed : utf8 "\n" = [lineEnd] := by
    rw [utf8_eq_flatMap]
    decide
  have first : firstLine (r.bytes ++ more) = utf8 (r.toJson.compact ++ "\n") := by
    rw [bytes, List.append_assoc, List.singleton_append, firstLine_append clean, utf8_append, feed]
  have text : (r.toJson.compact ++ "\n").toList = r.toJson.compactChars ++ ['\n'] := by
    rw [String.toList_append, Value.compact, String.toList_ofList]
    rfl
  have read : Response.read (r.toJson.compactChars ++ ['\n']) = .ok r :=
    readWhole?_of_takes (takes_toJson carried) (List.forall_mem_singleton.mpr rfl)
  obtain ⟨cs, opened⟩ : ∃ cs, r.toJson.compactChars = '\x7b' :: cs ++ ['\x7d'] :=
    Value.exists_compactChars_object _
  have some : trim (r.toJson.compactChars ++ ['\n']) ≠ [] := by
    rw [Ne, trim_eq_nil_iff, opened]
    exact fun blank => absurd (blank '\x7b' (by simp)) (by decide)
  unfold readReply
  rw [first, ofUtf8?_utf8]
  dsimp only
  rw [text, if_neg some, read]
  rfl

end Response

/-! ### Answers -/

theorem exact_timeValue (epoch : Option Int) (depth : Nat) : (timeValue epoch).Exact depth := by
  unfold timeValue
  cases epoch.bind Instant.utcText? with
  | none => exact ⟨trivial, trivial⟩
  | some t => exact Value.exact_string t depth

theorem exact_hostStatus (s : HostStatus) {depth : Nat} (deep : 1 < depth) :
    s.toJson.Exact depth := by
  refine Value.exact_ofMembers deep ?_
  have each : ∀ m ∈ [("mac", .string s.host.mac.text), ("last_wake", timeValue s.lastWake),
      ("last_ping", timeValue s.lastPing)], m.2.Exact (depth - 1) := by
    simp only [List.forall_mem_cons, List.not_mem_nil, false_imp_iff, implies_true, and_true]
    exact ⟨Value.exact_string _ _, exact_timeValue _ _, exact_timeValue _ _⟩
  cases s.host.address with
  | none => exact each
  | some a => exact List.forall_mem_cons.mpr ⟨Value.exact_string _ _, each⟩

theorem exact_status {s : Status} {process depth : Nat} (deep : 3 < depth) (rules : s.rules ≤ maxWord)
    (enabled : s.enabled ≤ maxWord) (small : process ≤ maxWord) :
    (Value.ofMembers (s.members ++ [("pid", .int process)])).Exact depth := by
  have hosts : (Value.array (s.hosts.map HostStatus.toJson)).Exact (depth - 1) := by
    refine Value.exact_array (by omega) ?_
    rw [List.forall_mem_map]
    exact fun h _ => exact_hostStatus h (by omega)
  refine Value.exact_ofMembers (by omega) ?_
  rw [Status.members]
  simp only [List.cons_append, List.nil_append, List.forall_mem_cons, List.not_mem_nil,
    false_imp_iff, implies_true, and_true]
  exact ⟨Value.exact_int rules, Value.exact_int enabled, exact_timeValue _ _, exact_timeValue _ _,
    hosts, Value.exact_int small⟩

namespace Answer

/-- All counts are of 64 bits. -/
def Counted : Answer → Prop
  | .enabled n => n ≤ maxWord
  | .status s process => s.rules ≤ maxWord ∧ s.enabled ≤ maxWord ∧ process ≤ maxWord
  | _ => True

theorem carried_ofResult {id : Option Value} (named : ∀ v, id = some v → Carried v) {v : Value}
    (carried : Carried v) : (Response.ofResult id v).Carried where
  result := by
    rintro w ⟨⟩
    exact carried
  code := by rintro e ⟨⟩
  id := named

theorem carried_ofMember {k : String} {v : Value} (exactly : v.Exact (maxDepth - 1 - 1)) :
    Carried (.object [(k, v)]) where
  exactly := ⟨⟨by decide, List.pairwise_singleton _ _, exactly.fits, trivial⟩, exactly.free, trivial⟩
  there := by simp

theorem carried_response {a : Answer} (counted : a.Counted) {id : Option Value}
    (named : ∀ v, id = some v → Carried v) : (a.response id).Carried := by
  cases a with
  | enabled n => exact carried_ofResult named (carried_ofMember (Value.exact_int counted))
  | status s process =>
    obtain ⟨rules, enabled, small⟩ := counted
    refine carried_ofResult named ⟨exact_status (by decide) rules enabled small, ?_⟩
    simp [Value.ofMembers]
  | woken hosts =>
    refine carried_ofResult named (carried_ofMember (Value.exact_array (by decide) ?_))
    rw [List.forall_mem_map]
    exact fun h _ => Value.exact_string _ _
  | stopping => exact carried_ofResult named (carried_ofMember ⟨trivial, trivial⟩)
  | unknownMethod name =>
    have code : -(Nat.pow 2 31 : Int) ≤ unknownMethodCode ∧ unknownMethodCode < Nat.pow 2 31 := by
      decide
    refine ⟨by rintro v ⟨⟩, ?_, named⟩
    rintro e ⟨⟩
    exact code

theorem id_response (a : Answer) (id : Option Value) : (a.response id).id = id := by
  cases a <;> rfl

theorem isSome_response (a : Answer) (id : Option Value) :
    (a.response id).result.isSome = !(a.response id).error.isSome := by
  cases a <;> rfl

end Answer

theorem counted_apply {process : Nat} (small : process ≤ maxWord) (now : Instant) {e : Engine}
    (size : e.registry.size ≤ maxWord) (m : Method) : (m.apply process now e).2.1.Counted := by
  have enabled : ∀ reg : Registry, reg.size ≤ maxWord → reg.enabledCount ≤ maxWord :=
    fun reg fits => Nat.le_trans List.countP_le_length fits
  have switched : ∀ on, (e.registry.setAllEnabled on).size ≤ maxWord := by
    intro on
    rw [Registry.size, Registry.setAllEnabled, List.length_map]
    exact size
  cases m with
  | enable => exact enabled _ (switched true)
  | disable => exact enabled _ (switched false)
  | status => exact ⟨size, enabled _ size, small⟩
  | motion => trivial
  | stop => trivial

/-- Every request is given an answer of the same id. -/
theorem exists_answer {process : Nat} (small : process ≤ maxWord) (now : Instant) {e : Engine}
    (size : e.registry.size ≤ maxWord) (r : Request) :
    ∃ a : Answer, a.Counted ∧ (dispatch process now e r).2.1 = a.response r.id := by
  unfold dispatch
  split
  · next m known => exact ⟨_, counted_apply small now size m, rfl⟩
  · exact ⟨.unknownMethod r.method, trivial, rfl⟩

/-! ### Both ways -/

theorem read_of_ofBytes {bytes : List UInt8} {r : Request} (line : Line.ofBytes bytes = .request r) :
    ∃ text, Request.read text = .ok r := by
  unfold Line.ofBytes at line
  split at line
  · cases line
  · split at line
    · cases line
    · split at line
      · next read =>
        cases line
        exact ⟨_, read⟩
      · cases line

/-- A request of a client is sent as one line, which is read as the request. The response to any
line that is read as a request, if no number in its id is of the floating-point format, is sent as
one line too, and read as the response. The size of a registry, which a status tells, is a word. -/
theorem messages_framed :
    (∀ method : String, lineEnd ∉ utf8 (requestLine method) ∧
      (linesOf (utf8 (requestLine method) ++ [lineEnd])).map Line.ofBytes =
        [.request (Request.new method)] ∧
      (Request.new method).method = method ∧ (Request.new method).id = some (.int 1)) ∧
    ∀ {bytes : List UInt8} {r : Request}, Line.ofBytes bytes = .request r →
      (∀ v, r.id = some v → v.FloatFree) →
      ∀ (process : UInt32) (now : Instant) (e : Engine), e.registry.size ≤ maxWord →
        let response := (dispatch process.toNat now e r).2.1
        (∃ line, response.bytes = line ++ [lineEnd] ∧ lineEnd ∉ line) ∧
        (∀ more, readReply (response.bytes ++ more) = .ok response) ∧
        response.id = r.id ∧ r.id ≠ some .null ∧
        response.result.isSome = !response.error.isSome := by
  constructor
  · intro method
    have clean := lineEnd_notMem_compact (Request.floatFree_new method)
    refine ⟨clean, ?_, rfl, rfl⟩
    have cut : linesOf (utf8 (requestLine method) ++ [lineEnd]) = [utf8 (requestLine method)] :=
      linesOf_append clean []
    rw [cut, List.map_singleton, Request.ofBytes_requestLine]
  · intro bytes r line free process now e size response
    obtain ⟨text, read⟩ := read_of_ofBytes line
    have named : ∀ v, r.id = some v → Carried v := by
      intro v same
      obtain ⟨fits, there⟩ := Request.id_of_read read v same
      exact ⟨⟨fits, free v same⟩, there⟩
    have small : process.toNat ≤ maxWord := Nat.le_trans (Nat.le_of_lt process.toNat_lt) (by decide)
    obtain ⟨a, counted, answered⟩ := exists_answer small now size r
    have same : response = a.response r.id := answered
    obtain ⟨framed, clean, back⟩ := Response.readReply_bytes (a.carried_response counted named)
    rw [same]
    refine ⟨⟨framed, clean, back.1⟩, back.2, a.id_response r.id, ?_, a.isSome_response r.id⟩
    exact fun null => (named .null null).there rfl

/-- A method with a line end in its name, which is unknown. -/
theorem messages_framed_unknown :
    let r := Request.new "re\nboot"
    let response := Response.ofError (some (.int 1)) (-32601)
      "unknown method 're\nboot', expected one of enable, disable, status, motion, stop"
    Line.ofBytes (utf8 (requestLine "re\nboot")) = .request r ∧
      (dispatch 7 ⟨0, 0, 0⟩ (Engine.new .empty) r).2.1 = response ∧
      readReply response.bytes = .ok response := by
  intro r response
  obtain ⟨client, server⟩ := messages_framed
  obtain ⟨clean, cut, -⟩ := client "re\nboot"
  have line : Line.ofBytes (utf8 (requestLine "re\nboot")) = .request r := by
    rw [linesOf_append clean []] at cut
    exact (List.cons.inj cut).1
  have free : ∀ v, r.id = some v → v.FloatFree := by
    rintro v ⟨⟩
    trivial
  have size : (Engine.new .empty).registry.size ≤ maxWord := by decide
  obtain ⟨-, back, -⟩ := server line free 7 ⟨0, 0, 0⟩ (Engine.new .empty) size
  have answered : (dispatch 7 ⟨0, 0, 0⟩ (Engine.new .empty) r).2.1 = response := rfl
  refine ⟨line, answered, ?_⟩
  have reply := back []
  rw [List.append_nil] at reply
  exact reply

end Reveille.Control
