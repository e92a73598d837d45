import Reveille.Files.Basic
import Reveille.Proofs.Outcomes
import Reveille.Proofs.Text.Blank

/-!
# What paths lead to

A path goes through folders. While the folders stay as they are, a path that leads to an entry,
or that could be given one, leads to the same place, whatever else is put or removed.
-/

namespace Reveille.Files

open Reveille.Text

variable {fs fs' fs'' : Files} {p r : Pathname} {q : Place} {e : Entry}

/-! ### Entries -/

theorem get?_root (fs : Files) : fs.get? [] = some .folder := if_pos rfl

theorem find?_filter_ne (entries : List (Place × Entry)) (q x : Place) :
    (entries.filter (·.1 ≠ q)).find? (·.1 = x) =
      if x = q then none else entries.find? (·.1 = x) := by
  rw [List.find?_filter]
  by_cases same : x = q
  · subst same
    rw [if_pos rfl, List.find?_eq_none]
    simp
  · rw [if_neg same]
    congr 1
    funext entry
    by_cases here : entry.1 = x
    · simp [here, same]
    · simp [here]

theorem get?_put (other : q ≠ []) (x : Place) :
    (fs.put q e).get? x = if x = q then some e else fs.get? x := by
  unfold get? put
  by_cases root : x = []
  · rw [if_pos root, if_pos root, if_neg (root ▸ other.symm)]
  · rw [if_neg root, if_neg root]
    by_cases same : x = q
    · rw [if_pos same, List.find?_cons_of_pos (by simp [same]), Option.map_some]
    · rw [if_neg same, List.find?_cons_of_neg (by simpa using Ne.symm same), find?_filter_ne,
        if_neg same]

theorem get?_erase (other : q ≠ []) (x : Place) :
    (fs.erase q).get? x = if x = q then none else fs.get? x := by
  unfold get? erase
  by_cases root : x = []
  · rw [if_pos root, if_pos root, if_neg (root ▸ other.symm)]
  · rw [if_neg root, if_neg root, find?_filter_ne]
    split <;> rfl

structure SameFolders (fs fs' : Files) : Prop where
  current : fs'.current = fs.current
  folders : ∀ x, fs'.get? x = some .folder ↔ fs.get? x = some .folder

namespace SameFolders

theorem refl (fs : Files) : SameFolders fs fs :=
  ⟨rfl, fun _ => .rfl⟩

theorem symm (same : SameFolders fs fs') : SameFolders fs' fs :=
  ⟨same.current.symm, fun x => (same.folders x).symm⟩

theorem trans (first : SameFolders fs fs') (second : SameFolders fs' fs'') :
    SameFolders fs fs'' :=
  ⟨second.current.trans first.current, fun x => (second.folders x).trans (first.folders x)⟩

end SameFolders

theorem ne_root_of_get? (noFolder : fs.get? q ≠ some .folder) : q ≠ [] := by
  rintro rfl
  exact noFolder fs.get?_root

theorem sameFolders_put (noFolder : fs.get? q ≠ some .folder) (plain : e ≠ .folder) :
    SameFolders fs (fs.put q e) := by
  refine ⟨rfl, fun x => ?_⟩
  rw [get?_put (ne_root_of_get? noFolder)]
  by_cases same : x = q
  · subst same
    simp [plain, noFolder]
  · rw [if_neg same]

theorem sameFolders_erase (noFolder : fs.get? q ≠ some .folder) :
    SameFolders fs (fs.erase q) := by
  refine ⟨rfl, fun x => ?_⟩
  rw [get?_erase (ne_root_of_get? noFolder)]
  by_cases same : x = q
  · subst same
    simp [noFolder]
  · rw [if_neg same]

/-! ### Walks -/

def nextPlace (place : Place) (piece : List Char) : Except FileError Place :=
  match Pathname.partOf? piece with
  | some (.name name) =>
    if maxName < byteLength name then .error .nameTooLong
    else .ok (place ++ [String.ofList name])
  | some _ => .ok place.dropLast
  | none => .ok place

theorem walk_folder {place : Place} (folder : fs.get? place = some .folder) (piece : List Char)
    (rest : List (List Char)) :
    fs.walk place (piece :: rest) = (nextPlace place piece >>= fun next => fs.walk next rest) := by
  rw [walk, folder, nextPlace]
  dsimp only
  cases Pathname.partOf? piece with
  | none => rfl
  | some part =>
    cases part with
    | name name =>
      dsimp only
      split <;> rfl
    | root => rfl
    | here => rfl
    | up => rfl

theorem walk_none {place : Place} (none : fs.get? place = none) (piece : List Char)
    (rest : List (List Char)) :
    fs.walk place (piece :: rest) =
      if (piece :: rest).all (·.isEmpty) then .ok place else .error .notFound := by
  rw [walk, none]

theorem walk_entry {place : Place} (entry : fs.get? place = some e) (plain : e ≠ .folder)
    (piece : List Char) (rest : List (List Char)) :
    fs.walk place (piece :: rest) = .error .notFolder := by
  rw [walk, entry]
  cases e with
  | folder => exact absurd rfl plain
  | file bytes => rfl
  | pipe => rfl
  | socket => rfl

theorem getLast?_of_all {pieces : List (List Char)} (idle : pieces.all (·.isEmpty) = true)
    (some : pieces ≠ []) : pieces.getLast? = Option.some [] := by
  rw [List.getLast?_eq_some_getLast some]
  have last := List.all_eq_true.mp idle _ (List.getLast_mem some)
  rw [List.isEmpty_iff.mp last]

/-- A walk ends at the same place if something is there, or if its last piece is a name. -/
theorem walk_congr (same : SameFolders fs fs') {pieces : List (List Char)} {start : Place}
    (walked : fs.walk start pieces = .ok q)
    (firm : (fs.get? q).isSome ∨ pieces.getLast? ≠ some []) :
    fs'.walk start pieces = .ok q := by
  induction pieces generalizing start with
  | nil => exact walked
  | cons piece rest ih =>
    rcases here : fs.get? start with _ | entry
    · rw [walk_none here] at walked
      split at walked
      · next idle =>
        obtain rfl := Except.ok.inj walked
        rcases firm with some | last
        · rw [here] at some
          cases some
        · exact absurd (getLast?_of_all idle (List.cons_ne_nil _ _)) last
      · cases walked
    · by_cases folder : entry = .folder
      · subst folder
        rw [walk_folder here] at walked
        obtain ⟨next, leads, walked⟩ := bind_eq_ok_iff.mp walked
        rw [walk_folder ((same.folders start).mpr here), leads]
        refine ih walked (firm.imp_right fun last openEnd => last ?_)
        rw [List.getLast?_cons, openEnd]
        rfl
      · rw [walk_entry here folder] at walked
        cases walked

/-- A walk whose last piece is empty ends at a folder or where nothing is. -/
theorem get?_of_walk {pieces : List (List Char)} {start : Place}
    (walked : fs.walk start pieces = .ok q) (openEnd : pieces.getLast? = some []) :
    fs.get? q = some .folder ∨ fs.get? q = none := by
  induction pieces generalizing start with
  | nil => cases openEnd
  | cons piece rest ih =>
    rcases here : fs.get? start with _ | entry
    · rw [walk_none here] at walked
      split at walked
      · obtain rfl := Except.ok.inj walked
        exact .inr here
      · cases walked
    · by_cases folder : entry = .folder
      · subst folder
        rw [walk_folder here] at walked
        obtain ⟨next, leads, walked⟩ := bind_eq_ok_iff.mp walked
        cases rest with
        | nil =>
          obtain rfl := Option.some.inj openEnd
          obtain rfl := Except.ok.inj leads
          obtain rfl := Except.ok.inj walked
          exact .inl here
        | cons piece' rest' => exact ih walked (by simpa [List.getLast?_cons] using openEnd)
      · rw [walk_entry here folder] at walked
        cases walked

/-! ### Paths -/

theorem getLast?_splitOn {sep : Char} {cs : List Char} (some : cs ≠ []) :
    (cs.splitOn sep).getLast? = Option.some [] ↔ cs.getLast? = Option.some sep := by
  induction cs with
  | nil => exact absurd rfl some
  | cons c cs ih =>
    rw [List.splitOn_cons_eq_if_modifyHead]
    cases cs with
    | nil => by_cases same : c = sep <;> simp [same]
    | cons d ds =>
      rw [List.getLast?_cons_cons, ← ih (List.cons_ne_nil d ds)]
      cases parts : (d :: ds).splitOn sep with
      | nil => simp at parts
      | cons first others =>
        by_cases same : c = sep
        · simp [same]
        · cases others with
          | cons second others => simp [same]
          | nil =>
            -- The only part is the whole text, which has a character.
            have whole : [sep].intercalate ((d :: ds).splitOn sep) = d :: ds :=
              List.intercalate_splitOn sep
            simp [parts] at whole
            simp [same, whole]

theorem getLast?_pieces {p : Pathname} (some : p.text ≠ "") :
    p.pieces.getLast? = Option.some [] ↔ endsInSlash p = true := by
  have chars : p.chars ≠ [] := fun none => some (String.toList_eq_nil_iff.mp none)
  rw [Pathname.pieces, map_chars_split, getLast?_splitOn chars, endsInSlash, decide_eq_true_iff]

theorem place_eq_ok_iff :
    fs.place p = .ok q ↔
      ('\x00' ∉ p.chars ∧ p.text ≠ "" ∧ byteLength p.chars < pathLimit) ∧
        fs.walk (if p.isRooted then [] else fs.current) p.pieces = .ok q := by
  unfold place
  by_cases nul : '\x00' ∈ p.chars
  · simp [nul]
  by_cases empty : p.text = ""
  · simp [nul, empty]
  by_cases long : pathLimit ≤ byteLength p.chars
  · simp [nul, empty, long, Nat.not_lt.mpr long]
  · rw [if_neg nul, if_neg empty, if_neg long]
    exact (and_iff_right ⟨nul, empty, Nat.lt_of_not_le long⟩).symm

theorem place_congr (same : SameFolders fs fs') (placed : fs.place p = .ok q)
    (firm : (fs.get? q).isSome ∨ endsInSlash p = false) : fs'.place p = .ok q := by
  obtain ⟨sound, walked⟩ := place_eq_ok_iff.mp placed
  refine place_eq_ok_iff.mpr ⟨sound, ?_⟩
  rw [same.current]
  refine walk_congr same walked (firm.imp_right fun open_ => ?_)
  rw [Ne, getLast?_pieces sound.2.1, open_]
  exact Bool.false_ne_true

/-- The place where an entry could be put, changed or removed by way of a path. -/
def target? (fs : Files) (p : Pathname) : Option Place :=
  if endsInSlash p then none else (fs.place p).toOption

theorem target?_eq_some_iff :
    fs.target? p = some q ↔ endsInSlash p = false ∧ fs.place p = .ok q := by
  unfold target?
  cases endsInSlash p
  · cases fs.place p <;> simp [Except.toOption]
  · simp

theorem target?_congr (same : SameFolders fs fs') : fs'.target? p = fs.target? p := by
  refine Option.ext fun x => ?_
  rw [target?_eq_some_iff, target?_eq_some_iff]
  exact and_congr_right fun open_ =>
    ⟨fun placed => place_congr same.symm placed (.inr open_),
      fun placed => place_congr same placed (.inr open_)⟩

theorem at?_eq_some_iff : fs.at? p = some e ↔ ∃ q, fs.place p = .ok q ∧ fs.get? q = some e := by
  unfold at?
  cases fs.place p <;> simp

theorem at?_of_target? (target : fs.target? p = some q) : fs.at? p = fs.get? q := by
  rw [at?, (target?_eq_some_iff.mp target).2]

theorem target?_of_place (placed : fs.place p = .ok q) (entry : fs.get? q = some e)
    (plain : e ≠ .folder) : fs.target? p = some q := by
  refine target?_eq_some_iff.mpr ⟨?_, placed⟩
  obtain ⟨sound, walked⟩ := place_eq_ok_iff.mp placed
  cases openEnd : endsInSlash p with
  | false => rfl
  | true =>
    rcases get?_of_walk walked ((getLast?_pieces sound.2.1).mpr openEnd) with folder | none
    · rw [entry] at folder
      exact absurd (Option.some.inj folder) plain
    · rw [entry] at none
      cases none

/-- A path leads to a place for an entry that is no folder. -/
def IsSlot (fs : Files) (p : Pathname) : Prop :=
  ∃ q, fs.target? p = some q ∧ fs.get? q ≠ some .folder

theorem IsSlot.congr (slot : fs.IsSlot p) (same : SameFolders fs fs') : fs'.IsSlot p := by
  obtain ⟨q, target, noFolder⟩ := slot
  exact ⟨q, (target?_congr same).trans target, mt (same.folders q).mp noFolder⟩

/-! ### Changes -/

/-- The files differ only at the places that these paths lead to, and folders are the same. -/
structure ChangedAt (ps : List Pathname) (fs fs' : Files) : Prop where
  folders : SameFolders fs fs'
  elsewhere : ∀ x, (∀ p ∈ ps, fs.target? p ≠ some x) → fs'.get? x = fs.get? x

namespace ChangedAt

variable {ps ps' : List Pathname}

theorem refl (ps : List Pathname) (fs : Files) : ChangedAt ps fs fs :=
  ⟨.refl fs, fun _ _ => rfl⟩

theorem trans (first : ChangedAt ps fs fs') (second : ChangedAt ps fs' fs'') :
    ChangedAt ps fs fs'' := by
  refine ⟨first.folders.trans second.folders, fun x other => ?_⟩
  rw [second.elsewhere x fun p mem => target?_congr first.folders ▸ other p mem,
    first.elsewhere x other]

theorem mono (changed : ChangedAt ps fs fs') (more : ps ⊆ ps') : ChangedAt ps' fs fs' :=
  ⟨changed.folders, fun x other => changed.elsewhere x fun p mem => other p (more mem)⟩

end ChangedAt

theorem changedAt_put (target : fs.target? p = some q) (noFolder : fs.get? q ≠ some .folder)
    (plain : e ≠ .folder) : ChangedAt [p] fs (fs.put q e) := by
  refine ⟨sameFolders_put noFolder plain, fun x other => ?_⟩
  rw [get?_put (ne_root_of_get? noFolder)]
  exact if_neg fun here : x = q => other p List.mem_cons_self (here ▸ target)

theorem changedAt_erase (target : fs.target? p = some q) (noFolder : fs.get? q ≠ some .folder) :
    ChangedAt [p] fs (fs.erase q) := by
  refine ⟨sameFolders_erase noFolder, fun x other => ?_⟩
  rw [get?_erase (ne_root_of_get? noFolder)]
  exact if_neg fun here : x = q => other p List.mem_cons_self (here ▸ target)

/-- Two paths do not lead to one place. -/
def Apart (fs : Files) (p r : Pathname) : Prop :=
  ∀ q, fs.place p = .ok q → fs.place r ≠ .ok q

instance : Decidable (Apart fs p r) :=
  match placed : fs.place p with
  | .error _ => .isTrue fun q here => by rw [placed] at here; cases here
  | .ok q =>
    decidable_of_iff (fs.place r ≠ .ok q)
      ⟨fun other x here => by rwa [← Except.ok.inj (placed.symm.trans here)],
        fun apart => apart q placed⟩

theorem Apart.symm (apart : Apart fs p r) : Apart fs r p :=
  fun q here there => apart q there here

/-- What a path leads to stays as it is where only paths apart from it were changed. -/
theorem ChangedAt.at?_eq {ps : List Pathname} (changed : ChangedAt ps fs fs')
    (apart : ∀ p ∈ ps, Apart fs p r) : fs'.at? r = fs.at? r := by
  have kept : ∀ {x}, fs.place r = .ok x → fs'.get? x = fs.get? x := fun placed =>
    changed.elsewhere _ fun p mem target =>
      apart p mem _ (target?_eq_some_iff.mp target).2 placed
  refine Option.ext fun e => ?_
  rw [at?_eq_some_iff, at?_eq_some_iff]
  constructor
  · rintro ⟨x, placed, entry⟩
    have before := place_congr changed.folders.symm placed (.inl (entry ▸ rfl))
    exact ⟨x, before, kept before ▸ entry⟩
  · rintro ⟨x, placed, entry⟩
    exact ⟨x, place_congr changed.folders placed (.inl (entry ▸ rfl)), (kept placed).trans entry⟩

/-! ### Operations -/

theorem write_eq_ok {bytes : List UInt8} (written : fs.write p bytes = .ok fs') :
    ∃ q, fs.target? p = some q ∧ fs.get? q ≠ some .folder ∧
      (fs.get? q = some .pipe ∧ fs' = fs ∨ fs' = fs.put q (.file bytes)) := by
  obtain ⟨q, placed, written⟩ := bind_eq_ok_iff.mp written
  refine ⟨q, ?_⟩
  rcases entry : fs.get? q with _ | old | _ | _ | _ <;> simp only [entry] at written
  · split at written
    · cases written
    · next open_ =>
      obtain rfl := Except.ok.inj written
      exact ⟨target?_eq_some_iff.mpr ⟨Bool.eq_false_iff.mpr open_, placed⟩, by simp, .inr rfl⟩
  · obtain rfl := Except.ok.inj written
    exact ⟨target?_of_place placed entry (by simp), by simp, .inr rfl⟩
  · cases written
  · obtain rfl := Except.ok.inj written
    exact ⟨target?_of_place placed entry (by simp), by simp, .inl ⟨rfl, rfl⟩⟩
  · cases written

theorem make_eq_ok (made : fs.make p e = .ok fs') :
    ∃ q, fs.target? p = some q ∧ fs.get? q = none ∧ fs' = fs.put q e := by
  obtain ⟨q, placed, made⟩ := bind_eq_ok_iff.mp made
  refine ⟨q, ?_⟩
  cases entry : fs.get? q with
  | some old =>
    rw [entry] at made
    cases made
  | none =>
    rw [entry] at made
    cases slash : endsInSlash p with
    | true =>
      rw [slash] at made
      cases made
    | false =>
      rw [slash] at made
      obtain rfl := Except.ok.inj made
      exact ⟨target?_eq_some_iff.mpr ⟨slash, placed⟩, rfl, rfl⟩

theorem remove_eq_ok (removed : fs.remove p = .ok fs') :
    ∃ q, fs.target? p = some q ∧ fs.get? q ≠ some .folder ∧ fs' = fs.erase q := by
  obtain ⟨q, placed, removed⟩ := bind_eq_ok_iff.mp removed
  refine ⟨q, ?_⟩
  cases entry : fs.get? q with
  | none =>
    rw [entry] at removed
    cases removed
  | some e =>
    by_cases folder : e = .folder
    · subst folder
      rw [entry] at removed
      cases removed
    · rw [entry] at removed
      have erased : fs' = fs.erase q := by
        cases e with
        | folder => exact absurd rfl folder
        | file _ => exact (Except.ok.inj removed).symm
        | pipe => exact (Except.ok.inj removed).symm
        | socket => exact (Except.ok.inj removed).symm
      exact ⟨target?_of_place placed entry folder, by simpa using folder, erased⟩

theorem remove_of_target? (target : fs.target? p = some q) (entry : fs.get? q = some e)
    (plain : e ≠ .folder) : fs.remove p = .ok (fs.erase q) := by
  refine bind_eq_ok_iff.mpr ⟨q, (target?_eq_some_iff.mp target).2, ?_⟩
  rw [entry]
  cases e with
  | folder => exact absurd rfl plain
  | file _ => rfl
  | pipe => rfl
  | socket => rfl

end Reveille.Files
