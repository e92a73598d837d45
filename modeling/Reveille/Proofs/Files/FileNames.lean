import Reveille.Files.Pathname
import Reveille.Proofs.Text.Blank

/-!
# File names

The text of a path that names a file is the folder, the name, and an end that stands for nothing.
The name is the last part of the path; a new extension changes that part alone.
-/

namespace Reveille.Files

open Reveille.Text

variable {cs folder name tail : List Char}

/-! ### Idle ends -/

/-- The end of a text, from the end on, that stands for nothing: slashes, and lone points after
slashes. -/
inductive IsIdle : List Char → Prop
  | nil : IsIdle []
  | slash {s} (rest : IsIdle s) : IsIdle ('/' :: s)
  | point {s} (rest : IsIdle s) : IsIdle ('.' :: '/' :: s)

theorem IsIdle.drop {s : List Char} (idle : IsIdle s) (n : Nat) : IsIdle (s.drop n) := by
  induction idle generalizing n with
  | nil => rw [List.drop_nil]; exact .nil
  | @slash s rest ih =>
    cases n with
    | zero => exact .slash rest
    | succ n => exact ih n
  | @point s rest ih =>
    match n with
    | 0 => exact .point rest
    | 1 => exact .slash rest
    | n + 2 => exact ih n

theorem IsIdle.dropIdleEnd_append {s : List Char} (idle : IsIdle s) (t : List Char) :
    dropIdleEnd (s ++ t) = dropIdleEnd t := by
  induction idle with
  | nil => rfl
  | slash rest ih => exact ih
  | point rest ih => exact ih

theorem exists_isIdle (s : List Char) : ∃ t, IsIdle t ∧ s = t ++ dropIdleEnd s := by
  fun_induction dropIdleEnd s with
  | case1 s ih =>
    obtain ⟨t, idle, same⟩ := ih
    exact ⟨'/' :: t, .slash idle, congrArg ('/' :: ·) same⟩
  | case2 s ih =>
    obtain ⟨t, idle, same⟩ := ih
    exact ⟨'.' :: '/' :: t, .point idle, congrArg ('.' :: '/' :: ·) same⟩
  | case3 s _ _ => exact ⟨[], .nil, rfl⟩

/-! ### Names -/

/-- A piece that may be the last part of a path. -/
structure IsPiece (name : List Char) : Prop where
  some : name ≠ []
  noSlash : '/' ∉ name
  noPoint : name ≠ ['.']

/-- The text of a path whose last part is a piece. -/
structure EndsIn (cs folder name tail : List Char) : Prop where
  text : cs = folder ++ name ++ tail.reverse
  folder : folder = [] ∨ ∃ front, folder = front ++ ['/']
  piece : IsPiece name
  idle : IsIdle tail

theorem partOf?_piece (piece : IsPiece name) :
    Pathname.partOf? name = if name = ['.', '.'] then some .up else some (.name name) := by
  rw [Pathname.partOf?, if_neg (by simp [piece.some, piece.noPoint])]

theorem eq_of_partOf? {piece : List Char} (named : Pathname.partOf? piece = some (.name name)) :
    piece = name ∧ name ≠ [] ∧ name ≠ ['.'] ∧ name ≠ ['.', '.'] := by
  unfold Pathname.partOf? at named
  split at named
  · cases named
  · next some =>
    split at named
    · cases named
    · next other =>
      obtain rfl := Part.name.inj (Option.some.inj named)
      exact ⟨rfl, (not_or.mp some).1, (not_or.mp some).2, other⟩

theorem dropIdleEnd_piece (piece : IsPiece name) (folder : List Char) :
    dropIdleEnd (name.reverse ++ folder) = name.reverse ++ folder := by
  have noSlash : '/' ∉ name.reverse := mt List.mem_reverse.mp piece.noSlash
  have some : name.reverse ≠ [] := mt List.reverse_eq_nil_iff.mp piece.some
  have noPoint : name.reverse ≠ ['.'] := fun same =>
    piece.noPoint (List.reverse_eq_iff.mp same)
  generalize name.reverse = back at noSlash some noPoint
  unfold dropIdleEnd
  split
  · next same =>
    cases back with
    | nil => exact absurd rfl some
    | cons c cs => exact absurd ((List.cons.inj same).1 ▸ List.mem_cons_self) noSlash
  · next same =>
    match back, some, noSlash, noPoint with
    | [c], _, _, noPoint => exact absurd (congrArg ([·]) (List.cons.inj same).1) noPoint
    | c :: d :: cs, _, noSlash, _ =>
      have second : d = '/' := (List.cons.inj (List.cons.inj same).2).1
      exact absurd (second ▸ List.mem_cons_of_mem c List.mem_cons_self) noSlash
  · rfl

namespace EndsIn

theorem bareEnd (ends : EndsIn cs folder name tail) :
    Pathname.bareEnd cs = name.reverse ++ folder.reverse := by
  rw [Pathname.bareEnd, ends.text, List.reverse_append, List.reverse_reverse, List.reverse_append,
    ends.idle.dropIdleEnd_append, dropIdleEnd_piece ends.piece]

theorem cut (ends : EndsIn cs folder name tail) :
    (Pathname.bareEnd cs).takeWhile (· ≠ '/') = name.reverse ∧
      (Pathname.bareEnd cs).dropWhile (· ≠ '/') = folder.reverse := by
  have solid : ∀ c ∈ name.reverse, decide (c ≠ '/') = true := by
    intro c mem
    refine decide_eq_true fun same => ends.piece.noSlash ?_
    exact same ▸ List.mem_reverse.mp mem
  rw [ends.bareEnd, List.takeWhile_append_of_pos solid, List.dropWhile_append_of_pos solid]
  rcases ends.folder with rfl | ⟨front, rfl⟩ <;> simp

theorem nameOf?_eq (ends : EndsIn cs folder name tail) :
    Pathname.nameOf? cs = if name = ['.', '.'] then none else some name := by
  rw [Pathname.nameOf?, ends.cut.1, List.reverse_reverse, partOf?_piece ends.piece]
  by_cases up : name = ['.', '.'] <;> simp [up]

theorem setExtension_eq (ends : EndsIn cs folder name tail) (proper : name ≠ ['.', '.'])
    (extension : List Char) :
    Pathname.setExtension extension cs = folder ++ (splitName name).1 ++ '.' :: extension := by
  rw [Pathname.setExtension, ends.nameOf?_eq, if_neg proper, ends.cut.2, List.reverse_reverse]

end EndsIn

theorem partOf?_of_nameOf? (named : Pathname.nameOf? cs = some name) :
    Pathname.partOf? ((Pathname.bareEnd cs).takeWhile (· ≠ '/')).reverse = some (.name name) := by
  unfold Pathname.nameOf? at named
  dsimp only at named
  split at named
  · next found => rw [found, Option.some.inj named]
  · cases named

theorem exists_endsIn (named : Pathname.nameOf? cs = some name) :
    name ≠ ['.', '.'] ∧ ∃ folder tail, EndsIn cs folder name tail := by
  obtain ⟨tail, idle, text⟩ := exists_isIdle cs.reverse
  let back := (Pathname.bareEnd cs).takeWhile (· ≠ '/')
  let front := (Pathname.bareEnd cs).dropWhile (· ≠ '/')
  have parts : back ++ front = Pathname.bareEnd cs := List.takeWhile_append_dropWhile
  have noSlash : '/' ∉ back.reverse := by
    intro mem
    have solid := List.mem_takeWhile_imp (List.mem_reverse.mp mem)
    simp at solid
  have folder : front.reverse = [] ∨ ∃ f, front.reverse = f ++ ['/'] := by
    have stop := List.head?_dropWhile_not (· ≠ '/') (Pathname.bareEnd cs)
    cases left : front with
    | nil => exact .inl rfl
    | cons c rest =>
      rw [show (Pathname.bareEnd cs).dropWhile (· ≠ '/') = c :: rest from left] at stop
      have slash : c = '/' := by simpa using stop
      exact .inr ⟨rest.reverse, by rw [slash, List.reverse_cons]⟩
  obtain ⟨rfl, some, noPoint, proper⟩ := eq_of_partOf? (partOf?_of_nameOf? named)
  refine ⟨proper, front.reverse, tail, ?_, folder, ⟨some, noSlash, noPoint⟩, idle⟩
  rw [← List.reverse_append, parts, ← List.reverse_append, Pathname.bareEnd, ← text,
    List.reverse_reverse]

/-! ### Parts -/

/-- The parts of a text that are between its slashes. -/
def partsBetween (cs : List Char) : List Part :=
  (cs.splitOn '/').filterMap Pathname.partOf?

theorem partsBetween_append (a b : List Char) :
    partsBetween (a ++ '/' :: b) = partsBetween a ++ partsBetween b := by
  rw [partsBetween, List.splitOn_append_cons_self, List.filterMap_append, partsBetween,
    partsBetween]

theorem partsBetween_of_notMem (noSlash : '/' ∉ cs) :
    partsBetween cs = (Pathname.partOf? cs).toList := by
  rw [partsBetween, List.splitOn_eq_singleton noSlash]
  cases part : Pathname.partOf? cs <;> simp [part]

theorem IsIdle.partsBetween_append_reverse (idle : IsIdle tail) (cs : List Char) :
    partsBetween (cs ++ tail.reverse) = partsBetween cs := by
  induction idle with
  | nil => rw [List.reverse_nil, List.append_nil]
  | @slash s rest ih =>
    rw [List.reverse_cons, ← List.append_assoc, partsBetween_append, ih]
    exact List.append_nil _
  | @point s rest ih =>
    rw [List.reverse_cons, List.reverse_cons, List.append_assoc, ← List.append_assoc,
      List.singleton_append, partsBetween_append, ih]
    exact List.append_nil _

theorem IsIdle.reverse_eq (idle : IsIdle tail) :
    tail.reverse = [] ∨ ∃ rest, tail.reverse = '/' :: rest := by
  induction idle with
  | nil => exact .inl rfl
  | slash rest ih => rcases ih with none | ⟨t, some⟩ <;> simp [*]
  | point rest ih => rcases ih with none | ⟨t, some⟩ <;> simp [*]

namespace Pathname

theorem same_iff (p r : Pathname) : p.same r = true ↔ p.parts = r.parts := by
  rw [same, decide_eq_true_iff]

theorem parts_eq (p : Pathname) : p.parts = p.start ++ partsBetween p.chars := by
  rw [parts, pieces, map_chars_split, partsBetween]

theorem start_eq (p : Pathname) :
    p.start = if p.chars.head? = some '/' then [.root]
      else if (p.chars.splitOn '/').head? = some ['.'] then [.here] else [] := by
  rw [start, isRooted, pieces, map_chars_split]
  simp

end Pathname

namespace EndsIn

theorem start_eq (ends : EndsIn cs folder name tail) :
    (Pathname.mk (String.ofList cs)).start = (Pathname.mk (String.ofList folder)).start := by
  have chars : ∀ cs, (Pathname.mk (String.ofList cs)).chars = cs := fun cs => String.toList_ofList
  rw [Pathname.start_eq, Pathname.start_eq, chars, chars, ends.text]
  rcases ends.folder with rfl | ⟨front, rfl⟩
  · obtain ⟨some, noSlash, noPoint⟩ := ends.piece
    have first : (([] ++ name ++ tail.reverse).splitOn '/').head? = Option.some name := by
      rw [List.nil_append]
      rcases ends.idle.reverse_eq with none | ⟨rest, slash⟩
      · rw [none, List.append_nil, List.splitOn_eq_singleton noSlash]
        rfl
      · rw [slash, List.splitOn_append_cons_self_of_not_mem noSlash]
        rfl
    have unrooted : ([] ++ name ++ tail.reverse).head? ≠ Option.some '/' := by
      cases name with
      | nil => exact absurd rfl some
      | cons c cs => exact fun same => noSlash (Option.some.inj same ▸ List.mem_cons_self)
    rw [first, if_neg unrooted, if_neg fun same => noPoint (Option.some.inj same)]
    rfl
  · have shape : front ++ ['/'] ++ name ++ tail.reverse =
        front ++ '/' :: (name ++ tail.reverse) := by simp
    rw [shape, List.splitOn_append_cons_self, List.splitOn_append_cons_self]
    cases parts : front.splitOn '/' with
    | nil => exact absurd parts (List.splitOn_ne_nil _ _)
    | cons first others => cases front <;> rfl

/-- The last part of a path is the piece that its text ends in, the others those of the folder. -/
theorem parts_eq (ends : EndsIn cs folder name tail) :
    (Pathname.mk (String.ofList cs)).parts =
      (Pathname.mk (String.ofList folder)).parts ++ (Pathname.partOf? name).toList := by
  have chars : ∀ cs, (Pathname.mk (String.ofList cs)).chars = cs := fun cs => String.toList_ofList
  have between : partsBetween (folder ++ name) =
      partsBetween folder ++ (Pathname.partOf? name).toList := by
    rw [← partsBetween_of_notMem ends.piece.noSlash]
    rcases ends.folder with rfl | ⟨front, rfl⟩
    · rfl
    · rw [List.append_assoc, List.singleton_append, partsBetween_append, partsBetween_append]
      exact congrArg (· ++ _) (List.append_nil _).symm
  rw [Pathname.parts_eq, Pathname.parts_eq, ends.start_eq, chars, chars, ends.text,
    ends.idle.partsBetween_append_reverse, between, List.append_assoc]

end EndsIn

/-! ### Extensions -/

theorem splitName_eq_some_iff {stem old : List Char} :
    splitName name = (stem, some old) ↔ name = stem ++ '.' :: old ∧ '.' ∉ old ∧ stem ≠ [] := by
  unfold splitName
  dsimp only
  constructor
  · intro cut
    split at cut
    · next point c rest dropped =>
      obtain ⟨rfl, same⟩ := Prod.mk.inj cut
      obtain rfl := Option.some.inj same
      have stop := List.head?_dropWhile_not (· ≠ '.') name.reverse
      rw [dropped] at stop
      have dot : point = '.' := by simpa using stop
      have whole : name.reverse.takeWhile (· ≠ '.') ++ name.reverse.dropWhile (· ≠ '.') =
          name.reverse := List.takeWhile_append_dropWhile
      have solid : ∀ d ∈ name.reverse.takeWhile (· ≠ '.'), d ≠ '.' := fun d mem => by
        simpa using List.mem_takeWhile_imp mem
      rw [dropped, dot] at whole
      refine ⟨?_, fun mem => solid _ (List.mem_reverse.mp mem) rfl, by simp⟩
      have turned : name =
          (name.reverse.takeWhile (· ≠ '.') ++ '.' :: c :: rest).reverse := by
        rw [whole, List.reverse_reverse]
      exact turned.trans (by simp)
    · cases (Prod.mk.inj cut).2
  · rintro ⟨rfl, noPoint, some⟩
    have solid : ∀ d ∈ old.reverse, decide (d ≠ '.') = true := fun d mem =>
      decide_eq_true fun same => noPoint (same ▸ List.mem_reverse.mp mem)
    have back : (stem ++ '.' :: old).reverse = old.reverse ++ '.' :: stem.reverse := by simp
    rw [back, List.dropWhile_append_of_pos solid, List.takeWhile_append_of_pos solid]
    cases reversed : stem.reverse with
    | nil => exact absurd (List.reverse_eq_nil_iff.mp reversed) some
    | cons c rest =>
      have same : stem = (c :: rest).reverse := by rw [← reversed, List.reverse_reverse]
      simp [same]

/-- The last part of a path once it has another extension. If the name is two points and an
extension, and the text ends with it, what is left without the extension is no name. -/
def extendedPart (extension name : List Char) (bare : Bool) : Part :=
  if bare ∧ (splitName name).1 = ['.'] then .up
  else .name ((splitName name).1 ++ '.' :: extension)

theorem splitName_eq_none {stem : List Char} (cut : splitName name = (stem, none)) :
    stem = name := by
  unfold splitName at cut
  dsimp only at cut
  split at cut
  · cases (Prod.mk.inj cut).2
  · exact (Prod.mk.inj cut).1.symm

theorem withExtension_of_nameOf? {p : Pathname} (extension : String)
    (unnamed : Pathname.nameOf? p.chars = none) : p.withExtension extension = p := by
  have text : p.chars.take (p.chars.length - ([] : List Char).length) = p.chars := List.take_length
  rw [Pathname.withExtension, unnamed]
  dsimp only [Option.bind_none, Option.getD_none]
  rw [text, Pathname.setExtension, unnamed]
  dsimp only
  rw [Pathname.chars, String.ofList_toList]

theorem isPiece_extended {stem old : List Char} (piece : IsPiece name)
    (front : stem = name ∨ ∃ rest, name = stem ++ '.' :: rest) (some : stem ≠ [])
    (noSlash : '/' ∉ old) : IsPiece (stem ++ '.' :: old) := by
  refine ⟨by simp, ?_, ?_⟩
  · have stemClean : '/' ∉ stem := by
      rcases front with rfl | ⟨rest, rfl⟩
      · exact piece.noSlash
      · exact fun mem => piece.noSlash (List.mem_append_left _ mem)
    simp [stemClean, noSlash]
  · cases stem with
    | nil => exact absurd rfl some
    | cons c cs => simp

/-- A text without as many characters at its end as the extension has still ends in a piece, of
which the stem and the point are left at least. -/
theorem EndsIn.take {stem old : List Char} (ends : EndsIn cs folder name tail)
    (cut : splitName name = (stem, some old)) :
    ∃ rest tail', EndsIn (cs.take (cs.length - old.length)) folder (stem ++ '.' :: rest) tail' ∧
      rest <+: old ∧ (rest = [] ↔ old = [] ∨ tail = []) := by
  obtain ⟨rfl, noPoint, some⟩ := splitName_eq_some_iff.mp cut
  have clean : '/' ∉ old := fun mem =>
    ends.piece.noSlash (List.mem_append_right _ (List.mem_cons_of_mem _ mem))
  rw [ends.text]
  by_cases long : old.length ≤ tail.length
  · have short : tail = [] → old = [] := by
      rintro rfl
      exact List.length_eq_zero_iff.mp (Nat.le_zero.mp long)
    refine ⟨old, tail.drop old.length, ⟨?_, ends.folder, ends.piece, ends.idle.drop _⟩,
      List.prefix_refl old, ⟨.inl, Or.rec id short⟩⟩
    have left : (folder ++ (stem ++ '.' :: old) ++ tail.reverse).length - old.length =
        (folder ++ (stem ++ '.' :: old)).length + (tail.length - old.length) := by
      simp only [List.length_append, List.length_reverse]
      omega
    rw [left, List.take_length_add_append, List.reverse_drop]
  · refine ⟨old.take tail.length, [], ⟨?_, ends.folder, ?_, .nil⟩, List.take_prefix _ _, ?_⟩
    · have shape : folder ++ (stem ++ '.' :: old) ++ tail.reverse =
          (folder ++ stem ++ ['.']) ++ (old ++ tail.reverse) := by simp
      have left : (folder ++ (stem ++ '.' :: old) ++ tail.reverse).length - old.length =
          (folder ++ stem ++ ['.']).length + tail.length := by
        simp only [List.length_append, List.length_reverse, List.length_cons, List.length_nil]
        omega
      rw [left, shape, List.take_length_add_append,
        List.take_append_of_le_length (Nat.le_of_not_le long)]
      simp
    · exact isPiece_extended ends.piece (.inr ⟨old, rfl⟩) some fun mem =>
        clean (List.mem_of_mem_take mem)
    · rw [List.take_eq_nil_iff, List.length_eq_zero_iff, or_comm]

theorem append_point_eq_iff {stem rest : List Char} (full : stem ≠ []) :
    stem ++ '.' :: rest = ['.', '.'] ↔ stem = ['.'] ∧ rest = [] := by
  match stem with
  | [] => exact absurd rfl full
  | [c] => simp
  | c :: d :: cs => simp

theorem EndsIn.bare_iff (ends : EndsIn cs folder name tail) :
    Pathname.bareEnd cs = cs.reverse ↔ tail.isEmpty = true := by
  rw [ends.bareEnd, ends.text, List.isEmpty_iff]
  simp

/-- The part that a path whose last part is a name has instead of it with another extension. -/
def Pathname.partWith (extension : String) (p : Pathname) (name : List Char) : Part :=
  extendedPart extension.toList name (bareEnd p.chars = p.chars.reverse)

theorem parts_withExtension {p : Pathname} (extension : String)
    (named : Pathname.nameOf? p.chars = some name) (some : extension ≠ "")
    (noSlash : '/' ∉ extension.toList) :
    ∃ front, p.parts = front ++ [.name name] ∧
      (p.withExtension extension).parts = front ++ [p.partWith extension name] := by
  obtain ⟨proper, folder, tail, ends⟩ := exists_endsIn named
  have last := ends.parts_eq
  rw [Pathname.chars, String.ofList_toList, partOf?_piece ends.piece, if_neg proper] at last
  refine ⟨(Pathname.mk (String.ofList folder)).parts, last, ?_⟩
  have bare : decide (Pathname.bareEnd p.chars = p.chars.reverse) = tail.isEmpty := by
    rw [Bool.eq_iff_iff, decide_eq_true_iff, ends.bare_iff]
  rw [Pathname.partWith, bare]
  have letters : extension.toList ≠ [] := fun none => some (String.toList_eq_nil_iff.mp none)
  -- A text of a folder, a stem and the new extension.
  have put : ∀ {stem}, stem ≠ [] → (stem = name ∨ ∃ rest, name = stem ++ '.' :: rest) →
      (Pathname.mk (String.ofList (folder ++ stem ++ '.' :: extension.toList))).parts =
        (Pathname.mk (String.ofList folder)).parts ++ [.name (stem ++ '.' :: extension.toList)] := by
    intro stem full front
    have piece := isPiece_extended ends.piece front full noSlash
    have written : EndsIn (folder ++ stem ++ '.' :: extension.toList) folder
        (stem ++ '.' :: extension.toList) [] :=
      ⟨by simp, ends.folder, piece, .nil⟩
    rw [written.parts_eq, partOf?_piece piece, if_neg ?_]
    · rfl
    · intro same
      have sizes := congrArg List.length same
      have one := List.length_pos_iff.mpr full
      have two := List.length_pos_iff.mpr letters
      simp only [List.length_append, List.length_cons, List.length_nil] at sizes
      omega
  rw [Pathname.withExtension, named, Option.bind_some]
  rcases cut : splitName name with ⟨stem, _ | old⟩
  · obtain rfl := splitName_eq_none cut
    have text : p.chars.take (p.chars.length - ([] : List Char).length) = p.chars :=
      List.take_length
    dsimp only [Option.getD_none]
    rw [text, ends.setExtension_eq proper, cut, put ends.piece.some (.inl rfl), extendedPart, cut,
      if_neg fun alone => ends.piece.noPoint alone.2]
  · obtain ⟨whole, noPoint, full⟩ := splitName_eq_some_iff.mp cut
    obtain ⟨rest, tail', left, start, short⟩ := ends.take cut
    have part : extendedPart extension.toList name tail.isEmpty =
        if stem ++ '.' :: rest = ['.', '.'] then .up else .name (stem ++ '.' :: extension.toList) := by
      rw [extendedPart, cut]
      refine if_congr ?_ rfl rfl
      rw [append_point_eq_iff full, short, List.isEmpty_iff, and_comm]
      refine and_congr_right fun point => ⟨.inr, Or.rec (fun none => ?_) id⟩
      exact absurd (whole.trans ((append_point_eq_iff full).mpr ⟨point, none⟩)) proper
    dsimp only [Option.getD_some]
    rw [part]
    by_cases up : stem ++ '.' :: rest = ['.', '.']
    · rw [if_pos up, Pathname.setExtension, left.nameOf?_eq, if_pos up]
      dsimp only
      rw [left.parts_eq, partOf?_piece left.piece, if_pos up]
      rfl
    · have again : splitName (stem ++ '.' :: rest) = (stem, Option.some rest) :=
        splitName_eq_some_iff.mpr ⟨rfl, fun mem => noPoint (start.subset mem), full⟩
      rw [if_neg up, left.setExtension_eq up, again, put full (.inr ⟨old, whole⟩)]

end Reveille.Files
