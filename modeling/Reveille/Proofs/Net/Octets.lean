import Reveille.Net.Octets
import Reveille.Proofs.RuleText.Header
import Reveille.Proofs.Text.Slots
import Reveille.Wake.Waker

/-!
# Octets are kept from a text to the packet

A text is read as a hardware address if and only if it is six pairs of hexadecimal digits with
colons between them. It is printed in lower case, reads back as itself, and its octets are what
the magic packet repeats.
-/

namespace Reveille.Net.Mac

open Reveille.RuleText Reveille.RuleText.Grammar Reveille.Text

variable {s : List Char} {octets : List UInt8} {m m' : Mac}

/-- Six pairs of hexadecimal digits with colons between them, and the octets that they stand
for. -/
def Spells (s : List Char) (octets : List UInt8) : Prop :=
  ∃ pairs, s = [':'].intercalate pairs ∧ octets.length = 6 ∧ List.Forall₂ IsHexPair pairs octets

/-- Six pairs of hexadecimal digits with colons between them, whatever they stand for. -/
def IsHexPairs (s : List Char) : Prop :=
  ∃ pairs, s = [':'].intercalate pairs ∧ pairs.length = 6 ∧ ∀ p ∈ pairs, ∃ b, IsHexPair p b

theorem exists_octets_iff {pairs : List (List Char)} :
    (∀ p ∈ pairs, ∃ b, IsHexPair p b) ↔ ∃ octets, List.Forall₂ IsHexPair pairs octets := by
  induction pairs with
  | nil => exact iff_of_true (by simp) ⟨[], .nil⟩
  | cons p ps ih =>
    rw [List.forall_mem_cons, ih]
    constructor
    · rintro ⟨⟨b, first⟩, bs, later⟩
      exact ⟨b :: bs, .cons first later⟩
    · rintro ⟨_, _ | ⟨first, later⟩⟩
      exact ⟨⟨_, first⟩, _, later⟩

theorem isHexPairs_iff : IsHexPairs s ↔ ∃ octets, Spells s octets := by
  constructor
  · rintro ⟨pairs, whole, six, hex⟩
    obtain ⟨octets, read⟩ := exists_octets_iff.mp hex
    exact ⟨octets, pairs, whole, read.length_eq ▸ six, read⟩
  · rintro ⟨octets, pairs, whole, six, read⟩
    exact ⟨pairs, whole, read.length_eq.trans six, exists_octets_iff.mpr ⟨octets, read⟩⟩

/-! ### The shape -/

theorem isHexPair_iff_isSome {high low : Char} : (∃ b, IsHexPair [high, low] b) ↔
    (hexValue? high).isSome = true ∧ (hexValue? low).isSome = true := by
  constructor
  · rintro ⟨b, _, _, v, v', same, first, second, -⟩
    cases same
    rw [hexValue?_eq_some_iff.mpr first, hexValue?_eq_some_iff.mpr second]
    exact ⟨rfl, rfl⟩
  · rintro ⟨first, second⟩
    obtain ⟨v, first⟩ := Option.isSome_iff_exists.mp first
    obtain ⟨v', second⟩ := Option.isSome_iff_exists.mp second
    rw [hexValue?_eq_some_iff] at first second
    have small := first.lt
    have small' := second.lt
    have octet : 16 * v + v' < 256 := by omega
    exact ⟨UInt8.ofNat (16 * v + v'), high, low, v, v', rfl, first, second,
      UInt8.toNat_ofNat_of_lt octet⟩

theorem fits_pair {kinds : List (Char → Bool)} :
    fits ((fun c => (hexValue? c).isSome) :: (fun c => (hexValue? c).isSome) :: kinds) s = true ↔
      ∃ p rest, s = p ++ rest ∧ (∃ b, IsHexPair p b) ∧ fits kinds rest = true := by
  constructor
  · intro h
    rcases s with _ | ⟨high, _ | ⟨low, rest⟩⟩
    · cases h
    · simp [fits] at h
    · rw [fits, fits, Bool.and_eq_true, Bool.and_eq_true] at h
      exact ⟨[high, low], rest, rfl, isHexPair_iff_isSome.mpr ⟨h.1, h.2.1⟩, h.2.2⟩
  · rintro ⟨p, rest, rfl, ⟨b, high, low, v, v', rfl, read⟩, later⟩
    obtain ⟨first, second⟩ := isHexPair_iff_isSome.mp ⟨b, high, low, v, v', rfl, read⟩
    rw [List.cons_append, List.cons_append, List.nil_append, fits, fits, first, second, later]
    rfl

theorem fits_pairs (n : Nat) : fits (List.replicate n [(· == ':'), fun c => (hexValue? c).isSome,
      fun c => (hexValue? c).isSome]).flatten s = true ↔
    ∃ pairs : List (List Char), s = (pairs.map (':' :: ·)).flatten ∧ pairs.length = n ∧
      ∀ p ∈ pairs, ∃ b, IsHexPair p b := by
  induction n generalizing s with
  | zero =>
    cases s with
    | nil => exact iff_of_true rfl ⟨[], rfl, rfl, by simp⟩
    | cons c cs =>
      refine iff_of_false (by simp [fits]) ?_
      rintro ⟨pairs, whole, none, -⟩
      rw [List.length_eq_zero_iff] at none
      subst none
      cases whole
  | succ n ih =>
    rw [List.replicate_succ, List.flatten_cons]
    cases s with
    | nil =>
      refine iff_of_false (by simp [fits]) ?_
      rintro ⟨_ | ⟨p, ps⟩, whole, some, -⟩
      · cases some
      · cases whole
    | cons c cs =>
      rw [List.cons_append, fits, Bool.and_eq_true, beq_iff_eq]
      change _ ∧ fits (_ :: _ :: _) cs = true ↔ _
      rw [fits_pair]
      constructor
      · rintro ⟨rfl, p, rest, rfl, first, later⟩
        obtain ⟨ps, rfl, length, hex⟩ := ih.mp later
        exact ⟨p :: ps, rfl, congrArg (· + 1) length, List.forall_mem_cons.mpr ⟨first, hex⟩⟩
      · rintro ⟨_ | ⟨p, ps⟩, whole, length, hex⟩
        · cases whole
        · rw [List.forall_mem_cons] at hex
          obtain ⟨rfl, rfl⟩ := List.cons.inj whole
          exact ⟨rfl, p, _, rfl, hex.1, ih.mpr ⟨ps, rfl, Nat.succ.inj length, hex.2⟩⟩

theorem intercalate_colon (p : List Char) (ps : List (List Char)) :
    [':'].intercalate (p :: ps) = p ++ (ps.map (':' :: ·)).flatten := by
  induction ps generalizing p with
  | nil => simp
  | cons q qs ih => simp [List.intercalate_cons_cons, ih]

theorem map_intercalate_colon {f : Char → Char} (colon : f ':' = ':') (ps : List (List Char)) :
    ([':'].intercalate ps).map f = [':'].intercalate (ps.map (List.map f)) := by
  cases ps with
  | nil => rfl
  | cons p ps =>
    rw [List.map_cons, intercalate_colon, intercalate_colon, List.map_append, List.map_flatten,
      List.map_map, List.map_map]
    simp [Function.comp_def, colon]

/-- The shape is that of six pairs, whatever they stand for. -/
theorem fits_shape_iff : fits shape s = true ↔ IsHexPairs s := by
  change fits (_ :: _ :: (List.replicate 5 _).flatten) s = true ↔ _
  rw [fits_pair]
  constructor
  · rintro ⟨p, rest, rfl, first, later⟩
    obtain ⟨ps, rfl, five, hex⟩ := (fits_pairs 5).mp later
    exact ⟨p :: ps, (intercalate_colon p ps).symm, congrArg (· + 1) five,
      List.forall_mem_cons.mpr ⟨first, hex⟩⟩
  · rintro ⟨_ | ⟨p, ps⟩, rfl, six, hex⟩
    · cases six
    · rw [List.forall_mem_cons] at hex
      exact ⟨p, _, intercalate_colon p ps, hex.1,
        (fits_pairs 5).mpr ⟨ps, rfl, Nat.succ.inj six, hex.2⟩⟩

/-! ### Reading -/

theorem colon_notMem_of_isHexPair {p : List Char} {b : UInt8} (pair : IsHexPair p b) : ':' ∉ p := by
  obtain ⟨high, low, h, l, rfl, first, second, -⟩ := pair
  have solid : ∀ {c : Char} {v : Nat}, IsHexDigit c v → ':' ≠ c := fun digit =>
    digit.elim (P := fun c _ => ':' ≠ c) (by decide) (by decide)
  intro mem
  rcases List.mem_pair.mp mem with same | same
  · exact solid first same
  · exact solid second same

theorem ofOctets?_eq_some_iff : ofOctets? octets = some m ↔ octets = m.octets := by
  constructor
  · intro h
    unfold ofOctets? at h
    split at h
    · cases h
      rfl
    · cases h
  · rintro rfl
    rfl

theorem exists_ofOctets? (six : octets.length = 6) : ∃ m : Mac, octets = m.octets := by
  match octets, six with
  | [a, b, c, d, e, f], _ => exact ⟨⟨a, b, c, d, e, f⟩, rfl⟩

theorem read?_of_spells (spelled : Spells s octets) : read? s = ofOctets? octets := by
  have shaped := fits_shape_iff.mpr (isHexPairs_iff.mpr ⟨octets, spelled⟩)
  obtain ⟨pairs, rfl, six, hex⟩ := spelled
  have clean : ∀ p ∈ pairs, ':' ∉ p := by
    clear shaped six
    induction hex with
    | nil => simp
    | cons first _ ih => exact List.forall_mem_cons.mpr ⟨colon_notMem_of_isHexPair first, ih⟩
  have length : pairs.length = 6 := hex.length_eq.trans six
  have some : pairs ≠ [] := by
    rintro rfl
    cases length
  have filled : fill readOctet? (List.replicate 6 0) pairs = .some octets := by
    refine (fill_eq_some_iff (Nat.le_of_eq length)).mpr ⟨octets, ?_, ?_⟩
    · exact hex.imp fun _ _ => readOctet?_of_isHexPair
    · rw [length]
      exact (List.append_nil octets).symm
  rw [read?, if_pos shaped, map_chars_split, (splitOn_eq_iff clean some).mpr rfl, filled]
  rfl

theorem read?_eq_some_iff : read? s = some m ↔ Spells s m.octets := by
  constructor
  · intro h
    have shaped : fits shape s = true := by
      by_contra other
      rw [read?, if_neg other] at h
      cases h
    obtain ⟨octets, spelled⟩ := isHexPairs_iff.mp (fits_shape_iff.mp shaped)
    rw [read?_of_spells spelled] at h
    exact ofOctets?_eq_some_iff.mp h ▸ spelled
  · intro spelled
    rw [read?_of_spells spelled]
    exact ofOctets?_eq_some_iff.mpr rfl

theorem exists_read?_iff : (∃ m, read? s = some m) ↔ IsHexPairs s := by
  rw [isHexPairs_iff]
  constructor
  · rintro ⟨m, read⟩
    exact ⟨m.octets, read?_eq_some_iff.mp read⟩
  · rintro ⟨octets, spelled⟩
    obtain ⟨_, -, six, -⟩ := id spelled
    obtain ⟨m, rfl⟩ := exists_ofOctets? six
    exact ⟨m, read?_eq_some_iff.mpr spelled⟩

theorem pair?_eq_some_iff {high low : Char} {b : UInt8} :
    pair? high low = some b ↔ IsHexPair [high, low] b := by
  unfold pair?
  constructor
  · intro h
    split at h
    · next v v' first second =>
      rw [hexValue?_eq_some_iff] at first second
      have small := first.lt
      have small' := second.lt
      have octet : 16 * v + v' < 256 := by omega
      cases h
      exact ⟨high, low, v, v', rfl, first, second, UInt8.toNat_ofNat_of_lt octet⟩
    · cases h
  · rintro ⟨_, _, v, v', same, first, second, value⟩
    cases same
    simp only [hexValue?_eq_some_iff.mpr first, hexValue?_eq_some_iff.mpr second, ← value]
    exact congrArg some UInt8.ofNat_toNat

theorem ofText?_eq_some_iff : ofText? s = some m ↔ Spells s m.octets := by
  constructor
  · intro h
    unfold ofText? at h
    split at h
    · split at h
      · next a b c d e f ha hb hc hd he hf =>
        cases h
        rw [pair?_eq_some_iff] at ha hb hc hd he hf
        exact ⟨_, rfl, rfl, .cons ha (.cons hb (.cons hc (.cons hd (.cons he (.cons hf .nil)))))⟩
      · cases h
    · cases h
  · rintro ⟨pairs, rfl, -, hex⟩
    have explicit : ∀ {p : List Char} {b : UInt8}, IsHexPair p b →
        ∃ high low, p = [high, low] ∧ pair? high low = some b := by
      rintro _ b ⟨high, low, v, v', rfl, read⟩
      exact ⟨high, low, rfl, pair?_eq_some_iff.mpr ⟨high, low, v, v', rfl, read⟩⟩
    obtain ⟨a, b, c, d, e, f⟩ := m
    dsimp only [octets] at hex
    rcases hex with _ | ⟨ha, _ | ⟨hb, _ | ⟨hc, _ | ⟨hd, _ | ⟨he, _ | ⟨hf, _ | _⟩⟩⟩⟩⟩⟩
    obtain ⟨_, _, rfl, readA⟩ := explicit ha
    obtain ⟨_, _, rfl, readB⟩ := explicit hb
    obtain ⟨_, _, rfl, readC⟩ := explicit hc
    obtain ⟨_, _, rfl, readD⟩ := explicit hd
    obtain ⟨_, _, rfl, readE⟩ := explicit he
    obtain ⟨_, _, rfl, readF⟩ := explicit hf
    change ofText? [_, _, ':', _, _, ':', _, _, ':', _, _, ':', _, _, ':', _, _] = _
    simp only [ofText?, readA, readB, readC, readD, readE, readF]

theorem read?_eq : read? s = ofText? s := by
  apply Option.ext
  intro m
  rw [read?_eq_some_iff, ofText?_eq_some_iff]

/-! ### Printing -/

theorem chars_eq_intercalate (m : Mac) : m.chars = [':'].intercalate (m.octets.map hexByte) := by
  simp [chars, octets, List.intercalate_cons_cons]

theorem spells_chars (m : Mac) : Spells m.chars m.octets := by
  refine ⟨m.octets.map hexByte, chars_eq_intercalate m, rfl, ?_⟩
  rw [List.forall₂_map_left_iff, List.forall₂_same]
  intro b _
  exact isHexPair_hexByte b

theorem chars_of_spells (spelled : Spells s m.octets) : m.chars = s.map Char.toLower := by
  obtain ⟨pairs, rfl, -, hex⟩ := spelled
  have lower : m.octets.map hexByte = pairs.map (List.map Char.toLower) := by
    generalize m.octets = octets at hex
    induction hex with
    | nil => rfl
    | cons first _ ih => rw [List.map_cons, List.map_cons, ih, hexByte_of_isHexPair first]
  rw [chars_eq_intercalate, lower, map_intercalate_colon rfl]

theorem octets_inj : m.octets = m'.octets ↔ m = m' := by
  constructor
  · intro same
    have here : ofOctets? m.octets = some m := ofOctets?_eq_some_iff.mpr rfl
    have there : ofOctets? m'.octets = some m' := ofOctets?_eq_some_iff.mpr rfl
    rw [same, there] at here
    exact (Option.some.inj here).symm
  · exact congrArg octets

/-! ### The packet -/

theorem filledPacket_eq (m : Mac) : m.filledPacket = m.magicPacket := rfl

theorem length_magicPacket (m : Mac) : m.magicPacket.length = 102 := rfl

theorem magicPacket_inj : m.magicPacket = m'.magicPacket ↔ m = m' := by
  constructor
  · intro same
    have first : (m.magicPacket.drop 6).take 6 = (m'.magicPacket.drop 6).take 6 := by rw [same]
    exact octets_inj.mp first
  · exact congrArg magicPacket

theorem spells_of_header {line : Line} {host : Host} (named : header line = .ok host) :
    ∃ front word, line.text = front ++ [':'] ∧ (wordChars front)[1]? = some word ∧
      Spells word host.mac.octets := by
  have reads := header_eq_ok_iff.mp named
  generalize line.text = text at reads
  cases reads with
  | @mac front word mac words read =>
    exact ⟨front, word, rfl, by rw [words]; rfl, ofText?_eq_some_iff.mp read⟩
  | @address front word _ mac _ words read _ =>
    exact ⟨front, word, rfl, by rw [words]; rfl, ofText?_eq_some_iff.mp read⟩

/-- A text is an address exactly if it is six pairs of hexadecimal digits, and then it is printed
in lower case; what is printed reads back. The packet repeats the octets and tells addresses
apart, and for a rule header it repeats the octets that the text of the header spells. -/
theorem kept_from_text_to_packet :
    (∀ s, read? s = ofText? s ∧ ((∃ m, read? s = some m) ↔ IsHexPairs s) ∧
      ∀ m, read? s = some m ↔ Spells s m.octets ∧ m.chars = s.map Char.toLower) ∧
    (∀ m : Mac, read? m.chars = some m) ∧
    (∀ m : Mac, m.filledPacket = m.magicPacket ∧ m.filledPacket.length = 102 ∧
      m.filledPacket = List.replicate 6 0xff ++ (List.replicate 16 m.octets).flatten) ∧
    (∀ m m' : Mac, m.filledPacket = m'.filledPacket ↔ m = m') ∧
    ∀ (line : Line) (host : Host) (w : Waker), header line = .ok host → w.method = .packet →
      ∃ front word octets, line.text = front ++ [':'] ∧ (wordChars front)[1]? = some word ∧
        Spells word octets ∧ w.transmission host.mac =
          .packet w.broadcast (List.replicate 6 0xff ++ (List.replicate 16 octets).flatten) := by
  refine ⟨fun s => ⟨read?_eq, exists_read?_iff, fun m => ?_⟩, ?_, ?_, ?_, ?_⟩
  · rw [read?_eq_some_iff]
    exact ⟨fun spelled => ⟨spelled, chars_of_spells spelled⟩, And.left⟩
  · intro m
    exact read?_eq_some_iff.mpr (spells_chars m)
  · intro m
    exact ⟨filledPacket_eq m, length_magicPacket m, rfl⟩
  · intro m m'
    rw [filledPacket_eq, filledPacket_eq]
    exact magicPacket_inj
  · intro line host w named packets
    obtain ⟨front, word, whole, second, spelled⟩ := spells_of_header named
    refine ⟨front, word, _, whole, second, spelled, ?_⟩
    rw [Waker.transmission, packets]
    rfl

/-- A header that writes some of its digits in upper case. -/
def shelfHeader : Line :=
  ⟨1, 0, "wake 00:24:1D:d9:FA:09 192.168.1.101:".toList⟩

def shelf : Host :=
  ⟨some (.v4 192 168 1 101), ⟨0x00, 0x24, 0x1d, 0xd9, 0xfa, 0x09⟩⟩

def shelfWaker : Waker :=
  { method := .packet, program := "wakeonlan", arguments := []
    broadcast := ⟨.v4 255 255 255 255, 0, 9⟩ }

theorem kept_from_text_to_packet_shelf :
    (header shelfHeader = .ok shelf ∧ shelfWaker.method = .packet) ∧
    read? "00:24:1D:d9:FA:09".toList = some shelf.mac ∧
    shelf.mac.chars = "00:24:1d:d9:fa:09".toList ∧
    ∃ front word octets, shelfHeader.text = front ++ [':'] ∧ (wordChars front)[1]? = some word ∧
      Spells word octets ∧ shelfWaker.transmission shelf.mac = .packet shelfWaker.broadcast
        (List.replicate 6 0xff ++ (List.replicate 16 octets).flatten) := by
  have named : header shelfHeader = .ok shelf := by decide +kernel
  have upper : read? "00:24:1D:d9:FA:09".toList = some shelf.mac := by decide +kernel
  obtain ⟨texts, -, -, -, sent⟩ := kept_from_text_to_packet
  obtain ⟨-, lower⟩ := ((texts _).2.2 shelf.mac).mp upper
  exact ⟨⟨named, rfl⟩, upper, lower.trans (by decide), sent _ _ _ named rfl⟩

end Reveille.Net.Mac
