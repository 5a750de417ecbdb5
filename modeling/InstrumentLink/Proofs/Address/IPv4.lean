import InstrumentLink.Address.IPv4
import InstrumentLink.Proofs.Text.Digits
import Mathlib.Tactic.SplitIfs

/-!
Four numbers in plain decimal are one address for either way of reading. `IPv4.read?` takes nothing else, so that it
accepts exactly what is written, and `IPv4.readLoose?` gives them the same meaning.
-/

namespace InstrumentLink.IPv4

def dotted (a b c d : List Char) : List Char := a ++ '.' :: (b ++ '.' :: (c ++ '.' :: d))

/-- Four numbers in decimal digits, none with a leading zero, with points between them. -/
def IsDottedQuad (text : List Char) : Prop :=
  ∃ a b c d, (∀ part ∈ [a, b, c, d], IsPlainDecimal part) ∧ text = dotted a b c d

def decimals (a b c d : Nat) : List Char :=
  dotted (Nat.toDigits 10 a) (Nat.toDigits 10 b) (Nat.toDigits 10 c) (Nat.toDigits 10 d)

def ofNumbers? (a b c d : Nat) : Option IPv4 :=
  if a ≤ 255 ∧ b ≤ 255 ∧ c ≤ 255 ∧ d ≤ 255 then some ⟨.ofNat a, .ofNat b, .ofNat c, .ofNat d⟩ else none

theorem chars_eq_decimals (ip : IPv4) : ip.chars = decimals ip.a.toNat ip.b.toNat ip.c.toNat ip.d.toNat := rfl

theorem isDottedQuad_iff {text : List Char} : IsDottedQuad text ↔ ∃ a b c d, text = decimals a b c d := by
  simp only [IsDottedQuad, List.forall_mem_cons, isPlainDecimal_iff]
  constructor
  · rintro ⟨_, _, _, _, ⟨⟨a, rfl⟩, ⟨b, rfl⟩, ⟨c, rfl⟩, ⟨d, rfl⟩, -⟩, rfl⟩
    exact ⟨a, b, c, d, rfl⟩
  · rintro ⟨a, b, c, d, rfl⟩
    exact ⟨_, _, _, _, ⟨⟨a, rfl⟩, ⟨b, rfl⟩, ⟨c, rfl⟩, ⟨d, rfl⟩, by simp⟩, rfl⟩

/-! Points. -/

theorem point_notMem_decimal (n : Nat) : '.' ∉ Nat.toDigits 10 n :=
  fun member => absurd (isDigit_of_mem_decimal member) (by decide)

theorem splitOn_decimals (a b c d : Nat) :
    (decimals a b c d).splitOn '.' =
      [Nat.toDigits 10 a, Nat.toDigits 10 b, Nat.toDigits 10 c, Nat.toDigits 10 d] := by
  rw [decimals, dotted, List.splitOn_append_cons_self_of_not_mem (point_notMem_decimal a),
    List.splitOn_append_cons_self_of_not_mem (point_notMem_decimal b),
    List.splitOn_append_cons_self_of_not_mem (point_notMem_decimal c),
    List.splitOn_eq_singleton (point_notMem_decimal d)]

theorem dotted_of_splitOn {text a b c d : List Char} (parts : text.splitOn '.' = [a, b, c, d]) :
    text = dotted a b c d := by
  have whole : ['.'].intercalate (text.splitOn '.') = text := List.intercalate_splitOn '.'
  rw [parts] at whole
  simpa [List.intercalate_cons_cons, dotted] using whole.symm

theorem notMem_decimals {other : Char} (noDigit : other.isDigit = false) (noPoint : other ≠ '.') (a b c d : Nat) :
    other ∉ decimals a b c d := by
  have number : ∀ n, other ∉ Nat.toDigits 10 n := by
    intro n member
    rw [isDigit_of_mem_decimal member] at noDigit
    cases noDigit
  simp [decimals, dotted, number, noPoint]

theorem colon_notMem_chars (ip : IPv4) : ':' ∉ ip.chars := by
  rw [chars_eq_decimals]
  exact notMem_decimals (by decide) (by decide) _ _ _ _

/-! One number. -/

theorem head?_decimal (n : Nat) : (Nat.toDigits 10 n).head? ≠ some '0' ∨ Nat.toDigits 10 n = ['0'] :=
  (isPlainDecimal_iff.mpr ⟨n, rfl⟩).plain

theorem readOctet?_decimal (n : Nat) :
    readOctet? (Nat.toDigits 10 n) = if n ≤ 255 then some (.ofNat n) else none := by
  rw [readOctet?, readNatUpTo?_decimal]
  by_cases small : n ≤ 255
  · have short : (Nat.toDigits 10 n).length ≤ 3 := (Nat.length_toDigits_le_iff (by decide) (by decide)).mpr (by omega)
    rw [if_pos ⟨short, head?_decimal n⟩, if_pos small, if_pos small, Option.map_some]
  · rw [if_neg small, if_neg small, Option.map_none, ite_self]

theorem eq_octetText_of_readOctet? {text : List Char} {octet : UInt8} (read : readOctet? text = some octet) :
    text = octetText octet := by
  unfold readOctet? at read
  split at read
  next shape =>
    obtain ⟨n, number, rfl⟩ := Option.map_eq_some_iff.mp read
    obtain ⟨number, small⟩ := Option.filter_eq_some_iff.mp number
    rw [octetText, UInt8.toNat_ofNat', Nat.mod_eq_of_lt (Nat.lt_succ_of_le (of_decide_eq_true small))]
    exact eq_decimal_of_readNat? number shape.2
  next => cases read

theorem readNumber?_decimal (n : Nat) :
    readNumber? (Nat.toDigits 10 n) = if n ≤ 0xffffffff then some n else none := by
  rcases head?_decimal n with other | zero
  · rw [← readNatUpTo?_decimal]
    unfold readNumber?
    split
    all_goals simp_all
  · have isZero : n = 0 := eq_zero_of_head?_decimal (by rw [zero]; rfl)
    subst isZero
    decide

/-! Four numbers. -/

variable {a b c d : Nat}

theorem read?_decimals (a b c d : Nat) : read? (decimals a b c d) = ofNumbers? a b c d := by
  rw [read?, splitOn_decimals]
  simp only [readOctet?_decimal, ofNumbers?]
  split_ifs <;> simp_all

theorem ofNat_bytes (second : b ≤ 255) (third : c ≤ 255) (last : d ≤ 255) :
    ofNat (a * 0x1000000 + b * 0x10000 + c * 0x100 + d) = ⟨.ofNat a, .ofNat b, .ofNat c, .ofNat d⟩ := by
  simp only [ofNat, mk.injEq, ← UInt8.toNat_inj, UInt8.toNat_ofNat']
  omega

theorem assemble?_four (a b c d : Nat) : assemble? [a, b, c, d] = ofNumbers? a b c d := by
  simp only [assemble?, ofNumbers?, Nat.lt_succ_iff]
  split_ifs with fit
  · obtain ⟨-, second, third, last⟩ := fit
    rw [ofNat_bytes second third last]
  · rfl

theorem readLoose?_decimals (a b c d : Nat) : readLoose? (decimals a b c d) = ofNumbers? a b c d := by
  let limit := 0xffffffff
  have numbers : [Nat.toDigits 10 a, Nat.toDigits 10 b, Nat.toDigits 10 c, Nat.toDigits 10 d].mapM readNumber? =
      if a ≤ limit ∧ b ≤ limit ∧ c ≤ limit ∧ d ≤ limit then some [a, b, c, d] else none := by
    simp only [List.mapM_cons, List.mapM_nil, readNumber?_decimal]
    split_ifs <;> simp_all [limit]
  rw [readLoose?, splitOn_decimals, numbers]
  split_ifs with fit
  · exact assemble?_four a b c d
  · rw [ofNumbers?, if_neg (by omega)]
    rfl

theorem read?_eq_some_iff {text : List Char} {ip : IPv4} : read? text = some ip ↔ text = ip.chars := by
  constructor
  · intro read
    unfold read? at read
    split at read
    next a b c d parts =>
      simp only [bind, pure, Option.bind_eq_some_iff, Option.some.injEq] at read
      obtain ⟨_, first, _, second, _, third, _, last, rfl⟩ := read
      rw [dotted_of_splitOn parts, eq_octetText_of_readOctet? first, eq_octetText_of_readOctet? second,
        eq_octetText_of_readOctet? third, eq_octetText_of_readOctet? last]
      rfl
    next => cases read
  · rintro rfl
    have byte : ∀ octet : UInt8, octet.toNat ≤ 255 := fun octet => Nat.le_of_lt_succ octet.toNat_lt
    rw [chars_eq_decimals, read?_decimals, ofNumbers?, if_pos ⟨byte _, byte _, byte _, byte _⟩]
    simp only [UInt8.ofNat_toNat]

theorem IsDottedQuad.readLoose?_eq {text : List Char} (quad : IsDottedQuad text) : readLoose? text = read? text := by
  obtain ⟨a, b, c, d, rfl⟩ := isDottedQuad_iff.mp quad
  rw [readLoose?_decimals, read?_decimals]

theorem IsDottedQuad.notMem {text : List Char} (quad : IsDottedQuad text) {other : Char}
    (noDigit : other.isDigit = false) (noPoint : other ≠ '.') : other ∉ text := by
  obtain ⟨a, b, c, d, rfl⟩ := isDottedQuad_iff.mp quad
  exact notMem_decimals noDigit noPoint a b c d

end InstrumentLink.IPv4
