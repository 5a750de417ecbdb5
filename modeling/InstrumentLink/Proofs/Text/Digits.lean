import InstrumentLink.Text.Digits
import Mathlib.Data.List.Induction

/-!
A number that is written in digits is read back. In decimal there is one way to write it without leading zeros.
-/

namespace InstrumentLink

variable {c : Char} {base n : Nat} {text : List Char}

theorem digitValue?_digitChar {value : Nat} (small : value < base) (known : base ≤ 16) :
    digitValue? base value.digitChar = some value := by
  have table : ∀ value < 16,
      if value.digitChar.isDigit then value.digitChar.toNat - '0'.toNat = value
      else 'a' ≤ value.digitChar ∧ value.digitChar ≤ 'z' ∧ value.digitChar.toNat - 'a'.toNat + 10 = value := by
    decide
  have entry := table value (Nat.lt_of_lt_of_le small known)
  unfold digitValue?
  split at entry
  next digit => rw [if_pos digit, entry, if_pos small]
  next other =>
    obtain ⟨low, high, letter⟩ := entry
    have isLetter : 'a' ≤ value.digitChar ∧ value.digitChar ≤ 'z' := ⟨low, high⟩
    rw [if_neg other, if_pos isLetter, letter, if_pos small]

theorem exists_digit_of_isDigit (digit : c.isDigit = true) : ∃ value < 10, c = value.digitChar := by
  have bounds : 48 ≤ c.toNat ∧ c.toNat ≤ 57 := by
    simp only [Char.isDigit, Bool.and_eq_true, decide_eq_true_eq, ge_iff_le, UInt32.le_iff_toNat_le] at digit
    exact digit
  have small : c.toNat - 48 < 10 := by omega
  refine ⟨c.toNat - 48, small, Char.toNat_inj.mp ?_⟩
  rw [Nat.toNat_digitChar_of_lt_ten small]
  omega

theorem digitValue?_of_isDigit (digit : c.isDigit = true) : digitValue? 10 c = some (c.toNat - '0'.toNat) := by
  obtain ⟨value, small, rfl⟩ := exists_digit_of_isDigit digit
  rw [digitValue?_digitChar small (by decide)]
  exact congrArg some (Nat.toNat_digitChar_sub_48_of_lt_ten small).symm

theorem isDigit_of_isDigit (digit : c.isDigit = true) : isDigit 10 c = true := by
  rw [isDigit, digitValue?_of_isDigit digit]
  rfl

theorem readDigits?_of_isDigit (digits : ∀ c ∈ text, c.isDigit = true) (start : Nat) :
    readDigits? 10 start text = some (Nat.ofDigitChars 10 text start) := by
  induction text generalizing start with
  | nil => rfl
  | cons c rest ih =>
    obtain ⟨first, others⟩ := List.forall_mem_cons.mp digits
    rw [readDigits?, List.foldlM_cons, digitValue?_of_isDigit first]
    exact ih others _

theorem isDigit_of_mem_decimal (member : c ∈ Nat.toDigits 10 n) : c.isDigit = true :=
  Nat.isDigit_of_mem_toDigits (by decide) (by decide) member

theorem readNat?_toDigits (large : 1 < base) (known : base ≤ 16) (n : Nat) :
    readNat? base (Nat.toDigits base n) = some n := by
  have filled : (Nat.toDigits base n).isEmpty = false := by simp [Nat.toDigits_ne_nil]
  rw [readNat?, filled]
  change readDigits? base 0 (Nat.toDigits base n) = some n
  induction n using Nat.strongRecOn with
  | ind n ih =>
    rw [Nat.toDigits_eq_if large]
    split
    next small => simp [readDigits?, digitValue?_digitChar small known]
    next more =>
      have front := ih (n / base) (Nat.div_lt_self (by omega) large) (by simp [Nat.toDigits_ne_nil])
      have last := digitValue?_digitChar (Nat.mod_lt n (by omega)) known
      rw [readDigits?] at front ⊢
      rw [List.foldlM_append, front]
      simp [last, Nat.div_add_mod]

theorem readNat?_decimal (n : Nat) : readNat? 10 (Nat.toDigits 10 n) = some n :=
  readNat?_toDigits (by decide) (by decide) n

theorem readNatUpTo?_decimal (limit n : Nat) :
    readNatUpTo? 10 limit (Nat.toDigits 10 n) = if n ≤ limit then some n else none := by
  rw [readNatUpTo?, readNat?_decimal, Option.filter_some]
  simp only [decide_eq_true_eq]

theorem exists_digit_of_mem_toDigits (large : 1 < base) (member : c ∈ Nat.toDigits base n) :
    ∃ value < base, c = value.digitChar := by
  induction n using Nat.strongRecOn with
  | ind n ih =>
    rw [Nat.toDigits_eq_if large] at member
    split at member
    next small => exact ⟨n, small, List.mem_singleton.mp member⟩
    next more =>
      rcases List.mem_append.mp member with front | last
      · exact ih (n / base) (Nat.div_lt_self (by omega) large) front
      · exact ⟨n % base, Nat.mod_lt n (by omega), List.mem_singleton.mp last⟩

theorem eq_zero_of_head?_decimal (zero : (Nat.toDigits 10 n).head? = some '0') : n = 0 := by
  induction n using Nat.strongRecOn with
  | ind n ih =>
    rw [Nat.toDigits_eq_if (by decide)] at zero
    split at zero
    next small => exact Nat.digitChar_eq_zero.mp (Option.some.inj zero)
    next large =>
      have front : (Nat.toDigits 10 (n / 10)).head? = some '0' := by
        rwa [List.head?_append, Option.or_of_isSome (List.isSome_head?.mpr Nat.toDigits_ne_nil)] at zero
      have none := ih (n / 10) (by omega) front
      omega

theorem isDigit_of_digitValue? {value : Nat} (digit : digitValue? 10 c = some value) : c.isDigit = true := by
  refine Decidable.byContradiction fun other => ?_
  rw [digitValue?, if_neg other] at digit
  split at digit
  · rw [if_neg (by omega)] at digit
    cases digit
  · split at digit
    · rw [if_neg (by omega)] at digit
      cases digit
    · cases digit

theorem isDigit_of_readDigits? {start : Nat} (read : readDigits? 10 start text = some n) :
    ∀ c ∈ text, c.isDigit = true := by
  induction text generalizing start with
  | nil => simp
  | cons c rest ih =>
    rw [readDigits?, List.foldlM_cons] at read
    obtain ⟨next, first, others⟩ := Option.bind_eq_some_iff.mp read
    obtain ⟨value, digit, _⟩ := Option.map_eq_some_iff.mp first
    exact List.forall_mem_cons.mpr ⟨isDigit_of_digitValue? digit, ih others⟩

structure IsPlainDecimal (text : List Char) : Prop where
  filled : text ≠ []
  digits : ∀ c ∈ text, c.isDigit = true
  plain : text.head? ≠ some '0' ∨ text = ['0']

theorem toDigits_ofDigitChars (plain : IsPlainDecimal text) :
    Nat.toDigits 10 (Nat.ofDigitChars 10 text 0) = text := by
  obtain ⟨filled, digits, plain⟩ := plain
  induction text using List.reverseRecOn with
  | nil => exact absurd rfl filled
  | append_singleton front c ih =>
    obtain ⟨value, small, rfl⟩ := exists_digit_of_isDigit (digits c (by simp))
    rw [Nat.ofDigitChars_append, Nat.ofDigitChars_cons_digitChar_of_lt_ten small, Nat.ofDigitChars_nil]
    by_cases alone : front = []
    · simp [alone, Nat.toDigits_of_lt_base small]
    · have head : front.head? ≠ some '0' := by
        rcases plain with other | zero
        · rwa [List.head?_append, Option.or_of_isSome (List.isSome_head?.mpr alone)] at other
        · exact absurd (by simpa using congrArg List.length zero) alone
      have before := ih alone (fun d member => digits d (by simp [member])) (.inl head)
      -- A front of value zero would be a zero itself.
      have positive : 0 < Nat.ofDigitChars 10 front 0 := by
        refine Nat.pos_of_ne_zero fun zero => head ?_
        rw [← before, zero]
        rfl
      rw [← Nat.toDigits_append_toDigits (by decide) positive small, before, Nat.toDigits_of_lt_base small]

theorem isPlainDecimal_iff : IsPlainDecimal text ↔ ∃ n, text = Nat.toDigits 10 n := by
  constructor
  · intro plain
    exact ⟨_, (toDigits_ofDigitChars plain).symm⟩
  · rintro ⟨n, rfl⟩
    refine ⟨Nat.toDigits_ne_nil, fun c => isDigit_of_mem_decimal, ?_⟩
    by_cases zero : (Nat.toDigits 10 n).head? = some '0'
    · exact .inr (by rw [eq_zero_of_head?_decimal zero]; rfl)
    · exact .inl zero

theorem eq_decimal_of_readNat? (read : readNat? 10 text = some n) (plain : text.head? ≠ some '0' ∨ text = ['0']) :
    text = Nat.toDigits 10 n := by
  cases text with
  | nil => cases read
  | cons c rest =>
    have read : readDigits? 10 0 (c :: rest) = some n := read
    have digits := isDigit_of_readDigits? read
    rw [readDigits?_of_isDigit digits, Option.some.injEq] at read
    rw [← read, toDigits_ofDigitChars ⟨List.cons_ne_nil c rest, digits, plain⟩]

end InstrumentLink
