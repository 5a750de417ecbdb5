import InstrumentLink.Proofs.Text.Digits
import InstrumentLink.Toml.Scalar

/-!
A whole number that is written in decimal digits and ends its line is read as that number: nothing else that TOML
knows is written in digits alone.
-/

namespace InstrumentLink.Toml

/-- Where a text is cut that starts with some characters of a kind and goes on with another. -/
theorem cut_append {p : Char → Bool} {front rest : List Char} (all : ∀ c ∈ front, p c = true)
    (stop : ∀ c, rest.head? = some c → p c = false) :
    (front ++ rest).takeWhile p = front ∧ (front ++ rest).dropWhile p = rest := by
  rw [List.takeWhile_append_of_pos all, List.dropWhile_append_of_pos all]
  cases rest with
  | nil => simp
  | cons c rest => simp [stop c rfl]

section Digits

variable {c : Char} {text : List Char}

theorem notMem_of_isDigit (digits : ∀ c ∈ text, c.isDigit = true) (other : c.isDigit = false) : c ∉ text := by
  intro member
  rw [digits c member] at other
  cases other

theorem ne_of_isDigit (digits : ∀ c ∈ text, c.isDigit = true) {word : List Char} (member : c ∈ word)
    (other : c.isDigit = false) : text ≠ word := by
  rintro rfl
  exact notMem_of_isDigit digits other member

theorem cut_of_isDigit (digits : ∀ c ∈ text, c.isDigit = true) {p : Char → Bool}
    (all : ∀ c, c.isDigit = true → p c = true) : text.takeWhile p = text ∧ text.dropWhile p = [] := by
  have cut : (text ++ []).takeWhile p = text ∧ (text ++ []).dropWhile p = [] :=
    cut_append (fun c member => all c (digits c member)) (by simp)
  rwa [List.append_nil] at cut

theorem splitOn_of_isDigit (digits : ∀ c ∈ text, c.isDigit = true) (other : c.isDigit = false) :
    text.splitOn c = [text] :=
  List.splitOn_eq_singleton (notMem_of_isDigit digits other)

theorem isScalarChar_of_isDigit (digit : c.isDigit = true) : isScalarChar c = true := by
  simp [isScalarChar, Char.isAlphanum, digit]

theorem splitSign_of_isDigit (digits : ∀ c ∈ text, c.isDigit = true) : splitSign text = (false, text) := by
  unfold splitSign
  split
  next rest => exact absurd (List.mem_cons_self ..) (notMem_of_isDigit digits (show '+'.isDigit = false by decide))
  next rest => exact absurd (List.mem_cons_self ..) (notMem_of_isDigit digits (show '-'.isDigit = false by decide))
  next => rfl

theorem spacedDigits?_of_isDigit (digits : ∀ c ∈ text, c.isDigit = true) (filled : text ≠ []) :
    spacedDigits? 10 text = some text := by
  have all : text.all (InstrumentLink.isDigit 10) = true :=
    List.all_eq_true.mpr fun c member => isDigit_of_isDigit (digits c member)
  rw [spacedDigits?, splitOn_of_isDigit digits (by decide)]
  simp [filled, all]

theorem isMoment_of_isDigit (digits : ∀ c ∈ text, c.isDigit = true) : isMoment text = false := by
  have isDate_of_isDigit : ∀ {text : List Char}, (∀ c ∈ text, c.isDigit = true) → isDate text = false := by
    intro text digits
    rw [isDate, splitOn_of_isDigit digits (by decide)]
  have isClock_of_isDigit : isClock text = false := by
    rw [isClock, splitOn_of_isDigit digits (by decide)]
  have front : isDate (text.take 10) = false := isDate_of_isDigit fun c member => digits c (List.mem_of_mem_take member)
  rw [isMoment, isDate_of_isDigit digits, isClock_of_isDigit, front]
  rfl

end Digits

variable {n : Nat}

theorem wholeDigits?_decimal (n : Nat) : wholeDigits? (Nat.toDigits 10 n) = some (Nat.toDigits 10 n) := by
  unfold wholeDigits?
  split
  next second rest shown =>
    have zero : n = 0 := eq_zero_of_head?_decimal (by rw [shown]; rfl)
    rw [zero] at shown
    cases shown
  next => exact spacedDigits?_of_isDigit (fun c => isDigit_of_mem_decimal) Nat.toDigits_ne_nil

theorem integer?_decimal (small : n < 0x8000000000000000) : integer? (Nat.toDigits 10 n) = some (n : Int) := by
  have digits : ∀ c ∈ Nat.toDigits 10 n, c.isDigit = true := fun c => isDigit_of_mem_decimal
  have notBase : ∀ {c d : Char} {rest : List Char}, d.isDigit = false → Nat.toDigits 10 n ≠ c :: d :: rest := by
    intro c d rest other shown
    refine notMem_of_isDigit digits other ?_
    rw [shown]
    exact List.mem_cons_of_mem _ (List.mem_cons_self ..)
  have inRange : inRange? (n : Int) = some (n : Int) := by
    rw [inRange?, if_pos (by omega)]
  unfold integer?
  split
  next rest shown => exact absurd shown (notBase (by decide))
  next rest shown => exact absurd shown (notBase (by decide))
  next rest shown => exact absurd shown (notBase (by decide))
  next =>
    rw [splitSign_of_isDigit digits]
    dsimp only
    rw [wholeDigits?_decimal, Option.bind_some, readNat?_decimal, Option.bind_some]
    exact inRange

theorem float?_decimal (n : Nat) : float? (Nat.toDigits 10 n) = none := by
  have digits : ∀ c ∈ Nat.toDigits 10 n, c.isDigit = true := fun c => isDigit_of_mem_decimal
  have no : ∀ {c d : Char}, c.isDigit = true → d.isDigit = false → decide (c ≠ d) = true := by
    intro c d digit other
    refine decide_eq_true ?_
    rintro rfl
    rw [digit] at other
    cases other
  obtain ⟨front, power⟩ := cut_of_isDigit digits (p := fun c => c ≠ 'e' && c ≠ 'E') fun c digit => by
    rw [no digit (by decide), no digit (by decide)]
    rfl
  obtain ⟨whole, places⟩ := cut_of_isDigit digits (p := fun c => c ≠ '.') fun c digit => no digit (by decide)
  have nothing : decimal? false (Nat.toDigits 10 n) = none := by
    simp only [decimal?, front, power, whole, places, wholeDigits?_decimal, Option.bind_eq_bind, Option.bind_some,
      if_true]
  rw [float?, splitSign_of_isDigit digits]
  dsimp only
  rw [if_neg (ne_of_isDigit digits (c := 'i') (by decide) (by decide)),
    if_neg (ne_of_isDigit digits (c := 'n') (by decide) (by decide)), nothing]
  rfl

theorem scalar?_decimal (small : n < 0x8000000000000000) (rest : List Char) :
    scalar? (Nat.toDigits 10 n ++ '\n' :: rest) = some (.integer n, '\n' :: rest) := by
  have digits : ∀ c ∈ Nat.toDigits 10 n, c.isDigit = true := fun c => isDigit_of_mem_decimal
  have stop : ∀ c, ('\n' :: rest).head? = some c → isScalarChar c = false := by
    intro c first
    cases first
    decide
  obtain ⟨token, behind⟩ := cut_append (fun c member => isScalarChar_of_isDigit (digits c member)) stop
  have read : scalarOf? (Nat.toDigits 10 n) = some (.integer n) := by
    rw [scalarOf?, if_neg (ne_of_isDigit digits (c := 't') (by decide) (by decide)),
      if_neg (ne_of_isDigit digits (c := 'f') (by decide) (by decide)), isMoment_of_isDigit digits, float?_decimal,
      integer?_decimal small]
    rfl
  rw [scalar?, token, behind]
  simp [read]

end InstrumentLink.Toml
