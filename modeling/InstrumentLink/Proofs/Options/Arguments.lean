import InstrumentLink.Options.Parser
import InstrumentLink.Proofs.Options.Changes
import InstrumentLink.Proofs.Text.Digits

/-!
Changes on the command line: each is an option with its value behind an equals sign. A line of such arguments is read to
its end, and sets the changes one after another.
-/

namespace InstrumentLink

/-! Numbers on the command line. -/

theorem le_ofDigitChars (text : List Char) (start : Nat) : start ≤ Nat.ofDigitChars 10 text start := by
  induction text generalizing start with
  | nil => exact Nat.le_refl start
  | cons c rest ih =>
    rw [Nat.ofDigitChars_cons]
    refine Nat.le_trans ?_ (ih _)
    omega

theorem readSigned_cons {c : Char} (digit : c.isDigit = true) (start : Nat) (rest : List Char) :
    let next := 10 * start + (c.toNat - '0'.toNat)
    readSigned false start (c :: rest) =
      if 0x8000000000000000 ≤ next then .error .tooLarge else readSigned false next rest := by
  intro next
  have unrolled : readSigned false start (c :: rest) =
      if !c.isDigit then .error .invalidDigit
      else if 0x8000000000000000 ≤ next then .error .tooLarge else readSigned false next rest := rfl
  rw [unrolled, digit]
  rfl

theorem readSigned_of_isDigit {text : List Char} (digits : ∀ c ∈ text, c.isDigit = true) {start : Nat}
    (small : Nat.ofDigitChars 10 text start < 0x8000000000000000) :
    readSigned false start text = .ok (Nat.ofDigitChars 10 text start : Int) := by
  induction text generalizing start with
  | nil => rfl
  | cons c rest ih =>
    obtain ⟨first, others⟩ := List.forall_mem_cons.mp digits
    rw [Nat.ofDigitChars_cons] at small ⊢
    have next := Nat.lt_of_le_of_lt (le_ofDigitChars rest _) small
    rw [readSigned_cons first, if_neg (Nat.not_le.mpr next)]
    exact ih others small

theorem readUpTo_of_readNat? {text : List Char} {n limit : Nat} (read : readNat? 10 text = some n) (small : n ≤ limit)
    (fits : limit < 0x8000000000000000) : readUpTo limit text = .ok n := by
  cases text with
  | nil => cases read
  | cons c rest =>
    have read : readDigits? 10 0 (c :: rest) = some n := read
    have digits := isDigit_of_readDigits? read
    rw [readDigits?_of_isDigit digits, Option.some.injEq] at read
    have signed : readSigned false 0 (c :: rest) = .ok (n : Int) := by
      have value := readSigned_of_isDigit digits (by omega : Nat.ofDigitChars 10 (c :: rest) 0 < 0x8000000000000000)
      rwa [read] at value
    have plus : c ≠ '+' := by
      rintro rfl
      exact absurd (digits '+' List.mem_cons_self) (by decide)
    have minus : c ≠ '-' := by
      rintro rfl
      exact absurd (digits '-' List.mem_cons_self) (by decide)
    unfold readUpTo
    split
    case h_6 =>
      rw [signed]
      exact if_pos ⟨Int.natCast_nonneg n, Int.ofNat_le.mpr small⟩
    all_goals simp_all only [List.cons.injEq, reduceCtorEq, false_and]

/-! What stands on the command line. -/

def Field.opt : Field → Opt
  | dataHost => .dataHost
  | dataPort => .dataPort
  | commandHost => .commandHost
  | commandPort => .commandPort
  | devicePath => .device
  | baudRate => .baudRate

/-- A text for the new value of a field: a host or a path is any text, and a number stands in decimal. -/
def Change.WrittenAs (text : String) : Change → Prop
  | dataHost value | commandHost value | devicePath value => text = value
  | dataPort value | commandPort value => readNat? 10 text.toList = some value.toNat
  | baudRate value => readNat? 10 text.toList = some value.toNat

structure Override where
  change : Change
  text : String
  written : change.WrittenAs text

namespace Override

def opt (override : Override) : Opt := override.change.field.opt

def argument (override : Override) : String := "--" ++ override.opt.long ++ "=" ++ override.text

theorem takesValue_opt (override : Override) : override.opt.takesValue = true := by
  unfold opt
  cases override.change <;> rfl

theorem toList_argument (override : Override) :
    override.argument.toList = '-' :: '-' :: (override.opt.long.toList ++ '=' :: override.text.toList) := by
  simp [argument]

end Override

theorem Opt.ofLong?_long (opt : Opt) : Opt.ofLong? opt.long = some opt := by
  cases opt <;> decide +kernel

theorem Field.opt_injective : Function.Injective Field.opt := by
  intro first second same
  cases first <;> cases second <;> first | rfl | cases same

theorem Opt.equals_notMem_long (opt : Opt) : '=' ∉ opt.long.toList := by
  cases opt <;> decide +kernel

namespace Scan

variable {scan : Scan}

theorem number_of_readNat? {text : String} {n limit : Nat} (read : readNat? 10 text.toList = some n)
    (small : n ≤ limit) (fits : limit < 0x8000000000000000) (opt : Opt) : number limit opt text = .ok n := by
  rw [number, readUpTo_of_readNat? read small fits]

theorem setValue_override (override : Override) (options : Options) :
    setValue override.opt override.text options = .ok (options.give override.change) := by
  obtain ⟨change, text, written⟩ := override
  cases change with
  | dataHost host | commandHost host | devicePath path =>
    cases written
    rfl
  | dataPort port | commandPort port =>
    have read := number_of_readNat? written (Nat.le_of_lt_succ port.toNat_lt) (by decide)
    simp only [Override.opt, Change.field, Field.opt, setValue, read, bind, Except.bind, UInt16.ofNat_toNat]
    rfl
  | baudRate rate =>
    have read := number_of_readNat? written (Nat.le_of_lt_succ rate.toNat_lt) (by decide)
    simp only [Override.opt, Change.field, Field.opt, setValue, read, bind, Except.bind, UInt32.ofNat_toNat]
    rfl

theorem longArgument_override (override : Override) (idle : scan.pending = none) (fresh : override.opt ∉ scan.seen) :
    scan.longArgument (override.opt.long.toList ++ '=' :: override.text.toList) =
      .ok ⟨scan.options.give override.change, override.opt :: scan.seen, none⟩ := by
  have plain : ∀ c ∈ override.opt.long.toList, decide (c ≠ '=') = true := fun c member =>
    decide_eq_true (ne_of_mem_of_not_mem member override.opt.equals_notMem_long)
  have settled : scan.settle = .ok scan := by rw [settle, idle]
  calc
    _ = scan.attached override.opt override.text := by
      rw [longArgument, List.takeWhile_append_of_pos plain, List.dropWhile_append_of_pos plain]
      simp [Opt.ofLong?_long, override.takesValue_opt]
    _ = scan.commit override.opt override.text := by rw [attached, settled]; rfl
    _ = _ := by rw [commit, if_neg fresh, setValue_override]; rfl

theorem arguments_cons {argument : String} {name : List Char} (shape : argument.toList = '-' :: '-' :: name)
    (named : name ≠ []) (rest : List String) (scan : Scan) :
    scan.arguments (argument :: rest) = (scan.longArgument name).bind (arguments rest) := by
  obtain ⟨c, more, rfl⟩ := List.exists_cons_of_ne_nil named
  rw [arguments.eq_def]
  dsimp only
  rw [shape]
  rfl

/-- A line of arguments for different fields is read to its end, and sets one after another. -/
theorem arguments_overrides {given : List Override} (once : (given.map (·.change.field)).Nodup)
    (idle : scan.pending = none) (fresh : ∀ override ∈ given, override.opt ∉ scan.seen) :
    (scan.arguments (given.map Override.argument)).map Scan.options =
      .ok (scan.options.giveAll (given.map Override.change)) := by
  induction given generalizing scan with
  | nil =>
    change scan.settle.map Scan.options = _
    rw [settle, idle]
    rfl
  | cons override rest ih =>
    obtain ⟨isFresh, freshRest⟩ := List.forall_mem_cons.mp fresh
    obtain ⟨apart, onceRest⟩ := List.nodup_cons.mp once
    have stillFresh : ∀ later ∈ rest, later.opt ∉ override.opt :: scan.seen := by
      intro later member
      refine List.not_mem_cons_of_ne_of_not_mem (fun same => ?_) (freshRest later member)
      exact apart (List.mem_map.mpr ⟨later, member, Field.opt_injective same⟩)
    rw [List.map_cons, arguments_cons override.toList_argument (by simp), longArgument_override override idle isFresh]
    exact ih onceRest rfl stillFresh

end Scan

theorem Options.parse_overrides {given : List Override} (once : (given.map (·.change.field)).Nodup) :
    parse (given.map Override.argument) = .ok (default.giveAll (given.map Override.change)) :=
  Scan.arguments_overrides once rfl fun _ _ => List.not_mem_nil

end InstrumentLink
