/-!
Numbers written in digits of a base. `readNat?` reads what `Nat.toDigits` writes, and also digits of the other
letter case and leading zeros.
-/

namespace InstrumentLink

def digitValue? (base : Nat) (c : Char) : Option Nat :=
  let value :=
    if c.isDigit then c.toNat - '0'.toNat
    else if 'a' ≤ c ∧ c ≤ 'z' then c.toNat - 'a'.toNat + 10
    else if 'A' ≤ c ∧ c ≤ 'Z' then c.toNat - 'A'.toNat + 10
    else base
  if value < base then some value else none

def isDigit (base : Nat) (c : Char) : Bool :=
  (digitValue? base c).isSome

def readDigits? (base : Nat) (start : Nat) (text : List Char) : Option Nat :=
  text.foldlM (fun n c => (digitValue? base c).map (base * n + ·)) start

def readNat? (base : Nat) (text : List Char) : Option Nat :=
  if text.isEmpty then none else readDigits? base 0 text

/-- As `readNat?`, for numbers up to a limit. -/
def readNatUpTo? (base limit : Nat) (text : List Char) : Option Nat :=
  (readNat? base text).filter (· ≤ limit)

end InstrumentLink
