import InstrumentLink.Text.Digits

/-!
IPv4 addresses. There are two ways to read one: `IPv4.read?` takes four numbers in plain decimal, the form in
which `IPv4.text` writes, and `IPv4.readLoose?` also takes fewer numbers, the last filling what is left, and
numbers in octal or hexadecimal.
-/

namespace InstrumentLink

structure IPv4 where
  a : UInt8
  b : UInt8
  c : UInt8
  d : UInt8
  deriving DecidableEq, Repr

namespace IPv4

def any : IPv4 := ⟨0, 0, 0, 0⟩

def localhost : IPv4 := ⟨127, 0, 0, 1⟩

def isLoopback (ip : IPv4) : Bool := ip.a = 127

def toNat (ip : IPv4) : Nat :=
  ((ip.a.toNat * 256 + ip.b.toNat) * 256 + ip.c.toNat) * 256 + ip.d.toNat

def ofNat (n : Nat) : IPv4 :=
  ⟨.ofNat (n / 0x1000000), .ofNat (n / 0x10000), .ofNat (n / 0x100), .ofNat n⟩

def octetText (octet : UInt8) : List Char := Nat.toDigits 10 octet.toNat

def chars (ip : IPv4) : List Char :=
  octetText ip.a ++ '.' :: (octetText ip.b ++ '.' :: (octetText ip.c ++ '.' :: octetText ip.d))

def text (ip : IPv4) : String := String.ofList ip.chars

def readOctet? (text : List Char) : Option UInt8 :=
  if text.length ≤ 3 ∧ (text.head? ≠ some '0' ∨ text = ['0']) then
    (readNatUpTo? 10 255 text).map .ofNat
  else none

def read? (text : List Char) : Option IPv4 :=
  match text.splitOn '.' with
  | [a, b, c, d] => do return ⟨← readOctet? a, ← readOctet? b, ← readOctet? c, ← readOctet? d⟩
  | _ => none

/-- Decimal, octal behind a zero, hexadecimal behind a zero and an x; no more than 32 bits. -/
def readNumber? : List Char → Option Nat
  | '0' :: 'x' :: digits => readNatUpTo? 16 0xffffffff digits
  | '0' :: 'X' :: digits => readNatUpTo? 16 0xffffffff digits
  | '0' :: digits => readNatUpTo? 8 0xffffffff ('0' :: digits)
  | digits => readNatUpTo? 10 0xffffffff digits

def assemble? : List Nat → Option IPv4
  | [n] => if n < 0x100000000 then some (ofNat n) else none
  | [a, n] => if a < 0x100 ∧ n < 0x1000000 then some (ofNat (a * 0x1000000 + n)) else none
  | [a, b, n] =>
    if a < 0x100 ∧ b < 0x100 ∧ n < 0x10000 then some (ofNat (a * 0x1000000 + b * 0x10000 + n)) else none
  | [a, b, c, n] =>
    if a < 0x100 ∧ b < 0x100 ∧ c < 0x100 ∧ n < 0x100 then
      some (ofNat (a * 0x1000000 + b * 0x10000 + c * 0x100 + n))
    else none
  | _ => none

def readLoose? (text : List Char) : Option IPv4 :=
  ((text.splitOn '.').mapM readNumber?).bind assemble?

end IPv4
end InstrumentLink
