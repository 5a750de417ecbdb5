import InstrumentLink.Address.IPv4

/-!
IPv6 addresses: eight groups of sixteen bits, written in hexadecimal between colons. The first of the longest
runs of two or more zero groups is written as `::`, and an address that stands for an IPv4 address ends in that.
`IPv6.read?` also takes other spellings of the same groups.
-/

namespace InstrumentLink

structure IPv6 where
  groups : List UInt16
  length_eq : groups.length = 8
  deriving DecidableEq, Repr

namespace IPv6

def any : IPv6 := ⟨List.replicate 8 0, rfl⟩

def localhost : IPv6 := ⟨[0, 0, 0, 0, 0, 0, 0, 1], rfl⟩

def ofGroups? (groups : List UInt16) : Option IPv6 :=
  if h : groups.length = 8 then some ⟨groups, h⟩ else none

def groupsOf (ip : IPv4) : List UInt16 :=
  [.ofNat (ip.a.toNat * 256 + ip.b.toNat), .ofNat (ip.c.toNat * 256 + ip.d.toNat)]

def embedded (high low : UInt16) : IPv4 :=
  ⟨.ofNat (high.toNat / 256), .ofNat high.toNat, .ofNat (low.toNat / 256), .ofNat low.toNat⟩

/-- The IPv4 address that an address stands for. -/
def mapped? (ip : IPv6) : Option IPv4 :=
  match ip.groups with
  | [0, 0, 0, 0, 0, 0xffff, high, low] => some (embedded high low)
  | _ => none

def mapped (ip : IPv4) : IPv6 := ⟨[0, 0, 0, 0, 0, 0xffff] ++ groupsOf ip, rfl⟩

def zerosFrom (groups : List UInt16) (start : Nat) : Nat :=
  ((groups.drop start).takeWhile (· = 0)).length

/-- Start and length of the first of the longest runs of zero groups. -/
def longestZeros (groups : List UInt16) : Nat × Nat :=
  (List.range groups.length).foldl
    (fun best start => if best.2 < zerosFrom groups start then (start, zerosFrom groups start) else best)
    (0, 0)

def groupText (group : UInt16) : List Char := Nat.toDigits 16 group.toNat

def joined (groups : List UInt16) : List Char :=
  [':'].intercalate (groups.map groupText)

def chars (ip : IPv6) : List Char :=
  match ip.mapped? with
  | some inner => "::ffff:".toList ++ inner.chars
  | none =>
    let (start, length) := longestZeros ip.groups
    if 1 < length then
      joined (ip.groups.take start) ++ "::".toList ++ joined (ip.groups.drop (start + length))
    else joined ip.groups

def text (ip : IPv6) : String := String.ofList ip.chars

def readGroup? (text : List Char) : Option UInt16 :=
  if text.length ≤ 4 then (readNat? 16 text).map .ofNat else none

def readPlain? (fields : List (List Char)) : Option (List UInt16) :=
  fields.mapM readGroup?

def readMixed? : List (List Char) → Option (List UInt16)
  | [] => some []
  | [last] => ((IPv4.read? last).map groupsOf).or ((readGroup? last).map ([·]))
  | field :: rest => do return (← readGroup? field) :: (← readMixed? rest)

def fields (text : List Char) : List (List Char) :=
  if text.isEmpty then [] else text.splitOn ':'

def cut : List Char → Option (List Char × List Char)
  | ':' :: ':' :: rest => some ([], rest)
  | c :: rest => (cut rest).map fun (front, back) => (c :: front, back)
  | [] => none

/-- Either eight groups, or fewer than eight around a `::`. -/
def read? (text : List Char) : Option IPv6 :=
  match cut text with
  | none => (readMixed? (fields text)).bind ofGroups?
  | some (front, back) => do
    let front ← readPlain? (fields front)
    let back ← readMixed? (fields back)
    if front.length + back.length < 8 then
      ofGroups? (front ++ List.replicate (8 - front.length - back.length) 0 ++ back)
    else none

/-- Good on one link only, or for groups within one machine or on one link, so that a link is named with it. -/
def isLinkLocal (ip : IPv6) : Bool :=
  match ip.groups with
  | first :: _ => first &&& 0xffc0 = 0xfe80 || first &&& 0xff0f = 0xff01 || first &&& 0xff0f = 0xff02
  | [] => false

end IPv6
end InstrumentLink
