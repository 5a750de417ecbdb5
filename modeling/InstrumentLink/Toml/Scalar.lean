import InstrumentLink.Toml.Value
import InstrumentLink.Toml.Lexical

/-!
Numbers, truth values, dates and times of TOML. All of them are made of letters, digits, signs, points and colons,
so that one is read by taking as many of these characters as there are and asking what they are together; only a
date and a time may also have a blank between them.
-/

namespace InstrumentLink.Toml

def isScalarChar (c : Char) : Bool :=
  c.isAlphanum || c = '+' || c = '-' || c = '_' || c = '.' || c = ':'

/-- Some digits, each underscore of them between two digits, without the underscores. -/
def spacedDigits? (base : Nat) (text : List Char) : Option (List Char) :=
  let groups := text.splitOn '_'
  if groups.all fun group => !group.isEmpty && group.all (isDigit base) then some groups.flatten else none

def wholeDigits? (text : List Char) : Option (List Char) :=
  match text with
  | '0' :: _ :: _ => none
  | _ => spacedDigits? 10 text

def splitSign : List Char → Bool × List Char
  | '+' :: rest => (false, rest)
  | '-' :: rest => (true, rest)
  | text => (false, text)

def signed (negative : Bool) (n : Nat) : Int := if negative then -n else n

def inRange? (n : Int) : Option Int :=
  if -0x8000000000000000 ≤ n ∧ n < 0x8000000000000000 then some n else none

def integer? : List Char → Option Int
  | '0' :: 'x' :: digits => ((spacedDigits? 16 digits).bind (readNat? 16)).bind fun n => inRange? n
  | '0' :: 'o' :: digits => ((spacedDigits? 8 digits).bind (readNat? 8)).bind fun n => inRange? n
  | '0' :: 'b' :: digits => ((spacedDigits? 2 digits).bind (readNat? 2)).bind fun n => inRange? n
  | text =>
    let (negative, digits) := splitSign text
    ((wholeDigits? digits).bind (readNat? 10)).bind fun n => inRange? (signed negative n)

def exponent? (text : List Char) : Option Int :=
  let (negative, digits) := splitSign text
  ((spacedDigits? 10 digits).bind (readNat? 10)).map (signed negative)

def decimal? (negative : Bool) (text : List Char) : Option Binary64 := do
  let front := text.takeWhile fun c => c ≠ 'e' && c ≠ 'E'
  let power ← match text.dropWhile fun c => c ≠ 'e' && c ≠ 'E' with
    | [] => some 0
    | _ :: power => exponent? power
  let whole ← wholeDigits? (front.takeWhile (· ≠ '.'))
  match front.dropWhile (· ≠ '.') with
  | [] =>
    if front.length = text.length then none
    else return .ofDecimal negative (← readNat? 10 whole) power
  | _ :: places => do
    let places ← spacedDigits? 10 places
    return .ofDecimal negative (← readNat? 10 (whole ++ places)) (power - places.length)

/-- A number with a point or an exponent, or one of the three words. One that is too large is refused, unless
it is negative. -/
def float? (text : List Char) : Option Binary64 :=
  let (negative, magnitude) := splitSign text
  if magnitude = "inf".toList then some (.infinite negative)
  else if magnitude = "nan".toList then some .notANumber
  else (decimal? negative magnitude).filter (· ≠ .infinite false)

def fixedDigits? (count : Nat) (text : List Char) : Option Nat :=
  if text.length = count then readNat? 10 text else none

def isLeapYear (year : Nat) : Bool :=
  year % 4 = 0 && (year % 100 ≠ 0 || year % 400 = 0)

def daysIn (year month : Nat) : Nat :=
  if month = 2 then (if isLeapYear year then 29 else 28)
  else if month = 4 ∨ month = 6 ∨ month = 9 ∨ month = 11 then 30
  else 31

def isDate (text : List Char) : Bool :=
  match text.splitOn '-' with
  | [year, month, day] =>
    match fixedDigits? 4 year, fixedDigits? 2 month, fixedDigits? 2 day with
    | some year, some month, some day =>
      1 ≤ month && month ≤ 12 && 1 ≤ day && day ≤ daysIn year month
    | _, _, _ => false
  | _ => false

def isBelow (limit : Nat) (text : List Char) : Bool :=
  match fixedDigits? 2 text with
  | some n => n < limit
  | none => false

def isClock (text : List Char) : Bool :=
  match text.splitOn ':' with
  | [hours, minutes, seconds] =>
    let fraction := seconds.drop 2
    isBelow 24 hours && isBelow 60 minutes && isBelow 61 (seconds.take 2) &&
      (fraction.isEmpty || (fraction.head? = some '.' && 1 < fraction.length && (fraction.drop 1).all Char.isDigit))
  | _ => false

def isOffset : List Char → Bool
  | [] => true
  | ['Z'] | ['z'] => true
  | sign :: rest =>
    (sign = '+' || sign = '-') &&
      match rest.splitOn ':' with
      | [hours, minutes] => isBelow 24 hours && isBelow 60 minutes
      | _ => false

def isZonedClock (text : List Char) : Bool :=
  let startsOffset : Char → Bool := fun c => c = 'Z' || c = 'z' || c = '+' || c = '-'
  isClock (text.takeWhile (!startsOffset ·)) && isOffset (text.dropWhile (!startsOffset ·))

def isMoment (text : List Char) : Bool :=
  isDate text || isClock text ||
    (isDate (text.take 10) &&
      match text.drop 10 with
      | 'T' :: clock | 't' :: clock => isZonedClock clock
      | _ => false)

def scalarOf? (text : List Char) : Option Value :=
  if text = "true".toList then some (.boolean true)
  else if text = "false".toList then some (.boolean false)
  else if isMoment text then some .moment
  else ((float? text).map .float).or ((integer? text).map .integer)

def scalar? (text : List Char) : Read Value :=
  let token := text.takeWhile isScalarChar
  let rest := text.dropWhile isScalarChar
  match rest with
  | ' ' :: next =>
    if isDate token && isZonedClock (next.takeWhile isScalarChar) then
      some (.moment, next.dropWhile isScalarChar)
    else (scalarOf? token).map (·, rest)
  | _ => (scalarOf? token).map (·, rest)

end InstrumentLink.Toml
