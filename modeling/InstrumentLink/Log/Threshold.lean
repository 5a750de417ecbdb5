import InstrumentLink.Log.Entry

/-!
How much of the log is let through: nothing, or everything up to a level.
-/

namespace InstrumentLink

/-- The number counts levels, errors first. -/
structure Threshold where
  rank : Nat
  deriving DecidableEq, Repr

namespace Threshold

def off : Threshold := ⟨0⟩
def errors : Threshold := ⟨1⟩
def warnings : Threshold := ⟨2⟩
def infos : Threshold := ⟨3⟩
def debugs : Threshold := ⟨4⟩
def everything : Threshold := ⟨5⟩

def names : List (String × Threshold) :=
  [("off", off), ("error", errors), ("warn", warnings), ("info", infos), ("debug", debugs),
    ("trace", everything)]

def ofDigits? (text : List Char) : Option Threshold :=
  let digits := match text with
    | '+' :: rest => rest
    | _ => text
  if digits.isEmpty || !digits.all Char.isDigit then none
  else
    let rank := digits.foldl (fun n c => 10 * n + (c.toNat - '0'.toNat)) 0
    if rank ≤ 5 then some ⟨rank⟩ else none

def ofText? (text : String) : Option Threshold :=
  (ofDigits? text.toList).or (names.lookup text.toLower)

def allows (threshold : Threshold) : Level → Bool
  | .warn => 2 ≤ threshold.rank
  | .info => 3 ≤ threshold.rank
  | .debug => 4 ≤ threshold.rank

end Threshold
end InstrumentLink
