/-!
What a screen shows of a text. An escape character begins a sequence that the screen takes for a command and does
not show; a sequence ends by its own rules, and wherever a new one begins.
-/

namespace InstrumentLink

inductive Sequence where
  | none
  | escape
  /-- An escape with a character that says more about the next one. -/
  | intermediate
  /-- Begins with a bracket, holds numbers and signs, and ends with a letter. -/
  | control
  /-- Ends with a bell. -/
  | command
  /-- Has no end of its own. -/
  | string
  deriving DecidableEq, Repr

namespace Sequence

/-- Tabs and line ends, which end most sequences and show. -/
def isBreak (c : Char) : Bool := c = '\t' || c = '\n' || c = '\x0c' || c = '\r'

def isGraphic (c : Char) : Bool := 0x20 ≤ c.toNat && c.toNat < 0x7f

def afterEscape (c : Char) : Sequence :=
  if c.toNat < 0x30 then intermediate
  else if c = '[' then control
  else if c = ']' then command
  else if c = 'P' || c = 'X' || c = '^' || c = '_' then string
  else none

def afterGraphic (c : Char) : Sequence → Sequence
  | none => none
  | escape => afterEscape c
  | intermediate => if c.toNat < 0x30 then intermediate else none
  | control => if c.toNat < 0x40 then control else none
  | command => command
  | string => string

def step (sequence : Sequence) (c : Char) : Sequence × List Char :=
  if c = '\x1b' then (escape, [])
  else if c = '\x18' || c = '\x1a' then (none, [])
  else if 0x80 ≤ c.toNat then (sequence, if sequence = none then [c] else [])
  else if isBreak c && sequence ≠ command && sequence ≠ string then (none, [c])
  else if isGraphic c then (sequence.afterGraphic c, if sequence = none then [c] else [])
  else (if sequence = command && c = '\x07' then none else sequence, [])

def shown : Sequence → List Char → List Char
  | _, [] => []
  | sequence, c :: rest => (sequence.step c).2 ++ (sequence.step c).1.shown rest

end Sequence

def plainText (text : String) : String :=
  String.ofList (Sequence.none.shown text.toList)

end InstrumentLink
