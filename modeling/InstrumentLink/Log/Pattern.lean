import InstrumentLink.Text.Alphanumeric
import InstrumentLink.Text.Digits

/-!
Which texts are patterns for the value of a field: regular expressions with groups, classes, escapes and flags. There
are no tables of the letters of all scripts behind them, so a pattern that needs one is refused. No pattern holds a
closing brace, as that would end the field; so an opening one is always an error.
-/

namespace InstrumentLink
namespace Pattern

structure Mode where
  ignoreCase : Bool
  unicode : Bool
  deriving DecidableEq, Repr

/-- Letters in either case need a table, so no character may stand for itself. -/
def Mode.allowsCharacters (mode : Mode) : Bool := !(mode.ignoreCase && mode.unicode)

inductive Escape where
  | character (c : Char)
  | property
  | position
  deriving DecidableEq, Repr

def controls : List (Char × Char) :=
  [('a', '\x07'), ('f', '\x0c'), ('n', '\n'), ('r', '\r'), ('t', '\t'), ('v', '\x0b')]

def readCode? (count : Nat) (text : List Char) : Option (Escape × List Char) := do
  let code ← readNat? 16 (text.take count)
  if (text.take count).length = count && code.isValidChar then some (.character (.ofNat code), text.drop count)
  else none

def readEscape? (mode : Mode) : List Char → Option (Escape × List Char)
  | [] => none
  | c :: rest =>
    if c = 'x' then readCode? 2 rest
    else if c = 'u' then readCode? 4 rest
    else if c = 'U' then readCode? 8 rest
    else if c = 'A' || c = 'z' then some (.position, rest)
    else if c = 'b' || c = 'B' || c = '<' || c = '>' then if mode.unicode then none else some (.position, rest)
    else if c = 'd' || c = 's' || c = 'w' then if mode.unicode then none else some (.property, rest)
    else
      match controls.lookup c with
      | some control => some (.character control, rest)
      | none => if c.isAlphanum || 0x80 ≤ c.toNat then none else some (.character c, rest)

structure Flags where
  seen : List Char
  negated : Bool
  mode : Mode

def flagLetters : List Char := ['i', 'm', 's', 'U', 'u', 'R', 'x']

def Flags.set? (flags : Flags) (c : Char) : Option Flags :=
  if !(flagLetters.contains c) || flags.seen.contains c then none
  else
    let mode := if c = 'i' then { flags.mode with ignoreCase := !flags.negated }
      else if c = 'u' then { flags.mode with unicode := !flags.negated }
      else flags.mode
    some ⟨c :: flags.seen, flags.negated, mode⟩

/-- Flags up to the character that ends them. A minus sign clears the flags behind it, of which there is one at
least. -/
def readFlags? (flags : Flags) : List Char → Option (Flags × List Char)
  | [] => none
  | '-' :: c :: rest => do
    if flags.negated then none
    else readFlags? (← Flags.set? { flags with negated := true } c) rest
  | c :: rest => do
    if c = ':' || c = ')' then some (flags, c :: rest)
    else readFlags? (← flags.set? c) rest

inductive Opening where
  | group (name : Option String) (mode : Mode)
  /-- Flags for the rest of the group that they stand in. -/
  | flags (mode : Mode)

def isNameStart (c : Char) : Bool := c = '_' || (isAlphanumeric c && !c.isDigit)

def isNamePart (c : Char) : Bool :=
  c = '_' || c = '.' || c = '[' || c = ']' || isAlphanumeric c

def readName? (text : List Char) : Option (String × List Char) :=
  let name := text.takeWhile (· ≠ '>')
  match text.dropWhile (· ≠ '>') with
  | _ :: rest =>
    if name.head?.any isNameStart && name.all isNamePart then some (String.ofList name, rest) else none
  | [] => none

def readOpening? (mode : Mode) : List Char → Option (Opening × List Char)
  | '?' :: 'P' :: '<' :: rest | '?' :: '<' :: rest => do
    let (name, rest) ← readName? rest
    return (.group name mode, rest)
  | '?' :: rest => do
    match ← readFlags? ⟨[], false, mode⟩ rest with
    | (flags, ':' :: rest) => some (.group none flags.mode, rest)
    | (flags, _ :: rest) => if flags.seen.isEmpty then none else some (.flags flags.mode, rest)
    | (_, []) => none
  | rest => some (.group none mode, rest)

def readMember? (mode : Mode) : List Char → Option (Escape × List Char)
  | [] => none
  | '\\' :: rest => readEscape? mode rest
  | c :: rest => some (.character c, rest)

def readMembers? (mode : Mode) (text : List Char) : Option (List Char) := do
  match ← readMember? mode text with
  | (.position, _) => none
  | (first, rest) =>
    match rest with
    | '-' :: ']' :: _ | '-' :: '-' :: _ => some rest
    | '-' :: behind =>
      match first, ← readMember? mode behind with
      | .character low, (.character high, rest) => if low ≤ high then some rest else none
      | _, _ => none
    | _ => some rest

def openClass? (mode : Mode) (text : List Char) : Option (List Char) :=
  let inner := if text.head? = some '^' then text.drop 1 else text
  if text.head? = some '^' && !mode.unicode then none
  else if inner.head? = some ']' then some (inner.drop 1)
  else some (inner.dropWhile (· = '-'))

def classNames : List String :=
  ["alnum", "alpha", "ascii", "blank", "cntrl", "digit", "graph", "lower", "print", "punct", "space", "upper",
    "word", "xdigit"]

def readNamedClass? : List Char → Option (List Char)
  | '[' :: ':' :: rest =>
    let text := if rest.head? = some '^' then rest.drop 1 else rest
    match text.dropWhile (· ≠ ':') with
    | ':' :: ']' :: behind =>
      if classNames.contains (String.ofList (text.takeWhile (· ≠ ':'))) then some behind else none
    | _ => none
  | _ => none

/-- Follows classes within one another to the end of the outermost. The first number bounds the steps, the second
counts the classes that are open. -/
def closeClass? (mode : Mode) : Nat → Nat → List Char → Option (List Char)
  | 0, _, _ => none
  | _, _, [] => none
  | _ + 1, 0, text => some text
  | steps + 1, depth + 1, text => do
    match readNamedClass? text with
    | some rest => closeClass? mode steps (depth + 1) rest
    | none =>
      match text with
      | '[' :: rest => closeClass? mode steps (depth + 2) (← openClass? mode rest)
      | ']' :: rest => if depth = 0 then some rest else closeClass? mode steps depth rest
      | '&' :: '&' :: rest | '-' :: '-' :: rest | '~' :: '~' :: rest => closeClass? mode steps (depth + 1) rest
      | _ => closeClass? mode steps (depth + 1) (← readMembers? mode text)

structure Reading where
  mode : Mode
  /-- The modes of the groups around, innermost first. -/
  around : List Mode
  names : List String
  /-- Whether something has come that a repetition can repeat. -/
  ready : Bool

def Reading.start : Reading := ⟨⟨false, true⟩, [], [], false⟩

def Reading.open? (reading : Reading) : Opening → Option Reading
  | .flags mode => some { reading with mode, ready := false }
  | .group name mode =>
    if name.any reading.names.contains then none
    else some ⟨mode, reading.mode :: reading.around, name.toList ++ reading.names, false⟩

def step? (reading : Reading) : List Char → Option (Reading × List Char)
  | [] => none
  | c :: rest => do
    let { mode, .. } := reading
    let done := { reading with ready := true }
    match c with
    | '(' =>
      let (opening, rest) ← readOpening? mode rest
      return (← reading.open? opening, rest)
    | ')' =>
      match reading.around with
      | [] => none
      | outer :: around => return ({ done with mode := outer, around }, rest)
    | '|' => return ({ reading with ready := false }, rest)
    | '*' | '+' | '?' =>
      if reading.ready then return (done, if rest.head? = some '?' then rest.drop 1 else rest) else none
    | '\x7b' => none
    | '[' =>
      if mode.allowsCharacters then return (done, ← closeClass? mode (rest.length + 1) 1 (← openClass? mode rest))
      else none
    | '\\' =>
      match ← readEscape? mode rest with
      | (.character _, rest) => if mode.allowsCharacters then return (done, rest) else none
      | (_, rest) => return (done, rest)
    | '.' => if mode.unicode then return (done, rest) else none
    | '^' | '$' => return (done, rest)
    | _ => if mode.allowsCharacters then return (done, rest) else none

def finishes : Nat → Reading → List Char → Bool
  | _, reading, [] => reading.around.isEmpty
  | 0, _, _ => false
  | steps + 1, reading, text =>
    match step? reading text with
    | some (reading, rest) => finishes steps reading rest
    | none => false

end Pattern

def isPattern (text : List Char) : Bool := Pattern.finishes text.length .start text

/-- A number with a fraction or an exponent if need be, or one that is none or has no end. -/
def isDecimal (text : List Char) : Bool :=
  let whole := text.takeWhile Char.isDigit
  let (fraction, behind) := match text.dropWhile Char.isDigit with
    | '.' :: rest => (rest.takeWhile Char.isDigit, rest.dropWhile Char.isDigit)
    | rest => ([], rest)
  let exponent := match behind with
    | [] => true
    | e :: '+' :: digits | e :: '-' :: digits => e.toLower = 'e' && !digits.isEmpty && digits.all Char.isDigit
    | e :: digits => e.toLower = 'e' && !digits.isEmpty && digits.all Char.isDigit
  (!(whole ++ fraction).isEmpty && exponent) ||
    ["inf", "infinity", "nan"].contains (String.ofList (text.map Char.toLower))

/-- What a field may be compared with: a pattern, or a number that has a sign and so is none. -/
def isFieldValue (text : List Char) : Bool :=
  isPattern text ||
    match text with
    | '+' :: number => isDecimal number
    | _ => false

end InstrumentLink
