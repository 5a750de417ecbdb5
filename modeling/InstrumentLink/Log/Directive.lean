import InstrumentLink.Log.Pattern
import InstrumentLink.Log.Threshold
import InstrumentLink.Text.Blank

/-!
One part of a log filter: which entries it is for, and how much of them it lets through. It is written as a level, or
as a path, a span with a field, and a level, each of which may be missing.
-/

namespace InstrumentLink

structure WantedField where
  name : String
  /-- Whether it has to have a certain value as well. -/
  valued : Bool
  deriving DecidableEq, Repr

def WantedField.read? (text : String) : Option WantedField :=
  match text.toList.splitOn '=' with
  | [] => none
  | [name] => if name.isEmpty then none else some ⟨String.ofList name, false⟩
  | name :: value :: _ => if isFieldValue value then some ⟨String.ofList name, true⟩ else none

structure Directive where
  /-- How the path of an entry has to begin. -/
  path : Option String
  span : Option String
  field : Option WantedField
  threshold : Threshold
  deriving DecidableEq, Repr

namespace Directive

def ofThreshold (threshold : Threshold) : Directive := ⟨none, none, none, threshold⟩

def messageField : WantedField := ⟨"message", false⟩

/-- No entry is made inside a span, and the values of fields are looked at in spans alone. -/
def fits (directive : Directive) (entry : LogEntry) : Bool :=
  directive.span.isNone && directive.field.all (· = messageField) &&
    directive.path.all fun path => path.toList.isPrefixOf entry.origin.path.toList

/-- How much a directive asks of an entry. A longer path asks more, whatever the field. -/
def specificity (directive : Directive) : Nat :=
  2 * (directive.path.elim 0 fun path => path.utf8ByteSize + 1) + (if directive.field.isSome then 1 else 0)

/-- What is being read, with the byte of the text at which it begins. -/
inductive Part where
  | start
  | name (first : Nat)
  | span (first : Nat)
  | field (first : Nat)
  | fieldEnd
  | spanEnd
  | level (first : Nat)
  deriving DecidableEq, Repr

def stretch? (text : String) (first last : Nat) : Option String :=
  String.fromUTF8? (text.toUTF8.extract first last)

def rest? (text : String) (first : Nat) : Option String := stretch? text first text.utf8ByteSize

def startsName (c : Char) : Bool := isAlphanumeric c || c = '-' || c = ':' || c = '_'

def step? (text : String) (read : Part × Directive) (place : Nat × Char) : Option (Part × Directive) :=
  let (byte, c) := place
  let (part, directive) := read
  match part with
  | .start =>
    if c = '[' then some (.span (byte + 1), directive)
    else if startsName c then some (.name byte, directive)
    else none
  | .name first =>
    if c = '=' then do return (.level (byte + 1), { directive with path := ← stretch? text first byte })
    else if c = '[' then do return (.span (byte + 1), { directive with path := ← stretch? text first byte })
    else some read
  | .span first =>
    if c = ']' then do return (.spanEnd, { directive with span := ← stretch? text first byte })
    else if c = '\x7b' then do
      let name ← stretch? text first byte
      return (.field (byte + 1), if name = "" then directive else { directive with span := name })
    else some read
  | .field first =>
    if c = '\x7d' then do
      return (.fieldEnd, { directive with field := ← (stretch? text first byte).bind WantedField.read? })
    else some read
  | .fieldEnd => if c = ']' then some (.spanEnd, directive) else none
  | .spanEnd => if c = '=' then some (.level (byte + 1), directive) else none
  | .level _ => some read

/-- A name alone is a level if there is one of that name, and else a path. -/
def ofName (name : String) : Directive :=
  match Threshold.ofText? name with
  | some threshold => ofThreshold threshold
  | none => ⟨some name, none, none, .everything⟩

def finish? (text : String) : Part × Directive → Option Directive
  | (.name first, _) => (rest? text first).map ofName
  | (.level first, directive) => do
    let level ← rest? text first
    if level = "" then return directive
    else return { directive with threshold := ← Threshold.ofText? level }
  | (.spanEnd, directive) => some directive
  | _ => none

def places : Nat → List Char → List (Nat × Char)
  | _, [] => []
  | start, c :: rest => (start, c) :: places (start + c.utf8Size) rest

/-- Reads a directive. Blanks around it do not count for its form, but the names in it are taken at the same bytes
from the text with its blanks; so a text with blanks in front rarely means what stands there. -/
def read? (text : String) : Option Directive := do
  finish? text (← (places 0 (trimBlanks text.toList)).foldlM (step? text) (.start, ofThreshold .everything))

end Directive
end InstrumentLink
