import InstrumentLink.Toml.Value

/-!
Writing strings for a TOML text. Of the four kinds of quotes a string gets the first that shows it as it is:
double quotes, single quotes, and then three of either; what no quotes can show is written with backslashes.
-/

namespace InstrumentLink.Toml

inductive Quotes where
  | basic
  | literal
  | multilineBasic
  | multilineLiteral
  deriving DecidableEq, Repr

def longestRun (c : Char) (text : List Char) : Nat :=
  (text.foldl (fun (longest, run) d =>
    let run := if d = c then run + 1 else 0
    (max longest run, run)) (0, 0)).1

/-- A character that can only be written by its number: a control character but the tab and the line feed. -/
def needsCode (c : Char) : Bool :=
  (c.toNat < 0x20 && c ≠ '\t' && c ≠ '\n') || c.toNat = 0x7f

def Quotes.forText (text : List Char) : Quotes :=
  let coded := text.any needsCode
  let newline := text.contains '\n'
  let backslash := text.contains '\\'
  let doubles := longestRun '"' text
  let singles := longestRun '\x27' text
  if !coded && !backslash && doubles = 0 && !newline then basic
  else if !coded && singles = 0 && !newline then literal
  else if !coded && !backslash && doubles ≤ 2 then multilineBasic
  else if !coded && singles ≤ 2 then multilineLiteral
  else if newline then multilineBasic
  else basic

def fourDigits (n : Nat) : List Char :=
  let digits := (Nat.toDigits 16 n).map Char.toUpper
  List.replicate (4 - digits.length) '0' ++ digits

def written (multiline : Bool) (c : Char) : List Char :=
  match c with
  | '\\' => ['\\', '\\']
  | '\x08' => ['\\', 'b']
  | '\t' => ['\\', 't']
  | '\x0c' => ['\\', 'f']
  | '\r' => ['\\', 'r']
  | '\n' => if multiline then ['\n'] else ['\\', 'n']
  | c => if needsCode c then '\\' :: 'u' :: fourDigits c.toNat else [c]

/-- A text between double quotes. So many quotes in a row may stand for themselves; the next one gets a
backslash. -/
def writtenFrom (multiline : Bool) (allowed : Nat) : Nat → List Char → List Char
  | _, [] => []
  | run, '"' :: rest =>
    if run < allowed then '"' :: writtenFrom multiline allowed (run + 1) rest
    else '\\' :: '"' :: writtenFrom multiline allowed 0 rest
  | _, c :: rest => written multiline c ++ writtenFrom multiline allowed 0 rest

/-- Three quotes are followed by a line feed if the text has one, so that its lines stand together. -/
def opening (quote : Char) (text : List Char) : List Char :=
  List.replicate 3 quote ++ if text.contains '\n' then ['\n'] else []

def stringChars (text : List Char) : List Char :=
  match Quotes.forText text with
  | .basic => '"' :: (writtenFrom false 0 0 text ++ ['"'])
  | .literal => '\x27' :: (text ++ ['\x27'])
  | .multilineBasic => opening '"' text ++ writtenFrom true 2 0 text ++ List.replicate 3 '"'
  | .multilineLiteral => opening '\x27' text ++ text ++ List.replicate 3 '\x27'

def stringText (text : String) : String := String.ofList (stringChars text.toList)

end InstrumentLink.Toml
