import InstrumentLink.Options.Basic
import InstrumentLink.Text.Digits
import InstrumentLink.Text.Plain

/-!
Reading the command line. An option that takes a value has it behind an equals sign or in the next argument; a
value of its own is looked at only when the next option comes or the line ends, so that an argument that nobody
knows is told first.
-/

namespace InstrumentLink

inductive NumberError where
  | empty
  | invalidDigit
  | tooLarge
  | tooSmall
  /-- A number, but not one up to the limit. -/
  | outOfRange (n : Int) (limit : Nat)
  deriving DecidableEq, Repr

def NumberError.message : NumberError → String
  | empty => "cannot parse integer from empty string"
  | invalidDigit => "invalid digit found in string"
  | tooLarge => "number too large to fit in target type"
  | tooSmall => "number too small to fit in target type"
  | outOfRange n limit => toString n ++ " is not in 0..=" ++ toString limit

def readSigned (negative : Bool) : Nat → List Char → Except NumberError Int
  | n, [] => .ok (if negative then -n else n)
  | n, c :: rest =>
    if !c.isDigit then .error .invalidDigit
    else
      let next := 10 * n + (c.toNat - '0'.toNat)
      if negative then
        if 2 ^ 63 < next then .error .tooSmall else readSigned negative next rest
      else if 2 ^ 63 ≤ next then .error .tooLarge
      else readSigned negative next rest

/-- A number in decimal with a sign if need be, from 0 up to a limit. -/
def readUpTo (limit : Nat) (text : List Char) : Except NumberError Nat := do
  let n ← match text with
    | [] => .error .empty
    | ['+'] | ['-'] => .error .invalidDigit
    | '+' :: digits => readSigned false 0 digits
    | '-' :: digits => readSigned true 0 digits
    | digits => readSigned false 0 digits
  if 0 ≤ n ∧ n ≤ limit then .ok n.toNat else .error (.outOfRange n limit)

inductive OptionError where
  | unknown (argument : String)
  | repeated (opt : Opt)
  | valueMissing (opt : Opt)
  | valueNotTaken (opt : Opt) (value : String)
  | badNumber (opt : Opt) (value : String) (reason : NumberError)
  deriving DecidableEq, Repr

/-- What was given is told as a screen shows it. -/
def OptionError.message : OptionError → String
  | unknown argument => "error: unexpected argument '" ++ plainText argument ++ "' found"
  | repeated opt => "error: the argument '" ++ opt.shown ++ "' cannot be used multiple times"
  | valueMissing opt => "error: a value is required for '" ++ opt.shown ++ "' but none was supplied"
  | valueNotTaken opt value =>
    "error: unexpected value '" ++ plainText value ++ "' for '" ++ opt.shown ++ "' found; no more were expected"
  | badNumber opt value reason =>
    "error: invalid value '" ++ plainText value ++ "' for '" ++ opt.shown ++ "': " ++ reason.message

inductive Halt where
  | help
  | version
  | wrong (error : OptionError)
  deriving DecidableEq, Repr

structure Scan where
  options : Options
  /-- The options that have been set. -/
  seen : List Opt
  /-- An option that takes a value, with its value once it has come. -/
  pending : Option (Opt × Option String)
  deriving Repr

namespace Scan

def start : Scan := ⟨.default, [], none⟩

def number (limit : Nat) (opt : Opt) (value : String) : Except Halt Nat :=
  match readUpTo limit value.toList with
  | .ok n => .ok n
  | .error reason => .error (.wrong (.badNumber opt value reason))

/-- What an option with its value sets. Only a file has to have a name. -/
def setValue (opt : Opt) (value : String) (options : Options) : Except Halt Options :=
  match opt with
  | .config =>
    if value = "" then .error (.wrong (.valueMissing .config)) else .ok { options with config := value }
  | .dataHost => .ok { options with dataHost := some value }
  | .dataPort => return { options with dataPort := some (.ofNat (← number 65535 opt value)) }
  | .commandHost => .ok { options with commandHost := some value }
  | .commandPort => return { options with commandPort := some (.ofNat (← number 65535 opt value)) }
  | .device => .ok { options with device := some value }
  | .baudRate => return { options with baudRate := some (.ofNat (← number 4294967295 opt value)) }
  | _ => .ok options

def commit (opt : Opt) (value : String) (scan : Scan) : Except Halt Scan := do
  if opt ∈ scan.seen then throw (.wrong (.repeated opt))
  return ⟨← setValue opt value scan.options, opt :: scan.seen, none⟩

def settle (scan : Scan) : Except Halt Scan :=
  match scan.pending with
  | none => .ok scan
  | some (opt, none) => .error (.wrong (.valueMissing opt))
  | some (opt, some value) => scan.commit opt value

def setFlag (opt : Opt) (options : Options) : Options :=
  match opt with
  | .verbose => { options with verbose := true }
  | .once => { options with once := true }
  | _ => options

def flag (opt : Opt) (scan : Scan) : Except Halt Scan := do
  let scan ← scan.settle
  match opt with
  | .help => .error .help
  | .version => .error .version
  | _ =>
    if opt ∈ scan.seen then .error (.wrong (.repeated opt))
    else return { scan with options := setFlag opt scan.options, seen := opt :: scan.seen }

def attached (opt : Opt) (value : String) (scan : Scan) : Except Halt Scan := do
  (← scan.settle).commit opt value

def await (opt : Opt) (scan : Scan) : Except Halt Scan := do
  return { ← scan.settle with pending := some (opt, none) }

def longArgument (text : List Char) (scan : Scan) : Except Halt Scan :=
  let name := String.ofList (text.takeWhile (· ≠ '='))
  let value := match text.dropWhile (· ≠ '=') with
    | [] => none
    | _ :: value => some (String.ofList value)
  match Opt.ofLong? name with
  | none => .error (.wrong (.unknown ("--" ++ name)))
  | some opt =>
    match opt.takesValue, value with
    | true, some value => scan.attached opt value
    | true, none => scan.await opt
    | false, some value => .error (.wrong (.valueNotTaken opt value))
    | false, none => scan.flag opt

/-- An argument with one dash: letters, of which one that takes a value takes the rest. -/
def shortArgument : List Char → Scan → Except Halt Scan
  | [], scan => .ok scan
  | letter :: rest, scan =>
    match Opt.ofShort? letter with
    | none => .error (.wrong (.unknown (String.ofList ['-', letter])))
    | some opt =>
      if opt.takesValue then
        match rest with
        | [] => scan.await opt
        | '=' :: value => scan.attached opt (String.ofList value)
        | value => scan.attached opt (String.ofList value)
      else do
        shortArgument rest (← scan.flag opt)

def plainArgument (argument : String) (scan : Scan) : Except Halt Scan :=
  match scan.pending with
  | some (opt, none) => .ok { scan with pending := some (opt, some argument) }
  | _ => .error (.wrong (.unknown argument))

/-- Behind two dashes alone no option is known any more, and so nothing may follow. -/
def arguments : List String → Scan → Except Halt Scan
  | [], scan => scan.settle
  | argument :: rest, scan =>
    match argument.toList with
    | ['-', '-'] =>
      match rest with
      | [] => scan.settle
      | next :: _ => .error (.wrong (.unknown next))
    | '-' :: '-' :: text => do arguments rest (← scan.longArgument text)
    | '-' :: letter :: text => do arguments rest (← scan.shortArgument (letter :: text))
    | _ => do arguments rest (← scan.plainArgument argument)

end Scan

def Options.parse (arguments : List String) : Except Halt Options :=
  (Scan.start.arguments arguments).map Scan.options

end InstrumentLink
