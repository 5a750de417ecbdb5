/-!
A serial device before and after the agent opens it. At first it is set up for somebody who types: what comes in is
echoed, and lines are edited. The first opening ends that for good; from then on bytes pass as they are.
-/

namespace InstrumentLink

structure Terminal where
  present : Bool
  /-- Set up for typing. -/
  typing : Bool
  /-- Bytes from the device that are not read yet. -/
  inbound : List UInt8
  /-- Bytes for the device that it has not taken yet. -/
  outbound : List UInt8
  deriving DecidableEq, Repr

namespace Terminal

def fresh : Terminal := ⟨true, true, [], []⟩

def newline : UInt8 := 0x0a

def endMark : UInt8 := 0

def isControl (byte : UInt8) : Bool := byte < 0x20 || byte = 0x7f

/-- How a byte is echoed: a control behind a caret, and a line end as it ends a line on a screen. -/
def echo (byte : UInt8) : List UInt8 :=
  if byte = newline then [0x0d, 0x0a]
  else if isControl byte && byte ≠ 0x09 then [0x5e, byte ^^^ 0x40]
  else [byte]

def wipe (byte : UInt8) : List UInt8 :=
  if isControl byte then [8, 32, 8, 8, 32, 8] else [8, 32, 8]

def typedLine (terminal : Terminal) : List UInt8 :=
  terminal.inbound.reverse.takeWhile fun byte => byte ≠ newline && byte ≠ endMark

def erase (count : Nat) (terminal : Terminal) : Terminal :=
  { terminal with
    inbound := terminal.inbound.take (terminal.inbound.length - count)
    outbound := terminal.outbound ++ (terminal.typedLine.take count).flatMap wipe }

def isWordByte (byte : UInt8) : Bool := (Char.ofNat byte.toNat).isAlphanum || byte = 0x5f

def lastWordLength (terminal : Terminal) : Nat :=
  let line := terminal.typedLine
  (line.takeWhile (!isWordByte ·)).length + ((line.dropWhile (!isWordByte ·)).takeWhile isWordByte).length

/-- A byte is typed. Some bytes act at once: on the line, as a signal that drops what has come and gone, or to hold
the echo. -/
def type (byte : UInt8) (terminal : Terminal) : Terminal :=
  if byte = 0x11 || byte = 0x13 then terminal
  else if byte = 0x03 || byte = 0x1a || byte = 0x1c then { terminal with inbound := [], outbound := echo byte }
  else if byte = 0x7f then terminal.erase (min 1 terminal.typedLine.length)
  else if byte = 0x15 then terminal.erase terminal.typedLine.length
  else if byte = 0x17 then terminal.erase terminal.lastWordLength
  else if byte = 0x04 then { terminal with inbound := terminal.inbound ++ [endMark] }
  else
    let byte := if byte = 0x0d then newline else byte
    { terminal with inbound := terminal.inbound ++ [byte], outbound := terminal.outbound ++ echo byte }

def arrive (bytes : List UInt8) (terminal : Terminal) : Terminal :=
  if terminal.typing then bytes.foldl (fun terminal byte => terminal.type byte) terminal
  else { terminal with inbound := terminal.inbound ++ bytes }

end Terminal
end InstrumentLink
