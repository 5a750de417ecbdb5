/-!
Text that cannot steer a screen: the controls that a screen acts upon are written as escapes. Line ends and tabs stay
as they are.
-/

namespace InstrumentLink

def guardedChar (c : Char) : List Char :=
  match c with
  | '\x07' => "\\x07".toList
  | '\x08' => "\\x08".toList
  | '\x0c' => "\\x0c".toList
  | '\x1b' => "\\x1b".toList
  | '\x7f' => "\\x7f".toList
  | c =>
    if 0x80 ≤ c.toNat && c.toNat < 0xa0 then ['\\', 'u', '\x7b'] ++ Nat.toDigits 16 c.toNat ++ ['\x7d'] else [c]

def guarded (text : String) : String :=
  String.ofList (text.toList.flatMap guardedChar)

end InstrumentLink
