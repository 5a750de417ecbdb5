import InstrumentLink.Text.Digits

/-!
Blanks, comments, line ends and strings of TOML. A reader takes the text at hand and gives what it read with the
text that follows; nothing means that the text is not in the language.
-/

namespace InstrumentLink.Toml

abbrev Read (α : Type) := Option (α × List Char)

def isBlank (c : Char) : Bool := c = ' ' || c = '\t'

def skipBlanks (text : List Char) : List Char := text.dropWhile isBlank

def newline? : List Char → Option (List Char)
  | '\n' :: rest => some rest
  | '\r' :: '\n' :: rest => some rest
  | _ => none

def isPlain (c : Char) : Bool :=
  c = '\t' || (0x20 ≤ c.toNat && c.toNat ≠ 0x7f)

def skipComment : List Char → List Char
  | '#' :: rest => rest.dropWhile isPlain
  | text => text

def lineEnd? (text : List Char) : Option (List Char) :=
  match skipComment (skipBlanks text) with
  | [] => some []
  | rest => newline? rest

/-- Blanks, line ends and comments; the flag tells that a comment has begun. -/
def skipFiller : Bool → List Char → List Char
  | _, '\n' :: rest => skipFiller false rest
  | _, '\r' :: '\n' :: rest => skipFiller false rest
  | false, '#' :: rest => skipFiller true rest
  | false, c :: rest => if isBlank c then skipFiller false rest else c :: rest
  | true, c :: rest => if isPlain c then skipFiller true rest else c :: rest
  | _, [] => []

def escaped? : Char → Option Char
  | 'b' => some '\x08'
  | 't' => some '\t'
  | 'n' => some '\n'
  | 'f' => some '\x0c'
  | 'r' => some '\r'
  | '"' => some '"'
  | '\\' => some '\\'
  | _ => none

def charOfHex? (digits : List Char) : Option Char :=
  ((readNat? 16 digits).filter (Nat.isValidChar ·)).map Char.ofNat

def Read.cons (c : Char) (read : Read (List Char)) : Read (List Char) :=
  read.map fun (text, rest) => (c :: text, rest)

def basic? : List Char → Read (List Char)
  | '"' :: rest => some ([], rest)
  | '\\' :: 'u' :: a :: b :: c :: d :: rest => (charOfHex? [a, b, c, d]).bind (Read.cons · (basic? rest))
  | '\\' :: 'U' :: a :: b :: c :: d :: e :: f :: g :: h :: rest =>
    (charOfHex? [a, b, c, d, e, f, g, h]).bind (Read.cons · (basic? rest))
  | '\\' :: c :: rest => (escaped? c).bind (Read.cons · (basic? rest))
  | c :: rest => if isPlain c then Read.cons c (basic? rest) else none
  | [] => none

/-- A string in three double quotes, behind the first three. The flag tells that a backslash has ended the
line, so that blanks and line ends do not count. One or two quotes stand for themselves, also right before the
closing three. -/
def multiline? : Bool → List Char → Read (List Char)
  | _, '"' :: '"' :: '"' :: '"' :: '"' :: rest => if rest.head? = some '"' then none else some (['"', '"'], rest)
  | _, '"' :: '"' :: '"' :: '"' :: rest => some (['"'], rest)
  | _, '"' :: '"' :: '"' :: rest => some ([], rest)
  | _, '\\' :: 'u' :: a :: b :: c :: d :: rest =>
    (charOfHex? [a, b, c, d]).bind (Read.cons · (multiline? false rest))
  | _, '\\' :: 'U' :: a :: b :: c :: d :: e :: f :: g :: h :: rest =>
    (charOfHex? [a, b, c, d, e, f, g, h]).bind (Read.cons · (multiline? false rest))
  | _, '\\' :: c :: rest =>
    match escaped? c with
    | some meant => Read.cons meant (multiline? false rest)
    | none => if (newline? (skipBlanks (c :: rest))).isSome then multiline? true (c :: rest) else none
  | skip, '\r' :: '\n' :: rest => if skip then multiline? true rest else Read.cons '\n' (multiline? false rest)
  | skip, c :: rest =>
    if skip && (isBlank c || c = '\n') then multiline? true rest
    else if isPlain c || c = '\n' then Read.cons c (multiline? false rest)
    else none
  | _, [] => none

def literal? : List Char → Read (List Char)
  | '\x27' :: rest => some ([], rest)
  | c :: rest => if isPlain c then Read.cons c (literal? rest) else none
  | [] => none

def multilineLiteral? : List Char → Read (List Char)
  | '\x27' :: '\x27' :: '\x27' :: '\x27' :: '\x27' :: rest =>
    if rest.head? = some '\x27' then none else some (['\x27', '\x27'], rest)
  | '\x27' :: '\x27' :: '\x27' :: '\x27' :: rest => some (['\x27'], rest)
  | '\x27' :: '\x27' :: '\x27' :: rest => some ([], rest)
  | '\r' :: '\n' :: rest => Read.cons '\n' (multilineLiteral? rest)
  | c :: rest => if isPlain c || c = '\n' then Read.cons c (multilineLiteral? rest) else none
  | [] => none

/-- A line end right behind the opening quotes does not count. -/
def dropNewline (text : List Char) : List Char := (newline? text).getD text

def string? : List Char → Read String
  | '"' :: '"' :: '"' :: rest => (multiline? false (dropNewline rest)).map (Prod.map String.ofList id)
  | '"' :: rest => (basic? rest).map (Prod.map String.ofList id)
  | '\x27' :: '\x27' :: '\x27' :: rest => (multilineLiteral? (dropNewline rest)).map (Prod.map String.ofList id)
  | '\x27' :: rest => (literal? rest).map (Prod.map String.ofList id)
  | _ => none

def isBare (c : Char) : Bool := c.isAlphanum || c = '_' || c = '-'

def keyPart? : List Char → Read String
  | '"' :: rest => (basic? rest).map (Prod.map String.ofList id)
  | '\x27' :: rest => (literal? rest).map (Prod.map String.ofList id)
  | text =>
    let name := text.takeWhile isBare
    if name.isEmpty then none else some (String.ofList name, text.dropWhile isBare)

/-- Parts of a key with points between them, and blanks around each; the number bounds the parts. -/
def keyParts? : Nat → List Char → Option (List String × List Char)
  | 0, _ => none
  | count + 1, text => do
    let (part, rest) ← keyPart? (skipBlanks text)
    match skipBlanks rest with
    | '.' :: rest => do
      let (others, rest) ← keyParts? count rest
      return (part :: others, rest)
    | rest => return ([part], rest)

def depthLimit : Nat := 79

def key? (text : List Char) : Read (List String) := keyParts? depthLimit text

end InstrumentLink.Toml
