import InstrumentLink.Toml.Document
import InstrumentLink.Toml.Scalar

/-!
Reading a TOML 1.0 document: values, lines with a key, and headers. `Toml.read?` gives the entries of the root
table, or nothing for a text that is no document.
-/

namespace InstrumentLink.Toml

def items? (value? : List Char → Option (Value × List Char)) :
    Nat → List Char → Option (List Value × List Char)
  | 0, _ => none
  | count + 1, text =>
    match skipFiller false text with
    | ']' :: rest => some ([], rest)
    | text => do
      let (first, rest) ← value? text
      match skipFiller false rest with
      | ',' :: rest =>
        let (others, rest) ← items? value? count rest
        return (first :: others, rest)
      | ']' :: rest => return ([first], rest)
      | _ => none

def assignment? (value? : List Char → Option (Value × List Char)) (text : List Char) :
    Option ((List String × Value) × List Char) := do
  let (path, rest) ← key? text
  match skipBlanks rest with
  | '=' :: rest =>
    let (value, rest) ← value? (skipBlanks rest)
    return ((path, value), rest)
  | _ => none

def assignments? (value? : List Char → Option (Value × List Char)) :
    Nat → List Char → Option (List (List String × Value) × List Char)
  | 0, _ => none
  | count + 1, text => do
    let (first, rest) ← assignment? value? text
    match skipBlanks rest with
    | ',' :: rest =>
      let (others, rest) ← assignments? value? count rest
      return (first :: others, rest)
    | '\x7d' :: rest => return ([first], rest)
    | _ => none

/-- A table in braces is built from its assignments as a table with a header is. -/
def inlineTable? (assignments : List (List String × Value)) : Option Value :=
  (assignments.foldlM (fun entries (path, value) => Nodes.assign path value entries) []).map fun entries =>
    .table (valuesOf entries)

def value? : Nat → List Char → Option (Value × List Char)
  | depth, '[' :: rest =>
    match depth with
    | 0 => none
    | depth + 1 => (items? (value? depth) (rest.length + 1) rest).map (Prod.map .array id)
  | depth, '\x7b' :: rest =>
    match depth with
    | 0 => none
    | depth + 1 =>
      match skipBlanks rest with
      | '\x7d' :: rest => some (.table [], rest)
      | text => do
        let (assignments, rest) ← assignments? (value? depth) (text.length + 1) text
        return (← inlineTable? assignments, rest)
  | _, text =>
    match text with
    | '"' :: _ | '\x27' :: _ => (string? text).map (Prod.map .string id)
    | _ => scalar? text

def header? (brackets : List Char) (text : List Char) : Option (List String × List Char) := do
  let (path, rest) ← key? text
  if brackets.isPrefixOf rest then return (path, ← lineEnd? (rest.drop brackets.length)) else none

def line? (document : Document) : List Char → Option (Document × List Char)
  | '#' :: rest => do return (document, ← lineEnd? ('#' :: rest))
  | '[' :: '[' :: rest => do
    let (path, rest) ← header? "]]".toList rest
    return (← document.openRepeated path, rest)
  | '[' :: rest => do
    let (path, rest) ← header? "]".toList rest
    return (← document.openTable path, rest)
  | text => do
    let ((path, value), rest) ← assignment? (value? depthLimit) text
    return (← document.assign path value, ← lineEnd? rest)

def lines? : Nat → Document → List Char → Option Document
  | 0, _, _ => none
  | count + 1, document, text =>
    match skipBlanks text with
    | [] => some document
    | text =>
      match newline? text with
      | some rest => lines? count document rest
      | none => do
        let (document, rest) ← line? document text
        lines? count document rest

def dropMark : List Char → List Char
  | '\ufeff' :: rest => rest
  | text => text

def read? (text : String) : Option Entries :=
  let text := dropMark text.toList
  (lines? (text.length + 1) .empty text).bind Document.finish

end InstrumentLink.Toml
