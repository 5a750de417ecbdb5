import InstrumentLink.Toml.Value

/-!
How a TOML document grows line by line. While it grows, a table remembers how it came about: by a header of its
own, on the way to another header, or by a key with points. That decides what may still be added to it.
-/

namespace InstrumentLink.Toml

/-- What a key stands for in a document that still grows. -/
inductive Node where
  | value (value : Value)
  /-- A table; `implicit` if no header names it, `dotted` if keys with points made it. -/
  | table (implicit dotted : Bool) (entries : List (String × Node))
  /-- The tables of a header in double brackets. -/
  | tables (items : List (List (String × Node)))

abbrev Nodes := List (String × Node)

mutual

def Node.toValue : Node → Value
  | .value value => value
  | .table _ _ entries => .table (valuesOf entries)
  | .tables items => .array (tablesOf items)

def valuesOf : Nodes → Entries
  | [] => []
  | (key, node) :: rest => (key, node.toValue) :: valuesOf rest

def tablesOf : List Nodes → List Value
  | [] => []
  | entries :: rest => .table (valuesOf entries) :: tablesOf rest

end

namespace Nodes

def replace (key : String) (node : Node) (entries : Nodes) : Nodes :=
  entries.map fun entry => if entry.1 = key then (key, node) else entry

def erase (key : String) (entries : Nodes) : Nodes :=
  entries.filter (·.1 ≠ key)

/-- Changes the table at the end of a path, and makes the tables on the way that are missing. The change is told
whether keys with points made the table. Keys with points do not go into a table with a header. Of the tables of
a header in double brackets, the last is meant. -/
def within (byKey : Bool) (change : Bool → Nodes → Option Nodes) (dotted : Bool) :
    List String → Nodes → Option Nodes
  | [], entries => change dotted entries
  | key :: path, entries =>
    match entries.lookup key with
    | none => do
      let inner ← within byKey change byKey path []
      return entries ++ [(key, .table true byKey inner)]
    | some (.value _) => none
    | some (.table implicit dotted inner) =>
      if byKey && !implicit then none
      else do
        let inner ← within byKey change dotted path inner
        return entries.replace key (.table implicit dotted inner)
    | some (.tables items) => do
      let last ← items.getLast?
      let last ← within byKey change false path last
      return entries.replace key (.tables (items.dropLast ++ [last]))

/-- Adds a key that is not there yet. Behind a path the table has to be one that keys with points made. -/
def assign (path : List String) (value : Value) (entries : Nodes) : Option Nodes := do
  let key ← path.getLast?
  let front := path.dropLast
  within true (fun dotted entries =>
      if dotted = front.isEmpty ∨ (entries.lookup key).isSome then none
      else some (entries ++ [(key, .value value)]))
    false front entries

end Nodes

/-- A document up to some line: what is finished, and the table whose lines come now. -/
structure Document where
  root : Nodes
  path : List String
  /-- Whether the header of the present table stands in double brackets. -/
  repeated : Bool
  entries : Nodes

namespace Document

def empty : Document := ⟨[], [], false, []⟩

def assign (path : List String) (value : Value) (document : Document) : Option Document := do
  return { document with entries := ← document.entries.assign path value }

def close (document : Document) : Option Nodes :=
  match document.path.getLast? with
  | none => some document.entries
  | some key =>
    document.root.within false (fun _ parent =>
        if document.repeated then
          match parent.lookup key with
          | some (.tables items) => some (Nodes.replace key (.tables (items ++ [document.entries])) parent)
          | _ => none
        else some (parent ++ [(key, .table false false document.entries)]))
      false document.path.dropLast

/-- Begins a table with a header. It may have been on the way to another one before, and then keeps what is
in it, but it may not have a header yet, nor come from keys with points. -/
def openTable (path : List String) (document : Document) : Option Document := do
  let root ← document.close
  let key ← path.getLast?
  let entries := entriesAt path root
  let root ← root.within false (fun _ parent =>
      match parent.lookup key with
      | none => some parent
      | some (.table true false _) => some (Nodes.erase key parent)
      | some _ => none)
    false path.dropLast
  return ⟨root, path, false, entries⟩
where
  /-- The entries of a table that is there already. -/
  entriesAt : List String → Nodes → Nodes
    | [], entries => entries
    | key :: path, entries =>
      match entries.lookup key with
      | some (.table _ _ inner) => entriesAt path inner
      | some (.tables items) => entriesAt path (items.getLastD [])
      | _ => []

def openRepeated (path : List String) (document : Document) : Option Document := do
  let root ← document.close
  let key ← path.getLast?
  let root ← root.within false (fun _ parent =>
      match parent.lookup key with
      | none => some (parent ++ [(key, .tables [])])
      | some (.tables _) => some parent
      | some _ => none)
    false path.dropLast
  return ⟨root, path, true, []⟩

def finish (document : Document) : Option Entries :=
  document.close.map valuesOf

end Document
end InstrumentLink.Toml
