/-!
The files of a machine: directories, files with their bytes, serial devices and others. `FileTree.find` follows a path
from directory to directory.
-/

namespace InstrumentLink

inductive FileKind where
  | directory
  | plain (content : List UInt8)
  /-- A device that is no serial line, with the number of the error that it answers with. -/
  | device (error : Int)
  /-- A serial device, by its number. -/
  | terminal (id : Nat)
  deriving DecidableEq, Repr

inductive PathError where
  | invalid
  | tooLong
  | notFound
  | notDirectory
  deriving DecidableEq, Repr

def PathError.message : PathError → String
  | invalid => "Invalid argument"
  | tooLong => "File name too long"
  | notFound => "No such file or directory"
  | notDirectory => "Not a directory"

structure FileTree where
  entries : List (List String × FileKind)
  /-- Where paths begin that do not begin at the root. -/
  workingDirectory : List String
  deriving Repr

namespace FileTree

def directories : List (List String) :=
  [[]] ++
    ["bin", "boot", "dev", "etc", "home", "lib", "lib64", "media", "mnt", "opt", "proc", "root", "run", "sbin", "srv",
      "sys", "tmp", "usr", "var"].map ([·]) ++
    ["fd", "mqueue", "pts", "shm"].map (["dev", ·]) ++
    ["bin", "games", "include", "lib", "lib64", "local", "sbin", "share", "src"].map (["usr", ·]) ++
    ["backups", "cache", "lib", "local", "lock", "log", "mail", "opt", "run", "spool", "tmp"].map (["var", ·])

/-- The devices that every machine has. The one that makes serial lines is itself one, the first of all. -/
def commonDevices : List (String × FileKind) :=
  [("null", .plain []), ("stdin", .plain []), ("stdout", .plain []), ("stderr", .plain []), ("zero", .device 25),
    ("full", .device 25), ("random", .device 22), ("urandom", .device 22), ("tty", .device 6), ("ptmx", .terminal 0)]

def commonFiles : List (String × String) :=
  [("passwd", "root:x:0:0:root:/root:/bin/sh\n"), ("group", "root:x:0:\n"), ("hosts", "127.0.0.1\tlocalhost\n"),
    ("hostname", "localhost\n"), ("resolv.conf", "nameserver 127.0.0.1\n")]

def standard : FileTree where
  entries := (directories ++ [["tmp", "work"]]).map (·, .directory) ++
    commonDevices.map (fun (name, kind) => (["dev", name], kind)) ++
    commonFiles.map fun (name, text) => (["etc", name], .plain text.toUTF8.toList)
  workingDirectory := ["tmp", "work"]

/-- The names that a path is made of. A single point is a name as well. -/
def names (path : List Char) : List String :=
  ((path.splitOn '/').map String.ofList).filter (· ≠ "")

def isAbsolute (path : List Char) : Bool := path.head? = some '/'

/-- The place of a path in the tree, when it takes no step back. -/
def place (tree : FileTree) (path : String) : List String :=
  (if isAbsolute path.toList then [] else tree.workingDirectory) ++ (names path.toList).filter (· ≠ ".")

def stepFrom (front : List String) (name : String) : List String :=
  if name = "." then front else if name = ".." then front.dropLast else front ++ [name]

def walk (tree : FileTree) (front : List String) : List String → Except PathError FileKind
  | [] =>
    match tree.entries.lookup front with
    | some kind => .ok kind
    | none => .error .notFound
  | name :: rest =>
    match tree.entries.lookup front with
    | none => .error .notFound
    | some .directory =>
      if 255 < name.utf8ByteSize then .error .tooLong
      else tree.walk (stepFrom front name) rest
    | some _ => .error .notDirectory

/-- What a path leads to. A slash at its end asks for a directory. -/
def find (tree : FileTree) (path : String) : Except PathError FileKind :=
  let text := path.toList
  if text.contains '\x00' then .error .invalid
  else if 4095 < path.utf8ByteSize then .error .tooLong
  else if text.isEmpty then .error .notFound
  else
    match tree.walk (if isAbsolute text then [] else tree.workingDirectory) (names text) with
    | .error error => .error error
    | .ok .directory => .ok .directory
    | .ok kind => if text.getLast? = some '/' then .error .notDirectory else .ok kind

def add (path : String) (kind : FileKind) (tree : FileTree) : FileTree :=
  { tree with entries := tree.entries ++ [(tree.place path, kind)] }

def provide (path : String) (kind : FileKind) (tree : FileTree) : FileTree :=
  let place := tree.place path
  let parents := ((List.range place.length).map place.take).filter fun front => (tree.entries.lookup front).isNone
  { tree with entries := tree.entries ++ parents.map (·, .directory) ++ [(place, kind)] }

def removeTerminal (id : Nat) (tree : FileTree) : FileTree :=
  { tree with entries := tree.entries.filter (·.2 ≠ .terminal id) }

end FileTree
end InstrumentLink
