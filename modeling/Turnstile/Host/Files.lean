import Turnstile.Path.Slash

/-!
# Files

The program reads a small file tree: regular files with their contents and
permission bits, and directories.  Paths are cleaned lexically (repeated
slashes and `.` removed, `..` taken back over the element before it, never above
the root), and relative paths are read from the working directory.

Looking a path up reports what the system would: a path whose leading part is a
regular file is `not a directory`, a path that is nowhere in the tree is
`no such file or directory`.  Every ancestor of an entry is a directory.
Errors name the operation and the path as it was given: `stat p: …`,
`open p: …`, and `read p: is a directory` for reading a directory.
-/

namespace Turnstile.Host

/-- An entry of the file tree. -/
inductive Entry where
  | file (content : String) (mode : Nat)
  | dir
  deriving Inhabited, Repr

/-- The absolute form of a path, relative ones read from `cwd`. -/
def absPath (cwd p : String) : String :=
  if p.startsWith "/" then Path.clean p else Path.join [cwd, p]

/-- The directory part of a cleaned absolute path. -/
def parentPath (p : String) : String :=
  match (p.splitOn "/").dropLast with
  | [] | [""] => "/"
  | es => "/".intercalate es

/-- A file tree and the working directory relative paths are read from. -/
structure FileSystem where
  entries : List (String × Entry) := []
  cwd : String := "/"
  deriving Inhabited

/-- How looking a path up failed. -/
inductive LookupError where
  | missing
  | notDir
  deriving DecidableEq, Repr

/-- The text of a lookup error. -/
def LookupError.text : LookupError → String
  | .missing => "no such file or directory"
  | .notDir => "not a directory"

namespace FileSystem

/-- Whether a cleaned absolute path is a proper ancestor of another. -/
def isAncestor (a b : String) : Bool :=
  a != b && (a == "/" || b.startsWith (a ++ "/"))

/-- The entry at a path. -/
def lookup (fs : FileSystem) (p : String) : Except LookupError Entry :=
  let a := absPath fs.cwd p
  match fs.entries.lookup a with
  | some (.file c m) =>
    if p.endsWith "/" then .error .notDir else .ok (.file c m)
  | some .dir => .ok .dir
  | none =>
    if a == "/" || fs.entries.any (fun e => isAncestor a e.1) then .ok .dir
    else if fs.entries.any (fun e => isAncestor e.1 a && match e.2 with
        | .file _ _ => true
        | .dir => false) then .error .notDir
    else .error .missing

/-- The entry at a path, failing as `stat` does. -/
def stat (fs : FileSystem) (p : String) : Except String Entry :=
  match fs.lookup p with
  | .ok e => .ok e
  | .error e => .error ("stat " ++ p ++ ": " ++ e.text)

/-- Whether the stat failure is a missing path. -/
def isMissing (fs : FileSystem) (p : String) : Bool :=
  match fs.lookup p with
  | .error .missing => true
  | _ => false

/-- The contents of a file, failing as opening and reading it does. -/
def readFile (fs : FileSystem) (p : String) : Except String String :=
  match fs.lookup p with
  | .ok (.file c _) => .ok c
  | .ok .dir => .error ("read " ++ p ++ ": is a directory")
  | .error e => .error ("open " ++ p ++ ": " ++ e.text)

/-- Write a file, replacing what was at its path. -/
def writeFile (fs : FileSystem) (p content : String) (mode : Nat) : FileSystem :=
  let a := absPath fs.cwd p
  { fs with entries := (fs.entries.filter (·.1 != a)) ++ [(a, .file content mode)] }

/-- Remove what is at a path. -/
def remove (fs : FileSystem) (p : String) : FileSystem :=
  let a := absPath fs.cwd p
  { fs with entries := fs.entries.filter (·.1 != a) }

/-- Make a directory at a path, replacing what was there. -/
def makeDir (fs : FileSystem) (p : String) : FileSystem :=
  let a := absPath fs.cwd p
  { fs with entries := (fs.entries.filter (·.1 != a)) ++ [(a, .dir)] }

end FileSystem

end Turnstile.Host
