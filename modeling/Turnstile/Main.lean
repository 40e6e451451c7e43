import Turnstile.Cli.Program

/-!
# The keygate executable

The process reads its arguments and its environment and, for a command given
`--stdin`, its standard input.  It takes the configuration file and the secret
files the configuration names into a file tree, runs `Cli.execute`, writes the
two output streams, and exits with the status.

The tree holds what exists of those paths: a readable file with its contents, a
directory as a directory.  Permission bits are not read: files count as
readable by their owner only.
-/

open Turnstile

/-- What is at a path: a file with its contents, a directory, or nothing. -/
def probe (path : String) : IO (Option Host.Entry) := do
  match ← (IO.FS.Handle.mk path .read).toBaseIO with
  | .error _ => return none
  | .ok h =>
    match ← h.readToEnd.toBaseIO with
    | .ok text => return some (.file text 0o600)
    | .error _ => return some .dir

/-- Add what is at a path to a file tree. -/
def takeIn (fs : Host.FileSystem) (path : String) : IO Host.FileSystem := do
  if path.isEmpty then return fs
  match ← probe (Host.absPath fs.cwd path) with
  | some (.file c m) => return fs.writeFile path c m
  | some .dir => return fs.makeDir path
  | none => return fs

/-- The environment of the process, one `NAME=value` entry a line of the
process's environment record. -/
def readEnvironment : IO Host.Environment := do
  try
    let bytes ← IO.FS.readBinFile "/proc/self/environ"
    let text := (String.fromUTF8? bytes).getD ""
    return ⟨(text.splitOn "\x00").filterMap fun kv =>
      match kv.splitOn "=" with
      | k :: v :: more => some (k, "=".intercalate (v :: more))
      | _ => none⟩
  catch _ => return {}

def main (args : List String) : IO UInt32 := do
  let env ← readEnvironment
  let cwd := (← IO.currentDir).toString
  let path := Cli.configPath args
  let fs ← takeIn { cwd := cwd } path
  let fs ← (Cli.secretPaths { env, files := fs } path).foldlM takeIn fs
  let stdin ← if Cli.readsInput args then (← IO.getStdin).readToEnd else pure ""
  let o := Cli.execute { env, files := fs } args stdin
  IO.print o.stdout
  IO.eprint o.stderr
  return o.exit.toUInt32
