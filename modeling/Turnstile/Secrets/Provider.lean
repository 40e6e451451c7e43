import Turnstile.Host.World
import Turnstile.Text.Blank
import Turnstile.Text.Case

/-!
# Secret providers

A provider looks secrets up by name.  Two kinds exist:

* the environment provider reads the variable named by a base text followed by
  the secret's name in upper case, with every `-` written `_`.  It supports a
  name when that variable is set, and an empty value counts as not found;
* the file provider reads the file of that name in its directory, without
  surrounding white space.  The name must stay inside the directory once the
  path is cleaned, the file must be a regular file, and it must not be writable
  by group or others.  It supports a name whose path is a regular file.

A failure is either "not found" or another error; only the first kind lets a
caller tell that the secret simply is not there.
-/

namespace Turnstile.Secrets

open Turnstile.Host

/-- Why a secret could not be read. -/
inductive SecretError where
  | notFound (message : String)
  | failed (message : String)
  deriving Inhabited, Repr, DecidableEq

/-- The text of a failure. -/
def SecretError.message : SecretError → String
  | .notFound m => m
  | .failed m => m

/-- Whether the failure means the secret is not there. -/
def SecretError.isNotFound : SecretError → Bool
  | .notFound _ => true
  | .failed _ => false

/-- The same failure with text before its message. -/
def SecretError.within (context : String) : SecretError → SecretError
  | .notFound m => .notFound (context ++ m)
  | .failed m => .failed (context ++ m)

/-- A source of secrets. -/
inductive Provider where
  | env (base : String)
  | file (dir : String)
  deriving Inhabited, Repr

/-- The name a provider reports. -/
def Provider.kind : Provider → String
  | .env _ => "env"
  | .file _ => "file"

/-- The variable an environment provider reads for a secret. -/
def envVarName (base name : String) : String :=
  base ++ Text.toUpperText (String.ofList (name.toList.map fun c => if c = '-' then '_' else c))

/-- The octal digits of a number. -/
def octalText (n : Nat) : String := String.ofList (Nat.toDigits 8 n)

/-- The path of a secret in a directory, refused when cleaning it leaves the
directory. -/
def secretPath (cwd dir name : String) : Except String String :=
  let base := absPath cwd dir
  let p := absPath cwd (Path.join [dir, name])
  if p.startsWith (base ++ "/") then .ok p
  else .error "invalid secret path: directory traversal detected"

/-- A file provider for a directory, which must exist and be a directory. -/
def openFileProvider (fs : FileSystem) (dir : String) : Except String Provider :=
  match fs.stat dir with
  | .error e => .error ("failed to stat base path: " ++ e)
  | .ok .dir => .ok (.file dir)
  | .ok _ => .error ("base path is not a directory: " ++ dir)

namespace Provider

/-- Whether a provider has a secret of this name. -/
def supports (w : World) : Provider → String → Bool
  | .env base, name => w.env.isSet (envVarName base name)
  | .file dir, name =>
    match secretPath w.files.cwd dir name with
    | .error _ => false
    | .ok p =>
      match w.files.lookup p with
      | .ok (.file _ _) => true
      | _ => false

/-- The value of a secret. -/
def get (w : World) : Provider → String → Except SecretError String
  | .env base, name =>
    let var := envVarName base name
    let v := w.env.get var
    if v.isEmpty then
      .error (.notFound ("secret not found in environment: " ++ name ++ " (env var: " ++ var ++ ")"))
    else .ok v
  | .file dir, name =>
    match secretPath w.files.cwd dir name with
    | .error e => .error (.failed e)
    | .ok p =>
      match w.files.lookup p with
      | .error .missing => .error (.notFound ("secret not found: no file for " ++ name))
      | .error e => .error (.failed ("failed to stat secret file: stat " ++ p ++ ": " ++ e.text))
      | .ok .dir => .error (.failed ("secret path is not a regular file: " ++ name))
      | .ok (.file content mode) =>
        let perm := mode % 512
        if perm &&& 18 != 0 then
          .error (.failed ("insecure permissions on " ++ p ++ ": " ++ octalText perm ++
            " (must not be group or world writable)"))
        else .ok (Text.trimBlank content)

end Provider

end Turnstile.Secrets
