/-!
# Slash-separated paths

Paths are cleaned lexically: repeated slashes and `.` elements are removed, and
a `..` element is taken back over the element before it.  At the root a `..`
vanishes; at the start of a relative path it stays.  The empty path cleans to
`.`.
-/

namespace Turnstile.Path

/-- The elements of a path, without empty and `.` elements. -/
def pathElements (p : String) : List String :=
  (p.splitOn "/").filter fun e => e != "" && e != "."

/-- Resolve `..` elements against the elements before them; above the root they
vanish, in a relative path they stay. -/
def resolveDots (rooted : Bool) (es : List String) : List String :=
  (es.foldl (fun (acc : List String) e =>
    if e == ".." then
      match acc with
      | top :: rest => if top == ".." then ".." :: acc else rest
      | [] => if rooted then [] else [".."]
    else e :: acc) []).reverse

/-- A path cleaned lexically. -/
def clean (p : String) : String :=
  let rooted := p.startsWith "/"
  let body := "/".intercalate (resolveDots rooted (pathElements p))
  if rooted then "/" ++ body
  else if body.isEmpty then "." else body

/-- Paths joined by slashes, empty ones skipped, and cleaned; empty when all are. -/
def join (parts : List String) : String :=
  let kept := parts.filter (· != "")
  if kept.isEmpty then "" else clean ("/".intercalate kept)

end Turnstile.Path
