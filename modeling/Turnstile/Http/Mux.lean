import Turnstile.Http.Url

/-!
# Routing by path

A router maps patterns to handlers.  A pattern that ends in `/` names a
subtree: it serves every path it is a prefix of, and of several such patterns
the longest wins.  Any other pattern serves its path alone, and an exact
pattern wins over every subtree.  Registering a pattern twice is refused with
the message `http: multiple registrations for` and the pattern.

Before routing, a request path is cleaned (see `cleanRequestPath`); a path
that changes is redirected to its cleaned form, query kept.  A path `/p` that
is not registered, when `/p/` is, is redirected to `/p/`.  `CONNECT` requests
are routed on their path as it is, with only the second redirect.
-/

namespace Turnstile.Http

/-- Patterns with what they serve, in the order they were registered. -/
structure Mux (α : Type) where
  entries : List (String × α) := []
  deriving Inhabited

/-- Where a request goes. -/
inductive Dispatch (α : Type) where
  | redirect (target : Target)
  | serve (handler : α)
  | notFound
  deriving Inhabited

namespace Mux

variable {α : Type}

/-- Add a pattern, refusing an empty or repeated one. -/
def register (m : Mux α) (pattern : String) (h : α) : Except String (Mux α) :=
  if pattern.isEmpty then .error "http: invalid pattern"
  else if m.entries.any (·.1 == pattern) then .error ("http: multiple registrations for " ++ pattern)
  else .ok { entries := m.entries ++ [(pattern, h)] }

/-- Whether a pattern is registered. -/
def has (m : Mux α) (pattern : String) : Bool := m.entries.any (·.1 == pattern)

/-- The longest subtree pattern that is a prefix of a path. -/
def longestSubtree (m : Mux α) (path : String) : Option (String × α) :=
  m.entries.foldl (fun best e =>
    if e.1.endsWith "/" && path.startsWith e.1 then
      match best with
      | some b => if e.1.length > b.1.length then some e else best
      | none => some e
    else best) none

/-- The handler of a path: its exact pattern, or else the longest subtree. -/
def find? (m : Mux α) (path : String) : Option α :=
  match m.entries.lookup path with
  | some h => some h
  | none => (m.longestSubtree path).map Prod.snd

/-- Whether a path should be redirected to the same path with a slash added. -/
def wantsSlash (m : Mux α) (path : String) : Bool :=
  !m.has path && !path.isEmpty && m.has (path ++ "/") && !path.endsWith "/"

/-- Route a request by its method, path and query. -/
def dispatch (m : Mux α) (method path rawQuery : String) : Dispatch α :=
  let routed (p : String) : Dispatch α :=
    match m.find? p with
    | some h => .serve h
    | none => .notFound
  if method == "CONNECT" then
    if m.wantsSlash path then .redirect { path := path ++ "/", rawQuery } else routed path
  else
    let clean := cleanRequestPath path
    if m.wantsSlash clean then .redirect { path := clean ++ "/", rawQuery }
    else if clean != path then .redirect { path := clean, rawQuery }
    else routed path

end Mux

end Turnstile.Http
