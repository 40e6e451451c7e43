/-!
# Host and port

A listen address is `host:port`, the port after the last colon.  A host that
holds colons must be written in brackets (`[::1]:80`).  The errors name the
address and the problem: no colon at all is a missing port, a colon in an
unbracketed host is one colon too many, and brackets must close right before
the last colon and appear nowhere else.
-/

namespace Turnstile.Net

/-- The index of the first occurrence of a character. -/
def firstIndex (cs : List Char) (c : Char) : Option Nat := cs.findIdx? (· == c)

/-- The index of the last occurrence of a character. -/
def lastIndex (cs : List Char) (c : Char) : Option Nat :=
  (cs.reverse.findIdx? (· == c)).map fun k => cs.length - 1 - k

/-- The error for an address. -/
def addressError (addr why : String) : String :=
  if addr.isEmpty then why else "address " ++ addr ++ ": " ++ why

/-- Split an address into host and port. -/
def splitHostPort (hostport : String) : Except String (String × String) :=
  let cs := hostport.toList
  let fail := fun {α : Type} (why : String) => (Except.error (addressError hostport why) : Except String α)
  match lastIndex cs ':' with
  | none => fail "missing port in address"
  | some i =>
    let bracketed := cs.head? == some '['
    let hostRange : Except String (String × Nat × Nat) :=
      if bracketed then
        match firstIndex cs ']' with
        | none => fail "missing ']' in address"
        | some e =>
          if e + 1 == cs.length then fail "missing port in address"
          else if e + 1 == i then .ok (String.ofList ((cs.take e).drop 1), 1, e + 1)
          else if cs.getD (e + 1) ' ' == ':' then fail "too many colons in address"
          else fail "missing port in address"
      else
        let host := cs.take i
        if host.contains ':' then fail "too many colons in address"
        else .ok (String.ofList host, 0, 0)
    match hostRange with
    | .error e => .error e
    | .ok (host, j, k) =>
      if (cs.drop j).contains '[' then fail "unexpected '[' in address"
      else if (cs.drop k).contains ']' then fail "unexpected ']' in address"
      else .ok (host, String.ofList (cs.drop (i + 1)))

example : (splitHostPort "127.0.0.1:8080").toOption = some ("127.0.0.1", "8080") := by decide
example : (splitHostPort "[::1]:80").toOption = some ("::1", "80") := by decide

end Turnstile.Net
