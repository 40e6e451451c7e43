import Turnstile.Http.Header
import Turnstile.Http.Url
import Turnstile.Encoding.Json

/-!
# Requests and responses

A request is a method, a target read into path and query, header fields and
the address it came from.  A response is a status, header fields and a body.

The common responses are written here:

* a JSON response sets `Content-Type: application/json` and writes the compact
  document and a newline;
* a plain error sets `Content-Type: text/plain; charset=utf-8` and
  `X-Content-Type-Options: nosniff` and writes the text and a newline;
* a permanent redirect names the target in `Location` (non-ASCII bytes
  escaped), and for `GET` and `HEAD` sets an HTML content type; only `GET` gets
  the short HTML body that links to the target.
-/

namespace Turnstile.Http

/-- A request as the handler sees it. -/
structure Request where
  method : String
  path : String
  rawQuery : String := ""
  headers : Headers := Headers.empty
  remoteAddr : String := ""
  deriving Inhabited

/-- A response: status, header fields and body. -/
structure Response where
  status : Nat
  headers : Headers := Headers.empty
  body : String := ""
  deriving Inhabited

/-- The reason phrases of the statuses the program writes. -/
def statusText : Nat → String
  | 200 => "OK"
  | 301 => "Moved Permanently"
  | 400 => "Bad Request"
  | 401 => "Unauthorized"
  | 404 => "Not Found"
  | 405 => "Method Not Allowed"
  | 500 => "Internal Server Error"
  | 503 => "Service Unavailable"
  | _ => ""

namespace Response

/-- Set a header field. -/
def setHeader (r : Response) (name value : String) : Response :=
  { r with headers := r.headers.set name value }

/-- A JSON response over the given header fields. -/
def json (headers : Headers) (status : Nat) (v : JsonValue) : Response :=
  { status, headers := headers.set "Content-Type" "application/json", body := v.body }

/-- A plain-text error over the given header fields. -/
def plainError (headers : Headers) (message : String) (status : Nat) : Response :=
  { status
    headers := (headers.set "Content-Type" "text/plain; charset=utf-8").set
      "X-Content-Type-Options" "nosniff"
    body := message ++ "\n" }

/-- The target a redirect names: relative targets are read against the request
path, the path is cleaned with its trailing slash kept, and the query is kept. -/
def redirectLocation (requestPath target : String) : String :=
  let absolute := if target.startsWith "/" then target
    else
      let dir := String.ofList ((requestPath.toList.reverse.dropWhile (· != '/')).reverse)
      dir ++ target
  let (p, query) := match absolute.splitOn "?" with
    | [] => ("", "")
    | [p] => (p, "")
    | p :: rest => (p, "?" ++ "?".intercalate rest)
  let cleaned := Path.clean p
  let cleaned := if p.endsWith "/" && !cleaned.endsWith "/" then cleaned ++ "/" else cleaned
  cleaned ++ query

/-- A permanent redirect to a target. -/
def redirect (headers : Headers) (req : Request) (target : String) : Response :=
  let url := redirectLocation req.path target
  let headers := headers.set "Location" (escapeNonAscii url)
  let htmlish := req.method == "GET" || req.method == "HEAD"
  let headers := if htmlish then headers.set "Content-Type" "text/html; charset=utf-8" else headers
  let body := if req.method == "GET" then
      "<a href=\"" ++ htmlEscape url ++ "\">" ++ statusText 301 ++ "</a>.\n\n"
    else ""
  { status := 301, headers, body }

end Response

end Turnstile.Http
