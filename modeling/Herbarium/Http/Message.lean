import Herbarium.Error
import Herbarium.Text.Utf8

/-!
Requests and responses.

A request has a method, a path, a query, headers and a body of bytes; a response a status, the headers that tell its
content and the methods allowed, and a text. A body is read as text only if it is not too long and is UTF-8.
-/

namespace Herbarium.Http

structure Request where
  method : String
  path : String
  query : String
  headers : List (String × String)
  body : ByteArray

structure Response where
  status : Nat
  contentType : Option String
  allow : Option String
  body : String
  deriving DecidableEq

/-- Splits the target of a request into path and query; a fragment is dropped. -/
def splitTarget (target : String) : String × String :=
  let cs := target.toList.takeWhile (· != '#')
  match cs.span (· != '?') with
  | (path, _ :: query) => (String.ofList path, String.ofList query)
  | (path, []) => (String.ofList path, "")

namespace Response

def text (status : Nat) (body : String) : Response :=
  { status, contentType := some "text/plain; charset=utf-8", allow := none, body }

def html (body : String) : Response :=
  { status := 200, contentType := some "text/html; charset=utf-8", allow := none, body }

def json (body : String) : Response :=
  { status := 200, contentType := some "application/json", allow := none, body }

/-- The response to a path that is not served. -/
def notFound : Response := { status := 404, contentType := none, allow := none, body := "" }

/-- The response to a method that is not served. -/
def notAllowed (allow : String) : Response := { status := 405, contentType := none, allow := some allow, body := "" }

/-- The response that reports a failure. -/
def ofError (e : Error) : Response := text e.status e.message

def withoutBody (r : Response) : Response := { r with body := "" }

end Response

def bodyLimit : Nat := 2097152

/-- The text of a request's body, or the response that refuses it. -/
def Request.text (r : Request) : Except Response String :=
  if bodyLimit < r.body.size then
    .error (.text 413 "Failed to buffer the request body: length limit exceeded")
  else match String.fromUTF8? r.body with
    | some s => .ok s
    | none =>
      let fault := ((Text.Utf8.fault? r.body.toList).map Text.Utf8.Fault.message).getD ""
      .error (.text 400 ("Request body didn't contain valid UTF-8: " ++ fault))

end Herbarium.Http
