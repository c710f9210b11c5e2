import Herbarium.Download
import Herbarium.Http.Message
import Herbarium.Port
import Herbarium.Text.Blank

/-!
Messages on the wire.

The head of a request is a line of its method, its target and the version, and a line for each header. A body follows
if a header gives its length. A response is written likewise, always with the length of its body.
-/

namespace Herbarium.Http

/-- Reads the line of a header: its name in lower case, and its value without the blanks around it. -/
def headerOfLine? (line : String) : Option (String × String) :=
  match line.toList.span (· != ':') with
  | (name, ':' :: value) =>
    if name.isEmpty then none
    else some (Text.asciiFold (String.ofList name), String.ofList (Text.trimChars value))
  | _ => none

/-- Reads the head of a request that has no body yet. -/
def Request.ofHead? : List String → Option Request
  | [] => none
  | first :: lines =>
    match first.toList.splitOn ' ' with
    | [method, target, _] => do
      let headers ← lines.mapM headerOfLine?
      let (path, query) := splitTarget (String.ofList target)
      return { method := String.ofList method, path, query, headers, body := ByteArray.empty }
    | _ => none

def Request.bodyLength (r : Request) : Nat :=
  match (r.headers.find? fun h => h.1 == "content-length").bind fun h => Port.readInt? h.2.toList with
  | some n => n.toNat
  | none => 0

/-- The line of a header that may be missing. -/
def headerLine (name : String) (value : Option String) : String :=
  match value with
  | some v => name ++ ": " ++ v ++ "\r\n"
  | none => ""

def Response.wire (r : Response) : String :=
  "HTTP/1.1 " ++ statusText r.status ++ "\r\n" ++ headerLine "content-type" r.contentType ++
    headerLine "allow" r.allow ++ headerLine "content-length" (some (Decimal.integerText r.body.utf8ByteSize)) ++
    "\r\n" ++ r.body

end Herbarium.Http
