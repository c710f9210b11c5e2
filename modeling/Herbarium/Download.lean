import Herbarium.Error
import Herbarium.Url.Parser

/-!
Downloads.

An address is fetched over a network, which either answers with a status and bytes or is not reached. Only addresses of
the web are fetched, and only an answer of success is a download; its bytes are read as UTF-8, with a replacement
character where they are not.
-/

namespace Herbarium

structure Answer where
  status : Nat
  body : List UInt8

/-- What a network answers to the text of an address, if it reaches the server. -/
abbrev Network := String → Option Answer

def reasonPhrases : List (Nat × String) :=
  [(100, "Continue"), (101, "Switching Protocols"), (102, "Processing"), (200, "OK"), (201, "Created"),
   (202, "Accepted"), (203, "Non Authoritative Information"), (204, "No Content"), (205, "Reset Content"),
   (206, "Partial Content"), (207, "Multi-Status"), (208, "Already Reported"), (226, "IM Used"),
   (300, "Multiple Choices"), (301, "Moved Permanently"), (302, "Found"), (303, "See Other"), (304, "Not Modified"),
   (305, "Use Proxy"), (307, "Temporary Redirect"), (308, "Permanent Redirect"), (400, "Bad Request"),
   (401, "Unauthorized"), (402, "Payment Required"), (403, "Forbidden"), (404, "Not Found"),
   (405, "Method Not Allowed"), (406, "Not Acceptable"), (407, "Proxy Authentication Required"),
   (408, "Request Timeout"), (409, "Conflict"), (410, "Gone"), (411, "Length Required"), (412, "Precondition Failed"),
   (413, "Payload Too Large"), (414, "URI Too Long"), (415, "Unsupported Media Type"), (416, "Range Not Satisfiable"),
   (417, "Expectation Failed"), (418, "I'm a teapot"), (421, "Misdirected Request"), (422, "Unprocessable Entity"),
   (423, "Locked"), (424, "Failed Dependency"), (425, "Too Early"), (426, "Upgrade Required"),
   (428, "Precondition Required"), (429, "Too Many Requests"), (431, "Request Header Fields Too Large"),
   (451, "Unavailable For Legal Reasons"), (500, "Internal Server Error"), (501, "Not Implemented"),
   (502, "Bad Gateway"), (503, "Service Unavailable"), (504, "Gateway Timeout"), (505, "HTTP Version Not Supported"),
   (506, "Variant Also Negotiates"), (507, "Insufficient Storage"), (508, "Loop Detected"), (510, "Not Extended"),
   (511, "Network Authentication Required")]

/-- A status code with its reason phrase. -/
def statusText (status : Nat) : String :=
  let reason := ((reasonPhrases.find? fun r => r.1 == status).map Prod.snd).getD "<unknown status code>"
  s!"{status} {reason}"

namespace Download

/-- Reads an address that can be fetched. -/
def address (url : String) : Except Error Url.Address :=
  match Url.parse url with
  | .ok (.web a) => .ok a
  | .ok (.other scheme) =>
    .error (.invalidUrl (url ++ ": unsupported scheme '" ++ String.ofList scheme ++ "'"))
  | .error f => .error (.invalidUrl (url ++ ": " ++ f.message))

def isSuccess (status : Nat) : Bool := 200 ≤ status && status ≤ 299

def fetchAddress (network : Network) (a : Url.Address) : Except Error String :=
  match network a.withoutUser.withoutFragment.render with
  | none => .error (.fetch ("error sending request for url (" ++ a.withoutUser.render ++ ")"))
  | some answer =>
    if isSuccess answer.status then .ok (String.ofList (Text.Utf8.decodeLossy answer.body))
    else .error (.fetch ("data download failed with " ++ statusText answer.status ++ ". Url: " ++ a.render))

/-- Downloads a text. -/
def fetch (network : Network) (url : String) : Except Error String := do
  fetchAddress network (← address url)

end Download

end Herbarium
