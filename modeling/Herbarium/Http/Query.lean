import Herbarium.Url.Percent

/-!
Query strings.

A query is a list of parameters between ampersands, each a key and a value around the first equals sign. In both a plus
sign is a blank and percent-encoded bytes are decoded; bytes that are no text are replaced.
-/

namespace Herbarium.Http.Query

/-- A key or value as text. -/
def decodePart (cs : List Char) : String :=
  let bytes := Text.Utf8.encode (cs.map fun c => if c = '+' then ' ' else c)
  String.ofList (Text.Utf8.decodeLossy (Url.decodeBytes bytes))

/-- A parameter as key and value. -/
def decodePair (cs : List Char) : String × String :=
  match cs.span (· != '=') with
  | (key, _ :: value) => (decodePart key, decodePart value)
  | (key, []) => (decodePart key, "")

/-- The parameters of a query, in order. -/
def parse (query : String) : List (String × String) :=
  ((query.toList.splitOn '&').filter fun part => !part.isEmpty).map decodePair

def values (key : String) (params : List (String × String)) : List String :=
  (params.filter fun p => p.1 == key).map Prod.snd

end Herbarium.Http.Query
