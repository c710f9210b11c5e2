/-!
Failures as they are reported.

An error has a kind and a detail text. The kind fixes how the report begins and the status of the response it
becomes: what the client can mend is a bad request, the rest a failure of the service.
-/

namespace Herbarium

/-- A reported failure. -/
inductive Error where
  /-- Input that does not read: statements, bodies, field values, settings. -/
  | parse (detail : String)
  /-- An assignment to a field a record does not have. -/
  | schema (detail : String)
  /-- A database that cannot be opened. -/
  | connect (path : String) (cause : String)
  /-- A statement that failed. -/
  | operation (detail : String)
  /-- An address that can never be downloaded. -/
  | invalidUrl (detail : String)
  /-- A download that failed. -/
  | fetch (detail : String)
  /-- Any other failure of the service. -/
  | internal (detail : String)
  deriving DecidableEq

namespace Error

def message : Error → String
  | parse detail => "parse error: " ++ detail
  | schema detail => "schema violation: " ++ detail
  | connect path cause => "cannot open database " ++ path ++ ": " ++ cause
  | operation detail => "sql error: " ++ detail
  | invalidUrl detail => "invalid url: " ++ detail
  | fetch detail => "download failed: " ++ detail
  | internal detail => "internal error: " ++ detail

def status : Error → Nat
  | parse _ | schema _ | operation _ | invalidUrl _ => 400
  | connect _ _ | fetch _ | internal _ => 500

end Error

end Herbarium
