import Outlays.Digest
import Outlays.Text.Blank
import Outlays.Text.Sorted
import Outlays.Text.Utf8

/-!
# Cache keys

A response is stored under a fingerprint of its request: the digest of the method, the path, the
query and the body. The order of the pairs of a query and empty pairs make no difference.

## Main definitions

* `CacheKey`, `CacheKey.make` — a key given as a text
* `CacheKey.ofRequest` — the fingerprint of a request
-/

namespace Outlays

/-- The key of a stored response. -/
structure CacheKey where
  text : String
  deriving DecidableEq, Repr

namespace CacheKey

/-- Why a text is no key. -/
inductive Refusal where
  /-- There is nothing in it but blanks. -/
  | empty
  /-- It begins or ends with a blank. -/
  | padded
  deriving DecidableEq, Repr

/-- The words of a refusal. -/
def Refusal.message : Refusal → String
  | .empty => "response cache key must not be empty"
  | .padded => "response cache key must not contain surrounding whitespace"

/-- Checks a text as a key. -/
def make (raw : String) : Except Refusal CacheKey :=
  if Text.isBlankText raw then .error .empty
  else if Text.trim raw.toList != raw.toList then .error .padded
  else .ok ⟨raw⟩

/-- The pairs of a query that are not empty. -/
def queryPairs (query : String) : List String :=
  ((query.toList.splitOn '&').filter (!·.isEmpty)).map String.ofList

/-- The query with its pairs in increasing order. -/
def canonicalQuery (query : String) : String :=
  String.intercalate "&" (Text.sorted (queryPairs query))

/-- The bytes that stand for a request: method, path and query, each ended by a zero byte, and the
body. -/
def material (method path query : String) (body : List UInt8) : List UInt8 :=
  let part (s : String) := Text.encode s ++ [0]
  part method ++ part path ++ part (canonicalQuery query) ++ body

/-- The fingerprint of a request. -/
def ofRequest (method path query : String) (body : List UInt8) : CacheKey :=
  ⟨"response:v1:" ++ Digest.hex (Digest.sha256 (material method path query body))⟩

end CacheKey

end Outlays
