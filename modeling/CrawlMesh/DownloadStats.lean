/-
# Statistics of downloads

What a downloader has fetched so far: answers by status and by host, how many of them failed,
how many requests got no answer, how many bytes came and how long it took on average.
-/
import CrawlMesh.Json.Basic
import CrawlMesh.Number.Shortest

namespace CrawlMesh

set_option autoImplicit false

/-- Counts by key, in ascending order of the keys. -/
structure Tally (κ : Type) where
  counts : List (κ × UInt64)
deriving Repr, Inhabited

namespace Tally

variable {κ : Type}

/-- Count a key among keys in ascending order. -/
def bump (before : κ → κ → Bool) (key : κ) : List (κ × UInt64) → List (κ × UInt64)
  | [] => [(key, 1)]
  | (k, n) :: rest =>
    if before key k then (key, 1) :: (k, n) :: rest
    else if before k key then (k, n) :: bump before key rest
    else (k, n + 1) :: rest

/-- Count a key once more. -/
def add (before : κ → κ → Bool) (t : Tally κ) (key : κ) : Tally κ := ⟨bump before key t.counts⟩

end Tally

/-- The statistics of a downloader. Counts wrap around at the end of their range. -/
structure DownloadStats where
  requests : UInt64
  succeeded : UInt64
  failed : UInt64
  transportErrors : UInt64
  bytes : UInt64
  statusCodes : Tally UInt16
  hosts : Tally String
  latencyTotal : Int64
deriving Repr, Inhabited

namespace DownloadStats

def zero : DownloadStats where
  requests := 0
  succeeded := 0
  failed := 0
  transportErrors := 0
  bytes := 0
  statusCodes := ⟨[]⟩
  hosts := ⟨[]⟩
  latencyTotal := 0

/-- Statuses from here on are failures. -/
def firstFailure : UInt16 := 400

/-- Count an answer. -/
def record (s : DownloadStats) (host : String) (status : UInt16) (bytes : UInt64)
    (elapsed : Int64) : DownloadStats :=
  { s with
    requests := s.requests + 1
    succeeded := if status < firstFailure then s.succeeded + 1 else s.succeeded
    failed := if status < firstFailure then s.failed else s.failed + 1
    bytes := s.bytes + bytes
    statusCodes := s.statusCodes.add (· < ·) status
    hosts := s.hosts.add (· < ·) host
    latencyTotal := s.latencyTotal + elapsed }

/-- Count a request that got no answer. -/
def recordTransportError (s : DownloadStats) : DownloadStats :=
  { s with transportErrors := s.transportErrors + 1 }

/-- The average time of an answer; zero before the first one. -/
def averageLatency (s : DownloadStats) : Float :=
  if s.requests == 0 then 0.0 else s.latencyTotal.toFloat / s.requests.toFloat

/-- The statistics without times. -/
def toJson (s : DownloadStats) : Json :=
  .object [
    ("requests", .nat s.requests.toNat), ("succeeded", .nat s.succeeded.toNat),
    ("failed", .nat s.failed.toNat), ("transport_errors", .nat s.transportErrors.toNat),
    ("bytes", .nat s.bytes.toNat),
    ("status_codes", .object (s.statusCodes.counts.map fun (k, n) =>
      (toString k.toNat, .nat n.toNat))),
    ("hosts", .object (s.hosts.counts.map fun (k, n) => (k, .nat n.toNat)))]

end DownloadStats

end CrawlMesh
