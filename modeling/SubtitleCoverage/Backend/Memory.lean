import SubtitleCoverage.Backend.Call
import SubtitleCoverage.OrderedMap

/-!
# A backend in memory

A backend that holds its records in memory shows what a view does with its answers. It can be told
to fail, and to give answers that are not true to its records.

## Main definitions

* `CallKind`, `Failure` — which calls fail.
* `MemoryBackend` — the records, and the calls so far.
* `MemoryBackend.answer` — what comes of a call.
-/

namespace SubtitleCoverage

/-- The kinds of calls that can be told to fail. -/
inductive CallKind where
  | units
  | sidecars
  | profile
  | setStatus
  | blacklist
  | deleteSidecar
  | batch
deriving DecidableEq, Repr

/-- The kind of a call. -/
def Call.kind : Call → CallKind
  | .units .. => .units
  | .sidecars _ => .sidecars
  | .profile _ => .profile
  | .setStatus .. => .setStatus
  | .blacklist _ => .blacklist
  | .deleteSidecar _ => .deleteSidecar
  | .startBatch .. | .startLanguageBatch .. => .batch

/-- The number that a call is about: a page of units, or a unit. -/
def Call.number? : Call → Option Int
  | .units page .. => some page.toNat
  | .sidecars id | .setStatus id _ => some id.value.toInt
  | _ => none

/-- A fault with which calls of a kind are answered. -/
structure Failure where
  kind : CallKind
  fault : Fault
  /-- If given, only calls about one of these numbers fail, as far as they are about one. -/
  numbers : Option (List Int) := none

/-- Whether a call fails. -/
def Failure.hits (f : Failure) (c : Call) : Bool :=
  f.kind = c.kind &&
    match f.numbers, c.number? with
    | some ns, some n => ns.contains n
    | _, _ => true

/-- A backend that holds its records in memory. -/
structure MemoryBackend where
  units : List MediaUnit := []
  sidecars : OrderedMap MediaUnitId (List Sidecar) := .empty
  profiles : List LanguageProfile := []
  failures : List Failure := []
  /-- The size of its pages, if it is not the one asked for. -/
  pageSize : Option UInt32 := none
  /-- The number of pages that it claims to have. -/
  totalPages : Option UInt32 := none
  /-- The number of items that it claims to have accepted. -/
  accepted : Option UInt64 := none
  /-- The job that it gives to every batch. -/
  job : Option JobId := none
  /-- How many batches it has started. -/
  started : Nat := 0
  /-- The calls so far, the latest first. -/
  calls : List Call := []

namespace MemoryBackend

/-- A page of the units. -/
def page (b : MemoryBackend) (page pageSize : UInt32) : Page MediaUnit :=
  let size := max (b.pageSize.getD pageSize).toNat 1
  { data := (b.units.drop ((page.toNat - 1) * size)).take size
    total := UInt64.ofNat b.units.length
    page
    totalPages := b.totalPages.getD (UInt32.ofNat ((b.units.length + size - 1) / size)) }

/-- The sidecars of a unit. -/
def sidecarsOf (b : MemoryBackend) (id : MediaUnitId) : List Sidecar :=
  (b.sidecars.get? id).getD []

/-- A profile. -/
def profile (b : MemoryBackend) (id : ProfileId) : Except Fault LanguageProfile :=
  match b.profiles.find? fun p => p.id = id with
  | some p => .ok p
  | none => .error (.notFound "profile" id.text)

/-- Gives all units with an id a status. -/
def setStatus (b : MemoryBackend) (id : MediaUnitId) (status : MediaStatus) : MemoryBackend :=
  { b with units := b.units.map fun u => if u.id = id then { u with status } else u }

/-- Deletes a sidecar wherever it is. -/
def deleteSidecar (b : MemoryBackend) (path : String) : MemoryBackend :=
  { b with sidecars := b.sidecars.map fun ss => ss.filter fun s => s.path ≠ path }

/-- Starts a batch with some items. -/
def start (b : MemoryBackend) (items : Nat) : BatchStarted × MemoryBackend :=
  let number := b.started + 1
  (⟨b.job.getD ⟨.ofNat number⟩, b.accepted.getD (UInt64.ofNat items)⟩, { b with started := number })

/-- What comes of a call that does not fail. -/
def carryOut (b : MemoryBackend) : (c : Call) → c.Outcome × MemoryBackend
  | .units page pageSize _ => (.ok (b.page page pageSize), b)
  | .sidecars id => (.ok (b.sidecarsOf id), b)
  | .profile id => (b.profile id, b)
  | .setStatus id status => (.ok (), b.setStatus id status)
  | .blacklist _ => (.ok (), b)
  | .deleteSidecar path => (.ok (), b.deleteSidecar path)
  | .startBatch _ ids =>
    let (started, b) := b.start ((ids.map List.length).getD b.units.length)
    (.ok started, b)
  | .startLanguageBatch _ items =>
    let (started, b) := b.start items.length
    (.ok started, b)

/-- What comes of a call. -/
def answer (c : Call) (b : MemoryBackend) : c.Outcome × MemoryBackend :=
  let b := { b with calls := c :: b.calls }
  match b.failures.find? fun f => f.hits c with
  | some f => (.error f.fault, b)
  | none => b.carryOut c

end MemoryBackend

end SubtitleCoverage
