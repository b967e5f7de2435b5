import SkipPath.Export.Ledger
import SkipPath.Table

/-!
The registry of profiles, one for each project (`IgnoreProfileRegistry`).

A request to compile a project takes a ticket when it begins and may publish its profile when it
finishes.  In between, other requests may begin and finish and projects may be removed: a request that was
overtaken by a later one, or whose project was removed after it began, publishes nothing.  The counters of
tickets are never set back, not even when a project is removed.
-/

namespace SkipPath

/-- A profile with the record of its exports and the ticket of the request that made it. -/
structure Held where
  profile : Profile
  record : Export.RecordId
  ticket : Nat
deriving Repr, DecidableEq

/-- The state of the registry.  Projects are named by their full paths. -/
structure Registry where
  /-- The settings of projects that have none of their own. -/
  defaultConfig : Config := .standard
  /-- The published profiles. -/
  entries : Table Path Held := {}
  /-- The settings of the published profiles. -/
  configs : Table Path Config := {}
  /-- The last ticket of each project. -/
  tickets : Table Path Nat := {}
  /-- The last ticket that was given out before each project was removed. -/
  removed : Table Path Nat := {}
deriving Repr

namespace Registry

/-- The published profile of a project. -/
def get? (r : Registry) (root : Path) : Option Held := r.entries.get? root

/-- The settings of a project. -/
def configFor (r : Registry) (root : Path) : Config := (r.configs.get? root).getD r.defaultConfig

/-- Whether a project is known. -/
def isKnown (r : Registry) (root : Path) : Bool := r.configs.contains root

/-- The last ticket of a project. -/
def lastTicket (r : Registry) (root : Path) : Nat := (r.tickets.get? root).getD 0

/-- The tickets of a project up to this one are void. -/
def removalMark (r : Registry) (root : Path) : Nat := (r.removed.get? root).getD 0

/-- Begin a request: it takes the next ticket. -/
def begin (r : Registry) (root : Path) : Nat × Registry :=
  let ticket := r.lastTicket root + 1
  (ticket, { r with tickets := r.tickets.put root ticket })

/-- How a request ends. -/
inductive Ending where
  /-- Its profile is published. -/
  | published (held : Held)
  /-- A later request has published before it. -/
  | superseded (current : Held)
  /-- Its project was removed after it began. -/
  | discarded
deriving Repr, DecidableEq

/-- How a request with a ticket ends whose profile comes with a record of its own.  A project that has a
profile keeps the record of that one. -/
def ending (r : Registry) (root : Path) (ticket : Nat) (profile : Profile)
    (record : Export.RecordId) : Ending :=
  if ticket ≤ r.removalMark root then .discarded
  else match r.get? root with
    | none => .published { profile := profile, record := record, ticket := ticket }
    | some current =>
      if ticket < current.ticket then .superseded current
      else .published { profile := profile, record := current.record, ticket := ticket }

/-- The registry after a request has ended. -/
def apply (r : Registry) (root : Path) (config : Config) : Ending → Registry
  | .published held =>
    { r with entries := r.entries.put root held, configs := r.configs.put root config }
  | .superseded _ | .discarded => r

/-- The registry without a project.  Requests of the project that have begun will be discarded. -/
def remove (r : Registry) (root : Path) : Registry :=
  { r with
    entries := r.entries.erase root
    configs := r.configs.erase root
    removed := r.removed.put root (r.lastTicket root) }

/-- The registry without any project. -/
def clear (r : Registry) : Registry :=
  { r with
    entries := Table.empty
    configs := Table.empty
    removed := r.tickets.rows.foldl (fun marks row => marks.put row.1 row.2) r.removed }

/-- The projects in the order in which they were first published. -/
def roots (r : Registry) : List Path := r.entries.keys

/-- Counts over all published profiles. -/
structure Stats where
  roots : Nat
  usable : Nat
  patterns : Nat
  exemptions : Nat
  errors : Nat
deriving Repr, DecidableEq

/-- The counts of a registry. -/
def stats (r : Registry) : Stats :=
  let profiles := r.entries.values.map (·.profile)
  { roots := profiles.length
    usable := profiles.countP (·.isUsable)
    patterns := profiles.foldl (fun n p => n + p.parsed) 0
    exemptions := profiles.foldl (fun n p => n + p.exemptions) 0
    errors := profiles.foldl (fun n p => n + p.errors) 0 }

end Registry

end SkipPath
