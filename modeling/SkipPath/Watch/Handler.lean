import SkipPath.Log.Record
import SkipPath.Path
import SkipPath.Table
import SkipPath.Watch.Clock

/-!
What follows from changes of files (`IgnoreFileHandler`).

A handler looks only at files that are named like the ignore file.  Editors often report one change
several times, so a change that comes too soon after the last one that counted, on the same path, is
passed over; moves always count, for each end that is named like the ignore file.
-/

namespace SkipPath.Watch

/-- What happened to a file. -/
inductive Change where
  | created
  | modified
  | deleted
  /-- The file was moved to the path in the given text. -/
  | moved (target : Text)
deriving Repr, DecidableEq

/-- A change of the file or folder at a path. -/
structure Event where
  change : Change
  source : Text
  isFolder : Bool := false
deriving Repr, DecidableEq

/-- A handler: the name it looks for, the time that has to pass between changes of a path, and the times
of the last changes that counted. -/
structure Handler where
  fileName : Text
  debounce : Time
  last : Table Text Time := Table.empty

/-- What follows from an event: what is reported, and the paths of which the registry is told. -/
structure Reaction where
  records : List Log.Record := []
  notices : List Text := []

namespace Handler

/-- The source of what handlers report. -/
def source : String := "gitskip.watchdog_monitor"

/-- Whether a path is named like the ignore file. -/
def isConcerned (h : Handler) (path : Text) : Bool := (Path.ofText path).name == h.fileName

/-- The path under which the time of a change is kept. -/
def key (path : Text) : Text := (Path.ofText path).render

/-- The time of the last change of a path that counted. -/
def lastChange (h : Handler) (path : Text) : Time := (h.last.get? (key path)).getD 0

/-- Whether a change of a path comes too soon. -/
def isEarly (h : Handler) (now : Time) (path : Text) : Bool :=
  decide (Time.elapsed (h.lastChange path) now < h.debounce)

/-- What is reported of a change that counts. -/
def announcement (h : Handler) (event : Event) : Log.Record :=
  let name := h.fileName
  let say (first : String) (between : String) :=
    Text.ofString first ++ name ++ Text.ofString between ++ event.source
  Log.record Log.info source
    (match event.change with
    | .created => say "Detected new " ": "
    | .modified => say "Detected change to " ": "
    | .deleted => say "Detected deletion of " ": "
    | .moved target => say "Detected move of " ": " ++ Text.ofString " -> " ++ target)

/-- What follows from a file being created, modified or deleted. -/
def reactToChange (h : Handler) (now : Time) (event : Event) : Handler × Reaction :=
  if event.isFolder || !h.isConcerned event.source then (h, {})
  else if h.isEarly now event.source then
    (h, { records := [Log.record Log.debug source
      (Text.ofString "Debouncing change to " ++ key event.source)] })
  else
    ({ h with last := h.last.put (key event.source) now },
      { records := [h.announcement event], notices := [event.source] })

/-- What follows from a file being moved. -/
def reactToMove (h : Handler) (event : Event) (target : Text) : Reaction :=
  if event.isFolder then {}
  else
    let left := h.isConcerned event.source
    { records := if left then [h.announcement event] else []
      notices := (if left then [event.source] else []) ++
        (if h.isConcerned target && target != event.source then [target] else []) }

/-- What follows from an event at a time. -/
def react (h : Handler) (now : Time) (event : Event) : Handler × Reaction :=
  match event.change with
  | .created | .modified | .deleted => h.reactToChange now event
  | .moved target => (h, h.reactToMove event target)

end Handler

end SkipPath.Watch
