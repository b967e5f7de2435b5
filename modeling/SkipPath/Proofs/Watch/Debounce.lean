import SkipPath.Proofs.Watch.Clock
import SkipPath.Proofs.Watch.Reload

/-!
Which events of a history count.

An event counts if the ignore file of a path was created, modified or deleted, not too soon after the last event
of that path that counted.  Of a history a handler keeps nothing but the times of those events, path by path, and
the time that it keeps of a path is decided by the readings of the clock at the events of that path
(`Handler.lastChange_afterAll`).  So whether an event counts hangs on nothing else (`Handler.accepts_congr`).

Two events of a path that count are apart by the debounce, though the time between them is rounded.  The time that
is kept is zero or no less than the debounce (`IsSettled`), and from such a time on no rounding makes a span look as
long as the debounce that is not (`Time.add_le_of_le_elapsed`).

The registry is told once of an event that counts, and what comes of it is handed on once, unless it is a fault;
of a file that was moved it is told once for each end that is named like the ignore file (`notices_react`).
-/

namespace SkipPath.Watch

/-! ## 1. Events in turn -/

/-- An event, and what the clock reads when a handler is told of it. -/
structure Sighting where
  time : Time
  event : Event

/-- The ends of a move, each once. -/
def ends (source target : Text) : List Text := if target = source then [source] else [source, target]

namespace Handler

/-- A handler after some events in turn. -/
def afterAll (h : Handler) (history : List Sighting) : Handler :=
  history.foldl (fun h s => (h.react s.time s.event).1) h

/-- Whether a file that is named like the ignore file was created, modified or deleted. -/
def looksAt (h : Handler) (event : Event) : Bool :=
  !event.change.isMove && !event.isFolder && h.isConcerned event.source

/-- Whether the file was that of a path, as a handler keeps it. -/
def looksAtFor (h : Handler) (path : Text) (event : Event) : Bool :=
  h.looksAt event && key event.source == key path

/-- Whether an event counts. -/
def accepts (h : Handler) (s : Sighting) : Bool :=
  h.looksAt s.event && !h.isEarly s.time s.event.source

/-- The paths of which the registry is to be told by an event. -/
def toTell (h : Handler) (s : Sighting) : List Text :=
  match s.event.change with
  | .created | .modified | .deleted => if h.accepts s then [s.event.source] else []
  | .moved target => if s.event.isFolder then [] else (ends s.event.source target).filter h.isConcerned

/-- The readings of the clock at the events of a path. -/
def timesOf (h : Handler) (path : Text) (history : List Sighting) : List Time :=
  (history.filter fun s => h.looksAtFor path s.event).map (·.time)

end Handler

/-- The last reading that counted, after one more reading. -/
def counted (debounce last now : Time) : Time := if Time.elapsed last now < debounce then last else now

/-- The last reading that counted, after some more readings. -/
def lastCounted (debounce last : Time) (times : List Time) : Time := times.foldl (counted debounce) last

/-- The registry is told once of each of some paths in turn, and what comes of each is handed on once, until a
fault ends it. -/
def toldInTurn (handOn : Text → Option Held → Work Unit) :
    List Text → Workspace → Except Fault Unit × Workspace
  | [], w => (.ok (), w)
  | path :: paths, w =>
    match (Work.notify (Path.ofText path)).on w with
    | (.error fault, w') => (.error fault, w')
    | (.ok held, w') =>
      match (handOn path held).on w' with
      | (.error fault, w'') => (.error fault, w'')
      | (.ok (), w'') => toldInTurn handOn paths w''

/-! ## 2. Readings that count -/

/-- A time that is kept: zero for none, or a reading that is no less than the debounce. -/
def IsSettled (debounce last : Time) : Prop := last = 0 ∨ debounce ≤ last ∧ Time.IsReading last

section readings

variable {debounce last now : Time} (hdebounce : 0 < debounce)
include hdebounce

/-- A reading that counts is later than the last one that did, by the debounce at least. -/
theorem add_debounce_le (hlast : IsSettled debounce last) (hnow : now.IsReading)
    (h : debounce ≤ Time.elapsed last now) : last + debounce ≤ now := by
  rcases hlast with rfl | ⟨hlate, hlast⟩
  · rwa [Time.elapsed_zero hnow, ← zero_add debounce] at h
  · exact Time.add_le_of_le_elapsed hlast hnow hdebounce hlate h

theorem IsSettled.nonneg (hlast : IsSettled debounce last) : 0 ≤ last := by
  rcases hlast with rfl | ⟨hlate, -⟩
  · exact le_rfl
  · exact hdebounce.le.trans hlate

/-- One more reading leaves the last one that counted, or a later one. -/
theorem IsSettled.counted (hlast : IsSettled debounce last) (hnow : now.IsReading) :
    IsSettled debounce (counted debounce last now) ∧ last ≤ Watch.counted debounce last now := by
  rw [Watch.counted]
  split
  · exact ⟨hlast, le_rfl⟩
  · next hlate =>
    have hle := add_debounce_le hdebounce hlast hnow (not_lt.mp hlate)
    have hzero := hlast.nonneg hdebounce
    exact ⟨.inr ⟨by linarith, hnow⟩, by linarith⟩

/-- More readings leave the last one that counted, or a later one. -/
theorem IsSettled.lastCounted {times : List Time} (hlast : IsSettled debounce last)
    (htimes : ∀ t ∈ times, t.IsReading) :
    IsSettled debounce (lastCounted debounce last times) ∧ last ≤ Watch.lastCounted debounce last times := by
  induction times generalizing last with
  | nil => exact ⟨hlast, le_rfl⟩
  | cons now times ih =>
    have hstep := hlast.counted hdebounce (htimes now List.mem_cons_self)
    have hrest := ih hstep.1 fun t ht => htimes t (List.mem_cons_of_mem _ ht)
    exact ⟨hrest.1, hstep.2.trans hrest.2⟩

end readings

/-! ## 3. What a handler keeps of a history -/

namespace Handler

variable (h : Handler)

theorem lastChange_congr {path path' : Text} (hkey : key path = key path') :
    h.lastChange path = h.lastChange path' := by
  rw [lastChange, lastChange, hkey]

theorem filter_ends (p : Text → Bool) (source target : Text) : (ends source target).filter p =
    (if p source then [source] else []) ++ (if p target && target != source then [target] else []) := by
  rw [ends]
  by_cases hsame : target = source
  · subst hsame
    rw [if_pos rfl, List.filter_singleton, bne_self_eq_false, Bool.and_false]
    cases p target <;> rfl
  · rw [if_neg hsame, bne_iff_ne.mpr hsame, Bool.and_true, List.filter_cons, List.filter_singleton]
    cases p source <;> cases p target <;> rfl

/-- The paths of which the registry is told by an event. -/
theorem notices_react (s : Sighting) : (h.react s.time s.event).2.notices = h.toTell s := by
  obtain ⟨time, change, source, isFolder⟩ := s
  cases change with
  | moved target =>
    simp only [react, reactToMove, toTell, filter_ends]
    cases isFolder <;> rfl
  | created | modified | deleted =>
    simp only [react, reactToChange, toTell, accepts, looksAt, Change.isMove, Bool.not_false, Bool.true_and]
    cases isFolder with
    | true => rfl
    | false => cases h.isConcerned source <;> cases h.isEarly time source <;> rfl

/-- The events by which the registry is told of a file that was not moved are those that count. -/
theorem told_and_not_move (s : Sighting) :
    (!(h.react s.time s.event).2.notices.isEmpty && !s.event.change.isMove) = h.accepts s := by
  rw [notices_react]
  obtain ⟨time, change, source, isFolder⟩ := s
  cases change with
  | moved target => exact Bool.and_false _
  | created | modified | deleted =>
    simp only [toTell, Change.isMove, Bool.not_false, Bool.and_true]
    cases h.accepts _ <;> rfl

/-- A handler keeps the time of an event that counts. -/
theorem lastChange_react_eq (s : Sighting) (path : Text) : (h.react s.time s.event).1.lastChange path =
    if h.looksAtFor path s.event then counted h.debounce (h.lastChange path) s.time else h.lastChange path := by
  rw [lastChange_react, Event.isChangeOf, ← Bool.and_assoc, told_and_not_move, accepts, looksAtFor]
  cases h.looksAt s.event with
  | false => rfl
  | true =>
    by_cases hkey : key s.event.source = key path
    · rw [beq_iff_eq.mpr hkey, counted, isEarly, h.lastChange_congr hkey]
      by_cases hearly : Time.elapsed (h.lastChange path) s.time < h.debounce <;> simp [hearly]
    · rw [beq_eq_false_iff_ne.mpr hkey, Bool.and_false, Bool.and_false]
      rfl

theorem timesOf_cons (path : Text) (s : Sighting) (history : List Sighting) :
    h.timesOf path (s :: history) =
      if h.looksAtFor path s.event then s.time :: h.timesOf path history else h.timesOf path history := by
  rw [timesOf, List.filter_cons]
  split <;> rfl

theorem timesOf_react (s : Sighting) : (h.react s.time s.event).1.timesOf = h.timesOf := by
  funext path history
  simp only [timesOf, looksAtFor, looksAt, isConcerned, fileName_react]

theorem fileName_afterAll (history : List Sighting) : (h.afterAll history).fileName = h.fileName := by
  induction history generalizing h with
  | nil => rfl
  | cons s history ih => exact (ih _).trans (fileName_react ..)

theorem debounce_afterAll (history : List Sighting) : (h.afterAll history).debounce = h.debounce := by
  induction history generalizing h with
  | nil => rfl
  | cons s history ih => exact (ih _).trans (debounce_react ..)

theorem isConcerned_afterAll (history : List Sighting) : (h.afterAll history).isConcerned = h.isConcerned := by
  funext path
  rw [isConcerned, isConcerned, fileName_afterAll]

/-- What a handler keeps of a path is decided by the readings of the clock at the events of that path. -/
theorem lastChange_afterAll (history : List Sighting) (path : Text) : (h.afterAll history).lastChange path =
    lastCounted h.debounce (h.lastChange path) (h.timesOf path history) := by
  induction history generalizing h with
  | nil => rfl
  | cons s history ih =>
    refine (ih (h.react s.time s.event).1).trans ?_
    rw [timesOf_react, debounce_react, lastChange_react_eq, timesOf_cons]
    split <;> rfl

/-- The readings of the clock at the events of a path are some of all readings. -/
theorem mem_timesOf {path : Text} {history : List Sighting} {t : Time} (ht : t ∈ h.timesOf path history) :
    ∃ s ∈ history, s.time = t := by
  obtain ⟨s, hs, rfl⟩ := List.mem_map.mp ht
  exact ⟨s, (List.mem_filter.mp hs).1, rfl⟩

theorem accepts_iff {s : Sighting} : h.accepts s = true ↔
    h.looksAt s.event = true ∧ h.debounce ≤ Time.elapsed (h.lastChange s.event.source) s.time := by
  rw [accepts, isEarly, Bool.and_eq_true, Bool.not_eq_true', decide_eq_false_iff_not, not_lt]

/-! ## 4. What comes of an event -/

/-- What comes of an event in a workspace. -/
def handle (handOn : Text → Option Held → Work Unit) (s : Sighting) (w : Workspace) :
    Except Fault Unit × Workspace :=
  (carryOut (h.react s.time s.event).2 handOn).on w

/-- A workspace after what is reported of an event. -/
def reporting (s : Sighting) (w : Workspace) : Workspace := w.reportedAll (h.react s.time s.event).2.records

theorem handle_eq (handOn : Text → Option Held → Work Unit) (s : Sighting) (w : Workspace) :
    h.handle handOn s w = toldInTurn handOn (h.toTell s) (h.reporting s w) := by
  rw [handle, on_carryOut, notices_react, reporting]
  generalize w.reportedAll _ = w
  generalize h.toTell s = paths
  induction paths generalizing w with
  | nil => rfl
  | cons path paths ih =>
    rw [on_tell_cons, tell, Work.on_bind, toldInTurn]
    obtain ⟨notified, w'⟩ := (Work.notify (Path.ofText path)).on w
    cases notified with
    | error fault => rfl
    | ok held =>
      dsimp only
      obtain ⟨handed, w'⟩ := (handOn path held).on w'
      cases handed with
      | error fault => rfl
      | ok _ => exact ih w'

end Handler

/-! ## 5. Histories -/

/-- How a handler tells events apart in every history. -/
structure Debounces (h : Handler) : Prop where
  /-- Of two events of a path that count the second one is later, by the debounce at least. -/
  spaced : ∀ {before between : List Sighting} {s t : Sighting},
    Handler.key s.event.source = Handler.key t.event.source →
    (∀ x ∈ before ++ s :: (between ++ [t]), x.time.IsReading) →
    (h.afterAll before).accepts s = true → (h.afterAll (before ++ s :: between)).accepts t = true →
    s.time < t.time ∧ s.time + h.debounce ≤ t.time
  /-- Whether an event counts hangs on nothing but the earlier events of its path: files that were moved, folders,
  files of another name and other paths may come in between or be left out. -/
  independent : ∀ {history history' : List Sighting} {s : Sighting},
    history.filter (h.looksAtFor s.event.source ·.event) =
      history'.filter (h.looksAtFor s.event.source ·.event) →
    (h.afterAll history).accepts s = (h.afterAll history').accepts s
  /-- Of an event that counts the registry is told once, and what comes of it is handed on once. -/
  accepted : ∀ {history : List Sighting} {s : Sighting}, (h.afterAll history).accepts s = true →
    ∀ handOn w, (h.afterAll history).handle handOn s w =
      toldInTurn handOn [s.event.source] ((h.afterAll history).reporting s w)
  /-- Of one that does not it is not told, unless a file was moved. -/
  passedOver : ∀ {history : List Sighting} {s : Sighting},
    s.event.change.isMove = false ∨ s.event.isFolder = true → (h.afterAll history).accepts s = false →
    ∀ handOn w, (h.afterAll history).handle handOn s w = (.ok (), (h.afterAll history).reporting s w)
  /-- Of a file that was moved it is told once for each of its ends that is named like the ignore file. -/
  moved : ∀ {history : List Sighting} {s : Sighting} {target : Text}, s.event.change = .moved target →
    s.event.isFolder = false → ∀ handOn w, (h.afterAll history).handle handOn s w =
      toldInTurn handOn ((ends s.event.source target).filter h.isConcerned)
        ((h.afterAll history).reporting s w)

namespace Handler

variable {h : Handler}

theorem lastChange_fresh (hfresh : h.last = Table.empty) (path : Text) : h.lastChange path = 0 := by
  rw [lastChange, hfresh]
  rfl

theorem afterAll_append (history more : List Sighting) :
    h.afterAll (history ++ more) = (h.afterAll history).afterAll more := List.foldl_append

section settled

variable {debounce : Time} (hd : h.debounce = debounce) (hdebounce : 0 < debounce)
include hd hdebounce

/-- The time that is kept of a path stays settled, and is never an earlier one again. -/
theorem settled_afterAll {path : Text} (hlast : IsSettled debounce (h.lastChange path))
    {history : List Sighting} (hreadings : ∀ s ∈ history, s.time.IsReading) :
    IsSettled debounce ((h.afterAll history).lastChange path) ∧
      h.lastChange path ≤ (h.afterAll history).lastChange path := by
  rw [lastChange_afterAll, hd]
  refine hlast.lastCounted hdebounce fun t ht => ?_
  obtain ⟨s, hs, rfl⟩ := h.mem_timesOf ht
  exact hreadings s hs

/-- An event that counts is later than the last event of its path that did, by the debounce at least. -/
theorem add_debounce_le_of_accepts {s : Sighting} (hlast : IsSettled debounce (h.lastChange s.event.source))
    (hreading : s.time.IsReading) (hs : h.accepts s = true) :
    h.lastChange s.event.source + debounce ≤ s.time := by
  have hlate := (h.accepts_iff.mp hs).2
  rw [hd] at hlate
  exact add_debounce_le hdebounce hlast hreading hlate

end settled

theorem lastChange_of_accepts {s : Sighting} (hs : h.accepts s = true) :
    (h.react s.time s.event).1.lastChange s.event.source = s.time := by
  rw [lastChange_react, Event.isChangeOf, ← Bool.and_assoc, told_and_not_move, hs, beq_self_eq_true]
  rfl

theorem not_move_of_accepts {s : Sighting} (hs : h.accepts s = true) : s.event.change.isMove = false := by
  rw [← told_and_not_move, Bool.and_eq_true] at hs
  exact Bool.not_eq_true' _ |>.mp hs.2

theorem toTell_of_folder {s : Sighting} (hfolder : s.event.isFolder = true) : h.toTell s = [] := by
  obtain ⟨time, change, source, isFolder⟩ := s
  obtain rfl : isFolder = true := hfolder
  cases change <;> rfl

theorem toTell_of_change {s : Sighting} (hchange : s.event.change.isMove = false) :
    h.toTell s = if h.accepts s then [s.event.source] else [] := by
  obtain ⟨time, change, source, isFolder⟩ := s
  cases change with
  | moved target => cases hchange
  | created | modified | deleted => rfl

/-- Two events of a path that count are apart by the debounce. -/
theorem spaced_of_fresh (hfresh : h.last = Table.empty) (hdebounce : 0 < h.debounce)
    {before between : List Sighting} {s t : Sighting} (hkey : key s.event.source = key t.event.source)
    (hreadings : ∀ x ∈ before ++ s :: (between ++ [t]), x.time.IsReading)
    (hs : (h.afterAll before).accepts s = true)
    (ht : (h.afterAll (before ++ s :: between)).accepts t = true) : s.time + h.debounce ≤ t.time := by
  have hupto : ∀ x ∈ before ++ [s], x.time.IsReading := fun x hx =>
    hreadings x (List.append_cons before s _ ▸ List.mem_append_left _ hx)
  have hbetween : ∀ x ∈ between, x.time.IsReading := fun x hx =>
    hreadings x (List.mem_append_right _ (List.mem_cons_of_mem _ (List.mem_append_left _ hx)))
  have htime : t.time.IsReading :=
    hreadings t (List.mem_append_right _ (List.mem_cons_of_mem _ (List.mem_append_right _ List.mem_cons_self)))
  have hkept : (h.afterAll (before ++ [s])).lastChange s.event.source = s.time := by
    rw [afterAll_append]
    exact lastChange_of_accepts hs
  have hsettled := (settled_afterAll rfl hdebounce (.inl (lastChange_fresh hfresh s.event.source)) hupto).1
  have hlater := settled_afterAll (h.debounce_afterAll _) hdebounce hsettled hbetween
  rw [← afterAll_append, ← List.append_cons, hkept, lastChange_congr _ hkey] at hlater
  calc s.time + h.debounce
      ≤ (h.afterAll (before ++ s :: between)).lastChange t.event.source + h.debounce := by linarith [hlater.2]
    _ ≤ t.time := add_debounce_le_of_accepts (h.debounce_afterAll _) hdebounce hlater.1 htime ht

/-- Whether an event counts is decided by the events of its path. -/
theorem accepts_congr {history history' : List Sighting} {s : Sighting}
    (hsame : history.filter (h.looksAtFor s.event.source ·.event) =
      history'.filter (h.looksAtFor s.event.source ·.event)) :
    (h.afterAll history).accepts s = (h.afterAll history').accepts s := by
  simp only [accepts, looksAt, isEarly, isConcerned_afterAll, debounce_afterAll, lastChange_afterAll, timesOf,
    hsame]

end Handler

/-- **Debounce.**  Whatever events a handler is told of, and whatever a clock reads at them, two events of a path
that count are apart by the debounce, whether an event counts hangs on the earlier events of its path alone, and
the registry is told once of each event that counts and of each end of a file that was moved. -/
theorem events_debounced {h : Handler} (hfresh : h.last = Table.empty) (hdebounce : 0 < h.debounce) :
    Debounces h := by
  constructor
  case spaced =>
    intro before between s t hkey hreadings hs ht
    have hapart := Handler.spaced_of_fresh hfresh hdebounce hkey hreadings hs ht
    exact ⟨by linarith, hapart⟩
  case independent => exact Handler.accepts_congr
  case accepted =>
    intro history s hs handOn w
    rw [Handler.handle_eq, Handler.toTell_of_change (Handler.not_move_of_accepts hs), if_pos hs]
  case passedOver =>
    intro history s hnever hs handOn w
    have hnone : (h.afterAll history).toTell s = [] := by
      rcases hnever with hmove | hfolder
      · rw [Handler.toTell_of_change hmove, hs]
        rfl
      · exact Handler.toTell_of_folder hfolder
    rw [Handler.handle_eq, hnone, toldInTurn]
  case moved =>
    intro history s target hchange hfolder handOn w
    rw [Handler.handle_eq, Handler.toTell, hchange]
    dsimp only
    rw [hfolder, if_neg Bool.false_ne_true, Handler.isConcerned_afterAll]

/-- A handler that has seen nothing, with the debounce of a monitor for which none is named. -/
def Handler.fresh : Handler := { fileName := Text.ofString ".gitignore", debounce := defaultDebounce }

/-- A file that was modified. -/
def Sighting.ofModified (path : String) (time : Time) : Sighting :=
  { time := time, event := { change := .modified, source := Text.ofString path } }

/-- What comes between two changes of a file that count: one that comes too soon, a move, a folder, another file,
and a clock that goes back. -/
def Sighting.meanwhile : List Sighting :=
  [.ofModified "/w/p/.gitignore" (mkRat 8001 4),
    { time := 2000, event := { change := .moved (Text.ofString "/w/p/old"), source := savedPath } },
    { time := 2001, event := { change := .created, source := savedPath, isFolder := true } },
    .ofModified "/w/p/notes" 2001, .ofModified "/w/p//.gitignore" 1999]

/-- After what comes in between, a change of the file counts again once half a second is over. -/
theorem events_debounced_half_second :
    Handler.fresh.last = Table.empty ∧ 0 < Handler.fresh.debounce ∧
      (Handler.fresh.afterAll []).accepts (.ofModified "/w/p/.gitignore" 2000) = true ∧
      (Handler.fresh.afterAll ([] ++ .ofModified "/w/p/.gitignore" 2000 :: Sighting.meanwhile)).accepts
        (.ofModified "/w/p/./.gitignore" (mkRat 4001 2)) = true ∧
      (2000 : Time) + Handler.fresh.debounce ≤ mkRat 4001 2 := by
  have hfirst : (Handler.fresh.afterAll []).accepts (.ofModified "/w/p/.gitignore" 2000) = true := by
    decide +kernel
  have hagain : (Handler.fresh.afterAll ([] ++ .ofModified "/w/p/.gitignore" 2000 :: Sighting.meanwhile)).accepts
      (.ofModified "/w/p/./.gitignore" (mkRat 4001 2)) = true := by
    decide +kernel
  have hdebounce : 0 < Handler.fresh.debounce := by decide +kernel
  have hspaced := (events_debounced rfl hdebounce).spaced (by decide +kernel) (by decide +kernel) hfirst hagain
  exact ⟨rfl, hdebounce, hfirst, hagain, hspaced.2⟩

/-- A file in a folder whose name no system takes. -/
def Sighting.ofUnwritable : Sighting :=
  { time := 2000
    event := { change := .modified, source := Text.ofString "/w/p" ++ .char '\x00' :: Text.ofString "/.gitignore" } }

/-- If what comes of telling the registry is a fault, nothing is handed on of an event that counts. -/
theorem fault_hands_nothing_on :
    Handler.fresh.accepts Sighting.ofUnwritable = true ∧ ∀ handOn w, ∃ fault,
      Handler.fresh.handle handOn Sighting.ofUnwritable w =
        (.error fault, Handler.fresh.reporting Sighting.ofUnwritable w) := by
  have haccepts : Handler.fresh.accepts Sighting.ofUnwritable = true := by decide +kernel
  refine ⟨haccepts, fun handOn w => ?_⟩
  have hunwritable : (Path.ofText Sighting.ofUnwritable.event.source).isWritable ≠ true := by decide +kernel
  rw [Handler.handle_eq, Handler.toTell_of_change rfl, if_pos haccepts, toldInTurn, Work.on_notify]
  generalize Handler.fresh.reporting Sighting.ofUnwritable w = w'
  cases hfull : w'.resolve (Path.ofText Sighting.ofUnwritable.event.source) with
  | error fault => exact ⟨fault, rfl⟩
  | ok full => exact absurd (Workspace.isWritable_of_resolve hfull) hunwritable

end SkipPath.Watch
