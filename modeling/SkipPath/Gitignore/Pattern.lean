import SkipPath.Gitignore.Pathspec
import SkipPath.Regex.Matcher
import SkipPath.Regex.Parser
import SkipPath.Text.Lines

/-!
The library that the program runs with: patterns as `GitWildMatchPattern` of `pathspec` turns them into regular
expressions (`pattern_to_regex`).

A line is cut at its slashes into segments; two stars as a segment stand for any number of folders, and a
segment without a slash around it is looked for at any depth.
-/

namespace SkipPath.Gitignore

/-- The characters that get a backslash when they stand for themselves. -/
def escapedChars : List CodePoint :=
  ['\t', '\n', '\x0b', '\x0c', '\r', ' ', '#', '$', '&', '(', ')', '*', '+', '-', '.', '?', '[', '\\',
    ']', '^', '\x7b', '|', '\x7d', '~']

/-- A character that stands for itself. -/
def literal (c : CodePoint) : Text := if escapedChars.contains c then ['\\', c] else [c]

/-- What becomes of a segment. -/
inductive Segment where
  /-- The regular expression of the segment. -/
  | expression (t : Text)
  /-- A class without an end: the line is no pattern at all. -/
  | openClass
  /-- A backslash at the end. -/
  | danglingEscape
deriving Repr, DecidableEq

/-- A segment with text in front of its expression. -/
def Segment.after (front : Text) : Segment → Segment
  | .expression t => .expression (front ++ t)
  | s => s

/-- The members of a class up to its end, and the text after it; a `]` in front is a member. -/
def classMembers (t : Text) : Option (Text × Text) :=
  let (first, rest) : Text × Text := match t with
    | ']' :: rest => ([']'], rest)
    | rest => ([], rest)
  match rest.dropWhile (· != .char ']') with
  | .char ']' :: after => some (first ++ rest.takeWhile (· != .char ']'), after)
  | _ => none

theorem classMembers_length {t members after : Text} (h : classMembers t = some (members, after)) :
    after.length < t.length := by
  have key : ∀ rest : Text, ∀ first : Text,
      (match rest.dropWhile (· != .char ']') with
        | .char ']' :: after => some (first ++ rest.takeWhile (· != .char ']'), after)
        | _ => none) = some (members, after) → after.length < rest.length := by
    intro rest first h
    have hle : (rest.dropWhile (· != .char ']')).length ≤ rest.length :=
      (List.dropWhile_sublist _).length_le
    split at h
    · rename_i heq
      rw [heq] at hle
      simp at h hle
      rw [← h.2]
      omega
    · simp at h
  unfold classMembers at h
  split at h
  rename_i first rest heq
  split at heq
  · rename_i rest'
    simp only [Prod.mk.injEq] at heq
    obtain ⟨rfl, rfl⟩ := heq
    have := key _ _ h
    simp
    omega
  · simp only [Prod.mk.injEq] at heq
    obtain ⟨rfl, rfl⟩ := heq
    exact key _ _ h

/-- The class that a bracket opens, as a regular expression; backslashes in it stand for themselves. -/
def convertClass (t : Text) : Option (Text × Text) :=
  let (negation, rest) : Text × Text := match t with
    | '!' :: rest => (['^'], rest)
    | '^' :: rest => (['^'], rest)
    | rest => ([], rest)
  (classMembers rest).map fun (members, after) =>
    (.char '[' :: negation
        ++ members.flatMap (fun c => if c = .char '\\' then [.char '\\', .char '\\'] else [c]) ++ [.char ']'],
      after)

theorem convertClass_length {t expression after : Text}
    (h : convertClass t = some (expression, after)) : after.length < t.length := by
  unfold convertClass at h
  split at h
  rename_i negation rest heq
  obtain ⟨⟨members, after'⟩, hm, h⟩ := Option.map_eq_some_iff.1 h
  obtain ⟨-, rfl⟩ := Prod.mk.inj h
  have := classMembers_length hm
  split at heq <;> simp only [Prod.mk.injEq] at heq <;> obtain ⟨-, rfl⟩ := heq <;> simp <;> omega

/-- A segment as a regular expression. -/
def convertSegment : Text → Segment
  | [] => .expression []
  | ['\\'] => .danglingEscape
  | '\\' :: c :: rest => (convertSegment rest).after (literal c)
  | '*' :: rest => (convertSegment rest).after ['[', '^', '/', ']', '*']
  | '?' :: rest => (convertSegment rest).after ['[', '^', '/', ']']
  | '[' :: rest =>
    match h : convertClass rest with
    | some (expression, after) =>
      have := convertClass_length h
      (convertSegment after).after expression
    | none => .openClass
  | c :: rest => (convertSegment rest).after (literal c)
termination_by t => t.length
decreasing_by all_goals simp_all <;> omega

/-- The segment that stands for any number of folders. -/
def anyFolders : Text := ['*', '*']

/-- The segments without repetitions of `anyFolders`. -/
def collapse : List Text → List Text
  | s :: t :: rest =>
    if s = anyFolders && t = anyFolders then collapse (t :: rest) else s :: collapse (t :: rest)
  | rest => rest

/-- The slash that shows that a match lies inside a folder. -/
def folderMark : Text := Text.ofString "(?P<ps_d>/)"

/-- The expressions of segments in a row.  `first` says whether nothing stands before them, `slash`
whether a slash has to come next, and `isFolder` whether the pattern ends in a slash. -/
def convertSegments (isFolder first slash : Bool) : List Text → Segment
  | [] => .expression []
  | segment :: rest =>
    if segment = anyFolders then
      if first then (convertSegments isFolder false false rest).after (Text.ofString "^(?:.+/)?")
      else if rest.isEmpty then .expression (if isFolder then folderMark else ['/'])
      else (convertSegments isFolder false true rest).after (Text.ofString "(?:/.+)?")
    else
      let front : Text := (if first then [.char '^'] else []) ++ (if slash then [.char '/'] else [])
      let last := if rest.isEmpty then Text.ofString "(?:" ++ folderMark ++ Text.ofString "|$)" else []
      let body := if segment = [.char '*'] then .expression (Text.ofString "[^/]+")
        else convertSegment segment
      match body with
      | .expression t =>
        (convertSegments isFolder false true rest).after (front ++ t ++ last)
      | other => other

/-- The expression of all segments. -/
def expressionOf (isFolder : Bool) (segments : List Text) : Segment :=
  if segments = [anyFolders] then .expression (if isFolder then folderMark else ['.'])
  else if segments = [anyFolders, ['*']] then .expression ['.']
  else if segments = [anyFolders, ['*'], anyFolders] then
    .expression (if isFolder then folderMark else ['/'])
  else convertSegments isFolder true false segments

/-- The segments of a pattern: one that is not tied to a place by a slash may be at any depth. -/
def segmentsOf (pattern : Text) : List Text :=
  match Text.splitAtChar '/' pattern with
  | [] :: rest => rest
  | [s] => if s = anyFolders then [s] else [anyFolders, s]
  | [s, []] => if s = anyFolders then [s, []] else [anyFolders, s, []]
  | segments => segments

/-- The line without the blanks at its end, unless the last of them is escaped. -/
def trimLine (line : Text) : Text :=
  if [.char ' ', .char '\\'].isPrefixOf line.reverse then line else Text.trimEnd line

/-- What is said about a line that is no pattern. -/
def noPattern (line : Text) : Error := .invalidPattern (Text.ofString "Invalid git pattern: " ++ Text.quoted line)

/-- The text of the regular expression of a pattern; none if the line is no pattern. -/
def expressionText (line pattern : Text) : Except Error (Option Text) :=
  let segments := segmentsOf pattern
  let isFolder := segments.getLast? = some []
  let segments := collapse (if isFolder then segments.dropLast ++ [anyFolders] else segments)
  if segments.isEmpty then .error (noPattern line)
  else match expressionOf isFolder segments with
    | .expression t => .ok (some t)
    | .openClass => .ok none
    | .danglingEscape => .error (noPattern line)

/-- A pattern: whether it takes paths out again, and what it matches. -/
structure Pattern where
  excludes : Bool
  expression : Regex.Expression
deriving Repr

/-- The pattern of a line; none for a comment and for a line that says nothing. -/
def Pattern.read (line : Text) : Except Error (Option Pattern) :=
  let t := trimLine line
  if t.isEmpty || t.head? = some (.char '#') || t = [.char '/'] then .ok none
  else do
    let excludes := t.head? = some (.char '!')
    match ← expressionText line (if excludes then t.drop 1 else t) with
    | none => .ok none
    | some text =>
      match Regex.parse text with
      | .ok expression => .ok (some { excludes := excludes, expression := expression })
      | .error refusal => .error (.badExpression text refusal)

/-- The patterns of a list of lines; empty lines do not count. -/
def readAll (lines : List Text) : Except Error (List Pattern) := do
  let found ← (lines.filter (!·.isEmpty)).mapM Pattern.read
  .ok (found.filterMap id)

/-- A path without the slash, or the dot and the slash, in front. -/
def relativePath (path : Text) : Text :=
  match path with
  | '/' :: rest => rest
  | '.' :: '/' :: rest => rest
  | path => path

/-- Whether a list of patterns ignores a path: the last pattern that matches decides. -/
def ignores (patterns : List Pattern) (path : Text) : Bool :=
  match patterns.reverse.find? (·.expression.search (relativePath path)) with
  | some pattern => !pattern.excludes
  | none => false

/-- The library that the program runs with. -/
def wildmatch : Pathspec where
  fromLines lines := (readAll lines).map ignores

end SkipPath.Gitignore
