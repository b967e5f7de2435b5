import SkipPath.Regex.Problem
import SkipPath.Text.Blank

/-!
What is used of `pathspec`, and what `check_pattern` says of a line with its help.

`pathspec` is the library that reads the lines of an ignore file as they are meant, for a second opinion on a skip
pattern.  The library is taken as it comes: it makes of some lines a decision about paths, or refuses them.  What is
relied upon beyond that is said by `Pathspec.Documented`; the library that the program runs with is
`Gitignore.wildmatch`.
-/

namespace SkipPath

/-- Why lines are no patterns. -/
inductive Gitignore.Error where
  /-- A line says nothing, or ends in the middle of an escape. -/
  | invalidPattern (message : Text)
  /-- The expression that stands for a line is none. -/
  | badExpression (expression : Text) (refusal : Regex.Refusal)
deriving Repr, DecidableEq

/-- What is said about each error. -/
def Gitignore.Error.message : Gitignore.Error → Text
  | .invalidPattern message => message
  | .badExpression expression refusal => refusal.message expression

/-- A library like `pathspec`. -/
structure Pathspec where
  /-- `PathSpec.from_lines` for patterns of the kind `gitwildmatch`, and `match_file` of what comes of it: whether
  the lines, taken together, ignore a path. -/
  fromLines : List Text → Except Gitignore.Error (Text → Bool)

namespace Pathspec

/-- A character that stands for itself wherever it is in a line. -/
def isPlain (c : CodePoint) : Bool :=
  !Text.isBlank c && !([.char '/', .char '\\', .char '*', .char '?', .char '[', .char '!', .char '#'] : Text).contains c

/-- What is documented of a line and the paths that it ignores, `matchesFrom` being whether a pattern matches a path
from the start of a name on. -/
structure Documented (pathspec : Pathspec) (matchesFrom : Text → Text → Prop) : Prop where
  /-- The slash separates names, and a pattern is matched from the start of a name on: of the first one, or of one
  at any level below. -/
  levels : ∀ {line path : Text} {ignores : Text → Bool}, pathspec.fromLines [line] = .ok ignores →
    ignores path = true → .char '\n' ∉ path →
      ∃ above rest, .char '/' :: path = above ++ .char '/' :: rest ∧ matchesFrom line rest
  /-- Characters without a meaning of their own match themselves. -/
  plain : ∀ {c : CodePoint} {line rest : Text}, isPlain c = true → matchesFrom (c :: line) rest →
    ∃ rest', rest = c :: rest' ∧ matchesFrom line rest'

end Pathspec

namespace Gitignore

/-- The characters of a pattern that a backslash may stand before. -/
def escapable : List CodePoint := ['\\', '!', '#', '*', '?', '[', ']', ' ']

/-- Whether a backslash stands before anything but a character of a pattern that needs it. -/
def hasStrayBackslash : Text → Bool
  | [] => false
  | '\\' :: rest =>
    match rest with
    | [] => true
    | c :: _ => !escapable.contains c || hasStrayBackslash rest
  | _ :: rest => hasStrayBackslash rest

/-- The patterns that match everything. -/
def broadPatterns : List Text := [['*'], ['*', '*'], ['*', '*', '/', '*'], ['/', '*']]

/-- What is suspicious about a line (`check_pattern`).  A line that is no pattern is; an expression that is none is
not just suspicious but refused. -/
def concerns (pathspec : Pathspec) (line : Text) : Except Error (List Text) :=
  let others :=
    (if hasStrayBackslash line then
      [Text.ofString "Pattern contains backslash. Use forward slashes for paths."] else []) ++
    (if broadPatterns.contains line then
      [Text.ofString "Very broad pattern - will skip every path"] else [])
  match pathspec.fromLines [line] with
  | .ok _ => .ok others
  | .error (.invalidPattern message) =>
    .ok ((Text.ofString "Not a valid gitignore pattern: " ++ message) :: others)
  | .error (.badExpression text refusal) => .error (.badExpression text refusal)

end Gitignore

end SkipPath
