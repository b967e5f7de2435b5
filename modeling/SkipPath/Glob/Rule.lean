import SkipPath.Glob.Line
import SkipPath.Glob.Piece
import SkipPath.Text.Word

/-!
The rules that turn a line of an ignore file into a fragment of a skip pattern (`translate` with its
`RULES`).

Ten named rules are applied in order to a working state.  A rule may change the text, note something
about it, or settle the line: keep it with a fragment or drop it for a reason.  Rules after that are not
applied.
-/

namespace SkipPath.Glob

/-- Why a line has no fragment. -/
inductive DropReason where
  /-- The line is empty or a comment. -/
  | comment
  /-- The line exempts paths from others. -/
  | exemption
  /-- The line is about a folder that is skipped anyhow. -/
  | redundantDot
  /-- The fragment would match nearly everything. -/
  | tooShort
deriving Repr, DecidableEq

/-- The name of a reason. -/
def DropReason.name : DropReason → Text
  | .comment => Text.ofString "comment"
  | .exemption => Text.ofString "exemption"
  | .redundantDot => Text.ofString "redundant-dot"
  | .tooShort => Text.ofString "too-short"

/-- What becomes of a line. -/
inductive Outcome where
  | kept (fragment : Text)
  | dropped (reason : DropReason)
deriving Repr, DecidableEq

/-- The state that the rules work on. -/
structure Working where
  /-- The line as it is, without the blanks that do not count. -/
  line : Text
  /-- What the rules have made of the line. -/
  text : Text
  skipDotFolders : Bool
  hasSlash : Bool := false
  /-- The text is a star, a dot and the rest of a name. -/
  isExtension : Bool := false
  /-- The text is one name without wildcards. -/
  isBareWord : Bool := false
  outcome : Option Outcome := none
deriving Repr, DecidableEq

namespace Working

/-- The state before the first rule. -/
def start (line : Text) (skipDotFolders : Bool) : Working :=
  { line := stripLine line, text := stripLine line, skipDotFolders := skipDotFolders }

/-- Drop the line. -/
def drop (w : Working) (reason : DropReason) : Working := { w with outcome := some (.dropped reason) }

/-- Keep the line. -/
def keep (w : Working) (fragment : Text) : Working := { w with outcome := some (.kept fragment) }

end Working

/-- Whether a text starts with a dot that a word character or a star follows, or with a dollar. -/
def startsDotted : Text → Bool
  | '.' :: c :: _ => Text.isWord c || c = '*'
  | '$' :: _ => true
  | _ => false

/-- The spellings of the pattern for names that end in a tilde. -/
def swapFileGlobs : List Text := [['*', '~'], ['*', '~', '$']]

/-- Whether a text is a run of stars and then of blanks. -/
def isContents (t : Text) : Bool := Text.isAllBlank (dropStars t)

/-- The text cut after the first slash that only stars and blanks follow. -/
def cutContents : Text → Text
  | [] => []
  | c :: rest => if c = '/' && isContents rest then ['/'] else c :: cutContents rest

/-- The text with two or more stars and a slash at its start made one slash. -/
def cutDoubleStar (t : Text) : Text :=
  match t with
  | '*' :: '*' :: rest =>
    match dropStars rest with
    | '/' :: after => '/' :: after
    | _ => t
  | _ => t

/-- Whether a text is a star, a dot, and a name that starts with a word character or a class. -/
def startsExtension : Text → Bool
  | '*' :: '.' :: c :: _ => Text.isWord c || c = '['
  | _ => false

/-- A character that keeps a text from being one plain name. -/
def isGlobChar (c : CodePoint) : Bool := c = '*' || c = '?' || c = '[' || c = ']' || c = '\\'

/-- The text as a regular expression.  The star of an extension is left out, since the end of the
pattern is fixed instead. -/
def convertWorking (w : Working) : Text := convert (if w.isExtension then w.text.drop 1 else w.text)

/-- The text with the anchors of its kind.  A plain name is matched as a whole name, and as a folder
unless it looks like the name of a file. -/
def anchor (w : Working) : Text :=
  if w.isExtension then w.text ++ [.char '$']
  else if w.isBareWord then
    .char '/' :: w.text ++ (if w.line.contains (.char '.') then [] else [.char '/'])
  else w.text

/-- The shortest fragment that is kept, in characters. -/
def minFragmentLength : Nat := 2

/-- What becomes of a line whose text is final. -/
def settle (w : Working) : Outcome :=
  if w.text.length < minFragmentLength then .dropped .tooShort else .kept w.text

/-- A rule. -/
structure Rule where
  name : Text
  apply : Working → Working

namespace Rule

/-- Empty lines and comments are dropped. -/
def blankOrComment : Rule where
  name := Text.ofString "blank_or_comment"
  apply w := if w.text.isEmpty || w.text.head? = some (.char '#') then w.drop .comment else w

/-- Exemptions are dropped. -/
def exemption : Rule where
  name := Text.ofString "exemption"
  apply w := if w.text.head? = some (.char '!') then w.drop .exemption else w

/-- Folders that start with a dot or a dollar need no fragment of their own when all of them are
skipped. -/
def redundantDot : Rule where
  name := Text.ofString "redundant_dot"
  apply w := if w.skipDotFolders && startsDotted w.text then w.drop .redundantDot else w

/-- Names that end in a tilde are the backup files of editors. -/
def swapFile : Rule where
  name := Text.ofString "swap_file"
  apply w := if swapFileGlobs.contains w.text then w.keep ['~', '$'] else w

/-- A folder and all it holds are the folder. -/
def trailingContents : Rule where
  name := Text.ofString "trailing_contents"
  apply w := { w with text := cutContents w.text }

/-- A pattern that is not anchored matches at any depth, so two stars and a slash at the start say no
more than the slash. -/
def leadingDoubleStar : Rule where
  name := Text.ofString "leading_double_star"
  apply w := { w with text := cutDoubleStar w.text }

/-- Notes which kind of text it is. -/
def classify : Rule where
  name := Text.ofString "classify"
  apply w :=
    let hasSlash := w.text.contains '/'
    { w with
      hasSlash := hasSlash
      isExtension := !hasSlash && startsExtension w.text
      isBareWord := !hasSlash && !w.text.any isGlobChar }

/-- Writes the glob as a regular expression. -/
def wildcards : Rule where
  name := Text.ofString "wildcards"
  apply w := { w with text := convertWorking w }

/-- Puts the anchors. -/
def anchors : Rule where
  name := Text.ofString "anchors"
  apply w := { w with text := anchor w }

/-- A fragment that is too short is dropped, any other is kept. -/
def minimumLength : Rule where
  name := Text.ofString "minimum_length"
  apply w := { w with outcome := some (settle w) }

/-- All rules, in order. -/
def all : List Rule :=
  [blankOrComment, exemption, redundantDot, swapFile, trailingContents, leadingDoubleStar, classify,
    wildcards, anchors, minimumLength]

/-- The states after each rule, up to the rule that settles the line. -/
def run : List Rule → Working → List (Rule × Working)
  | [], _ => []
  | rule :: rules, w =>
    let w' := rule.apply w
    (rule, w') :: if w'.outcome.isSome then [] else run rules w'

end Rule

end SkipPath.Glob
