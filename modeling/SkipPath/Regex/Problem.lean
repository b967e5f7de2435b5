import SkipPath.Text.Blank
import SkipPath.Text.Quoted

/-!
What can be wrong with the text of a regular expression (`re.error`), what is said about it, and where.

Most problems make the text no regular expression.  Two numbers that are too large, and two switches that
exclude each other, are refused in another way, which callers tell apart by `Problem.kind`.
-/

namespace SkipPath.Regex

/-- The ways in which a text is refused. -/
inductive RefusalKind where
  /-- The text is no regular expression. -/
  | malformed
  /-- A number goes beyond what can be counted. -/
  | overflow
  /-- Switches exclude each other. -/
  | contradiction
deriving Repr, DecidableEq

/-- What is wrong. -/
inductive Problem where
  | escapeAtEnd
  | incompleteEscape (escape : Text)
  | badEscape (escape : Text)
  | octalTooLarge (escape : Text)
  | missingBrace
  | missingName (what : Text)
  | unterminatedName (terminator : CodePoint)
  | undefinedName (name : Text)
  | unterminatedSet
  | badRange (low high : Text)
  | openReference
  | lookbehindReference
  | invalidReference (n : Nat)
  | repeatOrder
  | nothingToRepeat
  | multipleRepeat
  | unexpectedEnd
  | badGroupName (name : Text)
  | unknownGroupName (name : Text)
  | unknownExtension (text : Text)
  | unterminatedComment
  | unterminatedGroup
  | badGroupNumber
  | manyBranches
  | lateFlags
  | localeFlag
  | typeFlagsTogether
  | missingFlagEnd
  | unknownFlag
  | globalFlagOn
  | missingFlag
  | typeFlagOff
  | missingColon
  | globalFlagOff
  | flagOnAndOff
  | redefinedGroup (name : Text) (index earlier : Nat)
  | unbalanced
  | lookbehindWidth
  | lookbehindTooLong
  | templateRepeat (greed : Text)
  | characterTooLarge
  | repetitionTooLarge
  | asciiAndUnicode
deriving Repr, DecidableEq

namespace Problem

/-- The way in which a text with this problem is refused. -/
def kind : Problem → RefusalKind
  | .characterTooLarge | .repetitionTooLarge => .overflow
  | .asciiAndUnicode => .contradiction
  | _ => .malformed

/-- What is said about a problem. -/
def message (problem : Problem) : Text :=
  let say (s : String) (t : Text) := Text.ofString s ++ t
  match problem with
  | .escapeAtEnd => say "bad escape (end of pattern)" []
  | .incompleteEscape escape => say "incomplete escape " escape
  | .badEscape escape => say "bad escape " escape
  | .octalTooLarge escape =>
    say "octal escape value " escape ++ say " outside of range 0-0o377" []
  | .missingBrace => say "missing \x7b" []
  | .missingName what => say "missing " what
  | .unterminatedName terminator => say "missing " [terminator] ++ say ", unterminated name" []
  | .undefinedName name => say "undefined character name " (Text.quoted name)
  | .unterminatedSet => say "unterminated character set" []
  | .badRange low high => say "bad character range " low ++ .char '-' :: high
  | .openReference => say "cannot refer to an open group" []
  | .lookbehindReference =>
    say "cannot refer to group defined in the same lookbehind subpattern" []
  | .invalidReference n => Text.ofString s!"invalid group reference {n}"
  | .repeatOrder => say "min repeat greater than max repeat" []
  | .nothingToRepeat => say "nothing to repeat" []
  | .multipleRepeat => say "multiple repeat" []
  | .unexpectedEnd => say "unexpected end of pattern" []
  | .badGroupName name => say "bad character in group name " (Text.quoted name)
  | .unknownGroupName name => say "unknown group name " (Text.quoted name)
  | .unknownExtension text => say "unknown extension ?" text
  | .unterminatedComment => say "missing ), unterminated comment" []
  | .unterminatedGroup => say "missing ), unterminated subpattern" []
  | .badGroupNumber => say "bad group number" []
  | .manyBranches => say "conditional backref with more than two branches" []
  | .lateFlags => say "global flags not at the start of the expression" []
  | .localeFlag => say "bad inline flags: cannot use 'L' flag with a str pattern" []
  | .typeFlagsTogether => say "bad inline flags: flags 'a', 'u' and 'L' are incompatible" []
  | .missingFlagEnd => say "missing -, : or )" []
  | .unknownFlag => say "unknown flag" []
  | .globalFlagOn => say "bad inline flags: cannot turn on global flag" []
  | .missingFlag => say "missing flag" []
  | .typeFlagOff => say "bad inline flags: cannot turn off flags 'a', 'u' and 'L'" []
  | .missingColon => say "missing :" []
  | .globalFlagOff => say "bad inline flags: cannot turn off global flag" []
  | .flagOnAndOff => say "bad inline flags: flag turned on and off" []
  | .redefinedGroup name index earlier =>
    say "redefinition of group name " (Text.quoted name)
      ++ Text.ofString s!" as group {index}; was group {earlier}"
  | .unbalanced => say "unbalanced parenthesis" []
  | .lookbehindWidth => say "look-behind requires fixed-width pattern" []
  | .lookbehindTooLong => say "looks too much behind" []
  | .templateRepeat greed => say "internal: unsupported template operator " greed
  | .characterTooLarge => say "Python int too large to convert to C int" []
  | .repetitionTooLarge => say "the repetition number is too large" []
  | .asciiAndUnicode => say "ASCII and UNICODE flags are incompatible" []

end Problem

/-- A problem with the place where it was met: how much of the text was still to be read, in characters,
and how far before that the place lies.  Problems of the whole text have no place. -/
structure Trouble where
  problem : Problem
  place : Option (Nat × Nat) := none
deriving Repr, DecidableEq

/-- A refused text: the problem and its position. -/
structure Refusal where
  problem : Problem
  position : Option Nat := none
deriving Repr, DecidableEq

/-- The line and the column of a position, both counted from one. -/
def lineColumn (text : Text) (position : Nat) : Nat × Nat :=
  let before := text.take position
  (before.count (.char '\n') + 1, (Text.takeEndWhile (· != .char '\n') before).length + 1)

/-- What is said about a refused text.  Texts of several lines get the line and the column as well. -/
def Refusal.message (text : Text) (r : Refusal) : Text :=
  match r.problem.kind, r.position with
  | .malformed, some position =>
    let (line, column) := lineColumn text position
    r.problem.message ++ Text.ofString s!" at position {position}"
      ++ (if text.contains '\n' then (Text.ofString s!" (line {line}, column {column})") else [])
  | _, _ => r.problem.message

end SkipPath.Regex
