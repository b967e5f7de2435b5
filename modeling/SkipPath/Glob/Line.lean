import SkipPath.Text.Blank

/-!
A line of an ignore file without the blanks that do not count (`_strip_line`).

Blanks at the start never count.  Blanks at the end do not count either, unless a backslash stands
before them: then the first of them is kept.
-/

namespace SkipPath.Glob

/-- The line without the blanks that do not count. -/
def stripLine (line : Text) : Text :=
  let t := Text.trimStart line
  let body := Text.trimEnd t
  let blanks := Text.takeEndWhile Text.isBlank t
  if body.getLast? = some (.char '\\') then body ++ blanks.take 1 else body

end SkipPath.Glob
