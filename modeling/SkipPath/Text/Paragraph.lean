import SkipPath.Text.Ascii
import SkipPath.Text.Lines

/-!
A text in lines of at most so many characters (`textwrap`).

The text is cut into chunks: blanks, words, and the parts of a word with hyphens.  A line takes chunks as
long as they fit.  No line starts or ends with a blank.  A chunk that is longer than a whole line is broken,
if it can be, after a hyphen.
-/

namespace SkipPath.Text

/-- The parts of a word.  A part ends after a hyphen that stands between two letters and two letters.
`part` holds the current part, last character first. -/
def hyphenParts (part : Text) : Text → List Text
  | [] => if part.isEmpty then [] else [part.reverse]
  | c :: rest =>
    let cuts := match c, part, rest with
      | '-', b :: a :: _, d :: e :: _ => [a, b, d, e].all isAsciiLetter
      | _, _, _ => false
    if cuts then (c :: part).reverse :: hyphenParts [] rest else hyphenParts (c :: part) rest

/-- The chunks of a text in which single blanks part the words. -/
def chunks (t : Text) : List Text :=
  ((splitAtChar (.char ' ') t).map (hyphenParts [])).intersperse [[.char ' ']] |>.flatten

/-- A line of chunks, last first, without a blank at its end; nothing if nothing is left. -/
def endLine (line : List Text) : List Text :=
  let kept := match line with
    | last :: before => if last.all (· == ' ') then before else line
    | [] => []
  if kept.isEmpty then [] else [kept.reverse.flatten]

/-- How much of a chunk is put on a line that has so much space, though not all of it fits. -/
def breakPoint (space : Nat) (chunk : Text) : Nat :=
  let head := chunk.take space
  let before := (head.reverse.dropWhile (· != .char '-')).drop 1
  if before.any (· != '-') then before.length + 1 else space

/-- Something of a chunk is taken if there is any space. -/
theorem breakPoint_pos {space : Nat} (chunk : Text) (h : 0 < space) : 0 < breakPoint space chunk := by
  simp only [breakPoint]
  split <;> omega

/-- Chunks in lines.  `line` holds the chunks of the current line, last first, and `size` its length. -/
def fillFrom (width : Nat) (line : List Text) (size : Nat) : List Text → List Text
  | [] => endLine line
  | chunk :: rest =>
    if line.isEmpty && chunk == [.char ' '] then fillFrom width [] size rest
    else if size + chunk.length ≤ width then fillFrom width (chunk :: line) (size + chunk.length) rest
    else if chunk.length ≤ width then endLine line ++ fillFrom width [] 0 (chunk :: rest)
    else
      let n := breakPoint (if width = 0 then 1 else width - size) chunk
      endLine (chunk.take n :: line) ++ fillFrom width [] 0 (chunk.drop n :: rest)
termination_by chunks => (chunks.flatten.length + chunks.length, size)
decreasing_by
  · exact .left _ _ (by simp only [List.flatten_cons, List.length_append, List.length_cons]; omega)
  · exact .left _ _ (by simp only [List.flatten_cons, List.length_append, List.length_cons]; omega)
  · exact .right _ (by omega)
  · have hn : 0 < n ∨ 0 < size := by
      by_cases hs : 0 < size
      · exact .inr hs
      · exact .inl (breakPoint_pos chunk (by split <;> omega))
    by_cases h : 0 < n
    · refine .left _ _ ?_
      simp only [List.flatten_cons, List.length_append, List.length_cons, List.length_drop]
      omega
    · have : chunk.drop n = chunk := by rw [Nat.eq_zero_of_not_pos h, List.drop_zero]
      rw [this]
      exact .right _ (by omega)

/-- A text in lines of at most `width` characters. -/
def fill (width : Nat) (t : Text) : List Text := fillFrom width [] 0 (chunks t)

end SkipPath.Text
