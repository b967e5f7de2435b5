import SkipPath.Proofs.Profile.Compiled

/-!
The lines of a text together with the breaks that end them.

A text can be taken apart into its lines and their breaks without a loss (`flatMap_whole_brokenLines`), and
any lines with breaks that are put together are the lines of the text that they make (`Broken.splitLines`),
unless a line has a line feed in it or ends in a return that would go with the line feed after it.  So lines
can be changed one by one in a text, with all breaks left as they are (`splitLines_mapLines`).  Breaks are blank,
so that the lines of a text tell whether it is blank (`isAllBlank_eq_all_lines`).
-/

namespace SkipPath.Text

/-- A line with the break that ends it, if one does. -/
structure EndedLine where
  line : Text
  ending : Text
deriving Repr, DecidableEq

/-- A line and its break as they stand in a text. -/
def EndedLine.whole (l : EndedLine) : Text := l.line ++ l.ending

/-- The lines of a text with their breaks.  There is always a last line, which has none. -/
def brokenLines : Text → List EndedLine
  | [] => [⟨[], []⟩]
  | '\n' :: rest => ⟨[], ['\n']⟩ :: brokenLines rest
  | '\r' :: '\n' :: rest => ⟨[], ['\r', '\n']⟩ :: brokenLines rest
  | c :: rest =>
    match brokenLines rest with
    | [] => [⟨[c], []⟩]
    | l :: more => ⟨c :: l.line, l.ending⟩ :: more

/-- Lines with breaks that are the lines of the text that they make. -/
inductive Broken : List EndedLine → Prop where
  | last {line : Text} (hline : .char '\n' ∉ line) : Broken [⟨line, []⟩]
  | feed {line : Text} {more : List EndedLine} (hline : .char '\n' ∉ line) (hend : line.getLast? ≠ some (.char '\r'))
    (hmore : Broken more) : Broken (⟨line, ['\n']⟩ :: more)
  | returnFeed {line : Text} {more : List EndedLine} (hline : .char '\n' ∉ line) (hmore : Broken more) :
    Broken (⟨line, ['\r', '\n']⟩ :: more)

theorem Broken.ne_nil {ls : List EndedLine} (h : Broken ls) : ls ≠ [] := by
  cases h <;> exact List.cons_ne_nil _ _

/-- The lines of the text that lines with breaks make. -/
theorem Broken.splitLines {ls : List EndedLine} (h : Broken ls) :
    splitLines (ls.flatMap EndedLine.whole) = ls.map (·.line) := by
  induction h with
  | last hline => simpa [EndedLine.whole] using splitLines_line hline
  | feed hline hend _ ih =>
    simp only [List.flatMap_cons, EndedLine.whole, List.append_assoc, List.singleton_append, List.map_cons]
    rw [splitLines_line_newline hline hend, ← ih]
  | returnFeed hline _ ih =>
    simp only [List.flatMap_cons, EndedLine.whole, List.append_assoc, List.cons_append, List.nil_append,
      List.map_cons]
    rw [splitLines_line_return_newline hline, ← ih]

/-- A character in front of the first line leaves lines with breaks what they are, if it makes no break. -/
theorem Broken.cons {c : CodePoint} {l : EndedLine} {more : List EndedLine} (h : Broken (l :: more))
    (hc : c ≠ .char '\n') (hreturn : c = .char '\r' → (l.whole).head? ≠ some (.char '\n')) :
    Broken (⟨c :: l.line, l.ending⟩ :: more) := by
  have hcons : ∀ {line : Text}, .char '\n' ∉ line → .char '\n' ∉ c :: line := by
    intro line hline
    simp [Ne.symm hc, hline]
  cases h with
  | last hline => exact .last (hcons hline)
  | returnFeed hline hmore => exact .returnFeed (hcons hline) hmore
  | @feed line _ hline hend hmore =>
    refine .feed (hcons hline) (fun he => ?_) hmore
    cases line with
    | nil => exact hreturn (by simpa using he) rfl
    | cons d line => exact hend (by simpa using he)

/-- Nothing of a text is lost when it is taken apart. -/
theorem flatMap_whole_brokenLines (t : Text) : (brokenLines t).flatMap EndedLine.whole = t := by
  fun_induction brokenLines t with
  | case1 => rfl
  | case2 rest ih => simp [EndedLine.whole, ih]
  | case3 rest ih => simp [EndedLine.whole, ih]
  | case4 c rest _ _ hnil ih => simp_all [EndedLine.whole]
  | case5 c rest _ _ l more hlines ih => simp_all [EndedLine.whole]

theorem broken_brokenLines (t : Text) : Broken (brokenLines t) := by
  fun_induction brokenLines t with
  | case1 => exact .last List.not_mem_nil
  | case2 rest ih => exact .feed List.not_mem_nil (by simp) ih
  | case3 rest ih => exact .returnFeed List.not_mem_nil ih
  | case4 c rest _ _ hnil ih => exact absurd hnil ih.ne_nil
  | case5 c rest hfeed hreturn l more hlines ih =>
    have hwhole := flatMap_whole_brokenLines rest
    rw [hlines] at ih hwhole
    refine ih.cons (fun he => hfeed he) fun he hhead => ?_
    obtain ⟨more', hmore⟩ := List.head?_eq_some_iff.mp hhead
    rw [List.flatMap_cons, hmore, List.cons_append] at hwhole
    exact hreturn _ he hwhole.symm

/-- The lines of a text are those that it is taken apart into. -/
theorem splitLines_eq_brokenLines (t : Text) : splitLines t = (brokenLines t).map (·.line) := by
  rw [← (broken_brokenLines t).splitLines, flatMap_whole_brokenLines]

/-- Breaks are blank. -/
theorem Broken.isAllBlank_whole {ls : List EndedLine} (h : Broken ls) :
    isAllBlank (ls.flatMap EndedLine.whole) = (ls.map (·.line)).all isAllBlank := by
  have happend (t u : Text) : isAllBlank (t ++ u) = (isAllBlank t && isAllBlank u) := List.all_append
  have hfeed : isAllBlank ['\n'] = true := by decide
  have hreturnFeed : isAllBlank ['\r', '\n'] = true := by decide
  induction h with
  | last hline => simp [EndedLine.whole]
  | feed _ _ _ ih =>
    rw [List.flatMap_cons, happend, ih, EndedLine.whole, happend, hfeed, Bool.and_true]
    rfl
  | returnFeed _ _ ih =>
    rw [List.flatMap_cons, happend, ih, EndedLine.whole, happend, hreturnFeed, Bool.and_true]
    rfl

/-- A text is blank if all of its lines are. -/
theorem isAllBlank_eq_all_lines (t : Text) : isAllBlank t = (splitLines t).all isAllBlank := by
  rw [splitLines_eq_brokenLines, ← (broken_brokenLines t).isAllBlank_whole, flatMap_whole_brokenLines]

/-- A text with each of its lines changed, and with its breaks as they are. -/
def mapLines (f : Text → Text) (t : Text) : Text :=
  (brokenLines t).flatMap fun l => f l.line ++ l.ending

section mapLines

variable {f : Text → Text} (hfeed : ∀ line, .char '\n' ∉ line → .char '\n' ∉ f line)
  (hreturn : ∀ line, (f line).getLast? = some (.char '\r') → line.getLast? = some (.char '\r'))
include hfeed hreturn

theorem Broken.map {ls : List EndedLine} (h : Broken ls) :
    Broken (ls.map fun l => ⟨f l.line, l.ending⟩) := by
  induction h with
  | last hline => exact .last (hfeed _ hline)
  | feed hline hend _ ih => exact .feed (hfeed _ hline) (fun he => hend (hreturn _ he)) ih
  | returnFeed hline _ ih => exact .returnFeed (hfeed _ hline) ih

/-- Lines that are changed stay lines, if no line feed gets into them and no return to their ends. -/
theorem splitLines_mapLines (t : Text) : splitLines (mapLines f t) = (splitLines t).map f := by
  have hlines := (Broken.map hfeed hreturn (broken_brokenLines t)).splitLines
  rw [List.flatMap_map, List.map_map] at hlines
  rw [splitLines_eq_brokenLines t, List.map_map]
  exact hlines

end mapLines

end SkipPath.Text
