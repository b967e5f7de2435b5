import SkipPath.Export.Ledger
import SkipPath.Fragment.Merge
import Mathlib.Data.List.Induction
import Mathlib.Data.List.TakeWhile

/-!
How terminals read back what is exported.

A terminal cuts a command into words by its own rules for quotes and backslashes.  Both readers here go
through a command once, one character at a time: `Bourne.read` by the rules of the Bourne shells and
`Windows.read` by those by which a Windows program takes its arguments apart.  They give no words for a
command in which a quote stays open.

A Bourne shell takes the command that sets the variable for two words, of which the second holds the
pattern character by character (`assignment_read_back`).  For Windows all comes down to a text in double
quotes: the run of backslashes at its end counts half (`Windows.foldl_opened`, `Windows.step_quote_even`), which is
just what `Fragment.protectEnd` makes up for (`Windows.protected_argument`).
-/

namespace SkipPath

/-! ## 1. Words -/

/-- The words of a command that have been read. -/
structure Words where
  /-- The words that are complete. -/
  complete : List Text := []
  /-- The word one is in, if there is one. -/
  current : Option Text := none
deriving DecidableEq

namespace Words

/-- The word one is in goes on with a text.  Between two words, one begins. -/
def extend (w : Words) (t : Text) : Words := { w with current := some (w.current.getD [] ++ t) }

/-- The word one is in is complete. -/
def close (w : Words) : Words := { complete := w.complete ++ w.current.toList }

theorem extend_extend (w : Words) (t u : Text) : (w.extend t).extend u = w.extend (t ++ u) := by
  rw [extend, extend, extend, Option.getD_some, List.append_assoc]

end Words

/-! ## 2. Bourne shells -/

namespace Bourne

/-- How a Bourne shell takes the next character. -/
inductive Mode where
  /-- It may have a meaning of its own. -/
  | bare
  /-- It stands between single quotes. -/
  | quoted
  /-- It follows a backslash. -/
  | escaped
deriving DecidableEq

/-- How far a Bourne shell is in a command. -/
structure Reader where
  words : Words := {}
  mode : Mode := .bare
deriving DecidableEq

/-- The characters that outside of quotes make a shell do more than cut words. -/
def operators : List CodePoint :=
  ['\n', '"', '$', '\x60', '|', '&', ';', '<', '>', '(', ')', '*', '?', '[', '#', '~', '\x7b', '!']

/-- Take one character.  A command in which more is to be done than to cut words is not read. -/
def step (r : Reader) (c : CodePoint) : Option Reader :=
  match r.mode with
  | .quoted =>
    some (if c = '\'' then { r with mode := .bare } else { r with words := r.words.extend [c] })
  | .escaped => if c = '\n' then none else some { words := r.words.extend [c] }
  | .bare =>
    if c = '\'' then some { words := r.words.extend [], mode := .quoted }
    else if c = '\\' then some { r with mode := .escaped }
    else if c = ' ' ∨ c = '\t' then some { r with words := r.words.close }
    else if c ∈ operators then none
    else some { r with words := r.words.extend [c] }

/-- The words of a command. -/
def read (command : Text) : Option (List Text) := do
  let r ← command.foldlM step {}
  if r.mode = .bare then some r.words.close.complete else none

/-- Between single quotes, what stands for a character is read as that character. -/
theorem foldlM_quoteCharPosix (w : Words) (t : Text) (c : CodePoint) :
    (Export.quoteCharPosix c).foldlM step { words := w.extend t, mode := .quoted } =
      some { words := w.extend (t ++ [c]), mode := .quoted } := by
  by_cases hc : c = '\''
  · -- the quotes are closed, the character is written with a backslash, and they are opened again
    subst hc
    have hread : (Export.quoteCharPosix '\'').foldlM step { words := w.extend t, mode := .quoted } =
        some { words := ((w.extend t).extend ['\'']).extend [], mode := .quoted } := rfl
    rw [hread, Words.extend_extend, Words.extend_extend, List.append_nil]
  · rw [Export.quoteCharPosix, if_neg hc]
    simp only [List.foldlM_cons, List.foldlM_nil, step, if_neg hc, Words.extend_extend]
    rfl

/-- Between single quotes, what stands for a text is read as that text. -/
theorem foldlM_quoted (w : Words) (t pattern : Text) :
    (pattern.flatMap Export.quoteCharPosix).foldlM step { words := w.extend t, mode := .quoted } =
      some { words := w.extend (t ++ pattern), mode := .quoted } := by
  induction pattern generalizing t with
  | nil => rw [List.flatMap_nil, List.foldlM_nil, List.append_nil]; rfl
  | cons c pattern ih =>
    rw [List.flatMap_cons, List.foldlM_append, foldlM_quoteCharPosix, Option.bind_eq_bind,
      Option.bind_some, ih, List.append_assoc]
    rfl

end Bourne

namespace Export

variable {shell : Shell}

/-- The command that sets the variable, up to the quote before the pattern. -/
def assignmentStart : Text := Text.ofString "export " ++ variableName ++ [.char '=', .char '\'']

theorem assignment_of_bourne (h : shell.isCmd = false) (pattern : Text) :
    assignment shell pattern = assignmentStart ++ (pattern.flatMap quoteCharPosix ++ [.char '\'']) := by
  rw [assignment, if_neg (by rw [h]; exact Bool.false_ne_true), assignmentStart]
  simp only [List.append_assoc, List.cons_append, List.nil_append]

theorem foldlM_assignmentStart :
    assignmentStart.foldlM Bourne.step {} =
      some { words := Words.extend { complete := [Text.ofString "export"] } (variableName ++ [.char '=']),
             mode := .quoted } := by
  decide +kernel

/-- A Bourne shell takes the command that sets the variable for `export` and one word more. -/
theorem read_assignment (h : shell.isCmd = false) (pattern : Text) :
    Bourne.read (assignment shell pattern) =
      some [Text.ofString "export", variableName ++ .char '=' :: pattern] := by
  have hfold : (assignment shell pattern).foldlM Bourne.step {} =
      some { words := .extend { complete := [Text.ofString "export"] } (variableName ++ [.char '='] ++ pattern) } := by
    rw [assignment_of_bourne h, List.foldlM_append, foldlM_assignmentStart, Option.bind_eq_bind,
      Option.bind_some, List.foldlM_append, Bourne.foldlM_quoted]
    rfl
  rw [Bourne.read, hfold, List.append_assoc]
  rfl

/-- The command that sets the variable is read back as the variable with the pattern, character by
character; so it tells patterns apart. -/
theorem assignment_read_back (h : shell.isCmd = false) (pattern : Text) :
    Bourne.read (assignment shell pattern) =
        some [Text.ofString "export", variableName ++ .char '=' :: pattern] ∧
      ∀ (shell' : Shell) (pattern' : Text), shell'.isCmd = false →
        assignment shell' pattern' = assignment shell pattern → pattern' = pattern := by
  refine ⟨read_assignment h pattern, fun shell' pattern' h' hsame => ?_⟩
  have hwords := read_assignment h' pattern'
  rw [hsame, read_assignment h pattern] at hwords
  have hword := (List.cons.inj (List.cons.inj (Option.some.inj hwords)).2).1
  exact (List.cons.inj (List.append_cancel_left hword)).2.symm

/-- A pattern of a quote, a backslash, a line feed and a quote. -/
theorem assignment_read_back_quotes :
    Bourne.read (assignment .mingw ['\'', '\\', '\n', '\'']) =
      some [Text.ofString "export", Text.ofString "Skip_Git_Paths='\\\n'"] :=
  (@assignment_read_back .mingw rfl ['\'', '\\', '\n', '\'']).1

end Export

/-! ## 3. Arguments on Windows -/

namespace Windows

/-- How far a Windows program is in its arguments. -/
structure Reader where
  words : Words := {}
  /-- Whether one is between double quotes. -/
  quoted : Bool := false
  /-- The backslashes read last.  What follows decides what they mean. -/
  pending : Nat := 0
deriving DecidableEq

/-- The words when the backslashes read last stand for themselves. -/
def Reader.settled (r : Reader) : Words :=
  if r.pending = 0 then r.words else r.words.extend (List.replicate r.pending '\\')

/-- Take one character.  Before a double quote backslashes count half, and an odd one takes the quote for
the word; anywhere else they stand for themselves. -/
def step (r : Reader) (c : CodePoint) : Reader :=
  if c = '\\' then { r with pending := r.pending + 1 }
  else if c = '"' then
    let words := r.words.extend (List.replicate (r.pending / 2) '\\')
    if r.pending % 2 = 0 then { words := words, quoted := !r.quoted }
    else { words := words.extend ['"'], quoted := r.quoted }
  else if (c = ' ' ∨ c = '\t') ∧ r.quoted = false then { words := r.settled.close }
  else { words := r.settled.extend [c], quoted := r.quoted }

/-- The arguments that a text is taken apart to. -/
def read (t : Text) : Option (List Text) :=
  let r := t.foldl step {}
  if r.quoted then none else some r.settled.close.complete

end Windows

/-- The backslashes that a text ends in. -/
def Text.endRun (t : Text) : Nat := (Text.takeEndWhile (· == '\\') t).length

namespace Text

theorem takeEndWhile_eq_replicate (t : Text) :
    takeEndWhile (· == .char '\\') t = List.replicate t.endRun (.char '\\') := by
  refine List.eq_replicate_iff.mpr ⟨rfl, fun c hc => ?_⟩
  rw [takeEndWhile, List.mem_reverse] at hc
  have hheld : (c == .char '\\') = true := List.mem_takeWhile_imp (p := (· == CodePoint.char '\\')) hc
  exact beq_iff_eq.mp hheld

/-- A text is what stands before its last backslashes, and these. -/
theorem dropEnd_append_replicate (t : Text) :
    dropEndWhile (· == .char '\\') t ++ List.replicate t.endRun (.char '\\') = t := by
  rw [← takeEndWhile_eq_replicate, dropEndWhile_append_takeEndWhile]

theorem endRun_concat_backslash (t : Text) : endRun (t ++ [.char '\\']) = t.endRun + 1 := by
  rw [endRun, takeEndWhile, List.reverse_append, List.reverse_singleton, List.singleton_append,
    List.takeWhile_cons_of_pos rfl, List.reverse_cons, List.length_append]
  rfl

theorem dropEnd_concat_backslash (t : Text) :
    dropEndWhile (· == .char '\\') (t ++ [.char '\\']) = dropEndWhile (· == .char '\\') t := by
  rw [dropEndWhile, List.reverse_append, List.reverse_singleton, List.singleton_append,
    List.dropWhile_cons_of_pos rfl]
  rfl

theorem endRun_concat {c : CodePoint} (hc : c ≠ '\\') (t : Text) : endRun (t ++ [c]) = 0 := by
  rw [endRun, takeEndWhile, List.reverse_append, List.reverse_singleton, List.singleton_append,
    List.takeWhile_cons_of_neg (by rwa [beq_iff_eq])]
  rfl

theorem dropEnd_concat {c : CodePoint} (hc : c ≠ '\\') (t : Text) :
    dropEndWhile (· == '\\') (t ++ [c]) = t ++ [c] := by
  rw [dropEndWhile, List.reverse_append, List.reverse_singleton, List.singleton_append,
    List.dropWhile_cons_of_neg (by rwa [beq_iff_eq]), ← List.singleton_append, List.reverse_append,
    List.reverse_reverse, List.reverse_singleton]

/-- Only what follows the last character that is no backslash counts. -/
theorem endRun_append_cons {c : CodePoint} (hc : c ≠ '\\') (front t : Text) : endRun (front ++ c :: t) = t.endRun := by
  induction t using List.reverseRecOn with
  | nil => exact endRun_concat hc front
  | append_singleton t d ih =>
    rw [← List.cons_append, ← List.append_assoc]
    by_cases hd : d = '\\'
    · rw [hd, endRun_concat_backslash, endRun_concat_backslash, ih]
    · rw [endRun_concat hd, endRun_concat hd]

theorem endRun_eq_zero_iff {t : Text} : t.endRun = 0 ↔ t.getLast? ≠ some (.char '\\') := by
  cases t using List.reverseRecOn with
  | nil => simp [endRun, takeEndWhile]
  | append_singleton t c =>
    by_cases hc : c = '\\'
    · simp [hc, endRun_concat_backslash]
    · simp [hc, endRun_concat]

theorem endRun_append_replicate (t : Text) (n : Nat) :
    endRun (t ++ List.replicate n (.char '\\')) = t.endRun + n := by
  induction n with
  | zero => rw [List.replicate_zero, List.append_nil, Nat.add_zero]
  | succ n ih =>
    rw [List.replicate_succ', ← List.append_assoc, endRun_concat_backslash, ih, Nat.add_assoc]

theorem dropEnd_append_replicate' (t : Text) (n : Nat) :
    dropEndWhile (· == .char '\\') (t ++ List.replicate n (.char '\\')) = dropEndWhile (· == .char '\\') t := by
  induction n with
  | zero => rw [List.replicate_zero, List.append_nil]
  | succ n ih => rw [List.replicate_succ', ← List.append_assoc, dropEnd_concat_backslash, ih]

theorem endRun_protectEnd (t : Text) : endRun (Fragment.protectEnd t) = t.endRun + t.endRun := by
  rw [Fragment.protectEnd, takeEndWhile_eq_replicate, endRun_append_replicate]

theorem dropEnd_protectEnd (t : Text) :
    dropEndWhile (· == '\\') (Fragment.protectEnd t) = dropEndWhile (· == '\\') t := by
  rw [Fragment.protectEnd, takeEndWhile_eq_replicate, dropEnd_append_replicate']

/-- An even number of backslashes at the end of a text is what half of them come to when they come twice. -/
theorem exists_protectEnd {t : Text} (h : t.endRun % 2 = 0) : ∃ u, Fragment.protectEnd u = t := by
  have hhalf : t.endRun = t.endRun / 2 + t.endRun / 2 := by omega
  refine ⟨dropEndWhile (· == .char '\\') t ++ List.replicate (t.endRun / 2) (.char '\\'), ?_⟩
  have hrun : endRun (dropEndWhile (· == '\\') t) = 0 := by
    have hsplit := congrArg endRun (dropEnd_append_replicate t)
    rw [endRun_append_replicate] at hsplit
    omega
  rw [Fragment.protectEnd, takeEndWhile_eq_replicate, endRun_append_replicate, hrun, Nat.zero_add,
    List.append_assoc, List.replicate_append_replicate, ← hhalf, dropEnd_append_replicate]

/-- What stands in front of the backslashes at the end is kept, and their number can be told. -/
theorem protectEnd_injective : Function.Injective Fragment.protectEnd := by
  intro t u hsame
  have hrun := congrArg endRun hsame
  have hfront := congrArg (dropEndWhile (· == '\\')) hsame
  rw [endRun_protectEnd, endRun_protectEnd] at hrun
  rw [dropEnd_protectEnd, dropEnd_protectEnd] at hfront
  have hcount : t.endRun = u.endRun := by omega
  rw [← dropEnd_append_replicate t, hfront, hcount, dropEnd_append_replicate]

end Text

namespace Windows

section quote

variable {r : Reader}

/-- Behind an even number of backslashes a double quote opens or closes. -/
theorem step_quote_even (h : r.pending % 2 = 0) :
    step r '"' = { words := r.words.extend (List.replicate (r.pending / 2) '\\'), quoted := !r.quoted } := by
  rw [step, if_neg (by decide), if_pos rfl, if_pos h]

/-- Behind an odd number of them it goes into the word. -/
theorem step_quote_odd (h : r.pending % 2 = 1) :
    step r '"' =
      { words := (r.words.extend (List.replicate (r.pending / 2) '\\')).extend ['"'], quoted := r.quoted } := by
  have hodd : ¬ r.pending % 2 = 0 := by omega
  rw [step, if_neg (by decide), if_pos rfl, if_neg hodd]

end quote

/-- The words of a text between double quotes, as far as its last backslashes. -/
theorem foldl_quoted {t : Text} (hquote : .char '"' ∉ t) (w : Words) :
    t.foldl step { words := w.extend [], quoted := true } =
      { words := w.extend (Text.dropEndWhile (· == '\\') t), quoted := true, pending := Text.endRun t } := by
  induction t using List.reverseRecOn with
  | nil => rfl
  | append_singleton t c ih =>
    rw [List.mem_append, not_or] at hquote
    rw [List.foldl_append, List.foldl_cons, List.foldl_nil, ih hquote.1]
    by_cases hc : c = '\\'
    · subst hc
      rw [Text.dropEnd_concat_backslash, Text.endRun_concat_backslash]
      rfl
    · have hne : c ≠ '"' := fun he => hquote.2 (he ▸ List.mem_singleton.mpr rfl)
      have hsettled : Reader.settled
          { words := w.extend (Text.dropEndWhile (· == '\\') t)
            quoted := true
            pending := Text.endRun t } = w.extend t := by
        have ht := Text.dropEnd_append_replicate t
        unfold Reader.settled
        split
        · next hzero =>
          change Text.endRun t = 0 at hzero
          rw [hzero, List.replicate_zero, List.append_nil] at ht
          rw [ht]
        · rw [Words.extend_extend, ht]
      rw [Text.dropEnd_concat hc, Text.endRun_concat hc, step, if_neg hc, if_neg hne,
        if_neg fun h => Bool.noConfusion h.2, hsettled, Words.extend_extend]

/-- A double quote begins a word, and what follows up to the next one goes into it. -/
theorem foldl_opened {t : Text} (hquote : .char '"' ∉ t) (w : Words) :
    (.char '"' :: t).foldl step { words := w } =
      { words := w.extend (Text.dropEndWhile (· == '\\') t), quoted := true, pending := Text.endRun t } := by
  have hopen : step { words := w } '"' = { words := w.extend [], quoted := true } := by
    rw [step_quote_even rfl]
    simp only [Nat.zero_div, List.replicate_zero, Bool.not_false]
  rw [List.foldl_cons, hopen, foldl_quoted hquote]

/-- No quote comes in with the backslashes. -/
theorem quote_not_mem_protectEnd {t : Text} (hquote : .char '"' ∉ t) : .char '"' ∉ Fragment.protectEnd t := by
  rw [Fragment.protectEnd, Text.takeEndWhile_eq_replicate, List.mem_append, not_or]
  exact ⟨hquote, fun h => absurd (List.eq_of_mem_replicate h) (by decide)⟩

/-- A text in double quotes of which the backslashes at the end come twice goes into the word as it is. -/
theorem foldl_doubleQuoted {t : Text} (hquote : .char '"' ∉ t) (w : Words) :
    (Export.doubleQuoted (Fragment.protectEnd t)).foldl step { words := w } =
      { words := w.extend t } := by
  have heven : (t.endRun + t.endRun) % 2 = 0 := by omega
  have hhalf : (t.endRun + t.endRun) / 2 = t.endRun := by omega
  rw [Export.doubleQuoted, List.foldl_append, foldl_opened (quote_not_mem_protectEnd hquote), Text.endRun_protectEnd,
    Text.dropEnd_protectEnd, List.foldl_cons, List.foldl_nil, step_quote_even heven]
  simp only [hhalf, Words.extend_extend, Text.dropEnd_append_replicate, Bool.not_true]

theorem read_protected {t : Text} (hquote : .char '"' ∉ t) :
    read (Export.doubleQuoted (Fragment.protectEnd t)) = some [t] := by
  rw [read, foldl_doubleQuoted hquote]
  rfl

/-- An odd number of backslashes at the end keeps the argument open. -/
theorem read_odd {t : Text} (hquote : .char '"' ∉ t) (hodd : t.endRun % 2 = 1) :
    read (Export.doubleQuoted t) = none := by
  rw [read, Export.doubleQuoted, List.foldl_append, foldl_opened hquote, List.foldl_cons, List.foldl_nil,
    step_quote_odd hodd]
  rfl

/-- **Protected texts are read back.**  A text without double quotes is read back as one argument if it stands between
double quotes with the backslashes at its end twice, and no other text without double quotes is read as it there.  No
two texts are protected alike. -/
theorem protected_argument :
    (∀ t, .char '"' ∉ t → read (Export.doubleQuoted (Fragment.protectEnd t)) = some [t] ∧
      ∀ u, .char '"' ∉ u → read (Export.doubleQuoted u) = some [t] → u = Fragment.protectEnd t) ∧
    Function.Injective Fragment.protectEnd := by
  refine ⟨fun t hquote => ⟨read_protected hquote, fun u hu hread => ?_⟩, Text.protectEnd_injective⟩
  rcases Nat.mod_two_eq_zero_or_one u.endRun with heven | hodd
  · obtain ⟨inner, rfl⟩ := Text.exists_protectEnd heven
    have hinner : .char '"' ∉ inner := fun h => hu (List.mem_append_left _ h)
    rw [read_protected hinner] at hread
    rw [(List.cons.inj (Option.some.inj hread)).1]
  · rw [read_odd hu hodd] at hread
    cases hread

/-- A folder with backslashes in front, in the middle, before a blank, and three of them at the end. -/
theorem protected_argument_folder :
    .char '"' ∉ Text.ofString "\\\\srv\\ b\\\\\\" ∧ .char '"' ∉ Text.ofString "\\\\srv\\ b\\\\\\\\\\\\" ∧
    read (Export.doubleQuoted (Fragment.protectEnd (Text.ofString "\\\\srv\\ b\\\\\\"))) =
      some [Text.ofString "\\\\srv\\ b\\\\\\"] ∧
    read (Text.ofString "\"\\\\srv\\ b\\\\\\\\\\\\\"") = some [Text.ofString "\\\\srv\\ b\\\\\\"] ∧
    Text.ofString "\\\\srv\\ b\\\\\\\\\\\\" = Fragment.protectEnd (Text.ofString "\\\\srv\\ b\\\\\\") := by
  have hquote : .char '"' ∉ Text.ofString "\\\\srv\\ b\\\\\\" := by decide +kernel
  have hother : .char '"' ∉ Text.ofString "\\\\srv\\ b\\\\\\\\\\\\" := by decide +kernel
  have hread : read (Text.ofString "\"\\\\srv\\ b\\\\\\\\\\\\\"") = some [Text.ofString "\\\\srv\\ b\\\\\\"] := by
    decide +kernel
  obtain ⟨hback, honly⟩ := protected_argument.1 _ hquote
  exact ⟨hquote, hother, hback, hread, honly _ hother hread⟩

end Windows

end SkipPath
