import SkipPath.Proofs.Export.CommandLine
import SkipPath.Proofs.Profile.Usable
import SkipPath.Proofs.Results

/-!
How the command prompt of Windows reads the script.

A line of a batch file is read twice.  First the references to variables in it are replaced, without regard to quotes:
two percent signs are one, a name between percent signs is the value of a variable, and a lone percent sign is taken
away (`Batch.expand`).  Then the line is run, and what stands between its double quotes is the variable that it sets,
an equals sign and the value (`Batch.assigned?`).

The script of a pattern sets the variable to what the first reading makes of the pattern
(`Batch.run_assignment`).  That is the pattern itself, whatever the values of variables, exactly if there is no percent
sign in it (`cmd_keeps_pattern_iff`); for where no variable is set, each percent sign costs a character
(`Batch.length_expand_lt`).  Lines of ignore files may have percent signs, which come through to the pattern
(`percent_sign_lost`).
-/

namespace SkipPath

namespace Batch

/-! ## 1. References in a line -/

/-- The values of variables.  That of a variable that is not set is empty. -/
abbrev Values := Text → Text

/-- No variable is set. -/
def Values.unset : Values := fun _ => []

/-- How far the replacing of references is in a line. -/
structure Expansion where
  /-- What the line has come to so far. -/
  made : Text := []
  /-- What stands behind a percent sign that may begin a reference. -/
  name : Option Text := none

namespace Expansion

/-- Take one character. -/
def step (values : Values) (e : Expansion) (c : CodePoint) : Expansion :=
  match e.name with
  | none => if c = '%' then { e with name := some [] } else { e with made := e.made ++ [c] }
  | some name =>
    if c = .char '%' then { made := e.made ++ (if name.isEmpty then [.char '%'] else values name) }
    else { e with name := some (name ++ [c]) }

/-- What a line comes to at its end.  A percent sign without a second one begins no reference. -/
def text (e : Expansion) : Text := e.made ++ e.name.getD []

end Expansion

/-- A line with its references replaced. -/
def expand (values : Values) (line : Text) : Text := (line.foldl (Expansion.step values) {}).text

namespace Expansion

variable (values : Values)

/-- A text without percent signs stays what it is, be it that it belongs to a name. -/
theorem foldl_plain {t : Text} (ht : .char '%' ∉ t) (e : Expansion) :
    t.foldl (step values) e =
      match e.name with
      | none => { e with made := e.made ++ t }
      | some name => { e with name := some (name ++ t) } := by
  induction t generalizing e with
  | nil => obtain ⟨made, _ | name⟩ := e <;> simp
  | cons c t ih =>
    have hc : c ≠ '%' := fun he => ht (he ▸ List.mem_cons_self)
    rw [List.foldl_cons, ih fun hmem => ht (List.mem_cons_of_mem c hmem)]
    obtain ⟨made, _ | name⟩ := e <;> simp [step, hc]

theorem text_foldl_plain {t : Text} (ht : .char '%' ∉ t) (e : Expansion) :
    (t.foldl (step values) e).text = e.text ++ t := by
  rw [foldl_plain values ht]
  obtain ⟨made, _ | name⟩ := e <;> simp [text]

/-- What has been made of a line does not matter for what comes after it. -/
theorem foldl_made (front : Text) (t : Text) (e : Expansion) :
    t.foldl (step values) { e with made := front ++ e.made } =
      { t.foldl (step values) e with made := front ++ (t.foldl (step values) e).made } := by
  induction t generalizing e with
  | nil => rfl
  | cons c t ih =>
    have hstep : step values { e with made := front ++ e.made } c =
        { step values e c with made := front ++ (step values e c).made } := by
      obtain ⟨made, _ | name⟩ := e <;> by_cases hc : c = '%' <;> simp [step, hc]
    rw [List.foldl_cons, List.foldl_cons, hstep, ih]

end Expansion

/-- References stand in the middle of a line. -/
theorem expand_append {front back : Text} (hfront : .char '%' ∉ front) (hback : .char '%' ∉ back)
    (values : Values) (t : Text) :
    expand values (front ++ t ++ back) = front ++ expand values t ++ back := by
  have hstart : front.foldl (Expansion.step values) {} = { made := front ++ [] } := by
    rw [Expansion.foldl_plain values hfront]
    simp
  have hmade := Expansion.foldl_made values front t {}
  rw [expand, List.foldl_append, List.foldl_append, hstart, hmade, Expansion.text_foldl_plain values hback, expand]
  simp [Expansion.text]

/-- A line without percent signs refers to nothing. -/
theorem expand_plain (values : Values) {t : Text} (ht : .char '%' ∉ t) : expand values t = t :=
  Expansion.text_foldl_plain values ht {}

/-- Where no variable is set, a character of a line comes to one character at most. -/
theorem Expansion.length_step (e : Expansion) (c : CodePoint) :
    (step .unset e c).text.length ≤ e.text.length + 1 := by
  obtain ⟨made, _ | name⟩ := e
  · by_cases hc : c = '%' <;> simp [step, text, hc]
  · by_cases hc : c = '%'
    · cases name <;> simp [step, text, hc, Values.unset]
      omega
    · simp [step, text, hc, Nat.add_assoc]

theorem Expansion.length_foldl (t : Text) (e : Expansion) :
    (t.foldl (step .unset) e).text.length ≤ e.text.length + t.length := by
  induction t generalizing e with
  | nil => exact Nat.le_refl _
  | cons c t ih =>
    calc ((c :: t).foldl (step .unset) e).text.length
        ≤ (step .unset e c).text.length + t.length := ih _
      _ ≤ e.text.length + (c :: t).length := by
        have hstep := length_step e c
        rw [List.length_cons]
        omega

/-- The first percent sign of a line begins a reference. -/
theorem foldl_open (values : Values) {front : Text} (hfront : .char '%' ∉ front) (back : Text) :
    (front ++ .char '%' :: back).foldl (Expansion.step values) {} =
      back.foldl (Expansion.step values) { made := front, name := some [] } := by
  rw [List.foldl_append, Expansion.foldl_plain values hfront]
  rfl

/-- A percent sign that is the only one is taken away. -/
theorem expand_lone (values : Values) {front back : Text} (hfront : .char '%' ∉ front) (hback : .char '%' ∉ back) :
    expand values (front ++ .char '%' :: back) = front ++ back := by
  rw [expand, foldl_open values hfront, Expansion.foldl_plain values hback]
  rfl

/-- Where no variable is set, a line with a percent sign comes to less. -/
theorem length_expand_lt {t : Text} (ht : .char '%' ∈ t) : (expand .unset t).length < t.length := by
  obtain ⟨front, back, rfl, hfront⟩ := List.eq_append_cons_of_mem ht
  rw [expand, foldl_open _ hfront]
  calc (back.foldl (Expansion.step .unset) { made := front, name := some [] }).text.length
      ≤ (front ++ []).length + back.length := Expansion.length_foldl back _
    _ < (front ++ .char '%' :: back).length := by
      simp only [List.length_append, List.length_nil, List.length_cons]
      omega

/-! ## 2. Running a line -/

/-- How the command that sets a variable begins. -/
def setStart : Text := Text.ofString "@set \""

/-- The variable that a line sets, and its value: what stands in front of the first equals sign between the quotes,
and what stands behind it.  A line is read only if it has no quotes but these two. -/
def assigned? (line : Text) : Option (Text × Text) :=
  let body := line.drop setStart.length
  let inner := body.takeWhile (· ≠ .char '"')
  if setStart.isPrefixOf line ∧ body.drop inner.length = [.char '"'] ∧ .char '=' ∈ inner then
    some (inner.takeWhile (· ≠ .char '='), (inner.dropWhile (· ≠ .char '=')).tail)
  else none

/-- What comes of a batch file, if it has one line. -/
def run (values : Values) (file : Text) : Option (Text × Text) :=
  match Text.splitLines file with
  | [line] => assigned? (expand values line)
  | _ => none

/-- A text is read up to the first of the characters that end it. -/
theorem takeWhile_ne {stop : CodePoint} {t : Text} (ht : stop ∉ t) (rest : Text) :
    (t ++ stop :: rest).takeWhile (· ≠ stop) = t := by
  rw [List.takeWhile_append_of_pos fun c hc => decide_eq_true (ne_of_mem_of_not_mem hc ht),
    List.takeWhile_cons_of_neg (by simp), List.append_nil]

theorem dropWhile_ne {stop : CodePoint} {t : Text} (ht : stop ∉ t) (rest : Text) :
    (t ++ stop :: rest).dropWhile (· ≠ stop) = stop :: rest := by
  rw [List.dropWhile_append_of_pos fun c hc => decide_eq_true (ne_of_mem_of_not_mem hc ht),
    List.dropWhile_cons_of_neg (by simp)]

/-- Between two quotes a variable is set to a value without quotes. -/
theorem assigned?_set {name : Text} (hname : .char '"' ∉ name ∧ .char '=' ∉ name) (value : Text) :
    assigned? (setStart ++ name ++ .char '=' :: value ++ [.char '"']) =
      if .char '"' ∈ value then none else some (name, value) := by
  have hsplit : setStart ++ name ++ .char '=' :: value ++ [.char '"'] =
      setStart ++ (name ++ .char '=' :: value ++ [.char '"']) := by
    simp only [List.append_assoc]
  have hstart : setStart.isPrefixOf (setStart ++ (name ++ .char '=' :: value ++ [.char '"'])) = true :=
    List.isPrefixOf_iff_prefix.mpr (List.prefix_append _ _)
  have hfree {part : Text} (hpart : .char '"' ∉ part) : .char '"' ∉ name ++ .char '=' :: part := by
    simp [hname.1, hpart]
  rw [assigned?, hsplit, hstart, List.drop_left]
  by_cases hvalue : .char '"' ∈ value
  · -- The first quote of the value is the one that ends it, and there is more behind it.
    obtain ⟨part, rest, rfl, hpart⟩ := List.eq_append_cons_of_mem hvalue
    have hbody : name ++ .char '=' :: (part ++ .char '"' :: rest) ++ [.char '"'] =
        (name ++ .char '=' :: part) ++ .char '"' :: (rest ++ [.char '"']) := by simp
    rw [if_pos hvalue, hbody, takeWhile_ne (hfree hpart), List.drop_left, if_neg]
    simp
  · rw [if_neg hvalue, takeWhile_ne (hfree hvalue), List.drop_left, if_pos (by simp), takeWhile_ne hname.2,
      dropWhile_ne hname.2, List.tail_cons]

/-- The script sets the variable to what becomes of the pattern, unless there is a quote in that. -/
theorem run_assignment {pattern : Text} (hline : .char '\n' ∉ pattern) (values : Values) :
    run values (Export.assignment .cmd pattern) =
      if .char '"' ∈ expand values pattern then none else some (Export.variableName, expand values pattern) := by
  have hassignment : Export.assignment .cmd pattern =
      (setStart ++ Export.variableName ++ [.char '=']) ++ pattern ++ [.char '"'] := by
    rw [List.append_assoc _ [CodePoint.char '=']]
    rfl
  have hone : .char '\n' ∉ Export.assignment .cmd pattern := by
    simp only [hassignment, List.mem_append, hline, or_false]
    decide
  have hread := @assigned?_set Export.variableName (by decide) (expand values pattern)
  rw [run, Text.splitLines_line hone]
  simp only
  rw [hassignment, expand_append (by decide) (by decide), ← hread, List.append_assoc _ [CodePoint.char '=']]
  rfl

end Batch

namespace Export

/-- **The script for the command prompt sets the variable to what the replacing of references makes of the pattern, if
that has no double quote; and this is the pattern, whatever the values of variables, exactly if there is no percent
sign in it.** -/
theorem cmd_keeps_pattern_iff {pattern : Text} (hquote : .char '"' ∉ pattern) (hline : .char '\n' ∉ pattern) :
    (∀ values, Batch.run values (assignment .cmd pattern) =
      if .char '"' ∈ Batch.expand values pattern then none else some (variableName, Batch.expand values pattern)) ∧
    ((∀ values, Batch.run values (assignment .cmd pattern) = some (variableName, pattern)) ↔ .char '%' ∉ pattern) := by
  refine ⟨Batch.run_assignment hline, fun hkeeps hpercent => ?_, fun hpercent values => ?_⟩
  · -- Where no variable is set, the pattern loses characters.
    have hunset := hkeeps .unset
    rw [Batch.run_assignment hline] at hunset
    split at hunset
    · cases hunset
    · have hsame : Batch.expand .unset pattern = pattern := (Prod.mk.inj (Option.some.inj hunset)).2
      have hless := Batch.length_expand_lt hpercent
      rw [hsame] at hless
      exact Nat.lt_irrefl _ hless
  · rw [Batch.run_assignment hline, Batch.expand_plain values hpercent, if_neg hquote]

/-- A reference and two percent signs are read as such; a pattern with neither is set in every environment. -/
theorem cmd_keeps_pattern_iff_references :
    Batch.run .unset (assignment .cmd (Text.ofString "a%A%%%b")) = some (variableName, Text.ofString "a%b") ∧
    (∀ values, Batch.run values (assignment .cmd (Text.ofString "\\\\[\\$\\.]|a^&b")) =
      some (variableName, Text.ofString "\\\\[\\$\\.]|a^&b")) := by
  refine ⟨?_, (cmd_keeps_pattern_iff (by decide) (by decide)).2.mpr (by decide)⟩
  rw [(cmd_keeps_pattern_iff (by decide) (by decide)).1]
  decide +kernel

/-- A file with one line, which has a percent sign, for the command prompt of Windows. -/
def percentSign : Task where
  text := some (Text.ofString "100%")
  config := { Config.standard with shell := .cmd }
  root := Path.ofString "/w/app"

/-- Whatever the values of variables, the percent sign of the line does not reach the variable. -/
theorem percent_sign_lost : ∃ p pattern, percentSign.compile.outcome = .ok p ∧ p.isUsable = true ∧
    p.pattern = some pattern ∧ pattern = Text.ofString "\\\\[\\$\\.]|\\\\100%\\\\\\\\" ∧
    .char '"' ∉ pattern ∧ .char '\n' ∉ pattern ∧
    ∀ values, Batch.run values (assignment p.config.shell pattern) =
        some (variableName, Text.ofString "\\\\[\\$\\.]|\\\\100\\\\\\\\") ∧
      Batch.run values (assignment p.config.shell pattern) ≠ some (variableName, pattern) := by
  obtain ⟨p, hcompile, hfacts⟩ := exists_ok percentSign.compile.outcome
    (fun p => p.isUsable && (p.config.shell = .cmd &&
      p.pattern = some (Text.ofString "\\\\[\\$\\.]|\\\\100%\\\\\\\\")))
    (by decide +kernel)
  obtain ⟨husable, hrest⟩ := Bool.and_eq_true_iff.mp hfacts
  obtain ⟨hshell, hpattern⟩ := Bool.and_eq_true_iff.mp hrest
  have hexpand (values : Batch.Values) :
      Batch.expand values (Text.ofString "\\\\[\\$\\.]|\\\\100%\\\\\\\\") =
        Text.ofString "\\\\[\\$\\.]|\\\\100\\\\\\\\" :=
    @Batch.expand_lone values (Text.ofString "\\\\[\\$\\.]|\\\\100") _ (by decide) (by decide)
  refine ⟨p, _, hcompile, husable, of_decide_eq_true hpattern, rfl, by decide, by decide, fun values => ?_⟩
  rw [of_decide_eq_true hshell, Batch.run_assignment (by decide), hexpand, if_neg (by decide)]
  exact ⟨rfl, by decide⟩

end Export

end SkipPath
