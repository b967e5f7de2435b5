import SkipPath.Proofs.Export.Necessity
import SkipPath.Text.Lines

/-!
Commands in which the variable stands for a pattern.

The pattern in double quotes is looked for from left to right, and a reference to the variable takes the place of
each one that is found.  So the command is cut into pieces without the quoted pattern, and references stand between
them (`exists_pieces`).

Whoever puts the quoted pattern back for the references has the command again (`replaceAll_replaceAll`).  A
reference starts with a quote, and none stands in the name behind it.  What is put in starts with that quote, too, so
the name of a reference can begin with nothing that was put in (`prefix_of_replaceAll`): where a reference stands,
one was put in, or the name was in the command from the beginning.
-/

namespace SkipPath

namespace Export

/-! ## 1. Replacing a part of a text -/

section parts

variable {part value : Text}

theorem replaceAll_nil (part value : Text) : replaceAll part value [] = [] := by rw [replaceAll]

/-- A part that stands at the beginning is replaced. -/
theorem replaceAll_append (hpart : part ≠ []) (value t : Text) :
    replaceAll part value (part ++ t) = value ++ replaceAll part value t := by
  obtain ⟨c, rest, rfl⟩ := List.exists_cons_of_ne_nil hpart
  have hfound : (c :: rest).isPrefixOf (c :: (rest ++ t)) = true :=
    List.isPrefixOf_iff_prefix.mpr (List.prefix_append (c :: rest) t)
  rw [List.cons_append, replaceAll, hfound]
  simp

/-- A character at which the part does not begin stays. -/
theorem replaceAll_cons {c : CodePoint} {t : Text} (h : ¬ part <+: c :: t) (value : Text) :
    replaceAll part value (c :: t) = c :: replaceAll part value t := by
  have hnot : part.isPrefixOf (c :: t) = false :=
    Bool.eq_false_iff.mpr fun hfound => h (List.isPrefixOf_iff_prefix.mp hfound)
  rw [replaceAll, hnot]
  rfl

/-- A text is empty, or it begins with a part, or with a character at which the part does not begin. -/
@[elab_as_elim]
theorem part_induction (hpart : part ≠ []) {motive : Text → Prop} (nil : motive [])
    (found : ∀ t, motive t → motive (part ++ t))
    (passed : ∀ c t, ¬ part <+: c :: t → motive t → motive (c :: t)) (t : Text) : motive t := by
  induction hlength : t.length using Nat.strongRecOn generalizing t with
  | ind n ih =>
    cases t with
    | nil => exact nil
    | cons c t =>
      by_cases hstarts : part <+: c :: t
      · obtain ⟨rest, hrest⟩ := hstarts
        have hpos := List.length_pos_iff.mpr hpart
        rw [← hrest]
        refine found rest (ih rest.length ?_ rest rfl)
        rw [← hlength, ← hrest, List.length_append]
        omega
      · refine passed c t hstarts (ih t.length ?_ t rfl)
        rw [← hlength, List.length_cons]
        omega

/-- A text is pieces without a part and that part between them, and to replace the part is to put something else
between the pieces. -/
theorem exists_pieces (hpart : part ≠ []) (t : Text) :
    ∃ pieces : List Text, pieces ≠ [] ∧ Text.join part pieces = t ∧ (∀ piece ∈ pieces, ¬ part <:+: piece) ∧
      ∀ value, replaceAll part value t = Text.join value pieces := by
  induction t using part_induction hpart with
  | nil =>
    refine ⟨[[]], List.cons_ne_nil _ _, rfl, fun piece hpiece hin => ?_, fun value => replaceAll_nil part value⟩
    rw [List.mem_singleton.mp hpiece] at hin
    exact hpart (List.infix_nil.mp hin)
  | found t ih =>
    obtain ⟨pieces, hne, hjoin, hnone, hreplaced⟩ := ih
    obtain ⟨first, more, rfl⟩ := List.exists_cons_of_ne_nil hne
    refine ⟨[] :: first :: more, List.cons_ne_nil _ _, ?_, ?_, fun value => ?_⟩
    · show [] ++ part ++ Text.join part (first :: more) = part ++ t
      rw [hjoin, List.nil_append]
    · intro piece hpiece hin
      rcases List.mem_cons.mp hpiece with rfl | hpiece
      · exact hpart (List.infix_nil.mp hin)
      · exact hnone piece hpiece hin
    · rw [replaceAll_append hpart, hreplaced value]
      rfl
  | passed c t hnot ih =>
    obtain ⟨pieces, hne, hjoin, hnone, hreplaced⟩ := ih
    obtain ⟨first, more, rfl⟩ := List.exists_cons_of_ne_nil hne
    have hcons : ∀ sep : Text, Text.join sep ((c :: first) :: more) = c :: Text.join sep (first :: more) := by
      intro sep
      cases more <;> rfl
    refine ⟨(c :: first) :: more, List.cons_ne_nil _ _, ?_, ?_, fun value => ?_⟩
    · rw [hcons, hjoin]
    · intro piece hpiece hin
      rcases List.mem_cons.mp hpiece with rfl | hpiece
      · rcases List.infix_cons_iff.mp hin with hstarts | hinner
        · -- the first piece is what the text begins with
          have hfirst : first <+: t := by
            rw [← hjoin]
            cases more with
            | nil => exact List.prefix_refl first
            | cons next more => exact ⟨part ++ Text.join part (next :: more), (List.append_assoc ..).symm⟩
          exact hnot (hstarts.trans (List.cons_prefix_cons.mpr ⟨rfl, hfirst⟩))
        · exact hnone first List.mem_cons_self hinner
      · exact hnone piece (List.mem_cons_of_mem _ hpiece) hin
    · rw [replaceAll_cons hnot, hreplaced value, hcons]

/-- What begins with nothing that was put in stood there before. -/
theorem prefix_of_replaceAll (hpart : part ≠ []) {first : CodePoint} {rest : Text} {t u : Text} (hfirst : first ∉ t)
    (h : t <+: replaceAll part (first :: rest) u) : t <+: u := by
  induction u using part_induction hpart generalizing t with
  | nil => rwa [replaceAll_nil] at h
  | found u ih =>
    cases t with
    | nil => exact List.nil_prefix
    | cons c t =>
      rw [replaceAll_append hpart, List.cons_append, List.cons_prefix_cons] at h
      exact absurd (h.1 ▸ List.mem_cons_self) hfirst
  | passed c u hnot ih =>
    cases t with
    | nil => exact List.nil_prefix
    | cons d t =>
      rw [replaceAll_cons hnot, List.cons_prefix_cons] at h
      exact List.cons_prefix_cons.mpr ⟨h.1, ih (fun hmem => hfirst (List.mem_cons_of_mem d hmem)) h.2⟩

/-- What was put in can be taken out again, if it has a mark behind its first character that the text did not have
before. -/
theorem replaceAll_replaceAll (hpart : part ≠ []) {first : CodePoint} {mark rest t : Text} (hfirst : first ∉ mark)
    (hmark : ¬ mark <:+: t) :
    replaceAll (first :: (mark ++ rest)) part (replaceAll part (first :: (mark ++ rest)) t) = t := by
  induction t using part_induction hpart with
  | nil => rw [replaceAll_nil, replaceAll_nil]
  | found t ih =>
    have hbehind : ¬ mark <:+: t := fun hin => hmark (hin.trans (List.suffix_append part t).isInfix)
    rw [replaceAll_append hpart, replaceAll_append (List.cons_ne_nil _ _), ih hbehind]
  | passed c t hnot ih =>
    have hbehind : ¬ mark <:+: t := fun hin => hmark (hin.trans (List.suffix_cons c t).isInfix)
    have hmade : ¬ first :: (mark ++ rest) <+: c :: replaceAll part (first :: (mark ++ rest)) t := by
      intro hstarts
      have hafter := (List.cons_prefix_cons.mp hstarts).2
      exact hbehind (prefix_of_replaceAll hpart hfirst ((List.prefix_append mark rest).trans hafter)).isInfix
    rw [replaceAll_cons hnot, replaceAll_cons hmade, ih hbehind]

end parts

/-! ## 2. References -/

/-- A reference has the name of the variable behind its first quote, and no other quote up to the end of that. -/
theorem reference_split (shell : Shell) :
    ∃ mark rest, reference shell = .char '"' :: (mark ++ rest) ∧ .char '"' ∉ mark ∧ variableName <:+: mark := by
  cases hcmd : shell.isCmd with
  | true =>
    refine ⟨'%' :: variableName, ['%', '"'], ?_, by decide +kernel, (List.suffix_cons _ _).isInfix⟩
    rw [reference, hcmd]
    rfl
  | false =>
    refine ⟨'$' :: variableName, ['"'], ?_, by decide +kernel, (List.suffix_cons _ _).isInfix⟩
    rw [reference, hcmd]
    rfl

/-- References stand in a command for a pattern in double quotes. -/
structure Refers (shell : Shell) (pattern command result : Text) : Prop where
  /-- All that is between them is as it was, and there the pattern stands in quotes no more. -/
  pieces : ∃ pieces : List Text, Text.join (doubleQuoted pattern) pieces = command ∧
    Text.join (reference shell) pieces = result ∧ ∀ piece ∈ pieces, ¬ doubleQuoted pattern <:+: piece
  /-- With the pattern put back for the references, the command is what it was. -/
  restored : replaceAll (reference shell) (doubleQuoted pattern) result = command

theorem refers_replaceAll (shell : Shell) (pattern : Text) {command : Text}
    (hfree : ¬ variableName <:+: command) :
    Refers shell pattern command (replaceAll (doubleQuoted pattern) (reference shell) command) := by
  have hquoted : doubleQuoted pattern ≠ [] := List.cons_ne_nil _ _
  constructor
  case pieces =>
    obtain ⟨pieces, -, hjoin, hnone, hreplaced⟩ := exists_pieces hquoted command
    exact ⟨pieces, hjoin, (hreplaced (reference shell)).symm, hnone⟩
  case restored =>
    obtain ⟨mark, rest, hreference, hquote, hname⟩ := reference_split shell
    rw [hreference]
    exact replaceAll_replaceAll hquoted hquote fun hmark => hfree (hname.trans hmark)

end Export

/-! ## 3. Commands -/

namespace Export

variable {p : Profile} {found : Except Fault Path} {r : Record} {force : Bool}
  {trouble : Attempt → Option Files.Error} {placement : Option Placement}

/-- Where the variable is to carry the pattern, an export that gives a place at all gives the variable. -/
theorem placed_of_carries {pattern : Text} (h : p.Carries pattern)
    (hplaced : placed p found r force trouble = .ok placement) :
    ∃ script, placement = some (.externalized variableName script) := by
  unfold placed at hplaced
  rw [if_neg (Profile.isUsable_of_usable h.1)] at hplaced
  split at hplaced
  · cases hplaced
  · next script =>
    rcases plan_of_carries h script r force with ⟨hplan, -⟩ | ⟨hplan, -⟩
    · rw [hplan] at hplaced
      exact ⟨script, (Except.ok.inj hplaced).symm⟩
    · rw [hplan] at hplaced
      simp only at hplaced
      split at hplaced
      · cases hplaced
      · exact ⟨script, (Attempt.map_ending_eq_ok.mp hplaced).2.symm⟩

/-- Without a pattern for the variable a command stays as it is. -/
theorem withReference_of_not_carries (h : ¬ ∃ pattern, p.Carries pattern)
    (hplaced : placed p found r force trouble = .ok placement) (after : Record) (command : Text) :
    withReference p placement after command = command := by
  cases placement with
  | none => rfl
  | some place =>
    cases place with
    | inlined pattern => rfl
    | externalized name script' =>
      obtain ⟨-, pattern, hcarries, -⟩ := placed_externalized hplaced
      exact absurd ⟨pattern, hcarries⟩ h

/-- Without a script that was written it stays as it is, too. -/
theorem withReference_of_not_succeeded {after : Record} (h : after.succeeded = false) (command : Text) :
    withReference p placement after command = command := by
  unfold withReference
  rw [h]
  cases placement with
  | none => rfl
  | some place => cases place <;> rfl

/-- Otherwise references are put into it. -/
theorem refers_withReference {pattern command : Text} (hfree : ¬ variableName <:+: command)
    (hcarries : p.Carries pattern) (hplaced : placed p found r force trouble = .ok placement)
    {after : Record} (hsucceeded : after.succeeded = true) :
    Refers p.config.shell pattern command (withReference p placement after command) := by
  have hpattern := Profile.pattern_of_usable hcarries.1
  obtain ⟨script, hplacement⟩ := placed_of_carries hcarries hplaced
  have hreplaced : withReference p placement after command =
      replaceAll (doubleQuoted pattern) (reference p.config.shell) command := by
    rw [hplacement, withReference, hpattern, if_pos hsucceeded, Option.getD_some]
  rw [hreplaced]
  exact refers_replaceAll p.config.shell pattern hfree

end Export

theorem Work.on_withReference (held : Held) (command : Text) (w : Workspace) :
    (withReference held command).on w =
      match (exportProfile held false).on w with
      | (.ok placement, w') =>
        (.ok (Export.withReference held.profile placement (w'.ledger.get held.record) command), w')
      | (.error fault, w') => (.error fault, w') := by
  simp only [withReference, on_bind]
  cases (exportProfile held false).on w with
  | mk result w' => cases result <;> rfl

/-- **A pattern that was replaced can be put back.**  Replacing the pattern of a profile in a command that does
not name the variable exports the profile, and ends in a fault exactly if that does: if there is no script, or
one has to be written and no system takes its path or its pattern cannot be encoded.  Otherwise the command
stays as it is, unless the variable is to carry the pattern and the script is there; and then references stand
for the pattern, and the command can be had again. -/
theorem pattern_put_back (held : Held) {command : Text} (hfree : ¬ Export.variableName <:+: command)
    (w : Workspace) :
    let e : Exporting := ⟨w, held, false⟩
    ((∃ fault, ((Work.withReference held command).on w).1 = .error fault) ↔ e.Stops) ∧
      ∀ result w', (Work.withReference held command).on w = (.ok result, w') → w' = e.after ∧
        ((¬ ∃ pattern, held.profile.Carries pattern) ∨ e.recordAfter.succeeded = false → result = command) ∧
        ∀ pattern, held.profile.Carries pattern → e.recordAfter.succeeded = true →
          Export.Refers held.profile.config.shell pattern command result := by
  intro e
  have hon := Work.on_withReference held command w
  have hplaced : e.result =
      Export.placed held.profile e.script e.record false fun a => (w.writing a).2 := Exporting.result_eq
  cases hexport : (Work.exportProfile held false).on w with
  | mk placed after =>
    have hresult : e.result = placed := congrArg Prod.fst hexport
    have hafter : e.after = after := congrArg Prod.snd hexport
    rw [hresult] at hplaced
    rw [hexport] at hon
    cases placed with
    | error fault =>
      rw [hon]
      refine ⟨iff_of_true ⟨fault, rfl⟩ (Exporting.stops_iff.mp ⟨fault, hresult⟩), ?_⟩
      intro result w' h
      cases h
    | ok placement =>
      rw [hon]
      refine ⟨iff_of_false (fun ⟨fault, h⟩ => by cases h) fun hfault => ?_, fun result w' h => ?_⟩
      · obtain ⟨fault, herror⟩ := Exporting.stops_iff.mpr hfault
        cases hresult.symm.trans herror
      · obtain ⟨hok, rfl⟩ := Prod.mk.inj h
        obtain rfl := Except.ok.inj hok
        have hrecord : after.ledger.get held.record = e.recordAfter := by rw [← hafter]; rfl
        rw [hrecord]
        refine ⟨hafter.symm, ?_, fun pattern hcarries hsucceeded => ?_⟩
        · rintro (hnot | hfailed)
          · exact Export.withReference_of_not_carries hnot hplaced.symm _ command
          · exact Export.withReference_of_not_succeeded hfailed command
        · exact Export.refers_withReference hfree hcarries hplaced.symm hsucceeded

/-- A command with two quoted patterns side by side, and one more that shares a quote with the second of them. -/
def Retry.sharing : Text := Text.ofString "grep \"/a\"\"/a\"/a\" x"

open Retry in
/-- The two are replaced, the third is not one any more, and all of it comes back. -/
theorem pattern_put_back_overlapping : ∃ result,
    ((Work.withReference held sharing).on first.before).1 = .ok result ∧
      result = Text.ofString "grep \"$Skip_Git_Paths\"\"$Skip_Git_Paths\"/a\" x" ∧
      Export.Refers .posix ['/', 'a'] sharing result := by
  have hfree : ¬ Export.variableName <:+: sharing := by decide +kernel
  have hresult : ((Work.withReference held sharing).on first.before).1 =
      .ok (Text.ofString "grep \"$Skip_Git_Paths\"\"$Skip_Git_Paths\"/a\" x") := by
    decide +kernel
  refine ⟨_, hresult, rfl, ?_⟩
  cases hon : (Work.withReference held sharing).on first.before with
  | mk answer after =>
    rw [hon] at hresult
    subst hresult
    obtain ⟨-, -, hrefers⟩ := (pattern_put_back held hfree first.before).2 _ after hon
    exact hrefers ['/', 'a'] ⟨by decide +kernel, by decide +kernel⟩ (by decide +kernel)

open Retry in
/-- There is no command where the path of the project leads to no script; nor where the pattern cannot be encoded,
though the record may still claim the success of another export. -/
theorem no_command_without_script :
    ¬ Export.variableName <:+: sharing ∧
      (unplaced.profile.Carries ['/', 'a'] ∧
        ((Work.withReference unplaced sharing).on first.before).1 = .error .nulInPath) ∧
      unencodable.profile.Carries ['/', .ofNat 0xDC80] ∧ fourth.recordAfter.succeeded = true ∧
        ((Work.withReference unencodable sharing).on fourth.before).1 = .error (.encoding ⟨0xDC80, 24, 24⟩) := by
  refine ⟨by decide +kernel, ⟨⟨by decide +kernel, by decide +kernel⟩, by decide +kernel⟩,
    ⟨by decide +kernel, by decide +kernel⟩, by decide +kernel, by decide +kernel⟩

end SkipPath
