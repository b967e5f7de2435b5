import SkipPath.Proofs.Files.Write
import SkipPath.Proofs.Profile.Compiled
import SkipPath.Proofs.Files.Links
import SkipPath.Proofs.Workspace.Effect

/-!
Scripts, references and patterns.

The path of a script says for which family of shells it is, and within a family the command that sets the
variable is the same; so a script that is in the right place is readable by the shell of the profile.  And
a reference to the variable can be told from a pattern: every pattern starts with the separator of some
shell, and no reference does.
-/

namespace SkipPath

/-! ## 1. The path of a script -/

namespace Export

/-- The name of a script, given the bytes of the path of its project. -/
def scriptName (full : Path) (bytes : List UInt8) (shell : Shell) : Text :=
  folderLabel full ++ .char '-' :: digestDigits bytes ++ scriptSuffix ++ shell.scriptExtension

theorem child_inj {p : Path} {name name' : Text} (h : p.child name = p.child name') : name = name' :=
  List.singleton_inj.mp (List.append_cancel_left (Path.mk.inj h).2)

theorem scriptName_getLast? (full : Path) (bytes : List UInt8) (shell : Shell) :
    (scriptName full bytes shell).getLast? = some (if shell.isCmd then .char 'd' else .char 'h') := by
  have hlast : shell.scriptExtension.getLast? = some (if shell.isCmd then .char 'd' else .char 'h') := by
    cases shell <;> decide
  rw [scriptName, List.getLast?_append, hlast, Option.some_or]

/-- A script name is no way up. -/
theorem scriptName_isInner (full : Path) (bytes : List UInt8) (shell : Shell) :
    Files.Tree.IsInner (scriptName full bytes shell) := by
  intro h
  have hlast := scriptName_getLast? full bytes shell
  rw [h] at hlast
  revert hlast
  cases shell <;> decide

theorem scriptExtension_congr {shell shell' : Shell} (h : shell.isCmd = shell'.isCmd) :
    shell.scriptExtension = shell'.scriptExtension := by
  revert h
  cases shell <;> cases shell' <;> decide

/-- A script lies in the folder for scripts, if its project has one. -/
theorem scriptPath_eq_ok {scripts full script : Path} {shell : Shell} :
    scriptPath scripts full shell = .ok script ↔
      ∃ bytes, Text.Utf8.encode full.render = .ok bytes ∧
        script = scripts.child (scriptName full bytes shell) := by
  unfold scriptPath scriptLabel
  cases Text.Utf8.encode full.render with
  | error refusal => exact iff_of_false (fun h => nomatch h) fun ⟨_, h, _⟩ => nomatch h
  | ok bytes =>
    constructor
    · intro h
      exact ⟨bytes, rfl, (Except.ok.inj h).symm⟩
    · rintro ⟨_, h, rfl⟩
      cases h
      rfl

/-- A script in the folder for scripts. -/
structure IsScript (scripts : Path) (shell : Shell) (script : Path) : Prop where
  named : ∃ name, script = scripts.child name ∧ Files.Tree.IsInner name ∧
    name.getLast? = some (if shell.isCmd then .char 'd' else .char 'h')

theorem isScript_scriptPath {scripts full script : Path} {shell : Shell}
    (h : scriptPath scripts full shell = .ok script) : IsScript scripts shell script := by
  obtain ⟨bytes, -, rfl⟩ := scriptPath_eq_ok.mp h
  exact ⟨_, rfl, scriptName_isInner _ _ _, scriptName_getLast? _ _ _⟩

/-- Scripts at one path are for one family of shells. -/
theorem IsScript.isCmd_eq {scripts script : Path} {shell shell' : Shell} (h : IsScript scripts shell script)
    (h' : IsScript scripts shell' script) : shell.isCmd = shell'.isCmd := by
  obtain ⟨name, rfl, -, hlast⟩ := h
  obtain ⟨name', hname, -, hlast'⟩ := h'
  cases child_inj hname
  have hsame := hlast.symm.trans hlast'
  revert hsame
  cases shell.isCmd <;> cases shell'.isCmd <;> decide

theorem scriptPath_congr {shell shell' : Shell} (h : shell.isCmd = shell'.isCmd) (scripts full : Path) :
    scriptPath scripts full shell = scriptPath scripts full shell' := by
  rw [scriptPath, scriptPath, scriptExtension_congr h]

/-- A project has scripts for all shells or for none, and a system takes the paths of all or of none. -/
theorem scriptPath_isWritable {scripts full script script' : Path} {shell shell' : Shell}
    (h : scriptPath scripts full shell = .ok script) (h' : scriptPath scripts full shell' = .ok script') :
    script.isWritable = script'.isWritable := by
  obtain ⟨bytes, hbytes, rfl⟩ := scriptPath_eq_ok.mp h
  obtain ⟨bytes', hbytes', rfl⟩ := scriptPath_eq_ok.mp h'
  cases hbytes.symm.trans hbytes'
  have hextension : ∀ sh : Shell, Path.isWritableName sh.scriptExtension = true := by
    intro sh
    cases sh <;> decide
  have hname : ∀ sh : Shell, Path.isWritableName (scriptName full bytes sh) =
      Path.isWritableName (folderLabel full ++ .char '-' :: digestDigits bytes ++ scriptSuffix) := by
    intro sh
    have hclean := hextension sh
    rw [Path.isWritableName] at hclean ⊢
    rw [scriptName, List.all_append, hclean, Bool.and_true, Path.isWritableName]
  simp only [Path.isWritable, Path.child, List.all_append, List.all_cons, hname]

end Export

namespace Workspace

variable {w w' : Workspace} {root : Path} {shell shell' : Shell} {script script' : Path}

theorem scriptPath_eq_ok :
    w.scriptPath root shell = .ok script ↔
      ∃ full, w.resolve root = .ok full ∧ Export.scriptPath w.scripts full shell = .ok script := by
  unfold scriptPath
  cases w.resolve root with
  | error fault => exact iff_of_false (fun h => nomatch h) fun ⟨_, h, _⟩ => nomatch h
  | ok full =>
    have hmap : ∀ x : Except Text.Utf8.Refusal Path, x.mapError Fault.encoding = .ok script ↔ x = .ok script := by
      intro x
      cases x <;> simp [Except.mapError]
    exact (hmap _).trans ⟨fun h => ⟨full, rfl, h⟩, fun ⟨_, hfull, h⟩ => Except.ok.inj hfull ▸ h⟩

theorem isScript_scriptPath (h : w.scriptPath root shell = .ok script) :
    Export.IsScript w.scripts shell script := by
  obtain ⟨full, -, hscript⟩ := scriptPath_eq_ok.mp h
  exact Export.isScript_scriptPath hscript

/-- Where the script of a project with a full path lies does not depend on the folder one is in. -/
theorem scriptPath_of_root (hroot : root.anchor = .root) (hlinks : w'.links = w.links)
    (hscripts : w'.scripts = w.scripts) (shell : Shell) : w'.scriptPath root shell = w.scriptPath root shell := by
  rw [scriptPath, scriptPath, hscripts, resolve_of_root hroot hlinks]

theorem scriptPath_congr (h : shell.isCmd = shell'.isCmd) (w : Workspace) (root : Path) :
    w.scriptPath root shell = w.scriptPath root shell' := by
  simp only [scriptPath, Export.scriptPath_congr h]

theorem scriptPath_isWritable (h : w.scriptPath root shell = .ok script)
    (h' : w.scriptPath root shell' = .ok script') : script.isWritable = script'.isWritable := by
  obtain ⟨full, hfull, hscript⟩ := scriptPath_eq_ok.mp h
  obtain ⟨full', hfull', hscript'⟩ := scriptPath_eq_ok.mp h'
  cases hfull.symm.trans hfull'
  exact Export.scriptPath_isWritable hscript hscript'

/-- A project has a script for every shell or for none. -/
theorem exists_scriptPath (h : w.scriptPath root shell = .ok script) (shell' : Shell) :
    ∃ script', w.scriptPath root shell' = .ok script' := by
  obtain ⟨full, hfull, hscript⟩ := scriptPath_eq_ok.mp h
  obtain ⟨bytes, hbytes, -⟩ := Export.scriptPath_eq_ok.mp hscript
  exact ⟨_, scriptPath_eq_ok.mpr ⟨full, hfull, Export.scriptPath_eq_ok.mpr ⟨bytes, hbytes, rfl⟩⟩⟩

end Workspace

/-! ## 2. The command in a script -/

namespace Export

/-- Within a family of shells the variable is set by the same command. -/
theorem assignment_congr {shell shell' : Shell} (h : shell.isCmd = shell'.isCmd) (pattern : Text) :
    assignment shell pattern = assignment shell' pattern := by
  unfold assignment
  rw [h]

theorem quoteCharPosix_append_inj {c d : CodePoint} {t u : Text}
    (h : quoteCharPosix c ++ t = quoteCharPosix d ++ u) : c = d ∧ t = u := by
  unfold quoteCharPosix at h
  split at h <;> split at h
  · next hc hd => exact ⟨hc.trans hd.symm, List.append_cancel_left h⟩
  · next hc hd => exact absurd (List.cons.inj h).1.symm hd
  · next hc hd => exact absurd (List.cons.inj h).1 hc
  · exact List.cons.inj h

/-- Different patterns are set by different commands. -/
theorem assignment_inj {shell : Shell} {pattern pattern' : Text}
    (h : assignment shell pattern = assignment shell pattern') : pattern = pattern' := by
  have hquoted : ∀ {t u : Text}, t.flatMap quoteCharPosix = u.flatMap quoteCharPosix → t = u := by
    intro t
    induction t with
    | nil =>
      intro u hu
      cases u with
      | nil => rfl
      | cons d u =>
        rw [List.flatMap_nil, List.flatMap_cons, quoteCharPosix] at hu
        split at hu <;> cases hu
    | cons c t ih =>
      intro u hu
      cases u with
      | nil =>
        rw [List.flatMap_nil, List.flatMap_cons, quoteCharPosix] at hu
        split at hu <;> cases hu
      | cons d u =>
        obtain ⟨rfl, hrest⟩ := quoteCharPosix_append_inj hu
        rw [ih hrest]
  unfold assignment at h
  split at h
  · have hbody := List.append_cancel_right h
    exact (List.cons.inj (List.append_cancel_left hbody)).2
  · have hbody := List.append_cancel_left (List.append_cancel_right h)
    exact hquoted (List.cons.inj (List.cons.inj hbody).2).2

end Export

/-! ## 3. Commands that can be encoded -/

namespace Text

/-- A text can be encoded: no surrogate stands alone in it. -/
def Encodable (t : Text) : Prop := ∀ c ∈ t, c.isSurrogate = false

instance (t : Text) : Decidable t.Encodable := inferInstanceAs (Decidable (∀ c ∈ t, c.isSurrogate = false))

@[simp] theorem encodable_cons {c : CodePoint} {t : Text} :
    Encodable (c :: t) ↔ c.isSurrogate = false ∧ t.Encodable := List.forall_mem_cons

@[simp] theorem encodable_append {t u : Text} : (t ++ u).Encodable ↔ t.Encodable ∧ u.Encodable :=
  List.forall_mem_append

@[simp] theorem encodable_nil : Encodable [] := List.forall_mem_nil _

@[simp] theorem encodable_ofString (s : String) : (ofString s).Encodable := by
  intro c hc
  obtain ⟨c, -, rfl⟩ := List.mem_map.mp hc
  rfl

theorem encodable_flatMap {t : Text} {f : CodePoint → Text} :
    Encodable (t.flatMap f) ↔ ∀ c ∈ t, (f c).Encodable := by
  induction t with
  | nil => simp
  | cons c t ih => rw [List.flatMap_cons, encodable_append, ih, List.forall_mem_cons]

theorem Encodable.exists_map {t : Text} (h : t.Encodable) : ∃ cs : List Char, t = cs.map .char := by
  induction t with
  | nil => exact ⟨[], rfl⟩
  | cons c t ih =>
    obtain ⟨hc, ht⟩ := List.forall_mem_cons.mp h
    obtain ⟨cs, rfl⟩ := ih ht
    cases c with
    | char c => exact ⟨c :: cs, rfl⟩
    | surrogate n => cases hc

namespace Utf8

theorem encode_eq_ok {t : Text} {bytes : List UInt8} :
    encode t = .ok bytes ↔ t.Encodable ∧ bytes = t.flatMap bytesOf := by
  have hencodable : t.Encodable ↔ refusalFrom false 0 t = none := by
    rw [refusalFrom_eq_none]
    refine forall₂_congr fun c _ => ?_
    cases c <;> simp [CodePoint.isSurrogate, isWritable]
  rw [hencodable, encode]
  cases refusalFrom false 0 t with
  | some refusal => simp
  | none => simp [eq_comm]

theorem encode_of_encodable {t : Text} (h : t.Encodable) : encode t = .ok (t.flatMap bytesOf) :=
  encode_eq_ok.mpr ⟨h, rfl⟩

/-- Different texts have different bytes. -/
theorem encode_inj {t u : Text} {bytes : List UInt8} (ht : encode t = .ok bytes) (hu : encode u = .ok bytes) :
    t = u := by
  obtain ⟨hencodable, rfl⟩ := encode_eq_ok.mp ht
  obtain ⟨hencodable', hbytes⟩ := encode_eq_ok.mp hu
  obtain ⟨cs, rfl⟩ := hencodable.exists_map
  obtain ⟨ds, rfl⟩ := hencodable'.exists_map
  simp only [List.flatMap_map, bytesOf] at hbytes
  have hbytes : cs.utf8Encode = ds.utf8Encode := congrArg List.toByteArray hbytes
  have hdecoded := congrArg ByteArray.utf8Decode? hbytes
  rw [List.utf8Decode?_utf8Encode, List.utf8Decode?_utf8Encode] at hdecoded
  have hsame : cs = ds := congrArg Array.toList (Option.some.inj hdecoded)
  rw [hsame]

end Utf8

end Text

namespace Export

/-- The command that sets the variable can be encoded exactly if the pattern can. -/
theorem encodable_assignment {shell : Shell} {pattern : Text} :
    (assignment shell pattern).Encodable ↔ pattern.Encodable := by
  have hquoted : Text.Encodable (pattern.flatMap quoteCharPosix) ↔ pattern.Encodable := by
    rw [Text.encodable_flatMap]
    refine forall₂_congr fun c _ => ?_
    unfold quoteCharPosix
    split
    · next h =>
      subst h
      exact iff_of_true (by decide) rfl
    · simp
  unfold assignment
  split
  · simp [variableName, CodePoint.isSurrogate]
  · simp [variableName, CodePoint.isSurrogate, hquoted]

/-- It does not come to nothing. -/
theorem encode_assignment_ne_nil {shell : Shell} {pattern : Text} :
    Text.Utf8.encode (assignment shell pattern) ≠ .ok [] := by
  intro h
  obtain ⟨-, hbytes⟩ := Text.Utf8.encode_eq_ok.mp h
  have hnone := List.flatMap_eq_nil_iff.mp hbytes.symm
  unfold assignment at hnone
  split at hnone
  · exact absurd (hnone (.char '@') (by simp [Text.ofString])) (by decide +kernel)
  · exact absurd (hnone (.char 'e') (by simp [Text.ofString])) (by decide +kernel)

end Export

/-! ## 4. References -/

namespace Export

theorem reference_ne_nil (shell : Shell) : reference shell ≠ [] := by
  cases shell <;> exact List.cons_ne_nil _ _

/-- No reference to the variable is a pattern. -/
theorem ne_reference {pattern : Text} (h : Text.StartsSeparated pattern) (shell : Shell) :
    pattern ≠ reference shell := by
  rintro rfl
  revert h
  cases shell <;> exact fun h => h.elim nofun nofun

/-- Nor is it a pattern in quotes. -/
theorem doubleQuoted_ne_reference {pattern : Text} (h : Text.StartsSeparated pattern)
    (shell : Shell) : doubleQuoted pattern ≠ reference shell := by
  intro he
  cases pattern with
  | nil => exact absurd h Text.not_startsSeparated_nil
  | cons c rest =>
    have hc : c = '/' ∨ c = '\\' := h.imp Option.some.inj Option.some.inj
    have hsecond := congrArg (fun t : Text => t.drop 1 |>.head?) he
    rcases hc with rfl | rfl <;> revert hsecond <;> cases shell <;> exact nofun

end Export

end SkipPath
