import SkipPath.Command.Run
import SkipPath.Proofs.Loader.Agreement
import SkipPath.Proofs.Results

/-!
Where settings come from.

A setting may be named by a command line or another caller, and by the environment; the default counts where neither
names it.  `Config.Follows` says this of all settings at once, with two drafts of which the upper one counts first, and
`Environment.Reads` says which settings an environment names.  The config that is made of an environment and a draft is
the one that follows them, and where there is none the draft is refused (`Environment.config_eq_ok`,
`Config.exists_follows_iff`).

A command line goes by the same rule with a draft of its own, in which an empty name of a shell and a threshold of zero
are left out.  So these two do not count and are not refused either (`settings_followed`,
`zero_gives_way_to_environment`).
-/

namespace SkipPath

/-- What is found in an option stays if it may. -/
theorem filter_eq_self {α : Type} {o : Option α} {p : α → Bool} (h : ∀ a, o = some a → p a = true) :
    o.filter p = o := by
  cases o with
  | none => rfl
  | some a => exact Option.filter_some_pos (h a rfl)

/-! ## 1. Drafts over each other -/

namespace Config

/-- Each setting is what the upper draft names, else what the lower one does, and else its default.  A command may be
as long as the shell allows unless its length is named. -/
structure Follows (c : Config) (upper lower : Draft) : Prop where
  useIgnoreFile : c.useIgnoreFile = upper.useIgnoreFile.getD (lower.useIgnoreFile.getD true)
  omitExemptions : c.omitExemptions = upper.omitExemptions.getD (lower.omitExemptions.getD false)
  skipDotFolders : c.skipDotFolders = upper.skipDotFolders.getD (lower.skipDotFolders.getD true)
  shell : shellOf (upper.shell.getD (lower.shell.getD Shell.posix.name)) = .ok c.shell
  forwardSlash : c.forwardSlash = upper.forwardSlash.getD (lower.forwardSlash.getD false)
  exportThreshold : c.exportThreshold = upper.exportThreshold.getD (lower.exportThreshold.getD 200)
  maxCommandLength : c.maxCommandLength =
    (upper.maxCommandLength.getD (lower.maxCommandLength.getD none)).getD c.shell.maxCommandLength

/-- The config of a draft once its shell is known. -/
def Draft.finish (d : Draft) (shell : Shell) : Except Error Config :=
  let threshold := d.exportThreshold.getD 200
  let length := (d.maxCommandLength.getD none).getD shell.maxCommandLength
  if hThreshold : 0 < threshold then
    if hLength : 0 < length then
      .ok
        { useIgnoreFile := d.useIgnoreFile.getD true
          omitExemptions := d.omitExemptions.getD false
          skipDotFolders := d.skipDotFolders.getD true
          shell := shell
          forwardSlash := d.forwardSlash.getD false
          exportThreshold := threshold
          maxCommandLength := length
          exportThreshold_pos := hThreshold
          maxCommandLength_pos := hLength }
    else .error (.lengthNotPositive length)
  else .error (.thresholdNotPositive threshold)

theorem Draft.final_eq (d : Draft) : d.final = shellOf (d.shell.getD Shell.posix.name) >>= d.finish := by
  have hposix : shellOf Shell.posix.name = .ok .posix := by decide +kernel
  obtain ⟨_, _, _, _ | name, _, _, _⟩ := d
  · rw [Option.getD_none, hposix]
    rfl
  · rfl

variable {upper lower : Draft} {c : Config}

/-- A draft over another one is made final as the config that follows the two. -/
theorem final_over : (upper.over lower).final = .ok c ↔ c.Follows upper lower := by
  rw [Draft.final_eq, bind_eq_ok]
  simp only [Draft.over, Draft.finish, Option.getD_or]
  constructor
  · rintro ⟨shell, hshell, hfinish⟩
    split at hfinish
    · split at hfinish
      · cases hfinish
        exact ⟨rfl, rfl, rfl, hshell, rfl, rfl, rfl⟩
      · cases hfinish
    · cases hfinish
  · intro h
    have hthreshold := c.exportThreshold_pos
    have hlength := c.maxCommandLength_pos
    rw [h.exportThreshold] at hthreshold
    rw [h.maxCommandLength] at hlength
    refine ⟨c.shell, h.shell, ?_⟩
    rw [dif_pos hthreshold, dif_pos hlength]
    simp only [← h.useIgnoreFile, ← h.omitExemptions, ← h.skipDotFolders, ← h.forwardSlash, ← h.exportThreshold,
      ← h.maxCommandLength]

/-- Nothing can follow a threshold that is zero or less. -/
theorem Follows.threshold {n : Int} (h : c.Follows upper lower) (hn : upper.exportThreshold = some n) :
    c.exportThreshold = n ∧ 0 < n := by
  have hsame := h.exportThreshold
  rw [hn, Option.getD_some] at hsame
  exact ⟨hsame, hsame ▸ c.exportThreshold_pos⟩

/-- Two drafts can be followed if the shell that they name is there and the lengths that they name are positive. -/
theorem exists_follows_iff : (∃ c : Config, c.Follows upper lower) ↔
    ∃ shell, shellOf (upper.shell.getD (lower.shell.getD Shell.posix.name)) = .ok shell ∧
      0 < upper.exportThreshold.getD (lower.exportThreshold.getD 200) ∧
      0 < (upper.maxCommandLength.getD (lower.maxCommandLength.getD none)).getD (shell.maxCommandLength : Int) := by
  constructor
  · rintro ⟨c, h⟩
    refine ⟨c.shell, h.shell, ?_, ?_⟩
    · rw [← h.exportThreshold]
      exact c.exportThreshold_pos
    · rw [← h.maxCommandLength]
      exact c.maxCommandLength_pos
  · rintro ⟨shell, hshell, hthreshold, hlength⟩
    exact ⟨⟨_, _, _, shell, _, _, _, hthreshold, hlength⟩, rfl, rfl, rfl, hshell, rfl, rfl, rfl⟩

end Config

/-! ## 2. What an environment names -/

namespace Environment

/-- The answer that a variable gives to a question of yes or no.  Words that are neither give none. -/
def said? (env : Environment) (name : String) : Option Bool :=
  (env.value? name).bind fun raw =>
    let word := Text.lowercase (Text.trim raw)
    if yesWords.contains word then some true
    else if noWords.contains word then some false
    else none

/-- The settings that an environment names.  Each of them has its variable.  A shell has to be there and a number has
to be one, whether it is needed or not. -/
structure Reads (env : Environment) (d : Config.Draft) : Prop where
  useIgnoreFile : d.useIgnoreFile = env.said? "GITSKIP_USE_IGNORE_FILE"
  omitExemptions : d.omitExemptions = env.said? "GITSKIP_OMIT_EXEMPTIONS"
  skipDotFolders : d.skipDotFolders = env.said? "GITSKIP_SKIP_DOT_FOLDERS"
  forwardSlash : d.forwardSlash = env.said? "GITSKIP_FORWARD_SLASH"
  shell : ∃ shell, (env.value? "GITSKIP_SHELL").mapM Config.shellOf = .ok shell ∧ d.shell = shell.map Shell.name
  exportThreshold : (env.value? "GITSKIP_EXPORT_THRESHOLD").mapM number = .ok d.exportThreshold
  maxCommandLength : ∃ length, (env.nonempty? "GITSKIP_MAX_COMMAND_LENGTH").mapM number = .ok length ∧
    d.maxCommandLength = length.map some

variable {env : Environment}

/-- Whatever the default is that a warning tells of, the answer is the same. -/
theorem answer_fst (name : String) (default : Bool) : (env.answer name default).1 = env.said? name := by
  unfold answer said?
  cases env.value? name with
  | none => rfl
  | some raw =>
    simp only [Option.bind_some]
    by_cases hblank : Text.isAllBlank raw = true
    · rw [if_pos hblank, Text.trim_of_isAllBlank hblank]
      decide
    · rw [if_neg hblank]
      split
      · rfl
      · split <;> rfl

theorem namedValues_eq_ok {d : Config.Draft} : env.namedValues = .ok d ↔
    ∃ shell, (env.value? "GITSKIP_SHELL").mapM Config.shellOf = .ok shell ∧
    ∃ threshold, (env.value? "GITSKIP_EXPORT_THRESHOLD").mapM number = .ok threshold ∧
    ∃ length, (env.nonempty? "GITSKIP_MAX_COMMAND_LENGTH").mapM number = .ok length ∧
      { shell := shell.map Shell.name, exportThreshold := threshold, maxCommandLength := length.map some } = d := by
  have heq : env.namedValues = (do
      let shell ← (env.value? "GITSKIP_SHELL").mapM Config.shellOf
      let threshold ← (env.value? "GITSKIP_EXPORT_THRESHOLD").mapM number
      let length ← (env.nonempty? "GITSKIP_MAX_COMMAND_LENGTH").mapM number
      .ok { shell := shell.map Shell.name, exportThreshold := threshold, maxCommandLength := length.map some }) := by
    unfold namedValues
    cases env.value? "GITSKIP_SHELL" with
    | none => rfl
    | some name =>
      dsimp only [Option.mapM_some]
      cases Config.shellOf name <;> rfl
  simp only [heq, bind_eq_ok, Except.ok.injEq]

/-- An environment can be read if there are settings that it names, and these come of it. -/
theorem reads_iff {d : Config.Draft} : env.draft.2 = .ok d ↔ env.Reads d := by
  have heq : env.draft.2 = Config.Draft.over
      { useIgnoreFile := env.said? "GITSKIP_USE_IGNORE_FILE"
        omitExemptions := env.said? "GITSKIP_OMIT_EXEMPTIONS"
        skipDotFolders := env.said? "GITSKIP_SKIP_DOT_FOLDERS"
        forwardSlash := env.said? "GITSKIP_FORWARD_SLASH" } <$> env.namedValues := by
    simp only [draft, answer_fst]
  rw [heq, map_eq_pure_bind, bind_eq_ok]
  simp only [namedValues_eq_ok, Config.Draft.over]
  constructor
  · rintro ⟨named, ⟨shell, hshell, threshold, hthreshold, length, hlength, rfl⟩, hover⟩
    cases hover
    simp only [Option.none_or, Option.or_none]
    exact ⟨rfl, rfl, rfl, rfl, ⟨shell, hshell, rfl⟩, hthreshold, length, hlength, rfl⟩
  · intro h
    obtain ⟨shell, hshell, hname⟩ := h.shell
    obtain ⟨length, hlength, hlimit⟩ := h.maxCommandLength
    refine ⟨_, ⟨shell, hshell, _, h.exportThreshold, length, hlength, rfl⟩, ?_⟩
    simp only [Option.none_or, Option.or_none, ← hname, ← hlimit, ← h.useIgnoreFile, ← h.omitExemptions,
      ← h.skipDotFolders, ← h.forwardSlash]
    rfl

/-- The config of an environment under a draft is the one that follows the two. -/
theorem config_eq_ok {upper : Config.Draft} {c : Config} :
    (env.config upper).2 = .ok c ↔ ∃ lower, env.Reads lower ∧ c.Follows upper lower := by
  have heq : (env.config upper).2 = env.draft.2 >>= fun lower => (upper.over lower).final := rfl
  simp only [heq, bind_eq_ok, reads_iff, Config.final_over]

/-- Where an environment names these settings, the config under a draft follows the two. -/
theorem config_eq_ok_of_reads {lower upper : Config.Draft} {c : Config} (hreads : env.Reads lower) :
    (env.config upper).2 = .ok c ↔ c.Follows upper lower := by
  rw [config_eq_ok]
  constructor
  · rintro ⟨other, hother, h⟩
    rw [← reads_iff] at hreads hother
    cases hreads.symm.trans hother
    exact h
  · exact fun h => ⟨lower, hreads, h⟩

end Environment

/-! ## 3. What a command line asks for -/

namespace Command

/-- The settings that a command line asks for, be it an empty name of a shell or a threshold of zero. -/
def asked (common : Common) (project : Option Project) : Config.Draft :=
  { draft common project with
    shell := common.shell
    exportThreshold := project.bind (·.exportThreshold) }

variable {common : Common} {project : Option Project} {w : Workspace} {lower : Config.Draft} {c : Config}

/-- What comes of settling the settings of a command. -/
def settled (common : Common) (project : Option Project) (w : Workspace) : Except Fault Config :=
  ((config common project).on w).1

/-- The settings of a command are those of the environment under its draft, and it is refused for nothing but
settings.  Looking at the name of the shell first changes nothing but which fault is found. -/
theorem settled_cases (common : Common) (project : Option Project) (w : Workspace) :
    ∃ result, settled common project w = Except.mapError Fault.config result ∧
      ∀ c, result = .ok c ↔ (w.environment.config (draft common project)).2 = .ok c := by
  unfold settled config
  cases hname : nonempty common.shell with
  | none =>
    refine ⟨(w.environment.config (draft common project)).2, ?_, fun c => Iff.rfl⟩
    simp only [Work.on_bind, Work.on_get, Work.on_reportAll, Work.on_ofExcept]
  | some name =>
    cases hshell : Config.shellOf name with
    | ok shell =>
      refine ⟨(w.environment.config (draft common project)).2, ?_, fun c => Iff.rfl⟩
      simp only [Work.on_bind, Work.on_get, Work.on_reportAll, Work.on_ofExcept, hshell, mapError_ok]
    | error e =>
      refine ⟨.error e, ?_, fun c => iff_of_false nofun fun hok => ?_⟩
      · simp only [Work.on_bind, Work.on_ofExcept, hshell]
        rfl
      · obtain ⟨lower, -, hfollows⟩ := Environment.config_eq_ok.mp hok
        have hparses := hfollows.shell
        rw [show (draft common project).shell = some name from hname, Option.getD_some, hshell] at hparses
        cases hparses

theorem settled_eq_ok (hreads : w.environment.Reads lower) :
    settled common project w = .ok c ↔ c.Follows (draft common project) lower := by
  obtain ⟨result, hsettled, hresult⟩ := settled_cases common project w
  rw [hsettled, ← Environment.config_eq_ok_of_reads hreads, ← hresult]
  exact ⟨ok_of_mapError, fun h => by rw [h, mapError_ok]⟩

/-- Settings that cannot be followed are refused. -/
theorem settled_refused (h : ∀ c, settled common project w ≠ .ok c) :
    ∃ e, settled common project w = .error (.config e) := by
  obtain ⟨result, hsettled, -⟩ := settled_cases common project w
  cases result with
  | error e => exact ⟨e, hsettled⟩
  | ok c => exact absurd hsettled (h c)

theorem asked_eq_draft (hshell : common.shell ≠ some []) (hthreshold : project.bind (·.exportThreshold) ≠ some 0) :
    asked common project = draft common project := by
  have hkept : nonempty common.shell = common.shell := filter_eq_self fun name hname => by
    have hne : name ≠ [] := fun he => hshell (he ▸ hname)
    simpa using hne
  have hcounts : (project.bind (·.exportThreshold)).filter (· != 0) = project.bind (·.exportThreshold) :=
    filter_eq_self fun n hn => bne_iff_ne.mpr fun he => hthreshold (he ▸ hn)
  rw [asked, draft, hkept, hcounts]

/-- A command line that has settings gets what it asks for, except if it names a shell by an empty text or asks for a
threshold of zero. -/
theorem follows_asked_iff (h : c.Follows (draft common project) lower) :
    c.Follows (asked common project) lower ↔
      common.shell ≠ some [] ∧ project.bind (·.exportThreshold) ≠ some 0 := by
  constructor
  · intro hasked
    constructor
    · intro hempty
      have hshell := hasked.shell
      have hnone : Config.shellOf [] = .error (.unknownShell []) := by decide +kernel
      rw [show (asked common project).shell = some [] from hempty, Option.getD_some, hnone] at hshell
      cases hshell
    · intro hzero
      exact Int.lt_irrefl 0 (hasked.threshold hzero).2
  · rintro ⟨hshell, hthreshold⟩
    rwa [asked_eq_draft hshell hthreshold]

/-- What the settings of a command come to, where the environment names the lower ones. -/
structure Settles (common : Common) (project : Option Project) (w : Workspace) (lower : Config.Draft) : Prop where
  /-- They are those of its draft over those of the environment. -/
  follows : ∀ c, settled common project w = .ok c ↔ c.Follows (draft common project) lower
  /-- If there are none, it is refused for that. -/
  refused : (∀ c, settled common project w ≠ .ok c) → ∃ e, settled common project w = .error (.config e)
  /-- They are what it asks for, unless it asks for a shell by an empty name or for a threshold of zero. -/
  asked : ∀ c, settled common project w = .ok c → (c.Follows (asked common project) lower ↔
    common.shell ≠ some [] ∧ project.bind (·.exportThreshold) ≠ some 0)
  /-- Any other threshold that it asks for is the one that it gets. -/
  threshold : ∀ n, project.bind (·.exportThreshold) = some n → n ≠ 0 →
    ∀ c, settled common project w = .ok c → c.exportThreshold = n
  /-- With a negative one it is refused. -/
  negative : ∀ n, project.bind (·.exportThreshold) = some n → n < 0 → ∃ e, settled common project w = .error (.config e)

theorem settles (hreads : w.environment.Reads lower) (common : Common) (project : Option Project) :
    Settles common project w lower := by
  have hthreshold {c : Config} {n : Int} (hn : project.bind (·.exportThreshold) = some n) (hne : n ≠ 0)
      (hc : settled common project w = .ok c) : c.exportThreshold = n ∧ 0 < n := by
    refine ((settled_eq_ok hreads).mp hc).threshold ?_
    simp [draft, hn, hne]
  exact {
    follows := fun c => settled_eq_ok hreads
    refused := settled_refused
    asked := fun c hc => follows_asked_iff ((settled_eq_ok hreads).mp hc)
    threshold := fun n hn hne c hc => (hthreshold hn hne hc).1
    negative := fun n hn hneg => settled_refused fun c hc =>
      Int.lt_asymm hneg (hthreshold hn (Int.ne_of_lt hneg) hc).2 }

end Command

/-- **Where an environment can be read, the settings of a caller count before those of it, and they are refused if
the shell is unknown or a length that counts is not positive.  The settings of a command are settled in the same way,
but an empty name of a shell and a threshold of zero do not count there and are not refused.** -/
theorem settings_followed {w : Workspace} {lower : Config.Draft} (hreads : w.environment.Reads lower) :
    (∀ upper c, (w.environment.config upper).2 = .ok c ↔ c.Follows upper lower) ∧
    (∀ upper, (∃ c, (w.environment.config upper).2 = .ok c) ↔
      ∃ shell, Config.shellOf (upper.shell.getD (lower.shell.getD Shell.posix.name)) = .ok shell ∧
        0 < upper.exportThreshold.getD (lower.exportThreshold.getD 200) ∧
        0 < (upper.maxCommandLength.getD (lower.maxCommandLength.getD none)).getD (shell.maxCommandLength : Int)) ∧
    (∀ c : Config, 0 < c.exportThreshold ∧ 0 < c.maxCommandLength) ∧
    ∀ common project, Command.Settles common project w lower := by
  refine ⟨fun upper c => Environment.config_eq_ok_of_reads hreads, fun upper => ?_,
    fun c => ⟨c.exportThreshold_pos, c.maxCommandLength_pos⟩, Command.settles hreads⟩
  simp only [Environment.config_eq_ok_of_reads hreads]
  exact Config.exists_follows_iff

/-- A workspace whose environment asks for a shell and a threshold. -/
def Workspace.inWindows : Workspace :=
  { Workspace.holding "*.o\n" with
    environment := (Table.empty.put (Text.ofString "GITSKIP_SHELL") (Text.ofString " CMD ")).put
      (Text.ofString "GITSKIP_EXPORT_THRESHOLD") (Text.ofString "50") }

/-- What the environment of that workspace names. -/
def Config.Draft.inWindows : Config.Draft where
  shell := some Shell.cmd.name
  exportThreshold := some 50

theorem Workspace.reads_inWindows : Workspace.inWindows.environment.Reads .inWindows where
  useIgnoreFile := rfl
  omitExemptions := rfl
  skipDotFolders := rfl
  forwardSlash := rfl
  shell := ⟨some .cmd, by decide +kernel, rfl⟩
  exportThreshold := by decide +kernel
  maxCommandLength := ⟨none, rfl, rfl⟩

/-- The shell of the caller and the threshold of the environment, and the other way round. -/
theorem settings_followed_both :
    Workspace.inWindows.environment.Reads .inWindows ∧
    (∃ c, (Workspace.inWindows.environment.config { shell := some (Text.ofString "bash") }).2 = .ok c ∧
      c.shell = .posix ∧ c.exportThreshold = 50 ∧ c.maxCommandLength = 131072) ∧
    (∃ c, Command.settled {} (some { root := Text.ofString "/w/p", exportThreshold := some 7 }) .inWindows = .ok c ∧
      c.shell = .cmd ∧ c.exportThreshold = 7 ∧ c.maxCommandLength = 8163) := by
  obtain ⟨hcaller, -, -, hcommand⟩ := settings_followed Workspace.reads_inWindows
  refine ⟨Workspace.reads_inWindows, ⟨{ exportThreshold := 50 }, (hcaller _ _).mpr ?_, rfl, rfl, rfl⟩,
    ⟨{ shell := .cmd, exportThreshold := 7, maxCommandLength := 8163 }, ((hcommand _ _).follows _).mpr ?_,
      rfl, rfl, rfl⟩⟩
  · exact ⟨rfl, rfl, rfl, by decide +kernel, rfl, rfl, rfl⟩
  · exact ⟨rfl, rfl, rfl, by decide +kernel, rfl, rfl, rfl⟩

/-- A threshold of zero is refused where a caller asks for it.  Where a command line does, the threshold is that of
the environment. -/
theorem zero_gives_way_to_environment :
    (Workspace.inWindows.environment.config { exportThreshold := some 0 }).2 = .error (.thresholdNotPositive 0) ∧
    ∃ c, Command.settled {} (some { root := Text.ofString "/w/p", exportThreshold := some 0 }) .inWindows = .ok c ∧
      c.exportThreshold = 50 ∧
      ¬ c.Follows (Command.asked {} (some { root := Text.ofString "/w/p", exportThreshold := some 0 })) .inWindows := by
  have hreads := Workspace.reads_inWindows
  refine ⟨?_, { shell := .cmd, exportThreshold := 50, maxCommandLength := 8163 },
    (Command.settled_eq_ok hreads).mpr ⟨rfl, rfl, rfl, by decide +kernel, rfl, rfl, rfl⟩, rfl, fun h => ?_⟩
  · decide +kernel
  · exact Int.lt_irrefl 0 (h.threshold rfl).2

end SkipPath
