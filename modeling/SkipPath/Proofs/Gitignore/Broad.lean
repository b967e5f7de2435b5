import SkipPath.Gitignore.Pattern
import SkipPath.Proofs.Fragment.Parts
import SkipPath.Proofs.Glob.Outcome

/-!
Lines that skip everything, and the warning about them.

A fragment that is found in every path is found in the empty one, and so each of its parts may be left out
(`isOptional_of_search`).  Only stars and question marks may, and then the fragment is found anywhere
(`search_of_isOptional`).  So what skips everything are the lines of nothing but stars and question marks
(`skipsEverything_iff`).

The warning goes by a list of four lines instead.  Two of them are cut down to a slash, which is too short a
fragment, so that they skip nothing; and of the lines that do skip everything it has two only
(`broad_warning_iff`).
-/

namespace SkipPath

/-! ## 1. Nodes that may take nothing -/

namespace Regex

/-- A match of a node may end where it starts, whatever stands there. -/
def Node.Stays (f : Flags) (node : Node) : Prop := ∀ k, k ∈ node.run f k

namespace Node

variable {f : Flags} {node : Node}

theorem stays_repetition {p : CodePoint → Bool} (h : ∀ k, node.run f k = k.next p) (max : Option Nat) :
    (Node.repetition .greedy 0 max node).Stays f := by
  intro k
  rw [run_greedy h, mem_rounds_next]
  exact ⟨[], Nat.zero_le _, nofun, Cursor.reads_nil.mpr rfl⟩

theorem stays_sequence {nodes : List Node} (h : ∀ node ∈ nodes, node.Stays f) : (sequence nodes).Stays f := by
  fun_induction sequence nodes with
  | case1 => exact fun k => List.mem_singleton.mpr rfl
  | case2 node => exact h node List.mem_cons_self
  | case3 node nodes _ ih =>
    obtain ⟨hnode, hnodes⟩ := List.forall_mem_cons.mp h
    intro k
    rw [Node.run, List.mem_eraseDups, List.mem_flatMap]
    exact ⟨k, hnode k, ih hnodes k⟩

end Node

theorem Expression.search_of_stays {e : Expression} (h : e.tree.Stays e.flags) (t : Text) : e.search t = true := by
  have hne : (e.tree.run e.flags { before := [], after := t }).isEmpty = false :=
    List.isEmpty_eq_false_iff.mpr (List.ne_nil_of_mem (h _))
  unfold Expression.search Expression.searchFrom
  rw [hne]
  rfl

end Regex

/-! ## 2. Pieces that may take nothing -/

namespace Glob

open Regex Fragment

/-- A piece that may be left out. -/
def Piece.IsOptional : Piece → Prop
  | .star | .stars | .question => True
  | _ => False

namespace Piece.IsOptional

variable {p : Piece} (h : p.IsOptional)
include h

theorem isProper : p.IsProper := by
  cases p with
  | star | stars | question => trivial
  | _ => exact h.elim

theorem stays : p.item.node.Stays {} := by
  cases p with
  | star | stars => exact Node.stays_repetition (fun _ => rfl) none
  | question => exact Node.stays_repetition (fun _ => rfl) (some 1)
  | _ => exact h.elim

theorem length_render : minFragmentLength ≤ p.render.length := by
  cases p with
  | star | stars | question => decide
  | _ => exact h.elim

end Piece.IsOptional

/-- Pieces that may all be left out are found in every text. -/
theorem search_of_isOptional {ps : List Piece} (h : ∀ p ∈ ps, p.IsOptional) :
    ∃ e, parse (ps.flatMap Piece.render) = .ok e ∧ ∀ t, e.search t = true := by
  have hproper : ∀ p ∈ ps, p.IsProper := fun p hp => (h p hp).isProper
  rw [← texts_pieces hproper]
  refine ⟨_, parse_of_readAs (tokens_pieces_proper hproper) (readAs_pieces hproper) (sound_pieces ps),
    Expression.search_of_stays (Node.stays_sequence fun node hnode => ?_)⟩
  simp only [List.mem_map] at hnode
  obtain ⟨_, ⟨p, hp, rfl⟩, rfl⟩ := hnode
  exact (h p hp).stays

/-- A row that takes the empty text has no part that takes one character. -/
theorem once_not_mem_of_rowTakes {times : List Times} {takes : List (CodePoint → Bool)}
    (hlength : times.length = takes.length) (h : RowTakes times takes []) : .once ∉ times := by
  induction times generalizing takes with
  | nil => exact List.not_mem_nil
  | cons first times ih =>
    obtain ⟨kind, more, rfl⟩ := List.exists_cons_of_length_pos (by rw [← hlength]; exact Nat.succ_pos _)
    obtain ⟨v, w, hsplit, hv, hw⟩ := h
    obtain ⟨rfl, rfl⟩ := List.append_eq_nil_iff.mp hsplit.symm
    rw [List.mem_cons, not_or]
    refine ⟨?_, ih (Nat.succ.inj hlength) hw⟩
    rintro rfl
    obtain ⟨c, -, he⟩ := hv
    cases he

/-- In a fragment that is found in the empty text every piece may be left out. -/
theorem isOptional_of_search {ps : List Piece} (hcut : ∀ p ∈ ps, p.IsCut) {ends : Bool} {e : Expression}
    (hparse : parse (Token.texts (rowTokens (ps.map Piece.part) ends)) = .ok e) (hsearch : e.search [] = true) :
    ∀ p ∈ ps, p.IsOptional := by
  have hproper : ∀ p ∈ ps.map Piece.part, p.IsProper :=
    List.forall_mem_map.mpr fun p hp => Piece.part_proper (hcut p hp)
  rcases takes_or_fails hproper with ⟨takes, htakes⟩ | hfails
  · obtain ⟨-, e', hparse', hfound⟩ := parse_row hproper ends htakes
    obtain rfl := Except.ok.inj (hparse.symm.trans hparse')
    obtain ⟨v, u, w, hsplit, hrow, -⟩ := (hfound [] List.not_mem_nil).mp hsearch
    obtain ⟨hvu, -⟩ := List.append_eq_nil_iff.mp hsplit.symm
    obtain ⟨-, rfl⟩ := List.append_eq_nil_iff.mp hvu
    have hlength : ((ps.map Piece.part).map Part.times).length = takes.length := by
      rw [List.length_map, htakes.length_eq]
    have honce := once_not_mem_of_rowTakes hlength hrow
    intro p hp
    have htimes : p.part.times ≠ .once := fun he =>
      honce (List.mem_map.mpr ⟨p.part, List.mem_map_of_mem hp, he⟩)
    cases p with
    | star | stars | question => trivial
    | _ => exact absurd rfl htimes
  · exact absurd hparse (refused_of_fails hproper ends hfails e)

/-! ## 3. Lines of wildcards -/

/-- A text of nothing but stars and question marks. -/
def IsWild (t : Text) : Prop := ∀ c ∈ t, c = '*' ∨ c = '?'

-- By name: an instance that goes through all characters may be found first.
instance (t : Text) : Decidable (IsWild t) := List.decidableBAll (fun c : CodePoint => c = '*' ∨ c = '?') t

theorem isWild_cons {c : CodePoint} {t : Text} : IsWild (c :: t) ↔ (c = '*' ∨ c = '?') ∧ IsWild t :=
  List.forall_mem_cons

theorem isWild_dropStars {t : Text} : IsWild (dropStars t) ↔ IsWild t := by
  fun_induction dropStars t with
  | case1 rest ih => rw [ih, isWild_cons, and_iff_right (.inl rfl)]
  | case2 => exact Iff.rfl

/-- The pieces that may be left out are those of stars and question marks. -/
theorem pieces_isOptional_iff {t : Text} : (∀ p ∈ pieces t, p.IsOptional) ↔ IsWild t := by
  fun_induction pieces t with
  | case1 => simp [IsWild]
  | case4 rest _ ih =>
    rw [List.forall_mem_cons, ih, isWild_dropStars, isWild_cons, isWild_cons]
    simp [Piece.IsOptional]
  | case5 rest _ ih | case6 rest ih =>
    rw [List.forall_mem_cons, ih, isWild_cons]
    simp [Piece.IsOptional]
  | case9 c rest _ _ _ hstar hquestion _ ih =>
    rw [List.forall_mem_cons, isWild_cons]
    exact iff_of_false (fun h => h.1) fun h => h.1.elim hstar hquestion
  | _ => simp [IsWild, Piece.IsOptional]

theorem pieces_ne_nil {t : Text} (h : t ≠ []) : pieces t ≠ [] := by
  fun_cases pieces t with
  | case1 => exact absurd rfl h
  | _ => exact List.cons_ne_nil _ _

/-! ## 4. Lines that skip everything -/

/-- A line whose fragment is found in every path. -/
def SkipsEverything (line : Text) : Prop :=
  ∃ fragment e, (translate line true).outcome = .kept fragment ∧ parse fragment = .ok e ∧
    ∀ path, e.search path = true

/-- A line without blanks at its ends is stripped already. -/
theorem stripLine_of_trim {line : Text} (h : Text.trim line = line) : stripLine line = line := by
  have hwhole := Text.dropEndWhile_append_takeEndWhile Text.isBlank (Text.trimStart line)
  have hbody : Text.dropEndWhile Text.isBlank (Text.trimStart line) = line := h
  rw [hbody] at hwhole
  have hstart : Text.trimStart line = line := by
    refine (List.dropWhile_sublist _).eq_of_length_le ?_
    rw [← Text.trimStart, ← hwhole, List.length_append]
    exact Nat.le_add_right _ _
  have hblanks : Text.takeEndWhile Text.isBlank line = [] := by
    rw [hstart] at hwhole
    exact List.append_cancel_left (hwhole.trans (List.append_nil line).symm)
  rw [stripLine, hstart, hblanks, List.take_nil, List.append_nil, ite_self]
  rwa [hstart] at hbody

theorem cutLine_of_isWild {line : Text} (h : Text.trim line = line) (hwild : IsWild line) :
    cutLine line = line := by
  have hslash : .char '/' ∉ cutLine line := fun hmem => absurd (hwild (.char '/') (mem_of_mem_cutLine hmem)) (by decide)
  rw [cutLine_of_no_slash hslash, stripLine_of_trim h]

/-- What is written for a line of stars and question marks is what its pieces are written as. -/
theorem outcome_of_isWild {line : Text} (h : Text.trim line = line) (hne : line ≠ []) (hwild : IsWild line) :
    (translate line true).outcome = .kept (convert line) := by
  have hcut := cutLine_of_isWild h hwild
  obtain ⟨c, rest, hline⟩ := List.exists_cons_of_ne_nil hne
  have hc : c = '*' ∨ c = '?' := hwild c (hline ▸ List.mem_cons_self)
  have hextension : ¬ (Working.classified (stripLine line) (cutLine line) true).isExtension = true := by
    intro hextension
    obtain ⟨more, hmore⟩ := exists_extension rfl hextension
    rw [hcut] at hmore
    exact absurd (hwild '.' (by rw [hmore]; simp)) (by decide)
  have hbare : ¬ IsBareWord (cutLine line) := by
    rw [hcut]
    intro hbare
    rcases hc with rfl | rfl
    · exact hbare '*' (by decide) (hline ▸ List.mem_cons_self)
    · exact hbare '?' (by decide) (hline ▸ List.mem_cons_self)
  have hwritten : writtenText line true = convert line := by
    rw [writtenText, anchor_other hextension (mt isBareWord_classified.mp hbare)]
    exact congrArg convert hcut
  have hlength : ¬ (convert line).length < minFragmentLength := by
    have hoptional := pieces_isOptional_iff.mpr hwild
    obtain ⟨p, ps, hpieces⟩ := List.exists_cons_of_ne_nil (pieces_ne_nil hne)
    rw [hpieces] at hoptional
    have hfirst := (hoptional p List.mem_cons_self).length_render
    rw [convert, hpieces, List.flatMap_cons, List.length_append]
    omega
  have hswap : swapFileGlobs.contains line = false := by
    refine Bool.eq_false_iff.mpr fun hmem => ?_
    have hall : ∀ t ∈ swapFileGlobs, .char '~' ∈ t := by decide
    exact absurd (hwild '~' (hall _ (List.contains_iff_mem.mp hmem))) (by decide)
  rw [outcome_eq, stripLine_of_trim h, hwritten, hswap, ofWritten, if_neg hlength, hline]
  rcases hc with rfl | rfl <;> rfl

/-- What is written for a name looks for it between slashes, or behind one. -/
theorem anchor_name {line : Text}
    (hextension : ¬ (Working.classified (stripLine line) (cutLine line) true).isExtension = true)
    (hbare : (Working.classified (stripLine line) (cutLine line) true).isBareWord = true) :
    anchor (Rule.wildcards.apply (Working.classified (stripLine line) (cutLine line) true)) =
      .char '/' :: convert (cutLine line) ++ if .char '.' ∈ cutLine line then [] else [.char '/'] := by
  -- a name has no slash, so nothing was cut off the line
  have hdot : (stripLine line).contains (.char '.') = true ↔ .char '.' ∈ cutLine line := by
    rw [List.contains_iff_mem, cutLine_of_no_slash (isBareWord_classified.mp hbare '/' (by decide))]
  rw [anchor_bareWord hextension hbare]
  exact congrArg _ (if_congr hdot rfl rfl)

/-- What skips everything are the lines of stars and question marks. -/
theorem skipsEverything_iff {line : Text} (h : Text.trim line = line) (hne : line ≠ []) :
    SkipsEverything line ↔ IsWild line := by
  constructor
  · rintro ⟨fragment, e, hkept, hparse, hsearch⟩
    have hsearch := hsearch []
    by_cases hswap : stripLine line ∈ swapFileGlobs
    · rw [fragment_of_swapFile hswap hkept, (writes_swapFile hswap).fragment] at hparse
      exact (isOptional_of_search (writes_swapFile hswap).cut hparse hsearch _ List.mem_cons_self).elim
    rw [fragment_of_kept hswap hkept] at hparse
    by_cases hextension : (Working.classified (stripLine line) (cutLine line) true).isExtension = true
    · obtain ⟨rest, hrest⟩ := exists_extension rfl hextension
      have htexts := texts_parts (pieces_isCut ('.' :: rest)) true
      rw [anchor_extension hextension, text_of_classified rfl, hrest] at hparse
      have hwild := pieces_isOptional_iff.mp (isOptional_of_search (pieces_isCut _) (htexts ▸ hparse) hsearch)
      exact absurd (hwild '.' List.mem_cons_self) (by decide)
    by_cases hbare : (Working.classified (stripLine line) (cutLine line) true).isBareWord = true
    · obtain ⟨e', hparse', hfound⟩ := search_bareWord (isBareWord_classified.mp hbare)
      rw [anchor_name hextension hbare] at hparse
      obtain rfl := Except.ok.inj (hparse.symm.trans hparse')
      obtain ⟨before, after, hsplit⟩ := (hfound [] List.not_mem_nil).mp hsearch
      simp at hsplit
    · rw [(writes_other rfl hextension hbare).fragment] at hparse
      have hwild := pieces_isOptional_iff.mp (isOptional_of_search (pieces_isCut _) hparse hsearch)
      have hslash : .char '/' ∉ cutLine line := fun hmem => absurd (hwild (.char '/') hmem) (by decide)
      rwa [cutLine_of_no_slash hslash, stripLine_of_trim h] at hwild
  · intro hwild
    obtain ⟨e, hparse, hsearch⟩ := search_of_isOptional (pieces_isOptional_iff.mpr hwild)
    exact ⟨_, e, outcome_of_isWild h hne hwild, hparse, hsearch⟩

end Glob

/-! ## 5. The warning -/

namespace Gitignore

open Glob

/-- The warning about a line that is very broad. -/
def broadWarning : Text := Text.ofString "Very broad pattern - will skip every path"

/-- The remarks other than that a line is no pattern. -/
theorem broadWarning_mem_others (line : Text) :
    broadWarning ∈ (if hasStrayBackslash line then
        [Text.ofString "Pattern contains backslash. Use forward slashes for paths."] else []) ++
      (if broadPatterns.contains line then [broadWarning] else []) ↔ line ∈ broadPatterns := by
  have hstray : broadWarning ≠ Text.ofString "Pattern contains backslash. Use forward slashes for paths." := by
    decide +kernel
  have hlisted : broadPatterns.contains line = true ↔ line ∈ broadPatterns := List.contains_iff_mem
  rw [List.mem_append, ← hlisted]
  constructor
  · rintro (h | h)
    · split at h
      · exact absurd (List.mem_singleton.mp h) hstray
      · cases h
    · split at h
      · assumption
      · cases h
  · intro h
    rw [if_pos h]
    exact .inr List.mem_cons_self

/-- The warning is about the lines of a list. -/
theorem broadWarning_mem_iff {pathspec : Pathspec} {line : Text} {messages : List Text}
    (hok : concerns pathspec line = .ok messages) :
    broadWarning ∈ messages ↔ line ∈ broadPatterns := by
  rw [← broadWarning_mem_others line]
  unfold concerns at hok
  extract_lets others at hok
  cases hread : pathspec.fromLines [line] with
  | ok ignores =>
    simp only [hread] at hok
    rw [← Except.ok.inj hok]
    rfl
  | error e =>
    cases e with
    | invalidPattern message =>
      simp only [hread] at hok
      have hinvalid : broadWarning ≠ Text.ofString "Not a valid gitignore pattern: " ++ message := by
        intro he
        have hstart : (Text.ofString "Not a valid gitignore pattern: ").head? = some (.char 'N') := by decide +kernel
        have hhead := congrArg List.head? he
        rw [List.head?_append, hstart, Option.some_or] at hhead
        exact absurd hhead (by decide +kernel)
      rw [← Except.ok.inj hok, List.mem_cons]
      exact or_iff_right hinvalid
    | badExpression text refusal =>
      simp only [hread] at hok
      cases hok

/-- **The warning tells the truth for some lines only.**  It is given for four lines, and what skips everything are
the lines of stars and question marks.  The two agree on one star, on two stars, and on all lines but those of the
list in which there is anything else. -/
theorem broad_warning_iff {pathspec : Pathspec} {line : Text} {messages : List Text} (htrim : Text.trim line = line)
    (hne : line ≠ []) (hok : concerns pathspec line = .ok messages) :
    (broadWarning ∈ messages ↔ line ∈ broadPatterns) ∧ (SkipsEverything line ↔ IsWild line) ∧
    ((broadWarning ∈ messages ↔ SkipsEverything line) ↔
      line = [.char '*'] ∨ line = [.char '*', .char '*'] ∨ line ∉ broadPatterns ∧ ¬ IsWild line) := by
  have hwarned := broadWarning_mem_iff hok
  have hskips := skipsEverything_iff htrim hne
  refine ⟨hwarned, hskips, ?_⟩
  rw [hwarned, hskips]
  constructor
  · intro hagree
    by_cases hmem : line ∈ broadPatterns
    · have hwild := hagree.mp hmem
      simp only [broadPatterns, List.mem_cons, List.not_mem_nil, or_false] at hmem
      rcases hmem with rfl | rfl | rfl | rfl
      · exact .inl rfl
      · exact .inr (.inl rfl)
      · exact absurd hwild (by decide)
      · exact absurd hwild (by decide)
    · exact .inr (.inr ⟨hmem, fun hwild => hmem (hagree.mpr hwild)⟩)
  · rintro (rfl | rfl | ⟨hmem, hwild⟩)
    · exact iff_of_true (by decide) (by decide)
    · exact iff_of_true (by decide) (by decide)
    · exact iff_of_false hmem hwild

theorem concerns_eq_ok {pathspec : Pathspec} {line : Text} {messages : List Text}
    (h : (concerns pathspec line).toOption = some messages) : concerns pathspec line = .ok messages := by
  cases hfound : concerns pathspec line with
  | ok found =>
    rw [hfound] at h
    exact congrArg Except.ok (Option.some.inj h)
  | error e =>
    rw [hfound] at h
    cases h

/-- Two stars: the line is said to skip every path, and it does. -/
theorem broad_warning_iff_two_stars : Text.trim [.char '*', .char '*'] = [.char '*', .char '*'] ∧
    concerns wildmatch ['*', '*'] = .ok [broadWarning] ∧ SkipsEverything ['*', '*'] := by
  have htrim : Text.trim [.char '*', .char '*'] = [.char '*', .char '*'] := by decide
  have hok : concerns wildmatch ['*', '*'] = .ok [broadWarning] := concerns_eq_ok (by decide +kernel)
  have hagree := (broad_warning_iff htrim (List.cons_ne_nil _ _) hok).2.2.mpr (.inr (.inl rfl))
  exact ⟨htrim, hok, hagree.mp List.mem_cons_self⟩

/-- A slash and a star: the line is said to skip every path, and it has no fragment.  A question mark: the line skips
every path, and nothing is said. -/
theorem broad_warning_false :
    (concerns wildmatch ['/', '*'] = .ok [broadWarning] ∧ (translate ['/', '*'] true).outcome = .dropped .tooShort ∧
      ¬ SkipsEverything ['/', '*']) ∧
    concerns wildmatch ['?'] = .ok [] ∧ SkipsEverything ['?'] := by
  have hdropped : (translate ['/', '*'] true).outcome = .dropped .tooShort := by decide +kernel
  refine ⟨⟨concerns_eq_ok (by decide +kernel), hdropped, ?_⟩, concerns_eq_ok (by decide +kernel),
    (skipsEverything_iff (by decide) (List.cons_ne_nil _ _)).mpr (by decide)⟩
  rintro ⟨fragment, e, hkept, -⟩
  rw [hdropped] at hkept
  cases hkept

end Gitignore

end SkipPath
