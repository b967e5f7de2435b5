import SkipPath.Gitignore.Pattern
import SkipPath.Proofs.Regex.Groups
import Mathlib.Data.List.TakeWhile

/-!
How the expression of a gitignore pattern begins.

Behind its first segment a pattern may go on with anything: wildcards, classes of its own kind, any number of
folders, and a group with a name at the end.  All of that is written by texts which only add items to an expression,
if they are part of one at all (`appends_convertSegment`, `appends_convertSegments`).  So a pattern that starts with
characters other than the special ones has an expression that begins with these characters, at the start of the
path or behind a slash (`expressionText_starts`), and so does what it matches (`plain_behind_slash`).
-/

namespace SkipPath.Gitignore

open Regex

/-! ## 1. Texts that add items -/

/-- A text of tokens that only add items to an expression, and do not say how a repetition before them chooses. -/
def Appends (t : Text) : Prop :=
  ∃ ts : List Token, Token.texts ts = t ∧ (∀ token ∈ ts, token.IsProper) ∧ Adds ts ∧
    ∀ rest, ¬ SaysGreed rest → ¬ SaysGreed (ts ++ rest)

theorem Appends.nil : Appends [] := ⟨[], rfl, by simp, .nil, fun _ h => h⟩

theorem Appends.append {t t' : Text} (h : Appends t) (h' : Appends t') : Appends (t ++ t') := by
  obtain ⟨ts, rfl, hproper, hadds, hquiet⟩ := h
  obtain ⟨ts', rfl, hproper', hadds', hquiet'⟩ := h'
  refine ⟨ts ++ ts', Token.texts_append ts ts', List.forall_mem_append.mpr ⟨hproper, hproper'⟩,
    hadds.append hadds' hquiet', fun rest hrest => ?_⟩
  rw [List.append_assoc]
  exact hquiet _ (hquiet' rest hrest)

/-- A character that stands for itself is one token. -/
theorem exists_literal (c : CodePoint) : ∃ token : Token, token.text = literal c ∧ token.IsProper ∧
    ReadAsAtom [token] (.char c.toNat) ∧ ∀ rest, ¬ SaysGreed (token :: rest) := by
  unfold literal
  split
  · next hescaped =>
    have hall : escapedChars.all (fun d => !Text.isAsciiLetter d && !Text.isAsciiDigit d) = true := by decide
    obtain ⟨hletter, hdigit⟩ : Text.isAsciiLetter c = false ∧ Text.isAsciiDigit c = false := by
      simpa using List.all_eq_true.mp hall c (List.contains_iff_mem.mp hescaped)
    exact ⟨.escape c, rfl, trivial, readAs_escape hletter hdigit, by simp [SaysGreed]⟩
  · next hplain =>
    have hall : (.char '\\' :: operators).all escapedChars.contains = true := by decide
    have hc : c ∉ .char '\\' :: operators := fun hmem => hplain (List.all_eq_true.mp hall c hmem)
    rw [List.mem_cons, not_or] at hc
    refine ⟨.plain c, rfl, hc.1, readAs_plain hc.2, fun rest => ?_⟩
    rintro (he | he)
    · rw [Token.plain.inj (Option.some.inj he)] at hc
      exact hc.2 (by decide)
    · rw [Token.plain.inj (Option.some.inj he)] at hc
      exact hc.2 (by decide)

theorem appends_literal (c : CodePoint) : Appends (literal c) := by
  obtain ⟨token, htext, hproper, hread, hquiet⟩ := exists_literal c
  exact ⟨[token], by simp [Token.texts, htext], by simpa using hproper, hread.readAs.adds, fun rest _ => hquiet rest⟩

/-- A text whose tokens add items. -/
theorem appends_of_scan {t : Text} {ts : List Token} (hscan : Token.scan t = (ts, false)) (hadds : Adds ts)
    (hquiet : ∀ rest, ¬ SaysGreed rest → ¬ SaysGreed (ts ++ rest)) : Appends t := by
  obtain ⟨htexts, hproper⟩ := Token.of_scan hscan
  exact ⟨ts, htexts, hproper, hadds, hquiet⟩

theorem appends_any : Appends ['[', '^', '/', ']'] := by
  have hscan : Token.scan ['[', '^', '/', ']'] = (allBut '/', false) := rfl
  exact appends_of_scan hscan (readAs_allBut '/').readAs.adds (by simp [SaysGreed, allBut])

theorem appends_star : Appends ['[', '^', '/', ']', '*'] := by
  have hscan : Token.scan ['[', '^', '/', ']', '*'] = (allBut '/' ++ [Token.plain '*'], false) := rfl
  exact appends_of_scan hscan (readAs_allBut '/').star.adds (by simp [SaysGreed, allBut])

/-! ## 2. Classes -/

/-- The token of a member of a class. -/
def classToken (c : CodePoint) : Token := if c = '\\' then .escape '\\' else .plain c

theorem texts_classTokens (members : Text) : Token.texts (members.map classToken) =
    members.flatMap fun c => if c = .char '\\' then [.char '\\', .char '\\'] else [c] := by
  rw [Token.texts, List.flatMap_map]
  refine List.flatMap_congr fun c _ => ?_
  unfold classToken
  split <;> rfl

theorem classToken_proper (c : CodePoint) : (classToken c).IsProper := by
  unfold classToken
  split
  · trivial
  · next hc => exact hc

theorem classToken_eq_plain {c d : CodePoint} (h : classToken c = .plain d) : c = d := by
  unfold classToken at h
  split at h
  · cases h
  · exact Token.plain.inj h

/-- The members of a class end at the first bracket other than one in front. -/
theorem classMembers_delimited {t members after : Text} (h : classMembers t = some (members, after)) :
    .char ']' ∉ members.tail ∧ members.head? = t.head? ∧ members ≠ [] := by
  have hclose : ∀ rest : Text, .char ']' ∉ rest.takeWhile (· != .char ']') := fun rest hmem => by
    simpa using List.mem_takeWhile_imp hmem
  unfold classMembers at h
  rcases t with _ | ⟨c, t⟩
  · simp at h
  · by_cases hc : c = ']'
    · subst hc
      simp only at h
      split at h
      · obtain ⟨rfl, -⟩ := Prod.mk.inj (Option.some.inj h)
        exact ⟨by simpa using hclose t, rfl, by simp⟩
      · cases h
    · split at h
      next first rest hsplit =>
      split at hsplit
      · next he => exact absurd (List.cons.inj he).1 hc
      · obtain ⟨rfl, rfl⟩ := Prod.mk.inj hsplit
        split at h
        · obtain ⟨rfl, -⟩ := Prod.mk.inj (Option.some.inj h)
          rw [List.nil_append, List.takeWhile_cons_of_pos (by simpa using hc)]
          exact ⟨hclose t, rfl, List.cons_ne_nil _ _⟩
        · cases h

/-- A class is one item, or no part of any expression. -/
theorem appends_class (negated : Bool) {t members after : Text} (h : classMembers t = some (members, after))
    (hcaret : negated = false → t.head? ≠ some (.char '^')) :
    Appends (.char '[' :: (if negated then [.char '^'] else []) ++
      members.flatMap (fun c => if c = .char '\\' then [.char '\\', .char '\\'] else [c]) ++ [.char ']']) := by
  obtain ⟨hclose, hhead, hne⟩ := classMembers_delimited h
  have hdelimited : Bracket.Delimited negated (members.map classToken) := by
    refine ⟨by simpa using hne, fun hmem => ?_, fun hnegated he => ?_⟩
    · rw [← List.map_tail] at hmem
      obtain ⟨c, hc, he⟩ := List.mem_map.mp hmem
      exact hclose (classToken_eq_plain he ▸ hc)
    · obtain ⟨c, hc, he⟩ := List.head?_map.symm.trans he |> Option.map_eq_some_iff.mp
      exact hcaret hnegated (hhead ▸ classToken_eq_plain he ▸ hc)
  have hproper : ∀ token ∈ members.map classToken, token.IsProper :=
    List.forall_mem_map.mpr fun c _ => classToken_proper c
  refine ⟨bracketed negated (members.map classToken), ?_, bracketed_proper hproper, ?_, ?_⟩
  · simp only [bracketed, Token.texts_cons, Token.texts_append, texts_classTokens]
    cases negated <;> rfl
  · rcases readAsAtom_bracketed hdelimited with ⟨items, hread⟩ | hfails
    · exact hread.readAs.adds
    · exact hfails.adds
  · simp [SaysGreed, bracketed]

theorem appends_convertClass {t expression after : Text} (h : convertClass t = some (expression, after)) :
    Appends expression := by
  unfold convertClass at h
  split at h
  next negation rest hsplit =>
  obtain ⟨⟨members, after'⟩, hmembers, heq⟩ := Option.map_eq_some_iff.mp h
  obtain ⟨rfl, -⟩ := Prod.mk.inj heq
  split at hsplit
  · obtain ⟨rfl, rfl⟩ := Prod.mk.inj hsplit
    exact appends_class true hmembers (by simp)
  · obtain ⟨rfl, rfl⟩ := Prod.mk.inj hsplit
    exact appends_class true hmembers (by simp)
  · next hexclaim hcaret =>
    obtain ⟨rfl, rfl⟩ := Prod.mk.inj hsplit
    refine appends_class false hmembers fun _ he => ?_
    obtain ⟨rest', hrest⟩ := List.head?_eq_some_iff.mp he
    exact hcaret rest' hrest

/-! ## 3. Segments -/

theorem after_eq_expression {front t : Text} {s : Segment} (h : s.after front = .expression t) :
    ∃ more, s = .expression more ∧ t = front ++ more := by
  cases s with
  | expression more =>
    cases h
    exact ⟨more, rfl, rfl⟩
  | openClass => cases h
  | danglingEscape => cases h

theorem appends_convertSegment {s t : Text} (h : convertSegment s = .expression t) : Appends t := by
  fun_induction convertSegment s generalizing t with
  | case1 =>
    cases h
    exact .nil
  | case2 => cases h
  | case3 c rest ih =>
    obtain ⟨more, hmore, rfl⟩ := after_eq_expression h
    exact (appends_literal c).append (ih hmore)
  | case4 rest ih =>
    obtain ⟨more, hmore, rfl⟩ := after_eq_expression h
    exact appends_star.append (ih hmore)
  | case5 rest ih =>
    obtain ⟨more, hmore, rfl⟩ := after_eq_expression h
    exact appends_any.append (ih hmore)
  | case6 rest expression after hclass _ ih =>
    obtain ⟨more, hmore, rfl⟩ := after_eq_expression h
    exact (appends_convertClass hclass).append (ih hmore)
  | case7 rest hnone => cases h
  | case8 c rest _ _ _ _ _ ih =>
    obtain ⟨more, hmore, rfl⟩ := after_eq_expression h
    exact (appends_literal c).append (ih hmore)

theorem readAs_slash : ReadAsAtom [.plain '/'] (.char '/'.toNat) := readAs_plain (by decide)

/-- What stands for a folder in which a match lies. -/
def markTokens : List Token := named (Text.ofString "ps_d") [.plain '/']

theorem adds_mark : Adds markTokens :=
  adds_named (by decide) (by decide) readAs_slash.readAs.adds

theorem appends_mark : Appends folderMark := by
  have hscan : Token.scan folderMark = (markTokens, false) := rfl
  exact appends_of_scan hscan adds_mark (by simp [SaysGreed, markTokens, named])

/-- The end of a name, of a folder or of a file. -/
theorem appends_end : Appends (Text.ofString "(?:" ++ folderMark ++ Text.ofString "|$)") := by
  have hscan : Token.scan (Text.ofString "(?:" ++ folderMark ++ Text.ofString "|$)") =
      (grouped (markTokens ++ Token.plain '|' :: [.plain '$']), false) := rfl
  exact appends_of_scan hscan (adds_choice adds_mark readAs_lineEnd.adds) (by simp [SaysGreed, grouped])

/-- Any number of folders behind a slash. -/
theorem appends_folders : Appends (Text.ofString "(?:/.+)?") := by
  have hread : ReadAs ([Token.plain '/'] ++ [Token.plain '.', .plain '+'])
      ([{ node := .char '/'.toNat }] ++ [{ node := .repetition .greedy 1 none .any, kind := .repeated }]) :=
    readAs_slash.readAs.append readAs_any.plus (by simp [SaysGreed])
  have hscan : Token.scan (Text.ofString "(?:/.+)?") =
      (grouped [.plain '/', .plain '.', .plain '+'] ++ [Token.plain '?'], false) := rfl
  exact appends_of_scan hscan (readAsAtom_group hread).option.adds (by simp [SaysGreed, grouped])

/-- A name of any kind. -/
theorem appends_name : Appends (Text.ofString "[^/]+") := by
  have hscan : Token.scan (Text.ofString "[^/]+") = (allBut '/' ++ [Token.plain '+'], false) := rfl
  exact appends_of_scan hscan (readAs_allBut '/').plus.adds (by simp [SaysGreed, allBut])

theorem appends_convertSegments {isFolder slash : Bool} {segments : List Text} {t : Text}
    (h : convertSegments isFolder false slash segments = .expression t) : Appends t := by
  generalize hfirst : false = first at h
  fun_induction convertSegments isFolder first slash segments generalizing t with
  | case1 =>
    cases h
    exact .nil
  | case2 => cases hfirst
  | case3 first slash rest =>
    cases h
    split
    · exact appends_mark
    · exact appends_literal '/'
  | case4 first slash rest _ _ ih =>
    obtain ⟨more, hmore, rfl⟩ := after_eq_expression h
    exact appends_folders.append (ih rfl hmore)
  | case5 first slash segment rest _ front last body text hbody =>
    rename_i ih
    obtain ⟨more, hmore, rfl⟩ := after_eq_expression h
    subst hfirst
    have hfront : Appends front := by
      simp only [front]
      cases slash
      · exact .nil
      · exact appends_literal '/'
    have htext : Appends text := by
      simp only [body] at hbody
      split at hbody
      · cases hbody
        exact appends_name
      · exact appends_convertSegment hbody
    have hlast : Appends last := by
      simp only [last]
      split
      · exact appends_end
      · exact .nil
    exact ((hfront.append htext).append hlast).append (ih rfl hmore)
  | case6 first slash segment rest _ body =>
    rename_i hnone
    exact absurd h (hnone t)

/-! ## 4. Patterns -/

/-- The characters with a meaning of their own at the start of a segment. -/
def specials : List CodePoint := ['/', '\\', '*', '?', '[']

theorem after_after (s : Segment) (t u : Text) : (s.after u).after t = s.after (t ++ u) := by
  cases s <;> simp [Segment.after]

/-- The first segment, at the start of the path or in any folder, starts with a text. -/
def StartsWith (u : Text) (segments : List Text) : Prop :=
  ∃ s more, segments = (u ++ s) :: more ∨ segments = anyFolders :: (u ++ s) :: more

/-- Up to a separator, parts begin with what the text begins with. -/
theorem splitAtChar_append {sep : CodePoint} {u : Text} (hu : sep ∉ u) (t : Text) :
    ∃ s more, Text.splitAtChar sep (u ++ t) = (u ++ s) :: more := by
  induction u with
  | nil =>
    cases t with
    | nil => exact ⟨[], [], rfl⟩
    | cons c t =>
      show ∃ s more, Text.splitAtChar sep (c :: t) = s :: more
      simp only [Text.splitAtChar, List.foldr_cons]
      split
      · exact ⟨_, _, rfl⟩
      · generalize List.foldr _ _ t = parts
        cases parts <;> exact ⟨_, _, rfl⟩
  | cons c u ih =>
    rw [List.mem_cons, not_or] at hu
    obtain ⟨s, more, he⟩ := ih hu.2
    refine ⟨s, more, ?_⟩
    have hcons : Text.splitAtChar sep (c :: (u ++ t)) = Text.consFirst c (Text.splitAtChar sep (u ++ t)) := by
      simp [Text.splitAtChar, Ne.symm hu.1]
    rw [List.cons_append, hcons, he]
    rfl

theorem convertSegment_append {u : Text} (hu : ∀ c ∈ u, c ∉ specials) (s : Text) :
    convertSegment (u ++ s) = (convertSegment s).after (u.flatMap literal) := by
  induction u with
  | nil => cases hs : convertSegment s <;> simp [Segment.after, hs]
  | cons d u ih =>
    obtain ⟨hd, hu⟩ := List.forall_mem_cons.mp hu
    have hspecial : ∀ c ∈ specials, d ≠ c := fun c hc he => hd (he ▸ hc)
    have hfirst : convertSegment (d :: (u ++ s)) = (convertSegment (u ++ s)).after (literal d) := by
      rw [convertSegment]
      · exact fun he => absurd he (hspecial '\\' (by decide))
      · exact fun c rest he => absurd he (hspecial '\\' (by decide))
      · exact hspecial '*' (by decide)
      · exact hspecial '?' (by decide)
      · exact hspecial '[' (by decide)
    rw [List.cons_append, hfirst, ih hu, after_after, List.flatMap_cons]

section starts

variable {d : CodePoint} {u : Text} (hplain : ∀ c ∈ d :: u, c ∉ specials)
include hplain

theorem ne_anyFolders (t : Text) : d :: t ≠ anyFolders := by
  rintro he
  exact hplain d List.mem_cons_self ((List.cons.inj he).1 ▸ by decide)

theorem segmentsOf_starts (t : Text) : StartsWith (d :: u) (segmentsOf (d :: u ++ t)) := by
  obtain ⟨s, more, hsplit⟩ := splitAtChar_append (u := d :: u)
    (show .char '/' ∉ d :: u from fun hmem => hplain _ hmem (by decide)) t
  unfold segmentsOf
  rw [hsplit]
  split
  · next he => cases he
  · next he =>
    cases he
    rw [if_neg (show d :: u ++ s ≠ anyFolders from ne_anyFolders hplain _)]
    exact ⟨s, _, .inr rfl⟩
  · next he =>
    cases he
    rw [if_neg (show d :: u ++ s ≠ anyFolders from ne_anyFolders hplain _)]
    exact ⟨s, _, .inr rfl⟩
  · exact ⟨s, more, .inl rfl⟩

theorem collapse_starts {segments : List Text} (h : StartsWith (d :: u) segments) :
    StartsWith (d :: u) (collapse segments) := by
  have hfirst : ∀ s more, ∃ more', collapse ((d :: u ++ s) :: more) = (d :: u ++ s) :: more' := by
    intro s more
    cases more with
    | nil => exact ⟨_, rfl⟩
    | cons t more =>
      rw [collapse, if_neg (by simp [ne_anyFolders hplain])]
      exact ⟨_, rfl⟩
  obtain ⟨s, more, rfl | rfl⟩ := h
  · obtain ⟨more', he⟩ := hfirst s more
    exact ⟨s, more', .inl he⟩
  · obtain ⟨more', he⟩ := hfirst s more
    rw [collapse, if_neg (by simp [ne_anyFolders hplain]), he]
    exact ⟨s, more', .inr rfl⟩

omit hplain in
/-- With the folder itself as the last segment, the first one stays. -/
theorem folder_starts {segments : List Text} (h : StartsWith (d :: u) segments) (hlast : segments.getLast? = some []) :
    StartsWith (d :: u) (segments.dropLast ++ [anyFolders]) := by
  obtain ⟨s, more, rfl | rfl⟩ := h
  · cases more with
    | nil => simp at hlast
    | cons t more => exact ⟨s, (t :: more).dropLast ++ [anyFolders], .inl (by simp [List.dropLast])⟩
  · cases more with
    | nil => simp at hlast
    | cons t more => exact ⟨s, (t :: more).dropLast ++ [anyFolders], .inr (by simp [List.dropLast])⟩

/-- The first segment that is a name begins with its first characters. -/
theorem convertSegments_name {isFolder first : Bool} {s text : Text} {more : List Text}
    (h : convertSegments isFolder first false ((d :: u ++ s) :: more) = .expression text) :
    ∃ after, Appends after ∧ text = (if first then [.char '^'] else []) ++ (d :: u).flatMap literal ++ after := by
  have hsegment := convertSegment_append hplain s
  have hstar : d :: u ++ s ≠ [.char '*'] := fun he =>
    hplain d List.mem_cons_self ((List.cons.inj he).1 ▸ by decide)
  rw [convertSegments, if_neg (show d :: u ++ s ≠ anyFolders from ne_anyFolders hplain _)] at h
  simp only [if_neg hstar, hsegment, Bool.false_eq_true, if_false, List.append_nil] at h
  split at h
  · next body hbody =>
    obtain ⟨inner, hinner, rfl⟩ := after_eq_expression hbody
    obtain ⟨rest, hrest, rfl⟩ := after_eq_expression h
    have hend : Appends (if more.isEmpty then Text.ofString "(?:" ++ folderMark ++ Text.ofString "|$)" else []) := by
      split
      · exact appends_end
      · exact .nil
    refine ⟨_, ((appends_convertSegment hinner).append hend).append (appends_convertSegments hrest), ?_⟩
    simp only [List.append_assoc]
  · next hnone => exact absurd h (hnone text)

theorem convertSegments_starts {isFolder : Bool} {segments : List Text} {text : Text}
    (h : StartsWith (d :: u) segments) (htext : convertSegments isFolder true false segments = .expression text) :
    ∃ front more, (front = [.char '^'] ∨ front = Text.ofString "^(?:.+/)?") ∧ Appends more ∧
      text = front ++ (d :: u).flatMap literal ++ more := by
  obtain ⟨s, more, rfl | rfl⟩ := h
  · obtain ⟨after, hafter, rfl⟩ := convertSegments_name hplain htext
    exact ⟨['^'], after, .inl rfl, hafter, rfl⟩
  · rw [convertSegments, if_pos rfl, if_pos rfl] at htext
    obtain ⟨rest, hrest, rfl⟩ := after_eq_expression htext
    obtain ⟨after, hafter, rfl⟩ := convertSegments_name hplain hrest
    exact ⟨_, after, .inr rfl, hafter, by simp⟩

theorem expressionOf_starts (isFolder : Bool) {segments : List Text} (h : StartsWith (d :: u) segments) :
    expressionOf isFolder segments = convertSegments isFolder true false segments := by
  have hstar : ∀ s, d :: s ≠ [.char '*'] := fun s he =>
    hplain d List.mem_cons_self ((List.cons.inj he).1 ▸ by decide)
  obtain ⟨s, more, rfl | rfl⟩ := h <;> simp [expressionOf, ne_anyFolders hplain, hstar]

/-- The expression of a pattern that starts with characters other than the special ones begins with them, at the
start of the path or behind a slash. -/
theorem expressionText_starts {line t text : Text} (h : expressionText line (d :: u ++ t) = .ok (some text)) :
    ∃ front more, (front = [.char '^'] ∨ front = Text.ofString "^(?:.+/)?") ∧ Appends more ∧
      text = front ++ (d :: u).flatMap literal ++ more := by
  unfold expressionText at h
  simp only at h
  have hsegments := segmentsOf_starts hplain t
  have hcollapsed : StartsWith (d :: u) (collapse (if (segmentsOf (d :: u ++ t)).getLast? = some [] then
      (segmentsOf (d :: u ++ t)).dropLast ++ [anyFolders] else segmentsOf (d :: u ++ t))) := by
    refine collapse_starts hplain ?_
    split
    · next hlast => exact folder_starts hsegments hlast
    · exact hsegments
  generalize collapse _ = segments at h hcollapsed
  split at h
  · cases h
  · split at h
    · next found hfound =>
      cases h
      rw [expressionOf_starts hplain _ hcollapsed] at hfound
      exact convertSegments_starts hplain hcollapsed hfound
    · cases h
    · cases h

end starts

/-! ## 5. Matches -/

/-- An expression with a text behind it that adds items starts with the items before that text. -/
theorem tree_of_appends {ts : List Token} {items : List Item} {more : Text} {e : Expression}
    (hproper : ∀ token ∈ ts, token.IsProper) (hread : ReadAs ts items) (hmore : Appends more)
    (hparse : parse (Token.texts ts ++ more) = .ok e) :
    e.flags = {} ∧ ∃ nodes, e.tree = .sequence (items.map (·.node) ++ nodes) := by
  obtain ⟨us, rfl, hus, hadds, hquiet⟩ := hmore
  have hend : ¬ SaysGreed us := by simpa using hquiet [] (by simp [SaysGreed])
  rw [← Token.texts_append, parse_texts (List.forall_mem_append.mpr ⟨hproper, hus⟩), hread {} us rfl hend] at hparse
  exact tree_of_adds hadds hparse

/-- The start of the text, as an item. -/
def lineStart : Item := { node := .anchor .lineStart, kind := .anchor }

theorem readAs_lineStart : ReadAs [.plain '^'] [lineStart] := by
  intro s rest hs _
  refine readTokens_cons (n := 0) ?_
  unfold step
  simp only [hs, Bool.false_and, Bool.false_eq_true, if_false]
  rfl

/-- Some folders and the slash behind them. -/
def folders : List Item :=
  [{ node := .repetition .greedy 1 none .any, kind := .repeated }, { node := .char '/'.toNat }]

/-- Any number of folders, as an item. -/
def anyDepth : Item := { node := .repetition .greedy 0 (some 1) (nodeOf folders), kind := .repeated }

theorem readAs_anyDepth : ReadAs (grouped [.plain '.', .plain '+', .plain '/'] ++ [Token.plain '?']) [anyDepth] := by
  have hread : ReadAs ([Token.plain '.', .plain '+'] ++ [Token.plain '/']) folders :=
    readAs_any.plus.append readAs_slash.readAs (by simp [SaysGreed])
  exact (readAsAtom_group hread).option

/-- What begins a pattern matches nothing, or some folders and the slash behind them. -/
theorem reads_anyDepth {k k' : Cursor} (hk : .char '\n' ∉ k.after) (h : k' ∈ anyDepth.node.run {} k) :
    ∃ u, k.Reads u k' ∧ (u = [] ∨ ∃ v, u = v ++ [.char '/']) := by
  rcases Node.mem_run_option h with rfl | hfolders
  · exact ⟨[], Cursor.reads_nil.mpr rfl, .inl rfl⟩
  · have hspells : List.Forall₂ (Node.Spells {}) (folders.map (·.node))
        [fun u _ => u ≠ [] ∧ ∀ c ∈ u, (c != .char '\n') = true, fun u _ => u = [.char '/']] :=
      .cons (Node.spells_plus fun _ => rfl) (.cons (Node.spells_char '/') .nil)
    obtain ⟨u, hreads, v, w, rfl, -, w', x, rfl, rfl, rfl⟩ := (Node.spells_sequence hspells k k' hk).mp hfolders
    exact ⟨_, hreads, .inr ⟨v, by simp⟩⟩

/-- What stands in front of the first name is the start of the path, with any number of folders or none. -/
theorem front_items {front : Text} (h : front = [.char '^'] ∨ front = Text.ofString "^(?:.+/)?") :
    ∃ ts items, Token.texts ts = front ∧ (∀ token ∈ ts, token.IsProper) ∧ ReadAs ts (lineStart :: items) ∧
      (items = [] ∨ items = [anyDepth]) := by
  rcases h with rfl | rfl
  · exact ⟨[.plain '^'], [], rfl, by simp [Token.IsProper], readAs_lineStart, .inl rfl⟩
  · have hscan : Token.scan (Text.ofString "^(?:.+/)?") =
        ([Token.plain '^'] ++ (grouped [.plain '.', .plain '+', .plain '/'] ++ [Token.plain '?']), false) := rfl
    obtain ⟨htexts, hproper⟩ := Token.of_scan hscan
    exact ⟨_, [anyDepth], htexts, hproper, readAs_lineStart.append readAs_anyDepth (by simp [SaysGreed, grouped]),
      .inr rfl⟩

/-- Characters that stand for themselves, one after the other. -/
theorem exists_literals (u : Text) : ∃ ts : List Token, Token.texts ts = u.flatMap literal ∧
    (∀ token ∈ ts, token.IsProper) ∧ ReadAs ts (u.map fun c => { node := .char c.toNat }) ∧
      ∀ rest, ¬ SaysGreed rest → ¬ SaysGreed (ts ++ rest) := by
  induction u with
  | nil => exact ⟨[], rfl, fun _ h => absurd h List.not_mem_nil, .nil, fun _ h => h⟩
  | cons c u ih =>
    obtain ⟨token, htext, hproper, hread, hquiet⟩ := exists_literal c
    obtain ⟨ts, htexts, hpropers, hreads, hquiets⟩ := ih
    refine ⟨token :: ts, ?_, List.forall_mem_cons.mpr ⟨hproper, hpropers⟩, ?_, fun rest _ => hquiet (ts ++ rest)⟩
    · rw [Token.texts_cons, htext, htexts, List.flatMap_cons]
    · exact hread.readAs.append hreads hquiets

/-- What is matched by characters, and something behind them, starts with the characters. -/
theorem prefix_of_run_chars {nodes : List Node} {u : Text} {k k' : Cursor} (hk : .char '\n' ∉ k.after)
    (h : k' ∈ (Node.sequence ((u.map fun c => .char c.toNat) ++ nodes)).run {} k) : u <+: k.after := by
  induction u generalizing k with
  | nil => exact List.nil_prefix
  | cons c u ih =>
    obtain ⟨k₁, hchar, hrest⟩ := Node.mem_run_sequence.mp h
    obtain ⟨_, hreads, rfl⟩ := (Node.spells_char c k k₁ hk).mp hchar
    have hafter : k.after = c :: k₁.after := hreads.after
    rw [hafter, List.prefix_cons_inj]
    exact ih (fun hmem => hk (hafter ▸ List.mem_cons_of_mem c hmem)) hrest

/-- A match of a pattern that starts with some characters has the characters in it, at the start of the path or
behind a slash. -/
theorem plain_behind_slash {u front more path : Text} (hfront : front = [.char '^'] ∨ front = Text.ofString "^(?:.+/)?")
    (hmore : Appends more) {e : Expression} (hparse : parse (front ++ u.flatMap literal ++ more) = .ok e)
    (hpath : .char '\n' ∉ path) (hsearch : e.search path = true) :
    ∃ above rest, .char '/' :: path = above ++ .char '/' :: rest ∧ u <+: rest := by
  obtain ⟨us, htext, hproper, hread, hquiet⟩ := exists_literals u
  obtain ⟨ts, items, rfl, hfrontProper, hfrontRead, hitems⟩ := front_items hfront
  rw [← htext, ← Token.texts_append] at hparse
  obtain ⟨hflags, nodes, htree⟩ := tree_of_appends (List.forall_mem_append.mpr ⟨hfrontProper, hproper⟩)
    (hfrontRead.append hread hquiet) hmore hparse
  obtain ⟨v, w, rfl, k, hk⟩ := (e.searchFrom_iff_run [] path).mp hsearch
  rw [htree, hflags, List.cons_append, List.map_cons, List.cons_append, Node.mem_run_sequence] at hk
  obtain ⟨k₁, hstart, hk⟩ := hk
  obtain ⟨rfl, hbefore⟩ := Node.mem_run_lineStart hstart
  obtain rfl : v = [] := by simpa using hbefore
  rw [List.map_append, List.append_assoc, List.map_map] at hk
  -- what the folders take, and the characters behind them
  obtain ⟨x, k₂, hx, hfolders, hk⟩ : ∃ x k₂, (x = [] ∨ ∃ y, x = y ++ [.char '/']) ∧
      Cursor.Reads { before := [], after := w } x k₂ ∧
        k ∈ (Node.sequence ((u.map fun c => .char c.toNat) ++ nodes)).run {} k₂ := by
    rcases hitems with rfl | rfl
    · exact ⟨[], _, .inl rfl, Cursor.reads_nil.mpr rfl, hk⟩
    · obtain ⟨k₂, hdepth, hk⟩ := Node.mem_run_sequence.mp hk
      obtain ⟨x, hreads, hx⟩ := reads_anyDepth hpath hdepth
      exact ⟨x, k₂, hx, hreads, hk⟩
  have hwhole : w = x ++ k₂.after := hfolders.after
  have hprefix : u <+: k₂.after := prefix_of_run_chars (fun hmem => hpath (by
    rw [List.nil_append, hwhole]
    exact List.mem_append_right x hmem)) hk
  rw [List.nil_append, hwhole]
  rcases hx with rfl | ⟨y, rfl⟩
  · exact ⟨[], k₂.after, rfl, hprefix⟩
  · exact ⟨'/' :: y, k₂.after, by simp, hprefix⟩

end SkipPath.Gitignore
