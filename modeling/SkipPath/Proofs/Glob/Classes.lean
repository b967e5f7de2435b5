import SkipPath.Glob.Piece
import SkipPath.Proofs.Regex.Brackets
import Mathlib.Data.List.TakeWhile

/-!
The classes of a glob, as tokens of a regular expression.

Where a class of a glob ends is decided by `closeClass`, which takes backslashes and names in `[:` and `:]`
together with what belongs to them; how its members are written is decided by `convertMembers`, which goes
through them by itself and takes fewer names for names.  The two agree on what counts: members that are
closed never end in a lone backslash when they are written (`paired_of_closeMembers`), since both are back
in step after each name, and no token of what is written closes a class (`close_not_mem_scan`).  So a class
of a glob is written as a class of a regular expression that ends where the class ends
(`isMembers_memberTokens`).
-/

namespace SkipPath.Glob

open Regex

/-! ## 1. What is closed -/

/-- A character that escapes nothing and does not stand alone at the end is no backslash. -/
theorem ne_backslash {c : CodePoint} {rest : Text} (hlone : c = '\\' → rest = [] → False)
    (hescape : ∀ d more, c = '\\' → rest = d :: more → False) : c ≠ '\\' := by
  rintro rfl
  cases rest with
  | nil => exact hlone rfl rfl
  | cons d rest => exact hescape d rest rfl rfl

/-- What was put in front of the text before an end is found in front of it. -/
theorem exists_closed {x : Option (Text × Text)} {g : Text × Text → Text × Text} {f : Text → Text}
    {body after : Text} (h : x.map g = some (body, after))
    (hg : ∀ inner rest, g (inner, rest) = (f inner, rest)) :
    ∃ inner, x = some (inner, after) ∧ body = f inner := by
  obtain ⟨⟨inner, rest⟩, hx, heq⟩ := Option.map_eq_some_iff.mp h
  rw [hg] at heq
  obtain ⟨rfl, rfl⟩ := Prod.mk.inj heq
  exact ⟨inner, hx, rfl⟩

theorem splitAtNameEnd_split {t name after : Text} (h : splitAtNameEnd t = some (name, after)) :
    t = name ++ .char ':' :: .char ']' :: after := by
  fun_induction splitAtNameEnd t generalizing name after with
  | case1 rest =>
    obtain ⟨rfl, rfl⟩ := Prod.mk.inj (Option.some.inj h)
    rfl
  | case2 => cases h
  | case3 c rest _ ih =>
    obtain ⟨name', h', rfl⟩ := exists_closed h fun _ _ => rfl
    rw [ih h']
    rfl

/-- The members of a class, the bracket that closes it, and the rest are the whole text. -/
theorem closeMembers_split {t body after : Text} (h : closeMembers t = some (body, after)) :
    t = body ++ .char ']' :: after := by
  fun_induction closeMembers t generalizing body after with
  | case1 => cases h
  | case2 rest =>
    obtain ⟨rfl, rfl⟩ := Prod.mk.inj (Option.some.inj h)
    rfl
  | case3 => cases h
  | case4 c rest ih =>
    obtain ⟨body', h', rfl⟩ := exists_closed h fun _ _ => rfl
    rw [ih h']
    rfl
  | case5 rest name more hname _ ih =>
    obtain ⟨body', h', rfl⟩ := exists_closed h fun _ _ => rfl
    rw [splitAtNameEnd_split hname, ih h']
    simp
  | case6 rest _ ih =>
    obtain ⟨body', h', rfl⟩ := exists_closed h fun _ _ => rfl
    rw [ih h']
    rfl
  | case7 c rest _ _ _ _ ih =>
    obtain ⟨body', h', rfl⟩ := exists_closed h fun _ _ => rfl
    rw [ih h']
    rfl

/-! ## 2. Members in pairs -/

/-- The members are written without a lone backslash at their end. -/
def Paired (t : Text) : Prop := (Token.scan (convertMembers t)).2 = false

theorem paired_nil : Paired [] := by
  rw [Paired, convertMembers]
  rfl

theorem paired_escape (c : CodePoint) {t : Text} (h : Paired t) : Paired ('\\' :: c :: t) := by
  rw [Paired, convertMembers]
  exact h

theorem convertMembers_plain {c : CodePoint} (hc : c ∉ [.char '\\', .char '[', .char '.', .char ']']) (t : Text) :
    convertMembers (c :: t) = c :: convertMembers t := by
  simp only [List.mem_cons, List.not_mem_nil, or_false, not_or] at hc
  obtain ⟨hbackslash, hopen, hdot, hclose⟩ := hc
  rw [convertMembers]
  · simp [hdot, hclose]
  · intro d rest he
    exact absurd he hbackslash
  · exact hopen

theorem convertMembers_escaped {c : CodePoint} (hc : c = '.' ∨ c = ']') (t : Text) :
    convertMembers (c :: t) = .char '\\' :: c :: convertMembers t := by
  rcases hc with rfl | rfl
  · rw [convertMembers] <;> simp
  · rw [convertMembers] <;> simp

/-- What a name that was found stands for, and where it ends. -/
theorem namedClass?_some {t members after : Text} (h : namedClass? t = some (members, after)) :
    ∃ name, t = .char ':' :: name ++ .char ':' :: .char ']' :: after ∧ (∀ c ∈ name, isNameLetter c = true) ∧
      ∃ entry ∈ namedClasses, entry.2 = members := by
  unfold namedClass? at h
  split at h
  · next rest =>
    simp only at h
    split at h
    · next after' hrest =>
      obtain ⟨members', hmembers, heq⟩ := Option.map_eq_some_iff.mp h
      obtain ⟨rfl, rfl⟩ := Prod.mk.inj heq
      obtain ⟨entry, hentry, rfl⟩ := Option.map_eq_some_iff.mp hmembers
      refine ⟨rest.takeWhile isNameLetter, ?_, ?_, entry, List.mem_of_find?_eq_some hentry, rfl⟩
      · have hwhole : rest = rest.takeWhile isNameLetter ++ rest.dropWhile isNameLetter :=
          List.takeWhile_append_dropWhile.symm
        rw [hrest] at hwhole
        rw [List.cons_append, ← hwhole]
      · intro c hc
        exact List.mem_takeWhile_imp hc
    · cases h
  · cases h

/-- What names stand for is scanned on its own, and closes no class and negates none. -/
theorem namedClasses_scan : ∀ entry ∈ namedClasses, (Token.scan entry.2).2 = false ∧
    Token.close ∉ (Token.scan entry.2).1 ∧ entry.2 ≠ [] ∧ entry.2.head? ≠ some (.char '^') := by
  decide

theorem paired_letters {name t : Text} (hname : ∀ c ∈ name, c ∉ [.char '\\', .char '[', .char '.', .char ']']) :
    Paired (name ++ t) ↔ Paired t := by
  induction name with
  | nil => rfl
  | cons c name ih =>
    obtain ⟨hc, hname⟩ := List.forall_mem_cons.mp hname
    have hbackslash : c ≠ '\\' := fun he => hc (by rw [he]; exact List.mem_cons_self)
    rw [← ih hname, List.cons_append, Paired, convertMembers_plain hc, Token.scan_plain hbackslash]
    rfl

theorem nameLetter_plain {c : CodePoint} (hc : isNameLetter c = true) :
    c ∉ [.char '\\', .char '[', .char '.', .char ']'] := by
  intro hmem
  simp only [List.mem_cons, List.not_mem_nil, or_false] at hmem
  rcases hmem with rfl | rfl | rfl | rfl <;> revert hc <;> decide

/-- A character in front that is no backslash leaves the members in pairs. -/
theorem paired_cons {c : CodePoint} (hc : c ≠ '\\') {t : Text} (h : Paired t) : Paired (c :: t) := by
  by_cases hopen : c = '['
  · subst hopen
    rw [Paired, convertMembers]
    split
    · next members after hnamed =>
      -- the colon, the name and the bracket would be written as themselves, so that what follows is paired
      obtain ⟨name, rfl, hname, entry, hentry, rfl⟩ := namedClass?_some hnamed
      have hplain : ∀ c ∈ .char ':' :: name ++ [.char ':'], c ∉ [.char '\\', .char '[', .char '.', .char ']'] := by
        intro c hc
        simp only [List.cons_append, List.mem_cons, List.mem_append, List.not_mem_nil, or_false] at hc
        rcases hc with rfl | hc | rfl
        · decide
        · exact nameLetter_plain (hname c hc)
        · decide
      have hafter : Paired after := by
        rw [List.append_cons, paired_letters hplain, Paired, convertMembers_escaped (.inr rfl)] at h
        exact h
      rw [Token.scan_append (namedClasses_scan entry hentry).1]
      exact hafter
    · exact h
  by_cases hescaped : c = '.' ∨ c = ']'
  · rw [Paired, convertMembers_escaped hescaped]
    exact h
  · have hplain : c ∉ [.char '\\', .char '[', .char '.', .char ']'] := by
      simp only [not_or] at hescaped
      simp [hc, hopen, hescaped]
    exact (@paired_letters [c] t (List.forall_mem_singleton.mpr hplain)).mpr h

/-- A name in front, with all that is in it, leaves the members in pairs: after the bracket that ends it,
characters are taken in pairs as before. -/
theorem paired_name (name : Text) {t : Text} (h : Paired t) : Paired (name ++ .char ':' :: .char ']' :: t) := by
  have hend : Paired (']' :: t) := paired_cons (by decide) h
  fun_induction Token.scan name with
  | case1 => exact paired_cons (by decide) hend
  | case2 => exact paired_escape ':' hend
  | case3 c rest _ _ _ ih => exact paired_escape c ih
  | case4 c rest hlone hescape _ _ _ ih => exact paired_cons (ne_backslash hlone hescape) ih

/-- Members that are closed are in pairs. -/
theorem paired_of_closeMembers {t body after : Text} (h : closeMembers t = some (body, after)) :
    Paired body := by
  fun_induction closeMembers t generalizing body after with
  | case1 => cases h
  | case2 rest =>
    obtain ⟨rfl, -⟩ := Prod.mk.inj (Option.some.inj h)
    exact paired_nil
  | case3 => cases h
  | case4 c rest ih =>
    obtain ⟨body', h', rfl⟩ := exists_closed h fun _ _ => rfl
    exact paired_escape c (ih h')
  | case5 rest name more hname _ ih =>
    obtain ⟨body', h', rfl⟩ := exists_closed h fun _ _ => rfl
    have hbody : Paired (name ++ .char ':' :: .char ']' :: body') := paired_name name (ih h')
    exact paired_cons (by decide) (paired_cons (by decide) hbody)
  | case6 rest _ ih =>
    obtain ⟨body', h', rfl⟩ := exists_closed h fun _ _ => rfl
    exact paired_cons (by decide) (ih h')
  | case7 c rest _ hlone hescape _ ih =>
    obtain ⟨body', h', rfl⟩ := exists_closed h fun _ _ => rfl
    exact paired_cons (ne_backslash hlone hescape) (ih h')

/-! ## 3. What is written -/

/-- What is written for members holds no bracket but behind a backslash. -/
theorem bracket_not_mem_scan {b : CodePoint} (hb : b = '[' ∨ b = ']') (t : Text) :
    Token.plain b ∉ (Token.scan (convertMembers t)).1 := by
  have hnames : ∀ entry ∈ namedClasses, Token.plain b ∉ (Token.scan entry.2).1 := by
    rcases hb with rfl | rfl <;> decide
  fun_induction convertMembers t with
  | case1 => exact List.not_mem_nil
  | case2 c rest ih => simpa [Token.scan_escape] using ih
  | case3 rest members after hnamed _ ih =>
    obtain ⟨-, -, -, entry, hentry, rfl⟩ := namedClass?_some hnamed
    rw [Token.scan_append (namedClasses_scan entry hentry).1, List.mem_append, not_or]
    exact ⟨hnames entry hentry, ih⟩
  | case4 rest _ ih => simpa [Token.scan_escape] using ih
  | case5 c rest _ _ hc ih => simpa [Token.scan_escape] using ih
  | case6 c rest hescape hopen hc ih =>
    by_cases hbackslash : c = '\\'
    · subst hbackslash
      cases rest with
      | nil =>
        rw [convertMembers]
        exact List.not_mem_nil
      | cons d rest => exact absurd rfl (hescape d rest rfl)
    · rw [Token.scan_plain hbackslash, List.mem_cons, not_or]
      refine ⟨fun he => ?_, ih⟩
      obtain rfl : b = c := Token.plain.inj he
      rcases hb with rfl | rfl
      · exact hopen rfl
      · simp at hc

/-- What is written for members holds no token that would close the class. -/
theorem close_not_mem_scan (t : Text) : Token.close ∉ (Token.scan (convertMembers t)).1 :=
  bracket_not_mem_scan (.inr rfl) t

/-- What is written for members starts with a caret only if they do, and is empty only if they are. -/
theorem convertMembers_head (t : Text) :
    ((convertMembers t).head? = some (.char '^') → t.head? = some (.char '^')) ∧ (convertMembers t = [] → t = []) := by
  fun_cases convertMembers t with
  | case1 => simp
  | case2 c rest => simp
  | case3 rest members after hnamed _ =>
    obtain ⟨-, -, -, entry, hentry, rfl⟩ := namedClass?_some hnamed
    obtain ⟨-, -, hne, hcaret⟩ := namedClasses_scan entry hentry
    obtain ⟨c, members, hmembers⟩ := List.exists_cons_of_ne_nil hne
    rw [hmembers] at hcaret ⊢
    simpa using hcaret
  | case4 rest _ => simp
  | case5 c rest _ _ hc => simp
  | case6 c rest _ _ hc => simp

theorem splitNegation_suffix (body : Text) : (splitNegation body).2 <:+ body := by
  unfold splitNegation
  split
  · exact List.suffix_cons _ _
  · exact List.suffix_cons _ _
  · exact List.suffix_rfl

/-- A letter is written as itself. -/
theorem letter_plain {c : CodePoint} (hc : Text.isLetter c = true) :
    c ∉ [.char '\\', .char '[', .char '.', .char ']', .char '^'] := by
  intro hmem
  simp only [List.mem_cons, List.not_mem_nil, or_false] at hmem
  rcases hmem with rfl | rfl | rfl | rfl | rfl <;> exact absurd hc (by decide)

theorem isOneLetter_iff {members : Text} (h : isOneLetter members = true) :
    members ≠ [] ∧ ∀ c ∈ members, Text.isLetter c = true := by
  simp only [isOneLetter, Bool.and_eq_true, decide_eq_true_eq, List.all_eq_true] at h
  refine ⟨?_, h.1.2⟩
  rintro rfl
  exact absurd h.1.1 (by decide)

theorem mem_normalMembers {members : Text} {c : CodePoint} : c ∈ normalMembers members ↔ c ∈ members := by
  unfold normalMembers
  split
  · rw [List.mem_mergeSort, List.mem_eraseDups]
  · exact Iff.rfl

/-- Members in their normal spelling keep what matters of members. -/
theorem normalMembers_kept {members : Text} (h : Paired members) (hne : members ≠ []) :
    Paired (normalMembers members) ∧ normalMembers members ≠ [] ∧
      ((normalMembers members).head? = some (.char '^') → members.head? = some (.char '^')) := by
  by_cases hone : isOneLetter members = true
  · obtain ⟨-, hletters⟩ := isOneLetter_iff hone
    have hplain : ∀ c ∈ normalMembers members, c ∉ [.char '\\', .char '[', .char '.', .char ']', .char '^'] :=
      fun c hc => letter_plain (hletters c (mem_normalMembers.mp hc))
    obtain ⟨c, hc⟩ := List.exists_mem_of_ne_nil members hne
    refine ⟨?_, List.ne_nil_of_mem (mem_normalMembers.mpr hc), fun hcaret => ?_⟩
    · have hpaired := (paired_letters (t := []) fun c hc hspecial =>
        hplain c hc (List.mem_append_left [CodePoint.char '^'] hspecial)).mpr paired_nil
      rwa [List.append_nil] at hpaired
    · exact absurd (by decide) (hplain '^' (List.mem_of_mem_head? hcaret))
  · have hsame : normalMembers members = members := if_neg hone
    rw [hsame]
    exact ⟨h, hne, id⟩

/-- Members that are closed after the negation are in pairs, there are some, and they start as the text does. -/
theorem closeFirst_members {t body after : Text} (h : closeFirst t = some (body, after)) :
    Paired body ∧ body ≠ [] ∧ body.head? = t.head? := by
  unfold closeFirst at h
  split at h
  · obtain ⟨body', h', rfl⟩ := exists_closed h fun _ _ => rfl
    exact ⟨paired_cons (by decide) (paired_of_closeMembers h'), List.cons_ne_nil _ _, rfl⟩
  · next hclose =>
    have hsplit := closeMembers_split h
    have hne : body ≠ [] := by
      rintro rfl
      exact hclose after hsplit
    obtain ⟨c, rest, rfl⟩ := List.exists_cons_of_ne_nil hne
    exact ⟨paired_of_closeMembers h, hne, by rw [hsplit]; rfl⟩

/-- A class that is closed: its members are in pairs, there are some, and they do not negate it. -/
theorem closeClass_members {t body after : Text} (h : closeClass t = some (body, after)) :
    Paired (splitNegation body).2 ∧ (splitNegation body).2 ≠ [] ∧
      ((splitNegation body).1 = false → (splitNegation body).2.head? ≠ some (.char '^')) := by
  unfold closeClass at h
  split at h
  · obtain ⟨body', h', rfl⟩ := exists_closed h fun _ _ => rfl
    obtain ⟨hpaired, hne, -⟩ := closeFirst_members h'
    exact ⟨hpaired, hne, nofun⟩
  · obtain ⟨body', h', rfl⟩ := exists_closed h fun _ _ => rfl
    obtain ⟨hpaired, hne, -⟩ := closeFirst_members h'
    exact ⟨hpaired, hne, nofun⟩
  · next hexclaim hcaret =>
    obtain ⟨hpaired, hne, hhead⟩ := closeFirst_members h
    have hnegation : splitNegation body = (false, body) := by
      unfold splitNegation
      split
      · obtain ⟨rest, hrest⟩ := List.head?_eq_some_iff.mp hhead.symm
        exact absurd hrest (hexclaim rest)
      · obtain ⟨rest, hrest⟩ := List.head?_eq_some_iff.mp hhead.symm
        exact absurd hrest (hcaret rest)
      · rfl
    rw [hnegation]
    refine ⟨hpaired, hne, fun _ hstart => ?_⟩
    obtain ⟨rest, hrest⟩ := List.head?_eq_some_iff.mp (hhead.symm.trans hstart)
    exact hcaret rest hrest

theorem closeFirst_split {t body after : Text} (h : closeFirst t = some (body, after)) :
    t = body ++ .char ']' :: after := by
  unfold closeFirst at h
  split at h
  · obtain ⟨body', h', rfl⟩ := exists_closed h fun _ _ => rfl
    rw [closeMembers_split h']
    rfl
  · exact closeMembers_split h

/-- The body of a class, the bracket that closes it, and the rest are the whole text. -/
theorem closeClass_split {t body after : Text} (h : closeClass t = some (body, after)) :
    t = body ++ .char ']' :: after := by
  unfold closeClass at h
  split at h
  · obtain ⟨body', h', rfl⟩ := exists_closed h fun _ _ => rfl
    rw [closeFirst_split h']
    rfl
  · obtain ⟨body', h', rfl⟩ := exists_closed h fun _ _ => rfl
    rw [closeFirst_split h']
    rfl
  · exact closeFirst_split h

/-- No slash is escaped in what is written for members without a backslash. -/
theorem escaped_slash_not_mem_scan {t : Text} (h : .char '\\' ∉ t) :
    Token.escape '/' ∉ (Token.scan (convertMembers t)).1 := by
  have hnames : ∀ entry ∈ namedClasses, Token.escape '/' ∉ (Token.scan entry.2).1 := by decide
  fun_induction convertMembers t with
  | case1 => exact List.not_mem_nil
  | case2 c rest => simp at h
  | case3 rest members after hnamed _ ih =>
    obtain ⟨name, rfl, -, entry, hentry, rfl⟩ := namedClass?_some hnamed
    rw [Token.scan_append (namedClasses_scan entry hentry).1, List.mem_append, not_or]
    refine ⟨hnames entry hentry, ih fun hmem => h ?_⟩
    simp [hmem]
  | case4 rest _ ih => simpa [Token.scan_escape] using ih fun hmem => h (List.mem_cons_of_mem _ hmem)
  | case5 c rest _ _ hc ih =>
    have hslash : c ≠ '/' := by
      rintro rfl
      simp at hc
    simpa [Token.scan_escape, Ne.symm hslash] using ih fun hmem => h (List.mem_cons_of_mem _ hmem)
  | case6 c rest _ _ _ ih =>
    have hbackslash : c ≠ '\\' := by
      rintro rfl
      exact h List.mem_cons_self
    simpa [Token.scan_plain hbackslash] using ih fun hmem => h (List.mem_cons_of_mem _ hmem)

/-- The tokens that are written for the members of a class. -/
def memberTokens (body : Text) : List Token :=
  (Token.scan (convertMembers (normalMembers (splitNegation body).2))).1

section closed

variable {t body after : Text} (h : closeClass t = some (body, after))
include h

/-- A class of a glob is written as a class that ends where it ends. -/
theorem isMembers_memberTokens : Bracket.IsMembers (splitNegation body).1 (memberTokens body) := by
  obtain ⟨hpaired, hne, hcaret⟩ := closeClass_members h
  obtain ⟨hpaired, hne, hnormal⟩ := normalMembers_kept hpaired hne
  have hhead := convertMembers_head (normalMembers (splitNegation body).2)
  have htexts : Token.texts (memberTokens body) = convertMembers (normalMembers (splitNegation body).2) :=
    Token.texts_scan hpaired
  refine ⟨fun hempty => ?_, close_not_mem_scan _, fun hnegated hstart => ?_⟩
  · rw [hempty] at htexts
    exact hne (hhead.2 htexts.symm)
  · obtain ⟨rest, hrest⟩ := List.head?_eq_some_iff.mp hstart
    rw [hrest] at htexts
    refine hcaret hnegated (hnormal (hhead.1 ?_))
    rw [← htexts]
    rfl

theorem texts_memberTokens :
    Token.texts (bracketed (splitNegation body).1 (memberTokens body)) = convertClass body := by
  obtain ⟨hpaired, hne, -⟩ := closeClass_members h
  have hscan := Token.texts_scan (normalMembers_kept hpaired hne).1
  simp only [bracketed, Token.texts_cons, Token.texts_append]
  rw [memberTokens, hscan]
  unfold convertClass
  generalize splitNegation body = split
  obtain ⟨negated, members⟩ := split
  cases negated <;> simp [Bracket.negation, Token.texts, Token.text]

end closed

/-- No slash is escaped among the members of a class without a backslash. -/
theorem escaped_slash_not_mem_memberTokens {body : Text} (h : .char '\\' ∉ body) :
    Token.escape '/' ∉ memberTokens body := by
  exact escaped_slash_not_mem_scan fun hmem => h ((splitNegation_suffix body).mem (mem_normalMembers.mp hmem))

theorem memberTokens_proper (body : Text) : ∀ token ∈ memberTokens body, token.IsProper :=
  Token.scan_proper _

end SkipPath.Glob
