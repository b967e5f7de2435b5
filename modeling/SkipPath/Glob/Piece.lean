import SkipPath.Glob.CharClass

/-!
A glob cut into pieces, and each piece as a regular expression (`wildcards`).

Cutting goes from left to right and always takes the longest piece: a backslash with the character it
escapes, a whole run of stars, a whole class.  A bracket without an end is a piece of its own.
-/

namespace SkipPath.Glob

/-- A piece of a glob. -/
inductive Piece where
  /-- A character that stands for itself. -/
  | literal (c : CodePoint)
  /-- A backslash and the character after it. -/
  | escaped (c : CodePoint)
  /-- A backslash at the end. -/
  | loneBackslash
  /-- One star: any run of characters other than the slash. -/
  | star
  /-- Two stars or more: any run of characters. -/
  | stars
  /-- A question mark: at most one character other than the slash. -/
  | question
  /-- A bracket that opens no class. -/
  | openBracket
  /-- A class, by its body. -/
  | charClass (body : Text)
deriving Repr, DecidableEq

theorem closeMembers_length {t body after : Text} (h : closeMembers t = some (body, after)) :
    after.length < t.length := by
  fun_induction closeMembers t generalizing body after with
  | case1 => simp at h
  | case2 rest => simp_all
  | case3 => simp at h
  | case4 c rest ih =>
    obtain ⟨⟨body', after'⟩, h', heq⟩ := Option.map_eq_some_iff.1 h
    obtain ⟨-, rfl⟩ := Prod.mk.inj heq
    have := ih h'
    simp
    omega
  | case5 rest name more hn hlt ih =>
    obtain ⟨⟨body', after'⟩, h', heq⟩ := Option.map_eq_some_iff.1 h
    obtain ⟨-, rfl⟩ := Prod.mk.inj heq
    have := ih h'
    simp
    omega
  | case6 rest hn ih =>
    obtain ⟨⟨body', after'⟩, h', heq⟩ := Option.map_eq_some_iff.1 h
    obtain ⟨-, rfl⟩ := Prod.mk.inj heq
    have := ih h'
    simp at this ⊢
    omega
  | case7 c rest _ _ _ _ ih =>
    obtain ⟨⟨body', after'⟩, h', heq⟩ := Option.map_eq_some_iff.1 h
    obtain ⟨-, rfl⟩ := Prod.mk.inj heq
    have := ih h'
    simp
    omega

theorem closeFirst_length {t body after : Text} (h : closeFirst t = some (body, after)) :
    after.length < t.length := by
  unfold closeFirst at h
  split at h
  · obtain ⟨⟨body', after'⟩, h', heq⟩ := Option.map_eq_some_iff.1 h
    obtain ⟨-, rfl⟩ := Prod.mk.inj heq
    have := closeMembers_length h'
    simp
    omega
  · exact closeMembers_length h

/-- What follows a class is shorter than what follows its opening bracket. -/
theorem closeClass_length {t body after : Text} (h : closeClass t = some (body, after)) :
    after.length < t.length := by
  unfold closeClass at h
  split at h
  · obtain ⟨⟨body', after'⟩, h', heq⟩ := Option.map_eq_some_iff.1 h
    obtain ⟨-, rfl⟩ := Prod.mk.inj heq
    have := closeFirst_length h'
    simp
    omega
  · obtain ⟨⟨body', after'⟩, h', heq⟩ := Option.map_eq_some_iff.1 h
    obtain ⟨-, rfl⟩ := Prod.mk.inj heq
    have := closeFirst_length h'
    simp
    omega
  · exact closeFirst_length h

/-- The text without the stars it starts with. -/
def dropStars : Text → Text
  | '*' :: rest => dropStars rest
  | rest => rest

theorem dropStars_length (t : Text) : (dropStars t).length ≤ t.length := by
  fun_induction dropStars t with
  | case1 rest ih => simp; omega
  | case2 => simp

/-- The pieces of a glob. -/
def pieces : Text → List Piece
  | [] => []
  | ['\\'] => [.loneBackslash]
  | '\\' :: c :: rest => .escaped c :: pieces rest
  | '*' :: '*' :: rest =>
    have := dropStars_length rest
    .stars :: pieces (dropStars rest)
  | '*' :: rest => .star :: pieces rest
  | '?' :: rest => .question :: pieces rest
  | '[' :: rest =>
    match h : closeClass rest with
    | some (body, after) =>
      have := closeClass_length h
      .charClass body :: pieces after
    | none => .openBracket :: pieces rest
  | c :: rest => .literal c :: pieces rest
termination_by t => t.length
decreasing_by all_goals simp_all <;> omega

/-- The characters that mean something in a regular expression and nothing in a glob. -/
def literalEscapes : List CodePoint := ['.', '$', '^', '+', '(', ')', '\x7b', '\x7d', '|', ']']

/-- The characters whose escape in a glob stays an escape. -/
def keptEscapes : List CodePoint := literalEscapes ++ [.char '*', .char '?', .char '[', .char '\\']

/-- A character that stands for itself, as a regular expression. -/
def escapeLiteral (c : CodePoint) : Text := if literalEscapes.contains c then ['\\', c] else [c]

/-- A piece as a regular expression. -/
def Piece.render : Piece → Text
  | .literal c => escapeLiteral c
  | .escaped c => if keptEscapes.contains c then ['\\', c] else [c]
  | .loneBackslash => ['\\', '\\']
  | .star => ['[', '^', '/', ']', '*']
  | .stars => ['.', '*']
  | .question => ['[', '^', '/', ']', '?']
  | .openBracket => ['\\', '[']
  | .charClass body => convertClass body

/-- A glob as a regular expression, piece by piece. -/
def convert (t : Text) : Text := (pieces t).flatMap Piece.render

end SkipPath.Glob
