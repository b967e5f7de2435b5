import SkipPath.Text.Casing
import SkipPath.Text.Letter

/-!
Bracket classes of a glob: where one ends (`_find_class_end`), and how it is written as a class of a regular
expression (`_convert_class`).

A class may start with `!` or `^`, which negates it, and a `]` right after that is a member.  A
backslash takes the next character with it, and so does a name in `[:` and `:]` with all that is in it.
In a regular expression the named classes are written out as ranges, and `.`, `[` and `]` get a
backslash.
-/

namespace SkipPath.Glob

/-- The text before the first `:]`, and the text after it. -/
def splitAtNameEnd : Text → Option (Text × Text)
  | ':' :: ']' :: rest => some ([], rest)
  | [] => none
  | c :: rest => (splitAtNameEnd rest).map fun (name, after) => (c :: name, after)

theorem splitAtNameEnd_length {t name after : Text} (h : splitAtNameEnd t = some (name, after)) :
    after.length < t.length := by
  fun_induction splitAtNameEnd t generalizing name after with
  | case1 rest =>
    obtain ⟨-, rfl⟩ := Prod.mk.inj (Option.some.inj h)
    simp only [List.length_cons]
    omega
  | case2 => simp at h
  | case3 c rest _ ih =>
    obtain ⟨⟨name', after'⟩, h', heq⟩ := Option.map_eq_some_iff.1 h
    obtain ⟨-, rfl⟩ := Prod.mk.inj heq
    have := ih h'
    simp
    omega

/-- The text before the bracket that closes a class, and the text after it.  The members before that
bracket have been read up to here. -/
def closeMembers : Text → Option (Text × Text)
  | [] => none
  | ']' :: rest => some ([], rest)
  | ['\\'] => none
  | '\\' :: c :: rest => (closeMembers rest).map fun (body, after) => ('\\' :: c :: body, after)
  | '[' :: ':' :: rest =>
    match h : splitAtNameEnd rest with
    | some (name, more) =>
      have := splitAtNameEnd_length h
      (closeMembers more).map fun (body, after) =>
        (.char '[' :: .char ':' :: name ++ .char ':' :: .char ']' :: body, after)
    | none => (closeMembers (':' :: rest)).map fun (body, after) => ('[' :: body, after)
  | c :: rest => (closeMembers rest).map fun (body, after) => (c :: body, after)
termination_by t => t.length
decreasing_by all_goals simp_all <;> omega

/-- The members of a class of which at most the negation has been read: a `]` in front is a member. -/
def closeFirst : Text → Option (Text × Text)
  | ']' :: rest => (closeMembers rest).map fun (body, after) => (']' :: body, after)
  | rest => closeMembers rest

/-- The body of the class that a bracket opens, and the text after the class; `t` follows the bracket.
`none` if the class has no end. -/
def closeClass (t : Text) : Option (Text × Text) :=
  match t with
  | '!' :: rest => (closeFirst rest).map fun (body, after) => ('!' :: body, after)
  | '^' :: rest => (closeFirst rest).map fun (body, after) => ('^' :: body, after)
  | rest => closeFirst rest

/-- The named classes and the members they stand for. -/
def namedClasses : List (Text × Text) := [
  (Text.ofString "alnum", Text.ofString "a-zA-Z0-9"),
  (Text.ofString "alpha", Text.ofString "a-zA-Z"),
  (Text.ofString "blank", Text.ofString " \\t"),
  (Text.ofString "cntrl", Text.ofString "\\x00-\\x1f\\x7f"),
  (Text.ofString "digit", Text.ofString "0-9"),
  (Text.ofString "graph", Text.ofString "\\x21-\\x7e"),
  (Text.ofString "lower", Text.ofString "a-z"),
  (Text.ofString "print", Text.ofString "\\x20-\\x7e"),
  (Text.ofString "punct", Text.ofString "!-/:-@\\[-`\x7b-~"),
  (Text.ofString "space", Text.ofString "\\s"),
  (Text.ofString "upper", Text.ofString "A-Z"),
  (Text.ofString "xdigit", Text.ofString "0-9A-Fa-f")]

/-- The members a name stands for. -/
def namedMembers? (name : Text) : Option Text := (namedClasses.find? (·.1 == name)).map (·.2)

/-- A letter of the names of classes. -/
def isNameLetter (c : CodePoint) : Bool := 'a' ≤ c && c ≤ 'z'

/-- The members of the named class at the start of a text, and the text after it.  `t` follows the
bracket that may open the name. -/
def namedClass? (t : Text) : Option (Text × Text) :=
  match t with
  | ':' :: rest =>
    let name := rest.takeWhile isNameLetter
    match rest.dropWhile isNameLetter with
    | ':' :: ']' :: after => (namedMembers? name).map fun members => (members, after)
    | _ => none
  | _ => none

theorem namedClass?_length {t members after : Text} (h : namedClass? t = some (members, after)) :
    after.length < t.length := by
  unfold namedClass? at h
  split at h
  · rename_i rest
    simp only at h
    split at h
    · rename_i after' heq
      obtain ⟨_, _, h'⟩ := Option.map_eq_some_iff.1 h
      obtain ⟨-, rfl⟩ := Prod.mk.inj h'
      have hle : (rest.dropWhile isNameLetter).length ≤ rest.length :=
        (List.dropWhile_sublist _).length_le
      rw [heq] at hle
      simp at hle ⊢
      omega
    · simp at h
  · simp at h

/-- The members of a class as a regular expression writes them. -/
def convertMembers : Text → Text
  | [] => []
  | '\\' :: c :: rest => '\\' :: c :: convertMembers rest
  | '[' :: rest =>
    match h : namedClass? rest with
    | some (members, after) =>
      have := namedClass?_length h
      members ++ convertMembers after
    | none => '\\' :: '[' :: convertMembers rest
  | c :: rest => if c = '.' || c = ']' then '\\' :: c :: convertMembers rest else c :: convertMembers rest
termination_by t => t.length
decreasing_by all_goals simp_all <;> omega

/-- The order of the spellings of one letter: capitals first, then by number. -/
def spellingLe (a b : CodePoint) : Bool :=
  if Text.isSmall a = Text.isSmall b then a ≤ b else !Text.isSmall a

/-- Whether the members are two or more spellings of one letter. -/
def isOneLetter (members : Text) : Bool :=
  1 < members.length && members.all Text.isLetter && (Text.lowercase members).eraseDups.length == 1

/-- The members in their normal spelling: the spellings of one letter come in a fixed order, each
once. -/
def normalMembers (members : Text) : Text :=
  if isOneLetter members then members.eraseDups.mergeSort spellingLe else members

/-- Whether the body of a class negates it, and its members. -/
def splitNegation : Text → Bool × Text
  | '!' :: rest => (true, rest)
  | '^' :: rest => (true, rest)
  | rest => (false, rest)

/-- The class of a regular expression for the body of a class of a glob. -/
def convertClass (body : Text) : Text :=
  let (negated, members) := splitNegation body
  .char '[' :: (if negated then [.char '^'] else []) ++ convertMembers (normalMembers members) ++ [.char ']']

end SkipPath.Glob
