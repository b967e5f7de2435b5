import SkipPath.Regex.Escape

/-!
Bracket classes of a regular expression, as `re` reads them.

After the bracket and an optional `^` come the members: a character, an escape, or two of them with a
hyphen between.  A `]` ends the class unless it comes first, and a hyphen right before the end is a
member.
-/

namespace SkipPath.Regex.Bracket

/-- A class that has been read, and how many tokens it took. -/
structure Reading where
  negated : Bool
  items : List ClassItem
  count : Nat
deriving Repr

/-- One end of a range, or a member of its own: its meaning, its token, and how many tokens after that
belong to it. -/
def element (t : Token) (rest : List Token) : Except Trouble (Escape.Meaning × Nat) :=
  match t with
  | .plain c => .ok (.char c.toNat, 0)
  | .escape c => Escape.inClass c rest

/-- The member that a meaning stands for. -/
def itemOf : Escape.Meaning → ClassItem
  | .char n => .single n
  | .category kind negated => .category kind negated
  | .anchor _ | .reference _ => .single 0

/-- The range between two meanings: both have to be characters, and in order. -/
def range? : Escape.Meaning → Escape.Meaning → Option ClassItem
  | .char low, .char high => if high < low then none else some (.range low high)
  | _, _ => none

/-- The members up to the end of the class.  `found` holds those before, last first; `read` is the
number of tokens read so far, and `opened` is the text of the class so far, in characters. -/
def members (opened : Nat) (found : List ClassItem) (read : Nat) :
    List Token → Except Trouble (List ClassItem × Nat)
  | [] => .error (Token.trouble .unterminatedSet [] opened)
  | t :: rest =>
    if t = .plain ']' && !found.isEmpty then .ok (found.reverse, read + 1)
    else
      match element t rest with
      | .error trouble => .error trouble
      | .ok (low, n) =>
        let width := t.width + Token.totalWidth (rest.take n)
        match h : rest.drop n with
        | .plain '-' :: [] => .error (Token.trouble .unterminatedSet [] (opened + width + 1))
        | .plain '-' :: u :: more =>
          if u = .plain ']' then .ok ((.single 45 :: itemOf low :: found).reverse, read + n + 3)
          else
            match element u more with
            | .error trouble => .error trouble
            | .ok (high, m) =>
              match range? low high with
              | none =>
                .error (Token.trouble (.badRange t.text u.text) (more.drop m)
                  (t.width + 1 + u.width))
              | some item =>
                members (opened + width + 1 + u.width + Token.totalWidth (more.take m))
                  (item :: found) (read + n + 3 + m) (more.drop m)
        | after => members (opened + width) (itemOf low :: found) (read + n + 1) after
termination_by tokens => tokens.length
decreasing_by
  all_goals
    have hlen := congrArg List.length h
    simp only [List.length_drop, List.length_cons] at hlen ⊢
    omega

/-- The class whose opening bracket has just been read. -/
def read (tokens : List Token) : Except Trouble Reading := do
  let (negated, rest) := match tokens with
    | .plain '^' :: rest => (true, rest)
    | rest => (false, rest)
  let skipped := if negated then 1 else 0
  let (items, count) ← members (1 + skipped) [] skipped rest
  .ok { negated := negated, items := items, count := count }

end SkipPath.Regex.Bracket
