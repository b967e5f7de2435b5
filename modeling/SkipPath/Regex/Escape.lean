import SkipPath.Regex.Syntax
import SkipPath.Regex.Token
import SkipPath.Text.CharName

/-!
Escapes: what a backslash and the character after it stand for, together with the digits or the name that
may follow.  Inside a class there are neither conditions on places nor references to groups, and `\b` is
the backspace.
-/

namespace SkipPath.Regex.Escape

/-- What an escape stands for. -/
inductive Meaning where
  | char (n : Nat)
  | category (kind : Category) (negated : Bool)
  | anchor (place : Anchor)
  | reference (index : Nat)
deriving Repr, DecidableEq

/-- A meaning, and how many tokens after the escape belong to it. -/
abbrev Reading := Except Trouble (Meaning × Nat)

/-- The characters with an escape of their own that is not `\b`. -/
def control? : CodePoint → Option Nat
  | 'a' => some 7
  | 'f' => some 12
  | 'n' => some 10
  | 'r' => some 13
  | 't' => some 9
  | 'v' => some 11
  | '\\' => some 92
  | _ => none

/-- The kinds of characters that have an escape. -/
def category? : CodePoint → Option (Category × Bool)
  | 'd' => some (.digit, false)
  | 'D' => some (.digit, true)
  | 's' => some (.space, false)
  | 'S' => some (.space, true)
  | 'w' => some (.word, false)
  | 'W' => some (.word, true)
  | _ => none

/-- The conditions that have an escape. -/
def anchor? : CodePoint → Option Anchor
  | 'A' => some .textStart
  | 'Z' => some .textEnd
  | 'b' => some .wordEdge
  | 'B' => some .noWordEdge
  | _ => none

/-- The largest code point. -/
def maxCodePoint : Nat := 0x10FFFF

/-- The largest number that can be asked for at all. -/
def maxNumber : Nat := 0x7FFFFFFF

/-- A character by its number, in exactly `width` hexadecimal digits. -/
def byNumber (letter : CodePoint) (width : Nat) (rest : List Token) : Reading :=
  let digits := Token.takePlain Token.isHex width rest
  let after := rest.drop digits.length
  let escape := .char '\\' :: letter :: digits
  let n := Token.number 16 digits
  if digits.length < width then
    .error (Token.trouble (.incompleteEscape escape) after escape.length)
  else if maxNumber < n then .error (Token.trouble .characterTooLarge after 0)
  else if maxCodePoint < n then .error (Token.trouble (.badEscape escape) after escape.length)
  else .ok (.char n, width)

/-- A character by its name. -/
def byName (rest : List Token) : Reading :=
  match rest with
  | .plain '\x7b' :: rest => do
    let (name, count) ← Token.untilTerminator '\x7d' (Text.ofString "character name") [] rest
    match Text.charNamed? name with
    | some n => .ok (.char n, count + 1)
    | none => .error (Token.trouble (.undefinedName name) (rest.drop count) (name.length + 4))
  | _ => .error (Token.trouble .missingBrace rest 0)

/-- The escapes that are the same inside a class and outside. -/
def common? (c : CodePoint) (rest : List Token) : Option Reading :=
  match c with
  | 'x' => some (byNumber c 2 rest)
  | 'u' => some (byNumber c 4 rest)
  | 'U' => some (byNumber c 8 rest)
  | 'N' => some (byName rest)
  | _ => none

/-- An escape that names nothing: a letter or a digit is refused, any other character is itself. -/
def plain (c : CodePoint) (rest : List Token) : Reading :=
  if Text.isAsciiLetter c || Text.isAsciiDigit c then
    .error (Token.trouble (.badEscape ['\\', c]) rest 2)
  else .ok (.char c.toNat, 0)

/-- The largest character that octal digits may name. -/
def maxOctal : Nat := 0xFF

/-- A character by octal digits that have been collected; `count` of them follow the escape. -/
def byOctal (digits : Text) (count : Nat) (rest : List Token) : Reading :=
  let n := Token.number 8 digits
  if maxOctal < n then
    .error (Token.trouble (.octalTooLarge ('\\' :: digits)) (rest.drop count) (digits.length + 1))
  else .ok (.char n, count)

/-- An escape inside a class. -/
def inClass (c : CodePoint) (rest : List Token) : Reading :=
  match control? c with
  | some n => .ok (.char n, 0)
  | none =>
    if c = 'b' then .ok (.char 8, 0)
    else match category? c with
      | some (kind, negated) => .ok (.category kind negated, 0)
      | none =>
        match common? c rest with
        | some reading => reading
        | none =>
          if Token.isOctal c then
            let more := Token.takePlain Token.isOctal 2 rest
            byOctal (c :: more) more.length rest
          else plain c rest

/-- An escape outside of classes that starts with a digit other than zero: three octal digits are a
character, and all else refers to a group. -/
def byDigit (c : CodePoint) (rest : List Token) : Reading :=
  match Token.takePlain Text.isAsciiDigit 1 rest with
  | [d] =>
    let more := Token.takePlain Token.isOctal 1 (rest.drop 1)
    if Token.isOctal c && Token.isOctal d && !more.isEmpty then byOctal (c :: d :: more) 2 rest
    else .ok (.reference (Token.number 10 [c, d]), 1)
  | _ => .ok (.reference (Token.number 10 [c]), 0)

/-- An escape outside of classes. -/
def outside (c : CodePoint) (rest : List Token) : Reading :=
  match anchor? c with
  | some place => .ok (.anchor place, 0)
  | none =>
    match category? c with
    | some (kind, negated) => .ok (.category kind negated, 0)
    | none =>
      match control? c with
      | some n => .ok (.char n, 0)
      | none =>
        match common? c rest with
        | some reading => reading
        | none =>
          if c = '0' then
            let more := Token.takePlain Token.isOctal 2 rest
            .ok (.char (Token.number 8 (c :: more)), more.length)
          else if Text.isAsciiDigit c then byDigit c rest
          else plain c rest

end SkipPath.Regex.Escape
