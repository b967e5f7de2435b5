import SkipPath.Regex.Syntax
import SkipPath.Regex.Token
import SkipPath.Text.Letter

/-!
The switches at the start of a group: letters that turn switches on, and after a hyphen letters that turn
them off.
-/

namespace SkipPath.Regex.Switch

/-- The letters of switches. -/
def letters : List CodePoint := ['i', 'L', 'm', 's', 'x', 'a', 't', 'u']

/-- Of these at most one may be on, and none can be turned off. -/
def typeLetters : List CodePoint := ['a', 'L', 'u']

/-- The letter of the switch that holds for the whole expression only. -/
def globalLetter : CodePoint := 't'

/-- The switches with one more turned on. -/
def turnOn (f : Flags) (c : CodePoint) : Flags :=
  match c with
  | 'i' => { f with ignoreCase := true }
  | 'm' => { f with multiline := true }
  | 's' => { f with dotAll := true }
  | 'x' => { f with verbose := true }
  | 'a' => { f with ascii := true }
  | 'u' => { f with unicode := true }
  | 't' => { f with template := true }
  | _ => f

/-- The switches of letters. -/
def ofLetters (cs : List CodePoint) : Flags := cs.foldl turnOn {}

/-- Two sets of switches taken together. -/
def union (f g : Flags) : Flags :=
  { ignoreCase := f.ignoreCase || g.ignoreCase
    multiline := f.multiline || g.multiline
    dotAll := f.dotAll || g.dotAll
    verbose := f.verbose || g.verbose
    ascii := f.ascii || g.ascii
    unicode := f.unicode || g.unicode
    template := f.template || g.template }

/-- What the switches at the start of a group say, and how many tokens they take. -/
inductive Reading where
  /-- The switches hold for the whole expression; there is no group. -/
  | everywhere (on : List CodePoint) (count : Nat)
  /-- The switches hold inside the group. -/
  | inside (on off : List CodePoint) (count : Nat)

/-- The problem of a token that is no switch where one has to stand: a letter is an unknown switch. -/
def unexpected (missing : Problem) (t : Token) (rest : List Token) : Trouble :=
  match t with
  | .plain c => Token.trouble (if Text.isLetter c then .unknownFlag else missing) rest 1
  | .escape _ => Token.trouble missing rest 2

/-- The end of the switches, after the colon. -/
def finish (on off : List CodePoint) (count : Nat) (rest : List Token) : Except Trouble Reading :=
  if off.contains globalLetter then .error (Token.trouble .globalFlagOff rest 1)
  else if on.any off.contains then .error (Token.trouble .flagOnAndOff rest 1)
  else .ok (.inside on off count)

/-- The switches that are turned off; at least one has to stand here. `missing` is the problem of
anything else. -/
def readOff (on : List CodePoint) (off : List CodePoint) (missing : Problem) (count : Nat) :
    List Token → Except Trouble Reading
  | [] => .error (Token.trouble missing [] 0)
  | .plain c :: rest =>
    if c = ':' && !off.isEmpty then finish on off (count + 1) rest
    else if letters.contains c then
      if typeLetters.contains c then .error (Token.trouble .typeFlagOff rest 0)
      else readOff on (c :: off) .missingColon (count + 1) rest
    else .error (unexpected missing (.plain c) rest)
  | t :: rest => .error (unexpected missing t rest)

/-- The switches that hold only inside the group may not include the global one. -/
def checkInside (on : List CodePoint) (rest : List Token) : Except Trouble Unit :=
  if on.contains globalLetter then .error (Token.trouble .globalFlagOn rest 1) else .ok ()

/-- One more switch that is turned on. -/
def addOn (on : List CodePoint) (c : CodePoint) (rest : List Token) : Except Trouble (List CodePoint) :=
  if c = 'L' then .error (Token.trouble .localeFlag rest 0)
  else if typeLetters.contains c && on.any (fun d => typeLetters.contains d && d != c) then
    .error (Token.trouble .typeFlagsTogether rest 0)
  else .ok (c :: on)

/-- The switches after those in `on`. -/
def readOn (on : List CodePoint) (count : Nat) : List Token → Except Trouble Reading
  | [] => .error (Token.trouble .missingFlagEnd [] 0)
  | .plain c :: rest =>
    if c = ')' then .ok (.everywhere on (count + 1))
    else if c = ':' then do
      checkInside on rest
      finish on [] (count + 1) rest
    else if c = '-' then do
      checkInside on rest
      readOff on [] .missingFlag (count + 1) rest
    else if letters.contains c then
      match addOn on c rest with
      | .ok on => readOn on (count + 1) rest
      | .error trouble => .error trouble
    else .error (unexpected .missingFlagEnd (.plain c) rest)
  | t :: rest => .error (unexpected .missingFlagEnd t rest)

/-- The switches that start with the token `c`, a letter or the hyphen. -/
def read (c : CodePoint) (rest : List Token) : Except Trouble Reading :=
  if c = '-' then readOff [] [] .missingFlag 0 rest
  else do
    let on ← addOn [] c rest
    readOn on 0 rest

end SkipPath.Regex.Switch
