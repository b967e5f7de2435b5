import SkipPath.Text.Integer
import SkipPath.Text.Lines

/-!
Command lines, as `argparse` reads them: what options and operands a command has, and how the words of a
line are read.

Words are told apart first.  A word that starts with a hyphen is an option, if it names one, in full or by
a beginning that no other option shares, with or without a value after an equals sign; if it names none
it is an unknown option, unless it is a negative number or holds a blank.  After the word `--` every word
is an operand.  Then options and operands are taken from left to right; operands are taken as soon as the
words before the next option suffice for them, as many operands at once as can be served.
-/

namespace SkipPath.Command

/-- What an option does. -/
inductive FlagKind where
  /-- Shows the help and ends. -/
  | help
  /-- Shows the version and ends. -/
  | version
  /-- Turns something on. -/
  | toggle
  /-- Takes a text. -/
  | text
  /-- Takes a whole number. -/
  | number
deriving Repr, DecidableEq

/-- Whether an option takes a value. -/
def FlagKind.takesValue : FlagKind → Bool
  | .text | .number => true
  | .help | .version | .toggle => false

/-- An option. -/
structure Flag where
  /-- The name, with its hyphens. -/
  name : Text
  kind : FlagKind
  about : Text
  /-- A name of one letter, with its hyphen. -/
  short : Option Text := none
deriving Repr, DecidableEq

/-- How many words an operand takes. -/
inductive Arity where
  | one
  /-- One word or more. -/
  | many
  /-- A word and all words after it, options included. -/
  | rest
deriving Repr, DecidableEq

/-- An operand. -/
structure Operand where
  name : Text
  arity : Arity
  about : Text
deriving Repr, DecidableEq

/-- The words that a command takes. -/
structure Grammar where
  /-- The words by which the command is called. -/
  program : Text
  flags : List Flag
  operands : List Operand

/-- One thing that was given. -/
inductive Given where
  | toggled (name : Text)
  | text (name value : Text)
  | number (name : Text) (value : Int)
  | operand (name : Text) (values : List Text)
deriving Repr, DecidableEq

/-- Why reading ends before the line does. -/
inductive Stop where
  /-- The help is asked for. -/
  | help
  /-- The version is asked for. -/
  | version
  /-- The line cannot be understood. -/
  | refused
deriving Repr, DecidableEq

/-- What was read: all that was given, in order, and whether there were words that say nothing. -/
structure Reading where
  given : List Given
  leftover : Bool

/-- What a word is. -/
inductive WordKind where
  | operand
  /-- The word after which all are operands. -/
  | separator
  /-- An option, with the value after its equals sign if it has one. -/
  | flag (f : Flag) (value : Option Text)
  /-- The one-letter option for help with more letters after it, written together or after an equals
  sign. -/
  | cluster (letters : Text)
  /-- An option that there is not. -/
  | unknown
deriving Repr, DecidableEq

/-- A word, and what it is. -/
structure Word where
  text : Text
  kind : WordKind
deriving Repr, DecidableEq

namespace Word

/-- Whether the word is an option. -/
def isOption (w : Word) : Bool :=
  match w.kind with
  | .operand | .separator => false
  | .flag _ _ | .cluster _ | .unknown => true

end Word

/-- A decimal digit of any script. -/
def isDecimal (c : CodePoint) : Bool := (Text.digitValue? c).isSome

/-- Whether a word is a negative number, whole or with a point.  A line feed may follow. -/
def isNegativeNumber (word : Text) : Bool :=
  match word with
  | '-' :: rest =>
    let body := if rest.getLast? = some (.char '\n') then rest.dropLast else rest
    match body.dropWhile isDecimal with
    | [] => !body.isEmpty
    | '.' :: digits => !digits.isEmpty && digits.all isDecimal
    | _ => false
  | _ => false

/-- The text before the first equals sign, and the text after it if there is one. -/
def splitValue (word : Text) : Text × Option Text :=
  match word.dropWhile (· != .char '=') with
  | .char '=' :: value => (word.takeWhile (· != .char '='), some value)
  | _ => (word, none)

namespace Grammar

/-- The option of a name. -/
def flag? (g : Grammar) (name : Text) : Option Flag :=
  g.flags.find? fun f => f.name == name || f.short == some name

/-- What a word is that starts with a hyphen and names no option in full. -/
def abbreviation (g : Grammar) (word : Text) : Except Stop WordKind :=
  let other :=
    if isNegativeNumber word || word.contains ' ' then WordKind.operand else .unknown
  match word with
  | '-' :: '-' :: _ =>
    let (name, value) := splitValue word
    match g.flags.filter (fun f => name.isPrefixOf f.name) with
    | [] => .ok other
    | [f] => .ok (.flag f value)
    | _ => .error .refused
  | '-' :: letter :: letters =>
    if (g.flag? ['-', letter]).isSome then .ok (.cluster letters) else .ok other
  | _ => .ok other

/-- What a word is. -/
def kindOf (g : Grammar) (word : Text) : Except Stop WordKind :=
  match word with
  | '-' :: _ :: _ =>
    match g.flag? word with
    | some f => .ok (.flag f none)
    | none =>
      let (name, value) := splitValue word
      match value, g.flag? name with
      | some value, some f =>
        .ok (if f.short = some name then .cluster value else .flag f (some value))
      | _, _ => g.abbreviation word
  | _ => .ok .operand

/-- What the words of a line are. -/
def classify (g : Grammar) : List Text → Except Stop (List Word)
  | [] => .ok []
  | word :: rest =>
    if word = [.char '-', .char '-'] then
      .ok ({ text := word, kind := .separator }
        :: rest.map fun word => { text := word, kind := .operand })
    else do
      let kind ← g.kindOf word
      let words ← classify g rest
      .ok ({ text := word, kind := kind } :: words)

end Grammar

/-- The number of separators in front. -/
def leadingSeparators (words : List Word) : Nat :=
  (words.takeWhile fun w => w.kind = .separator).length

/-- How many words an operand takes from the front, if it can be served. -/
def Arity.count (a : Arity) (words : List Word) : Option Nat :=
  let skipped := leadingSeparators words
  match words.drop skipped with
  | [] => none
  | w :: others =>
    if w.kind = .operand then
      some (skipped + 1 + match a with
        | .one => leadingSeparators others
        | .many => (others.takeWhile fun w => !w.isOption).length
        | .rest => others.length)
    else none

/-- How many words each of some operands takes, if all can be served one after the other. -/
def counts : List Operand → List Word → Option (List Nat)
  | [], _ => some []
  | o :: operands, words =>
    match o.arity.count words with
    | none => none
    | some n => (counts operands (words.drop n)).map (n :: ·)

/-- How many words each operand takes, for as many operands as can be served; `size` is the number of
those that may be. -/
def serve (operands : List Operand) (words : List Word) : (size : Nat) → List Nat
  | 0 => []
  | size + 1 => ((counts (operands.take (size + 1)) words).getD (serve operands words size))

/-- The texts of words without the separator; an operand that takes all words keeps it. -/
def valuesOf (a : Arity) (words : List Word) : List Text :=
  let texts := words.map (·.text)
  match a with
  | .rest => texts
  | .one | .many => texts.erase ['-', '-']

/-- What is given by operands that take so many words each. -/
def givenOperands : List Operand → List Nat → List Word → List Given
  | o :: operands, n :: counts, words =>
    .operand o.name (valuesOf o.arity (words.take n)) :: givenOperands operands counts (words.drop n)
  | _, _, _ => []

/-- More letters after the one-letter option for help: each must ask for help again. -/
def clusterStop (letters : Text) : Stop :=
  if !letters.isEmpty && letters.all (· == 'h') then .help else .refused

/-- The outcome of an option with its value. -/
def giveValue (f : Flag) (value : Text) : Except Stop Given :=
  match f.kind with
  | .number =>
    match Text.Integer.read value with
    | .ok n => .ok (.number f.name n)
    | .error _ => .error .refused
  | _ => .ok (.text f.name value)

/-- Take an option; the result says how many words after it were taken with it.  Nothing is given by an
unknown option. -/
def takeOption (w : Word) (rest : List Word) : Except Stop (Option Given × Nat) :=
  match w.kind with
  | .operand | .separator | .unknown => .ok (none, 0)
  | .cluster letters => .error (clusterStop letters)
  | .flag f value =>
    if f.kind.takesValue then
      match value, rest with
      | some value, _ => (giveValue f value).map fun given => (some given, 0)
      | none, next :: _ =>
        if next.kind = .operand then (giveValue f next.text).map fun given => (some given, 1)
        else .error .refused
      | none, [] => .error .refused
    else if value.isSome then .error .refused
    else match f.kind with
      | .help => .error .help
      | .version => .error .version
      | _ => .ok (some (.toggled f.name), 0)

/-- Take all words.  `given` holds what was given before, last first. -/
def takeWords (operands : List Operand) (given : List Given) (leftover : Bool) (words : List Word) :
    Except Stop Reading :=
  let served := serve operands words operands.length
  let taken := served.foldl (· + ·) 0
  let more := givenOperands operands served words
  match words with
  | [] => if operands.isEmpty then .ok ⟨given.reverse, leftover⟩ else .error .refused
  | w :: rest =>
    if w.isOption then
      match takeOption w rest with
      | .error stop => .error stop
      | .ok (some g, n) => takeWords operands (g :: given) leftover (rest.drop n)
      | .ok (none, n) => takeWords operands given true (rest.drop n)
    else if taken = 0 then takeWords operands given true rest
    else
      takeWords (operands.drop served.length) (more.reverse ++ given) leftover (rest.drop (taken - 1))
termination_by words.length
decreasing_by all_goals simp only [List.length_drop, List.length_cons]; omega

/-- Read a line. -/
def Grammar.read (g : Grammar) (line : List Text) : Except Stop Reading := do
  takeWords g.operands [] false (← g.classify line)

end SkipPath.Command
