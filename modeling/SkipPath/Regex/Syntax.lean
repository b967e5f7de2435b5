import SkipPath.Text.Ranges

/-!
Regular expressions as trees.
-/

namespace SkipPath.Regex

/-- A kind of characters. -/
inductive Category where
  | digit
  | space
  | word
deriving Repr, DecidableEq

/-- A member of a class. -/
inductive ClassItem where
  | single (n : Nat)
  | range (low high : Nat)
  /-- The characters of a kind, or all others. -/
  | category (kind : Category) (negated : Bool)
deriving Repr, DecidableEq

/-- A condition on a place in a text. -/
inductive Anchor where
  /-- The start of the text, or of a line. -/
  | lineStart
  /-- The end of the text or of a line, or the place before a line feed at the end of the text. -/
  | lineEnd
  /-- The start of the text. -/
  | textStart
  /-- The end of the text. -/
  | textEnd
  /-- A place between a word character and another one. -/
  | wordEdge
  /-- Any other place. -/
  | noWordEdge
deriving Repr, DecidableEq

/-- The switches of an expression. -/
structure Flags where
  ignoreCase : Bool := false
  multiline : Bool := false
  /-- The dot matches a line feed too. -/
  dotAll : Bool := false
  /-- Blanks and comments do not count. -/
  verbose : Bool := false
  /-- The kinds of characters are those of ASCII. -/
  ascii : Bool := false
  unicode : Bool := false
  template : Bool := false
deriving Repr, DecidableEq

/-- How a repetition chooses: as many as possible, as few as possible, or as many as possible for
good. -/
inductive Greed where
  | greedy
  | lazy
  | possessive
deriving Repr, DecidableEq

/-- A regular expression. -/
inductive Node where
  | empty
  | char (n : Nat)
  /-- Any character but a line feed. -/
  | any
  | charClass (negated : Bool) (items : List ClassItem)
  | anchor (place : Anchor)
  | seq (first second : Node)
  | alt (first second : Node)
  /-- A group that is captured under a number. -/
  | group (index : Nat) (body : Node)
  /-- A group with switches of its own. -/
  | flagged (on off : Flags) (body : Node)
  | repetition (greed : Greed) (min : Nat) (max : Option Nat) (body : Node)
  /-- A group whose first way to match is final. -/
  | atomic (body : Node)
  /-- A condition on what follows or on what stands before. -/
  | look (behind negated : Bool) (body : Node)
  /-- What the group of a number has captured. -/
  | backReference (index : Nat)
  /-- One of two expressions, as the group of a number has captured something or not. -/
  | conditional (index : Nat) (yes no : Node)
deriving Repr, DecidableEq

namespace Node

/-- Expressions one after the other. -/
def sequence : List Node → Node
  | [] => .empty
  | [node] => node
  | node :: nodes => .seq node (sequence nodes)

/-- Expressions as alternatives. -/
def choice : List Node → Node
  | [] => .empty
  | [node] => node
  | node :: nodes => .alt node (choice nodes)

end Node

/-- A whole expression: its tree and the switches that hold everywhere. -/
structure Expression where
  flags : Flags
  tree : Node
deriving Repr, DecidableEq

end SkipPath.Regex
