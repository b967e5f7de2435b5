import SkipPath.Text.Ascii
import SkipPath.Text.Lines
import SkipPath.Text.Names.Aliases
import SkipPath.Text.Names.Alphabets
import SkipPath.Text.Names.Ancient
import SkipPath.Text.Names.EastAsia
import SkipPath.Text.Names.Forms
import SkipPath.Text.Names.Hieroglyphs
import SkipPath.Text.Names.Notations
import SkipPath.Text.Names.Pictures
import SkipPath.Text.Names.SouthAsia
import SkipPath.Text.Names.Syllables
import SkipPath.Text.Names.Symbols

/-!
Characters by their names, as Unicode 14 gives them.

Most names stand in tables.  The names of the large families follow rules instead, and are read by them:

* the syllables of Hangul, whose names are spelled from their parts;
* the ideographs, which are named by their own numbers in hexadecimal digits;
* the families that are counted from one.

Small letters of ASCII count as capitals, except in the names of syllables and of unified ideographs.
-/

namespace SkipPath.Text

/-- The value of a decimal digit or a capital hexadecimal digit of ASCII. -/
def capitalHexValue? (c : CodePoint) : Option Nat :=
  if isAsciiDigit c then some (c.toNat - 48)
  else if 'A' ≤ c && c ≤ 'F' then some (c.toNat - 55)
  else none

/-- The number that digits of a base denote, if all are digits of it. -/
def numeral? (base : Nat) (digits : Text) : Option Nat :=
  digits.foldlM (fun n c => do
    let d ← capitalHexValue? c
    if d < base then some (base * n + d) else none) 0

/-! ## Names in tables -/

/-- Names of neighbouring characters. -/
structure NameRun where
  /-- The number of the first character. -/
  first : Nat
  /-- What all the names start with. -/
  front : Text
  /-- How the names go on; an empty one stands for a number without a name. -/
  endings : List Text

namespace NameRun

/-- A run as it is written: the number, a blank, the front, a colon, and the endings between commas. -/
def read (record : Text) : NameRun :=
  let number := record.takeWhile (· != .char ' ')
  let names := record.drop (number.length + 1)
  let front := names.takeWhile (· != .char ':')
  { first := (numeral? 16 number).getD 0
    front := front
    endings := splitAtChar ',' (names.drop (front.length + 1)) }

/-- The character that has a name. -/
def find? (r : NameRun) (name : Text) : Option Nat :=
  let ending := name.drop r.front.length
  if ending.isEmpty || !r.front.isPrefixOf name then none
  else (r.endings.findIdx? (· == ending)).map (r.first + ·)

end NameRun

/-- The runs of a table, in which a semicolon follows each. -/
def nameRuns (table : String) : List NameRun :=
  let records := splitAtChar ';' ((ofString table).filter (· != '\n'))
  (records.filter fun record => !record.isEmpty).map NameRun.read

/-- The runs of all tables. -/
def allNameRuns : List NameRun :=
  [Names.alphabets, Names.southAsia, Names.syllables, Names.symbols, Names.eastAsia, Names.forms,
    Names.ancient, Names.hieroglyphs, Names.notations, Names.pictures, Names.aliases].flatMap nameRuns

/-! ## Counted names -/

/-- A family of characters whose names end in numbers. -/
structure CountedNames where
  /-- What the names start with. -/
  front : Text
  /-- The base in which the numbers are written. -/
  base : Nat
  /-- The fewest digits of a number. -/
  width : Nat
  /-- The first and the last number of each part, and the character that the first one stands for. -/
  parts : List (Nat × Nat × Nat)

namespace CountedNames

/-- The character that has a name.  Its number has no zeros in front but those that its width asks for. -/
def find? (f : CountedNames) (name : Text) : Option Nat :=
  let digits := name.drop f.front.length
  if !f.front.isPrefixOf name || digits.length < f.width then none
  else if f.width < digits.length && digits.head? = some (.char '0') then none
  else do
    let n ← numeral? f.base digits
    let (low, _, start) ← f.parts.find? fun (low, high, _) => low ≤ n && n ≤ high
    some (start + (n - low))

/-- A family whose names end in the numbers of the characters themselves. -/
def own (front : String) (ranges : List (Nat × Nat)) : CountedNames :=
  { front := ofString front
    base := 16
    width := 4
    parts := ranges.map fun (low, high) => (low, high, low) }

end CountedNames

/-- The two parts of the variation selectors. -/
def variationSelectors : List (Nat × Nat × Nat) := [(1, 16, 0xFE00), (17, 256, 0xE0100)]

/-- The families that are named by numbers. -/
def countedNames : List CountedNames :=
  [.own "CJK COMPATIBILITY IDEOGRAPH-" [(0xF900, 0xFA6D), (0xFA70, 0xFAD9), (0x2F800, 0x2FA1D)],
    .own "KHITAN SMALL SCRIPT CHARACTER-" [(0x18B00, 0x18CD5)],
    .own "NUSHU CHARACTER-" [(0x1B170, 0x1B2FB)],
    { front := ofString "TANGUT COMPONENT-", base := 10, width := 3, parts := [(1, 768, 0x18800)] },
    { front := ofString "VARIATION SELECTOR-", base := 10, width := 1, parts := variationSelectors },
    { front := ofString "VS", base := 10, width := 1, parts := variationSelectors }]

/-! ## Unified ideographs -/

/-- The unified ideographs. -/
def unifiedIdeographs : List (Nat × Nat) :=
  [(0x3400, 0x4DBF), (0x4E00, 0x9FFF), (0x20000, 0x2A6DF), (0x2A700, 0x2B738), (0x2B740, 0x2B81D),
    (0x2B820, 0x2CEA1), (0x2CEB0, 0x2EBE0), (0x30000, 0x3134A)]

/-- The unified ideograph of a number in four or five digits. -/
def unifiedIdeograph? (digits : Text) : Option Nat :=
  if digits.length = 4 || digits.length = 5 then
    (numeral? 16 digits).filter (inRanges unifiedIdeographs)
  else none

/-! ## Syllables of Hangul -/

/-- How syllables begin. -/
def hangulLeads : List String :=
  ["G", "GG", "N", "D", "DD", "R", "M", "B", "BB", "S", "SS", "", "J", "JJ", "C", "K", "T", "P", "H"]

/-- The vowels of syllables. -/
def hangulVowels : List String :=
  ["A", "AE", "YA", "YAE", "EO", "E", "YEO", "YE", "O", "WA", "WAE", "OE", "YO", "U", "WEO", "WE", "WI",
    "YU", "EU", "YI", "I"]

/-- How syllables end. -/
def hangulTails : List String :=
  ["", "G", "GG", "GS", "N", "NJ", "NH", "D", "L", "LG", "LM", "LB", "LS", "LT", "LP", "LH", "M", "B", "BS",
    "S", "SS", "NG", "J", "C", "K", "T", "P", "H"]

/-- The longest of some fronts that a text has: its place among them, and the rest of the text. -/
def longestFront? (fronts : List String) (t : Text) : Option (Nat × Text) :=
  let found := fronts.zipIdx.filterMap fun (front, i) =>
    if (ofString front).isPrefixOf t then some (i, t.drop front.length) else none
  found.foldl (fun best next =>
    match best with
    | some b => if next.2.length < b.2.length then some next else some b
    | none => some next) none

/-- The syllable that is spelled from its parts. -/
def hangulSyllable? (spelling : Text) : Option Nat := do
  let (lead, rest) ← longestFront? hangulLeads spelling
  let (vowel, rest) ← longestFront? hangulVowels rest
  let (tail, rest) ← longestFront? hangulTails rest
  if rest.isEmpty then
    some (0xAC00 + (lead * hangulVowels.length + vowel) * hangulTails.length + tail)
  else none

/-! ## All names -/

/-- The rest of a text after a front that it has. -/
def afterFront? (front : String) (t : Text) : Option Text :=
  if (ofString front).isPrefixOf t then some (t.drop front.length) else none

/-- A character that names are made of. -/
def isNameChar (c : CodePoint) : Bool := isAsciiLetter c || isAsciiDigit c || c = ' ' || c = '-'

/-- The number of the character of a name.  A text with other characters than names are made of names
nothing. -/
def charNamed? (name : Text) : Option Nat :=
  if !name.all isNameChar then none
  else
    match afterFront? "HANGUL SYLLABLE " name, afterFront? "CJK UNIFIED IDEOGRAPH-" name with
    | some spelling, _ => hangulSyllable? spelling
    | none, some digits => unifiedIdeograph? digits
    | none, none =>
      let key := name.map capitalAscii
      match countedNames.findSome? (·.find? key) with
      | some n => some n
      | none => allNameRuns.findSome? (·.find? key)

end SkipPath.Text
