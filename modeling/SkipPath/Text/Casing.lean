import SkipPath.Text.Ranges
import SkipPath.Text.CaseTables

/-!
Small and capital forms of a text (`lower` and `upper`).

Both maps go character by character with two exceptions.  A capital may take several characters, as
the capital of a ligature does, and U+0130 is the one character whose small form takes two.  And the
small form of the capital sigma depends on its place: at the end of a word it is the final sigma.
-/

namespace SkipPath.Text

/-- A character with a case that decides where a word ends. -/
def isCased (c : CodePoint) : Bool := inRanges casedRanges c.toNat

/-- A character that is passed over when the end of a word is looked for. -/
def isCaseIgnored (c : CodePoint) : Bool := inRanges caseIgnoredRanges c.toNat

/-- A small letter. -/
def isSmall (c : CodePoint) : Bool := (CaseRun.lookup smallLetterRuns c.toNat).isSome

/-- The small form of one character, away from the two exceptions. -/
def smallChar (c : CodePoint) : CodePoint := (CaseRun.lookup smallRuns c.toNat).elim c CodePoint.ofNat

/-- The capital form of one character. -/
def capitalOf (c : CodePoint) : Text :=
  match longCapitals.find? (·.1 == c.toNat) with
  | some (_, targets) => targets.map CodePoint.ofNat
  | none => [(CaseRun.lookup capitalRuns c.toNat).elim c CodePoint.ofNat]

/-- Whether the nearest character that is not passed over has a case. -/
def nextIsCased (t : Text) : Bool :=
  match t.dropWhile isCaseIgnored with
  | [] => false
  | c :: _ => isCased c

/-- The small form of a text whose preceding characters, last first, are `before`. -/
def smallFrom (before : Text) : Text → Text
  | [] => []
  | c :: rest =>
    let here : Text :=
      if c = 'Σ' then
        if nextIsCased before && !nextIsCased rest then ['ς'] else ['σ']
      else if c = '\u0130' then ['i', '\u0307']
      else [smallChar c]
    here ++ smallFrom (c :: before) rest

/-- The small form of a text. -/
def lowercase (t : Text) : Text := smallFrom [] t

/-- The capital form of a text. -/
def uppercase (t : Text) : Text := t.flatMap capitalOf

end SkipPath.Text
