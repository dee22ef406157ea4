import QueryCompletion.Text.RangeTable
import QueryCompletion.Text.LowercaseTable
import QueryCompletion.Text.CasedTable

/-!
Lower case. `lowerChar` maps one character to one character; `lower` maps a text, where the dotted
capital I becomes two characters and a capital sigma at the end of a word takes its final form.
-/

namespace QueryCompletion.Text

def CaseRun.covers (run : CaseRun) (code : Nat) : Bool :=
  run.first ≤ code && code ≤ run.last && (code - run.first) % run.step == 0

/-- The lower-case partner of a single character, itself when it has none. -/
def lowerChar (c : Char) : Char :=
  match lowercaseRuns.find? (·.covers c.toNat) with
  | some run => Char.ofNat (c.toNat + run.distance).toNat
  | none => c

def isCaseIgnorable (c : Char) : Bool := inRanges caseIgnorableRanges c.toNat

def isCased (c : Char) : Bool := inRanges casedRanges c.toNat

/-- Whether the nearest character that is not looked through is a letter with a case. -/
def nextIsCased (text : Text) : Bool :=
  ((text.dropWhile isCaseIgnorable).head?.map isCased).getD false

/-- A capital sigma between the reversed text before it and the text after it: the final form stands
after a letter and not before one. -/
def lowerSigma (before after : Text) : Char :=
  if nextIsCased before && !nextIsCased after then 'ς' else 'σ'

/-- Lower case of a text that follows the given reversed text. -/
def lowerFrom (before : Text) : Text → Text
  | [] => []
  | c :: rest =>
    let here :=
      if c = 'Σ' then [lowerSigma before rest]
      else if c = 'İ' then ['i', '\u0307']
      else [lowerChar c]
    here ++ lowerFrom (c :: before) rest

/-- The text in lower case. -/
def lower (text : Text) : Text := lowerFrom [] text

end QueryCompletion.Text
