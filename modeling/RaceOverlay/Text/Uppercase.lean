import RaceOverlay.Text.CaseTable

/-!
# Uppercase

The uppercase form of each character on its own: its neighbours and the language of the text play
no part. One character can become up to three.
-/
namespace RaceOverlay.Text

def CaseRun.covers (run : CaseRun) (n : Nat) : Bool :=
  run.first ≤ n && n ≤ run.last && (n - run.first) % run.step == 0

/-- ASCII letters are mapped directly; all else is looked up. -/
def upperChar (c : Char) : List Char :=
  if c.toNat < 0x80 then [c.toUpper]
  else match caseExpansions.find? (·.1 == c.toNat) with
    | some (_, form) => form.map Char.ofNat
    | none => match caseRuns.find? (·.covers c.toNat) with
      | some run => [Char.ofNat (run.target + (c.toNat - run.first))]
      | none => [c]

def uppercase (s : String) : String := String.ofList (s.toList.flatMap upperChar)

end RaceOverlay.Text
