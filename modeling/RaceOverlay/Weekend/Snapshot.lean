import RaceOverlay.Weekend.Document

/-!
# Snapshots

A snapshot is accepted if it decodes to a weekend whose running session exists and whose session ids
are pairwise different. The running session is checked first.
-/
namespace RaceOverlay

inductive SnapshotError where
  | document (e : DecodeError)
  /-- The index of the running session, and the number of sessions there are. -/
  | noCurrentSession (current count : Nat)
  /-- The first id in the order of the sessions that an earlier session has. -/
  | repeatedSession (id : Int)
  deriving DecidableEq

/-- Outermost cause first. -/
def SnapshotError.causes : SnapshotError → List String
  | .document e => [e.message]
  | .noCurrentSession current count =>
    [s!"Current session {current} does not exist, the snapshot holds {count} sessions!",
      "Invalid input value"]
  | .repeatedSession id => [s!"Session id {id} is used twice!", "Invalid input value"]

/-- The first element of a list that occurs before its place. -/
def firstRepeated? (seen : List Int) : List Int → Option Int
  | [] => none
  | id :: ids => if id ∈ seen then some id else firstRepeated? (id :: seen) ids

namespace Weekend

def check (w : Weekend) : Except SnapshotError Weekend :=
  if w.sessions.length ≤ w.current then .error (.noCurrentSession w.current w.sessions.length)
  else match firstRepeated? [] (w.sessions.map (·.id)) with
    | some id => .error (.repeatedSession id)
    | none => .ok w

/-- The accepted weekend of a document that was read already. -/
def ofJson (j : Json) : Except SnapshotError Weekend :=
  match decode j with
  | .ok w => w.check
  | .error e => .error (.document e)

/-- The accepted weekend of a document's text. -/
def ofText (text : String) : Except SnapshotError Weekend :=
  match Json.decodeText decode text with
  | .ok w => w.check
  | .error e => .error (.document e)

end Weekend

end RaceOverlay
