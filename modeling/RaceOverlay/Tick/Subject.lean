import RaceOverlay.Number.Width
import RaceOverlay.Tick.Scene
import RaceOverlay.Weekend.Ranking

/-!
# Subjects

Which session or standing of a scene a label shows.
-/
namespace RaceOverlay

inductive Subject where
  /-- The label's session does not exist. -/
  | noSession
  /-- The session has no standing at the label's rank. -/
  | noStanding
  | standing (session : Session) (standing : Standing)
  | session (session : Session)

namespace LabelSpec

def session? (spec : LabelSpec) (w : Weekend) : Option Session :=
  match spec.session with
  | none => w.current?
  | some kind => w.sessionOfKind? kind

/-- The rank that an offset names: its low 32 bits as a signed number, counted from one. -/
def rank (spec : LabelSpec) : Int := wrapped32 (wrapped32 (Int.ofNat spec.offset) + 1)

def subjectIn (spec : LabelSpec) (w : Weekend) (external : External) (s : Session) : Subject :=
  match spec.dataset with
  | .sessionState => .session s
  | .followed => .standing s (w.standingOfFollowed s)
  | .standing =>
    match s.atRank? spec.rank spec.order spec.className external with
    | some standing => .standing s standing
    | none => .noStanding

def subject (spec : LabelSpec) (w : Weekend) (external : External) : Subject :=
  match spec.session? w with
  | some s => spec.subjectIn w external s
  | none => .noSession

end LabelSpec

end RaceOverlay
