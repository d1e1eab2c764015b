import RaceOverlay.External.Basic
import RaceOverlay.Order.Least
import RaceOverlay.Order.Stable
import RaceOverlay.Text.Numeral
import RaceOverlay.Weekend.Basic

/-!
# Rankings of a session

The standings of a session in one of six orders, and the ranks of a car among the cars of its class.
Standings that an order does not tell apart keep their places in the session. A position that is not
positive is no classification and comes last.
-/
namespace RaceOverlay

inductive StandingOrder where
  | position
  | livePosition
  | classPosition
  | fastestLap
  | points
  | trackPosition
  deriving DecidableEq

/-- The key that positions are sorted by. -/
def positionKey (position : Int) : Int := if 0 < position then position else Text.maxSigned32

/-- The greatest finite double. -/
def maxDouble : Float := 1.7976931348623157e308

namespace Standing

/-- A lap time that is not positive is no lap at all. -/
def fastestKey (s : Standing) : Float := if 0.0 < s.fastestLap then s.fastestLap else maxDouble

/-- Classes in their order, classes of equal order by name, and the positions in a class. -/
def beforeByClass (a b : Standing) : Bool :=
  if a.driver.classOrder ≠ b.driver.classOrder then
    decide (a.driver.classOrder < b.driver.classOrder)
  else if a.driver.className ≠ b.driver.className then
    decide (a.driver.className < b.driver.className)
  else decide (positionKey a.position < positionKey b.position)

end Standing

/-- Any points are more than none. -/
def fewerPoints : Option Int → Option Int → Bool
  | none, some _ => true
  | some p, some q => decide (p < q)
  | _, none => false

/-- Whether the first standing comes strictly before the second. -/
def StandingOrder.before (order : StandingOrder) (external : External) (a b : Standing) : Bool :=
  match order with
  | .position => decide (positionKey a.position < positionKey b.position)
  | .livePosition => decide (positionKey a.livePosition < positionKey b.livePosition)
  | .classPosition => a.beforeByClass b
  | .fastestLap => decide (a.fastestKey < b.fastestKey)
  | .points => fewerPoints (external.points? b.driver.user) (external.points? a.driver.user)
  | .trackPosition => decide (b.progress < a.progress)

namespace Session

def ordered (s : Session) (order : StandingOrder) (external : External) : List Standing :=
  Order.stableSort (order.before external) s.standings

def isOfClass (className : Option String) (standing : Standing) : Bool :=
  match className with
  | some name => standing.driver.className == name
  | none => true

/-- The standing with a rank, counted from one, in an order restricted to a class. -/
def atRank? (s : Session) (rank : Int) (order : StandingOrder) (className : Option String)
    (external : External) : Option Standing :=
  if rank < 1 then none
  else ((s.ordered order external).filter (isOfClass className))[rank.toNat - 1]?

/-- The cars of a class, by a position of theirs. -/
def classOrdered (s : Session) (className : String) (position : Standing → Int) :
    List Standing :=
  Order.stableSort (fun a b => decide (positionKey (position a) < positionKey (position b)))
    (s.standings.filter (isOfClass (some className)))

/-- The rank of a driver's car in its class, or zero if the class has no such car. -/
def classRank (s : Session) (driver : Driver) (position : Standing → Int) : Int :=
  match (s.classOrdered driver.className position).findIdx? fun standing =>
      standing.driver.car == driver.car with
  | some i => Int.ofNat (i + 1)
  | none => 0

def classPosition (s : Session) (driver : Driver) : Int := s.classRank driver (·.position)

def classLivePosition (s : Session) (driver : Driver) : Int := s.classRank driver (·.livePosition)

/-- The first of the best classified cars of a class. -/
def classLeader? (s : Session) (className : String) : Option Standing :=
  Order.least? (fun standing => positionKey standing.position)
    (s.standings.filter (isOfClass (some className)))

theorem ordered_perm (s : Session) (order : StandingOrder) (external : External) :
    (s.ordered order external).Perm s.standings := Order.stableSort_perm _ _

theorem atRank?_add_one (s : Session) (i : Nat) (order : StandingOrder)
    (className : Option String) (external : External) :
    s.atRank? (i + 1) order className external =
      ((s.ordered order external).filter (isOfClass className))[i]? := by
  have hpos : ¬ (i + 1 : Int) < 1 := by omega
  rw [atRank?, if_neg hpos]
  rfl

end Session

end RaceOverlay
