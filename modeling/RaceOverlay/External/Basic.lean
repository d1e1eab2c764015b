import RaceOverlay.Order.Stable

/-!
# External data

Columns that tables add to drivers and teams, keyed by id, and the championship points of drivers.
Of two rows with one id the last one counts; of two entries of points the first one.
-/
namespace RaceOverlay

/-- An id and the columns after it. -/
abbrev Row := Int × List String

structure External where
  drivers : List Row
  teams : List Row
  /-- Ids and points, in the order of the table. -/
  points : List (Int × Int)
  deriving DecidableEq

namespace External

def empty : External := ⟨[], [], []⟩

/-- The columns of the last row with the id. -/
def columnsOf (rows : List Row) (id : Int) : List String := (rows.reverse.lookup id).getD []

def driverColumns (e : External) (user : Int) : List String := columnsOf e.drivers user

def teamColumns (e : External) (team : Int) : List String := columnsOf e.teams team

def points? (e : External) (user : Int) : Option Int := e.points.lookup user

/-- Most points first, equal ones in the order of the table. -/
def ranking (e : External) : List (Int × Int) :=
  Order.stableSort (fun a b => decide (b.2 < a.2)) e.points

/-- The place in the ranking, counted from one. -/
def rank? (e : External) (user : Int) : Option Nat :=
  (e.ranking.findIdx? fun entry => entry.1 == user).map (· + 1)

def rankedCount (e : External) : Nat := e.points.length

theorem ranking_perm (e : External) : e.ranking.Perm e.points := Order.stableSort_perm _ _

end External

end RaceOverlay
