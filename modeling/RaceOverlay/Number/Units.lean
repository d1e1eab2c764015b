/-!
# Units of measure

Conversions in double arithmetic. The order of operations is part of each rule, as every operation
rounds.
-/
namespace RaceOverlay.Units

def kphPerMps : Float := 3.6
def mphPerMps : Float := 2.237
def knotsPerMps : Float := 1.943844
def metersPerMile : Float := 1609.344
def milesPerKilometer : Float := 0.6214
def feetPerMeter : Float := 3.281
def hectopascalsPerMmHg : Float := 1.333224

/-- The double nearest to the ratio of a circle's circumference to its diameter. -/
def pi : Float := 3.141592653589793

def fahrenheit (celsius : Float) : Float := celsius * 9.0 / 5.0 + 32.0

def degrees (radians : Float) : Float := 360.0 * radians / (2.0 * pi)

/-- The average speed over a lap of `length` meters, if the lap time is positive. -/
def lapKph? (length seconds : Float) : Option Float :=
  if 0.0 < seconds then some (kphPerMps * length / seconds) else none

def lapMph? (length seconds : Float) : Option Float :=
  if 0.0 < seconds then some (3600.0 * length / (metersPerMile * seconds)) else none

end RaceOverlay.Units
