/-!
# Ordinal numbers

English ordinals as overlays show them. Only 11, 12 and 13 themselves are irregular: 111 ends like 1.
-/
namespace RaceOverlay

def ordinalSuffix (n : Int) : String :=
  if 11 ≤ n ∧ n ≤ 13 then "th"
  else if n % 10 = 1 then "st"
  else if n % 10 = 2 then "nd"
  else if n % 10 = 3 then "rd"
  else "th"

/-- A rank with its suffix; what is no rank is a dash. -/
def ordinal (n : Int) : String :=
  if n ≤ 0 then "-" else toString n ++ ordinalSuffix n

end RaceOverlay
