import Scaffold.Number.Decimal

/-!
# Durations

A duration in seconds is shown in hours, minutes and seconds. Hours and minutes appear when they
are not zero; as soon as one of them does, the seconds are whole, otherwise they have one decimal
place. Time that runs backwards is shown as no time.
-/

namespace Scaffold.Duration

/-- The text of a duration, or nothing for one that is not finite and not negative. -/
def render? (seconds : Float) : Option Text := do
  if seconds < 0.0 then return "0.0s"
  let hours ← Number.quotient? seconds 3600
  let minutes ← Number.quotient? (Number.remainder seconds 3600) 60
  let rest := Number.remainder seconds 60
  let whole ← Number.floor? rest
  let hourPart : List Text := if 0 < hours then [Text.ofInt hours ++ "h"] else []
  let minutePart : List Text := if 0 < minutes then [Text.ofInt minutes ++ "m"] else []
  let secondPart : Text :=
    if 0 < hours || 0 < minutes then Text.ofInt whole ++ "s" else Number.fixed 1 rest ++ "s"
  return Text.join " " (hourPart ++ minutePart ++ [secondPart])

end Scaffold.Duration
