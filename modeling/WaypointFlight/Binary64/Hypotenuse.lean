namespace WaypointFlight.Binary64

/-- The hypotenuse for legs `a ≥ b > 0` whose squares are in range. With `h` the rounded root,
the residual `h ^ 2 - a ^ 2 - b ^ 2` is summed from differences that are nearly exact. -/
def correctedRoot (a b : Float) : Float :=
  let h := Float.sqrt (a * a + b * b)
  if h ≤ 2.0 * b then
    let d := h - b
    h - (a * (2.0 * d - a) + (d - 2.0 * (a - b)) * d) / (2.0 * h)
  else
    let d := h - a
    h - (2.0 * d * (a - 2.0 * b) + ((4.0 * d - b) * b + d * d)) / (2.0 * h)

def hypotOrdered (a b : Float) : Float :=
  let large := Float.scaleB 1.0 511
  let tiny := Float.scaleB 1.0 (-459)
  let negligible := Float.scaleB 1.0 (-54)
  let scale := Float.scaleB 1.0 (-600)
  if large < a then
    if b ≤ a * negligible then a + b else correctedRoot (a * scale) (b * scale) / scale
  else if b < tiny then
    if b / negligible ≤ a then a + b else correctedRoot (a / scale) (b / scale) * scale
  else if b ≤ a * negligible then a + b
  else correctedRoot a b

def hypot (x y : Float) : Float :=
  if x.isInf || y.isInf then 1.0 / 0.0
  else if x.isNaN || y.isNaN then 0.0 / 0.0
  else
    let x := x.abs
    let y := y.abs
    if x < y then hypotOrdered y x else hypotOrdered x y

end WaypointFlight.Binary64
