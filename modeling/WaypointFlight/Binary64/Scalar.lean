import WaypointFlight.Scalar.Basic
import WaypointFlight.Binary64.Hypotenuse
import WaypointFlight.Binary64.Integer

namespace WaypointFlight

instance : Scalar Float where
  decideLT _ _ := inferInstance
  decideLE _ _ := inferInstance
  isNaN := Float.isNaN
  abs := Float.abs
  sqrt := Float.sqrt
  rem := Binary64.rem
  degreesPerRadian := 57.29577951308232

instance : Analytic Float where
  hypot := Binary64.hypot
  atan2 := Float.atan2
  cos := Float.cos
  tan := Float.tan
  radiansPerDegree := 0.017453292519943295
  round := Float.round
  ceil := Float.ceil
  ofInt := Float.ofInt
  toWord := Binary64.toWord

/-- A remainder of binary32 numbers is itself one, so that it is taken in binary64. -/
instance : Scalar Float32 where
  decideLT _ _ := inferInstance
  decideLE _ _ := inferInstance
  isNaN := Float32.isNaN
  abs := Float32.abs
  sqrt := Float32.sqrt
  rem x y := (Binary64.rem x.toFloat y.toFloat).toFloat32
  degreesPerRadian := 57.295780181884765625

end WaypointFlight
