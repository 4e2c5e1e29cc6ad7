import WaypointNav.Angle.Remainder

/-! Angles in degrees and radians. Conversions are a single product with a constant quotient. -/
namespace WaypointNav.Angle

def pi : Float := 3.141592653589793

def ofDegrees (degrees : Float) : Float :=
  degrees * (pi / 180)

def toDegrees (radians : Float) : Float :=
  radians * (180 / pi)

/-- The same direction between `-pi`, excluded, and `pi`. -/
def wrap (angle : Float) : Float :=
  let wrapped := euclidean (angle + pi) (2 * pi) - pi
  if wrapped ≤ -pi then wrapped + 2 * pi else wrapped

end WaypointNav.Angle
