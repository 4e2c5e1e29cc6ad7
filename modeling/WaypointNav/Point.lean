/-! Points of the horizontal plane, in meters. The arithmetic is binary64 and the order of operations
is fixed, so equal inputs give equal bits. -/
namespace WaypointNav

structure Point where
  x : Float
  y : Float
deriving DecidableEq

namespace Point

def origin : Point := ⟨0, 0⟩

instance : Inhabited Point := ⟨origin⟩
instance : Add Point := ⟨fun a b => ⟨a.x + b.x, a.y + b.y⟩⟩
instance : Sub Point := ⟨fun a b => ⟨a.x - b.x, a.y - b.y⟩⟩

def scale (v : Point) (factor : Float) : Point :=
  ⟨v.x * factor, v.y * factor⟩

def norm (v : Point) : Float :=
  (v.x * v.x + v.y * v.y).sqrt

def distance (a b : Point) : Float :=
  (a - b).norm

/-- The point at fraction `t` of the way from `a` to `b`. Both ends are weighted, so `t = 1` gives
`b` again whenever `a` is finite. -/
def interpolate (a b : Point) (t : Float) : Point :=
  a.scale (1 - t) + b.scale t

def isFinite (p : Point) : Bool :=
  p.x.isFinite && p.y.isFinite

end Point

end WaypointNav
