import WaypointNav.Point

namespace WaypointNav

inductive Guide
  | outer
  | inner
deriving DecidableEq

inductive Command
  | move (guide : Guide) (target : Point)
  | proceed (guide : Guide)
deriving DecidableEq

end WaypointNav
