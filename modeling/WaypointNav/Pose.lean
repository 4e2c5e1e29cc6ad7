import WaypointNav.Point

namespace WaypointNav

/-- Where the vehicle is and where its nose points. Yaw is in radians, from the y axis towards the
x axis. -/
structure Pose where
  position : Point
  yaw : Float

def Pose.project (pose : Pose) (range heading : Float) : Point :=
  let bearing := heading + pose.yaw
  pose.position + (Point.mk bearing.sin bearing.cos).scale range

end WaypointNav
