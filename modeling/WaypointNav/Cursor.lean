namespace WaypointNav

/-- The position within a route: the outer waypoint aimed at, the active leg, and the point of it that
is commanded next. After an outer advance the active leg is the one that ends at the waypoint aimed
at; before the first one both are zero. -/
structure Cursor where
  outer : Nat := 0
  inner : Nat := 0
  leg : Nat := 0
  valid : Bool := false
deriving DecidableEq

namespace Cursor

/-- Aims at the next of `count` outer waypoints, after the last one at the first, and restarts the walk
on the leg that leads there. -/
def advanceOuter (cursor : Cursor) (count : Nat) : Cursor :=
  if cursor.outer + 1 < count then
    { cursor with outer := cursor.outer + 1, leg := cursor.outer, inner := 0 }
  else
    { cursor with outer := 0, leg := count - 1, inner := 0 }

def advanceInner (cursor : Cursor) (size : Nat) : Cursor :=
  if cursor.inner + 1 < size then { cursor with inner := cursor.inner + 1 } else cursor

def clampInner (cursor : Cursor) (size : Nat) : Cursor :=
  if size - 1 < cursor.inner then { cursor with inner := size - 1 } else cursor

end Cursor

end WaypointNav
