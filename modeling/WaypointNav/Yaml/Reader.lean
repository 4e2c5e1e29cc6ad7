import WaypointNav.Yaml
import WaypointNav.Yaml.Node.Values

/-! What records need of a document format: the tree of a text, and values of a known type in a tree. Readers
differ in the texts and values that they accept, so the records are read by any of them. -/
namespace WaypointNav.Yaml

structure Reader where
  tree : String → Except Flaw Node
  fields : Node → Except Flaw (List (String × Node))
  natural : Node → Except Flaw Nat
  float : Node → Except Flaw Float
  bool : Node → Except Flaw Bool
  point : Node → Except Flaw Point
  points : Node → Except Flaw (List Point)

/-- Reads plain documents only. -/
def Reader.plain : Reader where
  tree := Node.ofText
  fields := Node.fields
  natural := Node.natural
  float := Node.float
  bool := Node.bool
  point := Node.point
  points := Node.listOf Node.point

end WaypointNav.Yaml
