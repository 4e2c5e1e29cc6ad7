import WaypointNav.Yaml.Node.OfTokens
import WaypointNav.Yaml.Token.Scan

/-! Plain documents. Anchors, aliases, tags, block scalars and directives are refused. -/
namespace WaypointNav.Yaml

def Node.ofText (text : String) : Except Flaw Node := do
  ofTokens (← Token.ofText text)

end WaypointNav.Yaml
