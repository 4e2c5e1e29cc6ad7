namespace WaypointNav.Yaml

inductive Token
  | documentStart
  | documentEnd
  | blockList
  | blockMap
  | blockEnd
  | flowList
  | flowListEnd
  | flowMap
  | flowMapEnd
  | dash
  | comma
  | key
  | value
  | scalar (plain : Bool) (text : String)
deriving DecidableEq

def Token.describe : Token → String
  | .documentStart => "a document start"
  | .documentEnd => "a document end"
  | .blockList => "a block list"
  | .blockMap => "a block map"
  | .blockEnd => "the end of a block"
  | .flowList => "a flow list"
  | .flowListEnd => "the end of a flow list"
  | .flowMap => "a flow map"
  | .flowMapEnd => "the end of a flow map"
  | .dash => "a list item"
  | .comma => "a comma"
  | .key => "a key"
  | .value => "a value"
  | .scalar _ _ => "a scalar"

end WaypointNav.Yaml
