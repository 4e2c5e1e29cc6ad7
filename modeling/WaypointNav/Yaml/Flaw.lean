namespace WaypointNav.Yaml

inductive Flaw
  | control
  | tab
  | unsupported (c : Char)
  | noColon
  | misplaced (what : String)
  | openQuote
  | escape
  | unexpected (what : String)
  | unfinished
  | secondDocument
  | expected (what : String)
  | repeated (key : String)
  -- in the words of another reader
  | reported (message : String)
deriving DecidableEq

def Flaw.message : Flaw → String
  | .control => "control characters are not allowed"
  | .tab => "found a tab character that violates indentation"
  | .unsupported c => "found character that cannot start any token: " ++ c.toString
  | .noColon => "could not find expected ':'"
  | .misplaced what => what ++ " are not allowed in this context"
  | .openQuote => "found unexpected end of a quoted scalar"
  | .escape => "found unknown escape sequence"
  | .unexpected what => "did not expect " ++ what
  | .unfinished => "found unexpected end of stream"
  | .secondDocument => "more than one document"
  | .expected what => "expected " ++ what
  | .repeated key => "duplicate field " ++ key
  | .reported message => message

end WaypointNav.Yaml
