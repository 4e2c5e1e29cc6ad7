import WaypointNav.Demo

namespace WaypointNav

def Demo.Record.line (record : Demo.Record) : String :=
  match record.level with
  | .info => "[INFO] " ++ record.text
  | .error => "[ERROR] " ++ record.text

def Demo.readSource (path : String) : IO Demo.Source := do
  try
    return ⟨path, .ok (← IO.FS.readFile path)⟩
  catch
    | .noFileOrDirectory .. => return ⟨path, .error "No such file or directory (os error 2)"⟩
    | problem => return ⟨path, .error problem.toString⟩

end WaypointNav

open WaypointNav in
def main (arguments : List String) : IO UInt32 := do
  let source ← arguments.head?.mapM Demo.readSource
  let report := Demo.run source Yaml.Reader.plain
  for record in report.log do
    IO.eprintln record.line
  return report.ending.exitCode.toUInt32
