import WaypointNav.Config.Document
import WaypointNav.Limits
import WaypointNav.Simulation.Document

/-! The demonstration: one flight around the configured route, told by its log. -/
namespace WaypointNav.Demo

structure Source where
  path : String
  content : Except String String

inductive Level
  | info
  | error
deriving DecidableEq

structure Record where
  level : Level
  text : String
deriving DecidableEq

def Record.info (text : String) : Record :=
  ⟨.info, text⟩

inductive Ending
  | completed
  | failed (failure : Failure)
deriving DecidableEq

structure Report where
  log : List Record
  ending : Ending

def Ending.exitCode : Ending → Nat
  | .completed => 0
  | .failed (.refused _) => 1
  | .failed .crashed => 101

def parse (text : String) (reader : Yaml.Reader := .plain) : Except Fault (Config × Simulation) := do
  let config ← Config.ofText text reader
  let world ← (reader.tree text >>= (Simulation.ofSection · reader)).mapError (.document ·.message)
  return (config, world)

def load (source : Option Source) (reader : Yaml.Reader := .plain) :
    Except Fault (Config × Simulation) :=
  match source with
  | none => .ok ({}, {})
  | some source => do parse (← source.content.mapError .file) reader

def explain : Fault → String
  | .file reason => reason
  | fault => fault.message

def summary (status : Status) : String :=
  s!"Demo completed: outer {status.cursor.outer} inner {status.cursor.inner} " ++
    s!"valid {status.cursor.valid}, {status.obstacles} obstacles ({status.dropped} dropped), " ++
    s!"{status.replans} replans ({status.failures} failed)"

def flightLog (flight : Flight σ) : List Record :=
  let notices := flight.cycles.flatMap (·.outcome.notices)
  let failure := flight.fault.toList.map fun fault =>
    Record.mk .error (s!"Navigation cycle {flight.cycles.length} failed: " ++ fault.message)
  notices.map (.info ·.message) ++ failure ++ [.info (summary flight.last.navigator.status)]

def prepare (config : Config) (world : Simulation) : Except Failure (ClosedLoop Unit) := do
  Limits.checkPeriod config.navigation
  Limits.closedLoop config world ()

/-- The flight of checked settings, without pauses between the cycles. A crash comes after the outline of
the route is told, before its legs are planned. -/
def fly (config : Config) (world : Simulation) (watch : Watch) (loop : ClosedLoop Unit) :
    List Record × Ending :=
  match Limits.fly config.optimizer.optimizer watch world.cycles loop with
  | .error failure =>
    ((Notice.ofOutline (config.route.outline world.start)).map (.info ·.message), .failed failure)
  | .ok flight => (flightLog flight, .completed)

/-- A whole run. What the sensor writes into the log on its own is left out. -/
def run (source : Option Source) (reader : Yaml.Reader := .plain)
    (watch : Simulation → Watch := .ofSimulation) : Report :=
  let opening := Record.info "Starting Strix navigation demo..."
  match load source reader with
  | .error fault =>
    ⟨[opening, ⟨.error, "Invalid configuration: " ++ explain fault⟩], .failed (.refused fault)⟩
  | .ok (config, world) =>
    let loaded := source.toList.map fun source =>
      Record.info ("Loaded configuration from " ++ source.path)
    match prepare config world with
    | .error failure => ⟨opening :: loaded, .failed failure⟩
    | .ok loop =>
      let (log, ending) := fly config world (watch world) loop
      ⟨opening :: loaded ++ log, ending⟩

end WaypointNav.Demo
