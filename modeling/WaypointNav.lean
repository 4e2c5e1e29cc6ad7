import WaypointNav.Main
import WaypointNav.Navigator.Run
import WaypointNav.Proofs.Navigator.FlownPath
import WaypointNav.Proofs.Navigator.Coherence
import WaypointNav.Proofs.Navigator.Freshness
import WaypointNav.Proofs.Navigator.Safety
import WaypointNav.Proofs.Navigator.Guidance
import WaypointNav.Proofs.Navigator.Clearance
import WaypointNav.Proofs.Navigator.Course
import WaypointNav.Proofs.Navigator.Accounting
import WaypointNav.Proofs.ObstacleMap.Separation
import WaypointNav.Proofs.Demo
import WaypointNav.Proofs.Optimizer.Separation
import WaypointNav.Proofs.Optimizer.Shape
import WaypointNav.Proofs.Leg.Offers
import WaypointNav.Proofs.Replanner.Atomicity
import WaypointNav.Proofs.Navigator.Midway
import WaypointNav.Proofs.ObstacleMap.Memory
import WaypointNav.Proofs.Ingestion
import WaypointNav.Proofs.Route.Polygon
import WaypointNav.Proofs.Binary64.Monotone
import WaypointNav.Proofs.Binary64.Special
import WaypointNav.Proofs.Optimizer.NaN
import WaypointNav.Proofs.Angle
import WaypointNav.Proofs.Optimizer.Stability
import WaypointNav.Proofs.Perception
import WaypointNav.Proofs.Yaml.Parts
import WaypointNav.Proofs.Config.Document
import WaypointNav.Proofs.ClosedLoop.Sightings
