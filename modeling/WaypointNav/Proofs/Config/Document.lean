import WaypointNav.Config.Document
import WaypointNav.Proofs.Yaml.Parts
import WaypointNav.Simulation.Document

/-! The settings and the simulated world of a document. Each setting is the value under its section and key,
or the default, and neither record depends on the order of the entries or on what only the other one reads. -/
namespace WaypointNav

open Yaml

section Sections

variable {reader : Reader}

namespace RouteConfig

def settings (reader : Reader) : List (Setting RouteConfig) := [
  ⟨"outer_length", reader.natural, (·.outerLength)⟩,
  ⟨"inner_length", reader.natural, (·.innerLength)⟩,
  ⟨"inner_space", reader.natural, (·.innerSpace)⟩,
  ⟨"outer_waypoints", reader.points, (·.outerWaypoints)⟩,
  ⟨"relative_waypoints", reader.bool, (·.relative)⟩]

theorem default_eq : ({} : RouteConfig) =
    ⟨defaultOuterLength, defaultInnerLength, defaultInnerSpace, defaultOuterWaypoints, false⟩ :=
  rfl

theorem reads (lawful : reader.ReadsMaps) : ReadsSection (settings reader) {} (ofNode · reader) where
  complete := by
    rintro ⟨⟩ ⟨⟩ same
    simpa [settings] using same
  ok_iff := by
    rintro node ⟨⟩
    simp only [ofNode, lawful.fields_bind_eq_ok_iff, field_bind_eq_ok_iff, pure_eq_ok_iff]
    rw [default_eq]
    -- the flag is not to be split into its two values
    simp [settings, -Bool.exists_bool]

end RouteConfig

namespace ObstacleConfig

def settings (reader : Reader) : List (Setting ObstacleConfig) := [
  ⟨"max_obstacles", reader.natural, (·.capacity)⟩,
  ⟨"duplicate_radius", reader.float, (·.duplicateRadius)⟩,
  ⟨"min_sensed_distance", reader.float, (·.minRange)⟩]

theorem default_eq :
    ({} : ObstacleConfig) = ⟨defaultCapacity, defaultDuplicateRadius, defaultMinRange⟩ :=
  rfl

theorem reads (lawful : reader.ReadsMaps) : ReadsSection (settings reader) {} (ofNode · reader) where
  complete := by
    rintro ⟨⟩ ⟨⟩ same
    simpa [settings] using same
  ok_iff := by
    rintro node ⟨⟩
    simp only [ofNode, lawful.fields_bind_eq_ok_iff, field_bind_eq_ok_iff, pure_eq_ok_iff]
    rw [default_eq]
    simp [settings]

end ObstacleConfig

namespace NavigationConfig

def settings (reader : Reader) : List (Setting NavigationConfig) := [
  ⟨"arrival_threshold", reader.float, (·.arrivalThreshold)⟩,
  ⟨"cycle_hz", reader.float, (·.cycleHz)⟩]

theorem default_eq : ({} : NavigationConfig) = ⟨defaultArrivalThreshold, defaultCycleHz⟩ :=
  rfl

theorem reads (lawful : reader.ReadsMaps) : ReadsSection (settings reader) {} (ofNode · reader) where
  complete := by
    rintro ⟨⟩ ⟨⟩ same
    simpa [settings] using same
  ok_iff := by
    rintro node ⟨⟩
    simp only [ofNode, lawful.fields_bind_eq_ok_iff, field_bind_eq_ok_iff, pure_eq_ok_iff]
    rw [default_eq]
    simp [settings]

end NavigationConfig

namespace ClearanceConfig

def settings (reader : Reader) : List (Setting ClearanceConfig) := [
  ⟨"clearance", reader.float, (·.clearance)⟩,
  ⟨"max_spacing", reader.float, (·.maxSpacing)⟩]

theorem default_eq : ({} : ClearanceConfig) = ⟨defaultClearance, defaultMaxSpacing⟩ :=
  rfl

theorem reads (lawful : reader.ReadsMaps) : ReadsSection (settings reader) {} (ofNode · reader) where
  complete := by
    rintro ⟨⟩ ⟨⟩ same
    simpa [settings] using same
  ok_iff := by
    rintro node ⟨⟩
    simp only [ofNode, lawful.fields_bind_eq_ok_iff, field_bind_eq_ok_iff, pure_eq_ok_iff]
    rw [default_eq]
    simp [settings]

end ClearanceConfig

namespace Simulation

def settings (reader : Reader) : List (Setting Simulation) := [
  ⟨"start", reader.point, (·.start)⟩,
  ⟨"step", reader.float, (·.step)⟩,
  ⟨"obstacles", reader.points, (·.obstacles)⟩,
  ⟨"obstacle_radius", reader.float, (·.obstacleRadius)⟩,
  ⟨"sensor_range", reader.float, (·.sensorRange)⟩,
  ⟨"field_of_view_deg", reader.float, (·.fieldOfView)⟩,
  ⟨"cycles", reader.natural, (·.cycles)⟩]

theorem default_eq : ({} : Simulation) = ⟨⟨0, 0⟩, defaultStep, defaultObstacles,
    defaultObstacleRadius, defaultSensorRange, defaultFieldOfView, defaultCycles⟩ :=
  rfl

theorem reads (lawful : reader.ReadsMaps) : ReadsSection (settings reader) {} (ofNode · reader) where
  complete := by
    rintro ⟨⟩ ⟨⟩ same
    simpa [settings] using same
  ok_iff := by
    rintro node ⟨⟩
    simp only [ofNode, lawful.fields_bind_eq_ok_iff, field_bind_eq_ok_iff, pure_eq_ok_iff]
    rw [default_eq]
    simp [settings]

end Simulation

end Sections

section Documents

variable {reader : Reader}

def Config.parts (reader : Reader) : List (DocumentPart Config) := [
  ⟨"trajectory", RouteConfig.settings reader, {}, (·.route)⟩,
  ⟨"obstacles", ObstacleConfig.settings reader, {}, (·.obstacles)⟩,
  ⟨"navigation", NavigationConfig.settings reader, {}, (·.navigation)⟩,
  ⟨"optimizer", ClearanceConfig.settings reader, {}, (·.optimizer)⟩]

theorem Config.ofNode_eq_ok_iff (lawful : reader.ReadsMaps) (root : Node) (config : Config) :
    Config.ofNode root reader = .ok config ↔ Told (parts reader) root config := by
  obtain ⟨route, obstacles, navigation, optimizer⟩ := config
  simp only [ofNode, lawful.fields_bind_eq_ok_iff, field_bind_eq_ok_iff, pure_eq_ok_iff,
    (RouteConfig.reads lawful).written_iff, (ObstacleConfig.reads lawful).written_iff,
    (NavigationConfig.reads lawful).written_iff, (ClearanceConfig.reads lawful).written_iff]
  rw [told_iff]
  simp [parts]

def Simulation.parts (reader : Reader) : List (DocumentPart Simulation) := [
  ⟨"simulation", Simulation.settings reader, {}, id⟩]

theorem Simulation.ofSection_eq_ok_iff (lawful : reader.ReadsMaps) (root : Node)
    (world : Simulation) :
    Simulation.ofSection root reader = .ok world ↔ Told (parts reader) root world := by
  simp only [ofSection, lawful.fields_bind_eq_ok_iff, field_eq_ok_iff,
    (Simulation.reads lawful).written_iff]
  rw [told_iff]
  simp [parts]

/-- The settings are those of the document but for its simulated world. -/
theorem Config.ofNode_simulation (lawful : reader.ReadsMaps) (plain : Bool)
    (before after : List (Node × Node)) (value other : Node) :
    (ofNode (.map (before ++ (.scalar plain "simulation", value) :: after)) reader).toOption =
      (ofNode (.map (before ++ (.scalar plain "simulation", other) :: after)) reader).toOption := by
  refine Alike.read_eq (ofNode_eq_ok_iff lawful)
    (alike_of_under_eq (Node.isSection_value_iff ..) ?_)
  simp [parts, Node.under_append, Node.under_cons]

/-- The simulated world is that of its section, whatever the others are. -/
theorem Simulation.ofSection_eq (lawful : reader.ReadsMaps) {a b : Node}
    (isSection_iff : a.IsSection ↔ b.IsSection)
    (under_eq : a.under "simulation" = b.under "simulation") :
    (ofSection a reader).toOption = (ofSection b reader).toOption := by
  refine Alike.read_eq (ofSection_eq_ok_iff lawful) (alike_of_under_eq isSection_iff ?_)
  simpa [parts] using under_eq

/-- Sections and their settings are independent of each other and of everything unknown, however values
are read. -/
theorem sections_independent (reader : Reader) (lawful : reader.ReadsMaps) :
    (∀ root config, Config.ofNode root reader = .ok config ↔
      Told (Config.parts reader) root config) ∧
    (∀ root world, Simulation.ofSection root reader = .ok world ↔
      Told (Simulation.parts reader) root world) ∧
    (∀ a b, Relation.EqvGen (Edit (Config.parts reader)) a b →
      (Config.ofNode a reader).toOption = (Config.ofNode b reader).toOption) ∧
    (∀ a b, Relation.EqvGen (Edit (Simulation.parts reader)) a b →
      (Simulation.ofSection a reader).toOption = (Simulation.ofSection b reader).toOption) ∧
    (∀ plain before after value other,
      (Config.ofNode (.map (before ++ (.scalar plain "simulation", value) :: after)) reader).toOption =
        (Config.ofNode (.map (before ++ (.scalar plain "simulation", other) :: after))
          reader).toOption) ∧
    (∀ a b : Node, (a.IsSection ↔ b.IsSection) → a.under "simulation" = b.under "simulation" →
      (Simulation.ofSection a reader).toOption = (Simulation.ofSection b reader).toOption) :=
  ⟨Config.ofNode_eq_ok_iff lawful, Simulation.ofSection_eq_ok_iff lawful,
    fun _ _ => edited_read (Config.ofNode_eq_ok_iff lawful),
    fun _ _ => edited_read (Simulation.ofSection_eq_ok_iff lawful),
    Config.ofNode_simulation lawful, fun _ _ => Simulation.ofSection_eq lawful⟩

def briefDocument : Node := .map [
  (.scalar true "trajectory", .map [(.scalar true "inner_length", .scalar true "5")]),
  (.scalar true "simulation", .vacant)]

/-- The brief document in another order and with remarks. -/
def annotatedDocument : Node := .map [
  (.scalar true "remark", .list []),
  (.scalar true "simulation", .vacant),
  (.scalar true "trajectory", .map [
    (.scalar true "remark", .vacant),
    (.scalar true "inner_length", .scalar true "5")])]

def spoiledDocument : Node := .map [
  (.scalar true "trajectory", .list []),
  (.scalar true "simulation", .vacant)]

theorem edited_annotatedDocument {γ : Type} {parts : List (DocumentPart γ)}
    (no_part : ¬KnownPart parts "remark") (no_setting : ¬KnownSetting parts "trajectory" "remark") :
    Relation.EqvGen (Edit parts) briefDocument annotatedDocument := by
  have within : Edit parts briefDocument _ :=
    .within true "trajectory" (.insert true no_setting .vacant _) [] _
  have remarked : Node.Edit (KnownPart parts) _ annotatedDocument :=
    .insert true no_part (.list []) _
  exact .trans _ _ _ (.rel _ _ within)
    (.trans _ _ _ (.rel _ _ (.root (.reorder (.swap ..)))) (.rel _ _ (.root remarked)))

theorem annotated_document_read :
    Relation.EqvGen (Edit (Config.parts .plain)) briefDocument annotatedDocument ∧
    (Config.ofNode briefDocument).toOption = (Config.ofNode annotatedDocument).toOption ∧
    (Config.ofNode annotatedDocument).toOption.map (fun config =>
      (config.route.innerLength, config.route.outerLength)) = some (5, 3) ∧
    Relation.EqvGen (Edit (Simulation.parts .plain)) briefDocument annotatedDocument ∧
    (Simulation.ofSection briefDocument).toOption =
      (Simulation.ofSection annotatedDocument).toOption ∧
    (Config.ofNode spoiledDocument).toOption = none ∧
    (Simulation.ofSection spoiledDocument).toOption =
      (Simulation.ofSection briefDocument).toOption := by
  have edited : Relation.EqvGen (Edit (Config.parts .plain)) briefDocument annotatedDocument :=
    edited_annotatedDocument (by simp [KnownPart, Config.parts])
      (by simp [KnownSetting, Config.parts, RouteConfig.settings])
  have edited' : Relation.EqvGen (Edit (Simulation.parts .plain)) briefDocument annotatedDocument :=
    edited_annotatedDocument (by simp [KnownPart, Simulation.parts])
      (by simp [KnownSetting, Simulation.parts])
  obtain ⟨-, -, config_eq, world_eq, -, world_eq'⟩ :=
    sections_independent .plain Reader.readsMaps_plain
  exact ⟨edited, config_eq _ _ edited, by decide +kernel, edited', world_eq _ _ edited', rfl,
    world_eq' _ _ (Node.isSection_value_iff _ _ _ _ [] _) rfl⟩

/-- An unknown key that is no scalar makes a section unreadable. -/
theorem Config.ofNode_list_key :
    (ofNode (.map [(.scalar true "trajectory", .map [])])).toOption = some {} ∧
    (ofNode (.map [(.scalar true "trajectory",
      .map [(.list [.scalar true "a"], .scalar true "1")])])).toOption = none :=
  ⟨rfl, rfl⟩

end Documents

end WaypointNav
