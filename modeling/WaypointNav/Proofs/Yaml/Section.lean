import Mathlib
import WaypointNav.Proofs.Except
import WaypointNav.Yaml.Reader

/-! Sections of a document. What is read of a section depends on the values under the known keys alone, not on
where they stand nor on what else is written. -/
namespace WaypointNav.Yaml

variable {α β : Type}

namespace Node

def named : Node × Node → Option (String × Node)
  | (.scalar _ key, value) => some (key, value)
  | _ => none

def entries : Node → List (String × Node)
  | .map entries => entries.filterMap named
  | _ => []

/-- The values that are written under a key. -/
def under (node : Node) (key : String) : List Node :=
  (node.entries.filter (·.1 == key)).map (·.2)

/-- A map whose keys are scalars, or nothing at all. -/
inductive IsSection : Node → Prop
  | vacant : IsSection vacant
  | map {entries : List (Node × Node)} (keys : ∀ entry ∈ entries, (named entry).isSome) :
    IsSection (.map entries)

theorem isSection_map_iff {entries : List (Node × Node)} :
    (Node.map entries).IsSection ↔ ∀ entry ∈ entries, (named entry).isSome :=
  ⟨fun | .map keys => keys, .map⟩

/-- Whether a map is a section is not a matter of its values. -/
theorem isSection_value_iff (plain : Bool) (key : String) (value other : Node)
    (before after : List (Node × Node)) :
    (Node.map (before ++ (.scalar plain key, value) :: after)).IsSection ↔
      (Node.map (before ++ (.scalar plain key, other) :: after)).IsSection := by
  simp [isSection_map_iff, or_imp, forall_and, named]

theorem fields_map_eq_ok_iff {entries : List (Node × Node)} {found : List (String × Node)} :
    (Node.map entries).fields = .ok found ↔
      (Node.map entries).IsSection ∧ entries.filterMap named = found := by
  rw [isSection_map_iff]
  unfold fields
  dsimp only
  induction entries generalizing found with
  | nil => simp [pure_eq_ok_iff]
  | cons entry entries ih =>
    obtain ⟨key, value⟩ := entry
    rw [List.mapM_cons, bind_eq_ok_iff]
    simp only [bind_eq_ok_iff, ih, pure_eq_ok_iff, List.forall_mem_cons]
    cases key with
    | scalar plain key => simp [named]
    | list items | map items => simp [named]

theorem eq_vacant_of_isVacant {node : Node} (nothing : node.isVacant = true) : node = vacant := by
  unfold isVacant at nothing
  split at nothing
  · rfl
  · cases nothing

theorem isSection_of_fields {node : Node} {found : List (String × Node)}
    (fields_eq : node.fields = .ok found) : node.IsSection := by
  cases node with
  | map entries => exact (fields_map_eq_ok_iff.mp fields_eq).1
  | list items => cases fields_eq
  | scalar plain text =>
    cases nothing : (Node.scalar plain text).isVacant with
    | true =>
      rw [eq_vacant_of_isVacant nothing]
      exact .vacant
    | false => simp [fields, nothing] at fields_eq

section Under

variable {entries others : List (Node × Node)}

theorem under_perm (perm : entries.Perm others) (key : String) :
    ((Node.map entries).under key).Perm ((Node.map others).under key) :=
  ((perm.filterMap named).filter _).map _

theorem under_append (key : String) :
    (Node.map (entries ++ others)).under key =
      (Node.map entries).under key ++ (Node.map others).under key := by
  simp [under, Node.entries]

theorem under_cons (plain : Bool) (name key : String) (value : Node) :
    (Node.map ((.scalar plain name, value) :: entries)).under key =
      if name = key then value :: (Node.map entries).under key
      else (Node.map entries).under key := by
  unfold under
  split <;> simp_all [Node.entries, named]

end Under

end Node

/-- Vacant nodes and maps whose keys are scalars are read as sections, and nothing else is. -/
structure Reader.ReadsMaps (reader : Reader) : Prop where
  vacant : reader.fields .vacant = .ok []
  map {entries : List (Node × Node)} (keys : ∀ entry ∈ entries, (Node.named entry).isSome) :
    reader.fields (.map entries) = .ok (entries.filterMap Node.named)
  isSection {node : Node} {found : List (String × Node)} (fields_eq : reader.fields node = .ok found) :
    node.IsSection

namespace Reader.ReadsMaps

variable {reader : Reader}

theorem fields_eq_ok (reads : reader.ReadsMaps) {node : Node} (isSection : node.IsSection) :
    reader.fields node = .ok node.entries := by
  cases isSection with
  | vacant => exact reads.vacant
  | map keys => exact reads.map keys

theorem fields_eq_ok_iff (reads : reader.ReadsMaps) {node : Node} {found : List (String × Node)} :
    reader.fields node = .ok found ↔ node.IsSection ∧ node.entries = found := by
  constructor
  · intro fields_eq
    have isSection := reads.isSection fields_eq
    rw [reads.fields_eq_ok isSection] at fields_eq
    exact ⟨isSection, Except.ok.inj fields_eq⟩
  · intro ⟨isSection, entries_eq⟩
    rw [reads.fields_eq_ok isSection, entries_eq]

/-- Reading a section goes on with its entries. -/
theorem fields_bind_eq_ok_iff (reads : reader.ReadsMaps) {node : Node}
    {rest : List (String × Node) → Except Flaw β} {b : β} :
    reader.fields node >>= rest = .ok b ↔ node.IsSection ∧ rest node.entries = .ok b := by
  simp [bind_eq_ok_iff, reads.fields_eq_ok_iff, and_assoc]

end Reader.ReadsMaps

theorem Reader.readsMaps_plain : Reader.plain.ReadsMaps where
  vacant := rfl
  map keys := Node.fields_map_eq_ok_iff.mpr ⟨.map keys, rfl⟩
  isSection := Node.isSection_of_fields

/-- What the values under a key say: one is read, and none stands for the default. -/
inductive Written (read : Node → Except Flaw α) (default : α) : List Node → α → Prop
  | absent : Written read default [] default
  | once {node : Node} {value : α} (ok : read node = .ok value) : Written read default [node] value

theorem written_nil_iff {read : Node → Except Flaw α} {default value : α} :
    Written read default [] value ↔ value = default :=
  ⟨fun | .absent => rfl, fun same => same ▸ .absent⟩

theorem field_eq_ok_iff {node : Node} {name : String} {read : Node → Except Flaw α}
    {default value : α} :
    field node.entries name read default = .ok value ↔
      Written read default (node.under name) value := by
  unfold field Node.under
  generalize node.entries.filter (·.1 == name) = found
  match found with
  | [] => exact ⟨fun ok => Except.ok.inj ok ▸ .absent, fun | .absent => rfl⟩
  | [(_, _)] => exact ⟨.once, fun | .once ok => ok⟩
  | _ :: _ :: _ => exact iff_of_false nofun nofun

theorem field_bind_eq_ok_iff {node : Node} {name : String} {read : Node → Except Flaw α} {default : α}
    {rest : α → Except Flaw β} {b : β} :
    field node.entries name read default >>= rest = .ok b ↔
      ∃ a, Written read default (node.under name) a ∧ rest a = .ok b := by
  simp [bind_eq_ok_iff, field_eq_ok_iff]

theorem Written.perm {read : Node → Except Flaw α} {default value : α} {nodes others : List Node}
    (perm : nodes.Perm others) (written : Written read default nodes value) :
    Written read default others value := by
  cases written with
  | absent =>
    obtain rfl := List.nil_perm.mp perm
    exact .absent
  | once ok =>
    obtain rfl := List.singleton_perm.mp perm
    exact .once ok

inductive Node.Edit (Known : String → Prop) : Node → Node → Prop
  | reorder {entries others : List (Node × Node)} (perm : entries.Perm others) :
    Edit Known (.map entries) (.map others)
  | insert (plain : Bool) {key : String} (unknown : ¬Known key) (value : Node)
    (entries : List (Node × Node)) : Edit Known (.map entries) (.map ((.scalar plain key, value) :: entries))
  | start : Edit Known vacant (.map [])

namespace Node.Edit

variable {Known : String → Prop} {a b : Node}

theorem isSection_iff (edit : Edit Known a b) : a.IsSection ↔ b.IsSection := by
  cases edit with
  | reorder perm =>
    simp only [isSection_map_iff, perm.mem_iff]
  | insert plain unknown value entries =>
    simp only [isSection_map_iff, List.forall_mem_cons]
    exact (and_iff_right rfl).symm
  | start => exact iff_of_true .vacant (.map nofun)

theorem under_perm (edit : Edit Known a b) {key : String} (known : Known key) :
    (a.under key).Perm (b.under key) := by
  cases edit with
  | reorder perm => exact Node.under_perm perm key
  | @insert plain name unknown value entries =>
    have other : name ≠ key := by
      rintro rfl
      exact unknown known
    rw [under_cons, if_neg other]
  | start => exact .refl _

end Node.Edit

end WaypointNav.Yaml
