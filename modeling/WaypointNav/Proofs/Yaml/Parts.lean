import WaypointNav.Proofs.Yaml.Section

/-! Documents in parts. A record is told by tables of the settings of its parts, and whatever is read by them
is the same after an edit that the tables do not know of. -/
namespace WaypointNav.Yaml

variable {γ : Type}

structure Setting (γ : Type) : Type 1 where
  {Value : Type}
  key : String
  read : Node → Except Flaw Value
  get : γ → Value

section Sections

variable {settings : List (Setting γ)} {base value : γ} {sections others : List Node}

/-- What the sections of one name say: there is at most one, and each setting is the value under its key in it,
or that of `base`. -/
structure Tells (settings : List (Setting γ)) (base : γ) (sections : List Node) (value : γ) : Prop where
  once : sections.length ≤ 1
  isSection : ∀ node ∈ sections, node.IsSection
  setting : ∀ setting ∈ settings, Written setting.read (setting.get base)
    (sections.flatMap (·.under setting.key)) (setting.get value)

/-- A section is read setting by setting, and nothing else is in the record. -/
structure ReadsSection (settings : List (Setting γ)) (base : γ) (read : Node → Except Flaw γ) :
    Prop where
  complete : ∀ {a b : γ}, (∀ setting ∈ settings, setting.get a = setting.get b) → a = b
  ok_iff : ∀ {node : Node} {value : γ}, read node = .ok value ↔ node.IsSection ∧
    ∀ setting ∈ settings,
      Written setting.read (setting.get base) (node.under setting.key) (setting.get value)

theorem ReadsSection.written_iff {read : Node → Except Flaw γ}
    (reads : ReadsSection settings base read) :
    Written read base sections value ↔ Tells settings base sections value := by
  match sections with
  | [] =>
    rw [written_nil_iff]
    constructor
    · rintro rfl
      exact ⟨zero_le_one, nofun, fun _ _ => .absent⟩
    · intro tells
      exact reads.complete fun setting mem => written_nil_iff.mp (tells.setting setting mem)
  | [node] =>
    constructor
    · rintro (_ | ok)
      obtain ⟨isSection, written⟩ := reads.ok_iff.mp ok
      exact ⟨le_rfl, by simpa using isSection, by simpa using written⟩
    · intro tells
      refine .once (reads.ok_iff.mpr ⟨tells.isSection node List.mem_cons_self, ?_⟩)
      simpa using tells.setting
  | _ :: _ :: _ => exact iff_of_false nofun fun tells => absurd tells.once (by simp)

structure Same (settings : List (Setting γ)) (sections others : List Node) : Prop where
  length_eq : sections.length = others.length
  isSection_iff : (∀ node ∈ sections, node.IsSection) ↔ ∀ node ∈ others, node.IsSection
  under_perm : ∀ setting ∈ settings, (sections.flatMap (·.under setting.key)).Perm
    (others.flatMap (·.under setting.key))

theorem Same.symm (same : Same settings sections others) : Same settings others sections where
  length_eq := same.length_eq.symm
  isSection_iff := same.isSection_iff.symm
  under_perm setting mem := (same.under_perm setting mem).symm

theorem Same.tells (same : Same settings sections others) (tells : Tells settings base sections value) :
    Tells settings base others value where
  once := same.length_eq ▸ tells.once
  isSection := same.isSection_iff.mp tells.isSection
  setting setting mem := (tells.setting setting mem).perm (same.under_perm setting mem)

theorem same_of_perm (perm : sections.Perm others) : Same settings sections others where
  length_eq := perm.length_eq
  isSection_iff := by simp only [perm.mem_iff]
  under_perm _ _ := perm.flatMap_right _

/-- An edit within one of the sections. -/
theorem same_of_edit {Known : String → Prop} {a b : Node} (edit : Node.Edit Known a b)
    (known : ∀ setting ∈ settings, Known setting.key) (before after : List Node) :
    Same settings (before ++ a :: after) (before ++ b :: after) where
  length_eq := by simp
  isSection_iff := by simp [or_imp, forall_and, edit.isSection_iff]
  under_perm setting mem := by
    simp only [List.flatMap_append, List.flatMap_cons]
    exact ((edit.under_perm (known setting mem)).append_right _).append_left _

end Sections

section Documents

structure DocumentPart (γ : Type) : Type 1 where
  {Value : Type}
  name : String
  settings : List (Setting Value)
  base : Value
  get : γ → Value

variable {parts : List (DocumentPart γ)} {root a b : Node} {value : γ}

structure Told (parts : List (DocumentPart γ)) (root : Node) (value : γ) : Prop where
  isSection : root.IsSection
  part : ∀ part ∈ parts,
    Tells part.settings part.base (root.under part.name) (part.get value)

theorem told_iff : Told parts root value ↔ root.IsSection ∧
    ∀ part ∈ parts, Tells part.settings part.base (root.under part.name) (part.get value) :=
  ⟨fun told => ⟨told.isSection, told.part⟩, fun ⟨isSection, part⟩ => ⟨isSection, part⟩⟩

def KnownPart (parts : List (DocumentPart γ)) (name : String) : Prop :=
  ∃ part ∈ parts, part.name = name

def KnownSetting (parts : List (DocumentPart γ)) (name key : String) : Prop :=
  ∃ part ∈ parts, part.name = name ∧ ∃ setting ∈ part.settings, setting.key = key

/-- An edit of the entries of a document, or of those of a section in it. -/
inductive Edit (parts : List (DocumentPart γ)) : Node → Node → Prop
  | root {a b : Node} (edit : Node.Edit (KnownPart parts) a b) : Edit parts a b
  | within (plain : Bool) (name : String) {a b : Node} (edit : Node.Edit (KnownSetting parts name) a b)
    (before after : List (Node × Node)) :
    Edit parts (.map (before ++ (.scalar plain name, a) :: after))
      (.map (before ++ (.scalar plain name, b) :: after))

structure Alike (parts : List (DocumentPart γ)) (a b : Node) : Prop where
  isSection_iff : a.IsSection ↔ b.IsSection
  same : ∀ part ∈ parts, Same part.settings (a.under part.name) (b.under part.name)

theorem Alike.symm (alike : Alike parts a b) : Alike parts b a where
  isSection_iff := alike.isSection_iff.symm
  same part mem := (alike.same part mem).symm

theorem Alike.told (alike : Alike parts a b) (told : Told parts a value) : Told parts b value where
  isSection := alike.isSection_iff.mp told.isSection
  part part mem := (alike.same part mem).tells (told.part part mem)

/-- Documents that are told apart by unknown entries only. -/
theorem alike_of_under_eq (isSection_iff : a.IsSection ↔ b.IsSection)
    (under_eq : ∀ part ∈ parts, a.under part.name = b.under part.name) : Alike parts a b :=
  ⟨isSection_iff, fun part mem => under_eq part mem ▸ same_of_perm (.refl _)⟩

theorem Edit.alike (edit : Edit parts a b) : Alike parts a b := by
  cases edit with
  | root edit =>
    exact ⟨edit.isSection_iff, fun part mem => same_of_perm (edit.under_perm ⟨part, mem, rfl⟩)⟩
  | within plain name edit before after =>
    refine ⟨Node.isSection_value_iff .., fun part mem => ?_⟩
    simp only [Node.under_append, Node.under_cons]
    split
    · next here =>
      subst here
      exact same_of_edit edit (fun setting found => ⟨part, mem, rfl, setting, found, rfl⟩) _ _
    · exact same_of_perm (.refl _)

end Documents

section Reading

variable {parts : List (DocumentPart γ)} {read : Node → Except Flaw γ} {a b : Node}

/-- Reading two alike documents gives the same record, or none of either. -/
theorem Alike.read_eq (reads : ∀ root value, read root = .ok value ↔ Told parts root value)
    (alike : Alike parts a b) : (read a).toOption = (read b).toOption :=
  toOption_eq fun value => by
    rw [reads, reads]
    exact ⟨alike.told, alike.symm.told⟩

/-- A sequence of edits, done or undone. -/
theorem edited_read (reads : ∀ root value, read root = .ok value ↔ Told parts root value)
    (edited : Relation.EqvGen (Edit parts) a b) : (read a).toOption = (read b).toOption := by
  induction edited with
  | rel a b edit => exact edit.alike.read_eq reads
  | refl a => rfl
  | symm a b _ ih => exact ih.symm
  | trans a b c _ _ first second => exact first.trans second

end Reading

end WaypointNav.Yaml
