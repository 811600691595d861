/-
  RelatedFilter.Proofs.Settings.Layers

  Settings in layers.  Each source of settings gives some of them and leaves the
  others open; what the upper layer leaves open is taken from the one below, and in
  the end from the defaults.  That each source is read without regard to the others,
  with checks in between, comes to the same (`loadWith_eq_ok`, `ofEnvironment_eq_ok`).
-/
import RelatedFilter.Proofs.Query.Fragment
import RelatedFilter.Proofs.Yaml.Record
import RelatedFilter.Registry.Manifest
import RelatedFilter.Settings

namespace RelatedFilter

/-! ## The check -/

namespace Settings

/-- Settings that pass the check. -/
structure Valid (s : Settings) : Prop where
  kind : s.baseKind ≠ ""
  table : isIdentifier s.baseTable = true
  key : isIdentifier s.baseKey = true
  tablePrefix : isTablePrefix s.tablePrefix = true

theorem Valid.plain {s : Settings} (h : s.Valid) : s.base.Plain :=
  ⟨h.table, h.key⟩

theorem faults_eq_nil_iff {s : Settings} : s.faults = [] ↔ s.Valid := by
  simp only [faults, List.append_eq_nil_iff, ite_eq_left_iff, ite_eq_right_iff, reduceCtorEq,
    imp_false, Bool.not_eq_true, Bool.not_eq_false, String.isEmpty_iff, and_assoc]
  constructor
  · rintro ⟨hkind, htable, hkey, hstem⟩
    exact ⟨hkind, htable, hkey, hstem⟩
  · intro h
    exact ⟨h.kind, h.table, h.key, h.tablePrefix⟩

theorem validate_eq_ok_iff {s : Settings} : s.validate = .ok () ↔ s.Valid := by
  rw [← faults_eq_nil_iff, ← List.isEmpty_iff, validate]
  by_cases hfaults : s.faults.isEmpty = true
  · rw [if_pos hfaults]
    exact iff_of_true rfl hfaults
  · rw [if_neg hfaults]
    exact iff_of_false (by simp) hfaults

/-- Settings that pass the check stay as they are. -/
theorem checked_eq_ok_iff {s t : Settings} : s.checked = .ok t ↔ s.Valid ∧ s = t := by
  rw [← validate_eq_ok_iff, checked, bind_eq_ok_iff]
  constructor
  · rintro ⟨_, hvalid, hsame⟩
    exact ⟨hvalid, Except.ok.inj hsame⟩
  · rintro ⟨hvalid, rfl⟩
    exact ⟨_, hvalid, rfl⟩

end Settings

/-! ## The four settings -/

namespace Settings

/-- Which setting. -/
inductive Field where
  | baseKind
  | baseTable
  | baseKey
  | tablePrefix
deriving DecidableEq, Repr

namespace Field

/-- The name of a setting in a file. -/
def name : Field → String
  | .baseKind => "base_kind"
  | .baseTable => "base_table"
  | .baseKey => "base_key"
  | .tablePrefix => "table_prefix"

/-- The name of its variable. -/
def variableName : Field → String
  | .baseKind => "RELQUERY_BASE_KIND"
  | .baseTable => "RELQUERY_BASE_TABLE"
  | .baseKey => "RELQUERY_BASE_KEY"
  | .tablePrefix => "RELQUERY_TABLE_PREFIX"

/-- The value of a setting. -/
def of : Field → Settings → String
  | .baseKind, s => s.baseKind
  | .baseTable, s => s.baseTable
  | .baseKey, s => s.baseKey
  | .tablePrefix, s => s.tablePrefix

/-- The value that is given for a setting. -/
def given? : Field → Overrides → Option String
  | .baseKind, o => o.baseKind
  | .baseTable, o => o.baseTable
  | .baseKey, o => o.baseKey
  | .tablePrefix, o => o.tablePrefix

/-- Settings are told by their values. -/
theorem ext_of {s t : Settings} (h : ∀ which : Field, which.of s = which.of t) : s = t := by
  obtain ⟨kind, table, key, stem⟩ := s
  obtain ⟨kind', table', key', stem'⟩ := t
  obtain rfl : kind = kind' := h .baseKind
  obtain rfl : table = table' := h .baseTable
  obtain rfl : key = key' := h .baseKey
  obtain rfl : stem = stem' := h .tablePrefix
  rfl

theorem of_override (which : Field) (s : Settings) (o : Overrides) :
    which.of (s.override o) = (which.given? o).getD (which.of s) := by
  cases which <;> rfl

end Field
end Settings

/-! ## Layers -/

namespace Overrides

/-- What is given for each of the settings. -/
def each (value? : Settings.Field → Option String) : Overrides :=
  ⟨value? .baseKind, value? .baseTable, value? .baseKey, value? .tablePrefix⟩

theorem given?_each (which : Settings.Field) (value? : Settings.Field → Option String) :
    which.given? (each value?) = value? which := by
  cases which <;> rfl

/-- What an environment gives. -/
def inEnvironment (value? : String → Option String) : Overrides :=
  each fun which => value? which.variableName

/-- What the document of a settings file gives. -/
def inDocument (document : Yaml.Node) : Overrides :=
  each fun which => (document.under? which.name).bind Yaml.Node.scalar?

end Overrides

/-- What two layers give together: the upper one counts. -/
def Overrides.over (upper lower : Overrides) : Overrides :=
  ⟨upper.baseKind.or lower.baseKind, upper.baseTable.or lower.baseTable,
    upper.baseKey.or lower.baseKey, upper.tablePrefix.or lower.tablePrefix⟩

namespace Settings

theorem Field.given?_over (which : Field) (upper lower : Overrides) :
    which.given? (upper.over lower) = (which.given? upper).or (which.given? lower) := by
  cases which <;> rfl

/-- Settings that are replaced twice are replaced by both layers at once. -/
theorem override_override (s : Settings) (upper lower : Overrides) :
    (s.override lower).override upper = s.override (upper.over lower) := by
  simp only [override, Overrides.over, Option.getD_or]

theorem ofEnvironment_eq_ok {value? : String → Option String} {s : Settings}
    (h : ofEnvironment value? = .ok s) :
    s = default.override (.inEnvironment value?) :=
  (checked_eq_ok_iff.mp h).2.symm

/-! ## Files -/

/-- The names of the settings in a file. -/
def names : List String := ["base_kind", "base_table", "base_key", "table_prefix"]

/-- Replaces the setting with a name. -/
def replace (name value : String) (s : Settings) : Settings :=
  if name = "base_kind" then { s with baseKind := value }
  else if name = "base_table" then { s with baseTable := value }
  else if name = "base_key" then { s with baseKey := value }
  else { s with tablePrefix := value }

theorem readEntry_eq_ok {name : String} {node : Yaml.Node} {s t : Settings}
    (h : readEntry name node s = .ok t) :
    ∃ value, node.scalar? = some value ∧ t = s.replace name value := by
  obtain ⟨value, hvalue, h⟩ := bind_eq_ok_iff.mp h
  have hreplace : (pure (s.replace name value) : Except Yaml.Fault Settings) = .ok t := by
    simpa only [replace, beq_iff_eq, apply_ite pure] using h
  exact ⟨value, Yaml.text_eq_ok hvalue, (Except.ok.inj hreplace).symm⟩

/-- A setting that is replaced has the value, and the others have theirs. -/
theorem Field.of_replace (which : Field) {name : String} (hname : name ∈ names) (value : String)
    (s : Settings) :
    which.of (s.replace name value) = if name = which.name then value else which.of s := by
  simp only [names, List.mem_cons, List.not_mem_nil, or_false] at hname
  rcases hname with rfl | rfl | rfl | rfl <;> cases which <;> rfl

theorem Field.name_mem_names (which : Field) : which.name ∈ names := by
  cases which <;> decide

/-- Each setting is a field of the file. -/
theorem Field.takesField (which : Field) :
    Yaml.TakesField names readEntry which.name which.of Yaml.Node.scalar? where
  isKnown := which.name_mem_names
  sets h := by
    obtain ⟨value, hvalue, rfl⟩ := readEntry_eq_ok h
    rw [hvalue, which.of_replace which.name_mem_names, if_pos rfl]
  keeps hother hne h := by
    obtain ⟨value, -, rfl⟩ := readEntry_eq_ok h
    rw [which.of_replace hother, if_neg hne]

/-- A settings file gives what stands under the names of the settings. -/
theorem ofYamlWith_eq_ok {yaml : Yaml.Reader} {text : String} {s : Settings}
    (h : ofYamlWith yaml text = .ok s) :
    s = default.override (.inDocument (yaml text).first) := by
  have hrecord : Yaml.record "CompilerConfig" names readEntry [] default (yaml text).first
      = .ok s := Yaml.read_eq_ok h
  refine Field.ext_of fun which => ?_
  rw [which.takesField.record hrecord, Field.of_override, Overrides.inDocument,
    Overrides.given?_each]

/-- Settings from a file are those that its document gives, and defaults for the others. -/
theorem loadWith_eq_ok {yaml : Yaml.Reader} {files : Files} {path : String} {s : Settings}
    (h : loadWith yaml files path = .ok s) :
    ∃ text, files.readText path = .ok text ∧
      s = default.override (.inDocument (yaml text).first) := by
  simp only [loadWith] at h
  split at h
  · cases h
  · rename_i text htext
    split at h
    · cases h
    · rename_i settings hread
      obtain ⟨-, rfl⟩ := checked_eq_ok_iff.mp h
      exact ⟨text, htext, ofYamlWith_eq_ok hread⟩

end Settings

/-! ## Registry files -/

namespace Manifest

/-- The prefix of a registry file is what stands under its name, unless that is nothing. -/
theorem tablePrefix_of_ofYamlWith {yaml : Yaml.Reader} {text : String} {m : Manifest}
    (h : ofYamlWith yaml text = .ok m) :
    m.tablePrefix = ((yaml text).first.under? "table_prefix").bind Yaml.Node.given? := by
  have hread : Yaml.record "RegistryConfig" ["table_prefix", "relationships"] readEntry []
      ⟨none, []⟩ (yaml text).first = .ok m := Yaml.read_eq_ok (mapError_eq_ok_iff.mp h)
  have hfield : Yaml.TakesField ["table_prefix", "relationships"] readEntry "table_prefix"
      tablePrefix (some ∘ Yaml.Node.given?) := by
    constructor
    case isKnown => decide
    case sets =>
      intro node m m' htake
      obtain ⟨value, hvalue, htake⟩ := bind_eq_ok_iff.mp htake
      cases htake
      simp [Yaml.optionalText_eq_ok hvalue]
    case keeps =>
      intro other node m m' _ hne htake
      simp only [readEntry, beq_eq_false_iff_ne.mpr hne, Bool.false_eq_true, if_false] at htake
      obtain ⟨value, -, htake⟩ := bind_eq_ok_iff.mp htake
      cases htake
      rfl
  rw [hfield.record hread]
  cases (yaml text).first.under? "table_prefix" <;> rfl

end Manifest
end RelatedFilter
