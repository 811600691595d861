/-
  RelatedFilter.Proofs.Settings.Merging

  Overrides merged one set after another.  A merge that fails the check leaves the
  new settings in place, so nothing is kept that an earlier check has found out: the
  next merge checks all settings again, those too that it does not touch.

  Main statement: after each merge a setting has the value that was last given for
  it, and the merge succeeds exactly if all settings have the form that they must
  have (`merges_keep_last_given`).  Two merges come to one of both sets
  (`merge_merge`), so a whole run comes to one merge (`getElem?_mergeAll`).
-/
import RelatedFilter.Proofs.Settings.Layers

namespace RelatedFilter

/-! ## Forms -/

/-- A letter or an underscore, then letters, digits and underscores. -/
def IsName (text : String) : Prop :=
  ∃ c rest, text.toList = c :: rest ∧ (c.isAlpha = true ∨ c = '_')
    ∧ ∀ d ∈ rest, d.isAlphanum = true ∨ d = '_'

theorem isIdentifier_iff {text : String} : isIdentifier text = true ↔ IsName text := by
  unfold IsName isIdentifier
  cases text.toList with
  | nil => simp
  | cons c rest => simp [isNameStart, isNameChar]

/-! ## The form of each setting -/

namespace Settings

namespace Field

/-- The values that a setting may have. -/
def Accepts : Field → String → Prop
  | .baseKind, value => value ≠ ""
  | .baseTable, value | .baseKey, value => IsName value
  | .tablePrefix, value => ∀ c ∈ value.toList, c.isAlphanum = true ∨ c = '_'

/-- The fault of a setting that does not have its form. -/
def fault : Field → Settings → SettingFault
  | .baseKind, _ => .emptyBaseKind
  | .baseTable, s => .invalidBaseTable s.baseTable
  | .baseKey, s => .invalidBaseKey s.baseKey
  | .tablePrefix, s => .invalidTablePrefix s.tablePrefix

theorem exists_iff {p : Field → Prop} :
    (∃ which, p which) ↔ p .baseKind ∨ p .baseTable ∨ p .baseKey ∨ p .tablePrefix := by
  constructor
  · rintro ⟨which, h⟩
    cases which with
    | baseKind => exact .inl h
    | baseTable => exact .inr (.inl h)
    | baseKey => exact .inr (.inr (.inl h))
    | tablePrefix => exact .inr (.inr (.inr h))
  · rintro (h | h | h | h)
    · exact ⟨.baseKind, h⟩
    · exact ⟨.baseTable, h⟩
    · exact ⟨.baseKey, h⟩
    · exact ⟨.tablePrefix, h⟩

end Field

theorem valid_iff_accepts {s : Settings} :
    s.Valid ↔ ∀ which : Field, which.Accepts (which.of s) := by
  constructor
  · intro h which
    cases which with
    | baseKind => exact h.kind
    | baseTable => exact isIdentifier_iff.mp h.table
    | baseKey => exact isIdentifier_iff.mp h.key
    | tablePrefix => exact isTablePrefix_iff.mp h.tablePrefix
  · intro h
    exact ⟨h .baseKind, isIdentifier_iff.mpr (h .baseTable), isIdentifier_iff.mpr (h .baseKey),
      isTablePrefix_iff.mpr (h .tablePrefix)⟩

/-- A fault is found for a setting exactly if its value does not have the form. -/
theorem mem_faults_iff {s : Settings} {fault : SettingFault} :
    fault ∈ s.faults ↔ ∃ which : Field, ¬ which.Accepts (which.of s) ∧ fault = which.fault s := by
  have hkind : s.baseKind.isEmpty = true ↔ ¬ Field.baseKind.Accepts s.baseKind := by
    simp [Field.Accepts]
  simp only [faults, List.mem_append, Field.exists_iff, or_assoc, List.mem_ite_nil_left,
    List.mem_ite_nil_right, List.mem_singleton, hkind, isIdentifier_iff, isTablePrefix_iff]
  rfl

end Settings

/-! ## Sets of overrides -/

namespace Overrides

def nothing : Overrides := ⟨none, none, none, none⟩

/-- What many sets give together: of two values for one setting the later counts. -/
def combined : List Overrides → Overrides
  | [] => nothing
  | o :: later => (combined later).over o

theorem over_nothing_left (o : Overrides) : nothing.over o = o := by
  cases o
  simp [Overrides.over, nothing]

end Overrides

namespace Settings

/-- The value that was last given for a setting. -/
def Field.lastGiven (which : Field) (given : List Overrides) : Option String :=
  given.reverse.findSome? which.given?

theorem Field.given?_combined (which : Field) (given : List Overrides) :
    which.given? (.combined given) = which.lastGiven given := by
  induction given with
  | nil => cases which <;> rfl
  | cons o later ih =>
    rw [Overrides.combined, given?_over, ih, lastGiven, lastGiven, List.reverse_cons,
      List.findSome?_append, List.findSome?_singleton]

/-! ## Runs -/

/-- Merges one set after another.  After each stand the settings, and whether the
    check has found faults. -/
def mergeAll (s : Settings) : List Overrides → List (Settings × Except SettingsError Unit)
  | [] => []
  | o :: later => s.merge o :: (s.merge o).1.mergeAll later

/-- A merge does not depend on what came before but for the settings it found, so two
    of them are one of both sets. -/
theorem merge_merge (s : Settings) (upper lower : Overrides) :
    (s.merge lower).1.merge upper = s.merge (upper.over lower) := by
  unfold merge
  rw [override_override]

theorem length_mergeAll (s : Settings) (given : List Overrides) :
    (s.mergeAll given).length = given.length := by
  induction given generalizing s with
  | nil => rfl
  | cons o later ih => rw [mergeAll, List.length_cons, List.length_cons, ih]

/-- After so many sets the run is where one merge of all of them is. -/
theorem getElem?_mergeAll (s : Settings) {given : List Overrides} {k : Nat}
    (hk : k < given.length) :
    (s.mergeAll given)[k]? = some (s.merge (.combined (given.take (k + 1)))) := by
  induction given generalizing s k with
  | nil => exact absurd hk (Nat.not_lt_zero k)
  | cons o later ih =>
    cases k with
    | zero =>
      rw [mergeAll, List.getElem?_cons_zero, List.take_succ_cons, List.take_zero,
        Overrides.combined, Overrides.combined, Overrides.over_nothing_left]
    | succ k =>
      have hlater : k < later.length := Nat.lt_of_succ_lt_succ hk
      rw [mergeAll, List.getElem?_cons_succ, ih _ hlater, merge_merge, List.take_succ_cons,
        Overrides.combined]

theorem getLast?_mergeAll (s : Settings) {given : List Overrides} (hne : given ≠ []) :
    (s.mergeAll given).getLast? = some (s.merge (.combined given)) := by
  have hpos : 0 < given.length := List.length_pos_iff.mpr hne
  have hlast : given.length - 1 + 1 = given.length := by omega
  rw [List.getLast?_eq_getElem?, length_mergeAll, getElem?_mergeAll s (by omega), hlast,
    List.take_length]

/-! ## The check -/

/-- Settings that a filter can be compiled with: the rows have a kind, their table and
    its key have plain names, and there is a registry under the prefix. -/
structure Usable (s : Settings) : Prop where
  kind : s.base.kind ≠ ""
  table : IsName s.base.table
  key : IsName s.base.key
  registry : ∃ registry, Registry.empty s.tablePrefix = .ok registry

theorem Valid.usable {s : Settings} (h : s.Valid) : s.Usable := by
  refine ⟨h.kind, isIdentifier_iff.mp h.table, isIdentifier_iff.mp h.key, ?_⟩
  rw [Registry.empty, dif_pos h.tablePrefix]
  exact ⟨_, rfl⟩

/-- What is left after sets of overrides were merged, and the result of the last one. -/
structure Merged (s : Settings) (given : List Overrides) (t : Settings)
    (result : Except SettingsError Unit) : Prop where
  /-- A setting has the value that was last given for it, if one was given. -/
  values : ∀ which : Field, which.of t = (which.lastGiven given).getD (which.of s)
  ok_iff : result = .ok () ↔ ∀ which : Field, which.Accepts (which.of t)
  /-- Otherwise the faults are the settings that do not have their form. -/
  faults : (∃ which : Field, ¬ which.Accepts (which.of t)) →
    ∃ faults, result = .error (.invalid faults) ∧
      ∀ name value, (∃ fault ∈ faults, fault.field = name ∧ fault.value = value) ↔
        ∃ which : Field, which.name = name ∧ which.of t = value ∧ ¬ which.Accepts value
  usable : result = .ok () → t.Usable

theorem validate_of_not_valid {s : Settings} (h : ¬ s.Valid) :
    s.validate = .error (.invalid s.faults) := by
  have hfaults : ¬ s.faults.isEmpty = true := by rwa [List.isEmpty_iff, faults_eq_nil_iff]
  rw [validate, if_neg hfaults]

theorem field_fault (which : Field) (s : Settings) : (which.fault s).field = which.name := by
  cases which <;> rfl

/-- A fault tells the value that was refused; an empty kind is all that a kind can be
    refused for. -/
theorem value_fault {which : Field} {s : Settings} (h : ¬ which.Accepts (which.of s)) :
    (which.fault s).value = which.of s := by
  cases which with
  | baseKind => exact (not_not.mp h).symm
  | baseTable => rfl
  | baseKey => rfl
  | tablePrefix => rfl

theorem merged_merge (s : Settings) (given : List Overrides) :
    Merged s given (s.merge (.combined given)).1 (s.merge (.combined given)).2 := by
  have hok : (s.override (.combined given)).validate = .ok () ↔
      (s.override (.combined given)).Valid := validate_eq_ok_iff
  refine ⟨?values, hok.trans valid_iff_accepts, ?faults, fun h => (hok.mp h).usable⟩
  case values =>
    intro which
    rw [← Field.given?_combined]
    exact which.of_override s _
  case faults =>
    rintro ⟨which, hwhich⟩
    have hinvalid : ¬ (s.override (.combined given)).Valid := fun h =>
      hwhich (valid_iff_accepts.mp h which)
    refine ⟨_, validate_of_not_valid hinvalid, fun name value => ?_⟩
    constructor
    · rintro ⟨fault, hfault, rfl, rfl⟩
      obtain ⟨which, hrefused, rfl⟩ := mem_faults_iff.mp hfault
      have hvalue := value_fault hrefused
      exact ⟨which, (field_fault which _).symm, hvalue.symm, hvalue ▸ hrefused⟩
    · rintro ⟨which, rfl, rfl, hrefused⟩
      exact ⟨_, mem_faults_iff.mpr ⟨which, hrefused, rfl⟩, field_fault which _,
        value_fault hrefused⟩

/-- Settings that were made without a fault are usable, too. -/
theorem usable_of_checked {s t : Settings} (h : s.checked = .ok t) : t.Usable := by
  obtain ⟨hvalid, rfl⟩ := checked_eq_ok_iff.mp h
  exact hvalid.usable

theorem usable_of_loadWith {yaml : Yaml.Reader} {files : Files} {path : String} {t : Settings}
    (h : loadWith yaml files path = .ok t) : t.Usable := by
  simp only [loadWith] at h
  split at h
  · cases h
  · split at h
    · cases h
    · exact usable_of_checked h

/-- Whatever failed before, after each merge the last values count, and they alone
    decide whether it succeeds; a run of merges comes to one.  Settings that were last
    made or merged without a fault are usable. -/
theorem merges_keep_last_given (s : Settings) (given : List Overrides) :
    (s.mergeAll given).length = given.length
      ∧ (∀ k t result, (s.mergeAll given)[k]? = some (t, result) →
          Merged s (given.take (k + 1)) t result)
      ∧ (given ≠ [] → (s.mergeAll given).getLast? = some (s.merge (.combined given)))
      ∧ (∀ value? t, ofEnvironment value? = .ok t → t.Usable)
      ∧ (∀ yaml files path t, loadWith yaml files path = .ok t → t.Usable)
      ∧ default.Usable := by
  refine ⟨length_mergeAll s given, ?each, getLast?_mergeAll s, fun _ _ => usable_of_checked,
    fun _ _ _ _ => usable_of_loadWith, ?default⟩
  case each =>
    intro k t result hk
    have hlt : k < given.length := by
      rw [← length_mergeAll s given]
      exact (List.getElem?_eq_some_iff.mp hk).1
    rw [getElem?_mergeAll s hlt, Option.some.injEq] at hk
    obtain ⟨rfl, rfl⟩ := Prod.mk.inj hk
    exact merged_merge s _
  case default =>
    have hvalid : default.Valid := ⟨by decide, by decide, by decide, by decide⟩
    exact hvalid.usable

/-- Settings that were bad from the start, and a merge that failed, are both mended by
    a later merge. -/
theorem merges_keep_last_given_mended :
    Merged ⟨"", "wp_posts", "ID", "wp_"⟩
      [⟨none, none, some "ID)", none⟩, ⟨some "car", none, none, some ""⟩,
        ⟨none, none, some "post_id", none⟩]
      ⟨"car", "wp_posts", "post_id", ""⟩ (.ok ())
      ∧ Merged ⟨"", "wp_posts", "ID", "wp_"⟩
        [⟨none, none, some "ID)", none⟩, ⟨some "car", none, none, some ""⟩]
        ⟨"car", "wp_posts", "ID)", ""⟩ (.error (.invalid [.invalidBaseKey "ID)"])) := by
  have hruns := (merges_keep_last_given ⟨"", "wp_posts", "ID", "wp_"⟩
    [⟨none, none, some "ID)", none⟩, ⟨some "car", none, none, some ""⟩,
      ⟨none, none, some "post_id", none⟩]).2.1
  exact ⟨hruns 2 _ _ (by rfl), hruns 1 _ _ (by rfl)⟩

/-- The kind of the rows need not have a plain name: any kind but the empty one passes
    the check, and is handed on with the table and the key. -/
theorem kind_need_be_no_name :
    (default.merge ⟨some "a b'; --", none, none, none⟩).2 = .ok ()
      ∧ (default.merge ⟨some "a b'; --", none, none, none⟩).1.base.kind = "a b'; --"
      ∧ ¬ IsName (default.merge ⟨some "a b'; --", none, none, none⟩).1.base.kind := by
  refine ⟨by decide, rfl, ?_⟩
  rw [← isIdentifier_iff]
  decide

end Settings
end RelatedFilter
