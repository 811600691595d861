/-
  RelatedFilter.Proofs.Registry.Loading

  Registries that are read from files.  A file is loaded definition by definition,
  up to the first that fails, yet whether it loads, and what the registry is, does
  not depend on their order (`manifest_loads_as_written`): each definition has to be
  complete and no two may be about the same link.  A file that does not load fails
  with the fault of its prefix, or else of the first definition up to which it does
  not load.
-/
import RelatedFilter.Proofs.Registry.Listing
import RelatedFilter.Registry.Manifest

namespace RelatedFilter

open Relationship (Key)

/-! ## Histories without a failure -/

namespace Registry

variable {registry : Registry} {r : Relationship}

/-- No definition of a history fails. -/
def AllSucceed (registry : Registry) (history : List Relationship) : Prop :=
  registry.succeeded history = history

theorem succeeded_sublist (registry : Registry) (history : List Relationship) :
    (registry.succeeded history).Sublist history := by
  induction history generalizing registry with
  | nil => exact .slnil
  | cons r rest ih =>
    simp only [succeeded]
    split
    · exact (ih _).cons_cons r
    · exact (ih _).cons r

theorem allSucceed_cons_iff {rest : List Relationship} :
    registry.AllSucceed (r :: rest) ↔
      (∃ defined, registry.define r = .ok defined) ∧ (registry.attempt r).AllSucceed rest := by
  simp only [AllSucceed, succeeded]
  cases registry.define r with
  | ok defined => simp
  | error cause =>
    simp only [reduceCtorEq, exists_false, false_and, iff_false]
    -- too few definitions are left
    intro hall
    have hlength := (succeeded_sublist (registry.attempt r) rest).length_le
    rw [hall, List.length_cons] at hlength
    omega

theorem mem_attempt_iff (h : ∃ defined, registry.define r = .ok defined) {s : Relationship} :
    s ∈ (registry.attempt r).relationships ↔ s = r ∨ s ∈ registry.relationships := by
  obtain ⟨⟨schema, next⟩, h⟩ := h
  obtain ⟨-, free, -, hnext⟩ := define_eq_ok_iff.mp h
  rw [attempt_of_ok h, hnext]
  exact mem_insertByKey

/-- No definition fails if all of them have their names and each link is new. -/
theorem allSucceed_iff (registry : Registry) (history : List Relationship) :
    registry.AllSucceed history ↔
      (∀ r ∈ history, r.Named) ∧ history.Pairwise (fun r s => ¬ r.SameLink s) ∧
        ∀ r ∈ history, ∀ s ∈ registry.relationships, ¬ s.SameLink r := by
  -- behind the first definition the registry keeps one link more: that this link is new to
  -- all later definitions is what the head of `Pairwise` says
  induction history generalizing registry with
  | nil => simp [AllSucceed, succeeded]
  | cons r rest ih =>
    rw [allSucceed_cons_iff, List.forall_mem_cons, List.pairwise_cons, List.forall_mem_cons]
    constructor
    · rintro ⟨hdefined, hrest⟩
      obtain ⟨hnamed, hnew⟩ := define_succeeds_iff.mp hdefined
      obtain ⟨hnames, hapart, hfree⟩ := (ih _).mp hrest
      refine ⟨⟨hnamed, hnames⟩, ⟨?_, hapart⟩, hnew, ?_⟩
      · intro s hs
        exact hfree s hs r ((mem_attempt_iff hdefined).mpr (.inl rfl))
      · intro s hs t ht
        exact hfree s hs t ((mem_attempt_iff hdefined).mpr (.inr ht))
    · rintro ⟨⟨hnamed, hnames⟩, ⟨hfirst, hapart⟩, hnew, hfree⟩
      have hdefined := define_succeeds_iff.mpr ⟨hnamed, hnew⟩
      refine ⟨hdefined, (ih _).mpr ⟨hnames, hapart, ?_⟩⟩
      intro s hs t ht
      rcases (mem_attempt_iff hdefined).mp ht with rfl | ht
      · exact hfirst s hs
      · exact hfree s hs t ht

/-! ## Any order -/

/-- Registries that keep the same relationships under one prefix are the same. -/
theorem eq_of_perm {registry other : Registry} (hstem : registry.tablePrefix = other.tablePrefix)
    (h : registry.relationships.Perm other.relationships) : registry = other := by
  have hsame : registry.relationships = other.relationships := by
    -- both are ascending, so none of them can stand in another order
    refine h.eq_of_pairwise ?_ registry.ascending other.ascending
    intro r s _ _ hrs hsr
    exact absurd (Key.lt_trans hrs hsr) (Key.lt_irrefl _)
  cases registry
  cases other
  simp_all

theorem allSucceed_concat_iff {history : List Relationship} :
    registry.AllSucceed (history ++ [r]) ↔ registry.AllSucceed history ∧
      ∃ defined, (registry.attemptAll history).define r = .ok defined := by
  induction history generalizing registry with
  | nil =>
    have hnil : ∀ start : Registry, start.AllSucceed [] := fun _ => rfl
    simp [allSucceed_cons_iff, hnil, attemptAll]
  | cons s rest ih =>
    rw [List.cons_append, allSucceed_cons_iff, allSucceed_cons_iff, ih, and_assoc]
    rfl

theorem AllSucceed.sublist {history history' : List Relationship} (h : registry.AllSucceed history)
    (hsub : history'.Sublist history) : registry.AllSucceed history' := by
  rw [allSucceed_iff] at h ⊢
  obtain ⟨hnames, hapart, hfree⟩ := h
  exact ⟨fun r hr => hnames r (hsub.subset hr), hapart.sublist hsub,
    fun r hr => hfree r (hsub.subset hr)⟩

theorem AllSucceed.perm {history history' : List Relationship} (h : registry.AllSucceed history)
    (hperm : history.Perm history') : registry.AllSucceed history' := by
  rw [allSucceed_iff] at h ⊢
  obtain ⟨hnames, hapart, hfree⟩ := h
  refine ⟨?_, hapart.perm hperm fun hrs hsr => hrs hsr.symm, ?_⟩
  · exact fun r hr => hnames r (hperm.mem_iff.mpr hr)
  · exact fun r hr => hfree r (hperm.mem_iff.mpr hr)

/-- Definitions of which none fails lead to one registry in whatever order. -/
theorem AllSucceed.attemptAll_eq {history history' : List Relationship}
    (h : registry.AllSucceed history) (hperm : history.Perm history') :
    registry.attemptAll history' = registry.attemptAll history := by
  have hkept := perm_attemptAll registry history
  have hkept' := perm_attemptAll registry history'
  rw [h] at hkept
  rw [h.perm hperm] at hkept'
  refine eq_of_perm (by rw [tablePrefix_attemptAll, tablePrefix_attemptAll]) ?_
  exact hkept'.trans ((hperm.symm.append_left registry.relationships).trans hkept.symm)

end Registry

/-! ## Definitions in a file -/

namespace Definition

/-- The kind of object that a definition leads to, unless it is left out. -/
def target? (d : Definition) : Option String :=
  match d.kind with
  | .postToPost => d.toKind
  | .postToUser => some "user"

/-- The relationship of a definition, to a kind without a name if it is left out. -/
def asWritten (d : Definition) : Relationship :=
  match d.kind with
  | .postToPost => .postToPost d.fromKind (d.toKind.getD "") d.typeName
  | .postToUser => .postToUser d.fromKind d.typeName

/-- A definition with all the names that it needs. -/
structure Complete (d : Definition) : Prop where
  fromKind : d.fromKind ≠ ""
  typeName : d.typeName ≠ ""
  toKind : d.kind = .postToPost → ∃ toKind, d.toKind = some toKind ∧ toKind ≠ ""

/-- Two definitions of the same link. -/
inductive Clash : Definition → Definition → Prop
  | postToPost {a b c d t : String} (h : s(a, b) = s(c, d)) :
      Clash ⟨.postToPost, a, some b, t⟩ ⟨.postToPost, c, some d, t⟩
  | postToUser {a t : String} {toKind toKind' : Option String} :
      Clash ⟨.postToUser, a, toKind, t⟩ ⟨.postToUser, a, toKind', t⟩

/-- Two definitions that mean the same, since they differ at most in where they say that
    links to users lead to. -/
structure SameMeaning (d e : Definition) : Prop where
  kind : d.kind = e.kind
  fromKind : d.fromKind = e.fromKind
  typeName : d.typeName = e.typeName
  toKind : d.kind = .postToPost → d.toKind = e.toKind

@[simp] theorem fromKind_asWritten (d : Definition) : d.asWritten.fromKind = d.fromKind := by
  rw [asWritten]
  split <;> rfl

@[simp] theorem typeName_asWritten (d : Definition) : d.asWritten.typeName = d.typeName := by
  rw [asWritten]
  split <;> rfl

theorem toKind_asWritten (d : Definition) : d.asWritten.toKind = d.target?.getD "" := by
  rw [asWritten, target?]
  split <;> rfl

/-- A definition stands for its relationship, unless it leaves out where it leads to. -/
theorem relationship_eq (d : Definition) (position : Nat) :
    d.relationship position =
      if d.target? = none then .error (.missingTarget position d.typeName)
      else .ok d.asWritten := by
  rw [relationship, asWritten, target?]
  cases d.kind with
  | postToPost => cases d.toKind <;> rfl
  | postToUser => rfl

theorem SameMeaning.relationship_eq {d e : Definition} (h : d.SameMeaning e) (position : Nat) :
    d.relationship position = e.relationship position := by
  rw [relationship, relationship, ← h.kind, ← h.fromKind, ← h.typeName]
  cases hkind : d.kind with
  | postToPost => rw [h.toKind hkind]
  | postToUser => rfl

theorem complete_iff {d : Definition} : d.Complete ↔ d.asWritten.Named := by
  rw [Relationship.Named, fromKind_asWritten, typeName_asWritten, toKind_asWritten, target?]
  cases hkind : d.kind with
  | postToPost =>
    constructor
    · rintro ⟨hfrom, htype, htarget⟩
      obtain ⟨toKind, hsome, hne⟩ := htarget hkind
      exact ⟨hfrom, by rw [hsome]; exact hne, htype⟩
    · rintro ⟨hfrom, hne, htype⟩
      cases htarget : d.toKind with
      | none => exact absurd (by rw [htarget]; rfl) hne
      | some toKind =>
        rw [htarget] at hne
        exact ⟨hfrom, htype, fun _ => ⟨toKind, htarget, hne⟩⟩
  | postToUser =>
    constructor
    · have huser : "user" ≠ "" := by decide
      exact fun h => ⟨h.fromKind, huser, h.typeName⟩
    · rintro ⟨hfrom, -, htype⟩
      exact ⟨hfrom, htype, fun hpost => by rw [hkind] at hpost; cases hpost⟩

/-- Complete definitions say where they lead to. -/
theorem Complete.target?_ne_none {d : Definition} (h : d.Complete) : d.target? ≠ none := by
  intro hnone
  have hnamed := (complete_iff.mp h).2.1
  rw [toKind_asWritten, hnone] at hnamed
  exact hnamed rfl

theorem clash_iff {d e : Definition} (hd : d.target? ≠ none) (he : e.target? ≠ none) :
    d.Clash e ↔ d.asWritten.SameLink e.asWritten := by
  obtain ⟨kind, a, toKind, t⟩ := d
  obtain ⟨kind', c, toKind', u⟩ := e
  constructor
  · intro h
    cases h with
    | postToPost hpair => exact ⟨hpair, rfl⟩
    | postToUser => exact ⟨rfl, rfl⟩
  · intro h
    cases kind with
    | postToPost =>
      cases kind' with
      | postToPost =>
        obtain ⟨b, rfl⟩ := Option.ne_none_iff_exists'.mp hd
        obtain ⟨d, rfl⟩ := Option.ne_none_iff_exists'.mp he
        obtain ⟨hpair, rfl⟩ := h
        exact .postToPost hpair
      | postToUser => cases h
    | postToUser =>
      cases kind' with
      | postToPost => cases h
      | postToUser =>
        obtain ⟨rfl, rfl⟩ := h
        exact .postToUser

end Definition

/-! ## Loading step by step -/

namespace Manifest

/-- Why a definition at a place of a file cannot be added, if it cannot. -/
def refusal? (registry : Registry) (position : Nat) (d : Definition) : Option RegistryError :=
  if d.target? = none then some (.missingTarget position d.typeName)
  else
    match registry.define d.asWritten with
    | .ok _ => none
    | .error cause => some cause

theorem defineAll_cons (registry : Registry) (position : Nat) (d : Definition)
    (rest : List Definition) :
    defineAll registry position (d :: rest) =
      match refusal? registry position d with
      | some cause => .error cause
      | none => defineAll (registry.attempt d.asWritten) (position + 1) rest := by
  rw [defineAll, Definition.relationship_eq, refusal?]
  split
  · rfl
  · show (registry.define d.asWritten >>= fun defined => defineAll defined.2 (position + 1) rest) = _
    rw [Registry.attempt]
    cases registry.define d.asWritten <;> rfl

/-- A definition is added exactly if its relationship can be defined. -/
theorem refusal?_eq_none_iff {registry : Registry} {position : Nat} {d : Definition} :
    refusal? registry position d = none ↔
      ∃ defined, registry.define d.asWritten = .ok defined := by
  rw [refusal?]
  split
  · rename_i htarget
    -- a definition that leads nowhere has not all of its names
    refine iff_of_false (by simp) fun hdefined => ?_
    have hnamed := (Registry.define_succeeds_iff.mp hdefined).1
    exact (Definition.complete_iff.mpr hnamed).target?_ne_none htarget
  · cases registry.define d.asWritten <;> simp

theorem not_define_of_refusal {registry : Registry} {position : Nat} {d : Definition}
    {cause : RegistryError} (h : refusal? registry position d = some cause) :
    ¬ ∃ defined, registry.define d.asWritten = .ok defined := by
  intro hdefined
  rw [refusal?_eq_none_iff.mpr hdefined] at h
  cases h

/-- Definitions load if none of their relationships fails, to the registry after these. -/
theorem defineAll_eq_ok_iff (registry next : Registry) (position : Nat)
    (definitions : List Definition) :
    defineAll registry position definitions = .ok next ↔
      registry.AllSucceed (definitions.map (·.asWritten)) ∧
        registry.attemptAll (definitions.map (·.asWritten)) = next := by
  induction definitions generalizing registry position with
  | nil => simp [defineAll, Registry.AllSucceed, Registry.succeeded, Registry.attemptAll]
  | cons d rest ih =>
    rw [List.map_cons, Registry.allSucceed_cons_iff, defineAll_cons]
    cases hrefusal : refusal? registry position d with
    | none =>
      simp only [ih, refusal?_eq_none_iff.mp hrefusal, true_and]
      rfl
    | some cause =>
      simp [not_define_of_refusal hrefusal]

/-- Definitions that do not load fail with the fault of the first that is refused. -/
theorem exists_refusal {registry : Registry} {position : Nat} {definitions : List Definition}
    {cause : RegistryError} (h : defineAll registry position definitions = .error cause) :
    ∃ before d after, definitions = before ++ d :: after ∧
      registry.AllSucceed (before.map (·.asWritten)) ∧
      refusal? (registry.attemptAll (before.map (·.asWritten))) (position + before.length) d
        = some cause := by
  -- the place is generalized, since the rest of a file starts at a later one
  induction definitions generalizing registry position with
  | nil => cases h
  | cons d rest ih =>
    rw [defineAll_cons] at h
    cases hrefusal : refusal? registry position d with
    | some cause' =>
      rw [hrefusal] at h
      cases h
      exact ⟨[], d, rest, rfl, rfl, hrefusal⟩
    | none =>
      rw [hrefusal] at h
      obtain ⟨before, e, after, hsplit, hbefore, hfault⟩ := ih h
      refine ⟨d :: before, e, after, by rw [hsplit, List.cons_append], ?_, ?_⟩
      · exact Registry.allSucceed_cons_iff.mpr ⟨refusal?_eq_none_iff.mp hrefusal, hbefore⟩
      · rw [List.length_cons, Nat.add_comm before.length 1, ← Nat.add_assoc]
        exact hfault

/-! ## Loading files -/

variable {m : Manifest} {defaultPrefix : String} {start : Registry} {tablePrefix : String}

/-- The prefix that a file is loaded under: its own, if it has one. -/
def stem (m : Manifest) (defaultPrefix : String) : String :=
  m.tablePrefix.getD defaultPrefix

/-- A file describes a registry. -/
def Loads (m : Manifest) (defaultPrefix : String) : Prop :=
  ∃ registry, m.registry defaultPrefix = .ok registry

/-- The fault of a definition that stands behind others.  That it leads nowhere comes
    before names that are empty, and these before a link that is taken. -/
inductive FaultBehind (before : List Definition) (d : Definition) : RegistryError → Prop
  | missingTarget (htarget : d.target? = none) :
      FaultBehind before d (.missingTarget (before.length + 1) d.typeName)
  | emptyName {target : String} (htarget : d.target? = some target)
      (hempty : d.fromKind = "" ∨ target = "" ∨ d.typeName = "") :
      FaultBehind before d (.emptyName d.fromKind target d.typeName)
  | duplicate {target : String} {earlier : Definition} (htarget : d.target? = some target)
      (hnamed : d.fromKind ≠ "" ∧ target ≠ "" ∧ d.typeName ≠ "") (hearlier : earlier ∈ before)
      (hclash : earlier.Clash d) : FaultBehind before d (.duplicate d.fromKind target d.typeName)

/-- The fault of a file: of its prefix, or else of the first definition up to which the
    file does not load. -/
inductive Fault (m : Manifest) (defaultPrefix : String) : RegistryError → Prop
  | tablePrefix (hplain : isTablePrefix (m.stem defaultPrefix) = false) :
      Fault m defaultPrefix (.invalidTablePrefix (m.stem defaultPrefix))
  | definition {before after : List Definition} {d : Definition} {cause : RegistryError}
      (hplain : isTablePrefix (m.stem defaultPrefix) = true)
      (hsplit : m.definitions = before ++ d :: after)
      (hbefore : ∀ shorter, shorter <+: before →
        Loads { m with definitions := shorter } defaultPrefix)
      (hfails : ¬ Loads { m with definitions := before ++ [d] } defaultPrefix)
      (hfault : FaultBehind before d cause) : Fault m defaultPrefix cause

theorem registry_of_not_plain (h : isTablePrefix (m.stem defaultPrefix) = false) :
    m.registry defaultPrefix = .error (.invalidTablePrefix (m.stem defaultPrefix)) := by
  have hempty : Registry.empty (m.stem defaultPrefix)
      = .error (.invalidTablePrefix (m.stem defaultPrefix)) := by
    rw [Registry.empty, dif_neg (by rw [h]; decide)]
  show (Registry.empty (m.stem defaultPrefix) >>= fun start => defineAll start 1 m.definitions) = _
  rw [hempty]
  rfl

/-- Under a plain prefix all files start from the same registry. -/
theorem exists_start (h : isTablePrefix (m.stem defaultPrefix) = true) :
    ∃ start, Registry.New (m.stem defaultPrefix) start ∧ ∀ definitions,
      registry { m with definitions := definitions } defaultPrefix
        = defineAll start 1 definitions := by
  have hempty : Registry.empty (m.stem defaultPrefix)
      = .ok ⟨m.stem defaultPrefix, [], h, .nil⟩ := by
    rw [Registry.empty, dif_pos h]
  refine ⟨_, .empty hempty, fun definitions => ?_⟩
  show (Registry.empty (m.stem defaultPrefix) >>= fun start => defineAll start 1 definitions) = _
  rw [hempty]
  rfl

/-- Definitions load into a registry without relationships if all of them are complete and
    no two of them clash. -/
theorem allSucceed_asWritten_iff (h : Registry.New tablePrefix start)
    (definitions : List Definition) :
    start.AllSucceed (definitions.map (·.asWritten)) ↔
      (∀ d ∈ definitions, d.Complete) ∧ definitions.Pairwise fun d e => ¬ d.Clash e := by
  have hnil : ∀ r ∈ definitions.map (·.asWritten), ∀ s ∈ start.relationships,
      ¬ s.SameLink r := by
    rw [h.eq_nil.2]
    simp
  rw [Registry.allSucceed_iff, and_iff_left hnil, List.forall_mem_map, List.pairwise_map]
  simp only [← Definition.complete_iff]
  refine and_congr_right fun hcomplete => List.Pairwise.iff_of_mem fun hd he => ?_
  have hd := (hcomplete _ hd).target?_ne_none
  have he := (hcomplete _ he).target?_ne_none
  rw [Definition.clash_iff hd he]

/-- A definition that is refused behind others has its fault. -/
theorem faultBehind_of_refusal (h : Registry.New tablePrefix start) {before : List Definition}
    {d : Definition} {cause : RegistryError}
    (hbefore : start.AllSucceed (before.map (·.asWritten)))
    (hrefusal : refusal? (start.attemptAll (before.map (·.asWritten))) (1 + before.length) d
      = some cause) : FaultBehind before d cause := by
  rw [refusal?] at hrefusal
  split at hrefusal
  · rename_i htarget
    cases hrefusal
    rw [Nat.add_comm]
    exact .missingTarget htarget
  · rename_i htarget
    obtain ⟨target, htarget'⟩ := Option.ne_none_iff_exists'.mp htarget
    have hkind : d.asWritten.toKind = target := by
      rw [Definition.toKind_asWritten, htarget', Option.getD_some]
    -- the target is known, so it is the registry that refuses
    rcases Registry.define_cases (start.attemptAll (before.map (·.asWritten))) d.asWritten with
      ⟨hnamed, hdefine⟩ | ⟨hnamed, hknown, hdefine⟩ | ⟨hnamed, free, hdefine⟩
    all_goals
      rw [hdefine] at hrefusal
      simp only [Relationship.Named, Definition.fromKind_asWritten,
        Definition.typeName_asWritten, hkind] at hnamed hrefusal
      cases hrefusal
    · exact .emptyName htarget' (by simpa only [ne_eq, not_and_or, not_not] using hnamed)
    · obtain ⟨r, hr, hsame⟩ := hknown
      -- what the registry keeps was read from the definitions in front
      rw [(h.perm_succeeded _).mem_iff, hbefore] at hr
      obtain ⟨earlier, hearlier, rfl⟩ := List.mem_map.mp hr
      have hcomplete := ((allSucceed_asWritten_iff h before).mp hbefore).1 earlier hearlier
      exact .duplicate htarget' hnamed hearlier
        ((Definition.clash_iff hcomplete.target?_ne_none htarget).mpr hsame)

/-- What a file loads to. -/
structure LoadsAsWritten (m : Manifest) (defaultPrefix : String) : Prop where
  loads_iff : m.Loads defaultPrefix ↔
    (∀ c ∈ (m.stem defaultPrefix).toList, c.isAlphanum = true ∨ c = '_') ∧
      (∀ d ∈ m.definitions, d.Complete) ∧ m.definitions.Pairwise fun d e => ¬ d.Clash e
  /-- All definitions are listed, under the prefix. -/
  lists : ∀ registry, m.registry defaultPrefix = .ok registry →
    registry.tablePrefix = m.stem defaultPrefix ∧
      registry.relationships.Perm (m.definitions.map (·.asWritten))
  /-- The order of the definitions does not count. -/
  perm : ∀ definitions, definitions.Perm m.definitions → ∀ registry,
    Manifest.registry { m with definitions := definitions } defaultPrefix = .ok registry ↔
      m.registry defaultPrefix = .ok registry
  /-- It does not count where links to users are said to lead to. -/
  target : ∀ definitions, List.Forall₂ Definition.SameMeaning definitions m.definitions →
    Manifest.registry { m with definitions := definitions } defaultPrefix
      = m.registry defaultPrefix
  fault : ∀ cause, m.registry defaultPrefix = .error cause → m.Fault defaultPrefix cause

/-- Definitions that load go on to load, to the same registry, in any other order. -/
theorem defineAll_of_perm {start next : Registry} {position : Nat}
    {definitions definitions' : List Definition} (hperm : definitions.Perm definitions')
    (h : defineAll start position definitions = .ok next) :
    defineAll start position definitions' = .ok next := by
  have hmap := hperm.map (·.asWritten)
  obtain ⟨hall, hnext⟩ := (defineAll_eq_ok_iff _ _ _ _).mp h
  refine (defineAll_eq_ok_iff _ _ _ _).mpr ⟨hall.perm hmap, ?_⟩
  rw [hall.attemptAll_eq hmap, hnext]

theorem defineAll_congr {definitions definitions' : List Definition}
    (h : List.Forall₂ Definition.SameMeaning definitions definitions') (registry : Registry)
    (position : Nat) :
    defineAll registry position definitions = defineAll registry position definitions' := by
  induction h generalizing registry position with
  | nil => rfl
  | @cons d e rest rest' hmeaning hrest ih =>
    simp only [defineAll, hmeaning.relationship_eq position, ih]

theorem loadsAsWritten_of_not_plain (hplain : isTablePrefix (m.stem defaultPrefix) = false) :
    m.LoadsAsWritten defaultPrefix := by
  have herror := registry_of_not_plain hplain
  have hothers : ∀ definitions,
      Manifest.registry { m with definitions := definitions } defaultPrefix
        = .error (.invalidTablePrefix (m.stem defaultPrefix)) :=
    fun definitions => registry_of_not_plain hplain
  constructor
  case loads_iff =>
    rw [← isTablePrefix_iff, hplain, Loads, herror]
    simp
  case lists => simp [herror]
  case perm => simp [herror, hothers]
  case target =>
    intro definitions _
    rw [herror, hothers]
  case fault =>
    intro cause hcause
    rw [herror] at hcause
    cases hcause
    exact .tablePrefix hplain

theorem loadsAsWritten_of_plain (hplain : isTablePrefix (m.stem defaultPrefix) = true) :
    m.LoadsAsWritten defaultPrefix := by
  obtain ⟨start, hnew, hregistry⟩ := exists_start hplain
  have hm : m.registry defaultPrefix = defineAll start 1 m.definitions := hregistry m.definitions
  have hloads : ∀ definitions, Loads { m with definitions := definitions } defaultPrefix ↔
      start.AllSucceed (definitions.map (·.asWritten)) := by
    intro definitions
    simp only [Loads, hregistry, defineAll_eq_ok_iff, exists_and_left, exists_eq', and_true]
  constructor
  case loads_iff =>
    rw [← isTablePrefix_iff, hplain, ← allSucceed_asWritten_iff hnew, ← hloads]
    simp
  case lists =>
    intro registry hregistry
    rw [hm, defineAll_eq_ok_iff] at hregistry
    obtain ⟨hall, rfl⟩ := hregistry
    have hperm := hnew.perm_succeeded (m.definitions.map (·.asWritten))
    rw [hall] at hperm
    exact ⟨hnew.tablePrefix_attemptAll _, hperm⟩
  case perm =>
    intro definitions hperm registry
    rw [hregistry, hm]
    exact ⟨defineAll_of_perm hperm, defineAll_of_perm hperm.symm⟩
  case target =>
    intro definitions hmeaning
    rw [hregistry, hm]
    exact defineAll_congr hmeaning start 1
  case fault =>
    intro cause hcause
    rw [hm] at hcause
    obtain ⟨before, d, after, hsplit, hbefore, hrefusal⟩ := exists_refusal hcause
    refine .definition hplain hsplit ?_ ?_ (faultBehind_of_refusal hnew hbefore hrefusal)
    · intro shorter hshorter
      exact (hloads shorter).mpr (hbefore.sublist (hshorter.sublist.map _))
    · rw [hloads, List.map_append, List.map_singleton, Registry.allSucceed_concat_iff]
      exact fun hall => not_define_of_refusal hrefusal hall.2

/-- A file loads exactly if its prefix is plain, its definitions are complete, and no two
    of them are about the same link; the registry lists them all, whatever their order.
    Otherwise it fails with the fault of the prefix, or else of the first definition up to
    which it does not load. -/
theorem manifest_loads_as_written (m : Manifest) (defaultPrefix : String) :
    m.LoadsAsWritten defaultPrefix := by
  cases hplain : isTablePrefix (m.stem defaultPrefix) with
  | false => exact loadsAsWritten_of_not_plain hplain
  | true => exact loadsAsWritten_of_plain hplain

-- links to users need not say where they lead to, links between posts have to say it
-- even before they name the posts that they lead from
example :
    let owner : Definition := ⟨.postToUser, "post", none, "owner"⟩
    let tire : Definition := ⟨.postToPost, "", none, "tire"⟩
    registry ⟨none, [owner, tire]⟩ "wp_" = .error (.missingTarget 2 "tire") := by
  rfl

end Manifest
end RelatedFilter
