/-
  RelatedFilter.Proofs.Yaml.Record

  What a record keeps of the node it was read from.  Its entries are taken in the
  order they are written in, each known name once; so a field holds what the entry
  under its name says, or what it started with (`TakesField.record`), whatever the
  other entries are.
-/
import RelatedFilter.Yaml.Decode

namespace RelatedFilter

/-! ## Stages -/

section
variable {ε δ α β : Type}

/-- Two stages give a result if the first does and the second does with it. -/
theorem bind_eq_ok_iff {x : Except ε α} {next : α → Except ε β} {b : β} :
    x >>= next = .ok b ↔ ∃ a, x = .ok a ∧ next a = .ok b := by
  cases x with
  | error e =>
    refine iff_of_false nofun ?_
    rintro ⟨a, ha, -⟩
    cases ha
  | ok a =>
    constructor
    · intro h
      exact ⟨a, rfl, h⟩
    · rintro ⟨_, ha, h⟩
      cases ha
      exact h

theorem mapError_eq_ok_iff {f : ε → δ} {x : Except ε α} {a : α} :
    x.mapError f = .ok a ↔ x = .ok a := by
  cases x with
  | error e => exact iff_of_false nofun nofun
  | ok b =>
    constructor
    · intro h
      cases h
      rfl
    · intro h
      cases h
      rfl

end

namespace Yaml

/-! ## Entries by name -/

namespace Node

/-- The text of a scalar. -/
def scalar? : Node → Option String
  | .scalar value _ => some value.text
  | _ => none

/-- The text of a scalar that does not stand for nothing. -/
def given? : Node → Option String
  | .scalar value _ => value.optional.toOption.join
  | _ => none

end Node

/-- The value of the first entry with a name. -/
def valueUnder? (name : String) (pairs : List (Node × Node)) : Option Node :=
  pairs.findSome? fun (key, value) => if key.scalar? = some name then some value else none

/-- The value under a name in a mapping. -/
def Node.under? (name : String) : Node → Option Node
  | .mapping pairs _ => valueUnder? name pairs
  | _ => none

section
variable {name : String} {key value : Node} {rest : List (Node × Node)}

theorem valueUnder?_cons_of_eq (h : key.scalar? = some name) :
    valueUnder? name ((key, value) :: rest) = some value := by
  simp [valueUnder?, h]

theorem valueUnder?_cons_of_ne (h : key.scalar? ≠ some name) :
    valueUnder? name ((key, value) :: rest) = valueUnder? name rest := by
  simp [valueUnder?, h]

end

/-! ## Reading -/

theorem wrongType_ne_ok {α : Type} {path : Path} {node : Node} {expected : String} {a : α} :
    wrongType path node expected ≠ .ok a := by
  cases node <;> simp [wrongType]

theorem text_eq_ok {path : Path} {node : Node} {text : String}
    (h : Yaml.text path node = .ok text) : node.scalar? = some text := by
  simp only [Yaml.text] at h
  split at h
  · cases h
    rfl
  · exact absurd h wrongType_ne_ok

theorem optionalText_eq_ok {path : Path} {node : Node} {text : Option String}
    (h : optionalText path node = .ok text) : node.given? = text := by
  simp only [optionalText] at h
  split at h
  · have hsaid := mapError_eq_ok_iff.mp h
    simp [Node.given?, hsaid, Except.toOption]
  · exact absurd h wrongType_ne_ok

/-- What is read from a text is read from its only document. -/
theorem read_eq_ok {α : Type} {yaml : Reader} {decode : Path → Node → Except Fault α}
    {text : String} {a : α} (h : read yaml decode text = .ok a) :
    decode [] (yaml text).first = .ok a := by
  simp only [read] at h
  split at h <;> simp_all

/-! ## Fields -/

/-- Taking an entry sets a field under its own name, and keeps it under all others. -/
structure TakesField {σ α : Type} (known : List String)
    (take : String → Node → σ → Except Fault σ) (name : String) (get : σ → α)
    (value? : Node → Option α) : Prop where
  isKnown : name ∈ known
  sets : ∀ {node state state'}, take name node state = .ok state' →
    value? node = some (get state')
  keeps : ∀ {other node state state'}, other ∈ known → other ≠ name →
    take other node state = .ok state' → get state' = get state

/-- What a list of entries gives for a name that was not seen before them. -/
def unseen? (seen : List String) (name : String) (pairs : List (Node × Node)) : Option Node :=
  if name ∈ seen then none else valueUnder? name pairs

namespace TakesField

variable {σ α : Type} {known : List String} {take : String → Node → σ → Except Fault σ}
  {name : String} {get : σ → α} {value? : Node → Option α}

/-- Once a name was seen it is taken no more; until then the first entry counts. -/
theorem entries (h : TakesField known take name get value?) {path : Path} {mark : Mark}
    {seen : List String} {pairs : List (Node × Node)} {start state : σ}
    (hentries : Yaml.entries known take path mark seen pairs start = .ok state) :
    get state = ((unseen? seen name pairs).bind value?).getD (get start) := by
  -- the first entry changes what was seen and where the rest start from
  induction pairs generalizing seen start with
  | nil =>
    cases hentries
    simp [unseen?, valueUnder?]
  | cons pair rest ih =>
    obtain ⟨key, value⟩ := pair
    cases key with
    | sequence | mapping | broken =>
      simp only [Yaml.entries] at hentries
      exact absurd hentries wrongType_ne_ok
    | scalar found keyMark =>
      have hother : found.text ≠ name →
          valueUnder? name ((.scalar found keyMark, value) :: rest) = valueUnder? name rest :=
        fun hne => valueUnder?_cons_of_ne fun hsame => hne (Option.some.inj hsame)
      by_cases hknown : found.text ∈ known
      case neg =>
        -- an unknown name is passed over
        have hne : found.text ≠ name := fun hsame => hknown (hsame ▸ h.isKnown)
        simp only [Yaml.entries, List.contains_eq_mem, hknown, decide_false, Bool.not_false,
          if_true] at hentries
        rw [unseen?, hother hne]
        exact ih hentries
      case pos =>
        by_cases hseen : found.text ∈ seen
        · simp [Yaml.entries, hknown, hseen] at hentries
        · simp only [Yaml.entries, List.contains_eq_mem, hknown, hseen, decide_true, decide_false,
            Bool.not_true, Bool.false_eq_true, if_false] at hentries
          obtain ⟨next, htake, hentries⟩ := bind_eq_ok_iff.mp hentries
          have hrest := ih hentries
          by_cases hname : found.text = name
          · subst name
            rw [hrest, unseen?, if_pos List.mem_cons_self, unseen?, if_neg hseen,
              valueUnder?_cons_of_eq rfl, Option.bind_some, h.sets htake]
            rfl
          · rw [hrest, h.keeps hknown hname htake, unseen?, unseen?, hother hname]
            simp [Ne.symm hname]

/-- A field of a record holds what stands under its name, or what it started with. -/
theorem record (h : TakesField known take name get value?) {typeName : String} {path : Path}
    {node : Node} {start state : σ}
    (hrecord : Yaml.record typeName known take path start node = .ok state) :
    get state = ((node.under? name).bind value?).getD (get start) := by
  cases node with
  | mapping pairs mark => simpa [unseen?, Node.under?] using h.entries hrecord
  | scalar | sequence | broken =>
    simp only [Yaml.record] at hrecord
    split at hrecord
    · cases hrecord
      rfl
    · exact absurd hrecord wrongType_ne_ok

end TakesField

end Yaml
end RelatedFilter
