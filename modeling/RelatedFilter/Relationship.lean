/-
  RelatedFilter.Relationship

  A relationship links objects of one kind to posts of another kind or to
  users.  Links between posts are kept in one table, links to users in another,
  each with a column for either side (`Kind.columns`).  Two posts may be linked
  from either side, so the key of such a relationship holds its kinds sorted.
-/
import RelatedFilter.Json.Basic

namespace RelatedFilter

/-- The kind of object a constraint on users points to. -/
def userKind : String := "user"

/-- The kind of object a constraint on posts points to. -/
def postKind : String := "post"

namespace Relationship

/-- What a relationship links. -/
inductive Kind where
  | postToPost
  | postToUser
deriving DecidableEq, Repr

namespace Kind

/-- The name of the kind, which is also its table's name without a prefix. -/
def name : Kind → String
  | .postToPost => "post_to_post"
  | .postToUser => "post_to_user"

/-- The kind of a name. -/
def ofName? (s : String) : Option Kind :=
  if s = "post_to_post" then some .postToPost
  else if s = "post_to_user" then some .postToUser
  else none

/-- The columns of the base side and of the target side. -/
def columns : Kind → String × String
  | .postToPost => ("id1", "id2")
  | .postToUser => ("post_id", "user_id")

/-- Post-to-post comes first. -/
def rank : Kind → Nat
  | .postToPost => 0
  | .postToUser => 1

@[simp] theorem ofName?_name (k : Kind) : ofName? k.name = some k := by
  cases k <;> decide

theorem rank_injective {a b : Kind} (h : a.rank = b.rank) : a = b := by
  cases a <;> cases b <;> simp_all [rank]

end Kind

/-! ## Keys -/

/-- What tells one relationship from another. -/
structure Key where
  kind : Kind
  first : String
  second : String
  typeName : String
deriving DecidableEq, Repr

namespace Key

/-- The key of a relationship between two kinds of posts: the kinds sorted. -/
def postToPost (a b typeName : String) : Key :=
  if b < a then ⟨.postToPost, b, a, typeName⟩ else ⟨.postToPost, a, b, typeName⟩

/-- The key of a relationship to users. -/
def postToUser (post typeName : String) : Key :=
  ⟨.postToUser, post, userKind, typeName⟩

/-- The key under which a relationship between two kinds of objects is kept. -/
def between (base target typeName : String) : Key :=
  if target = userKind then postToUser base typeName else postToPost base target typeName

/-- The order of keys: by kind, first and second kind of object, and type, text
    by code points. -/
def Lt (a b : Key) : Prop :=
  a.kind.rank < b.kind.rank ∨ a.kind = b.kind ∧
    (a.first < b.first ∨ a.first = b.first ∧
      (a.second < b.second ∨ a.second = b.second ∧ a.typeName < b.typeName))

instance : LT Key := ⟨Lt⟩

instance (a b : Key) : Decidable (a < b) :=
  inferInstanceAs (Decidable (_ ∨ _ ∧ (_ ∨ _ ∧ (_ ∨ _ ∧ _))))

theorem lt_def {a b : Key} : a < b ↔
    a.kind.rank < b.kind.rank ∨ a.kind = b.kind ∧
      (a.first < b.first ∨ a.first = b.first ∧
        (a.second < b.second ∨ a.second = b.second ∧ a.typeName < b.typeName)) :=
  Iff.rfl

/-- Of two texts one comes first, or they are the same. -/
theorem text_trichotomy (s t : String) : s < t ∨ s = t ∨ t < s := by
  by_cases hst : s < t
  · exact Or.inl hst
  · by_cases hts : t < s
    · exact Or.inr (Or.inr hts)
    · exact Or.inr (Or.inl (String.le_antisymm (String.not_lt.mp hts) (String.not_lt.mp hst)))

theorem lt_irrefl (a : Key) : ¬ a < a := by
  rw [lt_def]
  rintro (h | ⟨_, h | ⟨_, h | ⟨_, h⟩⟩⟩)
  · exact Nat.lt_irrefl _ h
  · exact String.lt_irrefl _ h
  · exact String.lt_irrefl _ h
  · exact String.lt_irrefl _ h

theorem lt_trans {a b c : Key} (hab : a < b) (hbc : b < c) : a < c := by
  rw [lt_def] at *
  rcases hab with h | ⟨hk, h⟩ <;> rcases hbc with g | ⟨gk, g⟩
  · exact Or.inl (Nat.lt_trans h g)
  · exact Or.inl (gk ▸ h)
  · exact Or.inl (hk ▸ g)
  · refine Or.inr ⟨hk.trans gk, ?_⟩
    rcases h with h | ⟨hf, h⟩ <;> rcases g with g | ⟨gf, g⟩
    · exact Or.inl (String.lt_trans h g)
    · exact Or.inl (gf ▸ h)
    · exact Or.inl (hf ▸ g)
    · refine Or.inr ⟨hf.trans gf, ?_⟩
      rcases h with h | ⟨hs, h⟩ <;> rcases g with g | ⟨gs, g⟩
      · exact Or.inl (String.lt_trans h g)
      · exact Or.inl (gs ▸ h)
      · exact Or.inl (hs ▸ g)
      · exact Or.inr ⟨hs.trans gs, String.lt_trans h g⟩

/-- Of two different keys one comes first. -/
theorem lt_or_gt_of_ne {a b : Key} (h : a ≠ b) : a < b ∨ b < a := by
  simp only [lt_def]
  rcases Nat.lt_trichotomy a.kind.rank b.kind.rank with hk | hk | hk
  · exact Or.inl (Or.inl hk)
  · have hk := Kind.rank_injective hk
    rcases text_trichotomy a.first b.first with hf | hf | hf
    · exact Or.inl (Or.inr ⟨hk, Or.inl hf⟩)
    · rcases text_trichotomy a.second b.second with hs | hs | hs
      · exact Or.inl (Or.inr ⟨hk, Or.inr ⟨hf, Or.inl hs⟩⟩)
      · rcases text_trichotomy a.typeName b.typeName with ht | ht | ht
        · exact Or.inl (Or.inr ⟨hk, Or.inr ⟨hf, Or.inr ⟨hs, ht⟩⟩⟩)
        · refine absurd ?_ h
          cases a
          cases b
          simp_all
        · exact Or.inr (Or.inr ⟨hk.symm, Or.inr ⟨hf.symm, Or.inr ⟨hs.symm, ht⟩⟩⟩)
      · exact Or.inr (Or.inr ⟨hk.symm, Or.inr ⟨hf.symm, Or.inl hs⟩⟩)
    · exact Or.inr (Or.inr ⟨hk.symm, Or.inl hf⟩)
  · exact Or.inr (Or.inl hk)

end Key
end Relationship

/-- A kind of link that is known. -/
inductive Relationship where
  | postToPost (fromKind toKind typeName : String)
  | postToUser (fromKind typeName : String)
deriving DecidableEq, Repr

namespace Relationship

def kind : Relationship → Kind
  | .postToPost _ _ _ => .postToPost
  | .postToUser _ _ => .postToUser

/-- The kind of object on the side it was defined from. -/
def fromKind : Relationship → String
  | .postToPost a _ _ => a
  | .postToUser a _ => a

/-- The kind of object on the other side. -/
def toKind : Relationship → String
  | .postToPost _ b _ => b
  | .postToUser _ _ => userKind

def typeName : Relationship → String
  | .postToPost _ _ t => t
  | .postToUser _ t => t

def key : Relationship → Key
  | .postToPost a b t => .postToPost a b t
  | .postToUser a t => .postToUser a t

@[simp] theorem kind_key (r : Relationship) : r.key.kind = r.kind := by
  cases r
  · simp only [key, Key.postToPost, kind]
    split <;> rfl
  · rfl

@[simp] theorem typeName_key (r : Relationship) : r.key.typeName = r.typeName := by
  cases r
  · simp only [key, Key.postToPost, typeName]
    split <;> rfl
  · rfl

end Relationship

/-! ## Storage -/

/-- Where the links of a relationship are kept. -/
structure Columns where
  table : String
  baseColumn : String
  targetColumn : String
deriving DecidableEq, Repr

/-- A known relationship with the table and columns that keep its links. -/
structure Schema where
  relationship : Relationship
  tablePrefix : String
deriving DecidableEq, Repr

namespace Schema

def kind (s : Schema) : Relationship.Kind := s.relationship.kind

def table (s : Schema) : String := s.tablePrefix ++ s.kind.name

def columns (s : Schema) : Columns :=
  ⟨s.table, s.kind.columns.1, s.kind.columns.2⟩

end Schema

/-! ## Catalogues -/

/-- A question to a catalogue of relationships: is there one with this type
    between these kinds of objects? -/
structure Request where
  baseKind : String
  targetKind : String
  typeName : String
deriving DecidableEq, Repr

/-- A catalogue of relationships: where the links asked for are kept. -/
abbrev Catalog := Request → Option Columns

end RelatedFilter
