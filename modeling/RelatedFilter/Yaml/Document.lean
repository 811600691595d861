/-
  RelatedFilter.Yaml.Document

  YAML documents, as those see them that read settings and registries from them:
  scalars, sequences and mappings, each with the place it starts at.  A scalar is
  given by what it says to its readers.  How a text becomes a document is left to a
  `Reader`, and nothing depends on which one that is; aliases and tags are its
  business too.  An alias is the node that it stands for, and a tag shows in what
  its scalar says.
-/
import RelatedFilter.Yaml.Token

namespace RelatedFilter.Yaml

/-- A scalar, by what it says.  Where it cannot be read in a certain way it has the
    reason instead, in words. -/
structure Scalar where
  /-- To readers of a text. -/
  text : String
  /-- To readers of a text that may be left out. -/
  optional : Except String (Option String)
  /-- To readers of one of several names. -/
  variant : Except String String
  /-- Left out, or written as nothing at all? -/
  isEmpty : Bool
  /-- In words, to readers of anything else. -/
  description : String

/-- A node of a document. -/
inductive Node where
  | scalar (value : Scalar) (mark : Mark)
  | sequence (items : List Node) (mark : Mark)
  | mapping (entries : List (Node × Node)) (mark : Mark)
  /-- Here the text is not well-formed.  No item or entry follows. -/
  | broken

namespace Node

instance : Inhabited Node := ⟨.broken⟩

/-- Where a node starts. -/
def mark : Node → Mark
  | .scalar _ m => m
  | .sequence _ m => m
  | .mapping _ m => m
  | .broken => .origin

end Node

/-- How a text goes on behind its first document. -/
inductive Ending where
  /-- Not at all, or only with lines that end the document. -/
  | last
  | more
  /-- The document itself is not well-formed. -/
  | broken
deriving DecidableEq, Repr

/-- The first document of a text. -/
structure Stream where
  /-- Its content, an empty scalar if there is none. -/
  first : Node
  ending : Ending

/-- What makes documents of texts. -/
abbrev Reader := String → Stream

end RelatedFilter.Yaml
