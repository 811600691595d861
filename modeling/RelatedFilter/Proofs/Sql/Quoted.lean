/-
  RelatedFilter.Proofs.Sql.Quoted

  Quoted texts, read one at a time.  The reader knows the rules of quoted texts and
  nothing else: a quote opens, a backslash escapes the next character, two quotes
  are one, and a quote that no other follows closes.  What stands behind the text is
  given back as it is, so the reader works in front of anything.

  Main statement: from a quoted text the reader takes exactly the quoted text, and
  gets the text itself (`quoted_texts_read_back`).  A quoted text ends where it was
  meant to end, whatever runs of backslashes and quotes it holds, because each
  character is written as a chunk that the reader takes as a whole
  (`readContent_quotedChar`).
-/
import RelatedFilter.Proofs.Sql.Lexer
import Mathlib.Data.List.Basic

namespace RelatedFilter.Sql

/-! ## The reader -/

/-- The content of a quoted text, from behind its first quote on, and what stands
    behind its last one. -/
def readContent : List Char → Option (List Char × List Char)
  | [] | ['\\'] => none
  | '\\' :: c :: rest => (readContent rest).map fun (content, behind) => (escaped c ++ content, behind)
  | '\'' :: '\'' :: rest => (readContent rest).map fun (content, behind) => ('\'' :: content, behind)
  | '\'' :: rest => some ([], rest)
  | c :: rest => (readContent rest).map fun (content, behind) => (c :: content, behind)

/-- A quoted text that stands first, and what stands behind it. -/
def readText : List Char → Option (String × List Char)
  | '\'' :: rest => (readContent rest).map fun (content, behind) => (String.ofList content, behind)
  | _ => none

/-! ## Quoting in two passes -/

/-- The text with each `c` written twice. -/
def doubled (c : Char) (text : List Char) : List Char :=
  text.flatMap fun d => if d = c then [c, c] else [d]

/-- To quote is to double the backslashes, and the quotes after them: the first pass
    leaves the quotes alone, and the second one the backslashes. -/
theorem toList_quote (text : String) :
    (quote text).toList = '\'' :: doubled '\'' (doubled '\\' text.toList) ++ ['\''] := by
  have hchar : ∀ c, quotedChar c = doubled '\'' (if c = '\\' then ['\\', '\\'] else [c]) := by
    intro c
    unfold quotedChar doubled
    by_cases hbackslash : c = '\\'
    · subst c
      rfl
    · rw [if_neg hbackslash, if_neg hbackslash, List.flatMap_singleton]
  have hpasses : text.toList.flatMap quotedChar = doubled '\'' (doubled '\\' text.toList) := by
    rw [doubled, doubled, List.flatMap_assoc]
    exact List.flatMap_congr fun c _ => hchar c
  rw [quote, String.toList_ofList, hpasses]

/-! ## Reading back -/

/-- A quoted character is read as the character, in front of anything. -/
theorem readContent_quotedChar (c : Char) (rest : List Char) :
    readContent (quotedChar c ++ rest)
      = (readContent rest).map fun (content, behind) => (c :: content, behind) := by
  unfold quotedChar
  split
  · subst c
    rfl
  · split
    · subst c
      rfl
    · rename_i hbackslash hquote
      rw [List.singleton_append, readContent]
      · exact fun h _ => hbackslash h
      · exact fun _ _ h _ => hbackslash h
      · exact fun _ h _ => hquote h
      · exact fun h => hquote h

/-- A quote that no other follows ends the text. -/
theorem readContent_quote {rest : List Char} (h : rest.head? ≠ some '\'') :
    readContent ('\'' :: rest) = some ([], rest) := by
  cases rest with
  | nil => rfl
  | cons c rest =>
    rw [readContent]
    intro rest' heq
    rw [heq] at h
    exact h rfl

theorem readContent_quoted (content : List Char) {rest : List Char}
    (h : rest.head? ≠ some '\'') :
    readContent (content.flatMap quotedChar ++ '\'' :: rest) = some (content, rest) := by
  induction content with
  | nil => exact readContent_quote h
  | cons c content ih =>
    rw [List.flatMap_cons, List.append_assoc, readContent_quotedChar, ih]
    rfl

theorem readText_quote (text : String) {rest : List Char} (h : rest.head? ≠ some '\'') :
    readText ((quote text).toList ++ rest) = some (text, rest) := by
  have hquote : (quote text).toList ++ rest
      = '\'' :: (text.toList.flatMap quotedChar ++ '\'' :: rest) := by
    rw [quote, String.toList_ofList]
    simp
  rw [hquote, readText, readContent_quoted _ h, Option.map_some]
  show some (String.ofList text.toList, rest) = some (text, rest)
  rw [String.ofList_toList]

/-- The reader tells apart what is quoted, and where it ends. -/
theorem eq_of_quote_append {text other : String} {rest behind : List Char}
    (hrest : rest.head? ≠ some '\'') (hbehind : behind.head? ≠ some '\'')
    (h : (quote text).toList ++ rest = (quote other).toList ++ behind) :
    text = other ∧ rest = behind := by
  have hread : some (text, rest) = some (other, behind) := by
    rw [← readText_quote text hrest, ← readText_quote other hbehind, h]
  exact Prod.mk.inj (Option.some.inj hread)

theorem quote_injective : Function.Injective quote := by
  intro text other h
  have hnothing : ([] : List Char).head? ≠ some '\'' := nofun
  have heq : (quote text).toList ++ [] = (quote other).toList ++ [] := by rw [h]
  exact (eq_of_quote_append hnothing hnothing heq).1

/-- A quoted text is read back from in front of anything but a quote, to its last
    character and no further; so no two texts are quoted alike, and no text can move
    the end of its own quotation. -/
theorem quoted_texts_read_back (text : String) (rest : List Char)
    (h : rest.head? ≠ some '\'') :
    (quote text).toList = '\'' :: doubled '\'' (doubled '\\' text.toList) ++ ['\'']
      ∧ readText ((quote text).toList ++ rest) = some (text, rest)
      ∧ (∀ (other : String) (behind : List Char), behind.head? ≠ some '\'' →
          (quote text).toList ++ rest = (quote other).toList ++ behind →
          text = other ∧ rest = behind)
      ∧ Function.Injective quote :=
  ⟨toList_quote text, readText_quote text h,
    fun _ _ hbehind heq => eq_of_quote_append h hbehind heq, quote_injective⟩

/-- Backslashes and quotes at the very end do not reach what stands behind. -/
theorem quoted_texts_read_back_hostile :
    readText ((quote "\\' OR 1=1 -- '\\").toList ++ " and p2p1.type = 'a'".toList)
      = some ("\\' OR 1=1 -- '\\", " and p2p1.type = 'a'".toList) :=
  (quoted_texts_read_back _ _ (by decide +kernel)).2.1

end RelatedFilter.Sql
