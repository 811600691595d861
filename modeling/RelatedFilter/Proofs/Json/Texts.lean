/-
  RelatedFilter.Proofs.Json.Texts

  Objects of texts, printed and read again.  A character of a string is printed as it
  is, or as an escape; either way the reader takes it as a whole and goes on behind it
  (`StringReads.escapeChar`), so a string is read back from in front of anything
  (`string_escaped`).  Of an object the reader skips what the printer put between
  the strings, and gets the fields in their order (`read_pretty_textFields`).
-/
import RelatedFilter.Json.Printer
import RelatedFilter.Json.Reader
import RelatedFilter.Proofs.Text.Octets

namespace RelatedFilter.Json

open Text

namespace Reader

/-! ## Strings -/

/-- From a text the content of a string is read, and what stands behind the string. -/
def StringReads (text content behind : Octets) : Prop :=
  ∀ fuel, text.length ≤ fuel → stringOctets fuel text = .ok (content, behind)

/-- An octet that stands for itself in a string. -/
structure IsPlain (b : UInt8) : Prop where
  not_quote : b ≠ octet '"'
  not_backslash : b ≠ octet '\\'
  not_control : ¬ b < 0x20

/-- The octets that are not those of ASCII characters stand for themselves. -/
theorem isPlain_of_le {b : UInt8} (h : 128 ≤ b.toNat) : IsPlain b := by
  refine ⟨?_, ?_, ?_⟩
  · rintro rfl
    exact absurd h (by decide)
  · rintro rfl
    exact absurd h (by decide)
  · intro hlt
    have hlt' : b.toNat < 32 := hlt
    omega

namespace StringReads

variable {text content behind : Octets}

theorem quote (behind : Octets) : StringReads (octet '"' :: behind) [] behind := by
  intro fuel hfuel
  cases fuel with
  | zero => exact absurd hfuel (Nat.not_succ_le_zero _)
  | succ fuel =>
    rw [stringOctets]
    rfl

theorem plain {b : UInt8} (hb : IsPlain b) (h : StringReads text content behind) :
    StringReads (b :: text) (b :: content) behind := by
  intro fuel hfuel
  cases fuel with
  | zero => exact absurd hfuel (Nat.not_succ_le_zero _)
  | succ fuel =>
    rw [stringOctets, if_neg (by simp [hb.not_quote]), if_neg (by simp [hb.not_backslash]),
      if_neg hb.not_control, h fuel (Nat.le_of_succ_le_succ hfuel)]
    rfl

theorem plains {front : Octets} (hfront : ∀ b ∈ front, IsPlain b)
    (h : StringReads text content behind) :
    StringReads (front ++ text) (front ++ content) behind := by
  induction front with
  | nil => exact h
  | cons b front ih =>
    obtain ⟨hb, hrest⟩ := List.forall_mem_cons.mp hfront
    exact (ih hrest).plain hb

/-- An escape is read as the character that it stands for. -/
theorem escaped {c : Char} {code : Octets}
    (hcode : ∀ text, escape (code ++ text) = .ok (c, text))
    (h : StringReads text content behind) :
    StringReads (octet '\\' :: code ++ text) (String.utf8EncodeChar c ++ content) behind := by
  intro fuel hfuel
  cases fuel with
  | zero => exact absurd hfuel (Nat.not_succ_le_zero _)
  | succ fuel =>
    have hlength : text.length ≤ fuel := by
      simp only [List.cons_append, List.length_cons, List.length_append] at hfuel
      omega
    have hchar : c.toString.toUTF8.toList = String.utf8EncodeChar c := by
      rw [toList_toUTF8, octets_eq_flatMap]
      simp [Char.toString]
    have hquote : ¬ (octet '\\' == octet '"') = true := by decide
    rw [List.cons_append, stringOctets, if_neg hquote, if_pos (beq_self_eq_true _), hcode]
    show (stringOctets fuel text >>= fun more =>
      .ok (c.toString.toUTF8.toList ++ more.1, more.2)) = _
    rw [h fuel hlength, hchar]
    rfl

end StringReads

/-! ## Characters -/

/-- The octet of an ASCII character is its code point. -/
theorem toNat_octet {c : Char} (h : c.toNat < 128) : (octet c).toNat = c.toNat := by
  have hval : (octet c).toNat = c.toNat % 256 := UInt32.toNat_toUInt8 c.val
  omega

theorem utf8EncodeChar_ascii {c : Char} (h : c.toNat < 128) :
    String.utf8EncodeChar c = [octet c] := by
  obtain ⟨hcount, -, hleading⟩ | ⟨-, hge, -⟩ | ⟨-, hge, -⟩ | ⟨-, hge, -⟩ := leading_cases c.toNat
  · have hoctet : UInt8.ofNat c.toNat = octet c := by
      rw [← UInt8.toNat_inj, toNat_octet h, UInt8.toNat_ofNat']
      omega
    rw [utf8EncodeChar_eq, hcount, hleading, hoctet, trailing]
  all_goals omega

theorem flatMap_utf8EncodeChar_ascii {chars : List Char} (h : ∀ c ∈ chars, c.toNat < 128) :
    chars.flatMap String.utf8EncodeChar = chars.map octet := by
  induction chars with
  | nil => rfl
  | cons c chars ih =>
    obtain ⟨hc, hrest⟩ := List.forall_mem_cons.mp h
    rw [List.flatMap_cons, utf8EncodeChar_ascii hc, ih hrest]
    rfl

/-- A character that is printed as it is has plain octets only. -/
theorem isPlain_of_mem_utf8EncodeChar {c : Char} (hquote : c ≠ '"') (hbackslash : c ≠ '\\')
    (hcontrol : ¬ c.toNat < 0x20) {b : UInt8} (hb : b ∈ String.utf8EncodeChar c) : IsPlain b := by
  by_cases hascii : c.toNat < 128
  · rw [utf8EncodeChar_ascii hascii, List.mem_singleton] at hb
    subst hb
    have hnat := toNat_octet hascii
    have hne : ∀ {d : Char}, d.toNat < 128 → c ≠ d → octet c ≠ octet d := by
      intro d hd hne heq
      rw [← UInt8.toNat_inj, hnat, toNat_octet hd] at heq
      exact hne (Char.toNat_inj.mp heq)
    refine ⟨hne (by decide) hquote, hne (by decide) hbackslash, fun hlt => hcontrol ?_⟩
    rw [← hnat]
    exact hlt
  · exact isPlain_of_le (le_of_mem_utf8EncodeChar (Nat.le_of_not_lt hascii) hb)

theorem hexValue_hexDigit : ∀ n < 16, hexValue (octet (hexDigit n)) = some n := by
  decide

/-- The four digits of a control character give it back. -/
theorem escape_control {c : Char} (h : c.toNat < 0x20) (text : Octets) :
    escape ([octet 'u', octet '0', octet '0', octet (hexDigit (c.toNat / 16)),
      octet (hexDigit (c.toNat % 16))] ++ text) = .ok (c, text) := by
  have hzero : hexValue (octet '0') = some 0 := by decide
  have hhigh := hexValue_hexDigit (c.toNat / 16) (by omega)
  have hlow := hexValue_hexDigit (c.toNat % 16) (by omega)
  have hcode : c.toNat / 16 * 16 + c.toNat % 16 = c.toNat := by omega
  have hdigits : fourHexDigits ([octet '0', octet '0', octet (hexDigit (c.toNat / 16)),
      octet (hexDigit (c.toNat % 16))] ++ text) = .ok (c.toNat, text) := by
    simp [fourHexDigits, hzero, hhigh, hlow, hcode]
  have hescape : escape ([octet 'u', octet '0', octet '0', octet (hexDigit (c.toNat / 16)),
      octet (hexDigit (c.toNat % 16))] ++ text) = unicodeEscape ([octet '0', octet '0',
      octet (hexDigit (c.toNat / 16)), octet (hexDigit (c.toNat % 16))] ++ text) := rfl
  have hlow' : ¬ (0xDC00 ≤ c.toNat ∧ c.toNat ≤ 0xDFFF) := by omega
  have hsmall : c.toNat < 0xD800 := by omega
  rw [hescape, unicodeEscape, hdigits]
  simp [bind, Except.bind, hsmall, hlow', Char.ofNat_toNat]

/-- A character is read from what is printed for it, in front of anything. -/
theorem StringReads.escapeChar (c : Char) {text content behind : Octets}
    (h : StringReads text content behind) :
    StringReads ((RelatedFilter.escapeChar c).flatMap String.utf8EncodeChar ++ text)
      (String.utf8EncodeChar c ++ content) behind := by
  unfold RelatedFilter.escapeChar
  -- seven characters have an escape of their own
  iterate 7
    split
    · subst c
      exact h.escaped fun _ => rfl
  split
  · rename_i hcontrol
    have hdigit : ∀ n < 16, (hexDigit n).toNat < 128 := by decide
    have hhigh := hdigit (c.toNat / 16) (by omega)
    have hlow := hdigit (c.toNat % 16) (by omega)
    rw [flatMap_utf8EncodeChar_ascii (by simp [hhigh, hlow])]
    exact h.escaped (escape_control hcontrol)
  · rename_i hquote hbackslash _ _ _ _ _ hcontrol
    rw [List.flatMap_singleton]
    exact h.plains fun b hb => isPlain_of_mem_utf8EncodeChar hquote hbackslash hcontrol hb

/-- A string is read back from what is printed between its quotes, and its end is found. -/
theorem string_escaped (s : String) (behind : Octets) :
    string ((s.toList.flatMap RelatedFilter.escapeChar).flatMap String.utf8EncodeChar
      ++ octet '"' :: behind) = .ok (s, behind) := by
  have hreads : StringReads ((s.toList.flatMap RelatedFilter.escapeChar).flatMap
      String.utf8EncodeChar ++ octet '"' :: behind) (octets s) behind := by
    rw [octets_eq_flatMap]
    induction s.toList with
    | nil => exact .quote behind
    | cons c chars ih =>
      rw [List.flatMap_cons, List.flatMap_append, List.append_assoc, List.flatMap_cons]
      exact ih.escapeChar c
  have htext : String.fromUTF8? ⟨(octets s).toArray⟩ = some s := fromUTF8?_eq_some_iff.mpr rfl
  rw [string, hreads _ (Nat.le_refl _)]
  show Except.ok ((String.fromUTF8? ⟨(octets s).toArray⟩).getD "", behind) = .ok (s, behind)
  rw [htext, Option.getD_some]

/-! ## Fields -/

/-- Puts texts under their keys, one after another. -/
def putTexts (done : Fields) (texts : List (String × String)) : Fields :=
  texts.foldl (fun done (key, text) => Fields.set key (.string text) done) done

/-- The octets of a string literal: those of its characters between two quotes. -/
theorem octets_jsonString (s : String) :
    octets (jsonString s) = octet '"' ::
      ((s.toList.flatMap RelatedFilter.escapeChar).flatMap String.utf8EncodeChar
        ++ [octet '"']) := by
  have hquote : String.utf8EncodeChar '"' = [octet '"'] := utf8EncodeChar_ascii (by decide)
  rw [jsonString, octets_ofList]
  simp [hquote]

/-- A string literal is a value, also behind a blank. -/
theorem value_jsonString (fuel depth : Nat) (s : String) (behind : Octets) :
    value (fuel + 1) depth (octet ' ' :: (octets (jsonString s) ++ behind))
      = .ok (.string s, behind) := by
  have hskip : skipBlanks (octet ' ' :: (octets (jsonString s) ++ behind))
      = octets (jsonString s) ++ behind := by
    rw [octets_jsonString]
    rfl
  rw [value.eq_def, hskip, octets_jsonString, List.cons_append, List.append_assoc]
  show (string (_ ++ octet '"' :: behind) >>= fun s => .ok (Json.string s.1, s.2)) = _
  rw [string_escaped]
  rfl

/-- A field on a line of its own. -/
def fieldLine (field : String × String) : String :=
  "  " ++ (jsonString field.1 ++ ": " ++ jsonString field.2)

/-- What stands in front of a field: a comma and a line break behind another field. -/
def separator (first : Bool) : String :=
  if first then "" else ",\n"

theorem octets_fieldLine (field : String × String) :
    octets (fieldLine field) = octet ' ' :: octet ' ' :: (octets (jsonString field.1)
      ++ octet ':' :: octet ' ' :: octets (jsonString field.2)) := by
  have hindent : octets "  " = [octet ' ', octet ' '] := by decide
  have hcolon : octets ": " = [octet ':', octet ' '] := by decide
  rw [fieldLine, octets_append, octets_append, octets_append, hindent, hcolon]
  simp

/-- The line of a field begins with blanks and the quote of its key. -/
theorem skipBlanks_fieldLine (field : String × String) (rest : Octets) :
    skipBlanks (octets (fieldLine field) ++ rest)
      = octet '"' :: ((field.1.toList.flatMap RelatedFilter.escapeChar).flatMap
        String.utf8EncodeChar ++ octet '"' :: octet ':' :: octet ' '
          :: (octets (jsonString field.2) ++ rest)) := by
  rw [octets_fieldLine, octets_jsonString field.1]
  simp only [List.cons_append, List.append_assoc, List.nil_append]
  rfl

theorem quote_ne_brace : (octet '"' == octet '\x7d') = false := by
  decide

/-- A field in front of all others is read from its line. -/
theorem fields_firstLine (fuel depth : Nat) (done : Fields) (field : String × String)
    (rest : Octets) :
    fields (fuel + 2) depth done true (octets (fieldLine field) ++ rest)
      = fields (fuel + 1) depth (Fields.set field.1 (.string field.2) done) false rest := by
  have hcolon : ∀ text, skipBlanks (octet ':' :: text) = octet ':' :: text := fun _ => rfl
  rw [fields.eq_def]
  simp only [skipBlanks_fieldLine, quote_ne_brace, bne_self_eq_false, Bool.false_eq_true, if_false,
    if_true, string_escaped, bind, Except.bind, hcolon, value_jsonString]

/-- Behind a comma and a line break the reader goes on as in front of the first field,
    unless the object ends there. -/
theorem fields_separator (fuel depth : Nat) (done : Fields) {text rest : Octets} {b : UInt8}
    (hskip : skipBlanks text = b :: rest) (hb : (b == octet '\x7d') = false) :
    fields (fuel + 1) depth done false (octets ",\n" ++ text)
      = fields (fuel + 1) depth done true text := by
  have hcomma : octets ",\n" = [octet ',', octet '\n'] := by decide
  have hstop : skipBlanks ([octet ',', octet '\n'] ++ text) = octet ',' :: octet '\n' :: text := rfl
  have hbehind : skipBlanks (octet '\n' :: text) = skipBlanks text := rfl
  have hbrace : (octet ',' == octet '\x7d') = false := by decide
  rw [hcomma, fields.eq_def, fields.eq_def (fuel + 1) depth done true]
  simp only [hstop, hbehind, hskip, hbrace, hb, beq_self_eq_true, Bool.false_eq_true, if_false,
    if_true]

/-- A field is read from its line, and put behind those in front of it. -/
theorem fields_fieldLine (fuel depth : Nat) (done : Fields) (first : Bool)
    (field : String × String) (rest : Octets) :
    fields (fuel + 2) depth done first
        (octets (separator first) ++ (octets (fieldLine field) ++ rest))
      = fields (fuel + 1) depth (Fields.set field.1 (.string field.2) done) false rest := by
  rw [← fields_firstLine]
  cases first with
  | true => rfl
  | false => exact fields_separator _ depth done (skipBlanks_fieldLine field rest) quote_ne_brace

theorem fields_brace (fuel depth : Nat) (done : Fields) (behind : Octets) :
    fields (fuel + 1) depth done false (octets "\n\x7d" ++ behind) = .ok (done, behind) := by
  have hbrace : octets "\n\x7d" = [octet '\n', octet '\x7d'] := by decide
  rw [hbrace, fields.eq_def]
  rfl

/-- All fields are read from their lines. -/
theorem fields_lines (depth : Nat) (more : List (String × String)) {fuel : Nat}
    (hfuel : more.length + 1 < fuel) (done : Fields) (first : Bool) (field : String × String)
    (behind : Octets) :
    fields fuel depth done first (octets (separator first)
        ++ (octets (String.intercalate ",\n" (fieldLine field :: more.map fieldLine))
          ++ (octets "\n\x7d" ++ behind)))
      = .ok (putTexts done (field :: more), behind) := by
  induction more generalizing fuel done first field with
  | nil =>
    obtain ⟨fuel, rfl⟩ : ∃ n, fuel = n + 2 := Nat.exists_eq_add_of_le' hfuel
    rw [List.map_nil, String.intercalate_singleton, fields_fieldLine, fields_brace]
    rfl
  | cons next more ih =>
    rw [List.length_cons] at hfuel
    obtain ⟨fuel, rfl⟩ : ∃ n, fuel = n + 2 := ⟨fuel - 2, by omega⟩
    have hlength : more.length + 1 < fuel + 1 := by omega
    rw [putTexts, List.foldl_cons, ← putTexts, ← ih hlength _ false next, ← fields_fieldLine,
      List.map_cons, String.intercalate_cons_cons, octets_append, octets_append]
    simp only [List.append_assoc]
    rfl

end Reader

/-! ## Whole texts -/

open Reader

/-- The fields of an object of texts. -/
def textFields (texts : List (String × String)) : Fields :=
  texts.map fun (key, text) => (key, .string text)

theorem prettyFields_textFields (depth : Nat) (texts : List (String × String)) :
    prettyFields depth (textFields texts)
      = texts.map fun (key, text) => jsonString key ++ ": " ++ jsonString text := by
  induction texts with
  | nil => rfl
  | cons field more ih =>
    rw [textFields, List.map_cons, ← textFields, List.map_cons, prettyFields, ih]
    rfl

/-- An object of texts in print has a field on each line. -/
theorem pretty_textFields (field : String × String) (more : List (String × String)) :
    pretty (.object (textFields (field :: more)))
      = "\x7b\n" ++ String.intercalate ",\n" (fieldLine field :: more.map fieldLine)
        ++ "\n\x7d" := by
  have hindent : "".pushn ' ' 2 = "  " := by decide
  have hnothing : "".pushn ' ' 0 = "" := by decide
  have hopening : "\x7b\n" = "\x7b" ++ "\n" := by decide
  have hclosing : "\n\x7d" = "\n" ++ "\x7d" := by decide
  have hlines : (more.map fun (key, text) => jsonString key ++ ": " ++ jsonString text).map
      ("  " ++ ·) = more.map fieldLine := by
    rw [List.map_map]
    rfl
  rw [pretty, prettyAt, prettyFields_textFields, bracketLines]
  simp only [List.map_cons, List.isEmpty_cons, Bool.false_eq_true, if_false, Nat.mul_zero,
    Nat.zero_add, Nat.mul_one, hindent, hnothing, hlines]
  simp only [hopening, hclosing, fieldLine, String.append_empty, String.append_assoc]

/-- A field more makes the text longer. -/
theorem length_le_lines (field : String × String) (more : List (String × String)) :
    more.length ≤ (octets (String.intercalate ",\n"
      (fieldLine field :: more.map fieldLine))).length := by
  induction more generalizing field with
  | nil => exact Nat.zero_le _
  | cons next more ih =>
    have hmore := ih next
    have hcomma : (octets ",\n").length = 2 := by decide
    rw [List.map_cons, String.intercalate_cons_cons, octets_append, octets_append,
      List.length_cons, List.length_append, List.length_append, hcomma]
    omega

theorem value_pretty (field : String × String) (more : List (String × String)) {fuel : Nat}
    (hfuel : more.length + 1 < fuel) (depth : Nat) (behind : Octets) :
    value (fuel + 1) (depth + 1)
        (octets (pretty (.object (textFields (field :: more)))) ++ behind)
      = .ok (.object (putTexts [] (field :: more)), behind) := by
  let lines := octets (String.intercalate ",\n" (fieldLine field :: more.map fieldLine))
  have hopening : octets "\x7b\n" = [octet '\x7b', octet '\n'] := by decide
  have hnothing : octets (separator true) = [] := by decide
  have hlines := fields_lines depth more hfuel [] true field behind
  rw [hnothing, List.nil_append] at hlines
  -- the line break behind the brace is skipped
  have hbreak : fields fuel depth [] true (octet '\n' :: (lines ++ (octets "\n\x7d" ++ behind)))
      = fields fuel depth [] true (lines ++ (octets "\n\x7d" ++ behind)) := by
    rw [fields.eq_def, fields.eq_def fuel depth [] true (lines ++ _)]
    rfl
  have hvalue : value (fuel + 1) (depth + 1)
      ([octet '\x7b', octet '\n'] ++ lines ++ octets "\n\x7d" ++ behind)
      = (fields fuel depth [] true (octet '\n' :: (lines ++ octets "\n\x7d" ++ behind)) >>=
          fun fields => .ok (.object fields.1, fields.2)) := by
    rw [value.eq_def]
    rfl
  rw [pretty_textFields, octets_append, octets_append, hopening, hvalue, List.append_assoc,
    hbreak, hlines]
  rfl

/-- An object of texts is read back from its print, each text under its key. -/
theorem read_pretty_textFields (texts : List (String × String)) :
    read (pretty (.object (textFields texts)) ++ "\n") = .ok (.object (putTexts [] texts)) := by
  have hdocument : document (octets (pretty (.object (textFields texts)) ++ "\n"))
      = .ok (.object (putTexts [] texts)) := by
    cases texts with
    | nil => rfl
    | cons field more =>
      have hend : octets "\n" = [octet '\n'] := by decide
      have hfuel : more.length + 1 < 2 * (octets (pretty (.object (textFields (field :: more))))
          ++ [octet '\n']).length := by
        have hmore := length_le_lines field more
        rw [pretty_textFields, octets_append, octets_append]
        simp only [List.length_append, List.length_cons]
        omega
      rw [document, octets_append, hend, maxDepth, value_pretty field more hfuel]
      rfl
  rw [read, toList_toUTF8, hdocument]

end RelatedFilter.Json
