/-
  RelatedFilter.Proofs.Sql.Lexer

  A lexer for SQL text that knows nothing of filters: a machine over the
  characters that is either between two tokens or inside one.  A text opens with
  a quote; inside, a backslash escapes one character and two quotes are one; it
  ends at the first quote that no other quote follows.

  Main statement: a text that was put together from tokens is cut into the same
  tokens again (`lex_pieces`), whatever the content of its quoted texts, as long
  as no token can be continued by the character behind it.
-/
import RelatedFilter.Identifier
import RelatedFilter.Sql.Literal

namespace RelatedFilter.Sql

/-- A token.  Words are names as well as keywords. -/
inductive Token where
  | word (name : String)
  | numeral (digits : String)
  | text (content : String)
  | mark (c : Char)
deriving DecidableEq, Repr

/-- The token without the content of a numeral or a text. -/
def Token.shape : Token → Token
  | .numeral _ => .numeral ""
  | .text _ => .text ""
  | t => t

@[simp] theorem Token.shape_word (name : String) : (word name).shape = word name := rfl

@[simp] theorem Token.shape_text (content : String) : (text content).shape = text "" := rfl

@[simp] theorem Token.shape_mark (c : Char) : (mark c).shape = mark c := rfl

/-! ## The machine -/

/-- The characters that are tokens of their own. -/
def isMark (c : Char) : Bool :=
  c == '(' || c == ')' || c == '.' || c == '='

/-- The characters of numerals. -/
def isNumeralChar (c : Char) : Bool :=
  c.isDigit || c == '.' || c == 'e' || c == 'E' || c == '+' || c == '-'

/-- What a token that starts with a digit or a sign may go on with. -/
def isBareChar (c : Char) : Bool :=
  isNameChar c || c == '.' || c == '+' || c == '-'

/-- The numeral or the name that stands bare and starts with a digit or a sign. -/
def bareToken? (run : List Char) : Option Token :=
  if run.all isNumeralChar then some (.numeral (String.ofList run))
  else if run.all isNameChar then some (.word (String.ofList run))
  else none

/-- What a character behind a backslash stands for. -/
def escaped (c : Char) : List Char :=
  if c = '0' then ['\x00']
  else if c = 'b' then ['\x08']
  else if c = 'n' then ['\n']
  else if c = 'r' then ['\r']
  else if c = 't' then ['\t']
  else if c = 'Z' then ['\x1a']
  else if c = '%' ∨ c = '_' then ['\\', c]
  else [c]

/-- Where the lexer stands, with what it has read of the token. -/
inductive Mode where
  | between
  | mark (c : Char)
  | word (seen : List Char)
  /-- In a token that starts with a digit or a sign. -/
  | bare (seen : List Char)
  | text (seen : List Char)
  /-- In a text, behind a backslash. -/
  | escape (seen : List Char)
  /-- Behind a quote in a text: its end, or the first of two. -/
  | quote (seen : List Char)
deriving DecidableEq, Repr

namespace Mode

/-- The mode behind a character that belongs to the same token. -/
def continue? : Mode → Char → Option Mode
  | .between, _ | .mark _, _ => none
  | .word seen, c => if isNameChar c then some (.word (seen ++ [c])) else none
  | .bare seen, c => if isBareChar c then some (.bare (seen ++ [c])) else none
  | .text seen, c =>
    if c = '\\' then some (.escape seen)
    else if c = '\'' then some (.quote seen)
    else some (.text (seen ++ [c]))
  | .escape seen, c => some (.text (seen ++ escaped c))
  | .quote seen, c => if c = '\'' then some (.text (seen ++ ['\''])) else none

/-- The tokens that are complete if no more characters belong to the last one. -/
def finish : Mode → Option (List Token)
  | .between => some []
  | .mark c => some [.mark c]
  | .word seen => some [.word (String.ofList seen)]
  | .bare seen => (bareToken? seen).map ([·])
  | .text _ | .escape _ => none
  | .quote seen => some [.text (String.ofList seen)]

/-- The mode behind a first character. -/
def start (c : Char) : Option Mode :=
  if c.isWhitespace then some .between
  else if isMark c then some (.mark c)
  else if c = '\'' then some (.text [])
  else if isNameStart c then some (.word [c])
  else if c.isDigit || c == '-' then some (.bare [c])
  else none

@[simp] theorem continue?_between (c : Char) : between.continue? c = none := rfl

@[simp] theorem finish_between : between.finish = some [] := rfl

end Mode

/-- The tokens of the characters behind those that led to a mode, with the
    token that the mode is in. -/
def lexFrom : Mode → List Char → Option (List Token)
  | mode, [] => mode.finish
  | mode, c :: rest =>
    match mode.continue? c with
    | some mode => lexFrom mode rest
    | none => do
      let done ← mode.finish
      let mode ← Mode.start c
      return done ++ (← lexFrom mode rest)

/-- The tokens of a text, none if it is no SQL text. -/
def lex (text : String) : Option (List Token) :=
  lexFrom .between text.toList

/-! ## Runs of the machine -/

theorem lexFrom_continue {mode next : Mode} {c : Char} (rest : List Char)
    (h : mode.continue? c = some next) : lexFrom mode (c :: rest) = lexFrom next rest := by
  rw [lexFrom, h]

theorem lexFrom_start {c : Char} {mode : Mode} (rest : List Char) (h : Mode.start c = some mode) :
    lexFrom .between (c :: rest) = lexFrom mode rest := by
  simp [lexFrom, h]

/-- A token that the next character does not continue is complete. -/
theorem lexFrom_of_ends {mode : Mode} {done : List Token} {rest : List Char}
    (hdone : mode.finish = some done) (hends : ∀ c ∈ rest.head?, mode.continue? c = none) :
    lexFrom mode rest = (lexFrom .between rest).map (done ++ ·) := by
  cases rest with
  | nil => simp [lexFrom, hdone]
  | cons c rest =>
    have hc : mode.continue? c = none := hends c rfl
    simp only [lexFrom, hc, hdone, Mode.continue?_between, Mode.finish_between]
    cases Mode.start c with
    | none => rfl
    | some next => cases h : lexFrom next rest <;> simp [h]

/-- The characters that a token goes on with are taken one after the other. -/
theorem lexFrom_run {mode : List Char → Mode} {goesOn : Char → Bool}
    (hstep : ∀ seen c, goesOn c = true → (mode seen).continue? c = some (mode (seen ++ [c])))
    (seen run rest : List Char) (hrun : run.all goesOn = true) :
    lexFrom (mode seen) (run ++ rest) = lexFrom (mode (seen ++ run)) rest := by
  induction run generalizing seen with
  | nil => simp
  | cons c run ih =>
    simp only [List.all_cons, Bool.and_eq_true] at hrun
    rw [List.cons_append, lexFrom_continue _ (hstep seen c hrun.1), ih _ hrun.2,
      List.append_assoc]
    rfl

/-- Inside a text the lexer follows the quoting of each character. -/
theorem lexFrom_text (seen content rest : List Char) :
    lexFrom (.text seen) (content.flatMap quotedChar ++ rest)
      = lexFrom (.text (seen ++ content)) rest := by
  induction content generalizing seen with
  | nil => simp
  | cons c content ih =>
    -- a character is quoted as itself or as two; behind it the lexer is in the text again
    have hc : lexFrom (.text seen) (quotedChar c ++ (content.flatMap quotedChar ++ rest))
        = lexFrom (.text (seen ++ [c])) (content.flatMap quotedChar ++ rest) := by
      unfold quotedChar
      split
      · subst c
        rfl
      · split
        · subst c
          rfl
        · rename_i hbackslash hquote
          exact lexFrom_continue _ (by simp [Mode.continue?, hbackslash, hquote])
    rw [List.flatMap_cons, List.append_assoc, hc, ih, List.append_assoc]
    rfl

/-! ## First characters -/

/-- No character of a class is one outside it. -/
private theorem ne_of_class {p : Char → Bool} {c x : Char} (hc : p c = true) (hx : p x = false) :
    c ≠ x := by
  rintro rfl
  rw [hc] at hx
  cases hx

/-- A character of a class is in no class whose members are outside it. -/
private theorem eq_false_of_class {p q : Char → Bool} {members : List Char}
    (hmembers : ∀ c, q c = true → c ∈ members) {c : Char} (hc : p c = true)
    (houtside : members.any p = false) : q c = false := by
  rw [Bool.eq_false_iff]
  intro hq
  rw [List.any_eq_true.mpr ⟨c, hmembers c hq, hc⟩] at houtside
  cases houtside

private theorem mem_of_isWhitespace (c : Char) (h : c.isWhitespace = true) :
    c ∈ [' ', '\t', '\r', '\n'] := by
  simpa [Char.isWhitespace, or_assoc] using h

private theorem mem_of_isMark (c : Char) (h : isMark c = true) : c ∈ ['(', ')', '.', '='] := by
  simpa [isMark, or_assoc] using h

theorem start_of_isMark {c : Char} (h : isMark c = true) : Mode.start c = some (.mark c) := by
  have hblank := eq_false_of_class mem_of_isWhitespace h (by decide)
  simp [Mode.start, hblank, h]

theorem start_of_isNameStart {c : Char} (h : isNameStart c = true) :
    Mode.start c = some (.word [c]) := by
  have hblank := eq_false_of_class mem_of_isWhitespace h (by decide)
  have hmark := eq_false_of_class mem_of_isMark h (by decide)
  have hquote : c ≠ '\'' := ne_of_class h (by decide)
  simp [Mode.start, hblank, hmark, hquote, h]

/-- The characters that numerals, and names with a digit in front, start with. -/
def isBareStart (c : Char) : Bool :=
  c.isDigit || c == '-'

theorem start_of_isBareStart {c : Char} (h : isBareStart c = true) (hname : isNameStart c = false) :
    Mode.start c = some (.bare [c]) := by
  have hblank := eq_false_of_class mem_of_isWhitespace h (by decide)
  have hmark := eq_false_of_class mem_of_isMark h (by decide)
  have hquote : c ≠ '\'' := ne_of_class h (by decide)
  have hdigit : c.isDigit = true ∨ c = '-' := by simpa [isBareStart] using h
  simp [Mode.start, hblank, hmark, hquote, hname, hdigit]

/-! ## Tokens in writing -/

namespace Token

/-- The characters of a token. -/
def chars : Token → List Char
  | .word name => name.toList
  | .numeral digits => digits.toList
  | .text content => (Sql.quote content).toList
  | .mark c => [c]

@[simp] theorem chars_word (name : String) : (word name).chars = name.toList := rfl

@[simp] theorem chars_text (content : String) : (text content).chars = (Sql.quote content).toList :=
  rfl

@[simp] theorem chars_mark (c : Char) : (mark c).chars = [c] := rfl

/-- The mode behind the characters of a token. -/
def mode : Token → Mode
  | .word name => if name.toList.head?.any isNameStart then .word name.toList else .bare name.toList
  | .numeral digits => .bare digits.toList
  | .text content => .quote content.toList
  | .mark c => .mark c

end Token

/-- A name that can stand bare: name characters, and not a numeral unless a
    letter or an underscore comes first. -/
structure IsBareName (name : List Char) : Prop where
  nonempty : name ≠ []
  plain : name.all isNameChar = true
  no_numeral : name.head?.any isNameStart = true ∨ name.all isNumeralChar = false

/-- A numeral: it starts with a digit or a sign and goes on with digits, points,
    exponents and signs. -/
structure IsNumeral (digits : List Char) : Prop where
  first : digits.head?.any isBareStart = true
  plain : digits.all isNumeralChar = true

/-- A token that is read back from its characters. -/
def Token.Plain : Token → Prop
  | .word name => IsBareName name.toList
  | .numeral digits => IsNumeral digits.toList
  | .text _ => True
  | .mark c => isMark c = true

theorem isBareChar_of_isNameChar {c : Char} (h : isNameChar c = true) : isBareChar c = true := by
  simp [isBareChar, h]

theorem isBareChar_of_isNumeralChar {c : Char} (h : isNumeralChar c = true) :
    isBareChar c = true := by
  simp only [isNumeralChar, Bool.or_eq_true, beq_iff_eq] at h
  rcases h with ((((h | rfl) | rfl) | rfl) | rfl) | rfl
  · simp [isBareChar, isNameChar, Char.isAlphanum, h]
  all_goals decide

theorem isNameStart_eq_false_of_isBareStart {c : Char} (h : isBareStart c = true) :
    isNameStart c = false := by
  simp only [isBareStart, Bool.or_eq_true, beq_iff_eq] at h
  rcases h with h | rfl
  · have hc : c ≠ '_' := ne_of_class h (by decide)
    have halpha : c.isAlpha
        = (decide (c.val ≥ 65 ∧ c.val ≤ 90) || (c.val ≥ 97 && c.val ≤ 122)) := rfl
    simp only [Char.isDigit, Bool.and_eq_true, decide_eq_true_eq] at h
    simp [isNameStart, halpha, hc]
    grind
  · decide

/-- A name character that starts no name is a digit. -/
theorem isBareStart_of_isNameChar {c : Char} (h : isNameChar c = true)
    (hstart : isNameStart c = false) : isBareStart c = true := by
  simp only [isNameStart, Bool.or_eq_false_iff] at hstart
  simp only [isNameChar, Char.isAlphanum, hstart, Bool.false_or, Bool.or_false] at h
  simp [isBareStart, h]

namespace Token

/-- The characters of a token lead into the token. -/
theorem lexFrom_chars (t : Token) (ht : t.Plain) (rest : List Char) :
    lexFrom .between (t.chars ++ rest) = lexFrom t.mode rest := by
  cases t with
  | word name =>
    obtain ⟨hne, hplain, -⟩ := ht
    simp only [chars, mode]
    cases hname : name.toList with
    | nil => exact absurd hname hne
    | cons c run =>
      simp only [hname, List.all_cons, Bool.and_eq_true] at hplain
      by_cases hc : isNameStart c = true
      · rw [List.cons_append, lexFrom_start _ (start_of_isNameStart hc), if_pos (by simp [hc])]
        exact lexFrom_run (fun seen c h => by simp [Mode.continue?, h]) [c] run rest hplain.2
      · -- with a digit in front, a name is read like a numeral
        have hc : isNameStart c = false := by simpa using hc
        have hbare : run.all isBareChar = true := by
          rw [List.all_eq_true] at hplain ⊢
          exact fun d hd => isBareChar_of_isNameChar (hplain.2 d hd)
        have hfirst := start_of_isBareStart (isBareStart_of_isNameChar hplain.1 hc) hc
        rw [List.cons_append, lexFrom_start _ hfirst, if_neg (by simp [hc])]
        exact lexFrom_run (fun seen c h => by simp [Mode.continue?, h]) [c] run rest hbare
  | numeral digits =>
    obtain ⟨hfirst, hplain⟩ := ht
    simp only [chars, mode]
    cases hdigits : digits.toList with
    | nil => simp [hdigits] at hfirst
    | cons c run =>
      simp only [hdigits, List.all_cons, Bool.and_eq_true] at hplain
      have hc : isBareStart c = true := by simpa [hdigits] using hfirst
      have hbare : run.all isBareChar = true := by
        rw [List.all_eq_true] at hplain ⊢
        exact fun d hd => isBareChar_of_isNumeralChar (hplain.2 d hd)
      rw [List.cons_append,
        lexFrom_start _ (start_of_isBareStart hc (isNameStart_eq_false_of_isBareStart hc))]
      exact lexFrom_run (fun seen c h => by simp [Mode.continue?, h]) [c] run rest hbare
  | text content =>
    have hquote : Mode.start '\'' = some (.text []) := by decide
    simp only [chars, mode, Sql.quote, String.toList_ofList, List.cons_append, List.append_assoc]
    rw [lexFrom_start _ hquote, lexFrom_text]
    exact lexFrom_continue _ rfl
  | mark c => exact lexFrom_start _ (start_of_isMark ht)

/-- Behind the characters of a token, just this token is complete. -/
theorem finish_mode (t : Token) (ht : t.Plain) : t.mode.finish = some [t] := by
  cases t with
  | word name =>
    simp only [mode]
    split
    · simp [Mode.finish]
    · -- a name with a digit in front has a character that is in no numeral
      rename_i hstart
      have hnum : name.toList.all isNumeralChar = false :=
        ht.no_numeral.resolve_left hstart
      simp [Mode.finish, bareToken?, hnum, ht.plain]
  | numeral digits => simp [mode, Mode.finish, bareToken?, ht.plain]
  | text content => simp [mode, Mode.finish]
  | mark c => rfl

end Token

/-- A token is read off the front of a text that does not continue it. -/
theorem lexFrom_token {t : Token} {rest : List Char} (ht : t.Plain)
    (hends : ∀ c ∈ rest.head?, t.mode.continue? c = none) :
    lexFrom .between (t.chars ++ rest) = (lexFrom .between rest).map (t :: ·) := by
  rw [t.lexFrom_chars ht, lexFrom_of_ends (t.finish_mode ht) hends]
  rfl

/-! ## Texts made of tokens -/

/-- A part of a text: a blank or a token. -/
inductive Piece where
  | blank
  | token (t : Token)
deriving DecidableEq, Repr

namespace Piece

abbrev word (name : String) : Piece := .token (.word name)

abbrev mark (c : Char) : Piece := .token (.mark c)

def chars : Piece → List Char
  | .blank => [' ']
  | .token t => t.chars

def token? : Piece → Option Token
  | .blank => none
  | .token t => some t

@[simp] theorem chars_blank : blank.chars = [' '] := rfl

@[simp] theorem chars_token (t : Token) : (token t).chars = t.chars := rfl

end Piece

/-- The characters of pieces, one after the other. -/
def spell (pieces : List Piece) : List Char :=
  pieces.flatMap Piece.chars

/-- The tokens among pieces. -/
def tokens (pieces : List Piece) : List Token :=
  pieces.filterMap Piece.token?

/-- Pieces whose tokens are plain, none of them continued by what follows. -/
def Tidy : List Piece → Prop
  | [] => True
  | .blank :: rest => Tidy rest
  | .token t :: rest =>
    t.Plain ∧ (∀ c ∈ (spell rest).head?, t.mode.continue? c = none) ∧ Tidy rest

theorem lexFrom_pieces {pieces : List Piece} (h : Tidy pieces) :
    lexFrom .between (spell pieces) = some (tokens pieces) := by
  induction pieces with
  | nil => rfl
  | cons piece rest ih =>
    cases piece with
    | blank =>
      have hblank : lexFrom .between (' ' :: spell rest) = lexFrom .between (spell rest) :=
        lexFrom_start _ (by decide)
      exact hblank.trans (ih h)
    | token t =>
      obtain ⟨ht, hends, hrest⟩ := h
      have hspell : spell (.token t :: rest) = t.chars ++ spell rest := rfl
      rw [hspell, lexFrom_token ht hends, ih hrest]
      rfl

/-- A text made of tidy pieces has their tokens. -/
theorem lex_pieces {text : String} {pieces : List Piece} (htext : text.toList = spell pieces)
    (h : Tidy pieces) : lex text = some (tokens pieces) := by
  rw [lex, htext, lexFrom_pieces h]

/-! ## Tidy pieces -/

@[simp] theorem spell_nil : spell [] = [] := rfl

@[simp] theorem spell_cons (piece : Piece) (rest : List Piece) :
    spell (piece :: rest) = piece.chars ++ spell rest := rfl

@[simp] theorem spell_append (front rest : List Piece) :
    spell (front ++ rest) = spell front ++ spell rest :=
  List.flatMap_append

@[simp] theorem tokens_nil : tokens [] = [] := rfl

@[simp] theorem tokens_blank (rest : List Piece) : tokens (.blank :: rest) = tokens rest := rfl

@[simp] theorem tokens_token (t : Token) (rest : List Piece) :
    tokens (.token t :: rest) = t :: tokens rest := rfl

@[simp] theorem tokens_append (front rest : List Piece) :
    tokens (front ++ rest) = tokens front ++ tokens rest :=
  List.filterMap_append

/-- A character that no token goes on with. -/
def isEnd (c : Char) : Bool :=
  !isBareChar c && c != '\''

theorem continue?_of_isEnd (t : Token) {c : Char} (h : isEnd c = true) :
    t.mode.continue? c = none := by
  simp only [isEnd, Bool.and_eq_true, Bool.not_eq_true', bne_iff_ne] at h
  have hname : isNameChar c = false := by
    refine Bool.eq_false_iff.mpr fun hc => ?_
    rw [isBareChar_of_isNameChar hc] at h
    cases h.1
  cases t with
  | word name =>
    simp only [Token.mode]
    split
    · simp [Mode.continue?, hname]
    · simp [Mode.continue?, h.1]
  | numeral digits => simp [Token.mode, Mode.continue?, h.1]
  | text content => simp [Token.mode, Mode.continue?, h.2]
  | mark d => rfl

/-- Pieces in front of which any token may stand. -/
def Apart (pieces : List Piece) : Prop :=
  ∀ c ∈ (spell pieces).head?, isEnd c = true

theorem tidy_token_of_apart {t : Token} {rest : List Piece} (ht : t.Plain) (hrest : Tidy rest)
    (hapart : Apart rest) : Tidy (.token t :: rest) :=
  ⟨ht, fun c hc => continue?_of_isEnd t (hapart c hc), hrest⟩

theorem apart_blank (rest : List Piece) : Apart (.blank :: rest) := by
  intro c hc
  obtain rfl : ' ' = c := by simpa using hc
  rfl

@[simp] theorem tidy_blank {rest : List Piece} : Tidy (.blank :: rest) ↔ Tidy rest := Iff.rfl

@[simp] theorem tidy_mark {c : Char} {rest : List Piece} :
    Tidy (.mark c :: rest) ↔ isMark c = true ∧ Tidy rest :=
  ⟨fun h => ⟨h.1, h.2.2⟩, fun h => ⟨h.1, fun _ _ => rfl, h.2⟩⟩

@[simp] theorem tidy_token_blank {t : Token} {rest : List Piece} :
    Tidy (.token t :: .blank :: rest) ↔ t.Plain ∧ Tidy rest :=
  ⟨fun h => ⟨h.1, h.2.2⟩, fun h => tidy_token_of_apart h.1 h.2 (apart_blank rest)⟩

@[simp] theorem tidy_token_bracket {t : Token} {rest : List Piece} :
    Tidy (.token t :: .mark ')' :: rest) ↔ t.Plain ∧ Tidy rest := by
  refine ⟨fun h => ⟨h.1, (tidy_mark.mp h.2.2).2⟩, fun h => ?_⟩
  refine tidy_token_of_apart h.1 (tidy_mark.mpr ⟨rfl, h.2⟩) fun c hc => ?_
  obtain rfl : ')' = c := by simpa using hc
  rfl

/-- An identifier is a plain word, also in front of a point. -/
theorem isBareName_of_isIdentifier {name : String} (h : isIdentifier name = true) :
    IsBareName name.toList ∧ name.toList.head?.any isNameStart = true := by
  unfold isIdentifier at h
  cases hname : name.toList with
  | nil => simp [hname] at h
  | cons c rest =>
    simp only [hname, Bool.and_eq_true] at h
    have hstart : (c :: rest).head?.any isNameStart = true := by simpa using h.1
    refine ⟨⟨by simp, ?_, Or.inl hstart⟩, hstart⟩
    simp [isNameChar_of_isNameStart h.1, h.2]

theorem plain_word_of_isIdentifier {name : String} (h : isIdentifier name = true) :
    (Token.word name).Plain :=
  (isBareName_of_isIdentifier h).1

theorem tidy_word_point {name : String} {rest : List Piece} (h : isIdentifier name = true) :
    Tidy (.word name :: .mark '.' :: rest) ↔ Tidy rest := by
  refine ⟨fun hall => (tidy_mark.mp hall.2.2).2, fun hrest => ?_⟩
  refine ⟨plain_word_of_isIdentifier h, fun c hc => ?_, tidy_mark.mpr ⟨rfl, hrest⟩⟩
  obtain rfl : '.' = c := by simpa using hc
  simp [Token.mode, (isBareName_of_isIdentifier h).2, Mode.continue?]
  decide

end RelatedFilter.Sql
