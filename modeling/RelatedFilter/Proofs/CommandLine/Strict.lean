/-
  RelatedFilter.Proofs.CommandLine.Strict

  What `--strict` changes about a run.  Reading the arguments goes option by
  option (`readFrom_cons`), and an option says the same whatever was given before;
  so the flag, wherever it is put in, changes nothing but itself
  (`strictForm_insert`).  All stages of a run but the check are the same with and
  without it.  Together with what the check says of a compiled filter, a strict
  run gives back what the run without the flag does, or refuses a segment that
  this one leaves out (`strict_check_agrees`).
-/
import RelatedFilter.CommandLine.Run
import RelatedFilter.Proofs.Query.Check

namespace RelatedFilter.CommandLine

/-! ## Reading option by option -/

/-- One option as it is given. -/
inductive Item where
  | strict
  | setting (s : Setting) (value : String)
deriving DecidableEq

/-- What an argument says by itself. -/
inductive Opening where
  | misuse
  | help
  | version
  | endOfOptions
  | item (i : Item)
  /-- The value is in the next argument. -/
  | awaitsValue (s : Setting)
deriving DecidableEq

def Word.opening : Word → Opening
  | .endOfOptions => .endOfOptions
  | .plain => .misuse
  | .short letter => if letter == 'h' then .help else if letter == 'V' then .version else .misuse
  | .long name none =>
    if name == "help" then .help
    else if name == "version" then .version
    else if name == "strict" then .item .strict
    else
      match Setting.ofName? name with
      | some s => .awaitsValue s
      | none => .misuse
  | .long name (some value) =>
    match Setting.ofName? name with
    | some s => .item (.setting s value)
    | none => .misuse

/-- What an argument comes to, with those behind it. -/
inductive Step where
  | misuse
  | help
  | version
  /-- All options were given. -/
  | finish
  | take (item : Item) (rest : List String)

def Opening.step : Opening → List String → Step
  | .misuse, _ => .misuse
  | .help, _ => .help
  | .version, _ => .version
  | .endOfOptions, rest => if rest.isEmpty then .finish else .misuse
  | .item i, rest => .take i rest
  | .awaitsValue s, value :: rest =>
    if Word.ofArgument value == .plain then .take (.setting s value) rest else .misuse
  | .awaitsValue _, [] => .misuse

/-- Takes an option, unless it was given before. -/
def Given.take? (g : Given) : Item → Option Given
  | .strict => if g.strict then none else some { g with strict := true }
  | .setting s value => g.add s value

/-- Goes on reading from an argument. -/
def Step.demand (g : Given) : Step → Demand
  | .misuse => .misuse
  | .help => .help
  | .version => .version
  | .finish => .run g.arguments
  | .take i rest =>
    match g.take? i with
    | some g => readFrom g rest
    | none => .misuse

theorem readFrom_cons (g : Given) (argument : String) (rest : List String) :
    readFrom g (argument :: rest) = ((Word.ofArgument argument).opening.step rest).demand g := by
  rw [readFrom.eq_def]
  dsimp only
  cases Word.ofArgument argument with
  | endOfOptions => cases rest <;> rfl
  | plain => rfl
  | short letter =>
    by_cases hhelp : letter == 'h'
    · simp [Word.opening, Opening.step, Step.demand, hhelp]
    by_cases hversion : letter == 'V' <;>
      simp [Word.opening, Opening.step, Step.demand, hhelp, hversion]
  | long name value =>
    cases value with
    | some value =>
      simp only [Word.opening]
      cases Setting.ofName? name with
      | none => rfl
      | some s => cases hadd : g.add s value <;> simp [Opening.step, Step.demand, Given.take?, hadd]
    | none =>
      by_cases hhelp : name == "help"
      · simp [Word.opening, Opening.step, Step.demand, hhelp]
      by_cases hversion : name == "version"
      · simp [Word.opening, Opening.step, Step.demand, hhelp, hversion]
      by_cases hstrict : name == "strict"
      · cases hgiven : g.strict <;>
          simp [Word.opening, Opening.step, Step.demand, Given.take?, hhelp, hversion, hstrict,
            hgiven]
      simp only [Word.opening, hhelp, hversion, hstrict, Bool.false_eq_true, if_false]
      cases Setting.ofName? name with
      | none => rfl
      | some s =>
        cases rest with
        | nil => rfl
        | cons value rest =>
          by_cases hplain : Word.ofArgument value == .plain
          · cases hadd : g.add s value <;>
              simp [Opening.step, Step.demand, Given.take?, hplain, hadd]
          · simp [Opening.step, Step.demand, hplain]

/-! ## The flag among the arguments -/

/-- The same options with the flag. -/
def Given.asStrict (g : Given) : Given := { g with strict := true }

def Arguments.asStrict (a : Arguments) : Arguments := { a with strict := true }

def Demand.asStrict : Demand → Demand
  | .run a => .run a.asStrict
  | demand => demand

/-- What is asked for with the flag, where the flag makes sense. -/
def Demand.StrictForm (lax strict : Demand) : Prop :=
  strict = .misuse ∨ strict = lax.asStrict

/-- With the flag, an option is taken as without it, or is the flag again. -/
theorem Given.take?_asStrict (g : Given) (item : Item) :
    g.asStrict.take? item = none ∨ g.asStrict.take? item = (g.take? item).map asStrict := by
  cases item with
  | strict => exact .inl rfl
  | setting s value =>
    refine .inr ?_
    simp only [take?, add, value?, asStrict]
    by_cases h : (s.accepts value && (List.lookup s g.values).isNone) = true <;>
      simp [h, asStrict]

/-- An option leaves no more arguments than there are behind it. -/
theorem Opening.length_of_step {opening : Opening} {rest rest' : List String} {item : Item}
    (h : opening.step rest = .take item rest') : rest'.length ≤ rest.length := by
  cases opening with
  | misuse | help | version => cases h
  | endOfOptions => cases rest <;> cases h
  | item i =>
    obtain ⟨-, rfl⟩ := Step.take.inj h
    exact Nat.le_refl _
  | awaitsValue s =>
    cases rest with
    | nil => cases h
    | cons value rest =>
      simp only [step] at h
      split at h
      · obtain ⟨-, rfl⟩ := Step.take.inj h
        exact Nat.le_succ _
      · cases h

/-- Once the flag is given, it makes no difference to what follows, unless it is given
    again. -/
theorem strictForm_asStrict (g : Given) (arguments : List String) :
    (readFrom g arguments).StrictForm (readFrom g.asStrict arguments) := by
  -- an option may take the next argument along, so the induction is on their number
  induction hlength : arguments.length using Nat.strongRecOn generalizing g arguments with
  | _ n ih =>
    cases arguments with
    | nil => exact .inr rfl
    | cons argument rest =>
      rw [readFrom_cons, readFrom_cons]
      cases hstep : (Word.ofArgument argument).opening.step rest with
      | misuse => exact .inr rfl
      | help => exact .inr rfl
      | version => exact .inr rfl
      | finish => exact .inr rfl
      | take item rest' =>
        simp only [Step.demand]
        rcases g.take?_asStrict item with hnone | hsame
        · exact .inl (by simp only [hnone])
        · simp only [hsame]
          cases g.take? item with
          | none => exact .inr rfl
          | some g' =>
            have hshorter := Opening.length_of_step hstep
            exact ih rest'.length (by simp at hlength; omega) g' rest' rfl

/-- What an argument comes to without the flag somewhere behind it, and with it. -/
inductive Step.Inserted (before after : List String) : Step → Step → Prop
  | misuse (lax : Step) : Inserted before after lax .misuse
  | help : Inserted before after .help .help
  | version : Inserted before after .version .version
  | take (item : Item) {before' : List String} (hlength : before'.length ≤ before.length) :
      Inserted before after (.take item (before' ++ after))
        (.take item (before' ++ "--strict" :: after))

theorem Opening.inserted_step (opening : Opening) (before after : List String) :
    Step.Inserted before after (opening.step (before ++ after))
      (opening.step (before ++ "--strict" :: after)) := by
  cases opening with
  | misuse => exact .misuse _
  | help => exact .help
  | version => exact .version
  | endOfOptions =>
    have hbehind : (before ++ "--strict" :: after).isEmpty = false := by simp
    simp only [step, hbehind]
    exact .misuse _
  | item i => exact .take i (Nat.le_refl _)
  | awaitsValue s =>
    cases before with
    | nil => exact .misuse _
    | cons value before =>
      simp only [List.cons_append, step]
      cases Word.ofArgument value == .plain with
      | false => exact .misuse _
      | true => exact .take _ (Nat.le_succ _)

/-- The flag can be put in anywhere, where it makes sense there. -/
theorem strictForm_insert (g : Given) (before after : List String) :
    (readFrom g (before ++ after)).StrictForm (readFrom g (before ++ "--strict" :: after)) := by
  induction hlength : before.length using Nat.strongRecOn generalizing g before with
  | _ n ih =>
    cases before with
    | nil =>
      -- the flag itself
      have hflag : (Word.ofArgument "--strict").opening = .item .strict := by decide +kernel
      rw [List.nil_append, List.nil_append, readFrom_cons, hflag]
      simp only [Opening.step, Step.demand, Given.take?]
      cases g.strict with
      | true => exact .inl rfl
      | false => exact strictForm_asStrict g after
    | cons argument before =>
      rw [List.cons_append, List.cons_append, readFrom_cons, readFrom_cons]
      have hinserted := (Word.ofArgument argument).opening.inserted_step before after
      generalize (Word.ofArgument argument).opening.step (before ++ after) = lax at hinserted ⊢
      generalize (Word.ofArgument argument).opening.step (before ++ "--strict" :: after) = strict
        at hinserted ⊢
      cases hinserted with
      | misuse => exact .inl rfl
      | help => exact .inr rfl
      | version => exact .inr rfl
      | @take item before' hshorter =>
        simp only [Step.demand]
        cases g.take? item with
        | none => exact .inl rfl
        | some g' => exact ih before'.length (by simp at hlength; omega) g' before' rfl

/-! ## Runs with the flag -/

/-- Preparing a run does not look at its arguments. -/
theorem prepared_withArguments (i : Invocation) (arguments : List String) :
    ({ i with arguments := arguments } : Invocation).prepared
      = i.prepared.map ({ · with arguments := arguments }) := by
  simp only [Invocation.prepared]
  cases i.files ".env" with
  | error cause => rfl
  | ok octets => cases hfill : i.environment.fill octets <;> simp [hfill]

section
variable (yaml : Yaml.Reader)

/-- What a prepared run gives back that was asked for something. -/
def outcome (i : Invocation) : Demand → Outcome
  | .help => ⟨0, helpText, ""⟩
  | .version => ⟨0, versionText, ""⟩
  | .misuse => ⟨2, "", usageText⟩
  | .run a =>
    match compile yaml i a with
    | .ok query => ⟨0, a.format.write query, ""⟩
    | .error failure => ⟨1, "", "Error: " ++ failure.message ++ "\n"⟩

theorem runWith_withArguments (i : Invocation) (arguments : List String) :
    runWith yaml { i with arguments := arguments }
      = (i.prepared.map (outcome yaml · (read arguments))).getD unprepared := by
  rw [runWith, prepared_withArguments]
  cases i.prepared with
  | none => rfl
  | some j =>
    simp only [Option.map_some, Option.getD_some]
    cases read arguments <;> rfl

/-- All that a filter is compiled from. -/
def sources (i : Invocation) (a : Arguments) :
    Except Failure (Settings × Registry × Specification) := do
  let s ← settings yaml i a
  let r ← registry yaml i a s
  let spec ← specification i a
  return (s, r, spec)

/-- No stage before the check looks at the flag. -/
theorem sources_asStrict (i : Invocation) (a : Arguments) :
    sources yaml i a.asStrict = sources yaml i a := rfl

/-- Compiles a specification, and checks the filter if that is asked for. -/
def compileFrom (strict : Bool) (s : Settings) (r : Registry) (spec : Specification) :
    Except Failure Query := do
  let query := Query.compile r.catalog s.base spec
  if strict then (query.check r.catalog s.base).mapError .unresolved
  return query

/-- Only the last stage of a run depends on the flag. -/
theorem compile_eq_compileFrom (i : Invocation) (a : Arguments) :
    compile yaml i a = (sources yaml i a >>= fun (s, r, spec) =>
      compileFrom a.strict s r spec) := by
  simp only [sources, bind_assoc, pure_bind]
  rfl

/-- Where a run writes a filter that leaves out a valid segment, the strict run writes
    nothing and names the first such segment. -/
inductive Refused (i : Invocation) (arguments : List String) : Outcome → Outcome → Prop
  | dropped {prepared : Invocation} {a : Arguments} {s : Settings} {r : Registry}
      {spec : Specification} {before after : List Segment} {dropped : Segment} {type id : Json}
      {kind : String} (hprepared : i.prepared = some prepared) (hread : read arguments = .run a)
      (hsources : sources yaml prepared a = .ok (s, r, spec))
      (hdropped : Query.FirstDropped r.catalog s.base (Query.compile r.catalog s.base spec)
        (Query.compile r.catalog s.base spec) before dropped after)
      (hconstrains : dropped.Constrains type kind id) :
      Refused i arguments ⟨0, a.format.write (Query.compile r.catalog s.base spec), ""⟩
        ⟨1, "", "Error: " ++ (unknownFault s.base kind type (before.length + 1)).message ++ "\n"⟩

/-- Asked for the check, a filter is the same, or the check names what it leaves out. -/
theorem compileFrom_cases (s : Settings) (r : Registry) (spec : Specification) :
    compileFrom true s r spec = compileFrom false s r spec ∨
      ∃ before dropped after type kind id,
        Query.FirstDropped r.catalog s.base (Query.compile r.catalog s.base spec)
          (Query.compile r.catalog s.base spec) before dropped after ∧
        dropped.Constrains type kind id ∧
        compileFrom true s r spec
          = .error (.unresolved (unknownFault s.base kind type (before.length + 1))) := by
  have hagrees := Query.check_agrees r.catalog r.catalog s.base s.base spec
  by_cases hpasses : (Query.compile r.catalog s.base spec).check r.catalog s.base = .ok ()
  · exact .inl (by simp only [compileFrom, hpasses]; rfl)
  · obtain ⟨before, dropped, after, type, kind, id, hdropped, hconstrains, herror⟩ :=
      hagrees.fails hpasses
    exact .inr ⟨before, dropped, after, type, kind, id, hdropped, hconstrains,
      by simp only [compileFrom, herror]; rfl⟩

/-- The flag changes nothing about a run, or the run is refused. -/
theorem outcome_asStrict {i prepared : Invocation} {arguments : List String} {a : Arguments}
    (hprepared : i.prepared = some prepared) (hread : read arguments = .run a) :
    outcome yaml prepared (.run a.asStrict) = outcome yaml prepared (.run a) ∨
      Refused yaml i arguments (outcome yaml prepared (.run a))
        (outcome yaml prepared (.run a.asStrict)) := by
  have hlax := compile_eq_compileFrom yaml prepared a
  have hstrict := compile_eq_compileFrom yaml prepared a.asStrict
  rw [sources_asStrict] at hstrict
  cases hsources : sources yaml prepared a with
  | error failure =>
    rw [hsources] at hlax hstrict
    exact .inl (by simp only [outcome, hlax, hstrict]; rfl)
  | ok found =>
    obtain ⟨s, r, spec⟩ := found
    replace hlax : compile yaml prepared a = compileFrom a.strict s r spec := by
      rw [hlax, hsources]
      rfl
    replace hstrict : compile yaml prepared a.asStrict = compileFrom true s r spec := by
      rw [hstrict, hsources]
      rfl
    rcases compileFrom_cases s r spec with hsame |
      ⟨before, dropped, after, type, kind, id, hdropped, hconstrains, hrefused⟩
    · have hfilter : compileFrom a.strict s r spec = compileFrom true s r spec := by
        cases a.strict with
        | false => exact hsame.symm
        | true => rfl
      exact .inl (by simp only [outcome, hlax, hstrict, hfilter]; rfl)
    · -- a run that is strict already is refused in the same way
      cases hflag : a.strict with
      | true => exact .inl (by simp only [outcome, hlax, hstrict, hflag]; rfl)
      | false =>
        have hwrites : outcome yaml prepared (.run a)
            = ⟨0, a.format.write (Query.compile r.catalog s.base spec), ""⟩ := by
          simp only [outcome, hlax, hflag]
          rfl
        have hrefuses : outcome yaml prepared (.run a.asStrict) = ⟨1, "",
            "Error: " ++ (unknownFault s.base kind type (before.length + 1)).message ++ "\n"⟩ := by
          simp only [outcome, hstrict, hrefused]
          rfl
        rw [hwrites, hrefuses]
        exact .inr (.dropped hprepared hread hsources hdropped hconstrains)

end

/-- The strict check and the resolver agree.  A filter can be checked against any
    catalogue: the check passes if and only if compiling against that catalogue
    leaves out no valid segment, and else it names the first one left out.  So a run,
    whatever reads its files, gives back the same with `--strict` somewhere among its
    arguments as without, or is refused.  That is so unless the flag itself makes no
    sense where it stands: behind `--`, in place of a value, or given twice. -/
theorem strict_check_agrees :
    (∀ (built catalog : Catalog) (builtBase base : Base) (s : Specification),
      Query.CheckAgrees catalog base (Query.compile built builtBase s)
        (Query.compile catalog base s)) ∧
    (∀ (yaml : Yaml.Reader) (i : Invocation) (before after : List String),
      (read (before ++ "--strict" :: after) = .misuse → read (before ++ after) = .misuse) →
      let lax := runWith yaml { i with arguments := before ++ after }
      let strict := runWith yaml { i with arguments := before ++ "--strict" :: after }
      strict = lax ∨ Refused yaml i (before ++ after) lax strict) := by
  refine ⟨Query.check_agrees, ?_⟩
  intro yaml i before after hmisuse
  simp only [runWith_withArguments]
  cases hprepared : i.prepared with
  | none => exact .inl rfl
  | some prepared =>
    simp only [Option.map_some, Option.getD_some]
    have hform : read (before ++ "--strict" :: after) = (read (before ++ after)).asStrict := by
      rcases strictForm_insert ⟨[], false⟩ before after with hstrict | hstrict
      · have hlax := hmisuse hstrict
        rw [hlax]
        exact hstrict
      · exact hstrict
    rw [hform]
    cases hread : read (before ++ after) with
    | help => exact .inl rfl
    | version => exact .inl rfl
    | misuse => exact .inl rfl
    | run a => exact outcome_asStrict yaml hprepared hread

/-- A filter of two segments, the first one invalid, for which there is no registry. -/
def Invocation.unregistered : Invocation where
  arguments := []
  input := "[[1], \x7b\"type\": \"basic\", \"related_to_post\": 1\x7d]".toUTF8
  files := fun _ => .error .notFound
  environment := []

/-- The second segment is the one that is refused. -/
theorem strict_check_agrees_unregistered :
    let lax := run { Invocation.unregistered with arguments := ["--format", "text"] }
    let strict := run { Invocation.unregistered with
      arguments := ["--format", "text", "--strict"] }
    read ["--format", "text", "--strict"] ≠ .misuse ∧
      Refused Yaml.stream .unregistered ["--format", "text"] lax strict ∧
      strict.errors = "Error: No relationship `basic\n  Context: segment #2 of the specification` "
        ++ "registered between `post` and `post`.\n" := by
  have hread : read ["--format", "text", "--strict"] ≠ .misuse := by decide +kernel
  have hdiffer : run { Invocation.unregistered with
      arguments := ["--format", "text", "--strict"] }
      ≠ run { Invocation.unregistered with arguments := ["--format", "text"] } := by
    decide +kernel
  have hrefused := (strict_check_agrees.2 Yaml.stream .unregistered ["--format", "text"] []
    fun hmisuse => absurd hmisuse hread).resolve_left hdiffer
  exact ⟨hread, hrefused, by decide +kernel⟩

end RelatedFilter.CommandLine
