/-
  RelatedFilter.Proofs.CommandLine.Layers

  A run from its arguments, files and variables to what it prints.  The settings come
  in layers: the arguments, below them the settings file or else the environment, and
  at the bottom the defaults; the prefix of the tables may come from the registry file
  instead.  A run that succeeds has joined by these settings what it kept of the
  specification, and what it prints gives the two fragments back, by its lines or as
  JSON (`run_follows_layers`).  What reads the YAML files may be anything: a setting
  of a file is what the reader finds under its name.
-/
import RelatedFilter.Proofs.CommandLine.Options
import RelatedFilter.Proofs.Environment.Entries
import RelatedFilter.Proofs.Json.Texts
import RelatedFilter.Proofs.Query.Kept
import RelatedFilter.Proofs.Query.Selection
import RelatedFilter.Proofs.Settings.Layers

namespace RelatedFilter

/-! ## Lines -/

/-- The text in front of the first newline. -/
def firstLine (text : String) : String :=
  String.ofList (text.toList.takeWhile (· != '\n'))

/-- The text behind the first newline. -/
def afterFirstLine (text : String) : String :=
  String.ofList ((text.toList.dropWhile (· != '\n')).drop 1)

/-- A text without a newline is the first line in front of another one. -/
theorem lines_append {line rest : String} (h : '\n' ∉ line.toList) :
    firstLine (line ++ "\n" ++ rest) = line ∧ afterFirstLine (line ++ "\n" ++ rest) = rest := by
  have hall : ∀ c ∈ line.toList, (c != '\n') = true := by
    intro c hc
    exact bne_iff_ne.mpr fun hnewline => h (hnewline ▸ hc)
  have hchars : (line ++ "\n" ++ rest).toList = line.toList ++ '\n' :: rest.toList := by simp
  constructor
  · rw [firstLine, hchars, List.takeWhile_append_of_pos hall]
    simp
  · rw [afterFirstLine, hchars, List.dropWhile_append_of_pos hall]
    simp

/-- No name has a newline in it. -/
theorem newline_notMem {chars : List Char} (h : chars.all isNameChar = true) : '\n' ∉ chars := by
  intro hmem
  have hname := List.all_eq_true.mp h '\n' hmem
  exact absurd hname (by decide)

theorem newline_notMem_joinFragment {base : Base} {resolved : List Resolved} (hbase : base.Plain)
    (hplain : ∀ r ∈ resolved, r.Plain) : '\n' ∉ (joinFragment base resolved).toList := by
  have hname : ∀ {name : String}, isIdentifier name = true → '\n' ∉ name.toList := fun h =>
    newline_notMem (isTablePrefix_of_isIdentifier h)
  rw [joinFragment, String.toList_join, List.flatMap_map, List.mem_flatMap]
  rintro ⟨r, hr, hnewline⟩
  have htable : '\n' ∉ r.columns.table.toList := newline_notMem (hplain r hr).table.plain
  have halias : '\n' ∉ r.tableAlias.toList := hname r.isIdentifier_tableAlias
  have hcolumn : '\n' ∉ r.columns.baseColumn.toList := hname (hplain r hr).baseColumn
  have hbaseTable : '\n' ∉ base.table.toList := hname hbase.table
  have hbaseKey : '\n' ∉ base.key.toList := hname hbase.key
  -- what stands between the names is fixed
  rw [Resolved.toList_joinSql] at hnewline
  simp [Resolved.joinPieces, Sql.spell, htable, halias, hcolumn, hbaseTable, hbaseKey] at hnewline

namespace CommandLine

/-! ## Layers -/

/-- What gives the settings that the arguments leave open: the settings file if they name
    one, and the entries of the environment otherwise. -/
inductive Beneath (yaml : Yaml.Reader) (files : Files) (environment : Environment)
    (a : Arguments) : Overrides → Prop
  | file {path text : String} (hpath : a.config = some path)
      (htext : files.readText path = .ok text) :
      Beneath yaml files environment a (.inDocument (yaml text).first)
  | environment {lower : Overrides} (hnone : a.config = none)
      (hvalues : ∀ (which : Settings.Field) (value : String),
        which.given? lower = some value ↔ environment.Assigns which.variableName value) :
      Beneath yaml files environment a lower

/-- The registry of the file that the arguments name, under its own prefix if it has one; or
    a registry that knows nothing. -/
inductive RegistryFrom (yaml : Yaml.Reader) (files : Files) (a : Arguments) (s : Settings)
    (r : Registry) : Prop
  | file {path text : String} {m : Manifest} (hpath : a.registry = some path)
      (htext : files.readText path = .ok text)
      (hmanifest : Manifest.ofYamlWith yaml text = .ok m)
      (hstem : r.tablePrefix = (((yaml text).first.under? "table_prefix").bind
        Yaml.Node.given?).getD s.tablePrefix)
      (hlinks : ∀ base target typeName,
        (r.lookup base target typeName).isSome = true ↔ m.Registers base target typeName)
  | none (hnone : a.registry = none) (hstem : r.tablePrefix = s.tablePrefix)
      (hlinks : ∀ base target typeName, (r.lookup base target typeName).isSome = false)

section
variable {yaml : Yaml.Reader} {i : Invocation} {a : Arguments} {s : Settings} {r : Registry}

/-- The layer of an environment is what its entries give. -/
theorem beneath_inEnvironment {files : Files} {environment : Environment}
    (hnone : a.config = none) :
    Beneath yaml files environment a (.inEnvironment environment.text?) := by
  refine .environment hnone fun which value => ?_
  have hname : which.variableName ≠ "" := by cases which <;> decide
  rw [Overrides.inEnvironment, Overrides.given?_each, Environment.text?_eq_some_iff hname]

theorem settings_eq_ok (h : settings yaml i a = .ok s) :
    s.Valid ∧ ∃ lower, Beneath yaml i.files i.environment a lower ∧
      s = Settings.default.override (a.overrides.over lower) := by
  obtain ⟨below, hbelow, hchecked⟩ := bind_eq_ok_iff.mp h
  obtain ⟨hvalid, rfl⟩ := Settings.checked_eq_ok_iff.mp (mapError_eq_ok_iff.mp hchecked)
  refine ⟨hvalid, ?_⟩
  rw [baseSettings] at hbelow
  cases hconfig : a.config with
  | some path =>
    rw [hconfig] at hbelow
    obtain ⟨text, htext, rfl⟩ := Settings.loadWith_eq_ok (mapError_eq_ok_iff.mp hbelow)
    exact ⟨_, .file hconfig htext, Settings.override_override _ _ _⟩
  | none =>
    rw [hconfig] at hbelow
    obtain rfl := Settings.ofEnvironment_eq_ok (mapError_eq_ok_iff.mp hbelow)
    exact ⟨_, beneath_inEnvironment hconfig, Settings.override_override _ _ _⟩

theorem registry_eq_ok (h : registry yaml i a s = .ok r) : RegistryFrom yaml i.files a s r := by
  rw [registry] at h
  cases hpath : a.registry with
  | some path =>
    rw [hpath] at h
    obtain ⟨m, hload, hregistry⟩ := bind_eq_ok_iff.mp (mapError_eq_ok_iff.mp h)
    rw [Manifest.loadWith] at hload
    split at hload
    · rename_i text htext
      have hstem := ((Manifest.loadsAsWritten_of_ok hregistry).lists r hregistry).1
      rw [Manifest.stem, Manifest.tablePrefix_of_ofYamlWith hload] at hstem
      exact .file hpath htext hload hstem (Registry.registers_of_registry hregistry)
    · cases hload
  | none =>
    rw [hpath] at h
    have hnew := Registry.New.empty (mapError_eq_ok_iff.mp h)
    obtain ⟨hstem, hnothing⟩ := hnew.eq_nil
    refine .none hpath hstem fun base target typeName => ?_
    rw [← Bool.not_eq_true, Registry.isSome_lookup_iff, hnothing]
    simp

end

/-! ## Runs -/

/-- What a run compiles, from what gives its settings, its registry and its specification. -/
structure Compiled (yaml : Yaml.Reader) (i : Invocation) (a : Arguments) (lower : Overrides)
    (s : Settings) (r : Registry) (spec : Specification) (q : Query) : Prop where
  beneath : Beneath yaml i.files i.environment a lower
  settings : s = Settings.default.override (a.overrides.over lower)
  valid : s.Valid
  registry : RegistryFrom yaml i.files a s r
  specification : specification i a = .ok spec
  query : q = Query.compile r.catalog s.base spec
  relation : q.relation = spec.normalize.relation
  segments : q.segments = spec.normalize.segments
  kept : KeptFrom r s.baseKind 1 q.segments q.resolved
  join : q.join = String.join (q.resolved.map fun found => joinClause s.base found found.aliasIndex)
  predicate : q.predicate = whereFragment q.relation q.resolved
  /-- No line of the output ends within the joins. -/
  oneLine : '\n' ∉ q.join.toList

/-- The check lets a filter through as it is. -/
theorem compileFrom_eq_ok {strict : Bool} {s : Settings} {r : Registry} {spec : Specification}
    {q : Query} (h : compileFrom strict s r spec = .ok q) :
    q = Query.compile r.catalog s.base spec := by
  rw [compileFrom] at h
  cases strict with
  | false =>
    cases h
    rfl
  | true =>
    rw [if_pos rfl] at h
    obtain ⟨_, -, hquery⟩ := bind_eq_ok_iff.mp h
    cases hquery
    rfl

/-- A run that compiles a filter compiles it from the layers of its settings. -/
theorem compiled_of_compile {yaml : Yaml.Reader} {i : Invocation} {a : Arguments} {q : Query}
    (h : compile yaml i a = .ok q) :
    ∃ lower s r spec, Compiled yaml i a lower s r spec q := by
  rw [compile_eq_compileFrom] at h
  obtain ⟨⟨s, r, spec⟩, hsources, hquery⟩ := bind_eq_ok_iff.mp h
  obtain ⟨_, hsettings, hsources⟩ := bind_eq_ok_iff.mp hsources
  obtain ⟨_, hregistry, hsources⟩ := bind_eq_ok_iff.mp hsources
  obtain ⟨_, hspec, hsources⟩ := bind_eq_ok_iff.mp hsources
  cases hsources
  obtain rfl := compileFrom_eq_ok hquery
  obtain ⟨hvalid, lower, hbeneath, hlayers⟩ := settings_eq_ok hsettings
  refine ⟨lower, s, r, spec, hbeneath, hlayers, hvalid, registry_eq_ok hregistry, hspec, rfl,
    ?relation, ?segments, ?kept, ?join, ?predicate, ?oneLine⟩
  all_goals rw [compile_eq]
  case relation => rfl
  case segments => rfl
  case kept =>
    simp only [Query.ofResolved, resolvedOf_eq_resolvedFrom]
    exact keptFrom_resolvedFrom r s.baseKind 1 _
  case join => simp only [Query.ofResolved, joinFragment, joinSql_eq]
  case predicate => rfl
  case oneLine => exact newline_notMem_joinFragment hvalid.plain fun _ => plain_of_mem_resolvedOf

/-- Preparing a run changes nothing but its variables. -/
theorem prepared_eq_some {i prepared : Invocation} (h : i.prepared = some prepared) :
    ∃ environment, prepared = { i with environment := environment } := by
  rw [Invocation.prepared] at h
  split at h
  · obtain ⟨environment, -, hprepared⟩ := Option.bind_eq_some_iff.mp h
    cases hprepared
    exact ⟨environment, rfl⟩
  · cases h
    exact ⟨i.environment, rfl⟩

/-- A run that succeeds after its arguments were read has compiled a filter. -/
theorem compile_of_exitCode {yaml : Yaml.Reader} {i : Invocation} {a : Arguments}
    (hread : read i.arguments = .run a) (hexit : (runWith yaml i).exitCode = 0) :
    ∃ environment q, i.prepared = some { i with environment := environment } ∧
      compile yaml { i with environment := environment } a = .ok q ∧
      runWith yaml i = ⟨0, a.format.write q, ""⟩ := by
  have hrun : runWith yaml i
      = (i.prepared.map (outcome yaml · (read i.arguments))).getD unprepared :=
    runWith_withArguments yaml i i.arguments
  rw [hread] at hrun
  -- a run that cannot be prepared, or is refused, has an exit code of its own
  cases hprepared : i.prepared with
  | none =>
    rw [hprepared] at hrun
    rw [hrun] at hexit
    cases hexit
  | some prepared =>
    obtain ⟨environment, rfl⟩ := prepared_eq_some hprepared
    rw [hprepared, Option.map_some, Option.getD_some, outcome] at hrun
    cases hcompile : compile yaml { i with environment := environment } a with
    | error failure =>
      rw [hcompile] at hrun
      rw [hrun] at hexit
      cases hexit
    | ok q =>
      rw [hcompile] at hrun
      exact ⟨environment, q, rfl, hcompile, hrun⟩

/-- A filter in JSON is read back with its relation and its fragments. -/
theorem read_write_json (q : Query) :
    Json.read (Format.json.write q) = .ok (.object [("relation", .string q.relation.text),
      ("join", .string q.join), ("where", .string q.predicate)]) :=
  Json.read_pretty_textFields
    [("relation", q.relation.text), ("join", q.join), ("where", q.predicate)]

/-- The lines of a filter in writing, of which its joins take one. -/
theorem lines_write_text {q : Query} (h : '\n' ∉ q.join.toList) :
    firstLine (Format.text.write q) = "join:" ++ q.join ∧
      afterFirstLine (Format.text.write q) = "where:" ++ q.predicate ++ "\n" := by
  have hwrite : Format.text.write q
      = "join:" ++ q.join ++ "\n" ++ ("where:" ++ q.predicate ++ "\n") := by
    have hlabel : "\nwhere:" = "\n" ++ "where:" := by decide
    rw [Format.write, hlabel]
    simp only [String.append_assoc]
  -- the joins have no newline in them, whatever the predicates have
  have hline : '\n' ∉ ("join:" ++ q.join).toList := by
    simp [h]
  rw [hwrite]
  exact lines_append hline

/-- A run that compiles a filter and succeeds takes each setting from the arguments, or else
    from the settings file if they name one, or else from the environment, or else from the
    defaults, and the prefix of the tables from the registry file if that has one.  All of
    these passed their checks.  Kept are the valid segments whose links are registered for
    the kind of the base, and what is written out gives the fragments back. -/
theorem run_follows_layers {yaml : Yaml.Reader} {i : Invocation} {a : Arguments}
    (hread : read i.arguments = .run a) (hexit : (runWith yaml i).exitCode = 0) :
    a.ReadFrom i.arguments ∧
      ∃ environment lower s r spec q,
        i.prepared = some { i with environment := environment } ∧
        Compiled yaml { i with environment := environment } a lower s r spec q ∧
        (∀ c ∈ r.tablePrefix.toList, c.isAlphanum = true ∨ c = '_') ∧
        (a.registry = none → q.join = "" ∧ q.predicate = "") ∧
        (runWith yaml i).errors = "" ∧
        (a.format = .text → firstLine (runWith yaml i).output = "join:" ++ q.join ∧
          afterFirstLine (runWith yaml i).output = "where:" ++ q.predicate ++ "\n") ∧
        (a.format = .json → Json.read (runWith yaml i).output
          = .ok (.object [("relation", .string q.relation.text), ("join", .string q.join),
              ("where", .string q.predicate)])) := by
  refine ⟨readFrom_of_read hread, ?_⟩
  obtain ⟨environment, q, hprepared, hcompile, hrun⟩ := compile_of_exitCode hread hexit
  obtain ⟨lower, s, r, spec, hcompiled⟩ := compiled_of_compile hcompile
  refine ⟨environment, lower, s, r, spec, q, hprepared, hcompiled,
    isTablePrefix_iff.mp r.prefix_plain, ?nothing, ?errors, ?lines, ?json⟩
  case nothing =>
    intro hnone
    have hlinks : ∀ base target typeName, (r.lookup base target typeName).isSome = false := by
      cases hcompiled.registry with
      | file hpath => rw [hnone] at hpath; cases hpath
      | none _ _ hlinks => exact hlinks
    have hresolved : q.resolved = [] := hcompiled.kept.eq_nil (hlinks s.baseKind)
    rw [hcompiled.join, hcompiled.predicate, hresolved]
    exact ⟨rfl, rfl⟩
  case errors => rw [hrun]
  case lines =>
    intro hformat
    rw [hrun, hformat]
    exact lines_write_text hcompiled.oneLine
  case json =>
    intro hformat
    rw [hrun, hformat]
    exact read_write_json q

/-- A run with a setting among its arguments, another one in its settings file, and a prefix
    in its registry file; it asks for links to a post whose id is two lines long. -/
def Invocation.layered : Invocation where
  arguments := ["--base-key=id", "--config", "c.yaml", "--registry", "r.yaml"]
  input := "\x7b\"type\": \"basic\", \"related_to_post\": \"a\\nb\"\x7d".toUTF8
  files := fun path =>
    if path = "c.yaml" then .ok "base_key: ID\nbase_table: posts\n".toUTF8
    else if path = "r.yaml" then
      .ok ("table_prefix: my_\nrelationships:\n- kind: post_to_post\n  from: post\n  to: post\n"
        ++ "  type: basic\n").toUTF8
    else .error .notFound
  environment := [("RELQUERY_BASE_TABLE", "rows".toUTF8)]

/-- The id is in the second part of what is written out, with both of its lines. -/
theorem run_follows_layers_two_lines :
    ∃ a, read Invocation.layered.arguments = .run a ∧
      (runWith Yaml.stream .layered).exitCode = 0 ∧
      ∃ environment lower s r spec q,
        Compiled Yaml.stream { Invocation.layered with environment := environment } a lower s r
          spec q ∧
        q.join = " inner join my_post_to_post as p2p1 on posts.id = p2p1.id1" ∧
        "where:" ++ q.predicate ++ "\n"
          = "where: and ((p2p1.id2 = 'a\nb' and p2p1.type = 'basic'))\n" := by
  have hread : read Invocation.layered.arguments
      = .run ⟨"-", some "r.yaml", some "c.yaml", ⟨none, none, some "id", none⟩, .text, false⟩ := by
    decide +kernel
  have hrun : runWith Yaml.stream .layered
      = ⟨0, "join: inner join my_post_to_post as p2p1 on posts.id = p2p1.id1\n"
          ++ "where: and ((p2p1.id2 = 'a\nb' and p2p1.type = 'basic'))\n", ""⟩ := by
    decide +kernel
  have hexit : (runWith Yaml.stream .layered).exitCode = 0 := by rw [hrun]
  obtain ⟨-, environment, lower, s, r, spec, q, -, hcompiled, -, -, -, hlines, -⟩ :=
    run_follows_layers hread hexit
  obtain ⟨hfirst, hafter⟩ := hlines rfl
  rw [hrun] at hfirst hafter
  have hjoin : "join:" ++ q.join
      = "join:" ++ " inner join my_post_to_post as p2p1 on posts.id = p2p1.id1" := by
    rw [← hfirst]
    decide +kernel
  refine ⟨_, hread, hexit, environment, lower, s, r, spec, q, hcompiled,
    (String.append_right_inj _).mp hjoin, ?_⟩
  rw [← hafter]
  decide +kernel

end CommandLine
end RelatedFilter
