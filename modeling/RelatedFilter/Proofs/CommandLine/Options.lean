/-
  RelatedFilter.Proofs.CommandLine.Options

  What the arguments of a run give.  Each option is given at most once, so its value
  can be told from its first appearance among the arguments (`valueIn`), and what is
  read from them is that value for each option (`readFrom_eq_run`).
-/
import RelatedFilter.Proofs.CommandLine.Strict

namespace RelatedFilter.CommandLine

/-- The value of an option, if it is this one. -/
def Item.valueFor? (s : Setting) : Item → Option String
  | .strict => none
  | .setting other value => if other = s then some value else none

/-- The value that an option has among arguments, where it appears first. -/
def valueIn (s : Setting) : List String → Option String
  | [] => none
  | argument :: rest =>
    match (Word.ofArgument argument).opening with
    | .item item => (item.valueFor? s).or (valueIn s rest)
    | .awaitsValue other =>
      match rest with
      | [] => none
      | value :: rest => ((Item.setting other value).valueFor? s).or (valueIn s rest)
    | _ => none

section
variable {argument : String} {rest : List String}

/-- An option stands in one argument, or in two. -/
theorem Opening.of_step_eq_take {opening : Opening} {rest' : List String} {item : Item}
    (h : opening.step rest = .take item rest') :
    (opening = .item item ∧ rest = rest') ∨
      ∃ s value, opening = .awaitsValue s ∧ item = .setting s value ∧ rest = value :: rest' := by
  cases opening with
  | misuse | help | version => cases h
  | endOfOptions => cases rest <;> cases h
  | item i =>
    obtain ⟨rfl, rfl⟩ := Step.take.inj h
    exact .inl ⟨rfl, rfl⟩
  | awaitsValue s =>
    cases rest with
    | nil => cases h
    | cons value rest =>
      rw [step] at h
      split at h
      · obtain ⟨rfl, rfl⟩ := Step.take.inj h
        exact .inr ⟨s, value, rfl, rfl, rfl⟩
      · cases h

/-- Only the word for it ends the options. -/
theorem Opening.of_step_eq_finish {opening : Opening} (h : opening.step rest = .finish) :
    opening = .endOfOptions := by
  cases opening with
  | endOfOptions => rfl
  | misuse | help | version | item => cases h
  | awaitsValue s =>
    cases rest with
    | nil => cases h
    | cons value rest =>
      rw [step] at h
      split at h <;> cases h

/-- The option in front is looked at first. -/
theorem valueIn_of_take {rest' : List String} {item : Item}
    (h : (Word.ofArgument argument).opening.step rest = .take item rest') (s : Setting) :
    valueIn s (argument :: rest) = (item.valueFor? s).or (valueIn s rest') := by
  rw [valueIn.eq_def]
  rcases Opening.of_step_eq_take h with ⟨hopening, rfl⟩ | ⟨other, value, hopening, rfl, rfl⟩
  · simp only [hopening]
  · simp only [hopening]

/-- Where the options end, none is given. -/
theorem valueIn_of_finish (h : (Word.ofArgument argument).opening.step rest = .finish)
    (s : Setting) : valueIn s (argument :: rest) = none := by
  rw [valueIn.eq_def]
  simp only [Opening.of_step_eq_finish h]

end

/-- An option that is taken has its value, and was not given before. -/
theorem Given.value?_of_take? {g g' : Given} {item : Item} (h : g.take? item = some g')
    (s : Setting) : g'.value? s = (g.value? s).or (item.valueFor? s) := by
  cases item with
  | strict =>
    rw [Given.take?] at h
    split at h
    · cases h
    · cases h
      simp [Item.valueFor?, value?]
  | setting other value =>
    rw [Given.take?, Given.add] at h
    split at h
    · rename_i haccepts
      cases h
      simp only [Bool.and_eq_true, Option.isNone_iff_eq_none] at haccepts
      by_cases hsame : other = s
      · -- it was taken, so nothing was given for it before
        subst hsame
        rw [haccepts.2]
        simp [value?, Item.valueFor?]
      · have hother : (s == other) = false := beq_eq_false_iff_ne.mpr (Ne.symm hsame)
        simp [value?, Item.valueFor?, hsame, List.lookup_cons, hother]
    · cases h

/-- What is read has for each option what was given before, or what the arguments give. -/
theorem readFrom_eq_run {g : Given} {arguments : List String} {a : Arguments}
    (h : readFrom g arguments = .run a) :
    ∃ given : Given, a = given.arguments ∧
      ∀ s, given.value? s = (g.value? s).or (valueIn s arguments) := by
  -- an option may take the next argument along, so the induction is on their number
  induction hlength : arguments.length using Nat.strongRecOn generalizing g arguments with
  | _ n ih =>
    cases arguments with
    | nil =>
      cases h
      exact ⟨g, rfl, fun s => by simp [valueIn]⟩
    | cons argument rest =>
      rw [readFrom_cons] at h
      cases hstep : (Word.ofArgument argument).opening.step rest with
      | misuse | help | version =>
        rw [hstep] at h
        cases h
      | finish =>
        rw [hstep] at h
        cases h
        exact ⟨g, rfl, fun s => by simp [valueIn_of_finish hstep]⟩
      | take item rest' =>
        rw [hstep] at h
        simp only [Step.demand] at h
        cases htake : g.take? item with
        | none =>
          rw [htake] at h
          cases h
        | some g' =>
          rw [htake] at h
          have hshorter := Opening.length_of_step hstep
          rw [List.length_cons] at hlength
          obtain ⟨given, ha, hgiven⟩ := ih rest'.length (by omega) h rfl
          refine ⟨given, ha, fun s => ?_⟩
          rw [hgiven s, Given.value?_of_take? htake, Option.or_assoc, valueIn_of_take hstep]

/-- The settings that arguments give. -/
def overridesIn (arguments : List String) : Overrides where
  baseKind := valueIn .baseKind arguments
  baseTable := valueIn .baseTable arguments
  baseKey := valueIn .baseKey arguments
  tablePrefix := valueIn .tablePrefix arguments

/-- The options of a run are those that its arguments give, with defaults for the others. -/
structure Arguments.ReadFrom (a : Arguments) (arguments : List String) : Prop where
  specification : a.specification = (valueIn .specification arguments).getD "-"
  registry : a.registry = valueIn .registry arguments
  config : a.config = valueIn .config arguments
  overrides : a.overrides = overridesIn arguments
  format : a.format = ((valueIn .format arguments).bind Format.ofName?).getD .text

theorem readFrom_of_read {arguments : List String} {a : Arguments} (h : read arguments = .run a) :
    a.ReadFrom arguments := by
  obtain ⟨given, rfl, hgiven⟩ := readFrom_eq_run h
  have hvalue : ∀ s, given.value? s = valueIn s arguments := fun s => by
    rw [hgiven s]
    rfl
  constructor <;> simp only [Given.arguments, overridesIn, hvalue]

-- options with the value behind an equals sign and in the next argument
example : overridesIn ["--base-key=id", "--strict", "--base-table", "posts", "--"]
    = ⟨none, some "posts", some "id", none⟩ := by
  decide +kernel

end RelatedFilter.CommandLine
