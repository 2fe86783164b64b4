import Mathlib.Data.List.Nodup
import Toolbench.Settings.Sources

/-! # Settings from their sources

A file of variables has each of them once, with what was set last (`lookup_set`,
`nodup_assignments`). A setting that the caller gives hides what the environment and the file say of
it, so these make no difference if all settings are given (`load_of_given`). Loading gives settings
if none of them is wrong, and else it tells what is wrong, once for each setting that is
(`load_tells`). -/

namespace Toolbench

namespace DotEnv

/-! ## Variables of a file -/

theorem lookup_set (known : List Entry) (name other : String) (value : Option String) :
    (set known name value).lookup other =
      if other = name then some value else known.lookup other := by
  have hbeq {first second : String} (h : first ≠ second) : (first == second) = false :=
    beq_eq_false_iff_ne.mpr h
  induction known with
  | nil =>
    rw [set, List.lookup_cons, List.lookup_nil]
    by_cases h : other = name
    · simp [h]
    · simp [h, hbeq h]
  | cons entry rest ih =>
    obtain ⟨key, held⟩ := entry
    rw [set]
    by_cases hk : key = name
    · subst hk
      rw [if_pos rfl, List.lookup_cons, List.lookup_cons]
      by_cases h : other = key
      · simp [h]
      · simp [h, hbeq h]
    · rw [if_neg hk, List.lookup_cons, List.lookup_cons, ih]
      by_cases h : other = key
      · simp [h, hk]
      · simp [hbeq h]

theorem mem_names_set {known : List Entry} {name other : String} {value : Option String} :
    other ∈ (set known name value).map (·.1) ↔ other = name ∨ other ∈ known.map (·.1) := by
  induction known with
  | nil =>
    rw [set, List.map_singleton, List.mem_singleton, List.map_nil, List.mem_nil_iff, or_false]
  | cons entry rest ih =>
    rw [set]
    split
    next hk =>
      rw [List.map_cons, List.map_cons, List.mem_cons, List.mem_cons, hk, ← or_assoc, or_self]
    next =>
      rw [List.map_cons, List.map_cons, List.mem_cons, List.mem_cons, ih, or_left_comm]

theorem nodup_names_set {known : List Entry} (h : (known.map (·.1)).Nodup) (name : String)
    (value : Option String) : ((set known name value).map (·.1)).Nodup := by
  induction known with
  | nil => exact List.nodup_singleton name
  | cons entry rest ih =>
    rw [List.map_cons, List.nodup_cons] at h
    obtain ⟨hfirst, hrest⟩ := h
    rw [set]
    split
    next hk =>
      rw [List.map_cons, List.nodup_cons, ← hk]
      exact ⟨hfirst, hrest⟩
    next hk =>
      rw [List.map_cons, List.nodup_cons]
      refine ⟨fun hm => ?_, ih hrest⟩
      rcases mem_names_set.mp hm with hn | hm
      · exact hk hn
      · exact hfirst hm

/-- However often a file sets a variable, it has it once. -/
theorem nodup_assignments (environment : List (String × String)) (text : String) :
    ((assignments environment text).map (·.1)).Nodup := by
  have hset (found : List Entry) {known : List Entry} (h : (known.map (·.1)).Nodup) :
      ((found.foldl (fun known entry => set known entry.1 (entry.2.map fun value =>
        String.ofList (expand (resolve environment known) value.toList))) known).map
          (·.1)).Nodup := by
    induction found generalizing known with
    | nil => exact h
    | cons entry found ih => exact ih (nodup_names_set h entry.1 _)
  exact hset _ List.nodup_nil

end DotEnv

namespace Settings

variable {sources : Sources} {key : Key}

/-! ## Sources that hide others -/

/-- A setting that the caller gives hides the variables. -/
theorem Sources.find?_of_given {value : Value}
    (h : lastFor? sources.given key.name = some value) (environment : List (String × String))
    (file : Option String) :
    Sources.find? ⟨sources.given, environment, file⟩ key = sources.find? key := by
  simp only [Sources.find?, h, Option.orElse_eq_orElse, Option.orElse_eq_or, Option.some_or]

/-- The variables make no difference if all settings are given. -/
theorem load_of_given (h : ∀ key : Key, ∃ value, lastFor? sources.given key.name = some value)
    (environment : List (String × String)) (file : Option String) :
    load ⟨sources.given, environment, file⟩ = load sources := by
  have hfind (key : Key) :
      Sources.find? ⟨sources.given, environment, file⟩ key = sources.find? key := by
    obtain ⟨value, hvalue⟩ := h key
    exact Sources.find?_of_given hvalue environment file
  simp only [load, Sources.read, hfind]

/-! ## What loading comes to -/

/-- What is wrong with a value for a setting. -/
def Key.Wrong (value : Value) (problem : Problem) : Key → Prop
  | .strictRegistration | .reportFallbacks => truth value = .error problem
  | .preamble | .logLevel => string value = .error problem

/-- The sources have a value for a setting, and something is wrong with it. -/
def Sources.Wrong (sources : Sources) (key : Key) (problem : Problem) : Prop :=
  ∃ value, sources.find? key = some value ∧ key.Wrong value problem

theorem mem_problem_iff {α : Type} {convert : Value → Except Problem α} {default : α}
    {entry : Key × Problem} : entry ∈ problem key (sources.read key convert default) ↔
      entry.1 = key ∧ ∃ value, sources.find? key = some value ∧ convert value = .error entry.2 := by
  obtain ⟨told, wrong⟩ := entry
  rw [Sources.read]
  cases sources.find? key with
  | none => simp [problem]
  | some value => cases hc : convert value <;> simp [problem, hc, eq_comm]

theorem keys_problem {α : Type} (key : Key) (result : Except Problem α) :
    ((problem key result).map (·.1)).Sublist [key] := by
  cases result with
  | ok => exact List.nil_sublist _
  | error => exact List.Sublist.refl _

/-- The problems of all settings, in the order of the settings. -/
def Sources.problems (sources : Sources) : List (Key × Problem) :=
  let default : Settings := {}
  problem .strictRegistration (sources.read .strictRegistration truth default.strictRegistration) ++
    problem .preamble (sources.read .preamble string default.preamble) ++
    problem .reportFallbacks (sources.read .reportFallbacks truth default.reportFallbacks) ++
    problem .logLevel (sources.read .logLevel string default.logLevel)

theorem load_cases (sources : Sources) :
    (∃ settings, load sources = .ok settings) ∧ sources.problems = [] ∨
      load sources = .error sources.problems ∧ sources.problems ≠ [] := by
  simp only [load, Sources.problems]
  cases sources.read .strictRegistration truth _ <;> cases sources.read .preamble string _ <;>
    cases sources.read .reportFallbacks truth _ <;> cases sources.read .logLevel string _ <;>
    simp [problem]

theorem mem_problems_iff {entry : Key × Problem} :
    entry ∈ sources.problems ↔ sources.Wrong entry.1 entry.2 := by
  obtain ⟨key, told⟩ := entry
  simp only [Sources.problems, List.mem_append, mem_problem_iff, Sources.Wrong]
  cases key <;> simp [Key.Wrong]

/-- What loading comes to. -/
structure Loading (sources : Sources) : Prop where
  /-- It gives settings exactly if none of them is wrong. -/
  loads_iff : (∃ settings, load sources = .ok settings) ↔
    ∀ key problem, ¬ sources.Wrong key problem
  /-- Else it tells what is wrong with each of them, in their order. -/
  told : ∀ problems, load sources = .error problems →
    (problems.map (·.1)).Sublist Key.all ∧
      ∀ key problem, (key, problem) ∈ problems ↔ sources.Wrong key problem

theorem load_tells (sources : Sources) : Loading sources := by
  have hkeys : (sources.problems.map (·.1)).Sublist Key.all := by
    simp only [Sources.problems, List.map_append]
    exact (((keys_problem _ _).append (keys_problem _ _)).append (keys_problem _ _)).append
      (keys_problem _ _)
  have hmem {key : Key} {told : Problem} :
      (key, told) ∈ sources.problems ↔ sources.Wrong key told := mem_problems_iff
  rcases load_cases sources with ⟨⟨settings, hload⟩, hnone⟩ | ⟨hload, hsome⟩
  · have hright (key : Key) (told : Problem) : ¬ sources.Wrong key told := fun hw => by
      rw [← hmem, hnone] at hw
      cases hw
    refine ⟨iff_of_true ⟨settings, hload⟩ hright, fun problems he => ?_⟩
    rw [hload] at he
    cases he
  · obtain ⟨⟨key, told⟩, hm⟩ := List.exists_mem_of_ne_nil _ hsome
    have hfails : ¬ ∃ settings, load sources = .ok settings := by
      rintro ⟨settings, hsettings⟩
      rw [hload] at hsettings
      cases hsettings
    refine ⟨iff_of_false hfails fun hall => hall key told (hmem.mp hm), fun problems he => ?_⟩
    rw [hload] at he
    cases he
    exact ⟨hkeys, fun _ _ => hmem⟩

end Settings

end Toolbench
