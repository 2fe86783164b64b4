import Mathlib.Logic.Relation
import Toolbench.Proofs.Declaration
import Toolbench.Proofs.Stages

/-! # The views of a bench

Names, lookups, counts and exported documents are views of one list of tools. They agree on
every bench that is reached from an empty one by registrations, removals and changes that leave
the tools alone (`views_agree`). All benches of a session are reached in this way, and so is the
bench after every call, however it ends. -/

namespace Toolbench

namespace Document

/-- A member of an object. -/
def member? (key : String) : Document → Option Document
  | .object members => members.lookup key
  | _ => none

def text? : Document → Option String
  | .text s => some s
  | _ => none

/-- The name of a tool that reads its input schema directly. -/
def toolName? (document : Document) : Option String :=
  (document.member? "name").bind text?

/-- The name of a function of a chat model. -/
def functionName? (document : Document) : Option String :=
  (document.member? "function").bind toolName?

end Document

theorem Declaration.functionName?_functionSchema (d : Declaration) :
    d.functionSchema.functionName? = some d.name := rfl

theorem Declaration.toolName?_toolSchema (d : Declaration) :
    d.toolSchema.toolName? = some d.name := rfl

namespace Bench

/-! ## Benches that are reached -/

/-- One change of a bench: an accepted registration, a removal, or a change that leaves the tools
alone. -/
inductive Operation (bench : Bench) : Bench → Prop
  | register {declaration : Declaration} {handler : Option Handler} {after : Bench} :
    bench.register declaration handler = .ok after → Operation bench after
  | remove (tool : String) : Operation bench (bench.remove tool).2
  | rest {after : Bench} : after.catalog.tools = bench.catalog.tools → Operation bench after

def Reaches : Bench → Bench → Prop := Relation.ReflTransGen Operation

/-- From one bench to another a name finds the same tool. -/
def Holds (name : String) (tool : Tool) : Bench → Bench → Prop :=
  Relation.ReflTransGen fun bench after =>
    Operation bench after ∧ after.catalog.find? name = some tool

/-- The tool was registered with its handler before a bench, and its name finds it ever since. -/
def Stems (start : Bench) (name : String) (tool : Tool) (bench : Bench) : Prop :=
  ∃ before after, Reaches start before ∧
    before.register tool.declaration (some tool.handler) = .ok after ∧
    after.catalog.find? name = some tool ∧ Holds name tool after bench

theorem kept_reaches : Session.Kept Reaches where
  refl _ := .refl
  trans := .trans
  record _ _ _ := .single (.rest rfl)
  deliver _ _ := .single (.rest rfl)
  register h := .single (.register h)
  remove _ tool := .single (.remove tool)
  turns _ _ _ := .single (.rest rfl)
  settings _ _ := .single (.rest rfl)
  strict _ _ := .single (.rest rfl)
  limit _ _ := .single (.rest rfl)

theorem find?_eq_of_tools_eq {bench after : Bench}
    (h : after.catalog.tools = bench.catalog.tools) (name : String) :
    after.catalog.find? name = bench.catalog.find? name := by
  rw [Catalog.find?, h, ← Catalog.find?]

/-- What an operation leaves was there before, or is the tool that it registers. -/
theorem Operation.find?_cases {bench after : Bench} {name : String} {tool : Tool}
    (h : Operation bench after) (hf : after.catalog.find? name = some tool) :
    bench.catalog.find? name = some tool ∨
      bench.register tool.declaration (some tool.handler) = .ok after := by
  cases h with
  | @register declaration handler _ hreg =>
    obtain ⟨handler, rfl, _, rfl⟩ := Bench.register_eq_ok_iff.mp hreg
    have hf : (bench.catalog.insert ⟨declaration, handler⟩).find? name = some tool := hf
    rw [Catalog.find?_insert] at hf
    split at hf
    next =>
      cases hf
      exact .inr hreg
    next => exact .inl hf
  | remove removed =>
    rw [Bench.catalog_remove, Catalog.find?_erase] at hf
    split at hf
    next => cases hf
    next => exact .inl hf
  | rest ht => exact .inl (find?_eq_of_tools_eq ht name ▸ hf)

/-- Every tool that is found stems from a registration. -/
theorem Reaches.stems {start bench : Bench} {name : String} {tool : Tool}
    (hs : start.catalog.names = []) (h : Reaches start bench)
    (hf : bench.catalog.find? name = some tool) : Stems start name tool bench := by
  induction h with
  | refl =>
    have hnone : start.catalog.find? name = none := by
      rw [Catalog.find?_eq_none_iff, hs]
      exact List.not_mem_nil
    rw [hnone] at hf
    cases hf
  | @tail middle bench hreach hop ih =>
    -- either the tool was there already, or this very operation has registered it
    rcases hop.find?_cases hf with hf' | hreg
    · obtain ⟨before, after, hbefore, hreg, hafter, hholds⟩ := ih hf'
      exact ⟨before, after, hbefore, hreg, hafter, hholds.tail ⟨hop, hf⟩⟩
    · exact ⟨middle, bench, hreach, hreg, hf, .refl⟩

end Bench

namespace Session

open Bench (Reaches Stems)

/-! ## The views -/

/-- The views of a bench that was reached from an empty one. -/
structure Views (start bench : Bench) : Prop where
  nodup : bench.catalog.names.Nodup
  size : Step.size.run bench =
    (.ok (.sizes bench.catalog.names.length bench.catalog.names.length), bench)
  contains : ∀ name, (Step.contains name).run bench =
    (.ok (.flags (decide (name ∈ bench.catalog.names)) (decide (name ∈ bench.catalog.names))),
      bench)
  /-- A name that is not there finds nothing. -/
  absent : ∀ name, name ∉ bench.catalog.names →
    (Step.find name).run bench = (.ok (.declaration none), bench)
  /-- A name that is there finds a tool of this name, whose parameters have visible and pairwise
  distinct names. It was registered with its handler. -/
  present : ∀ name, name ∈ bench.catalog.names → ∃ tool : Tool,
    (Step.find name).run bench = (.ok (.declaration (some tool.declaration)), bench) ∧
    bench.catalog.find? name = some tool ∧ tool.declaration.name = name ∧
    (∀ p ∈ tool.declaration.parameters, Text.Visible p.name) ∧
    (tool.declaration.parameters.map (·.name)).Nodup ∧ Stems start name tool bench
  /-- The documents name the tools, one by one and in their order. -/
  functions : ∃ documents, Step.functionSchemas.run bench = (.ok (.documents documents), bench) ∧
    documents.map (·.functionName?) = bench.catalog.names.map some
  tools : ∃ documents, Step.toolSchemas.run bench = (.ok (.documents documents), bench) ∧
    documents.map (·.toolName?) = bench.catalog.names.map some

theorem find_run (bench : Bench) (name : String) : (Step.find name).run bench =
    (.ok (.declaration ((bench.catalog.find? name).map (·.declaration))), bench) := rfl

theorem Views.of_reaches {start bench : Bench} (hs : start.catalog.names = [])
    (h : Reaches start bench) : Views start bench where
  nodup := bench.catalog.nodup_names
  size := by rw [Step.run, Catalog.size, Catalog.names, List.length_map]
  contains name := by
    rw [Step.run, ← Catalog.contains, Catalog.contains_eq]
  absent name hn := by
    rw [find_run, Catalog.find?_eq_none_iff.mpr hn, Option.map_none]
  present name hn := by
    obtain ⟨tool, hf⟩ := Catalog.exists_find?_iff.mpr hn
    refine ⟨tool, ?_, hf, Catalog.name_of_find? hf, fun p _ => p.visible,
      tool.declaration.distinct, h.stems hs hf⟩
    rw [find_run, hf, Option.map_some]
  functions := by
    refine ⟨bench.catalog.functionSchemas, rfl, ?_⟩
    simp only [Catalog.functionSchemas, Catalog.names, List.map_map, Function.comp_def,
      Declaration.functionName?_functionSchema, Tool.name]
  tools := by
    refine ⟨bench.catalog.toolSchemas, rfl, ?_⟩
    simp only [Catalog.toolSchemas, Catalog.names, List.map_map, Function.comp_def,
      Declaration.toolName?_toolSchema, Tool.name]

/-- **The views agree.** On every bench that is reached from an empty one the views agree. From
there on every script and every call reaches further benches only, at any depth and whether it
ends with a reply, a report or a fault that goes on. All benches of a session are reached, and
its entries show their names. -/
theorem views_agree (settings : Settings) :
    (∀ strict bench, Reaches (.start settings strict) bench →
      Views (.start settings strict) bench ∧
      (∀ depth mode (script : Script mode),
        Reaches (.start settings strict) (script.run (Bench.answerUpTo depth) bench).2) ∧
      ∀ depth mode name args,
        Reaches (.start settings strict) (Bench.call depth mode name args bench).2) ∧
    ∀ setup script,
      (∃ strict, ∀ bench ∈ stages settings setup script,
        Reaches (.start settings strict) bench) ∧
      List.Forall₂ Entry.Shows (run settings setup script) (stages settings setup script) := by
  refine ⟨fun strict bench h => ⟨.of_reaches rfl h, ?_, ?_⟩, fun setup script => ⟨?_, ?_⟩⟩
  · intro depth mode script
    exact h.trans (Bench.kept_reaches.run (Bench.kept_reaches.answerUpTo depth) script bench)
  · intro depth mode name args
    exact h.trans (Bench.kept_reaches.call depth mode name args bench)
  · exact Bench.kept_reaches.stages (fun _ => .single (.rest rfl)) settings setup script
  · exact run_shows settings setup script

end Session
end Toolbench
