import Toolbench.Script
import Toolbench.Event
import Toolbench.Declaration.Schema

/-! Catalogs of tools. A catalog finds a tool by its name and keeps the tools in the order in
which their names came; a tool that takes the place of another of its name takes its position
too. A strict catalog does not let a name be taken twice. -/

namespace Toolbench

structure Catalog where
  strict : Bool
  tools : List Tool
  distinct : (tools.map Tool.name).Nodup

namespace Catalog

def empty (strict : Bool) : Catalog :=
  ⟨strict, [], List.nodup_nil⟩

/-- The names of the tools, in the order in which they came. -/
def names (catalog : Catalog) : List String :=
  catalog.tools.map Tool.name

def find? (catalog : Catalog) (name : String) : Option Tool :=
  catalog.tools.find? (·.name = name)

def contains (catalog : Catalog) (name : String) : Bool :=
  (catalog.find? name).isSome

def size (catalog : Catalog) : Nat :=
  catalog.tools.length

/-- Puts a tool in the place of the one of its name, or at the end. -/
def put (tool : Tool) : List Tool → List Tool
  | [] => [tool]
  | other :: others =>
    if other.name = tool.name then tool :: others else other :: put tool others

theorem names_put (tool : Tool) (tools : List Tool) :
    (put tool tools).map Tool.name =
      if tool.name ∈ tools.map Tool.name then tools.map Tool.name
      else tools.map Tool.name ++ [tool.name] := by
  induction tools with
  | nil => simp [put]
  | cons other others ih =>
    by_cases h : other.name = tool.name
    · simp [put, h]
    · simp only [put, h, if_false, List.map_cons, ih, List.mem_cons, Ne.symm h, false_or]
      split <;> simp

theorem nodup_names_put (tool : Tool) {tools : List Tool} (h : (tools.map Tool.name).Nodup) :
    ((put tool tools).map Tool.name).Nodup := by
  rw [names_put]
  split
  · exact h
  · next absent => exact List.nodup_append.2 ⟨h, by simp, by grind⟩

/-- The catalog with a tool put into it. -/
def insert (catalog : Catalog) (tool : Tool) : Catalog :=
  { catalog with
    tools := put tool catalog.tools
    distinct := nodup_names_put tool catalog.distinct }

/-- The catalog without the tool of a name. -/
def erase (catalog : Catalog) (name : String) : Catalog :=
  { catalog with
    tools := catalog.tools.filter (·.name ≠ name)
    distinct := catalog.distinct.sublist (List.filter_sublist.map _) }

/-- Registers a tool: the new catalog and the events. What is registered must be callable, and
its name must be free if the catalog is strict. -/
def register (catalog : Catalog) (declaration : Declaration) (handler : Option Handler) :
    Except RegistrationError (Catalog × List Event) :=
  match handler with
  | none => .error (.notCallable declaration.name)
  | some handler =>
    if catalog.contains declaration.name then
      if catalog.strict then .error (.alreadyRegistered declaration.name)
      else
        .ok (catalog.insert ⟨declaration, handler⟩,
          [.replaced declaration.name, .registered declaration.signature])
    else
      .ok (catalog.insert ⟨declaration, handler⟩, [.registered declaration.signature])

/-- The functions of a catalog as they are offered to a chat model. -/
def functionSchemas (catalog : Catalog) : List Document :=
  catalog.tools.map (·.declaration.functionSchema)

/-- The tools of a catalog as they are offered to a model that reads input schemas directly. -/
def toolSchemas (catalog : Catalog) : List Document :=
  catalog.tools.map (·.declaration.toolSchema)

/-- The description of all tools, one after the other. -/
def describe (catalog : Catalog) : String :=
  "\n" ++ String.join (catalog.tools.map fun tool => tool.declaration.describe ++ "\n")

/-- A catalog in one line. -/
def summary (catalog : Catalog) : String :=
  "<ToolRegistry tools=[" ++ ", ".intercalate catalog.names ++ "]>"

end Catalog

end Toolbench
