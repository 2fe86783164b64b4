import Toolbench.Bench.Basic

/-! # Laws of the catalog

The names and the lookups after each operation of a catalog, and when a registration is
accepted. Everything later is said about these laws; the list of tools behind a catalog is
opened nowhere else. -/

namespace Toolbench
namespace Catalog

variable {catalog : Catalog} {name : String} {tool : Tool}

/-! ## Names and lookups -/

theorem nodup_names (catalog : Catalog) : catalog.names.Nodup := catalog.distinct

theorem mem_names : name ∈ catalog.names ↔ ∃ tool ∈ catalog.tools, tool.name = name :=
  List.mem_map

private theorem find?_tools {tools : List Tool} (hd : (tools.map Tool.name).Nodup) :
    tools.find? (·.name = name) = some tool ↔ tool ∈ tools ∧ tool.name = name := by
  induction tools with
  | nil => simp
  | cons other others ih =>
    obtain ⟨hnew, hd⟩ := List.nodup_cons.mp hd
    by_cases ho : other.name = name
    · simp only [List.find?_cons, ho, decide_true, Option.some.injEq, List.mem_cons]
      constructor
      · intro h
        exact ⟨.inl h.symm, h ▸ ho⟩
      · rintro ⟨rfl | hm, hn⟩
        · rfl
        · exact absurd (List.mem_map.mpr ⟨tool, hm, hn.trans ho.symm⟩) hnew
    · simp only [List.find?_cons, ho, decide_false, ih hd, List.mem_cons]
      constructor
      · rintro ⟨hm, hn⟩
        exact ⟨.inr hm, hn⟩
      · rintro ⟨rfl | hm, hn⟩
        · exact absurd hn ho
        · exact ⟨hm, hn⟩

theorem find?_eq_some_iff :
    catalog.find? name = some tool ↔ tool ∈ catalog.tools ∧ tool.name = name :=
  find?_tools catalog.distinct

theorem name_of_find? (h : catalog.find? name = some tool) : tool.name = name :=
  (find?_eq_some_iff.mp h).2

theorem find?_eq_none_iff : catalog.find? name = none ↔ name ∉ catalog.names := by
  simp [find?, mem_names]

theorem exists_find?_iff : (∃ tool, catalog.find? name = some tool) ↔ name ∈ catalog.names := by
  rw [← Option.ne_none_iff_exists', ne_eq, find?_eq_none_iff, Classical.not_not]

theorem contains_iff : catalog.contains name = true ↔ name ∈ catalog.names := by
  rw [contains, Option.isSome_iff_exists, exists_find?_iff]

theorem contains_eq (catalog : Catalog) (name : String) :
    catalog.contains name = decide (name ∈ catalog.names) := by
  rw [Bool.eq_iff_iff, contains_iff, decide_eq_true_iff]

/-! ## Insertion and removal -/

@[simp] theorem names_empty (strict : Bool) : (empty strict).names = [] := rfl

@[simp] theorem find?_empty (strict : Bool) (name : String) : (empty strict).find? name = none :=
  rfl

@[simp] theorem strict_insert (catalog : Catalog) (tool : Tool) :
    (catalog.insert tool).strict = catalog.strict := rfl

@[simp] theorem strict_erase (catalog : Catalog) (name : String) :
    (catalog.erase name).strict = catalog.strict := rfl

/-- A tool that replaces another keeps its position, and a new one comes last. -/
theorem names_insert (catalog : Catalog) (tool : Tool) :
    (catalog.insert tool).names =
      if tool.name ∈ catalog.names then catalog.names else catalog.names ++ [tool.name] :=
  names_put tool catalog.tools

theorem mem_names_insert :
    name ∈ (catalog.insert tool).names ↔ name ∈ catalog.names ∨ name = tool.name := by
  rw [names_insert]
  split
  next h => exact ⟨.inl, fun hn => hn.elim id fun he => he ▸ h⟩
  next => rw [List.mem_append, List.mem_singleton]

theorem names_erase (catalog : Catalog) (name : String) :
    (catalog.erase name).names = catalog.names.filter (· ≠ name) := by
  simp [names, erase, List.filter_map, Function.comp_def]

theorem mem_names_erase {other : String} :
    other ∈ (catalog.erase name).names ↔ other ∈ catalog.names ∧ other ≠ name := by
  rw [names_erase, List.mem_filter, decide_eq_true_iff]

private theorem find?_put (tool : Tool) (tools : List Tool) (name : String) :
    (put tool tools).find? (·.name = name) =
      if tool.name = name then some tool else tools.find? (·.name = name) := by
  induction tools with
  | nil => by_cases h : tool.name = name <;> simp [put, h]
  | cons other others ih =>
    by_cases ho : other.name = tool.name
    · by_cases h : tool.name = name <;> simp [put, ho, h]
    · simp only [put, ho, if_false, List.find?_cons, ih]
      by_cases h : tool.name = name
      · have hn : other.name ≠ name := fun he => ho (he.trans h.symm)
        simp [h, hn]
      · simp [h]

theorem find?_insert (catalog : Catalog) (tool : Tool) (name : String) :
    (catalog.insert tool).find? name =
      if tool.name = name then some tool else catalog.find? name :=
  find?_put tool catalog.tools name

theorem find?_insert_self (catalog : Catalog) (tool : Tool) :
    (catalog.insert tool).find? tool.name = some tool := by
  rw [find?_insert, if_pos rfl]

theorem find?_erase (catalog : Catalog) (removed name : String) :
    (catalog.erase removed).find? name =
      if removed = name then none else catalog.find? name := by
  split
  next h => rw [find?_eq_none_iff, mem_names_erase]; exact fun hm => hm.2 h.symm
  next h =>
    have hp : ∀ tool : Tool, (tool.name ≠ removed ∧ tool.name = name) ↔ tool.name = name :=
      fun tool => ⟨And.right, fun hn => ⟨fun he => h (he.symm.trans hn), hn⟩⟩
    simp [find?, erase, List.find?_filter, hp]

theorem erase_of_notMem (h : name ∉ catalog.names) : catalog.erase name = catalog := by
  have ht : catalog.tools.filter (·.name ≠ name) = catalog.tools := by
    refine List.filter_eq_self.mpr fun tool hm => decide_eq_true fun hn => h ?_
    exact mem_names.mpr ⟨tool, hm, hn⟩
  cases catalog
  simp only [erase, mk.injEq, true_and]
  exact ht

/-! ## Registration -/

/-- The events of an accepted registration. -/
def notices (catalog : Catalog) (declaration : Declaration) : List Event :=
  (if declaration.name ∈ catalog.names then [.replaced declaration.name] else []) ++
    [.registered declaration.signature]

theorem notices_of_mem {declaration : Declaration} (h : declaration.name ∈ catalog.names) :
    catalog.notices declaration =
      [.replaced declaration.name, .registered declaration.signature] := by
  rw [notices, if_pos h, List.singleton_append]

theorem notices_of_notMem {declaration : Declaration} (h : declaration.name ∉ catalog.names) :
    catalog.notices declaration = [.registered declaration.signature] := by
  rw [notices, if_neg h, List.nil_append]

theorem register_eq (catalog : Catalog) (declaration : Declaration) (handler : Option Handler) :
    catalog.register declaration handler =
      match handler with
      | none => .error (.notCallable declaration.name)
      | some handler =>
        if catalog.strict ∧ declaration.name ∈ catalog.names then
          .error (.alreadyRegistered declaration.name)
        else .ok (catalog.insert ⟨declaration, handler⟩, catalog.notices declaration) := by
  cases handler with
  | none => rfl
  | some handler =>
    simp only [register, contains_eq, decide_eq_true_eq, notices]
    by_cases hm : declaration.name ∈ catalog.names <;> by_cases hs : catalog.strict <;>
      simp [hm, hs]

end Catalog

namespace Bench

variable {bench after : Bench} {declaration : Declaration} {handler : Option Handler}

theorem register_eq_ok_iff :
    bench.register declaration handler = .ok after ↔
      ∃ h, handler = some h ∧ ¬ (bench.catalog.strict ∧ declaration.name ∈ bench.catalog.names) ∧
        after = { bench with catalog := bench.catalog.insert ⟨declaration, h⟩ }.record
          (bench.catalog.notices declaration) := by
  rw [register, Catalog.register_eq]
  cases handler with
  | none => simp [Except.map]
  | some h =>
    by_cases hr : bench.catalog.strict ∧ declaration.name ∈ bench.catalog.names
    · simp [hr, Except.map]
    · simp only [hr, Except.map, if_false, Except.ok.injEq, Option.some.injEq, not_false_iff,
        true_and, exists_eq_left']
      exact eq_comm

/-- A registration is refused when there is nothing to call, or when the name is taken on a
strict bench. -/
theorem register_eq_error_iff {error : RegistrationError} :
    bench.register declaration handler = .error error ↔
      handler = none ∧ error = .notCallable declaration.name ∨
      handler ≠ none ∧ (bench.catalog.strict ∧ declaration.name ∈ bench.catalog.names) ∧
        error = .alreadyRegistered declaration.name := by
  rw [register, Catalog.register_eq]
  cases handler with
  | none => simpa [Except.map] using eq_comm
  | some h =>
    by_cases hr : bench.catalog.strict ∧ declaration.name ∈ bench.catalog.names
    · simpa [hr, Except.map] using eq_comm
    · simp [hr, Except.map]

theorem remove_fst (bench : Bench) (name : String) :
    (bench.remove name).1 = decide (name ∈ bench.catalog.names) := by
  simp only [remove, Catalog.contains_eq, decide_eq_true_eq]
  split <;> simp_all

theorem catalog_remove (bench : Bench) (name : String) :
    (bench.remove name).2.catalog = bench.catalog.erase name := by
  simp only [remove, Catalog.contains_eq, decide_eq_true_eq]
  split
  next => rfl
  next h => exact (Catalog.erase_of_notMem h).symm

end Bench
end Toolbench
