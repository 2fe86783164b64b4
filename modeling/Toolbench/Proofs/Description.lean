import Toolbench.Catalog
import Toolbench.Proofs.Delimiters

/-! # What the description of a catalog tells

A description is made of lines, a signature of entries between commas, and an entry of a name and
a label with a colon between them. If these characters stand in no name, usage or label, they say
where each part ends, and the description tells the heading of every tool: its name, its usage and
the names and labels of its parameters (`describe_eq_iff`). Parentheses and spaces need no such
care, since the name of the tool stands in a line of its own before the signature. -/

namespace Toolbench

/-- The name and the label of a parameter keep clear of the characters that end them. -/
structure Parameter.Plain (p : Parameter) : Prop where
  name : ∀ c ∈ ['\n', ':', ','], c ∉ p.name.toList
  label : ∀ c ∈ ['\n', ','], c ∉ p.label.toList

/-- What a declaration shows of itself keeps clear of the characters that end it. -/
structure Declaration.Plain (d : Declaration) : Prop where
  name : '\n' ∉ d.name.toList
  usage : '\n' ∉ d.usage.toList
  parameters : ∀ p ∈ d.parameters, p.Plain

/-- The name and the usage of a tool, and the names and labels of its parameters in their order. -/
structure Declaration.Heading where
  name : String
  usage : String
  parameters : List (String × String)
deriving DecidableEq, Repr

def Declaration.heading (d : Declaration) : Heading :=
  ⟨d.name, d.usage, d.parameters.map fun p => (p.name, p.label)⟩

/-! ## Entries -/

namespace Parameter

/-- A parameter as it stands in a signature. -/
def entry (p : Parameter) : List Char :=
  p.name.toList ++ ':' :: ' ' :: p.label.toList

theorem toList_entry (p : Parameter) : (p.name ++ ": " ++ p.label).toList = p.entry := by
  simp only [entry, String.toList_append, List.append_assoc]
  rfl

theorem entry_ne_nil (p : Parameter) : p.entry ≠ [] :=
  List.append_ne_nil_of_right_ne_nil _ (List.cons_ne_nil _ _)

namespace Plain

variable {p p' : Parameter}

theorem notMem_entry (h : p.Plain) {c : Char} (hc : c ∈ ['\n', ',']) : c ∉ p.entry := by
  simp only [entry, List.mem_append, List.mem_cons, not_or]
  obtain rfl | rfl : c = '\n' ∨ c = ',' := by simpa using hc
  · exact ⟨h.name _ (.head _), by decide, by decide, h.label _ (.head _)⟩
  · exact ⟨h.name _ (.tail _ (.tail _ (.head _))), by decide, by decide,
      h.label _ (.tail _ (.head _))⟩

/-- The name of a parameter ends at the colon. -/
theorem entry_inj (h : p.Plain) (h' : p'.Plain) (he : p.entry = p'.entry) :
    (p.name, p.label) = (p'.name, p'.label) := by
  have hcolon : ':' ∈ ['\n', ':', ','] := .tail _ (.head _)
  obtain ⟨hname, hlabel⟩ := Text.append_cons_inj (h.name _ hcolon) (h'.name _ hcolon) he
  rw [String.toList_inj.mp hname, String.toList_inj.mp (List.cons.inj hlabel).2]

theorem entries_inj {ps ps' : List Parameter} (h : ∀ p ∈ ps, p.Plain) (h' : ∀ p ∈ ps', p.Plain)
    (he : ps.map entry = ps'.map entry) :
    (ps.map fun p => (p.name, p.label)) = ps'.map fun p => (p.name, p.label) := by
  induction ps generalizing ps' with
  | nil =>
    obtain rfl := List.map_eq_nil_iff.mp he.symm
    rfl
  | cons p ps ih =>
    obtain ⟨p', ps', rfl, hp, hps⟩ := List.map_eq_cons_iff.mp he.symm
    rw [List.map_cons, List.map_cons,
      entry_inj (h p List.mem_cons_self) (h' p' List.mem_cons_self) hp.symm,
      ih (fun q hq => h q (.tail _ hq)) (fun q hq => h' q (.tail _ hq)) hps.symm]

end Plain

end Parameter

namespace Declaration

/-! ## Signatures -/

/-- What stands between the parentheses of a signature. -/
def entries (d : Declaration) : List Char :=
  ", ".toList.intercalate (d.parameters.map Parameter.entry)

theorem toList_signature (d : Declaration) :
    d.signature.toList = d.name.toList ++ '(' :: (d.entries ++ [')']) := by
  have hentries : (d.parameters.map fun p => p.name ++ ": " ++ p.label).map String.toList =
      d.parameters.map Parameter.entry := by
    rw [List.map_map]
    exact List.map_congr_left fun p _ => p.toList_entry
  simp only [signature, entries, String.toList_append, String.toList_intercalate, hentries,
    List.append_assoc]
  rfl

/-- The lines of a description, with what comes after them. -/
theorem toList_describe_append (d : Declaration) (rest : List Char) :
    d.describe.toList ++ rest =
      "\tName:  ".toList ++ (d.name.toList ++ '\n' :: ("\tUsage: ".toList ++ (d.usage.toList ++
        '\n' :: ("\tFunc:  ".toList ++ (d.signature.toList ++ '\n' :: rest))))) := by
  simp only [describe, String.toList_append, List.append_assoc]
  rfl

variable {d d' : Declaration}

/-- A description shows no more than the heading. -/
theorem describe_of_heading (h : d.heading = d'.heading) : d.describe = d'.describe := by
  obtain ⟨hname, husage, hparameters⟩ := Heading.mk.inj h
  have hentries : (d.parameters.map fun p => p.name ++ ": " ++ p.label) =
      d'.parameters.map fun p => p.name ++ ": " ++ p.label := by
    have hmap := congrArg (List.map fun entry => entry.1 ++ ": " ++ entry.2) hparameters
    rwa [List.map_map, List.map_map] at hmap
  rw [describe, signature, hname, husage, hentries, describe, signature]

namespace Plain

theorem newline_notMem_entries (h : d.Plain) : '\n' ∉ d.entries := by
  apply Text.notMem_intercalate
  · decide
  · intro piece hm
    obtain ⟨p, hp, rfl⟩ := List.mem_map.mp hm
    exact (h.parameters p hp).notMem_entry List.mem_cons_self

theorem newline_notMem_signature (h : d.Plain) : '\n' ∉ d.signature.toList := by
  rw [toList_signature]
  simp only [List.mem_append, List.mem_cons, List.not_mem_nil, not_or]
  exact ⟨h.name, by decide, h.newline_notMem_entries, by decide, not_false⟩

theorem entry_delimited (h : d.Plain) :
    ∀ piece ∈ d.parameters.map Parameter.entry, piece ≠ [] ∧ ',' ∉ piece := by
  intro piece hm
  obtain ⟨p, hp, rfl⟩ := List.mem_map.mp hm
  exact ⟨p.entry_ne_nil, (h.parameters p hp).notMem_entry (.tail _ List.mem_cons_self)⟩

/-- Signatures of tools of one name differ only in the entries. -/
theorem entries_eq_of_signature (hn : d.name = d'.name)
    (hs : d.signature.toList = d'.signature.toList) : d.entries = d'.entries := by
  rw [toList_signature, toList_signature, hn] at hs
  exact List.append_cancel_right (List.cons.inj (List.append_cancel_left hs)).2

/-- The description of a tool tells its heading, and where it ends. -/
theorem describe_append_inj {rest rest' : List Char} (h : d.Plain) (h' : d'.Plain)
    (hd : d.describe.toList ++ rest = d'.describe.toList ++ rest') :
    d.heading = d'.heading ∧ rest = rest' := by
  rw [toList_describe_append, toList_describe_append] at hd
  -- each line ends at its line feed, so the name is known before the signature is looked into
  obtain ⟨hname, hd⟩ := Text.append_cons_inj h.name h'.name (List.append_cancel_left hd)
  obtain ⟨husage, hd⟩ := Text.append_cons_inj h.usage h'.usage (List.append_cancel_left hd)
  obtain ⟨hsignature, hrest⟩ := Text.append_cons_inj h.newline_notMem_signature
    h'.newline_notMem_signature (List.append_cancel_left hd)
  have hname : d.name = d'.name := String.toList_inj.mp hname
  have hentries : d.parameters.map Parameter.entry = d'.parameters.map Parameter.entry :=
    Text.intercalate_inj h.entry_delimited h'.entry_delimited
      (entries_eq_of_signature hname hsignature)
  have hparameters := Parameter.Plain.entries_inj h.parameters h'.parameters hentries
  rw [heading, heading, hname, String.toList_inj.mp husage, hparameters]
  exact ⟨rfl, hrest⟩

end Plain

end Declaration

namespace Catalog

/-! ## Catalogs -/

/-- The descriptions of some tools, with the blank line after each of them. -/
def blocks (tools : List Tool) : List Char :=
  tools.flatMap fun tool => tool.declaration.describe.toList ++ ['\n']

theorem toList_describe (catalog : Catalog) :
    catalog.describe.toList = '\n' :: blocks catalog.tools := by
  simp only [describe, String.toList_append, String.toList_join, blocks, List.flatMap_map]
  rfl

theorem blocks_cons (tool : Tool) (tools : List Tool) : blocks (tool :: tools) =
    tool.declaration.describe.toList ++ '\n' :: blocks tools := by
  rw [blocks, List.flatMap_cons, List.append_assoc, List.singleton_append, blocks]

theorem blocks_cons_ne_nil (tool : Tool) (tools : List Tool) : blocks (tool :: tools) ≠ [] := by
  rw [blocks_cons]
  exact List.append_ne_nil_of_right_ne_nil _ (List.cons_ne_nil _ _)

variable {tools tools' : List Tool}

theorem blocks_eq_iff (h : ∀ tool ∈ tools, tool.declaration.Plain)
    (h' : ∀ tool ∈ tools', tool.declaration.Plain) :
    blocks tools = blocks tools' ↔ (tools.map fun tool => tool.declaration.heading) =
      tools'.map fun tool => tool.declaration.heading := by
  induction tools generalizing tools' with
  | nil =>
    cases tools' with
    | nil => exact iff_of_true rfl rfl
    | cons tool' tools' =>
      exact iff_of_false (Ne.symm (blocks_cons_ne_nil tool' tools')) nofun
  | cons tool tools ih =>
    cases tools' with
    | nil => exact iff_of_false (blocks_cons_ne_nil tool tools) nofun
    | cons tool' tools' =>
      have ih := ih (fun other hm => h other (.tail _ hm)) fun other hm => h' other (.tail _ hm)
      rw [blocks_cons, blocks_cons, List.map_cons, List.map_cons, List.cons.injEq, ← ih]
      constructor
      · intro hb
        obtain ⟨hheading, hrest⟩ :=
          (h tool List.mem_cons_self).describe_append_inj (h' tool' List.mem_cons_self) hb
        exact ⟨hheading, (List.cons.inj hrest).2⟩
      · rintro ⟨hheading, hblocks⟩
        rw [Declaration.describe_of_heading hheading, hblocks]

/-- Two catalogs of plain tools have the same description if and only if their tools have the same
headings in the same order. -/
theorem describe_eq_iff {catalog other : Catalog}
    (h : ∀ tool ∈ catalog.tools, tool.declaration.Plain)
    (h' : ∀ tool ∈ other.tools, tool.declaration.Plain) :
    catalog.describe = other.describe ↔
      (catalog.tools.map fun tool => tool.declaration.heading) =
        other.tools.map fun tool => tool.declaration.heading := by
  rw [← String.toList_inj, toList_describe, toList_describe, List.cons.injEq,
    blocks_eq_iff h h', and_iff_right rfl]

/-- A catalog with one tool. -/
def ofDeclaration (d : Declaration) : Catalog :=
  ⟨false, [⟨d, fun _ => .finish (.data .null)⟩], List.pairwise_singleton _ _⟩

/-- A tool whose name looks like the signature of another. -/
def lookalike : Declaration where
  name := "f(x: int)"
  usage := ""
  parameters := []
  visible := by decide
  distinct := List.nodup_nil

def lookedAt : Declaration where
  name := "f"
  usage := ""
  parameters := [⟨⟨⟨"x", "int", "", true⟩, none⟩, by decide⟩]
  visible := by decide
  distinct := List.pairwise_singleton _ _

theorem describe_lookalike_ne :
    (ofDeclaration lookalike).describe ≠ (ofDeclaration lookedAt).describe := by
  have hlookalike : ∀ tool ∈ (ofDeclaration lookalike).tools, tool.declaration.Plain :=
    List.forall_mem_singleton.mpr ⟨by decide, by decide, nofun⟩
  have hlookedAt : ∀ tool ∈ (ofDeclaration lookedAt).tools, tool.declaration.Plain :=
    List.forall_mem_singleton.mpr
      ⟨by decide, by decide, List.forall_mem_singleton.mpr
        ⟨by simp, by simp⟩⟩
  rw [ne_eq, describe_eq_iff hlookalike hlookedAt]
  decide

end Catalog

end Toolbench
