import Mathlib.Data.List.Nodup
import Toolbench.Proofs.Views

/-! # The exported forms of a declaration

Both exported forms of a declaration say everything that a declaration shows of itself: its
outline can be read off either of them (`Declaration.outline?_functionSchema`,
`Declaration.outline?_toolSchema`). The flags of the required parameters are told by a list of
names only, and they can be told from it because no two parameters share a name. For the same
reason no property takes the place of another one (`Declaration.members_set`). -/

namespace Toolbench

namespace Document

/-! ## Reading a document -/

def members? : Document → Option (List (String × Document))
  | .object members => some members
  | _ => none

def texts? : Document → Option (List String)
  | .items parts => parts.mapM text?
  | _ => none

/-- A property of a schema, as what a parameter shows of itself. -/
def parameter? (required : List String) (property : String × Document) :
    Option Parameter.Outline := do
  let label ← (← property.2.member? "type").text?
  let usage ← (← property.2.member? "description").text?
  return ⟨property.1, label, usage, decide (property.1 ∈ required)⟩

/-- The parameters that a schema tells of, in the order of its properties. -/
def parameters? (schema : Document) : Option (List Parameter.Outline) := do
  let required ← (← schema.member? "required").texts?
  let properties ← (← schema.member? "properties").members?
  properties.mapM (parameter? required)

/-- The outline of a declaration whose schema of the parameters is the member of the given key. -/
def outline? (key : String) (document : Document) : Option Declaration.Outline := do
  let name ← (← document.member? "name").text?
  let usage ← (← document.member? "description").text?
  let parameters ← (← document.member? key).parameters?
  return ⟨name, usage, parameters⟩

/-- The outline that a tool is offered with. -/
def toolOutline? (document : Document) : Option Declaration.Outline :=
  document.outline? "input_schema"

/-- The outline that a function is offered with. -/
def functionOutline? (document : Document) : Option Declaration.Outline :=
  (document.member? "function").bind (outline? "parameters")

/-- What is read of every part is read of the whole. -/
theorem mapM_map_eq_some {α β γ : Type} {make : α → β} {read : β → Option γ} {seen : α → γ}
    {as : List α} (h : ∀ a ∈ as, read (make a) = some (seen a)) :
    (as.map make).mapM read = some (as.map seen) := by
  induction as with
  | nil => rfl
  | cons a as ih =>
    have has := ih fun b hb => h b (List.mem_cons_of_mem a hb)
    rw [List.map_cons, List.mapM_cons, h a List.mem_cons_self, has]
    rfl

theorem texts?_items_map_text (names : List String) :
    (Document.items (names.map .text)).texts? = some names := by
  have h : (names.map Document.text).mapM text? = some (names.map id) :=
    mapM_map_eq_some fun _ _ => rfl
  rwa [List.map_id] at h

/-! ## Setting the members of an object -/

/-- Sets the value of a key: a key that is present keeps its place. -/
def setMember (members : List (String × Document)) (key : String) (value : Document) :
    List (String × Document) :=
  match members with
  | [] => [(key, value)]
  | member :: rest =>
    if member.1 = key then (key, value) :: rest else member :: setMember rest key value

theorem setMember_of_notMem {members : List (String × Document)} {key : String}
    (h : key ∉ members.map (·.1)) (value : Document) :
    setMember members key value = members ++ [(key, value)] := by
  induction members with
  | nil => rfl
  | cons member rest ih =>
    rw [List.map_cons, List.mem_cons, not_or] at h
    rw [setMember, if_neg (Ne.symm h.1), ih h.2, List.cons_append]

/-- Keys that are pairwise distinct end up in the order in which they are set. -/
theorem foldl_setMember (members added : List (String × Document))
    (h : ((members ++ added).map (·.1)).Nodup) :
    added.foldl (fun members member => setMember members member.1 member.2) members =
      members ++ added := by
  induction added generalizing members with
  | nil => rw [List.foldl_nil, List.append_nil]
  | cons member added ih =>
    have hnew : member.1 ∉ members.map (·.1) := by
      rw [List.map_append, List.nodup_append] at h
      intro hm
      exact h.2.2 _ hm _ (List.mem_map_of_mem List.mem_cons_self) rfl
    rw [List.foldl_cons, setMember_of_notMem hnew, ih _ (by rwa [List.append_assoc]),
      List.append_assoc, List.singleton_append]

end Document

namespace Declaration

open Document (text? member? members? texts? parameter?)

/-- The members of the properties in the schema of a declaration. -/
def properties (d : Declaration) : List (String × Document) :=
  d.parameters.map fun p => (p.name, p.property)

theorem keys_properties (d : Declaration) :
    d.properties.map (·.1) = d.parameters.map (·.name) := by
  rw [properties, List.map_map]
  rfl

/-- To set one property after the other, as a mapping does, makes the same members. -/
theorem members_set (d : Declaration) :
    d.properties.foldl (fun members member => Document.setMember members member.1 member.2) [] =
      d.properties := by
  refine Document.foldl_setMember [] d.properties ?_
  rw [List.nil_append, keys_properties]
  exact d.distinct

/-! ## Required parameters -/

theorem requiredNames_sublist (d : Declaration) :
    d.requiredNames.Sublist (d.parameters.map (·.name)) :=
  List.filter_sublist.map _

/-- The name of a parameter tells whether it is required. -/
theorem name_mem_requiredNames_iff {d : Declaration} {p : Parameter} (hp : p ∈ d.parameters) :
    p.name ∈ d.requiredNames ↔ p.required = true := by
  constructor
  · intro h
    obtain ⟨q, hq, hn⟩ := List.mem_map.mp h
    obtain ⟨hq, hr⟩ := List.mem_filter.mp hq
    obtain rfl : q = p := List.inj_on_of_nodup_map d.distinct hq hp hn
    exact hr
  · intro h
    exact List.mem_map_of_mem (List.mem_filter.mpr ⟨hp, h⟩)

/-! ## What is read off the exports -/

theorem parameter?_property {required : List String} {p : Parameter}
    (h : p.name ∈ required ↔ p.required = true) :
    parameter? required (p.name, p.property) = some p.toOutline := by
  have hr : decide (p.name ∈ required) = p.required := by
    rw [Bool.eq_iff_iff, decide_eq_true_iff, h]
  have hread : parameter? required (p.name, p.property) =
      some ⟨p.name, p.label, p.usage, decide (p.name ∈ required)⟩ := rfl
  rw [hread, hr]

theorem parameters?_parameterSchema (d : Declaration) :
    d.parameterSchema.parameters? = some (d.parameters.map (·.toOutline)) := by
  have hrequired := Document.texts?_items_map_text d.requiredNames
  have hread : d.parameterSchema.parameters? =
      (Document.items (d.requiredNames.map .text)).texts?.bind fun required =>
        d.properties.mapM (parameter? required) := rfl
  rw [hread, hrequired, Option.bind_some]
  exact Document.mapM_map_eq_some fun p hp => parameter?_property (name_mem_requiredNames_iff hp)

theorem outline?_toolSchema (d : Declaration) : d.toolSchema.toolOutline? = some d.outline := by
  have hread : d.toolSchema.toolOutline? =
      d.parameterSchema.parameters?.bind fun parameters => some ⟨d.name, d.usage, parameters⟩ := rfl
  rw [hread, parameters?_parameterSchema, Option.bind_some, outline]

theorem outline?_functionSchema (d : Declaration) :
    d.functionSchema.functionOutline? = some d.outline := by
  have hread : d.functionSchema.functionOutline? =
      d.parameterSchema.parameters?.bind fun parameters => some ⟨d.name, d.usage, parameters⟩ := rfl
  rw [hread, parameters?_parameterSchema, Option.bind_some, outline]

/-! ## What the exports are made of -/

/-- The exports are made of the outline alone. A reader of its own is not exported. -/
theorem parameterSchema_of_outline_eq {d d' : Declaration} (h : d.outline = d'.outline) :
    d.parameterSchema = d'.parameterSchema := by
  have houtlines : d.parameters.map (·.toOutline) = d'.parameters.map (·.toOutline) :=
    congrArg Outline.parameters h
  have hproperties (d : Declaration) : d.properties =
      (d.parameters.map (·.toOutline)).map fun o =>
        (o.name, .object [("type", .text o.label), ("description", .text o.usage)]) := by
    rw [List.map_map]
    rfl
  have hrequired (d : Declaration) : d.requiredNames =
      ((d.parameters.map (·.toOutline)).filter (·.required)).map (·.name) := by
    rw [List.filter_map, List.map_map]
    rfl
  have hschema (d : Declaration) : d.parameterSchema =
      .object [("type", .text "object"), ("properties", .object d.properties),
        ("required", .items (d.requiredNames.map .text))] := rfl
  rw [hschema, hschema, hproperties, hproperties, hrequired, hrequired, houtlines]

theorem functionSchema_of_outline_eq {d d' : Declaration} (h : d.outline = d'.outline) :
    d.functionSchema = d'.functionSchema := by
  have hname : d.name = d'.name := congrArg Outline.name h
  have husage : d.usage = d'.usage := congrArg Outline.usage h
  rw [functionSchema, functionSchema, parameterSchema_of_outline_eq h, hname, husage]

theorem toolSchema_of_outline_eq {d d' : Declaration} (h : d.outline = d'.outline) :
    d.toolSchema = d'.toolSchema := by
  have hname : d.name = d'.name := congrArg Outline.name h
  have husage : d.usage = d'.usage := congrArg Outline.usage h
  rw [toolSchema, toolSchema, parameterSchema_of_outline_eq h, hname, husage]

/-- How a declaration is exported. Declarations count as the same if they have the same outline;
the readers of their parameters do not matter. -/
structure Exported (d : Declaration) : Prop where
  function : d.functionSchema.functionOutline? = some d.outline
  tool : d.toolSchema.toolOutline? = some d.outline
  outline_eq_iff_function : ∀ d' : Declaration,
    d.outline = d'.outline ↔ d.functionSchema = d'.functionSchema
  outline_eq_iff_tool : ∀ d' : Declaration, d.outline = d'.outline ↔ d.toolSchema = d'.toolSchema
  /-- Both forms hold the same schema of the parameters. -/
  schema : (d.functionSchema.member? "function").bind (Document.member? "parameters") =
      some d.parameterSchema ∧
    d.toolSchema.member? "input_schema" = some d.parameterSchema
  /-- It has one property for each parameter, in the order of the parameters. A mapping of these
  keys to these values has no other members. -/
  properties : ∃ members, d.parameterSchema.member? "properties" = some (.object members) ∧
    members.length = d.arity ∧ members.map (·.1) = d.parameters.map (·.name) ∧
    (members.map (·.1)).Nodup ∧
    members = (d.parameters.map fun p => (p.name, p.property)).foldl
      (fun members member => Document.setMember members member.1 member.2) []
  /-- The required names are those of the required parameters, each of them once and in the order
  of the parameters. -/
  required : ∃ names : List String,
    d.parameterSchema.member? "required" = some (.items (names.map .text)) ∧
    names.Sublist (d.parameters.map (·.name)) ∧ names.Nodup ∧
    ∀ p ∈ d.parameters, (p.name ∈ names ↔ p.required = true)

/-- **Exports lose nothing.** The outline of a declaration can be read off both of its exports, so
two declarations have the same outline exactly if they have the same exports. -/
theorem exports_lossless (d : Declaration) : Exported d where
  function := outline?_functionSchema d
  tool := outline?_toolSchema d
  outline_eq_iff_function d' := by
    refine ⟨functionSchema_of_outline_eq, fun h => ?_⟩
    have hread := outline?_functionSchema d
    rw [h, outline?_functionSchema] at hread
    exact (Option.some.inj hread).symm
  outline_eq_iff_tool d' := by
    refine ⟨toolSchema_of_outline_eq, fun h => ?_⟩
    have hread := outline?_toolSchema d
    rw [h, outline?_toolSchema] at hread
    exact (Option.some.inj hread).symm
  schema := ⟨rfl, rfl⟩
  properties := by
    refine ⟨d.properties, rfl, List.length_map _, keys_properties d, ?_, (members_set d).symm⟩
    rw [keys_properties]
    exact d.distinct
  required := by
    refine ⟨d.requiredNames, rfl, d.requiredNames_sublist,
      d.distinct.sublist d.requiredNames_sublist, ?_⟩
    intro p hp
    exact name_mem_requiredNames_iff hp

end Declaration
end Toolbench
