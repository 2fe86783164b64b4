import Mathlib.Data.List.Perm.Subperm
import Toolbench.Proofs.Export

/-! # Exports that are the same data

To a reader of data the members of an object have no order, while the parts of a list have one
(`Document.same`). So the exports of two declarations are the same data exactly if the declarations
differ in nothing but the places of parameters that are not required
(`Declaration.exports_same_iff`): the properties tell which parameters there are, and the list of
required names tells the order of the required ones. -/

namespace Toolbench

namespace Document

mutual

/-- Two documents are the same data: the order of the parts of a list counts, and that of the
members of an object does not. -/
def same : Document → Document → Bool
  | .text s, .text t => s == t
  | .items parts, .items others => sameParts parts others
  | .object members, .object others =>
    members.length == others.length && sameMembers members others
  | _, _ => false

def sameParts : List Document → List Document → Bool
  | [], [] => true
  | part :: parts, other :: others => same part other && sameParts parts others
  | _, _ => false

/-- Each member has one of the same key among the others, and the values of the two are the
same. -/
def sameMembers : List (String × Document) → List (String × Document) → Bool
  | [], _ => true
  | (key, value) :: members, others =>
    (match others.lookup key with
      | some other => same value other
      | none => false) && sameMembers members others

end

/-! ## Parts and members -/

section
variable {s t key : String} {names others : List String} {value other : Document}
  {parts : List Document} {members rest : List (String × Document)}

@[simp] theorem same_text_iff : (text s).same (text t) = true ↔ s = t := by
  rw [same, beq_iff_eq]

theorem same_items_text_iff :
    (items (names.map text)).same (items (others.map text)) = true ↔ names = others := by
  rw [same]
  induction names generalizing others with
  | nil => cases others <;> simp [sameParts]
  | cons name names ih => cases others <;> simp [sameParts, ih]

theorem sameMembers_iff : sameMembers members rest = true ↔
    ∀ member ∈ members, ∃ other, rest.lookup member.1 = some other ∧
      member.2.same other = true := by
  induction members with
  | nil => simp [sameMembers]
  | cons member members ih =>
    obtain ⟨key, value⟩ := member
    rw [sameMembers, Bool.and_eq_true, ih, List.forall_mem_cons]
    refine and_congr_left fun _ => ?_
    cases rest.lookup key <;> simp

/-- A key that stands once finds its value. -/
theorem lookup_eq_some_iff (h : (members.map (·.1)).Nodup) :
    members.lookup key = some value ↔ (key, value) ∈ members := by
  induction members with
  | nil => simp
  | cons member members ih =>
    obtain ⟨first, found⟩ := member
    obtain ⟨hnew, h⟩ := List.nodup_cons.mp h
    by_cases hk : key = first
    · subst hk
      rw [List.lookup_cons_self, Option.some.injEq, List.mem_cons, Prod.mk.injEq]
      refine ⟨fun hv => .inl ⟨rfl, hv.symm⟩, ?_⟩
      rintro (⟨_, hv⟩ | hm)
      · exact hv.symm
      · exact absurd (List.mem_map_of_mem hm) hnew
    · have hb : (key == first) = false := beq_eq_false_iff_ne.mpr hk
      rw [List.lookup_cons, hb, ih h, List.mem_cons, Prod.mk.injEq]
      simp [hk]

theorem same_object_iff (h : (rest.map (·.1)).Nodup) :
    (object members).same (object rest) = true ↔ members.length = rest.length ∧
      ∀ member ∈ members, ∃ other, (member.1, other) ∈ rest ∧ member.2.same other = true := by
  simp only [same, Bool.and_eq_true, beq_iff_eq, sameMembers_iff, lookup_eq_some_iff h]

/-- Objects with the same keys in the same order are compared value by value. -/
theorem same_object_of_keys (hk : members.map (·.1) = rest.map (·.1))
    (hd : (rest.map (·.1)).Nodup) : (object members).same (object rest) = true ↔
      List.Forall₂ (fun member other => member.2.same other.2 = true) members rest := by
  have hl : members.length = rest.length := by
    have := congrArg List.length hk
    rwa [List.length_map, List.length_map] at this
  rw [same_object_iff hd, and_iff_right hl]
  clear hl
  induction members generalizing rest with
  | nil =>
    obtain rfl : rest = [] := List.map_eq_nil_iff.mp hk.symm
    exact iff_of_true nofun .nil
  | cons member members ih =>
    cases rest with
    | nil => cases hk
    | cons entry rest =>
      obtain ⟨key, value⟩ := member
      obtain ⟨key', other⟩ := entry
      obtain ⟨rfl, hkeys⟩ : key = key' ∧ members.map (·.1) = rest.map (·.1) := List.cons.inj hk
      obtain ⟨hnew, hd⟩ := List.nodup_cons.mp hd
      -- the first key is found at the first place only, and the later ones are not found there
      have hhere (found : Document) : (key, found) ∈ (key, other) :: rest ↔ found = other := by
        have hout : (key, found) ∉ rest := fun hm => hnew (List.mem_map.mpr ⟨_, hm, rfl⟩)
        simp [hout]
      have hlater : ∀ member ∈ members, ∀ found,
          (member.1, found) ∈ (key, other) :: rest ↔ (member.1, found) ∈ rest := by
        intro member hm found
        have hne : member.1 ≠ key := fun he => hnew (hkeys ▸ List.mem_map.mpr ⟨member, hm, he⟩)
        simp [hne]
      rw [List.forall₂_cons, List.forall_mem_cons]
      refine and_congr ?_ (Iff.trans (forall₂_congr fun member hm => ?_) (ih hkeys hd))
      · simp only [hhere, exists_eq_left]
      · simp only [hlater member hm]

end

end Document

namespace Declaration

open Document (object items text same)

/-- Two outlines differ in nothing but the places of parameters that are not required. -/
structure Outline.Rearranged (o o' : Outline) : Prop where
  name : o.name = o'.name
  usage : o.usage = o'.usage
  parameters : o.parameters.Perm o'.parameters
  /-- The required parameters stand in the same order. -/
  required : o.parameters.filter (·.required) = o'.parameters.filter (·.required)

variable {d d' : Declaration}

theorem same_property_iff {p q : Parameter} :
    p.property.same q.property = true ↔ p.label = q.label ∧ p.usage = q.usage := by
  have hkeys : ["type", "description"].Nodup := by decide
  refine Iff.trans (Document.same_object_of_keys rfl hkeys) ?_
  simp

theorem same_parameterSchema_iff : d.parameterSchema.same d'.parameterSchema = true ↔
    (object d.properties).same (object d'.properties) = true ∧
      d.requiredNames = d'.requiredNames := by
  have hkeys : ["type", "properties", "required"].Nodup := by decide
  refine Iff.trans (Document.same_object_of_keys rfl hkeys) ?_
  simp [Document.same_items_text_iff, properties]

/-- Both exports hold the name, the usage and the schema of the parameters under three keys. -/
theorem same_offer_iff {key : String} (hkeys : ["name", "description", key].Nodup) :
    (object [("name", text d.name), ("description", text d.usage), (key, d.parameterSchema)]).same
        (object [("name", text d'.name), ("description", text d'.usage),
          (key, d'.parameterSchema)]) = true ↔
      d.name = d'.name ∧ d.usage = d'.usage ∧
        d.parameterSchema.same d'.parameterSchema = true := by
  refine Iff.trans (Document.same_object_of_keys rfl hkeys) ?_
  simp

theorem same_functionSchema_iff : d.functionSchema.same d'.functionSchema = true ↔
    d.name = d'.name ∧ d.usage = d'.usage ∧
      d.parameterSchema.same d'.parameterSchema = true := by
  have hkeys : ["type", "function"].Nodup := by decide
  refine Iff.trans (Document.same_object_of_keys rfl hkeys) ?_
  simp [same_offer_iff (show ["name", "description", "parameters"].Nodup by decide)]

theorem same_properties_iff : (object d.properties).same (object d'.properties) = true ↔
    d.arity = d'.arity ∧ ∀ p ∈ d.parameters, ∃ q ∈ d'.parameters,
      p.name = q.name ∧ p.label = q.label ∧ p.usage = q.usage := by
  have hdistinct : (d'.properties.map (·.1)).Nodup := by
    rw [keys_properties]
    exact d'.distinct
  rw [Document.same_object_iff hdistinct, properties, properties, List.length_map, List.length_map,
    List.forall_mem_map]
  refine and_congr_right fun _ => forall₂_congr fun p _ => ?_
  simp only [List.mem_map, Prod.mk.injEq]
  constructor
  · rintro ⟨_, ⟨q, hq, hn, rfl⟩, hsame⟩
    exact ⟨q, hq, hn.symm, same_property_iff.mp hsame⟩
  · rintro ⟨q, hq, hn, hsame⟩
    exact ⟨_, ⟨q, hq, hn.symm, rfl⟩, same_property_iff.mpr hsame⟩

/-! ## Outlines -/

theorem nodup_outlines (d : Declaration) : d.outline.parameters.Nodup := by
  have hnames : (d.outline.parameters.map (·.name)).Nodup := by
    rw [outline, List.map_map]
    exact d.distinct
  exact hnames.of_map

theorem requiredNames_eq (d : Declaration) :
    d.requiredNames = (d.outline.parameters.filter (·.required)).map (·.name) := by
  rw [outline, List.filter_map, List.map_map]
  rfl

/-- Names that each stand for one parameter tell a list of parameters. -/
theorem eq_of_names_eq {as bs : List Parameter.Outline}
    (h : as.map (·.name) = bs.map (·.name))
    (hinj : ∀ a ∈ as, ∀ b ∈ bs, a.name = b.name → a = b) : as = bs := by
  induction as generalizing bs with
  | nil => exact (List.map_eq_nil_iff.mp h.symm).symm
  | cons a as ih =>
    cases bs with
    | nil => cases h
    | cons b bs =>
      obtain ⟨hfirst, hrest⟩ := List.cons.inj h
      have hlater := ih hrest fun x hx y hy =>
        hinj x (List.mem_cons_of_mem a hx) y (List.mem_cons_of_mem b hy)
      rw [hinj a List.mem_cons_self b List.mem_cons_self hfirst, hlater]

theorem eq_of_name_eq {o o' : Parameter.Outline} (ho : o ∈ d.outline.parameters)
    (ho' : o' ∈ d.outline.parameters) (hn : o.name = o'.name) : o = o' := by
  obtain ⟨p, hp, rfl⟩ := List.mem_map.mp ho
  obtain ⟨q, hq, rfl⟩ := List.mem_map.mp ho'
  rw [List.inj_on_of_nodup_map d.distinct hp hq hn]

/-- The properties tell the parameters, and the required names tell their flags. -/
theorem outlines_subset (hp : ∀ p ∈ d.parameters, ∃ q ∈ d'.parameters,
      p.name = q.name ∧ p.label = q.label ∧ p.usage = q.usage)
    (hr : d.requiredNames = d'.requiredNames) :
    d.outline.parameters ⊆ d'.outline.parameters := by
  intro o ho
  obtain ⟨p, hm, rfl⟩ := List.mem_map.mp ho
  obtain ⟨q, hq, hname, hlabel, husage⟩ := hp p hm
  have hrequired : p.required = q.required := by
    rw [Bool.eq_iff_iff, ← name_mem_requiredNames_iff hm, ← name_mem_requiredNames_iff hq, hr,
      hname]
  refine List.mem_map.mpr ⟨q, hq, ?_⟩
  rw [Parameter.Outline.mk.injEq]
  exact ⟨hname.symm, hlabel.symm, husage.symm, hrequired.symm⟩

theorem same_schema_iff : d.parameterSchema.same d'.parameterSchema = true ↔
    d.outline.parameters.Perm d'.outline.parameters ∧
      d.outline.parameters.filter (·.required) = d'.outline.parameters.filter (·.required) := by
  have hlength (d : Declaration) : d.outline.parameters.length = d.arity := List.length_map _
  rw [same_parameterSchema_iff, same_properties_iff]
  constructor
  · rintro ⟨⟨harity, hp⟩, hr⟩
    have hsubset := outlines_subset hp hr
    have hperm : d.outline.parameters.Perm d'.outline.parameters :=
      (List.subperm_of_subset d.nodup_outlines hsubset).perm_of_length_le
        (Nat.le_of_eq (by rw [hlength, hlength, harity]))
    refine ⟨hperm, eq_of_names_eq ?_ fun o ho o' ho' => ?_⟩
    · rw [← requiredNames_eq, ← requiredNames_eq, hr]
    · exact eq_of_name_eq (hsubset (List.mem_filter.mp ho).1) (List.mem_filter.mp ho').1
  · rintro ⟨hperm, hr⟩
    refine ⟨⟨by rw [← hlength, ← hlength, hperm.length_eq], fun p hp => ?_⟩, ?_⟩
    · obtain ⟨q, hq, he⟩ := List.mem_map.mp (hperm.subset (List.mem_map_of_mem hp))
      have he : q.toOutline = p.toOutline := he
      exact ⟨q, hq, congrArg (·.name) he.symm, congrArg (·.label) he.symm,
        congrArg (·.usage) he.symm⟩
    · rw [requiredNames_eq, requiredNames_eq, hr]

/-- **Exports as data.** The exports of two declarations are the same data exactly if the
declarations differ in nothing but the places of parameters that are not required. -/
theorem exports_same_iff (d d' : Declaration) :
    (d.functionSchema.same d'.functionSchema = true ↔ d.outline.Rearranged d'.outline) ∧
      (d.toolSchema.same d'.toolSchema = true ↔ d.outline.Rearranged d'.outline) := by
  have hoffer : (d.name = d'.name ∧ d.usage = d'.usage ∧
      d.parameterSchema.same d'.parameterSchema = true) ↔ d.outline.Rearranged d'.outline := by
    rw [same_schema_iff]
    exact ⟨fun ⟨hname, husage, hperm, hr⟩ => ⟨hname, husage, hperm, hr⟩,
      fun h => ⟨h.name, h.usage, h.parameters, h.required⟩⟩
  have htool : ["name", "description", "input_schema"].Nodup := by decide
  exact ⟨same_functionSchema_iff.trans hoffer, (same_offer_iff htool).trans hoffer⟩

end Declaration

end Toolbench
