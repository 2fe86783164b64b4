import Toolbench.Proofs.Fallbacks
import Toolbench.Proofs.History

/-! # Edits of different names

An edit looks only at its own name, and at whether the bench is strict (`Edit.run_eq`): that decides
what it shows and what its name finds afterwards. To the list of names it does the same whatever
they find (`Edit.names_placed`). So edits of other names, however many come before, change nothing
in what an edit shows (`Edit.shown_edited`), and two edits of different names may change places,
except that two new names stand in the order in which they come (`edits_commute`). -/

namespace Toolbench.Session

namespace Edit

/-! ## What an edit looks at -/

def name : Edit → String
  | .register declaration _ _ => declaration.name
  | .remove name => name

/-- The result of an edit whose name is taken or free. -/
def outcome (strict taken : Bool) : Edit → Except Fault Result
  | .register declaration none _ => .error (RegistrationError.notCallable declaration.name).fault
  | .register declaration (some _) returned =>
    if strict && taken then .error (RegistrationError.alreadyRegistered declaration.name).fault
    else .ok (if returned then .flag true else .nothing)
  | .remove _ => .ok (.flag taken)

/-- What an edit logs if its name is taken or free. -/
def events (strict taken : Bool) : Edit → List Event
  | .register _ none _ => []
  | .register declaration (some _) _ =>
    if strict && taken then []
    else (if taken then [.replaced declaration.name] else []) ++
      [.registered declaration.signature]
  | .remove name => if taken then [.removed name] else []

/-- What the name of an edit finds after it. -/
def settled? (strict : Bool) (found : Option Tool) : Edit → Option Tool
  | .register _ none _ => found
  | .register declaration (some handler) _ =>
    if strict && found.isSome then found else some ⟨declaration, handler⟩
  | .remove _ => none

/-- The names after an edit. -/
def arranged (names : List String) : Edit → List String
  | .register _ none _ => names
  | .register declaration (some _) _ =>
    if declaration.name ∈ names then names else names ++ [declaration.name]
  | .remove name => names.filter (· ≠ name)

/-- The catalog after an edit. -/
def placed (catalog : Catalog) : Edit → Catalog
  | .register _ none _ => catalog
  | .register declaration (some handler) _ =>
    if catalog.strict && catalog.contains declaration.name then catalog
    else catalog.insert ⟨declaration, handler⟩
  | .remove name => catalog.erase name

theorem run_eq (edit : Edit) (bench : Bench) : edit.step.run bench =
    (edit.outcome bench.catalog.strict (bench.catalog.contains edit.name),
      { bench with catalog := edit.placed bench.catalog }.record
        (edit.events bench.catalog.strict (bench.catalog.contains edit.name))) := by
  cases edit with
  | remove removed =>
    cases h : bench.catalog.contains removed with
    | true => simp only [step, Step.run, Bench.remove, outcome, events, placed, name, h, if_true]
    | false =>
      have herase : bench.catalog.erase removed = bench.catalog :=
        Catalog.erase_of_notMem fun hm => by rw [Catalog.contains_iff.mpr hm] at h; cases h
      simp only [step, Step.run, Bench.remove, outcome, events, placed, name, h, herase,
        Bench.record_nil, if_false, Bool.false_eq_true]
  | register declaration handler returned =>
    cases handler with
    | none =>
      have hr : (Edit.register declaration none returned).refusal? bench =
        some (.notCallable declaration.name) := rfl
      rw [run_of_refusal hr]
      simp only [outcome, events, placed, Bench.record_nil]
    | some handler =>
      by_cases h : bench.catalog.strict ∧ declaration.name ∈ bench.catalog.names
      · have hc : (bench.catalog.strict && bench.catalog.contains declaration.name) = true := by
          rw [h.1, Catalog.contains_iff.mpr h.2, Bool.and_self]
        have hr : (Edit.register declaration (some handler) returned).refusal? bench =
          some (.alreadyRegistered declaration.name) := if_pos h
        rw [run_of_refusal hr]
        simp only [outcome, events, placed, name, hc, if_true, Bench.record_nil]
      · have hc : ¬ (bench.catalog.strict && bench.catalog.contains declaration.name) = true := by
          rwa [Bool.and_eq_true, Catalog.contains_iff]
        rw [run_register (Bench.register_eq_ok_iff.mpr ⟨handler, rfl, h, rfl⟩)]
        simp only [outcome, events, placed, name, hc, if_false, Bool.false_eq_true,
          Catalog.notices, Catalog.contains_iff]

variable {edit : Edit} {catalog : Catalog}

theorem strict_placed (edit : Edit) (catalog : Catalog) :
    (edit.placed catalog).strict = catalog.strict := by
  cases edit with
  | remove => rfl
  | register declaration handler returned =>
    cases handler with
    | none => rfl
    | some handler =>
      rw [placed]
      split <;> rfl

/-- An edit changes what its own name finds, and no other name. -/
theorem find?_placed (edit : Edit) (catalog : Catalog) (name : String) :
    (edit.placed catalog).find? name =
      if edit.name = name then edit.settled? catalog.strict (catalog.find? name)
      else catalog.find? name := by
  cases edit with
  | remove removed => exact Catalog.find?_erase catalog removed name
  | register declaration handler returned =>
    cases handler with
    | none => exact (ite_self _).symm
    | some handler =>
      rw [placed, Catalog.contains, Edit.name]
      by_cases hn : declaration.name = name
      · rw [if_pos hn, hn, settled?]
        split
        · rfl
        · exact (Catalog.find?_insert ..).trans (if_pos hn)
      · rw [if_neg hn]
        split
        · rfl
        · exact (Catalog.find?_insert ..).trans (if_neg hn)

theorem names_placed (edit : Edit) (catalog : Catalog) :
    (edit.placed catalog).names = edit.arranged catalog.names := by
  cases edit with
  | remove removed => exact Catalog.names_erase catalog removed
  | register declaration handler returned =>
    cases handler with
    | none => rfl
    | some handler =>
      rw [placed, arranged]
      split
      next h => rw [if_pos (Catalog.contains_iff.mp (Bool.and_eq_true_iff.mp h).2)]
      next => exact Catalog.names_insert catalog ⟨declaration, handler⟩

/-- What an edit shows on a bench: its result, and what it logs. -/
def shown (edit : Edit) (bench : Bench) : Except Fault Result × List Event :=
  ((edit.step.entry bench).1.result, (edit.step.entry bench).1.log)

theorem shown_eq (edit : Edit) (bench : Bench) : edit.shown bench =
    (edit.outcome bench.catalog.strict (bench.catalog.contains edit.name),
      edit.events bench.catalog.strict (bench.catalog.contains edit.name)) := by
  simp only [shown, Step.entry, run_eq, Bench.record, List.nil_append]

/-! ## Edits of other names -/

variable {bench : Bench} {history : List Edit} {name : String}

theorem catalog_run (edit : Edit) (bench : Bench) :
    (edit.step.run bench).2.catalog = edit.placed bench.catalog := by
  rw [run_eq]
  rfl

theorem strict_edited (bench : Bench) (history : List Edit) :
    (edited bench history).catalog.strict = bench.catalog.strict := by
  rw [← moment_length, strict_moment]

/-- A name finds the same after any edits of other names. -/
theorem find?_edited (h : ∀ edit ∈ history, edit.name ≠ name) :
    (edited bench history).catalog.find? name = bench.catalog.find? name := by
  induction history generalizing bench with
  | nil => rfl
  | cons edit history ih =>
    obtain ⟨hedit, hhistory⟩ := List.forall_mem_cons.mp h
    have hlater : (edited bench (edit :: history)).catalog.find? name =
        (edit.step.run bench).2.catalog.find? name := ih hhistory
    rw [hlater, catalog_run, find?_placed, if_neg hedit]

/-- What an edit shows does not depend on edits of other names before it. -/
theorem shown_edited (h : ∀ other ∈ history, other.name ≠ edit.name) :
    edit.shown (edited bench history) = edit.shown bench := by
  rw [shown_eq, shown_eq, strict_edited, Catalog.contains, find?_edited h, ← Catalog.contains]

end Edit

/-! ## The names -/

namespace Edit

variable {edit first second : Edit} {bench : Bench} {names : List String} {removed : String}

/-- An edit adds its name to those on the bench. -/
def Adds (edit : Edit) (bench : Bench) : Prop :=
  edit.name ∉ bench.catalog.names ∧ edit.name ∈ (edited bench [edit]).catalog.names

theorem arranged_of_tool? (h : edit.tool? ≠ none) (names : List String) :
    edit.arranged names = if edit.name ∈ names then names else names ++ [edit.name] := by
  cases edit with
  | remove => exact absurd rfl h
  | register declaration handler returned =>
    cases handler with
    | none => exact absurd rfl h
    | some handler => rfl

theorem arranged_of_mem (h : edit.tool? ≠ none) (hm : edit.name ∈ names) :
    edit.arranged names = names := by
  rw [arranged_of_tool? h, if_pos hm]

theorem arranged_of_notMem (h : edit.tool? ≠ none) (hm : edit.name ∉ names) :
    edit.arranged names = names ++ [edit.name] := by
  rw [arranged_of_tool? h, if_neg hm]

/-- Only a registration with a handler brings a name. -/
theorem arranged_subset (h : edit.tool? = none) (names : List String) :
    edit.arranged names ⊆ names := by
  cases edit with
  | remove removed => exact fun _ hm => (List.mem_filter.mp hm).1
  | register declaration handler returned =>
    cases handler with
    | none => exact List.Subset.refl names
    | some handler => cases h

theorem adds_iff : edit.Adds bench ↔ edit.tool? ≠ none ∧ edit.name ∉ bench.catalog.names := by
  have hnames : (edited bench [edit]).catalog.names = edit.arranged bench.catalog.names := by
    rw [← names_placed, ← catalog_run]
    rfl
  rw [Adds, hnames, and_comm]
  refine and_congr_left fun hfree => ?_
  by_cases h : edit.tool? = none
  · exact iff_of_false (fun hm => hfree (arranged_subset h _ hm)) (fun hne => hne h)
  · rw [arranged_of_notMem h hfree]
    exact iff_of_true (List.mem_append_right _ (List.mem_singleton_self _)) h

/-- Whether an edit adds its name does not depend on edits of other names before it. -/
theorem adds_edited {history : List Edit} (h : ∀ other ∈ history, other.name ≠ edit.name) :
    edit.Adds (edited bench history) ↔ edit.Adds bench := by
  rw [adds_iff, adds_iff, ← Catalog.find?_eq_none_iff, ← Catalog.find?_eq_none_iff,
    find?_edited h]

/-- A name may be taken out before or after an edit of another name. -/
theorem arranged_filter (h : edit.name ≠ removed) (names : List String) :
    edit.arranged (names.filter (· ≠ removed)) = (edit.arranged names).filter (· ≠ removed) := by
  cases edit with
  | remove other =>
    rw [arranged, arranged, List.filter_filter, List.filter_filter]
    simp only [Bool.and_comm]
  | register declaration handler returned =>
    cases handler with
    | none => rfl
    | some handler =>
      have hname : declaration.name ≠ removed := h
      have hm : declaration.name ∈ names.filter (· ≠ removed) ↔ declaration.name ∈ names := by
        rw [List.mem_filter, decide_eq_true_iff]
        exact and_iff_left hname
      rw [arranged, arranged]
      by_cases hd : declaration.name ∈ names
      · rw [if_pos hd, if_pos (hm.mpr hd)]
      · rw [if_neg hd, if_neg (mt hm.mp hd), List.filter_append]
        have hkept : [declaration.name].filter (· ≠ removed) = [declaration.name] :=
          List.filter_eq_self.mpr (List.forall_mem_singleton.mpr (decide_eq_true hname))
        rw [hkept]

/-- Two registrations may change places if one of the names is there. -/
theorem arranged_comm_of_mem (hf : first.tool? ≠ none) (hs : second.tool? ≠ none)
    (hm : first.name ∈ names) :
    second.arranged (first.arranged names) = first.arranged (second.arranged names) := by
  have hlater : first.name ∈ second.arranged names := by
    rw [arranged_of_tool? hs]
    split
    · exact hm
    · exact List.mem_append_left _ hm
  rw [arranged_of_mem hf hm, arranged_of_mem hf hlater]

theorem arranged_comm (hn : first.name ≠ second.name)
    (h : ¬ ((first.tool? ≠ none ∧ first.name ∉ names) ∧
      (second.tool? ≠ none ∧ second.name ∉ names))) :
    second.arranged (first.arranged names) = first.arranged (second.arranged names) := by
  cases first with
  | remove removed => exact arranged_filter (Ne.symm hn) names
  | register declaration handler returned =>
    cases second with
    | remove removed => exact (arranged_filter hn names).symm
    | register other otherHandler otherReturned =>
      cases handler with
      | none => rfl
      | some handler =>
        cases otherHandler with
        | none => rfl
        | some otherHandler =>
          have hf : (Edit.register declaration (some handler) returned).tool? ≠ none :=
            Option.some_ne_none _
          have hs : (Edit.register other (some otherHandler) otherReturned).tool? ≠ none :=
            Option.some_ne_none _
          by_cases hfirst : declaration.name ∈ names
          · exact arranged_comm_of_mem hf hs hfirst
          · by_cases hsecond : other.name ∈ names
            · exact (arranged_comm_of_mem hs hf hsecond).symm
            · exact absurd ⟨⟨hf, hfirst⟩, hs, hsecond⟩ h

/-! ## Two edits -/

theorem catalog_edited_pair (first second : Edit) (bench : Bench) :
    (edited bench [first, second]).catalog = second.placed (first.placed bench.catalog) := by
  rw [← catalog_run first, ← catalog_run second]
  rfl

theorem names_edited_pair (first second : Edit) (bench : Bench) :
    (edited bench [first, second]).catalog.names =
      second.arranged (first.arranged bench.catalog.names) := by
  rw [catalog_edited_pair, names_placed, names_placed]

/-- A new name that is added after another one stands after it. -/
theorem names_edited_pair_of_adds (hn : first.name ≠ second.name) (hf : first.Adds bench)
    (hs : second.Adds bench) :
    (edited bench [first, second]).catalog.names =
      bench.catalog.names ++ [first.name, second.name] := by
  obtain ⟨htool, hfree⟩ := adds_iff.mp hf
  obtain ⟨htool', hfree'⟩ := adds_iff.mp hs
  have hlater : second.name ∉ bench.catalog.names ++ [first.name] := by
    rw [List.mem_append, List.mem_singleton]
    exact not_or.mpr ⟨hfree', Ne.symm hn⟩
  rw [names_edited_pair, arranged_of_notMem htool hfree, arranged_of_notMem htool' hlater,
    List.append_assoc]
  rfl

end Edit

/-- Two edits made in either order. -/
structure Commute (first second : Edit) (bench : Bench) : Prop where
  /-- Each edit gives the same result and logs the same before the other and after it. -/
  first_shown : first.shown (edited bench [second]) = first.shown bench
  second_shown : second.shown (edited bench [first]) = second.shown bench
  found : ∀ name, (edited bench [first, second]).catalog.find? name =
    (edited bench [second, first]).catalog.find? name
  first_adds : first.Adds (edited bench [second]) ↔ first.Adds bench
  second_adds : second.Adds (edited bench [first]) ↔ second.Adds bench
  names : ¬ (first.Adds bench ∧ second.Adds bench) →
    (edited bench [first, second]).catalog.names = (edited bench [second, first]).catalog.names
  /-- Two new names stand at the end, each in the place of the other. -/
  swapped : first.Adds bench → second.Adds bench →
    (edited bench [first, second]).catalog.names =
      bench.catalog.names ++ [first.name, second.name] ∧
    (edited bench [second, first]).catalog.names =
      bench.catalog.names ++ [second.name, first.name]

/-- **Edits of different names commute**, but for the order of two names that both are new. -/
theorem edits_commute {first second : Edit} (bench : Bench) (hn : first.name ≠ second.name) :
    Commute first second bench where
  first_shown := Edit.shown_edited (List.forall_mem_singleton.mpr hn.symm)
  second_shown := Edit.shown_edited (List.forall_mem_singleton.mpr hn)
  found name := by
    simp only [Edit.catalog_edited_pair, Edit.find?_placed, Edit.strict_placed]
    by_cases h : first.name = name
    · have hother : second.name ≠ name := fun he => hn (h.trans he.symm)
      rw [if_neg hother, if_pos h, if_pos h, if_neg hother]
    · rw [if_neg h, if_neg h]
  first_adds := Edit.adds_edited (List.forall_mem_singleton.mpr hn.symm)
  second_adds := Edit.adds_edited (List.forall_mem_singleton.mpr hn)
  names h := by
    rw [Edit.adds_iff, Edit.adds_iff] at h
    rw [Edit.names_edited_pair, Edit.names_edited_pair]
    exact Edit.arranged_comm hn h
  swapped hf hs :=
    ⟨Edit.names_edited_pair_of_adds hn hf hs, Edit.names_edited_pair_of_adds hn.symm hs hf⟩

open Bench (visible_a visible_b)

/-- The registration of a tool that takes no arguments. -/
def arrival (name : String) (visible : Text.Visible name) : Edit :=
  .register ⟨name, "", [], visible, List.nodup_nil⟩ (some fun _ => .finish (.data .null)) true

/-- On an empty bench two registrations are new, and so their order is seen. -/
theorem edits_commute_arrivals :
    Commute (arrival "a" visible_a) (arrival "b" visible_b) (.start {} (some true)) ∧
    (edited (.start {} (some true)) [arrival "a" visible_a, arrival "b" visible_b]).catalog.names =
      ["a", "b"] ∧
    (edited (.start {} (some true)) [arrival "b" visible_b, arrival "a" visible_a]).catalog.names =
      ["b", "a"] := by
  have hn : (arrival "a" visible_a).name ≠ (arrival "b" visible_b).name := by decide
  have h := edits_commute (.start {} (some true)) hn
  have hadds (name : String) (visible : Text.Visible name) :
      (arrival name visible).Adds (.start {} (some true)) :=
    Edit.adds_iff.mpr ⟨Option.some_ne_none _, List.not_mem_nil⟩
  exact ⟨h, h.swapped (hadds "a" visible_a) (hadds "b" visible_b)⟩

end Toolbench.Session
