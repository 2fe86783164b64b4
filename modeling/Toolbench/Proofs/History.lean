import Toolbench.Proofs.Catalog
import Toolbench.Proofs.Declaration
import Toolbench.Session

/-! # Histories of registrations and removals

A bench that was set up empty, and any sequence of registrations and removals on it. A moment
of the history is a number of edits that were made. `Chronicle` says what is on the bench at
every moment in terms of the history alone: which tool a name finds (the last accepted
registration that no removal followed), and in which order the names stand (that of the
moments at which they arrived). Each fact is an induction on the moment. -/

namespace Toolbench.Session

/-- A registration or a removal. The declaration of a registration has been checked; `returned`
says whether the registration gives the handler back. -/
inductive Edit where
  | register (declaration : Declaration) (handler : Option Handler) (returned : Bool)
  | remove (name : String)

namespace Edit

def step : Edit → Step
  | .register declaration handler returned => .register declaration.draft handler returned
  | .remove name => .remove name

/-- The tool that an edit is to put on the bench. -/
def tool? : Edit → Option Tool
  | .register declaration (some handler) _ => some ⟨declaration, handler⟩
  | _ => none

def Accepted (edit : Edit) (bench : Bench) : Prop :=
  ∃ result, (edit.step.run bench).1 = .ok result

/-- Why an edit is refused: a registration without a handler, or one of a name that is taken on
a strict bench. -/
def refusal? (edit : Edit) (bench : Bench) : Option RegistrationError :=
  match edit with
  | .register declaration none _ => some (.notCallable declaration.name)
  | .register declaration (some _) _ =>
    if bench.catalog.strict ∧ declaration.name ∈ bench.catalog.names then
      some (.alreadyRegistered declaration.name)
    else none
  | .remove _ => none

end Edit

def edited (start : Bench) (history : List Edit) : Bench :=
  history.foldl (fun bench edit => (edit.step.run bench).2) start

/-- The bench at a moment of a history. -/
def moment (start : Bench) (history : List Edit) (i : Nat) : Bench :=
  edited start (history.take i)

/-- The tool is registered at a moment, and the registration is accepted. -/
def Registered (start : Bench) (history : List Edit) (i : Nat) (tool : Tool) : Prop :=
  ∃ edit, history[i]? = some edit ∧ edit.tool? = some tool ∧
    edit.Accepted (moment start history i)

/-- The name is removed at a moment, whether or not it is there. -/
def Removed (history : List Edit) (i : Nat) (name : String) : Prop :=
  history[i]? = some (.remove name)

/-- At moment `j` the tool is the one of the last accepted registration of the name, and the
name has not been removed since. -/
def Standing (start : Bench) (history : List Edit) (j : Nat) (name : String) (tool : Tool) :
    Prop :=
  ∃ i < j, Registered start history i tool ∧ tool.name = name ∧ ∀ k, i < k → k < j →
    ¬ Removed history k name ∧ ∀ other, Registered start history k other → other.name ≠ name

/-- A name that is there at moment `j` became present by edit `i` and has been there since. -/
def Arrived (start : Bench) (history : List Edit) (j : Nat) (name : String) (i : Nat) : Prop :=
  i < j ∧ name ∉ (moment start history i).catalog.names ∧
    ∀ k, i < k → k ≤ j → name ∈ (moment start history k).catalog.names

/-! ## What one edit does -/

namespace Edit

variable {edit : Edit} {bench : Bench} {tool : Tool}

theorem refusal?_register_iff {declaration : Declaration} {handler : Option Handler}
    {returned : Bool} {error : RegistrationError} :
    (Edit.register declaration handler returned).refusal? bench = some error ↔
      bench.register declaration handler = .error error := by
  rw [Bench.register_eq_error_iff]
  cases handler with
  | none => simpa [refusal?] using eq_comm
  | some handler =>
    simp only [refusal?, Option.ite_none_right_eq_some, Option.some.injEq, reduceCtorEq,
      false_and, false_or, ne_eq, not_false_iff, true_and]
    exact and_congr_right fun _ => eq_comm

theorem run_register {declaration : Declaration} {handler : Option Handler} {after : Bench}
    (h : bench.register declaration handler = .ok after) (returned : Bool) :
    (Edit.register declaration handler returned).step.run bench =
      (.ok (if returned then .flag true else .nothing), after) := by
  simp only [step, Step.run, Declaration.check_draft, Except.bind, h]

theorem run_of_refusal {error : RegistrationError} (h : edit.refusal? bench = some error) :
    edit.step.run bench = (.error error.fault, bench) := by
  cases edit with
  | remove name => cases h
  | register declaration handler returned =>
    have he := refusal?_register_iff.mp h
    simp only [step, Step.run, Declaration.check_draft, Except.bind, he]

/-- An edit that is not refused puts its tool on the bench, or removes a name. -/
theorem run_of_no_refusal (h : edit.refusal? bench = none) :
    (∃ declaration handler returned after,
      edit = .register declaration (some handler) returned ∧
      edit.step.run bench = (.ok (if returned then .flag true else .nothing), after) ∧
      after.catalog = bench.catalog.insert ⟨declaration, handler⟩) ∨
    ∃ name after, edit = .remove name ∧
      edit.step.run bench = (.ok (.flag (decide (name ∈ bench.catalog.names))), after) ∧
      after.catalog = bench.catalog.erase name := by
  cases edit with
  | remove name =>
    refine .inr ⟨name, (bench.remove name).2, rfl, ?_, Bench.catalog_remove bench name⟩
    rw [← Bench.remove_fst]
    rfl
  | register declaration handler returned =>
    cases handler with
    | none => cases h
    | some handler =>
      simp only [refusal?, ite_eq_right_iff, reduceCtorEq, imp_false] at h
      obtain ⟨after, ho, hc⟩ : ∃ after, bench.register declaration (some handler) = .ok after ∧
          after.catalog = bench.catalog.insert ⟨declaration, handler⟩ :=
        ⟨_, Bench.register_eq_ok_iff.mpr ⟨handler, rfl, h, rfl⟩, rfl⟩
      exact .inl ⟨declaration, handler, returned, after, rfl, run_register ho returned, hc⟩

theorem accepted_iff : edit.Accepted bench ↔ edit.refusal? bench = none := by
  cases hr : edit.refusal? bench with
  | some error => simp [Accepted, run_of_refusal hr]
  | none =>
    refine ⟨fun _ => rfl, fun _ => ?_⟩
    rcases run_of_no_refusal hr with ⟨_, _, _, _, _, hrun, _⟩ | ⟨_, _, _, hrun, _⟩ <;>
      exact ⟨_, congrArg Prod.fst hrun⟩

theorem catalog_of_accepted (h : edit.Accepted bench) (ht : edit.tool? = some tool) :
    (edit.step.run bench).2.catalog = bench.catalog.insert tool := by
  rcases run_of_no_refusal (accepted_iff.mp h) with
    ⟨_, _, _, _, rfl, hrun, hc⟩ | ⟨_, _, rfl, _, _⟩
  · cases ht
    rw [hrun, hc]
  · cases ht

theorem catalog_of_remove (bench : Bench) (name : String) :
    ((Edit.remove name).step.run bench).2.catalog = bench.catalog.erase name :=
  Bench.catalog_remove bench name

theorem catalog_cases (edit : Edit) (bench : Bench) :
    (∃ tool, edit.tool? = some tool ∧ edit.Accepted bench ∧
      (edit.step.run bench).2.catalog = bench.catalog.insert tool) ∨
    (∃ name, edit = .remove name ∧
      (edit.step.run bench).2.catalog = bench.catalog.erase name) ∨
    ¬ edit.Accepted bench ∧ (edit.step.run bench).2 = bench ∧ ∀ name, edit ≠ .remove name := by
  cases hr : edit.refusal? bench with
  | some error =>
    refine .inr (.inr ⟨?_, by rw [run_of_refusal hr], ?_⟩)
    · rw [accepted_iff, hr]
      exact Option.some_ne_none error
    · rintro name rfl
      cases hr
  | none =>
    have ha := accepted_iff.mpr hr
    rcases run_of_no_refusal hr with ⟨d, handler, _, _, rfl, _⟩ | ⟨name, _, rfl, _⟩
    · exact .inl ⟨⟨d, handler⟩, rfl, ha, catalog_of_accepted ha rfl⟩
    · exact .inr (.inl ⟨name, rfl, catalog_of_remove bench name⟩)

theorem strict_run (edit : Edit) (bench : Bench) :
    (edit.step.run bench).2.catalog.strict = bench.catalog.strict := by
  rcases edit.catalog_cases bench with ⟨_, _, _, hc⟩ | ⟨_, _, hc⟩ | ⟨_, hc, _⟩ <;> rw [hc] <;>
    rfl

end Edit

/-! ## Moments -/

section
variable {start : Bench} {history : List Edit} {i j : Nat} {name : String} {tool : Tool}

@[simp] theorem moment_zero (start : Bench) (history : List Edit) :
    moment start history 0 = start := rfl

@[simp] theorem moment_length (start : Bench) (history : List Edit) :
    moment start history history.length = edited start history := by
  rw [moment, List.take_length]

theorem moment_succ {edit : Edit} (h : history[i]? = some edit) :
    moment start history (i + 1) = (edit.step.run (moment start history i)).2 := by
  simp only [moment, edited, List.take_add_one, h, Option.toList_some, List.foldl_append,
    List.foldl_cons, List.foldl_nil]

theorem moment_succ_of_none (h : history[i]? = none) :
    moment start history (i + 1) = moment start history i := by
  simp only [moment, List.take_add_one, h, Option.toList_none, List.append_nil]

theorem moment_cons (start : Bench) (edit : Edit) (history : List Edit) (i : Nat) :
    moment start (edit :: history) (i + 1) = moment (edit.step.run start).2 history i := rfl

theorem strict_moment (start : Bench) (history : List Edit) (i : Nat) :
    (moment start history i).catalog.strict = start.catalog.strict := by
  induction i with
  | zero => rfl
  | succ i ih =>
    cases h : history[i]? with
    | none => rw [moment_succ_of_none h, ih]
    | some edit => rw [moment_succ h, Edit.strict_run, ih]

/-- From one moment to the next a tool is put into the catalog, a name is taken out of it, or
nothing happens. -/
theorem moment_cases (start : Bench) (history : List Edit) (i : Nat) :
    (∃ tool, Registered start history i tool ∧
      (∀ name, ¬ Removed history i name) ∧
      (moment start history (i + 1)).catalog = (moment start history i).catalog.insert tool) ∨
    (∃ name, Removed history i name ∧ (∀ tool, ¬ Registered start history i tool) ∧
      (moment start history (i + 1)).catalog = (moment start history i).catalog.erase name) ∨
    (∀ tool, ¬ Registered start history i tool) ∧ (∀ name, ¬ Removed history i name) ∧
      moment start history (i + 1) = moment start history i := by
  cases h : history[i]? with
  | none =>
    refine .inr (.inr ⟨?_, fun name hr => ?_, moment_succ_of_none h⟩)
    · rintro tool ⟨edit, he, _⟩
      rw [h] at he
      cases he
    · rw [Removed, h] at hr
      cases hr
  | some edit =>
    rw [moment_succ h]
    rcases edit.catalog_cases (moment start history i) with
      ⟨tool, ht, ha, hc⟩ | ⟨name, rfl, hc⟩ | ⟨hn, hb, hr⟩
    · refine .inl ⟨tool, ⟨edit, h, ht, ha⟩, fun name hr => ?_, hc⟩
      rw [Removed, h] at hr
      cases hr
      cases ht
    · refine .inr (.inl ⟨name, h, ?_, hc⟩)
      rintro tool ⟨edit, he, ht, _⟩
      rw [h] at he
      cases he
      cases ht
    · refine .inr (.inr ⟨?_, fun name he => ?_, hb⟩)
      · rintro tool ⟨edit', he, _, ha⟩
        rw [h] at he
        cases he
        exact hn ha
      · rw [Removed, h] at he
        exact hr name (Option.some.inj he)

theorem Registered.catalog_succ (h : Registered start history i tool) :
    (moment start history (i + 1)).catalog = (moment start history i).catalog.insert tool := by
  obtain ⟨edit, he, ht, ha⟩ := h
  rw [moment_succ he, Edit.catalog_of_accepted ha ht]

theorem Removed.catalog_succ (h : Removed history i name) :
    (moment start history (i + 1)).catalog = (moment start history i).catalog.erase name := by
  rw [moment_succ h, Edit.catalog_of_remove]

theorem Registered.unique {other : Tool} (h : Registered start history i tool)
    (h' : Registered start history i other) : tool = other := by
  obtain ⟨edit, he, ht, _⟩ := h
  obtain ⟨edit', he', ht', _⟩ := h'
  rw [he] at he'
  cases he'
  exact Option.some.inj (ht.symm.trans ht')

/-! ## Lookups -/

theorem standing_succ :
    Standing start history (j + 1) name tool ↔
      Registered start history j tool ∧ tool.name = name ∨
      Standing start history j name tool ∧ ¬ Removed history j name ∧
        ∀ other, Registered start history j other → other.name ≠ name := by
  constructor
  · rintro ⟨i, hi, hreg, hn, hlater⟩
    rcases Nat.lt_succ_iff_lt_or_eq.mp hi with hi | rfl
    · exact .inr ⟨⟨i, hi, hreg, hn, fun k hk hkj => hlater k hk (by omega)⟩,
        hlater j hi (Nat.lt_succ_self j)⟩
    · exact .inl ⟨hreg, hn⟩
  · rintro (⟨hreg, hn⟩ | ⟨⟨i, hi, hreg, hn, hlater⟩, hnow⟩)
    · exact ⟨j, Nat.lt_succ_self j, hreg, hn, fun k hk hkj => by omega⟩
    · refine ⟨i, by omega, hreg, hn, fun k hk hkj => ?_⟩
      rcases Nat.lt_succ_iff_lt_or_eq.mp hkj with hkj | rfl
      · exact hlater k hk hkj
      · exact hnow

/-- A name finds the tool of its last accepted registration, unless it was removed since. -/
theorem find?_moment_iff (hs : start.catalog.names = []) (j : Nat) :
    (moment start history j).catalog.find? name = some tool ↔
      Standing start history j name tool := by
  induction j with
  | zero =>
    have hn : start.catalog.find? name = none := by simp [Catalog.find?_eq_none_iff, hs]
    simp [hn, Standing]
  | succ j ih =>
    rw [standing_succ, ← ih]
    rcases moment_cases start history j with
      ⟨put, hput, hrm, hc⟩ | ⟨gone, hgone, hreg, hc⟩ | ⟨hreg, hrm, hc⟩
    · have heq : ∀ other, Registered start history j other ↔ other = put := fun other =>
        ⟨fun h => h.unique hput, fun h => h ▸ hput⟩
      rw [hc, Catalog.find?_insert]
      by_cases hp : put.name = name
      · simp only [hp, if_true, Option.some.injEq, heq, hrm, not_false_iff, forall_eq, ne_eq,
          not_true, and_false, or_false]
        exact ⟨fun h => ⟨h.symm, h ▸ hp⟩, fun h => h.1.symm⟩
      · have hne : ¬ (tool = put ∧ tool.name = name) := fun ⟨he, hn⟩ => hp (he ▸ hn)
        simp [hp, heq, hrm, hne]
    · have heq : Removed history j name ↔ gone = name := by
        rw [Removed, show history[j]? = _ from hgone]
        simp
      rw [hc, Catalog.find?_erase]
      by_cases hp : gone = name <;> simp [hp, heq, hreg]
    · rw [hc]
      simp [hreg, hrm]

theorem mem_names_of_le (h : name ∈ (moment start history i).catalog.names) (hij : i ≤ j)
    (hr : ∀ k, i ≤ k → k < j → ¬ Removed history k name) :
    name ∈ (moment start history j).catalog.names := by
  induction hij with
  | refl => exact h
  | @step j hij ih =>
    have hj := ih fun k hk hkj => hr k hk (by omega)
    rcases moment_cases start history j with ⟨_, _, _, hc⟩ | ⟨gone, hgone, _, hc⟩ | ⟨_, _, hc⟩
    · rw [hc]
      exact Catalog.mem_names_insert.mpr (.inl hj)
    · rw [hc]
      refine Catalog.mem_names_erase.mpr ⟨hj, fun he => ?_⟩
      exact hr j hij (Nat.lt_succ_self j) (he ▸ hgone)
    · rw [hc]
      exact hj

theorem Registered.mem_names_succ (h : Registered start history i tool) :
    tool.name ∈ (moment start history (i + 1)).catalog.names := by
  rw [h.catalog_succ]
  exact Catalog.mem_names_insert.mpr (.inr rfl)

/-- On a strict bench a registration is accepted only if the name is free. -/
theorem Registered.notMem_of_strict (h : Registered start history i tool)
    (hs : start.catalog.strict = true) :
    tool.name ∉ (moment start history i).catalog.names := by
  obtain ⟨edit, _, ht, ha⟩ := h
  intro hm
  have hr := Edit.accepted_iff.mp ha
  cases edit with
  | remove => cases ht
  | register declaration handler returned =>
    cases handler with
    | none => cases ht
    | some handler =>
      cases ht
      rw [Edit.refusal?, if_pos ⟨(strict_moment ..).trans hs, hm⟩] at hr
      cases hr

/-- Between two accepted registrations of a name on a strict bench the name is removed. -/
theorem Registered.removed_between {other : Tool} (hs : start.catalog.strict = true)
    (hi : Registered start history i tool) (hj : Registered start history j other) (hij : i < j)
    (hn : other.name = tool.name) : ∃ k, i < k ∧ k < j ∧ Removed history k tool.name := by
  refine Classical.byContradiction fun hno => ?_
  refine hj.notMem_of_strict hs (hn ▸ ?_)
  exact mem_names_of_le hi.mem_names_succ hij fun k hk hkj hr => hno ⟨k, by omega, hkj, hr⟩

/-- The first registration of a name that has a handler, counted from the last removal of the
name, is accepted on a strict bench. -/
theorem registered_of_first {edit : Edit} (hs : start.catalog.names = [])
    (he : history[i]? = some edit) (ht : edit.tool? = some tool)
    (hfirst : ∀ k < i, ∀ edit' other, history[k]? = some edit' → edit'.tool? = some other →
      other.name = tool.name → ∃ l, k < l ∧ l < i ∧ Removed history l tool.name) :
    Registered start history i tool := by
  refine ⟨edit, he, ht, Edit.accepted_iff.mpr ?_⟩
  have hfree : tool.name ∉ (moment start history i).catalog.names := by
    rw [← Catalog.find?_eq_none_iff, Option.eq_none_iff_forall_ne_some]
    intro other hfind
    obtain ⟨k, hk, ⟨edit', he', ht', _⟩, hn, hlater⟩ := (find?_moment_iff hs i).mp hfind
    obtain ⟨l, hkl, hli, hr⟩ := hfirst k hk edit' other he' ht' hn
    exact (hlater l hkl hli).1 hr
  cases edit with
  | remove => rfl
  | register declaration handler returned =>
    cases handler with
    | none => cases ht
    | some handler =>
      cases ht
      exact if_neg fun h => hfree h.2

/-! ## The order of the names -/

theorem Arrived.of_succ (h : Arrived start history (j + 1) name i)
    (hj : name ∈ (moment start history j).catalog.names) : Arrived start history j name i := by
  obtain ⟨hi, hbefore, hafter⟩ := h
  have hne : i ≠ j := fun he => hbefore (he ▸ hj)
  exact ⟨by omega, hbefore, fun k hk hkj => hafter k hk (by omega)⟩

/-- Names stand in the order of their arrival. -/
theorem pairwise_arrived (hs : start.catalog.names = []) (j : Nat) :
    (moment start history j).catalog.names.Pairwise fun a b =>
      ∀ i i', Arrived start history j a i → Arrived start history j b i' → i < i' := by
  induction j with
  | zero => simp [hs]
  | succ j ih =>
    -- names that were there before keep their arrival and so their order
    have hold : ∀ names : List String, names.Sublist (moment start history j).catalog.names →
        names.Pairwise fun a b => ∀ i i', Arrived start history (j + 1) a i →
          Arrived start history (j + 1) b i' → i < i' := fun names hsub =>
      (ih.sublist hsub).imp_of_mem fun ha hb h i i' hi hi' =>
        h i i' (hi.of_succ (hsub.subset ha)) (hi'.of_succ (hsub.subset hb))
    rcases moment_cases start history j with ⟨put, _, _, hc⟩ | ⟨gone, _, _, hc⟩ | ⟨_, _, hc⟩
    · rw [hc, Catalog.names_insert]
      split
      next => exact hold _ (List.Sublist.refl _)
      next hnew =>
        refine List.pairwise_append.mpr
          ⟨hold _ (List.Sublist.refl _), List.pairwise_singleton _ _, ?_⟩
        intro a ha b hb i i' hi hi'
        obtain rfl := List.mem_singleton.mp hb
        -- the new name cannot have arrived before this moment
        have hi'j : ¬ i' < j := fun hlt => hnew (hi'.2.2 j hlt (Nat.le_succ j))
        exact Nat.lt_of_lt_of_le (hi.of_succ ha).1 (Nat.le_of_not_lt hi'j)
    · rw [hc, Catalog.names_erase]
      exact hold _ List.filter_sublist
    · rw [hc]
      exact hold _ (List.Sublist.refl _)

/-- The names that are there are those that arrived. -/
theorem mem_names_moment_iff (hs : start.catalog.names = []) (j : Nat) :
    name ∈ (moment start history j).catalog.names ↔ ∃ i, Arrived start history j name i := by
  refine ⟨fun h => ?_, fun ⟨i, hi, _, hafter⟩ => hafter j hi (Nat.le_refl j)⟩
  induction j with
  | zero => simp [hs] at h
  | succ j ih =>
    by_cases hj : name ∈ (moment start history j).catalog.names
    · obtain ⟨i, hi, hbefore, hafter⟩ := ih hj
      refine ⟨i, by omega, hbefore, fun k hk hkj => ?_⟩
      rcases Nat.le_succ_iff.mp hkj with hkj | rfl
      · exact hafter k hk hkj
      · exact h
    · exact ⟨j, Nat.lt_succ_self j, hj, fun k hk hkj => by rwa [show k = j + 1 by omega]⟩

theorem Arrived.registered (h : Arrived start history j name i) :
    ∃ tool, Registered start history i tool ∧ tool.name = name := by
  obtain ⟨hi, hbefore, hafter⟩ := h
  have hsucc := hafter (i + 1) (Nat.lt_succ_self i) hi
  rcases moment_cases start history i with ⟨put, hput, _, hc⟩ | ⟨_, _, _, hc⟩ | ⟨_, _, hc⟩
  · rw [hc, Catalog.mem_names_insert] at hsucc
    exact ⟨put, hput, (hsucc.resolve_left hbefore).symm⟩
  · rw [hc, Catalog.mem_names_erase] at hsucc
    exact absurd hsucc.1 hbefore
  · rw [hc] at hsucc
    exact absurd hsucc hbefore

end

end Toolbench.Session
