import Toolbench.Proofs.History

/-! # The chronicle of a bench

A bench is set up with some tools and then changed by registrations and removals. The tools of
the setup are registered like all others, so one history describes both: the first edits are
those of the setup. -/

namespace Toolbench.Session

/-- The edits that a setup makes. -/
def givenEdits (tools : List (Declaration × Option Handler)) : List Edit :=
  tools.map fun entry => .register entry.1 entry.2 false

/-- The setup of a bench with tools whose declarations have been checked. -/
def Setup.ofDeclared (strict : Option Bool) (tools : List (Declaration × Option Handler)) :
    Setup :=
  .fresh strict (tools.map fun entry => (entry.1.draft, entry.2))

/-- What a history says about a bench that was empty at its start. -/
structure Chronicle (start : Bench) (history : List Edit) : Prop where
  /-- An edit fails exactly if it is a registration without a handler, or one of a name that is
  there on a strict bench. -/
  failed_iff : ∀ {i edit}, history[i]? = some edit →
    ((∃ fault, (edit.step.run (moment start history i)).1 = .error fault) ↔
      ∃ declaration handler returned, edit = .register declaration handler returned ∧
        (handler = none ∨ start.catalog.strict = true ∧
          declaration.name ∈ (moment start history i).catalog.names))
  /-- An edit that fails does so by a refusal, and the bench is what it was, its log included. -/
  failed : ∀ {i edit fault after}, history[i]? = some edit →
    edit.step.run (moment start history i) = (.error fault, after) →
      (∃ error : RegistrationError, fault = error.fault) ∧ after = moment start history i
  /-- A removal says whether the name was there. -/
  removal : ∀ {i name}, Removed history i name →
    ((Edit.remove name).step.run (moment start history i)).1 =
      .ok (.flag (decide (name ∈ (moment start history i).catalog.names)))
  /-- A name finds the tool of its last accepted registration since its last removal. -/
  lookup : ∀ j name tool, (moment start history j).catalog.find? name = some tool ↔
    Standing start history j name tool
  /-- On a strict bench there is one accepted registration of a name between two removals. -/
  strict_once : start.catalog.strict = true → ∀ {i j tool other},
    Registered start history i tool → Registered start history j other → i < j →
      other.name = tool.name → ∃ k, i < k ∧ k < j ∧ Removed history k tool.name
  /-- It is the first one that has a handler, and the name keeps its tool until it is removed. -/
  strict_first : start.catalog.strict = true → ∀ {i j edit tool},
    history[i]? = some edit → edit.tool? = some tool → i < j →
    (∀ k < i, ∀ edit' other, history[k]? = some edit' → edit'.tool? = some other →
      other.name = tool.name → ∃ l, k < l ∧ l < i ∧ Removed history l tool.name) →
    (∀ k, i < k → k < j → ¬ Removed history k tool.name) →
      (moment start history j).catalog.find? tool.name = some tool
  /-- The names that are there are those that arrived by an accepted registration. -/
  present : ∀ j name, name ∈ (moment start history j).catalog.names ↔
    ∃ i, Arrived start history j name i ∧ ∃ tool, Registered start history i tool ∧
      tool.name = name
  nodup : ∀ j, (moment start history j).catalog.names.Nodup
  /-- Names stand in the order of their arrival. -/
  order : ∀ j, (moment start history j).catalog.names.Pairwise fun a b =>
    ∀ i i', Arrived start history j a i → Arrived start history j b i' → i < i'
  /-- A tool that replaces another keeps its position. -/
  replaced : ∀ {i tool}, Registered start history i tool →
    tool.name ∈ (moment start history i).catalog.names →
      (moment start history (i + 1)).catalog.names = (moment start history i).catalog.names
  /-- A tool that is registered after its name was removed comes last. -/
  moved : ∀ {i tool}, Removed history i tool.name → Registered start history (i + 1) tool →
    (moment start history (i + 2)).catalog.names =
      (moment start history i).catalog.names.filter (· ≠ tool.name) ++ [tool.name]

namespace Edit

variable {edit : Edit} {bench : Bench}

theorem failed_iff_refused :
    (∃ fault, (edit.step.run bench).1 = .error fault) ↔
      ∃ error, edit.refusal? bench = some error := by
  constructor
  · rintro ⟨fault, hf⟩
    refine Option.ne_none_iff_exists'.mp fun hn => ?_
    obtain ⟨result, hr⟩ := accepted_iff.mpr hn
    rw [hf] at hr
    cases hr
  · rintro ⟨error, he⟩
    exact ⟨error.fault, by rw [run_of_refusal he]⟩

theorem refused_iff :
    (∃ error, edit.refusal? bench = some error) ↔
      ∃ declaration handler returned, edit = .register declaration handler returned ∧
        (handler = none ∨ bench.catalog.strict = true ∧
          declaration.name ∈ bench.catalog.names) := by
  cases edit with
  | remove name => simp [refusal?]
  | register declaration handler returned =>
    have hex : (∃ declaration' handler' returned',
        Edit.register declaration handler returned = .register declaration' handler' returned' ∧
          (handler' = none ∨ bench.catalog.strict = true ∧
            declaration'.name ∈ bench.catalog.names)) ↔
        handler = none ∨ bench.catalog.strict = true ∧
          declaration.name ∈ bench.catalog.names := by
      constructor
      · rintro ⟨_, _, _, he, h⟩
        cases he
        exact h
      · intro h
        exact ⟨_, _, _, rfl, h⟩
    rw [hex]
    cases handler <;> simp [refusal?]

end Edit

/-- Every history on a bench that is empty at first has its chronicle. -/
theorem Chronicle.of_empty {start : Bench} (hs : start.catalog.names = [])
    (history : List Edit) : Chronicle start history where
  failed_iff := fun _ => by
    rw [Edit.failed_iff_refused, Edit.refused_iff, strict_moment]
  failed := fun {i edit fault after} _ hrun => by
    obtain ⟨error, he⟩ :=
      Edit.failed_iff_refused.mp ⟨fault, congrArg Prod.fst hrun⟩
    rw [Edit.run_of_refusal he] at hrun
    cases hrun
    exact ⟨⟨error, rfl⟩, rfl⟩
  removal := fun {i name} _ => by
    rw [← Bench.remove_fst]
    rfl
  lookup := fun j name tool => find?_moment_iff hs j
  strict_once := fun hstrict _ _ _ _ hi hj => hi.removed_between hstrict hj
  strict_first := fun {hstrict i j edit tool} he ht hij hfirst hlater => by
    have hreg := registered_of_first hs he ht hfirst
    refine (find?_moment_iff hs j).mpr ⟨i, hij, hreg, rfl, fun k hk hkj => ?_⟩
    refine ⟨hlater k hk hkj, fun other ho hn => ?_⟩
    obtain ⟨l, hil, hlk, hr⟩ := hreg.removed_between hstrict ho hk hn
    exact hlater l hil (by omega) hr
  present := fun j name => by
    rw [mem_names_moment_iff hs j]
    constructor
    · rintro ⟨i, hi⟩
      exact ⟨i, hi, hi.registered⟩
    · rintro ⟨i, hi, _⟩
      exact ⟨i, hi⟩
  nodup := fun j => Catalog.nodup_names _
  order := pairwise_arrived hs
  replaced := fun hreg hm => by rw [hreg.catalog_succ, Catalog.names_insert, if_pos hm]
  moved := fun {i tool} hrm hreg => by
    have hgone : tool.name ∉ (moment start history (i + 1)).catalog.names := by
      rw [hrm.catalog_succ, Catalog.mem_names_erase]
      exact fun h => h.2 rfl
    rw [hreg.catalog_succ, Catalog.names_insert, if_neg hgone, hrm.catalog_succ,
      Catalog.names_erase]

/-! ## Setting up -/

private theorem mapM_check_draft (tools : List (Declaration × Option Handler)) :
    (tools.map fun entry => (entry.1.draft, entry.2)).mapM
      (fun entry => entry.1.check.map fun declaration => (declaration, entry.2)) =
        (.ok tools : Except RegistrationError (List (Declaration × Option Handler))) := by
  induction tools with
  | nil => rfl
  | cons entry tools ih =>
    rw [List.map_cons, List.mapM_cons, ih, Declaration.check_draft]
    rfl

theorem Setup.run_ofDeclared (settings : Settings) (strict : Option Bool)
    (tools : List (Declaration × Option Handler)) :
    (Setup.ofDeclared strict tools).run settings =
      registerAll (.start settings strict) tools := by
  simp only [Setup.ofDeclared, Setup.run, mapM_check_draft]

/-- All edits of a history are accepted up to a moment. -/
def AcceptedUpTo (start : Bench) (history : List Edit) (j : Nat) : Prop :=
  ∀ i < j, ∀ edit, history[i]? = some edit → edit.Accepted (moment start history i)

theorem AcceptedUpTo.zero {start : Bench} {history : List Edit} :
    AcceptedUpTo start history 0 :=
  fun i hi => absurd hi (Nat.not_lt_zero i)

theorem AcceptedUpTo.cons {start : Bench} {edit : Edit} {history : List Edit} {j : Nat}
    (hfirst : edit.Accepted start)
    (hrest : AcceptedUpTo (edit.step.run start).2 history j) :
    AcceptedUpTo start (edit :: history) (j + 1) := by
  intro i hi later hl
  cases i with
  | zero =>
    cases hl
    exact hfirst
  | succ i => exact hrest i (by omega) later hl

/-- A setup makes its edits up to the first one that is refused. -/
theorem registerAll_cases (start : Bench) (tools : List (Declaration × Option Handler)) :
    (AcceptedUpTo start (givenEdits tools) tools.length ∧
      registerAll start tools = (.ok (), edited start (givenEdits tools))) ∨
    ∃ i edit error, (givenEdits tools)[i]? = some edit ∧
      edit.refusal? (moment start (givenEdits tools) i) = some error ∧
      AcceptedUpTo start (givenEdits tools) i ∧
      registerAll start tools = (.error error, moment start (givenEdits tools) i) := by
  induction tools generalizing start with
  | nil => exact .inl ⟨.zero, rfl⟩
  | cons entry tools ih =>
    obtain ⟨declaration, handler⟩ := entry
    cases hreg : start.register declaration handler with
    | error error =>
      refine .inr ⟨0, .register declaration handler false, error, rfl,
        Edit.refusal?_register_iff.mpr hreg, .zero, ?_⟩
      simp only [registerAll, hreg, moment_zero]
    | ok after =>
      have hrun := Edit.run_register hreg false
      have hfirst : (Edit.register declaration handler false).Accepted start :=
        ⟨_, congrArg Prod.fst hrun⟩
      have hmoment : ∀ i, moment start (givenEdits ((declaration, handler) :: tools)) (i + 1) =
          moment after (givenEdits tools) i := fun i => by
        rw [givenEdits, List.map_cons, moment_cons, hrun]
        rfl
      simp only [registerAll, hreg]
      rcases ih after with ⟨hall, hok⟩ | ⟨i, edit, error, he, hr, hbefore, herror⟩
      · refine .inl ⟨.cons hfirst (by rwa [hrun]), hok.trans ?_⟩
        simp only [givenEdits, edited, List.map_cons, List.foldl_cons, hrun]
      · refine .inr ⟨i + 1, edit, error, he, ?_, .cons hfirst (by rwa [hrun]), ?_⟩
        · rw [hmoment]
          exact hr
        · rw [hmoment]
          exact herror

theorem length_givenEdits (tools : List (Declaration × Option Handler)) :
    (givenEdits tools).length = tools.length := List.length_map _

/-- **Registrations and removals.** A setup goes through if and only if all its registrations
are accepted, and fails with the error of the first one that is refused. From there on, and
already during the setup, the bench is at every moment what the history of the edits says. -/
theorem setup_then_edits (settings : Settings) (strict : Option Bool)
    (tools : List (Declaration × Option Handler)) (edits : List Edit) :
    let start := Bench.start settings strict
    let given := givenEdits tools
    start.catalog.strict = strict.getD settings.strictRegistration ∧
    (AcceptedUpTo start given tools.length ∧
        (Setup.ofDeclared strict tools).run settings =
          (.ok (), moment start (given ++ edits) tools.length) ∨
      ∃ i edit error, given[i]? = some edit ∧ AcceptedUpTo start given i ∧
        edit.step.run (moment start given i) = (.error error.fault, moment start given i) ∧
        ((Setup.ofDeclared strict tools).run settings).1 = .error error) ∧
    Chronicle start (given ++ edits) := by
  intro start given
  refine ⟨rfl, ?_, Chronicle.of_empty rfl (given ++ edits)⟩
  rw [Setup.run_ofDeclared]
  rcases registerAll_cases start tools with
    ⟨hall, hok⟩ | ⟨i, edit, error, he, hr, hbefore, herror⟩
  · refine .inl ⟨hall, hok.trans ?_⟩
    rw [moment, ← length_givenEdits, List.take_left]
  · exact .inr ⟨i, edit, error, he, hbefore, Edit.run_of_refusal hr, congrArg Prod.fst herror⟩

end Toolbench.Session
