import Toolbench.Declaration.Basic

/-! # Checked declarations and their drafts

Every declaration is what the check makes of exactly one draft. A draft that is no declaration's is
refused for the first of three reasons that applies: a blank name of a parameter, a blank name of
the tool, or the first name of a parameter that has come before (`Draft.check_judged`). -/

namespace Toolbench

/-- The draft that a declaration was made from. -/
def Declaration.draft (d : Declaration) : Draft :=
  ⟨d.name, d.usage, d.parameters.map (·.toDraft)⟩

namespace Parameter.Draft

theorem check_toDraft (p : Parameter) : p.toDraft.check = .ok p := by
  rw [check, dif_pos p.visible]

theorem check_eq_ok_iff {draft : Parameter.Draft} {p : Parameter} :
    draft.check = .ok p ↔ draft = p.toDraft := by
  refine ⟨fun h => ?_, fun h => h ▸ check_toDraft p⟩
  rw [check] at h
  split at h
  next => cases h; rfl
  next => cases h

theorem mapM_check_eq_ok_iff {drafts : List Parameter.Draft} {ps : List Parameter} :
    drafts.mapM check = .ok ps ↔ drafts = ps.map (·.toDraft) := by
  induction drafts generalizing ps with
  | nil => cases ps <;> simp [pure, Except.pure]
  | cons draft drafts ih =>
    simp only [List.mapM_cons, bind, Except.bind, pure, Except.pure]
    cases hc : draft.check with
    | error => cases ps <;> simp [← check_eq_ok_iff, hc]
    | ok p =>
      obtain rfl := check_eq_ok_iff.mp hc
      cases hm : drafts.mapM check with
      | error => cases ps <;> simp [← ih, hm]
      | ok qs =>
        cases ps with
        | nil => simp
        | cons p' ps => simp [← ih, hm, ← check_eq_ok_iff, hc]

theorem check_eq_error_iff {draft : Parameter.Draft} {error : RegistrationError} :
    draft.check = .error error ↔ ¬ Text.Visible draft.name ∧ error = .blankParameter := by
  rw [check]
  split
  next h => simp [h]
  next h => simp [h, eq_comm]

/-- Parameters are refused for a blank name, whichever of them has it. -/
theorem mapM_check_eq_error_iff {drafts : List Parameter.Draft} {error : RegistrationError} :
    drafts.mapM check = .error error ↔
      (∃ draft ∈ drafts, ¬ Text.Visible draft.name) ∧ error = .blankParameter := by
  induction drafts with
  | nil => simp [pure, Except.pure]
  | cons draft drafts ih =>
    simp only [List.mapM_cons, bind, Except.bind, pure, Except.pure, List.mem_cons,
      exists_eq_or_imp]
    cases hc : draft.check with
    | error reason =>
      obtain ⟨hblank, rfl⟩ := check_eq_error_iff.mp hc
      simp [hblank, eq_comm]
    | ok p =>
      obtain rfl := check_eq_ok_iff.mp hc
      have hvisible : Text.Visible p.toDraft.name := p.visible
      cases hm : drafts.mapM check with
      | error reason => simp [← ih, hm, hvisible]
      | ok ps => simp [← ih, hm, hvisible]

end Parameter.Draft

/-- The name at a position is among those already seen or stands at an earlier position. -/
def IsRepeat (seen names : List String) (i : Nat) (name : String) : Prop :=
  names[i]? = some name ∧ name ∈ seen ++ names.take i

section
variable {seen names : List String} {first name : String} {i : Nat}

theorem isRepeat_zero_iff :
    IsRepeat seen (first :: names) 0 name ↔ first = name ∧ first ∈ seen := by
  simp only [IsRepeat, List.getElem?_cons_zero, Option.some.injEq, List.take_zero,
    List.append_nil]
  exact and_congr_right fun h => h ▸ Iff.rfl

/-- Behind the first name, this name has been seen too. -/
theorem isRepeat_succ_iff :
    IsRepeat seen (first :: names) (i + 1) name ↔ IsRepeat (first :: seen) names i name := by
  simp only [IsRepeat, List.getElem?_cons_succ, List.take_succ_cons, List.mem_append,
    List.mem_cons]
  exact and_congr_right fun _ => or_left_comm.trans or_assoc.symm

/-- The scan finds the name at the least position that repeats a name. -/
theorem firstRepeated?_eq_some_iff :
    firstRepeated? seen names = some name ↔
      ∃ i, IsRepeat seen names i name ∧ ∀ k < i, ∀ other, ¬ IsRepeat seen names k other := by
  -- behind a fresh name the positions are one less, and this name has been seen
  induction names generalizing seen with
  | nil => simp [firstRepeated?, IsRepeat]
  | cons first names ih =>
    rw [firstRepeated?]
    split
    next hseen =>
      constructor
      · intro h
        exact ⟨0, isRepeat_zero_iff.mpr ⟨Option.some.inj h, hseen⟩,
          fun k hk => absurd hk k.not_lt_zero⟩
      · rintro ⟨i, hi, hleast⟩
        cases i with
        | zero => rw [(isRepeat_zero_iff.mp hi).1]
        | succ i =>
          exact absurd (isRepeat_zero_iff.mpr ⟨rfl, hseen⟩) (hleast 0 i.succ_pos first)
    next hfresh =>
      rw [ih]
      constructor
      · rintro ⟨i, hi, hleast⟩
        refine ⟨i + 1, isRepeat_succ_iff.mpr hi, fun k hk other ho => ?_⟩
        cases k with
        | zero => exact hfresh (isRepeat_zero_iff.mp ho).2
        | succ k => exact hleast k (Nat.lt_of_succ_lt_succ hk) other (isRepeat_succ_iff.mp ho)
      · rintro ⟨i, hi, hleast⟩
        cases i with
        | zero => exact absurd (isRepeat_zero_iff.mp hi).2 hfresh
        | succ i =>
          exact ⟨i, isRepeat_succ_iff.mp hi, fun k hk other ho =>
            hleast (k + 1) (Nat.succ_lt_succ hk) other (isRepeat_succ_iff.mpr ho)⟩

end

namespace Declaration

theorem ofParameters_eq_ok_iff {name usage : String} {parameters : List Parameter}
    {d : Declaration} :
    ofParameters name usage parameters = .ok d ↔
      name = d.name ∧ usage = d.usage ∧ parameters = d.parameters := by
  rw [ofParameters]
  constructor
  · intro h
    split at h
    next =>
      split at h
      next => cases h
      next => cases h; exact ⟨rfl, rfl, rfl⟩
    next => cases h
  · rintro ⟨rfl, rfl, rfl⟩
    rw [dif_pos d.visible]
    have hnone : firstRepeated? [] (d.parameters.map (·.name)) = none :=
      firstRepeated?_eq_none_iff.mpr ⟨d.distinct, fun _ _ => List.not_mem_nil⟩
    split
    next h => rw [hnone] at h; cases h
    next => rfl

/-- The check accepts exactly the drafts of declarations. -/
theorem check_eq_ok_iff {draft : Draft} {d : Declaration} :
    draft.check = .ok d ↔ draft = d.draft := by
  obtain ⟨name, usage, parameters⟩ := draft
  simp only [Draft.check, bind, Except.bind, Declaration.draft, Draft.mk.injEq]
  cases hm : parameters.mapM Parameter.Draft.check with
  | error =>
    have hne : ∀ ps : List Parameter, parameters ≠ ps.map (·.toDraft) := fun ps he => by
      rw [Parameter.Draft.mapM_check_eq_ok_iff.mpr he] at hm
      cases hm
    simp [hne]
  | ok ps =>
    have hps := Parameter.Draft.mapM_check_eq_ok_iff.mp hm
    refine ofParameters_eq_ok_iff.trans (and_congr_right fun _ => and_congr_right fun _ => ?_)
    refine ⟨fun h => h ▸ hps, fun h => ?_⟩
    rw [Parameter.Draft.mapM_check_eq_ok_iff.mpr h] at hm
    cases hm
    rfl

theorem check_draft (d : Declaration) : d.draft.check = .ok d := check_eq_ok_iff.mpr rfl

/-! ## Refused drafts -/

theorem ofParameters_eq_error_iff {name usage : String} {parameters : List Parameter}
    {error : RegistrationError} :
    ofParameters name usage parameters = .error error ↔
      ¬ Text.Visible name ∧ error = .blankTool ∨
      Text.Visible name ∧ ∃ parameter,
        firstRepeated? [] (parameters.map (·.name)) = some parameter ∧
          error = .repeatedParameter name parameter := by
  rw [ofParameters]
  split
  next hvisible =>
    split
    next parameter hp => simp [hvisible, hp, eq_comm]
    next hp => simp [hvisible, hp]
  next hblank => simp [hblank, eq_comm]

/-- The names of the parameters are looked at before the name of the tool, and whether they repeat
after it. -/
theorem check_eq_error_iff {draft : Draft} {error : RegistrationError} :
    draft.check = .error error ↔
      (∃ p ∈ draft.parameters, ¬ Text.Visible p.name) ∧ error = .blankParameter ∨
      (∀ p ∈ draft.parameters, Text.Visible p.name) ∧
        (¬ Text.Visible draft.name ∧ error = .blankTool ∨
        Text.Visible draft.name ∧ ∃ parameter,
          firstRepeated? [] (draft.parameters.map (·.name)) = some parameter ∧
            error = .repeatedParameter draft.name parameter) := by
  simp only [Draft.check, bind, Except.bind]
  cases hm : draft.parameters.mapM Parameter.Draft.check with
  | error reason =>
    obtain ⟨hblank, rfl⟩ := Parameter.Draft.mapM_check_eq_error_iff.mp hm
    have hnot : ¬ ∀ p ∈ draft.parameters, Text.Visible p.name := by simpa using hblank
    rw [and_iff_right hblank, or_iff_left fun h => hnot h.1, Except.error.injEq, eq_comm]
  | ok ps =>
    have hps : draft.parameters = ps.map (·.toDraft) :=
      Parameter.Draft.mapM_check_eq_ok_iff.mp hm
    have hvisible : ∀ p ∈ draft.parameters, Text.Visible p.name := by
      rw [hps]
      exact List.forall_mem_map.mpr fun p _ => p.visible
    have hnot : ¬ ∃ p ∈ draft.parameters, ¬ Text.Visible p.name := by simpa using hvisible
    have hnames : draft.parameters.map (·.name) = ps.map (·.name) := by
      rw [hps, List.map_map]
      rfl
    rw [or_iff_right fun h => hnot h.1, and_iff_right hvisible, hnames]
    exact ofParameters_eq_error_iff

/-- Every name shows a character that is not blank, and no two parameters share a name. -/
structure Draft.WellFormed (draft : Draft) : Prop where
  tool : ∃ c ∈ draft.name.toList, Text.isBlank c = false
  parameters : ∀ p ∈ draft.parameters, ∃ c ∈ p.name.toList, Text.isBlank c = false
  distinct : (draft.parameters.map (·.name)).Nodup

/-- What the check says of a draft. -/
structure Draft.Judged (draft : Draft) : Prop where
  accepted_iff : (∃ d, draft.check = .ok d) ↔ draft.WellFormed
  /-- What is accepted is declared as it was drafted. -/
  accepted : ∀ d, draft.check = .ok d → d.draft = draft
  blankParameter_iff : draft.check = .error .blankParameter ↔
    ∃ p ∈ draft.parameters, ¬ Text.Visible p.name
  blankTool_iff : draft.check = .error .blankTool ↔
    (∀ p ∈ draft.parameters, Text.Visible p.name) ∧ ¬ Text.Visible draft.name
  /-- The parameter that is named is the one at the least position that repeats a name. -/
  repeatedParameter_iff : ∀ tool parameter,
    draft.check = .error (.repeatedParameter tool parameter) ↔
      (∀ p ∈ draft.parameters, Text.Visible p.name) ∧ Text.Visible draft.name ∧
      tool = draft.name ∧ ∃ i, IsRepeat [] (draft.parameters.map (·.name)) i parameter ∧
        ∀ k < i, ∀ other, ¬ IsRepeat [] (draft.parameters.map (·.name)) k other
  /-- There is no other reason. -/
  refused : ∀ error, draft.check = .error error →
    error = .blankParameter ∨ error = .blankTool ∨
      ∃ parameter, error = .repeatedParameter draft.name parameter

theorem wellFormed_draft (d : Declaration) : d.draft.WellFormed where
  tool := Text.visible_iff.mp d.visible
  parameters := List.forall_mem_map.mpr fun p _ => Text.visible_iff.mp p.visible
  distinct := by
    have hnames : d.draft.parameters.map (·.name) = d.parameters.map (·.name) := by
      rw [draft, List.map_map]
      rfl
    exact hnames ▸ d.distinct

theorem Draft.WellFormed.exists_check {draft : Draft} (h : draft.WellFormed) :
    ∃ d, draft.check = .ok d := by
  cases hc : draft.check with
  | ok d => exact ⟨d, rfl⟩
  | error error =>
    rcases check_eq_error_iff.mp hc with ⟨⟨p, hp, hblank⟩, _⟩ | ⟨_, ⟨hblank, _⟩ | ⟨_, name, hn, _⟩⟩
    · exact absurd (Text.visible_iff.mpr (h.parameters p hp)) hblank
    · exact absurd (Text.visible_iff.mpr h.tool) hblank
    · rw [firstRepeated?_eq_none_iff.mpr ⟨h.distinct, fun _ _ => List.not_mem_nil⟩] at hn
      cases hn

/-- **The check of a draft.** It accepts exactly the well-formed drafts, and refuses the others for
the first reason that applies. -/
theorem Draft.check_judged (draft : Draft) : draft.Judged where
  accepted_iff :=
    ⟨fun ⟨d, hd⟩ => check_eq_ok_iff.mp hd ▸ d.wellFormed_draft, fun h => h.exists_check⟩
  accepted _ hd := (check_eq_ok_iff.mp hd).symm
  blankParameter_iff := by simp [check_eq_error_iff]
  blankTool_iff := by simp [check_eq_error_iff]
  repeatedParameter_iff tool parameter := by
    simp only [check_eq_error_iff, ← firstRepeated?_eq_some_iff]
    simp [and_comm, and_assoc, eq_comm]
  refused error h := by
    rcases check_eq_error_iff.mp h with ⟨_, rfl⟩ | ⟨_, ⟨_, rfl⟩ | ⟨_, parameter, _, rfl⟩⟩
    · exact .inl rfl
    · exact .inr (.inl rfl)
    · exact .inr (.inr ⟨parameter, rfl⟩)

end Declaration
end Toolbench
