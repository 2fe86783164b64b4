import Toolbench.Proofs.Catalog
import Toolbench.Proofs.Stages

/-! # The log as a trail

The records of the catalog tell by their texts alone which tools are there: a registration is
told by the signature of the tool, a removal by its name. Replayed from the start of a session,
they give the names on the bench after every step, whatever the handlers do that are started in
it (`log_is_trail`). The name can be read off a signature if it has no opening parenthesis. -/

namespace Toolbench

namespace Event

/-- What the message of a record says after a given start. -/
def messageAfter? (start : String) (event : Event) : Option String :=
  (start.toList.isPrefixOf? event.message.toList).map String.ofList

/-- The part of a signature before its first opening parenthesis. -/
def nameOf (signature : String) : String :=
  String.ofList (signature.toList.takeWhile (· ≠ '('))

/-- The name of the tool whose registration a record tells. -/
def registration? (event : Event) : Option String :=
  if event.level = .info ∧ event.origin = .catalog then
    (event.messageAfter? "Registered tool: ").map nameOf
  else none

/-- The name of the tool whose removal a record tells. -/
def removal? (event : Event) : Option String :=
  if event.level = .info ∧ event.origin = .catalog then
    event.messageAfter? "Unregistered tool: "
  else none

/-- The name of the tool that a record warns of as replaced. -/
def replacement? (event : Event) : Option String :=
  if event.level = .warning ∧ event.origin = .catalog then
    event.messageAfter? "Replacing registered tool: "
  else none

/-- The names after a record, as its text has it. -/
def replay (names : List String) (event : Event) : List String :=
  match event.registration?, event.removal? with
  | some name, _ => if name ∈ names then names else names ++ [name]
  | none, some name => names.filter (· ≠ name)
  | none, none => names

/-- The names after some records. -/
def replayed (names : List String) (events : List Event) : List String :=
  events.foldl replay names

/-! ## The texts of the records -/

theorem messageAfter?_of_message {event : Event} {start rest : String}
    (h : event.message = start ++ rest) : event.messageAfter? start = some rest := by
  have hp : start.toList.isPrefixOf? (start ++ rest).toList = some rest.toList :=
    List.isPrefixOf?_eq_some_iff_append_eq.mpr String.toList_append.symm
  rw [messageAfter?, h, hp, Option.map_some, String.ofList_toList]

@[simp] theorem registration?_registered (signature : String) :
    (registered signature).registration? = some (nameOf signature) := by
  have h : (registered signature).messageAfter? "Registered tool: " = some signature :=
    messageAfter?_of_message rfl
  rw [registration?, if_pos ⟨rfl, rfl⟩, h, Option.map_some]

@[simp] theorem removal?_removed (tool : String) : (removed tool).removal? = some tool := by
  rw [removal?, if_pos ⟨rfl, rfl⟩]
  exact messageAfter?_of_message rfl

@[simp] theorem replacement?_replaced (tool : String) :
    (replaced tool).replacement? = some tool := by
  rw [replacement?, if_pos ⟨rfl, rfl⟩]
  exact messageAfter?_of_message rfl

/-- A text and a longer one begin with the same character. -/
theorem head?_append {start : String} {first : Char} (rest : String)
    (h : start.toList.head? = some first) : (start ++ rest).toList.head? = some first := by
  rw [String.toList_append, List.head?_append, h, Option.some_or]

theorem messageAfter?_eq_none {event : Event} {start : String} {first other : Char}
    (hm : event.message.toList.head? = some other) (hs : start.toList.head? = some first)
    (hne : first ≠ other) : event.messageAfter? start = none := by
  rw [messageAfter?, Option.map_eq_none_iff, Option.eq_none_iff_forall_ne_some]
  intro tail ht
  rw [← List.isPrefixOf?_eq_some_iff_append_eq.mp ht, List.head?_append, hs] at hm
  exact hne (Option.some.inj hm)

/-- A removal is not told as a registration, nor the other way round. -/
@[simp] theorem registration?_removed (tool : String) : (removed tool).registration? = none := by
  have h : (removed tool).messageAfter? "Registered tool: " = none :=
    messageAfter?_eq_none (head?_append tool rfl) rfl (by decide)
  rw [registration?, if_pos ⟨rfl, rfl⟩, h, Option.map_none]

@[simp] theorem removal?_registered (signature : String) :
    (registered signature).removal? = none := by
  rw [removal?, if_pos ⟨rfl, rfl⟩]
  exact messageAfter?_eq_none (head?_append signature rfl) rfl (by decide)

@[simp] theorem replacement?_registered (signature : String) :
    (registered signature).replacement? = none := rfl

@[simp] theorem replacement?_removed (tool : String) : (removed tool).replacement? = none := rfl

@[simp] theorem registration?_replaced (tool : String) : (replaced tool).registration? = none :=
  rfl

@[simp] theorem removal?_replaced (tool : String) : (replaced tool).removal? = none := rfl

/-- What a call logs of its own accord is told as no change of the catalog. -/
theorem OfCall.untold {event : Event} (h : event.OfCall) :
    event.registration? = none ∧ event.removal? = none ∧ event.replacement? = none := by
  cases event with
  | registered | replaced | removed => exact h.elim
  | defaulted | failed => exact ⟨rfl, rfl, rfl⟩
  | unknownTool tool =>
    have hm : (unknownTool tool).message.toList.head? = some 'C' :=
      head?_append _ (head?_append tool rfl)
    refine ⟨rfl, rfl, ?_⟩
    rw [replacement?, if_pos ⟨rfl, rfl⟩]
    exact messageAfter?_eq_none hm rfl (by decide)
  | wrongArity tool given expected =>
    have hm : (wrongArity tool given expected).message.toList.head? = some 'T' :=
      head?_append _ (head?_append _ (head?_append _ (head?_append _ (head?_append tool rfl))))
    refine ⟨rfl, rfl, ?_⟩
    rw [replacement?, if_pos ⟨rfl, rfl⟩]
    exact messageAfter?_eq_none hm rfl (by decide)

/-- The name of a tool can be read off its signature. -/
theorem nameOf_signature {d : Declaration} (h : '(' ∉ d.name.toList) :
    nameOf d.signature = d.name := by
  have hname : ∀ c ∈ d.name.toList, decide (c ≠ '(') = true := fun c hc =>
    decide_eq_true fun he => h (he ▸ hc)
  have hrest : d.signature.toList = d.name.toList ++ '(' ::
      (", ".intercalate (d.parameters.map fun p => p.name ++ ": " ++ p.label) ++ ")").toList := by
    simp [Declaration.signature, String.toList_append]
  rw [nameOf, hrest, List.takeWhile_append_of_pos hname, List.takeWhile_cons_of_neg (by simp),
    List.append_nil, String.ofList_toList]

/-! ## Replaying -/

section
variable {names : List String}

@[simp] theorem replay_registered (signature : String) :
    (registered signature).replay names =
      if nameOf signature ∈ names then names else names ++ [nameOf signature] := by
  simp [replay]

@[simp] theorem replay_removed (tool : String) :
    (removed tool).replay names = names.filter (· ≠ tool) := by
  simp [replay]

@[simp] theorem replay_replaced (tool : String) : (replaced tool).replay names = names := rfl

theorem OfCall.replay {event : Event} (h : event.OfCall) : event.replay names = names := by
  obtain ⟨hreg, hrem, _⟩ := h.untold
  rw [Event.replay, hreg, hrem]

@[simp] theorem replayed_nil : replayed names [] = names := rfl

@[simp] theorem replayed_cons (event : Event) (events : List Event) :
    replayed names (event :: events) = replayed (event.replay names) events := rfl

theorem replayed_of_ofCall {events : List Event} (h : ∀ event ∈ events, event.OfCall) :
    replayed names events = names := by
  induction events with
  | nil => rfl
  | cons event events ih =>
    rw [replayed_cons, (h event (.head _)).replay]
    exact ih fun other hm => h other (.tail _ hm)

theorem replayed_append (events later : List Event) :
    replayed names (events ++ later) = replayed (replayed names events) later :=
  List.foldl_append

end

end Event

open Event (replayed nameOf)

/-! ## Warnings -/

/-- Records in which each registration is told of a name that is not there, or is told right
after the warning that it replaces one that is. -/
inductive Marked : List String → List Event → Prop
  | nil {names : List String} : Marked names []
  | fresh {names : List String} {signature : String} {events : List Event} :
    nameOf signature ∉ names → Marked (names ++ [nameOf signature]) events →
      Marked names (.registered signature :: events)
  | again {names : List String} {signature : String} {events : List Event} :
    nameOf signature ∈ names → Marked names events →
      Marked names (.replaced (nameOf signature) :: .registered signature :: events)
  | removed {names : List String} {tool : String} {events : List Event} :
    Marked (names.filter (· ≠ tool)) events → Marked names (.removed tool :: events)
  | other {names : List String} {event : Event} {events : List Event} :
    event.OfCall → Marked names events → Marked names (event :: events)

namespace Marked

variable {names : List String} {events later : List Event} {event : Event} {name : String}

theorem of_ofCall (names : List String) (h : ∀ event ∈ events, event.OfCall) :
    Marked names events := by
  induction events with
  | nil => exact .nil
  | cons event events ih =>
    have hrest : ∀ event ∈ events, event.OfCall := fun other hm => h other (.tail _ hm)
    exact .other (h event (.head _)) (ih hrest)

theorem append (h : Marked names events) (hl : Marked (replayed names events) later) :
    Marked names (events ++ later) := by
  induction h with
  | nil => exact hl
  | fresh hnew _ ih =>
    rw [Event.replayed_cons, Event.replay_registered, if_neg hnew] at hl
    exact .fresh hnew (ih hl)
  | again hold _ ih =>
    rw [Event.replayed_cons, Event.replay_replaced, Event.replayed_cons,
      Event.replay_registered, if_pos hold] at hl
    exact .again hold (ih hl)
  | removed _ ih =>
    rw [Event.replayed_cons, Event.replay_removed] at hl
    exact .removed (ih hl)
  | other hcall _ ih =>
    rw [Event.replayed_cons, hcall.replay] at hl
    exact .other hcall (ih hl)

/-- A registration that comes first is one of a new name. -/
theorem notMem_of_head (h : Marked names (event :: events))
    (hr : event.registration? = some name) : name ∉ names := by
  cases h with
  | fresh hnew _ =>
    rw [Event.registration?_registered] at hr
    exact Option.some.inj hr ▸ hnew
  | again => simp at hr
  | removed => simp at hr
  | other hcall _ =>
    rw [hcall.untold.1] at hr
    cases hr

/-- A record that is no warning does not stand before a registration of a name that is there. -/
theorem unwarned (hfirst : event.replacement? = none) (h : Marked (event.replay names) events)
    (name : String) :
    (∃ first, (event :: events)[0]? = some first ∧ first.replacement? = some name) ↔
      ∃ next, (event :: events)[1]? = some next ∧ next.registration? = some name ∧
        name ∈ replayed names ((event :: events).take 1) := by
  refine iff_of_false ?_ ?_
  · rintro ⟨_, he, hr⟩
    cases he
    rw [hfirst] at hr
    cases hr
  · rintro ⟨next, he, hr, hm⟩
    cases events with
    | nil => cases he
    | cons =>
      cases he
      exact h.notMem_of_head hr hm

/-- A warning stands right before each registration of a name that is there, and nowhere
else. -/
theorem replacement_iff (h : Marked names events) (i : Nat) (name : String) :
    (∃ event, events[i]? = some event ∧ event.replacement? = some name) ↔
      ∃ event, events[i + 1]? = some event ∧ event.registration? = some name ∧
        name ∈ replayed names (events.take (i + 1)) := by
  induction h generalizing i with
  | nil => simp
  | @fresh names signature events hnew hrest ih =>
    cases i with
    | zero =>
      refine unwarned rfl ?_ name
      rwa [Event.replay_registered, if_neg hnew]
    | succ i => simpa [if_neg hnew] using ih i
  | @again names signature events hold hrest ih =>
    -- the warning stands first, and the registration after it is no warning
    match i with
    | 0 =>
      have hm : nameOf signature = name → name ∈ names := fun h => h ▸ hold
      simpa using hm
    | 1 =>
      have hnext : Marked (Event.replay names (.registered signature)) events := by
        rwa [Event.replay_registered, if_pos hold]
      simpa using unwarned rfl hnext name
    | i + 2 => simpa [if_pos hold] using ih i
  | @removed names tool events hrest ih =>
    cases i with
    | zero =>
      refine unwarned rfl ?_ name
      rwa [Event.replay_removed]
    | succ i => simpa using ih i
  | @other names event events hcall hrest ih =>
    cases i with
    | zero =>
      refine unwarned hcall.untold.2.2 ?_ name
      rwa [hcall.replay]
    | succ i => simpa [hcall.replay] using ih i

end Marked

/-! ## What the log tells of the names -/

/-- No name that is there or has been removed has an opening parenthesis. -/
def Unparenthesized (names : List String) (events : List Event) : Prop :=
  (∀ name ∈ names, '(' ∉ name.toList) ∧ ∀ name, .removed name ∈ events → '(' ∉ name.toList

/-- Records that tell how the names came from what they were. -/
structure Told (before : List String) (events : List Event) (after : List String) : Prop where
  /-- A name is there until its removal is logged. -/
  stays : ∀ name ∈ before, name ∈ after ∨ .removed name ∈ events
  replayed : Unparenthesized after events → Event.replayed before events = after
  marked : Unparenthesized after events → Marked before events

namespace Told

variable {names before middle after : List String} {events later : List Event}

theorem of_ofCall (names : List String) (h : ∀ event ∈ events, event.OfCall) :
    Told names events names where
  stays _ hm := .inl hm
  replayed _ := Event.replayed_of_ofCall h
  marked _ := .of_ofCall names h

theorem refl (names : List String) : Told names [] names :=
  of_ofCall names nofun

/-- If later names have no parenthesis and neither have the removed ones, then the names before
have none. -/
theorem unparenthesized (h : Told middle later after)
    (hu : Unparenthesized after (events ++ later)) :
    Unparenthesized middle events ∧ Unparenthesized after later := by
  obtain ⟨hafter, hremoved⟩ := hu
  refine ⟨⟨fun name hm => ?_, fun name hm => ?_⟩, hafter, fun name hm => ?_⟩
  · rcases h.stays name hm with hm | hm
    · exact hafter name hm
    · exact hremoved name (List.mem_append_right events hm)
  · exact hremoved name (List.mem_append_left later hm)
  · exact hremoved name (List.mem_append_right events hm)

theorem trans (h : Told before events middle) (h' : Told middle later after) :
    Told before (events ++ later) after where
  stays name hm := by
    rcases h.stays name hm with hm | hm
    · exact (h'.stays name hm).imp_right (List.mem_append_right events)
    · exact .inr (List.mem_append_left later hm)
  replayed hu := by
    obtain ⟨hmiddle, hafter⟩ := h'.unparenthesized hu
    rw [Event.replayed_append, h.replayed hmiddle, h'.replayed hafter]
  marked hu := by
    obtain ⟨hmiddle, hafter⟩ := h'.unparenthesized hu
    refine (h.marked hmiddle).append ?_
    rw [h.replayed hmiddle]
    exact h'.marked hafter

/-- A registration is told by the name that its signature gives away. -/
theorem insert (catalog : Catalog) (tool : Tool) :
    Told catalog.names (catalog.notices tool.declaration) (catalog.insert tool).names := by
  have hstays : ∀ name ∈ catalog.names, name ∈ (catalog.insert tool).names ∨
      .removed name ∈ catalog.notices tool.declaration := fun name hm =>
    .inl (Catalog.mem_names_insert.mpr (.inl hm))
  have hname : Unparenthesized (catalog.insert tool).names (catalog.notices tool.declaration) →
      nameOf tool.declaration.signature = tool.name := fun hu =>
    Event.nameOf_signature (hu.1 tool.name (Catalog.mem_names_insert.mpr (.inr rfl)))
  by_cases hold : tool.name ∈ catalog.names
  · have hnotices : catalog.notices tool.declaration =
        [.replaced tool.name, .registered tool.declaration.signature] :=
      Catalog.notices_of_mem hold
    refine ⟨hstays, fun hu => ?_, fun hu => ?_⟩
    · rw [hnotices, Catalog.names_insert, if_pos hold]
      simp [hname hu, hold]
    · rw [hnotices, ← hname hu]
      rw [← hname hu] at hold
      exact .again hold .nil
  · have hnotices : catalog.notices tool.declaration =
        [.registered tool.declaration.signature] := Catalog.notices_of_notMem hold
    refine ⟨hstays, fun hu => ?_, fun hu => ?_⟩
    · rw [hnotices, Catalog.names_insert, if_neg hold]
      simp [hname hu, hold]
    · rw [hnotices]
      rw [← hname hu] at hold
      exact .fresh hold .nil

theorem erase {catalog : Catalog} {name : String} :
    Told catalog.names [.removed name] (catalog.erase name).names where
  stays other hm := by
    by_cases he : other = name
    · exact .inr (List.mem_singleton.mpr (he ▸ rfl))
    · exact .inl (Catalog.mem_names_erase.mpr ⟨hm, he⟩)
  replayed _ := by
    rw [Event.replayed_cons, Event.replay_removed, Event.replayed_nil, Catalog.names_erase]
  marked _ := .removed .nil

end Told

/-- A bench logs what tells its names from the names before. -/
def Bench.Tells (bench after : Bench) : Prop :=
  ∃ events, after.log = bench.log ++ events ∧
    Told bench.catalog.names events after.catalog.names

theorem Bench.Tells.of_eq {bench after : Bench} (hlog : after.log = bench.log)
    (hnames : after.catalog.names = bench.catalog.names) : bench.Tells after :=
  ⟨[], by rw [hlog, List.append_nil], hnames ▸ .refl _⟩

theorem kept_tells : Session.Kept Bench.Tells where
  refl _ := .of_eq rfl rfl
  trans := by
    rintro a b c ⟨events, hlog, h⟩ ⟨later, hlog', h'⟩
    exact ⟨events ++ later, by rw [hlog', hlog, List.append_assoc], h.trans h'⟩
  record bench events h := ⟨events, rfl, .of_ofCall _ h⟩
  deliver _ _ := .of_eq rfl rfl
  register := by
    intro bench declaration handler after h
    obtain ⟨handler, rfl, _, rfl⟩ := Bench.register_eq_ok_iff.mp h
    exact ⟨_, rfl, .insert bench.catalog ⟨declaration, handler⟩⟩
  remove bench tool := by
    rw [Bench.remove]
    split
    next => exact ⟨_, rfl, .erase⟩
    next => exact .of_eq rfl rfl
  turns _ _ _ := .of_eq rfl rfl
  settings _ _ := .of_eq rfl rfl
  strict _ _ := .of_eq rfl rfl
  limit _ _ := .of_eq rfl rfl

/-- A name that is registered is there later on, or its removal is logged. -/
theorem Bench.Tells.mem_or_removed {bench after later : Bench} {declaration : Declaration}
    {handler : Option Handler} (h : bench.register declaration handler = .ok after)
    (ht : after.Tells later) : declaration.name ∈ later.catalog.names ∨
      .removed declaration.name ∈ later.log := by
  obtain ⟨handler, rfl, _, rfl⟩ := Bench.register_eq_ok_iff.mp h
  obtain ⟨events, hlog, htold⟩ := ht
  rcases htold.stays _ (Catalog.mem_names_insert.mpr (.inr rfl)) with hm | hm
  · exact .inl hm
  · exact .inr (hlog ▸ List.mem_append_right _ hm)

namespace Session

/-- A step begins with an empty log, so its entry tells of this step alone. -/
theorem entry_told (step : Step) (bench : Bench) :
    Told bench.catalog.names (step.entry bench).2.log (step.entry bench).2.catalog.names := by
  obtain ⟨events, hlog, h⟩ := kept_tells.step step { bench with log := [], deliveries := [] }
  have hentry : (step.entry bench).2.log = events := hlog
  rw [hentry]
  exact h

theorem following_told (script : List Step) (bench : Bench) {i : Nat} {later : Bench}
    (h : (following script bench)[i]? = some later) :
    Told bench.catalog.names (((following script bench).take (i + 1)).flatMap (·.log))
      later.catalog.names := by
  induction script generalizing bench i with
  | nil => cases h
  | cons step rest ih =>
    have hstep := entry_told step bench
    cases i with
    | zero =>
      cases h
      simpa [following] using hstep
    | succ i => exact hstep.trans (ih _ h)

theorem stages_told {settings : Settings} {setup : Setup} {script : List Step} {i : Nat}
    {bench : Bench} (h : (stages settings setup script)[i]? = some bench) :
    Told [] (((stages settings setup script).take (i + 1)).flatMap (·.log))
      bench.catalog.names := by
  obtain ⟨strict, events, hlog, hsetup⟩ := kept_tells.setup settings setup
  have hsetup : Told [] (setup.run settings).2.log (setup.run settings).2.catalog.names :=
    hlog ▸ hsetup
  obtain ⟨taken, hs⟩ := exists_stages_eq settings setup script
  rw [hs] at h ⊢
  cases i with
  | zero =>
    cases h
    simpa using hsetup
  | succ i => exact hsetup.trans (following_told taken _ h)

/-- A name is registered in the course of a session. It is there after the setup or the step in
which it is registered, or its removal is logged in it (`Bench.Tells.mem_or_removed`). -/
def Occurs (settings : Settings) (setup : Setup) (script : List Step) (name : String) : Prop :=
  ∃ bench ∈ stages settings setup script,
    name ∈ bench.catalog.names ∨ .removed name ∈ bench.log

section
variable {settings : Settings} {setup : Setup} {script : List Step}

theorem unparenthesized_of_occurs
    (h : ∀ name, Occurs settings setup script name → '(' ∉ name.toList) {i : Nat} {bench : Bench}
    (hb : (stages settings setup script)[i]? = some bench) (n : Nat) :
    Unparenthesized bench.catalog.names
      (((stages settings setup script).take n).flatMap (·.log)) := by
  refine ⟨fun name hm => ?_, fun name hm => ?_⟩
  · exact h name ⟨bench, List.mem_of_getElem? hb, .inl hm⟩
  · obtain ⟨stage, hs, hm⟩ := List.mem_flatMap.mp hm
    exact h name ⟨stage, List.mem_of_mem_take hs, .inr hm⟩

/-- The records of some entries, one after the other. -/
def logOf (entries : List Entry) : List Event :=
  entries.flatMap (·.log)

theorem logOf_take_run (settings : Settings) (setup : Setup) (script : List Step) (n : Nat) :
    logOf ((run settings setup script).take n) =
      ((stages settings setup script).take n).flatMap (·.log) := by
  have hlogs := map_log_of_shows (run_shows settings setup script)
  rw [logOf, List.flatMap_def, List.flatMap_def, List.map_take, List.map_take, hlogs]

theorem marked_log (h : ∀ name, Occurs settings setup script name → '(' ∉ name.toList) :
    Marked [] (logOf (run settings setup script)) := by
  have hlogs := map_log_of_shows (run_shows settings setup script)
  rw [logOf, List.flatMap_def, hlogs, ← List.flatMap_def]
  cases hl : (stages settings setup script).length with
  | zero =>
    rw [List.eq_nil_of_length_eq_zero hl]
    exact .nil
  | succ n =>
    -- all records have been logged at the last stage
    have hlast : n < (stages settings setup script).length := hl ▸ Nat.lt_succ_self n
    have hb := List.getElem?_eq_getElem hlast
    have hmarked := (stages_told hb).marked (unparenthesized_of_occurs h hb (n + 1))
    rwa [List.take_of_length_le (Nat.le_of_eq hl)] at hmarked

/-- **The log is a trail.** If no name that is registered in a session has an opening
parenthesis, then the log up to an entry, replayed by its texts, gives the names of the entry,
also for a setup that fails. A warning of a replacement stands right before each record of a
registration of a name that is there, and nowhere else; an accepted registration logs both, or
the latter alone. -/
theorem log_is_trail (settings : Settings) (setup : Setup) (script : List Step)
    (h : ∀ name, Occurs settings setup script name → '(' ∉ name.toList) :
    (∀ (i : Nat) (entry : Entry) (names : List String),
      (run settings setup script)[i]? = some entry → entry.names = some names →
        replayed [] (logOf ((run settings setup script).take (i + 1))) = names) ∧
    (∀ (i : Nat) (bench : Bench), (stages settings setup script)[i]? = some bench →
      replayed [] (logOf ((run settings setup script).take (i + 1))) = bench.catalog.names) ∧
    (∀ (i : Nat) (name : String),
      (∃ event, (logOf (run settings setup script))[i]? = some event ∧
        event.replacement? = some name) ↔
      ∃ event, (logOf (run settings setup script))[i + 1]? = some event ∧
        event.registration? = some name ∧
        name ∈ replayed [] ((logOf (run settings setup script)).take (i + 1))) ∧
    ∀ (bench after : Bench) (declaration : Declaration) (handler : Option Handler),
      bench.register declaration handler = .ok after →
        after.log = bench.log ++
          ((if declaration.name ∈ bench.catalog.names then [.replaced declaration.name] else []) ++
            [.registered declaration.signature]) := by
  have hstage (i : Nat) (bench : Bench) (hb : (stages settings setup script)[i]? = some bench) :
      replayed [] (logOf ((run settings setup script).take (i + 1))) = bench.catalog.names := by
    rw [logOf_take_run]
    exact (stages_told hb).replayed (unparenthesized_of_occurs h hb (i + 1))
  refine ⟨?_, hstage, ?_, ?_⟩
  · intro i entry names he hn
    obtain ⟨bench, hb, hshows⟩ := exists_of_shows (run_shows settings setup script) he
    rw [hstage i bench hb, hshows.names names hn]
  · exact (marked_log h).replacement_iff
  · intro bench after declaration handler hreg
    obtain ⟨_, _, _, rfl⟩ := Bench.register_eq_ok_iff.mp hreg
    rfl

end

/-- A handler that puts a tool on the bench and takes its own off it. -/
def handOver : Handler := fun _ =>
  .register ⟨"new", "", [], by decide, List.nodup_nil⟩ (fun _ => .finish (.data .null)) fun _ =>
    .remove "old" fun _ => .finish (.data .null)

/-- A tool is registered, registered again, called, and registered with nothing to call. -/
def succession : List Step :=
  [.register ⟨"old", "", []⟩ (some handOver) false, .register ⟨"old", "", []⟩ (some handOver) false,
   .call .direct "old" (.oneByOne []), .register ⟨"old", "", []⟩ none false]

theorem stages_succession :
    (stages {} (.fresh none []) succession).map (fun bench => (bench.catalog.names, bench.log)) =
      [([], []), (["old"], [.registered "old()"]),
       (["old"], [.replaced "old", .registered "old()"]),
       (["new"], [.registered "new()", .removed "old"]), (["new"], [])] := rfl

theorem eq_of_occurs_succession {name : String} (h : Occurs {} (.fresh none []) succession name) :
    name = "old" ∨ name = "new" := by
  obtain ⟨bench, hb, hname⟩ := h
  have hm : (bench.catalog.names, bench.log) ∈
      (stages {} (.fresh none []) succession).map fun bench => (bench.catalog.names, bench.log) :=
    List.mem_map_of_mem hb
  rw [stages_succession] at hm
  simp only [List.mem_cons, Prod.mk.injEq, List.not_mem_nil, or_false] at hm
  rcases hm with ⟨hn, hl⟩ | ⟨hn, hl⟩ | ⟨hn, hl⟩ | ⟨hn, hl⟩ | ⟨hn, hl⟩ <;>
    simp only [hn, hl] at hname <;> grind

theorem log_is_trail_succession :
    replayed [] (logOf ((run {} (.fresh none []) succession).take 4)) = ["new"] ∧
      ∃ event, (logOf (run {} (.fresh none []) succession))[1]? = some event ∧
        event.replacement? = some "old" := by
  have h : ∀ name, Occurs {} (.fresh none []) succession name → '(' ∉ name.toList := by
    intro name ho
    rcases eq_of_occurs_succession ho with rfl | rfl <;> decide
  obtain ⟨_, hnames, hwarned, _⟩ := log_is_trail {} (.fresh none []) succession h
  have hb : ∃ bench, (stages {} (.fresh none []) succession)[3]? = some bench ∧
      bench.catalog.names = ["new"] := ⟨_, rfl, rfl⟩
  obtain ⟨bench, hb, hn⟩ := hb
  refine ⟨by rw [hnames 3 bench hb, hn], (hwarned 1 "old").mpr ?_⟩
  have htold : "old" ∈ replayed [] [.registered "old()", .replaced "old"] := by simp [nameOf]
  exact ⟨.registered "old()", rfl, by simp [nameOf], htold⟩

end Session

end Toolbench
