import Toolbench.Proofs.Declaration
import Toolbench.Proofs.Fallbacks
import Toolbench.Proofs.Parallel

/-! # Usage texts and required flags

The usage texts of a declaration and the flags of its required parameters are remarks for those
who read it. Two sessions whose tools differ in remarks only show the same but for the
declarations themselves and their exports (`run_indifferent`). That holds for the tools that
handlers install too. -/

namespace Toolbench

/-- Drafts of a parameter that differ in their remarks only. -/
structure Parameter.Draft.Resembles (p p' : Parameter.Draft) : Prop where
  name_eq : p.name = p'.name
  label_eq : p.label = p'.label
  ownReader_eq : p.ownReader = p'.ownReader

def Parameter.Resembles (p p' : Parameter) : Prop :=
  p.toDraft.Resembles p'.toDraft

/-- Drafts that differ in remarks only. -/
structure Declaration.Draft.Resembles (draft draft' : Declaration.Draft) : Prop where
  name_eq : draft.name = draft'.name
  parameters : List.Forall₂ Parameter.Draft.Resembles draft.parameters draft'.parameters

/-- Declarations that differ in remarks only. -/
structure Declaration.Resembles (d d' : Declaration) : Prop where
  name_eq : d.name = d'.name
  parameters : List.Forall₂ Parameter.Resembles d.parameters d'.parameters

mutual

/-- Documents that differ in description texts and required lists only. -/
inductive Document.Resembles : Document → Document → Prop
  | text (s : String) : Document.Resembles (.text s) (.text s)
  | items {parts parts' : List Document} : Document.AllResemble parts parts' →
      Document.Resembles (.items parts) (.items parts')
  | object {members members' : List (String × Document)} :
      Document.MembersResemble members members' →
      Document.Resembles (.object members) (.object members')

inductive Document.AllResemble : List Document → List Document → Prop
  | nil : Document.AllResemble [] []
  | cons {part part' : Document} {parts parts' : List Document} :
      Document.Resembles part part' → Document.AllResemble parts parts' →
      Document.AllResemble (part :: parts) (part' :: parts')

inductive Document.MembersResemble :
    List (String × Document) → List (String × Document) → Prop
  | nil : Document.MembersResemble [] []
  | description (s s' : String) {members members' : List (String × Document)} :
      Document.MembersResemble members members' →
      Document.MembersResemble (("description", .text s) :: members)
        (("description", .text s') :: members')
  | required (names names' : List String) {members members' : List (String × Document)} :
      Document.MembersResemble members members' →
      Document.MembersResemble (("required", .items (names.map .text)) :: members)
        (("required", .items (names'.map .text)) :: members')
  | member (key : String) {value value' : Document} {members members' : List (String × Document)} :
      Document.Resembles value value' → Document.MembersResemble members members' →
      Document.MembersResemble ((key, value) :: members) ((key, value') :: members')

end

/-! ## What does not depend on remarks -/

theorem Parameter.Resembles.read_eq {p p' : Parameter} (h : p.Resembles p') (raw : Value) :
    p.read raw = p'.read raw := by
  have hreader : p.reader = p'.reader := by rw [reader, reader, h.ownReader_eq, h.label_eq]
  have hnotices (argument : Argument) : p.notices raw argument = p'.notices raw argument := by
    rw [notices, notices, h.name_eq, h.label_eq]
  simp only [read, hreader, hnotices]

section
variable {ps ps' : List Parameter} (h : List.Forall₂ Parameter.Resembles ps ps')
include h

theorem Parameter.names_of_resembles : ps.map (·.name) = ps'.map (·.name) := by
  induction h with
  | nil => rfl
  | cons hp _ ih => rw [List.map_cons, List.map_cons, hp.name_eq, ih]

theorem Argument.readAll_of_resembles (args : List Value) :
    readAll ps args = readAll ps' args := by
  induction h generalizing args with
  | nil => rfl
  | cons hp _ ih =>
    cases args with
    | nil => rfl
    | cons raw args => simp only [readAll, hp.read_eq, ih]

theorem Argument.fallbackNames_of_resembles (arguments : List Argument) :
    fallbackNames ps arguments = fallbackNames ps' arguments := by
  induction h generalizing arguments with
  | nil => rfl
  | cons hp _ ih =>
    cases arguments with
    | nil => rfl
    | cons argument arguments =>
      rw [fallbackNames_cons, fallbackNames_cons, hp.name_eq, ih]

theorem Document.properties_resemble : Document.MembersResemble
    (ps.map fun p => (p.name, p.property)) (ps'.map fun p => (p.name, p.property)) := by
  induction h with
  | nil => exact .nil
  | cons hp _ ih =>
    rw [List.map_cons, List.map_cons, hp.name_eq]
    refine .member _ (.object ?_) ih
    rw [hp.label_eq]
    exact .member "type" (.text _) (.description _ _ .nil)

theorem Parameter.shown_of_resembles : (ps.map fun p => p.name ++ ": " ++ p.label) =
    ps'.map fun p => p.name ++ ": " ++ p.label := by
  induction h with
  | nil => rfl
  | cons hp _ ih => rw [List.map_cons, List.map_cons, hp.name_eq, hp.label_eq, ih]

/-- Parameters that resemble each other are declared or refused alike. -/
theorem Declaration.ofParameters_agree (name usage usage' : String) :
    Agree Declaration.Resembles (ofParameters name usage ps) (ofParameters name usage' ps') := by
  have hrepeated : firstRepeated? [] (ps.map (·.name)) = firstRepeated? [] (ps'.map (·.name)) := by
    rw [Parameter.names_of_resembles h]
  rw [ofParameters, ofParameters]
  by_cases hv : Text.Visible name
  · rw [dif_pos hv, dif_pos hv]
    split
    next parameter hr =>
      split
      next parameter' hr' =>
        obtain rfl : parameter = parameter' :=
          Option.some.inj (hr.symm.trans (hrepeated.trans hr'))
        exact .error _
      next hr' => cases hr.symm.trans (hrepeated.trans hr')
    next hr =>
      split
      next parameter' hr' => cases hr.symm.trans (hrepeated.trans hr')
      next => exact .ok ⟨rfl, h⟩
  · rw [dif_neg hv, dif_neg hv]
    exact .error _

end

theorem Parameter.Draft.Resembles.check {p p' : Parameter.Draft} (h : p.Resembles p') :
    Agree Parameter.Resembles p.check p'.check := by
  rw [Draft.check, Draft.check]
  by_cases hv : Text.Visible p.name
  · rw [dif_pos hv, dif_pos (h.name_eq ▸ hv)]
    exact .ok h
  · rw [dif_neg hv, dif_neg (h.name_eq ▸ hv)]
    exact .error _

/-- Drafts that resemble each other are declared or refused alike. -/
theorem Declaration.Draft.Resembles.check {draft draft' : Declaration.Draft}
    (h : draft.Resembles draft') : Agree Declaration.Resembles draft.check draft'.check := by
  have hps : Agree (List.Forall₂ Parameter.Resembles)
      (draft.parameters.mapM Parameter.Draft.check)
      (draft'.parameters.mapM Parameter.Draft.check) :=
    Agree.mapM (fun _ _ hp => hp.check) h.parameters
  rw [Draft.check, Draft.check, h.name_eq]
  exact hps.bind fun _ _ hps => Declaration.ofParameters_agree hps _ _ _

namespace Declaration.Resembles

variable {d d' : Declaration} (h : d.Resembles d')
include h

theorem arity_eq : d.arity = d'.arity := h.parameters.length_eq

theorem signature_eq : d.signature = d'.signature := by
  rw [signature, signature, h.name_eq, Parameter.shown_of_resembles h.parameters]

theorem parameterSchema : d.parameterSchema.Resembles d'.parameterSchema :=
  .object (.member "type" (.text "object")
    (.member "properties" (.object (Document.properties_resemble h.parameters))
      (.required _ _ .nil)))

theorem functionSchema : d.functionSchema.Resembles d'.functionSchema := by
  refine .object (.member "type" (.text "function") (.member "function" (.object ?_) .nil))
  rw [h.name_eq]
  exact .member "name" (.text _) (.description _ _ (.member "parameters" h.parameterSchema .nil))

theorem toolSchema : d.toolSchema.Resembles d'.toolSchema := by
  refine .object ?_
  rw [h.name_eq]
  exact .member "name" (.text _)
    (.description _ _ (.member "input_schema" h.parameterSchema .nil))

end Declaration.Resembles

/-! ## Sessions -/

theorem Agree.refl {α ε : Type} {R : α → α → Prop} (hr : ∀ a, R a a) (result : Except ε α) :
    Agree R result result := by
  cases result with
  | ok a => exact .ok (hr a)
  | error e => exact .error e

theorem Observation.toReply_injective {o o' : Observation} (h : o.toReply = o'.toReply) :
    o = o' := by
  cases o
  cases o'
  cases h
  rfl

namespace Session

/-- The likeness of sessions whose tools differ in remarks only. Nothing else differs. -/
def remarks : Likeness where
  settings := Eq
  declaration := Declaration.Resembles
  reply := Eq
  draft := Declaration.Draft.Resembles
  name_eq h := h.name_eq
  signature_eq h := h.signature_eq
  arity_eq h := h.arity_eq
  readAll_eq h := Argument.readAll_of_resembles h.parameters
  fallbackNames_eq h := Argument.fallbackNames_of_resembles h.parameters
  unknownTool h _ := by rw [h]
  wrongArity h _ _ _ := by rw [h]
  success h hr _ _ := by
    rw [h, hr]
    exact .refl (fun o => Eq.refl o.toReply) _
  failure h _ _ _ := by
    rw [h]
    exact .refl (fun o => Eq.refl o.toReply) _
  draft_refl draft := by
    refine ⟨rfl, List.forall₂_same.mpr fun _ _ => ⟨rfl, rfl, rfl⟩⟩
  reply_refl _ := rfl
  check h := h.check
  strict_eq h := congrArg _ h
  change h change := congrArg change.apply h

/-- Results of inner calls that agree are the same. -/
theorem eq_of_agree {result result' : Except Fault Observation}
    (h : Agree remarks.observation result result') : result = result' := by
  rcases h.cases with ⟨fault, rfl, rfl⟩ | ⟨o, o', ho, rfl, rfl⟩
  · rfl
  · rw [Observation.toReply_injective ho]

/-- Every script does the same as itself, as no script reads a declaration. -/
theorem alike_refl {mode : Mode} (script : Script mode) :
    script.Alike remarks.toLikeness script := by
  induction script with
  | finish reply => exact .finish rfl
  | fail fault => exact .fail fault
  | postpone form work ih => exact .postpone form ih
  | deliver values next ih => exact .deliver values ih
  | register declaration handler next ih ih' =>
    exact .register ⟨rfl, List.forall₂_same.mpr fun _ _ => ⟨rfl, rfl, rfl⟩⟩ ih ih'
  | remove tool next ih => exact .remove tool ih
  | list next ih => exact .list ih
  | call tool values next ih =>
    refine .call tool values fun result result' h => ?_
    rw [eq_of_agree h]
    exact ih result'
  | await tool values next ih =>
    refine .await tool values fun result result' h => ?_
    rw [eq_of_agree h]
    exact ih result'
  | pause next cancelled ih ih' => exact .pause ih ih'
  | park cancelled ih => exact .park ih

/-- Handlers that install tools are alike if the tools differ in remarks only. -/
theorem install_alike {draft draft' : Declaration.Draft} {handler handler' : Option Handler}
    (h : Given.Alike remarks (draft, handler) (draft', handler')) :
    Handler.Alike remarks.toLikeness (Stock.install draft handler)
      (Stock.install draft' handler') := by
  intro values
  refine .deliver values ?_
  have hdraft : draft.Resembles draft' := h.1
  rcases hdraft.check.cases with ⟨error, hc, hc'⟩ | ⟨d, d', hd, hc, hc'⟩
  · simp only [hc, hc']
    exact .fail _
  · rcases rel_cases h.2 with ⟨hh, hh'⟩ | ⟨started, started', hstarted, hh, hh'⟩
    · obtain rfl : handler = none := hh
      obtain rfl : handler' = none := hh'
      simp only [hc, hc', hd.name_eq]
      exact .fail _
    · obtain rfl : handler = some started := hh
      obtain rfl : handler' = some started' := hh'
      simp only [hc, hc']
      refine .register hd hstarted fun refusal => ?_
      exact alike_refl _

/-- What a step may show of the remarks. Looking a tool up gives its declaration, and the exports
hold the texts and the required names. All other results are the same. -/
def Step.Shows : Step → Result → Result → Prop
  | .find _, result, result' => ∃ found found',
      Option.Rel (fun d d' => d.Resembles d' ∧ d.signature = d'.signature) found found' ∧
        result = .declaration found ∧ result' = .declaration found'
  | .functionSchemas, result, result' | .toolSchemas, result, result' => ∃ parts parts',
      List.Forall₂ Document.Resembles parts parts' ∧
        result = .documents parts ∧ result' = .documents parts'
  | .describe, result, result' => ∃ text text', result = .text text ∧ result' = .text text'
  | _, result, result' => result = result'

theorem exports_resemble {form : Declaration → Document}
    (hf : ∀ d d' : Declaration, d.Resembles d' → (form d).Resembles (form d'))
    {tools tools' : List Tool} (h : List.Forall₂ (Tool.Alike remarks.toLikeness) tools tools') :
    List.Forall₂ Document.Resembles (tools.map fun tool => form tool.declaration)
      (tools'.map fun tool => form tool.declaration) := by
  induction h with
  | nil => exact .nil
  | cons ht _ ih => exact .cons (hf _ _ ht.declaration) ih

theorem Step.Relates.shows {step : Step} {result result' : Result}
    (h : step.Relates remarks result result') : step.Shows result result' := by
  cases step with
  | find tool =>
    obtain ⟨found, found', hf, hr, hr'⟩ := h
    refine ⟨found, found', ?_, hr, hr'⟩
    cases hf with
    | none => exact .none
    | some hd => exact .some ⟨hd, Declaration.Resembles.signature_eq hd⟩
  | functionSchemas =>
    obtain ⟨catalog, catalog', hc, hr, hr'⟩ := h
    exact ⟨_, _, exports_resemble (fun _ _ hd => hd.functionSchema) hc.tools, hr, hr'⟩
  | toolSchemas =>
    obtain ⟨catalog, catalog', hc, hr, hr'⟩ := h
    exact ⟨_, _, exports_resemble (fun _ _ hd => hd.toolSchema) hc.tools, hr, hr'⟩
  | describe =>
    obtain ⟨_, _, _, hr, hr'⟩ := h
    exact ⟨_, _, hr, hr'⟩
  | call | callCancelled =>
    obtain ⟨o, o', ho, rfl, rfl⟩ := h
    have ho : o = o' := Observation.toReply_injective ho
    exact congrArg Result.observation ho
  | applyDirectly tool args =>
    rcases h with ⟨rfl, rfl⟩ | ⟨_, _, _, reply, reply', hr, rfl, rfl⟩
    · rfl
    · have hr : reply = reply' := hr
      rw [hr]
      rfl
  | register | remove | contains | size | summary | change | isStrict | setStrict => exact h

/-- The entries of two sessions whose tools differ in remarks only. -/
structure Indifferent (script : List Step) (entries entries' : List Entry) : Prop where
  setup_eq : entries.head? = entries'.head?
  length_eq : entries.length = entries'.length
  /-- A step fails alike, with the same fault, or shows the same but for the remarks. What it logs
  and what it hands to handlers is the same, and so are the names after it. -/
  steps : ∀ {i : Nat} {step : Step} {entry entry' : Entry}, script[i]? = some step →
    entries[i + 1]? = some entry → entries'[i + 1]? = some entry' →
      Agree step.Shows entry.result entry'.result ∧ entry.log = entry'.log ∧
        entry.deliveries = entry'.deliveries ∧ entry.names = entry'.names

/-- Sessions whose setups and steps differ in the remarks of tools only, those that handlers
install included, show the same but for these remarks. -/
theorem run_indifferent (settings : Settings) {setup setup' : Setup} {script script' : List Step}
    (hs : Setup.Alike remarks setup setup')
    (hp : List.Forall₂ (Step.Alike remarks) script script') :
    Indifferent script (run settings setup script) (run settings setup' script') := by
  have h : Parallel remarks script (run settings setup script) (run settings setup' script') :=
    run_parallel rfl hs hp
  refine ⟨h.head_eq, h.length_eq, fun hi he he' => ?_⟩
  obtain ⟨hresult, hlog, hdeliveries, hnames⟩ := h.relates hi he he'
  refine ⟨?_, hlog, hdeliveries, hnames⟩
  rcases hresult.cases with ⟨fault, hr, hr'⟩ | ⟨result, result', hrelates, hr, hr'⟩
  · rw [hr, hr']
    exact .error fault
  · rw [hr, hr']
    exact .ok hrelates.shows

open Bench (dividing nullary)

/-- The draft of `dividing` with another usage text, and with arguments that may be left out. -/
def remarked : Declaration.Draft where
  name := "div"
  usage := "Divides a number by another."
  parameters := dividing.declaration.parameters.map fun p => { p.toDraft with required := false }

theorem remarked_resembles : dividing.declaration.draft.Resembles remarked := by
  refine ⟨rfl, List.forall₂_map_left_iff.mpr (List.forall₂_map_right_iff.mpr ?_)⟩
  exact List.forall₂_same.mpr fun _ _ => ⟨rfl, rfl, rfl⟩

/-- A setup with one tool, which installs another one from a draft. -/
def installing (draft : Declaration.Draft) : Setup :=
  .fresh none [((nullary (Stock.install draft (some dividing.handler))).declaration.draft,
    some (Stock.install draft (some dividing.handler)))]

/-- A tool is installed with these remarks or with others, and does the same. -/
theorem run_indifferent_remarked :
    Indifferent [.call .direct "t" (.oneByOne []),
        .call .direct "div" (.oneByOne [.str "10", .str "zero"]), .toolSchemas]
      (run {} (installing dividing.declaration.draft) [.call .direct "t" (.oneByOne []),
        .call .direct "div" (.oneByOne [.str "10", .str "zero"]), .toolSchemas])
      (run {} (installing remarked) [.call .direct "t" (.oneByOne []),
        .call .direct "div" (.oneByOne [.str "10", .str "zero"]), .toolSchemas]) := by
  have hsame : Handler.Alike remarks.toLikeness dividing.handler dividing.handler :=
    fun _ => alike_refl _
  refine run_indifferent {} (.fresh none (.cons ⟨⟨rfl, .nil⟩, .some ?_⟩ .nil)) ?_
  · exact install_alike ⟨remarked_resembles, .some hsame⟩
  · exact .cons (.same nofun) (.cons (.same nofun) (.cons (.same nofun) .nil))

end Session

end Toolbench
