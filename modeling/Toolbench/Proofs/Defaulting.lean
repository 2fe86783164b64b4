import Toolbench.Proofs.Escape
import Toolbench.Proofs.Fallbacks

/-! # Reading with fallbacks

A forgiving reader does no more to a text than to reject it, and has a fallback for a rejected
text. Parameters with such readers read texts without a fault of their own (`Parameter.read_cases`):
an argument is the value that was found in its text, or the fallback. What can fail is the note of a
fallback, since it shows the value in its quoted form, and not every value has one: an integer
beyond the digit limit has none. Reading returns exactly if no such note is to be made, and else it
stops at the first of them (`Argument.readAll_defaults`). A call of a tool with such readers raises
only exceptions if its handler and replies do (`Bench.OnlyExceptions.of_forgiving`). -/

namespace Toolbench

namespace Reader

/-- A reader is forgiving if its only fault is rejection and it always has a fallback. -/
structure Forgiving (reader : Reader) : Prop where
  rejection : ∀ text fault, reader.parse text = .error fault → fault.kind.isRejection = true
  fallback : ∃ value, reader.fallback = .ok value

theorem Forgiving.isException_of_parse {reader : Reader} (h : reader.Forgiving) {text : String}
    {fault : Fault} (hp : reader.parse text = .error fault) : fault.kind.isException = true :=
  fault.kind.isException_of_isRejection (h.rejection text fault hp)

theorem Forgiving.fallback_ne_error {reader : Reader} (h : reader.Forgiving) (fault : Fault) :
    reader.fallback ≠ .error fault := by
  obtain ⟨value, hv⟩ := h.fallback
  rw [hv]
  exact nofun

/-- What a reader makes of a text: the value that it finds in it, or the fallback for a text that
it rejects. -/
inductive Makes (reader : Reader) (text : String) : Argument → Prop
  | parsed {value : Value} : reader.parse text = .ok value → Makes reader text ⟨text, value, false⟩
  | replaced {value : Value} : reader.Rejects text → reader.fallback = .ok value →
      Makes reader text ⟨text, value, true⟩

/-- The text is rejected, and a fault comes up where the fallback is to be shown. -/
def Unnotable (reader : Reader) (text : String) (reason : Fault) : Prop :=
  reader.Rejects text ∧ ∃ value, reader.fallback = .ok value ∧ value.quoted = .error reason

/-- Plain data cannot be noted if it is oversized. -/
theorem unnotable_iff_of_isData {reader : Reader} {text : String} {reason : Fault} {value : Value}
    (hf : reader.fallback = .ok value) (hd : value.IsData) :
    reader.Unnotable text reason ↔
      reader.Rejects text ∧ value.Oversized ∧ reason = .digitLimit := by
  rw [Unnotable, hf, ← Value.quoted_eq_error_iff hd]
  simp only [Except.ok.injEq, exists_eq_left']

end Reader

namespace Parameter

/-- The event notes that the fallback took the place of an argument: it names the parameter and
shows the text and the fallback in their quoted forms. -/
def Notes (p : Parameter) (argument : Argument) (event : Event) : Prop :=
  ∃ shown, argument.value.quoted = .ok shown ∧
    event = .defaulted p.name p.label (String.ofList (Text.quoted argument.text.toList)) shown

/-- How a text is read for a parameter: with no event, with one note, or not at all. -/
inductive Reads (p : Parameter) (text : String) : Except Fault (Argument × List Event) → Prop
  | parsed {value : Value} : p.reader.parse text = .ok value →
      Reads p text (.ok (⟨text, value, false⟩, []))
  | replaced {value : Value} {event : Event} : p.reader.Rejects text →
      p.reader.fallback = .ok value → p.Notes ⟨text, value, true⟩ event →
      Reads p text (.ok (⟨text, value, true⟩, [event]))
  | unnotable {reason : Fault} : p.reader.Unnotable text reason → Reads p text (.error reason)

variable {p : Parameter} {text : String}

/-- A parameter with a forgiving reader finds a value, or notes its fallback, or cannot note it. -/
theorem read_cases (h : p.reader.Forgiving) (text : String) :
    p.Reads text (p.read (.str text)) := by
  obtain ⟨fallback, hfallback⟩ := h.fallback
  have htext : (Value.str text).text = .ok text := rfl
  cases hparse : p.reader.parse text with
  | ok value =>
    have hread : p.reader.read (.str text) = .ok ⟨text, value, false⟩ := by
      simp only [Reader.read, htext, hparse]
    rw [read_eq_ok_iff.mpr ⟨hread, notices_of_not_defaulted⟩]
    exact .parsed hparse
  | error reason =>
    have hrejects : p.reader.Rejects text := fun value hv => by
      rw [hparse] at hv
      cases hv
    have hread : p.reader.read (.str text) = .ok ⟨text, fallback, true⟩ := by
      simp only [Reader.read, htext, hparse, h.rejection text reason hparse, if_true, hfallback]
    cases hshown : fallback.quoted with
    | error reason =>
      rw [read_eq_error_iff.mpr (.inr ⟨_, hread,
        notices_eq_error_iff.mpr ⟨rfl, .inr ⟨_, rfl, hshown⟩⟩⟩)]
      exact .unnotable ⟨hrejects, fallback, hfallback, hshown⟩
    | ok shown =>
      rw [read_eq_ok_iff.mpr ⟨hread, notices_eq_ok_iff.mpr (.inr ⟨rfl, _, _, rfl, hshown, rfl⟩)⟩]
      exact .replaced hrejects hfallback ⟨shown, hshown, rfl⟩

end Parameter

namespace Argument

/-- The arguments are what the parameters make of the texts beside them. -/
def Made (parameters : List Parameter) (texts : List String) (arguments : List Argument) : Prop :=
  List.Forall₂ (fun pair argument => pair.1.reader.Makes pair.2 argument) (parameters.zip texts)
    arguments

/-- The events note the replaced arguments, one event for each of them and in their order. -/
def NotedBy (parameters : List Parameter) (arguments : List Argument) (events : List Event) :
    Prop :=
  List.Forall₂ (fun pair event => pair.1.Notes pair.2 event)
    ((parameters.zip arguments).filter (·.2.defaulted)) events

/-- Every argument is read, and the replaced ones are noted. -/
structure Returned (parameters : List Parameter) (texts : List String)
    (arguments : List Argument) (events : List Event) : Prop where
  made : Made parameters texts arguments
  noted : NotedBy parameters arguments events
  notable : ∀ pair ∈ parameters.zip texts, ∀ reason, ¬ pair.1.reader.Unnotable pair.2 reason

/-- Position `i` is the first one whose fallback cannot be noted, for the given reason. What comes
before it has been read, and the events are those of this part. -/
structure Halted (parameters : List Parameter) (texts : List String) (i : Nat) (reason : Fault)
    (events : List Event) : Prop where
  here : ∃ p text, parameters[i]? = some p ∧ texts[i]? = some text ∧
    p.reader.Unnotable text reason
  before : ∃ arguments, Returned (parameters.take i) (texts.take i) arguments events

section
variable {p : Parameter} {parameters : List Parameter} {text : String} {texts : List String}
  {raw : Value} {raws : List Value} {argument : Argument} {arguments : List Argument}
  {noted events : List Event} {fault : Fault} {i : Nat}

theorem Returned.nil (h : parameters.zip texts = []) : Returned parameters texts [] [] := by
  refine ⟨?_, ?_, ?_⟩
  · rw [Made, h]
    exact .nil
  · rw [NotedBy, List.zip_nil_right]
    exact .nil
  · rw [h]
    intro pair hm
    cases hm

theorem Returned.cons (hr : p.Reads text (.ok (argument, noted)))
    (h : Returned parameters texts arguments events) :
    Returned (p :: parameters) (text :: texts) (argument :: arguments) (noted ++ events) := by
  cases hr with
  | parsed hv =>
    refine ⟨.cons (.parsed hv) h.made, h.noted, List.forall_mem_cons.mpr ⟨?_, h.notable⟩⟩
    exact fun _ hn => hn.1 _ hv
  | replaced hreject hv hn =>
    refine ⟨.cons (.replaced hreject hv) h.made, .cons hn h.noted,
      List.forall_mem_cons.mpr ⟨?_, h.notable⟩⟩
    rintro reason ⟨_, other, ho, hfail⟩
    cases hv.symm.trans ho
    obtain ⟨shown, hshown, _⟩ := hn
    cases hshown.symm.trans hfail

/-- Reading for forgiving readers returns, or halts at a fallback that cannot be noted. -/
theorem readAll_cases (hp : ∀ p ∈ parameters, p.reader.Forgiving) (texts : List String) :
    (∃ arguments events, readAll parameters (texts.map .str) = (events, .ok arguments) ∧
      Returned parameters texts arguments events) ∨
    ∃ i reason events, readAll parameters (texts.map .str) = (events, .error reason) ∧
      Halted parameters texts i reason events := by
  induction parameters generalizing texts with
  | nil => exact .inl ⟨[], [], rfl, .nil List.zip_nil_left⟩
  | cons p parameters ih =>
    cases texts with
    | nil => exact .inl ⟨[], [], rfl, .nil List.zip_nil_right⟩
    | cons text texts =>
      obtain ⟨hfirst, hrest⟩ := List.forall_mem_cons.mp hp
      have hcases := Parameter.read_cases hfirst text
      rw [List.map_cons]
      cases hr : p.read (.str text) with
      | error fault =>
        rw [hr] at hcases
        cases hcases with
        | unnotable hn =>
          exact .inr ⟨0, _, [], readAll_cons_of_error hr, ⟨p, text, rfl, rfl, hn⟩, [],
            .nil List.zip_nil_left⟩
      | ok reading =>
        rw [hr] at hcases
        rw [readAll_cons_of_ok hr]
        rcases ih hrest texts with ⟨arguments, events, he, h⟩ | ⟨i, reason, events, he, hhere, _, h⟩
        · rw [he]
          exact .inl ⟨_, _, rfl, h.cons hcases⟩
        · rw [he]
          exact .inr ⟨i + 1, reason, _, rfl, hhere, _, h.cons hcases⟩

end

/-- What reading makes of texts for forgiving readers. -/
structure Defaulting (parameters : List Parameter) (texts : List String) : Prop where
  /-- Reading returns exactly if every fallback that is used can be noted. -/
  returns_iff : (∃ arguments, (readAll parameters (texts.map .str)).2 = .ok arguments) ↔
    ∀ pair ∈ parameters.zip texts, ∀ reason, ¬ pair.1.reader.Unnotable pair.2 reason
  /-- Then each argument is parsed or replaced by the fallback, with one note for each that is
  replaced. -/
  returned : ∀ arguments, (readAll parameters (texts.map .str)).2 = .ok arguments →
    Made parameters texts arguments ∧
      NotedBy parameters arguments (readAll parameters (texts.map .str)).1
  /-- Otherwise the fault is the one that comes up at the first fallback that cannot be noted; the
  log has the notes of the arguments before it, and the later ones are not read. -/
  stopped : ∀ fault, (readAll parameters (texts.map .str)).2 = .error fault →
    ∃ i, Halted parameters texts i fault (readAll parameters (texts.map .str)).1
  /-- A fallback that is plain data cannot be noted if it is oversized, by the fault of the digit
  limit. -/
  unnotable_iff : ∀ p ∈ parameters, ∀ text value reason, p.reader.fallback = .ok value →
    value.IsData → (p.reader.Unnotable text reason ↔
      p.reader.Rejects text ∧ value.Oversized ∧ reason = .digitLimit)

/-- **Reading with fallbacks.** For forgiving readers every argument is parsed or replaced, up to
the first fallback that cannot be shown in a note. -/
theorem readAll_defaults (parameters : List Parameter) (texts : List String)
    (hp : ∀ p ∈ parameters, p.reader.Forgiving) : Defaulting parameters texts := by
  have hdata : ∀ p ∈ parameters, ∀ text value reason, p.reader.fallback = .ok value →
      value.IsData → (p.reader.Unnotable text reason ↔
        p.reader.Rejects text ∧ value.Oversized ∧ reason = .digitLimit) :=
    fun p _ text value reason => Reader.unnotable_iff_of_isData
  rcases readAll_cases hp texts with ⟨arguments, events, he, h⟩ | ⟨i, reason, events, he, h⟩
  · refine ⟨iff_of_true ⟨arguments, congrArg Prod.snd he⟩ h.notable, fun other ho => ?_,
      fun fault hf => ?_, hdata⟩
    · rw [he] at ho ⊢
      cases ho
      exact ⟨h.made, h.noted⟩
    · rw [he] at hf
      cases hf
  · obtain ⟨p, text, hp, ht, hn⟩ := h.here
    have hpair : (p, text) ∈ parameters.zip texts :=
      List.mem_of_getElem? (List.getElem?_zip_eq_some.mpr ⟨hp, ht⟩)
    refine ⟨iff_of_false ?_ fun hall => hall _ hpair _ hn, fun arguments ho => ?_,
      fun fault hf => ?_, hdata⟩
    · rintro ⟨arguments, ho⟩
      rw [he] at ho
      cases ho
    · rw [he] at ho
      cases ho
    · rw [he] at hf ⊢
      cases hf
      exact ⟨i, h⟩

end Argument

/-- Given texts, forgiving readers and plain fallbacks, a call raises only exceptions if the tool
replies or fails by an exception, and the text of its reply is there or fails by an exception. -/
theorem Bench.OnlyExceptions.of_forgiving {answer : Answer} {mode : Mode} {tool : Tool}
    {texts : List String} {bench : Bench}
    (hp : ∀ p ∈ tool.declaration.parameters, p.reader.Forgiving)
    (hd : ∀ p ∈ tool.declaration.parameters, ∀ value, p.reader.fallback = .ok value →
      value.IsData)
    (hw : ∀ readings, Argument.Completes tool.declaration.parameters (texts.map .str) readings →
      ∀ result after, (tool.handler (Argument.values readings)).Obtains answer tool.name
        (bench.record (Argument.events readings)) mode (result, after) →
      ∀ fault, result.bind Reply.text = .error fault → fault.kind.isException = true) :
    OnlyExceptions answer mode tool (texts.map .str) bench where
  given arg harg := by
    obtain ⟨text, _, rfl⟩ := List.mem_map.mp harg
    exact (Value.IsData.str text).failsByExceptions
  parse p hm _ _ := (hp p hm).isException_of_parse
  fallback p hm fault hf := absurd hf ((hp p hm).fallback_ne_error fault)
  fallback_shown p hm value hf := (hd p hm value hf).failsByExceptions
  handler readings hc fault after hr := hw readings hc _ after (.fault hr) fault rfl
  work hmode readings hc form work between hr fault after hwork := by
    subst hmode
    rw [← fault.isException_ofWork form]
    exact hw readings hc _ after (.workFault hr hwork) _ rfl
  text readings hc reply after ho := hw readings hc (.ok reply) after ho

/-! ## A fallback for a list -/

namespace Stock

theorem isRejection_of_integer {text : String} {fault : Fault}
    (h : integer text = .error fault) : fault.kind.isRejection = true := by
  rw [integer] at h
  split at h
  split at h
  next =>
    split at h
    next => cases h
    next =>
      cases h
      rfl
  next =>
    cases h
    rfl

theorem isRejection_of_integers {text : String} {fault : Fault}
    (h : integers text = .error fault) : fault.kind.isRejection = true := by
  rw [integers] at h
  generalize text.toList.splitOn ',' = pieces at h
  induction pieces generalizing fault with
  | nil => cases h
  | cons piece pieces ih =>
    rw [List.mapM_cons] at h
    cases hp : integer (String.ofList piece) with
    | error reason =>
      rw [hp] at h
      cases h
      exact isRejection_of_integer hp
    | ok n =>
      rw [hp] at h
      cases hr : pieces.mapM fun piece => integer (String.ofList piece) with
      | error reason =>
        rw [hr] at ih h
        cases h
        exact ih rfl
      | ok ns =>
        rw [hr] at h
        cases h

end Stock

namespace Argument

theorem visible_numbers : Text.Visible "numbers" := by decide

/-- A parameter for integers between commas, with a fallback of its own. -/
def listParameter (fallback : Value) : Parameter :=
  ⟨⟨⟨"numbers", "list", "", true⟩, some ⟨"list", Stock.integers, .ok fallback⟩⟩, visible_numbers⟩

theorem forgiving_listParameter (fallback : Value) :
    (listParameter fallback).reader.Forgiving :=
  ⟨fun _ _ hf => Stock.isRejection_of_integers hf, fallback, rfl⟩

theorem rejects_listParameter (fallback : Value) :
    (listParameter fallback).reader.Rejects "1,two" := by
  intro value hv
  have hparse : ∃ fault, Stock.integers "1,two" = .error fault := ⟨_, rfl⟩
  obtain ⟨fault, hparse⟩ := hparse
  cases hparse.symm.trans hv

theorem readAll_defaults_list : (∀ p ∈ [listParameter (.list [])], p.reader.Forgiving) ∧
    ∃ event, readAll [listParameter (.list [])] [.str "1,two"] =
      ([event], .ok [⟨"1,two", .list [], true⟩]) := by
  have hp : ∀ p ∈ [listParameter (.list [])], p.reader.Forgiving :=
    List.forall_mem_singleton.mpr (forgiving_listParameter _)
  have hnotable : ∀ reason, ¬ (listParameter (.list [])).reader.Unnotable "1,two" reason := by
    rintro reason ⟨_, value, hv, hfail⟩
    cases hv
    cases hfail
  obtain ⟨hreturns, hreturned, _, _⟩ := readAll_defaults [listParameter (.list [])] ["1,two"] hp
  obtain ⟨arguments, ha⟩ := hreturns.mpr (List.forall_mem_singleton.mpr hnotable)
  obtain ⟨hmade, hnoted⟩ := hreturned arguments ha
  rw [List.map_singleton] at ha hnoted
  generalize readAll [listParameter (.list [])] [.str "1,two"] = result at ha hnoted ⊢
  obtain ⟨events, read⟩ := result
  obtain _ | ⟨hfirst, _ | _⟩ := hmade
  cases hfirst with
  | parsed hv => exact absurd hv (rejects_listParameter _ _)
  | replaced _ hv =>
    cases hv
    obtain _ | ⟨_, _ | _⟩ := hnoted
    exact ⟨hp, _, congrArg (Prod.mk _) ha⟩

/-- A fallback beyond the digit limit stands in for a rejected text, and still reading does not
return: the note of it cannot be written. -/
theorem readAll_unnotable : (listParameter Bench.leastOversized).reader.Forgiving ∧
    (listParameter Bench.leastOversized).reader.read (.str "1,two") =
      .ok ⟨"1,two", Bench.leastOversized, true⟩ ∧
    readAll [listParameter Bench.leastOversized] [.str "1,two"] = ([], .error .digitLimit) := by
  have hread : (listParameter Bench.leastOversized).reader.read (.str "1,two") =
      .ok ⟨"1,two", Bench.leastOversized, true⟩ := rfl
  have hshown : Bench.leastOversized.quoted = .error .digitLimit :=
    (Value.quoted_eq_error_iff (.int _)).mpr ⟨Bench.leastOversized_oversized, rfl⟩
  have hnote : (listParameter Bench.leastOversized).notices (.str "1,two")
      ⟨"1,two", Bench.leastOversized, true⟩ = .error .digitLimit :=
    Parameter.notices_eq_error_iff.mpr ⟨rfl, .inr ⟨_, rfl, hshown⟩⟩
  refine ⟨forgiving_listParameter _, hread, readAll_cons_of_error ?_⟩
  exact Parameter.read_eq_error_iff.mpr (.inr ⟨_, hread, hnote⟩)

end Argument

end Toolbench
