import Toolbench.Proofs.Call
import Toolbench.Proofs.Delimiters
import Toolbench.Proofs.ReadBack

/-! # Recognising an outcome by its text

After the preamble, the text of an observation goes on with an opening that the tool and the
outcome determine, and none of the four openings continues another (`eq_of_opening_append`). So a
text is the text of one outcome only, whatever stands in the name of the tool, in a reply or in a
fault. What comes after the opening gives back the counts of a wrong number of arguments and the
error of a failure. -/

namespace Toolbench

namespace Outcome

/-- How the text of an observation begins after the preamble. -/
def opening (tool : String) : Outcome → String
  | .success => "the tool '" ++ tool ++ "' returned: "
  | .unknownTool => "Error. No tool named '" ++ tool ++ "' found in the tools registry."
  | .wrongArity => "Error using tool named '" ++ tool ++ "'. The tool '" ++ tool ++ "' expects "
  | .failure => "Error using tool named '" ++ tool ++ "'. The tool '" ++ tool ++ "' failed: "

section
variable (tool : String)

@[simp] theorem opening_success :
    opening tool .success = "the tool '" ++ tool ++ "' returned: " := rfl

@[simp] theorem opening_unknownTool :
    opening tool .unknownTool =
      "Error. No tool named '" ++ tool ++ "' found in the tools registry." := rfl

@[simp] theorem opening_wrongArity :
    opening tool .wrongArity =
      "Error using tool named '" ++ tool ++ "'. The tool '" ++ tool ++ "' expects " := rfl

@[simp] theorem opening_failure :
    opening tool .failure =
      "Error using tool named '" ++ tool ++ "'. The tool '" ++ tool ++ "' failed: " := rfl

end

/-- How an opening begins, before the name of the tool. -/
def head : Outcome → String
  | .success => "the tool '"
  | .unknownTool => "Error. No tool named '"
  | .wrongArity | .failure => "Error using tool named '"

theorem exists_opening_eq (tool : String) (outcome : Outcome) :
    ∃ rest, outcome.opening tool = outcome.head ++ rest := by
  cases outcome with
  | success => exact ⟨_, by rw [opening_success, String.append_assoc]; rfl⟩
  | unknownTool => exact ⟨_, by rw [opening_unknownTool, String.append_assoc]; rfl⟩
  | wrongArity => exact ⟨_, by simp only [opening_wrongArity, String.append_assoc]; rfl⟩
  | failure => exact ⟨_, by simp only [opening_failure, String.append_assoc]; rfl⟩

theorem head_eq_of_continues {outcome other : Outcome}
    (h : outcome.head.toList <+: other.head.toList) : outcome.head = other.head := by
  revert h
  cases outcome <;> cases other <;> decide

variable {tool : String} {outcome other : Outcome} {rest rest' : String}

theorem head_eq_of_append (h : outcome.head ++ rest = other.head ++ rest') :
    outcome.head = other.head := by
  by_contra hne
  exact Text.append_ne_append (fun hp => hne (head_eq_of_continues hp))
    (fun hp => hne (head_eq_of_continues hp).symm) rest rest' h

/-- The two openings with one beginning differ in their last word. -/
theorem opening_wrongArity_append_ne :
    opening tool .wrongArity ++ rest ≠ opening tool .failure ++ rest' := by
  simp only [opening_wrongArity, opening_failure, String.append_assoc, ne_eq,
    String.append_right_inj]
  exact Text.append_ne_append (by decide) (by decide) _ _

/-- No opening is the beginning of another one. -/
theorem eq_of_opening_append (h : outcome.opening tool ++ rest = other.opening tool ++ rest') :
    outcome = other := by
  obtain ⟨tail, ht⟩ := exists_opening_eq tool outcome
  obtain ⟨tail', ht'⟩ := exists_opening_eq tool other
  have hhead : outcome.head = other.head := by
    rw [ht, ht', String.append_assoc, String.append_assoc] at h
    exact head_eq_of_append h
  cases outcome <;> cases other
  case success.success | unknownTool.unknownTool | wrongArity.wrongArity | failure.failure => rfl
  case wrongArity.failure => exact absurd h opening_wrongArity_append_ne
  case failure.wrongArity => exact absurd h.symm opening_wrongArity_append_ne
  all_goals exact absurd hhead (by decide)

end Outcome

/-- What a call has to report. -/
inductive Finding where
  | unknownTool
  | wrongArity (expected given : Int)
  | success (reply : Reply) (fallbacks : List String)
  | failure (fault : Fault) (fallbacks : List String)

namespace Finding

/-- The observation of a finding. There is none if what is to be shown has no text. -/
def report (settings : Settings) (tool : String) : Finding → Except Fault Observation
  | unknownTool => .ok (Observation.unknownTool settings tool)
  | wrongArity expected given => Observation.ofCounts settings tool expected given
  | success reply fallbacks => Observation.success settings tool reply fallbacks
  | failure fault fallbacks => Observation.failure settings tool fault fallbacks

def outcome : Finding → Outcome
  | unknownTool => .unknownTool
  | wrongArity .. => .wrongArity
  | success .. => .success
  | failure .. => .failure

/-- The numbers of arguments that are expected and given. -/
def counts? : Finding → Option (Int × Int)
  | wrongArity expected given => some (expected, given)
  | unknownTool | success .. | failure .. => none

/-! ## Counts -/

/-- How a text goes on that announced two counts. -/
def countsText (counts : Int × Int) : String :=
  toString counts.1 ++ (" arguments, but " ++ (toString counts.2 ++ " were given."))

theorem space_notMem_toString (n : Int) : ' ' ∉ (toString n).toList := fun h =>
  absurd (Numeral.not_isBlank_toString ' ' h) (by decide)

/-- A count ends at the space after it. -/
theorem countsText_inj {counts counts' : Int × Int} (h : countsText counts = countsText counts') :
    counts = counts' := by
  have hlist := congrArg String.toList h
  simp only [countsText, String.toList_append] at hlist
  obtain ⟨hexpected, hlist⟩ :=
    Text.append_cons_inj (space_notMem_toString _) (space_notMem_toString _) hlist
  obtain ⟨hgiven, _⟩ :=
    Text.append_cons_inj (space_notMem_toString _) (space_notMem_toString _)
      (@List.append_cancel_left _ "arguments, but ".toList _ _ hlist)
  exact Prod.ext (Numeral.toString_inj (String.toList_inj.mp hexpected))
    (Numeral.toString_inj (String.toList_inj.mp hgiven))

theorem ofCounts_eq_ok {settings : Settings} {tool : String} {expected given : Int}
    {o : Observation} (h : Observation.ofCounts settings tool expected given = .ok o) :
    o = Observation.wrongArity settings tool expected given := by
  rw [Observation.ofCounts] at h
  cases he : (Value.int expected).text with
  | error fault =>
    rw [he] at h
    cases h
  | ok =>
    cases hg : (Value.int given).text with
    | error fault =>
      rw [he, hg] at h
      cases h
    | ok =>
      rw [he, hg] at h
      exact (Except.ok.inj h).symm

/-! ## What comes after the opening -/

/-- The text after the opening, when there is an observation: it shows the counts, or it is the
error. -/
structure Tells (settings : Settings) (tool : String) (finding : Finding) (o : Observation)
    (rest : String) : Prop where
  outcome : o.outcome = finding.outcome
  text : o.text = settings.preamble ++ (finding.outcome.opening tool ++ rest)
  counts : ∀ counts, finding.counts? = some counts → rest = countsText counts
  error : o.error = if finding.outcome = .failure then some rest else none

variable {settings settings' : Settings} {tool : String} {finding other : Finding}
  {o o' : Observation}

theorem exists_tells (h : finding.report settings tool = .ok o) :
    ∃ rest, Tells settings tool finding o rest := by
  cases finding with
  | unknownTool =>
    obtain rfl := Except.ok.inj h
    refine ⟨"", rfl, ?_, nofun, rfl⟩
    simp only [Observation.unknownTool, outcome, Outcome.opening_unknownTool, String.append_assoc,
      String.append_empty]
  | wrongArity expected given =>
    obtain rfl := ofCounts_eq_ok h
    refine ⟨countsText (expected, given), rfl, ?_, fun _ hc => Option.some.inj hc ▸ rfl, rfl⟩
    simp only [Observation.wrongArity, outcome, Outcome.opening_wrongArity, countsText,
      String.append_assoc]
  | success reply fallbacks =>
    obtain ⟨text, _, rfl⟩ := Observation.success_eq_ok_iff.mp h
    refine ⟨text ++ Observation.warning settings fallbacks, rfl, ?_, nofun, rfl⟩
    simp only [outcome, Outcome.opening_success, String.append_assoc]
  | failure fault fallbacks =>
    obtain ⟨text, _, rfl⟩ := Observation.failure_eq_ok_iff.mp h
    refine ⟨fault.kind.name ++ ": " ++ text, rfl, ?_, nofun, rfl⟩
    simp only [outcome, Outcome.opening_failure, String.append_assoc]

/-- What two observations have in common that have the same text. -/
structure Agree (finding other : Finding) (o o' : Observation) : Prop where
  outcome : o.outcome = o'.outcome
  counts : ∀ {expected given expected' given' : Int}, finding = .wrongArity expected given →
    other = .wrongArity expected' given' → expected = expected' ∧ given = given'
  error : o.error = o'.error

/-- Observations made under one preamble for one tool, if they have the same text, have the same
outcome, the same counts and the same error. -/
theorem agree_of_text_eq (hs : settings.preamble = settings'.preamble)
    (h : finding.report settings tool = .ok o) (h' : other.report settings' tool = .ok o')
    (ht : o.text = o'.text) : Agree finding other o o' := by
  obtain ⟨rest, hr⟩ := exists_tells h
  obtain ⟨rest', hr'⟩ := exists_tells h'
  rw [hr.text, hr'.text, hs, String.append_right_inj] at ht
  -- the rests are compared once the openings are known to be the same
  have houtcome : finding.outcome = other.outcome := Outcome.eq_of_opening_append ht
  have hrest : rest = rest' := by
    rw [houtcome, String.append_right_inj] at ht
    exact ht
  constructor
  case outcome => rw [hr.outcome, hr'.outcome, houtcome]
  case counts =>
    rintro expected given expected' given' rfl rfl
    have hcounts : countsText (expected, given) = countsText (expected', given') := by
      rw [← hr.counts _ rfl, ← hr'.counts _ rfl, hrest]
    exact Prod.mk.inj (countsText_inj hcounts)
  case error => rw [hr.error, hr'.error, houtcome, hrest]

/-- A reply that spells out the warning of another finding, with no warning of its own. -/
def spelledOut : Finding :=
  .success (.data (.str "True (warning: could not parse arguments x; default values were used)")) []

def warned : Finding :=
  .success (.data (.bool true)) ["x"]

theorem agree_of_text_eq_warned : ∃ o o', spelledOut.report {} "' failed: " = .ok o ∧
    warned.report {} "' failed: " = .ok o' ∧ o.text = o'.text ∧ Agree spelledOut warned o o' := by
  have htext : "Observation: " ++ "the tool '" ++ "' failed: " ++ "' returned: " ++
      "True (warning: could not parse arguments x; default values were used)" ++
        Observation.warning {} [] =
      "Observation: " ++ "the tool '" ++ "' failed: " ++ "' returned: " ++ "True" ++
        Observation.warning {} ["x"] := by decide
  exact ⟨_, _, rfl, rfl, htext, agree_of_text_eq rfl rfl rfl htext⟩

end Finding

end Toolbench
