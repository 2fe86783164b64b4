import Toolbench.Proofs.Fallbacks
import Toolbench.Proofs.Sequence

/-! # What quoted texts tell

Every character of a text has a written form in the quotation of the text (`Form`), and the forms
can be read back one by one. None of them begins with the delimiter, so the quotation ends where it
is met, and tells the text (`quoted_append_inj`). All characters of a quotation are printable.
Therefore the warning that a fallback was used tells the text that it took the place of, and no text
can put a line of its own into the log (`Parameter.warnings_faithful`). -/

namespace Toolbench

namespace Text

/-! ## Hexadecimal codes -/

/-- The number that a hexadecimal digit stands for. -/
def hexadecimalValue (c : Char) : Nat :=
  if c.toNat < 'a'.toNat then c.toNat - '0'.toNat else c.toNat - 'a'.toNat + 10

/-- The number that hexadecimal digits write, the highest first. -/
def ofHexadecimal (digits : List Char) : Nat :=
  digits.foldl (fun n c => 16 * n + hexadecimalValue c) 0

theorem hexadecimalValue_digitChar : ∀ d < 16, hexadecimalValue (Nat.digitChar d) = d := by
  decide

theorem isPrintable_digitChar : ∀ d < 16, isPrintable (Nat.digitChar d) = true := by
  decide

theorem ofHexadecimal_hexadecimal {width n : Nat} (h : n < 16 ^ width) :
    ofHexadecimal (hexadecimal width n) = n := by
  induction width generalizing n with
  | zero =>
    obtain rfl : n = 0 := Nat.lt_one_iff.mp h
    rfl
  | succ width ih =>
    have hhigh : n / 16 < 16 ^ width := Nat.div_lt_of_lt_mul (Nat.pow_succ' ▸ h)
    have hlow : n % 16 < 16 := Nat.mod_lt n (by decide)
    have happend : ofHexadecimal (hexadecimal width (n / 16) ++ [Nat.digitChar (n % 16)]) =
        16 * ofHexadecimal (hexadecimal width (n / 16)) +
          hexadecimalValue (Nat.digitChar (n % 16)) := by
      rw [ofHexadecimal, List.foldl_append]
      rfl
    rw [hexadecimal, happend, ih hhigh, hexadecimalValue_digitChar _ hlow, Nat.div_add_mod]

theorem isPrintable_hexadecimal {width n : Nat} :
    ∀ c ∈ hexadecimal width n, isPrintable c = true := by
  induction width generalizing n with
  | zero => exact fun _ hc => absurd hc List.not_mem_nil
  | succ width ih =>
    intro c hc
    rw [hexadecimal, List.mem_append, List.mem_singleton] at hc
    rcases hc with hc | rfl
    · exact ih c hc
    · exact isPrintable_digitChar _ (Nat.mod_lt n (by decide))

/-! ## Characters in their written forms -/

/-- The character whose code is written by the next digits, and what comes after them. -/
def coded (width : Nat) (rest : List Char) : Char × List Char :=
  (.ofNat (ofHexadecimal (rest.take width)), rest.drop width)

/-- The character that a mark behind a backslash stands for, and what comes after it. -/
def marked (mark : Char) (rest : List Char) : Char × List Char :=
  if mark = 't' then ('\t', rest)
  else if mark = 'n' then ('\n', rest)
  else if mark = 'r' then ('\r', rest)
  else if mark = 'x' then coded 2 rest
  else if mark = 'u' then coded 4 rest
  else if mark = 'U' then coded 8 rest
  else (mark, rest)

/-- The first character of a text that stands in a quotation, and what comes after it. -/
def leading? : List Char → Option (Char × List Char)
  | [] => none
  | c :: rest =>
    if c = '\x5c' then rest.head?.map fun mark => marked mark rest.tail else some (c, rest)

theorem coded_hexadecimal {width : Nat} {c : Char} (h : c.toNat < 16 ^ width)
    (rest : List Char) : coded width (hexadecimal width c.toNat ++ rest) = (c, rest) := by
  rw [coded, List.take_left' (length_hexadecimal _ _), List.drop_left' (length_hexadecimal _ _),
    ofHexadecimal_hexadecimal h, Char.ofNat_toNat]

/-- A character that may stand at both ends of a quotation. -/
def IsDelimiter (c : Char) : Prop := c = '\x27' ∨ c = '\x22'

theorem isDelimiter_delimiter (text : List Char) : IsDelimiter (delimiter text) := by
  rw [delimiter]
  split
  · exact .inr rfl
  · exact .inl rfl

theorem IsDelimiter.isPrintable {d : Char} (h : IsDelimiter d) : isPrintable d = true := by
  rcases h with rfl | rfl <;> rfl

theorem IsDelimiter.ne_backslash {d : Char} (h : IsDelimiter d) : d ≠ '\x5c' := by
  rcases h with rfl | rfl <;> decide

/-- A delimiter is none of the marks with a meaning of their own. -/
theorem IsDelimiter.marked {d : Char} (h : IsDelimiter d) (rest : List Char) :
    marked d rest = (d, rest) := by
  rcases h with rfl | rfl <;> rfl

/-- The written form of a character between delimiters: the character itself, or a mark behind a
backslash, and a code if the mark asks for one. -/
inductive Form (d c : Char) : List Char → Prop
  | plain : c ≠ d → c ≠ '\x5c' → isPrintable c = true → Form d c [c]
  | marked {mark : Char} {code : List Char} : isPrintable mark = true →
      (∀ e ∈ code, isPrintable e = true) → (∀ rest, marked mark (code ++ rest) = (c, rest)) →
      Form d c ('\x5c' :: mark :: code)

variable {d : Char}

theorem form_escaped (h : IsDelimiter d) (c : Char) : Form d c (escaped d c) := by
  have hnil : ∀ e ∈ ([] : List Char), isPrintable e = true := fun _ hm =>
    absurd hm List.not_mem_nil
  -- the cases are the tests of `escaped`, in their order
  rw [escaped]
  split
  next hc =>
    rcases hc with rfl | rfl
    · exact .marked h.isPrintable hnil h.marked
    · exact .marked rfl hnil fun _ => rfl
  next hc =>
    split
    next ht => exact .marked rfl hnil fun _ => ht ▸ rfl
    split
    next hn => exact .marked rfl hnil fun _ => hn ▸ rfl
    split
    next hr => exact .marked rfl hnil fun _ => hr ▸ rfl
    split
    next hp => exact .plain (fun he => hc (.inl he)) (fun he => hc (.inr he)) hp
    split
    next hx => exact .marked rfl isPrintable_hexadecimal (coded_hexadecimal hx)
    split
    next hu => exact .marked rfl isPrintable_hexadecimal (coded_hexadecimal hu)
    next => exact .marked rfl isPrintable_hexadecimal (coded_hexadecimal c.val.toNat_lt)

namespace Form

variable {c : Char} {form : List Char}

/-- The written form of a character tells the character. -/
theorem leading?_append (h : Form d c form) (rest : List Char) :
    leading? (form ++ rest) = some (c, rest) := by
  cases h with
  | plain _ hback _ => exact if_neg hback
  | marked _ _ hmarked => exact congrArg some (hmarked rest)

/-- No written form begins with the delimiter. -/
theorem append_ne (h : Form d c form) (hd : IsDelimiter d) (rest after : List Char) :
    form ++ rest ≠ d :: after := by
  intro he
  cases h with
  | plain hne _ _ => exact hne (List.cons.inj he).1
  | marked _ _ _ => exact hd.ne_backslash (List.cons.inj he).1.symm

theorem isPrintable (h : Form d c form) : ∀ e ∈ form, isPrintable e = true := by
  cases h with
  | plain _ _ hp => exact List.forall_mem_singleton.mpr hp
  | marked hmark hcode _ =>
    exact List.forall_mem_cons.mpr ⟨rfl, List.forall_mem_cons.mpr ⟨hmark, hcode⟩⟩

end Form

/-! ## Quotations -/

/-- A text written up to the delimiter is determined. -/
theorem flatMap_escaped_inj (h : IsDelimiter d) {a b rest rest' : List Char}
    (he : a.flatMap (escaped d) ++ d :: rest = b.flatMap (escaped d) ++ d :: rest') :
    a = b ∧ rest = rest' := by
  induction a generalizing b with
  | nil =>
    cases b with
    | nil => exact ⟨rfl, (List.cons.inj he).2⟩
    | cons c b =>
      rw [List.flatMap_cons, List.append_assoc] at he
      exact absurd he.symm ((form_escaped h c).append_ne h _ _)
  | cons c a ih =>
    rw [List.flatMap_cons, List.append_assoc] at he
    cases b with
    | nil => exact absurd he ((form_escaped h c).append_ne h _ _)
    | cons c' b =>
      rw [List.flatMap_cons, List.append_assoc] at he
      have hleading := congrArg leading? he
      rw [(form_escaped h c).leading?_append, (form_escaped h c').leading?_append] at hleading
      obtain ⟨rfl, htail⟩ := Prod.mk.inj (Option.some.inj hleading)
      obtain ⟨rfl, hrest⟩ := ih htail
      exact ⟨rfl, hrest⟩

/-- A quotation tells the text, and where it ends. -/
theorem quoted_append_inj {a b rest rest' : List Char} (h : quoted a ++ rest = quoted b ++ rest') :
    a = b ∧ rest = rest' := by
  simp only [quoted, List.cons_append, List.append_assoc, List.nil_append] at h
  obtain ⟨hdelimiter, hbody⟩ := List.cons.inj h
  rw [← hdelimiter] at hbody
  exact flatMap_escaped_inj (isDelimiter_delimiter a) hbody

theorem isPrintable_quoted (text : List Char) : ∀ c ∈ quoted text, isPrintable c = true := by
  have hd := isDelimiter_delimiter text
  intro c hc
  rw [quoted, List.mem_append, List.mem_cons, List.mem_flatMap, List.mem_singleton] at hc
  rcases hc with (rfl | ⟨e, _, hc⟩) | rfl
  · exact hd.isPrintable
  · exact (form_escaped hd e).isPrintable c hc
  · exact hd.isPrintable

/-- All characters of a text are printable. -/
def Printable (text : String) : Prop :=
  text.toList.all isPrintable = true

instance (text : String) : Decidable (Printable text) :=
  inferInstanceAs (Decidable (_ = true))

theorem printable_iff {text : String} :
    Printable text ↔ ∀ c ∈ text.toList, isPrintable c = true :=
  List.all_eq_true

theorem Printable.append {a b : String} (ha : Printable a) (hb : Printable b) :
    Printable (a ++ b) := by
  rw [Printable, String.toList_append, List.all_append, ha, hb, Bool.and_self]

theorem printable_quoted (text : List Char) : Printable (String.ofList (quoted text)) := by
  rw [printable_iff, String.toList_ofList]
  exact isPrintable_quoted text

end Text

/-! ## Warnings -/

/-- The event that a text was replaced by the fallback that is shown. -/
def Parameter.warning (p : Parameter) (text fallback : String) : Event :=
  .defaulted p.name p.label (String.ofList (Text.quoted text.toList)) fallback

namespace Parameter

variable {p : Parameter}

theorem message_warning (p : Parameter) (text fallback : String) :
    (p.warning text fallback).message = "Argument '" ++ p.name ++ "' could not be parsed as " ++
      p.label ++ " (got " ++ String.ofList (Text.quoted text.toList) ++ "); using default " ++
      fallback := rfl

/-- A warning tells the text. -/
theorem warning_inj {a b fallback fallback' : String}
    (h : (p.warning a fallback).message = (p.warning b fallback').message) : a = b := by
  rw [← String.toList_inj, message_warning, message_warning] at h
  simp only [String.toList_append, String.toList_ofList,
    List.append_assoc, List.append_cancel_left_eq] at h
  exact String.toList_inj.mp (Text.quoted_append_inj h).1

theorem printable_warning {text fallback : String} (hname : Text.Printable p.name)
    (hlabel : Text.Printable p.label) (hfallback : Text.Printable fallback) :
    Text.Printable (p.warning text fallback).message := by
  have hopening : Text.Printable "Argument '" := by decide
  have hlabelled : Text.Printable "' could not be parsed as " := by decide
  have hraw : Text.Printable " (got " := by decide
  have hclosing : Text.Printable "); using default " := by decide
  rw [message_warning]
  exact ((((((hopening.append hname).append hlabelled).append hlabel).append hraw).append
    (Text.printable_quoted _)).append hclosing).append hfallback

end Parameter

/-- The zeros are shown in printable characters. -/
theorem Standard.printable_of_quoted_zero {kind : Standard} {shown : String}
    (h : kind.zero.quoted = .ok shown) : Text.Printable shown := by
  cases kind with
  | string | boolean =>
    cases h
    decide
  | integer =>
    have hsmall : (0 : Int).natAbs < Value.magnitudeBound := Value.magnitudeBound_pos
    rw [zero, Value.quoted, Value.integerText, if_pos hsmall] at h
    cases h
    decide
  | number =>
    have hwritten : Standard.number.zero.quoted =
        .ok (String.ofList (Value.layout.write (.zero false))) := rfl
    obtain rfl : String.ofList (Value.layout.write (.zero false)) = shown :=
      Except.ok.inj (hwritten.symm.trans h)
    decide +kernel

namespace Parameter

variable {p : Parameter}

/-- What reading a text for a parameter leaves in the log: nothing, or the warning that the text was
replaced. -/
theorem exists_read_cases (hown : p.ownReader = none) (text : String) :
    ∃ argument noted, p.read (.str text) = .ok (argument, noted) ∧
      (p.replaces (.str text) = false ∧ noted = [] ∨
        p.replaces (.str text) = true ∧ ∃ fallback, Text.Printable fallback ∧
          noted = [p.warning text fallback]) := by
  obtain ⟨kind, hkind⟩ := Reader.exists_reader_eq p.label
  have hr : p.reader = kind.reader := (reader_eq hown).trans hkind
  cases hv : kind.value? text with
  | some value =>
    have hread := read_of_value? hr hv
    exact ⟨_, [], hread, .inl ⟨replaces_of_read hread, rfl⟩⟩
  | none =>
    obtain ⟨noted, hread⟩ := read_of_rejected hr hv
    refine ⟨_, noted, hread, .inr ⟨replaces_of_read hread, ?_⟩⟩
    rcases notices_eq_ok_iff.mp (read_eq_ok_iff.mp hread).2 with
      ⟨hkept, _⟩ | ⟨_, _, fallback, hs, hf, he⟩
    · cases hkept
    · cases hs
      exact ⟨fallback, Standard.printable_of_quoted_zero hf, he⟩

/-- The messages that a text leaves in the log when it is read for a parameter. -/
def warnings (p : Parameter) (text : String) : List String :=
  (Argument.readAll [p] [.str text]).1.map Event.message

theorem warnings_of_read {text : String} {argument : Argument} {noted : List Event}
    (h : p.read (.str text) = .ok (argument, noted)) :
    p.warnings text = noted.map Event.message := by
  rw [warnings, Argument.readAll_cons_of_ok h]
  exact congrArg (List.map Event.message) (List.append_nil noted)

end Parameter

/-- No text can put an unprintable character into the log. -/
theorem Argument.readAll_printable {parameters : List Parameter}
    (h : ∀ p ∈ parameters, p.ownReader = none ∧ Text.Printable p.name ∧ Text.Printable p.label)
    (texts : List String) :
    ∀ event ∈ (readAll parameters (texts.map .str)).1, Text.Printable event.message := by
  induction parameters generalizing texts with
  | nil => exact fun _ hm => absurd hm List.not_mem_nil
  | cons p parameters ih =>
    cases texts with
    | nil => exact fun _ hm => absurd hm List.not_mem_nil
    | cons text texts =>
      obtain ⟨⟨hown, hname, hlabel⟩, hrest⟩ := List.forall_mem_cons.mp h
      obtain ⟨argument, noted, hread, hcases⟩ := Parameter.exists_read_cases hown text
      rw [List.map_cons, readAll_cons_of_ok hread]
      intro event hm
      rcases List.mem_append.mp hm with hm | hm
      · rcases hcases with ⟨_, rfl⟩ | ⟨_, fallback, hfallback, rfl⟩
        · cases hm
        · rw [List.mem_singleton.mp hm]
          exact Parameter.printable_warning hname hlabel hfallback
      · exact ih hrest texts event hm

/-- What the log tells of the texts that the fallback of a parameter takes the place of. -/
structure Parameter.TellsTexts (p : Parameter) : Prop where
  /-- A replaced text leaves one message, with the text in its quoted form. -/
  warned : ∀ text, p.replaces (.str text) = true → ∃ fallback,
    p.warnings text = ["Argument '" ++ p.name ++ "' could not be parsed as " ++ p.label ++
      " (got " ++ String.ofList (Text.quoted text.toList) ++ "); using default " ++ fallback]
  silent : ∀ text, p.replaces (.str text) = false → p.warnings text = []
  /-- The message tells the text. -/
  told : ∀ a b, p.replaces (.str a) = true → p.replaces (.str b) = true →
    p.warnings a = p.warnings b → a = b
  /-- It is printable if the name and the label of the parameter are. -/
  printable : Text.Printable p.name → Text.Printable p.label →
    ∀ text, ∀ message ∈ p.warnings text, ∀ c ∈ message.toList, Text.isPrintable c = true

/-- **Warnings of fallbacks.** They quote the replaced text, so that it can be told from any other,
and cannot be forged by it. -/
theorem Parameter.warnings_faithful {p : Parameter} (hown : p.ownReader = none) :
    p.TellsTexts := by
  have hcases (text : String) : p.replaces (.str text) = false ∧ p.warnings text = [] ∨
      p.replaces (.str text) = true ∧ ∃ fallback,
        p.warnings text = [(p.warning text fallback).message] := by
    obtain ⟨argument, noted, hread, hnoted⟩ := exists_read_cases hown text
    rw [warnings_of_read hread]
    rcases hnoted with ⟨hkept, rfl⟩ | ⟨hreplaced, fallback, _, rfl⟩
    · exact .inl ⟨hkept, rfl⟩
    · exact .inr ⟨hreplaced, fallback, rfl⟩
  have hwarned (text : String) (h : p.replaces (.str text) = true) :
      ∃ fallback, p.warnings text = [(p.warning text fallback).message] :=
    (hcases text).elim (fun hkept => absurd (h.symm.trans hkept.1) (by decide)) (·.2)
  refine
    { warned := hwarned
      silent := fun text h => ?silent
      told := fun a b ha hb he => ?told
      printable := fun hname hlabel text message hm => ?printable }
  case silent =>
    exact (hcases text).elim (·.2) fun hreplaced => absurd (h.symm.trans hreplaced.1) (by decide)
  case told =>
    obtain ⟨fallback, hwa⟩ := hwarned a ha
    obtain ⟨fallback', hwb⟩ := hwarned b hb
    rw [hwa, hwb] at he
    exact warning_inj (List.singleton_inj.mp he)
  case printable =>
    obtain ⟨event, hevent, rfl⟩ := List.mem_map.mp hm
    exact Text.printable_iff.mp (Argument.readAll_printable
      (List.forall_mem_singleton.mpr ⟨hown, hname, hlabel⟩) [text] event hevent)

theorem visible_count : Text.Visible "count" := by decide

theorem replaces_count {text : String} (h : Standard.integer.value? text = none) :
    (Bench.integerParameter "count" visible_count).replaces (.str text) = true := by
  obtain ⟨noted, hread⟩ :=
    Parameter.read_of_rejected (Bench.reader_integerParameter "count" visible_count) h
  exact Parameter.replaces_of_read hread

/-- A line feed and a backslash before an `n` are told apart, and neither ends the line. -/
theorem warnings_faithful_count :
    (Bench.integerParameter "count" visible_count).ownReader = none ∧
    (Bench.integerParameter "count" visible_count).warnings "lots\n" ≠
      (Bench.integerParameter "count" visible_count).warnings "lots\\n" ∧
    ∀ message ∈ (Bench.integerParameter "count" visible_count).warnings "lots\n",
      '\n' ∉ message.toList := by
  have hown : (Bench.integerParameter "count" visible_count).ownReader = none := rfl
  have htells := Parameter.warnings_faithful hown
  refine ⟨hown, fun he => ?_, fun message hm hc => ?_⟩
  · exact absurd (htells.told _ _ (replaces_count rfl) (replaces_count rfl) he) (by decide)
  · have hname : Text.Printable (Bench.integerParameter "count" visible_count).name := by decide
    have hlabel : Text.Printable (Bench.integerParameter "count" visible_count).label := by decide
    exact absurd (htells.printable hname hlabel _ message hm _ hc) (by decide)

end Toolbench
