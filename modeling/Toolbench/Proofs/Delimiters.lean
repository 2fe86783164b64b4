/-! # Taking joined texts apart

A text that was put together from pieces gives the pieces back if something marks where one of
them ends: a character that is not in it (`append_cons_inj`), which in a list is the beginning of
the separator (`intercalate_inj`), or two fixed beginnings of which none continues the other
(`append_ne_append`). -/

namespace Toolbench.Text

/-- What stands before the first of some character is determined, and so is what stands after
it. -/
theorem append_cons_inj {mark : Char} {a b rest rest' : List Char} (ha : mark ∉ a) (hb : mark ∉ b)
    (h : a ++ mark :: rest = b ++ mark :: rest') : a = b ∧ rest = rest' := by
  induction a generalizing b with
  | nil =>
    cases b with
    | nil => exact ⟨rfl, (List.cons.inj h).2⟩
    | cons c b =>
      obtain ⟨rfl, _⟩ := List.cons.inj h
      exact absurd List.mem_cons_self hb
  | cons c a ih =>
    cases b with
    | nil =>
      obtain ⟨rfl, _⟩ := List.cons.inj h
      exact absurd List.mem_cons_self ha
    | cons d b =>
      obtain ⟨rfl, htail⟩ := List.cons.inj h
      obtain ⟨rfl, hrest⟩ :=
        ih (List.not_mem_of_not_mem_cons ha) (List.not_mem_of_not_mem_cons hb) htail
      exact ⟨rfl, hrest⟩

variable {mark : Char} {gap : List Char}

theorem mem_intercalate_cons_cons (a b : List Char) (pieces : List (List Char)) :
    mark ∈ (mark :: gap).intercalate (a :: b :: pieces) := by
  rw [List.intercalate_cons_cons]
  exact List.mem_append_left _ (List.mem_append_right _ List.mem_cons_self)

theorem intercalate_cons_inj {a b : List Char} {pieces pieces' : List (List Char)}
    (hp : ∀ piece ∈ a :: pieces, mark ∉ piece) (hp' : ∀ piece ∈ b :: pieces', mark ∉ piece)
    (h : (mark :: gap).intercalate (a :: pieces) = (mark :: gap).intercalate (b :: pieces')) :
    a :: pieces = b :: pieces' := by
  -- a list of one piece has no separator in its text, and a longer list has
  induction pieces generalizing a b pieces' with
  | nil =>
    cases pieces' with
    | nil => rwa [List.intercalate_singleton, List.intercalate_singleton, ← List.singleton_inj] at h
    | cons d pieces' =>
      rw [List.intercalate_singleton] at h
      exact absurd (h ▸ mem_intercalate_cons_cons b d pieces') (hp a List.mem_cons_self)
  | cons c pieces ih =>
    cases pieces' with
    | nil =>
      rw [List.intercalate_singleton] at h
      exact absurd (h ▸ mem_intercalate_cons_cons a c pieces) (hp' b List.mem_cons_self)
    | cons d pieces' =>
      simp only [List.intercalate_cons_cons, List.append_assoc, List.cons_append] at h
      obtain ⟨rfl, hrest⟩ :=
        append_cons_inj (hp a List.mem_cons_self) (hp' b List.mem_cons_self) h
      rw [ih (fun piece hm => hp piece (.tail _ hm)) (fun piece hm => hp' piece (.tail _ hm))
        (List.append_cancel_left hrest)]

theorem intercalate_cons_ne_nil {a : List Char} (h : a ≠ []) (pieces : List (List Char)) :
    (mark :: gap).intercalate (a :: pieces) ≠ [] := by
  cases pieces with
  | nil => rwa [List.intercalate_singleton]
  | cons c pieces => exact List.ne_nil_of_mem (mem_intercalate_cons_cons a c pieces)

/-- Only pieces that are not empty tell a list of one piece from a list of none. -/
theorem intercalate_inj {pieces pieces' : List (List Char)}
    (hp : ∀ piece ∈ pieces, piece ≠ [] ∧ mark ∉ piece)
    (hp' : ∀ piece ∈ pieces', piece ≠ [] ∧ mark ∉ piece)
    (h : (mark :: gap).intercalate pieces = (mark :: gap).intercalate pieces') :
    pieces = pieces' := by
  cases pieces with
  | nil =>
    cases pieces' with
    | nil => rfl
    | cons b pieces' =>
      exact absurd h.symm (intercalate_cons_ne_nil (hp' b List.mem_cons_self).1 pieces')
  | cons a pieces =>
    cases pieces' with
    | nil => exact absurd h (intercalate_cons_ne_nil (hp a List.mem_cons_self).1 pieces)
    | cons b pieces' =>
      exact intercalate_cons_inj (fun piece hm => (hp piece hm).2)
        (fun piece hm => (hp' piece hm).2) h

/-- A character that is in no piece and not in the separator is not in the joined text. -/
theorem notMem_intercalate {c : Char} {separator : List Char} (hs : c ∉ separator)
    {pieces : List (List Char)} (hp : ∀ piece ∈ pieces, c ∉ piece) :
    c ∉ separator.intercalate pieces := by
  induction pieces with
  | nil => exact List.not_mem_nil
  | cons a pieces ih =>
    have ih := ih fun piece hm => hp piece (.tail _ hm)
    have ha := hp a List.mem_cons_self
    cases pieces with
    | nil => rwa [List.intercalate_singleton]
    | cons b pieces =>
      simp only [List.intercalate_cons_cons, List.mem_append, not_or]
      exact ⟨⟨ha, hs⟩, ih⟩

/-- Texts with beginnings of which none continues the other are different. -/
theorem append_ne_append {a b : String} (hab : ¬ a.toList <+: b.toList)
    (hba : ¬ b.toList <+: a.toList) (rest rest' : String) : a ++ rest ≠ b ++ rest' := by
  intro h
  have ha : a.toList <+: (a ++ rest).toList := ⟨rest.toList, String.toList_append.symm⟩
  have hb : b.toList <+: (a ++ rest).toList := ⟨rest'.toList, by rw [h, String.toList_append]⟩
  exact (List.prefix_or_prefix_of_prefix ha hb).elim hab hba

end Toolbench.Text
