import LinkContract.Proofs.Text.Lines
import Mathlib.Data.List.TakeWhile

/-!
# Trimming

What trimming leaves is the one part of a text that has only blanks before and behind it and does
not itself begin or end with a blank.
-/
namespace LinkContract.Text

/-- The first character, if there is one, is not blank. -/
def BeginsSolid (text : List Char) : Prop := ∀ c, text.head? = some c → isBlank c = false

/-- The text is `core` with blanks around it, and all of them are around it. -/
structure Frames (text core : List Char) : Prop where
  framed : ∃ before after, text = before ++ core ++ after
    ∧ (∀ c ∈ before, isBlank c = true) ∧ ∀ c ∈ after, isBlank c = true
  begins : BeginsSolid core
  ends : EndsSolid core

/-! ### At the start -/

theorem exists_trimStart (text : List Char) :
    ∃ before, text = before ++ trimStart text ∧ ∀ c ∈ before, isBlank c = true :=
  ⟨text.takeWhile isBlank, List.takeWhile_append_dropWhile.symm,
    fun _ inside => List.mem_takeWhile_imp inside⟩

theorem beginsSolid_trimStart (text : List Char) : BeginsSolid (trimStart text) := by
  intro c first
  have kept := List.head?_dropWhile_not isBlank text
  rw [← trimStart, first] at kept
  exact kept

theorem trimStart_blanks_append (before text : List Char)
    (blank : ∀ c ∈ before, isBlank c = true) : trimStart (before ++ text) = trimStart text :=
  List.dropWhile_append_of_pos blank

/-! ### At the end -/

theorem exists_trimEnd (text : List Char) :
    ∃ after, text = trimEnd text ++ after ∧ ∀ c ∈ after, isBlank c = true := by
  induction text with
  | nil => exact ⟨[], rfl, List.forall_mem_nil _⟩
  | cons c rest ih =>
    obtain ⟨after, shape, blank⟩ := ih
    rw [trimEnd]
    split
    next empty =>
      rw [empty, List.nil_append] at shape
      subst shape
      split
      next space => exact ⟨c :: rest, rfl, List.forall_mem_cons.mpr ⟨space, blank⟩⟩
      next => exact ⟨rest, rfl, blank⟩
    next => exact ⟨after, by rw [List.cons_append, ← shape], blank⟩

theorem endsSolid_trimEnd (text : List Char) : EndsSolid (trimEnd text) := by
  induction text with
  | nil => intro c last; cases last
  | cons c rest ih =>
    rw [trimEnd]
    split
    next =>
      split
      next => intro d last; cases last
      next solid => exact endsSolid_singleton c (Bool.eq_false_iff.mpr solid)
    next occupied => exact endsSolid_append [c] _ occupied ih

theorem trimEnd_append_blanks (text after : List Char)
    (blank : ∀ c ∈ after, isBlank c = true) : trimEnd (text ++ after) = trimEnd text := by
  induction text with
  | nil => exact (trimEnd_eq_nil_iff after).mpr blank
  | cons c rest ih => simp only [List.cons_append, trimEnd, ih]

/-! ### At both ends -/

theorem frames_trim (text : List Char) : Frames text (trim text) := by
  obtain ⟨before, whole, blank⟩ := exists_trimStart text
  obtain ⟨after, inner, blank'⟩ := exists_trimEnd (trimStart text)
  refine ⟨⟨before, after, ?_, blank, blank'⟩, ?_, endsSolid_trimEnd _⟩
  · rw [List.append_assoc, trim, ← inner, ← whole]
  · -- what is cut off at the end leaves the first character, unless it takes all
    intro c first
    apply beginsSolid_trimStart text c
    rw [inner, List.head?_append, ← trim, first, Option.some_or]

theorem trim_eq_iff (text core : List Char) : trim text = core ↔ Frames text core := by
  constructor
  · rintro rfl
    exact frames_trim text
  · rintro ⟨⟨before, after, rfl, blank, blank'⟩, begins, ends⟩
    rw [trim, List.append_assoc, trimStart_blanks_append before _ blank]
    cases core with
    | nil =>
      have empty : trimStart after = [] := List.dropWhile_eq_nil_iff.mpr blank'
      rw [List.nil_append, empty, trimEnd]
    | cons c rest =>
      rw [List.cons_append, trimStart_cons c _ (begins c rfl), ← List.cons_append,
        trimEnd_append_blanks _ after blank', trimEnd_of_endsSolid _ ends]

end LinkContract.Text
