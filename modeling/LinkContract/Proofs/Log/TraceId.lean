import LinkContract.Log.Journal
import LinkContract.Log.Validation
import LinkContract.Proofs.Time.Padded

/-!
# Trace identifiers

An identifier joins a scope, a run and a number by double colons. The validator cuts from
left to right, so colons of the run may pair up with those of a separator. They move a cut
then, but the number of cuts is that of the double colons in the run and of the two
separators, provided that the scope has no colon.
-/
namespace LinkContract.Log

/-- Two colons in a row. -/
def mark : List Char := [':', ':']

theorem doubleColonParts_nil : doubleColonParts [] = [[]] := by rw [doubleColonParts]

theorem doubleColonParts_mark (rest : List Char) :
    doubleColonParts (':' :: ':' :: rest) = [] :: doubleColonParts rest := by
  rw [doubleColonParts]

theorem doubleColonParts_ne_nil (text : List Char) : doubleColonParts text ≠ [] := by
  fun_cases doubleColonParts text <;> simp_all

/-- A character that does not begin a separator joins the part behind it. -/
theorem doubleColonParts_cons (c : Char) (rest : List Char) (unmarked : ¬ mark <+: c :: rest) :
    ∃ part others, doubleColonParts rest = part :: others
      ∧ doubleColonParts (c :: rest) = (c :: part) :: others := by
  cases shape : doubleColonParts rest with
  | nil => exact absurd shape (doubleColonParts_ne_nil rest)
  | cons part others =>
    refine ⟨part, others, rfl, ?_⟩
    rw [doubleColonParts, shape]
    rintro more rfl rfl
    exact unmarked ⟨more, rfl⟩

theorem length_doubleColonParts_cons (c : Char) (rest : List Char)
    (unmarked : ¬ mark <+: c :: rest) :
    (doubleColonParts (c :: rest)).length = (doubleColonParts rest).length := by
  obtain ⟨part, others, before, after⟩ := doubleColonParts_cons c rest unmarked
  rw [before, after, List.length_cons, List.length_cons]

theorem not_mark_prefix_of_ne (c : Char) (rest : List Char) (other : c ≠ ':') :
    ¬ mark <+: c :: rest := by
  intro marked
  exact other (List.cons_prefix_cons.mp marked).1.symm

/-! ### Texts without colons -/

theorem doubleColonParts_of_clear (text : List Char) (clear : ':' ∉ text) :
    doubleColonParts text = [text] := by
  induction text with
  | nil => exact doubleColonParts_nil
  | cons c rest ih =>
    rw [List.mem_cons, not_or] at clear
    obtain ⟨part, others, before, after⟩ :=
      doubleColonParts_cons c rest (not_mark_prefix_of_ne c rest (Ne.symm clear.1))
    rw [ih clear.2, List.cons.injEq] at before
    rw [after, ← before.1, ← before.2]

theorem doubleColonParts_append_mark (scope rest : List Char) (clear : ':' ∉ scope) :
    doubleColonParts (scope ++ ':' :: ':' :: rest) = scope :: doubleColonParts rest := by
  induction scope with
  | nil => exact doubleColonParts_mark rest
  | cons c others ih =>
    rw [List.mem_cons, not_or] at clear
    obtain ⟨part, later, before, after⟩ :=
      doubleColonParts_cons c (others ++ ':' :: ':' :: rest)
        (not_mark_prefix_of_ne c _ (Ne.symm clear.1))
    rw [ih clear.2, List.cons.injEq] at before
    rw [List.cons_append, after, ← before.1, ← before.2]

/-! ### Counting parts -/

theorem length_doubleColonParts_eq_one_iff (text : List Char) :
    (doubleColonParts text).length = 1 ↔ ¬ mark <:+: text := by
  induction text with
  | nil => simp [doubleColonParts_nil, mark]
  | cons c rest ih =>
    by_cases marked : mark <+: c :: rest
    · obtain ⟨more, shape⟩ := marked
      -- a mark in front gives an empty part, and something is left behind it
      have occupied := List.length_pos_iff.mpr (doubleColonParts_ne_nil more)
      rw [← shape]
      constructor
      · intro single
        rw [mark, List.cons_append, List.singleton_append, doubleColonParts_mark] at single
        simp only [List.length_cons] at single
        omega
      · exact fun unmarked => absurd (List.infix_append' [] mark more) unmarked
    · rw [length_doubleColonParts_cons c rest marked, ih, List.infix_cons_iff, not_or]
      exact ⟨fun unmarked => ⟨marked, unmarked⟩, And.right⟩

/-- A separator behind a text adds one part, even where a colon at the end of the text
takes the first half of it. -/
theorem length_doubleColonParts_append_mark (text number : List Char) (clear : ':' ∉ number) :
    (doubleColonParts (text ++ ':' :: ':' :: number)).length
      = (doubleColonParts text).length + 1 := by
  -- the cases are those of the cutting, so that two colons are taken at once
  fun_induction doubleColonParts text with
  | case1 => simp [doubleColonParts_mark, doubleColonParts_of_clear number clear]
  | case2 rest ih =>
    rw [List.cons_append, List.cons_append, doubleColonParts_mark, List.length_cons, ih,
      List.length_cons]
  | case3 c rest unmarked empty ih => exact absurd empty (doubleColonParts_ne_nil rest)
  | case4 c rest unmarked part others shape ih =>
    rw [shape, List.length_cons] at ih
    rw [List.cons_append, List.length_cons]
    by_cases marked : mark <+: c :: (rest ++ ':' :: ':' :: number)
    · -- `c` is a colon at the end of the text
      obtain ⟨rfl, second⟩ := List.cons_prefix_cons.mp marked
      cases rest with
      | nil =>
        have last : ¬ mark <+: ':' :: number := by
          intro marked
          exact clear ((List.cons_prefix_cons.mp marked).2.subset List.mem_cons_self)
        rw [doubleColonParts_nil, List.cons.injEq] at shape
        rw [List.nil_append, doubleColonParts_mark, List.length_cons,
          length_doubleColonParts_cons ':' number last, doubleColonParts_of_clear number clear,
          ← shape.2, List.length_singleton, List.length_nil]
      | cons d more =>
        obtain ⟨rfl, _⟩ := List.cons_prefix_cons.mp second
        exact absurd rfl (unmarked more rfl)
    · rw [length_doubleColonParts_cons c _ marked, ih]

/-! ### Identifiers of a journal -/

theorem isTraceId_traceId_iff (journal : Journal) (number : Nat)
    (clear : ':' ∉ journal.scope.toList) :
    isTraceId (journal.traceId number) = true ↔ ¬ mark <:+: journal.runId.toList := by
  have digits : ':' ∉ Time.padded 3 number := by
    intro inside
    exact absurd (Time.isDigit_of_mem_padded 3 number ':' inside) (by decide)
  have text : (journal.traceId number).toList = journal.scope.toList ++ ':' :: ':' ::
      (journal.runId.toList ++ ':' :: ':' :: Time.padded 3 number) := by
    simp [Journal.traceId]
  have parts : (doubleColonParts (journal.traceId number).toList).length
      = (doubleColonParts journal.runId.toList).length + 2 := by
    rw [text, doubleColonParts_append_mark _ _ clear, List.length_cons,
      length_doubleColonParts_append_mark _ _ digits]
  rw [isTraceId, parts, decide_eq_true_iff, ← length_doubleColonParts_eq_one_iff]
  omega

end LinkContract.Log
