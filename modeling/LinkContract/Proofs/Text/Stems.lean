import LinkContract.Text.Basic

/-!
# Stems in front of a text

A stem may stand in front of a text any number of times. Stripping takes off all of its copies and
leaves a rest that does not begin with it, so the number of copies can be told from the text. The
same holds of several stems, each with its copies, one after the other: as long as no text begins
with two of them, no stem eats into what follows its own copies.
-/
namespace LinkContract.Text

/-- A stem as often as the count says. -/
def copies (count : Nat) (stem : List Char) : List Char := (List.replicate count stem).flatten

theorem copies_zero (stem : List Char) : copies 0 stem = [] := rfl

theorem copies_succ (count : Nat) (stem : List Char) :
    copies (count + 1) stem = stem ++ copies count stem := rfl

theorem length_copies (count : Nat) (stem : List Char) :
    (copies count stem).length = count * stem.length := by
  induction count with
  | zero => rw [copies_zero, List.length_nil, Nat.zero_mul]
  | succ count ih => rw [copies_succ, List.length_append, ih, Nat.succ_mul, Nat.add_comm]

theorem copies_injective {stem : List Char} (occupied : stem ≠ []) {first second : Nat}
    (same : copies first stem = copies second stem) : first = second := by
  have lengths := congrArg List.length same
  rw [length_copies, length_copies] at lengths
  exact Nat.eq_of_mul_eq_mul_right (List.length_pos_iff.mpr occupied) lengths

/-! ### One stem -/

/-- What is stripped off is copies of the stem. -/
theorem exists_copies (stem text : List Char) :
    ∃ count, text = copies count stem ++ dropCopies stem text := by
  fun_induction dropCopies stem text with
  | case1 text copy _ ih =>
    obtain ⟨rest, rfl⟩ := List.isPrefixOf_iff_prefix.mp copy.2
    obtain ⟨count, shape⟩ := ih
    rw [List.drop_left] at shape ⊢
    refine ⟨count + 1, ?_⟩
    rw [copies_succ, List.append_assoc, ← shape]
  | case2 text => exact ⟨0, by rw [copies_zero, List.nil_append]⟩

/-- Copies are stripped off up to a rest that does not begin with the stem. -/
theorem dropCopies_copies (count : Nat) (stem rest : List Char) (differs : ¬ stem <+: rest) :
    dropCopies stem (copies count stem ++ rest) = rest := by
  have occupied : stem ≠ [] := fun empty => differs (empty ▸ List.nil_prefix)
  induction count with
  | zero =>
    rw [copies_zero, List.nil_append]
    apply dropCopies_of_not_isPrefixOf
    rwa [← Bool.not_eq_true, List.isPrefixOf_iff_prefix]
  | succ count ih => rw [copies_succ, List.append_assoc, dropCopies_append stem _ occupied, ih]

/-! ### Stems one after the other -/

/-- Neither text begins with the other one, so no text begins with both. -/
structure Apart (first second : List Char) : Prop where
  left : ¬ first <+: second
  right : ¬ second <+: first

instance (first second : List Char) : Decidable (Apart first second) :=
  decidable_of_iff (¬ first <+: second ∧ ¬ second <+: first)
    ⟨fun both => ⟨both.1, both.2⟩, fun apart => ⟨apart.left, apart.right⟩⟩

theorem Apart.not_prefix_append {first second : List Char} (apart : Apart first second)
    (tail : List Char) : ¬ first <+: second ++ tail := by
  intro opens
  rcases List.prefix_or_prefix_of_prefix opens (List.prefix_append second tail) with inside | inside
  · exact apart.left inside
  · exact apart.right inside

/-- A stem and how often it stands. -/
structure Layer where
  stem : List Char
  count : Nat

/-- The copies of each stem in their order, and the rest behind them. -/
def layered : List Layer → List Char → List Char
  | [], rest => rest
  | layer :: others, rest => copies layer.count layer.stem ++ layered others rest

/-- Strips the copies of each stem, in their order. -/
def dropStems (stems : List (List Char)) (text : List Char) : List Char :=
  stems.foldl (fun rest stem => dropCopies stem rest) text

theorem exists_layered (stems : List (List Char)) (text : List Char) :
    ∃ layers : List Layer,
      layers.map Layer.stem = stems ∧ text = layered layers (dropStems stems text) := by
  induction stems generalizing text with
  | nil => exact ⟨[], rfl, rfl⟩
  | cons stem others ih =>
    obtain ⟨count, shape⟩ := exists_copies stem text
    obtain ⟨layers, rfl, inner⟩ := ih (dropCopies stem text)
    refine ⟨⟨stem, count⟩ :: layers, rfl, ?_⟩
    show text = copies count stem ++ layered layers (dropStems _ (dropCopies stem text))
    rw [← inner, ← shape]

/-- The stems and the rest differ so much that each copy is seen for what it is. -/
def AllApart (stems : List (List Char)) (rest : List Char) : Prop :=
  (stems ++ [rest]).Pairwise Apart

instance (stems : List (List Char)) (rest : List Char) : Decidable (AllApart stems rest) :=
  inferInstanceAs (Decidable ((stems ++ [rest]).Pairwise Apart))

/-- Nothing behind the copies of the first stem begins with it. -/
theorem not_prefix_layered {stem : List Char} {layers : List Layer} {rest : List Char}
    (apart : ∀ text ∈ layers.map Layer.stem ++ [rest], Apart stem text) :
    ¬ stem <+: layered layers rest := by
  induction layers with
  | nil => exact (apart rest (List.mem_singleton_self rest)).left
  | cons layer others ih =>
    rw [List.map_cons, List.cons_append, List.forall_mem_cons] at apart
    obtain ⟨own, later⟩ := apart
    rw [layered]
    -- with a copy of the next stem this is what stands first, else it is what follows
    cases layer.count with
    | zero => exact ih later
    | succ count =>
      rw [copies_succ, List.append_assoc]
      exact own.not_prefix_append _

theorem dropStems_layered {layers : List Layer} {rest : List Char}
    (clear : AllApart (layers.map Layer.stem) rest) :
    dropStems (layers.map Layer.stem) (layered layers rest) = rest := by
  induction layers with
  | nil => rfl
  | cons layer others ih =>
    obtain ⟨apart, later⟩ := List.pairwise_cons.mp clear
    rw [List.map_cons, dropStems, List.foldl_cons, layered,
      dropCopies_copies _ _ _ (not_prefix_layered apart)]
    exact ih later

/-- How often each stem stands, and what stands behind them all, can be told from the text. -/
theorem layered_injective {first second : List Layer} {rest rest' : List Char}
    (stems : first.map Layer.stem = second.map Layer.stem)
    (clear : AllApart (first.map Layer.stem) rest)
    (clear' : AllApart (second.map Layer.stem) rest')
    (same : layered first rest = layered second rest') : first = second ∧ rest = rest' := by
  induction first generalizing second with
  | nil =>
    obtain rfl := List.map_eq_nil_iff.mp stems.symm
    exact ⟨rfl, same⟩
  | cons layer others ih =>
    cases second with
    | nil => cases stems
    | cons layer' others' =>
      obtain ⟨apart, later⟩ := List.pairwise_cons.mp clear
      obtain ⟨apart', later'⟩ := List.pairwise_cons.mp clear'
      obtain ⟨stem, count⟩ := layer
      obtain ⟨stem', count'⟩ := layer'
      simp only [List.map_cons, List.cons.injEq] at stems
      obtain ⟨rfl, stems⟩ := stems
      have opens := not_prefix_layered apart
      have inner : layered others rest = layered others' rest' := by
        have stripped := congrArg (dropCopies stem) same
        rwa [layered, layered, dropCopies_copies _ _ _ opens,
          dropCopies_copies _ _ _ (not_prefix_layered apart')] at stripped
      obtain ⟨rfl, rfl⟩ := ih stems later later' inner
      have occupied : stem ≠ [] := fun empty => (empty ▸ opens) List.nil_prefix
      obtain rfl := copies_injective occupied (List.append_cancel_right same)
      exact ⟨rfl, rfl⟩

end LinkContract.Text
