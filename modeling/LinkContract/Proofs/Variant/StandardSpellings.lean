import LinkContract.Proofs.Text.Stems
import LinkContract.Variant.Axis

/-!
# Spellings of a standard

A standard is written as one of its two numbers, with copies of four stems before it. The stems
and the numbers begin so differently that stripping the stems in their order finds the number of
every spelling, and that the spelling can be told from its text. So what is read is a spelling in
any mixture of upper and lower case, and nothing else.
-/
namespace LinkContract

/-- What a table gives is the value of one of its rows. -/
theorem exists_row_of_spelled? {α : Type} {table : List (String × α)} {text : List Char} {value : α}
    (found : spelled? table text = some value) :
    ∃ row ∈ table, row.1.toList = text ∧ row.2 = value := by
  obtain ⟨row, hit, rfl⟩ := Option.map_eq_some_iff.mp found
  have same : row.1.toList = text := by simpa using List.find?_some hit
  exact ⟨row, List.mem_of_find?_eq_some hit, same, rfl⟩

namespace Standard

open Text

/-- The year of a standard, and what it was called before the year was known. -/
def endings : Standard → List String
  | .cxx11 => ["11", "0x"]
  | .cxx14 => ["14", "1y"]
  | .cxx17 => ["17", "1z"]
  | .cxx20 => ["20", "2a"]

/-- A standard, one of its numbers, and how many copies of `-std=`, `gnu++`, `c++` and `cxx` stand
before it. -/
structure Spelling where
  options : Nat
  gnu : Nat
  plus : Nat
  letters : Nat
  standard : Standard
  ending : String
  known : ending ∈ standard.endings

namespace Spelling

def text (spelling : Spelling) : List Char :=
  copies spelling.options "-std=".toList ++ copies spelling.gnu "gnu++".toList
    ++ copies spelling.plus "c++".toList ++ copies spelling.letters "cxx".toList
    ++ spelling.ending.toList

def layers (spelling : Spelling) : List Layer :=
  [⟨"-std=".toList, spelling.options⟩, ⟨"gnu++".toList, spelling.gnu⟩,
    ⟨"c++".toList, spelling.plus⟩, ⟨"cxx".toList, spelling.letters⟩]

theorem stems_layers (spelling : Spelling) : spelling.layers.map Layer.stem = stems := rfl

theorem text_eq_layered (spelling : Spelling) :
    spelling.text = layered spelling.layers spelling.ending.toList := by
  simp only [text, layers, layered, List.append_assoc]

/-- No text begins with two of the stems, or with a stem and a number. -/
theorem allApart_stems (spelling : Spelling) : AllApart stems spelling.ending.toList := by
  obtain ⟨_, _, _, _, standard, ending, known⟩ := spelling
  have each : ∀ ending ∈ standard.endings, AllApart stems ending.toList := by
    cases standard <;> decide
  exact each ending known

end Spelling

/-! ### Numbers -/

theorem spelled?_ending (standard : Standard) :
    ∀ ending ∈ standard.endings, spelled? numbers ending.toList = some standard := by
  cases standard <;> decide

theorem mem_endings_of_mem_numbers : ∀ row ∈ numbers, row.1 ∈ row.2.endings := by decide

theorem spelled?_numbers_eq_some_iff (text : List Char) (standard : Standard) :
    spelled? numbers text = some standard ↔ ∃ ending ∈ standard.endings, text = ending.toList := by
  constructor
  · intro found
    obtain ⟨row, member, rfl, rfl⟩ := exists_row_of_spelled? found
    exact ⟨row.1, mem_endings_of_mem_numbers row member, rfl⟩
  · rintro ⟨ending, member, rfl⟩
    exact spelled?_ending standard ending member

/-! ### What the stems leave -/

theorem number_eq_dropStems (text : List Char) : number text = dropStems stems text := rfl

theorem number_text (spelling : Spelling) : number spelling.text = spelling.ending.toList := by
  have apart := spelling.allApart_stems
  rw [← spelling.stems_layers] at apart
  rw [number_eq_dropStems, spelling.text_eq_layered, ← spelling.stems_layers]
  exact dropStems_layered apart

/-- A text that leaves a number is a spelling with this number. -/
theorem exists_spelling {text : List Char} {standard : Standard} {ending : String}
    (known : ending ∈ standard.endings) (left : number text = ending.toList) :
    ∃ spelling : Spelling, text = spelling.text ∧ spelling.standard = standard := by
  obtain ⟨layers, shape, whole⟩ := exists_layered stems text
  -- there are as many layers as stems
  simp only [stems, List.map_eq_cons_iff, List.map_eq_nil_iff] at shape
  obtain ⟨⟨_, options⟩, _, rfl, rfl, ⟨_, gnu⟩, _, rfl, rfl, ⟨_, plus⟩, _, rfl, rfl,
    ⟨_, letters⟩, _, rfl, rfl, rfl⟩ := shape
  let spelling : Spelling := ⟨options, gnu, plus, letters, standard, ending, known⟩
  rw [← number_eq_dropStems, left] at whole
  exact ⟨spelling, whole.trans spelling.text_eq_layered.symm, rfl⟩

theorem text_injective : Function.Injective Spelling.text := by
  intro first second same
  rw [first.text_eq_layered, second.text_eq_layered] at same
  have stems : first.layers.map Layer.stem = second.layers.map Layer.stem :=
    first.stems_layers.trans second.stems_layers.symm
  obtain ⟨layers, endings⟩ :=
    layered_injective stems first.allApart_stems second.allApart_stems same
  have standards : first.standard = second.standard := by
    have own := spelled?_ending first.standard first.ending first.known
    rw [endings, spelled?_ending second.standard second.ending second.known] at own
    exact (Option.some.inj own).symm
  obtain ⟨options, gnu, plus, letters, standard, ending, known⟩ := first
  obtain ⟨options', gnu', plus', letters', standard', ending', known'⟩ := second
  simp only [Spelling.layers, List.cons.injEq, Layer.mk.injEq, true_and, and_true] at layers
  obtain ⟨rfl, rfl, rfl, rfl⟩ := layers
  obtain rfl := String.toList_inj.mp endings
  obtain rfl := standards
  rfl

/-! ### What is read -/

theorem read_eq_ok_iff_spelled? (text : String) (standard : Standard) :
    Standard.read text = .ok standard
      ↔ spelled? numbers (number (lower text.toList)) = some standard := by
  rw [Standard.read]
  cases spelled? numbers (number (lower text.toList)) <;> simp

theorem read_eq_ok_iff (text : String) (standard : Standard) :
    Standard.read text = .ok standard
      ↔ ∃ spelling : Spelling, lower text.toList = spelling.text ∧ spelling.standard = standard := by
  rw [read_eq_ok_iff_spelled?, spelled?_numbers_eq_some_iff]
  constructor
  · rintro ⟨ending, known, left⟩
    exact exists_spelling known left
  · rintro ⟨spelling, shape, rfl⟩
    exact ⟨spelling.ending, spelling.known, shape ▸ number_text spelling⟩

/-- All stems, two of them repeated, in a mixture of cases. -/
example : Standard.read "-STD=-std=Gnu++c++CXXcxx2A" = .ok .cxx20 :=
  (read_eq_ok_iff _ _).mpr ⟨⟨2, 1, 1, 2, .cxx20, "2a", by decide⟩, by decide +kernel, rfl⟩

theorem eq_of_read_eq_error {text : String} {error : AxisError}
    (refused : Standard.read text = .error error) : error = ⟨.standard, text⟩ := by
  rw [Standard.read] at refused
  split at refused
  next => cases refused
  next => exact (Except.error.inj refused).symm

theorem read_eq_error_iff (text : String) (error : AxisError) :
    Standard.read text = .error error
      ↔ (∀ spelling : Spelling, lower text.toList ≠ spelling.text)
        ∧ error = ⟨.standard, text⟩ := by
  constructor
  · intro refused
    refine ⟨?_, eq_of_read_eq_error refused⟩
    intro spelling shape
    rw [(read_eq_ok_iff text spelling.standard).mpr ⟨spelling, shape, rfl⟩] at refused
    cases refused
  · rintro ⟨unspelt, rfl⟩
    cases outcome : Standard.read text with
    | ok standard =>
      obtain ⟨spelling, shape, _⟩ := (read_eq_ok_iff text standard).mp outcome
      exact absurd shape (unspelt spelling)
    | error other => rw [eq_of_read_eq_error outcome]

theorem year_mem_endings (standard : Standard) : toString standard.year ∈ standard.endings := by
  cases standard <;> decide +kernel

theorem lower_name (standard : Standard) :
    lower standard.name.toList = copies 1 "c++".toList ++ (toString standard.year).toList := by
  cases standard <;> decide +kernel

/-- The name of a standard is a spelling of it: one `c++` and the year. -/
theorem read_name (standard : Standard) : Standard.read standard.name = .ok standard := by
  let spelling : Spelling :=
    ⟨0, 0, 1, 0, standard, toString standard.year, year_mem_endings standard⟩
  have shape : lower standard.name.toList = spelling.text := lower_name standard
  exact (read_eq_ok_iff _ _).mpr ⟨spelling, shape, rfl⟩

/-- A text is read as a standard just when it is, but for its case, a spelling of this standard,
and a spelling can be told from its text. Every other text is refused, and reported as it was
given. The name of a standard reads back. -/
theorem read_exactly_spellings (text : String) :
    (∀ standard : Standard, Standard.read text = .ok standard
        ↔ ∃ spelling : Spelling, lower text.toList = spelling.text ∧ spelling.standard = standard)
      ∧ Function.Injective Spelling.text
      ∧ (∀ error : AxisError, Standard.read text = .error error
        ↔ (∀ spelling : Spelling, lower text.toList ≠ spelling.text) ∧ error = ⟨.standard, text⟩)
      ∧ AxisError.message ⟨.standard, text⟩ = "unknown standard mode '" ++ text ++ "'"
      ∧ ∀ standard : Standard, Standard.read standard.name = .ok standard :=
  ⟨read_eq_ok_iff text, text_injective, read_eq_error_iff text, rfl, read_name⟩

end Standard

end LinkContract
