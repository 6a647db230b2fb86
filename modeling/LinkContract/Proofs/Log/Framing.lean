import LinkContract.Proofs.Json.OneLine
import LinkContract.Proofs.Log.Validation

/-!
# Records as lines of a text

The line of a record has no line feed inside, whatever the record holds, and it begins and
ends with a brace. So a text of such lines is cut into the same lines again, none of them is
blank, and the defects of the text are those of its lines under their numbers.
-/
namespace LinkContract.Log

theorem toList_line (record : Record) :
    record.line.toList = Json.render .compact 0 (.object record.members) := by
  rw [Record.line, Json.compact, Record.toJson, String.toList_ofList]

theorem lineFeed_not_mem_line (record : Record) : '\n' ∉ record.line.toList := by
  rw [toList_line]
  exact Json.lineFeed_not_mem_render 0 _

theorem trim_line (record : Record) : Text.trim record.line.toList = record.line.toList := by
  rw [toList_line]
  exact Json.trim_render_object .compact 0 record.members

theorem line_closed (record : Record) : ∃ inner, record.line.toList = inner ++ ['}'] := by
  obtain ⟨inner, shape⟩ := Json.render_object .compact 0 record.members
  exact ⟨'{' :: inner, by rw [toList_line, shape]⟩

theorem line_ne_nil (record : Record) : record.line.toList ≠ [] := by
  obtain ⟨inner, shape⟩ := line_closed record
  rw [shape]
  simp

/-- The text that holds the lines of records. -/
def written (records : List Record) : List Char :=
  Text.terminated (records.map fun record => record.line.toList)

theorem ofList_written_append (first rest : List Record) :
    String.ofList (written (first ++ rest))
      = String.ofList (written first) ++ String.ofList (written rest) := by
  rw [← String.ofList_append, written, written, written, Text.terminated, Text.terminated,
    Text.terminated, List.map_append, List.flatMap_append]

theorem ofList_written_singleton (record : Record) :
    String.ofList (written [record]) = record.line ++ "\n" := by
  apply String.toList_inj.mp
  simp [written, Text.terminated]

theorem ofList_written_cons (record : Record) (rest : List Record) :
    String.ofList (written (record :: rest))
      = record.line ++ "\n" ++ String.ofList (written rest) := by
  rw [← ofList_written_singleton, ← ofList_written_append, List.singleton_append]

theorem lines_written (records : List Record) :
    Text.lines (written records) = records.map fun record => record.line.toList := by
  refine Text.lines_terminated _ ?_ ?_
  · intro line inside
    obtain ⟨record, _, rfl⟩ := List.mem_map.mp inside
    exact lineFeed_not_mem_line record
  · intro line inside
    obtain ⟨record, _, rfl⟩ := List.mem_map.mp inside
    obtain ⟨inner, shape⟩ := line_closed record
    rw [shape, List.getLast?_concat]
    decide

theorem numberedLines_lines (first : Nat) (records : List Record) :
    numberedLines first (records.map fun record => record.line.toList)
      = (records.zipIdx first).map fun numbered => (numbered.2, numbered.1.line.toList) := by
  induction records generalizing first with
  | nil => rfl
  | cons record rest ih =>
    rw [List.map_cons, numberedLines, ih, trim_line, List.zipIdx_cons, List.map_cons]

theorem validateText_written (records : List Record) :
    validateText (String.ofList (written records))
      = { lines := records.length
          defects := (records.zipIdx 1).flatMap fun numbered =>
            defectsOf numbered.1.line numbered.2 } := by
  -- no line is empty, so all of them count
  have counted : (numberedLines 1 (Text.lines (written records))).filter
      (fun line => !line.2.isEmpty) = (records.zipIdx 1).map fun numbered =>
        (numbered.2, numbered.1.line.toList) := by
    rw [lines_written, numberedLines_lines, List.filter_eq_self]
    intro line inside
    obtain ⟨numbered, _, rfl⟩ := List.mem_map.mp inside
    simp [line_ne_nil numbered.1]
  simp only [validateText, String.toList_ofList, counted, List.length_map, List.length_zipIdx,
    List.flatMap_map, String.ofList_toList]

/-- The validator counts this many lines and finds nothing wrong with them. -/
def Passes (text : String) (count : Nat) : Prop := validateText text = ⟨count, []⟩

/-- Apart from the identifiers nothing can be wrong with the lines of regular records. -/
theorem passes_written_iff (records : List Record)
    (regular : ∀ record ∈ records, record.IsRegular) :
    Passes (String.ofList (written records)) records.length
      ↔ ∀ record ∈ records, isTraceId record.traceId = true := by
  rw [Passes, validateText_written]
  simp only [Verdict.mk.injEq, true_and, List.flatMap_eq_nil_iff]
  constructor
  · intro clean record inside
    obtain ⟨position, found⟩ := List.mem_iff_getElem?.mp inside
    have numbered : (record, 1 + position) ∈ records.zipIdx 1 :=
      List.mk_add_mem_zipIdx_iff_getElem?.mpr found
    have clear : defectsOf record.line (1 + position) = [] :=
      clean (record, 1 + position) numbered
    exact (defectsOf_line_eq_nil_iff record _ (regular record inside)).mp clear
  · intro named numbered inside
    have member : numbered.1 ∈ records := List.fst_mem_of_mem_zipIdx inside
    exact (defectsOf_line_eq_nil_iff _ _ (regular _ member)).mpr (named _ member)

end LinkContract.Log
