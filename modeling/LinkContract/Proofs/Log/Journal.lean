import LinkContract.Proofs.Log.Framing
import LinkContract.Proofs.Log.TraceId

/-!
# What a journal writes

One record is one write of one line, whether it comes as a record or as a note. On a device
that refuses nothing, the text of a run is the text before it and the lines of the records
in their order, each with the identifier it was given. On a device that gives out after some
lines it is the text before it and the first of these lines. The identifiers of records that
come without one go by the numbers after the last that was given out.
-/
namespace LinkContract.Log

namespace Journal

/-! ### One record -/

theorem identify_of_blank (journal : Journal) (record : Record) (blank : record.traceId = "") :
    journal.identify record = ({ record with traceId := journal.traceId (journal.issued + 1) },
      { journal with issued := journal.issued + 1 }) := by
  rw [identify, blank]
  rfl

/-- Filling in an identifier changes nothing but the last number that was given out. -/
theorem snd_identify (journal : Journal) (record : Record) :
    ∃ issued, (journal.identify record).2 = { journal with issued } := by
  rw [identify]
  split
  · exact ⟨_, rfl⟩
  · exact ⟨journal.issued, rfl⟩

theorem append_of_accepts (journal : Journal) (record : Record)
    (accepts : journal.device.accepts journal.writes = true) :
    ∃ issued, journal.append record = (.ok (), { journal with
      issued
      writes := journal.writes + 1
      text := journal.text ++ (journal.identify record).1.line ++ "\n" }) := by
  obtain ⟨issued, same⟩ := journal.snd_identify record
  refine ⟨issued, ?_⟩
  simp only [append, same, writeLine, accepts]
  rfl

/-- A refused line uses up a write and perhaps a number, and leaves the text alone. -/
theorem append_of_refuses (journal : Journal) (record : Record)
    (refuses : journal.device.accepts journal.writes = false) :
    ∃ issued, journal.append record
      = (.error .brokenPipe, { journal with issued, writes := journal.writes + 1 }) := by
  obtain ⟨issued, same⟩ := journal.snd_identify record
  refine ⟨issued, ?_⟩
  simp only [append, same, writeLine, refuses]
  rfl

theorem append_of_sound (journal : Journal) (record : Record) (sound : journal.device = .sound) :
    ∃ issued, journal.append record = (.ok (), { journal with
      issued
      writes := journal.writes + 1
      text := journal.text ++ (journal.identify record).1.line ++ "\n" }) :=
  journal.append_of_accepts record (by rw [sound]; rfl)

/-! ### A run -/

/-- Appends records whatever becomes of them. -/
def appendEach (journal : Journal) (records : List Record) : Journal :=
  records.foldl (fun journal record => (journal.append record).2) journal

theorem appendEach_cons (journal : Journal) (record : Record) (rest : List Record) :
    journal.appendEach (record :: rest) = (journal.append record).2.appendEach rest := rfl

/-- The records of a run as they are handed to the device. -/
def handed (journal : Journal) : List Record → List Record
  | [] => []
  | record :: rest => (journal.identify record).1 :: (journal.append record).2.handed rest

theorem length_handed (journal : Journal) (records : List Record) :
    (journal.handed records).length = records.length := by
  induction records generalizing journal with
  | nil => rfl
  | cons record rest ih => rw [handed, List.length_cons, ih, List.length_cons]

/-- By induction on the records; every write leaves the device sound for the next one. -/
theorem appendEach_of_sound (journal : Journal) (records : List Record)
    (sound : journal.device = .sound) :
    (journal.appendEach records).device = .sound
      ∧ (journal.appendEach records).writes = journal.writes + records.length
      ∧ (journal.appendEach records).text
        = journal.text ++ String.ofList (written (journal.handed records)) := by
  induction records generalizing journal with
  | nil => exact ⟨sound, rfl, by simp [appendEach, handed, written, Text.terminated]⟩
  | cons record rest ih =>
    obtain ⟨issued, step⟩ := journal.append_of_sound record sound
    obtain ⟨device, writes, text⟩ := ih (journal.append record).2 (by rw [step]; exact sound)
    refine ⟨device, ?_, ?_⟩
    · -- one write for this record, and one for each later one
      have count : (journal.append record).2.writes = journal.writes + 1 := by rw [step]
      rw [appendEach_cons, writes, count, List.length_cons]
      omega
    · have line : (journal.append record).2.text
          = journal.text ++ (journal.identify record).1.line ++ "\n" := by rw [step]
      rw [appendEach_cons, text, handed, line, ofList_written_cons, String.append_assoc,
        String.append_assoc, String.append_assoc]

theorem appendAll_of_sound (journal : Journal) (records : List Record)
    (sound : journal.device = .sound) :
    journal.appendAll records = (.ok (), journal.appendEach records) := by
  induction records generalizing journal with
  | nil => rfl
  | cons record rest ih =>
    obtain ⟨issued, step⟩ := journal.append_of_sound record sound
    have later := ih (journal.append record).2 (by rw [step]; exact sound)
    rw [appendAll, appendEach_cons, ← later, step]

/-- A device that takes a number of lines and then no more gets the first lines of a run, and
the run is refused just when there are more. By induction on the records; the device has room
for one line less after each of them. -/
theorem appendAll_of_capacity (journal : Journal) (records : List Record) (capacity : Nat)
    (limited : journal.device = .ofCapacity (journal.writes + capacity)) :
    (journal.appendAll records).1
        = (if records.length ≤ capacity then .ok () else .error .brokenPipe)
      ∧ (journal.appendAll records).2.device = journal.device
      ∧ (journal.appendAll records).2.text
        = journal.text ++ String.ofList (written ((journal.handed records).take capacity)) := by
  induction records generalizing journal capacity with
  | nil => simp [appendAll, handed, written, Text.terminated]
  | cons record rest ih =>
    cases capacity with
    | zero =>
      -- there is no room, so the first record is refused and ends the run
      have refuses : journal.device.accepts journal.writes = false := by
        rw [limited]
        exact decide_eq_false (Nat.lt_irrefl _)
      obtain ⟨issued, step⟩ := journal.append_of_refuses record refuses
      rw [appendAll, step]
      simp [written, Text.terminated]
    | succ capacity =>
      have accepts : journal.device.accepts journal.writes = true := by
        rw [limited]
        exact decide_eq_true (Nat.lt_add_of_pos_right (Nat.succ_pos capacity))
      obtain ⟨issued, step⟩ := journal.append_of_accepts record accepts
      have device : (journal.append record).2.device = journal.device := by rw [step]
      have count : (journal.append record).2.writes = journal.writes + 1 := by rw [step]
      have line : (journal.append record).2.text
          = journal.text ++ (journal.identify record).1.line ++ "\n" := by rw [step]
      -- one write more has been made, and there is room for one line less
      have room : (journal.append record).2.device
          = .ofCapacity ((journal.append record).2.writes + capacity) := by
        rw [device, limited, count, Nat.add_right_comm, Nat.add_assoc]
      have later : journal.appendAll (record :: rest) = (journal.append record).2.appendAll rest := by
        rw [appendAll, step]
      obtain ⟨outcome, sameDevice, text⟩ := ih (journal.append record).2 capacity room
      rw [later]
      refine ⟨?_, sameDevice.trans device, ?_⟩
      · simpa only [List.length_cons, Nat.add_le_add_iff_right] using outcome
      · rw [text, handed, line, List.take_succ_cons, ofList_written_cons, String.append_assoc,
          String.append_assoc, String.append_assoc]

/-! ### Identifiers of a run -/

theorem traceId_append (journal : Journal) (record : Record) (number : Nat) :
    (journal.append record).2.traceId number = journal.traceId number := by
  obtain ⟨issued, same⟩ := journal.snd_identify record
  simp only [append, same, writeLine]
  split <;> rfl

theorem issued_identify (journal : Journal) (record : Record) :
    (journal.identify record).2.issued
      = journal.issued + if record.traceId.isEmpty then 1 else 0 := by
  rw [identify]
  split <;> rfl

theorem issued_append (journal : Journal) (record : Record) :
    (journal.append record).2.issued
      = journal.issued + if record.traceId.isEmpty then 1 else 0 := by
  rw [← issued_identify, append]
  simp only [writeLine]
  split <;> rfl

theorem issued_append_of_blank (journal : Journal) (record : Record) (blank : record.traceId = "") :
    (journal.append record).2.issued = journal.issued + 1 := by
  rw [issued_append, blank]
  rfl

/-- Records under the numbers that the journal gives out next. -/
def numbered (journal : Journal) (records : List Record) : List Record :=
  (records.zipIdx (journal.issued + 1)).map fun numbered =>
    { numbered.1 with traceId := journal.traceId numbered.2 }

/-- Whether the lines before were accepted makes no difference to the numbers. -/
theorem handed_of_blank (journal : Journal) (records : List Record)
    (blank : ∀ record ∈ records, record.traceId = "") :
    journal.handed records = journal.numbered records := by
  induction records generalizing journal with
  | nil => rfl
  | cons record rest ih =>
    -- after the first record the next number is one higher, and nothing else matters
    rw [List.forall_mem_cons] at blank
    rw [handed, ih _ blank.2, identify_of_blank journal record blank.1]
    simp only [numbered, List.zipIdx_cons, List.map_cons, traceId_append,
      issued_append_of_blank journal record blank.1]

/-- The lines that a journal makes of records that come without identifiers. -/
def lines (journal : Journal) (records : List Record) : List (List Char) :=
  (journal.numbered records).map fun record => record.line.toList

theorem length_lines (journal : Journal) (records : List Record) :
    (journal.lines records).length = records.length := by
  rw [lines, List.length_map, numbered, List.length_map, List.length_zipIdx]

theorem lineFeed_not_mem_lines (journal : Journal) (records : List Record) :
    ∀ line ∈ journal.lines records, '\n' ∉ line := by
  intro line inside
  obtain ⟨record, _, rfl⟩ := List.mem_map.mp inside
  exact lineFeed_not_mem_line record

theorem text_appendEach_of_blank (journal : Journal) (records : List Record)
    (sound : journal.device = .sound) (blank : ∀ record ∈ records, record.traceId = "") :
    (journal.appendEach records).text
      = journal.text ++ String.ofList (Text.terminated (journal.lines records)) := by
  obtain ⟨_, _, text⟩ := journal.appendEach_of_sound records sound
  rw [handed_of_blank journal records blank] at text
  exact text

theorem written_take_handed_of_blank (journal : Journal) (records : List Record)
    (blank : ∀ record ∈ records, record.traceId = "") (count : Nat) :
    written ((journal.handed records).take count)
      = Text.terminated ((journal.lines records).take count) := by
  rw [handed_of_blank journal records blank, written, lines, List.map_take]

/-- Records that come without identifiers get some of the journal. -/
theorem mem_handed_of_blank (journal : Journal) (records : List Record)
    (blank : ∀ record ∈ records, record.traceId = "") (named : Record)
    (inside : named ∈ journal.handed records) :
    ∃ record ∈ records, ∃ number, named = { record with traceId := journal.traceId number } := by
  rw [handed_of_blank journal records blank] at inside
  obtain ⟨⟨record, number⟩, placed, rfl⟩ := List.mem_map.mp inside
  exact ⟨record, List.fst_mem_of_mem_zipIdx placed, number, rfl⟩

end Journal

theorem Record.IsRegular.identified {record : Record} (regular : record.IsRegular)
    (traceId : String) : { record with traceId }.IsRegular :=
  ⟨regular.details, regular.category, regular.symbol⟩

namespace Journal

/-- The identifiers all have the same run in them, and nothing else can be wrong with the
lines that a journal makes of regular records. -/
theorem passes_handed_iff (journal : Journal) (records : List Record)
    (clear : ':' ∉ journal.scope.toList) (occupied : records ≠ [])
    (blank : ∀ record ∈ records, record.traceId = "")
    (regular : ∀ record ∈ records, record.IsRegular) :
    Passes (String.ofList (written (journal.handed records))) records.length
      ↔ ¬ mark <:+: journal.runId.toList := by
  have handedRegular : ∀ named ∈ journal.handed records, named.IsRegular := by
    intro named inside
    obtain ⟨record, member, number, rfl⟩ := journal.mem_handed_of_blank records blank named inside
    exact (regular record member).identified _
  have passes := passes_written_iff (journal.handed records) handedRegular
  rw [length_handed] at passes
  rw [passes]
  constructor
  · -- there is a first record, and its identifier holds the run
    intro named
    obtain ⟨first, inside⟩ := List.exists_mem_of_ne_nil (journal.handed records) (by
      rw [← List.length_pos_iff, length_handed]
      exact List.length_pos_iff.mpr occupied)
    obtain ⟨record, _, number, rfl⟩ := journal.mem_handed_of_blank records blank first inside
    have valid := named _ inside
    exact (isTraceId_traceId_iff journal number clear).mp valid
  · intro unmarked named inside
    obtain ⟨record, _, number, rfl⟩ := journal.mem_handed_of_blank records blank named inside
    exact (isTraceId_traceId_iff journal number clear).mpr unmarked

end Journal

/-! ### Notes -/

/-- What a note says, and when. -/
structure Note where
  now : Time.Instant
  level : Level
  event : String

def Note.record (note : Note) : Record := .unidentified note.now note.level note.event

theorem Note.isRegular_record (note : Note) : note.record.IsRegular where
  details details present := by cases present
  category category present := by cases present
  symbol present := absurd rfl present

/-- Writes notes whatever becomes of them. -/
def Journal.noteAll (journal : Journal) (notes : List Note) : Journal :=
  notes.foldl (fun journal note => (journal.note note.now note.level note.event).2) journal

theorem Journal.noteAll_eq (journal : Journal) (notes : List Note) :
    journal.noteAll notes = journal.appendEach (notes.map Note.record) := by
  rw [appendEach, List.foldl_map]
  rfl

end LinkContract.Log
