import LinkContract.Proofs.Log.Journal

/-!
# Steps of a journal

A journal is used in steps: it writes a note, it writes a record, or it flushes its device, and
the device may refuse any of them. An attempt is one step with the record as it was handed to the
device and with the answer of the journal.

The step lemma `leads_perform` says what one step does to a journal. From it, by induction on the
steps, the text of a run is the lines of the records that were accepted, and neither the contents
of a record nor a refusal can change how the text is divided into lines. Which steps succeed is up
to the device alone, by their places among the writes and among the flushes, and a device can be
planned for any outcome of a run.
-/
namespace LinkContract.Log

/-- One use of a journal. -/
inductive Step where
  | note (said : Note)
  | append (record : Record)
  | flush

namespace Step

/-- The record that the step writes, as it is given; only a flush writes none. -/
def record? : Step → Option Record
  | .note said => some said.record
  | .append record => some record
  | .flush => none

/-- The step writes a record that comes without an identifier. -/
def needsId (step : Step) : Bool := step.record?.any fun record => record.traceId.isEmpty

end Step

/-- Whether the device carries out a step that comes after so many writes and so many flushes. -/
def Device.carriesOut (device : Device) (writes flushes : Nat) (step : Step) : Bool :=
  if step.record?.isSome then device.accepts writes else device.flushes flushes

/-- One step, the record that it handed to the device, and how the journal answered it. -/
structure Attempt where
  step : Step
  record : Option Record
  answer : Except WriteError (Option Record)

namespace Attempt

def succeeded (attempt : Attempt) : Bool :=
  match attempt.answer with
  | .ok _ => true
  | .error _ => false

def traceId? (attempt : Attempt) : Option String := attempt.record.map (·.traceId)

/-- The record that the step brought into the text. -/
def accepted? (attempt : Attempt) : Option Record :=
  if attempt.succeeded then attempt.record else none

end Attempt

namespace Journal

/-- Carries out a step and answers the record of a note. -/
def perform (journal : Journal) : Step → Except WriteError (Option Record) × Journal
  | .note said =>
    let (written, after) := journal.note said.now said.level said.event
    (written.map some, after)
  | .append record =>
    let (written, after) := journal.append record
    (written.map fun _ => none, after)
  | .flush =>
    let (flushed, after) := journal.flush
    (flushed.map fun _ => none, after)

def attempt (journal : Journal) (step : Step) : Attempt where
  step := step
  record := step.record?.map fun record => (journal.identify record).1
  answer := (journal.perform step).1

/-- The attempts of a run, each with the journal that the steps before have left. -/
def attempts (journal : Journal) : List Step → List Attempt
  | [] => []
  | step :: later => journal.attempt step :: (journal.perform step).2.attempts later

/-- Carries out steps whatever becomes of them. -/
def performAll (journal : Journal) (steps : List Step) : Journal :=
  steps.foldl (fun journal step => (journal.perform step).2) journal

theorem performAll_cons (journal : Journal) (step : Step) (later : List Step) :
    journal.performAll (step :: later) = (journal.perform step).2.performAll later := rfl

/-! ### One step -/

/-- What a step leads to: it is one write or one flush more on the same device, which decides
whether it succeeds; it uses up a number if its record comes without an identifier, and it adds
the line of an accepted record to the text. -/
structure Leads (journal : Journal) (attempt : Attempt) (after : Journal) : Prop where
  device : after.device = journal.device
  writes : after.writes = journal.writes + if attempt.step.record?.isSome then 1 else 0
  flushCount : after.flushCount = journal.flushCount + if attempt.step.record?.isNone then 1 else 0
  succeeded : attempt.succeeded
    = journal.device.carriesOut journal.writes journal.flushCount attempt.step
  named : after.traceId = journal.traceId
  issued : after.issued = journal.issued + if attempt.step.needsId then 1 else 0
  text : after.text = journal.text ++ String.ofList (written attempt.accepted?.toList)

theorem append_keeps (journal : Journal) (record : Record) :
    (journal.append record).2.device = journal.device
      ∧ (journal.append record).2.writes = journal.writes + 1
      ∧ (journal.append record).2.flushCount = journal.flushCount := by
  obtain ⟨issued, same⟩ := journal.snd_identify record
  simp only [append, same, writeLine]
  split <;> exact ⟨rfl, rfl, rfl⟩

/-- The device takes the line of the record or refuses it, and the answer says which. -/
theorem text_append (journal : Journal) (record : Record) :
    (journal.device.accepts journal.writes = true ∧ (journal.append record).1 = .ok ()
      ∧ (journal.append record).2.text
        = journal.text ++ String.ofList (written [(journal.identify record).1]))
    ∨ (journal.device.accepts journal.writes = false
      ∧ (journal.append record).1 = .error .brokenPipe
      ∧ (journal.append record).2.text = journal.text) := by
  cases accepts : journal.device.accepts journal.writes with
  | true =>
    obtain ⟨issued, step⟩ := journal.append_of_accepts record accepts
    refine Or.inl ⟨rfl, ?_⟩
    rw [step, ofList_written_singleton]
    exact ⟨rfl, String.append_assoc ..⟩
  | false =>
    obtain ⟨issued, step⟩ := journal.append_of_refuses record accepts
    refine Or.inr ⟨rfl, ?_⟩
    rw [step]
    exact ⟨rfl, rfl⟩

/-- A note is the record of the note, and a note that succeeds answers that record. -/
theorem perform_note (journal : Journal) (said : Note) :
    journal.perform (.note said) = ((journal.append said.record).1.map fun _ =>
      some (journal.identify said.record).1, (journal.append said.record).2) := by
  have wrote : journal.note said.now said.level said.event
      = ((journal.append said.record).1.map fun _ => (journal.identify said.record).1,
        (journal.append said.record).2) := rfl
  rw [perform, wrote]
  cases (journal.append said.record).1 <;> rfl

theorem leads_of_append (journal : Journal) (step : Step) (record : Record)
    (given : step.record? = some record) (answers : Unit → Option Record)
    (same : journal.perform step
      = ((journal.append record).1.map answers, (journal.append record).2)) :
    journal.Leads (journal.attempt step) (journal.perform step).2 where
  device := by rw [same, (journal.append_keeps record).1]
  writes := by
    rw [same, (journal.append_keeps record).2.1, attempt, given]
    rfl
  flushCount := by
    rw [same, (journal.append_keeps record).2.2, attempt, given]
    rfl
  succeeded := by
    rcases journal.text_append record with ⟨accepts, accepted, _⟩ | ⟨refuses, refused, _⟩
    · simp [attempt, Attempt.succeeded, Device.carriesOut, same, given, accepts, accepted,
        Except.map]
    · simp [attempt, Attempt.succeeded, Device.carriesOut, same, given, refuses, refused,
        Except.map]
  named := by
    funext number
    rw [same, traceId_append]
  issued := by
    -- the number is used up before the device answers
    rw [same, issued_append, attempt, Step.needsId, given]
    rfl
  text := by
    -- a refused record leaves no part of its line behind
    rcases journal.text_append record with ⟨_, accepted, text⟩ | ⟨_, refused, text⟩
    · simp [same, text, attempt, given, accepted, Attempt.accepted?, Attempt.succeeded, Except.map]
    · simp [same, text, attempt, refused, Attempt.accepted?, Attempt.succeeded, Except.map, written,
        Text.terminated]

theorem leads_perform (journal : Journal) (step : Step) :
    journal.Leads (journal.attempt step) (journal.perform step).2 := by
  cases step with
  | note said => exact journal.leads_of_append _ said.record rfl _ (journal.perform_note said)
  | append record => exact journal.leads_of_append _ record rfl (fun _ => none) rfl
  | flush =>
    have same : (journal.perform .flush).2
        = { journal with flushCount := journal.flushCount + 1 } := by
      simp only [perform, Journal.flush]
      split <;> rfl
    have answered : (journal.attempt .flush).succeeded
        = journal.device.flushes journal.flushCount := by
      simp only [attempt, perform, Journal.flush]
      split
      next flushes => rw [flushes]; rfl
      next fails => rw [Bool.eq_false_iff.mpr fails]; rfl
    have nothing : (journal.attempt .flush).accepted? = none := ite_self none
    rw [same]
    refine ⟨rfl, rfl, rfl, answered, rfl, rfl, ?_⟩
    rw [nothing]
    exact String.append_empty.symm

/-- A record is handed over as it is given, but for an identifier that is filled in. -/
theorem record_attempt (journal : Journal) (step : Step) (record : Record)
    (given : step.record? = some record) :
    ∃ traceId, (journal.attempt step).record = some { record with traceId }
      ∧ (record.traceId ≠ "" → traceId = record.traceId) := by
  rw [attempt, given, Option.map_some, identify]
  split
  next blank => exact ⟨_, rfl, fun named => absurd (String.isEmpty_iff.mp blank) named⟩
  next => exact ⟨record.traceId, rfl, fun _ => rfl⟩

theorem isSome_accepted_attempt (journal : Journal) (step : Step) :
    (journal.attempt step).accepted?.isSome
      = (step.record?.isSome && (journal.attempt step).succeeded) := by
  rw [Attempt.accepted?]
  split
  next succeeded => rw [succeeded, Bool.and_true, attempt, Option.isSome_map]
  next refused => simp [refused]

/-- A note that succeeds answers the record that it brought into the text. -/
theorem accepted_of_answer (journal : Journal) (step : Step) (record : Record)
    (answered : (journal.perform step).1 = .ok (some record)) :
    (journal.attempt step).accepted? = some record := by
  have succeeded : (journal.attempt step).succeeded = true := by
    rw [attempt, Attempt.succeeded, answered]
  -- only a note answers a record
  have silent (outcome : Except WriteError Unit) :
      (outcome.map fun _ => (none : Option Record)) ≠ .ok (some record) := by
    cases outcome <;> exact nofun
  rw [Attempt.accepted?, if_pos succeeded]
  cases step with
  | note said =>
    rw [perform_note] at answered
    cases outcome : (journal.append said.record).1 with
    | ok =>
      rw [outcome] at answered
      have same : (journal.identify said.record).1 = record :=
        Option.some.inj (Except.ok.inj answered)
      exact congrArg some same
    | error =>
      rw [outcome] at answered
      exact nomatch answered
  | append given => exact absurd answered (silent _)
  | flush => exact absurd answered (silent _)

/-! ### A run -/

theorem map_step_attempts (journal : Journal) (steps : List Step) :
    (journal.attempts steps).map (·.step) = steps := by
  induction steps generalizing journal with
  | nil => rfl
  | cons step later ih => rw [attempts, List.map_cons, ih, attempt]

/-- Each attempt of a run is the attempt of its step on some journal. -/
theorem exists_journal_of_mem (journal : Journal) (steps : List Step) (attempt : Attempt)
    (inside : attempt ∈ journal.attempts steps) :
    ∃ other : Journal, attempt = other.attempt attempt.step := by
  induction steps generalizing journal with
  | nil => cases inside
  | cons step later ih =>
    rcases List.mem_cons.mp inside with rfl | after
    · exact ⟨journal, rfl⟩
    · exact ih _ after

theorem attempts_append (journal : Journal) (earlier later : List Step) :
    journal.attempts (earlier ++ later)
      = journal.attempts earlier ++ (journal.performAll earlier).attempts later := by
  induction earlier generalizing journal with
  | nil => rfl
  | cons step rest ih => rw [List.cons_append, attempts, ih, attempts, performAll_cons]; rfl

theorem device_performAll (journal : Journal) (steps : List Step) :
    (journal.performAll steps).device = journal.device := by
  induction steps generalizing journal with
  | nil => rfl
  | cons step later ih => rw [performAll_cons, ih, (journal.leads_perform step).device]

/-- What some steps raise by one and the others leave alone counts these steps of a run. -/
theorem count_performAll (measure : Journal → Nat) (counts : Step → Bool)
    (raised : ∀ journal step,
      measure (journal.perform step).2 = measure journal + if counts step then 1 else 0)
    (journal : Journal) (steps : List Step) :
    measure (journal.performAll steps) = measure journal + steps.countP counts := by
  induction steps generalizing journal with
  | nil => rfl
  | cons step later ih =>
    rw [performAll_cons, ih, raised, List.countP_cons, Nat.add_assoc,
      Nat.add_comm (later.countP _)]

theorem writes_performAll (journal : Journal) (steps : List Step) :
    (journal.performAll steps).writes = journal.writes + steps.countP (·.record?.isSome) :=
  count_performAll (·.writes) _ (fun journal step => (journal.leads_perform step).writes) _ _

theorem flushCount_performAll (journal : Journal) (steps : List Step) :
    (journal.performAll steps).flushCount
      = journal.flushCount + steps.countP (·.record?.isNone) :=
  count_performAll (·.flushCount) _ (fun journal step => (journal.leads_perform step).flushCount)
    _ _

/-- Whether a step succeeds is up to the device, by the writes and flushes before the step. -/
theorem succeeded_attempt_performAll (journal : Journal) (earlier : List Step) (step : Step) :
    ((journal.performAll earlier).attempt step).succeeded
      = journal.device.carriesOut (journal.writes + earlier.countP (·.record?.isSome))
        (journal.flushCount + earlier.countP (·.record?.isNone)) step := by
  rw [((journal.performAll earlier).leads_perform step).succeeded, device_performAll,
    writes_performAll, flushCount_performAll]
  rfl

theorem issued_performAll (journal : Journal) (steps : List Step) :
    (journal.performAll steps).issued = journal.issued + steps.countP (·.needsId) :=
  count_performAll (·.issued) _ (fun journal step => (journal.leads_perform step).issued) _ _

/-- By induction on the steps, each of which adds the line of its own record or nothing. -/
theorem text_performAll (journal : Journal) (steps : List Step) :
    (journal.performAll steps).text = journal.text
      ++ String.ofList (written ((journal.attempts steps).filterMap (·.accepted?))) := by
  induction steps generalizing journal with
  | nil => exact String.append_empty.symm
  | cons step later ih =>
    have split : (journal.attempts (step :: later)).filterMap (·.accepted?)
        = (journal.attempt step).accepted?.toList
          ++ ((journal.perform step).2.attempts later).filterMap (·.accepted?) := by
      rw [attempts]
      cases accepted : (journal.attempt step).accepted? with
      | none => rw [List.filterMap_cons_none accepted]; rfl
      | some record => rw [List.filterMap_cons_some accepted]; rfl
    rw [performAll_cons, ih, (journal.leads_perform step).text, String.append_assoc,
      ← ofList_written_append, split]

theorem length_accepted (journal : Journal) (steps : List Step) :
    ((journal.attempts steps).filterMap (·.accepted?)).length
      = (journal.attempts steps).countP fun attempt =>
        attempt.step.record?.isSome && attempt.succeeded := by
  rw [List.length_filterMap_eq_countP]
  refine List.countP_congr fun attempt inside => ?_
  obtain ⟨other, same⟩ := journal.exists_journal_of_mem steps attempt inside
  rw [same, isSome_accepted_attempt]
  rfl

/-! ### Answers of a device -/

theorem succeeded_getElem?_attempts (journal : Journal) (earlier : List Step) (step : Step)
    (later : List Step) :
    ((journal.attempts (earlier ++ step :: later)).map (·.succeeded))[earlier.length]?
      = some (journal.device.carriesOut (journal.writes + earlier.countP (·.record?.isSome))
        (journal.flushCount + earlier.countP (·.record?.isNone)) step) := by
  have before : (journal.attempts earlier).length = earlier.length := by
    rw [← List.length_map (·.step), map_step_attempts]
  rw [attempts_append, attempts, ← before, List.getElem?_map,
    List.getElem?_append_right (Nat.le_refl _), Nat.sub_self, List.getElem?_cons_zero,
    Option.map_some, succeeded_attempt_performAll]

end Journal

/-- The element of a filtered list that has as many before it as pass before its place. -/
theorem getElem?_filter_countP {α : Type} (passes : α → Bool) (earlier : List α) (chosen : α)
    (later : List α) (passed : passes chosen = true) :
    ((earlier ++ chosen :: later).filter passes)[earlier.countP passes]? = some chosen := by
  rw [List.filter_append, List.filter_cons_of_pos passed, List.countP_eq_length_filter,
    List.getElem?_append_right (Nat.le_refl _), Nat.sub_self, List.getElem?_cons_zero]

/-- The device that answers the steps of a plan as planned: a write, or a flush, gets the answer
that is planned for the one with its number. -/
def Device.ofPlan (planned : List (Step × Bool)) : Device where
  accepts number := (planned.filter (·.1.record?.isSome))[number]?.any (·.2)
  flushes number := (planned.filter (·.1.record?.isNone))[number]?.any (·.2)

theorem Device.carriesOut_ofPlan (earlier : List (Step × Bool)) (step : Step) (answer : Bool)
    (later : List (Step × Bool)) :
    (ofPlan (earlier ++ (step, answer) :: later)).carriesOut
      ((earlier.map Prod.fst).countP (·.record?.isSome))
      ((earlier.map Prod.fst).countP (·.record?.isNone)) step = answer := by
  rw [List.countP_map, List.countP_map, carriesOut]
  split
  next writes =>
    have place := getElem?_filter_countP (·.1.record?.isSome) earlier (step, answer) later writes
    exact congrArg (Option.any (·.2)) place
  next silent =>
    have flushes : step.record?.isNone = true := by simpa using silent
    have place := getElem?_filter_countP (·.1.record?.isNone) earlier (step, answer) later flushes
    exact congrArg (Option.any (·.2)) place

namespace Journal

/-- By induction on the steps that are still to come; those before them decide only how often the
device has been used. -/
theorem succeeded_attempts_of_plan (journal : Journal) (planned : List (Step × Bool))
    (device : journal.device = .ofPlan planned) (unwritten : journal.writes = 0)
    (unflushed : journal.flushCount = 0) :
    (journal.attempts (planned.map Prod.fst)).map (·.succeeded) = planned.map Prod.snd := by
  suffices ∀ earlier later, planned = earlier ++ later →
      ((journal.performAll (earlier.map Prod.fst)).attempts (later.map Prod.fst)).map (·.succeeded)
        = later.map Prod.snd from this [] planned rfl
  intro earlier later whole
  induction later generalizing earlier with
  | nil => rfl
  | cons place rest ih =>
    obtain ⟨step, answer⟩ := place
    have answered : ((journal.performAll (earlier.map Prod.fst)).attempt step).succeeded
        = answer := by
      rw [succeeded_attempt_performAll, device, unwritten, unflushed, Nat.zero_add, Nat.zero_add,
        whole, Device.carriesOut_ofPlan]
    have next : ((journal.performAll (earlier.map Prod.fst)).perform step).2
        = journal.performAll ((earlier ++ [(step, answer)]).map Prod.fst) := by
      rw [List.map_append, performAll, performAll, List.foldl_append]
      rfl
    rw [List.map_cons, attempts, List.map_cons, answered, next,
      ih (earlier ++ [(step, answer)]) (by rw [whole, List.append_cons])]
    rfl

/-- The text of a run has one line for each step that brought a record into it, whatever the
records hold and whatever else was refused. The line is that of the record as it was handed over:
the record of the step, with an identifier where it came without one. So the validator counts
these records and finds in the text what it finds on their lines under their numbers. A step
succeeds just when the device takes the write, or the flush, with the number of those before it,
and for any choice of the steps that succeed there is a device that makes it. -/
theorem text_of_any_steps (scope runId : String) (device : Device) (steps : List Step) :
    let journal : Journal := { scope, runId, device }
    let attempts := journal.attempts steps
    let records := attempts.filterMap (·.accepted?)
    let text := (journal.performAll steps).text
    attempts.map (·.step) = steps
      ∧ (∀ attempt ∈ attempts, ∀ record, attempt.step.record? = some record →
        ∃ traceId, attempt.record = some { record with traceId }
          ∧ (record.traceId ≠ "" → traceId = record.traceId))
      ∧ (∀ attempt ∈ attempts, ∀ record, attempt.answer = .ok (some record) →
        attempt.accepted? = some record)
      ∧ records.length = attempts.countP (fun attempt =>
        attempt.step.record?.isSome && attempt.succeeded)
      ∧ text.toList = records.flatMap (fun record => record.line.toList ++ ['\n'])
      ∧ (∀ record ∈ records, '\n' ∉ record.line.toList)
      ∧ validateText text
        = { lines := records.length
            defects := (records.zipIdx 1).flatMap fun numbered =>
              defectsOf numbered.1.line numbered.2 }
      ∧ (∀ earlier step later, steps = earlier ++ step :: later →
        (attempts.map (·.succeeded))[earlier.length]?
          = some (device.carriesOut (earlier.countP (·.record?.isSome))
            (earlier.countP (·.record?.isNone)) step))
      ∧ (∀ answers : List Bool, answers.length = steps.length → ∃ other : Device,
        (({ scope, runId, device := other } : Journal).attempts steps).map (·.succeeded)
          = answers) := by
  intro journal attempts records text
  have whole : text = String.ofList (written records) := by
    exact (journal.text_performAll steps).trans String.empty_append
  refine ⟨journal.map_step_attempts steps, ?_, ?_, journal.length_accepted steps, ?_,
    fun record _ => lineFeed_not_mem_line record, ?_, ?_, ?_⟩
  · intro attempt inside record given
    obtain ⟨other, same⟩ := journal.exists_journal_of_mem steps attempt inside
    rw [same]
    exact other.record_attempt attempt.step record given
  · intro attempt inside record answered
    obtain ⟨other, same⟩ := journal.exists_journal_of_mem steps attempt inside
    rw [same] at answered ⊢
    exact other.accepted_of_answer attempt.step record answered
  · rw [whole, String.toList_ofList, written, Text.terminated, List.flatMap_map]
  · rw [whole, validateText_written]
  · rintro earlier step later rfl
    have answered := journal.succeeded_getElem?_attempts earlier step later
    rwa [Nat.zero_add, Nat.zero_add] at answered
  · intro answers same
    -- each step is planned together with its answer
    refine ⟨.ofPlan (steps.zip answers), ?_⟩
    have planned := succeeded_attempts_of_plan
      { scope, runId, device := .ofPlan (steps.zip answers) } (steps.zip answers) rfl rfl rfl
    rwa [List.map_fst_zip (Nat.le_of_eq same.symm), List.map_snd_zip (Nat.le_of_eq same)] at planned

/-- The second write is refused, and its number is left out of the log. -/
example :
    let journal : Journal :=
      { scope := "link", runId := "nightly", device := ⟨(· != 1), fun _ => true⟩ }
    let attempts := journal.attempts
      [.note ⟨.epoch, .info, "begin"⟩, .note ⟨.epoch, .warn, "lost"⟩, .flush,
        .note ⟨.epoch, .info, "end"⟩]
    attempts.map (·.succeeded) = [true, false, true, true]
      ∧ (attempts.filterMap (·.accepted?)).map (·.traceId)
        = ["link::nightly::001", "link::nightly::003"] := by
  decide +kernel

end Journal

end LinkContract.Log
