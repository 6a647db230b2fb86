import LinkContract.Proofs.Log.Steps
import Mathlib.Data.List.Nodup

/-!
# Identifiers that a journal gives out

A journal numbers the records that come without an identifier from one upwards, in the order of
the steps. A number is used up by the step that needs it, whether or not the device takes the
line, so a refusal leaves a gap and never brings a number back. The digits of a number give the
number again, so identifiers with different numbers are different.
-/
namespace LinkContract.Log

namespace Journal

theorem traceId_injective (journal : Journal) : Function.Injective journal.traceId := by
  intro first second same
  -- the scope and the run stand in front of both numbers
  have texts := congrArg String.toList same
  simp only [traceId, String.toList_append, String.toList_ofList, List.append_assoc,
    List.append_cancel_left_eq] at texts
  rw [← Time.numberOfDigits_padded 3 first, texts, Time.numberOfDigits_padded]

/-! ### A run -/

theorem traceId?_attempt_of_needsId (journal : Journal) (step : Step) (needs : step.needsId = true) :
    (journal.attempt step).traceId? = some (journal.traceId (journal.issued + 1)) := by
  cases given : step.record? with
  | none => simp [Step.needsId, given] at needs
  | some record =>
    rw [Step.needsId, given, Option.any_some, String.isEmpty_iff] at needs
    rw [attempt, Attempt.traceId?, given, Option.map_some, journal.identify_of_blank record needs]
    rfl

/-- The steps that need an identifier get the numbers after the last one, in their order. By
induction on the steps; the number that comes next is the only thing that they change here. -/
theorem map_traceId?_attempts (journal : Journal) (steps : List Step) :
    ((journal.attempts steps).filter (·.step.needsId)).map (·.traceId?)
      = (List.range' (journal.issued + 1) (steps.countP (·.needsId))).map fun number =>
        some (journal.traceId number) := by
  induction steps generalizing journal with
  | nil => rfl
  | cons step later ih =>
    have leads := journal.leads_perform step
    cases needs : step.needsId with
    | true =>
      have chosen : (journal.attempt step).step.needsId = true := needs
      have number : (journal.perform step).2.issued = journal.issued + 1 := by
        rw [leads.issued, if_pos chosen]
      rw [attempts, List.filter_cons, if_pos chosen, List.map_cons, ih, leads.named, number,
        journal.traceId?_attempt_of_needsId step needs, List.countP_cons_of_pos needs,
        List.range'_succ, List.map_cons]
    | false =>
      have without : ¬ step.needsId = true := Bool.eq_false_iff.mp needs
      have left : ¬ (journal.attempt step).step.needsId = true := without
      have number : (journal.perform step).2.issued = journal.issued := by
        rw [leads.issued, if_neg left, Nat.add_zero]
      rw [attempts, List.filter_cons, if_neg left, ih, leads.named, number,
        List.countP_cons_of_neg without]

theorem length_generated (journal : Journal) (steps : List Step) :
    ((journal.attempts steps).filter (·.step.needsId)).length = steps.countP (·.needsId) := by
  have same := congrArg List.length (journal.map_traceId?_attempts steps)
  rwa [List.length_map, List.length_map, List.length_range'] at same

/-! ### The width of the counter -/

/-- A counter of 64 bits, which wraps around, after it has been raised so many times. -/
def wordCounter : Nat → UInt64
  | 0 => 0
  | raised + 1 => wordCounter raised + 1

theorem toNat_wordCounter (raised : Nat) (fits : raised < UInt64.size) :
    (wordCounter raised).toNat = raised := by
  induction raised with
  | zero => rfl
  | succ raised ih =>
    rw [wordCounter, UInt64.toNat_add, ih (Nat.lt_of_succ_lt fits)]
    exact Nat.mod_eq_of_lt fits

/-- Identifiers that a journal gives out never repeat, whatever its device refuses. The step that
needs the `k`-th of them gets the one with the number `k`, also when its line is refused; a record
that has an identifier keeps it and takes no number; and the identifiers that reach the text have
increasing numbers. There are not more numbers than steps, and for fewer than 2 to the 64th of them
a counter of 64 bits gives the same identifiers. -/
theorem identifiers_never_repeat (scope runId : String) (device : Device) (steps : List Step) :
    let journal : Journal := { scope, runId, device }
    let attempts := journal.attempts steps
    let generated := attempts.filter (·.step.needsId)
    let identifier (number : Nat) : String :=
      scope ++ "::" ++ runId ++ "::" ++ String.ofList (Time.padded 3 number)
    attempts.map (·.step) = steps
      ∧ generated.map (·.traceId?)
        = (List.range' 1 generated.length).map (fun number => some (identifier number))
      ∧ (generated.map (·.traceId?)).Nodup
      ∧ (∃ numbers : List Nat, numbers.Pairwise (· < ·)
        ∧ (generated.filter (·.succeeded)).map (·.traceId?)
          = numbers.map (fun number => some (identifier number)))
      ∧ (∀ attempt ∈ attempts, ∀ record, attempt.step = .append record → record.traceId ≠ "" →
        attempt.record = some record)
      ∧ (journal.performAll steps).issued = generated.length
      ∧ generated.length ≤ steps.length
      ∧ (generated.length < UInt64.size → generated.map (·.traceId?)
        = (List.range' 1 generated.length).map fun number =>
          some (identifier (wordCounter number).toNat))
      ∧ (journal.performAll steps).text
        = String.ofList (written (attempts.filterMap (·.accepted?))) := by
  intro journal attempts generated identifier
  have count : generated.length = steps.countP (·.needsId) := journal.length_generated steps
  have numbered : generated.map (·.traceId?)
      = (List.range' 1 generated.length).map fun number => some (identifier number) := by
    rw [count]
    exact journal.map_traceId?_attempts steps
  refine ⟨journal.map_step_attempts steps, numbered, ?_, ?_, ?_, ?_, ?_, ?_, ?_⟩
  · rw [numbered]
    refine List.Nodup.map ?_ (List.nodup_range' ..)
    exact fun first second same => journal.traceId_injective (Option.some.inj same)
  · -- those that succeed are some of all of them, in the same order
    have fewer : ((generated.filter (·.succeeded)).map (·.traceId?)).Sublist
        (generated.map (·.traceId?)) := List.filter_sublist.map _
    rw [numbered] at fewer
    obtain ⟨numbers, among, same⟩ := List.sublist_map_iff.mp fewer
    exact ⟨numbers, (List.pairwise_lt_range' ..).sublist among, same⟩
  · intro attempt inside record given named
    obtain ⟨other, same⟩ := journal.exists_journal_of_mem steps attempt inside
    rw [given] at same
    obtain ⟨traceId, handed, kept⟩ := other.record_attempt (.append record) record rfl
    rw [same, handed, kept named]
  · rw [count, journal.issued_performAll steps]
    exact Nat.zero_add _
  · rw [count]
    exact List.countP_le_length
  · intro few
    rw [numbered]
    refine List.map_congr_left fun number inside => ?_
    have bounds := List.mem_range'_1.mp inside
    rw [toNat_wordCounter number (by omega)]
  · exact (journal.text_performAll steps).trans String.empty_append

end Journal

end LinkContract.Log
