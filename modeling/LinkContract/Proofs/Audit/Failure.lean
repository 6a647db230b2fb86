import LinkContract.Proofs.Audit.Log

/-!
# How an audit fails

An audit without listings on one side fails before it reads anything, and one with a listing
that cannot be read fails before it logs anything, so in both cases the journal stays as it is.
After that only the log can fail. A device that takes a number of lines and then no more has
been given the first lines of the log that a sound device gets, each of them whole, and the
summary does not depend on the log.
-/
namespace LinkContract.Audit

/-! ### Unreadable listings -/

/-- The first listing that cannot be read decides, whatever comes after it. -/
theorem readAll_of_unreadable (read : Reader) (listings : List (String × String))
    (unreadable : ∃ listing ∈ listings, ∃ fault, read listing.1 = .error fault) :
    ∃ earlier listing later fault, listings = earlier ++ listing :: later
      ∧ (∀ before ∈ earlier, ∃ text, read before.1 = .ok text) ∧ read listing.1 = .error fault
      ∧ readAll read listings = .error (.unreadable listing.1 fault) := by
  induction listings with
  | nil =>
    obtain ⟨_, inside, _⟩ := unreadable
    cases inside
  | cons listing rest ih =>
    obtain ⟨path, label⟩ := listing
    cases found : read path with
    | error fault =>
      exact ⟨[], (path, label), rest, fault, rfl, List.forall_mem_nil _, found,
        by rw [readAll, found]⟩
    | ok text =>
      -- this one is read, so one of the others is not
      have remaining : ∃ listing ∈ rest, ∃ fault, read listing.1 = .error fault := by
        obtain ⟨other, inside, fault, failed⟩ := unreadable
        rcases List.mem_cons.mp inside with rfl | later
        · rw [found] at failed
          cases failed
        · exact ⟨other, later, fault, failed⟩
      obtain ⟨earlier, first, later, fault, rfl, before, failed, refused⟩ := ih remaining
      refine ⟨(path, label) :: earlier, first, later, fault, rfl, ?_, failed, ?_⟩
      · exact List.forall_mem_cons.mpr ⟨⟨text, found⟩, before⟩
      · rw [readAll, found, refused]
        rfl

theorem map_fst_zip_labels (paths : List String) :
    (paths.zip (Path.labels paths)).map Prod.fst = paths :=
  List.map_fst_zip (by simp [Path.labels])

theorem loadSides_of_unreadable (read : Reader) (applicationPaths libraryPaths : List String)
    (hasApplication : applicationPaths ≠ []) (hasLibrary : libraryPaths ≠ [])
    (unreadable : ∃ path ∈ applicationPaths ++ libraryPaths, ∃ fault, read path = .error fault) :
    ∃ earlier path later fault, applicationPaths ++ libraryPaths = earlier ++ path :: later
      ∧ (∀ before ∈ earlier, ∃ text, read before = .ok text) ∧ read path = .error fault
      ∧ loadSides read applicationPaths libraryPaths = .error (.unreadable path fault) := by
  have paths := map_fst_zip_labels (applicationPaths ++ libraryPaths)
  -- the listings are the paths beside their labels, so one of them fails with its path
  have listed : ∃ listing ∈ (applicationPaths ++ libraryPaths).zip
      (Path.labels (applicationPaths ++ libraryPaths)), ∃ fault, read listing.1 = .error fault := by
    obtain ⟨path, inside, failed⟩ := unreadable
    rw [← paths] at inside
    obtain ⟨listing, member, rfl⟩ := List.mem_map.mp inside
    exact ⟨listing, member, failed⟩
  obtain ⟨earlier, listing, later, fault, same, before, failed, refused⟩ :=
    readAll_of_unreadable read _ listed
  refine ⟨earlier.map Prod.fst, listing.1, later.map Prod.fst, fault, ?_, ?_, failed, ?_⟩
  · rw [← paths, same, List.map_append, List.map_cons]
  · intro path inside
    obtain ⟨listing, member, rfl⟩ := List.mem_map.mp inside
    exact before listing member
  · rw [loadSides_eq read _ _ hasApplication hasLibrary, loadEach, refused]
    rfl

/-! ### Devices that give out -/

/-- Flushing adds nothing to the text, and a device that only gives out never refuses it. -/
theorem writeLog_of_capacity (journal : Log.Journal) (records : List Log.Record) (capacity : Nat)
    (limited : journal.device = .ofCapacity (journal.writes + capacity))
    (blank : ∀ record ∈ records, record.traceId = "") :
    (writeLog journal records).1
        = (if records.length ≤ capacity then .ok () else .error .brokenPipe)
      ∧ (writeLog journal records).2.text = journal.text
        ++ String.ofList (Text.terminated ((journal.lines records).take capacity)) := by
  obtain ⟨outcome, device, text⟩ := journal.appendAll_of_capacity records capacity limited
  rw [journal.written_take_handed_of_blank records blank] at text
  rw [writeLog]
  -- a refused line ends the log at once, and only a complete log is flushed
  cases reached : journal.appendAll records with
  | mk result after =>
    rw [reached] at outcome device text
    cases result with
    | error error => exact ⟨outcome, text⟩
    | ok done =>
      have same : after.device = .ofCapacity (journal.writes + capacity) := device.trans limited
      have flushed : after.flush = (.ok (), { after with flushCount := after.flushCount + 1 }) := by
        simp only [Log.Journal.flush, same]
        rfl
      simp only [flushed]
      exact ⟨outcome, text⟩

/-- The result depends on whether there is room for all lines, the text on how many there is
room for. -/
theorem run_of_capacity (read : Reader) (variant : Variant)
    (applicationPaths libraryPaths : List String) (occasion : Occasion) (journal : Log.Journal)
    (capacity : Nat) (application library : List Occurrence)
    (loaded : loadSides read applicationPaths libraryPaths = .ok (application, library))
    (limited : journal.device = .ofCapacity (journal.writes + capacity)) :
    let summary := Summary.ofOccurrences application library variant
    let lines := journal.lines <| records occasion variant (applicationPaths ++ libraryPaths)
      application library summary.findings
    ∃ after, run read variant applicationPaths libraryPaths occasion (some journal)
        = (if lines.length ≤ capacity then .ok summary else .error (.unlogged .brokenPipe),
          some after)
      ∧ after.text = journal.text ++ String.ofList (Text.terminated (lines.take capacity)) := by
  intro summary lines
  have blank := fun record inside => (isUnnamed_records occasion variant
    (applicationPaths ++ libraryPaths) application library summary.findings record inside).1
  obtain ⟨outcome, text⟩ := writeLog_of_capacity journal _ capacity limited blank
  refine ⟨_, ?_, text⟩
  rw [run_of_loaded read variant applicationPaths libraryPaths occasion journal application library
    loaded, outcome, ← journal.length_lines]
  by_cases enough : lines.length ≤ capacity
  · rw [if_pos enough, if_pos enough]
    rfl
  · rw [if_neg enough, if_neg enough]
    rfl

/-- An audit from first to last: no listings, a listing that cannot be read, and a log for which
there is room for so many lines. `lines` are those that a sound device gets. -/
theorem run_outcomes (read : Reader) (variant : Variant)
    (applicationPaths libraryPaths : List String) (occasion : Occasion) (journal : Log.Journal)
    (capacity : Nat) :
    let audit := run read variant applicationPaths libraryPaths occasion
    let sound : Log.Journal := { journal with device := .sound }
    let limited : Log.Journal :=
      { journal with device := .ofCapacity (journal.writes + capacity) }
    (applicationPaths = [] →
      audit (some limited) = (.error (.noListings .application), some limited))
    ∧ (applicationPaths ≠ [] → libraryPaths = [] →
      audit (some limited) = (.error (.noListings .library), some limited))
    ∧ (applicationPaths ≠ [] → libraryPaths ≠ [] →
      (∃ path ∈ applicationPaths ++ libraryPaths, ∃ fault, read path = .error fault) →
      ∃ earlier path later fault, applicationPaths ++ libraryPaths = earlier ++ path :: later
        ∧ (∀ before ∈ earlier, ∃ text, read before = .ok text) ∧ read path = .error fault
        ∧ audit (some limited) = (.error (.unreadable path fault), some limited))
    ∧ (applicationPaths ≠ [] → libraryPaths ≠ [] →
      (∀ path ∈ applicationPaths ++ libraryPaths, ∃ text, read path = .ok text) →
      ∃ summary lines, audit none = (.ok summary, none)
        ∧ lines.length = summary.findings.count + 1 ∧ (∀ line ∈ lines, '\n' ∉ line)
        ∧ (∃ after, audit (some sound) = (.ok summary, some after)
          ∧ after.text = journal.text ++ String.ofList (Text.terminated lines))
        ∧ (capacity < lines.length →
          ∃ after, audit (some limited) = (.error (.unlogged .brokenPipe), some after)
            ∧ after.text
              = journal.text ++ String.ofList (Text.terminated (lines.take capacity)))
        ∧ (lines.length ≤ capacity → ∃ after, audit (some limited) = (.ok summary, some after)
          ∧ after.text = journal.text ++ String.ofList (Text.terminated lines))) := by
  intro audit sound limited
  refine ⟨?_, ?_, ?_, ?_⟩
  · rintro rfl
    rfl
  · intro hasApplication noLibrary
    have refused : loadSides read applicationPaths libraryPaths = .error (.noListings .library) := by
      rw [loadSides, if_neg (by simpa using hasApplication), noLibrary]
      rfl
    simp only [audit, run, refused]
  · intro hasApplication hasLibrary unreadable
    obtain ⟨earlier, path, later, fault, same, before, failed, refused⟩ :=
      loadSides_of_unreadable read applicationPaths libraryPaths hasApplication hasLibrary unreadable
    exact ⟨earlier, path, later, fault, same, before, failed, by simp only [audit, run, refused]⟩
  · intro hasApplication hasLibrary readable
    obtain ⟨application, library, loaded⟩ :=
      loadSides_of_readable read applicationPaths libraryPaths hasApplication hasLibrary readable
    let summary := Summary.ofOccurrences application library variant
    let all := records occasion variant (applicationPaths ++ libraryPaths) application library
      summary.findings
    -- the device has no part in the lines, so all three journals make the same of the records
    have cut : ∃ after, audit (some limited)
          = (if (journal.lines all).length ≤ capacity then .ok summary
            else .error (.unlogged .brokenPipe), some after)
        ∧ after.text = journal.text
          ++ String.ofList (Text.terminated ((journal.lines all).take capacity)) :=
      run_of_capacity read variant applicationPaths libraryPaths occasion limited capacity
        application library loaded rfl
    obtain ⟨after, outcome, text⟩ := cut
    have logged := run_of_sound read variant applicationPaths libraryPaths occasion sound
      application library loaded rfl
    have blank := fun record (inside : record ∈ all) =>
      (isUnnamed_records _ _ _ _ _ _ record inside).1
    have written := sound.text_appendEach_of_blank all rfl blank
    refine ⟨summary, journal.lines all, by simp only [audit, run, loaded]; rfl, ?_,
      journal.lineFeed_not_mem_lines all, ⟨_, logged, written⟩, ?_, ?_⟩
    · rw [journal.length_lines]
      exact length_records _ _ _ _ _ _
    · intro short
      exact ⟨after, by rw [outcome, if_neg (Nat.not_le.mpr short)], text⟩
    · intro enough
      rw [List.take_of_length_le enough] at text
      exact ⟨after, by rw [outcome, if_pos enough], text⟩

/-- An audit with eleven findings, on a device that takes a single line. -/
theorem run_breaks_after_one_line :
    let journal : Log.Journal := { scope := "link", runId := "nightly", device := .ofCapacity 1 }
    ∃ after line, run (fun _ => .ok "         U _Znwm\n") {} ["app.nm"] ["shim.nm"]
        (.still .epoch 0) (some journal) = (.error (.unlogged .brokenPipe), some after)
      ∧ after.text = String.ofList (line ++ ['\n']) ∧ '\n' ∉ line := by
  intro journal
  obtain ⟨_, _, _, logged⟩ := run_outcomes (fun _ => .ok "         U _Znwm\n") {} ["app.nm"]
    ["shim.nm"] (.still .epoch 0) { scope := "link", runId := "nightly" } 1
  obtain ⟨summary, lines, unlogged, length, clear, _, short, _⟩ :=
    logged (by decide) (by decide) fun _ _ => ⟨_, rfl⟩
  have counted : ((run (fun _ => .ok "         U _Znwm\n") {} ["app.nm"] ["shim.nm"]
      (.still .epoch 0) none).1.toOption.map fun summary => summary.findings.count) = some 11 := by
    decide +kernel
  rw [unlogged] at counted
  have eleven : summary.findings.count = 11 := Option.some.inj counted
  obtain ⟨after, failed, text⟩ := short (by omega)
  cases lines with
  | nil => cases length
  | cons line rest =>
    -- of twelve lines the device has the first
    refine ⟨after, line, failed, ?_, clear line List.mem_cons_self⟩
    rw [text]
    simp [Text.terminated]

end LinkContract.Audit
