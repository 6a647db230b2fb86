import LinkContract.Audit.Run
import LinkContract.Proofs.Log.Journal

/-!
# The log of an audit

Whatever an audit finds, its records can only fail the validator by their identifiers: the
category of a finding is one that the validator knows, the finding has a symbol, and the
details are lists and counts. Notes have none of these. The clock may go on from record to
record, since each of them reads it for itself.
-/
namespace LinkContract.Audit

theorem readsBack_object (members : Json.Members)
    (plain : ∀ member ∈ members, Json.IsPlain (Json.documentDepth - 2) member.2)
    (sorted : (members.map Prod.fst).Pairwise (· < ·)) : Log.ReadsBack (.object members) where
  toIsPlain := Json.isPlain_object (Json.documentDepth - 2) members plain sorted
  notNull := Json.noConfusion

theorem name_mem_categories (category : EntryPoint.Category) :
    category.name ∈ Log.categories := by
  cases category <;> decide

theorem isRegular_findingRecord (variant : Variant) (level : Log.Level) (event name : String)
    (objects : List String) (outcome : Log.Outcome) (now : Time.Instant) :
    (findingRecord variant level event name objects outcome now).IsRegular where
  details := by
    intro details present
    simp only [findingRecord] at present
    split at present
    next =>
      cases present
      apply readsBack_object
      · rw [List.forall_mem_singleton]
        exact Json.isPlain_strings _ objects
      · exact List.pairwise_singleton _ _
    next => cases present
  category := by
    intro category present
    obtain ⟨entry, _, rfl⟩ := Option.map_eq_some_iff.mp present
    exact name_mem_categories entry.category
  symbol _ := by simp [findingRecord]

theorem isRegular_finalRecord (variant : Variant) (durationMs : UInt64) (paths : List String)
    (findings : Findings) (now : Time.Instant) :
    (finalRecord variant durationMs paths findings now).IsRegular where
  details := by
    intro details present
    cases present
    have count (number : Nat) : Json.IsPlain (Json.documentDepth - 2) (.count number) :=
      Json.isPlain_count _ number
    apply readsBack_object
    · simp only [countMembers, List.forall_mem_cons]
      exact ⟨count _, count _, count _, count _, count _, List.forall_mem_nil _⟩
    · simp only [countMembers, List.map_cons, List.map_nil]
      decide
  category category present := by cases present
  symbol absent := absurd rfl absent

/-- A record as an audit makes it: regular, and without an identifier. -/
def IsUnnamed (record : Log.Record) : Prop := record.traceId = "" ∧ record.IsRegular

/-- What a draft makes of any instant is such a record, with the stamp of that instant. -/
structure IsPlainDraft (draft : Draft) : Prop where
  unnamed (now : Time.Instant) : IsUnnamed (draft now)
  timestamp (now : Time.Instant) : (draft now).timestamp = now.stamp

theorem isPlainDraft_findingDrafts (variant : Variant) (application library : List Occurrence)
    (findings : Findings) :
    ∀ draft ∈ findingDrafts variant application library findings, IsPlainDraft draft := by
  intro draft inside
  -- one case for each kind of finding
  simp only [findingDrafts, List.mem_append, List.mem_map] at inside
  rcases inside with (((⟨_, _, rfl⟩ | ⟨_, _, rfl⟩) | ⟨_, _, rfl⟩) | ⟨_, _, rfl⟩) | ⟨_, _, rfl⟩
  all_goals exact ⟨fun now => ⟨rfl, isRegular_findingRecord _ _ _ _ _ _ now⟩, fun _ => rfl⟩

theorem isPlainDraft_finalRecord (variant : Variant) (durationMs : UInt64) (paths : List String)
    (findings : Findings) : IsPlainDraft (finalRecord variant durationMs paths findings) :=
  ⟨fun now => ⟨rfl, isRegular_finalRecord variant durationMs paths findings now⟩, fun _ => rfl⟩

theorem isPlainDraft_drafts (variant : Variant) (durationMs : UInt64) (paths : List String)
    (application library : List Occurrence) (findings : Findings) :
    ∀ draft ∈ findingDrafts variant application library findings
      ++ [finalRecord variant durationMs paths findings], IsPlainDraft draft := by
  rw [List.forall_mem_append, List.forall_mem_singleton]
  exact ⟨isPlainDraft_findingDrafts _ _ _ _, isPlainDraft_finalRecord _ _ _ _⟩

theorem length_stamped (clock : Nat → Time.Instant) (drafts : List Draft) :
    (stamped clock drafts).length = drafts.length := by
  rw [stamped, List.length_map, List.length_zipIdx]

theorem isUnnamed_records (occasion : Occasion) (variant : Variant) (paths : List String)
    (application library : List Occurrence) (findings : Findings) :
    ∀ record ∈ records occasion variant paths application library findings, IsUnnamed record := by
  intro record inside
  obtain ⟨⟨draft, reading⟩, placed, rfl⟩ := List.mem_map.mp inside
  exact (isPlainDraft_drafts variant occasion.durationMs paths application library findings draft
    (List.fst_mem_of_mem_zipIdx placed)).unnamed _

theorem timestamps_stamped (clock : Nat → Time.Instant) (drafts : List Draft)
    (plain : ∀ draft ∈ drafts, IsPlainDraft draft) :
    (stamped clock drafts).map (·.timestamp)
      = (List.range drafts.length).map fun reading => (clock reading).stamp := by
  rw [stamped, List.map_map, List.range_eq_range', ← List.zipIdx_map_snd 0 drafts, List.map_map]
  refine List.map_congr_left fun draft placed => ?_
  exact (plain draft.1 (List.fst_mem_of_mem_zipIdx placed)).timestamp _

/-! ### Reading the listings -/

theorem readAll_of_readable (read : Reader) (listings : List (String × String))
    (readable : ∀ listing ∈ listings, ∃ text, read listing.1 = .ok text) :
    ∃ occurrences, readAll read listings = .ok occurrences := by
  induction listings with
  | nil => exact ⟨[], rfl⟩
  | cons listing rest ih =>
    obtain ⟨path, label⟩ := listing
    rw [List.forall_mem_cons] at readable
    obtain ⟨text, found⟩ := readable.1
    obtain ⟨occurrences, loaded⟩ := ih readable.2
    exact ⟨Listing.parse label text :: occurrences, by rw [readAll, found, loaded]; rfl⟩

/-- With listings on both sides it is up to the reading of all of them. -/
theorem loadSides_eq (read : Reader) (applicationPaths libraryPaths : List String)
    (hasApplication : applicationPaths ≠ []) (hasLibrary : libraryPaths ≠ []) :
    loadSides read applicationPaths libraryPaths
      = (loadEach read (applicationPaths ++ libraryPaths)).map fun listings =>
        ((listings.take applicationPaths.length).flatten,
          (listings.drop applicationPaths.length).flatten) := by
  rw [loadSides, if_neg, if_neg]
  · simpa using hasLibrary
  · simpa using hasApplication

theorem loadSides_of_readable (read : Reader) (applicationPaths libraryPaths : List String)
    (hasApplication : applicationPaths ≠ []) (hasLibrary : libraryPaths ≠ [])
    (readable : ∀ path ∈ applicationPaths ++ libraryPaths, ∃ text, read path = .ok text) :
    ∃ application library,
      loadSides read applicationPaths libraryPaths = .ok (application, library) := by
  obtain ⟨listings, loaded⟩ := readAll_of_readable read
    ((applicationPaths ++ libraryPaths).zip (Path.labels (applicationPaths ++ libraryPaths)))
    fun listing inside => readable listing.1 (List.of_mem_zip inside).1
  refine ⟨(listings.take applicationPaths.length).flatten,
    (listings.drop applicationPaths.length).flatten, ?_⟩
  rw [loadSides_eq read _ _ hasApplication hasLibrary, loadEach, loaded]
  rfl

theorem length_records (occasion : Occasion) (variant : Variant) (paths : List String)
    (application library : List Occurrence) (findings : Findings) :
    (records occasion variant paths application library findings).length = findings.count + 1 := by
  simp [records, length_stamped, findingDrafts, Findings.count, Nat.add_assoc]

/-- The records of an audit carry what the clock shows at its first readings, in their order. -/
theorem timestamps_records (occasion : Occasion) (variant : Variant) (paths : List String)
    (application library : List Occurrence) (findings : Findings) :
    (records occasion variant paths application library findings).map (·.timestamp)
      = (List.range (findings.count + 1)).map fun reading => (occasion.clock reading).stamp := by
  rw [← length_records occasion variant paths application library findings, records,
    length_stamped]
  exact timestamps_stamped _ _ (isPlainDraft_drafts _ _ _ _ _ _)

/-- The listings are read before anything is logged, and the log decides the rest. -/
theorem run_of_loaded (read : Reader) (variant : Variant)
    (applicationPaths libraryPaths : List String) (occasion : Occasion) (journal : Log.Journal)
    (application library : List Occurrence)
    (loaded : loadSides read applicationPaths libraryPaths = .ok (application, library)) :
    let summary := Summary.ofOccurrences application library variant
    let logged := writeLog journal <| records occasion variant (applicationPaths ++ libraryPaths)
      application library summary.findings
    run read variant applicationPaths libraryPaths occasion (some journal)
      = ((logged.1.mapError .unlogged).map fun _ => summary, some logged.2) := by
  intro summary logged
  have outcome : writeLog journal (records occasion variant (applicationPaths ++ libraryPaths)
      application library summary.findings) = logged := rfl
  simp only [run, loaded]
  rw [outcome]
  cases logged with
  | mk written after => cases written <;> rfl

theorem stamped_congr (clock other : Nat → Time.Instant) (drafts : List Draft)
    (agree : ∀ reading < drafts.length, clock reading = other reading) :
    stamped clock drafts = stamped other drafts := by
  refine List.map_congr_left fun draft placed => ?_
  rw [agree draft.2 (List.snd_lt_of_mem_zipIdx placed)]

/-- The clock is read once for each record, so it can be read that often ahead of the audit. -/
theorem run_of_agreeing_clocks (read : Reader) (variant : Variant)
    (applicationPaths libraryPaths : List String) (durationMs : UInt64)
    (journal : Option Log.Journal) (clock other : Nat → Time.Instant)
    (agree : ∀ reading < recordCount read variant applicationPaths libraryPaths,
      clock reading = other reading) :
    run read variant applicationPaths libraryPaths ⟨clock, durationMs⟩ journal
      = run read variant applicationPaths libraryPaths ⟨other, durationMs⟩ journal := by
  cases loaded : loadSides read applicationPaths libraryPaths with
  | error failure => simp only [run, loaded]
  | ok sides =>
    obtain ⟨application, library⟩ := sides
    let found := findings application library variant
    have same : records ⟨clock, durationMs⟩ variant (applicationPaths ++ libraryPaths) application
          library found
        = records ⟨other, durationMs⟩ variant (applicationPaths ++ libraryPaths) application library
          found := by
      refine stamped_congr clock other _ fun reading before => agree reading ?_
      have count := length_records ⟨clock, durationMs⟩ variant (applicationPaths ++ libraryPaths)
        application library found
      rw [records, length_stamped] at count
      rw [recordCount, loaded]
      exact Nat.lt_of_lt_of_eq before count
    have summed : (Summary.ofOccurrences application library variant).findings = found := rfl
    simp only [run, loaded, summed, same]

theorem run_of_sound (read : Reader) (variant : Variant)
    (applicationPaths libraryPaths : List String) (occasion : Occasion) (journal : Log.Journal)
    (application library : List Occurrence)
    (loaded : loadSides read applicationPaths libraryPaths = .ok (application, library))
    (sound : journal.device = .sound) :
    let summary := Summary.ofOccurrences application library variant
    let written := records occasion variant (applicationPaths ++ libraryPaths) application library
      summary.findings
    run read variant applicationPaths libraryPaths occasion (some journal)
      = (.ok summary, some { journal.appendEach written with
          flushCount := (journal.appendEach written).flushCount + 1 }) := by
  intro summary written
  have device := (journal.appendEach_of_sound written sound).1
  have logged : writeLog journal written = (.ok (), { journal.appendEach written with
      flushCount := (journal.appendEach written).flushCount + 1 }) := by
    simp only [writeLog, journal.appendAll_of_sound written sound, Log.Journal.flush, device]
    rfl
  rw [run_of_loaded read variant applicationPaths libraryPaths occasion journal application library
    loaded, logged]
  rfl

/-- On a sound device an audit of readable listings writes all its records. -/
theorem run_of_readable (read : Reader) (variant : Variant)
    (applicationPaths libraryPaths : List String) (occasion : Occasion) (journal : Log.Journal)
    (hasApplication : applicationPaths ≠ []) (hasLibrary : libraryPaths ≠ [])
    (readable : ∀ path ∈ applicationPaths ++ libraryPaths, ∃ text, read path = .ok text)
    (sound : journal.device = .sound) :
    ∃ application library,
      let summary := Summary.ofOccurrences application library variant
      let written := records occasion variant (applicationPaths ++ libraryPaths) application library
        summary.findings
      run read variant applicationPaths libraryPaths occasion (some journal)
        = (.ok summary, some { journal.appendEach written with
            flushCount := (journal.appendEach written).flushCount + 1 }) := by
  obtain ⟨application, library, loaded⟩ :=
    loadSides_of_readable read applicationPaths libraryPaths hasApplication hasLibrary readable
  exact ⟨application, library, run_of_sound read variant applicationPaths libraryPaths occasion
    journal application library loaded sound⟩

/-! ### The verdict of the validator -/

/-- What a sound journal adds to its text in an audit of readable listings, or for some notes,
passes the validator with as many lines as there are records, just when its run has no double
colon. -/
theorem log_passes_iff (journal : Log.Journal) (sound : journal.device = .sound)
    (clear : ':' ∉ journal.scope.toList) :
    (∀ (read : Reader) (variant : Variant) (applicationPaths libraryPaths : List String)
        (occasion : Occasion), applicationPaths ≠ [] → libraryPaths ≠ [] →
      (∀ path ∈ applicationPaths ++ libraryPaths, ∃ text, read path = .ok text) →
      ∃ summary after added,
        run read variant applicationPaths libraryPaths occasion (some journal)
            = (.ok summary, some after)
          ∧ after.text = journal.text ++ added
          ∧ after.writes = journal.writes + (summary.findings.count + 1)
          ∧ (Log.Passes added (summary.findings.count + 1)
            ↔ ¬ Log.mark <:+: journal.runId.toList))
    ∧ ∀ notes : List Log.Note, notes ≠ [] →
      ∃ added,
        (journal.noteAll notes).text = journal.text ++ added
          ∧ (journal.noteAll notes).writes = journal.writes + notes.length
          ∧ (Log.Passes added notes.length ↔ ¬ Log.mark <:+: journal.runId.toList) := by
  constructor
  · intro read variant applicationPaths libraryPaths occasion hasApplication hasLibrary readable
    obtain ⟨application, library, done⟩ := run_of_readable read variant applicationPaths
      libraryPaths occasion journal hasApplication hasLibrary readable sound
    have unnamed := isUnnamed_records occasion variant (applicationPaths ++ libraryPaths)
      application library (Summary.ofOccurrences application library variant).findings
    have count := length_records occasion variant (applicationPaths ++ libraryPaths)
      application library (Summary.ofOccurrences application library variant).findings
    obtain ⟨_, writes, text⟩ := journal.appendEach_of_sound _ sound
    -- flushing leaves the text and the count of writes alone
    refine ⟨_, _, _, done, text, by rw [← count]; exact writes, ?_⟩
    rw [← count]
    apply journal.passes_handed_iff _ clear
    · exact List.ne_nil_of_length_eq_add_one count
    · exact fun record inside => (unnamed record inside).1
    · exact fun record inside => (unnamed record inside).2
  · intro notes occupied
    obtain ⟨_, writes, text⟩ := journal.appendEach_of_sound (notes.map Log.Note.record) sound
    rw [List.length_map] at writes
    rw [journal.noteAll_eq]
    refine ⟨_, text, writes, ?_⟩
    rw [← List.length_map Log.Note.record]
    apply journal.passes_handed_iff _ clear
    · simpa using occupied
    · intro record inside
      obtain ⟨note, _, rfl⟩ := List.mem_map.mp inside
      rfl
    · intro record inside
      obtain ⟨note, _, rfl⟩ := List.mem_map.mp inside
      exact note.isRegular_record

/-- A run with a single colon, whose audit has an unresolved reference to log while the clock goes
on. -/
theorem log_passes_single_colon :
    let journal : Log.Journal := { scope := "link", runId := "nightly:7" }
    let occasion : Occasion := ⟨fun reading => ⟨reading, 0⟩, 0⟩
    (∃ summary after added,
      run (fun _ => .ok "         U _Znwm\n") {} ["app.nm"] ["shim.nm"] occasion (some journal)
          = (.ok summary, some after)
        ∧ after.text = journal.text ++ added ∧ Log.Passes added (summary.findings.count + 1))
    ∧ ∃ added, (journal.noteAll [⟨.epoch, .info, "start"⟩]).text = journal.text ++ added
        ∧ Log.Passes added 1 := by
  intro journal occasion
  have unmarked : ¬ Log.mark <:+: journal.runId.toList := by
    rw [← Log.length_doubleColonParts_eq_one_iff]
    decide
  obtain ⟨audited, noted⟩ := log_passes_iff journal rfl (by decide)
  obtain ⟨summary, after, added, done, text, _, passes⟩ :=
    audited (fun _ => .ok "         U _Znwm\n") {} ["app.nm"] ["shim.nm"] occasion
      (by decide) (by decide) fun _ _ => ⟨_, rfl⟩
  obtain ⟨entry, entryText, _, entryPasses⟩ := noted [⟨.epoch, .info, "start"⟩] (by decide)
  exact ⟨⟨summary, after, added, done, text, passes.mpr unmarked⟩,
    entry, entryText, entryPasses.mpr unmarked⟩

end LinkContract.Audit
