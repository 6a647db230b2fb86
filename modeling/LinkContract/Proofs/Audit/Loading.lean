import LinkContract.Proofs.Audit.Log
import LinkContract.Proofs.Path.Labels

/-!
# What an audit loads

When all listings can be read, each side of an audit is the listings of its paths one behind
the other, and each listing is read from its text under its label. The log has no part in the
summary: it can only keep an audit from giving it.
-/
namespace LinkContract.Audit

/-- The text behind a path; without one it does not matter. -/
def content (read : Reader) (path : String) : String := (read path).toOption.getD ""

/-- The occurrences in the listing behind one of several paths. -/
def listing (read : Reader) (paths : List String) (path : String) : List Occurrence :=
  Listing.parse (Path.labelAmong paths path) (content read path)

theorem content_of_ok (read : Reader) (path text : String) (found : read path = .ok text) :
    content read path = text := by
  rw [content, found]
  rfl

theorem readAll_zip_map (read : Reader) (label : String → String) (paths : List String)
    (readable : ∀ path ∈ paths, ∃ text, read path = .ok text) :
    readAll read (paths.zip (paths.map label))
      = .ok (paths.map fun path => Listing.parse (label path) (content read path)) := by
  induction paths with
  | nil => rfl
  | cons path rest ih =>
    rw [List.forall_mem_cons] at readable
    obtain ⟨text, found⟩ := readable.1
    rw [List.map_cons, List.zip_cons_cons, readAll, found, ih readable.2, List.map_cons,
      content_of_ok read path text found]
    rfl

theorem loadSides_of_contents (read : Reader) (applicationPaths libraryPaths : List String)
    (hasApplication : applicationPaths ≠ []) (hasLibrary : libraryPaths ≠ [])
    (readable : ∀ path ∈ applicationPaths ++ libraryPaths, ∃ text, read path = .ok text) :
    loadSides read applicationPaths libraryPaths
      = .ok (applicationPaths.flatMap (listing read (applicationPaths ++ libraryPaths)),
          libraryPaths.flatMap (listing read (applicationPaths ++ libraryPaths))) := by
  have loaded : loadEach read (applicationPaths ++ libraryPaths)
      = .ok ((applicationPaths ++ libraryPaths).map
          (listing read (applicationPaths ++ libraryPaths))) := by
    rw [loadEach, Path.labels_eq_map]
    exact readAll_zip_map read (Path.labelAmong (applicationPaths ++ libraryPaths)) _ readable
  rw [loadSides_eq read _ _ hasApplication hasLibrary, loaded]
  simp only [Except.map, List.map_append]
  -- the listings are cut where those of the application end
  rw [← List.length_map (listing read (applicationPaths ++ libraryPaths)), List.take_left,
    List.drop_left, List.flatMap_def, List.flatMap_def]

/-- Audits of these listings give this summary, and no other one. Only a log can keep an audit
from giving it, and only when its device refuses something. -/
structure Gives (read : Reader) (variant : Variant) (applicationPaths libraryPaths : List String)
    (summary : Summary) : Prop where
  unlogged (occasion : Occasion) :
    run read variant applicationPaths libraryPaths occasion none = (.ok summary, none)
  logged (occasion : Occasion) (journal : Log.Journal) (sound : journal.device = .sound) :
    (run read variant applicationPaths libraryPaths occasion (some journal)).1 = .ok summary
  only (occasion : Occasion) (journal : Option Log.Journal) (other : Summary)
    (given : (run read variant applicationPaths libraryPaths occasion journal).1 = .ok other) :
    other = summary

theorem gives_of_loaded (read : Reader) (variant : Variant)
    (applicationPaths libraryPaths : List String) (application library : List Occurrence)
    (loaded : loadSides read applicationPaths libraryPaths = .ok (application, library)) :
    Gives read variant applicationPaths libraryPaths
      (Summary.ofOccurrences application library variant) where
  unlogged occasion := by simp only [run, loaded]
  logged occasion journal sound := by
    rw [run_of_sound read variant applicationPaths libraryPaths occasion journal application library
      loaded sound]
  only occasion journal other given := by
    cases journal with
    | none =>
      simp only [run, loaded] at given
      cases given
      rfl
    | some journal =>
      rw [run_of_loaded read variant applicationPaths libraryPaths occasion journal application
        library loaded] at given
      -- what the log came to decides whether there is a summary, not which one
      cases written : (writeLog journal (records occasion variant (applicationPaths ++ libraryPaths)
          application library (Summary.ofOccurrences application library variant).findings)).1 with
      | error error =>
        rw [written] at given
        cases given
      | ok done =>
        rw [written] at given
        cases given
        rfl

theorem gives_of_readable (read : Reader) (variant : Variant)
    (applicationPaths libraryPaths : List String)
    (hasApplication : applicationPaths ≠ []) (hasLibrary : libraryPaths ≠ [])
    (readable : ∀ path ∈ applicationPaths ++ libraryPaths, ∃ text, read path = .ok text) :
    Gives read variant applicationPaths libraryPaths
      (Summary.ofOccurrences
        (applicationPaths.flatMap (listing read (applicationPaths ++ libraryPaths)))
        (libraryPaths.flatMap (listing read (applicationPaths ++ libraryPaths))) variant) :=
  gives_of_loaded read variant applicationPaths libraryPaths _ _
    (loadSides_of_contents read applicationPaths libraryPaths hasApplication hasLibrary readable)

end LinkContract.Audit
