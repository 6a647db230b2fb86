import LinkContract.Listing
import LinkContract.Proofs.Text.LineCuts

/-!
# Listings in parts

A listing that ends with its line can be read apart from what follows it. What the second part
has to know of the first one is a single object, the one that the last header names. Lines are
trimmed at their end before they are read, so line ends with a carriage return say the same.
-/
namespace LinkContract.Listing

/-- The objects that the header lines of a text name, from the first to the last. -/
def headers (text : String) : List String :=
  (Text.lines text.toList).filterMap fun line => (headerOf? (Text.trimEnd line)).map String.ofList

theorem headerOf?_eq_some_iff (line label : List Char) :
    headerOf? line = some label ↔ line = label ++ [':'] ∧ hasBlank label = false := by
  rw [headerOf?]
  constructor
  · intro found
    split at found
    next header =>
      obtain ⟨⟨front, rfl⟩, solid⟩ := header.imp_left List.getLast?_eq_some_iff.mp
      rw [List.dropLast_concat] at found solid
      cases found
      exact ⟨rfl, solid⟩
    next => cases found
  · rintro ⟨rfl, solid⟩
    simp [solid]

/-- The object that a line sets for the lines after it. -/
def Line.header? : Line → Option String
  | .header label => some (String.ofList label)
  | _ => none

theorem header?_readLine (raw : List Char) :
    (readLine raw).header? = (headerOf? (Text.trimEnd raw)).map String.ofList := by
  simp only [readLine]
  split
  next object header => simp [header, Line.header?]
  next noHeader =>
    rw [noHeader]
    split <;> rfl

/-- The last header decides, whatever held before it. -/
theorem lastObject_eq (object : String) (lines : List Line) :
    lastObject object lines = (lines.filterMap Line.header?).getLastD object := by
  induction lines generalizing object with
  | nil => rfl
  | cons line rest ih =>
    -- only a header changes the object, and then the one given does not matter any more
    cases line with
    | skipped => exact ih object
    | header label =>
      have named : (Line.header label :: rest).filterMap Line.header?
          = String.ofList label :: rest.filterMap Line.header? := rfl
      rw [named, List.getLastD_cons]
      exact ih (String.ofList label)
    | symbol => exact ih object

theorem lastObject_read (object text : String) :
    lastObject object (read text) = (headers text).getLastD object := by
  rw [lastObject_eq, read, List.filterMap_map, headers]
  congr 2
  funext raw
  exact header?_readLine raw

theorem read_append (first second : String) (ends : Text.EndsLine first.toList) :
    read (first ++ second) = read first ++ read second := by
  rw [read, String.toList_append, Text.lines_append_of_endsLine _ _ ends, List.map_append, read,
    read]

/-- Only the end of a line is touched, and it is trimmed anyway. -/
theorem readLine_dropReturn (raw : List Char) : readLine (Text.dropReturn raw) = readLine raw := by
  rw [readLine, Text.trimEnd_dropReturn, readLine]

/-- The text with a carriage return in front of every line feed. -/
def withReturns (text : String) : String := String.ofList (Text.withReturns text.toList)

theorem read_withReturns (text : String) : read (withReturns text) = read text := by
  rw [read, withReturns, String.toList_ofList,
    Text.map_lines_withReturns readLine readLine_dropReturn, read]

/-- A listing can be cut behind any line. The second part is then read under the object of the
last header in the first part, or under the object given if there is none. Line ends may be
written with a carriage return or without. -/
theorem listing_cut_at_lines (object : String) :
    (∀ first second : String, Text.EndsLine first.toList →
        parse object (first ++ second)
          = parse object first ++ parse ((headers first).getLastD object) second)
      ∧ ∀ text : String, parse object (withReturns text) = parse object text := by
  constructor
  · intro first second ends
    rw [parse, read_append first second ends, collect_append, lastObject_read, parse, parse]
  · intro text
    rw [parse, read_withReturns, parse]

/-- The header of the first part holds in the second part until its own header; a line with a
blank before the colon is none. -/
theorem listing_cut_below_header :
    let first := "U a\nx.o:\n00 T f\nnot one:\n"
    let second := "U g\r\nz.o: 0 W h\ny.o:\nt k"
    Text.EndsLine first.toList
      ∧ parse "d" first = [⟨"d", "a", .undefined⟩, ⟨"x.o", "f", .defined⟩]
      ∧ parse "d" (first ++ second) = parse "d" first ++ parse "x.o" second
      ∧ parse "x.o" second
        = [⟨"x.o", "g", .undefined⟩, ⟨"z.o", "h", .weakDefined⟩, ⟨"y.o", "k", .local⟩]
      ∧ parse "d" (withReturns second) = parse "d" second := by
  intro first second
  have ends : Text.EndsLine first.toList := by decide
  have header : headers first = ["x.o"] := by decide
  have cut := (listing_cut_at_lines "d").1 first second ends
  rw [header] at cut
  exact ⟨ends, by decide, cut, by decide, (listing_cut_at_lines "d").2 second⟩

/-- A cut inside a line makes two lines of it. -/
example : parse "d" ("U a" ++ "b") ≠ parse "d" "U a" ++ parse "d" "b" := by decide

end LinkContract.Listing
