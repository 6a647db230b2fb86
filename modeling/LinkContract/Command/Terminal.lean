import LinkContract.Files
import LinkContract.Time.Instant

/-!
# Terminals

What a command may do to its surroundings: read and write files, print lines, and
look at the clocks. A terminal is given by how it does each of these in some
monad; one that works on a file tree makes a run of a command a plain function.
-/
namespace LinkContract

structure Terminal (m : Type → Type) where
  readText : String → m (Except Files.Fault String)
  /-- Puts a text in place of what a file held, or makes the file. -/
  writeText : String → String → m (Except Files.Fault Unit)
  makeDirectories : String → m (Except Files.Fault Unit)
  /-- Prints a line on the standard output. -/
  print : String → m Unit
  /-- Prints a line on the standard error. -/
  warn : String → m Unit
  now : m Time.Instant
  /-- Milliseconds on a clock that never goes back. -/
  ticks : m UInt64

namespace Terminal

/-- A terminal's surroundings, with what has been printed so far. -/
structure Desk where
  files : Files.Tree
  printed : String := ""
  warned : String := ""
  clock : Time.Instant := .epoch

/-- Carries a change of the file tree out, if it succeeds. -/
def change (edit : Files.Tree → Except Files.Fault Files.Tree) :
    StateM Desk (Except Files.Fault Unit) :=
  modifyGet fun desk =>
    match edit desk.files with
    | .ok files => (.ok (), { desk with files })
    | .error fault => (.error fault, desk)

/-- The terminal of a desk, on which no time passes. -/
def ofDesk : Terminal (StateM Desk) where
  readText path := return (← get).files.readText path
  writeText path text := change fun files => files.writeText path text
  makeDirectories path := change fun files => files.makeDirectories path
  print line := modify fun desk => { desk with printed := desk.printed ++ line ++ "\n" }
  warn line := modify fun desk => { desk with warned := desk.warned ++ line ++ "\n" }
  now := return (← get).clock
  ticks := return 0

end Terminal

end LinkContract
