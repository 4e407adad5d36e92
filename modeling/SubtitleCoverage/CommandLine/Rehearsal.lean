import SubtitleCoverage.CommandLine.Errand
import SubtitleCoverage.Http.Script

/-!
# Rehearsing the program

In a rehearsal the program meets files that are only written down, and a server that follows a
script. What it writes is kept.

## Main definitions

* `Place` — where a path leads.
* `Rehearsal` — the files, the server and what has been written.
* `Rehearsal.read` — what is in a file, or why it cannot be read.
* `Rehearsal.answer` — what comes of an errand.
-/

namespace SubtitleCoverage.CommandLine

open Http Text

/-- A place among the directories and files: the names on the way to it from the root. -/
abbrev Place := List String

namespace Place

/-- The parts of a path. -/
def parts (path : String) : List String := (path.toList.splitOnP (· = '/')).map String.ofList

/-- The place that one part of a path leads to. -/
def step (here : Place) (part : String) : Place :=
  if part = "" || part = "." then here
  else if part = ".." then here.dropLast
  else here ++ [part]

/-- The place that a path leads to from another place, whether or not there is something on the
way. A path that begins with a slash leads from the root. -/
def follow (here : Place) (path : String) : Place :=
  (parts path).foldl step (if path.startsWith "/" then [] else here)

end Place

/-- What the program meets in a rehearsal, and what it has written. -/
structure Rehearsal where
  /-- The path of the directory in which the program runs. -/
  directory : String
  /-- The paths of files and what is in them. -/
  files : List (String × Bytes) := []
  /-- The paths of directories that need not hold a file. -/
  directories : List String := []
  server : Script
  /-- What has been printed, the latest first. -/
  printed : List String := []
  /-- What has been said besides, the latest first. -/
  warned : List String := []

namespace Rehearsal

/-! ### Files -/

/-- The place where the program runs. -/
def here (r : Rehearsal) : Place := Place.follow [] r.directory

/-- The contents of the file at a place. -/
def file? (r : Rehearsal) (place : Place) : Option Bytes :=
  (r.files.find? fun f => r.here.follow f.1 == place).map (·.2)

/-- The places where a directory is bound to be, for those around it follow. -/
def outposts (r : Rehearsal) : List Place :=
  r.here :: (r.directories.map r.here.follow ++ r.files.map fun f => (r.here.follow f.1).dropLast)

/-- Whether there is a directory at a place. -/
def isDirectory (r : Rehearsal) (place : Place) : Bool :=
  r.outposts.any fun outpost => place.isPrefixOf outpost

/-- How many bytes a part of a path may have. -/
def maxPartSize : Nat := 255

/-- How many bytes a path may have. -/
def maxPathSize : Nat := 4095

/-- The file at the end of the parts of a path that goes on from a directory. -/
def lookAt (r : Rehearsal) : Place → List String → Except FileFault Bytes
  | _, [] => .error .isDirectory
  | place, part :: rest =>
    let next := place.step part
    if maxPartSize < part.utf8ByteSize then .error .nameTooLong
    else if r.isDirectory next then lookAt r next rest
    else
      match r.file? next with
      | none => .error .missing
      | some contents => if rest = [] then .ok contents else .error .notDirectory

/-- The contents of the file with a path. -/
def read (r : Rehearsal) (path : String) : Except FileFault Bytes :=
  if path.contains '\x00' then .error .nulInName
  else if path = "" then .error .missing
  else if maxPathSize < path.utf8ByteSize then .error .nameTooLong
  else r.lookAt (if path.startsWith "/" then [] else r.here) (Place.parts path)

/-- The directory of the user. -/
def home (r : Rehearsal) : String := r.directory ++ "/home"

/-- What comes of an errand. -/
def answer : (e : Errand) → Rehearsal → e.Outcome × Rehearsal
  | .web a, r =>
    let (outcome, server) := Script.answer a r.server
    (outcome, { r with server })
  | .home, r => (some r.home, r)
  | .isFile path, r => ((r.read path).toBool, r)
  | .readFile path, r => (r.read path, r)
  | .print text, r => ((), { r with printed := text :: r.printed })
  | .warn text, r => ((), { r with warned := text :: r.warned })

end Rehearsal

end SubtitleCoverage.CommandLine
