import SubtitleCoverage.Http.Client

/-!
# Errands of the program

What the program does apart from thinking: it uses the web, looks at files and writes to its user.
The program is a dialogue of such errands.

## Main definitions

* `Errand`, `Errand.Outcome` — the errands and what comes of them.
* `FileFault` — why a file cannot be read.
* `Task` — the dialogues of errands.
-/

namespace SubtitleCoverage.CommandLine

open Http

/-- Why a file cannot be read. -/
inductive FileFault where
  | missing
  | isDirectory
  /-- A part of the path that should be a directory is none. -/
  | notDirectory
  /-- The path, or a part of it, has too many bytes. -/
  | nameTooLong
  /-- The path holds the character that ends paths for the system. -/
  | nulInName
  | notText
  /-- Something else; the system says what. -/
  | stated (message : String)
deriving DecidableEq, Repr

/-- The wording of a fault with a file. -/
def FileFault.message : FileFault → String
  | .missing => "No such file or directory (os error 2)"
  | .isDirectory => "Is a directory (os error 21)"
  | .notDirectory => "Not a directory (os error 20)"
  | .nameTooLong => "File name too long (os error 36)"
  | .nulInName => "file name contained an unexpected NUL byte"
  | .notText => "stream did not contain valid UTF-8"
  | .stated message => message

/-- What the program does. -/
inductive Errand where
  | web (a : Action)
  /-- Looks up the directory of the user. -/
  | home
  /-- Looks whether there is a file. -/
  | isFile (path : String)
  | readFile (path : String)
  /-- Writes what was asked for. -/
  | print (text : String)
  /-- Writes what else the user should know. -/
  | warn (text : String)

/-- What comes of an errand. -/
def Errand.Outcome : Errand → Type
  | .web a => a.Outcome
  | .home => Option String
  | .isFile _ => Bool
  | .readFile _ => Except FileFault Text.Bytes
  | .print _ | .warn _ => Unit

/-- A dialogue of errands. -/
abbrev Task (α : Type) : Type := Dialogue Errand.Outcome α

/-- Writes what was asked for. -/
def print (text : String) : Task Unit := .question (Errand.print text)

/-- Writes what else the user should know. -/
def warn (text : String) : Task Unit := .question (Errand.warn text)

/-- A dialogue on the web as a task. -/
def browse {α : Type} (d : Browsing α) : Task α := d.translate fun a => .question (Errand.web a)

/-- A dialogue with the backend as a task. -/
def inquire {α : Type} (c : Client) (i : Inquiry α) : Task α := browse (i.translate c.perform)

end SubtitleCoverage.CommandLine
