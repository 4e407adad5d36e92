import SubtitleCoverage.CommandLine.Options

/-!
# Commands

What a user can ask the program to do, and how it is written on the command line. The configuration
file can be named before the command or after it; the latter counts.

## Main definitions

* `Command`, `Invocation` — what the program is asked to do.
* `Invocation.ofWords` — the meaning of a command line.
-/

namespace SubtitleCoverage.CommandLine

open Text

/-- Which part of the library is shown, and how. -/
structure CoverageOptions where
  profile : Option Int64 := none
  search : Option String := none
  sort : Option String := none
  descending : Bool := false
  page : UInt64 := 1
deriving DecidableEq, Repr

/-- What the program can do. -/
inductive Command where
  /-- Shows the units with their coverage. -/
  | coverage (o : CoverageOptions)
  /-- Shows the totals of the library. -/
  | missing (profile : Option Int64)
  /-- Starts a search for all missing subtitles, and perhaps waits until it is over. -/
  | searchMissing (profile : Option Int64) (follow : Bool)
  /-- Checks a configuration file. -/
  | validate (path : Option String)
  /-- Shows the codes of languages. -/
  | languages
  | version
deriving DecidableEq, Repr

/-- What the program is asked to do. -/
structure Invocation where
  /-- The configuration file, if one is named. -/
  config : Option String := none
  verbose : Bool := false
  command : Command
deriving DecidableEq, Repr

/-! ### Grammar -/

/-- The options that can be written before and after a command. -/
def commonOptions : List OptionSpec :=
  [⟨"config", some 'c', some .path⟩, ⟨"verbose", some 'v', none⟩]

/-- The option that names a profile. -/
def profileOption : OptionSpec := ⟨"profile", none, some .signed⟩

/-- What may be written after a command. -/
def grammarOf : String → Grammar
  | "coverage" =>
    { options := commonOptions ++ [profileOption, ⟨"search", some 's', some .text⟩,
        ⟨"sort", none, some .text⟩, ⟨"desc", none, none⟩, ⟨"page", some 'p', some .unsigned⟩] }
  | "missing" => { options := commonOptions ++ [profileOption] }
  | "search-missing" =>
    { options := commonOptions ++ [profileOption, ⟨"follow", some 'f', none⟩] }
  | "validate" => { options := commonOptions, operand := some .path }
  | _ => { options := commonOptions }

/-- The names of the commands. -/
def commandNames : List String :=
  ["coverage", "missing", "search-missing", "validate", "languages", "version"]

/-- What may be written before a command. -/
def mainGrammar : Grammar :=
  { options := commonOptions, commands := "help" :: commandNames, hasVersion := true }

/-! ### Meaning -/

/-- The number given as an option. -/
def Given.int64? (g : Given) (long : String) : Option Int64 :=
  (g.value? long).bind fun s => (readInt64 s).toOption

/-- The natural number given as an option. -/
def Given.uint64? (g : Given) (long : String) : Option UInt64 :=
  (g.value? long).bind fun s => (readUInt64 s).toOption

/-- The command with a name and what is written after it. -/
def commandOf (name : String) (g : Given) : Command :=
  match name with
  | "coverage" =>
    .coverage {
      profile := g.int64? "profile"
      search := g.value? "search"
      sort := g.value? "sort"
      descending := g.has "desc"
      page := (g.uint64? "page").getD 1 }
  | "missing" => .missing (g.int64? "profile")
  | "search-missing" => .searchMissing (g.int64? "profile") (g.has "follow")
  | "validate" => .validate g.operand
  | "languages" => .languages
  | _ => .version

/-- Whether help is wanted on something that there is. -/
def isHelpTopic : List String → Bool
  | [] => true
  | [name] => ("help" :: commandNames).contains name
  | _ => false

/-- The meaning of a command line. -/
def Invocation.ofWords (words : List String) : Except Stop Invocation := do
  let before ← mainGrammar.read words
  match before.command with
  | none => .error .misuse
  | some ("help", topic) => .error (if isHelpTopic topic then .help else .misuse)
  | some (name, words) =>
    let after ← (grammarOf name).read words
    let before ← before.settle
    return {
      config := after.value? "config" <|> before.value? "config"
      verbose := after.has "verbose" || before.has "verbose"
      command := commandOf name after }

end SubtitleCoverage.CommandLine
