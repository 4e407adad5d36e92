import SubtitleCoverage.Text.Decimal

/-!
# Options on a command line

A command line is a list of words. Some are options, by a long name after two hyphens or a letter
after one; an option that takes a value has it attached or as the next word. The other words are
operands, or the name of a command, whose own words follow. After two hyphens alone all words are
operands.

A value that is a word of its own is judged when the next option or operand comes, or the words end.
What follows a command is read before a value right in front of the command is judged, so that help
on the command can be had in spite of it.

## Main definitions

* `OptionSpec`, `Grammar` — what may be written.
* `Given` — what has been written.
* `Stop` — why the words are not looked at any further.
* `Grammar.read` — the meaning of a list of words.
-/

namespace SubtitleCoverage.CommandLine

open Text

/-! ### What may be written -/

/-- The kinds of values. -/
inductive ValueKind where
  | text
  /-- The name of a file, which cannot be empty. -/
  | path
  | signed
  | unsigned
deriving DecidableEq, Repr

/-- Whether a text is a value of a kind. -/
def ValueKind.accepts : ValueKind → String → Bool
  | .text, _ => true
  | .path, s => s ≠ ""
  | .signed, s => (readInt64 s).toBool
  | .unsigned, s => (readUInt64 s).toBool

/-- An option. -/
structure OptionSpec where
  long : String
  letter : Option Char := none
  /-- What kind of value it takes, if it takes one. -/
  value : Option ValueKind := none
deriving DecidableEq, Repr

/-- What may be written at one level of a command line. -/
structure Grammar where
  options : List OptionSpec := []
  /-- The kind of the operand, if there may be one. -/
  operand : Option ValueKind := none
  commands : List String := []
  /-- Whether the version can be asked for. -/
  hasVersion : Bool := false

/-- What has been written. -/
structure Given where
  /-- The options with their values; those without value have an empty one. -/
  values : List (String × String) := []
  operand : Option String := none
  /-- A command and the words after it. -/
  command : Option (String × List String) := none
  /-- An option and a value that has not been judged. -/
  unjudged : Option (OptionSpec × String) := none
deriving DecidableEq, Repr

/-- The value of an option. -/
def Given.value? (g : Given) (long : String) : Option String := g.values.lookup long

/-- Whether an option has been written. -/
def Given.has (g : Given) (long : String) : Bool := (g.value? long).isSome

/-- Why the words are not looked at any further. -/
inductive Stop where
  /-- They have no meaning. -/
  | misuse
  /-- Help is wanted. -/
  | help
  /-- The version is wanted. -/
  | version
deriving DecidableEq, Repr

namespace Given

/-- An option with its value. It can be written only once. -/
def give (g : Given) (o : OptionSpec) (value : String) : Except Stop Given :=
  if g.has o.long || !o.value.all (·.accepts value) then .error .misuse
  else .ok { g with values := g.values ++ [(o.long, value)] }

/-- Judges the value that has not been judged. -/
def settle (g : Given) : Except Stop Given :=
  match g.unjudged with
  | none => .ok g
  | some (o, value) => { g with unjudged := none }.give o value

end Given

/-! ### Reading -/

/-- What has been written so far. -/
structure Reading where
  given : Given := {}
  /-- The option whose value comes next. -/
  waiting : Option OptionSpec := none
  /-- Whether all words that come are operands. -/
  operandsOnly : Bool := false

namespace Reading

/-- An option with its value. -/
def give (r : Reading) (o : OptionSpec) (value : String) : Except Stop Reading :=
  return { r with given := ← r.given.give o value }

/-- Judges the value that has not been judged. -/
def settle (r : Reading) : Except Stop Reading := return { r with given := ← r.given.settle }

/-- A word as the value of an option. -/
def hold (r : Reading) (o : OptionSpec) (value : String) : Reading :=
  { r with given := { r.given with unjudged := some (o, value) }, waiting := none }

/-- An operand. -/
def operand (g : Grammar) (r : Reading) (word : String) : Except Stop Reading :=
  match g.operand, r.given.operand with
  | some kind, none =>
    if kind.accepts word then .ok { r with given := { r.given with operand := some word } }
    else .error .misuse
  | _, _ => .error .misuse

/-- An option by its long name, with or without a value attached. -/
def long (g : Grammar) (r : Reading) (name : String) (value : Option String) :
    Except Stop Reading :=
  match g.options.find? fun o => o.long = name with
  | some o =>
    match o.value, value with
    | none, none => r.give o ""
    | none, some _ => .error .misuse
    | some _, some v => r.give o v
    | some _, none => .ok { r with waiting := some o }
  | none =>
    if value.isSome then .error .misuse
    else if name = "help" then .error .help
    else if name = "version" && g.hasVersion then .error .version
    else .error .misuse

/-- A value that is attached to a letter, perhaps by an equals sign. -/
def attached : List Char → String
  | '=' :: cs => String.ofList cs
  | cs => String.ofList cs

/-- Options by their letters. The first one that takes a value has all that follows. -/
def letters (g : Grammar) (r : Reading) : List Char → Except Stop Reading
  | [] => .ok r
  | c :: cs =>
    match g.options.find? fun o => o.letter = some c with
    | some o =>
      match o.value, cs with
      | none, _ => do letters g (← r.give o "") cs
      | some _, [] => .ok { r with waiting := some o }
      | some _, _ => r.give o (attached cs)
    | none =>
      if c = 'h' then .error .help
      else if c = 'V' && g.hasVersion then .error .version
      else .error .misuse

/-- A word where all is open. -/
def word (g : Grammar) (r : Reading) (w : String) : Except Stop Reading :=
  match w.toList with
  | ['-', '-'] => .ok { r with operandsOnly := true }
  | '-' :: '-' :: cs =>
    let name := String.ofList (cs.takeWhile (· ≠ '='))
    match cs.dropWhile (· ≠ '=') with
    | [] => r.long g name none
    | _ :: value => r.long g name (some (String.ofList value))
  | '-' :: c :: cs => r.letters g (c :: cs)
  | _ => r.operand g w

end Reading

/-- Whether a word begins like an option. -/
def looksLikeOption (w : String) : Bool := w.startsWith "-" && w ≠ "-"

/-- The meaning of the words that are left. -/
def Grammar.readFrom (g : Grammar) : Reading → List String → Except Stop Given
  | r, [] => if r.waiting.isSome then .error .misuse else r.given.settle
  | r, w :: ws =>
    match r.waiting with
    -- A value that looks like an option has to be attached.
    | some o => if looksLikeOption w then .error .misuse else readFrom g (r.hold o w) ws
    | none =>
      if !r.operandsOnly && g.commands.contains w then
        .ok { r.given with command := some (w, ws) }
      else do
        let r ← r.settle
        readFrom g (← if r.operandsOnly then r.operand g w else r.word g w) ws

/-- The meaning of a list of words. -/
def Grammar.read (g : Grammar) (words : List String) : Except Stop Given := g.readFrom {} words

end SubtitleCoverage.CommandLine
