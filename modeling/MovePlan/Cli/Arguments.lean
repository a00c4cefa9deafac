import MovePlan.Text.Digit
import MovePlan.Text.Path

/-!
# Arguments of a command line

Options have long names after two hyphens, which may be cut short as long as one option alone begins
so, and perhaps a letter after one hyphen; letters of flags may be written together. A value follows
its option as the next argument or after an equals sign. Whatever else there is are words. Arguments
after a lone `--` are words whatever they look like, and so are negative numbers and what has a blank
in it.
-/

namespace MovePlan.Cli

open Text

/-- What an option does. -/
inductive Effect where
  /-- It is set. -/
  | flag
  /-- It takes a value. -/
  | value
  /-- It asks for help. -/
  | help
  deriving DecidableEq, Repr

/-- An option. -/
structure OptionSpec where
  name : String
  effect : Effect
  letter : Option Char := none
  deriving DecidableEq, Repr

/-- The long spelling of an option. -/
def OptionSpec.long (o : OptionSpec) : List Char := '-' :: '-' :: o.name.toList

/-- A text that is written in the same argument as its option: after an equals sign, or right after
the letter. -/
structure Attached where
  /-- Whether the option is spelled by its letter. -/
  byLetter : Bool
  text : List Char
  deriving DecidableEq, Repr

/-- What an argument is. -/
inductive Argument where
  | word (s : List Char)
  /-- The lone `--`. -/
  | separator
  | option (spec : OptionSpec) (attached : Option Attached)
  /-- It looks like an option, but there is none such. -/
  | unknown
  deriving DecidableEq, Repr

/-! ## Telling arguments apart -/

/-- Whether a text is a negative number. -/
def isNegativeNumber (s : List Char) : Bool :=
  match s with
  | '-' :: rest =>
    let digits := rest.takeWhile isDigit
    match rest.dropWhile isDigit with
    | '.' :: fraction =>
      !(fraction.takeWhile isDigit).isEmpty && isFieldEnd (fraction.dropWhile isDigit)
    | tail => !digits.isEmpty && isFieldEnd tail
  | _ => false

/-- The text before the first equals sign, and the text after it if there is one. -/
def cutEquals (s : List Char) : List Char × Option (List Char) :=
  match s.dropWhile (· != '=') with
  | _ :: value => (s.takeWhile (· != '='), some value)
  | [] => (s, none)

/-- The option that has exactly the spelling. -/
def specSpelled? (specs : List OptionSpec) (s : List Char) : Option OptionSpec :=
  specs.find? fun o => o.long == s || (o.letter.map fun c => ['-', c]) == some s

/-- The options that a cut or joined spelling may mean, with what is attached to it. -/
def candidates (specs : List OptionSpec) (s : List Char) :
    List (OptionSpec × Option Attached) :=
  match s with
  | '-' :: '-' :: _ =>
    let (start, value) := cutEquals s
    (specs.filter fun o => start.isPrefixOf o.long).map fun o =>
      (o, value.map fun v => ⟨false, v⟩)
  | '-' :: letter :: tail =>
    (specs.filter fun o => o.letter == some letter).map fun o => (o, some ⟨true, tail⟩)
  | _ => []

/-- The option that an argument names, by a whole spelling with or without a value. -/
def wholeOption? (specs : List OptionSpec) (s : List Char) : Option (OptionSpec × Option Attached) :=
  match specSpelled? specs s with
  | some o => some (o, none)
  | none =>
    match cutEquals s with
    | (start, some value) =>
      (specSpelled? specs start).map fun o => (o, some ⟨start != o.long, value⟩)
    | _ => none

/-- What an argument is; none if it may mean several options. -/
def argumentOf (specs : List OptionSpec) (s : List Char) : Option Argument :=
  if s.head? ≠ some '-' ∨ s.length = 1 then some (.word s)
  else
    match wholeOption? specs s with
    | some (o, attached) => some (.option o attached)
    | none =>
      match candidates specs s with
      | [(o, attached)] => some (.option o attached)
      | _ :: _ :: _ => none
      | [] => some (if isNegativeNumber s || s.contains ' ' then .word s else .unknown)

/-- What the arguments are; none if one of them may mean several options. -/
def arguments (specs : List OptionSpec) : List (List Char) → Option (List Argument)
  | [] => some []
  | s :: rest =>
    if s = ['-', '-'] then some (.separator :: rest.map .word)
    else do
      let t ← argumentOf specs s
      let later ← arguments specs rest
      return t :: later

/-! ## Options without a value of their own -/

/-- The options that an option and the letters behind it set; none if one of the letters is no
option's, or if there are none. -/
def bundle (specs : List OptionSpec) (o : OptionSpec) : List Char → Option (List OptionSpec)
  | [] => none
  | c :: tail =>
    match specs.find? fun o => o.letter == some c with
    | none => none
    | some next =>
      if tail.isEmpty then some [o, next] else (bundle specs next tail).map fun os => o :: os

/-- The options that an argument sets which takes no value. Nothing may be attached to a long name. -/
def flagsOf (specs : List OptionSpec) (o : OptionSpec) (attached : Option Attached) :
    Option (List OptionSpec) :=
  match attached with
  | none => some [o]
  | some a => if a.byLetter then bundle specs o a.text else none

/-! ## Reading -/

/-- The options that were given, each with its value if it takes one, the word, and whether anything
is left over. -/
structure Given where
  values : List (String × String) := []
  flags : List String := []
  word : Option String := none
  stray : Bool := false

/-- The value of an option; the last one counts. -/
def Given.value? (g : Given) (name : String) : Option String := g.values.reverse.lookup name

def Given.hasFlag (g : Given) (name : String) : Bool := g.flags.contains name

/-- What came of reading a command line. -/
inductive Read (α : Type) where
  | done (a : α)
  /-- Help is asked for. -/
  | help
  /-- The arguments are wrong. -/
  | wrong

/-- Sets flags. -/
def Given.set (g : Given) (os : List OptionSpec) : Read Given :=
  if os.any fun o => o.effect == .help then .help
  else .done { g with flags := g.flags ++ os.map OptionSpec.name }

/-- Reads what arguments are, for a command that takes one word. A lone `--` belongs to the word
before or after it. -/
def readEach (specs : List OptionSpec) (g : Given) : List Argument → Read Given
  | [] => .done g
  | .word s :: rest =>
    match g.word, rest with
    | none, .separator :: rest => readEach specs { g with word := some (String.ofList s) } rest
    | none, rest => readEach specs { g with word := some (String.ofList s) } rest
    | some _, rest => readEach specs { g with stray := true } rest
  | .separator :: rest => readEach specs { g with stray := g.stray || g.word.isSome } rest
  | .unknown :: rest => readEach specs { g with stray := true } rest
  | .option o attached :: rest =>
    if o.effect = .value then
      match attached, rest with
      | some a, rest =>
        readEach specs { g with values := g.values ++ [(o.name, String.ofList a.text)] } rest
      | none, .word s :: rest =>
        readEach specs { g with values := g.values ++ [(o.name, String.ofList s)] } rest
      | none, _ => .wrong
    else
      match flagsOf specs o attached with
      | none => .wrong
      | some os =>
        match g.set os with
        | .done g => readEach specs g rest
        | other => other

/-- Reads the arguments of a command that takes one word. -/
def readArguments (specs : List OptionSpec) (argv : List String) : Read Given :=
  match arguments specs (argv.map String.toList) with
  | none => .wrong
  | some ts => readEach specs {} ts

end MovePlan.Cli
