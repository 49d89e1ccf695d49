import RealmKeeper.Settings.Basic

/-!
# Command line options

Words such as `--name value`, `--name=value` and `-v`, read in order up to the first word that is no
option.

* `OptionSpec`: what is known of an option;
* `scan`: the options at the beginning of a line, and the words after them;
* `settle`: the options with the values of their variables for those that are not on the line.
-/

namespace RealmKeeper.Command

open RealmKeeper.Text

/-- How often an option is given, and whether it has a value. -/
inductive Arity where
  | flag
  | single
  | repeated
deriving DecidableEq, Repr

/-- **An option.** -/
structure OptionSpec where
  /-- The name behind two dashes. -/
  name : String
  /-- The letter behind one dash. -/
  letter : Option Char
  arity : Arity
  /-- The variable that stands in for the option. -/
  variableName : Option String
  accepts : String → Bool

/-- Why reading a line ends early. -/
inductive Halt where
  /-- The line is wrong. -/
  | usage
  | help
  | version
deriving DecidableEq, Repr

/-- The options that were given, with their values, in order. -/
abbrev Given : Type := List (String × String)

/-- Adds an option with a value. -/
def Given.put (given : Given) (spec : OptionSpec) (value : String) : Except Halt Given :=
  if spec.arity ≠ .repeated ∧ given.any (·.1 = spec.name) then .error .usage
  else if spec.accepts value then .ok (given ++ [(spec.name, value)])
  else .error .usage

/-- A word that can be the value of an option. -/
def isValueWord (word : List Char) : Bool :=
  word = ['-'] || !(['-'].isPrefixOf word)

/-- Reads the letters behind one dash; only flags have letters. -/
def scanLetters (specs : List OptionSpec) (versioned : Bool) :
    List Char → Given → Except Halt Given
  | [], given => .ok given
  | c :: rest, given =>
    if c = 'h' then .error .help
    else if versioned && c = 'V' then .error .version
    else
      match specs.find? fun s => s.letter = some c with
      | none => .error .usage
      | some spec => (given.put spec "").bind (scanLetters specs versioned rest)

/-- An option with its name and what may follow it in the same word. -/
def splitOption (word : List Char) : String × Option String :=
  (String.ofList (word.takeWhile (· ≠ '=')),
    match word.dropWhile (· ≠ '=') with
    | [] => none
    | _ :: value => some (String.ofList value))

/-- **Reads options** up to the first other word. All words must be UTF-8. -/
def scan (specs : List OptionSpec) (versioned : Bool) :
    List (List UInt8) → Given → Except Halt (Given × List (List UInt8))
  | [], given => .ok (given, [])
  | word :: rest, given =>
    match Utf8.decode word with
    | none => .error .usage
    | some ['-', '-'] => if rest.isEmpty then .ok (given, []) else .error .usage
    | some ('-' :: '-' :: option) =>
      let (name, inline) := splitOption option
      if name = "help" && inline.isNone then .error .help
      else if versioned && name = "version" && inline.isNone then .error .version
      else
        match specs.find? fun s => s.name = name with
        | none => .error .usage
        | some spec =>
          match spec.arity, inline with
          | .flag, some _ => .error .usage
          | .flag, none =>
            match given.put spec "" with
            | .error h => .error h
            | .ok given => scan specs versioned rest given
          | _, some value =>
            match given.put spec value with
            | .error h => .error h
            | .ok given => scan specs versioned rest given
          | _, none =>
            match rest with
            | [] => .error .usage
            | value :: rest =>
              match Utf8.decode value with
              | none => .error .usage
              | some value =>
                if isValueWord value then
                  match given.put spec (String.ofList value) with
                  | .error h => .error h
                  | .ok given => scan specs versioned rest given
                else .error .usage
    | some ('-' :: c :: letters) =>
      match scanLetters specs versioned (c :: letters) given with
      | .error h => .error h
      | .ok given => scan specs versioned rest given
    | some _ => .ok (given, word :: rest)

/-! ### Values -/

/-- The option from its variable, if it is not on the line. -/
def fromVariable (environment : Environment) (given : Given) (spec : OptionSpec) :
    Except Halt Given :=
  if given.any (·.1 = spec.name) then .ok given
  else
    match spec.variableName.bind environment with
    | none => .ok given
    | some octets =>
      match Utf8.string? octets with
      | none => .error .usage
      | some value => given.put spec value

/-- **The options on the line and those from variables.** A variable that is set counts, also if it
is empty. -/
def settle (environment : Environment) (specs : List OptionSpec) (given : Given) :
    Except Halt Given :=
  specs.foldlM (fromVariable environment) given

namespace Given

/-- The value of an option. -/
def value? (given : Given) (name : String) : Option String :=
  (given.find? (·.1 = name)).map Prod.snd

/-- All values of an option. -/
def values (given : Given) (name : String) : List String :=
  (given.filter (·.1 = name)).map Prod.snd

/-- The option is given. -/
def has (given : Given) (name : String) : Bool :=
  given.any (·.1 = name)

/-- The value of an option that must be given. -/
def required (given : Given) (name : String) : Except Halt String :=
  match given.value? name with
  | some value => .ok value
  | none => .error .usage

end Given

end RealmKeeper.Command
