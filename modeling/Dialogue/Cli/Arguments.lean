import Dialogue.Decimal.Reading

/-!
# Arguments

What the command line asks for. Options have values, given behind an equals sign, in the same word
as a letter, or as the next word. Every option and the path of the flow may be given once. A word
`--` ends the options.
-/

namespace Dialogue.Cli

/-- What a run is to do. -/
structure Options where
  /-- The path of the flow. -/
  flow : Option String := none
  /-- The path of a file of replies. -/
  inputs : Option String := none
  session : Option String := none
  maxSteps : Option Nat := none
  /-- Whether delays take their time. -/
  wait : Option Bool := none
  /-- How long a request may take, in milliseconds. -/
  timeout : Option Nat := none
  /-- The path for an archive of the session. -/
  archive : Option String := none
  deriving DecidableEq, Repr

/-- Why there is nothing to run. -/
inductive Stop where
  /-- The arguments are not understood. -/
  | misuse
  | help
  | version
  deriving DecidableEq, Repr

/-- The options that take a value. -/
inductive Key where
  | inputs
  | session
  | maxSteps
  | delay
  | timeout
  | archive
  deriving DecidableEq, Repr

namespace Key

/-- The long name of an option. -/
def name : Key → String
  | inputs => "--inputs"
  | session => "--session-id"
  | maxSteps => "--max-steps"
  | delay => "--delay"
  | timeout => "--timeout-ms"
  | archive => "--archive"

/-- All options. -/
def all : List Key := [inputs, session, maxSteps, delay, timeout, archive]

/-- The option of a letter. -/
def ofLetter? : Char → Option Key
  | 'i' => some inputs
  | 's' => some session
  | _ => none

end Key

/-- Gives a place its value, once. -/
def setOnce {α : Type} (old : Option α) (new : Option α) : Except Stop (Option α) :=
  match old, new with
  | none, some x => .ok (some x)
  | _, _ => .error .misuse

/-- Whether a delay is to be waited for. -/
def waits? : String → Option Bool
  | "skip" => some false
  | "wait" => some true
  | _ => none

/-- The options with the value of one more. -/
def Options.set (o : Options) (key : Key) (value : String) : Except Stop Options :=
  match key with
  | .inputs => do return { o with inputs := ← setOnce o.inputs (some value) }
  | .session => do return { o with session := ← setOnce o.session (some value) }
  | .maxSteps => do return { o with maxSteps := ← setOnce o.maxSteps (Decimal.natural? value) }
  | .delay => do return { o with wait := ← setOnce o.wait (waits? value) }
  | .timeout => do return { o with timeout := ← setOnce o.timeout (Decimal.natural? value) }
  | .archive => do return { o with archive := ← setOnce o.archive (some value) }

/-- The options with the path of the flow. -/
def Options.setFlow (o : Options) (path : String) : Except Stop Options := do
  return { o with flow := ← setOnce o.flow (some path) }

/-- Whether a word is an option, and no value. A minus sign alone is a value. -/
def isOption : List Char → Bool
  | '-' :: _ :: _ => true
  | _ => false

/-- The option of a word, with its value if it is in the same word. -/
def optionOf (word : List Char) : Except Stop (Key × Option String) :=
  match word with
  | '-' :: '-' :: _ =>
    let name := String.ofList (word.takeWhile (· ≠ '='))
    let value := match word.dropWhile (· ≠ '=') with
      | _ :: value => some (String.ofList value)
      | [] => none
    match Key.all.find? (·.name = name), value with
    | some key, value => .ok (key, value)
    | none, none =>
      .error (if name = "--help" then .help else if name = "--version" then .version else .misuse)
    | none, some _ => .error .misuse
  | '-' :: letter :: rest =>
    match Key.ofLetter? letter, rest with
    | some key, [] => .ok (key, none)
    | some key, '=' :: value => .ok (key, some (String.ofList value))
    | some key, value => .ok (key, some (String.ofList value))
    | none, _ => .error (if letter = 'h' then .help else if letter = 'V' then .version else .misuse)
  | _ => .error .misuse

/-- The options with those of further words. -/
def Options.read (o : Options) : List String → Except Stop Options
  | [] => .ok o
  | "--" :: words => words.foldlM Options.setFlow o
  | word :: words =>
    if isOption word.toList then
      match optionOf word.toList, words with
      | .error stop, _ => .error stop
      | .ok (key, some value), words =>
        match o.set key value with
        | .ok o => o.read words
        | .error stop => .error stop
      | .ok (_, none), [] => .error .misuse
      | .ok (key, none), value :: words =>
        if isOption value.toList then .error .misuse
        else
          match o.set key value with
          | .ok o => o.read words
          | .error stop => .error stop
    else
      match o.setFlow word with
      | .ok o => o.read words
      | .error stop => .error stop

/-- What the words of a command line ask for. -/
def Options.parse (words : List String) : Except Stop Options := do
  let o ← ({} : Options).read words
  if o.flow.isNone then .error .misuse else .ok o

end Dialogue.Cli
