/-!
# Arguments

The words after a command sorted into options and other words. A long option may have its value
behind an equals sign, short options may share one dash, and a lone double dash ends the options.
-/
namespace Shapewright.Command

/-- How an option is written; `metavar` names the value of one that takes a value. -/
structure OptionForm (α : Type) where
  option : α
  long : String
  short : Option Char := none
  metavar : Option String := none
  help : String

def OptionForm.takesValue {α : Type} (f : OptionForm α) : Bool := f.metavar.isSome

inductive UsageError where
  | unknownOption (option : String)
  | noValue
  | unwantedValue (option : String)
  | badValue (option value : String)
  | noArgument (name : String)
  | extraArgument (word : String)
  | unknownCommand (name : String)
  deriving DecidableEq, Repr

def UsageError.message : UsageError → String
  | .unknownOption option => s!"No such option: {option}"
  | .noValue => "The last option requires a value."
  | .unwantedValue option => s!"Option '{option}' does not take a value."
  | .badValue option value => s!"Invalid value for '{option}': '{value}'"
  | .noArgument name => s!"Missing argument '{name}'."
  | .extraArgument word => s!"Got unexpected extra argument ({word})"
  | .unknownCommand name => s!"No such command '{name}'."

/-- An option as given; the value of a flag is empty. -/
structure Given (α : Type) where
  option : α
  value : String

variable {α : Type}

/-- What one word gives, and an option that takes the next word as its value. -/
abbrev Reading (α : Type) := List (Given α) × Option α

/-- Options that share a dash. The first that takes a value takes all that is left of the word. -/
def readShort (forms : List (OptionForm α)) : List Char → Except UsageError (Reading α)
  | [] => .ok ([], none)
  | c :: cs =>
    match forms.find? (·.short == some c) with
    | none => .error (.unknownOption (String.ofList ['-', c]))
    | some f =>
      if f.takesValue then
        if cs.isEmpty then .ok ([], some f.option) else .ok ([⟨f.option, String.ofList cs⟩], none)
      else do
        let (given, waiting) ← readShort forms cs
        return (⟨f.option, ""⟩ :: given, waiting)

def readLong (forms : List (OptionForm α)) (cs : List Char) : Except UsageError (Reading α) :=
  let name := String.ofList (cs.takeWhile (· ≠ '='))
  let value? := (cs.dropWhile (· ≠ '=')).tail?
  match forms.find? (·.long == name), value? with
  | none, _ => .error (.unknownOption ("--" ++ name))
  | some f, none => if f.takesValue then .ok ([], some f.option) else .ok ([⟨f.option, ""⟩], none)
  | some f, some value =>
    if f.takesValue then .ok ([⟨f.option, String.ofList value⟩], none)
    else .error (.unwantedValue ("--" ++ name))

/-- A word that is not an option has no reading. -/
def readWord? (forms : List (OptionForm α)) (word : String) :
    Option (Except UsageError (Reading α)) :=
  match word.toList with
  | '-' :: '-' :: cs => some (readLong forms cs)
  | '-' :: c :: cs => some (readShort forms (c :: cs))
  | _ => none

/-- The options in order, and the other words. Unless they may be `mixed`, the first other word ends
the options. `waiting` is an option whose value comes next. -/
def readWords (forms : List (OptionForm α)) (mixed : Bool) (waiting : Option α) :
    List String → Except UsageError (List (Given α) × List String)
  | [] => if waiting.isSome then .error .noValue else .ok ([], [])
  | word :: words =>
    match waiting with
    | some option => do
      let (given, others) ← readWords forms mixed none words
      return (⟨option, word⟩ :: given, others)
    | none =>
      if word = "--" then .ok ([], words)
      else
        match readWord? forms word with
        | some reading => do
          let (first, waiting) ← reading
          let (given, others) ← readWords forms mixed waiting words
          return (first ++ given, others)
        | none =>
          if mixed then do
            let (given, others) ← readWords forms mixed none words
            return (given, word :: others)
          else .ok ([], word :: words)

def readArguments (forms : List (OptionForm α)) (mixed : Bool) (words : List String) :
    Except UsageError (List (Given α) × List String) :=
  readWords forms mixed none words

variable [DecidableEq α]

/-- How often an option is given. -/
def count (given : List (Given α)) (option : α) : Nat :=
  (given.filter (·.option = option)).length

/-- The value of an option given several times is the last one. -/
def value? (given : List (Given α)) (option : α) : Option String :=
  (given.reverse.find? (·.option = option)).map (·.value)

end Shapewright.Command
