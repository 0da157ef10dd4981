/-
  File:      Chip8/CommandLine/Arguments.lean
  Subject:   The arguments of the command line.

  * `Arguments`: what a run is asked to do; `Request`: a run, the version or the help text;
  * `UsageError`: why arguments are refused, and the wording;
  * `Request.ofArgs`: the arguments are read from the left, and the first one that asks for the
    version or the help text, or that is wrong, decides.

  An option takes its value from the same argument, behind `=` or directly behind its letter, or
  else from the next one, which then must not look like an option itself. No option may be
  given twice. Behind `--`, nothing is an option.
-/

namespace Chip8.CommandLine

/-! ## 1. Requests -/

/-- What a run is asked to do. -/
structure Arguments where
  rom : String
  preset : String := "default"
  strict : Bool := false
  /-- Another pause between instructions, in microseconds. -/
  pause : Option Nat := none
  /-- The number of frames to run without a window. -/
  frames : Option Nat := none
  trace : Bool := false
  deriving DecidableEq, Repr

/-- What the command line asks for. -/
inductive Request where
  | version
  | help
  | run (a : Arguments)
  deriving DecidableEq, Repr

/-- Why arguments are refused. -/
inductive UsageError where
  | unexpected (argument : String)
  | repeated (option : String)
  | valueMissing (option : String)
  | valueUnexpected (option value : String)
  | valueInvalid (option value : String)
  | romMissing
  deriving DecidableEq, Repr

def UsageError.message : UsageError → String
  | unexpected a => "unexpected argument '" ++ a ++ "' found"
  | repeated o => "the argument '" ++ o ++ "' cannot be used multiple times"
  | valueMissing o => "a value is required for '" ++ o ++ "' but none was supplied"
  | valueUnexpected o v => "unexpected value '" ++ v ++ "' for '" ++ o ++ "' found"
  | valueInvalid o v => "invalid value '" ++ v ++ "' for '" ++ o ++ "'"
  | romMissing => "the required argument '<ROM>' was not provided"

/-! ## 2. Numbers -/

/-- A number below 2^64 in decimal digits, with or without a plus sign. -/
def number? (s : String) : Option Nat :=
  let digits := match s.toList with
    | '+' :: cs => cs
    | cs => cs
  if digits = [] ∨ ¬ digits.all Char.isDigit then none
  else
    let n := digits.foldl (fun n c => 10 * n + (c.toNat - '0'.toNat)) 0
    if n < UInt64.size then some n else none

example : number? "+007" = some 7 ∧ number? "+" = none ∧ number? "1_0" = none := by
  decide +kernel

/-! ## 3. Options -/

/-- The options that take a value. -/
inductive Valued where
  | preset
  | pause
  | frames
  deriving DecidableEq, Repr

/-- The options that take none. -/
inductive Switch where
  | strict
  | trace
  | help
  | version
  deriving DecidableEq, Repr

def Valued.display : Valued → String
  | preset => "--preset <PRESET>"
  | pause => "--instruction-sleep-us <MICROSECONDS>"
  | frames => "--frames <FRAMES>"

def Switch.display : Switch → String
  | strict => "--strict"
  | trace => "--trace"
  | help => "--help"
  | version => "--version"

/-- An option by its long name. -/
def option? : String → Option (Valued ⊕ Switch)
  | "preset" => some (.inl .preset)
  | "instruction-sleep-us" => some (.inl .pause)
  | "frames" => some (.inl .frames)
  | "strict" => some (.inr .strict)
  | "trace" => some (.inr .trace)
  | "help" => some (.inr .help)
  | "version" => some (.inr .version)
  | _ => none

/-- An option by its letter. -/
def letter? : Char → Option (Valued ⊕ Switch)
  | 'p' => some (.inl .preset)
  | 'h' => some (.inr .help)
  | 'V' => some (.inr .version)
  | _ => none

/-- What an argument looks like. -/
inductive Shape where
  /-- A plain text. -/
  | plain
  /-- Two dashes and nothing else. -/
  | separator
  /-- Two dashes and a name, with or without `=` and a value. -/
  | long (name : String) (value : Option String)
  /-- One dash and a letter, with or without a value behind it. -/
  | short (letter : Char) (value : Option String)
  deriving DecidableEq, Repr

/-- The value directly behind the letter of an option, less a leading `=`. -/
def attached : List Char → Option String
  | [] => none
  | '=' :: cs => some (String.ofList cs)
  | cs => some (String.ofList cs)

def shape (argument : String) : Shape :=
  match argument.toList with
  | ['-', '-'] => .separator
  | '-' :: '-' :: cs =>
      let name := String.ofList (cs.takeWhile (· ≠ '='))
      match cs.dropWhile (· ≠ '=') with
      | _ :: value => .long name (some (String.ofList value))
      | [] => .long name none
  | '-' :: c :: cs => .short c (attached cs)
  | _ => .plain

/-! ## 4. Reading from the left -/

/-- What the arguments read so far say. -/
structure Draft where
  rom : Option String := none
  preset : Option String := none
  strict : Bool := false
  pause : Option Nat := none
  frames : Option Nat := none
  trace : Bool := false
  /-- The option whose value is the next argument. -/
  pending : Option Valued := none
  /-- Whether the separator has been read, behind which nothing is an option. -/
  separated : Bool := false
  deriving DecidableEq, Repr

/-- Why reading ends before the last argument. -/
inductive Ending where
  | refused (e : UsageError)
  | asked (r : Request)
  deriving DecidableEq, Repr

namespace Draft

/-- A number as the value of an option that has no value yet. -/
def number (o : Valued) (old : Option Nat) (value : String) : Except Ending Nat :=
  if old.isSome then .error (.refused (.repeated o.display))
  else match number? value with
    | some n => .ok n
    | none => .error (.refused (.valueInvalid o.display value))

/-- An option with its value. -/
def setValue (d : Draft) (o : Valued) (value : String) : Except Ending Draft :=
  match o with
  | .preset =>
      if d.preset.isSome then .error (.refused (.repeated o.display))
      else .ok { d with preset := some value }
  | .pause => return { d with pause := some (← number o d.pause value) }
  | .frames => return { d with frames := some (← number o d.frames value) }

/-- An option without a value. -/
def setSwitch (d : Draft) (o : Switch) : Except Ending Draft :=
  match o with
  | .help => .error (.asked .help)
  | .version => .error (.asked .version)
  | .strict =>
      if d.strict then .error (.refused (.repeated o.display)) else .ok { d with strict := true }
  | .trace =>
      if d.trace then .error (.refused (.repeated o.display)) else .ok { d with trace := true }

/-- An argument that is no option: the program file, which cannot be the empty text. -/
def setRom (d : Draft) (argument : String) : Except Ending Draft :=
  if d.rom.isSome then .error (.refused (.unexpected argument))
  else if argument = "" then .error (.refused (.valueMissing "<ROM>"))
  else .ok { d with rom := some argument }

/-- An option, found or not, with the value attached to it. -/
def setOption (d : Draft) (argument : String) (o : Option (Valued ⊕ Switch))
    (value : Option String) : Except Ending Draft :=
  match o, value with
  | none, _ => .error (.refused (.unexpected argument))
  | some (.inl o), some v => d.setValue o v
  | some (.inl o), none => .ok { d with pending := some o }
  | some (.inr o), _ => d.setSwitch o

/-- One more argument. -/
def add (d : Draft) (argument : String) : Except Ending Draft :=
  if d.separated then d.setRom argument
  else match d.pending, shape argument with
    | some o, .plain => { d with pending := none }.setValue o argument
    | some o, _ => .error (.refused (.valueMissing o.display))
    | none, .plain => d.setRom argument
    | none, .separator => .ok { d with separated := true }
    | none, .short letter value => d.setOption argument (letter? letter) value
    | none, .long name value =>
        match option? name, value with
        | some (.inr o), some v => .error (.refused (.valueUnexpected o.display v))
        | o, value => d.setOption argument o value

/-- All arguments have been read. -/
def finish (d : Draft) : Except UsageError Request :=
  match d.pending, d.rom with
  | some o, _ => .error (.valueMissing o.display)
  | none, none => .error .romMissing
  | none, some rom =>
      .ok (.run { rom, preset := d.preset.getD "default", strict := d.strict, pause := d.pause,
                  frames := d.frames, trace := d.trace })

end Draft

/-- What the arguments ask for. -/
def Request.ofArgs (args : List String) : Except UsageError Request :=
  match args.foldlM Draft.add {} with
  | .ok d => d.finish
  | .error (.asked r) => .ok r
  | .error (.refused e) => .error e

end Chip8.CommandLine
