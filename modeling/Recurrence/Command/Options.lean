import Recurrence.Text.Basic
import Recurrence.Text.Digit
import Recurrence.Text.Quoted

/-!
# Options of the command line

An option is written `--name value` or `--name=value`, and its name may be cut short as long as it is
the beginning of no other.  What begins with a hyphen is an option, even an unknown one, unless it has
a blank in it or is a negative number.  Behind `--` nothing is an option.

All arguments are told apart first, so an ambiguous name is reported before anything else.  Then the
options are taken in order, up to the first fault or a request for help.  At last the options that must
be given and the arguments that nobody took are looked at.
-/

namespace Recurrence.Command

/-! ## The options -/

/-- An option. -/
inductive Flag
  /-- Asks for help. -/
  | help
  /-- Adds a rule. -/
  | rule
  /-- The start of the first occurrence. -/
  | start
  /-- The first date to list. -/
  | rangeStart
  /-- The last date to list. -/
  | rangeEnd
  /-- Leaves out an occurrence. -/
  | exdate
  /-- The zone in which the end is phrased. -/
  | zone
  /-- The configuration file. -/
  | config
  /-- Logs everything. -/
  | debug
deriving DecidableEq, Repr

namespace Flag

/-- The names of the options, in order; asking for help has two. -/
def names : List (Text × Flag) :=
  [("-h".toList, .help), ("--help".toList, .help), ("--rule".toList, .rule),
    ("--start".toList, .start), ("--from".toList, .rangeStart), ("--to".toList, .rangeEnd),
    ("--exdate".toList, .exdate), ("--timezone".toList, .zone), ("--config".toList, .config),
    ("--debug".toList, .debug)]

/-- The option takes a value. -/
def takesValue : Flag → Bool
  | .help | .debug => false
  | _ => true

/-- The name of an option in messages. -/
def title (flag : Flag) : Text :=
  Text.joinWith ['/'] ((names.filter fun (_, f) => f = flag).map Prod.fst)

/-- The options that must be given. -/
def needed : List Flag := [.rule, .start]

end Flag

/-- What is wrong with the arguments. -/
inductive UsageError
  /-- A name is the beginning of several. -/
  | ambiguous (given : Text) (matching : List Text)
  /-- An option that takes a value has none. -/
  | expectedValue (flag : Flag)
  /-- An option that takes no value has one. -/
  | ignoredValue (flag : Flag) (value : Text)
  /-- Options that must be given are not. -/
  | notGiven (flags : List Flag)
  /-- There are arguments that nobody takes. -/
  | unrecognized (arguments : List Text)

/-- The wording of a usage error. -/
def UsageError.message : UsageError → Text
  | .ambiguous given matching =>
    "ambiguous option: ".toList ++ given ++ " could match ".toList
      ++ Text.joinWith [',', ' '] matching
  | .expectedValue flag => "argument ".toList ++ flag.title ++ ": expected one argument".toList
  | .ignoredValue flag value =>
    "argument ".toList ++ flag.title ++ ": ignored explicit argument ".toList ++ Text.quoted value
  | .notGiven flags =>
    "the following arguments are required: ".toList
      ++ Text.joinWith [',', ' '] (flags.map Flag.title)
  | .unrecognized arguments =>
    "unrecognized arguments: ".toList ++ Text.joinWith [' '] arguments

/-! ## Telling arguments apart -/

/-- An argument. -/
inductive Argument
  /-- No option: the value of the option before it, if that takes one. -/
  | word (s : Text)
  /-- The mark behind which nothing is an option. -/
  | mark
  /-- An option, and the value written to its name: behind a `=`, or `joined` to a single letter. -/
  | flag (flag : Flag) (joined : Bool) (value : Option Text)
  /-- An option that does not exist. -/
  | unknown (s : Text)

/-- A name has one hyphen. -/
def isShort : Text → Bool
  | '-' :: '-' :: _ => false
  | _ => true

/-- The options that an argument can mean, if it is not the full name of one: the name of each, and
the argument read as that option. -/
def candidates (s : Text) : List (Text × Argument) :=
  if isShort s then
    Flag.names.filterMap fun (name, flag) =>
      if name = s.take 2 then some (name, .flag flag true (some (s.drop 2)))
      else if Text.startsWith s name then some (name, .flag flag false none)
      else none
  else
    let (lead, value) :=
      match Text.cutAt '=' s with
      | some (lead, value) => (lead, some value)
      | none => (s, none)
    (Flag.names.filter fun (name, _) => Text.startsWith lead name).map fun (name, flag) =>
      (name, .flag flag false value)

/-- The text is a negative number: a hyphen and digits, perhaps with a point among them or in front.
A line feed may follow. -/
def isNegativeNumber (s : Text) : Bool :=
  let s := if s.getLast? = some '\n' then s.dropLast else s
  match s with
  | '-' :: digits =>
    match Text.cutAt '.' digits with
    | some (whole, fraction) =>
      whole.all Text.isDecimal && !fraction.isEmpty && fraction.all Text.isDecimal
    | none => !digits.isEmpty && digits.all Text.isDecimal
  | _ => false

/-- The option whose full name an argument is, or has before its first `=`. -/
def exactFlag? (s : Text) : Option Argument :=
  match Flag.names.lookup s with
  | some flag => some (.flag flag false none)
  | none =>
    match Text.cutAt '=' s with
    | some (name, value) =>
      (Flag.names.lookup name).map fun flag => .flag flag false (some value)
    | none => none

/-- What an argument is. -/
def classify (s : Text) : Except UsageError Argument :=
  if s.head? != some '-' || s.length = 1 then .ok (.word s)
  else
    match exactFlag? s with
    | some argument => .ok argument
    | none =>
      match candidates s with
      | [(_, argument)] => .ok argument
      | [] => .ok (if isNegativeNumber s || s.contains ' ' then .word s else .unknown s)
      | several => .error (.ambiguous s (several.map Prod.fst))

/-- What some arguments are, one after the other. -/
def classifyAll : List Text → Except UsageError (List Argument)
  | [] => .ok []
  | s :: rest =>
    if s = ['-', '-'] then .ok (.mark :: rest.map .word)
    else do
      let argument ← classify s
      let others ← classifyAll rest
      .ok (argument :: others)

/-! ## Taking the options -/

/-- The values of the options. -/
structure Options where
  /-- The rules. -/
  rules : List Text
  /-- The start of the first occurrence. -/
  start : Option Text
  /-- The first date to list. -/
  rangeStart : Option Text
  /-- The last date to list. -/
  rangeEnd : Option Text
  /-- The occurrences to leave out. -/
  exdates : List Text
  /-- The zone in which the end is phrased. -/
  zone : Option Text
  /-- The configuration file. -/
  config : Option Text
  /-- Everything is to be logged. -/
  debug : Bool

namespace Options

/-- No options. -/
def none : Options := ⟨[], .none, .none, .none, [], .none, .none, false⟩

/-- The options with one more. -/
def set (o : Options) (flag : Flag) (s : Text) : Options :=
  match flag with
  | .rule => { o with rules := o.rules ++ [s] }
  | .start => { o with start := some s }
  | .rangeStart => { o with rangeStart := some s }
  | .rangeEnd => { o with rangeEnd := some s }
  | .exdate => { o with exdates := o.exdates ++ [s] }
  | .zone => { o with zone := some s }
  | .config => { o with config := some s }
  | .debug => { o with debug := true }
  | .help => o

/-- The options that must be given and are not. -/
def notGiven (o : Options) : List Flag :=
  Flag.needed.filter fun
    | .rule => o.rules.isEmpty
    | .start => o.start.isNone
    | _ => false

end Options

/-- What the arguments ask for. -/
inductive Request
  /-- To run. -/
  | run (options : Options)
  /-- To be helped. -/
  | help

/-- What is joined to a `-h`: more letters, of which the first unknown one is left alone, or a value,
which is a fault. -/
def helpLetters : Text → Except UsageError Request
  | 'h' :: '=' :: value => .error (.ignoredValue .help value)
  | 'h' :: rest => helpLetters rest
  | '-' :: rest => .error (.ignoredValue .help ('-' :: rest))
  | _ => .ok .help

/-- The options taken in order; `extras` are the arguments that nobody took, latest first. -/
def takeFrom : Options → (extras : List Text) → List Argument → Except UsageError Request
  | o, extras, [] =>
    if !o.notGiven.isEmpty then .error (.notGiven o.notGiven)
    else if !extras.isEmpty then .error (.unrecognized extras.reverse)
    else .ok (.run o)
  | o, extras, .word s :: rest => takeFrom o (s :: extras) rest
  | o, extras, .mark :: rest => takeFrom o (['-', '-'] :: extras) rest
  | o, extras, .unknown s :: rest => takeFrom o (s :: extras) rest
  | o, extras, .flag flag joined value :: rest =>
    match value with
    | some s =>
      if flag.takesValue then takeFrom (o.set flag s) extras rest
      else if joined then helpLetters s
      else .error (.ignoredValue flag s)
    | none =>
      if flag = .help then .ok .help
      else if flag.takesValue then
        match rest with
        | .word s :: rest => takeFrom (o.set flag s) extras rest
        | _ => .error (.expectedValue flag)
      else takeFrom (o.set flag []) extras rest

/-- What the arguments ask for. -/
def request (arguments : List Text) : Except UsageError Request := do
  takeFrom .none [] (← classifyAll arguments)

end Recurrence.Command
