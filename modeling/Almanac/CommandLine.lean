import Almanac.Form.Record
import Almanac.Form.Rendering
import Almanac.Form.Settings
import Almanac.Json.Reader
import Almanac.Json.Writer

/-! # The command line

The program reads records in JSON and settings in TOML and prints a calendar in JSON.
Its arguments are read from left to right, and the first one that cannot be used ends the
reading.  What it reads beside them is a function from names to texts, so that a run is a
value too.
-/
namespace Almanac
namespace CommandLine

/-- An option of the command line. -/
inductive Flag where
  | events | config | type | date | today | pretty | help | version
  deriving DecidableEq, Repr

namespace Flag

/-- The option of a long name. -/
def ofName? : String → Option Flag
  | "events" => some events
  | "config" => some config
  | "type" => some type
  | "date" => some date
  | "today" => some today
  | "pretty" => some pretty
  | "help" => some help
  | "version" => some version
  | _ => none

/-- The option of a letter. -/
def ofLetter? : Char → Option Flag
  | 'e' => some events
  | 'c' => some config
  | 't' => some type
  | 'd' => some date
  | 'h' => some help
  | 'V' => some version
  | _ => none

/-- Whether an option stands alone. -/
def isSwitch : Flag → Bool
  | pretty | help | version => true
  | _ => false

end Flag

/-- What a command line asks to render. -/
structure Options where
  /-- The file of the records; standard input without one. -/
  events : Option String := none
  /-- The file of the settings. -/
  config : Option String := none
  calendarType : Option Granularity := none
  /-- The date argument. -/
  date : Option String := none
  today : Option Date := none
  pretty : Bool := false
  deriving DecidableEq, Repr

/-- Why a command line cannot be used. -/
inductive UsageError where
  /-- The argument is no option. -/
  | unexpected (argument : String)
  /-- The option needs a value. -/
  | missingValue (flag : Flag)
  /-- The option takes no value. -/
  | surplusValue (flag : Flag)
  | repeated (flag : Flag)
  | badValue (flag : Flag) (value : String)
  deriving DecidableEq, Repr

/-- What a command line asks for. -/
inductive Request where
  | render (options : Options)
  | help
  | version
  deriving DecidableEq, Repr

/-- One argument by its form. -/
inductive Argument where
  /-- The mark behind which no option follows. -/
  | escape
  /-- An option by its name, with the value joined to it. -/
  | long (name : String) (value : Option String)
  /-- An option by its letter, with the text joined to it. -/
  | short (letter : Char) (rest : List Char)
  | word
  deriving DecidableEq, Repr

namespace Argument

/-- The form of an argument. -/
def read (s : String) : Argument :=
  match s.toList with
  | ['-', '-'] => escape
  | '-' :: '-' :: name =>
    match Text.splitFirst? '=' name with
    | some (name, value) => long (String.ofList name) (some (String.ofList value))
    | none => long (String.ofList name) none
  | '-' :: letter :: rest => short letter rest
  | _ => word

/-- Whether an argument can be the value of the option before it. -/
def isValue (s : String) : Bool :=
  read s == word

end Argument

/-- The value joined to the letter of an option; an equals sign may stand between. -/
def joinedValue : List Char → Option String
  | [] => none
  | '=' :: value => some (String.ofList value)
  | value => some (String.ofList value)

namespace Options

/-- The options with one given a value, which has to be its only one. -/
def set (o : Options) (flag : Flag) (value : String) : Except UsageError Options :=
  let once := fun (isGiven : Bool) (o : Option Options) =>
    match o with
    | none => Except.error (.badValue flag value)
    | some o => if isGiven then .error (.repeated flag) else .ok o
  match flag with
  | .events => once o.events.isSome (if value = "" then none else some { o with events := value })
  | .config => once o.config.isSome (if value = "" then none else some { o with config := value })
  | .type =>
    once o.calendarType.isSome
      ((Granularity.read? value).map fun g => { o with calendarType := some g })
  | .date => once o.date.isSome (some { o with date := some value })
  | .today => once o.today.isSome ((Date.read? value).map fun d => { o with today := some d })
  | .pretty | .help | .version => .error (.surplusValue flag)

end Options

/-- What is asked for by a list of arguments, after the options before them. -/
def readFrom (o : Options) : List String → Except UsageError Request
  | [] => .ok (.render o)
  | argument :: rest =>
    let found := match Argument.read argument with
      | .long name value => (Flag.ofName? name).map fun flag => (flag, value)
      | .short letter value => (Flag.ofLetter? letter).map fun flag =>
          (flag, if flag.isSwitch then none else joinedValue value)
      | _ => none
    match Argument.read argument, rest, found with
    | .escape, [], _ => .ok (.render o)
    | _, _, none => .error (.unexpected argument)
    | _, _, some (.help, none) => .ok .help
    | _, _, some (.version, none) => .ok .version
    | _, rest, some (.pretty, none) =>
      if o.pretty then .error (.repeated .pretty) else readFrom { o with pretty := true } rest
    | _, rest, some (flag, some value) =>
      match o.set flag value with
      | .error e => .error e
      | .ok o => readFrom o rest
    | _, [], some (flag, none) => .error (.missingValue flag)
    | _, value :: rest, some (flag, none) =>
      if Argument.isValue value then
        match o.set flag value with
        | .error e => .error e
        | .ok o => readFrom o rest
      else .error (.missingValue flag)

/-- What a command line asks for. -/
def read (arguments : List String) : Except UsageError Request :=
  readFrom {} arguments

/-! ## Running -/

/-- What the program finds under a name. -/
inductive Found where
  | missing
  /-- Something that cannot be read as text. -/
  | unreadable
  | text (s : String)
  deriving DecidableEq, Repr

/-- What a run of the program leaves behind. -/
structure Outcome where
  exit : Nat
  stdout : String := ""
  stderr : String := ""
  deriving DecidableEq, Repr

/-- Why a run ends without a calendar. -/
inductive RunError where
  | settings
  | recordsUnreadable
  | recordsMalformed
  deriving DecidableEq, Repr

/-- The message of an error. -/
def RunError.message : RunError → String
  | settings => "Error: Failed to load settings"
  | recordsUnreadable => "Error: Failed to read records"
  | recordsMalformed => "Error: Records are not a valid JSON array"

namespace Options

variable (o : Options)

/-- The settings in what is found under the name of the settings file.  Where nothing is
found the standard settings hold. -/
def settings (zones : Zones) (found : Found) : Except RunError Settings :=
  match found with
  | .missing => .ok {}
  | .unreadable => .error .settings
  | .text s =>
    match Settings.ofToml zones s with
    | .ok settings => .ok settings
    | .error _ => .error .settings

/-- The settings of a run: a calendar type in the options goes before the one in the
settings file. -/
def runSettings (zones : Zones) (found : Found) : Except RunError Settings :=
  (settings zones found).map fun s => { s with calendarType := o.calendarType.getD s.calendarType }

/-- The records in what is found under the name of the records. -/
def records : Found → Except RunError (List Record)
  | .text s =>
    match (Json.read? s).bind (Value.list? (Record.ofValue? Json.dialect)) with
    | some records => .ok records
    | none => .error .recordsMalformed
  | _ => .error .recordsUnreadable

/-- Whether the records come from standard input. -/
def readsStdin : Bool :=
  o.events.isNone || o.events == some "-"

/-- A calendar in the form the options ask for. -/
def print (r : Rendering) : String :=
  (if o.pretty then Json.pretty r.toValue else Json.line r.toValue) ++ "\n"

/-- Renders the records of a run. -/
def run (zones : Zones) (settings : Settings) (records : List Record) (today : Date) : Outcome :=
  let today := o.today.getD today
  let expander := ruleExpander zones
  if settings.renderFits zones expander records o.date today then
    let r := settings.render zones expander records o.date today
    { exit := 0
      stdout := o.print r
      stderr := String.join (r.messages.map (· ++ "\n")) }
  else { exit := 101, stderr := "Error: The records cannot be placed in the calendar\n" }

/-- A run on what is found under names and in standard input. -/
def runOn (zones : Zones) (file : String → Found) (stdin : Found) (today : Date) : Outcome :=
  let configured := match o.config with
    | some name => file name
    | none => .missing
  let events := if o.readsStdin then stdin else file (o.events.getD "")
  match o.runSettings zones configured, records events with
  | .error e, _ => { exit := 1, stderr := e.message ++ "\n" }
  | .ok _, .error e => { exit := 1, stderr := e.message ++ "\n" }
  | .ok settings, .ok records => o.run zones settings records today

end Options

/-- The name and version of the program. -/
def versionText : String := "calendar-grid 0.1.0\n"

/-- How the program is used. -/
def helpText : String :=
  String.join <| List.map (· ++ "\n") [
    "Lay out calendar events as year, month, week or day grids",
    "",
    "Usage: calendar-grid [OPTIONS]",
    "",
    "Options:",
    "  -e, --events <EVENTS>       JSON array of records; reads stdin when omitted or \"-\"",
    "  -c, --config <CONFIG>       Settings file, defaults to calendar.toml in the config directory",
    "  -t, --type <CALENDAR_TYPE>  Override the configured calendar type",
    "  -d, --date <DATE>           Date argument, e.g. 2025, 2025-04, 202514 or 2025-04-10",
    "      --today <TODAY>         Reference day for past/today/future styling (YYYY-MM-DD)",
    "      --pretty                Pretty-print the output",
    "  -h, --help                  Print help",
    "  -V, --version               Print version"]

/-- A run of the program. -/
def run (zones : Zones) (arguments : List String) (file : String → Found) (stdin : Found)
    (today : Date) : Outcome :=
  match read arguments with
  | .error _ => { exit := 2, stderr := "error: the arguments cannot be used\n" }
  | .ok .help => { exit := 0, stdout := helpText }
  | .ok .version => { exit := 0, stdout := versionText }
  | .ok (.render o) => o.runOn zones file stdin today

end CommandLine
end Almanac
