import SliceGuard.Text.Quoted

/-!
# Command line options

Options may stand anywhere before a double dash, may be cut short as long as they stay
unambiguous, and single letters may share a dash.  The patterns are one run of the other arguments;
what is left over is not recognized.
-/

namespace SliceGuard.CommandLine

inductive Flag where
  | help | json | test | verbose
deriving DecidableEq, Repr, Inhabited

namespace Flag

/-- All spellings of the options. -/
def spellings : List (String × Flag) :=
  [("-h", help), ("--help", help), ("-json", json), ("--json", json), ("-test", test),
   ("--test", test), ("-v", verbose), ("--verbose", verbose)]

/-- The option that is spelled so. -/
def ofSpelling? (spelling : String) : Option Flag :=
  (spellings.find? (·.1 == spelling)).map Prod.snd

def label (flag : Flag) : String :=
  "/".intercalate ((spellings.filter (·.2 == flag)).map Prod.fst)

def takesValue (flag : Flag) : Bool :=
  flag == test

end Flag

/-- What is wrong with a command line. -/
inductive UsageError where
  | noPattern
  | unrecognized (arguments : List String)
  | valueMissing (flag : Flag)
  | valueInvalid (flag : Flag) (value : String)
  | valueIgnored (flag : Flag) (value : String)
  | ambiguous (argument : String) (spellings : List String)
deriving DecidableEq, Repr, Inhabited

def UsageError.message : UsageError → String
  | noPattern => "the following arguments are required: PATTERN"
  | unrecognized arguments => "unrecognized arguments: " ++ " ".intercalate arguments
  | valueMissing flag => "argument " ++ flag.label ++ ": expected one argument"
  | valueInvalid flag value =>
    "argument " ++ flag.label ++ ": invalid boolean value " ++ Text.quoted value
  | valueIgnored flag value =>
    "argument " ++ flag.label ++ ": ignored explicit argument " ++ Text.quoted value
  | ambiguous argument spellings =>
    "ambiguous option: " ++ argument ++ " could match " ++ ", ".intercalate spellings

/-- A value that stands in the same argument as its option. -/
inductive Attached where
  | none
  /-- After an equals sign. -/
  | equals (value : List Char)
  /-- Right after the letter of the option. -/
  | direct (value : List Char)
deriving DecidableEq, Repr

/-- An argument before it is put to use. -/
inductive Item where
  | plain (text : String)
  /-- The double dash after which all arguments are plain. -/
  | separator
  | option (flag : Flag) (spelling : String) (attached : Attached)
  /-- What looks like an option and is none. -/
  | unknown (text : String)
deriving DecidableEq, Repr

/-- A text cut at its first equals sign. -/
def cutAtEquals (text : List Char) : List Char × Option (List Char) :=
  match text.dropWhile (· != '=') with
  | [] => (text, none)
  | _ :: value => (text.takeWhile (· != '='), some value)

/-- Whether a text is a number after its dash; a line may end after it. -/
def isNegativeNumber (text : List Char) : Bool :=
  match text with
  | '-' :: rest =>
    let rest := if rest.getLast? == some '\n' then rest.dropLast else rest
    let whole := rest.takeWhile Text.isDigit
    match rest.drop whole.length with
    | [] => !whole.isEmpty
    | '.' :: places => !places.isEmpty && places.all Text.isDigit
    | _ => false
  | _ => false

/-- The options an argument may be short for. -/
def completions (text : List Char) : List Item :=
  match text with
  | '-' :: '-' :: _ =>
    let (start, value) := cutAtEquals text
    let attached := match value with
      | some value => Attached.equals value
      | none => Attached.none
    Flag.spellings.filterMap fun (spelling, flag) =>
      if start.isPrefixOf spelling.toList then some (.option flag spelling attached) else none
  | _ =>
    Flag.spellings.filterMap fun (spelling, flag) =>
      if spelling.toList == text.take 2 then
        some (.option flag spelling (.direct (text.drop 2)))
      else if text.isPrefixOf spelling.toList then some (.option flag spelling .none)
      else none

def Item.spelling? : Item → Option String
  | .option _ spelling _ => some spelling
  | _ => none

/-- An argument that begins with a dash and is longer than it. -/
def dashedItem (argument : String) : Except UsageError Item :=
  let text := argument.toList
  match Flag.ofSpelling? argument with
  | some flag => .ok (.option flag argument .none)
  | none =>
    let (start, value) := cutAtEquals text
    match Flag.ofSpelling? (String.ofList start), value with
    | some flag, some value => .ok (.option flag (String.ofList start) (.equals value))
    | _, _ =>
      match completions text with
      | [item] => .ok item
      | [] =>
        if isNegativeNumber text || text.contains ' ' then .ok (.plain argument)
        else .ok (.unknown argument)
      | items => .error (.ambiguous argument (items.filterMap Item.spelling?))

/-- What an argument is. -/
def item (argument : String) : Except UsageError Item :=
  match argument.toList with
  | '-' :: _ :: _ => dashedItem argument
  | _ => .ok (.plain argument)

/-- What the arguments are; after a double dash they are all plain. -/
def items : List String → Except UsageError (List Item)
  | [] => .ok []
  | argument :: rest =>
    if argument == "--" then .ok (.separator :: rest.map .plain)
    else do
      let first ← item argument
      return first :: (← items rest)

/-- The text of an item that is no option. -/
def Item.plainText : Item → String
  | .plain text => text
  | .separator => "--"
  | .option _ spelling _ => spelling
  | .unknown text => text

/-- An option put to use, with its value if it takes one. -/
structure Action where
  flag : Flag
  value : String := ""
deriving DecidableEq, Repr

/-- What an option leads to: actions, perhaps an argument that is not recognized, and whether the
option still waits for a value. -/
structure Use where
  actions : List Action
  unrecognized : List String := []
  waiting : Option Flag := none

/-- The options that share a dash, from the letter with the given flag on. -/
def useLetters (flag : Flag) : List Char → Except UsageError Use
  | [] => .ok (if flag.takesValue then ⟨[], [], some flag⟩ else ⟨[⟨flag, ""⟩], [], none⟩)
  | letters@(letter :: rest) =>
    if flag.takesValue then .ok { actions := [⟨flag, String.ofList letters⟩] }
    else if letter == '-' then .error (.valueIgnored flag (String.ofList letters))
    else
      match Flag.ofSpelling? (String.ofList ['-', letter]) with
      | none => .ok { actions := [⟨flag, ""⟩], unrecognized := [String.ofList ('-' :: letters)] }
      | some next =>
        match rest with
        | '=' :: value =>
          if next.takesValue then
            .ok { actions := [⟨flag, ""⟩, ⟨next, String.ofList value⟩] }
          else .error (.valueIgnored next (String.ofList value))
        | _ => do
          let use ← useLetters next rest
          return { use with actions := ⟨flag, ""⟩ :: use.actions }

def useOption (flag : Flag) : Attached → Except UsageError Use
  | .none =>
    .ok (if flag.takesValue then ⟨[], [], some flag⟩ else ⟨[⟨flag, ""⟩], [], none⟩)
  | .equals value =>
    if flag.takesValue then .ok { actions := [⟨flag, String.ofList value⟩] }
    else .error (.valueIgnored flag (String.ofList value))
  | .direct letters => useLetters flag letters

/-- What to do, as the options say. -/
structure Options where
  json : Bool := false
  tests : Bool := true
  verbose : Bool := false
  patterns : List String := []
deriving DecidableEq, Repr, Inhabited

/-- A truth value in words; only ASCII words are meant. -/
def truth? (value : String) : Option Bool :=
  let word := String.ofList (Text.lowered (Text.trimmed value.toList))
  if ["1", "t", "true", "yes"].contains word then some true
  else if ["0", "f", "false", "no"].contains word then some false
  else none

/-- What a command line asks for. -/
inductive Invocation where
  | help
  | invalid (error : UsageError)
  | run (options : Options)
deriving DecidableEq, Repr, Inhabited

/-- The arguments put to use so far. -/
structure Progress where
  options : Options := {}
  /-- The run of plain arguments being read, the last one first. -/
  run : List Item := []
  /-- Whether the run of patterns has been seen. -/
  hasPatterns : Bool := false
  unrecognized : List String := []
  /-- The option that waits for a value, with the actions to carry out before it. -/
  waiting : Option (List Action × Flag) := none

/-- Carry out actions in order; help ends it all. -/
def perform (options : Options) : List Action → Except Invocation Options
  | [] => .ok options
  | action :: rest =>
    match action.flag with
    | .help => .error .help
    | .json => perform { options with json := true } rest
    | .verbose => perform { options with verbose := true } rest
    | .test =>
      match truth? action.value with
      | some tests => perform { options with tests } rest
      | none => .error (.invalid (.valueInvalid .test action.value))

namespace Progress

/-- End the run of plain arguments being read: it is the patterns, or else not recognized. -/
def endRun (progress : Progress) : Progress :=
  let run := progress.run.reverse
  let texts := run.map Item.plainText
  if !progress.hasPatterns && run.any (fun item => item != .separator) then
    { progress with
      options := { progress.options with patterns := texts.eraseIdx (run.idxOf .separator) }
      run := []
      hasPatterns := true }
  else { progress with run := [], unrecognized := progress.unrecognized ++ texts }

/-- Carry out actions, after which no option waits for a value. -/
def act (progress : Progress) (actions : List Action) : Except Invocation Progress := do
  let options ← perform progress.options actions
  return { progress with options, waiting := none }

def takeOption (progress : Progress) (flag : Flag) (attached : Attached) :
    Except Invocation Progress :=
  match useOption flag attached with
  | .error error => .error (.invalid error)
  | .ok use =>
    let progress := { progress with unrecognized := progress.unrecognized ++ use.unrecognized }
    match use.waiting with
    | some waiting => .ok { progress with waiting := some (use.actions, waiting) }
    | none => progress.act use.actions

/-- Put the next item to use.  A waiting option takes a plain argument for its value and nothing
else. -/
def step (progress : Progress) (item : Item) : Except Invocation Progress :=
  match progress.waiting, item with
  | some (actions, flag), .plain value => progress.act (actions ++ [⟨flag, value⟩])
  | some (_, flag), _ => .error (.invalid (.valueMissing flag))
  | none, .option flag _ attached => progress.endRun.takeOption flag attached
  | none, .unknown text =>
    let progress := progress.endRun
    .ok { progress with unrecognized := progress.unrecognized ++ [text] }
  | none, item => .ok { progress with run := item :: progress.run }

def finish (progress : Progress) : Invocation :=
  match progress.waiting with
  | some (_, flag) => .invalid (.valueMissing flag)
  | none =>
    let progress := progress.endRun
    if !progress.hasPatterns then .invalid .noPattern
    else if !progress.unrecognized.isEmpty then .invalid (.unrecognized progress.unrecognized)
    else .run progress.options

end Progress

def invocation (arguments : List String) : Invocation :=
  match items arguments with
  | .error error => .invalid error
  | .ok items =>
    match items.foldlM Progress.step {} with
    | .error stop => stop
    | .ok progress => progress.finish

end SliceGuard.CommandLine
