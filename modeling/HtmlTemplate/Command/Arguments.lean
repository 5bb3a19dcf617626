import HtmlTemplate.Resolve.Fill

/-!
# Arguments

What the words of a command line ask for. A command has options, some of which take a
value, and one operand, which names a file or a directory. Options that do not belong to a
command in particular may also stand in front of it. Rendering is what is asked for if no
command is named.
-/

namespace HtmlTemplate.Command

/-- The options. -/
inductive Flag where
  | noColor
  | verbose
  | help
  | version
  | context
  | set
  | check
  | outline
  | dump
  | callSiteWins
  | category
  | listCategories
deriving DecidableEq, Repr

/-- Whether an option has a value. -/
def Flag.takesValue : Flag → Bool
  | .context | .set | .category => true
  | _ => false

/-- Whether an option may be given more than once. -/
def Flag.isRepeatable : Flag → Bool
  | .set | .category => true
  | _ => false

/-- Where on the command line a word stands. -/
inductive Level where
  /-- In front of the command. -/
  | program
  /-- Behind the command to render a template. -/
  | render
  /-- Behind the command to check fixtures. -/
  | test
  /-- Behind the command that explains another command. -/
  | help
deriving DecidableEq, Repr

/-- The options with a short form at each place. -/
def Level.shortFlags : Level → List (Char × Flag)
  | .program => [('v', .verbose), ('h', .help), ('V', .version)]
  | .render => [('v', .verbose), ('h', .help), ('c', .context), ('s', .set)]
  | .test => [('v', .verbose), ('h', .help), ('c', .category)]
  | .help => []

/-- The options with a long form at each place. -/
def Level.longFlags : Level → List (String × Flag)
  | .program =>
    [("no-color", .noColor), ("verbose", .verbose), ("help", .help), ("version", .version)]
  | .render =>
    [("no-color", .noColor), ("verbose", .verbose), ("help", .help), ("context", .context),
      ("set", .set), ("check", .check), ("ast", .outline), ("dom", .dump),
      ("call-site-wins", .callSiteWins)]
  | .test =>
    [("no-color", .noColor), ("verbose", .verbose), ("help", .help), ("category", .category),
      ("list-categories", .listCategories)]
  | .help => []

/-- The commands by name. -/
def commands : List (String × Level) :=
  [("render", .render), ("test", .test), ("help", .help)]

/-- The command of a name. -/
def command? (word : Text) : Option Level :=
  commands.lookup (String.ofList word)

/-- Why the words of a command line ask for nothing to be done with files. -/
inductive Stop where
  /-- The words make no sense. -/
  | usage
  /-- An explanation is asked for. -/
  | help (level : Level)
  /-- The version of the program is asked for. -/
  | version
deriving DecidableEq, Repr

/-- What the words so far say. -/
structure State where
  level : Level := .program
  /-- The options at this level with their values, the latest first. A value that is not
  taken is empty. -/
  given : List (Flag × Text) := []
  /-- The options in front of the command. -/
  outer : List (Flag × Text) := []
  /-- The option whose value is the next word. -/
  awaiting : Option Flag := none
  /-- All words that follow are operands. -/
  literally : Bool := false
  operand : Option Text := none
deriving DecidableEq, Repr

namespace State

/-- Enters an option. -/
def give (state : State) (flag : Flag) (value : Text) : Except Stop State :=
  if !flag.isRepeatable && state.given.any (·.1 = flag) then .error .usage
  else
    match flag with
    | .help => .error (.help state.level)
    | .version => .error .version
    | _ => .ok { state with given := (flag, value) :: state.given, awaiting := none }

/-- Enters a long option, whose value may stand behind an equals sign. -/
def giveLong (state : State) (word : Text) : Except Stop State :=
  let (name, value?) := match Text.splitOnce '=' word with
    | some (name, value) => (name, some value)
    | none => (word, none)
  match state.level.longFlags.lookup (String.ofList name), value? with
  | none, _ => .error .usage
  | some flag, none =>
    if flag.takesValue then .ok { state with awaiting := some flag } else state.give flag []
  | some flag, some value => if flag.takesValue then state.give flag value else .error .usage

/-- Enters short options that are written together. The first one that takes a value has it
in what follows, where an equals sign in front does not count, or else in the next word. -/
def giveShort (state : State) : Text → Except Stop State
  | [] => .ok state
  | c :: rest =>
    match state.level.shortFlags.lookup c with
    | none => .error .usage
    | some flag =>
      if flag.takesValue then
        match rest with
        | [] => .ok { state with awaiting := some flag }
        | '=' :: value => state.give flag value
        | value => state.give flag value
      else do
        let state ← state.give flag []
        state.giveShort rest

/-- Enters a word that is no option: the command, or the operand of a command. -/
def enter (state : State) (word : Text) : Except Stop State :=
  match state.level with
  | .program =>
    match command? word with
    | some level =>
      if state.literally then .error .usage
      else .ok { state with level, given := [], outer := state.given }
    | none => .error .usage
  | .help =>
    if state.operand.isNone && (command? word).isSome then
      .ok { state with operand := some word }
    else .error .usage
  | _ => if state.operand.isNone then .ok { state with operand := some word } else .error .usage

/-- Reads a word. -/
def read (state : State) (word : Text) : Except Stop State :=
  let isOption := word.head? = some '-' ∧ word ≠ ['-']
  match state.awaiting with
  | some flag => if isOption then .error .usage else state.give flag word
  | none =>
    if state.literally ∨ ¬ isOption ∨ state.level = .help then state.enter word
    else
      match word.drop 1 with
      | ['-'] => .ok { state with literally := true }
      | '-' :: long => state.giveLong long
      | short => state.giveShort short

/-- Whether an option is given, in front of the command or behind it. -/
def has (state : State) (flag : Flag) : Bool :=
  (state.given ++ state.outer).any (·.1 = flag)

/-- The values of an option, in order. -/
def values (state : State) (flag : Flag) : List Text :=
  (state.given.reverse.filter (·.1 = flag)).map Prod.snd

end State

/-! ## Requests -/

/-- What is asked for when a template is to be rendered. -/
structure RenderRequest where
  file : Text
  /-- The file with the variables. -/
  context : Option Text := none
  /-- Further variables with their values. -/
  assignments : List Text := []
  /-- Only the structure of the template is to be checked. -/
  checks : Bool := false
  /-- Only the structure of the template is to be shown. -/
  outlines : Bool := false
  /-- The tree is to be shown instead of the markup. -/
  dumps : Bool := false
  policy : Resolve.MergePolicy := .nodeWins

/-- What is asked for when fixtures are to be checked. -/
structure TestRequest where
  /-- A fixture, or a directory with fixtures. -/
  path : Text
  /-- The requests for categories. -/
  categories : List Text := []
  /-- Only the categories are to be listed. -/
  lists : Bool := false
  color : Bool := true

/-- What the words of a command line ask for. -/
inductive Request where
  | render (request : RenderRequest)
  | test (request : TestRequest)

namespace Request

/-- The words with the command to render a template put in front of the first word that is
no option, unless that word is a command. -/
def withCommand : List Text → List Text
  | [] => []
  | word :: words =>
    if word.head? = some '-' then word :: withCommand words
    else if (command? word).isSome then word :: words
    else "render".toList :: word :: words

/-- What all words together ask for. -/
def ofState (state : State) : Except Stop Request :=
  match state.level, state.awaiting, state.operand with
  | .help, _, none => .error (.help .program)
  | .help, _, some command => .error (.help ((command? command).getD .program))
  | .render, none, some file =>
    .ok <| .render {
      file
      context := (state.values .context).head?
      assignments := state.values .set
      checks := state.has .check
      outlines := state.has .outline
      dumps := state.has .dump
      policy := if state.has .callSiteWins then .callSiteWins else .nodeWins }
  | .test, none, some path =>
    .ok <| .test {
      path
      categories := state.values .category
      lists := state.has .listCategories
      color := !state.has .noColor }
  | _, _, _ => .error .usage

/-- What the words of a command line ask for. -/
def ofWords (words : List Text) : Except Stop Request := do
  ofState (← (withCommand words).foldlM State.read {})

/-- The paths that have to be looked up. -/
def paths : Request → List Text
  | .render request => request.file :: request.context.toList
  | .test request => [request.path]

end Request

end HtmlTemplate.Command
