import LocaleRegistrar.Command.Run

/-!
The command that registers a locale in a file or in all files `*.py` of a directory. Every file is
read, run and written before the next one is read. With a check nothing is written.
-/

namespace LocaleRegistrar.Command

open LocaleRegistrar.Console
open LocaleRegistrar.Files
open LocaleRegistrar.Registration

/-- What the command is asked to do. -/
structure RegisterOptions where
  input : Files.Path
  output : Option Path := none
  locale : Option String := none
  entryModule : Option String := none
  localesDir : Option Path := none
  /-- Report what would change, and write nothing. -/
  check : Bool := false

/-- A configured registration and where its locales come from. -/
structure Engine where
  request : Request
  source : Locale.Source

/-- A path in a message. -/
def pathMarkup (p : Files.Path) : String :=
  "[path]" ++ escape p.text ++ "[/path]"

/-- Runs the registration over the text of a file. -/
def runEngine (engine : Engine) (text : String) : Run Outcome := do
  let s ← surroundings
  let available := engine.source.list s
  report (engine.request.runNotes (engine.source.listNotes s) available text)
  match engine.request.run available text with
  | .ok outcome => return outcome
  | .error f => throw (.fault f)

/-- Reports what would change in a file. -/
def reportPending (input : Files.Path) (outcome : Outcome) : Run Unit := do
  if outcome.changed then
    log .warning ("Would register locale in " ++ pathMarkup input)
    outcome.inserted.forM fun line => print ("   + " ++ escape line)

/-- Writes the outcome of a file. A file that did not change is written only to another path. -/
def writeOutcome (engine : Engine) (input output : Files.Path) (outcome : Outcome) :
    Run Outcome := do
  if !outcome.changed && output = input then return outcome
  else
    let (files, error) :=
      (← get).files.writeInto (← read).here output (Text.encodeUtf8 outcome.code)
    modify fun s => { s with files }
    match error with
    | some e =>
      log .error ("Failed to write " ++ escape output.text ++ ": " ++ escape e.message)
      return .failed outcome.code e.message
    | none =>
      if outcome.changed then
        log .success ("Registered locale [locale]" ++ escape engine.request.locale ++ "[/locale]: "
          ++ pathMarkup input ++ " -> " ++ pathMarkup output)
      return outcome

/-- Registers the locale in one file. -/
def registerFile (engine : Engine) (check : Bool) (input output : Files.Path) : Run Outcome := do
  match (← get).files.read (← read).here input with
  | .error e =>
    log .error ("Failed to read " ++ escape input.text ++ ": " ++ escape e.message)
    return .failed "" e.message
  | .ok bytes =>
    match Text.decodeUtf8 bytes with
    | .error _ => throw .undecodable
    | .ok text =>
      let outcome ← runEngine engine (Text.unifyLineEnds text)
      if !outcome.success then return outcome
      else if check then
        reportPending input outcome
        return outcome
      else writeOutcome engine input output outcome

/-- The paths of the files `*.py` below a directory, from the directory on. -/
def sourcePaths (files : Files.Tree) (dir : Location) : List Path :=
  let isSource (names : Location) : Bool :=
    Tree.matchesPattern "*.py".toList (names.getLast?.getD "").toList
  (((files.below dir).filter isSource).mergeSort Location.before).map fun names => ⟨.here, names⟩

/-- Registers the locale in files below a directory, one after the other. -/
def registerAll (engine : Engine) (options : RegisterOptions) :
    List Files.Path → Run (List (String × Outcome))
  | [] => return []
  | path :: rest => do
    let input := options.input.join path
    let output := match options.output with
      | some dir => dir.join path
      | none => input
    let outcome ← registerFile engine options.check input output
    return (path.text, outcome) :: (← registerAll engine options rest)

/-- A row of the report about a file that failed. -/
def failureRow (name : String) (outcome : Outcome) : List String :=
  let issues := if outcome.errors.isEmpty then "Unknown Error" else "; ".intercalate outcome.errors
  [escape name, "❌ Failed", escape issues]

/-- Prints what has become of the files. -/
def summarize (check : Bool) (results : List (String × Outcome)) : Run Unit := do
  let changed := results.countP fun (_, o) => o.success && o.changed
  let failures := results.filter fun (_, o) => !o.success
  let verb := if check then "need registration" else "updated"
  if failures.isEmpty then
    log .success ("Batch Complete: " ++ toString changed ++ "/" ++ toString results.length ++
      " files " ++ verb ++ ".")
  else
    emit (tabled "Locale Registration Report"
      (["File", "Status", "Issues"] :: failures.map fun (name, o) => failureRow name o))
    print ("\n[bold]Summary:[/bold] " ++ toString changed ++ " " ++ verb ++ ", " ++
      toString failures.length ++ " failed.")

/-- The exit code for the results. -/
def exitCode (check : Bool) (results : List (String × Outcome)) : Nat :=
  if results.any fun (_, o) => !o.success then 1
  else if check && results.any fun (_, o) => o.changed then 1
  else 0

/-- The configured registration, unless something is missing. -/
def loadEngine (options : RegisterOptions) (start : Files.Path) : Run (Option Engine) := do
  let config ← loadConfig
    { locale := options.locale, entryModule := options.entryModule,
      localesDir := options.localesDir, searchPath := some start }
  match config with
  | none => return none
  | some config =>
    match config.request with
    | .ok request => return some ⟨request, config.source⟩
    | .error missing =>
      log .error (escape missing.message)
      return none

/-- Registers the locale in a file. -/
def registerSingle (engine : Engine) (options : RegisterOptions) : Run Nat := do
  let outcome ← registerFile engine options.check options.input
    (options.output.getD options.input)
  let results := [(options.input.name, outcome)]
  summarize options.check results
  return exitCode options.check results

/-- Registers the locale in the files below a directory. -/
def registerDirectory (engine : Engine) (options : RegisterOptions) (dir : Location) :
    Run Nat := do
  let paths := sourcePaths (← get).files dir
  if paths.isEmpty then
    log .warning ("No .py files found in " ++ pathMarkup options.input)
    return 0
  else
    log .info ("Processing " ++ toString paths.length ++ " files from " ++
      pathMarkup options.input ++ "...")
    let results ← registerAll engine options paths
    summarize options.check results
    return exitCode options.check results

/-- The command. -/
def register (options : RegisterOptions) : Run Nat := do
  let s ← surroundings
  match s.files.locate s.here options.input with
  | .error _ => notFound
  | .ok l =>
    match s.files.get? l with
    | none => notFound
    | some (.file _) =>
      match ← loadEngine options options.input.parent with
      | none => return 1
      | some engine => registerSingle engine options
    | some .directory =>
      match ← loadEngine options options.input with
      | none => return 1
      | some engine => registerDirectory engine options l
where
  notFound : Run Nat := do
    log .error ("Input not found: " ++ pathMarkup options.input)
    return 1

end LocaleRegistrar.Command
