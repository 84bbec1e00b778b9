import LocaleRegistrar.Text.Digit
import LocaleRegistrar.Text.Quoted

/-!
Reading the arguments of a command. An argument that starts with a hyphen is a flag, and may be cut
short as long as it is clear which flag is meant; one that looks like a negative number or holds a
blank is none. After `--` there are no flags.
-/

namespace LocaleRegistrar.Command

/-- What a flag does. -/
inductive Action
  | help
  | version
  /-- Notes that the flag was given. -/
  | switch
  /-- Takes the next argument as the flag's value. -/
  | store
deriving DecidableEq, Repr

structure Flag where
  names : List String
  action : Action
deriving DecidableEq, Repr

/-- What a command takes besides flags. -/
inductive Positional
  | none
  | single (name : String)
  /-- One of these commands with all arguments after it. -/
  | command (name : String) (choices : List String)
deriving DecidableEq, Repr

/-- The arguments that a command takes. -/
structure Interface where
  /-- The name of the command in messages. -/
  program : String
  flags : List Flag
  positional : Positional

/-- Why reading arguments ends early. -/
inductive Stop
  | help
  | version
  | usage (program message : String)
deriving DecidableEq, Repr

/-- A text that is attached to a flag, after an equals sign or directly. -/
structure Attached where
  equals : Bool
  text : List Char
deriving DecidableEq, Repr

/-- A flag that was recognised, under one of its names. -/
structure Recognized where
  flag : Flag
  name : String
  attached : Option Attached
deriving DecidableEq, Repr

/-- What an argument is. -/
inductive Kind
  | plain
  /-- The mark `--`. -/
  | separator
  /-- A flag, or something that looks like one. -/
  | flag (found : Option Recognized)
deriving DecidableEq, Repr

namespace Interface

/-- All names of flags, each with its flag. -/
def names (i : Interface) : List (String × Flag) :=
  i.flags.flatMap fun f => f.names.map (·, f)

def find? (i : Interface) (name : List Char) : Option Flag :=
  i.names.lookup (String.ofList name)

end Interface

/-- What stands before and after the first equals sign. -/
def splitEquals (arg : List Char) : List Char × Option Attached :=
  match arg.dropWhile (· ≠ '=') with
  | [] => (arg, none)
  | _ :: text => (arg.takeWhile (· ≠ '='), some ⟨true, text⟩)

/-- Everything that a long flag, perhaps cut short, may mean. -/
def longMatches (i : Interface) (arg : List Char) : List Recognized :=
  let (name, attached) := splitEquals arg
  i.names.filterMap fun (candidate, flag) =>
    if name.isPrefixOf candidate.toList then some ⟨flag, candidate, attached⟩ else none

/-- Everything that a short flag, perhaps with text attached to it, may mean. -/
def shortMatches (i : Interface) (arg : List Char) : List Recognized :=
  i.names.filterMap fun (candidate, flag) =>
    if candidate.toList = arg.take 2 then some ⟨flag, candidate, some ⟨false, arg.drop 2⟩⟩
    else if arg.isPrefixOf candidate.toList then some ⟨flag, candidate, none⟩
    else none

/-- Does an argument look like a negative number? -/
def isNegativeNumber (arg : List Char) : Bool :=
  match arg with
  | '-' :: rest =>
    let digits := rest.takeWhile Text.isDigit
    match rest.dropWhile Text.isDigit with
    | [] => !digits.isEmpty
    | '.' :: fraction => !fraction.isEmpty && fraction.all Text.isDigit
    | _ => false
  | _ => false

/-- What a flag-like argument is that is no flag by its full name. -/
def classifyMatches (i : Interface) (arg : List Char) (found : List Recognized) :
    Except Stop Kind :=
  match found with
  | [one] => .ok (.flag (some one))
  | _ :: _ :: _ =>
    .error (.usage i.program ("ambiguous option: " ++ String.ofList arg ++ " could match " ++
      ", ".intercalate (found.map (·.name))))
  | [] =>
    if isNegativeNumber arg || arg.contains ' ' then .ok .plain else .ok (.flag none)

/-- What an argument is, if it is not the mark `--`. -/
def classify (i : Interface) (arg : List Char) : Except Stop Kind :=
  match arg with
  | ['-'] => .ok .plain
  | '-' :: second :: _ =>
    match i.find? arg with
    | some flag => .ok (.flag (some ⟨flag, String.ofList arg, none⟩))
    | none =>
      let (name, attached) := splitEquals arg
      match attached, i.find? name with
      | some attached, some flag =>
        .ok (.flag (some ⟨flag, String.ofList name, some attached⟩))
      | _, _ =>
        classifyMatches i arg (if second = '-' then longMatches i arg else shortMatches i arg)
  | _ => .ok .plain

/-- What the arguments are. -/
def classifyAll (i : Interface) : List String → Except Stop (List (String × Kind))
  | [] => .ok []
  | arg :: rest =>
    if arg = "--" then .ok ((arg, .separator) :: rest.map (·, .plain))
    else do
      let kind ← classify i arg.toList
      return (arg, kind) :: (← classifyAll i rest)

/-- What has been read. -/
structure Given where
  /-- The flags that were given, by their first name, with their values; later ones come first. -/
  flags : List (String × Option String) := []
  /-- What was given besides flags. -/
  positional : Option (List String) := none
  /-- What the command does not take. -/
  extras : List String := []

namespace Given

def has (g : Given) (name : String) : Bool :=
  (g.flags.lookup name).isSome

def value? (g : Given) (name : String) : Option String :=
  (g.flags.lookup name).bind id

end Given

/-- Acts on a flag. -/
def act (g : Given) (flag : Flag) (value : Option String) : Except Stop Given :=
  match flag.action with
  | .help => .error .help
  | .version => .error .version
  | .switch | .store => .ok { g with flags := (flag.names.headD "", value) :: g.flags }

def flagError (i : Interface) (flag : Flag) (message : String) : Stop :=
  .usage i.program ("argument " ++ "/".intercalate flag.names ++ ": " ++ message)

def ignoredText (i : Interface) (flag : Flag) (text : List Char) : Stop :=
  flagError i flag ("ignored explicit argument " ++ Text.quoted (String.ofList text))

/-- What flags written in one argument ask for: the flags in order, the last one perhaps with a value
or in need of one, and what is left that is no flag. -/
structure Cluster where
  switches : List Flag
  last : Option (Flag × Option String) := none
  rest : Option String := none

/-- Reads flags that take no value and are written in one argument, one character each, down to the
last one. `attached` is what follows the flag `flag` in the argument; `n` bounds its length. -/
def cluster (i : Interface) (flag : Flag) (name : String) (attached : Option Attached) :
    Nat → Except Stop Cluster
  | 0 => .ok ⟨[], some (flag, none), none⟩
  | n + 1 =>
    match attached with
    | none => .ok ⟨[], some (flag, none), none⟩
    | some ⟨equals, text⟩ =>
      if flag.action = .store then .ok ⟨[], some (flag, some (String.ofList text)), none⟩
      else
        match text with
        | [] => .error (ignoredText i flag text)
        | c :: more =>
          if name.toList[1]? = some '-' || equals || c = '-' then
            .error (ignoredText i flag text)
          else
            match i.find? ['-', c] with
            | none => .ok ⟨[flag], none, some (String.ofList ('-' :: text))⟩
            | some next =>
              let attached := match more with
                | [] => none
                | '=' :: more => some ⟨true, more⟩
                | more => some ⟨false, more⟩
              match cluster i next (String.ofList ['-', c]) attached n with
              | .error stop => .error stop
              | .ok found => .ok { found with switches := flag :: found.switches }

/-- Acts on flags that take no value. -/
def actAll (g : Given) (flags : List Flag) : Except Stop Given :=
  flags.foldlM (fun g flag => act g flag none) g

/-- Takes an argument that is no flag. Gives the arguments after it, if it can be taken. -/
def takePositional (i : Interface) (g : Given) (items : List (String × Kind)) :
    Option (Given × List (String × Kind)) :=
  if g.positional.isSome then none
  else
    let before := items.takeWhile (·.2 = .separator)
    match items.dropWhile (·.2 = .separator) with
    | [] => none
    | arg :: rest =>
      match i.positional with
      | .none => none
      | .single _ =>
        some ({ g with positional := some [arg.1] }, rest.dropWhile (·.2 = .separator))
      | .command .. =>
        some ({ g with positional := some ((before ++ arg :: rest).map (·.1)) }, [])

/-- Reads the arguments one after the other. `n` bounds their number. -/
def readItems (i : Interface) : Nat → Given → List (String × Kind) → Except Stop Given
  | _, g, [] => .ok g
  | 0, g, _ => .ok g
  | n + 1, g, (arg, .flag none) :: rest =>
    readItems i n { g with extras := g.extras ++ [arg] } rest
  | n + 1, g, (arg, .flag (some found)) :: rest => do
    let c ← cluster i found.flag found.name found.attached (arg.length + 1)
    match c.last with
    | none =>
      let g ← actAll { g with extras := g.extras ++ c.rest.toList } c.switches
      readItems i n g rest
    | some (flag, some value) =>
      let g ← act (← actAll g c.switches) flag (some value)
      readItems i n g rest
    | some (flag, none) =>
      if flag.action = .store then
        match rest with
        | (value, .plain) :: rest =>
          let g ← act (← actAll g c.switches) flag (some value)
          readItems i n g rest
        | _ => throw (flagError i flag "expected one argument")
      else
        let g ← act (← actAll g c.switches) flag none
        readItems i n g rest
  | n + 1, g, (arg, kind) :: rest =>
    match takePositional i g ((arg, kind) :: rest) with
    | some (g, rest) => readItems i n g rest
    | none => readItems i n { g with extras := g.extras ++ [arg] } rest

/-- The positional argument that is missing. -/
def missing? (i : Interface) (g : Given) : Option String :=
  match i.positional, g.positional with
  | .single name, none | .command name _, none => some name
  | _, _ => none

/-- Reads the arguments of a command. -/
def Interface.read (i : Interface) (args : List String) : Except Stop Given := do
  let items ← classifyAll i args
  let g ← readItems i (items.length + 1) {} items
  match missing? i g with
  | some name =>
    throw (.usage i.program ("the following arguments are required: " ++ name))
  | none => return g

/-- What is said about a command that there is not. -/
def invalidChoice (i : Interface) (name choice : String) (choices : List String) : Stop :=
  .usage i.program ("argument " ++ name ++ ": invalid choice: " ++ Text.quoted choice ++
    " (choose from " ++ ", ".intercalate (choices.map Text.quoted) ++ ")")

/-- Refuses what a command does not take. -/
def refuseExtras (i : Interface) (extras : List String) : Except Stop Unit :=
  if extras.isEmpty then .ok ()
  else .error (.usage i.program ("unrecognized arguments: " ++ " ".intercalate extras))

end LocaleRegistrar.Command
