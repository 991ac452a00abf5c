import SecretScan.Config.Basic

/-!
# Command-line arguments

Options have a long name, most also a letter. The value of an option follows it as the next argument
or is attached to it. A value is taken in when the next option, the next plain argument or the end
follows, or at once if it is attached; what is wrong with it is found then.
-/

namespace SecretScan

/-- The options of a command line. -/
structure Arguments where
  directory : Option Path := none
  types : Option String := none
  output : Option Path := none
  format : Option OutputFormat := none
  json : Bool := false
  config : Option Path := none
  concurrency : Option Nat := none
  verbose : Nat := 0
  deriving DecidableEq, Repr

/-- Why there are no options to go on with. -/
inductive ArgumentStop where
  | unknown
  /-- A value is missing, or a path is empty. -/
  | missing
  /-- A value is malformed. -/
  | malformed
  /-- An option was given before. -/
  | repeated
  /-- There is a value for an option that takes none. -/
  | unneeded
  | help
  | version
  deriving DecidableEq, Repr

namespace Arguments

/-- What an argument can be for. -/
inductive Key where
  | directory
  | types
  | output
  | format
  | json
  | config
  | concurrency
  | verbose
  | help
  | version
  deriving DecidableEq, Repr

namespace Key

/-- The option with a long name. -/
def ofName? (name : String) : Option Key :=
  match name with
  | "types" => some types
  | "output" => some output
  | "format" => some format
  | "json" => some json
  | "config" => some config
  | "concurrency" => some concurrency
  | "verbose" => some verbose
  | "help" => some help
  | "version" => some version
  | _ => none

/-- The option with a letter. -/
def ofLetter? (c : Char) : Option Key :=
  match c with
  | 't' => some types
  | 'o' => some output
  | 'f' => some format
  | 'c' => some config
  | 'v' => some verbose
  | 'h' => some help
  | 'V' => some version
  | _ => none

/-- Whether the option has a value. -/
def hasValue : Key → Bool
  | json | verbose | help | version => false
  | _ => true

end Key

/-- A path that is not empty. -/
def path? (s : String) : Except ArgumentStop Path :=
  if s = "" then .error .missing else .ok ⟨s⟩

/-- A number that 64 bits can hold, in decimal digits; a plus sign may stand before them. -/
def number? (s : String) : Except ArgumentStop Nat :=
  let digits := match s.toList with
    | '+' :: rest => rest
    | cs => cs
  if digits.isEmpty || !digits.all Char.isDigit then .error .malformed
  else
    let n := digits.foldl (fun n d => n * 10 + (d.toNat - '0'.toNat)) 0
    if n < UInt64.size then .ok n else .error .malformed

/-- An option that may be given only once gets its value. -/
def once {α : Type} (old : Option α) (value : Except ArgumentStop α) :
    Except ArgumentStop (Option α) :=
  match old with
  | some _ => .error .repeated
  | none => value.map some

/-- Takes in the value of an option. -/
def put (a : Arguments) (key : Key) (value : String) : Except ArgumentStop Arguments :=
  match key with
  | .directory => do return { a with directory := ← once a.directory (path? value) }
  | .types => do return { a with types := ← once a.types (.ok value) }
  | .output => do return { a with output := ← once a.output (path? value) }
  | .format => do
    let format := match OutputFormat.ofName? value with
      | some f => .ok f
      | none => .error .malformed
    return { a with format := ← once a.format format }
  | .config => do return { a with config := ← once a.config (path? value) }
  | .concurrency => do return { a with concurrency := ← once a.concurrency (number? value) }
  | .json | .verbose | .help | .version => .error .unneeded

/-- Takes in an option without a value. The verbosity counts up to 255. -/
def switch (a : Arguments) (key : Key) : Except ArgumentStop Arguments :=
  match key with
  | .json => if a.json then .error .repeated else .ok { a with json := true }
  | .verbose => .ok { a with verbose := min (a.verbose + 1) 255 }
  | .help => .error .help
  | .version => .error .version
  | _ => .error .missing

/-- The arguments read so far: the options taken in, an option or plain argument that is not taken
in yet, whether it still waits for its value, whether there was a plain argument, and whether the
mark was seen after which all arguments are plain. -/
structure Reader where
  taken : Arguments := {}
  pending : Option (Key × Option String) := none
  waiting : Bool := false
  hasPlain : Bool := false
  plainOnly : Bool := false

namespace Reader

/-- Takes in what is pending. -/
def settle (r : Reader) : Except ArgumentStop Reader :=
  match r.pending with
  | none => .ok { r with waiting := false }
  | some (_, none) => .error .missing
  | some (key, some value) => do
    return { r with taken := ← r.taken.put key value, pending := none, waiting := false }

/-- An option, with its attached value if there is one. -/
def option (r : Reader) (key : Key) (attached : Option String) : Except ArgumentStop Reader := do
  if key.hasValue then
    let r ← r.settle
    match attached with
    | some value => return { r with taken := ← r.taken.put key value }
    | none => return { r with pending := some (key, none), waiting := true }
  else if attached.isSome then .error .unneeded
  else
    let r ← r.settle
    return { r with taken := ← r.taken.switch key }

/-- Letters after one hyphen. The first one with a value takes the rest as its value. -/
def letters (r : Reader) : List Char → Except ArgumentStop Reader
  | [] => .ok r
  | c :: rest => match Key.ofLetter? c with
    | none => .error .unknown
    | some key => do
      if key.hasValue then
        match rest with
        | [] => r.option key none
        | '=' :: value => r.option key (some (String.ofList value))
        | value => r.option key (some (String.ofList value))
      else
        let r ← r.option key none
        r.letters rest

/-- A long name after two hyphens, with an attached value if there is an equals sign. -/
def long (r : Reader) (text : List Char) : Except ArgumentStop Reader :=
  let name := String.ofList (text.takeWhile (· != '='))
  let attached := match text.dropWhile (· != '=') with
    | _ :: value => some (String.ofList value)
    | [] => none
  match Key.ofName? name with
  | none => .error .unknown
  | some key => r.option key attached

/-- A plain argument: the value of an option that waits for it, or else the directory, of which
there is only one. -/
def plain (r : Reader) (text : String) : Except ArgumentStop Reader :=
  match r.pending with
  | some (key, none) =>
    if r.waiting then .ok { r with pending := some (key, some text), waiting := false }
    else directory
  | _ => directory
where
  directory : Except ArgumentStop Reader :=
    if r.hasPlain then .error .unknown
    else do
      let r ← r.settle
      return { r with pending := some (.directory, some text), hasPlain := true }

/-- Reads one argument. -/
def push (r : Reader) (argument : String) : Except ArgumentStop Reader :=
  if r.plainOnly then r.plain argument
  else match argument.toList with
    | ['-', '-'] => .ok { r with plainOnly := true, waiting := false }
    | '-' :: '-' :: text => r.long text
    | ['-'] => r.plain argument
    | '-' :: text => r.letters text
    | _ => r.plain argument

end Reader

/-- The options that arguments give. -/
def read (arguments : List String) : Except ArgumentStop Arguments := do
  let r ← arguments.foldlM Reader.push {}
  return (← r.settle).taken

end Arguments

end SecretScan
