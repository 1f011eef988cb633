import LoggedInputs.Cli.Interface
import LoggedInputs.Text.Similarity
/-!
# Reading the command line

The arguments are read left to right against a program's description. `--name`, `--name=value`,
`-x`, and clusters such as `-vq` or `-ifile` name options; an option that takes values takes the
following arguments (one, or as many as do not look like options) unless its value is attached.
An option's values are checked when the next option is met or the arguments end, so a mistake in
them is reported then. A bare word at the top names a subcommand, and the rest of the arguments
belong to it; `--` makes every later argument a bare word.

After the arguments of a command are read, the command checks that no two given options conflict
(the first given option with a conflict is reported) and that the required ones were given; a
subcommand is checked before the top command. The top command without a subcommand shows its help
page when nothing at all was given, and otherwise asks for a subcommand.

`-h` and `--help` stop everything and show the short or long help page, `-V` and `--version` the
version; `help NAME...` shows the long help page of a subcommand.

Suggestions use the Jaro similarity: a known name above 0.7 is suggested, the most similar one
(of equally similar ones, the last).
-/

namespace LoggedInputs.Cli

/-- How reading the command line ends when no command runs: text for standard output or
standard error, and the exit status. -/
structure Exit where
  toStdout : Bool
  text : String
  status : Nat

/-- A usage error, shown on standard error with status 2. -/
def UsageError.exit (e : UsageError) : Exit := ⟨false, e.render, 2⟩

/-- The options given to a command, in order of first appearance, each with its values (a
switch or counter has one empty value per occurrence). -/
abbrev Given := List (String × List String)

namespace Given

/-- The ids of the given options. -/
def ids (g : Given) : List String := g.map (·.1)

/-- Whether an option was given. -/
def has (g : Given) (id : String) : Bool := g.any (·.1 == id)

/-- The values given to an option. -/
def values (g : Given) (id : String) : List String := (g.lookup id).getD []

/-- Adds values to an option, which keeps its place if it was given before. -/
def add (g : Given) (id : String) (vs : List String) : Given :=
  if g.has id then g.map fun (k, ws) => if k == id then (k, ws ++ vs) else (k, ws)
  else g ++ [(id, vs)]

end Given

/-- An option waiting for its values: those collected so far, and whether it takes more. -/
structure Pending where
  opt : Opt
  values : List String
  more : Bool

/-- The state of reading one command's arguments. -/
structure ReadState where
  given : Given := []
  pending : Option Pending := none
  trailing : Bool := false

/-! ## Suggestions -/

/-- The known names similar to `name` (Jaro similarity above 0.7, in double precision),
least similar first; equally similar names keep their order. -/
def similarNames (name : String) (known : List String) : List String :=
  let scored := known.filterMap fun k =>
    let s := Text.jaro name.toList k.toList
    if (Text.Score.ofFraction 7 10).lt s then some (k, s) else none
  (scored.mergeSort fun a b => !b.2.lt a.2).map (·.1)

/-- The known name most similar to `name`, if one is similar enough. -/
def similarName (name : String) (known : List String) : Option String :=
  (similarNames name known).getLast?

/-! ## Errors -/

/-- The possible values of an option, as errors list them. -/
def possibleValues (o : Opt) : String :=
  if o.choices.isEmpty then ""
  else "\n  [possible values: " ++ ", ".intercalate (o.choices.map (·.name)) ++ "]"

/-- An option given without a value. -/
def emptyValue (o : Opt) : UsageError :=
  { message := "a value is required for '" ++ o.spec ++ "' but none was supplied" ++
      possibleValues o }

/-- A value that is not among an option's choices. -/
def invalidValue (o : Opt) (v : String) : UsageError :=
  if v.isEmpty then emptyValue o
  else
    { message := "invalid value '" ++ v ++ "' for '" ++ o.spec ++ "'" ++ possibleValues o,
      tips := (similarName v (o.choices.map (·.name))).toList.map fun s =>
        "a similar value exists: '" ++ s ++ "'" }

section Reading

variable (p : Program) (c : Command) (top : Bool)

/-- An option given twice that may be given once. -/
def givenTwice (o : Opt) : UsageError :=
  { message := "the argument '" ++ o.spec ++ "' cannot be used multiple times",
    usage := some (helpUsage p c top) }

/-- Records an occurrence of an option with its values, or stops at a help or version option. -/
def occurrence (g : Given) (o : Opt) (values : List String) (long : Bool) : Except Exit Given :=
  let refused (v : String) : Bool :=
    (o.path && v.isEmpty) || (!o.choices.isEmpty && !o.choices.any (·.name == v))
  let check : Except Exit Unit :=
    match values.find? refused with
    | some v => .error (invalidValue o v).exit
    | none => .ok ()
  match o.takes with
  | .help => .error ⟨true, helpPage p c top long, 0⟩
  | .version => .error ⟨true, p.name ++ " " ++ p.version ++ "\n", 0⟩
  | .switch => if g.has o.id then .error (givenTwice p c top o).exit else .ok (g.add o.id [""])
  | .count => .ok (g.add o.id [""])
  | .one _ =>
    if values.isEmpty then .error (emptyValue o).exit
    else if g.has o.id then .error (givenTwice p c top o).exit
    else do check; return g.add o.id values
  | .many _ =>
    if values.isEmpty then .error (emptyValue o).exit
    else do check; return g.add o.id values

/-- Records the option waiting for values, if any. -/
def settle (lvl : ReadState) : Except Exit ReadState :=
  match lvl.pending with
  | none => .ok lvl
  | some pd => do
    let g ← occurrence p c top lvl.given pd.opt pd.values true
    return { lvl with given := g, pending := none }

/-- Records the option waiting for values if that succeeds, and drops it otherwise. -/
def settleQuietly (lvl : ReadState) : ReadState :=
  match settle p c top lvl with
  | .ok l => l
  | .error _ => { lvl with pending := none }

/-- A long option that the command does not have. -/
def unknownLong (name : String) (given : Given) (rest : List String) : UsageError :=
  let arg := "--" ++ name
  let message := "unexpected argument '" ++ arg ++ "' found"
  match similarName name (c.options.map (·.long)) with
  | some cand =>
    let used := given.ids ++ (match c.byLong cand with
      | some o => if given.has o.id then [] else [o.id]
      | none => [])
    { message, tips := ["a similar argument exists: '--" ++ cand ++ "'"],
      usage := some (usageFor p c top used) }
  | none =>
    let elsewhere := if !top then none else
      (p.commands.filterMap fun s =>
        let longs := (p.optionsOf s).map (·.long)
        match similarName name longs, rest.findIdx? (· == s.name) with
        | some cand, some i => some (i, s.name ++ " --" ++ cand)
        | _, _ => none).foldl (fun best x =>
          match best with
          | some b => if x.1 < b.1 then some x else best
          | none => some x) none
    { message, tips := elsewhere.toList.map fun (_, s) => "'" ++ s ++ "' exists",
      usage := some (usageFor p c top given.ids) }

/-- A bare word where none is taken; `trailing` when it follows `--`. -/
def unexpectedWord (word : String) (trailing : Bool) : UsageError :=
  if top && trailing && p.commandNames.contains word then
    { message := "unexpected argument '" ++ word ++ "' found",
      tips := ["subcommand '" ++ word ++ "' exists; to use it, remove the '--' before it"],
      usage := some (helpUsage p c top) }
  else if top then
    match similarNames word p.commandNames with
    | [] => { message := "unrecognized subcommand '" ++ word ++ "'",
              usage := some (helpUsage p c top) }
    | [s] => { message := "unrecognized subcommand '" ++ word ++ "'",
               tips := ["a similar subcommand exists: '" ++ s ++ "'"],
               usage := some (helpUsage p c top) }
    | ss => { message := "unrecognized subcommand '" ++ word ++ "'",
              tips := ["some similar subcommands exist: " ++
                ", ".intercalate (ss.map fun s => "'" ++ s ++ "'")],
              usage := some (helpUsage p c top) }
  else
    { message := "unexpected argument '" ++ word ++ "' found", usage := some (helpUsage p c top) }

/-- Reads a cluster of short options (the characters after `-`). -/
def shortCluster : List Char → ReadState → Except Exit ReadState
  | [], lvl => .ok lvl
  | ch :: more, lvl =>
    match c.byShort ch with
    | none =>
      .error { message := "unexpected argument '-" ++ ch.toString ++ "' found",
               usage := some (helpUsage p c top) : UsageError }.exit
    | some o =>
      if !o.takesValue then do
        let lvl ← settle p c top lvl
        let g ← occurrence p c top lvl.given o [] false
        shortCluster more { lvl with given := g }
      else
        let attached := match more with
          | [] => none
          | '=' :: r => some (String.ofList r)
          | r => some (String.ofList r)
        match attached with
        | some v => do
          let lvl ← settle p c top lvl
          let g ← occurrence p c top lvl.given o [v] false
          return { lvl with given := g }
        | none => do
          let lvl ← settle p c top lvl
          return { lvl with pending := some ⟨o, [], true⟩ }

/-- Where reading a command's arguments stopped: at their end, or at a subcommand's name with
the arguments that follow it. -/
inductive Stop where
  | done
  | sub (name : String) (rest : List String)

/-- The help page that `help NAME...` asks for. -/
def helpCommand (names : List String) : Exit :=
  let topCmd := p.topCommand
  let rec walk : List String → Command → Bool → Exit
    | [], cmd, isTop => ⟨true, helpPage p cmd isTop true, 0⟩
    | n :: ns, cmd, isTop =>
      match (if isTop then p.command? n else none) with
      | some sub => walk ns sub false
      | none => (({ message := "unrecognized subcommand '" ++ n ++ "'",
                    usage := some (helpUsage p cmd isTop) } : UsageError).exit)
  walk names topCmd true

/-- Reads a command's arguments. -/
def readArgs : List String → ReadState → Except Exit (ReadState × Stop)
  | [], lvl => do return (← settle p c top lvl, .done)
  | a :: rest, lvl =>
    if !lvl.trailing && top && p.commandNames.contains a then
      if a == "help" then .error (helpCommand p rest)
      else .ok (lvl, .sub a rest)
    else if !lvl.trailing && a == "--" then readArgs rest { lvl with trailing := true }
    else if !lvl.trailing && a.startsWith "--" then
      let body := (a.drop 2).toString
      let name := (Text.split body '=').headD ""
      let value := if body.contains '=' then some (body.drop (name.length + 1)).toString else none
      match c.byLong name with
      | none =>
        let lvl := settleQuietly p c top lvl
        .error (unknownLong p c top name lvl.given rest).exit
      | some o =>
        if o.takesValue then
          match value with
          | some v => do
            let lvl ← settle p c top lvl
            let g ← occurrence p c top lvl.given o [v] true
            readArgs rest { lvl with given := g }
          | none => do
            let lvl ← settle p c top lvl
            readArgs rest { lvl with pending := some ⟨o, [], true⟩ }
        else
          match value with
          | some v =>
            .error ({ message := "unexpected value '" ++ v ++ "' for '" ++ o.spec ++
                        "' found; no more were expected",
                      usage := some (usageFor p c top (lvl.given.ids ++ [o.id])) } : UsageError).exit
          | none => do
            let lvl ← settle p c top lvl
            let g ← occurrence p c top lvl.given o [] true
            readArgs rest { lvl with given := g }
    else if !lvl.trailing && a.startsWith "-" && a.length > 1 then do
      readArgs rest (← shortCluster p c top (a.toList.drop 1) lvl)
    else
      match lvl.pending with
      | some pd =>
        if pd.more && !lvl.trailing then
          let more := match pd.opt.takes with
            | .many _ => true
            | _ => false
          readArgs rest { lvl with pending := some { pd with values := pd.values ++ [a], more } }
        else .error (unexpectedWord p c top a lvl.trailing).exit
      | none => .error (unexpectedWord p c top a lvl.trailing).exit

/-- Checks a command's given options: conflicts first, then required options. -/
def checkGiven (given : Given) : Except Exit Unit := do
  let conflicting (a b : String) : Bool :=
    a != b && (((c.byId a).map (·.conflicts.contains b)).getD false ||
      ((c.byId b).map (·.conflicts.contains a)).getD false)
  for id in given.ids do
    let others := given.ids.filter (conflicting id)
    if !others.isEmpty then
      let specOf (i : String) := ((c.byId i).map Opt.spec).getD i
      let message := "the argument '" ++ specOf id ++ "' cannot be used with" ++
        match others with
        | [o] => " '" ++ specOf o ++ "'"
        | os => ":" ++ String.join (os.map fun o => "\n  " ++ specOf o)
      let used := given.ids.filter (!others.contains ·)
      throw ({ message, usage := some (usageFor p c top used) } : UsageError).exit
  let missing := c.options.filter fun o => o.required && !given.has o.id
  if !missing.isEmpty then
    throw ({ message := "the following required arguments were not provided:" ++
               String.join (missing.map fun o => "\n  " ++ o.spec),
             usage := some (usageFor p c top (given.ids ++ missing.map (·.id))) } : UsageError).exit

end Reading

/-- What the command line selects: a subcommand with its options and the top command's. -/
structure Selection where
  command : String
  given : Given
  topGiven : Given

/-- Reads a command line: the subcommand it runs, or how it ends instead. -/
def select (p : Program) (args : List String) : Except Exit Selection := do
  let topCmd := p.topCommand
  let (lvl, stop) ← readArgs p topCmd true args {}
  match stop with
  | .done =>
    if lvl.given.isEmpty then throw ⟨false, helpPage p topCmd true false, 2⟩
    else
      throw ({ message := "'" ++ p.name ++ "' requires a subcommand but one was not provided" ++
                 "\n  [subcommands: " ++ ", ".intercalate p.commandNames ++ "]",
               usage := some (helpUsage p topCmd true) } : UsageError).exit
  | .sub name rest =>
    match p.command? name with
    | none => throw (unexpectedWord p topCmd true name false).exit
    | some cmd =>
      let (sub, _) ← readArgs p cmd false rest {}
      checkGiven p cmd false sub.given
      checkGiven p topCmd true lvl.given
      return { command := name, given := sub.given, topGiven := lvl.given }

/-- The values of a global option: the subcommand's if given there, else the top command's. -/
def Selection.global (s : Selection) (id : String) : List String :=
  if s.given.has id then s.given.values id else s.topGiven.values id

end LoggedInputs.Cli
