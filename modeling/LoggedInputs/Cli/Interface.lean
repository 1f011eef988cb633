import LoggedInputs.Text.Split
/-!
# The command-line interface

The commands and options of the `autolog` program, described as data, and the texts made from
that description: usage lines, help pages and error messages.

A command has options and may have subcommands. An option has a short and a long name, takes no
value, counts its occurrences, or takes one or more values (shown as `<NAME>` or `<NAME>...`),
and may be required, conflict with another option, have a default, and restrict its values to a
list of choices. Options marked global are also options of every subcommand except `help`.

Help pages come in two lengths. The short page lists each option on one line, its description
aligned after the longest option; the long page (asked for with `--help` when some option has
choices with their own descriptions) puts each description under its option with a blank line
between options, and lists the choices one per line. Options are listed by their place in their
own command (global options keep their place from the top command), then by name.
-/

namespace LoggedInputs.Cli

/-- How an option is used. -/
inductive Takes where
  /-- Present or not; given at most once. -/
  | switch
  /-- Counted. -/
  | count
  /-- One value; given at most once. -/
  | one (valueName : String)
  /-- One or more values per occurrence, collected over any number of occurrences. -/
  | many (valueName : String)
  /-- Shows the help page. -/
  | help
  /-- Shows the version. -/
  | version
  deriving DecidableEq

/-- A value an option may take, with its description. -/
structure Choice where
  name : String
  help : String

/-- An option of a command. -/
structure Opt where
  id : String
  short : Option Char := none
  long : String
  takes : Takes
  help : String
  longHelp : Option String := none
  required : Bool := false
  global : Bool := false
  conflicts : List String := []
  choices : List Choice := []
  /-- Its values are paths, and a path is never empty. -/
  path : Bool := false
  default : Option String := none
  /-- The place in help listings. -/
  order : Nat

namespace Opt

/-- Whether the option takes values. -/
def takesValue (o : Opt) : Bool :=
  match o.takes with
  | .one _ | .many _ => true
  | _ => false

/-- The option as messages name it: `--input <INPUTS>...`, `--verbose...`, `--quiet`. -/
def spec (o : Opt) : String :=
  "--" ++ o.long ++
    match o.takes with
    | .one n => " <" ++ n ++ ">"
    | .many n => " <" ++ n ++ ">..."
    | .count => "..."
    | _ => ""

/-- The option as help pages list it: `-i, --input <INPUTS>...` or `    --depfile <DEPFILE>`. -/
def listing (o : Opt) : String :=
  (match o.short with
    | some c => "-" ++ c.toString ++ ", "
    | none => "    ") ++ o.spec

/-- The key help listings sort by after the place: the short name (lower case first) or the
long name. -/
def sortKey (o : Opt) : String :=
  match o.short with
  | some c => c.toLower.toString ++ (if c.isLower then "0" else "1")
  | none => o.long

/-- Whether `a` comes before `b` in help listings. -/
def listedBefore (a b : Opt) : Bool :=
  a.order < b.order || (a.order == b.order && a.sortKey < b.sortKey)

/-- The default and the choices, as help pages append them. -/
def extras (o : Opt) (long : Bool) : List String :=
  let dflt := match o.default with
    | some d => ["[default: " ++ d ++ "]"]
    | none => []
  let choices :=
    if o.choices.isEmpty || long then []
    else ["[possible values: " ++ ", ".intercalate (o.choices.map (·.name)) ++ "]"]
  dflt ++ choices

end Opt

/-- A command: its name, its description, its options, and (for the top command) the names of
its subcommands. -/
structure Command where
  name : String
  about : String
  options : List Opt
  /-- A required list of names, shown as `[NAME]...`, for the `help` command. -/
  names : Option (String × String) := none

namespace Command

/-- The option with a long name. -/
def byLong (c : Command) (name : String) : Option Opt := c.options.find? (·.long == name)

/-- The option with a short name. -/
def byShort (c : Command) (ch : Char) : Option Opt := c.options.find? (·.short == some ch)

/-- The option with an id. -/
def byId (c : Command) (id : String) : Option Opt := c.options.find? (·.id == id)

/-- The options in help order. -/
def listed (c : Command) : List Opt := c.options.mergeSort Opt.listedBefore

end Command

/-- A program: its name and version, its top command, and the subcommands. -/
structure Program where
  name : String
  version : String
  top : Command
  commands : List Command

namespace Program

/-- The help option of a command with these options: it mentions the other page when the command
has a long one. -/
def helpOption (os : List Opt) : Opt :=
  if os.any (fun o => !o.choices.isEmpty) then
    { id := "help", short := some 'h', long := "help", takes := .help, order := 999,
      help := "Print help (see more with '--help')",
      longHelp := some "Print help (see a summary with '-h')" }
  else { id := "help", short := some 'h', long := "help", takes := .help, order := 999,
         help := "Print help" }

/-- The options of a subcommand: its own, then the global options of the top command, then the
help option; the `help` command has only its own. -/
def optionsOf (p : Program) (c : Command) : List Opt :=
  if c.name == "help" then c.options
  else
    let os := c.options ++ p.top.options.filter (·.global)
    os ++ [helpOption os]

/-- A subcommand by name, with its full list of options. -/
def command? (p : Program) (name : String) : Option Command :=
  (p.commands.find? (·.name == name)).map fun c => { c with options := p.optionsOf c }

/-- The top command with its help and version options. -/
def topCommand (p : Program) : Command :=
  { p.top with options := p.top.options ++
    [helpOption p.top.options,
     { id := "version", short := some 'V', long := "version", takes := .version, order := 999,
       help := "Print version" }] }

/-- The names of the subcommands, in order. -/
def commandNames (p : Program) : List String := p.commands.map (·.name)

end Program

/-! ## Usage lines -/

/-- Whether a command's usage line shows `[OPTIONS]`: some option is neither required nor the
help or version option. -/
def showsOptionsTag (c : Command) : Bool :=
  c.options.any fun o => !o.required && o.takes != .help && o.takes != .version

/-- A command's full name, as usage lines show it. -/
def commandPath (p : Program) (c : Command) : String :=
  if c.name == p.name then p.name else p.name ++ " " ++ c.name

/-- Specs without repeats, in order of first appearance. -/
def dedup (xs : List String) : List String :=
  xs.foldl (fun acc s => if acc.contains s then acc else acc ++ [s]) []

/-- The usage line of a command: `[OPTIONS]`, the required options, and `<COMMAND>` for the top
command. -/
def helpUsage (p : Program) (c : Command) (top : Bool) : String :=
  let required := c.options.filter (·.required) |>.map Opt.spec
  let names := match c.names with
    | some (n, _) => ["[" ++ n ++ "]..."]
    | none => []
  " ".intercalate ([commandPath p c] ++ (if showsOptionsTag c then ["[OPTIONS]"] else []) ++
    required ++ names ++ (if top then ["<COMMAND>"] else []))

/-- The usage line for what was given: the required options, then the options `used`, each
once, and `<COMMAND>` for the top command. -/
def usageFor (p : Program) (c : Command) (top : Bool) (used : List String) : String :=
  if used.isEmpty then helpUsage p c top
  else
    let required := c.options.filter (·.required) |>.map (·.id)
    let specs := dedup ((required ++ used).filterMap fun id => (c.byId id).map Opt.spec)
    " ".intercalate ([commandPath p c] ++ specs ++ (if top then ["<COMMAND>"] else []))

/-! ## Help pages -/

/-- `n` spaces. -/
def spaces (n : Nat) : String := String.ofList (List.replicate n ' ')

/-- The width of the option column: the longest listing, at least 2. -/
def listingWidth (os : List Opt) : Nat :=
  os.foldl (fun w o => max w (o.listing.length)) 2

/-- One option on one line, its description starting after the option column. -/
def shortEntry (width : Nat) (o : Opt) : String :=
  let text := " ".intercalate ([o.help] ++ o.extras false |>.filter (!·.isEmpty))
  "  " ++ o.listing ++ spaces (width + 2 - o.listing.length) ++ text

/-- Text indented after each line break. -/
def indentLines (indent text : String) : String :=
  ("\n" ++ indent).intercalate (Text.split text '\n')

/-- One option with its description on the following lines. -/
def longEntry (o : Opt) : String :=
  let indent := spaces 10
  let help := o.longHelp.getD o.help
  let extras := "\n".intercalate (o.extras true)
  let text := if extras.isEmpty then help else if help.isEmpty then extras
    else help ++ "\n\n" ++ extras
  let choices :=
    if o.choices.isEmpty then ""
    else
      let w := o.choices.foldl (fun w ch => max w ch.name.length) 0
      (if text.isEmpty then "" else "\n\n" ++ indent) ++ "Possible values:" ++
        String.join (o.choices.map fun ch =>
          "\n" ++ indent ++ "- " ++ ch.name ++ ": " ++ spaces (w - ch.name.length) ++ ch.help)
  "  " ++ o.listing ++ "\n" ++ indent ++ indentLines indent text ++ choices

/-- Whether a command's long help page differs from its short one: some option has choices. -/
def hasLongHelp (c : Command) : Bool := c.options.any fun o => !o.choices.isEmpty

/-- The help page of a command (the long one when `long` and the command has one). -/
def helpPage (p : Program) (c : Command) (top : Bool) (long : Bool) : String :=
  let long := long && hasLongHelp c
  let opts := c.listed
  let commands :=
    if top then
      let all := p.commands.map fun s => (s.name, s.about)
      let w := all.foldl (fun w (n, _) => max w n.length) 2
      ["Commands:\n" ++ "\n".intercalate (all.map fun (n, a) => "  " ++ n ++ spaces (w + 2 - n.length) ++ a)]
    else []
  let arguments := match c.names with
    | some (n, h) =>
      let spec := "[" ++ n ++ "]..."
      ["Arguments:\n  " ++ spec ++ "  " ++ h]
    | none => []
  let options :=
    if opts.isEmpty then []
    else if long then ["Options:\n" ++ "\n\n".intercalate (opts.map longEntry)]
    else
      let w := listingWidth opts
      ["Options:\n" ++ "\n".intercalate (opts.map (shortEntry w))]
  c.about ++ "\n\nUsage: " ++ helpUsage p c top ++ "\n\n" ++
    "\n\n".intercalate (commands ++ arguments ++ options) ++ "\n"

/-! ## Errors -/

/-- A usage error: its message, tips, and the usage line to show. -/
structure UsageError where
  message : String
  tips : List String := []
  usage : Option String := none

/-- The text of a usage error. -/
def UsageError.render (e : UsageError) : String :=
  "error: " ++ e.message ++
    (if e.tips.isEmpty then "" else "\n" ++ String.join (e.tips.map ("\n  tip: " ++ ·))) ++
    (match e.usage with
     | some u => "\n\nUsage: " ++ u
     | none => "") ++
    "\n\nFor more information, try '--help'.\n"

end LoggedInputs.Cli
