import SqlFront.Config

/-!
# SqlFront.Cli.Args

The command line, read from left to right. The first argument that settles the matter does so: a
fault in a later one is not seen any more.
-/

namespace SqlFront
namespace Cli

/-- What is done other than to analyse a query. -/
inductive Command where
  | explain (query : String)
  | repl
  | keywords
deriving DecidableEq, Repr

/-- What the user wants. -/
structure Options where
  query : Option String := none
  tokens : Bool := false
  cst : Bool := false
  ast : Bool := false
  noColor : Bool := false
  verbose : Bool := false
  format : Option OutputFormat := none
  config : Option String := none
  command : Option Command := none
deriving DecidableEq, Repr

inductive Request where
  | run (options : Options)
  | version
  | help
  | reject
deriving DecidableEq, Repr

/-! ## Names of options -/

/-- An option that is on or off. -/
inductive Switch where
  | tokens | cst | ast | noColor | verbose
deriving DecidableEq, Repr

/-- An option that takes a value. -/
inductive Valued where
  | format | config
deriving DecidableEq, Repr

inductive Mark where
  | switch (which : Switch)
  | valued (which : Valued)
  | version
  | help
deriving DecidableEq, Repr

/-- The option with the long name. -/
def Mark.ofLong? : String → Option Mark
  | "tokens" => some (.switch .tokens)
  | "cst" => some (.switch .cst)
  | "ast" => some (.switch .ast)
  | "no-color" => some (.switch .noColor)
  | "verbose" => some (.switch .verbose)
  | "format" => some (.valued .format)
  | "config" => some (.valued .config)
  | "version" => some .version
  | "help" => some .help
  | _ => none

/-- The option with the short name. -/
def Mark.ofShort? : Char → Option Mark
  | 'v' => some (.switch .verbose)
  | 'f' => some (.valued .format)
  | 'c' => some (.valued .config)
  | 'V' => some .version
  | 'h' => some .help
  | _ => none

/-! ## Single options -/

namespace Options

/-- Turns a switch on, which must not be on already. -/
def turnOn? (options : Options) : Switch → Option Options
  | .tokens => if options.tokens then none else some { options with tokens := true }
  | .cst => if options.cst then none else some { options with cst := true }
  | .ast => if options.ast then none else some { options with ast := true }
  | .noColor => if options.noColor then none else some { options with noColor := true }
  | .verbose => if options.verbose then none else some { options with verbose := true }

/-- Gives an option its value. It must make sense and be the only one. -/
def assign? (options : Options) (which : Valued) (value : String) : Option Options :=
  match which with
  | .format =>
    if options.format.isSome then none
    else (OutputFormat.ofName? value).map fun format => { options with format := some format }
  | .config =>
    if options.config.isSome || value.isEmpty then none
    else some { options with config := some value }

end Options

/-- What an argument that holds options comes to. -/
inductive Step where
  | goOn (options : Options)
  /-- The value of the option is the next argument. -/
  | await (options : Options) (which : Valued)
  | settle (request : Request)

/-- Goes on, unless there is nothing to go on with. -/
def Step.ofOptions? : Option Options → Step
  | some options => .goOn options
  | none => .settle .reject

/-- An argument of short names, without its dash. The first option that takes a value has the rest
of the argument as its value. -/
def shortStep (options : Options) : List Char → Step
  | [] => .goOn options
  | c :: cs =>
    match Mark.ofShort? c with
    | some (.switch which) =>
      if cs.head? == some '=' then .settle .reject
      else
        match options.turnOn? which with
        | some options => shortStep options cs
        | none => .settle .reject
    | some (.valued which) =>
      match cs with
      | [] => .await options which
      | '=' :: value => .ofOptions? (options.assign? which (String.ofList value))
      | value => .ofOptions? (options.assign? which (String.ofList value))
    | some .version => .settle .version
    | some .help => .settle .help
    | none => .settle .reject

/-- An argument with a long name, without its dashes. A value may follow an equals sign. -/
def longStep (options : Options) (cs : List Char) : Step :=
  let name := String.ofList (cs.takeWhile (· != '='))
  match Mark.ofLong? name, cs.dropWhile (· != '=') with
  | some (.switch which), [] => .ofOptions? (options.turnOn? which)
  | some (.valued which), [] => .await options which
  | some (.valued which), _ :: value => .ofOptions? (options.assign? which (String.ofList value))
  | some .version, [] => .settle .version
  | some .help, [] => .settle .help
  | _, _ => .settle .reject

/-! ## Whole command lines -/

/-- An argument that looks like an option. A dash alone does not. -/
def isOption (arg : String) : Bool :=
  match arg.toList with
  | '-' :: _ :: _ => true
  | _ => false

/-- The arguments after the mark that ends the options: at most a query. -/
def readQuery (options : Options) : List String → Request
  | [] => .run options
  | [arg] =>
    if options.query.isSome then .reject else .run { options with query := some arg }
  | _ => .reject

/-- The arguments of a command that takes one query. -/
def readExplain (options : Options) (query : Option String) : List String → Request
  | [] =>
    match query with
    | some query => .run { options with command := some (.explain query) }
    | none => .reject
  | "--" :: args =>
    match query, args with
    | some query, [] => .run { options with command := some (.explain query) }
    | none, [query] => .run { options with command := some (.explain query) }
    | _, _ => .reject
  | arg :: args =>
    if arg == "-h" || arg == "--help" then .help
    else if isOption arg || query.isSome then .reject
    else readExplain options (some arg) args

/-- The arguments of a command that takes none. -/
def readBare (options : Options) (command : Command) : List String → Request
  | [] | ["--"] => .run { options with command := some command }
  | arg :: _ => if arg == "-h" || arg == "--help" then .help else .reject

/-- The command line, from an argument on, with the options so far. -/
def readArgs (options : Options) : List String → Request
  | [] => .run options
  | "--" :: args => readQuery options args
  | "explain" :: args => readExplain options none args
  | "repl" :: args => readBare options .repl args
  | "keywords" :: args => readBare options .keywords args
  | "help" :: _ => .help
  | arg :: args =>
    let step :=
      match arg.toList with
      | '-' :: '-' :: cs => longStep options cs
      | '-' :: c :: cs => shortStep options (c :: cs)
      | _ =>
        if options.query.isSome then .settle .reject
        else .goOn { options with query := some arg }
    match step with
    | .goOn options => readArgs options args
    | .settle request => request
    | .await options which =>
      match args with
      | [] => .reject
      | value :: args =>
        if isOption value then .reject
        else
          match options.assign? which value with
          | some options => readArgs options args
          | none => .reject

/-- What the arguments ask for. -/
def Request.ofArgs (args : List String) : Request := readArgs {} args

end Cli
end SqlFront
