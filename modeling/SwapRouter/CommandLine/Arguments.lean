import SwapRouter.Chain
import SwapRouter.Text.Digit

/-!
# The words of a command line

A word is an option, a value, or the separator `--`, behind which every word is a value.
A long option may be shortened to any part of its name that starts no other option, and
may carry its value behind an equals sign; short options that take no value may stand
together behind one dash.  A word that looks like an option stands for a value if it is
a negative number or has a space in it.

All words are sorted into these kinds before the first option takes effect.  The options
then take effect from left to right, so a request for help counts unless a word before
it is in error; letters that stand together take effect only if each of them is an option.
-/

namespace SwapRouter

/-- What a command line asks for. -/
structure Arguments where
  chain : Chain
  executors : Option String
  router : Option String
  signerKey : Option String
  isVerbose : Bool
  deriving DecidableEq, Repr

namespace Arguments

/-- The options that take a value. -/
inductive ValueOption where
  | chain
  | executors
  | router
  | signerKey
  deriving DecidableEq, Repr

/-- The options without a value. -/
inductive FlagOption where
  | help
  | verbose
  deriving DecidableEq, Repr

/-- The options. -/
inductive CommandOption where
  | value (option : ValueOption)
  | flag (option : FlagOption)
  deriving DecidableEq, Repr

/-- The long names of the options, behind their two dashes. -/
def longNames : List (String × CommandOption) := [
  ("help", .flag .help),
  ("chain", .value .chain),
  ("executors-file-path", .value .executors),
  ("router-address", .value .router),
  ("swapper-pk", .value .signerKey),
  ("verbose", .flag .verbose)]

/-- The option of a letter. -/
def letter? : Char → Option FlagOption
  | 'h' => some .help
  | 'v' => some .verbose
  | _ => none

/-- The kinds of word. -/
inductive Word where
  | plain (text : String)
  /-- A long option, with the value behind its equals sign. -/
  | long (option : CommandOption) (carried : Option String)
  /-- Letters behind one dash, the first of them being an option. -/
  | letters (cs : List Char)
  | unknown
  | separator
  deriving DecidableEq, Repr

/-! ## Sorting the words -/

/-- Whether a text behind its dash is a number without an exponent. -/
def isNumber (cs : List Char) : Bool :=
  let isDigit (c : Char) : Bool := (Text.decimalDigit? c).isSome
  let cs := if cs.getLast? = some '\n' then cs.dropLast else cs
  match cs.dropWhile isDigit with
  | [] => cs ≠ []
  | '.' :: rest => rest ≠ [] && rest.all isDigit
  | _ => false

/-- A word that names no option: a value, or an unknown option. -/
def unnamed (cs : List Char) : Word :=
  if isNumber (cs.drop 1) || cs.contains ' ' then .plain (String.ofList cs) else .unknown

/-- Splits a text at its first equals sign. -/
def splitCarried (cs : List Char) : List Char × Option String :=
  match cs.dropWhile (· ≠ '=') with
  | _ :: carried => (cs.takeWhile (· ≠ '='), some (String.ofList carried))
  | [] => (cs, none)

/-- Sorts a word that stands in front of the separator; a part of several long names is
nothing. -/
def sortWord? (s : String) : Option Word :=
  match s.toList with
  | ['-', '-'] => some .separator
  | '-' :: '-' :: rest =>
    let (name, carried) := splitCarried rest
    match longNames.filter fun entry => name.isPrefixOf entry.1.toList with
    | [] => some (unnamed s.toList)
    | [(_, option)] => some (.long option carried)
    | _ => none
  | '-' :: c :: rest =>
    if (letter? c).isSome then some (.letters (c :: rest)) else some (unnamed s.toList)
  | _ => some (.plain s)

/-- Sorts all words. -/
def sortWords? : List String → Option (List Word)
  | [] => some []
  | s :: rest => do
    match ← sortWord? s with
    | .separator => return .separator :: rest.map .plain
    | word => return word :: (← sortWords? rest)

/-! ## Taking effect -/

/-- What the options have set so far. -/
structure Draft where
  chain : Option Chain := none
  executors : Option String := none
  router : Option String := none
  signerKey : Option String := none
  isVerbose : Bool := false
  /-- Whether a word has no place. -/
  hasStray : Bool := false

/-- Why reading stops before the end: help is asked for, or a word is in error. -/
inductive Stop where
  | help
  | misuse
  deriving DecidableEq, Repr

/-- The effect of an option with its value. -/
def Draft.set (d : Draft) (option : ValueOption) (value : String) : Except Stop Draft :=
  match option with
  | .chain => match Chain.all.find? (·.name = value) with
    | some chain => .ok { d with chain }
    | none => .error .misuse
  | .executors => .ok { d with executors := value }
  | .router => .ok { d with router := value }
  | .signerKey => .ok { d with signerKey := value }

/-- The effect of an option without a value. -/
def Draft.raise (d : Draft) : FlagOption → Except Stop Draft
  | .help => .error .help
  | .verbose => .ok { d with isVerbose := true }

/-- The options that letters stand for; an equals sign behind the first letter does not
count, if letters follow it. -/
def lettersOf? : List Char → Option (List FlagOption)
  | c :: '=' :: d :: rest => (c :: d :: rest).mapM letter?
  | cs => cs.mapM letter?

/-- Lets the words take effect. -/
def Draft.apply (d : Draft) : List Word → Except Stop Draft
  | [] => .ok d
  | .long (.value option) (some value) :: rest => do (← d.set option value).apply rest
  | .long (.value option) none :: .plain value :: rest => do (← d.set option value).apply rest
  | .long (.value _) none :: _ => .error .misuse
  | .long (.flag _) (some _) :: _ => .error .misuse
  | .long (.flag option) none :: rest => do (← d.raise option).apply rest
  | .letters cs :: rest => do
    match lettersOf? cs with
    | none => .error .misuse
    | some options => (← options.foldlM Draft.raise d).apply rest
  | .plain _ :: rest | .unknown :: rest | .separator :: rest =>
    Draft.apply { d with hasStray := true } rest

/-- The arguments that the options have set; a chain must be named. -/
def Draft.finish (d : Draft) : Except Stop Arguments :=
  match d.chain with
  | none => .error .misuse
  | some chain =>
    if d.hasStray then .error .misuse
    else .ok ⟨chain, d.executors, d.router, d.signerKey, d.isVerbose⟩

/-- Reads the words of a command line. -/
def ofWords (words : List String) : Except Stop Arguments :=
  match sortWords? words with
  | none => .error .misuse
  | some sorted => do (← Draft.apply {} sorted).finish

/-! ## Help -/

/-- How the words are to be given. -/
def usage : String := String.join [
  "usage: swap-encode [-h] --chain \x7bethereum,base,unichain,arbitrum\x7d\n",
  "                   [--executors-file-path EXECUTORS_FILE_PATH]\n",
  "                   [--router-address ROUTER_ADDRESS] [--swapper-pk SWAPPER_PK]\n",
  "                   [--verbose]\n"]

/-- The text of the help. -/
def help : String := String.join [
  usage,
  "\n",
  "Encode swap solutions into router call data\n",
  "\n",
  "options:\n",
  "  -h, --help            show this help message and exit\n",
  "  --chain \x7bethereum,base,unichain,arbitrum\x7d\n",
  "                        Target chain\n",
  "  --executors-file-path EXECUTORS_FILE_PATH\n",
  "                        Executor address table (JSON) replacing the bundled\n",
  "                        one\n",
  "  --router-address ROUTER_ADDRESS\n",
  "                        Router address replacing the chain default\n",
  "  --swapper-pk SWAPPER_PK\n",
  "                        Swapper private key; enables Permit2 transfers\n",
  "  --verbose, -v         Enable debug logging\n"]

end Arguments

end SwapRouter
