import Flashcards.RenderMode
import Flashcards.Settings

/-!
# Options of the command line

An option is given by its name, or by the beginning of one if that is the beginning of no other; its value follows as the next word,
or after an equals sign. A word that looks like an option is never a value, unless it looks like a negative number or holds a space.
There are no words apart from options and their values. Where the mark that ends options is attached to an option, the option is given
no text at all, and whether that will do is seen where the value is used.

All words are sorted into kinds before any option is taken (`Word.ofText`), so that a beginning of several names spoils the whole line.
Then options are taken one after the other (`Options.take`): the first that asks for help or is misused decides.
-/

namespace Flashcards

open Text

/-- What an option is given: a text, or a list of texts that is empty. -/
inductive Argument where
  | text (t : Text)
  | noText
  deriving DecidableEq, Repr

/-- The argument as a value. -/
def Argument.toJson : Argument → Json
  | .text t => .text t
  | .noText => .list []

/-- What can be asked for on the command line. -/
structure Options where
  source : Argument
  manifest : Argument
  mode : Argument
  /-- The paths of the decks to render; none stands for all. -/
  decks : List Argument
  output : Argument
  logLevel : Argument
  deriving DecidableEq, Repr

/-- The options by what they set. -/
inductive OptionName where
  | help
  | source
  | manifest
  | mode
  | deck
  | output
  | logLevel
  deriving DecidableEq, Repr

namespace OptionName

/-- The names of the options. -/
def spellings : List (Text × OptionName) :=
  [("-h", .help), ("--help", .help), ("--source", .source), ("--manifest", .manifest), ("--mode", .mode), ("--deck", .deck),
   ("--output", .output), ("--log-level", .logLevel)]

/-- The option of a name. -/
def ofSpelling? (t : Text) : Option OptionName := (spellings.find? (·.1 == t)).map (·.2)

end OptionName

/-- How a command line is understood: as options, as a question for help, or as misuse. -/
inductive Reading where
  | options (o : Options)
  | help
  | misuse
  deriving DecidableEq, Repr

/-! ## Words -/

/-- A word of the command line. -/
inductive Word where
  /-- A word that may be a value. -/
  | operand (t : Text)
  /-- The mark behind which no word is an option. -/
  | endOfOptions
  /-- An option, which has one hyphen or two, with the value attached to it, if there is one. -/
  | option (name : OptionName) (short : Bool) (attached : Option Text)
  /-- A word that looks like an option, but names none. -/
  | unknown
  deriving DecidableEq, Repr

namespace Word

/-- The mark behind which no word is an option. -/
def endMark : Text := "--"

/-- Whether a text without its hyphen is a number with or without a fraction. -/
def isUnsigned (t : Text) : Bool :=
  let isDecimal (c : Char) : Bool := (digitValue? c).isSome
  let whole := t.takeWhile isDecimal
  match t.dropWhile isDecimal with
  | [] => nonEmpty whole
  | '.' :: fraction => nonEmpty fraction && fraction.all isDecimal
  | _ => false

/-- Whether a text looks like a negative number; a line feed at its end does not count. -/
def looksNegative : Text → Bool
  | '-' :: t => isUnsigned (if t.getLast? = some '\n' then t.dropLast else t)
  | _ => false

/-- The name and the value of an option with an equals sign between them. -/
def splitValue (t : Text) : Text × Option Text :=
  match breakOn '=' t with
  | some (name, value) => (name, some value)
  | none => (t, none)

/-- The options that a word may mean whose name it does not hold in full, with the values attached. -/
def candidates (t : Text) : List Word :=
  let (beginning, value) := splitValue t
  OptionName.spellings.filterMap fun s =>
    if startsWith endMark t then
      if startsWith beginning s.1 then some (.option s.2 false value) else none
    else if s.1 = t.take 2 then some (.option s.2 true (some (t.drop 2)))
    else none

/-- A word that begins with a hyphen and names no option in full: the option whose name it begins, if there is just one; nothing if
there are several. -/
def ofBeginning (t : Text) : Option Word :=
  match candidates t with
  | [word] => some word
  | _ :: _ :: _ => none
  | [] => some (if looksNegative t || t.contains ' ' then .operand t else .unknown)

/-- A word by its text; nothing where it begins the names of several options. -/
def ofText (t : Text) : Option Word :=
  match t with
  | '-' :: second :: _ =>
    let short := second != '-'
    match OptionName.ofSpelling? t with
    | some name => some (.option name short none)
    | none =>
      match splitValue t with
      | (spelling, some value) =>
        match OptionName.ofSpelling? spelling with
        | some name => some (.option name short (some value))
        | none => ofBeginning t
      | (_, none) => ofBeginning t
  | t => some (.operand t)

/-- The words of texts; nothing where one of them begins the names of several options. -/
def ofTexts : List Text → Option (List Word)
  | [] => some []
  | t :: ts =>
    if t = endMark then some (.endOfOptions :: ts.map .operand)
    else do
      let word ← ofText t
      let words ← ofTexts ts
      pure (word :: words)

end Word

/-! ## Taking options -/

namespace Options

/-- The options where none is given. -/
def defaults (s : Settings) : Options where
  source := .text s.source
  manifest := .text s.manifest
  mode := .text s.renderMode
  decks := []
  output := .text s.output
  logLevel := .text s.logLevel

/-- Whether an argument is a mode by its name; one that holds no text is not looked at. -/
def mayBeMode : Argument → Bool
  | .text t => (RenderMode.named? t).isSome
  | .noText => true

/-- The options with a value set; nothing where the value is not allowed. -/
def set (o : Options) (value : Argument) : OptionName → Option Options
  | .help => none
  | .source => some { o with source := value }
  | .manifest => some { o with manifest := value }
  | .mode => if mayBeMode value then some { o with mode := value } else none
  | .deck => some { o with decks := o.decks ++ [value] }
  | .output => some { o with output := value }
  | .logLevel => some { o with logLevel := value }

/-- Whether an option that asks for help, with what is attached to it, does so: more letters of its short name may be. -/
def asksForHelp (short : Bool) : Option Text → Bool
  | none => true
  | some letters => short && nonEmpty letters && letters.all (· == 'h')

/-- Words taken one after the other; `stray` tells whether there has been one that is no option and no value. -/
def take (stray : Bool) (o : Options) : List Word → Reading
  | [] => if stray then .misuse else .options o
  | .operand _ :: words | .endOfOptions :: words | .unknown :: words => take true o words
  | .option .help short attached :: _ => if asksForHelp short attached then .help else .misuse
  | .option name _ (some value) :: words =>
    match o.set (if value = Word.endMark then .noText else .text value) name with
    | some o => take stray o words
    | none => .misuse
  | .option name _ none :: .operand value :: words =>
    match o.set (.text value) name with
    | some o => take stray o words
    | none => .misuse
  | .option _ _ none :: _ => .misuse

/-- The options of a command line. -/
def read (s : Settings) (args : List Text) : Reading :=
  match Word.ofTexts args with
  | some words => take false (defaults s) words
  | none => .misuse

end Options

end Flashcards
