import Stencil.Text.Numeral
import Stencil.Text.Quoted

/-!
# Arguments

The arguments of a command are options, each perhaps with a value, and operands.  An option may be
shortened as long as it stays clear which one is meant, and its value may follow in the next
argument or after an equals sign.  What is no option of the command is left over for the caller to
judge.
-/

namespace Stencil

/-- Why an option or an operand is refused. -/
inductive ArgumentFault where
  | expectedValue
  | ignoredValue (value : Text)
  | invalidChoice (value : Text) (choices : List Text)
  /-- A binding whose name is no name. -/
  | invalidBinding (text : Text)
deriving DecidableEq, Repr

def ArgumentFault.message : ArgumentFault → Text
  | .expectedValue => "expected one argument"
  | .ignoredValue value => "ignored explicit argument " ++ value.quoted
  | .invalidChoice value choices =>
    "invalid choice: " ++ value.quoted ++ " (choose from "
      ++ Text.join ", " (choices.map Text.quoted) ++ ")"
  | .invalidBinding text => "E_BINDING_INVALID: " ++ text.quoted ++ " (expected name:Type)"

/-- Why the arguments of a command are refused. -/
inductive Refusal where
  | ambiguous (option : Text) (candidates : List Text)
  | argument (name : Text) (fault : ArgumentFault)
  | required (name : Text)
  | unrecognized (arguments : List Text)
deriving DecidableEq, Repr

def Refusal.message : Refusal → Text
  | .ambiguous option candidates =>
    "ambiguous option: " ++ option ++ " could match " ++ Text.join ", " candidates
  | .argument name fault => "argument " ++ name ++ ": " ++ fault.message
  | .required name => "the following arguments are required: " ++ name
  | .unrecognized arguments => "unrecognized arguments: " ++ Text.join " " arguments

/-- Why a command is not run. -/
inductive Stop where
  /-- The program of the given name refuses its arguments. -/
  | refused (program : Text) (refusal : Refusal)
  /-- The arguments ask for help. -/
  | help
deriving DecidableEq, Repr

/-! ### Grammars -/

/-- An option of a command. -/
structure OptionForm where
  /-- The spellings of the option. -/
  names : List Text
  takesValue : Bool
  /-- Whether the command cannot do without it. -/
  required : Bool
  /-- What is wrong with a value. -/
  fault? : Text → Option ArgumentFault

/-- The operands of a command. -/
inductive OperandForm where
  | none
  /-- One of some subcommands, and its arguments. -/
  | command (name : Text) (choices : List Text)
  /-- One operand or more. -/
  | many (name : Text)

/-- The arguments that a command takes. -/
structure Grammar where
  program : Text
  options : List OptionForm
  operands : OperandForm

/-- A given option: the form that it has, and its value. -/
structure Setting where
  form : OptionForm
  value : Text

/-- Arguments that have been told apart. -/
structure Arguments where
  settings : List Setting
  operands : List Text
  /-- What is no argument of the command. -/
  extras : List Text

namespace OptionForm

/-- An option without a value. -/
def switch (names : List Text) : OptionForm := ⟨names, false, false, fun _ => none⟩

/-- An option with a value. -/
def valued (name : Text) : OptionForm := ⟨[name], true, false, fun _ => none⟩

/-- The option that asks for help. -/
def help : OptionForm := switch ["-h", "--help"]

/-- The spellings of an option as messages show it. -/
def shown (o : OptionForm) : Text := Text.join "/" o.names

end OptionForm

namespace Arguments

/-- The last value that is given for an option. -/
def value? (a : Arguments) (name : Text) : Option Text :=
  ((a.settings.filter (·.form.names.contains name)).getLast?).map (·.value)

def values (a : Arguments) (name : Text) : List Text :=
  (a.settings.filter (·.form.names.contains name)).map (·.value)

def has (a : Arguments) (name : Text) : Bool := (a.value? name).isSome

end Arguments

namespace Grammar

/-! ### Telling options from operands -/

/-- A value that is written in one argument with its option, and whether an equals sign stands
between them. -/
structure Attached where
  equals : Bool
  value : Text
deriving DecidableEq, Repr

/-- What an argument is. -/
inductive Item where
  | operand
  /-- Two dashes, after which every argument is an operand. -/
  | separator
  | option (form : OptionForm) (name : Text) (attached : Option Attached)
  /-- What looks like an option and is none of the command. -/
  | unknown

/-- The spellings of all options, with their forms. -/
def spellings (g : Grammar) : List (Text × OptionForm) :=
  g.options.flatMap fun o => o.names.map fun name => (name, o)

/-- The option with the given spelling. -/
def form? (g : Grammar) (name : Text) : Option OptionForm :=
  (g.spellings.find? (·.1 = name)).map (·.2)

/-- The options that an argument may stand for, as spellings, forms and attached values. -/
def candidates (g : Grammar) (t : Text) : List (Text × OptionForm × Option Attached) :=
  if ['-', '-'].isPrefixOf t then
    let (name, value) := t.cut '='
    (g.spellings.filter fun (spelling, _) => name.isPrefixOf spelling).map fun (spelling, form) =>
      (spelling, form, value.map (⟨true, ·⟩))
  else
    g.spellings.filterMap fun (spelling, form) =>
      if spelling = t.take 2 then some (spelling, form, some ⟨false, t.drop 2⟩)
      else if t.isPrefixOf spelling then some (spelling, form, none)
      else none

/-- Whether a text is a negative number, perhaps with a line feed after it. -/
def isNegativeNumber : Text → Bool
  | '-' :: t =>
    let t := if t.getLast? = some '\n' then t.dropLast else t
    let rest := t.dropWhile isDecimal
    (rest.isEmpty && !t.isEmpty)
      || (rest.head? = some '.' && !(rest.drop 1).isEmpty && (rest.drop 1).all isDecimal)
  | _ => false

/-- What an argument is that stands before any two dashes. -/
def item (g : Grammar) (t : Text) : Except Stop Item := do
  match t with
  | '-' :: _ :: _ =>
    -- A full spelling wins over the ones that it shortens.
    if let some form := g.form? t then return .option form t none
    let (name, value) := t.cut '='
    if let (some form, some value) := (g.form? name, value) then
      return .option form name (some ⟨true, value⟩)
    match g.candidates t with
    -- No option is spelled like a number or with a space in it, so such arguments are operands.
    | [] => return if isNegativeNumber t || t.contains ' ' then .operand else .unknown
    | [(name, form, attached)] => return .option form name attached
    | found => throw (.refused g.program (.ambiguous t (found.map (·.1))))
  | _ => return .operand

/-- What each of some arguments is. -/
def items (g : Grammar) : List Text → Except Stop (List (Text × Item))
  | [] => .ok []
  | t :: ts =>
    if t = ['-', '-'] then .ok ((t, .separator) :: ts.map (·, .operand))
    else do
      let i ← g.item t
      return (t, i) :: (← items g ts)

/-! ### Options -/

/-- A given option, if its value will do. -/
def accept (g : Grammar) (form : OptionForm) (value : Text) : Except Stop Setting :=
  if form.names = OptionForm.help.names then .error .help
  else
    match form.fault? value with
    | some fault => .error (.refused g.program (.argument form.shown fault))
    | none => .ok ⟨form, value⟩

/-- The options without a value that are written in one argument: `form`, whose spelling is `name`,
and those whose letters follow.  An unknown letter is left over with all that follows. -/
def cluster (g : Grammar) (form : OptionForm) (name : Text) :
    (equals : Bool) → (rest : Text) → Except Stop (List OptionForm × List Text)
  | _, [] => .ok ([form], [])
  | equals, c :: rest =>
    if equals || c = '-' || name.take 2 = ['-', '-'] then
      .error (.refused g.program (.argument form.shown (.ignoredValue (c :: rest))))
    else
      match g.form? ['-', c] with
      | none => .ok ([form], ['-' :: c :: rest])
      | some next => do
        let (forms, extras) ←
          match rest with
          | [] => pure ([next], [])
          | '=' :: [] =>
            throw (.refused g.program (.argument next.shown (.ignoredValue [])))
          | '=' :: value => cluster g next ['-', c] true value
          | rest => cluster g next ['-', c] false rest
        return (form :: forms, extras)

/-- The options without a value in one argument, and what is left over of it. -/
def switches (g : Grammar) (form : OptionForm) (name : Text) (attached : Option Attached) :
    Except Stop (List Setting × List Text) := do
  let (forms, extras) ←
    match attached with
    | none => pure ([form], [])
    | some ⟨_, []⟩ => throw (.refused g.program (.argument form.shown (.ignoredValue [])))
    | some ⟨equals, value⟩ => cluster g form name equals value
  return (← forms.mapM (g.accept · []), extras)

/-! ### Arguments -/

/-- How far the operands of a command have been taken. -/
inductive Progress where
  | awaited
  /-- The last argument was an operand, and more may follow. -/
  | running
  | closed
deriving DecidableEq, Repr

/-- The arguments with some settings and some extras more in front. -/
def withFront (settings : List Setting) (extras : List Text) (a : Arguments) : Arguments :=
  ⟨settings ++ a.settings, a.operands, extras ++ a.extras⟩

/-- The subcommand `name` and its arguments, if there is such a subcommand. -/
def subcommand (g : Grammar) (label name : Text) (choices rest : List Text) :
    Except Stop Arguments :=
  if choices.contains name then .ok ⟨[], name :: rest, []⟩
  else .error (.refused g.program (.argument label (.invalidChoice name choices)))

/-- The arguments that some items make up. -/
def collect (g : Grammar) : Progress → List (Text × Item) → Except Stop Arguments
  | _, [] => .ok ⟨[], [], []⟩
  | progress, (t, .operand) :: rest =>
    match g.operands, progress with
    -- All that follows a subcommand is read by the grammar of that subcommand.
    | .command label choices, .awaited => g.subcommand label t choices (rest.map (·.1))
    | .many _, .awaited | .many _, .running =>
      (collect g .running rest).map fun a => { a with operands := t :: a.operands }
    | _, progress => (collect g progress rest).map (withFront [] [t])
  | progress, (t, .separator) :: rest =>
    match g.operands, progress, rest.isEmpty with
    | .command label choices, .awaited, false => g.subcommand label t choices (rest.map (·.1))
    | .many _, .awaited, false => collect g .running rest
    | .many _, .running, _ => collect g .running rest
    | _, progress, _ => (collect g progress rest).map (withFront [] [t])
  | progress, (t, .unknown) :: rest =>
    (collect g (if progress = .awaited then .awaited else .closed) rest).map (withFront [] [t])
  | progress, (_, .option form name attached) :: rest => do
    let progress := if progress = .awaited then .awaited else .closed
    if form.takesValue then
      match attached with
      | some attached =>
        let setting ← g.accept form attached.value
        return withFront [setting] [] (← collect g progress rest)
      | none =>
        match rest with
        -- The value is the next argument, which must not look like an option.
        | (value, .operand) :: rest =>
          let setting ← g.accept form value
          return withFront [setting] [] (← collect g progress rest)
        | _ => throw (.refused g.program (.argument form.shown .expectedValue))
    else
      let (settings, extras) ← g.switches form name attached
      return withFront settings extras (← collect g progress rest)

/-- The name of what is required and not given, if anything is. -/
def missing? (g : Grammar) (a : Arguments) : Option Text :=
  match g.options.find? (fun o => o.required && !o.names.any a.has) with
  | some o => some o.shown
  | none =>
    match g.operands with
    | .command name _ | .many name => if a.operands.isEmpty then some name else none
    | .none => none

/-- The arguments that a list of texts makes up. -/
def read (g : Grammar) (ts : List Text) : Except Stop Arguments := do
  let a ← g.collect .awaited (← g.items ts)
  match g.missing? a with
  | some name => throw (.refused g.program (.required name))
  | none => return a

end Grammar
end Stencil
