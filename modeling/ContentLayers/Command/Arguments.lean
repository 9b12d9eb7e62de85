/-!
# Command-line arguments

Options are `--name value` or `--name=value`, flags are `--name`, and everything else is an operand.
After `--` there are only operands. An option takes no value that could be an option itself.
-/

namespace ContentLayers

/-- What an option's value may be. -/
inductive ValueForm where
  | flag
  | text
  /-- Text that is not empty. -/
  | path
  /-- One of `true` and `false`. -/
  | truth
  deriving DecidableEq, Repr

structure OptionForm where
  name : String
  form : ValueForm
  /-- Whether the option may be given more than once. -/
  many : Bool
  deriving DecidableEq, Repr

/-- The arguments that a program takes. -/
structure Usage where
  options : List OptionForm
  /-- The number of operands, all of them required paths. -/
  operands : Nat
  deriving DecidableEq, Repr

/-- The options and operands given, latest first. -/
structure Given where
  options : List (String × String)
  operands : List String
  deriving DecidableEq, Repr

inductive Request where
  | help
  | version
  | run (given : Given)
  | misuse
  deriving DecidableEq, Repr

namespace Given

def empty : Given := ⟨[], []⟩

/-- Every value of an option, in the order given. -/
def values (g : Given) (name : String) : List String :=
  (g.options.reverse.filter (·.1 == name)).map (·.2)

def value? (g : Given) (name : String) : Option String := (g.values name).head?

def has (g : Given) (name : String) : Bool := !(g.values name).isEmpty

end Given

namespace Usage

def accepts : ValueForm → String → Bool
  | .flag, value => value.isEmpty
  | .text, _ => true
  | .path, value => !value.isEmpty
  | .truth, value => value == "true" || value == "false"

def option? (u : Usage) (name : String) : Option OptionForm := u.options.find? (·.name == name)

/-- Takes up an option, unless it is given again or its value does not fit. -/
def addOption (g : Given) (o : OptionForm) (value : String) : Option Given :=
  if (!o.many && g.has o.name) || !accepts o.form value then none
  else some { g with options := (o.name, value) :: g.options }

def addOperand (u : Usage) (g : Given) (operand : String) : Option Given :=
  if g.operands.length < u.operands && accepts .path operand then
    some { g with operands := operand :: g.operands }
  else none

/-- Whether an argument reads as an option. -/
def isOptionLike (arg : String) : Bool :=
  match arg.toList with
  | '-' :: _ :: _ => true
  | _ => false

/-- A long option's name and the value attached to it. -/
def splitLong (body : List Char) : String × Option String :=
  (.ofList (body.takeWhile (· != '=')),
    match body.dropWhile (· != '=') with
    | _ :: value => some (.ofList value)
    | [] => none)

def addOperands (u : Usage) : Given → List String → Option Given
  | g, [] => some g
  | g, arg :: args => (u.addOperand g arg).bind fun g => u.addOperands g args

def finish (u : Usage) (g : Given) : Request :=
  if g.operands.length = u.operands then .run g else .misuse

def parseFrom (u : Usage) : Given → List String → Request
  | g, [] => u.finish g
  | g, arg :: args =>
    match arg.toList with
    | ['-', '-'] =>
      match u.addOperands g args with
      | some g => u.finish g
      | none => .misuse
    | '-' :: '-' :: body =>
      let (name, attached) := splitLong body
      match u.option? name, attached, args with
      | none, none, _ =>
        if name = "help" then .help else if name = "version" then .version else .misuse
      | none, some _, _ => .misuse
      | some o, some value, args =>
        if o.form = .flag then .misuse
        else match addOption g o value with
          | some g => u.parseFrom g args
          | none => .misuse
      | some o, none, args =>
        if o.form = .flag then
          match addOption g o "" with
          | some g => u.parseFrom g args
          | none => .misuse
        else match args with
          | [] => .misuse
          | value :: args =>
            if isOptionLike value then .misuse
            else match addOption g o value with
              | some g => u.parseFrom g args
              | none => .misuse
    | '-' :: 'h' :: _ => .help
    | '-' :: 'V' :: _ => .version
    | '-' :: _ :: _ => .misuse
    | _ =>
      match u.addOperand g arg with
      | some g => u.parseFrom g args
      | none => .misuse
  termination_by _ args => args.length

def parse (u : Usage) (args : List String) : Request := u.parseFrom .empty args

end Usage

end ContentLayers
