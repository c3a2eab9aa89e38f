/-!
Arguments of a command. Options have long names, whose value may follow an equals sign, and short
names, which may be written together; everything after two hyphens is no option.
-/

namespace SchemaMigration.CommandLine

structure OptionSpec where
  long : String
  short : Option Char
  takesValue : Bool
  deriving DecidableEq, Repr

/-- Arguments told apart; of options that are given twice, the later value counts. -/
structure Arguments where
  values : List (String × String)
  flags : List String
  positional : List String
  deriving DecidableEq, Repr

namespace Arguments

def empty : Arguments := ⟨[], [], []⟩

def value? (a : Arguments) (long : String) : Option String := a.values.lookup long

def has (a : Arguments) (long : String) : Bool := a.flags.contains long

def withValue (a : Arguments) (long value : String) : Arguments :=
  { a with values := (long, value) :: a.values }

structure Mention where
  flags : List String
  valued : Option String
  attached : Option String
  deriving DecidableEq, Repr

def Mention.empty : Mention := ⟨[], none, none⟩

def withMention (a : Arguments) (m : Mention) : Arguments :=
  { a with flags := m.flags ++ a.flags }

/-- Reads the letters of a group of short options. What follows an option with a value is the
value. -/
def shortMention? (specs : List OptionSpec) : List Char → Option Mention
  | [] => some .empty
  | c :: rest =>
    match specs.find? fun spec => spec.short == some c with
    | none => none
    | some spec =>
      if spec.takesValue then
        some ⟨[], some spec.long, if rest = [] then none else some (String.ofList rest)⟩
      else (shortMention? specs rest).map fun m => { m with flags := spec.long :: m.flags }

def isOption (arg : String) : Bool := arg.startsWith "-" && arg != "-"

def splitLong (arg : String) : String × Option String :=
  match arg.toList.span (· != '=') with
  | (name, _ :: value) => (String.ofList name, some (String.ofList value))
  | (_, []) => (arg, none)

/-- What an argument that is written like an option says, none if it names an unknown option or
gives a value where none is taken. -/
def mention? (specs : List OptionSpec) (arg : String) : Option Mention :=
  let (name, attached) := splitLong arg
  match specs.find? fun spec => spec.long == name with
  | some spec =>
    if spec.takesValue then some ⟨[], some spec.long, attached⟩
    else if attached.isSome then none
    else some ⟨[spec.long], none, none⟩
  | none => if arg.startsWith "--" then none else shortMention? specs (arg.toList.drop 1)

/-- Tells arguments apart. Unless options and other arguments may be mixed, the first argument that
is no option ends the options. None for an unknown option, a missing value, and a value where none
is taken. -/
def parse? (specs : List OptionSpec) (mixed : Bool) (a : Arguments) :
    List String → Option Arguments
  | [] => some a
  | arg :: rest =>
    if arg = "--" then some { a with positional := a.positional ++ rest }
    else if !isOption arg then
      if mixed then parse? specs mixed { a with positional := a.positional ++ [arg] } rest
      else some { a with positional := a.positional ++ arg :: rest }
    else match mention? specs arg with
      | none => none
      | some m =>
        match m.valued, m.attached with
        | none, _ => parse? specs mixed (a.withMention m) rest
        | some long, some value =>
          parse? specs mixed ((a.withMention m).withValue long value) rest
        | some long, none =>
          match rest with
          | [] => none
          | value :: after =>
            parse? specs mixed ((a.withMention m).withValue long value) after

end Arguments

end SchemaMigration.CommandLine
