import SchemaMigration.Json.Decoder
import SchemaMigration.Text.Blank

/-!
The script under construction: fragments that are only ever appended, a prolog that is held back
until the first statement, and a scratch on which a long statement is put together.
-/

namespace SchemaMigration

inductive FragmentKind
  | comment
  | statement
  | separator
  deriving DecidableEq, Repr

namespace FragmentKind

def all : List FragmentKind := [comment, statement, separator]

def name : FragmentKind → String
  | comment => "comment"
  | statement => "statement"
  | separator => "separator"

def ofName? (s : String) : Option FragmentKind := all.find? fun kind => kind.name == s

def decode : Json.Decoder FragmentKind := fun json =>
  (Json.Decoder.choice ofName? (all.map name) json).within "kind"

end FragmentKind

structure Fragment where
  kind : FragmentKind
  text : String
  deriving DecidableEq, Repr

namespace Fragment

def render (fragments : List Fragment) : String := String.join (fragments.map Fragment.text)

def statementTexts (fragments : List Fragment) : List String :=
  (fragments.filter fun f => f.kind == .statement).map fun f => Text.strip f.text

end Fragment

structure Buffer where
  separator : String
  fragments : List Fragment
  prolog : List String
  scratch : String
  deriving DecidableEq, Repr

namespace Buffer

def ofSeparator (separator : String) : Buffer := ⟨separator, [], [], ""⟩

def append (b : Buffer) (added : List Fragment) : Buffer :=
  { b with fragments := b.fragments ++ added }

def hasStatement (b : Buffer) : Bool := b.fragments.any fun f => f.kind == .statement

def comment (b : Buffer) (text : String) : Buffer := b.append [⟨.comment, text ++ "\n"⟩]

def blankLine (b : Buffer) : Buffer := b.append [⟨.separator, "\n"⟩]

def raw (b : Buffer) (kind : FragmentKind) (text : String) : Buffer := b.append [⟨kind, text⟩]

/-- Holds a statement back for the prolog, which has to come before the first statement. -/
def addProlog? (b : Buffer) (statement : String) : Option Buffer :=
  if b.hasStatement then none else some { b with prolog := b.prolog ++ [statement] }

def push (b : Buffer) (line : String) : Buffer := { b with scratch := b.scratch ++ line ++ "\n" }

def terminated (b : Buffer) (kind : FragmentKind) (text : String) : List Fragment :=
  [⟨kind, text⟩, ⟨.separator, b.separator ++ "\n"⟩]

/-- Releases the prolog. -/
def flushProlog (b : Buffer) : Buffer :=
  { b with
    fragments := b.fragments ++ b.prolog.flatMap (b.terminated .statement)
    prolog := [] }

/-- Turns the scratch and a last text into one fragment. A statement releases the prolog first. -/
def commitAs (b : Buffer) (kind : FragmentKind) (text : String) : Buffer :=
  let b := if kind = .statement then b.flushProlog else b
  { b with
    fragments := b.fragments ++ b.terminated kind (b.scratch ++ text)
    scratch := "" }

def commit (b : Buffer) (statement : String) : Buffer := b.commitAs .statement statement

/-- Commits under the name of a kind. If there is no such kind, the text stays on the scratch. -/
def commitNamed (b : Buffer) (kind text : String) : Buffer × List Problem :=
  match FragmentKind.decode (.text kind) with
  | .valid kind => (b.commitAs kind text, [])
  | .invalid problems => ({ b with scratch := b.scratch ++ text }, problems)

def rawNamed (b : Buffer) (kind text : String) : Buffer × List Problem :=
  match FragmentKind.decode (.text kind) with
  | .valid kind => (b.raw kind text, [])
  | .invalid problems => (b, problems)

def script (b : Buffer) : String := Fragment.render b.fragments

def statementTexts (b : Buffer) : List String := Fragment.statementTexts b.fragments

end Buffer

end SchemaMigration
