import SchemaMigration.Sql.Keyword

/-!
The tokens of SQL text. A word is a keyword or a plain name; names may stand in quotes as well,
which keeps them from being keywords but not from being compared with words.
-/

namespace SchemaMigration.Sql

inductive Token
  | symbol (mark : String)
  | keyword (word text : String)
  | name (text : String)
  | quotedName (text : String)
  | string (text : String)
  /-- A string with a mark in front by which it is no plain string. -/
  | markedString (text : String)
  | number (text : String)
  deriving DecidableEq, Repr

namespace Token

def ofWord (text : String) : Token :=
  match Keyword.canonical? (Text.upper text) with
  | some word => .keyword word text
  | none => .name text

def text : Token → String
  | symbol s | keyword _ s | name s | quotedName s | string s | markedString s | number s => s

def isSymbol (mark : String) : Token → Bool
  | symbol s => s == mark
  | _ => false

def isKeyword (word : String) : Token → Bool
  | keyword w _ => w == word
  | _ => false

def isKeywordOf (words : List String) : Token → Bool
  | keyword w _ => words.contains w
  | _ => false

def isWordOf (words : List String) (t : Token) : Bool :=
  match t with
  | string _ => false
  | _ => words.contains (Text.upper t.text)

def isType : Token → Bool
  | keyword w _ => Keyword.isType w
  | _ => false

/-- Whether a token is the name of a column wherever one may stand. -/
def isName : Token → Bool
  | keyword w _ => Keyword.isName w
  | name _ => true
  | _ => false

def isTableName (t : Token) : Bool := t.isName && !t.isKeywordOf Keyword.notTableNames

def isFunction : Token → Bool
  | keyword w _ => Keyword.isFunction w
  | name _ | quotedName _ => true
  | _ => false

/-- Whether a token is no name even where any token may be one. -/
def isReserved : Token → Bool
  | symbol s => s.length == 1
  | keyword w _ => ["NOT", "SELECT", "UNKNOWN"].contains w
  | _ => false

end Token

end SchemaMigration.Sql
