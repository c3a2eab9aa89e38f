import SchemaMigration.CommandLine.Style
import SchemaMigration.Text.Emoji

/-!
Markup of messages. A tag in brackets opens a style and one with a slash closes it again; a
backslash makes a bracket plain. Texts between tags may name emoji. Tags are not shown, but they
have to match.
-/

namespace SchemaMigration.CommandLine.Markup

structure Tag where
  name : String
  parameters : Option String
  deriving DecidableEq, Repr

namespace Tag

def ofText (cs : List Char) : Tag :=
  match cs.span (· != '=') with
  | (name, _ :: parameters) => ⟨String.ofList name, some (String.ofList parameters)⟩
  | (name, []) => ⟨String.ofList name, none⟩

def text (t : Tag) : String :=
  match t.parameters with
  | some parameters => "[" ++ t.name ++ "=" ++ parameters ++ "]"
  | none => "[" ++ t.name ++ "]"

/-- The name of the style that a tag closes, if it closes one. -/
def closed? (t : Tag) : Option String :=
  match t.name.toList with
  | '/' :: name => some (Text.strip (String.ofList name))
  | _ => none

end Tag

inductive Piece
  | plain (cs : List Char)
  | tag (position : Nat) (tag : Tag)
  deriving DecidableEq, Repr

def startsTag (c : Char) : Bool :=
  ('a' ≤ c && c ≤ 'z') || c == '#' || c == '/' || c == '@'

def upToBracket? : List Char → Option (List Char × List Char)
  | [] => none
  | c :: rest =>
    if c = ']' then some ([], rest)
    else if c = '[' then none
    else (upToBracket? rest).map fun (inner, after) => (c :: inner, after)

/-- The text of a tag after its opening bracket, and what follows the tag. -/
def tagText? : List Char → Option (List Char × List Char)
  | c :: rest => if startsTag c then upToBracket? (c :: rest) else none
  | [] => none

def plainPiece (cs : List Char) : List Piece := if cs = [] then [] else [.plain cs]

/-- The pieces that a tag behind some backslashes makes. Two backslashes stand for one, and a single
one makes the tag plain. -/
def tagPieces (position slashes : Nat) (inner : List Char) : List Piece :=
  let shown := plainPiece (List.replicate (slashes / 2) '\\')
  if slashes % 2 = 0 then shown ++ [.tag (position + slashes) (.ofText inner)]
  else shown ++ [.plain ('[' :: (inner ++ [']']))]

/-- The pieces of a message. `position` characters were read before, the last of them, in
`pending`, without a tag. Every step takes one unit of fuel and at least one character. -/
def pieces : Nat → Nat → List Char → List Char → List Piece
  | 0, _, pending, rest => plainPiece (pending ++ rest)
  | _, _, pending, [] => plainPiece pending
  | fuel + 1, position, pending, c :: rest =>
    let slashes := ((c :: rest).takeWhile (· == '\\')).length
    let plain := pieces fuel (position + 1) (pending ++ [c]) rest
    match (c :: rest).drop slashes with
    | '[' :: afterBracket =>
      match tagText? afterBracket with
      | some (inner, after) =>
        plainPiece pending ++ tagPieces position slashes inner ++
          pieces fuel (position + slashes + inner.length + 2) [] after
      | none => plain
    | _ => plain

inductive Fault
  | unmatched (tag : Tag) (position : Nat)
  | nothingToClose (position : Nat)
  deriving DecidableEq, Repr

def Fault.message : Fault → String
  | unmatched tag position =>
    "closing tag '" ++ tag.text ++ "' at position " ++ toString position ++
      " doesn't match any open tag"
  | nothingToClose position =>
    "closing tag '[/]' at position " ++ toString position ++ " has nothing to close"

def unescaped : List Char → List Char
  | [] => []
  | '\\' :: '[' :: rest => '[' :: unescaped rest
  | c :: rest => c :: unescaped rest

/-- What is shown of pieces while some styles are open, the last one first. -/
def shown (opened : List String) : List Piece → Except Fault (List Char)
  | [] => .ok []
  | .plain cs :: rest => (shown opened rest).map (Text.Emoji.replace (unescaped cs) ++ ·)
  | .tag position tag :: rest =>
    match tag.closed? with
    | none => shown (Style.normalized tag.name :: opened) rest
    | some "" =>
      match opened with
      | [] => .error (.nothingToClose position)
      | _ :: others => shown others rest
    | some style =>
      let style := Style.normalized style
      if opened.contains style then shown (opened.erase style) rest
      else .error (.unmatched tag position)

def render (message : List Char) : Except Fault (List Char) :=
  shown [] (pieces message.length 0 [] message)

end SchemaMigration.CommandLine.Markup
