import SchemaMigration.CommandLine.Markup
import SchemaMigration.CommandLine.Wrapping

/-!
Text on a console: messages with their markup, scripts, and tables in a frame.
-/

namespace SchemaMigration.CommandLine.Console

def isControl (c : Char) : Bool :=
  c.toNat == 7 || c.toNat == 8 || (11 ≤ c.toNat && c.toNat ≤ 13)

/-- Spaces up to the next tab stop in the place of every tab. -/
def expandTabs (size column : Nat) : List Char → List Char
  | [] => []
  | c :: rest =>
    if c = '\t' then
      let width := size - column % size
      List.replicate width ' ' ++ expandTabs size (column + width) rest
    else c :: expandTabs size (if c = '\n' then 0 else column + 1) rest

def lineWidth : Nat := 2000

def linesOf (cs : List Char) : List (List Char) :=
  cs.foldr (fun c lines =>
    match lines with
    | line :: others => if c = '\n' then [] :: line :: others else (c :: line) :: others
    | [] => [[c]]) [[]]

def joined (lines : List (List Char)) : List Char := ['\n'].intercalate lines

/-- What a message shows, on lines of its own. -/
def message (markup : String) : Except Markup.Fault String := do
  let shown ← Markup.render markup.toList
  let lines := linesOf (shown.filter fun c => !isControl c)
  let wrapped := lines.flatMap fun line =>
    Wrapping.wrapped lineWidth (Wrapping.expandTabs 8 line)
  return String.ofList (joined wrapped) ++ "\n"

/-- A script as it is shown: with an empty line after it, and without the ends of lines that are too
long. -/
def script (text : String) : String :=
  let shown := expandTabs 4 0 (Text.normalizeLineEnds text.toList)
  let lines := linesOf (shown.filter fun c => !isControl c)
  String.ofList (joined (lines.map (Wrapping.crop lineWidth))) ++ "\n"

def spaces (n : Nat) : String := String.ofList (List.replicate n ' ')

def padded (width : Nat) (text : String) : String := text ++ spaces (width - text.length)

def widths (head : List String) (rows : List (List String)) : List Nat :=
  rows.foldl (fun ws row => List.zipWith (fun w cell => max w cell.length) ws row)
    (head.map String.length)

def rule (left line cross right : Char) (ws : List Nat) : String :=
  let parts := ws.map fun w => String.ofList (List.replicate (w + 2) line)
  String.singleton left ++ (String.singleton cross).intercalate parts ++ String.singleton right

def cells (bar : Char) (ws : List Nat) (row : List String) : String :=
  let parts := List.zipWith (fun w cell => " " ++ padded w cell ++ " ") ws row
  String.singleton bar ++ (String.singleton bar).intercalate parts ++ String.singleton bar

def table (title : String) (head : List String) (rows : List (List String)) : String :=
  let ws := widths head rows
  let total := ws.foldl (fun n w => n + w + 3) 1
  let lines :=
    [spaces ((total - title.length) / 2) ++ title, rule '┏' '━' '┳' '┓' ws, cells '┃' ws head,
      rule '┡' '━' '╇' '┩' ws] ++
    rows.map (cells '│' ws) ++ [rule '└' '─' '┴' '┘' ws]
  String.join (lines.map (· ++ "\n"))

end SchemaMigration.CommandLine.Console
