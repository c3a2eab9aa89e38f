import SchemaMigration.Text.Blank
import SchemaMigration.Text.CellWidth

/-!
Lines on a console of a limited width: tabs become spaces, and lines that are too wide are divided
between words or cropped. Widths are counted in cells.
-/

namespace SchemaMigration.CommandLine.Wrapping

open Text

def tabParts : List Char → List (List Char)
  | [] => [[]]
  | c :: rest =>
    match c, tabParts rest with
    | '\t', parts => [] :: parts
    | _, part :: parts => (c :: part) :: parts
    | _, [] => [[c]]

/-- Parts with a space in the place of the tab after each of them, and more spaces up to a multiple
of the size. `column` cells were written before. -/
def joinTabs (size column : Nat) : List (List Char) → List Char
  | [] => []
  | [last] => last
  | part :: parts =>
    let column := column + cellWidth (part ++ [' '])
    let missing := (size - column % size) % size
    part ++ ' ' :: (List.replicate missing ' ' ++ joinTabs size (column + missing) parts)

def expandTabs (size : Nat) (line : List Char) : List Char := joinTabs size 0 (tabParts line)

/-- The words of a line with the blanks after them. Blanks at the start belong to the first word. -/
def spacedWords (line : List Char) : List (List Char) :=
  let rec go : List Char → List (List Char)
    | [] => []
    | c :: rest =>
      match rest, go rest with
      | d :: _, word :: words =>
        if isBlank c && !isBlank d then [c] :: word :: words else (c :: word) :: words
      | _, words => [c] :: words
  match go line with
  | first :: second :: words =>
    if first.all isBlank then (first ++ second) :: words else first :: second :: words
  | words => words

/-- A word in pieces that fit on a line, `used` cells of which are taken. -/
def chop (width used : Nat) : List Char → List (List Char)
  | [] => []
  | c :: rest =>
    let size := charWidth c
    if width < used + size then
      match chop width size rest with
      | piece :: pieces => [] :: (c :: piece) :: pieces
      | [] => [[], [c]]
    else match chop width (used + size) rest with
      | piece :: pieces => (c :: piece) :: pieces
      | [] => [[c]]

/-- The lines that words are divided into, when `line` with its `used` cells was begun. A word that
fits on no line is divided itself. -/
def divideWords (width : Nat) (line : List Char) (used : Nat) : List (List Char) → List (List Char)
  | [] => [line]
  | word :: words =>
    let size := cellWidth (trimEnd isBlank word)
    if used + size ≤ width then divideWords width (line ++ word) (used + cellWidth word) words
    else if width < size then
      let pieces := chop width 0 word
      let last := pieces.getLastD []
      let before := if line = [] then [] else [line]
      before ++ pieces.dropLast ++ divideWords width last (cellWidth last) words
    else line :: divideWords width word (cellWidth word) words

def withoutOverhang (width : Nat) (line : List Char) : List Char :=
  let blanks := line.length - (trimEnd isBlank line).length
  line.take (line.length - min blanks (line.length - width))

/-- The part of a line that fits into some cells; a character that fits only half becomes a
space. -/
def crop (width : Nat) : List Char → List Char
  | [] => []
  | c :: rest =>
    let size := charWidth c
    if size ≤ width then c :: crop (width - size) rest
    else List.replicate width ' '

def wrapped (width : Nat) (line : List Char) : List (List Char) :=
  if cellWidth line ≤ width then [line]
  else (divideWords width [] 0 (spacedWords line)).map fun part =>
    crop width (withoutOverhang width part)

end SchemaMigration.CommandLine.Wrapping
