/-!
Quoted tokens: a text between two quote characters, in which the closing one is written twice.
Scanning a quoted text gives the text back, whatever follows, so quoting cannot be escaped from.
-/

namespace SchemaMigration.Text.Quoted

def encode (close : Char) : List Char → List Char
  | [] => []
  | c :: rest => if c = close then close :: close :: encode close rest else c :: encode close rest

/-- Reads up to the first closing quote that stands alone: a doubled one stands for itself. Gives
the text and what follows the token. -/
def scan (close : Char) : List Char → Option (List Char × List Char)
  | [] => none
  | [c] => if c = close then some ([], []) else none
  | c :: d :: rest =>
    if c = close then
      if d = close then (scan close rest).map fun (text, after) => (close :: text, after)
      else some ([], d :: rest)
    else (scan close (d :: rest)).map fun (text, after) => (c :: text, after)

def quote (opening close : Char) (s : String) : String :=
  String.ofList (opening :: (encode close s.toList ++ [close]))

theorem scan_cons_of_ne {close c : Char} (h : c ≠ close) (rest : List Char) :
    scan close (c :: rest) = (scan close rest).map fun (text, after) => (c :: text, after) := by
  cases rest <;> simp [scan, h]

theorem scan_close {close : Char} {after : List Char} (h : after.head? ≠ some close) :
    scan close (close :: after) = some ([], after) := by
  cases after with
  | nil => simp [scan]
  | cons d rest =>
    have hd : ¬ d = close := fun e => h (by simp [e])
    simp [scan, hd]

theorem scan_encode (close : Char) (s after : List Char) (h : after.head? ≠ some close) :
    scan close (encode close s ++ close :: after) = some (s, after) := by
  induction s with
  | nil => exact scan_close h
  | cons c rest ih =>
    by_cases hc : c = close
    · subst hc
      simp [encode, scan, ih]
    · simp [encode, hc, scan_cons_of_ne hc, ih]

end SchemaMigration.Text.Quoted
