/-!
Abbreviated texts: of a text that takes too many bytes only the characters at its ends are kept.
-/

namespace SchemaMigration.Text

def takeBytes : Nat → List Char → List Char
  | _, [] => []
  | room, c :: rest =>
    if c.utf8Size ≤ room then c :: takeBytes (room - c.utf8Size) rest else []

def lastBytes (room : Nat) (cs : List Char) : List Char := (takeBytes room cs.reverse).reverse

/-- A text of at most `limit` bytes, or the two ends of a longer one, the first of them a byte
longer if the limit is even. -/
def abbreviated (limit : Nat) (s : String) : String :=
  if s.utf8ByteSize ≤ limit then s
  else
    let half := (limit + 1) / 2
    String.ofList (takeBytes half s.toList) ++ "..." ++
      String.ofList (lastBytes (half - 1) s.toList)

end SchemaMigration.Text
