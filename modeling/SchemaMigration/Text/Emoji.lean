import SchemaMigration.Text.Blank
import SchemaMigration.Text.Case
import SchemaMigration.Text.Emoji.Table

/-!
Emoji in texts. A name between colons is replaced with the emoji of that name; at its end it may say
whether the emoji is shown as text or as a picture.
-/

namespace SchemaMigration.Text.Emoji

def hexDigit (c : Char) : Nat :=
  if c.isDigit then c.toNat - '0'.toNat else c.toNat - 'a'.toNat + 10

def hexNumber (cs : List Char) : Nat := cs.foldl (fun n c => 16 * n + hexDigit c) 0

def valueIn? (lines : List String) (name : String) : Option String :=
  let start := name ++ "="
  lines.findSome? fun line =>
    ((line.splitOn " ").find? (·.startsWith start)).map fun entry =>
      String.ofList (entry.toList.drop start.length)

def symbol? (name : String) : Option (List Char) :=
  (valueIn? symbols name).map fun numbers =>
    (numbers.splitOn ".").map fun digits => Char.ofNat (hexNumber digits.toList)

/-- The flag of a region: the letters of its code among the indicators. -/
def flag? (region : String) : Option (List Char) :=
  (valueIn? regions region).map fun code =>
    code.toList.map fun c => Char.ofNat (0x1F1E6 + (c.toNat - 'a'.toNat))

def tones : List (String × Char) :=
  [("_light_skin_tone", Char.ofNat 0x1F3FB), ("_medium-light_skin_tone", Char.ofNat 0x1F3FC),
   ("_medium_skin_tone", Char.ofNat 0x1F3FD), ("_medium-dark_skin_tone", Char.ofNat 0x1F3FE),
   ("_dark_skin_tone", Char.ofNat 0x1F3FF)]

/-- A symbol in a skin tone. The modifier follows the first character, in the place of what would
make that a picture. -/
def withTone (tone : Char) : List Char → List Char
  | [] => [tone]
  | c :: '\ufe0f' :: rest => c :: tone :: rest
  | c :: rest => c :: tone :: rest

def afterStart? (start name : String) : Option String :=
  if name.startsWith start then some (String.ofList (name.toList.drop start.length)) else none

def beforeEnd? (ending name : String) : Option String :=
  if name.endsWith ending then
    some (String.ofList (name.toList.take (name.length - ending.length)))
  else none

def tonedSymbol? (name : String) : Option (List Char) :=
  tones.findSome? fun (ending, tone) =>
    match beforeEnd? ending name with
    | none => none
    | some base =>
      if toned.any fun line => (line.splitOn " ").contains base then
        (symbol? base).map (withTone tone)
      else none

def ofName? (name : String) : Option (List Char) :=
  symbol? name <|> flag? name <|> (afterStart? "flag_for_" name).bind flag? <|> tonedSymbol? name

def ending? : List Char → Option (List Char × List Char)
  | '-' :: 'e' :: 'm' :: 'o' :: 'j' :: 'i' :: ':' :: rest => some (['\ufe0f'], rest)
  | '-' :: 't' :: 'e' :: 'x' :: 't' :: ':' :: rest => some (['\ufe0e'], rest)
  | ':' :: rest => some ([], rest)
  | _ => none

/-- A name that a text starts with, what shows how the emoji is meant, and the rest of the text.
There is no blank in a name. -/
def name? : List Char → Option (List Char × List Char × List Char)
  | [] => none
  | c :: rest =>
    match ending? (c :: rest) with
    | some (variant, after) => some ([], variant, after)
    | none =>
      if isBlank c then none
      else (name? rest).map fun (name, variant, after) => (c :: name, variant, after)

theorem ending?_length {cs variant after : List Char} (h : ending? cs = some (variant, after)) :
    after.length < cs.length := by
  unfold ending? at h
  split at h <;> simp at h <;> obtain ⟨_, rfl⟩ := h <;> simp <;> omega

theorem name?_length {cs name variant after : List Char}
    (h : name? cs = some (name, variant, after)) : after.length < cs.length := by
  induction cs generalizing name with
  | nil => simp [name?] at h
  | cons c rest ih =>
    unfold name? at h
    split at h
    · next found =>
      simp only [Option.some.injEq, Prod.mk.injEq] at h
      obtain ⟨_, rfl, rfl⟩ := h
      exact ending?_length found
    · split at h
      · simp at h
      · obtain ⟨⟨name', variant', after'⟩, found, he⟩ := Option.map_eq_some_iff.1 h
        simp only [Prod.mk.injEq] at he
        obtain ⟨_, rfl, rfl⟩ := he
        have := ih found
        simp
        omega

/-- A text with emoji in the places of their names. Names that no emoji has stay as they are. -/
def replace : List Char → List Char
  | [] => []
  | c :: rest =>
    if c = ':' then
      match found : name? rest with
      | none => c :: replace rest
      | some (name, variant, after) =>
        have : after.length < rest.length := name?_length found
        (match ofName? (lowerLatin (String.ofList name)) with
          | some emoji => emoji ++ variant
          | none => c :: rest.take (rest.length - after.length)) ++ replace after
    else c :: replace rest
  termination_by cs => cs.length
  decreasing_by all_goals simp_wf; try omega

end SchemaMigration.Text.Emoji
