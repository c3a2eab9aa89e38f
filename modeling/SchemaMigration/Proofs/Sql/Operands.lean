import SchemaMigration.Proofs.Sql.Readers
import SchemaMigration.Sql.Grammar

/-!
Operands that stand alone. A literal or a name is an expression of every level if no operator
follows it, and a comparison of a column with strings has exactly these strings as its values.
-/

namespace SchemaMigration.Sql

open Reader
open Scanner (enclosed enclosed_append)

variable {g : Grammar} {ts rest : List Token} {t : Token} {n : Node}

/-! ### Levels of expressions -/

inductive Closes : Token → Prop
  | comma : Closes (.symbol ",")
  | closing : Closes (.symbol ")")

inductive Follows : Token → Prop
  | closes {t : Token} (h : Closes t) : Follows t
  | member : Follows (.keyword "IN" "IN")

theorem zoned_alone (follows : Follows t) (h : unary g ts = some (some n, t :: rest)) :
    zoned g ts = some (some n, t :: rest) := by
  have apart : Token.isWordOf ["AT"] t = false := by
    rcases follows with (_ | _) | _ <;> decide
  refine (bind_of h _).trans ((bind_of (continued_done ?_) _).trans rfl)
  exact bind_of (all_cons_of_not _ apart) _

theorem factor_alone (follows : Follows t) (h : unary g ts = some (some n, t :: rest)) :
    factor g ts = some (some n, t :: rest) := by
  refine (bind_of (zoned_alone follows h) _).trans ((bind_of (continued_done ?_) _).trans rfl)
  rcases follows with (_ | _) | _ <;> rfl

theorem term_alone (follows : Follows t) (h : unary g ts = some (some n, t :: rest)) :
    term g ts = some (some n, t :: rest) := by
  refine chain_alone (factor_alone follows h) ?_
  rcases follows with (_ | _) | _ <;> rfl

theorem bitwise_alone (follows : Follows t) (h : unary g ts = some (some n, t :: rest)) :
    bitwise g ts = some (some n, t :: rest) := by
  have lower : Token.isSymbol "<" t = false := by rcases follows with (_ | _) | _ <;> rfl
  have upper : Token.isSymbol ">" t = false := by rcases follows with (_ | _) | _ <;> rfl
  have marks : symbolOf ["&", "^", "|", "||", "??"] (t :: rest) = some (false, t :: rest) := by
    rcases follows with (_ | _) | _ <;> rfl
  refine chain_alone (term_alone follows h) ?_
  refine (bind_of marks _).trans ((bind_of (all_cons_of_not _ lower) _).trans ?_)
  exact all_cons_of_not _ upper

theorem range_alone (closes : Closes t) (h : bitwise g ts = some (some n, t :: rest)) :
    range g ts = some (some n, t :: rest) := by
  refine (bind_of h _).trans ?_
  cases closes <;> rfl

theorem assignment_alone (closes : Closes t) (h : range g ts = some (some n, t :: rest)) :
    assignment g ts = some (some n, t :: rest) := by
  have compared : comparison g ts = some (some n, t :: rest) :=
    chain_alone h (by cases closes <;> rfl)
  have equated : equality g ts = some (some n, t :: rest) :=
    chain_alone compared (by cases closes <;> rfl)
  have joined : conjunction g ts = some (some n, t :: rest) :=
    chain_alone equated (by cases closes <;> rfl)
  have parted : disjunction g ts = some (some n, t :: rest) :=
    chain_alone joined (by cases closes <;> rfl)
  refine (bind_of parted _).trans ?_
  cases closes <;> rfl

/-! ### Literals and names -/

theorem unary_name (follows : Follows t) (name : String) :
    unary g (.quotedName name :: t :: rest) = some (some (.leaf (.column [name])), t :: rest) := by
  rcases follows with (_ | _) | _ <;> rfl

theorem unary_string (closes : Closes t) (text : String) :
    unary g (.string text :: t :: rest) = some (some (.leaf (.string text)), t :: rest) := by
  cases closes <;> rfl

theorem typed_number (closes : Closes t) (text : String) :
    typed g (.number text :: t :: rest) = some (some (.leaf .number), t :: rest) := by
  cases closes <;> rfl

theorem assignment_string (closes : Closes t) (text : String) :
    assignment g (.string text :: t :: rest) = some (some (.leaf (.string text)), t :: rest) := by
  apply assignment_alone closes
  apply range_alone closes
  exact bitwise_alone (.closes closes) (unary_string closes text)

/-! ### Comparisons with strings -/

def memberNode (name : String) (values : List String) : Node :=
  .branch .member (.leaf (.column [name]) :: values.map fun v => .leaf (.string v))

theorem closes_of_mark {mark : String} (h : mark = "," ∨ mark = ")") : Closes (.symbol mark) := by
  rcases h with rfl | rfl
  · exact .comma
  · exact .closing

variable {d : Nat}

theorem takes_string (value : String) :
    Takes (queryOr (grammar (d + 1)) (grammar (d + 1) .assignment)) [.string value]
      (.leaf (.string value)) := by
  intro mark rest hmark
  have closes := closes_of_mark hmark
  have query : grammar (d + 1) (.query .value) (.string value :: .symbol mark :: rest) =
      some (none, .string value :: .symbol mark :: rest) := rfl
  have found : grammar (d + 1) .assignment (.string value :: .symbol mark :: rest) =
      some (some (.leaf (.string value)), .symbol mark :: rest) :=
    assignment_string closes value
  refine (bind_of query _).trans ((bind_of found _).trans ?_)
  refine (bind_of (continued_done ?_) _).trans rfl
  rcases hmark with rfl | rfl <;> rfl

theorem membership_strings (name : String) {values : List String} (hne : values ≠ [])
    (rest : List Token) :
    membership (grammar (d + 1)) (.leaf (.column [name]))
        (enclosed (values.map fun v => [.string v]) ++ rest) =
      some (memberNode name values, rest) := by
  have found : list _ _ = some (_, .symbol ")" :: rest) :=
    list_of_takes hne fun v _ => takes_string (d := d) v
  rw [enclosed_append]
  refine (bind_of rfl _).trans ((bind_of found _).trans ?_)
  -- a single value could have been a query
  cases values with
  | nil => exact absurd rfl hne
  | cons v values => cases values <;> rfl

theorem range_member (closes : Closes t) (name : String) {values : List String}
    (hne : values ≠ []) :
    range (grammar (d + 1)) (.quotedName name :: .keyword "IN" "IN" ::
        (enclosed (values.map fun v => [.string v]) ++ t :: rest)) =
      some (some (memberNode name values), t :: rest) := by
  have subject : bitwise (grammar (d + 1)) (.quotedName name :: .keyword "IN" "IN" ::
      (enclosed (values.map fun v => [.string v]) ++ t :: rest)) =
      some (some (.leaf (.column [name])), _) :=
    bitwise_alone .member (unary_name .member name)
  have member := membership_strings (d := d) name hne (t :: rest)
  have compared : comparison? (grammar (d + 1)) (.leaf (.column [name])) (.keyword "IN" "IN" ::
      (enclosed (values.map fun v => [.string v]) ++ t :: rest)) =
      some (some (memberNode name values), t :: rest) :=
    attempt_of ((bind_of rfl _).trans (bind_of member _))
  refine (bind_of subject _).trans ((bind_of rfl _).trans ?_)
  refine (bind_of compared _).trans ?_
  cases closes <;> rfl

end SchemaMigration.Sql
