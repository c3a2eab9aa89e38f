/-!
The functions whose arguments are counted. Every other function takes what it is given.
-/

namespace SchemaMigration.Sql

/-- How many arguments a function needs, and how many it takes at most. -/
structure Signature where
  least : Nat
  most : Option Nat
  deriving DecidableEq, Repr

namespace Signature

def admits (s : Signature) (count : Nat) : Bool :=
  decide (s.least ≤ count) && (s.most.map fun m => decide (count ≤ m)).getD true

def ofOne : List String :=
  ["ABS", "ACOS", "ACOSH", "ASCII", "ASIN", "ASINH", "ATANH", "AVG", "CBRT",
   "COS", "COSH", "COT", "COTH", "DAY", "DAYOFMONTH", "DAYOFWEEK", "DAYOFYEAR", "DEGREES", "EXP",
   "FIRST_VALUE", "HEX", "HOUR", "INITCAP", "ISNAN", "ISINF", "LAST_DAY", "LAST_VALUE", "LCASE",
   "LN", "LOWER", "MD5", "MINUTE", "MONTH", "QUARTER", "RADIANS", "REVERSE", "SECOND", "SIGN",
   "SIGNUM", "SIN", "SINH", "SOUNDEX", "SPACE", "SQRT", "STDDEV", "STDDEV_POP", "STDDEV_SAMP",
   "SUM", "TAN", "TANH", "TYPEOF", "UCASE", "UNICODE", "UPPER", "VARIANCE", "VAR_POP", "VAR_SAMP",
   "WEEK", "YEAR", "ANY_VALUE", "BIT_AND", "BIT_OR", "BIT_XOR", "BOOL_AND", "BOOL_OR",
   "LOGICAL_AND", "LOGICAL_OR", "APPROX_DISTINCT", "SHA", "SHA1", "TO_BASE64", "FROM_BASE64",
   "UNIX_TO_TIME", "MEDIAN"]

def others : List (String × Signature) :=
  [("ATAN", ⟨1, some 2⟩), ("ATAN2", ⟨2, some 2⟩), ("CEIL", ⟨1, none⟩), ("CEILING", ⟨1, some 3⟩),
   ("COALESCE", ⟨1, none⟩), ("IFNULL", ⟨1, none⟩), ("NVL", ⟨1, none⟩), ("CONCAT", ⟨1, none⟩),
   ("CONCAT_WS", ⟨1, none⟩),
   ("CORR", ⟨2, some 2⟩), ("COVAR_POP", ⟨2, some 2⟩), ("COVAR_SAMP", ⟨2, some 2⟩),
   ("DATE_ADD", ⟨2, some 3⟩), ("DATE_SUB", ⟨2, some 3⟩), ("DATEDIFF", ⟨2, some 4⟩),
   ("DATE_DIFF", ⟨2, some 4⟩), ("DATE_TRUNC", ⟨2, some 3⟩), ("EDITDIST3", ⟨1, some 6⟩),
   ("FLOOR", ⟨1, none⟩), ("FORMAT", ⟨1, none⟩), ("GLOB", ⟨2, none⟩), ("GREATEST", ⟨1, none⟩),
   ("GROUP_CONCAT", ⟨1, some 3⟩), ("IF", ⟨2, some 3⟩), ("IIF", ⟨2, some 3⟩),
   ("INSTR", ⟨2, some 4⟩), ("JSON_EXTRACT", ⟨2, none⟩), ("JSON_GROUP_ARRAY", ⟨1, some 5⟩),
   ("JSON_TYPE", ⟨1, some 2⟩), ("LAG", ⟨1, some 3⟩), ("LEAD", ⟨1, some 3⟩),
   ("LEAST", ⟨1, none⟩), ("LEFT", ⟨2, some 2⟩), ("LEN", ⟨1, some 3⟩), ("LENGTH", ⟨1, some 3⟩),
   ("CHAR_LENGTH", ⟨1, some 3⟩), ("CHARACTER_LENGTH", ⟨1, some 3⟩),
   ("LEVENSHTEIN", ⟨1, some 6⟩), ("LIKE", ⟨2, none⟩), ("LOG", ⟨1, some 2⟩), ("LPAD", ⟨2, some 4⟩),
   ("LTRIM", ⟨1, some 4⟩), ("MAX", ⟨1, none⟩), ("MAX_BY", ⟨2, some 3⟩), ("MIN", ⟨1, none⟩),
   ("MIN_BY", ⟨2, some 3⟩), ("MOD", ⟨2, none⟩), ("NTH_VALUE", ⟨2, some 3⟩),
   ("NULLIF", ⟨2, some 2⟩), ("NVL2", ⟨2, some 3⟩), ("POW", ⟨2, some 2⟩), ("POWER", ⟨2, some 2⟩),
   ("RAND", ⟨0, some 2⟩), ("RANDOM", ⟨0, some 2⟩), ("REGEXP_LIKE", ⟨2, some 3⟩),
   ("REPEAT", ⟨2, some 2⟩), ("REPLACE", ⟨2, some 3⟩), ("RIGHT", ⟨2, some 2⟩),
   ("ROUND", ⟨1, some 4⟩), ("ROW_NUMBER", ⟨0, some 1⟩), ("RPAD", ⟨2, some 4⟩),
   ("RTRIM", ⟨1, some 4⟩), ("SPLIT", ⟨2, some 3⟩), ("STR_POSITION", ⟨2, some 4⟩),
   ("SUBSTR", ⟨1, some 3⟩), ("SUBSTRING", ⟨1, some 3⟩), ("TIMEDIFF", ⟨2, some 3⟩),
   ("TRUNC", ⟨1, some 2⟩), ("UNHEX", ⟨1, some 2⟩), ("SQLITE_VERSION", ⟨0, some 0⟩),
   ("CURRENT_DATE", ⟨0, some 1⟩), ("CURRENT_TIME", ⟨0, some 1⟩),
   ("CURRENT_TIMESTAMP", ⟨0, some 2⟩), ("CURRENT_USER", ⟨0, some 1⟩)]

def of? (function : String) : Option Signature :=
  if ofOne.contains function then some ⟨1, some 1⟩ else others.lookup function

end Signature

end SchemaMigration.Sql
