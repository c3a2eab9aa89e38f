import SchemaMigration.Text.Case

/-!
The words of SQL that are not free for names everywhere. Each has one canonical spelling in upper
case, and a word with several spellings is the same word in all of them. The classes below say in
which places a word may still be a name.
-/

namespace SchemaMigration.Sql.Keyword

def typeSpellings : List (String × String) :=
  [("BOOL", "BOOLEAN"), ("BYTE", "TINYINT"), ("INT1", "TINYINT"), ("INT8", "TINYINT"),
   ("INT16", "SMALLINT"), ("INT2", "SMALLINT"), ("SHORT", "SMALLINT"), ("HUGEINT", "INT128"),
   ("INTEGER", "INT"), ("INT4", "INT"), ("INT32", "INT"), ("INT64", "BIGINT"), ("LONG", "BIGINT"),
   ("UHUGEINT", "UINT128"), ("DEC", "DECIMAL"), ("NUMBER", "DECIMAL"), ("NUMERIC", "DECIMAL"),
   ("FIXED", "DECIMAL"), ("BIGNUMERIC", "BIGDECIMAL"), ("REAL", "FLOAT"), ("FLOAT4", "FLOAT"),
   ("FLOAT8", "DOUBLE"), ("DOUBLE PRECISION", "DOUBLE"), ("CHARACTER", "CHAR"),
   ("CHAR VARYING", "VARCHAR"), ("CHARACTER VARYING", "VARCHAR"), ("VARCHAR2", "VARCHAR"),
   ("NVARCHAR2", "NVARCHAR"), ("STR", "TEXT"), ("STRING", "TEXT"), ("CLOB", "TEXT"),
   ("LONGVARCHAR", "TEXT"), ("BLOB", "VARBINARY"), ("BYTEA", "VARBINARY"),
   ("TIMESTAMP_LTZ", "TIMESTAMPLTZ"), ("TIMESTAMP_NTZ", "TIMESTAMPNTZ")]

def types : List String :=
  ["ARRAY", "LIST", "MAP", "STRUCT", "NULLABLE", "OBJECT", "VARIANT", "VECTOR", "SUPER", "HSTORE",
   "BIT", "BOOLEAN", "TINYINT", "SMALLINT", "MEDIUMINT", "INT", "BIGINT", "INT128", "INT256",
   "UINT", "UINT128", "UINT256", "DECIMAL", "DECIMAL32", "DECIMAL64", "DECIMAL128", "DECIMAL256",
   "DECFLOAT", "BIGDECIMAL", "BIGNUM", "FLOAT", "DOUBLE", "JSON", "JSONB", "CHAR", "NCHAR",
   "VARCHAR", "NVARCHAR", "BPCHAR", "TEXT", "TINYTEXT", "MEDIUMTEXT", "LONGTEXT", "BINARY",
   "VARBINARY", "TINYBLOB", "MEDIUMBLOB", "LONGBLOB", "TIME", "TIMETZ", "TIME_NS", "TIMESTAMP",
   "TIMESTAMPTZ", "TIMESTAMPLTZ", "TIMESTAMPNTZ", "DATE", "DATETIME", "INTERVAL", "UUID", "INET",
   "GEOGRAPHY", "GEOMETRY", "HLLSKETCH", "INT4RANGE", "INT4MULTIRANGE", "INT8RANGE",
   "INT8MULTIRANGE", "NUMRANGE", "NUMMULTIRANGE", "TSRANGE", "TSMULTIRANGE", "TSTZRANGE",
   "TSTZMULTIRANGE", "DATERANGE", "DATEMULTIRANGE", "RANGE", "UNKNOWN"]

def nestedTypes : List String :=
  ["ARRAY", "LIST", "MAP", "STRUCT", "NULLABLE", "OBJECT", "RANGE"]

def fieldTypes : List String := ["STRUCT", "OBJECT"]

def signedTypes : List String :=
  ["BIGINT", "INT", "MEDIUMINT", "SMALLINT", "TINYINT", "DECIMAL", "DOUBLE"]

def zonedTypes : List String := ["TIME", "TIMETZ", "TIMESTAMP", "TIMESTAMPTZ", "TIMESTAMPLTZ"]

def spellings : List (String × String) :=
  [("AUTOINCREMENT", "AUTO_INCREMENT"), ("REGEXP", "RLIKE"), ("TEMP", "TEMPORARY"),
   ("PARTITIONED_BY", "PARTITIONED BY"), ("CALL", "COMMAND"), ("EXPLAIN", "COMMAND"),
   ("OPTIMIZE", "COMMAND"), ("PREPARE", "COMMAND"), ("VACUUM", "COMMAND")]

def creatables : List String :=
  ["COLUMN", "CONSTRAINT", "FOREIGN KEY", "FUNCTION", "INDEX", "PROCEDURE", "DATABASE",
   "NAMESPACE", "SCHEMA", "SEQUENCE", "TABLE", "VIEW"]

def currentValues : List String :=
  ["CURRENT_DATE", "CURRENT_TIME", "CURRENT_TIMESTAMP", "CURRENT_USER", "CURRENT_SCHEMA",
   "CURRENT_CATALOG"]

/-- The words, apart from types and what can be created, that may be the name of a column. -/
def names : List String := currentValues ++
  ["ALL", "ANALYZE", "ANTI", "ANY", "ASC", "ASOF", "ATTACH", "AUTO_INCREMENT", "BEGIN", "CACHE",
   "CASE", "COLLATE", "COMMAND", "COMMENT", "COMMIT", "COPY", "CUBE", "DEFAULT", "DELETE", "DESC",
   "DESCRIBE", "DETACH", "DIV", "END", "ESCAPE", "EXECUTE", "EXISTS", "FALSE", "FILTER", "FIRST",
   "FORMAT", "FULL", "IS", "ISNULL", "KEEP", "KILL", "LEFT", "LIMIT", "LOAD", "LOCK", "MATCH",
   "MERGE", "NATURAL", "NEXT", "OFFSET", "OPERATOR", "ORDINALITY", "OVER", "OVERLAPS",
   "OVERWRITE", "PARTITION", "PERCENT", "PIVOT", "PRAGMA", "RANGE", "RECURSIVE", "REFERENCES",
   "REFRESH", "RENAME", "REPLACE", "RIGHT", "ROLLUP", "ROW", "ROWS", "SEMI", "SESSION",
   "SESSION_USER", "SET", "SETTINGS", "SHOW", "SOME", "TEMPORARY", "TOP", "TRUE", "TRUNCATE",
   "UNIQUE", "UNNEST", "UNPIVOT", "UPDATE", "USE", "VOLATILE", "WINDOW"]

/-- The words that are never the name of a column unless any token may stand there. -/
def fixed : List String :=
  ["ALTER", "AND", "AS", "BETWEEN", "CHARACTER SET", "CLUSTER BY", "CONNECT BY", "CREATE", "CROSS",
   "DISTINCT", "DISTRIBUTE BY", "DROP", "ELSE", "EXCEPT", "FETCH", "FOR", "FROM", "GLOB", "GRANT",
   "GROUP BY", "GROUPING SETS", "HAVING", "ILIKE", "IN", "INDEXED BY", "INNER", "INSERT",
   "INTERSECT", "INTO", "JOIN", "LATERAL", "LIKE", "NOT", "NOTNULL", "NULL", "ON", "OR",
   "ORDER BY", "OUTER", "PARTITION BY", "PARTITIONED BY", "PRIMARY KEY", "QUALIFY", "RETURNING",
   "REVOKE", "RLIKE", "ROLLBACK", "SELECT", "SIMILAR TO", "SORT BY", "START WITH",
   "STRAIGHT_JOIN", "TABLESAMPLE", "THEN", "UNCACHE", "UNION", "USING", "VALUES", "WHEN", "WHERE",
   "WITH", "XOR"]

/-- The words before which the name of a table is not taken for another name of it. -/
def notTableNames : List String :=
  ["ANTI", "ASOF", "FULL", "LEFT", "LOCK", "NATURAL", "RIGHT", "SEMI", "WINDOW"]

def functions : List String := currentValues ++
  ["ALL", "ANY", "COLLATE", "COMMAND", "EXISTS", "FILTER", "FIRST", "FORMAT", "GLOB", "ILIKE",
   "INDEX", "INSERT", "ISNULL", "LEFT", "LIKE", "MERGE", "NEXT", "OFFSET", "PRIMARY KEY", "RANGE",
   "REPLACE", "RIGHT", "RLIKE", "ROW", "SEQUENCE", "SESSION_USER", "SOME", "TABLE", "TRUNCATE",
   "UNNEST", "WINDOW", "XOR"]

def commands : List String := ["COMMAND", "EXECUTE", "FETCH", "RENAME", "REPLACE", "SHOW"]

/-- The phrases of several words that count as one word. -/
def phrases : List (List String) :=
  [["CHARACTER", "SET"], ["CHARACTER", "VARYING"], ["CHAR", "VARYING"], ["CLUSTER", "BY"],
   ["CONNECT", "BY"], ["DISTRIBUTE", "BY"], ["DOUBLE", "PRECISION"], ["FOREIGN", "KEY"],
   ["GROUP", "BY"], ["GROUPING", "SETS"], ["INDEXED", "BY"], ["ORDER", "BY"],
   ["PARTITION", "BY"], ["PARTITIONED", "BY"], ["PRIMARY", "KEY"], ["SIMILAR", "TO"],
   ["SORT", "BY"], ["START", "WITH"]]

def isType (word : String) : Bool := types.contains word

def isName (word : String) : Bool :=
  names.contains word || creatables.contains word || isType word

def isFunction (word : String) : Bool := functions.contains word || isType word

def canonical? (upper : String) : Option String :=
  match typeSpellings.lookup upper, spellings.lookup upper with
  | some word, _ => some word
  | none, some word => some word
  | none, none => if isName upper || fixed.contains upper then some upper else none

end SchemaMigration.Sql.Keyword
