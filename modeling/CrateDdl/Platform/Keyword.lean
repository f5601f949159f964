import CrateDdl.Text.Case

/-!
# Reserved keywords

The words that cannot be column names unless they are quoted. Case does not matter.
-/

set_option autoImplicit false

namespace CrateDdl.Platform

/-- The reserved words in upper case, in alphabetical order. -/
def reservedKeywords : List String :=
  ["ADD", "ALL", "ALTER", "AND", "ANY", "ARRAY", "AS", "ASC", "BETWEEN", "BY", "CALLED", "CASE",
   "CAST", "COLUMN", "CONSTRAINT", "COSTS", "CREATE", "CROSS", "CURRENT_DATE", "CURRENT_SCHEMA",
   "CURRENT_TIME", "CURRENT_TIMESTAMP", "CURRENT_USER", "DEFAULT", "DELETE", "DENY", "DESC",
   "DESCRIBE", "DIRECTORY", "DISTINCT", "DROP", "ELSE", "END", "ESCAPE", "EXCEPT", "EXISTS",
   "EXTRACT", "FALSE", "FIRST", "FOR", "FROM", "FULL", "FUNCTION", "GRANT", "GROUP", "HAVING",
   "IF", "IN", "INDEX", "INNER", "INPUT", "INSERT", "INTERSECT", "INTO", "IS", "JOIN", "LAST",
   "LEFT", "LIKE", "LIMIT", "MATCH", "NOT", "NULL", "NULLS", "OBJECT", "OFFSET", "ON", "OR",
   "ORDER", "OUTER", "PERSISTENT", "RECURSIVE", "RESET", "RETURNS", "REVOKE", "RIGHT", "SELECT",
   "SESSION_USER", "SET", "SOME", "STRATIFY", "TABLE", "THEN", "TRANSIENT", "TRUE", "TRY_CAST",
   "UNBOUNDED", "UNION", "UPDATE", "USER", "USING", "WHEN", "WHERE", "WITH"]

/-- The word is reserved, in whatever case it is written. -/
def isReservedKeyword (word : String) : Bool := reservedKeywords.contains (Text.upper word)

end CrateDdl.Platform
