import TableScan.Binary64.Text
import TableScan.Value

/-!
How values are shown. Text stands between apostrophes as it is, without escapes, and binary data
is shown by its length only.
-/

namespace TableScan.Value

def text : Value → String
  | null => "NULL"
  | boolean flag => if flag then "true" else "false"
  | int32 n => n.toInt.repr
  | int64 n => n.toInt.repr
  | float64 x => x.text
  | utf8 s => "'" ++ s ++ "'"
  | binary bytes => "<" ++ bytes.length.repr ++ " bytes>"
  | timestamp millis => "ts(" ++ millis.toInt.repr ++ ")"

end TableScan.Value
