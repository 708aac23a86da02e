import TableScan.Predicate
import TableScan.Value.Text

/-!
How predicates are shown. Every inner node stands in parentheses, so the text tells the shape of
the tree. A caller's test is shown by its column alone.
-/

namespace TableScan.Predicate

def text : Predicate → String
  | comparison column op literal => column.text ++ " " ++ op.text ++ " " ++ literal.text
  | userDefined column _ _ => "udf(" ++ column.text ++ ")"
  | and left right => "(" ++ left.text ++ " AND " ++ right.text ++ ")"
  | or left right => "(" ++ left.text ++ " OR " ++ right.text ++ ")"

end TableScan.Predicate
