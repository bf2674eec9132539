import QueryTree.Kind
import QueryTree.Unicode.Lowercase

/-!
# Operators and other choices

The closed lists from which a node picks one: operators, ways to join, directions of an order, set
operators and what becomes of rows that refer to a deleted one. Each has a name, by which it is
written down, and words of SQL.
-/
namespace QueryTree

inductive Operator
  | eq | ne | gt | gte | lt | lte | inList | notIn | is | isNot
  | like | notLike | iLike | notILike | add | sub | mul | div | mod | concat
  | not | existsRow | notExistsRow | minus
  deriving DecidableEq, Repr

namespace Operator

def name : Operator → String
  | eq => "Eq" | ne => "Ne" | gt => "Gt" | gte => "Gte" | lt => "Lt" | lte => "Lte"
  | inList => "In" | notIn => "NotIn" | is => "Is" | isNot => "IsNot"
  | like => "Like" | notLike => "NotLike" | iLike => "ILike" | notILike => "NotILike"
  | add => "Add" | sub => "Sub" | mul => "Mul" | div => "Div" | mod => "Mod"
  | concat => "Concat" | not => "Not" | existsRow => "Exists" | notExistsRow => "NotExists"
  | minus => "Minus"

instance : Named Operator where
  all := [eq, ne, gt, gte, lt, lte, inList, notIn, is, isNot, like, notLike, iLike, notILike,
    add, sub, mul, div, mod, concat, not, existsRow, notExistsRow, minus]
  name := name

def symbol : Operator → String
  | eq => "=" | ne => "<>" | gt => ">" | gte => ">=" | lt => "<" | lte => "<="
  | inList => "in" | notIn => "not in" | is => "is" | isNot => "is not"
  | like => "like" | notLike => "not like" | iLike => "ilike" | notILike => "not ilike"
  | add => "+" | sub => "-" | mul => "*" | div => "/" | mod => "%"
  | concat => "||" | not => "not" | existsRow => "exists" | notExistsRow => "not exists"
  | minus => "-"

/-- Before a single operand these operators are followed by a blank. -/
def isKeyword : Operator → Bool
  | not | existsRow | notExistsRow => true
  | _ => false

/-- The operator written as a text in small letters. -/
def ofSymbol? (s : String) : Option Operator :=
  match s with
  | "=" => some eq | "<>" => some ne | "!=" => some ne | ">" => some gt | ">=" => some gte
  | "<" => some lt | "<=" => some lte
  | "in" => some inList | "not in" => some notIn | "is" => some is | "is not" => some isNot
  | "like" => some like | "not like" => some notLike
  | "ilike" => some iLike | "not ilike" => some notILike
  | "+" => some add | "-" => some sub | "*" => some mul | "/" => some div | "%" => some mod
  | "||" => some concat | "not" => some not | "exists" => some existsRow
  | "not exists" => some notExistsRow
  | _ => none

/-- The operator written as a text in letters of either case. -/
def parse? (s : String) : Option Operator := ofSymbol? (Unicode.lowercase s)

/-- What is said of a text that is no operator. -/
def invalidText (s : String) : String := "Invalid operator: '" ++ Unicode.lowercase s ++ "'"

end Operator

inductive JoinType
  | inner | left | right | full | cross | lateral
  deriving DecidableEq, Repr

namespace JoinType

instance : Named JoinType where
  all := [inner, left, right, full, cross, lateral]
  name
    | inner => "Inner" | left => "Left" | right => "Right" | full => "Full" | cross => "Cross"
    | lateral => "Lateral"

def words : JoinType → String
  | inner => "inner join" | left => "left join" | right => "right join" | full => "full join"
  | cross => "cross join" | lateral => "left join lateral"

end JoinType

inductive Direction
  | asc | desc
  deriving DecidableEq, Repr

namespace Direction

instance : Named Direction where
  all := [asc, desc]
  name | asc => "Asc" | desc => "Desc"

def words : Direction → String
  | asc => "asc" | desc => "desc"

end Direction

inductive SetOperator
  | union | intersect | except
  deriving DecidableEq, Repr

namespace SetOperator

instance : Named SetOperator where
  all := [union, intersect, except]
  name | union => "Union" | intersect => "Intersect" | except => "Except"

def words : SetOperator → String
  | union => "union" | intersect => "intersect" | except => "except"

end SetOperator

/-- What becomes of rows that refer to a row that is deleted. -/
inductive DeleteAction
  | noAction | restrict | cascade | setNull | setDefault
  deriving DecidableEq, Repr

namespace DeleteAction

instance : Named DeleteAction where
  all := [noAction, restrict, cascade, setNull, setDefault]
  name
    | noAction => "NoAction" | restrict => "Restrict" | cascade => "Cascade"
    | setNull => "SetNull" | setDefault => "SetDefault"

def words : DeleteAction → String
  | noAction => "no action" | restrict => "restrict" | cascade => "cascade"
  | setNull => "set null" | setDefault => "set default"

end DeleteAction

end QueryTree
