/-
# Expressions

The shape of an expression as far as templates look into it: column references,
literals, parentheses, prefix and binary operators.  Every other construct is a
*phrase*: fixed words with operands in between, such as `CASE`, `a`, `END`.  A
sub-query is a phrase too, so its column references are found where they stand.

Operands are visited in the order in which they are written, except that deferred
ones come after all others of their phrase: the results of `CASE` after its
conditions, the trimmed characters of `TRIM` after its subject.
-/

import QueryTemplate.Sql.Quoting
import QueryTemplate.Sql.Token

namespace QueryTemplate
namespace Sql

/-! ## Names -/

/-- A name, with its quote if it is written in quotes. -/
structure Ident where
  text : String
  quote : Option Char
deriving DecidableEq, Repr, Inhabited

namespace Ident

/-- A name without quotes. -/
def plain (text : String) : Ident := ⟨text, none⟩

/-- A name in double quotes. -/
def quoted (text : String) : Ident := ⟨text, some '"'⟩

/-- The written name. -/
def sql (i : Ident) : String :=
  match i.quote with
  | some q => Quoting.inQuotes q i.text
  | none => i.text

end Ident

/-- Names with points in between. -/
def dotted (names : List Ident) : String :=
  String.intercalate "." (names.map Ident.sql)

/-! ## Literals and operators -/

/-- A constant. -/
inductive Literal where
  | null
  | boolean (value : Bool)
  | number (digits : String) (long : Bool)
  | string (kind : StringKind) (text : String)
  | dollarString (tag : Option String) (text : String)
  | parameter (text : String)
deriving DecidableEq, Repr, Inhabited

namespace Literal

/-- What stands between the quotes of a string of a kind. -/
def content (kind : StringKind) (text : String) : String :=
  match kind with
  | .single => Quoting.doubled '\'' text
  | .double => Quoting.doubled '"' text
  | .escaped => Quoting.escaped text
  | .codePoints => Quoting.codePoints text
  | _ => text

/-- The written constant. -/
def sql : Literal → String
  | .null => "NULL"
  | .boolean true => "true"
  | .boolean false => "false"
  | .number digits long => if long then digits ++ "L" else digits
  | .string kind text => kind.mark ++ kind.quote ++ content kind text ++ kind.quote
  | .dollarString tag text => (Token.dollarString tag text).text
  | .parameter text => text

end Literal

/-- An operator between two operands.  `other` has a spelling of its own. -/
inductive BinaryOp where
  | and
  | or
  | plus
  | minus
  | times
  | divide
  | equal
  | notEqual
  | less
  | lessEqual
  | greater
  | greaterEqual
  | other (spelling : String)
deriving DecidableEq, Repr, Inhabited

namespace BinaryOp

/-- The written operator. -/
def sql : BinaryOp → String
  | .and => "AND"
  | .or => "OR"
  | .plus => "+"
  | .minus => "-"
  | .times => "*"
  | .divide => "/"
  | .equal => "="
  | .notEqual => "<>"
  | .less => "<"
  | .lessEqual => "<="
  | .greater => ">"
  | .greaterEqual => ">="
  | .other s => s

/-- The operator with a spelling. -/
def ofSymbol (s : String) : BinaryOp :=
  match s with
  | "+" => .plus
  | "-" => .minus
  | "*" => .times
  | "/" => .divide
  | "=" | "==" => .equal
  | "<>" => .notEqual
  | "<" => .less
  | "<=" => .lessEqual
  | ">" => .greater
  | ">=" => .greaterEqual
  | s => .other s

/-- The operators that `ANY`, `SOME` and `ALL` may follow. -/
def isComparison : BinaryOp → Bool
  | .equal | .notEqual | .less | .lessEqual | .greater | .greaterEqual => true
  | _ => false

end BinaryOp

/-- An operator before its operand.  `other` has a spelling of its own. -/
inductive PrefixOp where
  | not
  | plus
  | minus
  | other (spelling : String)
deriving DecidableEq, Repr, Inhabited

/-- The written operator, with the blank that separates a word from its operand. -/
def PrefixOp.sql : PrefixOp → String
  | .not => "NOT "
  | .plus => "+"
  | .minus => "-"
  | .other s => s

/-! ## Trees -/

mutual

/-- An expression. -/
inductive Expr where
  /-- A column reference; the qualifier of `s.t.a` is `s`, `t`. -/
  | column (qualifier : List Ident) (name : Ident)
  | literal (value : Literal)
  /-- An expression in parentheses. -/
  | nested (inner : Expr)
  | unary (op : PrefixOp) (operand : Expr)
  | binary (left : Expr) (op : BinaryOp) (right : Expr)
  /-- Any other construct: words with operands in between. -/
  | phrase (parts : List Part)

/-- A piece of a phrase. -/
inductive Part where
  | words (text : String)
  | operand (expr : Expr)
  /-- An operand that is visited after the others of its phrase. -/
  | deferred (expr : Expr)
  /-- An operand in parentheses, which a sub-query brings along itself. -/
  | enclosed (expr : Expr)

end

instance : Inhabited Expr := ⟨.literal .null⟩
instance : Inhabited Part := ⟨.words ""⟩

/-- Whether an expression is a query in parentheses. -/
def Expr.isSubquery : Expr → Bool
  | .phrase [.words "(", .operand _, .words ")"] => true
  | _ => false

mutual

/-- The written expression.  Only `nested` writes parentheses around an operand. -/
def Expr.sql : Expr → String
  | .column qualifier name => dotted (qualifier ++ [name])
  | .literal value => value.sql
  | .nested inner => "(" ++ inner.sql ++ ")"
  | .unary op operand => op.sql ++ operand.sql
  | .binary left op right => left.sql ++ " " ++ op.sql ++ " " ++ right.sql
  | .phrase parts => Part.allSql parts
  termination_by structural e => e

/-- The written piece. -/
def Part.sql : Part → String
  | .words text => text
  | .operand e => e.sql
  | .deferred e => e.sql
  | .enclosed e => if e.isSubquery then e.sql else "(" ++ e.sql ++ ")"
  termination_by structural p => p

/-- The written phrase. -/
def Part.allSql : List Part → String
  | [] => ""
  | p :: rest => p.sql ++ Part.allSql rest
  termination_by structural ps => ps

end

namespace Expr

/-- A reference by one name. -/
def identifier (name : Ident) : Expr := .column [] name

/-- The reference by dotted names, the last of which is the column. -/
def ofNames (names : List Ident) : Expr :=
  match names.reverse with
  | [] => .phrase []
  | name :: qualifier => .column qualifier.reverse name

/-- A number literal. -/
def number (digits : String) : Expr := .literal (.number digits false)

/-- A truth value. -/
def boolean (value : Bool) : Expr := .literal (.boolean value)

/-- A string in single quotes. -/
def string (text : String) : Expr := .literal (.string .single text)

/-- The name that a column reference ends in; the column is looked up by it. -/
def columnName? : Expr → Option String
  | .column _ name => some name.text
  | _ => none

end Expr

/-! ## Building phrases -/

namespace Part

/-- The pieces of several phrases with a separator in between. -/
def separated (separator : String) : List (List Part) → List Part
  | [] => []
  | [p] => p
  | p :: rest => p ++ .words separator :: separated separator rest

/-- Operands with commas in between. -/
def commaList (es : List Expr) : List Part :=
  separated ", " (es.map fun e => [.operand e])

/-- The same pieces, visited after the others of the phrase that they become part of. -/
def defer : List Part → List Part :=
  List.map fun
    | .operand e => .deferred e
    | p => p

end Part
end Sql
end QueryTemplate
