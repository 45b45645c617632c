/-
# Names in values

A value may name a table or a column.  It is a bare word of ASCII letters, digits and
underscores, or any text without double quotes between double quotes.

| value | name | written |
| --- | --- | --- |
| `users` | `users` | `users` |
| `42` | `42` | `"42"` |
| `"My Col"` | `My Col` | `"My Col"` |
-/

import QueryTemplate.Sql.Expr

namespace QueryTemplate
namespace Value

/-- A letter, a digit or an underscore. -/
def isWordChar (c : Char) : Bool := c.isAlphanum || c == '_'

/-- Whether a name is written without quotes: a word that does not start with a digit. -/
def isPlainName : List Char → Bool
  | [] => false
  | c :: rest => !c.isDigit && (c :: rest).all isWordChar

theorem all_isWordChar {cs : List Char} (h : isPlainName cs = true) :
    ∀ c ∈ cs, isWordChar c = true := by
  cases cs with
  | nil => simp
  | cons c cs =>
    rw [isPlainName, Bool.and_eq_true] at h
    exact List.all_eq_true.1 h.2

/-- A name as it is written: in quotes unless it is plain. -/
def nameIdent (name : String) : Sql.Ident :=
  if isPlainName name.toList then .plain name else .quoted name

@[simp] theorem nameIdent_text (name : String) : (nameIdent name).text = name := by
  unfold nameIdent
  split <;> rfl

/-- What stands between double quotes, if the text is something in double quotes. -/
def unquoted? : List Char → Option (List Char)
  | '"' :: rest =>
    match rest.reverse with
    | '"' :: inner => if inner.isEmpty || inner.contains '"' then none else some inner.reverse
    | _ => none
  | _ => none

/-- The name that a value is. -/
def ident? (text : String) : Option Sql.Ident :=
  if !text.isEmpty && text.toList.all isWordChar then some (nameIdent text)
  else (unquoted? text.toList).map fun inner => .quoted (String.ofList inner)

end Value
end QueryTemplate
