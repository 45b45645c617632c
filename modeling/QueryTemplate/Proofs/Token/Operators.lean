/-
# Tokens of expressions

What stands in an expression is one token each: names, numbers and strings in front of what may
follow an operand (`Stops`), the symbols of operators between blanks, and signs in front of
what neither makes a comment nor a longer symbol of them.
-/

import QueryTemplate.Proofs.Token.Constants

namespace QueryTemplate
namespace Sql
namespace Lexer

open Value (isWordChar isPlainName)

variable {d : Dialect} {c : Char} {s : String} {rest : List Char}

/-- What may follow an operand: nothing, a blank, a closing parenthesis or a colon. -/
def Stops (rest : List Char) : Prop := ∀ x ∈ rest.head?, x ∈ [' ', ')', ':']

@[simp] theorem stops_nil : Stops [] := by simp [Stops]

/-- A blank, a closing parenthesis and a colon stop a word. -/
@[simp] theorem stops_cons : Stops (c :: rest) ↔ c ∈ [' ', ')', ':'] := by simp [Stops]

/-- What stops a word ends a number. -/
theorem Stops.endsNumber (h : Stops rest) : EndsNumber rest := by
  intro x hx
  obtain rfl | rfl | rfl := by simpa using h x hx
  all_goals decide

/-- No other character stands where a word stops. -/
theorem Stops.head?_ne (h : Stops rest) (hc : c ∉ [' ', ')', ':']) :
    rest.head? ≠ some c :=
  fun hx => hc (h c hx)

/-- **A plain name is read as one word** in front of what may follow an operand. -/
theorem Stops.reads_word {name : String} (hrest : Stops rest)
    (h : isPlainName name.toList = true) : Reads d name.toList [.word name none] rest := by
  refine reads_word_of h fun x hx => ?_
  obtain rfl | rfl | rfl := by simpa using hrest x hx
  all_goals cases d <;> decide

/-! ## Symbols -/

/-- The symbols of operators between two operands. -/
def operatorSymbols : List String := [
  "+", "-", "*", "/", "=", "<>", "<", "<=", ">", ">=", "%", "||", "^", "|", "&", "&&"]

/-- An operator in front of a blank is read as itself. -/
theorem reads_operator (h : s ∈ operatorSymbols) :
    Reads d s.toList [.symbol s] (' ' :: rest) := by
  simp only [operatorSymbols, List.mem_cons, List.not_mem_nil, or_false] at h
  rcases h with rfl | rfl | rfl | rfl | rfl | rfl | rfl | rfl | rfl | rfl | rfl | rfl | rfl | rfl |
    rfl | rfl
  all_goals exact .one (by cases d <;> rfl)

/-- Whether a sign in front of a character is a token of its own. -/
def endsSign (d : Dialect) (c : Char) : Bool := c != '-' && c != '>' && !d.extendsOperator c

/-- A sign in front of an operand is read as itself. -/
theorem reads_sign (hs : s = "-" ∨ s = "+") (hc : endsSign d c = true) :
    Reads d s.toList [.symbol s] (c :: rest) := by
  simp only [endsSign, Bool.and_eq_true, bne_iff_ne, Bool.not_eq_true'] at hc
  obtain ⟨⟨hminus, hgreater⟩, hextends⟩ := hc
  rcases hs with rfl | rfl
  · have hne : ('>' == c) = false := by simpa using Ne.symm hgreater
    have hlongest : longestSymbol? d ('-' :: c :: rest) = some "-" := by
      simp [longestSymbol?, symbols, List.find?, hasSymbol, List.isPrefixOf, hne]
    have hsymbol : symbol d "-" ('-' :: c :: rest) = (.symbol "-", 0) := by
      simp [symbol, hextends, symbolToken]
    have hcomment : comment? d ('-' :: c :: rest) = none := by
      unfold comment?
      split <;> simp_all
    have hname : d.opensName '-' = false := by cases d <;> rfl
    have hlexeme : lexeme d '-' (c :: rest) = .ok (.symbol "-", 0) := by
      simp [lexeme, markedString?, hname, hcomment, signWord?, hlongest, hsymbol]
    exact .one hlexeme
  · have hlexeme : lexeme d '+' (c :: rest) = .ok (.symbol "+", 0) := lexeme_delimiter (by simp)
    exact .one hlexeme

/-- The sign of a cast is read as itself. -/
theorem reads_cast : Reads d "::".toList [.symbol "::"] rest := by
  have hlongest : longestSymbol? d (':' :: ':' :: rest) = some "::" := by cases d <;> rfl
  have hname : d.opensName ':' = false := by cases d <;> rfl
  have hlexeme : lexeme d ':' (':' :: rest) = .ok (.symbol "::", 1) := by
    simp [lexeme, markedString?, hname, comment?, signWord?, hlongest, symbol, extensible,
      symbolToken]
  exact .one hlexeme

end Lexer
end Sql
end QueryTemplate
