/-
# Capped rows

The first table of the written `FROM` decides how many rows a query may give.

| limits of single tables | greatest number of rows |
| --- | --- |
| given | that of the table, if it is among them |
| missing | that of all tables, if there is one |

Zero is no limit.  With a greatest number `most` the written `LIMIT` is a number that is at
most `most`: the smaller one of `most` and a `LIMIT` of digits, however many there are, and
else `most` itself.  Numbers of more than 64 bits are not read, but they are greater than any
`most`, so the smaller number is the same (`fill_caps_rows`).
-/

import QueryTemplate.Proofs.Fill.Steps

namespace QueryTemplate

/-! ## Numbers of 64 bits -/

namespace Decimal

/-- Further digits never make a number smaller. -/
theorem le_ofDigitChars (n : Nat) (cs : List Char) : n ≤ Nat.ofDigitChars 10 cs n := by
  induction cs generalizing n with
  | nil => simp
  | cons c rest ih =>
    rw [Nat.ofDigitChars_cons]
    have hstep := ih (10 * n + (c.toNat - '0'.toNat))
    omega

/-- **Digits are read just when their number has at most 64 bits**, and the number is exact. -/
theorem unsignedFrom_eq_ok_iff {n k : Nat} {cs : List Char} (hn : n ≤ maxUnsigned) :
    unsignedFrom n cs = .ok k ↔
      cs.all Char.isDigit ∧ Nat.ofDigitChars 10 cs n = k ∧ k ≤ maxUnsigned := by
  induction cs generalizing n with
  | nil =>
    simp only [unsignedFrom, Except.ok.injEq, List.all_nil, Nat.ofDigitChars_nil, true_and]
    exact ⟨fun h => ⟨h, h ▸ hn⟩, And.left⟩
  | cons c rest ih =>
    rw [unsignedFrom, Nat.ofDigitChars_cons, List.all_cons, Bool.and_eq_true]
    cases hc : c.isDigit with
    | false => simp
    | true =>
      have hzero : '0'.toNat = 48 := rfl
      simp only [Bool.not_true, Bool.false_eq_true, if_false, true_and, hzero]
      by_cases hm : 10 * n + (c.toNat - 48) ≤ maxUnsigned
      · rw [if_pos hm, ih hm]
      · rw [if_neg hm]
        have hle := le_ofDigitChars (10 * n + (c.toNat - 48)) rest
        constructor
        · intro h
          cases h
        · rintro ⟨-, rfl, hk⟩
          omega

/-- The number that a text of nothing but digits is, however many there are. -/
def natural? (text : String) : Option Nat :=
  if text ≠ "" ∧ text.toList.all Char.isDigit then some (Nat.ofDigitChars 10 text.toList 0)
  else none

/-- Such a number is read if it has at most 64 bits. -/
theorem toOption_unsigned (text : String) :
    (unsigned text).toOption = (natural? text).filter (· ≤ maxUnsigned) := by
  have hiff (k : Nat) : unsignedFrom 0 text.toList = .ok k ↔ text.toList.all Char.isDigit ∧
      Nat.ofDigitChars 10 text.toList 0 = k ∧ k ≤ maxUnsigned :=
    unsignedFrom_eq_ok_iff (Nat.zero_le maxUnsigned)
  unfold unsigned natural?
  by_cases hempty : text = ""
  · simp [hempty, Except.toOption]
  · rw [if_neg (by simpa using hempty)]
    cases hread : unsignedFrom 0 text.toList with
    | ok k =>
      obtain ⟨hdigits, rfl, hk⟩ := (hiff k).1 hread
      rw [if_pos ⟨hempty, hdigits⟩, Option.filter_some, if_pos (by simpa using hk)]
      rfl
    | error e =>
      split
      · rename_i hdigits
        have hlarge : ¬ Nat.ofDigitChars 10 text.toList 0 ≤ maxUnsigned := fun hk => by
          simp [(hiff _).2 ⟨hdigits.2, rfl, hk⟩] at hread
        rw [Option.filter_some, if_neg (by simpa using hlarge)]
        rfl
      · rfl

/-- A written number is read back. -/
theorem natural?_toString (n : Nat) : natural? (toString n) = some n := by
  have hne : toString n ≠ "" := by
    simp [Nat.toString_eq_repr]
  have hdigits : (toString n).toList.all Char.isDigit := by
    rw [Nat.toString_eq_repr, Nat.toList_repr, List.all_eq_true]
    exact fun c hc => Nat.isDigit_of_mem_toDigits (by decide) (by decide) hc
  have hvalue : Nat.ofDigitChars 10 (toString n).toList 0 = n := by
    rw [Nat.toString_eq_repr, Nat.toList_repr]
    exact Nat.ofDigitChars_toDigits (by decide) (by decide)
  rw [natural?, if_pos ⟨hne, hdigits⟩, hvalue]

end Decimal

/-! ## The limit of a query -/

namespace RowLimit

open Sql (Expr)

/-- The number in a clause that is a number of digits. -/
def integer? : Option Expr → Option Nat
  | some (.literal (.number digits _)) => Decimal.natural? digits
  | _ => none

/-- The limit that a query has is an integer that the word can hold. -/
theorem current?_eq (limit : Option Expr) :
    current? limit = (integer? limit).filter (· ≤ Decimal.maxUnsigned) := by
  cases limit with
  | none => rfl
  | some e =>
    cases e with
    | literal value =>
      cases value with
      | number digits long => exact Decimal.toOption_unsigned digits
      | _ => rfl
    | _ => rfl

/-- The number of rows that a cap leaves to a query. -/
def capped (most : Nat) (limit : Option Expr) : Nat :=
  match integer? limit with
  | some n => min n most
  | none => most

/-- A capped limit is within the cap. -/
theorem capped_le (most : Nat) (limit : Option Expr) : capped most limit ≤ most := by
  unfold capped
  split
  · exact Nat.min_le_right _ _
  · exact Nat.le_refl most

/-- **A cap of 64 bits is exact**, for numbers of any length. -/
theorem clamp_limit {most : Nat} (hmost : most ≤ Decimal.maxUnsigned) (q : Sql.Query) :
    (clamp most q).limit = some (.number (toString (capped most q.limit))) := by
  have hvalue : (match current? q.limit with
      | some n => min n most
      | none => most) = capped most q.limit := by
    rw [current?_eq, capped]
    cases integer? q.limit with
    | none => rfl
    | some n =>
      rw [Option.filter_some]
      by_cases hn : n ≤ Decimal.maxUnsigned
      · rw [if_pos (by simpa using hn)]
      · have hmin : min n most = most := Nat.min_eq_right (by omega)
        rw [if_neg (by simpa using hn)]
        exact hmin.symm
  rw [← hvalue]
  rfl

end RowLimit

namespace Options

/-- The greatest numbers of rows have at most 64 bits. -/
def HasWordLimits (o : Options) : Prop :=
  ∀ n ∈ o.limit.toList ++ (o.limits.getD []).map Prod.snd, n ≤ Decimal.maxUnsigned

instance (o : Options) : Decidable o.HasWordLimits :=
  inferInstanceAs (Decidable (∀ n ∈ o.limit.toList ++ (o.limits.getD []).map Prod.snd, _))

/-- A query whose first table is `table` gives at most `most` rows. -/
def Caps (o : Options) (table : String) (most : Nat) : Prop :=
  0 < most ∧ ((∃ limits, o.limits = some limits ∧ limits.lookup table = some most) ∨
    o.limits = none ∧ o.limit = some most)

/-- The cap that is found for a table is the one that the options set. -/
theorem maxRows_eq_some_iff {o : Options} {table : String} {most : Nat} :
    o.maxRows table = some most ↔ o.Caps table most := by
  unfold maxRows Caps
  cases o.limits <;> simp [Option.filter_eq_some_iff, and_comm]

/-- A cap fits into a word. -/
theorem HasWordLimits.maxRows_le {o : Options} (h : o.HasWordLimits) {table : String} {most : Nat}
    (hmost : o.maxRows table = some most) : most ≤ Decimal.maxUnsigned := by
  obtain ⟨-, ⟨limits, hlimits, hlookup⟩ | ⟨-, hlimit⟩⟩ := maxRows_eq_some_iff.1 hmost
  · obtain ⟨before, after, hentries, -⟩ := List.lookup_eq_some_iff.1 hlookup
    have hmem : (table, most) ∈ o.limits.getD [] := by simp [hlimits, hentries]
    exact h most (List.mem_append_right _ (List.mem_map_of_mem hmem))
  · exact h most (List.mem_append_left _ (by simp [hlimit]))

/-- The first table is the first that was found, else the default table, else `null`. -/
theorem firstTable_text (o : Options) (t : Tables) :
    (o.firstTable t).text = (t.texts ++ o.source.toList ++ ["null"]).head (by simp) := by
  unfold firstTable tablesOr Tables.texts
  cases t.names with
  | cons n rest => rfl
  | nil => cases o.source <;> simp [nullTable, Sql.Ident.plain]

end Options

/-! ## Filled templates -/

section Filling

variable {o : Options} {r : Resolver} {earlier : List Request} {template : String}

namespace Filled

variable (f : Filled o r earlier template)

/-- With a cap for its first table a query has the lesser of the two limits. -/
theorem limit_of_caps (hwords : o.HasWordLimits) {most : Nat}
    (h : o.Caps (o.firstTable f.tables).text most) :
    f.newQuery.limit = some (.number (toString (RowLimit.capped most f.query.limit))) := by
  have hmost := Options.maxRows_eq_some_iff.2 h
  rw [newQuery, hmost]
  exact RowLimit.clamp_limit (hwords.maxRows_le hmost) f.unlimited

/-- Without a cap for its first table a query keeps its limit. -/
theorem limit_of_not_caps (h : ∀ most, ¬ o.Caps (o.firstTable f.tables).text most) :
    f.newQuery.limit = f.query.limit := by
  cases hmost : o.maxRows (o.firstTable f.tables).text with
  | some most => exact absurd (Options.maxRows_eq_some_iff.1 hmost) (h most)
  | none => simp only [newQuery, hmost, unlimited]

end Filled

/-- **The rows of a filled template are capped by its first table.**  If a greatest number of
rows applies to it, then the written `LIMIT` is a number of digits that is not above it, and is
the smaller one of both if the template has such a number; else the clause stays.  What is
skipped, fetched or taken from the top of the rows stays as it is. -/
theorem fill_caps_rows {text : String} (hwords : o.HasWordLimits)
    (h : (fill o r earlier template).result = .ok text) :
    ∃ f : Filled o r earlier template, text = f.newQuery.sql ∧
      ∃ first rest, f.newSelect.sources = Tables.sources (first :: rest) ∧
        first.text = (f.tables.texts ++ o.source.toList ++ ["null"]).head (by simp) ∧
        (∀ most, o.Caps first.text most → ∃ k ≤ most,
          f.newQuery.limit = some (.number (toString k)) ∧
          RowLimit.integer? f.newQuery.limit = some k ∧
          (∀ n, RowLimit.integer? f.query.limit = some n → k = min n most) ∧
          (RowLimit.integer? f.query.limit = none → k = most)) ∧
        ((∀ most, ¬ o.Caps first.text most) → f.newQuery.limit = f.query.limit) ∧
        f.newQuery.tail = f.query.tail ∧ f.newSelect.modifiers = f.select.modifiers := by
  obtain ⟨f, rfl⟩ := fill_eq_ok_iff.1 h
  have htail : f.newQuery.tail = f.query.tail := by
    rw [f.newQuery_eq]
    rfl
  refine ⟨f, rfl, o.firstTable f.tables, (o.tablesOr f.tables.names).tail, rfl,
    o.firstTable_text f.tables, ?_, f.limit_of_not_caps, htail, rfl⟩
  intro most hmost
  have hlimit := f.limit_of_caps hwords hmost
  refine ⟨RowLimit.capped most f.query.limit, RowLimit.capped_le _ _, hlimit, ?_, ?_, ?_⟩
  · rw [hlimit]
    exact Decimal.natural?_toString _
  · intro n hn
    rw [RowLimit.capped, hn]
  · intro hnone
    rw [RowLimit.capped, hnone]

/-- A limit that no word can hold is capped. -/
theorem fill_long_limit : (fill
    { Options.standard with limit := some 5, limits := some [("orders", 0), ("users", 10)] }
    (.ofFunction fun request =>
      .ok (if request.name = "t" then ["\"users\"", "orders"] else [request.name])) []
    "SELECT a FROM t LIMIT 18446744073709551616 OFFSET 3").result =
      .ok "SELECT a FROM \"users\", orders WHERE true AND true LIMIT 10 OFFSET 3" := by
  refine eq_ok_of_toOption ?_
  decide +kernel

/-- A number of more than 64 bits, for a table with a limit of its own. -/
theorem fill_caps_rows_long :
    let o : Options :=
      { Options.standard with limit := some 5, limits := some [("orders", 0), ("users", 10)] }
    let answers : Request → Answer := fun request =>
      .ok (if request.name = "t" then ["\"users\"", "orders"] else [request.name])
    let template := "SELECT a FROM t LIMIT 18446744073709551616 OFFSET 3"
    let text := "SELECT a FROM \"users\", orders WHERE true AND true LIMIT 10 OFFSET 3"
    o.HasWordLimits ∧ (fill o (.ofFunction answers) [] template).result = .ok text ∧
      ∃ f : Filled o (.ofFunction answers) [] template, text = f.newQuery.sql ∧
        ∃ first rest, f.newSelect.sources = Tables.sources (first :: rest) ∧
          ∀ most, o.Caps first.text most → ∃ k ≤ most,
            f.newQuery.limit = some (.number (toString k)) := by
  intro o answers template text
  have hwords : o.HasWordLimits := by decide
  obtain ⟨f, htext, first, rest, hfrom, -, hcaps, -⟩ := fill_caps_rows hwords fill_long_limit
  refine ⟨hwords, fill_long_limit, f, htext, first, rest, hfrom, fun most hmost => ?_⟩
  obtain ⟨k, hk, hlimit, -⟩ := hcaps most hmost
  exact ⟨k, hk, hlimit⟩

end Filling

end QueryTemplate
