import CimSchema.Model.Multiplicity
import CimSchema.Proofs.Text.Segment
import Mathlib.Data.List.Basic

/-!
# Multiplicities by their bounds

A token gives the least and the greatest number of values, or the greatest number alone. The
greatest number decides: from two up there may be several values. A number that is too large to be
read is taken for no bound of several values, and there the two part.

## Main definitions

* `Multiplicity.Bounds` - the bounds that a token gives, and `Multiplicity.Bounds.token`, how they
  are written.
* `Multiplicity.Bounds.meaning` - the multiplicity of a member with these bounds.
* `Multiplicity.IsLead` - what may stand in front of a token.

## Main results

* `Text.decimal?_toString` - a numeral is read back up to the limit.
* `Multiplicity.bare_append` - what stands in front of a token is taken off.
* `Multiplicity.ofToken_eq_meaning_iff` - a token means what its bounds mean, as long as its number
  can be read.
-/

namespace CimSchema

/-! ### Numerals -/

namespace Text

theorem digitsValue_toDigits (n : Nat) : digitsValue (Nat.toDigits 10 n) = n :=
  Nat.ofDigitChars_toDigits (by decide) (by decide)

theorem toList_toString (n : Nat) : (toString n).toList = Nat.toDigits 10 n := by
  rw [Nat.toString_eq_repr, Nat.toList_repr]

theorem toString_inj {m n : Nat} : toString m = toString n ↔ m = n := by
  constructor
  · intro h
    have hvalue := congrArg (fun s : String => digitsValue s.toList) h
    simpa only [toList_toString, digitsValue_toDigits] using hvalue
  · rintro rfl
    rfl

theorem not_mem_toString {c : Char} (h : c.isDigit = false) (n : Nat) :
    c ∉ (toString n).toList := by
  rw [toList_toString]
  intro hc
  rw [Nat.isDigit_of_mem_toDigits (by decide) (by decide) hc] at h
  cases h

/-- A numeral without leading zeros is read back, if it is not too large. -/
theorem decimal?_toString (limit n : Nat) :
    decimal? limit (toString n) = if n ≤ limit then some n else none := by
  have hne : (Nat.toDigits 10 n).isEmpty = false :=
    List.isEmpty_eq_false_iff.2 Nat.toDigits_ne_nil
  have hall : (Nat.toDigits 10 n).all Char.isDigit = true :=
    List.all_eq_true.2 fun c hc => Nat.isDigit_of_mem_toDigits (by decide) (by decide) hc
  unfold decimal?
  extract_lets digits
  have hdigits : digits = Nat.toDigits 10 n := by
    rw [← toList_toString]
    -- No numeral starts with a plus sign.
    have hplus (cs : List Char) : (toString n).toList ≠ '+' :: cs := by
      intro heq
      exact not_mem_toString (by decide) n (heq ▸ List.mem_cons_self)
    simp only [digits]
  simp only [hdigits, hne, hall, digitsValue_toDigits, Bool.not_false, Bool.true_and,
    decide_eq_true_iff]

end Text

namespace Multiplicity

variable {c : Char}

/-! ### Bounds as they are written -/

/-- The greatest number of values, as a token gives it. -/
inductive UpperBound where
  | number (n : Nat)
  /-- The letter `n`: no bound. -/
  | letter
  /-- The star: no bound. -/
  | star
  deriving DecidableEq, Repr

/-- The bounds that a token gives. The least number of values may be left out. -/
structure Bounds where
  lower : Option Nat
  upper : UpperBound
  deriving DecidableEq, Repr

/-- How an upper bound is written. -/
def UpperBound.text : UpperBound → String
  | number n => toString n
  | letter => "n"
  | star => "*"

namespace Bounds

/-- How bounds are written. -/
def token (b : Bounds) : String :=
  match b.lower with
  | some lower => toString lower ++ ".." ++ b.upper.text
  | none => b.upper.text

/-- The multiplicity of a member with `lower` to `upper` values. -/
def between (lower upper : Nat) : Multiplicity :=
  if 1 < upper then list else if lower = 1 ∧ upper = 1 then single else optional

/-- The multiplicity of a member with these bounds. A number that stands alone is both bounds. -/
def meaning (b : Bounds) : Multiplicity :=
  match b.upper with
  | .number upper => between (b.lower.getD upper) upper
  | .letter | .star => list

/-- Whether the upper bound is one that can be read: a number up to `maxBound`, or no number. -/
def Readable (b : Bounds) : Prop :=
  ∀ n, b.upper = .number n → n ≤ maxBound

theorem not_mem_text (hdigit : c.isDigit = false) (hletter : c ≠ 'n') (hstar : c ≠ '*')
    (upper : UpperBound) : c ∉ upper.text.toList := by
  cases upper with
  | number n => exact Text.not_mem_toString hdigit n
  | letter => exact mt List.mem_singleton.1 hletter
  | star => exact mt List.mem_singleton.1 hstar

theorem not_mem_token (hdigit : c.isDigit = false) (hletter : c ≠ 'n') (hstar : c ≠ '*')
    (hpoint : c ≠ '.') (b : Bounds) : c ∉ b.token.toList := by
  have htext := not_mem_text hdigit hletter hstar b.upper
  rw [token]
  cases b.lower with
  | none => exact htext
  | some lower =>
    have hpoints : c ∉ "..".toList := by simp [hpoint]
    simp only [String.toList_append, List.mem_append, not_or]
    exact ⟨⟨Text.not_mem_toString hdigit lower, hpoints⟩, htext⟩

/-- The upper bound is what follows the two points, or the whole token. -/
theorem afterLast_token (b : Bounds) : Text.afterLast ".." b.token = b.upper.text := by
  have hpoint : '.' ∉ b.upper.text.toList := not_mem_text (by decide) (by decide) (by decide) _
  rw [token]
  cases b.lower with
  | none => exact Text.afterLast_of_not_infix fun h => hpoint (h.subset List.mem_cons_self)
  | some lower =>
    refine Text.afterLast_append (by decide) (fun h => ?_) _
    -- Two points do not fit into one point and a bound.
    have hcount := h.sublist.count_le '.'
    rw [List.count_append, List.count_eq_zero.2 hpoint] at hcount
    exact absurd hcount (by decide)

theorem token_eq_one_iff {lower : Option Nat} {upper : Nat} :
    (token ⟨lower, .number upper⟩ = "1" ∨ token ⟨lower, .number upper⟩ = "1..1") ↔
      lower.getD upper = 1 ∧ upper = 1 := by
  constructor
  · intro h
    -- The upper bound is the same, and then so is what stands in front of it.
    have hupper : upper = 1 := by
      rw [← Text.toString_inj]
      rcases h with h | h
      · exact (afterLast_token ⟨lower, .number upper⟩).symm.trans (h ▸ by decide)
      · exact (afterLast_token ⟨lower, .number upper⟩).symm.trans (h ▸ by decide)
    subst hupper
    refine ⟨?_, rfl⟩
    cases lower with
    | none => rfl
    | some lower =>
      rcases h with h | h
      · have hpoint : '.' ∈ (token ⟨some lower, .number 1⟩).toList := by simp [token]
        rw [h] at hpoint
        exact absurd hpoint (by decide)
      · have hlower : toString lower ++ ".." ++ "1" = toString 1 ++ ".." ++ "1" := h
        rw [String.append_left_inj, String.append_left_inj, Text.toString_inj] at hlower
        exact hlower
  · rintro ⟨hlower, rfl⟩
    cases lower with
    | none => exact .inl rfl
    | some lower =>
      obtain rfl : lower = 1 := hlower
      exact .inr (by decide)

end Bounds

/-! ### What stands in front of a token -/

variable {lead raw token bound : String}

/-- What may stand in front of a token: an identifier up to its `#` or nothing, and then `M:` or
nothing. -/
def IsLead (lead : String) : Prop :=
  ∃ before mark, lead = before ++ mark ∧ (before = "" ∨ ∃ iri, before = iri ++ "#") ∧
    (mark = "" ∨ mark = "M:")

/-- A token without what stands in front of it. -/
def bare (raw : String) : String :=
  (Text.stripStart? "M:" (Text.afterLast "#" raw)).getD (Text.afterLast "#" raw)

/-- What stands in front of a token is taken off. -/
theorem bare_append (hlead : IsLead lead) (hhash : '#' ∉ token.toList)
    (hmark : 'M' ∉ token.toList) : bare (lead ++ token) = token := by
  obtain ⟨before, mark, rfl, hbefore, hmarks⟩ := hlead
  have hnone : '#' ∉ (mark ++ token).toList := by
    rcases hmarks with rfl | rfl <;> simpa using hhash
  have hfragment : Text.afterLast "#" (before ++ mark ++ token) = mark ++ token := by
    have hinfix : ¬ "#".toList <:+: (mark ++ token).toList :=
      mt (List.singleton_infix_iff '#' _).1 hnone
    rw [String.append_assoc]
    rcases hbefore with rfl | ⟨iri, rfl⟩
    · rw [String.empty_append]
      exact Text.afterLast_of_not_infix hinfix
    · exact Text.afterLast_append (by decide) hinfix iri
  rw [bare, hfragment]
  rcases hmarks with rfl | rfl
  · -- Without the mark, nothing is taken off.
    rw [String.empty_append]
    cases hstrip : Text.stripStart? "M:" token with
    | none => rfl
    | some rest =>
      refine absurd ?_ hmark
      rw [Text.stripStart?_eq_some hstrip, String.toList_append]
      exact List.mem_append_left _ (by decide)
  · rw [Text.stripStart?_append, Option.getD_some]

/-! ### Meaning -/

theorem ofToken_eq (htoken : bare raw = token) (hbound : Text.afterLast ".." token = bound) :
    ofToken (some raw) =
      if bound = "n" ∨ bound = "*" then list
      else if token = "1" ∨ token = "1..1" then single
      else
        (Text.decimal? maxBound bound).elim optional fun n => if 1 < n then list else optional := by
  subst htoken hbound
  rw [ofToken, bare]
  cases Text.decimal? maxBound _ <;> rfl

/-- A number as the upper bound, up to the greatest one that is read. -/
theorem ofToken_of_number {lower : Option Nat} {upper : Nat}
    (htoken : bare raw = Bounds.token ⟨lower, .number upper⟩) :
    ofToken (some raw) =
      if upper ≤ maxBound then Bounds.between (lower.getD upper) upper else optional := by
  have hnumber : ¬ (toString upper = "n" ∨ toString upper = "*") := by
    rintro (heq | heq)
    · exact Text.not_mem_toString (c := 'n') (by decide) upper (heq ▸ List.mem_cons_self)
    · exact Text.not_mem_toString (c := '*') (by decide) upper (heq ▸ List.mem_cons_self)
  rw [ofToken_eq htoken (Bounds.afterLast_token _), UpperBound.text, if_neg hnumber,
    Text.decimal?_toString, Bounds.between]
  simp only [Bounds.token_eq_one_iff]
  by_cases hread : upper ≤ maxBound
  · rw [if_pos hread, if_pos hread, Option.elim_some]
    by_cases hmany : 1 < upper
    · rw [if_pos hmany, if_pos hmany]
      exact if_neg fun hones => hmany.ne' hones.2
    · rw [if_neg hmany, if_neg hmany]
  · have hmax : 1 ≤ maxBound := by decide
    rw [if_neg hread, if_neg hread, Option.elim_none]
    exact if_neg fun hones => hread (hones.2.trans_le hmax)

/-- **Multiplicities.** Whatever stands in front of it, a token means what its bounds mean, as long
as its upper bound is no number beyond the greatest one that is read. -/
theorem ofToken_eq_meaning_iff (h : IsLead lead) (b : Bounds) :
    ofToken (some (lead ++ b.token)) = b.meaning ↔ b.Readable := by
  have htoken : bare (lead ++ b.token) = b.token :=
    bare_append h (b.not_mem_token (by decide) (by decide) (by decide) (by decide))
      (b.not_mem_token (by decide) (by decide) (by decide) (by decide))
  obtain ⟨lower, upper⟩ := b
  cases upper with
  | letter =>
    rw [ofToken_eq htoken (Bounds.afterLast_token _)]
    exact iff_of_true (if_pos (.inl rfl)) fun n hn => by cases hn
  | star =>
    rw [ofToken_eq htoken (Bounds.afterLast_token _)]
    exact iff_of_true (if_pos (.inr rfl)) fun n hn => by cases hn
  | number upper =>
    have hreadable : Bounds.Readable ⟨lower, .number upper⟩ ↔ upper ≤ maxBound := by
      simp [Bounds.Readable]
    rw [ofToken_of_number htoken, hreadable, Bounds.meaning]
    dsimp only
    by_cases hread : upper ≤ maxBound
    · exact iff_of_true (if_pos hread) hread
    · -- A larger number should mean several values.
      have hmany : Bounds.between (lower.getD upper) upper = list :=
        if_pos (Nat.lt_trans (by decide) (Nat.lt_of_not_le hread))
      rw [if_neg hread, hmany]
      exact iff_of_false (by decide) hread

/-- Seven to nine values, behind the identifier of a vocabulary. -/
theorem ofToken_sevenToNine :
    IsLead "http://iec.ch/TC57/1999/rdf-schema-extensions-19990926#M:" ∧
      (ofToken (some ("http://iec.ch/TC57/1999/rdf-schema-extensions-19990926#M:" ++
          Bounds.token ⟨some 7, .number 9⟩)) = Bounds.meaning ⟨some 7, .number 9⟩ ↔
        Bounds.Readable ⟨some 7, .number 9⟩) ∧
      Bounds.token ⟨some 7, .number 9⟩ = "7..9" ∧ Bounds.meaning ⟨some 7, .number 9⟩ = list := by
  have hlead : IsLead "http://iec.ch/TC57/1999/rdf-schema-extensions-19990926#M:" :=
    ⟨"http://iec.ch/TC57/1999/rdf-schema-extensions-19990926" ++ "#", "M:", rfl,
      .inr ⟨_, rfl⟩, .inr rfl⟩
  exact ⟨hlead, ofToken_eq_meaning_iff hlead _, by decide +kernel, by decide⟩

/-- The first number that is not read is taken for no bound of several values. -/
theorem ofToken_beyond_maxBound :
    IsLead "M:" ∧ Bounds.token ⟨some 0, .number 4294967296⟩ = "0..4294967296" ∧
      Bounds.meaning ⟨some 0, .number 4294967296⟩ = list ∧
      ofToken (some "M:0..4294967296") = optional := by
  have hlead : IsLead "M:" := ⟨"", "M:", rfl, .inl rfl, .inr rfl⟩
  exact ⟨hlead, by decide +kernel, by decide, by decide +kernel⟩

end Multiplicity

end CimSchema
