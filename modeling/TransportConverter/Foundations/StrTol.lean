import Mathlib

/-! `strtol` in base 10, on the octets from a pointer to the end of its array. -/

namespace TransportConverter.Foundations.StrTol

def isSpace (c : Char) : Bool := c = ' ' || (9 ≤ c.toNat && c.toNat ≤ 13)

def sign : List Char → Bool × List Char
  | '-' :: s => (true, s)
  | '+' :: s => (false, s)
  | s => (false, s)

def longOf (negative : Bool) (n : ℕ) : ℤ := if negative then max (-n) (-2 ^ 63) else min n (2 ^ 63 - 1)

/-- What is read behind the array is undefined. -/
def finish (s : List Char) (negative : Bool) (u : List Char) : Option (ℤ × List Char) :=
  match u.dropWhile Char.isDigit with
  | [] => none
  | c :: rest =>
    some (if u.takeWhile Char.isDigit = [] then (0, s)
      else (longOf negative (Nat.ofDigitChars 10 (u.takeWhile Char.isDigit) 0), c :: rest))

def strtol (s : List Char) : Option (ℤ × List Char) :=
  finish s (sign (s.dropWhile isSpace)).1 (sign (s.dropWhile isSpace)).2

variable {s t u ds rest more : List Char} {c : Char} {n : ℤ} {negative : Bool}

lemma sign_plain (hminus : c ≠ '-') (hplus : c ≠ '+') : sign (c :: s) = (false, c :: s) := by
  unfold sign
  split
  · exact absurd (List.cons.inj ‹_›).1 hminus
  · exact absurd (List.cons.inj ‹_›).1 hplus
  · rfl

lemma sign_append (ht : t ≠ []) : sign (t ++ more) = ((sign t).1, (sign t).2 ++ more) := by
  obtain ⟨c, t, rfl⟩ := List.exists_cons_of_ne_nil ht
  by_cases hminus : c = '-'
  · subst hminus
    rfl
  by_cases hplus : c = '+'
  · subst hplus
    rfl
  rw [List.cons_append, sign_plain hminus hplus, sign_plain hminus hplus, List.cons_append]

lemma dropWhile_append_of_ne_nil {p : Char → Bool} (h : s.dropWhile p ≠ []) :
    (s ++ more).dropWhile p = s.dropWhile p ++ more := by
  rw [List.dropWhile_append, if_neg (by simpa using h)]

lemma finish_none : finish s negative u = none ↔ ∀ c ∈ u, c.isDigit = true := by
  rw [← List.dropWhile_eq_nil_iff, finish]
  cases u.dropWhile Char.isDigit with
  | nil => simp
  | cons c rest => simp

lemma finish_digits (hds : ∀ d ∈ ds, d.isDigit = true) (hc : c.isDigit = false) :
    finish s negative (ds ++ c :: rest) =
      some (if ds = [] then (0, s) else (longOf negative (Nat.ofDigitChars 10 ds 0), c :: rest)) := by
  have hstop : ¬ c.isDigit = true := by
    rw [hc]
    exact Bool.false_ne_true
  rw [finish, List.dropWhile_append_of_pos hds, List.takeWhile_append_of_pos hds,
    List.dropWhile_cons_of_neg hstop, List.takeWhile_cons_of_neg hstop, List.append_nil]

lemma finish_append (h : finish s negative u = some (n, rest)) :
    finish (s ++ more) negative (u ++ more) = some (n, rest ++ more) := by
  cases hdrop : u.dropWhile Char.isDigit with
  | nil =>
    rw [finish, hdrop] at h
    cases h
  | cons c left =>
    have hwhole := List.takeWhile_append_dropWhile (p := Char.isDigit) (l := u)
    have hc : c.isDigit = false := by
      have hstop := List.head?_dropWhile_not Char.isDigit u
      rw [hdrop] at hstop
      exact hstop
    have hds : ∀ d ∈ u.takeWhile Char.isDigit, d.isDigit = true := fun d hd => List.mem_takeWhile_imp hd
    rw [hdrop] at hwhole
    rw [← hwhole, finish_digits hds hc] at h
    rw [← hwhole, List.append_assoc, List.cons_append, finish_digits hds hc]
    split_ifs at h ⊢ with hnil
    · cases h
      rfl
    · cases h
      rfl

/-- A text that is all digits behind its spaces and its sign is read on, into whatever follows. -/
lemma strtol_runs_on (h : strtol s = none) :
    ∃ negative ds, (∀ d ∈ ds, d.isDigit = true) ∧ ∀ c more, isSpace c = false → c ≠ '-' → c ≠ '+' →
      strtol (s ++ c :: more) = finish (s ++ c :: more) negative (ds ++ c :: more) := by
  refine ⟨(sign (s.dropWhile isSpace)).1, (sign (s.dropWhile isSpace)).2, finish_none.mp h, ?_⟩
  intro c more hspace hminus hplus
  rw [strtol]
  by_cases ht : s.dropWhile isSpace = []
  · have hspaces := List.dropWhile_eq_nil_iff.mp ht
    have hrest : (s ++ c :: more).dropWhile isSpace = c :: more := by
      rw [List.dropWhile_append_of_pos hspaces,
        List.dropWhile_cons_of_neg (by rw [hspace]; exact Bool.false_ne_true)]
    rw [hrest, sign_plain hminus hplus, ht]
    rfl
  · rw [dropWhile_append_of_ne_nil ht, sign_append ht]

lemma strtol_append (h : strtol s = some (n, rest)) : strtol (s ++ more) = some (n, rest ++ more) := by
  have ht : s.dropWhile isSpace ≠ [] := by
    intro hnil
    rw [strtol, hnil] at h
    cases h
  rw [strtol, dropWhile_append_of_ne_nil ht, sign_append ht]
  exact finish_append h

lemma strtol_stops (h : strtol s = some (n, rest)) : rest ≠ [] := by
  rw [strtol, finish] at h
  cases hdrop : (sign (s.dropWhile isSpace)).2.dropWhile Char.isDigit with
  | nil =>
    rw [hdrop] at h
    cases h
  | cons c left =>
    rw [hdrop] at h
    dsimp only at h
    split_ifs at h
    · cases h
      rintro rfl
      cases hdrop
    · cases h
      exact List.cons_ne_nil c left

lemma digit_plain (h : c.isDigit = true) : isSpace c = false ∧ c ≠ '-' ∧ c ≠ '+' := by
  simp only [Char.isDigit, Bool.and_eq_true, decide_eq_true_eq] at h
  have hle : 48 ≤ c.toNat := h.1
  refine ⟨?_, ?_, ?_⟩
  · rw [isSpace, Bool.or_eq_false_iff, Bool.and_eq_false_iff, decide_eq_false_iff_not, decide_eq_false_iff_not,
      decide_eq_false_iff_not]
    refine ⟨?_, Or.inr (by omega)⟩
    rintro rfl
    exact absurd hle (by decide)
  · rintro rfl
    exact absurd hle (by decide)
  · rintro rfl
    exact absurd hle (by decide)

lemma strtol_decimal {k : ℕ} (hc : c.isDigit = false) :
    strtol (Nat.toDigits 10 k ++ c :: rest) = some (longOf false k, c :: rest) := by
  have hdigits : ∀ d ∈ Nat.toDigits 10 k, d.isDigit = true :=
    fun d hd => Nat.isDigit_of_mem_toDigits (by decide) (by decide) hd
  obtain ⟨d, ds, hds⟩ := List.exists_cons_of_ne_nil (Nat.toDigits_ne_nil (n := k) (b := 10))
  have hd : d.isDigit = true := hdigits d (by rw [hds]; exact List.mem_cons_self)
  obtain ⟨hspace, hminus, hplus⟩ := digit_plain hd
  have hskip : ¬ isSpace d = true := by
    rw [hspace]
    exact Bool.false_ne_true
  have hread : finish (Nat.toDigits 10 k ++ c :: rest) false (Nat.toDigits 10 k ++ c :: rest) =
      some (longOf false k, c :: rest) := by
    rw [finish_digits hdigits hc, if_neg Nat.toDigits_ne_nil, Nat.ofDigitChars_ten_toDigits]
  rw [hds, List.cons_append] at hread ⊢
  rwa [strtol, List.dropWhile_cons_of_neg hskip, sign_plain hminus hplus]

end TransportConverter.Foundations.StrTol
