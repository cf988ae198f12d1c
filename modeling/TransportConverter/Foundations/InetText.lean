import TransportConverter.Foundations.Memory

/-! The texts of Internet addresses: how `inet_ntop` of the C library prints those of version 6, and
what `inet_aton` reads as one of version 4. -/

namespace TransportConverter.Foundations.InetText

open Memory

section Print

structure ZeroRun where
  base : ℕ
  len : ℕ
  deriving DecidableEq

structure Scan where
  best : Option ZeroRun
  cur : Option ZeroRun
  deriving DecidableEq

/-- The first of the longest runs wins. -/
def Scan.flush (s : Scan) : Scan :=
  match s.best, s.cur with
  | _, none => s
  | none, some cur => ⟨some cur, none⟩
  | some best, some cur => ⟨some (if best.len < cur.len then cur else best), none⟩

def Scan.next (s : Scan) (i : ℕ) (zero : Bool) : Scan :=
  match zero, s.cur with
  | false, _ => s.flush
  | true, none => { s with cur := some ⟨i, 1⟩ }
  | true, some cur => { s with cur := some { cur with len := cur.len + 1 } }

def scanZeros : ℕ → List Bool → Scan → Scan
  | _, [], s => s.flush
  | i, zero :: zeros, s => scanZeros (i + 1) zeros (s.next i zero)

def bestRun (zeros : List Bool) : Option ZeroRun :=
  (scanZeros 0 zeros ⟨none, none⟩).best.filter fun run => 2 ≤ run.len

def covers (run : Option ZeroRun) (i : ℕ) : Bool := run.any fun r => r.base ≤ i && i < r.base + r.len
def starts (run : Option ZeroRun) (i : ℕ) : Bool := run.any fun r => r.base = i
def trails (run : Option ZeroRun) : Bool := run.any fun r => r.base + r.len = 8

def decText (n : ℕ) : List Char := Nat.toDigits 10 n
def hexText (n : ℕ) : List Char := Nat.toDigits 16 n

def quadText (a b c d : UInt8) : List Char :=
  decText a.toNat ++ '.' :: decText b.toNat ++ '.' :: decText c.toNat ++ '.' :: decText d.toNat

/-- What is printed from the `i`-th word on; `quad` is what takes the place of the last two words. -/
def printFrom (run : Option ZeroRun) (quad : Option (List Char)) : ℕ → List ℕ → List Char
  | _, [] => if trails run then [':'] else []
  | i, w :: rest =>
    if covers run i then (if starts run i then [':'] else []) ++ printFrom run quad (i + 1) rest
    else
      (if i = 0 then [] else [':']) ++
        match quad with
        | none => hexText w ++ printFrom run quad (i + 1) rest
        | some text =>
          if i = 6 then text ++ if trails run then [':'] else []
          else hexText w ++ printFrom run quad (i + 1) rest

def word (addr : Octets 16) (i : ℕ) : ℕ :=
  256 * (addr.toList.getD (2 * i) 0).toNat + (addr.toList.getD (2 * i + 1) 0).toNat

def words (addr : Octets 16) : List ℕ := (List.range 8).map (word addr)

def runOf (addr : Octets 16) : Option ZeroRun := bestRun ((words addr).map fun w => decide (w = 0))

def quadOf (addr : Octets 16) : Option (List Char) :=
  if runOf addr = some ⟨0, 6⟩ ∨ (runOf addr = some ⟨0, 5⟩ ∧ word addr 5 = 0xffff) then
    some (quadText (addr.toList.getD 12 0) (addr.toList.getD 13 0) (addr.toList.getD 14 0)
      (addr.toList.getD 15 0))
  else none

def inetNtop6 (addr : Octets 16) : List Char := printFrom (runOf addr) (quadOf addr) 0 (words addr)

def lastPart (addr : Octets 16) : List Char :=
  if trails (runOf addr) then [] else (quadOf addr).getD (hexText (word addr 7))

section Runs

variable (z₀ z₁ z₂ z₃ z₄ z₅ z₆ z₇ : Bool)

lemma bestRun_six_iff : bestRun [z₀, z₁, z₂, z₃, z₄, z₅, z₆, z₇] = some ⟨0, 6⟩ ↔
    (z₀ && z₁ && z₂ && z₃ && z₄ && z₅ && !z₆) = true := by
  revert z₀ z₁ z₂ z₃ z₄ z₅ z₆ z₇
  decide +kernel

lemma bestRun_five_iff : bestRun [z₀, z₁, z₂, z₃, z₄, z₅, z₆, z₇] = some ⟨0, 5⟩ ↔
    (z₀ && z₁ && z₂ && z₃ && z₄ && !z₅) = true := by
  revert z₀ z₁ z₂ z₃ z₄ z₅ z₆ z₇
  decide +kernel

lemma trails_bestRun : trails (bestRun [z₀, z₁, z₂, z₃, z₄, z₅, z₆, z₇]) = true → z₇ = true := by
  revert z₀ z₁ z₂ z₃ z₄ z₅ z₆ z₇
  decide +kernel

lemma trails_of_covers : covers (bestRun [z₀, z₁, z₂, z₃, z₄, z₅, z₆, z₇]) 7 = true →
    trails (bestRun [z₀, z₁, z₂, z₃, z₄, z₅, z₆, z₇]) = true := by
  revert z₀ z₁ z₂ z₃ z₄ z₅ z₆ z₇
  decide +kernel

end Runs

section Last

variable {run : Option ZeroRun} {quad : Option (List Char)} {i w : ℕ} {rest : List ℕ} {addr : Octets 16}

lemma printFrom_next (hi : quad = none ∨ i ≠ 6) : ∃ text,
    printFrom run quad i (w :: rest) = text ++ printFrom run quad (i + 1) rest := by
  by_cases hcovers : covers run i = true
  · cases quad with
    | none => exact ⟨_, by rw [printFrom, if_pos hcovers]⟩
    | some text => exact ⟨_, by rw [printFrom, if_pos hcovers]⟩
  · cases quad with
    | none => exact ⟨_, by rw [printFrom, if_neg hcovers, ← List.append_assoc]⟩
    | some text =>
      exact ⟨_, by rw [printFrom, if_neg hcovers, if_neg (hi.resolve_left nofun), ← List.append_assoc]⟩

lemma printFrom_trails (h : trails run = true) (hquad : quad = none) :
    ∃ text, printFrom run quad i rest = text ++ [':'] := by
  induction rest generalizing i with
  | nil =>
    refine ⟨[], ?_⟩
    rw [printFrom, if_pos h]
    rfl
  | cons w rest ih =>
    obtain ⟨text, htext⟩ : ∃ text, printFrom run quad i (w :: rest) = _ := printFrom_next (Or.inl hquad)
    obtain ⟨behind, hbehind⟩ := ih (i := i + 1)
    exact ⟨text ++ behind, by rw [htext, hbehind, List.append_assoc]⟩

lemma printFrom_six {w₀ w₁ w₂ w₃ w₄ w₅ : ℕ} : ∃ text,
    printFrom run quad 0 (w₀ :: w₁ :: w₂ :: w₃ :: w₄ :: w₅ :: rest) = text ++ printFrom run quad 6 rest := by
  have hnext : ∀ i ≠ 6, ∀ w rest, ∃ text,
      printFrom run quad i (w :: rest) = text ++ printFrom run quad (i + 1) rest :=
    fun i hi w rest => printFrom_next (Or.inr hi)
  obtain ⟨t₀, h₀⟩ := hnext 0 (by decide) w₀ (w₁ :: w₂ :: w₃ :: w₄ :: w₅ :: rest)
  obtain ⟨t₁, h₁⟩ := hnext 1 (by decide) w₁ (w₂ :: w₃ :: w₄ :: w₅ :: rest)
  obtain ⟨t₂, h₂⟩ := hnext 2 (by decide) w₂ (w₃ :: w₄ :: w₅ :: rest)
  obtain ⟨t₃, h₃⟩ := hnext 3 (by decide) w₃ (w₄ :: w₅ :: rest)
  obtain ⟨t₄, h₄⟩ := hnext 4 (by decide) w₄ (w₅ :: rest)
  obtain ⟨t₅, h₅⟩ := hnext 5 (by decide) w₅ rest
  refine ⟨t₀ ++ t₁ ++ t₂ ++ t₃ ++ t₄ ++ t₅, ?_⟩
  rw [h₀, h₁, h₂, h₃, h₄, h₅]
  simp only [List.append_assoc]

lemma printFrom_quad {text : List Char} (hcovers : covers run 6 = false) (htrails : trails run = false) :
    printFrom run (some text) 6 (w :: rest) = ':' :: text := by
  simp [printFrom, hcovers, htrails]

lemma printFrom_last (hcovers : covers run 7 = false) (htrails : trails run = false) :
    printFrom run none 7 [w] = ':' :: hexText w := by
  simp [printFrom, hcovers, htrails]

lemma words_eq : words addr = [word addr 0, word addr 1, word addr 2, word addr 3, word addr 4,
    word addr 5, word addr 6, word addr 7] := rfl

lemma runOf_six_iff : runOf addr = some ⟨0, 6⟩ ↔ (∀ i < 6, word addr i = 0) ∧ word addr 6 ≠ 0 := by
  rw [runOf, words_eq]
  refine (bestRun_six_iff ..).trans ?_
  simp only [Nat.forall_lt_succ_right, Nat.not_lt_zero, false_implies, implies_true, true_and,
    Bool.and_eq_true, decide_eq_true_eq, Bool.not_eq_true', decide_eq_false_iff_not, ne_eq]

lemma runOf_five_iff : runOf addr = some ⟨0, 5⟩ ↔ (∀ i < 5, word addr i = 0) ∧ word addr 5 ≠ 0 := by
  rw [runOf, words_eq]
  refine (bestRun_five_iff ..).trans ?_
  simp only [Nat.forall_lt_succ_right, Nat.not_lt_zero, false_implies, implies_true, true_and,
    Bool.and_eq_true, decide_eq_true_eq, Bool.not_eq_true', decide_eq_false_iff_not, ne_eq]

lemma word_of_trails (h : trails (runOf addr) = true) : word addr 7 = 0 :=
  of_decide_eq_true (trails_bestRun _ _ _ _ _ _ _ _ h)

lemma covers_last (h : trails (runOf addr) = false) : covers (runOf addr) 7 = false := by
  rw [Bool.eq_false_iff] at h ⊢
  exact fun hcovers => h (trails_of_covers _ _ _ _ _ _ _ _ hcovers)

lemma quadOf_eq_none (h : trails (runOf addr) = true) : quadOf addr = none := by
  apply if_neg
  rintro (hrun | ⟨hrun, -⟩) <;> rw [hrun] at h <;> exact absurd h (by decide)

lemma covers_of_quad {text : List Char} (h : quadOf addr = some text) :
    covers (runOf addr) 6 = false ∧ trails (runOf addr) = false := by
  have hrun : runOf addr = some ⟨0, 6⟩ ∨ (runOf addr = some ⟨0, 5⟩ ∧ word addr 5 = 0xffff) := by
    by_contra hnot
    rw [quadOf, if_neg hnot] at h
    cases h
  cases hrun with
  | inl hsix =>
    rw [hsix]
    exact ⟨rfl, rfl⟩
  | inr hfive =>
    rw [hfive.1]
    exact ⟨rfl, rfl⟩

lemma inetNtop6_ends : ∃ text, inetNtop6 addr = text ++ ':' :: lastPart addr := by
  rw [inetNtop6, words_eq]
  obtain ⟨text, hsix⟩ : ∃ text, printFrom (runOf addr) (quadOf addr) 0 _ = _ := printFrom_six
  rw [hsix]
  cases htrails : trails (runOf addr) with
  | true =>
    have hlast : lastPart addr = [] := if_pos htrails
    obtain ⟨behind, hbehind⟩ : ∃ behind, printFrom (runOf addr) (quadOf addr) 6 _ = _ :=
      printFrom_trails htrails (quadOf_eq_none htrails)
    rw [hbehind, hlast]
    exact ⟨text ++ behind, (List.append_assoc ..).symm⟩
  | false =>
    have hlast : lastPart addr = (quadOf addr).getD (hexText (word addr 7)) :=
      if_neg (Bool.eq_false_iff.mp htrails)
    cases hquad : quadOf addr with
    | none =>
      obtain ⟨behind, hbehind⟩ : ∃ behind,
          printFrom (runOf addr) (quadOf addr) 6 [word addr 6, word addr 7] =
            behind ++ printFrom (runOf addr) (quadOf addr) 7 [word addr 7] :=
        printFrom_next (Or.inl hquad)
      rw [hquad] at hlast hbehind
      rw [hbehind, printFrom_last (covers_last htrails) htrails, hlast]
      exact ⟨text ++ behind, (List.append_assoc ..).symm⟩
    | some quad =>
      rw [hquad] at hlast
      rw [printFrom_quad (covers_of_quad hquad).1 htrails, hlast]
      exact ⟨text, rfl⟩

example : inetNtop6 ⟨[0x20, 0x01, 0x0d, 0xb8, 0, 0, 0, 0, 0, 0, 0, 0, 0xab, 0xcd, 0, 1], rfl⟩ =
    "2001:db8::abcd:1".toList := by
  decide +kernel

end Last

end Print

section Read

def digitValue (c : Char) : ℕ :=
  if c.isDigit then c.toNat - '0'.toNat
  else if 'a' ≤ c ∧ c ≤ 'f' then c.toNat - 'a'.toNat + 10
  else if 'A' ≤ c ∧ c ≤ 'F' then c.toNat - 'A'.toNat + 10
  else 16

def digitsFrom (b : ℕ) : ℕ → List Char → ℕ × List Char
  | n, [] => (n, [])
  | n, c :: s => if digitValue c < b then digitsFrom b (b * n + digitValue c) s else (n, c :: s)

def strtoul : List Char → ℕ × List Char
  | '0' :: x :: c :: s =>
    if (x = 'x' ∨ x = 'X') ∧ digitValue c < 16 then digitsFrom 16 0 (c :: s)
    else digitsFrom 8 0 (x :: c :: s)
  | '0' :: s => digitsFrom 8 0 s
  | s => digitsFrom 10 0 s

def beginsWithDigit : List Char → Bool
  | [] => false
  | c :: _ => c.isDigit

/-- The parts from one on that at most `dots` more may follow; the last fills the octets left. -/
def atonFrom (dots high : ℕ) (s : List Char) : Option ℕ :=
  if beginsWithDigit s then
    match strtoul s with
    | (n, []) => if n < 256 ^ (dots + 1) then some (256 ^ (dots + 1) * high + n) else none
    | (n, c :: rest) =>
      match dots with
      | 0 => none
      | dots + 1 => if c = '.' ∧ n < 256 then atonFrom dots (256 * high + n) rest else none
  else none

def octetsOf (n : ℕ) : Octets 4 :=
  ⟨[UInt8.ofNat (n / 256 ^ 3), UInt8.ofNat (n / 256 ^ 2), UInt8.ofNat (n / 256), UInt8.ofNat n], rfl⟩

def inetAton (s : List Char) : Option (Octets 4) := (atonFrom 3 0 s).map octetsOf

variable {c : Char} {s l rest : List Char} {b d m n : ℕ}

lemma digitValue_of_isDigit (h : c.isDigit) : digitValue c = c.toNat - '0'.toNat := if_pos h

lemma digitValue_lt_ten : digitValue c < 10 ↔ c.isDigit = true := by
  constructor
  · intro h
    by_contra hdigit
    rw [digitValue, if_neg hdigit] at h
    split_ifs at h <;> omega
  · intro h
    rw [digitValue_of_isDigit h]
    simp only [Char.isDigit, Bool.and_eq_true, decide_eq_true_eq] at h
    have hle : c.toNat ≤ 57 := h.2
    show c.toNat - 48 < 10
    omega

lemma digitsFrom_digits (hl : ∀ c ∈ l, c.isDigit = true) (hrest : ¬ beginsWithDigit rest) :
    digitsFrom 10 m (l ++ rest) = (Nat.ofDigitChars 10 l m, rest) := by
  induction l generalizing m with
  | nil =>
    cases rest with
    | nil => rfl
    | cons c rest =>
      have hc : ¬ digitValue c < 10 := fun h => hrest (digitValue_lt_ten.mp h)
      exact if_neg hc
  | cons c l ih =>
    have hc : c.isDigit = true := hl c List.mem_cons_self
    rw [List.cons_append, digitsFrom, if_pos (digitValue_lt_ten.mpr hc),
      ih fun c' hc' => hl c' (List.mem_cons_of_mem c hc'), digitValue_of_isDigit hc,
      Nat.ofDigitChars_cons]

lemma digitsFrom_stops (hl : ∃ c ∈ l, c.isDigit = false) :
    ∃ n c rest, digitsFrom 10 m l = (n, c :: rest) ∧ c ∈ l := by
  induction l generalizing m with
  | nil => obtain ⟨c, hc, -⟩ := hl; cases hc
  | cons c l ih =>
    by_cases hdigit : c.isDigit = true
    · have hrest : ∃ c' ∈ l, c'.isDigit = false := by
        obtain ⟨c', hmem, hc'⟩ := hl
        cases List.mem_cons.mp hmem with
        | inl heq =>
          rw [heq, hdigit] at hc'
          cases hc'
        | inr htail => exact ⟨c', htail, hc'⟩
      obtain ⟨n, c', rest, hread, hmem⟩ := ih (m := 10 * m + digitValue c) hrest
      refine ⟨n, c', rest, ?_, List.mem_cons_of_mem c hmem⟩
      rw [digitsFrom, if_pos (digitValue_lt_ten.mpr hdigit), hread]
    · exact ⟨m, c, l, if_neg fun h => hdigit (digitValue_lt_ten.mp h), List.mem_cons_self⟩

lemma strtoul_of_head (h : s.head? ≠ some '0') : strtoul s = digitsFrom 10 0 s := by
  unfold strtoul
  split
  · exact absurd rfl h
  · exact absurd rfl h
  · rfl

structure Plain (l : List Char) : Prop where
  digits : ∀ c ∈ l, c.isDigit = true
  nonempty : l ≠ []
  head : l = ['0'] ∨ l.head? ≠ some '0'

lemma Plain.begins (h : Plain l) (rest : List Char) : beginsWithDigit (l ++ rest) = true := by
  cases l with
  | nil => exact absurd rfl h.nonempty
  | cons c l => exact h.digits c List.mem_cons_self

lemma strtoul_plain (h : Plain l) (hrest : rest = [] ∨ ∃ s, rest = '.' :: s) :
    strtoul (l ++ rest) = (Nat.ofDigitChars 10 l 0, rest) := by
  have hends : ¬ beginsWithDigit rest := by
    rcases hrest with rfl | ⟨s, rfl⟩ <;> exact Bool.false_ne_true
  cases h.head with
  | inl hzero =>
    subst hzero
    rcases hrest with rfl | ⟨s, rfl⟩
    · rfl
    · cases s <;> rfl
  | inr hhead =>
    rw [strtoul_of_head, digitsFrom_digits h.digits hends]
    rwa [List.head?_append_of_ne_nil _ h.nonempty]

lemma strtoul_whole (h : Plain l) : strtoul l = (Nat.ofDigitChars 10 l 0, []) := by
  have hread : strtoul (l ++ []) = (Nat.ofDigitChars 10 l 0, []) := strtoul_plain h (Or.inl rfl)
  rwa [List.append_nil] at hread

lemma ofDigitChars_lt (hl : ∀ c ∈ l, c.isDigit = true) :
    Nat.ofDigitChars 10 l m < 10 ^ l.length * (m + 1) := by
  induction l generalizing m with
  | nil => simp
  | cons c l ih =>
    have hc : digitValue c < 10 := digitValue_lt_ten.mpr (hl c List.mem_cons_self)
    have hrest := ih (m := 10 * m + digitValue c) fun c' hc' => hl c' (List.mem_cons_of_mem c hc')
    rw [digitValue_of_isDigit (hl c List.mem_cons_self)] at hc hrest
    rw [Nat.ofDigitChars_cons]
    calc Nat.ofDigitChars 10 l _ < 10 ^ l.length * (10 * m + (c.toNat - '0'.toNat) + 1) := hrest
      _ ≤ 10 ^ l.length * (10 * (m + 1)) := by
        apply Nat.mul_le_mul_left
        omega
      _ = 10 ^ (l.length + 1) * (m + 1) := by rw [Nat.pow_succ, Nat.mul_assoc]

lemma inetAton_plain (h : Plain l) (hl : l.length ≤ 4) : ∃ ip, inetAton l = some ip := by
  have hbegins : beginsWithDigit l = true := List.append_nil l ▸ h.begins []
  have hlt : Nat.ofDigitChars 10 l 0 < 256 ^ (3 + 1) :=
    calc Nat.ofDigitChars 10 l 0 < 10 ^ l.length * (0 + 1) := ofDigitChars_lt h.digits
      _ ≤ 10 ^ 4 * (0 + 1) := Nat.mul_le_mul_right _ (Nat.pow_le_pow_right (by decide) hl)
      _ ≤ 256 ^ (3 + 1) := by decide
  refine ⟨octetsOf (256 ^ (3 + 1) * 0 + Nat.ofDigitChars 10 l 0), ?_⟩
  rw [inetAton, atonFrom, if_pos hbegins, strtoul_whole h]
  simp only [if_pos hlt, Option.map_some]

lemma inetAton_letters (hl : ∃ c ∈ l, c.isDigit = false) (hdot : '.' ∉ l) (hhead : l.head? ≠ some '0') :
    inetAton l = none := by
  have hnone : atonFrom 3 0 l = none := by
    by_cases hbegins : beginsWithDigit l = true
    · obtain ⟨n, c, rest, hread, hmem⟩ := digitsFrom_stops (m := 0) hl
      have hc : ¬ (c = '.' ∧ n < 256) := by
        rintro ⟨rfl, -⟩
        exact hdot hmem
      rw [atonFrom, if_pos hbegins, strtoul_of_head hhead, hread]
      exact if_neg hc
    · rw [atonFrom, if_neg hbegins]
  rw [inetAton, hnone, Option.map_none]

lemma atonFrom_part (h : Plain l) (hn : Nat.ofDigitChars 10 l 0 < 256) :
    atonFrom (d + 1) m (l ++ '.' :: rest) = atonFrom d (256 * m + Nat.ofDigitChars 10 l 0) rest := by
  rw [atonFrom, if_pos (h.begins _), strtoul_plain h (Or.inr ⟨rest, rfl⟩)]
  exact if_pos ⟨rfl, hn⟩

lemma atonFrom_last (h : Plain l) (hn : Nat.ofDigitChars 10 l 0 < 256) :
    atonFrom 0 m l = some (256 * m + Nat.ofDigitChars 10 l 0) := by
  have hbegins : beginsWithDigit l = true := List.append_nil l ▸ h.begins []
  rw [atonFrom, if_pos hbegins, strtoul_whole h]
  exact if_pos hn

end Read

section Printed

variable {b n : ℕ} {c : Char} {a₀ a₁ a₂ a₃ : UInt8} {addr : Octets 16}

lemma toDigits_head (hb : 1 < b) (hn : 0 < n) : (Nat.toDigits b n).head? ≠ some '0' := by
  induction n using Nat.strong_induction_on with
  | _ n ih =>
    rw [Nat.toDigits_eq_if hb]
    split_ifs with hlt
    · intro hhead
      have hzero : n.digitChar = '0' := Option.some.inj hhead
      exact absurd (Nat.digitChar_eq_zero.mp hzero) (Nat.ne_of_gt hn)
    · have hdiv : 0 < n / b := Nat.div_pos (Nat.le_of_not_lt hlt) (Nat.zero_lt_of_lt hb)
      rw [List.head?_append_of_ne_nil _ Nat.toDigits_ne_nil]
      exact ih (n / b) (Nat.div_lt_self hn hb) hdiv

lemma mem_toDigits (hb : 1 < b) (h : c ∈ Nat.toDigits b n) : ∃ d < b, c = d.digitChar := by
  induction n using Nat.strong_induction_on with
  | _ n ih =>
    rw [Nat.toDigits_eq_if hb] at h
    split_ifs at h with hlt
    · exact ⟨n, hlt, List.mem_singleton.mp h⟩
    · cases List.mem_append.mp h with
      | inl hfront =>
        have hpos : 0 < n := Nat.lt_of_lt_of_le (Nat.zero_lt_of_lt hb) (Nat.le_of_not_lt hlt)
        exact ih (n / b) (Nat.div_lt_self hpos hb) hfront
      | inr hlast => exact ⟨n % b, Nat.mod_lt _ (Nat.zero_lt_of_lt hb), List.mem_singleton.mp hlast⟩

lemma not_mem_hexText (hc : ∀ d < 16, c ≠ d.digitChar) : c ∉ hexText n := by
  intro h
  obtain ⟨d, hd, hcd⟩ := mem_toDigits (by decide) h
  exact hc d hd hcd

lemma plain_toDigits (hb : 1 < b) (h : ∀ c ∈ Nat.toDigits b n, c.isDigit = true) :
    Plain (Nat.toDigits b n) where
  digits := h
  nonempty := Nat.toDigits_ne_nil
  head := by
    cases Nat.eq_zero_or_pos n with
    | inl hzero =>
      rw [hzero]
      exact Or.inl (Nat.toDigits_zero b)
    | inr hpos => exact Or.inr (toDigits_head hb hpos)

lemma plain_decText : Plain (decText n) :=
  plain_toDigits (by decide) fun _ hc => Nat.isDigit_of_mem_toDigits (by decide) (by decide) hc

lemma word_lt (i : ℕ) : word addr i < 65536 := by
  have hhigh := (addr.toList.getD (2 * i) 0).toNat_lt
  have hlow := (addr.toList.getD (2 * i + 1) 0).toNat_lt
  unfold word
  omega

lemma inetAton_hexText (hn : n < 65536) :
    (∃ ip, inetAton (hexText n) = some ip) ↔ ∀ c ∈ hexText n, c.isDigit = true := by
  constructor
  · rintro ⟨ip, hip⟩
    by_contra hnot
    have hletter : ∃ c ∈ hexText n, c.isDigit = false := by
      simpa only [not_forall, Bool.not_eq_true, exists_prop] using hnot
    have hpos : 0 < n := by
      apply Nat.pos_of_ne_zero
      rintro rfl
      have hzero : hexText 0 = ['0'] := rfl
      exact hnot (by simp [hzero])
    have hdot : '.' ∉ hexText n := not_mem_hexText (by decide)
    rw [inetAton_letters hletter hdot (toDigits_head (by decide) hpos)] at hip
    cases hip
  · intro h
    exact inetAton_plain (plain_toDigits (by decide) h)
      ((Nat.length_toDigits_le_iff (by decide) (by decide)).mpr (Nat.lt_of_lt_of_eq hn rfl))

lemma inetAton_quadText : inetAton (quadText a₀ a₁ a₂ a₃) = some ⟨[a₀, a₁, a₂, a₃], rfl⟩ := by
  have hvalue : ∀ a : UInt8, Nat.ofDigitChars 10 (decText a.toNat) 0 = a.toNat :=
    fun a => Nat.ofDigitChars_ten_toDigits
  have hlt : ∀ a : UInt8, Nat.ofDigitChars 10 (decText a.toNat) 0 < 256 := by
    intro a
    rw [hvalue]
    exact a.toNat_lt
  have hread : atonFrom 3 0 (quadText a₀ a₁ a₂ a₃) = some
      (256 * (256 * (256 * (256 * 0 + a₀.toNat) + a₁.toNat) + a₂.toNat) + a₃.toNat) := by
    simp only [quadText, List.append_assoc, List.cons_append]
    rw [atonFrom_part plain_decText (hlt a₀), atonFrom_part plain_decText (hlt a₁),
      atonFrom_part plain_decText (hlt a₂), atonFrom_last plain_decText (hlt a₃)]
    simp only [hvalue]
  rw [inetAton, hread]
  have h₀ := a₀.toNat_lt
  have h₁ := a₁.toNat_lt
  have h₂ := a₂.toNat_lt
  have h₃ := a₃.toNat_lt
  apply congrArg some
  apply Subtype.ext
  simp only [octetsOf, List.cons.injEq, and_true, ← UInt8.toNat_inj, UInt8.toNat_ofNat']
  omega

example : inetAton "0x7f.1".toList = some ⟨[127, 0, 0, 1], rfl⟩ := by
  decide +kernel

end Printed

end TransportConverter.Foundations.InetText
