import Mathlib

/-! Rows of a table with named columns, and the text of a statement that inserts one: it is read token
by token, and its parameters are bound by name. A name is told from a keyword by its place alone. -/

namespace TransportConverter.Foundations.Sql

section Cells

/-- What a column holds. A text that reads as a number is kept as that number. -/
inductive Cell
  | null
  | integer (n : ℤ)
  | text (s : String)
  | numeral (s : String)
  deriving DecidableEq

def isSpace (c : Char) : Bool := c.toNat = 32 || (9 ≤ c.toNat && c.toNat ≤ 13)

def trim (s : List Char) : List Char := (s.dropWhile isSpace).rdropWhile isSpace

def unsigned : List Char → List Char
  | '+' :: s | '-' :: s => s
  | s => s

def isExponent : List Char → Bool
  | [] => true
  | e :: s => (e = 'e' || e = 'E') && (unsigned s).any Char.isDigit && (unsigned s).all Char.isDigit

def isNumeral (s : List Char) : Bool :=
  let body := unsigned (trim s)
  let whole := body.takeWhile Char.isDigit
  match body.dropWhile Char.isDigit with
  | '.' :: rest =>
    !(whole ++ rest.takeWhile Char.isDigit).isEmpty && isExponent (rest.dropWhile Char.isDigit)
  | rest => !whole.isEmpty && isExponent rest

/-- A value as a column of type `INTEGER` or `STRING` keeps it: both have numeric affinity. -/
def Cell.stored : Cell → Cell
  | .text s => if isNumeral s.toList then .numeral s else .text s
  | cell => cell

variable {c : Char} {s : List Char}

lemma count_dropWhile {p : Char → Bool} (hc : p c = false) (s : List Char) :
    (s.dropWhile p).count c = s.count c := by
  induction s with
  | nil => rfl
  | cons x s ih =>
    rw [List.dropWhile_cons]
    split
    · rename_i hx
      have hne : x ≠ c := by
        rintro rfl
        rw [hc] at hx
        cases hx
      rw [ih, List.count_cons_of_ne hne]
    · rfl

lemma count_trim (hc : isSpace c = false) : (trim s).count c = s.count c := by
  rw [trim, List.rdropWhile, List.count_reverse, count_dropWhile hc, List.count_reverse, count_dropWhile hc]

lemma count_unsigned (hplus : c ≠ '+') (hminus : c ≠ '-') (s : List Char) :
    (unsigned s).count c = s.count c := by
  unfold unsigned
  split
  · exact (List.count_cons_of_ne hplus.symm).symm
  · exact (List.count_cons_of_ne hminus.symm).symm
  · rfl

lemma count_digits (hc : c.isDigit = false) (hs : ∀ x ∈ s, x.isDigit = true) : s.count c = 0 := by
  apply List.count_eq_zero.mpr
  intro hmem
  rw [hs c hmem] at hc
  cases hc

structure Strange (c : Char) : Prop where
  space : isSpace c = false
  digit : c.isDigit = false
  plus : c ≠ '+'
  minus : c ≠ '-'
  small : c ≠ 'e'
  capital : c ≠ 'E'

lemma strange_point : Strange '.' := by constructor <;> decide
lemma strange_colon : Strange ':' := by constructor <;> decide

lemma count_exponent (hc : Strange c) (h : isExponent s = true) : s.count c = 0 := by
  cases s with
  | nil => rfl
  | cons e s =>
    simp only [isExponent, Bool.and_eq_true, Bool.or_eq_true, decide_eq_true_eq, List.all_eq_true] at h
    obtain ⟨⟨he, -⟩, hdigits⟩ := h
    have hne : e ≠ c := by
      rintro rfl
      exact he.elim hc.small hc.capital
    rw [List.count_cons_of_ne hne, ← count_unsigned hc.plus hc.minus]
    exact count_digits hc.digit hdigits

lemma count_numeral (hc : Strange c) (h : isNumeral s = true) :
    s.count c ≤ if c = '.' then 1 else 0 := by
  have hdrop := count_dropWhile hc.digit (unsigned (trim s))
  rw [count_unsigned hc.plus hc.minus, count_trim hc.space] at hdrop
  simp only [isNumeral] at h
  split at h
  · rename_i rest heq
    rw [Bool.and_eq_true] at h
    have hrest := count_dropWhile hc.digit rest
    rw [count_exponent hc h.2] at hrest
    rw [heq, List.count_cons, ← hrest] at hdrop
    rw [← hdrop]
    by_cases hpoint : c = '.'
    · simp [hpoint]
    · simp [hpoint, show '.' ≠ c from Ne.symm hpoint]
  · rw [Bool.and_eq_true] at h
    rw [← hdrop, count_exponent hc h.2]
    exact Nat.zero_le _

lemma not_isNumeral_of_colon (h : ':' ∈ s) : isNumeral s = false := by
  rw [Bool.eq_false_iff]
  intro hnumeral
  have hcount := count_numeral strange_colon hnumeral
  have hpos := List.count_pos_iff.mpr h
  rw [if_neg (by decide)] at hcount
  omega

lemma not_isNumeral_of_points (h : 2 ≤ s.count '.') : isNumeral s = false := by
  rw [Bool.eq_false_iff]
  intro hnumeral
  have hcount := count_numeral strange_point hnumeral
  rw [if_pos rfl] at hcount
  omega

lemma takeWhile_digits (hs : ∀ c ∈ s, c.isDigit = false) : s.takeWhile Char.isDigit = [] := by
  cases s with
  | nil => rfl
  | cons c s =>
    rw [List.takeWhile_cons, hs c List.mem_cons_self]
    rfl

lemma mem_trim (h : c ∈ trim s) : c ∈ s := by
  have hsub : (trim s).Sublist s :=
    (List.rdropWhile_prefix ..).sublist.trans (List.dropWhile_suffix ..).sublist
  exact hsub.subset h

lemma mem_unsigned (h : c ∈ unsigned s) : c ∈ s := by
  unfold unsigned at h
  split at h
  · exact List.mem_cons_of_mem _ h
  · exact List.mem_cons_of_mem _ h
  · exact h

lemma not_isNumeral_of_letters (hs : ∀ c ∈ s, c.isDigit = false) : isNumeral s = false := by
  have hbody : ∀ c ∈ unsigned (trim s), c.isDigit = false := fun c hc => hs c (mem_trim (mem_unsigned hc))
  have hrest : ∀ rest, (unsigned (trim s)).dropWhile Char.isDigit = '.' :: rest →
      rest.takeWhile Char.isDigit = [] := by
    intro rest heq
    apply takeWhile_digits
    intro c hc
    apply hbody
    apply (List.dropWhile_suffix _).subset
    rw [heq]
    exact List.mem_cons_of_mem _ hc
  simp only [isNumeral, takeWhile_digits hbody]
  split
  · rename_i rest heq
    rw [hrest rest heq]
    rfl
  · rfl

end Cells

section Tokens

inductive Token
  | word (w : String)
  | param (name : String)
  | mark (c : Char)
  deriving DecidableEq

def isWordChar (c : Char) : Bool := c.isAlphanum || c = '_' || c = '$' || 0x80 ≤ c.toNat

def finish (param : Bool) (w : List Char) : List Token :=
  match param, w with
  | false, [] => []
  | false, w => [.word (.ofList w)]
  | true, [] => [.mark ':']
  | true, w => [.param (.ofList w)]

def lexFrom : Bool → List Char → List Char → List Token
  | param, w, [] => finish param w
  | param, w, c :: s =>
    if isWordChar c then lexFrom param (w ++ [c]) s
    else
      finish param w ++
        if c = ':' then lexFrom true [] s
        else (if isSpace c then [] else [.mark c]) ++ lexFrom false [] s

def lex (s : List Char) : List Token := lexFrom false [] s

def Ended (s : List Char) : Prop := s.head?.all fun c => !isWordChar c

def Spells (text : List Char) (t : Token) : Prop := ∀ s, Ended s → lex (text ++ s) = t :: lex s

variable {c : Char} {s u w : List Char} {param : Bool}

lemma lexFrom_ended (h : Ended s) : lexFrom param w s = finish param w ++ lex s := by
  cases s with
  | nil => exact (List.append_nil _).symm
  | cons c s =>
    have hc : isWordChar c = false := by simpa [Ended] using h
    simp only [lex, lexFrom, hc, finish, List.nil_append, Bool.false_eq_true, if_false]

lemma lexFrom_word (hu : ∀ c ∈ u, isWordChar c = true) (h : Ended s) :
    lexFrom param w (u ++ s) = finish param (w ++ u) ++ lex s := by
  induction u generalizing w with
  | nil => rw [List.nil_append, List.append_nil, lexFrom_ended h]
  | cons c u ih =>
    rw [List.cons_append, lexFrom, if_pos (hu c List.mem_cons_self),
      ih fun x hx => hu x (List.mem_cons_of_mem c hx), List.append_assoc]
    rfl

structure IsName (name : String) : Prop where
  chars : ∀ c ∈ name.toList, isWordChar c = true
  nonempty : name.toList ≠ []

lemma finish_word (h : w ≠ []) : finish false w = [.word (.ofList w)] := by
  cases w with
  | nil => exact absurd rfl h
  | cons c w => rfl

lemma finish_param (h : w ≠ []) : finish true w = [.param (.ofList w)] := by
  cases w with
  | nil => exact absurd rfl h
  | cons c w => rfl

lemma IsName.spells_word {name : String} (h : IsName name) : Spells name.toList (.word name) := by
  intro s hs
  have hword : lexFrom false [] (name.toList ++ s) = finish false name.toList ++ lex s :=
    lexFrom_word h.chars hs
  rw [lex, hword, finish_word h.nonempty, String.ofList_toList]
  rfl

lemma IsName.spells_param {name : String} (h : IsName name) :
    Spells (":" ++ name).toList (.param name) := by
  intro s hs
  have hparam : lexFrom true [] (name.toList ++ s) = finish true name.toList ++ lex s :=
    lexFrom_word h.chars hs
  rw [String.toList_append]
  show lexFrom false [] (':' :: (name.toList ++ s)) = _
  rw [lexFrom, if_neg (by decide), if_pos rfl, hparam, finish_param h.nonempty, String.ofList_toList]
  rfl

lemma lexFrom_split (hc : isWordChar c = false) (hcolon : c ≠ ':') :
    lexFrom param w (u ++ c :: s) = lexFrom param w (u ++ [c]) ++ lex s := by
  induction u generalizing param w with
  | nil =>
    simp only [List.nil_append, lexFrom, hc, hcolon, lex, finish, Bool.false_eq_true, if_false,
      List.append_assoc, List.append_nil]
  | cons x u ih =>
    simp only [List.cons_append, lexFrom]
    split_ifs
    · exact ih
    · rw [ih, List.append_assoc]
    · rw [ih, List.append_assoc, List.append_assoc]
    · rw [ih, List.append_assoc, List.append_assoc]

def commas : List Token → List Token
  | [] => []
  | [t] => [t]
  | t :: ts => t :: .mark ',' :: commas ts

lemma commas_cons {t : Token} {ts : List Token} (h : ts ≠ []) :
    commas (t :: ts) = t :: .mark ',' :: commas ts := by
  cases ts with
  | nil => exact absurd rfl h
  | cons t' ts => rfl

lemma ended_of_not_word (hc : isWordChar c = false) : Ended (c :: s) := by
  simp [Ended, hc]

lemma lex_join {texts : List String} {tokens : List Token}
    (h : List.Forall₂ (fun text t => Spells text.toList t) texts tokens) (hs : Ended s) :
    lex ((", ".intercalate texts).toList ++ s) = commas tokens ++ lex s := by
  induction h with
  | nil => rfl
  | @cons text t texts tokens ht hrest ih =>
    cases hrest with
    | nil => rw [String.intercalate_singleton, ht s hs]; rfl
    | @cons text' t' texts tokens ht' hrest =>
      have hsep : ∀ rest, lex (", ".toList ++ rest) = .mark ',' :: lex rest := fun _ => rfl
      have hended : ∀ rest, Ended (", ".toList ++ rest) := fun _ => ended_of_not_word (c := ',') (by decide)
      rw [String.intercalate_cons_cons, String.toList_append, String.toList_append, List.append_assoc,
        List.append_assoc, ht _ (hended _), hsep, ih]
      rfl

def Closed (s : List Char) : Prop := s.getLast?.any (fun c => !isWordChar c && c ≠ ':') = true

instance (s : List Char) : Decidable (Closed s) := inferInstanceAs (Decidable (_ = true))
instance (s : List Char) : Decidable (Ended s) := inferInstanceAs (Decidable (_ = true))

lemma lex_closed (h : Closed u) (s : List Char) : lex (u ++ s) = lex u ++ lex s := by
  obtain ⟨u, c, rfl⟩ : ∃ v c, u = v ++ [c] := by
    cases List.eq_nil_or_concat' u with
    | inl hnil => rw [hnil] at h; cases h
    | inr hsnoc => exact hsnoc
  have hc : isWordChar c = false ∧ c ≠ ':' := by simpa [Closed] using h
  rw [List.append_assoc]
  exact lexFrom_split hc.1 hc.2

lemma Ended.append (h : Ended u) (hne : u ≠ []) (s : List Char) : Ended (u ++ s) := by
  cases u with
  | nil => exact absurd rfl hne
  | cons c u => exact h

lemma lex_assembled {names : List String} {pre mid post : String} (hnames : ∀ name ∈ names, IsName name)
    (hpre : Closed pre.toList) (hmid : Closed mid.toList) (hmid' : Ended mid.toList)
    (hpost : Ended post.toList) :
    lex (pre ++ ", ".intercalate names ++ mid ++ ", ".intercalate (names.map (":" ++ ·)) ++ post).toList =
      lex pre.toList ++ commas (names.map .word) ++ lex mid.toList ++ commas (names.map .param) ++
        lex post.toList := by
  have hwords : List.Forall₂ (fun text t => Spells text.toList t) names (names.map .word) := by
    rw [List.forall₂_map_right_iff]
    exact List.forall₂_same.mpr fun name hname => (hnames name hname).spells_word
  have hparams : List.Forall₂ (fun text t => Spells text.toList t) (names.map (":" ++ ·))
      (names.map .param) := by
    rw [List.forall₂_map_left_iff, List.forall₂_map_right_iff]
    exact List.forall₂_same.mpr fun name hname => (hnames name hname).spells_param
  have hne : mid.toList ≠ [] := by
    intro hnil
    rw [hnil] at hmid
    cases hmid
  simp only [String.toList_append, List.append_assoc]
  rw [lex_closed hpre, lex_join hwords (hmid'.append hne _), lex_closed hmid, lex_join hparams hpost]

end Tokens

section Statements

structure Insert where
  table : String
  columns : List String
  params : List String
  deriving DecidableEq

def Token.asWord : Token → Option String
  | .word w => some w
  | _ => none

def Token.asParam : Token → Option String
  | .param name => some name
  | _ => none

def items (item : Token → Option String) : List Token → Option (List String × List Token)
  | t :: .mark ',' :: ts =>
    (item t).bind fun x => (items item ts).map fun (xs, rest) => (x :: xs, rest)
  | t :: .mark ')' :: ts => (item t).map fun x => ([x], ts)
  | _ => none

def parseInsert : List Token → Option Insert
  | .word "INSERT" :: .word "INTO" :: .word table :: .mark '(' :: ts =>
    match items Token.asWord ts with
    | some (columns, .word "VALUES" :: .mark '(' :: ts) =>
      match items Token.asParam ts with
      | some (params, []) => some ⟨table, columns, params⟩
      | _ => none
    | _ => none
  | _ => none

lemma items_commas {item : Token → Option String} {tokens : List Token} {names : List String}
    (h : List.Forall₂ (fun t name => item t = some name) tokens names) (hne : tokens ≠ [])
    (rest : List Token) : items item (commas tokens ++ .mark ')' :: rest) = some (names, rest) := by
  induction h with
  | nil => exact absurd rfl hne
  | @cons t name tokens names ht hrest ih =>
    cases hrest with
    | nil => simp [commas, items, ht]
    | @cons t' name' tokens names ht' hrest =>
      have hih := ih (List.cons_ne_nil _ _)
      simp only [commas, List.cons_append] at hih ⊢
      rw [items, ht, hih]
      rfl

end Statements

section Rows

structure Row (names : List String) where
  cells : List Cell
  width : cells.length = names.length
  deriving DecidableEq

def Row.of (names : List String) (value : String → Cell) : Row names :=
  ⟨names.map value, List.length_map value⟩

def Row.at {names : List String} (row : Row names) (name : String) : Cell :=
  ((names.zip row.cells).lookup name).getD .null

inductive SqlError
  | operational
  | programming
  | overflow
  deriving DecidableEq

def Insert.row (stmt : Insert) (names : List String) (binding : String → Except SqlError Cell) :
    Except SqlError (Row names) :=
  if stmt.columns.all (names.contains ·) = false then .error .operational
  else if stmt.columns.length ≠ stmt.params.length then .error .operational
  else
    (stmt.params.mapM binding).map fun values =>
      .of names fun name => (((stmt.columns.zip values).lookup name).getD .null).stored

variable {names columns : List String} {name : String} {value : String → Cell}

lemma lookup_zip_map (h : name ∈ names) : (names.zip (names.map value)).lookup name = some (value name) := by
  induction names with
  | nil => cases h
  | cons first names ih =>
    rw [List.map_cons, List.zip_cons_cons, List.lookup_cons]
    by_cases heq : name = first
    · rw [heq, BEq.rfl]
    · rw [beq_false_of_ne heq, ih ((List.mem_cons.mp h).resolve_left heq)]

lemma lookup_zip_map_of_not_mem (h : name ∉ names) : (names.zip (names.map value)).lookup name = none := by
  induction names with
  | nil => rfl
  | cons first names ih =>
    rw [List.mem_cons, not_or] at h
    rw [List.map_cons, List.zip_cons_cons, List.lookup_cons, beq_false_of_ne h.1, ih h.2]

@[simp] lemma Row.at_of (h : name ∈ names) : (Row.of names value).at name = value name := by
  rw [Row.at, Row.of, lookup_zip_map h]
  rfl

lemma mapM_binding {binding : String → Except SqlError Cell}
    (h : ∀ name ∈ columns, binding name = .ok (value name)) :
    columns.mapM binding = .ok (columns.map value) := by
  induction columns with
  | nil => rfl
  | cons first columns ih =>
    rw [List.mapM_cons, h first List.mem_cons_self, ih fun name hname => h name (List.mem_cons_of_mem _ hname)]
    rfl

lemma Insert.row_eq {binding : String → Except SqlError Cell} (table : String)
    (hcolumns : ∀ name ∈ columns, name ∈ names) (h : ∀ name ∈ columns, binding name = .ok (value name)) :
    Insert.row ⟨table, columns, columns⟩ names binding =
      .ok (.of names fun name => if name ∈ columns then (value name).stored else .null) := by
  have hall : columns.all (names.contains ·) = true := by
    simpa only [List.all_eq_true, List.contains_iff_mem] using hcolumns
  rw [Insert.row, if_neg (by simp only [hall, reduceCtorEq, not_false_eq_true]), if_neg (not_not.mpr rfl),
    mapM_binding h]
  refine congrArg (fun f => Except.ok (Row.of names f)) (funext fun name => ?_)
  split_ifs with hmem
  · rw [lookup_zip_map hmem]
    rfl
  · rw [lookup_zip_map_of_not_mem hmem]
    rfl

end Rows

end TransportConverter.Foundations.Sql
