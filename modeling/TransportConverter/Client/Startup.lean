import TransportConverter.Foundations.StrTol

/-! The checks the library makes when it is loaded. -/

namespace TransportConverter.Client.Startup

open Foundations.StrTol

def nul : Char := .ofNat 0
def newline : Char := .ofNat 10

abbrev Stack := List.Vector Char 1024

inductive SysctlFile
  | unopened
  | unread
  | content (text : List Char)

/-- What the checks ask the system for. `release` is the array of that name from its first octet on. -/
structure Environment (α : Type) where
  sysctl : SysctlFile
  release : Option (List Char)
  convertAddr : Option (List Char)
  convertPort : Option (List Char)
  convertCookie : Option (List Char)
  getaddrinfo : List Char → List Char → Option α

structure Globals (α : Type) where
  converterAddr : α
  convertPort : List Char
  convertCookie : Option (List Char)

section Checks

variable {α : Type}

def buffer (stack : Stack) (text : List Char) : List Char := text.take 1024 ++ stack.toList.drop text.length

def endsNumber (rest : List Char) : Bool := rest.head?.any fun c => c = nul || c = newline

/-- In all these `none` says that something undefined is read. -/
def flagsOf (number : ℤ) (rest : List Char) : Option ℕ :=
  if endsNumber rest then some (number % 2 ^ 32).toNat else none

def parseFlags (text : List Char) : Option (Option ℕ) := (strtol text).map fun read => flagsOf read.1 read.2

def readSysctlFastopen (stack : Stack) : SysctlFile → Option (Option ℕ)
  | .unopened | .unread => some none
  | .content text => parseFlags (buffer stack text)

def expectedFlags : ℕ := 0x1 ||| 0x4

def validateSysctlFastopen (stack : Stack) (file : SysctlFile) : Option Bool :=
  (readSysctlFastopen stack file).map fun flags => flags.any fun n => n &&& expectedFlags = expectedFlags

def intOf (n : ℤ) : ℤ := (n + 2 ^ 31) % 2 ^ 32 - 2 ^ 31

def extractKernelVersion (release : List Char) : Option (ℤ × ℤ) := do
  let (version, ptr) ← strtol release
  let (major, _) ← strtol (ptr.drop 1)
  return (intOf version, intOf major)

def validateKernelVersion : Option (List Char) → Option Bool
  | none => some false
  | some release =>
    (extractKernelVersion release).map fun (version, major) => version > 4 || (version = 4 && major ≥ 5)

def defaultPort : List Char := ['1', '2', '3', '4']

def portOf : Option (List Char) → Option (List Char)
  | none => some defaultPort
  | some port => (strtol (port ++ [nul])).map fun (_, rest) => if endsNumber rest then port else defaultPort

def validateParameters (env : Environment α) : Option (Option (Globals α)) :=
  match env.convertAddr with
  | none => some none
  | some addr =>
    (portOf env.convertPort).map fun port =>
      (env.getaddrinfo addr port).map fun converterAddr => ⟨converterAddr, port, env.convertCookie⟩

def validateConfig (stack : Stack) (env : Environment α) : Option (Option (Globals α)) := do
  let sysctl ← validateSysctlFastopen stack env.sysctl
  let kernel ← if sysctl then validateKernelVersion env.release else some false
  if kernel then validateParameters env else some none

end Checks

section Stack

variable {text : List Char}

lemma buffer_short (h : text.length < 1024) (junk : List Char)
    (hjunk : junk.length = 1024 - text.length) : ∃ stack, buffer stack text = text ++ junk := by
  have hlength : (List.replicate text.length nul ++ junk).length = 1024 := by
    rw [List.length_append, List.length_replicate, hjunk]
    omega
  refine ⟨⟨_, hlength⟩, ?_⟩
  show text.take 1024 ++ (List.replicate text.length nul ++ junk).drop text.length = text ++ junk
  rw [List.take_of_length_le h.le, List.drop_left' List.length_replicate]

lemma parseFlags_append {result : Option ℕ} (h : parseFlags text = some result) (more : List Char) :
    parseFlags (text ++ more) = some result := by
  obtain ⟨⟨n, rest⟩, hread, rfl⟩ := Option.map_eq_some_iff.mp h
  obtain ⟨c, rest, rfl⟩ := List.exists_cons_of_ne_nil (strtol_stops hread)
  rw [parseFlags, strtol_append hread]
  rfl

lemma parseFlags_letter {ds more : List Char} {negative : Bool} (hds : ∀ d ∈ ds, d.isDigit = true)
    (hread : strtol (text ++ 'x' :: more) = finish (text ++ 'x' :: more) negative (ds ++ 'x' :: more)) :
    parseFlags (text ++ 'x' :: more) = some none ∨
      ds = [] ∧ parseFlags (text ++ 'x' :: more) = some (some 0) := by
  rw [parseFlags, hread, finish_digits hds (by decide), Option.map_some]
  by_cases hnil : ds = []
  · rw [if_pos hnil]
    rw [flagsOf]
    split_ifs
    · exact Or.inr ⟨hnil, rfl⟩
    · exact Or.inl rfl
  · rw [if_neg hnil]
    exact Or.inl rfl

lemma parseFlags_digit {ds : List Char} {negative : Bool} {k : ℕ} (hds : ∀ d ∈ ds, d.isDigit = true)
    (hread : strtol (text ++ '5' :: List.replicate k newline) =
      finish (text ++ '5' :: List.replicate k newline) negative (ds ++ '5' :: List.replicate k newline)) :
    parseFlags (text ++ '5' :: List.replicate k newline) ≠ some none ∧
      (ds = [] → parseFlags (text ++ '5' :: List.replicate k newline) ≠ some (some 0)) := by
  have hall : ∀ d ∈ ds ++ ['5'], d.isDigit = true := by
    intro d hd
    rcases List.mem_append.mp hd with hd | hd
    · exact hds d hd
    · rw [List.mem_singleton.mp hd]
      decide
  cases k with
  | zero =>
    have hnone : strtol (text ++ '5' :: List.replicate 0 newline) = none := by
      rw [hread]
      exact finish_none.mpr hall
    rw [parseFlags, hnone]
    exact ⟨(fun h => by cases h), (fun _ h => by cases h)⟩
  | succ k =>
    have hsplit : ds ++ '5' :: List.replicate (k + 1) newline =
        (ds ++ ['5']) ++ newline :: List.replicate k newline := by simp [List.replicate_succ]
    rw [hsplit, finish_digits hall (by decide), if_neg (by simp)] at hread
    rw [parseFlags, hread]
    refine ⟨(fun h => by cases h), ?_⟩
    rintro rfl h
    have hzero : (longOf negative 5 % 2 ^ 32).toNat = 0 := Option.some.inj (Option.some.inj h)
    revert hzero
    cases negative <;> decide

/-- The flags that are read come from the file alone exactly when its number ends before it does: a number
at its end goes on with what the stack holds. -/
theorem flags_from_file_iff (text : List Char) (hshort : text.length < 1024) :
    (∀ stack stack', readSysctlFastopen stack (.content text) = readSysctlFastopen stack' (.content text)) ↔
      strtol text ≠ none := by
  constructor
  · intro h hruns
    obtain ⟨negative, ds, hds, hread⟩ := strtol_runs_on hruns
    obtain ⟨k, hk⟩ : ∃ k, 1024 - text.length = k + 1 := ⟨1023 - text.length, by omega⟩
    obtain ⟨stack, hstack⟩ := buffer_short hshort ('x' :: List.replicate k newline) (by simp [hk])
    obtain ⟨stack', hstack'⟩ := buffer_short hshort ('5' :: List.replicate k newline) (by simp [hk])
    have hsame := h stack stack'
    rw [readSysctlFastopen, readSysctlFastopen, hstack, hstack'] at hsame
    have hdigit := parseFlags_digit hds
      (hread '5' (List.replicate k newline) (by decide) (by decide) (by decide))
    have hletter := parseFlags_letter hds
      (hread 'x' (List.replicate k newline) (by decide) (by decide) (by decide))
    rcases hletter with hx | ⟨hnil, hx⟩
    · exact hdigit.1 (hsame.symm.trans hx)
    · exact hdigit.2 hnil (hsame.symm.trans hx)
  · intro hstops stack stack'
    obtain ⟨result, hresult⟩ : ∃ result, parseFlags text = some result := by
      rw [← Option.ne_none_iff_exists', parseFlags, ne_eq, Option.map_eq_none_iff]
      exact hstops
    have hflags : ∀ stack, readSysctlFastopen stack (.content text) = some result := by
      intro stack
      rw [readSysctlFastopen, buffer, List.take_of_length_le hshort.le]
      exact parseFlags_append hresult _
    rw [hflags, hflags]

theorem flags_from_file_iff_line :
    (∀ stack stack', readSysctlFastopen stack (.content ['5', newline]) =
      readSysctlFastopen stack' (.content ['5', newline])) ↔ strtol ['5', newline] ≠ none :=
  flags_from_file_iff ['5', newline] (by decide)

end Stack

section Ready

variable {α : Type} {stack : Stack} {env : Environment α} {flags version major : ℕ}

structure Plain (env : Environment α) (flags version major : ℕ) : Prop where
  sysctl : env.sysctl = .content (Nat.toDigits 10 flags ++ [newline])
  flags_lt : flags < 2 ^ 32
  release : ∃ c patch, c.isDigit = false ∧
    env.release = some (Nat.toDigits 10 version ++ '.' :: (Nat.toDigits 10 major ++ c :: patch))
  version_lt : version < 2 ^ 31
  major_lt : major < 2 ^ 31
  port : ∀ port ∈ env.convertPort, ∃ k, port = Nat.toDigits 10 k

lemma longOf_small {n : ℕ} (h : n < 2 ^ 32) : longOf false n = n := by
  have hle : (n : ℤ) ≤ 2 ^ 63 - 1 := by
    have : (n : ℤ) < 2 ^ 32 := by exact_mod_cast h
    omega
  exact min_eq_left hle

lemma intOf_small {n : ℕ} (h : n < 2 ^ 31) : intOf n = n := by
  have hlt : (n : ℤ) < 2 ^ 31 := by exact_mod_cast h
  rw [intOf, Int.emod_eq_of_lt (by omega) (by omega)]
  omega

lemma validateSysctlFastopen_plain (h : Plain env flags version major) :
    validateSysctlFastopen stack env.sysctl = some (decide (flags &&& expectedFlags = expectedFlags)) := by
  have hread : parseFlags (Nat.toDigits 10 flags ++ [newline]) = some (some flags) := by
    have hmod : (flags : ℤ) % 2 ^ 32 = flags :=
      Int.emod_eq_of_lt (by omega) (by exact_mod_cast h.flags_lt)
    rw [parseFlags, strtol_decimal (by decide), longOf_small h.flags_lt, Option.map_some, flagsOf, hmod]
    rfl
  have hlength : (Nat.toDigits 10 flags ++ [newline]).length ≤ 1024 := by
    have hdigits : (Nat.toDigits 10 flags).length ≤ 10 :=
      (Nat.length_toDigits_le_iff (by decide) (by decide)).mpr (h.flags_lt.trans (by decide))
    rw [List.length_append, List.length_singleton]
    omega
  rw [h.sysctl, validateSysctlFastopen, readSysctlFastopen, buffer, List.take_of_length_le hlength,
    parseFlags_append hread]
  rfl

lemma extractKernelVersion_plain {c : Char} {patch : List Char} (hc : c.isDigit = false)
    (hversion : version < 2 ^ 31) (hmajor : major < 2 ^ 31) :
    extractKernelVersion (Nat.toDigits 10 version ++ '.' :: (Nat.toDigits 10 major ++ c :: patch)) =
      some ((version : ℤ), (major : ℤ)) := by
  have hfirst : strtol (Nat.toDigits 10 version ++ '.' :: (Nat.toDigits 10 major ++ c :: patch)) =
      some ((version : ℤ), '.' :: (Nat.toDigits 10 major ++ c :: patch)) := by
    rw [strtol_decimal (by decide), longOf_small (hversion.trans (by decide))]
  have hsecond : strtol (Nat.toDigits 10 major ++ c :: patch) = some ((major : ℤ), c :: patch) := by
    rw [strtol_decimal hc, longOf_small (hmajor.trans (by decide))]
  rw [extractKernelVersion, hfirst, Option.bind_eq_bind, Option.bind_some]
  dsimp only
  rw [List.drop_one, List.tail_cons, hsecond, Option.bind_some, intOf_small hversion, intOf_small hmajor]
  rfl

lemma validateKernelVersion_plain (h : Plain env flags version major) :
    validateKernelVersion env.release = some (decide (4 < version ∨ version = 4 ∧ 5 ≤ major)) := by
  obtain ⟨c, patch, hc, hrelease⟩ := h.release
  rw [hrelease, validateKernelVersion, extractKernelVersion_plain hc h.version_lt h.major_lt, Option.map_some,
    Option.some_inj, Bool.eq_iff_iff]
  simp only [Bool.or_eq_true, Bool.and_eq_true, decide_eq_true_eq]
  omega

lemma portOf_plain (h : Plain env flags version major) :
    portOf env.convertPort = some (env.convertPort.getD defaultPort) := by
  cases hport : env.convertPort with
  | none => rfl
  | some port =>
    obtain ⟨k, rfl⟩ := h.port port hport
    rw [portOf, strtol_decimal (by decide)]
    rfl

lemma validateParameters_plain (h : Plain env flags version major) :
    ∃ ready, validateParameters env = some ready ∧ ∀ globals, ready = some globals ↔
      ∃ addr, env.convertAddr = some addr ∧ globals.convertPort = env.convertPort.getD defaultPort ∧
        globals.convertCookie = env.convertCookie ∧
        env.getaddrinfo addr globals.convertPort = some globals.converterAddr := by
  rw [validateParameters]
  cases env.convertAddr with
  | none => exact ⟨none, rfl, fun globals => by simp⟩
  | some addr =>
    rw [portOf_plain h]
    refine ⟨_, rfl, fun globals => ?_⟩
    rw [Option.map_eq_some_iff]
    constructor
    · rintro ⟨converterAddr, hresolved, rfl⟩
      exact ⟨addr, rfl, rfl, rfl, hresolved⟩
    · rintro ⟨_, ⟨⟩, hport, hcookie, hresolved⟩
      refine ⟨globals.converterAddr, hport ▸ hresolved, ?_⟩
      rw [← hport, ← hcookie]

/-- Where the system speaks the kernel's formats nothing undefined is read, and the library gets ready
exactly when it can use TCP Fast Open as it wants and can resolve its converter. -/
theorem init_ready_iff (stack : Stack) (env : Environment α) (flags version major : ℕ)
    (h : Plain env flags version major) :
    ∃ ready, validateConfig stack env = some ready ∧ ∀ globals, ready = some globals ↔
      flags &&& expectedFlags = expectedFlags ∧ (4 < version ∨ version = 4 ∧ 5 ≤ major) ∧
        ∃ addr, env.convertAddr = some addr ∧ globals.convertPort = env.convertPort.getD defaultPort ∧
          globals.convertCookie = env.convertCookie ∧
          env.getaddrinfo addr globals.convertPort = some globals.converterAddr := by
  rw [validateConfig, validateSysctlFastopen_plain h, Option.bind_eq_bind, Option.bind_some]
  by_cases hflags : flags &&& expectedFlags = expectedFlags
  · rw [decide_eq_true hflags, if_pos rfl, validateKernelVersion_plain h, Option.bind_some]
    by_cases hversion : 4 < version ∨ version = 4 ∧ 5 ≤ major
    · rw [decide_eq_true hversion]
      dsimp only
      rw [if_pos rfl]
      obtain ⟨ready, hready, hglobals⟩ := validateParameters_plain h
      refine ⟨ready, hready, fun globals => ?_⟩
      rw [hglobals]
      exact ⟨fun hset => ⟨hflags, hversion, hset⟩, fun hset => hset.2.2⟩
    · rw [decide_eq_false hversion]
      dsimp only
      rw [if_neg Bool.false_ne_true]
      exact ⟨none, rfl, fun globals => ⟨(fun hnone => by cases hnone), fun hset => absurd hset.2.1 hversion⟩⟩
  · rw [decide_eq_false hflags, if_neg Bool.false_ne_true, Option.bind_some]
    dsimp only
    rw [if_neg Bool.false_ne_true]
    exact ⟨none, rfl, fun globals => ⟨(fun hnone => by cases hnone), fun hset => absurd hset.1 hflags⟩⟩

def sample : Environment ℕ where
  sysctl := .content ['5', newline]
  release := some ['5', '.', '4', '.', '0', nul]
  convertAddr := some ['c']
  convertPort := some ['6', '3', '4', '5']
  convertCookie := none
  getaddrinfo addr port := some (addr.length + port.length)

theorem init_ready_iff_sample :
    Plain sample 5 5 4 ∧
      ∃ ready, validateConfig (.replicate 1024 nul) sample = some ready ∧ ∀ globals, ready = some globals ↔
        5 &&& expectedFlags = expectedFlags ∧ (4 < 5 ∨ 5 = 4 ∧ 5 ≤ 4) ∧
          ∃ addr, sample.convertAddr = some addr ∧ globals.convertPort = sample.convertPort.getD defaultPort ∧
            globals.convertCookie = sample.convertCookie ∧
            sample.getaddrinfo addr globals.convertPort = some globals.converterAddr := by
  have h : Plain sample 5 5 4 := by
    refine ⟨rfl, by decide, ⟨'.', ['0', nul], by decide, rfl⟩, by decide, by decide, ?_⟩
    intro port hport
    cases hport
    exact ⟨6345, by decide⟩
  exact ⟨h, init_ready_iff _ sample 5 5 4 h⟩

end Ready

end TransportConverter.Client.Startup
