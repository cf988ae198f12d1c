import TransportConverter.Client.ConnectTruth

/-! The intercepted calls over whatever functions they stand in front of, for a descriptor that no
node of the table belongs to. -/

namespace TransportConverter.Client

open Foundations.Memory Wire Codec

inductive Arguments
  | connect (addr : Sockaddr) (addrlen : ℕ)
  | send (buf : Bytes) (flags : ℤ)
  | recv (len : ℕ) (flags : ℤ)
  | close

abbrev Original := ℤ → Arguments → Library → Outcome ℤ

section Through

variable (cookie : Option Block) (a : Answers) (fuel : ℕ) (fd : ℤ) (original : Library → Outcome ℤ)

def connectThrough (addr : Sockaddr) (s : Library) : Option (Outcome ℤ) :=
  match s.htable.lookup fd with
  | none => some .undefined
  | some false => some (original s)
  | some true =>
    match addr with
    | .inet _ _ | .inet6 _ =>
      match redirect cookie a fd addr s with
      | none => some .undefined
      | some (result, s) =>
        if 0 ≤ result then
          if 0 < result then readConvert a fuel false fd s
          else some (.returns (-econnrefused) s)
        else some (original (s.freeState fd))
    | .other _ => some (original (s.freeState fd))

def closeThrough (s : Library) : Option (Outcome ℤ) :=
  match s.free fd with
  | none => some .undefined
  | some s => some (original s)

end Through

def intercepted (cookie : Option Block) (a : Answers) (fuel : ℕ) (fd : ℤ) (original : Original)
    (args : Arguments) : Library → Option (Outcome ℤ) :=
  match args with
  | .connect addr _ => connectThrough cookie a fuel fd (original fd args) addr
  | .send _ _ | .recv _ _ => afterReply a fuel fd (original fd args)
  | .close => closeThrough fd (original fd args)

/-- `MSG_PEEK` is the second bit of the flags. -/
def peeks (flags : ℤ) : Bool := flags.testBit 1

def Arguments.call : Arguments → Call
  | .connect addr _ => .connect addr
  | .send _ _ => .send
  | .recv len flags => .recv len (peeks flags)
  | .close => .close

def kernelCalls (a : Answers) : Original
  | fd, .connect _ _ => originalConnect a fd
  | fd, .send _ _ => originalSend a fd
  | fd, .recv len flags => originalRecv a fd len (peeks flags)
  | fd, .close => fun s => .returns a.close ((s.shut fd).record (.close fd))

section Calls

variable {cookie : Option Block} {a : Answers} {fuel : ℕ} {fd : ℤ} {original : Original}
  {args : Arguments} {s : Library}

lemma perform_eq_intercepted :
    perform cookie a fuel fd args.call s = intercepted cookie a fuel fd (kernelCalls a) args s := by
  cases args with
  | connect addr addrlen => rfl
  | send buf flags => rfl
  | recv len flags => rfl
  | close =>
    change close a fd s = closeThrough fd (kernelCalls a fd .close) s
    rw [close, closeThrough]
    cases s.free fd with
    | none => rfl
    | some t => rfl

lemma intercepted_untracked (h : s.htable.lookup fd = some false) :
    intercepted cookie a fuel fd original args s = some (original fd args s) := by
  have hfree : s.free fd = some s := by
    rw [Library.free, h]
    rfl
  cases args with
  | connect addr addrlen => simp only [intercepted, connectThrough, h]
  | send buf flags => simp only [intercepted, afterReply, h]
  | recv len flags => simp only [intercepted, afterReply, h]
  | close => simp only [intercepted, closeThrough, hfree]

lemma intercepted_noBucket (h : s.htable.lookup fd = none) :
    intercepted cookie a fuel fd original args s = some .undefined := by
  have hfree : s.free fd = none := by
    rw [Library.free, h]
    rfl
  cases args with
  | connect addr addrlen => simp only [intercepted, connectThrough, h]
  | send buf flags => simp only [intercepted, afterReply, h]
  | recv len flags => simp only [intercepted, afterReply, h]
  | close => simp only [intercepted, closeThrough, hfree]

end Calls

def Unmanaged (htable : SocketHtable) (fd : ℤ) : Prop := ∀ bucket, fd ∉ htable bucket

/-- The bucket is one of the array, and the call is the original one, made once on the state as it was, its
table included. -/
structure PassesThrough (s : Library) (fd : ℤ) : Prop where
  bucket : 0 ≤ fd.tmod numBuckets ∧ fd.tmod numBuckets < numBuckets
  call : ∀ cookie a fuel original args,
    intercepted cookie a fuel fd original args s = some (original fd args s)

section Buckets

variable {fd : ℤ} {s : Library}

lemma tmod_nonneg_iff : 0 ≤ fd.tmod numBuckets ↔ 0 ≤ fd ∨ numBuckets ∣ fd := by
  constructor
  · intro h
    rcases le_or_gt 0 fd with hfd | hfd
    · exact Or.inl hfd
    · right
      have hpos : 0 ≤ (-fd).tmod numBuckets := Int.tmod_nonneg _ (by omega)
      rw [Int.neg_tmod] at hpos
      exact Int.dvd_of_tmod_eq_zero (by omega)
  · rintro (hfd | hdvd)
    · exact Int.tmod_nonneg _ hfd
    · exact (Int.tmod_eq_zero_of_dvd hdvd).ge

lemma lookup_unmanaged (h : Unmanaged s.htable fd) :
    s.htable.lookup fd = if 0 ≤ fd.tmod numBuckets then some false else none := by
  simp only [SocketHtable.lookup, hash]
  split_ifs with hbucket
  · rw [Option.map_some, decide_eq_false (h _)]
  · rfl

end Buckets

theorem unmanaged_passes_iff (s : Library) (fd : ℤ) (h : Unmanaged s.htable fd) :
    PassesThrough s fd ↔ 0 ≤ fd ∨ numBuckets ∣ fd := by
  constructor
  · intro hpass
    exact tmod_nonneg_iff.mp hpass.bucket.1
  · intro hfd
    have hbucket := tmod_nonneg_iff.mpr hfd
    refine ⟨⟨hbucket, Int.tmod_lt_of_pos fd (by decide)⟩, fun cookie a fuel original args => ?_⟩
    apply intercepted_untracked
    rw [lookup_unmanaged h, if_pos hbucket]

def besideThree : Library :=
  (socket afInet sockStream ipprotoMptcp 1027 true [] .start).2

theorem unmanaged_passes_iff_besideThree :
    hash 3 = some 3 ∧ besideThree.htable 3 = [1027] ∧
      (PassesThrough besideThree 3 ↔ 0 ≤ (3 : ℤ) ∨ numBuckets ∣ 3) := by
  have hunmanaged : Unmanaged besideThree.htable 3 := by
    intro bucket hmem
    rcases eq_or_ne bucket 3 with rfl | hne
    · exact absurd hmem (by decide)
    · rw [show besideThree.htable bucket = [] from Function.update_of_ne hne _ _] at hmem
      cases hmem
  exact ⟨rfl, rfl, unmanaged_passes_iff besideThree 3 hunmanaged⟩

/-- `close(-1)`, which an error path may make, looks into what lies before the array. -/
theorem closeMinusOne_strays :
    (-1 : ℤ).tmod numBuckets = -1 ∧ Unmanaged Library.start.htable (-1) ∧
      (∀ original args, intercepted none willing 0 (-1) original args .start = some .undefined) ∧
      ¬ PassesThrough .start (-1) := by
  have hnone : Unmanaged Library.start.htable (-1) := fun _ => List.not_mem_nil
  refine ⟨by decide, hnone, fun original args => intercepted_noBucket rfl, fun h => ?_⟩
  exact absurd h.bucket.1 (by decide)

end TransportConverter.Client
