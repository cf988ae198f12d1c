import Mathlib

/-! Records laid end to end, each of which announces its own length in its first elements. -/

namespace TransportConverter.Foundations.Records

structure Format (α : Type*) where
  head : ℕ
  size : List α → ℕ
  size_append : ∀ xs ys, head ≤ xs.length → size (xs ++ ys) = size xs

variable {α β : Type*} (F : Format α) (decode : List α → Option β)

def Format.IsRecord (xs : List α) : Prop :=
  F.head ≤ xs.length ∧ F.size xs = xs.length

inductive Decodes : List α → List β → Prop
  | nil : Decodes [] []
  | cons {f rest : List α} {t : β} {ts : List β} :
      F.IsRecord f → decode f = some t → Decodes rest ts → Decodes (f ++ rest) (t :: ts)

variable {F decode}

lemma Format.IsRecord.size_append {f : List α} (h : F.IsRecord f) (rest : List α) :
    F.size (f ++ rest) = f.length := by
  rw [F.size_append f rest h.1, h.2]

lemma Format.isRecord_take {xs : List α} (hhead : F.head ≤ F.size xs) (hsize : F.size xs ≤ xs.length) :
    F.IsRecord (xs.take (F.size xs)) := by
  have hlen : (xs.take (F.size xs)).length = F.size xs := by
    rw [List.length_take, min_eq_left hsize]
  have happ := F.size_append (xs.take (F.size xs)) (xs.drop (F.size xs)) (by omega)
  rw [List.take_append_drop] at happ
  exact ⟨by omega, by rw [← happ, hlen]⟩

lemma decodes_cut {xs : List α} {ts : List β} (hne : xs ≠ []) :
    Decodes F decode xs ts ↔
      F.head ≤ F.size xs ∧ F.size xs ≤ xs.length ∧
        ∃ t ts', ts = t :: ts' ∧ decode (xs.take (F.size xs)) = some t ∧
          Decodes F decode (xs.drop (F.size xs)) ts' := by
  constructor
  · intro h
    cases h with
    | nil => exact (hne rfl).elim
    | @cons f rest t ts hf hd hr =>
      rw [hf.size_append]
      refine ⟨hf.1, by simp, t, ts, rfl, ?_, ?_⟩
      · rwa [List.take_left]
      · rwa [List.drop_left]
  · rintro ⟨hh, hs, t, ts', rfl, hd, hr⟩
    have hc := Decodes.cons (F.isRecord_take hh hs) hd hr
    rwa [List.take_append_drop] at hc

lemma Decodes.unique {xs : List α} {ts us : List β} (hhead : 0 < F.head)
    (ht : Decodes F decode xs ts) (hu : Decodes F decode xs us) : ts = us := by
  induction ht generalizing us with
  | nil =>
    generalize hxs : ([] : List α) = xs at hu
    cases hu with
    | nil => rfl
    | @cons f rest _ _ hf _ _ =>
      have := hf.1
      simp only [List.nil_eq, List.append_eq_nil_iff] at hxs
      simp only [hxs.1, List.length_nil] at this
      omega
  | @cons f rest t ts hf hd hr ih =>
    have hne : f ++ rest ≠ [] := by
      intro h0
      have := hf.1
      simp only [List.append_eq_nil_iff] at h0
      simp only [h0.1, List.length_nil] at this
      omega
    obtain ⟨_, _, u, us', rfl, hd', hr'⟩ := (decodes_cut hne).mp hu
    rw [hf.size_append, List.take_left] at hd'
    rw [hf.size_append, List.drop_left] at hr'
    rw [Option.some.inj (hd.symm.trans hd'), ih hr']

lemma decodes_iff_records {xs : List α} {ts : List β} :
    Decodes F decode xs ts ↔
      ∃ fs : List (List α), xs = fs.flatten ∧ (∀ f ∈ fs, F.IsRecord f) ∧
        fs.map decode = ts.map some := by
  constructor
  · intro h
    induction h with
    | nil => exact ⟨[], rfl, by simp, rfl⟩
    | @cons f rest t ts hf hd _ ih =>
      obtain ⟨fs, rfl, hfs, hmap⟩ := ih
      exact ⟨f :: fs, by simp, by simpa using ⟨hf, hfs⟩, by simp [hd, hmap]⟩
  · rintro ⟨fs, rfl, hfs, hmap⟩
    induction fs generalizing ts with
    | nil =>
      obtain rfl : ts = [] := by simpa using hmap
      exact .nil
    | cons f fs ih =>
      cases ts with
      | nil => simp at hmap
      | cons t ts =>
        simp only [List.map_cons, List.cons.injEq] at hmap
        simp only [List.mem_cons, forall_eq_or_imp] at hfs
        exact .cons hfs.1 hmap.1 (ih hfs.2 hmap.2)

lemma decodes_flatMap {γ : Type*} {encode : γ → List α} {read : γ → β} {cs : List γ}
    (hrec : ∀ c ∈ cs, F.IsRecord (encode c)) (hdec : ∀ c ∈ cs, decode (encode c) = some (read c)) :
    Decodes F decode (cs.flatMap encode) (cs.map read) := by
  induction cs with
  | nil => exact .nil
  | cons c cs ih =>
    simp only [List.mem_cons, forall_eq_or_imp] at hrec hdec
    exact .cons hrec.1 hdec.1 (ih hrec.2 hdec.2)

end TransportConverter.Foundations.Records
