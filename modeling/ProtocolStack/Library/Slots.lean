import Mathlib

/-!
# Tables of slots

A table is a list of slots, each live or dead, and a live slot has a key.
No two live slots share a key exactly when the keys of the live slots are
{lit}`Nodup`, and then the first live slot with a given key is the same slot
for every order of the table.  A step that lets every slot stay as it is or
die keeps a sublist of the live keys; filling one dead slot adds one key.
-/

namespace Slots

variable {α κ : Type} (live : α → Bool) (key : α → κ)

/-- The keys of the live slots, in table order. -/
def keys (l : List α) : List κ :=
  (l.filter live).map key

/-- {lit}`b` is what a step made of {lit}`a`: dead, or live under the key of a live {lit}`a`. -/
def Shrinks (a b : α) : Prop :=
  live b = false ∨ live a = true ∧ live b = true ∧ key b = key a

variable {live key}

theorem Shrinks.refl (a : α) : Shrinks live key a a := by
  cases h : live a with
  | false => exact .inl h
  | true => exact .inr ⟨h, h, rfl⟩

theorem Shrinks.trans {a b c : α} (hab : Shrinks live key a b) (hbc : Shrinks live key b c) :
    Shrinks live key a c := by
  rcases hbc with hc | ⟨hb, hc, hkey⟩
  · exact .inl hc
  · rcases hab with hb' | ⟨ha, -, hkey'⟩
    · rw [hb'] at hb
      cases hb
    · exact .inr ⟨ha, hc, hkey.trans hkey'⟩

theorem keys_cons (a : α) (l : List α) :
    keys live key (a :: l) = if live a then key a :: keys live key l else keys live key l := by
  cases h : live a with
  | false => simp [keys, h]
  | true => simp [keys, h]

theorem keys_sublist_cons (a : α) (l : List α) :
    (keys live key l).Sublist (keys live key (a :: l)) := by
  rw [keys_cons]
  split
  · exact List.sublist_cons_self _ _
  · exact List.Sublist.refl _

theorem keys_sublist_of_forall₂ {l l' : List α} (h : List.Forall₂ (Shrinks live key) l l') :
    (keys live key l').Sublist (keys live key l) := by
  induction h with
  | nil => exact List.Sublist.slnil
  | @cons a b l l' hab _ ih =>
      rcases hab with hdead | ⟨hla, hlb, hkey⟩
      · rw [keys_cons b, if_neg (by simp [hdead])]
        exact ih.trans (keys_sublist_cons a l)
      · rw [keys_cons a, keys_cons b, if_pos hla, if_pos hlb, hkey]
        exact ih.cons_cons _

theorem forall₂_refl (l : List α) : List.Forall₂ (Shrinks live key) l l :=
  List.forall₂_same.mpr fun a _ => Shrinks.refl a

theorem forall₂_modify {f : α → α} :
    ∀ {l : List α} {i : Nat}, (∀ a, l[i]? = some a → Shrinks live key a (f a)) →
      List.Forall₂ (Shrinks live key) l (l.modify i f)
  | [], _, _ => by simp
  | a :: l, 0, hf => by
      rw [List.modify_zero_cons]
      exact .cons (hf a rfl) (forall₂_refl l)
  | a :: l, i + 1, hf => by
      rw [List.modify_succ_cons]
      exact .cons (Shrinks.refl a) (forall₂_modify fun b hb => hf b hb)

theorem forall₂_trans :
    ∀ {l l' l'' : List α}, List.Forall₂ (Shrinks live key) l l' →
      List.Forall₂ (Shrinks live key) l' l'' → List.Forall₂ (Shrinks live key) l l''
  | [], [], [], .nil, .nil => .nil
  | _ :: _, _ :: _, _ :: _, .cons hab h, .cons hbc h' => .cons (hab.trans hbc) (forall₂_trans h h')

theorem forall₂_map {f : α → α} (hf : ∀ a, Shrinks live key a (f a)) (l : List α) :
    List.Forall₂ (Shrinks live key) l (l.map f) :=
  List.forall₂_map_right_iff.mpr (List.forall₂_same.mpr fun a _ => hf a)

/-- Filling a dead slot adds the key of what fills it. -/
theorem keys_set_perm {x : α} (hx : live x = true) :
    ∀ {l : List α} {i : Nat} {a : α}, l[i]? = some a → live a = false →
      (keys live key (l.set i x)).Perm (key x :: keys live key l)
  | [], _, _, hi, _ => by simp at hi
  | b :: l, 0, a, hi, ha => by
      simp only [List.getElem?_cons_zero, Option.some.injEq] at hi
      subst hi
      rw [List.set_cons_zero, keys_cons, keys_cons, if_pos hx, if_neg (by simp [ha])]
  | b :: l, i + 1, a, hi, ha => by
      have ih := keys_set_perm (l := l) hx hi ha
      rw [List.set_cons_succ, keys_cons, keys_cons]
      split
      · exact (ih.cons _).trans (List.Perm.swap _ _ _)
      · exact ih

theorem not_mem_keys_of_find?_eq_none [BEq κ] [LawfulBEq κ] {l : List α} {k : κ}
    (h : l.find? (fun a => live a && key a == k) = none) : k ∉ keys live key l := by
  intro hk
  obtain ⟨a, ha, rfl⟩ := List.mem_map.mp hk
  obtain ⟨hal, hlive⟩ := List.mem_filter.mp ha
  have := List.find?_eq_none.mp h a hal
  simp [hlive] at this

theorem find?_eq_some_iff [BEq κ] [LawfulBEq κ] {l : List α} (hn : (keys live key l).Nodup)
    (k : κ) (r : α) :
    l.find? (fun a => live a && key a == k) = some r ↔ r ∈ l ∧ live r = true ∧ key r = k := by
  constructor
  · intro h
    have hp := List.find?_some h
    simp only [Bool.and_eq_true, beq_iff_eq] at hp
    exact ⟨List.mem_of_find?_eq_some h, hp⟩
  · rintro ⟨hr, hlive, rfl⟩
    cases hfind : l.find? (fun a => live a && key a == key r) with
    | none =>
        have := List.find?_eq_none.mp hfind r hr
        simp [hlive] at this
    | some r' =>
        -- the slot found is live with the same key, and live keys are unique
        have hp := List.find?_some hfind
        simp only [Bool.and_eq_true, beq_iff_eq] at hp
        have hm' : r' ∈ l.filter live := List.mem_filter.mpr ⟨List.mem_of_find?_eq_some hfind, hp.1⟩
        have hm : r ∈ l.filter live := List.mem_filter.mpr ⟨hr, hlive⟩
        rw [List.inj_on_of_nodup_map hn hm' hm hp.2]

/-- With unique live keys, the first live slot with a key does not depend on the order of the table. -/
theorem find?_perm [BEq κ] [LawfulBEq κ] {l l' : List α} (hp : l.Perm l')
    (hn : (keys live key l).Nodup) (k : κ) :
    l.find? (fun a => live a && key a == k) = l'.find? (fun a => live a && key a == k) := by
  have hn' : (keys live key l').Nodup := ((hp.filter live).map key).nodup_iff.mp hn
  cases h : l.find? (fun a => live a && key a == k) with
  | some r =>
      obtain ⟨hr, hlive, hk⟩ := (find?_eq_some_iff hn k r).mp h
      exact ((find?_eq_some_iff hn' k r).mpr ⟨hp.subset hr, hlive, hk⟩).symm
  | none =>
      cases h' : l'.find? (fun a => live a && key a == k) with
      | none => rfl
      | some r =>
          obtain ⟨hr, hlive, hk⟩ := (find?_eq_some_iff hn' k r).mp h'
          rw [(find?_eq_some_iff hn k r).mpr ⟨hp.symm.subset hr, hlive, hk⟩] at h
          cases h

/-- Unique live keys: two live slots at different places have different keys. -/
theorem key_ne_of_nodup {l : List α} (hn : (keys live key l).Nodup) {i j : Nat} {a b : α}
    (hij : i ≠ j) (ha : l[i]? = some a) (hb : l[j]? = some b) (hla : live a = true)
    (hlb : live b = true) : key a ≠ key b := by
  have hpw : l.Pairwise fun a b => live a = true → live b = true → key a ≠ key b :=
    List.pairwise_filter.mp (List.pairwise_map.mp hn)
  obtain ⟨hi, rfl⟩ := List.getElem?_eq_some_iff.mp ha
  obtain ⟨hj, rfl⟩ := List.getElem?_eq_some_iff.mp hb
  rcases Nat.lt_or_gt_of_ne hij with h | h
  · exact List.pairwise_iff_getElem.mp hpw i j hi hj h hla hlb
  · exact (List.pairwise_iff_getElem.mp hpw j i hj hi h hlb hla).symm

/-- A change to the first slot a search finds, that keeps it found, is what the search finds afterwards. -/
theorem find?_modify_of_findIdx? {p : α → Bool} {f : α → α} (hf : ∀ a, p a = true → p (f a) = true) :
    ∀ {l : List α} {i : Nat}, l.findIdx? p = some i → (l.modify i f).find? p = l[i]?.map f
  | [], _, h => by simp at h
  | a :: l, i, h => by
      rw [List.findIdx?_cons] at h
      cases hpa : p a with
      | true =>
          rw [if_pos hpa] at h
          cases h
          rw [List.modify_zero_cons, List.find?_cons_of_pos (hf a hpa)]
          rfl
      | false =>
          rw [if_neg (by simp [hpa])] at h
          obtain ⟨j, hj, rfl⟩ := Option.map_eq_some_iff.mp h
          rw [List.modify_succ_cons, List.find?_cons_of_neg (by simp [hpa] : ¬p a = true),
            find?_modify_of_findIdx? hf hj]
          rfl

/-- Filling a slot with a live slot under a key that no live slot has makes it the one found. -/
theorem find?_set_of_not_mem_keys [BEq κ] [LawfulBEq κ] {l : List α} {i : Nat} {x : α} {k : κ}
    (hi : i < l.length) (hk : k ∉ keys live key l) (hlx : live x = true) (hkx : key x = k) :
    (l.set i x).find? (fun a => live a && key a == k) = some x := by
  cases h : (l.set i x).find? (fun a => live a && key a == k) with
  | none =>
      have := List.find?_eq_none.mp h x (List.mem_set hi x)
      simp [hlx, hkx] at this
  | some y =>
      have hp := List.find?_some h
      simp only [Bool.and_eq_true, beq_iff_eq] at hp
      rcases List.mem_or_eq_of_mem_set (List.mem_of_find?_eq_some h) with hy | rfl
      · exact absurd (List.mem_map.mpr ⟨y, List.mem_filter.mpr ⟨hy, hp.1⟩, hp.2⟩) hk
      · rfl

theorem modify_eq_set_of_getElem? {l : List α} {i : Nat} {a : α} (f : α → α) (h : l[i]? = some a) :
    l.modify i f = l.set i (f a) := by
  apply List.ext_getElem?
  intro j
  by_cases hj : i = j
  · subst hj
    obtain ⟨hi, rfl⟩ := List.getElem?_eq_some_iff.mp h
    simp [hi]
  · simp [hj]

/-- A slot of {lit}`l.modify i f` was a slot of {lit}`l`, or is {lit}`f` of the {lit}`i`-th. -/
theorem mem_modify {f : α → α} :
    ∀ {l : List α} {i : Nat} {b : α}, b ∈ l.modify i f → b ∈ l ∨ ∃ a, l[i]? = some a ∧ b = f a
  | [], _, _, h => by simp at h
  | a :: l, 0, b, h => by
      rw [List.modify_zero_cons, List.mem_cons] at h
      rcases h with rfl | h
      · exact .inr ⟨a, rfl, rfl⟩
      · exact .inl (List.mem_cons_of_mem _ h)
  | a :: l, i + 1, b, h => by
      rw [List.modify_succ_cons, List.mem_cons] at h
      rcases h with rfl | h
      · exact .inl List.mem_cons_self
      · rcases mem_modify h with h | ⟨a', ha', rfl⟩
        · exact .inl (List.mem_cons_of_mem _ h)
        · exact .inr ⟨a', ha', rfl⟩

end Slots
