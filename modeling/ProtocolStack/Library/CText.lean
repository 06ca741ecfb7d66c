import Mathlib

/-!
# Text conversions of the C library

{lit}`strtol`, {lit}`isspace`, {lit}`strrchr`, {lit}`snprintf` and the
conversions {lit}`%d` and {lit}`%0wx`, as the C standard specifies them in
the C locale.  A string is the list of its characters up to its terminating
NUL, and a pointer into it is an offset; reading at the end of the list reads
the NUL.

The lemmas are what a round trip through printed text needs: {lit}`strtol`
reads back a number printed in its base when the character after it is not a
letter or a digit, and {lit}`strrchr` finds a separator that the text after
it does not hold.
-/

namespace CText

def LONG_MAX : Int := 2 ^ 63 - 1

def LONG_MIN : Int := -2 ^ 63

/-- {lit}`isspace` in the C locale: the space, and tab, newline, vertical tab, form feed and carriage return (9 to 13). -/
def isSpace (c : Char) : Bool :=
  c.toNat == 32 || (9 ≤ c.toNat && c.toNat ≤ 13)

/-- The value of a digit or a letter as a digit of a base up to 36. -/
def digitValue (c : Char) : Option Nat :=
  -- '0' to '9', then 'a' to 'z' and 'A' to 'Z'
  if 48 ≤ c.toNat ∧ c.toNat ≤ 57 then some (c.toNat - 48)
  else if 97 ≤ c.toNat ∧ c.toNat ≤ 122 then some (c.toNat - 87)
  else if 65 ≤ c.toNat ∧ c.toNat ≤ 90 then some (c.toNat - 55)
  else none

def isDigitOf (base : Nat) (c : Char) : Bool :=
  match digitValue c with
  | some d => decide (d < base)
  | none => false

/-- The value of a sequence of digits, the most significant first. -/
def digitsValue (base : Nat) (ds : List Char) : Nat :=
  ds.foldl (fun v c => base * v + (digitValue c).getD 0) 0

/-- An optional sign: whether it is a minus, and its length. -/
def strtolSign (t : List Char) : Bool × Nat :=
  if t.head? = some '-' then (true, 1)
  else if t.head? = some '+' then (false, 1)
  else (false, 0)

/-- The length of the {lit}`0x` or {lit}`0X` that base 16 admits in front of a hexadecimal digit. -/
def strtolPrefix (base : Nat) (u : List Char) : Nat :=
  if base = 16 ∧ u.head? = some '0' ∧ (u[1]? = some 'x' ∨ u[1]? = some 'X') ∧
      (u.drop 2).head?.map (isDigitOf 16) = some true then 2
  else 0

/--
{lit}`strtol(nptr, &endptr, base)` for a base from 2 to 36: the value of the
subject sequence, clamped to the range of a {lit}`long`, and the offset of
{lit}`endptr` from {lit}`nptr`, which is 0 where there is no subject
sequence.
-/
def strtol (s : List Char) (base : Nat) : Int × Nat :=
  let ws := (s.takeWhile isSpace).length
  let t := s.dropWhile isSpace
  let sign := strtolSign t
  let u := t.drop sign.2
  let pre := strtolPrefix base u
  let digits := (u.drop pre).takeWhile (isDigitOf base)
  if digits = [] then (0, 0)
  else
    let v : Int := digitsValue base digits
    (if sign.1 then max (-v) LONG_MIN else min v LONG_MAX, ws + sign.2 + pre + digits.length)

/-- {lit}`strrchr(s, c)` for a character other than NUL: the offset of the last {lit}`c`. -/
def strrchr (s : List Char) (c : Char) : Option Nat :=
  match s with
  | [] => none
  | d :: rest =>
      match strrchr rest c with
      | some i => some (i + 1)
      | none => if d = c then some 0 else none

/-- The string {lit}`snprintf` leaves in a buffer of {lit}`size` bytes, {lit}`size` positive: its text cut to {lit}`size - 1` characters. -/
def snprintf (size : Nat) (text : List Char) : List Char :=
  text.take (size - 1)

/-- The conversion {lit}`%d` of a non-negative {lit}`int`. -/
def formatD (n : Nat) : List Char :=
  Nat.toDigits 10 n

/-- The conversion {lit}`%0wx`: lowercase hexadecimal, padded with zeros on the left to {lit}`w` characters. -/
def formatX0 (w n : Nat) : List Char :=
  List.replicate (w - (Nat.toDigits 16 n).length) '0' ++ Nat.toDigits 16 n

/-! ## Digits -/

theorem isSpace_eq_false_of_digitValue {c : Char} {d : Nat} (h : digitValue c = some d) :
    isSpace c = false := by
  unfold digitValue at h
  simp only [isSpace, Bool.or_eq_false_iff, beq_eq_false_iff_ne, Bool.and_eq_false_iff,
    decide_eq_false_iff_not, Nat.not_le]
  split_ifs at h <;> omega

theorem isDigitOf_iff {base : Nat} {c : Char} :
    isDigitOf base c = true ↔ ∃ d, digitValue c = some d ∧ d < base := by
  unfold isDigitOf
  cases digitValue c with
  | none => simp
  | some d => simp

theorem digitValue_digitChar {k : Nat} (hk : k < 16) : digitValue (Nat.digitChar k) = some k := by
  interval_cases k <;> rfl

theorem digitValue_zero_char : digitValue '0' = some 0 := rfl

theorem digitsValue_append_singleton (base : Nat) (ds : List Char) (c : Char) :
    digitsValue base (ds ++ [c]) = base * digitsValue base ds + (digitValue c).getD 0 := by
  simp [digitsValue, List.foldl_append]

theorem digitsValue_replicate_zero_append (base k : Nat) (ds : List Char) :
    digitsValue base (List.replicate k '0' ++ ds) = digitsValue base ds := by
  have hzeros : ∀ k, (List.replicate k '0').foldl (fun v c => base * v + (digitValue c).getD 0) 0 = 0 := by
    intro k
    induction k with
    | zero => rfl
    | succ k ih => rw [List.replicate_succ', List.foldl_append, ih]; rfl
  simp only [digitsValue, List.foldl_append, hzeros]

section Printed

variable {base : Nat} (hbase : 1 < base) (hbase16 : base ≤ 16)
include hbase hbase16

theorem digitsValue_toDigits (n : Nat) : digitsValue base (Nat.toDigits base n) = n := by
  induction n using Nat.base_induction base hbase with
  | single m hm =>
      rw [Nat.toDigits_of_lt_base hm, ← List.nil_append [_], digitsValue_append_singleton,
        digitValue_digitChar (by omega)]
      simp [digitsValue]
  | digit m k hk hm ih =>
      rw [← Nat.toDigits_append_toDigits hbase hm hk, Nat.toDigits_of_lt_base hk,
        digitsValue_append_singleton, ih, digitValue_digitChar (by omega)]
      rfl

theorem isDigitOf_of_mem_toDigits (n : Nat) : ∀ c ∈ Nat.toDigits base n, isDigitOf base c = true := by
  induction n using Nat.base_induction base hbase with
  | single m hm =>
      intro c hc
      rw [Nat.toDigits_of_lt_base hm, List.mem_singleton] at hc
      subst hc
      exact isDigitOf_iff.mpr ⟨m, digitValue_digitChar (by omega), hm⟩
  | digit m k hk hm ih =>
      intro c hc
      rw [← Nat.toDigits_append_toDigits hbase hm hk, Nat.toDigits_of_lt_base hk,
        List.mem_append, List.mem_singleton] at hc
      rcases hc with hc | rfl
      · exact ih c hc
      · exact isDigitOf_iff.mpr ⟨k, digitValue_digitChar (by omega), hk⟩

end Printed

/-! ## Reading digits back -/

/-- A character after a number that is neither a letter nor a digit ends it. -/
def EndsNumber (rest : List Char) : Prop :=
  ∀ c ∈ rest.head?, digitValue c = none

theorem endsNumber_nil : EndsNumber [] := by
  intro c hc
  cases hc

theorem endsNumber_cons {c : Char} (hc : digitValue c = none) (rest : List Char) :
    EndsNumber (c :: rest) := by
  intro d hd
  cases hd
  exact hc

theorem isDigitOf_eq_false {base : Nat} {c : Char} (hc : digitValue c = none) :
    isDigitOf base c = false := by
  simp [isDigitOf, hc]

theorem takeWhile_isDigitOf_of_endsNumber (base : Nat) {rest : List Char} (hrest : EndsNumber rest) :
    rest.takeWhile (isDigitOf base) = [] := by
  cases rest with
  | nil => rfl
  | cons r rs =>
      apply List.takeWhile_cons_of_neg
      rw [isDigitOf_eq_false (hrest r rfl)]
      simp

theorem strtolSign_of_digit {c : Char} {d : Nat} (hc : digitValue c = some d) (t : List Char) :
    strtolSign (c :: t) = (false, 0) := by
  have hminus : c ≠ '-' := by rintro rfl; cases hc
  have hplus : c ≠ '+' := by rintro rfl; cases hc
  simp [strtolSign, hminus, hplus]

/-- The {lit}`0x` of base 16 needs an {lit}`x` second, which is neither a digit of base 16 nor a character that ends a number. -/
theorem strtolPrefix_digits_append {base : Nat} {ds rest : List Char}
    (hds : ∀ c ∈ ds, isDigitOf base c = true) (hrest : EndsNumber rest) :
    strtolPrefix base (ds ++ rest) = 0 := by
  unfold strtolPrefix
  rw [if_neg]
  rintro ⟨rfl, hzero, hx, -⟩
  match ds, hds with
  | [], _ =>
      -- the '0' would be the character after the number
      exact absurd (hrest '0' (by simpa using hzero)) (by decide)
  | [_], _ =>
      have hx' : rest.head? = some 'x' ∨ rest.head? = some 'X' := by
        simpa [List.head?_eq_getElem?] using hx
      rcases hx' with h | h
      · exact absurd (hrest 'x' h) (by decide)
      · exact absurd (hrest 'X' h) (by decide)
  | _ :: b :: _, hds =>
      have hb := hds b (by simp)
      have hx' : b = 'x' ∨ b = 'X' := by simpa using hx
      rcases hx' with rfl | rfl <;> exact absurd hb (by decide)

/-! ## Subject sequences -/

/--
The subject sequence of {lit}`strtol` in {lit}`base`: white space, an
optional sign, for base 16 an optional {lit}`0x` or {lit}`0X`, and a
nonempty run of digits of the base.
-/
structure Subject (base : Nat) (ws sgn pre ds : List Char) : Prop where
  ws_space : ∀ c ∈ ws, isSpace c = true
  sgn_eq : sgn = [] ∨ sgn = ['-'] ∨ sgn = ['+']
  pre_eq : pre = [] ∨ base = 16 ∧ (pre = ['0', 'x'] ∨ pre = ['0', 'X'])
  ds_ne : ds ≠ []
  ds_digits : ∀ c ∈ ds, isDigitOf base c = true

/-- The value {lit}`strtol` gives a subject sequence with sign {lit}`sgn` and digits {lit}`ds`. -/
def subjectValue (base : Nat) (sgn ds : List Char) : Int :=
  if sgn = ['-'] then max (-(digitsValue base ds : Int)) LONG_MIN
  else min (digitsValue base ds : Int) LONG_MAX

theorem strtolPrefix_hex {c : Char} (hc : isDigitOf 16 c = true) (x : Char) (hx : x = 'x' ∨ x = 'X')
    (rest : List Char) : strtolPrefix 16 ('0' :: x :: c :: rest) = 2 := by
  unfold strtolPrefix
  rw [if_pos]
  refine ⟨rfl, rfl, ?_, by simp [hc]⟩
  rcases hx with rfl | rfl <;> simp

theorem strtol_subject_append {base : Nat} {ws sgn pre ds : List Char}
    (h : Subject base ws sgn pre ds) {rest : List Char} (hrest : EndsNumber rest) :
    strtol (ws ++ sgn ++ pre ++ ds ++ rest) base =
      (subjectValue base sgn ds, (ws ++ sgn ++ pre ++ ds).length) := by
  obtain ⟨d, ds', rfl⟩ := List.exists_cons_of_ne_nil h.ds_ne
  obtain ⟨v, hv, -⟩ := isDigitOf_iff.mp (h.ds_digits d List.mem_cons_self)
  have hdigits : (d :: ds' ++ rest).takeWhile (isDigitOf base) = d :: ds' := by
    rw [List.takeWhile_append_of_pos h.ds_digits, takeWhile_isDigitOf_of_endsNumber base hrest,
      List.append_nil]
  have hafter : ((pre ++ d :: ds' ++ rest).drop pre.length).takeWhile (isDigitOf base) = d :: ds' := by
    rw [List.append_assoc, List.drop_left, hdigits]
  have hpre : strtolPrefix base (pre ++ d :: ds' ++ rest) = pre.length := by
    rcases h.pre_eq with rfl | ⟨rfl, rfl | rfl⟩
    · exact strtolPrefix_digits_append h.ds_digits hrest
    · exact strtolPrefix_hex (h.ds_digits d List.mem_cons_self) 'x' (.inl rfl) _
    · exact strtolPrefix_hex (h.ds_digits d List.mem_cons_self) 'X' (.inr rfl) _
  -- the character after the white space is a sign, a 0 or a digit
  obtain ⟨c, cs, hc, hcspace, hcsign⟩ : ∃ c cs, sgn ++ pre ++ d :: ds' ++ rest = c :: cs ∧
      isSpace c = false ∧ (sgn = [] → strtolSign (c :: cs) = (false, 0)) := by
    rcases h.sgn_eq with rfl | rfl | rfl
    · rcases h.pre_eq with rfl | ⟨-, rfl | rfl⟩
      · exact ⟨d, ds' ++ rest, rfl, isSpace_eq_false_of_digitValue hv,
          fun _ => strtolSign_of_digit hv _⟩
      · exact ⟨'0', _, rfl, by decide, fun _ => strtolSign_of_digit digitValue_zero_char _⟩
      · exact ⟨'0', _, rfl, by decide, fun _ => strtolSign_of_digit digitValue_zero_char _⟩
    · exact ⟨'-', _, rfl, by decide, fun h => by cases h⟩
    · exact ⟨'+', _, rfl, by decide, fun h => by cases h⟩
  have hws : (ws ++ sgn ++ pre ++ d :: ds' ++ rest).takeWhile isSpace = ws := by
    rw [List.append_assoc, List.append_assoc, List.append_assoc, List.takeWhile_append_of_pos h.ws_space,
      ← List.append_assoc, ← List.append_assoc, hc, List.takeWhile_cons_of_neg (by simp [hcspace]),
      List.append_nil]
  have hdrop : (ws ++ sgn ++ pre ++ d :: ds' ++ rest).dropWhile isSpace = sgn ++ pre ++ d :: ds' ++ rest := by
    rw [List.append_assoc, List.append_assoc, List.append_assoc, List.dropWhile_append_of_pos h.ws_space,
      ← List.append_assoc, ← List.append_assoc, hc, List.dropWhile_cons_of_neg (by simp [hcspace])]
  have hsign : strtolSign (sgn ++ pre ++ d :: ds' ++ rest) = (decide (sgn = ['-']), sgn.length) ∧
      (sgn ++ pre ++ d :: ds' ++ rest).drop sgn.length = pre ++ d :: ds' ++ rest := by
    rcases h.sgn_eq with rfl | rfl | rfl
    · exact ⟨by rw [hc, hcsign rfl]; rfl, rfl⟩
    · exact ⟨by simp [strtolSign], rfl⟩
    · exact ⟨by simp [strtolSign], rfl⟩
  simp only [strtol, hws, hdrop, hsign.1, hsign.2, hpre, hafter, if_neg (List.cons_ne_nil d ds')]
  simp [subjectValue, List.length_append, Nat.add_assoc]

theorem strtolSign_spec (t : List Char) :
    ∃ sgn, (sgn = [] ∨ sgn = ['-'] ∨ sgn = ['+']) ∧ t = sgn ++ t.drop (strtolSign t).2 ∧
      sgn.length = (strtolSign t).2 ∧ ((strtolSign t).1 = true ↔ sgn = ['-']) := by
  unfold strtolSign
  split_ifs with hminus hplus
  · obtain ⟨t', rfl⟩ := List.head?_eq_some_iff.mp hminus
    exact ⟨['-'], .inr (.inl rfl), rfl, rfl, by simp⟩
  · obtain ⟨t', rfl⟩ := List.head?_eq_some_iff.mp hplus
    exact ⟨['+'], .inr (.inr rfl), rfl, rfl, by simp⟩
  · exact ⟨[], .inl rfl, rfl, rfl, by simp⟩

theorem strtolPrefix_spec (base : Nat) (u : List Char) :
    ∃ pre, (pre = [] ∨ base = 16 ∧ (pre = ['0', 'x'] ∨ pre = ['0', 'X'])) ∧
      u = pre ++ u.drop (strtolPrefix base u) ∧ pre.length = strtolPrefix base u := by
  unfold strtolPrefix
  split_ifs with hcond
  · obtain ⟨hbase, hzero, hx, -⟩ := hcond
    -- the condition reads two characters, a '0' and an 'x' or 'X'
    rcases u with _ | ⟨a, _ | ⟨b, u⟩⟩
    · cases hzero
    · simp at hx
    · obtain rfl : a = '0' := by simpa using hzero
      have hb : b = 'x' ∨ b = 'X' := by simpa using hx
      refine ⟨['0', b], .inr ⟨hbase, ?_⟩, rfl, rfl⟩
      rcases hb with rfl | rfl
      · exact .inl rfl
      · exact .inr rfl
  · exact ⟨[], .inl rfl, rfl, rfl⟩

/-- What {lit}`strtol` reads is a subject sequence, and its value is the value of that sequence. -/
theorem strtol_subject {base : Nat} {s : List Char} {v : Int} {n : Nat} (h : strtol s base = (v, n))
    (hn : 0 < n) :
    ∃ ws sgn pre ds rest, Subject base ws sgn pre ds ∧ s = ws ++ sgn ++ pre ++ ds ++ rest ∧
      n = (ws ++ sgn ++ pre ++ ds).length ∧ v = subjectValue base sgn ds := by
  unfold strtol at h
  dsimp only at h
  -- the parts strtol reads one after the other
  generalize ht : s.dropWhile isSpace = t at h
  generalize hu : t.drop (strtolSign t).2 = u at h
  generalize hds : (u.drop (strtolPrefix base u)).takeWhile (isDigitOf base) = ds at h
  obtain ⟨sgn, hsgn, htsplit, hsgnlen, hneg⟩ := strtolSign_spec t
  rw [hu] at htsplit
  obtain ⟨pre, hpre, husplit, hprelen⟩ := strtolPrefix_spec base u
  by_cases hnil : ds = []
  · rw [if_pos hnil] at h
    cases h
    omega
  rw [if_neg hnil] at h
  obtain ⟨hv, hnv⟩ := Prod.mk.inj h
  obtain ⟨rest, hrest⟩ : ∃ rest, u.drop (strtolPrefix base u) = ds ++ rest :=
    ⟨_, by rw [← hds]; exact List.takeWhile_append_dropWhile.symm⟩
  have hsub : Subject base (s.takeWhile isSpace) sgn pre ds := by
    refine ⟨fun c hc => List.mem_takeWhile_imp hc, hsgn, hpre, hnil, ?_⟩
    intro c hc
    rw [← hds] at hc
    exact List.mem_takeWhile_imp hc
  refine ⟨s.takeWhile isSpace, sgn, pre, ds, rest, hsub, ?_, ?_, ?_⟩
  · calc s = s.takeWhile isSpace ++ t := by rw [← ht]; exact List.takeWhile_append_dropWhile.symm
      _ = s.takeWhile isSpace ++ (sgn ++ (pre ++ (ds ++ rest))) := by rw [htsplit, husplit, hrest]
      _ = _ := by simp only [List.append_assoc]
  · rw [← hnv]
    simp only [List.length_append, hsgnlen, hprelen]
  · rw [← hv, subjectValue]
    by_cases hminus : sgn = ['-']
    · rw [if_pos (hneg.mpr hminus), if_pos hminus]
    · rw [if_neg (fun h => hminus (hneg.mp h)), if_neg hminus]

/-- Where {lit}`strtol` stops at a character that ends a number, it reads the same whatever follows the part it read. -/
theorem strtol_take_append {base : Nat} {s : List Char} {v : Int} {n : Nat} (h : strtol s base = (v, n))
    (hn : 0 < n) {rest : List Char} (hrest : EndsNumber rest) : strtol (s.take n ++ rest) base = (v, n) := by
  obtain ⟨ws, sgn, pre, ds, rest', hsub, rfl, rfl, rfl⟩ := strtol_subject h hn
  rw [List.take_left' rfl]
  exact strtol_subject_append hsub hrest

/-- {lit}`strtol` reads a run of digits of its base back, up to a character that ends the number. -/
theorem strtol_digits_append {base : Nat} {ds rest : List Char} (hne : ds ≠ [])
    (hds : ∀ c ∈ ds, isDigitOf base c = true) (hrest : EndsNumber rest)
    (hv : (digitsValue base ds : Int) ≤ LONG_MAX) :
    strtol (ds ++ rest) base = ((digitsValue base ds : Int), ds.length) := by
  have hsub : Subject base [] [] [] ds := ⟨by simp, .inl rfl, .inl rfl, hne, hds⟩
  have h := strtol_subject_append hsub hrest
  simp only [List.nil_append, subjectValue] at h
  rw [h, if_neg (by simp), min_eq_left hv]

theorem strtol_formatD_append (n : Nat) {rest : List Char} (hrest : EndsNumber rest)
    (hn : (n : Int) ≤ LONG_MAX) : strtol (formatD n ++ rest) 10 = ((n : Int), (formatD n).length) := by
  have hval : digitsValue 10 (Nat.toDigits 10 n) = n := digitsValue_toDigits (by decide) (by decide) n
  rw [formatD, strtol_digits_append Nat.toDigits_ne_nil
    (isDigitOf_of_mem_toDigits (by decide) (by decide) n) hrest (by rw [hval]; exact hn), hval]

theorem strtol_formatX0_append (w n : Nat) {rest : List Char} (hrest : EndsNumber rest)
    (hn : (n : Int) ≤ LONG_MAX) : strtol (formatX0 w n ++ rest) 16 = ((n : Int), (formatX0 w n).length) := by
  have hval : digitsValue 16 (formatX0 w n) = n := by
    rw [formatX0, digitsValue_replicate_zero_append,
      digitsValue_toDigits (by decide) (by decide) n]
  have hds : ∀ c ∈ formatX0 w n, isDigitOf 16 c = true := by
    intro c hc
    rcases List.mem_append.mp hc with hc | hc
    · rw [List.eq_of_mem_replicate hc]
      decide
    · exact isDigitOf_of_mem_toDigits (by decide) (by decide) n c hc
  have hne : formatX0 w n ≠ [] := by
    simp [formatX0]
  rw [strtol_digits_append hne hds hrest (by rw [hval]; exact hn), hval]

/-! ## Lengths of printed numbers -/

theorem length_formatD_le {n k : Nat} (hk : 0 < k) (hn : n < 10 ^ k) : (formatD n).length ≤ k :=
  (Nat.length_toDigits_le_iff (by decide) hk).mpr hn

theorem length_formatX0 {w n : Nat} (hw : 0 < w) (hn : n < 16 ^ w) : (formatX0 w n).length = w := by
  have hle := (Nat.length_toDigits_le_iff (by decide) hw).mpr hn
  simp only [formatX0, List.length_append, List.length_replicate]
  omega

theorem snprintf_of_lt {size : Nat} {text : List Char} (h : text.length < size) :
    snprintf size text = text :=
  List.take_of_length_le (by omega)

/-! ## The last separator -/

theorem strrchr_eq_none {c : Char} : ∀ {s : List Char}, c ∉ s → strrchr s c = none
  | [], _ => rfl
  | d :: rest, h => by
      have hd : d ≠ c := fun hdc => h (hdc ▸ List.mem_cons_self)
      have hrest : c ∉ rest := fun hc => h (List.mem_cons_of_mem d hc)
      simp only [strrchr, strrchr_eq_none hrest, if_neg hd]

theorem strrchr_append_cons {c : Char} {post : List Char} (hpost : c ∉ post) :
    ∀ pre : List Char, strrchr (pre ++ c :: post) c = some pre.length
  | [] => by simp only [List.nil_append, strrchr, strrchr_eq_none hpost, if_pos, List.length_nil]
  | d :: pre => by
      simp only [List.cons_append, strrchr, strrchr_append_cons hpost pre, List.length_cons]

end CText
