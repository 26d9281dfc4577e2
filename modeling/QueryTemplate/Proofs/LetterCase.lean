import Mathlib.Data.List.Forall2
import Mathlib.Data.List.Infix
import QueryTemplate.Text.Blank
import QueryTemplate.Text.Case

/-! Lower case letters, which no run of the case tables moves again, and texts that spell a token in
some case. -/
namespace QueryTemplate.Text

namespace CaseRuns

/-- Is the number one of those that a run moves? -/
def Moves (r : Nat × Nat × Nat × Int) (n : Nat) : Prop :=
  r.1 ≤ n ∧ n ≤ r.2.1 ∧ (n - r.1) % r.2.2.1 = 0

/-- What a run makes of a number. -/
def image (r : Nat × Nat × Nat × Int) (n : Nat) : Nat := ((n : Int) + r.2.2.2).toNat

variable {runs : CaseRuns} {r : Nat × Nat × Nat × Int} {n : Nat}

/-- A number stays as it is, or one of the runs moves it. -/
theorem apply_cases (runs : CaseRuns) (n : Nat) :
    apply runs n = n ∨ ∃ r ∈ runs, Moves r n ∧ apply runs n = image r n := by
  induction runs with
  | nil => exact Or.inl rfl
  | cons r runs ih =>
    obtain ⟨first, last, step, distance⟩ := r
    have hlater : (∃ r ∈ runs, Moves r n ∧ apply runs n = image r n) →
        ∃ r ∈ (first, last, step, distance) :: runs,
          Moves r n ∧ apply runs n = image r n := by
      rintro ⟨r, hr, h⟩
      exact ⟨r, List.mem_cons_of_mem _ hr, h⟩
    unfold apply
    split_ifs with hlast hfirst
    · exact Or.inr ⟨_, List.mem_cons_self, ⟨hfirst.1, hlast, hfirst.2⟩, rfl⟩
    · exact ih.imp_right hlater
    · exact ih.imp_right hlater

theorem apply_eq_self (h : ∀ r ∈ runs, ¬ Moves r n) : apply runs n = n :=
  (apply_cases runs n).resolve_right fun ⟨r, hr, hmoves, _⟩ => h r hr hmoves

/-- Do the numbers from `a` to `b`, which are all even or all odd if `spaced`, lie beside those that
the run moves, either beyond their ends or, where these are two apart, between them? -/
def beside (a b : Nat) (spaced : Bool) (r : Nat × Nat × Nat × Int) : Bool :=
  Nat.blt b r.1 || Nat.blt r.2.1 a || (spaced && r.2.2.1 % 2 == 0 && (a + r.1) % 2 == 1)

/-- Does a run move its numbers to such that the other does not move? -/
def clears (r r' : Nat × Nat × Nat × Int) : Bool :=
  beside (image r r.1) (image r r.2.1) (r.1 == r.2.1 || r.2.2.1 % 2 == 0) r'

private theorem even_sub {step m : Nat} (hstep : step % 2 = 0) (hm : m % step = 0) : m % 2 = 0 :=
  Nat.mod_eq_zero_of_dvd (Nat.dvd_trans (Nat.dvd_of_mod_eq_zero hstep) (Nat.dvd_of_mod_eq_zero hm))

theorem not_moves_of_clears {r' : Nat × Nat × Nat × Int} (hpos : 0 ≤ (r.1 : Int) + r.2.2.2)
    (h : clears r r' = true) (hn : Moves r n) : ¬ Moves r' (image r n) := by
  obtain ⟨first, last, step, distance⟩ := r
  obtain ⟨lo, hi, step', distance'⟩ := r'
  obtain ⟨hfirst, hlast, hat⟩ := hn
  rintro ⟨hlo, hhi, hat'⟩
  simp only [clears, beside, image, Bool.or_eq_true, Bool.and_eq_true, Nat.blt_eq,
    beq_iff_eq] at h hpos hfirst hlast hat hlo hhi hat'
  rcases h with (hbefore | hafter) | ⟨⟨hspaced, heven⟩, hodd⟩
  · omega
  · omega
  -- numbers two apart from each other do not meet if the first ones are an odd number apart
  · have htwo : (n - first) % 2 = 0 := by
      rcases hspaced with hsame | hstep
      · rw [(by omega : n - first = 0)]
      · exact even_sub hstep hat
    have hother : (((n : Int) + distance).toNat - lo) % 2 = 0 := even_sub heven hat'
    omega

end CaseRuns

open CaseRuns (apply apply_cases apply_eq_self clears not_moves_of_clears)

theorem toNat_ofNat (n : Nat) : (Char.ofNat n).toNat = n ∨ (Char.ofNat n).toNat = 0 := by
  by_cases h : n.isValidChar
  · left
    rw [Char.ofNat, dif_pos h]
    rfl
  · right
    rw [Char.ofNat, dif_neg h]
    rfl

/-- The runs of all letters, with those among the first 128 characters and the capital I with a
dot. -/
def letterRuns : CaseRuns := (0x41, 0x5a, 1, 32) :: (0x130, 0x130, 1, -199) :: lowerRuns

private theorem toLower_ofNat :
    ∀ n < 0x80, (Char.ofNat n).toLower = Char.ofNat (apply [(0x41, 0x5a, 1, 32)] n) := by
  decide +kernel

private theorem lowerRuns_first : ∀ r ∈ lowerRuns, 0x80 ≤ r.1 := by decide +kernel

theorem lowerLetter_eq (c : Char) : lowerLetter c = Char.ofNat (apply letterRuns c.toNat) := by
  unfold lowerLetter
  split_ifs with hascii hdotted
  · have hrest : apply ((0x130, 0x130, 1, -199) :: lowerRuns) c.toNat = c.toNat := by
      refine apply_eq_self fun r hr hmoves => ?_
      have hfirst := hmoves.1
      rcases List.mem_cons.1 hr with rfl | hr
      · exact absurd hfirst (by dsimp only; omega)
      · have := lowerRuns_first r hr
        omega
    have hfirst : apply letterRuns c.toNat = apply [(0x41, 0x5a, 1, 32)] c.toNat := by
      unfold letterRuns apply
      rw [hrest]
      rfl
    have h := toLower_ofNat c.toNat hascii
    rwa [Char.ofNat_toNat, ← hfirst] at h
  · rw [hdotted]
    decide +kernel
  · have hcapital : ¬ c.toNat ≤ 0x5a := by omega
    rw [letterRuns, apply, if_neg hcapital, apply]
    split_ifs with hle hat
    · exact absurd (Nat.le_antisymm hle hat.1) hdotted
    · rfl
    · rfl

/-- No run moves a number to one that is moved itself. -/
private theorem letterRuns_clears :
    (letterRuns.all fun r => decide (0 ≤ (r.1 : Int) + r.2.2.2) && letterRuns.all (clears r)) =
      true := by
  decide +kernel

theorem apply_apply (n : Nat) : apply letterRuns (apply letterRuns n) = apply letterRuns n := by
  rcases apply_cases letterRuns n with h | ⟨r, hr, hmoves, h⟩
  · rw [h, h]
  · have hclears := List.all_eq_true.1 letterRuns_clears r hr
    rw [Bool.and_eq_true, decide_eq_true_iff] at hclears
    rw [h]
    exact apply_eq_self fun r' hr' =>
      not_moves_of_clears hclears.1 (List.all_eq_true.1 hclears.2 r' hr') hmoves

/-- Is the character left as it is where text is put in lower case? -/
def IsLow (c : Char) : Prop := c ≠ 'Σ' ∧ lowerChar c = [c]

theorem isLow_of_apply {c : Char} (h : apply letterRuns c.toNat = c.toNat) : IsLow c := by
  constructor
  · rintro rfl
    exact absurd h (by decide +kernel)
  · have hdotted : c.toNat ≠ 0x130 := by
      intro hc
      rw [hc] at h
      exact absurd h (by decide +kernel)
    rw [lowerChar, if_neg hdotted, lowerLetter_eq, h, Char.ofNat_toNat]

theorem isLow_lowerLetter (c : Char) : IsLow (lowerLetter c) := by
  rw [lowerLetter_eq]
  refine isLow_of_apply ?_
  rcases toNat_ofNat (apply letterRuns c.toNat) with h | h
  · rw [h, apply_apply]
  · rw [h]
    decide +kernel

theorem isLow_of_mem_lowerAfter {before text : Text} {d : Char}
    (h : d ∈ lowerAfter before text) : IsLow d := by
  induction text generalizing before with
  | nil => exact absurd h List.not_mem_nil
  | cons c rest ih =>
    rcases List.mem_append.1 h with h | h
    · unfold lowerChar at h
      split_ifs at h with hsigma hend hdotted
      · obtain rfl := List.mem_singleton.1 h
        exact isLow_of_apply (by decide +kernel)
      · obtain rfl := List.mem_singleton.1 h
        exact isLow_of_apply (by decide +kernel)
      · rcases List.mem_pair.1 h with rfl | rfl
        · exact isLow_of_apply (by decide +kernel)
        · exact isLow_of_apply (by decide +kernel)
      · obtain rfl := List.mem_singleton.1 h
        exact isLow_lowerLetter c
    · exact ih h

theorem lowerAfter_eq_self {text : Text} (h : ∀ d ∈ text, IsLow d) (before : Text) :
    lowerAfter before text = text := by
  induction text generalizing before with
  | nil => rfl
  | cons c rest ih =>
    obtain ⟨⟨hsigma, hc⟩, hrest⟩ := List.forall_mem_cons.1 h
    rw [lowerAfter, if_neg hsigma, hc, ih hrest]
    rfl

/-- Text in lower case is in lower case for good. -/
theorem lower_lower (text : Text) : lower (lower text) = lower text :=
  lowerAfter_eq_self (fun _ => isLow_of_mem_lowerAfter) []

/-- The numbers of the blank characters. -/
def blankNumbers : List Nat :=
  List.range' 9 5 ++ List.range' 28 5 ++ [0x85, 0xa0, 0x1680] ++ List.range' 0x2000 11 ++
    [0x2028, 0x2029, 0x202f, 0x205f, 0x3000]

theorem mem_blankNumbers {c : Char} (h : isBlank c = true) : c.toNat ∈ blankNumbers := by
  simp only [isBlank, Bool.or_eq_true, decide_eq_true_eq, beq_iff_eq] at h
  simp only [blankNumbers, List.mem_append, List.mem_range'_1, List.mem_cons, List.not_mem_nil,
    or_false]
  omega

private theorem blankNumbers_unmoved :
    ∀ n ∈ blankNumbers, n ≠ 0 ∧ apply letterRuns n = n ∧ (∀ group ∈ sameUpper, n ∉ group) ∧
      (letterRuns.all fun r => clears r (n, n, 1, 0)) = true := by
  decide +kernel

/-- A blank character has no other case. -/
theorem eq_of_sameLetter_of_isBlank {a b : Char} (hb : isBlank b = true)
    (h : sameLetter a b = true) : a = b := by
  obtain ⟨hzero, hself, hgroups, hclears⟩ := blankNumbers_unmoved _ (mem_blankNumbers hb)
  have hlower : lowerLetter b = b := by rw [lowerLetter_eq, hself, Char.ofNat_toNat]
  have hnone : (sameUpper.any fun group =>
      group.contains (lowerLetter a).toNat && group.contains b.toNat) = false := by
    rw [List.any_eq_false]
    intro group hg
    simp [hgroups group hg]
  rw [sameLetter, hlower, hnone, Bool.or_false, beq_iff_eq, lowerLetter_eq] at h
  have hnumber : b.toNat = apply letterRuns a.toNat := by
    rcases toNat_ofNat (apply letterRuns a.toNat) with ha | ha <;> rw [h] at ha
    · exact ha
    · exact absurd ha hzero
  rcases apply_cases letterRuns a.toNat with ha | ⟨r, hr, hmoves, ha⟩
  · rw [← Char.ofNat_toNat a, ← Char.ofNat_toNat b, hnumber, ha]
  -- a run that made `b` of `a` would not pass by the blank characters
  · have hpos := List.all_eq_true.1 letterRuns_clears r hr
    rw [Bool.and_eq_true, decide_eq_true_iff] at hpos
    have hnot := not_moves_of_clears hpos.1 (List.all_eq_true.1 hclears r hr) hmoves
    rw [← ha, ← hnumber] at hnot
    exact absurd ⟨Nat.le_refl _, Nat.le_refl _, Nat.mod_one _⟩ hnot

/-- Do the characters of a part differ from those of a token in case alone? -/
def Spells (token part : Text) : Prop :=
  List.Forall₂ (fun a b => sameLetter a b = true) token part

/-- Does a token stand somewhere in a text, in whatever case? -/
def SpelledIn (token text : Text) : Prop := ∃ part, part <:+: text ∧ Spells token part

theorem beginsWith_iff (token text : Text) :
    beginsWith token text = true ↔ Spells token (text.take token.length) := by
  induction token generalizing text with
  | nil => exact iff_of_true rfl .nil
  | cons a token ih =>
    cases text with
    | nil => exact iff_of_false Bool.false_ne_true fun h => nomatch h
    | cons b text =>
      rw [beginsWith, Bool.and_eq_true, ih, List.length_cons, List.take_succ_cons]
      unfold Spells
      rw [List.forall₂_cons]

theorem spelledIn_iff {token text : Text} :
    SpelledIn token text ↔ ∃ rest ∈ text.tails, beginsWith token rest = true := by
  constructor
  · rintro ⟨part, hinfix, hpart⟩
    obtain ⟨rest, hprefix, hsuffix⟩ := List.infix_iff_prefix_suffix.1 hinfix
    refine ⟨rest, (List.mem_tails _ _).2 hsuffix, (beginsWith_iff token rest).2 ?_⟩
    rwa [hpart.length_eq, ← List.prefix_iff_eq_take.1 hprefix]
  · rintro ⟨rest, hrest, hbegins⟩
    have hinfix := (List.take_prefix token.length rest).isInfix.trans
      ((List.mem_tails _ _).1 hrest).isInfix
    exact ⟨_, hinfix, (beginsWith_iff token rest).1 hbegins⟩

instance (token text : Text) : Decidable (SpelledIn token text) :=
  decidable_of_iff' _ spelledIn_iff

end QueryTemplate.Text
