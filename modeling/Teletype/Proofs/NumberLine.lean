import Mathlib
import Teletype.Number

/-!
# Where numbers stand

Numbers of all kinds are compared by what they stand for. Here that is said with the rational numbers
and an end of the line in either direction (`NumberLine`): an infinite double stands at an end, and
what is not a number stands nowhere (`Double.place?`). Two numbers are in order exactly if both stand
somewhere and their places are in order (`Number.lt_iff`, `Number.le_iff`).

So a comparison with a whole number that fails says one of two things: the places are in the other
order, or there is none (`Number.lt_int_eq_false_iff`, `Number.le_int_eq_false_iff`).
-/

namespace Teletype

/-- The rational numbers, with an end in either direction. -/
abbrev NumberLine := WithBot (WithTop ℚ)

namespace Double

/-- What the parts of a finite double stand for. -/
def ratio (negative : Bool) (m : Nat) (q : Int) : ℚ :=
  (if negative then -(m : ℚ) else m) * 2 ^ q

/-- **Where a double stands.** What is not a number stands nowhere. -/
def place? : Double → Option NumberLine
  | nan => none
  | infinite negative => some (if negative then ⊥ else ⊤)
  | finite negative m q => some ((ratio negative m q : ℚ) : WithTop ℚ)

@[simp] theorem place?_eq_none_iff {x : Double} : x.place? = none ↔ x = nan := by
  cases x with
  | nan => exact iff_of_true rfl rfl
  | infinite negative => exact iff_of_false (by rintro ⟨⟩) (by rintro ⟨⟩)
  | finite negative m q => exact iff_of_false (by rintro ⟨⟩) (by rintro ⟨⟩)

/-- Scaled by a power of two that makes it whole, a double is the multiple of what it stands for. -/
theorem cast_scaled (negative : Bool) (m : Nat) {r q : Int} (h : r ≤ q) :
    ((scaled negative m (q - r) : Int) : ℚ) = ratio negative m q / 2 ^ r := by
  have hpow : (2 : ℚ) ^ (q - r).toNat = 2 ^ q / 2 ^ r := by
    rw [← zpow_natCast, Int.toNat_of_nonneg (by omega), zpow_sub₀ two_ne_zero]
  have hmagnitude : ((m * twoTo (q - r).toNat : Nat) : ℚ) = m * 2 ^ q / 2 ^ r := by
    rw [twoTo, Nat.pow_eq]
    push_cast
    rw [hpow, mul_div_assoc]
  rw [scaled, ratio]
  cases negative with
  | false => simpa using hmagnitude
  | true =>
    simp only [if_true, Int.cast_neg, Int.cast_natCast, hmagnitude]
    ring

/-- Scaled by the same power of two, finite doubles keep their order. -/
theorem scaled_lt_scaled_iff {a b : Bool} {m n : Nat} {p q : Int} :
    scaled a m (p - min p q) < scaled b n (q - min p q) ↔ ratio a m p < ratio b n q := by
  have hpos : (0 : ℚ) < 2 ^ min p q := zpow_pos two_pos _
  rw [← Int.cast_lt (R := ℚ), cast_scaled a m (min_le_left p q), cast_scaled b n (min_le_right p q),
    div_lt_div_iff_of_pos_right hpos]

/-- Nothing is less than what is not a number. -/
@[simp] theorem lt_nan (x : Double) : x.lt nan = false := by
  cases x <;> rfl

/-- **Doubles are in order** exactly if their places are. -/
theorem lt_iff {x y : Double} :
    x.lt y = true ↔ ∃ a b, x.place? = some a ∧ y.place? = some b ∧ a < b := by
  cases y with
  | nan => exact iff_of_false (by rw [lt_nan]; exact Bool.false_ne_true) (by rintro ⟨a, b, -, ⟨⟩, -⟩)
  | infinite negative' =>
    cases x with
    | nan => exact iff_of_false Bool.false_ne_true (by rintro ⟨a, b, ⟨⟩, -⟩)
    | infinite negative => cases negative <;> cases negative' <;> simp [lt, place?]
    | finite negative m p =>
      have htop : ((ratio negative m p : WithTop ℚ) : NumberLine) < ⊤ :=
        WithBot.coe_lt_coe.2 (WithTop.coe_lt_top _)
      cases negative' <;> simp [lt, place?, htop]
  | finite negative' n q =>
    cases x with
    | nan => exact iff_of_false Bool.false_ne_true (by rintro ⟨a, b, ⟨⟩, -⟩)
    | infinite negative => cases negative <;> simp [lt, place?]
    | finite negative m p =>
      simp only [lt, decide_eq_true_eq, scaled_lt_scaled_iff, place?, Option.some.injEq]
      constructor
      · exact fun h => ⟨_, _, rfl, rfl, by exact_mod_cast h⟩
      · rintro ⟨a, b, rfl, rfl, h⟩
        exact_mod_cast h

/-- **Not greater than** is told by the places, too. -/
theorem le_iff {x y : Double} :
    x.le y = true ↔ ∃ a b, x.place? = some a ∧ y.place? = some b ∧ a ≤ b := by
  by_cases hx : x = nan
  · subst hx
    exact iff_of_false Bool.false_ne_true (by rintro ⟨a, b, ⟨⟩, -⟩)
  by_cases hy : y = nan
  · subst hy
    exact iff_of_false (by cases x <;> exact Bool.false_ne_true) (by rintro ⟨a, b, -, ⟨⟩, -⟩)
  obtain ⟨a, ha⟩ := Option.ne_none_iff_exists'.1 (mt place?_eq_none_iff.1 hx)
  obtain ⟨b, hb⟩ := Option.ne_none_iff_exists'.1 (mt place?_eq_none_iff.1 hy)
  have hle : x.le y = !y.lt x := by
    cases x <;> cases y <;> first | rfl | exact absurd rfl hx | exact absurd rfl hy
  have hlt : y.lt x = true ↔ b < a := by
    rw [lt_iff, ha, hb]
    simp
  rw [hle, Bool.not_eq_true', ← Bool.not_eq_true, hlt, not_lt, ha, hb]
  simp

/-! ### Whole numbers -/

theorem scaled_ofInt (n : Int) : scaled (decide (n < 0)) n.natAbs 0 = n := by
  have hone : (n.natAbs * twoTo (0 : Int).toNat : Nat) = n.natAbs := Nat.mul_one _
  rw [scaled, hone]
  by_cases hn : n < 0
  · rw [decide_eq_true hn, if_pos rfl]
    omega
  · rw [decide_eq_false hn, if_neg Bool.false_ne_true]
    omega

/-- A whole number stands at itself. -/
theorem place?_ofInt (n : Int) : (ofInt n).place? = some (((n : ℚ) : WithTop ℚ) : NumberLine) := by
  have hratio := cast_scaled (decide (n < 0)) n.natAbs (le_refl 0)
  rw [sub_self, scaled_ofInt, zpow_zero, div_one] at hratio
  rw [ofInt, place?, ← hratio]

/-- Whole numbers keep their order. -/
theorem le_ofInt (m n : Int) : (ofInt m).le (ofInt n) = decide (m ≤ n) := by
  rw [Bool.eq_iff_iff, le_iff, place?_ofInt, place?_ofInt, decide_eq_true_iff]
  constructor
  · rintro ⟨a, b, ⟨⟩, ⟨⟩, h⟩
    exact_mod_cast h
  · exact fun h => ⟨_, _, rfl, rfl, by exact_mod_cast h⟩

end Double

namespace Number

/-- **Where a number stands.** -/
def place? (n : Number) : Option NumberLine :=
  n.value.place?

theorem place?_ne_none_iff {n : Number} : n.place? ≠ none ↔ n.value ≠ .nan :=
  not_congr Double.place?_eq_none_iff

/-- A whole number stands at itself. -/
theorem place?_int (n : Int) : (int n).place? = some (((n : ℚ) : WithTop ℚ) : NumberLine) :=
  Double.place?_ofInt n

/-- **Numbers are in order** exactly if both stand somewhere and their places are in order. -/
theorem lt_iff {m n : Number} :
    m.lt n = true ↔ ∃ a b, m.place? = some a ∧ n.place? = some b ∧ a < b :=
  Double.lt_iff

theorem le_iff {m n : Number} :
    m.le n = true ↔ ∃ a b, m.place? = some a ∧ n.place? = some b ∧ a ≤ b :=
  Double.le_iff

/-- What is not less than a whole number stands there or beyond, if it stands anywhere. -/
theorem lt_int_eq_false_iff {n : Number} {k : Int} :
    n.lt (int k) = false ↔ ∀ x, n.place? = some x → ((k : ℚ) : WithTop ℚ) ≤ x := by
  rw [← Bool.not_eq_true, lt_iff, place?_int]
  constructor
  · exact fun h x hx => not_lt.1 fun hlt => h ⟨x, _, hx, rfl, hlt⟩
  · rintro h ⟨x, _, hx, ⟨⟩, hlt⟩
    exact absurd hlt (not_lt.2 (h x hx))

/-- What is greater than a whole number, or incomparable, stands beyond it, if it stands anywhere. -/
theorem le_int_eq_false_iff {n : Number} {k : Int} :
    n.le (int k) = false ↔ ∀ x, n.place? = some x → ((k : ℚ) : WithTop ℚ) < x := by
  rw [← Bool.not_eq_true, le_iff, place?_int]
  constructor
  · exact fun h x hx => not_le.1 fun hle => h ⟨x, _, hx, rfl, hle⟩
  · rintro h ⟨x, _, hx, ⟨⟩, hle⟩
    exact absurd hle (not_le.2 (h x hx))

end Number

end Teletype
