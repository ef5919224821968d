import Teletype.Roster
import Mathlib.Data.Finset.Card
import Mathlib.Data.Finset.Image
import Mathlib.Order.Bounds.Defs

/-!
# Names that are not taken

A name that is taken gets a number behind it: one, or else the next number, until the name with the
number is not taken. Nothing but the names themselves bounds this search (`Roster.Searches`). The
name and the names with a number behind it are different from each other
(`Roster.candidate_injective`), and only finitely many names are taken, so that one of the first few
is not: the search takes fewer steps than there are taken names. `freeName` looks at least that far,
and comes to the least number with which the name is not taken (`Roster.nameFor_least`).
-/

namespace Teletype

namespace Roster

/-! ## Names with numbers -/

/-- Different numbers have different digits. -/
theorem toString_injective : Function.Injective (toString : Nat → String) := by
  intro m n h
  have hdigits : Nat.toDigits 10 m = Nat.toDigits 10 n := by
    rw [← Nat.toList_repr, ← Nat.toList_repr]
    exact congrArg String.toList h
  have hvalue := congrArg (fun digits => Nat.ofDigitChars 10 digits 0) hdigits
  simpa only [Nat.ofDigitChars_ten_toDigits] using hvalue

/-- Different numbers give different names. -/
theorem suffixed_injective (name : String) : Function.Injective (suffixed name) := by
  intro m n h
  rw [suffixed, suffixed] at h
  exact toString_injective ((String.append_right_inj _).1 h)

/-- A name with a number behind it is longer. -/
theorem ne_suffixed (name : String) (n : Nat) : name ≠ suffixed name n := by
  intro h
  have hlength := congrArg String.length h
  have hbar : "_".length = 1 := rfl
  rw [suffixed, String.length_append, String.length_append, hbar] at hlength
  omega

/-- What a session may be called that asks for a name: the name itself, or with a number from one on
behind it. -/
def candidate (name : String) : Nat → String
  | 0 => name
  | n + 1 => suffixed name (n + 1)

/-- **All candidates are different**, also for a name that ends in a number itself. -/
theorem candidate_injective (name : String) : Function.Injective (candidate name) := by
  intro m n h
  cases m with
  | zero =>
    cases n with
    | zero => rfl
    | succ n => exact absurd h (ne_suffixed name (n + 1))
  | succ m =>
    cases n with
    | zero => exact absurd h.symm (ne_suffixed name (m + 1))
    | succ n => exact suffixed_injective name h

/-! ## Names that are taken -/

/-- The names that are registered or reserved. -/
def taken (r : Roster) : Finset String :=
  (r.names ++ r.reserved).toFinset

theorem mem_taken {r : Roster} {name : String} : name ∈ r.taken ↔ r.isTaken name = true := by
  rw [taken, List.mem_toFinset, List.mem_append, isTaken_eq_true]

theorem card_taken_le (r : Roster) : r.taken.card ≤ r.entries.length + r.reserved.length := by
  have hcard := List.toFinset_card_le (r.names ++ r.reserved)
  rwa [List.length_append, names, List.length_map] at hcard

/-- Among more names than are taken, one is not. -/
theorem exists_not_isTaken (r : Roster) {f : Nat → String} (hf : Function.Injective f) :
    ∃ k ≤ r.taken.card, r.isTaken (f k) = false := by
  have htried : ((Finset.range (r.taken.card + 1)).image f).card = r.taken.card + 1 := by
    rw [Finset.card_image_of_injective _ hf, Finset.card_range]
  have hmore : r.taken.card < ((Finset.range (r.taken.card + 1)).image f).card := by omega
  obtain ⟨name, hname, hfree⟩ := Finset.exists_mem_notMem_of_card_lt_card hmore
  obtain ⟨k, hk, rfl⟩ := Finset.mem_image.1 hname
  have hless : k < r.taken.card + 1 := Finset.mem_range.1 hk
  exact ⟨k, by omega, Bool.eq_false_iff.2 fun h => hfree (mem_taken.2 h)⟩

/-! ## The search -/

/-- **The search for a number**, without a bound: it looks at a number, goes on to the next one for
as long as the name with the number is taken, and comes to `m` in some steps. -/
inductive Searches (r : Roster) (name : String) : (n steps m : Nat) → Prop
  | found {n : Nat} : r.isTaken (suffixed name n) = false → Searches r name n 0 n
  | next {n steps m : Nat} :
    r.isTaken (suffixed name n) = true → Searches r name (n + 1) steps m →
    Searches r name n (steps + 1) m

namespace Searches

variable {r : Roster} {name : String} {n steps m : Nat}

/-- A search goes through the numbers one by one. -/
theorem eq_add (h : Searches r name n steps m) : m = n + steps := by
  induction h with
  | found _ => rfl
  | next _ _ ih => omega

/-- The number that a search comes to gives a name that is not taken. -/
theorem isTaken_eq_false (h : Searches r name n steps m) :
    r.isTaken (suffixed name m) = false := by
  induction h with
  | found hfree => exact hfree
  | next _ _ ih => exact ih

/-- The numbers before it do not. -/
theorem isTaken_of_lt (h : Searches r name n steps m) {k : Nat} (hn : n ≤ k) (hm : k < m) :
    r.isTaken (suffixed name k) = true := by
  induction h with
  | found _ => omega
  | next htaken _ ih =>
    rcases Nat.eq_or_lt_of_le hn with rfl | hlater
    · exact htaken
    · exact ih hlater hm

/-- A search that is bounded comes to the same number, if the bound allows the steps. -/
theorem freeSuffix_eq (h : Searches r name n steps m) {bound : Nat} (hbound : steps ≤ bound) :
    r.freeSuffix name bound n = m := by
  induction h generalizing bound with
  | @found n hfree =>
    cases bound with
    | zero => rfl
    | succ bound => rw [freeSuffix, hfree, if_neg Bool.false_ne_true]
  | @next n steps m htaken _ ih =>
    cases bound with
    | zero => omega
    | succ bound =>
      have hrest : steps ≤ bound := by omega
      rw [freeSuffix, if_pos htaken, ih hrest]

/-- The search ends if it ever meets a name that is not taken. -/
theorem exists_of_isTaken {k : Nat} (hfree : r.isTaken (suffixed name (n + k)) = false) :
    ∃ steps ≤ k, ∃ m, Searches r name n steps m := by
  induction k generalizing n with
  | zero => exact ⟨0, Nat.le_refl 0, n, .found hfree⟩
  | succ k ih =>
    cases hn : r.isTaken (suffixed name n) with
    | false => exact ⟨0, Nat.zero_le _, n, .found hn⟩
    | true =>
      have hplace : n + (k + 1) = n + 1 + k := by omega
      rw [hplace] at hfree
      obtain ⟨steps, hsteps, m, hrest⟩ := ih hfree
      exact ⟨steps + 1, by omega, m, .next hn hrest⟩

end Searches

/-- **The search for a name that is taken ends**, in fewer steps than there are taken names: it goes
through them, and the name itself is one. -/
theorem exists_searches {r : Roster} {name : String} (h : r.isTaken name = true) :
    ∃ steps < r.taken.card, ∃ n, r.Searches name 1 steps n := by
  obtain ⟨k, hk, hfree⟩ := r.exists_not_isTaken (candidate_injective name)
  cases k with
  | zero =>
    rw [candidate, h] at hfree
    cases hfree
  | succ k =>
    rw [candidate, Nat.add_comm] at hfree
    obtain ⟨steps, hsteps, n, hsearch⟩ := Searches.exists_of_isTaken hfree
    exact ⟨steps, by omega, n, hsearch⟩

/-- What `freeName` finds: the name itself if it is not taken, or else the name with the number that
the search comes to. -/
theorem freeName_spec (r : Roster) (name : String) :
    r.isTaken name = false ∧ r.freeName name = name ∨
      r.isTaken name = true ∧ ∃ n, r.freeName name = suffixed name n ∧
        ∃ steps < r.taken.card, r.Searches name 1 steps n := by
  unfold freeName
  cases hname : r.isTaken name with
  | false => exact .inl ⟨rfl, if_neg Bool.false_ne_true⟩
  | true =>
    obtain ⟨steps, hsteps, n, hsearch⟩ := exists_searches hname
    have hbound : steps ≤ r.entries.length + r.reserved.length := by
      have hcard := r.card_taken_le
      omega
    refine .inr ⟨rfl, n, ?_, steps, hsteps, hsearch⟩
    rw [if_pos rfl, hsearch.freeSuffix_eq hbound]

/-- **A name that was made free is not taken.** -/
theorem isTaken_freeName (r : Roster) (name : String) : r.isTaken (r.freeName name) = false := by
  rcases r.freeName_spec name with ⟨hfree, heq⟩ | ⟨-, n, heq, steps, -, hsearch⟩
  · rw [heq, hfree]
  · rw [heq, hsearch.isTaken_eq_false]

/-- **The least name that is not taken.** A session that asks for a name gets one that is not taken,
and the roster stays as it is. It is the name itself if that is not taken. Otherwise the search from
one on ends, after fewer steps than there are taken names, and the session gets the name with the
number that the search comes to, which is the least with which it is not taken. -/
theorem nameFor_least (r : Roster) {name : String} (h : name ≠ "") :
    ∃ id, r.nameFor (some name) = (id, r) ∧ r.isTaken id = false ∧
      (r.isTaken name = false ∧ id = name ∨
        r.isTaken name = true ∧ ∃ n, id = suffixed name n ∧
          (∃ steps < r.taken.card, r.Searches name 1 steps n) ∧
          IsLeast {m | 1 ≤ m ∧ r.isTaken (suffixed name m) = false} n) := by
  have hkept : (some name).filter (fun name => !name.isEmpty) = some name := by
    simp [h]
  refine ⟨r.freeName name, by rw [nameFor, hkept], r.isTaken_freeName name, ?_⟩
  rcases r.freeName_spec name with hfree | ⟨htaken, n, heq, steps, hsteps, hsearch⟩
  · exact .inl hfree
  · have hfrom : 1 ≤ n := by
      have hplace := hsearch.eq_add
      omega
    refine .inr ⟨htaken, n, heq, ⟨steps, hsteps, hsearch⟩, ⟨hfrom, hsearch.isTaken_eq_false⟩, ?_⟩
    rintro m ⟨hm, hfree⟩
    by_contra hless
    have htaken := hsearch.isTaken_of_lt hm (by omega)
    rw [hfree] at htaken
    cases htaken

/-- Two sessions are registered, and the session that has the next number is still being started. -/
theorem nameFor_least_third :
    nameFor ⟨[("ssh", 0), ("ssh_1", 1)], ["ssh_2"], 0⟩ (some "ssh") =
        ("ssh_3", ⟨[("ssh", 0), ("ssh_1", 1)], ["ssh_2"], 0⟩) ∧
      IsLeast {m | 1 ≤ m ∧
        isTaken ⟨[("ssh", 0), ("ssh_1", 1)], ["ssh_2"], 0⟩ (suffixed "ssh" m) = false} 3 := by
  have hnamed : "ssh" ≠ "" := by decide
  have hname : nameFor ⟨[("ssh", 0), ("ssh_1", 1)], ["ssh_2"], 0⟩ (some "ssh") =
      ("ssh_3", ⟨[("ssh", 0), ("ssh_1", 1)], ["ssh_2"], 0⟩) := by decide
  obtain ⟨id, hid, -, hcase⟩ :=
    nameFor_least ⟨[("ssh", 0), ("ssh_1", 1)], ["ssh_2"], 0⟩ hnamed
  obtain rfl : id = "ssh_3" := (Prod.mk.inj (hid.symm.trans hname)).1
  rcases hcase with ⟨hfree, -⟩ | ⟨-, n, hn, -, hleast⟩
  · exact absurd hfree (by decide)
  · obtain rfl : 3 = n := suffixed_injective "ssh" hn
    exact ⟨hname, hleast⟩

end Roster

end Teletype
