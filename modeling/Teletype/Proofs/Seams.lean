import Mathlib
import Teletype.Pager
import Teletype.Proofs.Matching

/-!
# Where a text may be cut

A pattern is *parted* by a character that it cannot take and that it cannot tell from an end of the
text (`Pattern.partedBy`). Beside such a character a text may be cut: its matches are the matches of
the two parts (`Pattern.pieces_append_cons`). So pager prompts may be removed from each of the parts
of a text, instead of from the whole, where each cut is beside a character that parts them
(`Pager.strip_flatten`): all do but letters, dashes, spaces and carriage returns
(`Pager.partedBy_morePrompt_iff`). Elsewhere it may make a difference.
-/

namespace Teletype

namespace Pattern

/-- Whether a character parts a text for a pattern: the pattern has no place for the character, and
does not tell it from an end of the text. -/
def partedBy : Pattern → Char → Bool
  | empty, _ => true
  | one set, c | many set, c | notAfter set, c | notBefore set, c => !set c
  | seq p q, c | alt p q, c => p.partedBy c && q.partedBy c
  | lineStart, c | lineEnd, c => c == '\n'

variable {p : Pattern} {x : Char}

/-- What parts a text is in none of its matches. -/
theorem admits_of_partedBy (h : p.partedBy x = true) : p.admits x = false := by
  induction p with
  | one set | many set => simpa only [partedBy, admits, Bool.not_eq_true'] using h
  | seq p q ihp ihq | alt p q ihp ihq =>
    obtain ⟨hp, hq⟩ := Bool.and_eq_true_iff.1 h
    rw [admits, ihp hp, ihq hq]
    rfl
  | empty | notAfter set | notBefore set | lineStart | lineEnd => rfl

/-! ## The text before a cut -/

section Runs

variable {α β : Type} {f : α → β} {b : Text}

theorem takeMany_append_cons {set : Char → Bool} (hset : set x = false)
    {next : Option Char → Text → Option α} {next' : Option Char → Text → Option β}
    (hnext : ∀ before r, next' before (r ++ x :: b) = (next before r).map f)
    (before : Option Char) (t : Text) :
    takeMany set next' before (t ++ x :: b) = (takeMany set next before t).map f := by
  induction t generalizing before with
  | nil =>
    rw [List.nil_append, takeMany, takeMany, if_neg (by rw [hset]; exact Bool.false_ne_true)]
    exact hnext before []
  | cons c r ih =>
    rw [List.cons_append, takeMany, takeMany]
    split
    · rw [ih]
      cases takeMany set next (some c) r with
      | some a => rfl
      | none => exact hnext before (c :: r)
    · exact hnext before (c :: r)

/-- **Nothing is taken across a character that parts the text**, and what follows it makes no
difference to what is taken before it. -/
theorem run_append_cons (hp : p.partedBy x = true)
    {next : Option Char → Text → Option α} {next' : Option Char → Text → Option β}
    (hnext : ∀ before r, next' before (r ++ x :: b) = (next before r).map f)
    (before : Option Char) (t : Text) :
    p.run next' before (t ++ x :: b) = (p.run next before t).map f := by
  induction p generalizing next next' before t with
  | empty => exact hnext before t
  | one set =>
    have hset : set x = false := by simpa only [partedBy, Bool.not_eq_true'] using hp
    cases t with
    | nil =>
      rw [List.nil_append, run, if_neg (by rw [hset]; exact Bool.false_ne_true)]
      rfl
    | cons c r =>
      rw [List.cons_append, run, run]
      split
      · exact hnext (some c) r
      · rfl
  | many set =>
    have hset : set x = false := by simpa only [partedBy, Bool.not_eq_true'] using hp
    exact takeMany_append_cons hset hnext before t
  | seq p q ihp ihq =>
    obtain ⟨hp, hq⟩ := Bool.and_eq_true_iff.1 hp
    exact ihp hp (fun before r => ihq hq hnext before r) before t
  | alt p q ihp ihq =>
    obtain ⟨hp, hq⟩ := Bool.and_eq_true_iff.1 hp
    rw [run, run, ihp hp hnext before t]
    cases p.run next before t with
    | some a => rfl
    | none => exact ihq hq hnext before t
  | notAfter set =>
    rw [run, run]
    split
    · rfl
    · exact hnext before t
  | notBefore set =>
    have hset : set x = false := by simpa only [partedBy, Bool.not_eq_true'] using hp
    have hhead : (t ++ x :: b).head?.any set = t.head?.any set := by
      cases t with
      | nil => exact hset
      | cons c r => rfl
    rw [run, run, hhead]
    split
    · rfl
    · exact hnext before t
  | lineStart =>
    rw [run, run]
    split
    · exact hnext before t
    · rfl
  | lineEnd =>
    have hhead : (t ++ x :: b).head?.all (· == '\n') = t.head?.all (· == '\n') := by
      cases t with
      | nil => exact hp
      | cons c r => rfl
    rw [run, run, hhead]
    split
    · exact hnext before t
    · rfl

theorem match?_append_cons (hp : p.partedBy x = true) (before : Option Char) (t b : Text) :
    p.match? before (t ++ x :: b) = (p.match? before t).map (· ++ x :: b) :=
  run_append_cons hp (fun _ _ => rfl) before t

/-! ## The text behind a cut -/

theorem takeMany_some {set : Char → Bool} {next : Option Char → Text → Option α}
    (hnext : ∀ r, next (some x) r = next none r) (t : Text) :
    takeMany set next (some x) t = takeMany set next none t := by
  cases t with
  | nil => exact hnext []
  | cons c r => rw [takeMany, takeMany, hnext]

/-- Behind a character that parts the text all is as at its start. -/
theorem run_some (hp : p.partedBy x = true) {next : Option Char → Text → Option α}
    (hnext : ∀ r, next (some x) r = next none r) (t : Text) :
    p.run next (some x) t = p.run next none t := by
  induction p generalizing next t with
  | empty => exact hnext t
  | one set => rfl
  | many set => exact takeMany_some hnext t
  | seq p q ihp ihq =>
    obtain ⟨hp, hq⟩ := Bool.and_eq_true_iff.1 hp
    exact ihp hp (fun r => ihq hq hnext r) t
  | alt p q ihp ihq =>
    obtain ⟨hp, hq⟩ := Bool.and_eq_true_iff.1 hp
    rw [run, run, ihp hp hnext, ihq hq hnext]
  | notAfter set =>
    have hset : set x = false := by simpa only [partedBy, Bool.not_eq_true'] using hp
    rw [run, run, Option.any_some, Option.any_none, hset, hnext]
  | notBefore set => rw [run, run, hnext]
  | lineStart =>
    rw [run, run, Option.all_some, Option.all_none, if_pos rfl, hnext]
    exact if_pos hp
  | lineEnd => rw [run, run, hnext]

theorem pieces_some (hp : p.partedBy x = true) (t : Text) :
    p.pieces (some x) t = p.pieces none t := by
  have hmatch : p.match? (some x) t = p.match? none t := run_some hp (fun _ => rfl) t
  cases t with
  | nil => rw [pieces, pieces]
  | cons c r => rw [pieces, pieces, hmatch]

end Runs

/-! ## The two parts -/

/-- **Cutting a text beside a character that parts it cuts none of its matches.** -/
theorem pieces_append_cons (hp : p.partedBy x = true) (before : Option Char) (a b : Text) :
    p.pieces before (a ++ x :: b) = p.pieces before a ++ .kept x :: p.pieces none b := by
  fun_induction pieces p before a with
  | case1 before =>
    have hmatch := match?_append_cons hp before [] b
    rw [List.nil_append] at hmatch
    rw [List.nil_append, List.nil_append, pieces, hmatch, ← pieces_some hp]
    cases hnil : p.match? before [] with
    | none => rfl
    | some rest =>
      -- all that can be matched here is nothing
      simp only [Option.map_some]
      rw [if_neg]
      simp only [List.length_append, List.length_cons]
      omega
  | case2 before c r rest hmatch hle taken ih =>
    have hlonger : p.match? before ((c :: r) ++ x :: b) = some (rest ++ x :: b) := by
      rw [match?_append_cons hp, hmatch]
      rfl
    have hcount : (r ++ x :: b).length + 1 - (rest ++ x :: b).length =
        r.length + 1 - rest.length := by
      simp only [List.length_append]
      omega
    rw [List.cons_append] at hlonger ⊢
    rw [pieces, hlonger]
    simp only
    rw [if_pos (by simp only [List.length_append]; omega), hcount, ← List.cons_append,
      List.take_append_of_le_length (by simp only [List.length_cons]; omega),
      List.drop_append_of_le_length (by simp only [List.length_cons]; omega), ih,
      List.cons_append]
  | case3 before c r rest hmatch hle ih =>
    have hlonger : p.match? before ((c :: r) ++ x :: b) = some (rest ++ x :: b) := by
      rw [match?_append_cons hp, hmatch]
      rfl
    rw [List.cons_append] at hlonger ⊢
    rw [pieces, hlonger]
    simp only
    rw [if_neg (by simp only [List.length_append]; omega), ih, List.cons_append]
  | case4 before c r hmatch ih =>
    have hlonger : p.match? before ((c :: r) ++ x :: b) = none := by
      rw [match?_append_cons hp, hmatch]
      rfl
    rw [List.cons_append] at hlonger ⊢
    rw [pieces, hlonger, ih, List.cons_append]

end Pattern

/-! ## Pager prompts -/

namespace Pager

open Pattern

/-- The letters of the word _more_ have two cases and no others. -/
theorem sameLetter_iff {l c : Char} (hl : l ∈ ['m', 'o', 'r', 'e']) :
    sameLetter l c = true ↔ c.toLower = l := by
  simp only [List.mem_cons, List.not_mem_nil, or_false] at hl
  rcases hl with rfl | rfl | rfl | rfl <;> simp [sameLetter]

theorem isLetter_of_toLower_mem {c : Char} (h : c.toLower ∈ ['m', 'o', 'r', 'e']) :
    isLetter c = true := by
  have halpha : c.isAlpha = true := by
    rw [Char.toLower] at h
    split at h
    · rename_i hupper
      rw [Char.isAlpha, Char.isUpper, decide_eq_true hupper]
      rfl
    · simp only [List.mem_cons, List.not_mem_nil, or_false] at h
      rcases h with rfl | rfl | rfl | rfl <;> rfl
  rw [isLetter, halpha]
  rfl

/-- A letter in any case is a letter. -/
theorem isLetter_of_sameLetter {l c : Char} (hl : l ∈ ['m', 'o', 'r', 'e'])
    (h : sameLetter l c = true) : isLetter c = true := by
  rw [← (sameLetter_iff hl).1 h] at hl
  exact isLetter_of_toLower_mem hl

/-- A prompt is parted by what is no letter, no dash, no space and no carriage return. -/
theorem partedBy_morePrompt_iff {c : Char} :
    morePrompt.partedBy c = true ↔ isLetter c = false ∧ c ≠ '-' ∧ c ≠ ' ' ∧ c ≠ '\r' := by
  have hword : isLetter c = false → ∀ l ∈ ['m', 'o', 'r', 'e'], sameLetter l c = false := by
    intro hletter l hl
    by_contra hsame
    rw [isLetter_of_sameLetter hl (Bool.not_eq_false _ ▸ hsame)] at hletter
    cases hletter
  simp only [morePrompt, moreWord, row, oneOf, Pattern.optional, char, word, atLeastOne,
    List.map_cons, List.map_nil, partedBy, Bool.and_true, Bool.and_eq_true, Bool.not_eq_true',
    beq_eq_false_iff_ne]
  constructor
  · grind
  · intro h
    have hletters := hword h.1
    simp only [List.forall_mem_cons] at hletters
    grind

/-- Whether a text may be cut between two parts: beside a character that parts it, or at an end. -/
def isSeam (a b : Text) : Bool :=
  a.isEmpty || b.isEmpty || a.getLast?.any morePrompt.partedBy || b.head?.any morePrompt.partedBy

/-- Whether a text that is joined of parts may be cut into them. -/
def spares : List Text → Bool
  | [] => true
  | t :: ts => isSeam t ts.flatten && spares ts

theorem strip_append_cons {c : Char} (hc : morePrompt.partedBy c = true) (a b : Text) :
    (strip (a ++ c :: b)).1 = (strip a).1 ++ c :: (strip b).1 := by
  simp only [strip, pieces_append_cons hc, keptText_append, keptText]

theorem strip_nil : (strip []).1 = [] := by
  simp only [strip, pieces, keptText]

/-- Prompts are removed from both sides of a seam as from the whole. -/
theorem strip_append {a b : Text} (h : isSeam a b = true) :
    (strip (a ++ b)).1 = (strip a).1 ++ (strip b).1 := by
  rw [isSeam, Bool.or_eq_true, Bool.or_eq_true, Bool.or_eq_true] at h
  rcases h with ((h | h) | h) | h
  · rw [List.isEmpty_iff.1 h, strip_nil, List.nil_append, List.nil_append]
  · rw [List.isEmpty_iff.1 h, strip_nil, List.append_nil, List.append_nil]
  · obtain ⟨c, hlast, hc⟩ := (Option.any_eq_true _ _).1 h
    obtain ⟨a, rfl⟩ := List.getLast?_eq_some_iff.1 hlast
    have hfront := strip_append_cons hc a []
    rw [strip_nil] at hfront
    rw [hfront, List.append_assoc, List.singleton_append, strip_append_cons hc, List.append_assoc]
    rfl
  · cases b with
    | nil => cases h
    | cons c b =>
      have hfirst := strip_append_cons h [] b
      rw [List.nil_append, strip_nil, List.nil_append] at hfirst
      rw [hfirst]
      exact strip_append_cons h a b

/-- **A text may be cut at seams**: prompts are removed from the parts as from the whole. -/
theorem strip_flatten {ts : List Text} (h : spares ts = true) :
    (strip ts.flatten).1 = ts.flatMap fun t => (strip t).1 := by
  induction ts with
  | nil => exact strip_nil
  | cons t ts ih =>
    obtain ⟨hseam, hrest⟩ := Bool.and_eq_true_iff.1 h
    rw [List.flatten_cons, strip_append hseam, ih hrest, List.flatMap_cons]

end Pager

end Teletype
