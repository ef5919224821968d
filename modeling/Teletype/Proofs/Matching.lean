import Teletype.Pattern
import Mathlib.Data.List.Infix
import Mathlib.Data.List.Forall2

/-!
# What patterns match

`Pattern.run` tries the ways of a pattern in order and goes on with the first that leads to a match.
This file says what those ways are: `p.Takes before m rest` holds when `p` can match `m` behind the
character `before` and in front of `rest`. A run succeeds exactly if one of these ways does
(`exists_of_run`, `isSome_run`), so a text holds a match exactly if some stretch of it can be taken
where it stands (`occursIn_iff`). Where the matches are cut out of a text, every piece that is cut
was taken where it stands (`takes_of_pieces`), and no stretch that is kept could have been
(`not_takes_of_pieces`).
-/

namespace Teletype

namespace Pattern

/-- **What a pattern can take**: `m` is one way to match behind `before` and in front of `rest`. -/
def Takes : Pattern → (before : Option Char) → (m rest : Text) → Prop
  | empty, _, m, _ => m = []
  | one set, _, m, _ => ∃ c, m = [c] ∧ set c = true
  | many set, _, m, _ => ∀ c ∈ m, set c = true
  | seq p q, before, m, rest =>
    ∃ m₁ m₂, m = m₁ ++ m₂ ∧ p.Takes before m₁ (m₂ ++ rest) ∧ q.Takes (m₁.getLast?.or before) m₂ rest
  | alt p q, before, m, rest => p.Takes before m rest ∨ q.Takes before m rest
  | notAfter set, before, m, _ => m = [] ∧ before.any set = false
  | notBefore set, _, m, rest => m = [] ∧ rest.head?.any set = false
  | lineStart, before, m, _ => m = [] ∧ before.all (· == '\n') = true
  | lineEnd, _, m, rest => m = [] ∧ rest.head?.all (· == '\n') = true

/-! ## The character before -/

/-- The character before what follows a stretch that begins with `c`. -/
theorem getLast?_cons_or (c : Char) (m : Text) (before : Option Char) :
    (c :: m).getLast?.or before = m.getLast?.or (some c) := by
  cases m with
  | nil => rfl
  | cons d m =>
    rw [List.getLast?_cons_cons, List.getLast?_cons, Option.some_or, Option.some_or]

/-- The character before what follows two stretches. -/
theorem getLast?_append_or (m n : Text) (before : Option Char) :
    (m ++ n).getLast?.or before = n.getLast?.or (m.getLast?.or before) := by
  rw [List.getLast?_append, Option.or_assoc]

/-! ## Runs -/

section Runs

variable {α : Type} {next : Option Char → Text → Option α}

theorem exists_of_takeMany {set : Char → Bool} {before : Option Char} {t : Text} {a : α}
    (h : takeMany set next before t = some a) :
    ∃ m rest, t = m ++ rest ∧ (∀ c ∈ m, set c = true) ∧
      next (m.getLast?.or before) rest = some a := by
  have hnone : next before t = some a → ∃ m rest, t = m ++ rest ∧ (∀ c ∈ m, set c = true) ∧
      next (m.getLast?.or before) rest = some a :=
    fun h => ⟨[], t, rfl, fun c hc => absurd hc List.not_mem_nil, h⟩
  induction t generalizing before with
  | nil => exact hnone h
  | cons c r ih =>
    rw [takeMany] at h
    split at h
    · rename_i hc
      cases hr : takeMany set next (some c) r with
      | none => rw [hr] at h; exact hnone h
      | some b =>
        rw [hr] at h
        cases h
        obtain ⟨m, rest, rfl, hm, hnext⟩ := ih hr fun h =>
          ⟨[], r, rfl, fun c hc => absurd hc List.not_mem_nil, h⟩
        exact ⟨c :: m, rest, rfl, List.forall_mem_cons.2 ⟨hc, hm⟩,
          by rwa [getLast?_cons_or]⟩
    · exact hnone h

theorem isSome_takeMany {set : Char → Bool} {before : Option Char} {m rest : Text}
    (hm : ∀ c ∈ m, set c = true) (h : (next (m.getLast?.or before) rest).isSome = true) :
    (takeMany set next before (m ++ rest)).isSome = true := by
  induction m generalizing before with
  | nil =>
    rw [List.nil_append]
    change (next before rest).isSome = true at h
    cases rest with
    | nil => exact h
    | cons c r =>
      rw [takeMany]
      split
      · cases takeMany set next (some c) r with
        | none => exact h
        | some a => rfl
      · exact h
  | cons c m ih =>
    obtain ⟨hc, hm⟩ := List.forall_mem_cons.1 hm
    rw [getLast?_cons_or] at h
    have hr := ih hm h
    rw [List.cons_append, takeMany, if_pos hc]
    cases ht : takeMany set next (some c) (m ++ rest) with
    | none => rw [ht] at hr; cases hr
    | some a => rfl

/-- **A run that succeeds has taken something**, and what follows succeeded behind it. -/
theorem exists_of_run {p : Pattern} {before : Option Char} {t : Text} {a : α}
    (h : p.run next before t = some a) :
    ∃ m rest, t = m ++ rest ∧ p.Takes before m rest ∧
      next (m.getLast?.or before) rest = some a := by
  induction p generalizing next before t with
  | empty => exact ⟨[], t, rfl, rfl, h⟩
  | one set =>
    cases t with
    | nil => cases h
    | cons c r =>
      rw [run] at h
      split at h
      · exact ⟨[c], r, rfl, ⟨c, rfl, ‹_›⟩, h⟩
      · cases h
  | many set => exact exists_of_takeMany h
  | seq p q ihp ihq =>
    obtain ⟨m₁, rest₁, rfl, hp, hq⟩ := ihp h
    obtain ⟨m₂, rest₂, rfl, hq, hnext⟩ := ihq hq
    exact ⟨m₁ ++ m₂, rest₂, (List.append_assoc ..).symm, ⟨m₁, m₂, rfl, hp, hq⟩,
      by rwa [getLast?_append_or]⟩
  | alt p q ihp ihq =>
    rw [run] at h
    cases hp : p.run next before t with
    | some b =>
      rw [hp] at h
      cases h
      obtain ⟨m, rest, ht, hm, hnext⟩ := ihp hp
      exact ⟨m, rest, ht, .inl hm, hnext⟩
    | none =>
      rw [hp] at h
      obtain ⟨m, rest, ht, hm, hnext⟩ := ihq h
      exact ⟨m, rest, ht, .inr hm, hnext⟩
  | notAfter set =>
    rw [run] at h
    split at h
    · cases h
    · exact ⟨[], t, rfl, ⟨rfl, Bool.eq_false_iff.2 ‹_›⟩, h⟩
  | notBefore set =>
    rw [run] at h
    split at h
    · cases h
    · exact ⟨[], t, rfl, ⟨rfl, Bool.eq_false_iff.2 ‹_›⟩, h⟩
  | lineStart =>
    rw [run] at h
    split at h
    · exact ⟨[], t, rfl, ⟨rfl, ‹_›⟩, h⟩
    · cases h
  | lineEnd =>
    rw [run] at h
    split at h
    · exact ⟨[], t, rfl, ⟨rfl, ‹_›⟩, h⟩
    · cases h

/-- **What can be taken is tried**: a run succeeds if one way does, though perhaps by another. -/
theorem isSome_run {p : Pattern} {before : Option Char} {m rest : Text}
    (hm : p.Takes before m rest) (h : (next (m.getLast?.or before) rest).isSome = true) :
    (p.run next before (m ++ rest)).isSome = true := by
  induction p generalizing next before m rest with
  | empty =>
    obtain rfl : m = [] := hm
    exact h
  | one set =>
    obtain ⟨c, rfl, hc⟩ := hm
    rw [List.singleton_append, run, if_pos hc]
    exact h
  | many set => exact isSome_takeMany hm h
  | seq p q ihp ihq =>
    obtain ⟨m₁, m₂, rfl, hp, hq⟩ := hm
    rw [getLast?_append_or] at h
    rw [List.append_assoc, run]
    exact ihp hp (ihq hq h)
  | alt p q ihp ihq =>
    rw [run]
    rcases hm with hm | hm
    · have := ihp hm h
      cases hp : p.run next before (m ++ rest) with
      | some a => rfl
      | none => rw [hp] at this; cases this
    · have := ihq hm h
      cases p.run next before (m ++ rest) with
      | some a => rfl
      | none => exact this
  | notAfter set =>
    obtain ⟨rfl, hset⟩ := hm
    rw [run, if_neg (by rw [hset]; exact Bool.false_ne_true)]
    exact h
  | notBefore set =>
    obtain ⟨rfl, hset⟩ := hm
    rw [List.nil_append, run, if_neg (by rw [hset]; exact Bool.false_ne_true)]
    exact h
  | lineStart =>
    obtain ⟨rfl, hset⟩ := hm
    rw [run, if_pos hset]
    exact h
  | lineEnd =>
    obtain ⟨rfl, hset⟩ := hm
    rw [List.nil_append, run, if_pos hset]
    exact h

end Runs

/-! ## Matches in a text -/

variable {p : Pattern} {before : Option Char} {t : Text}

theorem exists_of_match? {rest : Text} (h : p.match? before t = some rest) :
    ∃ m, t = m ++ rest ∧ p.Takes before m rest := by
  obtain ⟨m, rest', rfl, hm, hnext⟩ := exists_of_run h
  cases hnext
  exact ⟨m, rfl, hm⟩

theorem isSome_match?_iff :
    (p.match? before t).isSome = true ↔ ∃ m rest, t = m ++ rest ∧ p.Takes before m rest := by
  constructor
  · intro h
    obtain ⟨r, hr⟩ := Option.isSome_iff_exists.1 h
    obtain ⟨m, ht, hm⟩ := exists_of_match? hr
    exact ⟨m, r, ht, hm⟩
  · rintro ⟨m, rest, rfl, hm⟩
    exact isSome_run hm rfl

theorem isSome_searchFrom_nil :
    (p.searchFrom before []).isSome = (p.match? before []).isSome := by
  rw [searchFrom.eq_def]
  cases p.match? before [] <;> rfl

theorem isSome_searchFrom_cons (c : Char) (r : Text) :
    (p.searchFrom before (c :: r)).isSome =
      ((p.match? before (c :: r)).isSome || (p.searchFrom (some c) r).isSome) := by
  rw [searchFrom.eq_def]
  cases p.match? before (c :: r) with
  | some _ => rfl
  | none => rw [Option.isSome_map, Option.isSome_none, Bool.false_or]

/-- A search succeeds exactly if something can be taken somewhere. -/
theorem isSome_searchFrom_iff :
    (p.searchFrom before t).isSome = true ↔
      ∃ a m rest, t = a ++ (m ++ rest) ∧ p.Takes (a.getLast?.or before) m rest := by
  induction t generalizing before with
  | nil =>
    rw [isSome_searchFrom_nil, isSome_match?_iff]
    constructor
    · rintro ⟨m, rest, ht, hm⟩
      exact ⟨[], m, rest, ht, hm⟩
    · rintro ⟨a, m, rest, ht, hm⟩
      obtain ⟨rfl, hnil⟩ := List.append_eq_nil_iff.1 ht.symm
      exact ⟨m, rest, hnil.symm, hm⟩
  | cons c r ih =>
    rw [isSome_searchFrom_cons, Bool.or_eq_true, isSome_match?_iff, ih]
    constructor
    · rintro (⟨m, rest, ht, hm⟩ | ⟨a, m, rest, rfl, hm⟩)
      · exact ⟨[], m, rest, ht, hm⟩
      · exact ⟨c :: a, m, rest, rfl, by rwa [getLast?_cons_or]⟩
    · rintro ⟨a, m, rest, ht, hm⟩
      cases a with
      | nil => exact .inl ⟨m, rest, ht, hm⟩
      | cons d a =>
        obtain ⟨rfl, rfl⟩ := List.cons.inj ht
        exact .inr ⟨a, m, rest, rfl, by rwa [getLast?_cons_or] at hm⟩

/-- **A text holds a match exactly if a stretch of it can be taken where it stands.** -/
theorem occursIn_iff :
    p.occursIn t = true ↔ ∃ a m rest, t = a ++ (m ++ rest) ∧ p.Takes a.getLast? m rest := by
  rw [occursIn, search, isSome_searchFrom_iff]
  simp only [Option.or_none]

/-! ## The pieces of a text -/

variable {piece : Piece} {ps qs : List Piece} {m : Text}

/-- **What the first piece is**: a character at which nothing more than nothing is matched, or else
something that is taken there. The other pieces are those of what follows. -/
theorem pieces_eq_cons (h : p.pieces before t = piece :: ps) :
    (∃ c r, t = c :: r ∧ piece = .kept c ∧ p.pieces (some c) r = ps ∧
      ∀ rest, p.match? before t = some rest → rest = t) ∨
    ∃ m rest, t = m ++ rest ∧ piece = .cut m ∧ p.pieces m.getLast? rest = ps ∧
      m ≠ [] ∧ p.Takes before m rest := by
  cases t with
  | nil =>
    rw [pieces] at h
    cases h
  | cons c r =>
    rw [pieces] at h
    cases hmatch : p.match? before (c :: r) with
    | none =>
      rw [hmatch] at h
      obtain ⟨hpiece, hps⟩ := List.cons.inj h
      exact .inl ⟨c, r, rfl, hpiece.symm, hps, fun rest hrest => by cases hrest⟩
    | some rest =>
      obtain ⟨m, ht, hm⟩ := exists_of_match? hmatch
      have hlength := congrArg List.length ht
      rw [List.length_cons, List.length_append] at hlength
      simp only [hmatch] at h
      split at h
      · have hcount : r.length + 1 - rest.length = m.length := by omega
        rw [hcount, ht, List.take_left, List.drop_left] at h
        obtain ⟨hpiece, hps⟩ := List.cons.inj h
        exact .inr ⟨m, rest, ht, hpiece.symm, hps, List.ne_nil_of_length_pos (by omega), hm⟩
      · -- what is matched is nothing, and nothing is cut
        obtain rfl : m = [] := List.eq_nil_of_length_eq_zero (by omega)
        obtain ⟨hpiece, hps⟩ := List.cons.inj h
        refine .inl ⟨c, r, rfl, hpiece.symm, hps, fun rest' hrest => ?_⟩
        cases hrest
        exact ht.symm

/-- **Behind some of the pieces stand the pieces of the rest of the text**, where it stands. -/
theorem pieces_of_append (h : p.pieces before t = ps ++ qs) :
    p.pieces ((ps.flatMap Piece.text).getLast?.or before) (qs.flatMap Piece.text) = qs := by
  induction ps generalizing before t with
  | nil =>
    rw [List.nil_append] at h
    rw [← h, flatMap_text_pieces]
    rfl
  | cons piece ps ih =>
    rw [List.flatMap_cons, getLast?_append_or]
    rcases pieces_eq_cons h with ⟨c, r, -, rfl, hps, -⟩ | ⟨m, rest, -, rfl, hps, hne, -⟩
    · exact ih hps
    · have hbefore : (Piece.cut m).text.getLast?.or before = m.getLast? := by
        rw [Piece.text, List.getLast?_eq_some_getLast hne, Option.some_or]
      rw [hbefore]
      exact ih hps

/-- **What is cut out was taken where it stands**, and is not nothing. -/
theorem takes_of_pieces (h : p.pieces before t = ps ++ .cut m :: qs) :
    m ≠ [] ∧ p.Takes ((ps.flatMap Piece.text).getLast?.or before) m (qs.flatMap Piece.text) := by
  have hrest := pieces_of_append h
  rcases pieces_eq_cons hrest with ⟨c, r, -, hpiece, -⟩ | ⟨n, rest, ht, hpiece, -, hne, htakes⟩
  · cases hpiece
  · cases hpiece
    rw [List.flatMap_cons] at ht
    rw [List.append_cancel_left ht]
    exact ⟨hne, htakes⟩

theorem takes_of_cut_mem_pieces (h : .cut m ∈ p.pieces before t) :
    m ≠ [] ∧ ∃ behind rest, p.Takes behind m rest := by
  obtain ⟨ps, qs, hpieces⟩ := List.append_of_mem h
  obtain ⟨hne, htakes⟩ := takes_of_pieces hpieces
  exact ⟨hne, _, _, htakes⟩

theorem flatMap_text_map_kept (t : Text) : (t.map Piece.kept).flatMap Piece.text = t := by
  rw [List.flatMap_map]
  exact List.flatMap_singleton' t

/-- **What could be taken is not kept**: no stretch of characters that stay can be taken where it
stands. -/
theorem not_takes_of_pieces (hnil : ∀ before rest, ¬p.Takes before [] rest)
    (h : p.pieces before t = ps ++ (m.map .kept ++ qs)) :
    ¬p.Takes ((ps.flatMap Piece.text).getLast?.or before) m (qs.flatMap Piece.text) := by
  intro htakes
  have hrest := pieces_of_append h
  rw [List.flatMap_append, flatMap_text_map_kept] at hrest
  cases m with
  | nil => exact hnil _ _ htakes
  | cons c m =>
    obtain ⟨rest, hmatch⟩ := Option.isSome_iff_exists.1
      (isSome_match?_iff.2 ⟨_, _, rfl, htakes⟩)
    obtain ⟨n, hn, htaken⟩ := exists_of_match? hmatch
    rcases pieces_eq_cons hrest with ⟨_, _, -, -, -, hwhole⟩ | ⟨_, _, -, hpiece, -⟩
    · -- nothing was matched there, but the pattern does not take nothing
      rw [hwhole rest hmatch] at hn
      obtain rfl : n = [] := List.self_eq_append_left.1 hn
      exact hnil _ _ htaken
    · cases hpiece

/-! ## What is kept -/

theorem keptText_append (ps qs : List Piece) :
    keptText (ps ++ qs) = keptText ps ++ keptText qs := by
  induction ps with
  | nil => rfl
  | cons piece ps ih =>
    cases piece with
    | kept c => exact congrArg (List.cons c) ih
    | cut m => exact ih

theorem anyCut_eq_true_iff : anyCut ps = true ↔ ∃ m, .cut m ∈ ps := by
  rw [anyCut, List.any_eq_true]
  constructor
  · rintro ⟨_ | m, hmem, hcut⟩
    · cases hcut
    · exact ⟨m, hmem⟩
  · rintro ⟨m, hmem⟩
    exact ⟨.cut m, hmem, rfl⟩

/-- Where nothing is cut, all pieces are characters that stay. -/
theorem eq_map_kept (h : anyCut ps = false) : ps = (keptText ps).map .kept := by
  induction ps with
  | nil => rfl
  | cons piece ps ih =>
    cases piece with
    | kept c => exact congrArg (List.cons (.kept c)) (ih h)
    | cut m => cases h

theorem length_keptText_le (ps : List Piece) :
    (keptText ps).length ≤ (ps.flatMap Piece.text).length := by
  induction ps with
  | nil => exact Nat.le_refl 0
  | cons piece ps ih =>
    rw [List.flatMap_cons, List.length_append]
    cases piece with
    | kept c =>
      rw [keptText, List.length_cons, Piece.text, List.length_singleton]
      omega
    | cut m =>
      rw [keptText]
      omega

/-- What is cut makes the text shorter. -/
theorem length_keptText_lt (hcut : .cut m ∈ ps) (hm : m ≠ []) :
    (keptText ps).length < (ps.flatMap Piece.text).length := by
  obtain ⟨xs, ys, rfl⟩ := List.append_of_mem hcut
  have hxs := length_keptText_le xs
  have hys := length_keptText_le ys
  have hlength := List.length_pos_of_ne_nil hm
  rw [keptText_append, keptText, List.flatMap_append, List.flatMap_cons, Piece.text]
  simp only [List.length_append]
  omega

/-- A character that is kept is one of the pieces. -/
theorem exists_of_keptText_eq_append_cons {a b : Text} {c : Char}
    (h : keptText ps = a ++ c :: b) :
    ∃ xs ys, ps = xs ++ .kept c :: ys ∧ keptText xs = a ∧ keptText ys = b := by
  induction ps generalizing a with
  | nil => cases a <;> cases h
  | cons piece ps ih =>
    cases piece with
    | cut m =>
      obtain ⟨xs, ys, rfl, hxs, hys⟩ := ih h
      exact ⟨.cut m :: xs, ys, rfl, hxs, hys⟩
    | kept d =>
      cases a with
      | nil =>
        obtain ⟨rfl, hb⟩ := List.cons.inj h
        exact ⟨[], ps, rfl, rfl, hb⟩
      | cons e a =>
        obtain ⟨rfl, hps⟩ := List.cons.inj h
        obtain ⟨xs, ys, rfl, hxs, hys⟩ := ih hps
        exact ⟨.kept d :: xs, ys, rfl, congrArg (List.cons d) hxs, hys⟩

/-- The front of what is kept stands at the front of the pieces, or is broken by a cut. -/
theorem exists_of_keptText_eq_append {b : Text} (h : keptText ps = m ++ b) :
    (∃ ys, ps = m.map .kept ++ ys ∧ keptText ys = b) ∨
    ∃ xs n ys q, ps = xs ++ .cut n :: ys ∧ m = keptText xs ++ q ∧ q ≠ [] ∧
      keptText ys = q ++ b := by
  induction m generalizing ps with
  | nil => exact .inl ⟨ps, rfl, h⟩
  | cons c m ih =>
    cases ps with
    | nil => cases h
    | cons piece ps =>
      cases piece with
      | cut n => exact .inr ⟨[], n, ps, c :: m, rfl, rfl, List.cons_ne_nil c m, h⟩
      | kept d =>
        obtain ⟨rfl, hps⟩ := List.cons.inj h
        rcases ih hps with ⟨ys, rfl, hys⟩ | ⟨xs, n, ys, q, rfl, rfl, hq, hys⟩
        · exact .inl ⟨ys, rfl, hys⟩
        · exact .inr ⟨.kept d :: xs, n, ys, q, rfl, rfl, hq, hys⟩

/-- **Where a stretch of what is kept comes from**: it stands unbroken among the pieces, or a cut
stands between two parts of it. -/
theorem unbroken_or_broken {a b : Text} (hm : m ≠ []) (h : keptText ps = a ++ (m ++ b)) :
    (∃ xs ys, ps = xs ++ (m.map .kept ++ ys) ∧ keptText xs = a ∧ keptText ys = b) ∨
    ∃ xs n ys u v, ps = xs ++ .cut n :: ys ∧ m = u ++ v ∧ u ≠ [] ∧ v ≠ [] ∧
      keptText xs = a ++ u ∧ keptText ys = v ++ b := by
  obtain ⟨c, m, rfl⟩ := List.exists_cons_of_ne_nil hm
  obtain ⟨xs, ys, rfl, rfl, hys⟩ := exists_of_keptText_eq_append_cons h
  rcases exists_of_keptText_eq_append hys with ⟨zs, rfl, hzs⟩ | ⟨us, n, zs, v, rfl, rfl, hv, hzs⟩
  · exact .inl ⟨xs, zs, rfl, rfl, hzs⟩
  · refine .inr ⟨xs ++ .kept c :: us, n, zs, c :: keptText us, v, ?_, rfl,
      List.cons_ne_nil _ _, hv, ?_, hzs⟩
    · rw [List.append_assoc, List.cons_append]
    · rw [keptText_append, keptText]

/-! ## The characters of a match -/

/-- Whether a pattern has a place for a character. -/
def admits : Pattern → Char → Bool
  | one set, c => set c
  | many set, c => set c
  | seq p q, c => p.admits c || q.admits c
  | alt p q, c => p.admits c || q.admits c
  | _, _ => false

theorem admits_of_takes {p : Pattern} {before : Option Char} {m rest : Text}
    (h : p.Takes before m rest) : ∀ c ∈ m, p.admits c = true := by
  induction p generalizing before m rest with
  | one set =>
    obtain ⟨d, rfl, hd⟩ := h
    intro c hc
    obtain rfl := List.mem_singleton.1 hc
    exact hd
  | many set => exact h
  | seq p q ihp ihq =>
    obtain ⟨m₁, m₂, rfl, hp, hq⟩ := h
    intro c hc
    rw [admits, Bool.or_eq_true]
    exact (List.mem_append.1 hc).imp (ihp hp c) (ihq hq c)
  | alt p q ihp ihq =>
    intro c hc
    rw [admits, Bool.or_eq_true]
    exact h.imp (fun hp => ihp hp c hc) fun hq => ihq hq c hc
  | empty =>
    obtain rfl : m = [] := h
    exact fun c hc => absurd hc List.not_mem_nil
  | notAfter set | notBefore set | lineStart | lineEnd =>
    obtain ⟨rfl, -⟩ := h
    exact fun c hc => absurd hc List.not_mem_nil

/-! ## Patterns made of others -/

section Made

variable {m rest : Text}

theorem takes_row_nil : (row []).Takes before m rest ↔ m = [] :=
  Iff.rfl

/-- Of several patterns one takes it. -/
theorem takes_oneOf_cons {q : Pattern} {ps : List Pattern} :
    (oneOf (p :: q :: ps)).Takes before m rest ↔
      p.Takes before m rest ∨ (oneOf (q :: ps)).Takes before m rest :=
  Iff.rfl

theorem takes_oneOf_singleton : (oneOf [p]).Takes before m rest ↔ p.Takes before m rest :=
  Iff.rfl

/-- A row takes what its first pattern takes, and then what the others take. -/
theorem takes_row_cons {ps : List Pattern} :
    (row (p :: ps)).Takes before m rest ↔ ∃ m₁ m₂, m = m₁ ++ m₂ ∧
      p.Takes before m₁ (m₂ ++ rest) ∧ (row ps).Takes (m₁.getLast?.or before) m₂ rest := by
  cases ps with
  | cons q ps => exact Iff.rfl
  | nil =>
    constructor
    · exact fun h => ⟨m, [], (List.append_nil m).symm, h, rfl⟩
    · rintro ⟨m₁, m₂, rfl, hp, hnil⟩
      obtain rfl : m₂ = [] := hnil
      rwa [List.append_nil]

theorem takes_char_iff {c : Char} : (char c).Takes before m rest ↔ m = [c] := by
  constructor
  · rintro ⟨d, rfl, hd⟩
    rw [beq_iff_eq.1 hd]
  · rintro rfl
    exact ⟨c, rfl, beq_self_eq_true c⟩

theorem takes_atLeastOne_iff {set : Char → Bool} :
    (atLeastOne set).Takes before m rest ↔ m ≠ [] ∧ ∀ c ∈ m, set c = true := by
  constructor
  · rintro ⟨m₁, m₂, rfl, ⟨c, rfl, hc⟩, hm⟩
    exact ⟨List.cons_ne_nil c m₂, List.forall_mem_cons.2 ⟨hc, hm⟩⟩
  · rintro ⟨hne, hm⟩
    obtain ⟨c, m, rfl⟩ := List.exists_cons_of_ne_nil hne
    obtain ⟨hc, hm⟩ := List.forall_mem_cons.1 hm
    exact ⟨[c], m, rfl, ⟨c, rfl, hc⟩, hm⟩

theorem forall_mem_beq_iff {c : Char} :
    (∀ d ∈ m, (d == c) = true) ↔ ∃ n, m = List.replicate n c := by
  constructor
  · intro h
    exact ⟨m.length, List.eq_replicate_iff.2 ⟨rfl, fun d hd => beq_iff_eq.1 (h d hd)⟩⟩
  · rintro ⟨n, rfl⟩ d hd
    exact beq_iff_eq.2 (List.eq_of_mem_replicate hd)

theorem takes_many_char_iff {c : Char} :
    (many (· == c)).Takes before m rest ↔ ∃ n, m = List.replicate n c :=
  forall_mem_beq_iff

theorem takes_atLeastOne_char_iff {c : Char} :
    (atLeastOne (· == c)).Takes before m rest ↔ ∃ n, 0 < n ∧ m = List.replicate n c := by
  rw [takes_atLeastOne_iff, forall_mem_beq_iff]
  constructor
  · rintro ⟨hne, n, rfl⟩
    rw [ne_eq, List.replicate_eq_nil_iff] at hne
    exact ⟨n, by omega, rfl⟩
  · rintro ⟨n, hn, rfl⟩
    rw [ne_eq, List.replicate_eq_nil_iff]
    exact ⟨by omega, n, rfl⟩

theorem takes_optional_char_iff {c : Char} :
    (Pattern.optional (char c)).Takes before m rest ↔ ∃ b : Bool, m = if b then [c] else [] := by
  constructor
  · rintro (hm | hm)
    · exact ⟨true, takes_char_iff.1 hm⟩
    · exact ⟨false, hm⟩
  · rintro ⟨_ | _, rfl⟩
    · exact .inr rfl
    · exact .inl (takes_char_iff.2 rfl)

/-- `w` is the word `l` in any case. -/
def IsWord (l w : Text) : Prop :=
  List.Forall₂ (fun c x => sameLetter c x = true) l w

/-- A word takes itself in any case. -/
theorem takes_word_iff {l : Text} : (word l).Takes before m rest ↔ IsWord l m := by
  induction l generalizing before m with
  | nil => exact List.forall₂_nil_left_iff.symm
  | cons c l ih =>
    have hrow : word (c :: l) = row (one (sameLetter c) :: l.map fun c => one (sameLetter c)) := rfl
    rw [hrow, takes_row_cons, IsWord, List.forall₂_cons_left_iff]
    constructor
    · rintro ⟨_, m₂, rfl, ⟨x, rfl, hx⟩, hm⟩
      exact ⟨x, m₂, hx, ih.1 hm, rfl⟩
    · rintro ⟨x, m₂, hx, hm, rfl⟩
      exact ⟨[x], m₂, rfl, ⟨x, rfl, hx⟩, ih.2 hm⟩

/-- If its letters have two cases each, then it is told by its lower case. -/
theorem isWord_iff_map_toLower {l w : Text}
    (hl : ∀ c ∈ l, ∀ x, sameLetter c x = true ↔ x.toLower = c) :
    IsWord l w ↔ w.map Char.toLower = l := by
  induction l generalizing w with
  | nil => exact List.forall₂_nil_left_iff.trans List.map_eq_nil_iff.symm
  | cons c l ih =>
    obtain ⟨hc, hl⟩ := List.forall_mem_cons.1 hl
    rw [IsWord, List.forall₂_cons_left_iff, List.map_eq_cons_iff]
    constructor
    · rintro ⟨x, w, hx, hw, rfl⟩
      exact ⟨x, w, rfl, (hc x).1 hx, (ih hl).1 hw⟩
    · rintro ⟨x, w, rfl, hx, hw⟩
      exact ⟨x, w, (hc x).2 hx, (ih hl).2 hw, rfl⟩

/-- A text that is given takes itself. -/
theorem takes_literal_iff {l : Text} : (literal l).Takes before m rest ↔ m = l := by
  induction l generalizing before m with
  | nil => exact Iff.rfl
  | cons c l ih =>
    have hrow : literal (c :: l) = row (char c :: l.map char) := rfl
    rw [hrow, takes_row_cons]
    constructor
    · rintro ⟨m₁, m₂, rfl, hc, hl⟩
      rw [takes_char_iff.1 hc, ih.1 hl]
      rfl
    · rintro rfl
      exact ⟨[c], l, rfl, takes_char_iff.2 rfl, ih.2 rfl⟩

end Made

end Pattern

end Teletype
