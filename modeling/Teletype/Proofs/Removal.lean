import Mathlib
import Teletype.Proofs.Seams

/-!
# What is left when prompts are removed

`Pager.strip` cuts the matches of a pattern out of a text. This file says what they are without the
pattern: a `MorePrompt` has the parts of a prompt around the word *more*, and `IsPrompt a m b` says
that `m` is one between `a` and `b`, where no letter stands beside the word. Prompts are deleted in
place, and none is passed over (`strip_deletes_prompts`).

What stood before a deleted prompt and what stood behind it may make a prompt together, so a text
that was stripped may hold one. It does exactly if a prompt reaches across a deleted one
(`strip_strip_iff`), and it does not if each was deleted at a seam (`strip_strip_of_seams`).
-/

namespace Teletype

namespace Pager

open Pattern

/-! ## Prompts part by part -/

/-- **A prompt around the word _more_**, with the returns and the space that belong to it. -/
structure MorePrompt where
  /-- Whether a carriage return stands before it. -/
  returned : Bool
  /-- The dashes before the word. -/
  dashes : Nat
  /-- The spaces before the word. -/
  spaces : Nat
  /-- The word *more* as it is written. -/
  word : Text
  /-- The spaces behind the word. -/
  spacesBehind : Nat
  /-- The dashes behind the word. -/
  dashesBehind : Nat
  /-- Whether an echoed space stands behind it. -/
  echoed : Bool
  /-- Whether a carriage return stands behind it. -/
  returnedBehind : Bool
  isMore : word.map Char.toLower = ['m', 'o', 'r', 'e']
  dashed : 0 < dashes ∨ 0 < dashesBehind

namespace MorePrompt

/-- What stands before the word. -/
def front (P : MorePrompt) : Text :=
  (if P.returned then ['\r'] else []) ++
    (List.replicate P.dashes '-' ++ List.replicate P.spaces ' ')

/-- What stands behind the word. -/
def back (P : MorePrompt) : Text :=
  List.replicate P.spacesBehind ' ' ++ (List.replicate P.dashesBehind '-' ++
    ((if P.echoed then [' '] else []) ++ if P.returnedBehind then ['\r'] else []))

/-- The characters of a prompt. -/
def text (P : MorePrompt) : Text :=
  P.front ++ (P.word ++ P.back)

/-- No letter stands beside the word. -/
def IsApart (P : MorePrompt) (a b : Text) : Prop :=
  (a ++ P.front).getLast?.any isLetter = false ∧ (P.back ++ b).head?.any isLetter = false

end MorePrompt

/-- **A stretch that is a prompt where it stands.** -/
def IsPrompt (a m b : Text) : Prop :=
  ∃ P : MorePrompt, m = P.text ∧ P.IsApart a b

/-! ## What the pattern matches -/

section Takes

variable {before : Option Char} {m rest : Text}

theorem isWord_more_iff {w : Text} :
    IsWord ['m', 'o', 'r', 'e'] w ↔ w.map Char.toLower = ['m', 'o', 'r', 'e'] :=
  isWord_iff_map_toLower fun _ hc _ => sameLetter_iff hc

theorem takes_moreWord_iff :
    moreWord.Takes before m rest ↔ m.map Char.toLower = ['m', 'o', 'r', 'e'] ∧
      before.any isLetter = false ∧ rest.head?.any isLetter = false := by
  rw [moreWord, takes_row_cons, ← isWord_more_iff]
  constructor
  · rintro ⟨_, _, rfl, ⟨rfl, hbefore⟩, hrow⟩
    obtain ⟨w, _, rfl, hw, rfl, hbehind⟩ := takes_row_cons.1 hrow
    simp only [List.nil_append, List.append_nil]
    exact ⟨takes_word_iff.1 hw, hbefore, hbehind⟩
  · rintro ⟨hw, hbefore, hbehind⟩
    refine ⟨[], m, rfl, ⟨rfl, hbefore⟩, ?_⟩
    exact takes_row_cons.2 ⟨m, [], (List.append_nil m).symm, takes_word_iff.2 hw, rfl, hbehind⟩

/-- The word between `i` and `i'` dashes, with spaces inside and no letter beside it. -/
def DashedWord (before : Option Char) (m rest : Text) (i i' : Nat) : Prop :=
  ∃ j w j', w.map Char.toLower = ['m', 'o', 'r', 'e'] ∧
    m = List.replicate i '-' ++ (List.replicate j ' ' ++
      (w ++ (List.replicate j' ' ' ++ List.replicate i' '-'))) ∧
    ((List.replicate i '-' ++ List.replicate j ' ').getLast?.or before).any isLetter = false ∧
    (List.replicate j' ' ' ++ (List.replicate i' '-' ++ rest)).head?.any isLetter = false

/-- The word with dashes around it, where the patterns of the dashes say how many there may be. -/
theorem takes_around_iff {p q : Pattern} {d d' : Nat → Prop}
    (hp : ∀ {before m rest}, p.Takes before m rest ↔ ∃ n, d n ∧ m = List.replicate n '-')
    (hq : ∀ {before m rest}, q.Takes before m rest ↔ ∃ n, d' n ∧ m = List.replicate n '-') :
    (row [p, many (· == ' '), moreWord, many (· == ' '), q]).Takes before m rest ↔
      ∃ i i', (d i ∧ d' i') ∧ DashedWord before m rest i i' := by
  simp only [takes_row_cons, takes_row_nil, hp, hq, takes_many_char_iff, takes_moreWord_iff,
    DashedWord, getLast?_append_or]
  constructor
  · rintro ⟨_, _, rfl, ⟨i, hi, rfl⟩, _, _, rfl, ⟨j, rfl⟩, w, _, rfl, ⟨hw, hbefore, hbehind⟩,
      _, _, rfl, ⟨j', rfl⟩, _, _, rfl, ⟨i', hi', rfl⟩, rfl⟩
    refine ⟨i, i', ⟨hi, hi'⟩, j, w, j', hw, ?_, hbefore, ?_⟩
    · rw [List.append_nil]
    · rwa [List.append_nil, List.append_assoc] at hbehind
  · rintro ⟨i, i', ⟨hi, hi'⟩, j, w, j', hw, rfl, hbefore, hbehind⟩
    refine ⟨_, _, rfl, ⟨i, hi, rfl⟩, _, _, rfl, ⟨j, rfl⟩, w, _, rfl, ⟨hw, hbefore, ?_⟩,
      _, _, rfl, ⟨j', rfl⟩, _, [], (List.append_nil _).symm, ⟨i', hi', rfl⟩, rfl⟩
    rwa [List.append_assoc]

/-- Two patterns together say that there is a dash on one side at least. -/
theorem takes_dashed_iff :
    (oneOf [
      row [atLeastOne (· == '-'), many (· == ' '), moreWord, many (· == ' '), many (· == '-')],
      row [many (· == '-'), many (· == ' '), moreWord, many (· == ' '), atLeastOne (· == '-')]
      ]).Takes before m rest ↔
      ∃ i i', (0 < i ∨ 0 < i') ∧ DashedWord before m rest i i' := by
  have hmany : ∀ {before m rest}, (many (· == '-')).Takes before m rest ↔
      ∃ n, True ∧ m = List.replicate n '-' := by
    intro before m rest
    simp only [true_and]
    exact takes_many_char_iff
  constructor
  · rintro (h | h)
    · obtain ⟨i, i', ⟨hi, -⟩, h⟩ := (takes_around_iff takes_atLeastOne_char_iff hmany).1 h
      exact ⟨i, i', .inl hi, h⟩
    · obtain ⟨i, i', ⟨-, hi'⟩, h⟩ := (takes_around_iff hmany takes_atLeastOne_char_iff).1 h
      exact ⟨i, i', .inr hi', h⟩
  · rintro ⟨i, i', hi | hi', h⟩
    · exact .inl ((takes_around_iff takes_atLeastOne_char_iff hmany).2
        ⟨i, i', ⟨hi, trivial⟩, h⟩)
    · exact .inr ((takes_around_iff hmany takes_atLeastOne_char_iff).2
        ⟨i, i', ⟨trivial, hi'⟩, h⟩)

/-- **What the pattern of a prompt takes** are the prompts. -/
theorem takes_morePrompt_iff :
    morePrompt.Takes before m rest ↔ ∃ P : MorePrompt, m = P.text ∧
      (P.front.getLast?.or before).any isLetter = false ∧
      (P.back ++ rest).head?.any isLetter = false := by
  simp only [morePrompt, takes_row_cons, takes_row_nil, takes_optional_char_iff, takes_dashed_iff]
  constructor
  · rintro ⟨_, _, rfl, ⟨returned, rfl⟩, _, _, rfl,
      ⟨i, i', hdashed, j, w, j', hw, rfl, hbefore, hbehind⟩,
      _, _, rfl, ⟨echoed, rfl⟩, _, _, rfl, ⟨returnedBehind, rfl⟩, rfl⟩
    refine ⟨⟨returned, i, j, w, j', i', echoed, returnedBehind, hw, hdashed⟩, ?_, ?_, ?_⟩
    · simp only [MorePrompt.text, MorePrompt.front, MorePrompt.back, List.append_assoc,
        List.append_nil]
    · rwa [MorePrompt.front, getLast?_append_or]
    · simpa only [MorePrompt.back, List.append_assoc, List.append_nil] using hbehind
  · rintro ⟨P, rfl, hbefore, hbehind⟩
    rw [MorePrompt.front, getLast?_append_or] at hbefore
    refine ⟨_, _, ?_, ⟨P.returned, rfl⟩, _, _, rfl,
      ⟨P.dashes, P.dashesBehind, P.dashed, P.spaces, P.word, P.spacesBehind, P.isMore, rfl, hbefore,
        ?_⟩, _, _, rfl, ⟨P.echoed, rfl⟩, _, [], (List.append_nil _).symm, ⟨P.returnedBehind, rfl⟩,
      rfl⟩
    · simp only [MorePrompt.text, MorePrompt.front, MorePrompt.back, List.append_assoc]
    · simpa only [MorePrompt.back, List.append_assoc] using hbehind

end Takes

theorem takes_morePrompt_iff_isPrompt {a m b : Text} :
    morePrompt.Takes a.getLast? m b ↔ IsPrompt a m b := by
  simp only [takes_morePrompt_iff, IsPrompt, MorePrompt.IsApart, List.getLast?_append]

/-! ## Letters beside a prompt -/

/-- Whether a letter stands on both sides of the place where one text ends and another begins. -/
def lettersMeet (a b : Text) : Bool :=
  a.getLast?.any isLetter && b.head?.any isLetter

theorem lettersMeet_append_left {m : Text} (hm : m ≠ []) (a b : Text) :
    lettersMeet (a ++ m) b = lettersMeet m b := by
  rw [lettersMeet, lettersMeet, List.getLast?_append_of_ne_nil a hm]

theorem lettersMeet_append_right {m : Text} (hm : m ≠ []) (a b : Text) :
    lettersMeet a (m ++ b) = lettersMeet a m := by
  rw [lettersMeet, lettersMeet, List.head?_append_of_ne_nil m hm]

theorem any_head?_isLetter {m : Text} (hm : m ≠ []) {l : Bool} (h : ∀ c ∈ m, isLetter c = l) :
    m.head?.any isLetter = l := by
  rw [List.head?_eq_some_head hm]
  exact h _ (List.head_mem hm)

theorem any_getLast?_isLetter {m : Text} (hm : m ≠ []) {l : Bool} (h : ∀ c ∈ m, isLetter c = l) :
    m.getLast?.any isLetter = l := by
  rw [List.getLast?_eq_some_getLast hm]
  exact h _ (List.getLast_mem hm)

namespace MorePrompt

theorem word_ne_nil (P : MorePrompt) : P.word ≠ [] := by
  intro h
  have hmore := P.isMore
  rw [h] at hmore
  cases hmore

theorem text_ne_nil (P : MorePrompt) : P.text ≠ [] :=
  List.append_ne_nil_of_right_ne_nil _ (List.append_ne_nil_of_left_ne_nil P.word_ne_nil _)

theorem isLetter_of_mem_word (P : MorePrompt) : ∀ c ∈ P.word, isLetter c = true := by
  intro c hc
  have hmem : c.toLower ∈ P.word.map Char.toLower := List.mem_map_of_mem hc
  rw [P.isMore] at hmem
  exact isLetter_of_toLower_mem hmem

theorem not_isLetter_of_mem_front (P : MorePrompt) : ∀ c ∈ P.front, isLetter c = false := by
  intro c hc
  simp only [front, List.mem_append, List.mem_replicate, List.mem_ite_nil_right,
    List.mem_singleton] at hc
  rcases hc with ⟨-, rfl⟩ | ⟨-, rfl⟩ | ⟨-, rfl⟩ <;> rfl

theorem not_isLetter_of_mem_back (P : MorePrompt) : ∀ c ∈ P.back, isLetter c = false := by
  intro c hc
  simp only [back, List.mem_append, List.mem_replicate, List.mem_ite_nil_right,
    List.mem_singleton] at hc
  rcases hc with ⟨-, rfl⟩ | ⟨-, rfl⟩ | ⟨-, rfl⟩ | ⟨-, rfl⟩ <;> rfl

/-- A letter stands before the word exactly if letters meet where the prompt begins. -/
theorem lettersMeet_text (P : MorePrompt) (a : Text) :
    lettersMeet a P.text = (a ++ P.front).getLast?.any isLetter := by
  by_cases hfront : P.front = []
  · have hword := any_head?_isLetter P.word_ne_nil P.isLetter_of_mem_word
    rw [text, hfront, List.nil_append, lettersMeet_append_right P.word_ne_nil, lettersMeet, hword,
      Bool.and_true, List.append_nil]
  · rw [text, lettersMeet_append_right hfront, lettersMeet,
      any_head?_isLetter hfront P.not_isLetter_of_mem_front, Bool.and_false,
      List.getLast?_append_of_ne_nil a hfront,
      any_getLast?_isLetter hfront P.not_isLetter_of_mem_front]

/-- A letter stands behind the word exactly if letters meet where the prompt ends. -/
theorem text_lettersMeet (P : MorePrompt) (b : Text) :
    lettersMeet P.text b = (P.back ++ b).head?.any isLetter := by
  rw [text, ← List.append_assoc]
  by_cases hback : P.back = []
  · have hword := any_getLast?_isLetter P.word_ne_nil P.isLetter_of_mem_word
    rw [hback, List.append_nil, lettersMeet_append_left P.word_ne_nil, lettersMeet, hword,
      Bool.true_and, List.nil_append]
  · rw [lettersMeet_append_left hback, lettersMeet,
      any_getLast?_isLetter hback P.not_isLetter_of_mem_back, Bool.false_and,
      List.head?_append_of_ne_nil P.back hback,
      any_head?_isLetter hback P.not_isLetter_of_mem_back]

end MorePrompt

/-- **Where a stretch is a prompt** depends on what stands beside it only by the letters that it
would be joined to. -/
theorem isPrompt_iff {a m b : Text} :
    IsPrompt a m b ↔ (∃ P : MorePrompt, m = P.text) ∧
      lettersMeet a m = false ∧ lettersMeet m b = false := by
  constructor
  · rintro ⟨P, rfl, hfront, hback⟩
    rw [P.lettersMeet_text, P.text_lettersMeet]
    exact ⟨⟨P, rfl⟩, hfront, hback⟩
  · rintro ⟨⟨P, rfl⟩, hfront, hback⟩
    rw [P.lettersMeet_text] at hfront
    rw [P.text_lettersMeet] at hback
    exact ⟨P, rfl, hfront, hback⟩

theorem IsPrompt.ne_nil {a m b : Text} (h : IsPrompt a m b) : m ≠ [] := by
  obtain ⟨P, rfl, -⟩ := h
  exact P.text_ne_nil

/-! ## What is deleted -/

variable {t m : Text} {ps qs : List Piece}

/-- **What is cut out is a prompt where it stands.** -/
theorem isPrompt_of_pieces (h : morePrompt.pieces none t = ps ++ .cut m :: qs) :
    IsPrompt (ps.flatMap Piece.text) m (qs.flatMap Piece.text) := by
  obtain ⟨-, htakes⟩ := takes_of_pieces h
  rw [Option.or_none] at htakes
  exact takes_morePrompt_iff_isPrompt.1 htakes

/-- **No stretch that is kept is a prompt where it stands.** -/
theorem not_isPrompt_of_pieces (h : morePrompt.pieces none t = ps ++ (m.map .kept ++ qs)) :
    ¬IsPrompt (ps.flatMap Piece.text) m (qs.flatMap Piece.text) := by
  intro hprompt
  have hnil : ∀ before rest, ¬morePrompt.Takes before [] rest := by
    intro before rest htakes
    obtain ⟨P, hP, -⟩ := takes_morePrompt_iff.1 htakes
    exact P.text_ne_nil hP.symm
  have hkept := not_takes_of_pieces hnil h
  rw [Option.or_none] at hkept
  exact hkept (takes_morePrompt_iff_isPrompt.2 hprompt)

/-- A text is left as it is if no prompt is seen in it. -/
theorem strip_fst_eq (h : (strip t).2 = false) : (strip t).1 = t := by
  rw [strip, keptText_eq _ h, flatMap_text_pieces]

/-- A text is left as it is exactly if no prompt is seen in it. -/
theorem strip_fst_eq_iff : (strip t).1 = t ↔ (strip t).2 = false := by
  refine ⟨fun h => ?_, strip_fst_eq⟩
  by_contra hcut
  rw [Bool.not_eq_false] at hcut
  obtain ⟨m, hmem⟩ := anyCut_eq_true_iff.1 hcut
  have hshorter := length_keptText_lt hmem (takes_of_cut_mem_pieces hmem).1
  rw [flatMap_text_pieces] at hshorter
  exact absurd (congrArg List.length h) (Nat.ne_of_lt hshorter)

/-- **A prompt is seen exactly if the text holds one.** -/
theorem strip_snd_iff : (strip t).2 = true ↔ ∃ a m b, t = a ++ (m ++ b) ∧ IsPrompt a m b := by
  constructor
  · intro hcut
    obtain ⟨m, hmem⟩ := anyCut_eq_true_iff.1 hcut
    obtain ⟨ps, qs, hpieces⟩ := List.append_of_mem hmem
    have ht := flatMap_text_pieces morePrompt none t
    rw [hpieces, List.flatMap_append, List.flatMap_cons] at ht
    exact ⟨_, m, _, ht.symm, isPrompt_of_pieces hpieces⟩
  · rintro ⟨a, m, b, ht, hprompt⟩
    by_contra hcut
    rw [Bool.not_eq_true] at hcut
    have hkept : keptText (morePrompt.pieces none t) = t := strip_fst_eq hcut
    have hpieces := eq_map_kept hcut
    rw [hkept] at hpieces
    conv_rhs at hpieces => rw [ht, List.map_append, List.map_append]
    refine not_isPrompt_of_pieces hpieces ?_
    rwa [flatMap_text_map_kept, flatMap_text_map_kept]

/-- **Prompts are deleted in place, and all of them.** A text is cut into characters that are kept
and stretches that are deleted. Each deleted stretch is a prompt where it stands, and no stretch of
characters that are kept between two of them is. -/
theorem strip_deletes_prompts (t : Text) :
    ∃ ps : List Piece, t = ps.flatMap Piece.text ∧ (strip t).1 = keptText ps ∧
      ((strip t).2 = true ↔ ∃ m, .cut m ∈ ps) ∧ ((strip t).1 = t ↔ (strip t).2 = false) ∧
      (∀ a m b, ps = a ++ .cut m :: b →
        IsPrompt (a.flatMap Piece.text) m (b.flatMap Piece.text)) ∧
      ∀ a m b, ps = a ++ (m.map .kept ++ b) →
        ¬IsPrompt (a.flatMap Piece.text) m (b.flatMap Piece.text) := by
  refine ⟨morePrompt.pieces none t, ?_, rfl, anyCut_eq_true_iff, strip_fst_eq_iff, ?_, ?_⟩
  · exact (flatMap_text_pieces morePrompt none t).symm
  · intro a m b hpieces
    exact isPrompt_of_pieces hpieces
  · intro a m b hpieces
    exact not_isPrompt_of_pieces hpieces

/-! ## What is left -/

/-- A prompt reaches from the end of one text into the next when they are joined. -/
def JoinsPrompt (a b : Text) : Prop :=
  ∃ x u v y, a = x ++ u ∧ b = v ++ y ∧ u ≠ [] ∧ v ≠ [] ∧ IsPrompt x (u ++ v) y

/-- If what is kept joins no letter to a stretch from before, then the text joined none to it: what
stands before the stretch in the text is kept too, or is a prompt, and those are joined to no
letter. -/
theorem lettersMeet_flatMap_text (h : morePrompt.pieces none t = ps ++ (m.map .kept ++ qs))
    (hm : m ≠ []) (hmeet : lettersMeet (keptText ps) m = false) :
    lettersMeet (ps.flatMap Piece.text) m = false := by
  rcases List.eq_nil_or_concat' ps with rfl | ⟨ps, piece, rfl⟩
  · rfl
  · rw [List.flatMap_append, List.flatMap_singleton]
    cases piece with
    | kept c =>
      rw [keptText_append, keptText, keptText,
        lettersMeet_append_left (List.cons_ne_nil c [])] at hmeet
      rwa [Piece.text, lettersMeet_append_left (List.cons_ne_nil c [])]
    | cut n =>
      rw [List.append_assoc, List.singleton_append] at h
      have hprompt := isPrompt_of_pieces h
      have hbehind := (isPrompt_iff.1 hprompt).2.2
      rw [List.flatMap_append, flatMap_text_map_kept, lettersMeet_append_right hm] at hbehind
      rwa [Piece.text, lettersMeet_append_left hprompt.ne_nil]

/-- And the same holds behind the stretch. -/
theorem flatMap_text_lettersMeet (h : morePrompt.pieces none t = ps ++ (m.map .kept ++ qs))
    (hm : m ≠ []) (hmeet : lettersMeet m (keptText qs) = false) :
    lettersMeet m (qs.flatMap Piece.text) = false := by
  cases qs with
  | nil => exact hmeet
  | cons piece qs =>
    rw [List.flatMap_cons]
    cases piece with
    | kept c => exact hmeet
    | cut n =>
      rw [← List.append_assoc] at h
      have hprompt := isPrompt_of_pieces h
      have hbefore := (isPrompt_iff.1 hprompt).2.1
      rw [List.flatMap_append, flatMap_text_map_kept, lettersMeet_append_left hm] at hbefore
      rwa [Piece.text, lettersMeet_append_right hprompt.ne_nil]

/-- **A prompt that is left reaches across a deleted one.** If none was deleted inside it, then it
was a prompt before and would have been deleted itself. -/
theorem exists_joinsPrompt (h : (strip (strip t).1).2 = true) :
    ∃ a n b, morePrompt.pieces none t = a ++ .cut n :: b ∧
      JoinsPrompt (keptText a) (keptText b) := by
  obtain ⟨x, m, y, hleft, hprompt⟩ := strip_snd_iff.1 h
  have hm := hprompt.ne_nil
  rcases unbroken_or_broken hm hleft with
    ⟨ps, qs, hpieces, rfl, rfl⟩ | ⟨ps, n, qs, u, v, hpieces, rfl, hu, hv, hps, hqs⟩
  · obtain ⟨hparts, hbefore, hbehind⟩ := isPrompt_iff.1 hprompt
    have hstood : IsPrompt (ps.flatMap Piece.text) m (qs.flatMap Piece.text) :=
      isPrompt_iff.2 ⟨hparts, lettersMeet_flatMap_text hpieces hm hbefore,
        flatMap_text_lettersMeet hpieces hm hbehind⟩
    exact absurd hstood (not_isPrompt_of_pieces hpieces)
  · exact ⟨ps, n, qs, hpieces, x, u, v, y, hps, hqs, hu, hv, hprompt⟩

/-- Nothing is left to be deleted exactly if no prompt is seen again. -/
theorem strip_eq_self_iff : strip t = (t, false) ↔ (strip t).2 = false := by
  constructor
  · intro h
    rw [h]
  · intro h
    exact Prod.ext (strip_fst_eq h) h

/-- **When removing prompts leaves none**: exactly if no prompt reaches across a deleted one, from
what is kept before it into what is kept behind it. -/
theorem strip_strip_iff (t : Text) :
    strip (strip t).1 = ((strip t).1, false) ↔
      ∀ a m b, morePrompt.pieces none t = a ++ .cut m :: b →
        ¬JoinsPrompt (keptText a) (keptText b) := by
  rw [strip_eq_self_iff]
  constructor
  · rintro hnone a m b hpieces ⟨x, u, v, y, ha, hb, -, -, hprompt⟩
    have hkept : (strip t).1 = x ++ ((u ++ v) ++ y) := by
      rw [strip, hpieces, keptText_append, keptText, ha, hb, List.append_assoc, List.append_assoc]
    have hsaw := strip_snd_iff.2 ⟨x, u ++ v, y, hkept, hprompt⟩
    rw [hnone] at hsaw
    cases hsaw
  · intro hjoins
    by_contra hsaw
    obtain ⟨a, n, b, hpieces, hjoin⟩ := exists_joinsPrompt (eq_true_of_ne_false hsaw)
    exact hjoins a n b hpieces hjoin

/-- **A prompt inside a prompt.** When the inner one is deleted, the parts of the outer one come
together. -/
theorem strip_strip_nested :
    strip "--Mo--More--re--".toList = ("--More--".toList, true) ∧
      strip "--More--".toList = ([], true) := by
  refine ⟨by cbv, by cbv⟩

/-- No prompt reaches across a seam. -/
theorem not_joinsPrompt_of_isSeam {a b : Text} (h : isSeam a b = true) : ¬JoinsPrompt a b := by
  rintro ⟨x, u, v, y, rfl, rfl, hu, hv, hprompt⟩
  have hparted : ∀ c ∈ u ++ v, morePrompt.partedBy c = false := by
    intro c hc
    have hadmits := admits_of_takes (takes_morePrompt_iff_isPrompt.2 hprompt) c hc
    by_contra hparts
    rw [Bool.not_eq_false] at hparts
    rw [admits_of_partedBy hparts] at hadmits
    cases hadmits
  obtain ⟨hus, hvs⟩ := List.forall_mem_append.1 hparted
  rw [isSeam, List.getLast?_append_of_ne_nil x hu, List.getLast?_eq_some_getLast hu,
    List.head?_append_of_ne_nil v hv, List.head?_eq_some_head hv, Option.any_some, Option.any_some,
    hus _ (List.getLast_mem hu), hvs _ (List.head_mem hv), Bool.or_false, Bool.or_false,
    Bool.or_eq_true, List.isEmpty_iff, List.isEmpty_iff] at h
  rcases h with h | h
  · exact hu (List.append_eq_nil_iff.1 h).2
  · exact hv (List.append_eq_nil_iff.1 h).1

/-- **Removing prompts leaves none where each was removed at a seam**, as behind a line feed. -/
theorem strip_strip_of_seams
    (h : ∀ a m b, morePrompt.pieces none t = a ++ .cut m :: b →
      isSeam (keptText a) (keptText b) = true) :
    (strip (strip t).1).2 = false := by
  by_contra hsaw
  obtain ⟨a, n, b, hpieces, hjoin⟩ := exists_joinsPrompt (eq_true_of_ne_false hsaw)
  exact not_joinsPrompt_of_isSeam (h a n b hpieces) hjoin

end Pager

end Teletype
