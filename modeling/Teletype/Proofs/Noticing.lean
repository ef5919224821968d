import Mathlib
import Teletype.Proofs.Removal

/-!
# Which pager prompts are noticed

A device that pages its output is looked at in two ways. `Pager.strip` removes the prompts around the
word *more*, which have dashes on one side at least; `Pager.isPaused` notices prompts of several
kinds, so that a key can be sent. Here it is said without patterns what is noticed: a prompt around
the word *more* that has dashes on both sides (`MorePrompt.IsTwoSided`), or one of the stretches of
`IsPause`.

So what is noticed is more than what is removed in all but one respect. A text out of which a prompt
is removed is noticed exactly if it holds a prompt with dashes on both sides, or another stretch that
says that output waits (`Pager.isPaused_of_strip_iff`).
-/

namespace Teletype

namespace Pager

open Pattern

/-! ## What is noticed -/

/-- Dashes stand on both sides of the word. -/
def MorePrompt.IsTwoSided (P : MorePrompt) : Prop :=
  0 < P.dashes ∧ 0 < P.dashesBehind

/-- **A stretch that says that output waits for a key**, as short as can be. -/
inductive IsPause : Text → Prop
  /-- The word *more* between dashes, with a blank inside that is no space. -/
  | more {b w b' : Text} :
      Text.blank b = true → w.map Char.toLower = ['m', 'o', 'r', 'e'] → Text.blank b' = true →
      (∃ c ∈ b ++ b', c ≠ ' ') → IsPause ('-' :: (b ++ (w ++ (b' ++ ['-']))))
  /-- The word *press* behind two dashes, with a blank behind it. -/
  | press {b w : Text} {c : Char} :
      Text.blank b = true → IsWord ['p', 'r', 'e', 's', 's'] w → Text.isBlank c = true →
      IsPause ('-' :: '-' :: (b ++ (w ++ [c])))
  /-- The word *end* in parentheses. -/
  | ended {w : Text} : IsWord ['e', 'n', 'd'] w → IsPause ('(' :: (w ++ [')']))
  /-- The word *lines* and two numbers, as far as the first digit of the second. -/
  | lines {w b n : Text} {d : Char} :
      IsWord ['l', 'i', 'n', 'e', 's'] w → b ≠ [] → Text.blank b = true →
      n ≠ [] → (∀ c ∈ n, Text.isDecimal c = true) → Text.isDecimal d = true →
      IsPause (w ++ (b ++ (n ++ ['-', d])))
  /-- The words *press space*. -/
  | pressSpace {w b v : Text} :
      IsWord ['p', 'r', 'e', 's', 's'] w → b ≠ [] → Text.blank b = true →
      IsWord ['s', 'p', 'a', 'c', 'e'] v → IsPause (w ++ (b ++ v))
  /-- The words *press any key*. -/
  | pressAnyKey {w b v b' u : Text} :
      IsWord ['p', 'r', 'e', 's', 's'] w → b ≠ [] → Text.blank b = true →
      IsWord ['a', 'n', 'y'] v → b' ≠ [] → Text.blank b' = true → IsWord ['k', 'e', 'y'] u →
      IsPause (w ++ (b ++ (v ++ (b' ++ u))))

variable {before : Option Char} {m rest t : Text}

theorem takes_blanks_iff : (many Text.isBlank).Takes before m rest ↔ Text.blank m = true :=
  List.all_eq_true.symm

theorem takes_someBlanks_iff :
    (atLeastOne Text.isBlank).Takes before m rest ↔ m ≠ [] ∧ Text.blank m = true := by
  rw [takes_atLeastOne_iff, Text.blank, List.all_eq_true]

theorem takes_digits_iff : (atLeastOne Text.isDecimal).Takes before m rest ↔
    m ≠ [] ∧ ∀ c ∈ m, Text.isDecimal c = true :=
  takes_atLeastOne_iff

/-- **Dashes on both sides of the word**, with blanks inside: a prompt that is removed, or one with
other blanks than spaces. -/
theorem exists_infix_of_dashes {i i' : Nat} {b w b' : Text} (hi : 0 < i) (hi' : 0 < i')
    (hb : Text.blank b = true) (hw : w.map Char.toLower = ['m', 'o', 'r', 'e'])
    (hb' : Text.blank b' = true) :
    (∃ P : MorePrompt, P.text <:+: List.replicate i '-' ++ (b ++ (w ++ (b' ++
      List.replicate i' '-'))) ∧ P.IsTwoSided) ∨
    ∃ n, n <:+: List.replicate i '-' ++ (b ++ (w ++ (b' ++ List.replicate i' '-'))) ∧ IsPause n := by
  by_cases hspaces : ∀ c ∈ b ++ b', c = ' '
  · obtain ⟨hs, hs'⟩ := List.forall_mem_append.1 hspaces
    obtain ⟨j, rfl⟩ : ∃ j, b = List.replicate j ' ' := ⟨_, List.eq_replicate_iff.2 ⟨rfl, hs⟩⟩
    obtain ⟨j', rfl⟩ : ∃ j, b' = List.replicate j ' ' := ⟨_, List.eq_replicate_iff.2 ⟨rfl, hs'⟩⟩
    refine .inl ⟨⟨false, i, j, w, j', i', false, false, hw, .inl hi⟩, ?_, hi, hi'⟩
    simp [MorePrompt.text, MorePrompt.front, MorePrompt.back]
  · have hother : ∃ c ∈ b ++ b', c ≠ ' ' := by simpa using hspaces
    obtain ⟨k, rfl⟩ := Nat.exists_eq_succ_of_ne_zero hi.ne'
    obtain ⟨k', rfl⟩ := Nat.exists_eq_succ_of_ne_zero hi'.ne'
    refine .inr ⟨_, ?_, .more hb hw hb' hother⟩
    refine ⟨List.replicate k '-', List.replicate k' '-', ?_⟩
    rw [List.replicate_succ', List.replicate_succ]
    simp

/-- **What the pattern of all prompts takes**, part by part. -/
theorem takes_anyPrompt_iff : anyPrompt.Takes before m rest ↔
    (∃ i b w b' i', 0 < i ∧ Text.blank b = true ∧ w.map Char.toLower = ['m', 'o', 'r', 'e'] ∧
      Text.blank b' = true ∧ 0 < i' ∧
      m = List.replicate i '-' ++ (b ++ (w ++ (b' ++ List.replicate i' '-')))) ∨
    (∃ b w s, Text.blank b = true ∧ IsWord ['p', 'r', 'e', 's', 's'] w ∧ s ≠ [] ∧
      Text.blank s = true ∧ m = '-' :: '-' :: (b ++ (w ++ s))) ∨
    (∃ w, IsWord ['e', 'n', 'd'] w ∧ m = '(' :: (w ++ [')'])) ∨
    (∃ w b n d, IsWord ['l', 'i', 'n', 'e', 's'] w ∧ b ≠ [] ∧ Text.blank b = true ∧ n ≠ [] ∧
      (∀ c ∈ n, Text.isDecimal c = true) ∧ d ≠ [] ∧ (∀ c ∈ d, Text.isDecimal c = true) ∧
      m = w ++ (b ++ (n ++ '-' :: d))) ∨
    ∃ w b v, IsWord ['p', 'r', 'e', 's', 's'] w ∧ b ≠ [] ∧ Text.blank b = true ∧
      (IsWord ['s', 'p', 'a', 'c', 'e'] v ∨ ∃ x b' u, IsWord ['a', 'n', 'y'] x ∧ b' ≠ [] ∧
        Text.blank b' = true ∧ IsWord ['k', 'e', 'y'] u ∧ v = x ++ (b' ++ u)) ∧
      m = w ++ (b ++ v) := by
  simp only [anyPrompt, takes_oneOf_cons, takes_oneOf_singleton, takes_row_cons, takes_row_nil,
    takes_word_iff, takes_char_iff, takes_blanks_iff, takes_someBlanks_iff,
    takes_digits_iff, takes_atLeastOne_char_iff, isWord_more_iff]
  constructor
  · rintro (⟨_, _, rfl, ⟨i, hi, rfl⟩, b, _, rfl, hb, w, _, rfl, hw, b', _, rfl, hb', _, _, rfl,
        ⟨i', hi', rfl⟩, rfl⟩ |
      ⟨_, _, rfl, rfl, _, _, rfl, rfl, b, _, rfl, hb, w, _, rfl, hw, s, _, rfl, ⟨hs, hblank⟩, rfl⟩ |
      ⟨_, _, rfl, rfl, w, _, rfl, hw, _, _, rfl, rfl, rfl⟩ |
      ⟨w, _, rfl, hw, b, _, rfl, ⟨hb, hblank⟩, n, _, rfl, ⟨hn, hdigits⟩, _, _, rfl, rfl, d, _, rfl,
        ⟨hd, hdigits'⟩, rfl⟩ |
      ⟨w, _, rfl, hw, b, _, rfl, ⟨hb, hblank⟩, _, _, rfl, hv, rfl⟩)
    · exact .inl ⟨i, b, w, b', i', hi, hb, hw, hb', hi', by simp⟩
    · exact .inr (.inl ⟨b, w, s, hb, hw, hs, hblank, by simp⟩)
    · exact .inr (.inr (.inl ⟨w, hw, rfl⟩))
    · exact .inr (.inr (.inr (.inl ⟨w, b, n, d, hw, hb, hblank, hn, hdigits, hd, hdigits', by simp⟩)))
    · refine .inr (.inr (.inr (.inr ⟨w, b, _, hw, hb, hblank, ?_, by rw [List.append_nil]⟩)))
      exact hv.imp_right fun ⟨x, _, hx', hx, b', _, hb'', ⟨hb', hblank'⟩, u, _, hu', hu, hnil⟩ =>
        ⟨x, b', u, hx, hb', hblank', hu, by rw [hx', hb'', hu', hnil, List.append_nil]⟩
  · rintro (⟨i, b, w, b', i', hi, hb, hw, hb', hi', rfl⟩ | ⟨b, w, s, hb, hw, hs, hblank, rfl⟩ |
      ⟨w, hw, rfl⟩ | ⟨w, b, n, d, hw, hb, hblank, hn, hdigits, hd, hdigits', rfl⟩ |
      ⟨w, b, v, hw, hb, hblank, hv, rfl⟩)
    · exact .inl ⟨_, _, rfl, ⟨i, hi, rfl⟩, b, _, rfl, hb, w, _, rfl, hw, b', _, rfl, hb', _, _,
        (List.append_nil _).symm, ⟨i', hi', rfl⟩, rfl⟩
    · exact .inr (.inl ⟨['-'], _, rfl, rfl, ['-'], _, rfl, rfl, b, _, rfl, hb, w, _, rfl, hw, s, _,
        (List.append_nil _).symm, ⟨hs, hblank⟩, rfl⟩)
    · exact .inr (.inr (.inl ⟨['('], _, rfl, rfl, w, _, rfl, hw, [')'], _, rfl, rfl, rfl⟩))
    · exact .inr (.inr (.inr (.inl ⟨w, _, rfl, hw, b, _, rfl, ⟨hb, hblank⟩, n, _, rfl,
        ⟨hn, hdigits⟩, ['-'], _, rfl, rfl, d, _, (List.append_nil _).symm, ⟨hd, hdigits'⟩, rfl⟩)))
    · refine .inr (.inr (.inr (.inr ⟨w, _, rfl, hw, b, _, rfl, ⟨hb, hblank⟩, v, _,
        (List.append_nil _).symm, ?_, rfl⟩)))
      exact hv.imp_right fun ⟨x, b', u, hx, hb', hblank', hu, hv⟩ =>
        ⟨x, _, hv, hx, b', _, rfl, ⟨hb', hblank'⟩, u, _, (List.append_nil _).symm, hu, rfl⟩

/-- **Whatever the pattern of all prompts takes** holds a prompt with dashes on both sides or a stretch
that says that output waits. -/
theorem exists_infix_of_takes (h : anyPrompt.Takes before m rest) :
    (∃ P : MorePrompt, P.text <:+: m ∧ P.IsTwoSided) ∨ ∃ n, n <:+: m ∧ IsPause n := by
  rcases takes_anyPrompt_iff.1 h with ⟨i, b, w, b', i', hi, hb, hw, hb', hi', rfl⟩ |
    ⟨b, w, s, hb, hw, hs, hblank, rfl⟩ | ⟨w, hw, rfl⟩ |
    ⟨w, b, n, d, hw, hb, hblank, hn, hdigits, hd, hdigits', rfl⟩ | ⟨w, b, v, hw, hb, hblank, hv, rfl⟩
  · exact exists_infix_of_dashes hi hi' hb hw hb'
  · obtain ⟨c, s, rfl⟩ := List.exists_cons_of_ne_nil hs
    rw [Text.blank, List.all_cons, Bool.and_eq_true] at hblank
    exact .inr ⟨_, ⟨[], s, by simp⟩, .press hb hw hblank.1⟩
  · exact .inr ⟨_, List.infix_refl _, .ended hw⟩
  · obtain ⟨c, d, rfl⟩ := List.exists_cons_of_ne_nil hd
    refine .inr ⟨_, ⟨[], d, ?_⟩, .lines hw hb hblank hn hdigits (hdigits' c List.mem_cons_self)⟩
    simp
  · rcases hv with hv | ⟨x, b', u, hx, hb', hblank', hu, rfl⟩
    · exact .inr ⟨_, List.infix_refl _, .pressSpace hw hb hblank hv⟩
    · exact .inr ⟨_, List.infix_refl _, .pressAnyKey hw hb hblank hx hb' hblank' hu⟩

/-- **A stretch that says that output waits is taken**, wherever it stands. -/
theorem takes_of_isPause (h : IsPause m) : anyPrompt.Takes before m rest := by
  rw [takes_anyPrompt_iff]
  cases h with
  | more hb hw hb' hother => exact .inl ⟨1, _, _, _, 1, Nat.one_pos, hb, hw, hb', Nat.one_pos, rfl⟩
  | @press b w c hb hw hc =>
    exact .inr (.inl ⟨b, w, [c], hb, hw, List.cons_ne_nil c [], by simpa [Text.blank] using hc, rfl⟩)
  | ended hw => exact .inr (.inr (.inl ⟨_, hw, rfl⟩))
  | @lines w b n d hw hb hblank hn hdigits hd =>
    refine .inr (.inr (.inr (.inl ⟨w, b, n, [d], hw, hb, hblank, hn, hdigits, List.cons_ne_nil d [],
      fun c hc => ?_, rfl⟩)))
    rwa [List.mem_singleton.1 hc]
  | pressSpace hw hb hblank hv =>
    exact .inr (.inr (.inr (.inr ⟨_, _, _, hw, hb, hblank, .inl hv, rfl⟩)))
  | pressAnyKey hw hb hblank hv hb' hblank' hu =>
    exact .inr (.inr (.inr (.inr ⟨_, _, _, hw, hb, hblank, .inr ⟨_, _, _, hv, hb', hblank', hu, rfl⟩,
      rfl⟩)))

/-- And so is the middle of a prompt with dashes on both sides. -/
theorem MorePrompt.IsTwoSided.exists_takes {P : MorePrompt} (h : P.IsTwoSided) :
    ∃ x m y, P.text = x ++ (m ++ y) ∧ ∀ {before rest}, anyPrompt.Takes before m rest := by
  obtain ⟨hdashes, hbehind⟩ := h
  have hblank : ∀ n, Text.blank (List.replicate n ' ') = true := by
    intro n
    refine List.all_eq_true.2 fun c hc => ?_
    rw [List.eq_of_mem_replicate hc]
    decide
  refine ⟨if P.returned then ['\r'] else [], List.replicate P.dashes '-' ++
    (List.replicate P.spaces ' ' ++ (P.word ++ (List.replicate P.spacesBehind ' ' ++
      List.replicate P.dashesBehind '-'))),
    (if P.echoed then [' '] else []) ++ if P.returnedBehind then ['\r'] else [], ?_, ?_⟩
  · simp only [MorePrompt.text, MorePrompt.front, MorePrompt.back, List.append_assoc]
  · exact takes_anyPrompt_iff.2 (.inl ⟨_, _, _, _, _, hdashes, hblank _, P.isMore, hblank _,
      hbehind, rfl⟩)

/-- **What is noticed**: a prompt with dashes on both sides, or another stretch that says that output
waits. -/
theorem isPaused_iff : isPaused t = true ↔
    (∃ P : MorePrompt, P.text <:+: t ∧ P.IsTwoSided) ∨ ∃ m, m <:+: t ∧ IsPause m := by
  rw [isPaused, occursIn_iff]
  constructor
  · rintro ⟨a, m, b, rfl, htakes⟩
    have hm : m <:+: a ++ (m ++ b) := ⟨a, b, List.append_assoc a m b⟩
    exact (exists_infix_of_takes htakes).imp (fun ⟨P, hP, hsides⟩ => ⟨P, hP.trans hm, hsides⟩)
      fun ⟨n, hn, hpause⟩ => ⟨n, hn.trans hm, hpause⟩
  · rintro (⟨P, ⟨a, b, rfl⟩, hsides⟩ | ⟨m, ⟨a, b, rfl⟩, hpause⟩)
    · obtain ⟨x, m, y, htext, htakes⟩ := hsides.exists_takes
      exact ⟨a ++ x, m, y ++ b, by simp [htext], htakes⟩
    · exact ⟨a, m, b, List.append_assoc a m b, takes_of_isPause hpause⟩

/-- **A text out of which a prompt is removed is noticed exactly if** it holds a prompt with dashes on
both sides, or another stretch that says that output waits. -/
theorem isPaused_of_strip_iff (t : Text) : ((strip t).2 = true → isPaused t = true) ↔
    (¬∃ a m b, t = a ++ (m ++ b) ∧ IsPrompt a m b) ∨
    (∃ P : MorePrompt, P.text <:+: t ∧ P.IsTwoSided) ∨ ∃ m, m <:+: t ∧ IsPause m := by
  rw [strip_snd_iff, isPaused_iff, imp_iff_not_or]

/-- **Dashes on one side** are removed with the word, and nothing is noticed. -/
theorem strip_oneSided :
    strip "--More".toList = ([], true) ∧ isPaused "--More".toList = false := by
  constructor <;> cbv

end Pager

end Teletype
