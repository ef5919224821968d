import Mathlib
import Teletype.Proofs.Recognition
import Teletype.Proofs.Rendered

/-!
# The last line of the output

Output is looked at from its end, in two ways: whether it ends with the prompt that was waited for
(`Prompt.ends`), and whether it ends with another one (`Prompt.changed`). The first looks at the last
line that is not empty, as it stands; the second at the last one that is not blank, and trimmed
(`Prompt.changed_eq_some_iff`). They never find both (`Prompt.changed_eq_none`), because every pattern
of a prompt needs a terminator and minds no blanks behind it.

Both look at a window at the end of the output, which may begin anywhere, also between a carriage
return and its line feed. Where a line starts is said by `Text.StartsLine`, and `Text.IsLastLine a l b`
says that `l` is the last line that is not blank. Whatever stands before it makes no difference, so a
window that reaches its start shows as much as the whole output (`Prompt.look_of_reaches`).
-/

namespace Teletype

namespace PromptPattern

/-- **Blanks at the end of a line make no difference to a match**, and they are not all of it. -/
theorem isIn_trimEnd {p : PromptPattern} {line : Text} (hfeed : '\n' ∉ line)
    (h : p.isIn line = true) :
    Text.trimEnd line ≠ [] ∧ p.isIn (Text.trimEnd line) = true := by
  have hfeed' : '\n' ∉ Text.trimEnd line := fun hmem => hfeed (Screen.mem_of_mem_dropEndWhile hmem)
  -- a match ends with a terminator and blanks
  have htrim : ∀ {a b : Text} {c : Char}, Prompt.isTerminator c = true → Text.blank b = true →
      Text.trimEnd (a ++ c :: b) = a ++ [c] := by
    intro a b c hc hb
    rw [← List.singleton_append, ← List.append_assoc, Text.trimEnd_append_of_blank _ hb,
      Text.trimEnd_append_singleton _ (Prompt.isBlank_of_isTerminator hc)]
  cases p with
  | generic =>
    obtain ⟨a, c, b, rfl, hc, hb⟩ := (isIn_generic_iff hfeed).1 h
    have hblank : Text.blank b = true := List.all_eq_true.2 fun d hd => by
      rcases hb d hd with rfl | rfl <;> rfl
    rw [htrim hc hblank] at hfeed' ⊢
    exact ⟨by simp, (isIn_generic_iff hfeed').2
      ⟨a, c, [], rfl, hc, fun d hd => absurd hd List.not_mem_nil⟩⟩
  | ofHost host =>
    obtain ⟨mode, b, c, b', rfl, hmode, hb, hc, hb'⟩ := (isIn_ofHost_iff hfeed).1 h
    have heq : ∀ z, host ++ (mode ++ (b ++ c :: z)) = (host ++ mode ++ b) ++ c :: z := by simp
    rw [heq, htrim hc hb'] at hfeed' ⊢
    exact ⟨by simp, (isIn_ofHost_iff hfeed').2
      ⟨mode, b, c, [], (heq []).symm, hmode, hb, hc, rfl⟩⟩

end PromptPattern

namespace Text

/-! ## Where lines start -/

/-- A line ends with a line feed or a carriage return, or with both. -/
def isLineEnd (c : Char) : Bool :=
  c == '\n' || c == '\r'

theorem isLineEnd_iff {c : Char} : isLineEnd c = true ↔ c = '\n' ∨ c = '\r' := by
  rw [isLineEnd, Bool.or_eq_true, beq_iff_eq, beq_iff_eq]

theorem isBlank_of_isLineEnd {c : Char} (h : isLineEnd c = true) : isBlank c = true := by
  rcases isLineEnd_iff.1 h with rfl | rfl <;> rfl

/-- **A line starts** between two parts of a text: before it is nothing, or a line feed, or a carriage
return that no line feed follows. -/
def StartsLine (a b : Text) : Prop :=
  ∀ c ∈ a.getLast?, c = '\n' ∨ c = '\r' ∧ b.head? ≠ some '\n'

/-- It does so too when less is before it. -/
theorem StartsLine.drop {a b : Text} (h : StartsLine a b) (k : Nat) : StartsLine (a.drop k) b := by
  intro c hc
  rw [List.getLast?_drop] at hc
  split at hc
  · cases hc
  · exact h c hc

/-- **The lines behind a place where one starts are the last lines of the whole.** -/
theorem exists_anyLines_append {a b : Text} (h : StartsLine a b) :
    ∃ ls, anyLines (a ++ b) = ls ++ anyLines b ∧ (a ≠ [] → ls ≠ []) := by
  -- what is left of `a` behind a line or a character of it is nothing, or ends as `a` does
  have hrest : ∀ {x r : Text}, StartsLine (x ++ r) b → StartsLine r b := by
    intro x r hx
    have hdrop := hx.drop x.length
    rwa [List.drop_left] at hdrop
  fun_induction anyLines a with
  | case1 => exact ⟨[], rfl, fun hne => absurd rfl hne⟩
  | case2 r ih =>
    obtain ⟨ls, hls, -⟩ := ih (hrest (x := ['\r', '\n']) h)
    exact ⟨[] :: ls, congrArg (List.cons []) hls, fun _ => List.cons_ne_nil _ _⟩
  | case3 c r hpair hc ih =>
    obtain ⟨ls, hls, -⟩ := ih (hrest (x := [c]) h)
    have hpair' : ∀ s, c = '\r' → r ++ b = '\n' :: s → False := by
      rintro s rfl hs
      cases r with
      | nil =>
        rcases h '\r' rfl with heq | ⟨-, hhead⟩
        · cases heq
        · exact hhead (by rw [← List.nil_append b, hs]; rfl)
      | cons d r =>
        obtain ⟨rfl, -⟩ := List.cons.inj hs
        exact hpair r rfl rfl
    refine ⟨[] :: ls, ?_, fun _ => List.cons_ne_nil _ _⟩
    rw [List.cons_append, anyLines, if_pos hc, hls]
    · rfl
    · exact hpair'
  | case4 c r hpair hc ih =>
    obtain ⟨ls, hls, hne⟩ := ih (hrest (x := [c]) h)
    cases r with
    | nil => exact absurd ((h c rfl).imp id And.left) hc
    | cons d r =>
      have hpair' : ∀ s, c = '\r' → d :: r ++ b = '\n' :: s → False :=
        fun s heq _ => hc (.inr heq)
      obtain ⟨l, ls, rfl⟩ := List.exists_cons_of_ne_nil (hne (List.cons_ne_nil d r))
      refine ⟨(c :: l) :: ls, ?_, fun _ => List.cons_ne_nil _ _⟩
      rw [List.cons_append, anyLines, if_neg hc, hls]
      · rfl
      · exact hpair'

/-- At the end of a line the first of the lines is empty. -/
theorem exists_anyLines_cons {b : Text} (h : b.head?.all isLineEnd = true) :
    ∃ ls, anyLines b = [] :: ls := by
  fun_cases anyLines b with
  | case1 => exact ⟨[], rfl⟩
  | case2 r => exact ⟨_, rfl⟩
  | case3 c r _ hc => exact ⟨_, rfl⟩
  | case4 c r _ hc => exact absurd (isLineEnd_iff.1 h) hc

/-! ## The last line that is not blank -/

/-- **The last line of a text that is not blank**: it is `l`, between `a` and `b`. -/
structure IsLastLine (a l b : Text) : Prop where
  starts : StartsLine a (l ++ b)
  whole : ∀ c ∈ l, isLineEnd c = false
  ends : b.head?.all isLineEnd = true
  shown : blank l = false
  last : blank b = true

/-- The last of some lines that is not blank. -/
def IsLastShown (ls : List Text) (l : Text) : Prop :=
  ∃ before behind, ls = before ++ l :: behind ∧ blank l = false ∧ ∀ k ∈ behind, blank k = true

theorem blank_of_mem_anyLines {t l : Text} (ht : blank t = true) (hl : l ∈ anyLines t) :
    blank l = true :=
  List.all_eq_true.2 fun c hc => List.all_eq_true.1 ht c (of_mem_anyLines hl c hc).1

namespace IsLastLine

variable {a l b : Text}

/-- The lines from the last one on, with whatever part of the text before it. -/
theorem exists_anyLines (h : IsLastLine a l b) : ∃ behind, (∀ k ∈ behind, blank k = true) ∧
    ∀ k, ∃ before, anyLines (a.drop k ++ (l ++ b)) = before ++ l :: behind := by
  obtain ⟨behind, hb⟩ := exists_anyLines_cons h.ends
  have hfeed : '\n' ∉ l := fun hc => absurd (h.whole _ hc) (by decide)
  have hreturn : '\r' ∉ l := fun hc => absurd (h.whole _ hc) (by decide)
  have hline : anyLines (l ++ b) = l :: behind := by
    rw [anyLines_append hfeed hreturn, hb, foldr_consFirst, List.append_nil]
  refine ⟨behind, fun k hk => blank_of_mem_anyLines h.last ?_, fun k => ?_⟩
  · rw [hb]
    exact List.mem_cons_of_mem [] hk
  · obtain ⟨before, hbefore, -⟩ := exists_anyLines_append (h.starts.drop k)
    exact ⟨before, by rw [hbefore, hline]⟩

/-- No later place is the start of the last line. -/
theorem eq_nil_of_later {x l' b' : Text} (h : IsLastLine a l b) (h' : IsLastLine (a ++ x) l' b')
    (heq : l ++ b = x ++ (l' ++ b')) : x = [] := by
  by_contra hx
  rcases List.append_eq_append_iff.1 heq with ⟨y, rfl, hb⟩ | ⟨y, rfl, -⟩
  · -- the later line is among what is blank
    have hblank := h.last
    rw [hb, blank, List.all_append, List.all_append, Bool.and_eq_true, Bool.and_eq_true] at hblank
    exact absurd hblank.2.1 (Bool.eq_false_iff.1 h'.shown)
  · -- the end of a line is within the line
    have hlast : x.getLast hx ∈ (a ++ x).getLast? := by
      rw [List.getLast?_append_of_ne_nil a hx, List.getLast?_eq_some_getLast hx]
      rfl
    have hmem : x.getLast hx ∈ x ++ y := List.mem_append_left y (List.getLast_mem hx)
    have hend := isLineEnd_iff.2 ((h'.starts _ hlast).imp id And.left)
    rw [h.whole _ hmem] at hend
    cases hend

/-- There is one place where the last line starts. -/
theorem unique {a' l' b' : Text} (h : IsLastLine a l b) (h' : IsLastLine a' l' b')
    (heq : a ++ (l ++ b) = a' ++ (l' ++ b')) : a = a' := by
  rcases List.append_eq_append_iff.1 heq with ⟨x, rfl, hx⟩ | ⟨x, rfl, hx⟩
  · rw [h.eq_nil_of_later h' hx, List.append_nil]
  · rw [h'.eq_nil_of_later h hx, List.append_nil]

end IsLastLine

/-- Every text has a last line. -/
theorem exists_line_start (t : Text) :
    ∃ a l, t = a ++ l ∧ a.getLast?.all isLineEnd = true ∧ ∀ c ∈ l, isLineEnd c = false := by
  obtain ⟨l, hl, hline⟩ := exists_dropEndWhile (fun c => !isLineEnd c) t
  refine ⟨_, l, hl, (Option.all_eq_true _ _).2 fun c hc => ?_, fun c hc => ?_⟩
  · simpa using of_getLast?_dropEndWhile hc
  · simpa using hline c hc

/-- A text that is not blank has a line that reaches to the last of its characters that is no blank. -/
theorem exists_shown_line {t : Text} (h : blank t = false) :
    ∃ a k c s, t = a ++ (k ++ [c]) ++ s ∧ a.getLast?.all isLineEnd = true ∧
      (∀ d ∈ k ++ [c], isLineEnd d = false) ∧ isBlank c = false ∧ blank s = true := by
  obtain ⟨s, ht, hs⟩ := exists_trimEnd t
  obtain ⟨a, m, hm, hstart, hline⟩ := exists_line_start (trimEnd t)
  have hshown : ∀ {k c}, trimEnd t = k ++ [c] → isBlank c = false := fun hk =>
    of_getLast?_dropEndWhile (List.getLast?_eq_some_iff.2 ⟨_, hk⟩)
  rcases List.eq_nil_or_concat' m with rfl | ⟨k, c, rfl⟩
  · -- no line that is trimmed ends with the end of a line
    rw [List.append_nil] at hm
    rcases List.eq_nil_or_concat' a with rfl | ⟨k, c, rfl⟩
    · rw [trimEnd_eq_nil_iff.1 hm] at h
      cases h
    · rw [List.getLast?_concat, Option.all_some] at hstart
      exact absurd (isBlank_of_isLineEnd hstart) (Bool.eq_false_iff.1 (hshown hm))
  · exact ⟨a, k, c, s, by rw [← hm, ← ht], hstart, hline,
      hshown (by rw [hm, ← List.append_assoc]), hs⟩

/-- **A text that is not blank has a last line that is not.** -/
theorem exists_isLastLine {t : Text} (h : blank t = false) :
    ∃ a l b, t = a ++ (l ++ b) ∧ IsLastLine a l b := by
  obtain ⟨a, k, c, s, rfl, hstart, hline, hc, hs⟩ := exists_shown_line h
  have hbehind : blank (s.dropWhile fun d => !isLineEnd d) = true :=
    List.all_eq_true.2 fun d hd =>
      List.all_eq_true.1 hs d ((List.dropWhile_suffix _).subset hd)
  refine ⟨a, k ++ [c] ++ s.takeWhile fun d => !isLineEnd d, s.dropWhile fun d => !isLineEnd d, ?_,
    ⟨fun d hd => ?_, fun d hd => ?_, ?_, ?_, hbehind⟩⟩
  · rw [List.append_assoc _ _ (s.dropWhile _), List.takeWhile_append_dropWhile, List.append_assoc]
  · -- no line feed follows, as the line is not empty
    have hnofeed : '\n' ∉ k ++ [c] := fun hmem => absurd (hline _ hmem) (by decide)
    refine (isLineEnd_iff.1 ((Option.all_eq_true _ _).1 hstart d hd)).imp id fun heq => ⟨heq, ?_⟩
    rw [List.append_assoc (k ++ [c]), List.head?_append_of_ne_nil _ (by simp)]
    exact fun hhead => hnofeed (List.mem_of_head? hhead)
  · rcases List.mem_append.1 hd with hd | hd
    · exact hline d hd
    · simpa using List.mem_takeWhile_imp hd
  · refine (Option.all_eq_true _ _).2 fun d hd => ?_
    have hhead := List.head?_dropWhile_not (fun d => !isLineEnd d) s
    rw [hd] at hhead
    simpa using hhead
  · rw [Bool.eq_false_iff]
    intro hblank
    rw [List.all_eq_true.1 hblank c (by simp)] at hc
    cases hc

/-! ## Windows -/

/-- **A window of `n` characters reaches the last line**: the last line that is not blank, if there is
one, starts within the last `n` characters. -/
def Reaches (n : Int) (t : Text) : Prop :=
  ∀ a l b, t = a ++ (l ++ b) → IsLastLine a l b → ((l ++ b).length : Int) ≤ n

theorem IsLastLine.reaches_iff {a l b : Text} {n : Int} (h : IsLastLine a l b) :
    Reaches n (a ++ (l ++ b)) ↔ ((l ++ b).length : Int) ≤ n := by
  constructor
  · exact fun hreaches => hreaches a l b rfl h
  · intro hn a' l' b' heq h'
    obtain rfl := h.unique h' heq
    rwa [← List.append_cancel_left heq]

/-- A window in which the end of a text has room shows it, and some of what is before it. -/
theorem exists_tail_append {n : Int} {a b : Text} (hn : 0 < n) (hb : (b.length : Int) ≤ n) :
    ∃ k, tail n (a ++ b) = a.drop k ++ b := by
  refine ⟨(a ++ b).length - n.toNat, ?_⟩
  rw [tail, if_pos hn, List.drop_append_of_le_length]
  rw [List.length_append]
  omega

end Text

namespace Prompt

variable {p : PromptPattern} {lookback : Int} {t q : Text}

/-! ## The two looks -/

theorem feed_not_mem_of_mem_lastLines {l : Text} (h : l ∈ lastLines lookback t) : '\n' ∉ l := by
  rw [lastLines, List.mem_reverse] at h
  exact fun hmem => (Text.of_mem_anyLines h _ hmem).2.1 rfl

/-- The lines are looked at from the last one back. -/
theorem lastLines_eq_append_cons_iff {front back : List Text} {l : Text} :
    lastLines lookback t = front ++ l :: back ↔
      Text.anyLines (Text.tail lookback t) = back.reverse ++ l :: front.reverse := by
  rw [lastLines, List.reverse_eq_iff]
  simp

/-- **The second look stops at the last line that is not blank**, and trims it. -/
theorem find?_trimEnd_eq_some_iff : ((lastLines lookback t).map Text.trimEnd).find?
      (fun line => !line.isEmpty) = some q ↔
    ∃ l, Text.IsLastShown (Text.anyLines (Text.tail lookback t)) l ∧ q = Text.trimEnd l := by
  have hempty : ∀ l, (Text.trimEnd l).isEmpty = Text.blank l := fun l => by
    rw [Bool.eq_iff_iff, List.isEmpty_iff, Text.trimEnd_eq_nil_iff]
  rw [List.find?_map, Option.map_eq_some_iff]
  refine exists_congr fun l => and_congr ?_ eq_comm
  simp only [List.find?_eq_some_iff_append, Function.comp_apply, hempty, Bool.not_not,
    Bool.not_eq_true']
  constructor
  · rintro ⟨hl, front, back, hlines, hfront⟩
    exact ⟨back.reverse, front.reverse, lastLines_eq_append_cons_iff.1 hlines, hl,
      fun k hk => hfront k (List.mem_reverse.1 hk)⟩
  · rintro ⟨before, behind, hlines, hl, hbehind⟩
    refine ⟨hl, behind.reverse, before.reverse, lastLines_eq_append_cons_iff.2 ?_,
      fun k hk => hbehind k (List.mem_reverse.1 hk)⟩
    rw [List.reverse_reverse, List.reverse_reverse, hlines]

/-- **What another prompt at the end is**: the last line that is not blank, trimmed, if it ends in a
terminator and does not match. -/
theorem changed_eq_some_iff : changed p lookback t = some q ↔
    (∃ l, Text.IsLastShown (Text.anyLines (Text.tail lookback t)) l ∧ q = Text.trimEnd l) ∧
      q.getLast?.any isTerminator = true ∧ p.isIn q = false := by
  rw [changed, Option.filter_eq_some_iff, find?_trimEnd_eq_some_iff, Bool.and_eq_true,
    Bool.not_eq_true']
  refine and_congr_right ?_
  rintro ⟨l, -, rfl⟩
  rw [isLikely, Text.trimEnd_trimEnd]

/-- A line that matches is not blank. -/
theorem blank_of_isIn {l : Text} (hfeed : '\n' ∉ l) (h : p.isIn l = true) :
    Text.blank l = false :=
  Bool.eq_false_iff.2 fun hblank =>
    (PromptPattern.isIn_trimEnd hfeed h).1 (Text.trimEnd_eq_nil_iff.2 hblank)

/-- **The first look succeeds only at the same line**, and it matches trimmed too. -/
theorem exists_of_ends (h : ends p lookback t = true) :
    ∃ l, Text.IsLastShown (Text.anyLines (Text.tail lookback t)) l ∧
      p.isIn (Text.trimEnd l) = true := by
  obtain ⟨l, hl, hin⟩ := (Option.any_eq_true _ _).1 h
  obtain ⟨-, front, back, hlines, hfront⟩ := List.find?_eq_some_iff_append.1 hl
  have hfeed := feed_not_mem_of_mem_lastLines (List.mem_of_find?_eq_some hl)
  refine ⟨l, ⟨back.reverse, front.reverse, lastLines_eq_append_cons_iff.1 hlines,
    blank_of_isIn hfeed hin, fun k hk => ?_⟩, (PromptPattern.isIn_trimEnd hfeed hin).2⟩
  -- the lines behind it are empty
  have hempty : k = [] := by simpa using hfront k (List.mem_reverse.1 hk)
  rw [hempty]
  rfl

/-- **Output that ends with the prompt that was waited for does not end with another one.** -/
theorem changed_eq_none (h : ends p lookback t = true) : changed p lookback t = none := by
  obtain ⟨l, hl, hin⟩ := exists_of_ends h
  have hlast := find?_trimEnd_eq_some_iff.2 ⟨l, hl, rfl⟩
  rw [changed, hlast, Option.filter_some, hin, Bool.not_true, Bool.and_false]
  rfl

/-- **The two looks do not disagree.** Output that ends with the prompt that was waited for does not
end with another one. What is found as another prompt is the last line that is not blank in what is
looked at, without the blanks at its end; it ends in a terminator and does not match, and every such
line is found; and then the output does not end with the prompt that was waited for. -/
theorem changed_excludes_ends (p : PromptPattern) (lookback : Int) (t : Text) :
    (ends p lookback t = true → changed p lookback t = none) ∧
      ∀ q, (changed p lookback t = some q ↔
          (∃ l, Text.IsLastShown (Text.anyLines (Text.tail lookback t)) l ∧ q = Text.trimEnd l) ∧
            q.getLast?.any isTerminator = true ∧ p.isIn q = false) ∧
        (changed p lookback t = some q → ends p lookback t = false) := by
  refine ⟨changed_eq_none, fun q => ⟨changed_eq_some_iff, fun hq => ?_⟩⟩
  rw [Bool.eq_false_iff]
  intro hends
  rw [changed_eq_none hends] at hq
  cases hq

/-! ## What a window shows -/

/-- **Only the last lines are seen**, from one on that is not blank. -/
theorem look_congr {lookback' : Int} {t' : Text} {ls ls' ms : List Text}
    (h : Text.anyLines (Text.tail lookback t) = ls ++ ms)
    (h' : Text.anyLines (Text.tail lookback' t') = ls' ++ ms)
    (hshown : ∃ l ∈ ms, Text.blank l = false) :
    ends p lookback t = ends p lookback' t' ∧ changed p lookback t = changed p lookback' t' := by
  obtain ⟨l, hl, hshown⟩ := hshown
  have hseen : ∀ {ks : List Text} {f : Text → Bool}, f l = true →
      (ks ++ ms).reverse.find? f = ms.reverse.find? f := by
    intro ks f hf
    rw [List.reverse_append, List.find?_append, Option.or_of_isSome]
    exact List.find?_isSome.2 ⟨l, List.mem_reverse.2 hl, hf⟩
  have hsame : ∀ f : Text → Bool, f l = true →
      (lastLines lookback t).find? f = (lastLines lookback' t').find? f := by
    intro f hf
    rw [lastLines, lastLines, h, h', hseen hf, hseen hf]
  have htrim : Text.trimEnd l ≠ [] := by
    rw [ne_eq, Text.trimEnd_eq_nil_iff, hshown]
    exact Bool.false_ne_true
  have hne : l ≠ [] := by
    rintro rfl
    exact htrim rfl
  constructor
  · rw [ends, ends, hsame]
    rwa [Bool.not_eq_true', List.isEmpty_eq_false_iff]
  · rw [changed, changed, List.find?_map, List.find?_map, hsame]
    rwa [Function.comp_apply, Bool.not_eq_true', List.isEmpty_eq_false_iff]

/-- In what is blank neither look finds anything. -/
theorem look_of_blank (p : PromptPattern) (lookback : Int) (h : Text.blank t = true) :
    ends p lookback t = false ∧ changed p lookback t = none := by
  have hblank : Text.blank (Text.tail lookback t) = true := by
    rw [Text.tail]
    split
    · exact List.all_eq_true.2 fun c hc => List.all_eq_true.1 h c (List.mem_of_mem_drop hc)
    · exact List.all_eq_true.2 fun c hc => List.all_eq_true.1 h c (List.mem_of_mem_drop hc)
  have hnone : ∀ l, ¬Text.IsLastShown (Text.anyLines (Text.tail lookback t)) l := by
    rintro l ⟨before, behind, hlines, hl, -⟩
    have hmem : l ∈ Text.anyLines (Text.tail lookback t) := by simp [hlines]
    rw [Text.blank_of_mem_anyLines hblank hmem] at hl
    cases hl
  constructor
  · rw [Bool.eq_false_iff]
    intro hends
    obtain ⟨l, hl, -⟩ := exists_of_ends hends
    exact hnone l hl
  · rw [Option.eq_none_iff_forall_ne_some]
    intro q hq
    obtain ⟨⟨l, hl, -⟩, -⟩ := changed_eq_some_iff.1 hq
    exact hnone l hl

/-- **A window that reaches the last line sees as much as the whole text.** The last line that is not
blank starts within the last `n` characters, wherever the window begins. -/
theorem look_of_reaches (p : PromptPattern) {n : Int} {t : Text} (hn : 1 ≤ n)
    (h : Text.Reaches n t) :
    ends p n t = ends p t.length t ∧ changed p n t = changed p t.length t := by
  cases hblank : Text.blank t with
  | true =>
    obtain ⟨hends, hchanged⟩ := look_of_blank p n hblank
    obtain ⟨hends', hchanged'⟩ := look_of_blank p t.length hblank
    exact ⟨hends.trans hends'.symm, hchanged.trans hchanged'.symm⟩
  | false =>
    obtain ⟨a, l, b, rfl, hline⟩ := Text.exists_isLastLine hblank
    have hwithin : ((l ++ b).length : Int) ≤ n := h a l b rfl hline
    have hpos : 0 < (l ++ b).length := by
      rw [List.length_pos_iff]
      rintro hnil
      rw [(List.append_eq_nil_iff.1 hnil).1] at hline
      cases hline.shown
    obtain ⟨behind, -, hlines⟩ := hline.exists_anyLines
    have hwindow : ∀ {m : Int}, 0 < m → ((l ++ b).length : Int) ≤ m →
        ∃ before, Text.anyLines (Text.tail m (a ++ (l ++ b))) = before ++ l :: behind := by
      intro m hm hle
      obtain ⟨k, hk⟩ := Text.exists_tail_append (a := a) hm hle
      rw [hk]
      exact hlines k
    obtain ⟨before, hbefore⟩ := hwindow (by omega) hwithin
    have hall := (List.suffix_append a (l ++ b)).length_le
    obtain ⟨before', hbefore'⟩ := hwindow (m := (a ++ (l ++ b)).length) (by omega) (by omega)
    exact look_congr hbefore hbefore' ⟨l, List.mem_cons_self, hline.shown⟩

/-- A window that begins between a return and its line feed. -/
theorem look_of_reaches_feed :
    Text.Reaches 6 "x\r\nfw#\r\n".toList ∧
      Text.tail 6 "x\r\nfw#\r\n".toList = "\nfw#\r\n".toList ∧
      ends (.ofHost "fw".toList) 6 "x\r\nfw#\r\n".toList = true ∧
      changed (.ofHost "sw".toList) 6 "x\r\nfw#\r\n".toList = some "fw#".toList := by
  have hline : Text.IsLastLine "x\r\n".toList "fw#".toList "\r\n".toList :=
    ⟨by simp [Text.StartsLine], by simp [Text.isLineEnd], by cbv, by cbv, by cbv⟩
  have hreaches : Text.Reaches 6 "x\r\nfw#\r\n".toList := by
    have hwhole : "x\r\nfw#\r\n".toList = "x\r\n".toList ++ ("fw#".toList ++ "\r\n".toList) := by
      decide
    rw [hwhole]
    exact hline.reaches_iff.2 (by decide)
  refine ⟨hreaches, by decide, ?_, ?_⟩
  · exact (look_of_reaches _ (by decide) hreaches).1.trans (by cbv)
  · exact (look_of_reaches _ (by decide) hreaches).2.trans (by cbv)

end Prompt

end Teletype
