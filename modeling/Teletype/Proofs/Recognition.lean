import Teletype.Session
import Teletype.Proofs.Grammar
import Teletype.Proofs.Matching
import Teletype.Proofs.Shape
import Mathlib.Data.List.DropRight

/-!
# Whether a prompt recognises itself

From a prompt that was seen a pattern is made, and the prompt should match it when it comes back. The
pattern keeps the host of the prompt and allows one mode in parentheses behind it, so it depends on
what the prompt has from its first parenthesis on. `SingleMode` says that this is one mode, with
which the prompt ends but for its terminator.

`PromptPattern.isIn_ofHost_iff` says which lines match the pattern of a host. For a line that ends
like a prompt and the host made of it this comes to `SingleMode`
(`PromptPattern.isIn_ofHost_hostOf_iff`). A prompt that was found in rendered output is such a line,
without escape sequences; so with a single mode, waiting for it succeeds as soon as it is the last
line again.
-/

namespace Teletype

/-! ## Blanks at the end -/

namespace Text

theorem trimEnd_eq_rdropWhile (t : Text) : trimEnd t = t.rdropWhile isBlank := rfl

theorem trimEnd_trimEnd (t : Text) : trimEnd (trimEnd t) = trimEnd t :=
  List.rdropWhile_idempotent isBlank t

/-- A text is what is left of it, and what was dropped at its end. -/
theorem exists_dropEndWhile (p : Char → Bool) (t : Text) :
    ∃ s, t = dropEndWhile p t ++ s ∧ ∀ c ∈ s, p c = true := by
  refine ⟨(t.reverse.takeWhile p).reverse, ?_, fun c hc => ?_⟩
  · rw [dropEndWhile, ← List.reverse_append, List.takeWhile_append_dropWhile, List.reverse_reverse]
  · exact List.mem_takeWhile_imp (List.mem_reverse.1 hc)

/-- A text is what trimming leaves of it, and blanks. -/
theorem exists_trimEnd (t : Text) : ∃ s, t = trimEnd t ++ s ∧ blank s = true := by
  obtain ⟨s, ht, hs⟩ := exists_dropEndWhile isBlank t
  exact ⟨s, ht, List.all_eq_true.2 hs⟩

theorem trimEnd_append_of_blank (t : Text) {s : Text} (h : blank s = true) :
    trimEnd (t ++ s) = trimEnd t := by
  rw [trimEnd, trimEnd, dropEndWhile, dropEndWhile, List.reverse_append,
    List.dropWhile_append_of_pos]
  exact fun c hc => List.all_eq_true.1 h c (List.mem_reverse.1 hc)

theorem trimEnd_append_singleton (t : Text) {c : Char} (h : isBlank c = false) :
    trimEnd (t ++ [c]) = t ++ [c] := by
  rw [trimEnd_eq_rdropWhile, List.rdropWhile_concat, if_neg (by rw [h]; exact Bool.false_ne_true)]

theorem blank_trimEnd (t : Text) : blank (trimEnd t) = blank t := by
  obtain ⟨s, ht, hs⟩ := exists_trimEnd t
  have hblank : blank t = (blank (trimEnd t) && blank s) := by
    rw [blank, blank, blank, ← List.all_append, ← ht]
  rw [hblank, hs, Bool.and_true]

theorem trimEnd_eq_nil_iff {t : Text} : trimEnd t = [] ↔ blank t = true := by
  rw [← blank_trimEnd]
  constructor
  · intro h
    rw [h]
    rfl
  · intro h
    have hempty := trimEnd_append_of_blank [] h
    rwa [List.nil_append, trimEnd_trimEnd] at hempty

theorem not_mem_of_blank {s : Text} {c : Char} (h : blank s = true) (hc : isBlank c = false) :
    c ∉ s := by
  intro hmem
  rw [List.all_eq_true.1 h c hmem] at hc
  cases hc

/-- A text is cut in one way only at the first place of a character. -/
theorem append_cons_inj {a a' b b' : Text} {c : Char} (ha : c ∉ a) (ha' : c ∉ a')
    (h : a ++ c :: b = a' ++ c :: b') : a = a' ∧ b = b' := by
  induction a generalizing a' with
  | nil =>
    cases a' with
    | nil => exact ⟨rfl, (List.cons.inj h).2⟩
    | cons d a' =>
      obtain ⟨rfl, -⟩ := List.cons.inj h
      exact absurd List.mem_cons_self ha'
  | cons d a ih =>
    cases a' with
    | nil =>
      obtain ⟨rfl, -⟩ := List.cons.inj h
      exact absurd List.mem_cons_self ha
    | cons e a' =>
      obtain ⟨rfl, hrest⟩ := List.cons.inj h
      obtain ⟨rfl, rfl⟩ := ih (fun hc => ha (List.mem_cons_of_mem d hc))
        (fun hc => ha' (List.mem_cons_of_mem d hc)) hrest
      exact ⟨rfl, rfl⟩

/-! ## Lines -/

theorem mem_consFirst {c : Char} {ls : List Text} {l : Text} (h : l ∈ consFirst c ls) :
    l ∈ ls ∨ ∃ k, l = c :: k ∧ (k ∈ ls ∨ k = []) := by
  cases ls with
  | nil => exact .inr ⟨[], List.mem_singleton.1 h, .inr rfl⟩
  | cons k ls =>
    rcases List.mem_cons.1 h with rfl | h
    · exact .inr ⟨k, rfl, .inl List.mem_cons_self⟩
    · exact .inl (List.mem_cons_of_mem k h)

/-- The characters of a line are those of its text, and no line ends. -/
theorem of_mem_anyLines {t l : Text} (h : l ∈ anyLines t) :
    ∀ c ∈ l, c ∈ t ∧ c ≠ '\n' ∧ c ≠ '\r' := by
  fun_induction anyLines t generalizing l with
  | case1 =>
    obtain rfl := List.mem_singleton.1 h
    exact fun c hc => absurd hc List.not_mem_nil
  | case2 r ih =>
    intro c hc
    rcases List.mem_cons.1 h with rfl | h
    · exact absurd hc List.not_mem_nil
    · obtain ⟨hmem, hends⟩ := ih h c hc
      exact ⟨List.mem_cons_of_mem _ (List.mem_cons_of_mem _ hmem), hends⟩
  | case3 d r _ hd ih =>
    intro c hc
    rcases List.mem_cons.1 h with rfl | h
    · exact absurd hc List.not_mem_nil
    · obtain ⟨hmem, hends⟩ := ih h c hc
      exact ⟨List.mem_cons_of_mem d hmem, hends⟩
  | case4 d r _ hd ih =>
    intro c hc
    rw [not_or] at hd
    rcases mem_consFirst h with h | ⟨k, rfl, hk⟩
    · obtain ⟨hmem, hends⟩ := ih h c hc
      exact ⟨List.mem_cons_of_mem d hmem, hends⟩
    · rcases List.mem_cons.1 hc with rfl | hc
      · exact ⟨List.mem_cons_self, hd⟩
      · rcases hk with hk | rfl
        · obtain ⟨hmem, hends⟩ := ih hk c hc
          exact ⟨List.mem_cons_of_mem d hmem, hends⟩
        · exact absurd hc List.not_mem_nil

/-- Without a feed in it a line has one start and one end. -/
theorem eq_nil_of_line {a m rest : Text} (h : '\n' ∉ a ++ (m ++ rest))
    (hstart : a.getLast?.all (· == '\n') = true) (hend : rest.head?.all (· == '\n') = true) :
    a = [] ∧ rest = [] := by
  constructor
  · rcases List.eq_nil_or_concat' a with rfl | ⟨a, c, rfl⟩
    · rfl
    · rw [List.getLast?_concat, Option.all_some, beq_iff_eq] at hstart
      exact absurd (by simp [hstart]) h
  · cases rest with
    | nil => rfl
    | cons c rest =>
      rw [List.head?_cons, Option.all_some, beq_iff_eq] at hend
      exact absurd (by simp [hend]) h

end Text

/-- Without escape sequences there is nothing to strip. -/
theorem stripEscapes_of_not_mem {t : Text} (h : Control.escape ∉ t) : stripEscapes t = .ok t := by
  induction t with
  | nil => exact stripEscapes_nil
  | cons c t ih =>
    obtain ⟨hc, ht⟩ := List.ne_and_not_mem_of_not_mem_cons h
    rw [stripEscapes_cons (Ne.symm hc), ih ht]
    rfl

namespace Prompt

theorem isBlank_of_isTerminator {c : Char} (h : isTerminator c = true) :
    Text.isBlank c = false := by
  simp only [isTerminator, terminators, List.contains_cons, List.contains_nil, Bool.or_false,
    Bool.or_eq_true, beq_iff_eq] at h
  rcases h with rfl | rfl | rfl | rfl <;> rfl

/-- A line that looks like a prompt is a line of the text, ended by a terminator. -/
theorem exists_of_isLikely {lookback : Int} {t l : Text} (hl : l ∈ lastLines lookback t)
    (hlikely : isLikely (Text.trimEnd l) = true) :
    (∀ c ∈ Text.trimEnd l, c ∈ t ∧ c ≠ '\n' ∧ c ≠ '\r') ∧
      ∃ q c, Text.trimEnd l = q ++ [c] ∧ isTerminator c = true := by
  rw [isLikely, Text.trimEnd_trimEnd] at hlikely
  refine ⟨fun c hc => ?_, ?_⟩
  · rw [lastLines, List.mem_reverse] at hl
    obtain ⟨hmem, hends⟩ := Text.of_mem_anyLines hl c (Screen.mem_of_mem_dropEndWhile hc)
    rw [Text.tail] at hmem
    split at hmem
    · exact ⟨List.mem_of_mem_drop hmem, hends⟩
    · exact ⟨List.mem_of_mem_drop hmem, hends⟩
  · obtain ⟨c, hlast, hc⟩ := (Option.any_eq_true _ _).1 hlikely
    obtain ⟨q, hq⟩ := List.getLast?_eq_some_iff.1 hlast
    exact ⟨q, c, hq, hc⟩

/-- **What a prompt is that was found**: a line of the text, ended by a terminator. -/
theorem exists_of_detect {lookback : Int} {t p : Text} (h : detect lookback t = some p) :
    (∀ c ∈ p, c ∈ t ∧ c ≠ '\n' ∧ c ≠ '\r') ∧
      ∃ q c, p = q ++ [c] ∧ isTerminator c = true := by
  rw [detect] at h
  obtain ⟨l, hl, rfl⟩ := List.mem_map.1 (List.mem_of_find?_eq_some h)
  exact exists_of_isLikely hl (List.find?_some h)

end Prompt

namespace PromptPattern

open Pattern

/-! ## What the pattern of a host matches -/

/-- A mode in parentheses, with the blanks before it. -/
def IsMode (m : Text) : Prop :=
  ∃ b x, m = b ++ '(' :: (x ++ [')']) ∧ Text.blank b = true ∧ x ≠ [] ∧ ')' ∉ x

/-- Nothing is trimmed off a text that ends with a mode. -/
theorem IsMode.trimEnd_append {m : Text} (h : IsMode m) (t : Text) :
    Text.trimEnd (t ++ m) = t ++ m := by
  obtain ⟨b, x, rfl, -⟩ := h
  rw [← List.cons_append, ← List.append_assoc, ← List.append_assoc]
  exact Text.trimEnd_append_singleton _ (by decide)

theorem takes_mode_iff {before : Option Char} {m rest : Text} :
    (row [many Text.isBlank, char '(', atLeastOne (· != ')'), char ')']).Takes before m rest ↔
      IsMode m := by
  simp only [takes_row_cons, takes_row_nil, takes_char_iff, takes_atLeastOne_iff, bne_iff_ne]
  constructor
  · rintro ⟨b, _, rfl, hb, _, _, rfl, rfl, x, _, rfl, ⟨hne, hx⟩, _, _, rfl, rfl, rfl⟩
    exact ⟨b, x, rfl, List.all_eq_true.2 hb, hne, fun hmem => hx _ hmem rfl⟩
  · rintro ⟨b, x, rfl, hb, hne, hx⟩
    refine ⟨b, _, rfl, List.all_eq_true.1 hb, ['('], _, rfl, rfl, x, _, rfl, ⟨hne, ?_⟩, [')'], [],
      rfl, rfl, rfl⟩
    rintro c hc rfl
    exact hx hc

/-- What the pattern of a host takes fills a line. -/
theorem takes_ofHost_iff {host m rest : Text} {before : Option Char} :
    (ofHost host).pattern.Takes before m rest ↔
      before.all (· == '\n') = true ∧ rest.head?.all (· == '\n') = true ∧
        ∃ mode b c b', m = host ++ (mode ++ (b ++ c :: b')) ∧ (mode = [] ∨ IsMode mode) ∧
          Text.blank b = true ∧ Prompt.isTerminator c = true ∧ Text.blank b' = true := by
  rw [pattern, takes_row_cons]
  constructor
  · rintro ⟨_, _, rfl, ⟨rfl, hstart⟩, hrow⟩
    obtain ⟨_, _, rfl, hhost, hrow⟩ := takes_row_cons.1 hrow
    obtain ⟨mode, _, rfl, hmode, hrow⟩ := takes_row_cons.1 hrow
    obtain ⟨b, _, rfl, hb, hrow⟩ := takes_row_cons.1 hrow
    obtain ⟨_, _, rfl, ⟨c, rfl, hc⟩, hrow⟩ := takes_row_cons.1 hrow
    obtain ⟨b', _, rfl, hb', hrow⟩ := takes_row_cons.1 hrow
    obtain ⟨_, _, rfl, ⟨rfl, hend⟩, rfl⟩ := takes_row_cons.1 hrow
    obtain rfl := takes_literal_iff.1 hhost
    refine ⟨hstart, hend, mode, b, c, b', by simp, ?_, List.all_eq_true.2 hb, hc,
      List.all_eq_true.2 hb'⟩
    exact hmode.symm.imp id takes_mode_iff.1
  · rintro ⟨hstart, hend, mode, b, c, b', rfl, hmode, hb, hc, hb'⟩
    refine ⟨[], _, rfl, ⟨rfl, hstart⟩, takes_row_cons.2 ⟨host, _, rfl, takes_literal_iff.2 rfl, ?_⟩⟩
    refine takes_row_cons.2 ⟨mode, _, rfl, hmode.symm.imp takes_mode_iff.2 id, ?_⟩
    refine takes_row_cons.2 ⟨b, _, rfl, List.all_eq_true.1 hb, ?_⟩
    refine takes_row_cons.2 ⟨[c], b', rfl, ⟨c, rfl, hc⟩, ?_⟩
    refine takes_row_cons.2 ⟨b', [], (List.append_nil b').symm, List.all_eq_true.1 hb', ?_⟩
    exact takes_row_cons.2 ⟨[], [], rfl, ⟨rfl, hend⟩, rfl⟩

/-- **The lines of a host**: its name, perhaps a mode, and a terminator, with blanks around it. -/
theorem isIn_ofHost_iff {host line : Text} (h : '\n' ∉ line) :
    (ofHost host).isIn line = true ↔
      ∃ mode b c b', line = host ++ (mode ++ (b ++ c :: b')) ∧ (mode = [] ∨ IsMode mode) ∧
        Text.blank b = true ∧ Prompt.isTerminator c = true ∧ Text.blank b' = true := by
  rw [isIn, occursIn_iff]
  simp only [takes_ofHost_iff]
  constructor
  · rintro ⟨a, m, rest, rfl, hstart, hend, hm⟩
    obtain ⟨rfl, rfl⟩ := Text.eq_nil_of_line h hstart hend
    rwa [List.nil_append, List.append_nil]
  · intro hm
    exact ⟨[], line, [], by rw [List.nil_append, List.append_nil], rfl, rfl, hm⟩

/-- **The lines that end like a prompt**: in a terminator, with perhaps spaces and tabs behind it. -/
theorem isIn_generic_iff {line : Text} (h : '\n' ∉ line) :
    generic.isIn line = true ↔ ∃ a c b, line = a ++ c :: b ∧ Prompt.isTerminator c = true ∧
      ∀ d ∈ b, d = ' ' ∨ d = '\t' := by
  rw [isIn, occursIn_iff]
  constructor
  · rintro ⟨front, m, rest, rfl, htakes⟩
    rw [pattern, takes_row_cons] at htakes
    obtain ⟨_, _, rfl, ⟨rfl, hstart⟩, hrow⟩ := htakes
    obtain ⟨a, _, rfl, -, hrow⟩ := takes_row_cons.1 hrow
    obtain ⟨_, _, rfl, ⟨c, rfl, hc⟩, hrow⟩ := takes_row_cons.1 hrow
    obtain ⟨b, _, rfl, hb, hrow⟩ := takes_row_cons.1 hrow
    obtain ⟨_, _, rfl, ⟨rfl, hend⟩, rfl⟩ := takes_row_cons.1 hrow
    obtain ⟨rfl, rfl⟩ := Text.eq_nil_of_line h hstart hend
    refine ⟨a, c, b, by simp, hc, fun d hd => ?_⟩
    simpa using hb d hd
  · rintro ⟨a, c, b, rfl, hc, hb⟩
    refine ⟨[], a ++ c :: b, [], by simp, ?_⟩
    refine takes_row_cons.2 ⟨[], _, rfl, ⟨rfl, rfl⟩, takes_row_cons.2 ⟨a, _, rfl, ?_, ?_⟩⟩
    · intro d hd
      exact bne_iff_ne.2 fun heq => h (by rw [← heq]; exact List.mem_append_left _ hd)
    refine takes_row_cons.2 ⟨[c], b, rfl, ⟨c, rfl, hc⟩, ?_⟩
    refine takes_row_cons.2 ⟨b, [], (List.append_nil b).symm, fun d hd => ?_, ?_⟩
    · simpa using hb d hd
    · exact takes_row_cons.2 ⟨[], [], rfl, ⟨rfl, rfl⟩, rfl⟩

/-! ## What is kept of a prompt -/

/-- **The name of a prompt is not taken for more than it is**: if anything stands before its first
parenthesis, then what follows is one mode, and no more. -/
def SingleMode (body : Text) : Prop :=
  ∀ name m, body = name ++ '(' :: m → '(' ∉ name → Text.blank name = false →
    ∃ x, m = x ++ [')'] ∧ x ≠ [] ∧ ')' ∉ x

/-- Without a parenthesis a prompt is all host. -/
theorem hostOf_of_not_mem {body : Text} (h : Text.trimEnd body = body) (hparen : '(' ∉ body) :
    hostOf body = body := by
  have hall : body.takeWhile (· != '(') = body :=
    List.takeWhile_eq_self_iff.2 fun c hc => bne_iff_ne.2 fun heq => hparen (heq ▸ hc)
  simp only [hostOf, hall, h, ite_self]

/-- With one, its host is what stands before it, but for the blanks, unless that is nothing. -/
theorem hostOf_append_cons {name m : Text} (h : '(' ∉ name) :
    hostOf (name ++ '(' :: m) =
      if Text.blank name then name ++ '(' :: m else Text.trimEnd name := by
  have hname : (name ++ '(' :: m).takeWhile (· != '(') = name := by
    refine Escape.takeWhile_append_of_head (fun c hc => bne_iff_ne.2 fun heq => h (heq ▸ hc)) ?_
    rintro c ⟨⟩
    rfl
  simp only [hostOf, hname, Text.blank_trimEnd]

/-- **A single mode is what the host leaves of a prompt**, if it leaves anything. -/
theorem singleMode_iff {body : Text} (h : Text.trimEnd body = body) :
    SingleMode body ↔ body = hostOf body ∨ ∃ mode, IsMode mode ∧ body = hostOf body ++ mode := by
  by_cases hparen : '(' ∈ body
  · obtain ⟨name, m, rfl, hname⟩ := List.eq_append_cons_of_mem hparen
    have hsingle : SingleMode (name ++ '(' :: m) ↔
        (Text.blank name = false → ∃ x, m = x ++ [')'] ∧ x ≠ [] ∧ ')' ∉ x) := by
      refine ⟨fun hs hblank => hs name m rfl hname hblank, ?_⟩
      rintro hs name' m' heq hname' hblank
      obtain ⟨rfl, rfl⟩ := Text.append_cons_inj hname hname' heq
      exact hs hblank
    rw [hsingle, hostOf_append_cons hname]
    cases hblank : Text.blank name with
    | true => exact iff_of_true (by rintro ⟨⟩) (.inl rfl)
    | false =>
      obtain ⟨s, hs, hsblank⟩ := Text.exists_trimEnd name
      have hhost : '(' ∉ Text.trimEnd name := fun hc => hname (Screen.mem_of_mem_dropEndWhile hc)
      rw [if_neg Bool.false_ne_true]
      constructor
      · intro hm
        obtain ⟨x, rfl, hne, hx⟩ := hm rfl
        refine .inr ⟨s ++ '(' :: (x ++ [')']), ⟨s, x, rfl, hsblank, hne, hx⟩, ?_⟩
        rw [← List.append_assoc, ← hs]
      · rintro (heq | ⟨_, ⟨b, x, rfl, hb, hne, hx⟩, heq⟩) -
        · exact absurd (heq ▸ hparen) hhost
        · have hfresh : '(' ∉ Text.trimEnd name ++ b := by
            rw [List.mem_append, not_or]
            exact ⟨hhost, Text.not_mem_of_blank hb (by decide)⟩
          rw [← List.append_assoc] at heq
          obtain ⟨-, rfl⟩ := Text.append_cons_inj hname hfresh heq
          exact ⟨x, rfl, hne, hx⟩
  · refine iff_of_true ?_ (.inl (hostOf_of_not_mem h hparen).symm)
    rintro name m rfl - -
    exact absurd (by simp) hparen

theorem trimEnd_hostOf {body : Text} (h : Text.trimEnd body = body) :
    Text.trimEnd (hostOf body) = hostOf body := by
  rw [hostOf]
  split
  · exact h
  · exact Text.trimEnd_trimEnd _

/-- **A prompt matches its own pattern exactly if it has a single mode.** -/
theorem isIn_ofHost_hostOf_iff {q : Text} {c : Char} (hc : Prompt.isTerminator c = true)
    (hfeed : '\n' ∉ q ++ [c]) :
    (ofHost (hostOf (Text.trimEnd q))).isIn (q ++ [c]) = true ↔ SingleMode (Text.trimEnd q) := by
  have hbody := Text.trimEnd_trimEnd q
  have hhost := trimEnd_hostOf hbody
  obtain ⟨s, hq, hs⟩ := Text.exists_trimEnd q
  rw [isIn_ofHost_iff hfeed, singleMode_iff hbody]
  constructor
  · rintro ⟨mode, b, c', b', heq, hmode, hb, hc', hb'⟩
    -- the terminator is the last character, so nothing follows it
    obtain rfl : b' = [] := by
      rcases List.eq_nil_or_concat' b' with rfl | ⟨b', d, rfl⟩
      · rfl
      · have hlast := congrArg List.getLast? heq
        simp only [← List.cons_append, ← List.append_assoc, List.getLast?_concat] at hlast
        obtain rfl := Option.some.inj hlast
        exact absurd (by simp) (Text.not_mem_of_blank hb' (Prompt.isBlank_of_isTerminator hc))
    have hconcat : q ++ [c] = hostOf (Text.trimEnd q) ++ mode ++ b ++ [c'] := by
      rw [heq, List.append_assoc, List.append_assoc]
    have hq : q = hostOf (Text.trimEnd q) ++ mode ++ b := (List.append_inj' hconcat rfl).1
    have hbody : Text.trimEnd q = Text.trimEnd (hostOf (Text.trimEnd q) ++ mode) := by
      conv_lhs => rw [hq]
      exact Text.trimEnd_append_of_blank _ hb
    rcases hmode with rfl | hmode
    · left
      rwa [List.append_nil, hhost] at hbody
    · refine .inr ⟨mode, hmode, ?_⟩
      rwa [hmode.trimEnd_append] at hbody
  · rintro (heq | ⟨mode, hmode, heq⟩)
    · refine ⟨[], s, c, [], ?_, .inl rfl, hs, hc, rfl⟩
      rw [← heq, List.nil_append, ← List.append_assoc, ← hq]
    · refine ⟨mode, s, c, [], ?_, .inr hmode, hs, hc, rfl⟩
      rw [← List.append_assoc, ← heq, ← List.append_assoc, ← hq]

/-! ## Prompts that were found -/

/-- A prompt that was found has no escape sequences, so it is trimmed only. -/
theorem ofPrompt_append_singleton {q : Text} {c : Char} (hc : Prompt.isTerminator c = true)
    (hescape : Control.escape ∉ q ++ [c]) :
    ofPrompt (some (q ++ [c])) = .ok (ofHost (hostOf (Text.trimEnd q))) := by
  have hblank := Prompt.isBlank_of_isTerminator hc
  have hseen : Text.blank (q ++ [c]) = false := by
    rw [Text.blank, List.all_append, List.all_cons, hblank, Bool.false_and, Bool.and_false]
  rw [ofPrompt, if_neg (by rw [hseen]; exact Bool.false_ne_true), stripEscapes_of_not_mem hescape]
  simp only [Except.map, Text.trimEnd_append_singleton q hblank, List.getLast?_concat,
    Option.any_some, hc, if_true, List.dropLast_concat]

/-- **When a prompt that was found recognises itself.** A pattern can be made of it, and is
remembered with it. The pattern matches the prompt exactly if the prompt has a single mode, and
exactly then the output is seen to end with the prompt when it is the last line again. -/
theorem isIn_ofPrompt_iff {stops : TabStops} {t r p : Text} {lookback : Int}
    (hr : Screen.render stops t = .ok r) (hp : Prompt.detect lookback r = some p) :
    ∃ pattern, ofPrompt (some p) = .ok pattern ∧
      (∀ {κ τ : Type} (h : Host κ τ) (k : κ), (h.remember (some p)).runFrom k =
        (.ok (), h.update (fun s => { s with prompt := some ⟨p, pattern⟩ }) k)) ∧
      (pattern.isIn p = true ↔ SingleMode (Text.trimEnd p.dropLast)) ∧
      ∀ lookback' out,
        (Prompt.lastLines lookback' out).find? (fun line => !line.isEmpty) = some p →
          (Prompt.ends pattern lookback' out = true ↔ SingleMode (Text.trimEnd p.dropLast)) := by
  obtain ⟨hline, q, c, rfl, hc⟩ := Prompt.exists_of_detect hp
  have hescape : Control.escape ∉ q ++ [c] := by
    intro hmem
    obtain ⟨hmem, hfeed, hreturn⟩ := hline _ hmem
    rcases Screen.isControl_of_render hr _ hmem with hcontrol | h | h
    · exact absurd hcontrol (by decide)
    · exact hreturn h
    · exact hfeed h
  have hpattern := ofPrompt_append_singleton hc hescape
  have hmatch := isIn_ofHost_hostOf_iff hc fun hmem => (hline _ hmem).2.1 rfl
  rw [List.dropLast_concat]
  refine ⟨_, hpattern, fun h k => ?_, hmatch, fun lookback' out hlast => ?_⟩
  · have hne : (q ++ [c]).isEmpty = false := by
      rw [List.isEmpty_eq_false_iff]
      exact List.append_ne_nil_of_right_ne_nil q (List.cons_ne_nil c [])
    rw [Host.remember, hne, if_neg Bool.false_ne_true, hpattern, Action.runFrom_change]
  · rw [Prompt.ends, hlast, Option.any_some, hmatch]

/-- The prompt of a device in a mode, with a blank behind it, as a session learns it. -/
theorem isIn_ofPrompt_mode :
    Screen.render (.every 8) "fw (cfg)# ".toList = .ok "fw (cfg)#".toList ∧
      Prompt.detect Prompt.usualLookback "fw (cfg)#".toList = some "fw (cfg)#".toList ∧
      ∃ pattern, ofPrompt (some "fw (cfg)#".toList) = .ok pattern ∧
        pattern.isIn "fw (cfg)#".toList = true ∧
        Prompt.ends pattern Prompt.usualLookback "fw (cfg)#".toList = true := by
  have hr : Screen.render (.every 8) "fw (cfg)# ".toList = .ok "fw (cfg)#".toList := by cbv
  have hp : Prompt.detect Prompt.usualLookback "fw (cfg)#".toList = some "fw (cfg)#".toList := by
    cbv
  have hsingle : SingleMode (Text.trimEnd "fw (cfg)#".toList.dropLast) := by
    refine (singleMode_iff (Text.trimEnd_trimEnd _)).2 (.inr ⟨" (cfg)".toList, ?_, by cbv⟩)
    exact ⟨[' '], ['c', 'f', 'g'], by cbv, by cbv, by decide, by decide⟩
  obtain ⟨pattern, hpattern, -, hmatch, hends⟩ := isIn_ofPrompt_iff hr hp
  exact ⟨hr, hp, pattern, hpattern, hmatch.2 hsingle, (hends _ _ (by cbv)).2 hsingle⟩

/-- **A prompt that goes on behind its mode is not recognised.** The pattern of `u (m) s$` expects
the terminator behind the parenthesis, so the prompt does not match it, and the output that ends
with the prompt is not seen to do so. -/
theorem isIn_ofPrompt_behindMode :
    Screen.render (.every 8) "u (m) s$".toList = .ok "u (m) s$".toList ∧
      Prompt.detect Prompt.usualLookback "u (m) s$".toList = some "u (m) s$".toList ∧
      ofPrompt (some "u (m) s$".toList) = .ok (ofHost ['u']) ∧
      (ofHost ['u']).isIn "u (m) s$".toList = false ∧
      Prompt.ends (ofHost ['u']) Prompt.usualLookback "u (m) s$".toList = false := by
  refine ⟨by cbv, by cbv, by cbv, by cbv, by cbv⟩

end PromptPattern

end Teletype
