import Mathlib
import Teletype.Proofs.Returns

/-!
# Stripping at once and line by line

Rendering reads the escape sequences of each line by itself; stripping reads those of the whole
text. The two differ on control strings alone, the only sequences that can hold a line feed: at once
such a string is taken up to its end, while line by line it breaks off with its first line, and the
lines behind that are read as if they stood in no string.

The second reading may be in the middle of any sequence when it comes to the end of the string, and
yet it goes on right behind it, in step with the first (`resumes_of_reads`): a bell and an escape
character interrupt every sequence but a string, and a string that begins inside another has the
same end. So what stripping leaves of a text is also left of its lines (`stripEscapes_eachLine`), and
the two differ exactly if a sequence goes beyond its line (`stripEscapes_eq_ok_iff`).
-/

namespace Teletype

/-- A text without the escape sequences of its lines, each read by itself. -/
def stripEachLine (t : Text) : Except Overlong Text :=
  (t.lines.mapM stripEscapes).map ['\n'].intercalate

/-- **No escape character is left.** -/
theorem escape_not_mem_stripEscapes {t r : Text} (h : stripEscapes t = .ok r) :
    Control.escape ∉ r := by
  induction t using Token.scan_induction generalizing r with
  | nil =>
    rw [stripEscapes_nil] at h
    cases h
    exact List.not_mem_nil
  | char c t hc ih =>
    rw [stripEscapes_cons hc] at h
    obtain ⟨u, hu, rfl⟩ := map_eq_ok_iff.1 h
    exact fun hmem => (List.mem_cons.1 hmem).elim (Ne.symm hc) (ih hu)
  | sequence s rest e hr ih =>
    rw [stripEscapes_of_reads hr] at h
    exact ih h
  | unreadable r x hx =>
    rw [stripEscapes_of_error hx] at h
    cases h

/-! ## One line at a time -/

section Lines

variable {s rest : Text} {e : Escape} {x : Overlong}

theorem stripEachLine_feed (a b : Text) :
    stripEachLine (a ++ '\n' :: b) = (do
      let above ← stripEachLine a
      let below ← stripEachLine b
      return above ++ ['\n'] ++ below) :=
  Text.mapM_lines_feed stripEscapes ['\n'] a b

theorem stripEachLine_of_not_mem {t : Text} (h : '\n' ∉ t) : stripEachLine t = stripEscapes t :=
  Text.mapM_lines_of_not_mem stripEscapes ['\n'] h

/-- What `p` leaves in front of each beginning of a text it leaves in front of the lines of it. -/
theorem stripEachLine_append {p w : Text} (hp : '\n' ∉ p)
    (h : ∀ l, l <+: rest → stripEscapes (p ++ l) = (stripEscapes l).map (w ++ ·)) :
    stripEachLine (p ++ rest) = (stripEachLine rest).map (w ++ ·) := by
  by_cases hfeed : '\n' ∈ rest
  · obtain ⟨l, u, rfl, hl⟩ := List.eq_append_cons_of_mem hfeed
    have hpl : '\n' ∉ p ++ l := by simp [hp, hl]
    rw [← List.append_assoc, stripEachLine_feed, stripEachLine_feed, stripEachLine_of_not_mem hpl,
      stripEachLine_of_not_mem hl, h l (List.prefix_append l _)]
    cases stripEscapes l with
    | error x => rfl
    | ok r =>
      cases stripEachLine u with
      | error x => rfl
      | ok v => exact congrArg Except.ok (by simp)
  · have hall : '\n' ∉ p ++ rest := by simp [hp, hfeed]
    rw [stripEachLine_of_not_mem hall, stripEachLine_of_not_mem hfeed, h rest List.prefix_rfl]

theorem stripEachLine_cons {c : Char} (hc : c ≠ Control.escape) (t : Text) :
    stripEachLine (c :: t) = (stripEachLine t).map (c :: ·) := by
  by_cases hfeed : c = '\n'
  · subst hfeed
    have hempty : stripEachLine [] = .ok [] := by
      rw [stripEachLine_of_not_mem List.not_mem_nil, stripEscapes_nil]
    rw [← List.nil_append ('\n' :: t), stripEachLine_feed, hempty]
    rfl
  · exact stripEachLine_append (p := [c]) (w := [c]) (by simpa using Ne.symm hfeed)
      fun l _ => stripEscapes_cons hc l

/-- A sequence within its line is read there as it is in the text. -/
theorem stripEachLine_of_reads (h : Escape.Reads s rest e) (hs : '\n' ∉ s) :
    stripEachLine (Control.escape :: (s ++ rest)) = stripEachLine rest := by
  have hp : '\n' ∉ Control.escape :: s := by simp [hs, Control.escape]
  have hsame : ∀ l, l <+: rest →
      stripEscapes (Control.escape :: s ++ l) = (stripEscapes l).map ([] ++ ·) := by
    rintro l ⟨after, rfl⟩
    rw [List.cons_append, stripEscapes_of_reads h.of_append]
    exact (id_map (stripEscapes l)).symm
  rw [← List.cons_append, stripEachLine_append hp hsame]
  exact id_map (stripEachLine rest)

/-- What cannot be read has its final character, and so no line feed before that. -/
theorem stripEachLine_of_error (h : Escape.parse rest = .error x) :
    stripEachLine (Control.escape :: rest) = .error x := by
  obtain ⟨ps, is, after, c, rfl, hps, his, hc, hpriv, hx⟩ := Escape.parse_eq_error_iff.1 h
  have hfails : ∀ l, stripEscapes (Control.escape :: '[' :: (ps ++ (is ++ c :: l))) = .error x :=
    fun l => stripEscapes_of_error
      (Escape.parse_eq_error_iff.2 ⟨ps, is, l, c, rfl, hps, his, hc, hpriv, hx⟩)
  have hline : ∀ {l : Text}, '\n' ∉ l →
      '\n' ∉ Control.escape :: '[' :: (ps ++ (is ++ c :: l)) := by
    intro l hl hmem
    have hparts : '\n' ∈ '[' :: (ps ++ (is ++ [c])) := by
      simpa [Control.escape, hl] using hmem
    exact absurd (Escape.isGraphic_sequence hps his hc _ hparts) (by decide)
  by_cases hfeed : '\n' ∈ after
  · obtain ⟨l, u, rfl, hl⟩ := List.eq_append_cons_of_mem hfeed
    have hcut : Control.escape :: '[' :: (ps ++ (is ++ c :: (l ++ '\n' :: u))) =
        (Control.escape :: '[' :: (ps ++ (is ++ c :: l))) ++ '\n' :: u := by simp
    rw [hcut, stripEachLine_feed, stripEachLine_of_not_mem (hline hl), hfails]
    rfl
  · rw [stripEachLine_of_not_mem (hline hfeed), hfails]

end Lines

/-! ## Falling into step again -/

/-- **Reading line by line comes from a text to what it ends with**: what is left of the one, if it
can be read, holds what is left of the other. -/
def Resumes (t rest : Text) : Prop :=
  ∀ b, stripEachLine t = .ok b → ∃ b', stripEachLine rest = .ok b' ∧ b'.Sublist b

namespace Resumes

variable {t u v : Text}

theorem trans (h : Resumes t u) (h' : Resumes u v) : Resumes t v := by
  intro b hb
  obtain ⟨b₁, hb₁, hsub₁⟩ := h b hb
  obtain ⟨b₂, hb₂, hsub₂⟩ := h' b₁ hb₁
  exact ⟨b₂, hb₂, hsub₂.trans hsub₁⟩

/-- A character outside all sequences is left. -/
theorem cons {c : Char} (hc : c ≠ Control.escape) (t : Text) : Resumes (c :: t) t := by
  intro b hb
  rw [stripEachLine_cons hc] at hb
  obtain ⟨b', hb', rfl⟩ := map_eq_ok_iff.1 hb
  exact ⟨b', hb', List.sublist_cons_self c b'⟩

/-- Each line is begun anew, whatever the line before it has left open. -/
theorem feed (a b : Text) : Resumes (a ++ '\n' :: b) b := by
  intro r hr
  obtain ⟨above, below, -, hbelow, rfl⟩ := Text.exists_of_mapM_lines_feed hr
  exact ⟨below, hbelow, List.sublist_append_right _ below⟩

/-- A sequence within its line is taken off. -/
theorem sequence {s rest : Text} {e : Escape} (h : Escape.Reads s rest e) (hs : '\n' ∉ s) :
    Resumes (Control.escape :: (s ++ rest)) rest := by
  intro b hb
  rw [stripEachLine_of_reads h hs] at hb
  exact ⟨b, hb, List.Sublist.refl b⟩

end Resumes

namespace Escape

variable {q z rest : Text}

theorem Unended.suffix {p : Text} (h : Unended p) (hq : q <:+ p) : Unended q :=
  ⟨fun hbell => h.bell (hq.subset hbell), fun hpair => h.pair (hpair.trans hq.isInfix)⟩

/-- What ends a string begins with a character that no sequence takes but a string. -/
theorem IsStringEnd.exists_cons (hz : IsStringEnd z) :
    ∃ c r, z = c :: r ∧ isGraphic c = false := by
  rcases hz with rfl | rfl
  · exact ⟨_, _, rfl, rfl⟩
  · exact ⟨_, _, rfl, rfl⟩

/-- **A sequence that begins inside a string** is over before the end of that string, or is a string
too. -/
theorem Reads.inside {s after : Text} {e : Escape} (h : Reads s after e) (hz : IsStringEnd z)
    (hcut : q ++ (z ++ rest) = s ++ after) :
    (∃ q', q = s ++ q' ∧ after = q' ++ (z ++ rest) ∧ '\n' ∉ s) ∨
      ∃ i q', q = i :: q' ∧ isStringIntroducer i = true := by
  obtain ⟨c, r, hc, hgraphic⟩ := hz.exists_cons
  cases hs : isString s with
  | false =>
    left
    have hplain := h.isGraphic hs
    have hfeed : '\n' ∉ s := fun hmem => absurd (hplain _ hmem) (by decide)
    rcases List.append_eq_append_iff.1 hcut with ⟨a, rfl, hrest⟩ | ⟨q', hq, hafter⟩
    · cases a with
      | nil => exact ⟨[], by simp, by simpa using hrest.symm, hfeed⟩
      | cons d a =>
        -- the sequence would take the first character of the end
        rw [hc, List.cons_append, List.cons_append, List.cons.injEq] at hrest
        obtain ⟨rfl, -⟩ := hrest
        rw [hplain c (by simp)] at hgraphic
        cases hgraphic
    · exact ⟨q', hq, hafter, hfeed⟩
  | true =>
    right
    cases s with
    | nil => cases hs
    | cons i p =>
      cases q with
      | nil =>
        rw [hc, List.nil_append, List.cons_append, List.cons_append, List.cons.injEq] at hcut
        rw [hcut.1, isGraphic_of_isShortFinal
          (isShortFinal_of_isFinal (isFinal_of_isStringIntroducer hs))] at hgraphic
        cases hgraphic
      | cons d q' =>
        rw [List.cons_append, List.cons_append, List.cons.injEq] at hcut
        exact ⟨d, q', rfl, hcut.1 ▸ hs⟩

end Escape

/-- Outside a string, what ends one is a character that is left, or an escape. -/
theorem resumes_end {z : Text} (hz : Escape.IsStringEnd z) (rest : Text) :
    Resumes (z ++ rest) rest := by
  rcases hz with rfl | rfl
  · exact Resumes.cons (by decide) rest
  · have hpair : Escape.Reads ['\\'] rest (Escape.inert 2 (some '\\')) :=
      @Escape.Reads.plain [] rest '\\' (fun c hc => absurd hc List.not_mem_nil) rfl fun _ => rfl
    exact Resumes.sequence hpair (by decide)

/-- A string is taken off within its line; otherwise its first line is, and what is behind that
stands on a line of its own. -/
theorem resumes_string {i : Char} {q z rest : Text} (hi : Escape.isStringIntroducer i = true)
    (hq : Escape.Unended q) (hz : Escape.IsStringEnd z)
    (hlines : ∀ a b, q = a ++ '\n' :: b → Resumes (b ++ (z ++ rest)) rest) :
    Resumes (Control.escape :: (i :: (q ++ z) ++ rest)) rest := by
  by_cases hfeed : '\n' ∈ q
  · obtain ⟨a, b, rfl, -⟩ := List.eq_append_cons_of_mem hfeed
    have hcut : Control.escape :: (i :: ((a ++ '\n' :: b) ++ z) ++ rest) =
        (Control.escape :: i :: a) ++ '\n' :: (b ++ (z ++ rest)) := by simp
    rw [hcut]
    exact (Resumes.feed _ _).trans (hlines a b rfl)
  · have hreads : Escape.Reads (i :: (q ++ z)) rest _ :=
      .string hi (Escape.stringSpan_append_end hq hz rest)
    refine Resumes.sequence hreads ?_
    have hintroducer : i ≠ '\n' := by
      rintro rfl
      cases hi
    have hend : '\n' ∉ z := by rcases hz with rfl | rfl <;> decide
    simp [hfeed, hend, Ne.symm hintroducer]

/-- **Wherever reading begins inside a string, it goes on behind the end of that string.** -/
theorem resumes_unended {q z : Text} (hq : Escape.Unended q) (hz : Escape.IsStringEnd z)
    (rest : Text) : Resumes (q ++ (z ++ rest)) rest := by
  -- a sequence takes any number of characters of the string, so the induction is on its length
  induction hn : q.length using Nat.strong_induction_on generalizing q with
  | _ n ih =>
    cases q with
    | nil => exact resumes_end hz rest
    | cons c q =>
      rw [List.length_cons] at hn
      have hq' : Escape.Unended q := hq.suffix (List.suffix_cons c q)
      by_cases hc : c = Control.escape
      · subst hc
        rcases hparse : Escape.parse (q ++ (z ++ rest)) with x | e
        · intro b hb
          rw [List.cons_append, stripEachLine_of_error hparse] at hb
          cases hb
        obtain ⟨s, after, hcut, hreads⟩ := Escape.reads_of_form (Escape.parse_eq_ok_iff.1 hparse)
        rcases hreads.inside hz hcut with ⟨q', rfl, rfl, hs⟩ | ⟨i, q', rfl, hi⟩
        · rw [List.cons_append, hcut]
          refine (Resumes.sequence hreads hs).trans (ih q'.length ?_ ?_ rfl)
          · rw [List.length_append] at hn
            omega
          · exact hq'.suffix (List.suffix_append s q')
        · -- the string that begins here has the same end
          have hlines : ∀ a b, q' = a ++ '\n' :: b → Resumes (b ++ (z ++ rest)) rest := by
            rintro a b rfl
            refine ih b.length ?_ (hq'.suffix ⟨i :: (a ++ ['\n']), by simp⟩) rfl
            simp only [List.length_cons, List.length_append] at hn
            omega
          have hstring := resumes_string hi (hq'.suffix (List.suffix_cons i q')) hz hlines
          simpa using hstring
      · exact (Resumes.cons hc _).trans (ih q.length (by omega) hq' rfl)

/-- **Reading line by line falls into step** behind each sequence of the text. -/
theorem resumes_of_reads {s rest : Text} {e : Escape} (h : Escape.Reads s rest e) :
    Resumes (Control.escape :: (s ++ rest)) rest := by
  by_cases hs : '\n' ∈ s
  · rcases h.kinds with ⟨i, p, final, rfl, hi, hspan, -⟩ | ⟨-, hgraphic, -⟩ | ⟨-, hopen, -⟩
    · rcases Escape.stringSpan_cases hspan with ⟨q, z, rfl, hq, hz, -⟩ | ⟨rfl, -, -⟩
      · refine resumes_string hi hq hz ?_
        rintro a b rfl
        exact resumes_unended (hq.suffix ⟨a ++ ['\n'], by simp⟩) hz rest
      · -- nothing is left behind the string
        refine fun b _ => ⟨[], ?_, List.nil_sublist b⟩
        rw [stripEachLine_of_not_mem List.not_mem_nil, stripEscapes_nil]
    · exact absurd (hgraphic _ hs) (by decide)
    · exact absurd (hopen.isGraphic _ hs) (by decide)
  · exact Resumes.sequence h hs

/-! ## All at once -/

/-- **What is left when all is stripped at once is left line by line.** -/
theorem exists_stripEscapes {t b : Text} (h : stripEachLine t = .ok b) :
    ∃ r, stripEscapes t = .ok r ∧ r.Sublist b := by
  induction t using Token.scan_induction generalizing b with
  | nil => exact ⟨[], stripEscapes_nil, List.nil_sublist b⟩
  | char c t hc ih =>
    rw [stripEachLine_cons hc] at h
    obtain ⟨b', hb', rfl⟩ := map_eq_ok_iff.1 h
    obtain ⟨r, hr, hsub⟩ := ih hb'
    exact ⟨c :: r, by rw [stripEscapes_cons hc, hr]; rfl, hsub.cons_cons c⟩
  | sequence s rest e hr ih =>
    obtain ⟨b', hb', hsub⟩ := resumes_of_reads hr b h
    obtain ⟨r, hstrip, hsub'⟩ := ih hb'
    exact ⟨r, by rw [stripEscapes_of_reads hr, hstrip], hsub'.trans hsub⟩
  | unreadable r x hx =>
    rw [stripEachLine_of_error hx] at h
    cases h

/-! ## Where there is no difference -/

/-- Without a line feed in a sequence there is no difference. -/
theorem stripEscapes_eq_eachLine {t : Text}
    (h : ∀ source e, Token.sequence source e ∈ Token.scan t → '\n' ∉ source) :
    stripEscapes t = stripEachLine t := by
  induction t using Token.scan_induction with
  | nil => rw [stripEachLine_of_not_mem List.not_mem_nil]
  | char c t hc ih =>
    rw [Token.scan_cons hc] at h
    rw [stripEscapes_cons hc, stripEachLine_cons hc,
      ih fun source e hmem => h source e (List.mem_cons_of_mem _ hmem)]
  | sequence s rest e hr ih =>
    rw [Token.scan_of_reads hr] at h
    have hs : '\n' ∉ s := fun hmem => h _ e List.mem_cons_self (List.mem_cons_of_mem _ hmem)
    rw [stripEscapes_of_reads hr, stripEachLine_of_reads hr hs]
    exact ih fun source e hmem => h source e (List.mem_cons_of_mem _ hmem)
  | unreadable r x hx => rw [stripEscapes_of_error hx, stripEachLine_of_error hx]

/-- Only control strings hold line feeds. -/
theorem feed_not_mem_of_scan {t : Text}
    (h : ∀ a i b, t = a ++ Control.escape :: i :: b → Escape.isStringIntroducer i = false) :
    ∀ source e, Token.sequence source e ∈ Token.scan t → '\n' ∉ source := by
  intro source e hmem
  induction t using Token.scan_induction with
  | nil =>
    rw [Token.scan_nil] at hmem
    exact absurd hmem List.not_mem_nil
  | char c t hc ih =>
    rw [Token.scan_cons hc, List.mem_cons] at hmem
    exact ih (fun a i b ht => h (c :: a) i b (by rw [ht]; rfl))
      (hmem.resolve_left (by rintro ⟨⟩))
  | sequence s rest e' hr ih =>
    rw [Token.scan_of_reads hr, List.mem_cons] at hmem
    rcases hmem with heq | hmem
    · obtain ⟨rfl, -⟩ := Token.sequence.inj heq
      have hstring : Escape.isString s = false := by
        cases s with
        | nil => rfl
        | cons i p => exact h [] i (p ++ rest) rfl
      have hs : '\n' ∉ s := fun hfeed => absurd (hr.isGraphic hstring _ hfeed) (by decide)
      simp [hs, Control.escape]
    · exact ih (fun a i b ht => h (Control.escape :: (s ++ a)) i b (by rw [ht]; simp)) hmem
  | unreadable r x hx =>
    rw [Token.scan_of_error hx, List.mem_singleton] at hmem
    cases hmem

/-- Of the line feeds, those inside sequences are lost. -/
theorem count_stripEscapes {t r : Text} (h : stripEscapes t = .ok r) :
    r.count '\n' ≤ t.count '\n' ∧ (r.count '\n' = t.count '\n' →
      ∀ source e, Token.sequence source e ∈ Token.scan t → '\n' ∉ source) := by
  induction t using Token.scan_induction generalizing r with
  | nil =>
    rw [stripEscapes_nil] at h
    cases h
    refine ⟨Nat.le_refl _, fun _ source e hmem => ?_⟩
    rw [Token.scan_nil] at hmem
    exact absurd hmem List.not_mem_nil
  | char c t hc ih =>
    rw [stripEscapes_cons hc] at h
    obtain ⟨u, hu, rfl⟩ := map_eq_ok_iff.1 h
    obtain ⟨hle, hsame⟩ := ih hu
    rw [List.count_cons, List.count_cons, Token.scan_cons hc]
    refine ⟨by omega, fun hcount source e hmem => ?_⟩
    exact hsame (by omega) source e ((List.mem_cons.1 hmem).resolve_left (by rintro ⟨⟩))
  | sequence s rest e hr ih =>
    rw [stripEscapes_of_reads hr] at h
    obtain ⟨hle, hsame⟩ := ih h
    have hcount : (Control.escape :: (s ++ rest)).count '\n' = s.count '\n' + rest.count '\n' := by
      rw [List.count_cons_of_ne (by decide), List.count_append]
    rw [hcount, Token.scan_of_reads hr]
    refine ⟨by omega, fun heq source e' hmem => ?_⟩
    rcases List.mem_cons.1 hmem with hmem | hmem
    · obtain ⟨rfl, -⟩ := Token.sequence.inj hmem
      have hs : '\n' ∉ s := List.count_eq_zero.1 (by omega)
      simp [hs, Control.escape]
    · exact hsame (by omega) source e' hmem
  | unreadable r x hx =>
    rw [stripEscapes_of_error hx] at h
    cases h

/-- Line by line no line feed is lost. -/
theorem count_stripEachLine {t b : Text} (h : stripEachLine t = .ok b) :
    b.count '\n' = t.count '\n' := by
  induction t using Text.lines_induction generalizing b with
  | line l hl =>
    rw [stripEachLine_of_not_mem hl] at h
    have hle := (count_stripEscapes h).1
    rw [List.count_eq_zero.2 hl] at hle ⊢
    exact Nat.le_zero.1 hle
  | feed l t hl ih =>
    obtain ⟨above, below, ha, hb, rfl⟩ := Text.exists_of_mapM_lines_feed h
    have habove : stripEscapes l = .ok above := by rw [← stripEachLine_of_not_mem hl]; exact ha
    have hle := (count_stripEscapes habove).1
    have hnone : l.count '\n' = 0 := List.count_eq_zero.2 hl
    have hfeed : List.count '\n' ['\n'] = 1 := List.count_singleton_self
    rw [List.count_append, List.count_append, List.count_append, hfeed, List.count_cons_self,
      ih hb]
    omega

/-- **There is a difference exactly if a sequence goes beyond its line**, where both ways have a
result. -/
theorem stripEscapes_eq_ok_iff {t b : Text} (h : stripEachLine t = .ok b) :
    stripEscapes t = .ok b ↔
      ∀ source e, Token.sequence source e ∈ Token.scan t → '\n' ∉ source := by
  constructor
  · intro hsame
    exact (count_stripEscapes hsame).2 (count_stripEachLine h)
  · intro hlines
    rw [stripEscapes_eq_eachLine hlines, h]

/-- **Stripping takes at least what rendering takes.** It leaves no escape character. If the lines of
a text can be stripped each by itself, as rendering reads them, the text can be stripped at once, and
what that leaves is found, in its order, in what is left of the lines. Where no escape character
stands before an introducer of control strings the two are the same, faults included. -/
theorem stripEscapes_eachLine (t : Text) :
    (∀ r, stripEscapes t = .ok r → Control.escape ∉ r) ∧
      (∀ b, stripEachLine t = .ok b → ∃ r, stripEscapes t = .ok r ∧ r.Sublist b) ∧
      ((∀ a i b, t = a ++ Control.escape :: i :: b → Escape.isStringIntroducer i = false) →
        stripEscapes t = stripEachLine t) := by
  refine ⟨fun r hr => escape_not_mem_stripEscapes hr, fun b hb => exists_stripEscapes hb, ?_⟩
  intro hplain
  exact stripEscapes_eq_eachLine (feed_not_mem_of_scan hplain)

/-- A title that ends on the next line: at once it is taken with its bell; line by line the sequence
that begins inside it breaks off at the bell, which is left. -/
theorem stripEscapes_eachLine_title :
    stripEachLine "a\x1b]0;b\nc\x1b[3\x07d".toList = .ok "a\nc\x07d".toList ∧
      stripEscapes "a\x1b]0;b\nc\x1b[3\x07d".toList = .ok "ad".toList ∧
      Control.escape ∉ "ad".toList ∧ "ad".toList.Sublist "a\nc\x07d".toList ∧
      stripEscapes "\x1b[K\na".toList = stripEachLine "\x1b[K\na".toList := by
  have heach : stripEachLine "a\x1b]0;b\nc\x1b[3\x07d".toList = .ok "a\nc\x07d".toList := by cbv
  have hwhole : stripEscapes "a\x1b]0;b\nc\x1b[3\x07d".toList = .ok "ad".toList := by cbv
  obtain ⟨hfree, hleft, -⟩ := stripEscapes_eachLine "a\x1b]0;b\nc\x1b[3\x07d".toList
  obtain ⟨r, hr, hsub⟩ := hleft _ heach
  rw [hwhole] at hr
  cases hr
  have hplain : ∀ a i b, "\x1b[K\na".toList = a ++ Control.escape :: i :: b →
      Escape.isStringIntroducer i = false := by
    intro a i b hcut
    cases a with
    | nil =>
      cases hcut
      rfl
    | cons c a =>
      have hmem : Control.escape ∈ "[K\na".toList := by
        rw [show "[K\na".toList = a ++ Control.escape :: i :: b from (List.cons.inj hcut).2]
        simp
      exact absurd hmem (by decide)
  exact ⟨heach, hwhole, hfree _ hwhole, hsub, (stripEscapes_eachLine _).2.2 hplain⟩

end Teletype
