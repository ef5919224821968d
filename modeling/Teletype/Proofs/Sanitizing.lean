import Teletype.Proofs.Grammar
import Teletype.Proofs.Shape
import Mathlib.Data.List.Infix

/-!
# Sanitizing before rendering

Noise shows nothing where it stands between sequences, so taking it away first should not show
either. But noise can also stand where it decides how far a sequence goes. The bell ends a control
string, and without it the string runs on; noise breaks an unfinished sequence off, and without it
the sequence goes on with what came behind; and inside a string, noise can keep an escape character
and a backslash apart.

`Settled` says of one sequence that none of this happens, and `Undisturbed` says it of a row of
tokens. That is exactly when the sanitized text is cut into the sanitized pieces of the text
(`undisturbed_iff_pieces`), and then both are replayed alike (`replay_sanitize`).
-/

namespace Teletype

/-! ## Noise -/

theorem isNoise_iff {c : Char} :
    isNoise c = true ↔ c.toNat < 32 ∧ c.toNat ≠ 8 ∧ c.toNat ≠ 9 ∧ c.toNat ≠ 10 ∧ c.toNat ≠ 13 ∧
      c.toNat ≠ 27 := by
  simp only [isNoise, decide_eq_true_eq, Char.lt_def, UInt32.lt_iff_toNat_lt, ne_eq,
    ← Char.toNat_inj]
  rfl

theorem isNoise_eq_false_of_isGraphic {c : Char} (h : Escape.isGraphic c = true) :
    isNoise c = false := by
  rw [Escape.isGraphic_iff] at h
  rw [Bool.eq_false_iff, ne_eq, isNoise_iff]
  omega

theorem sanitize_nil : sanitize [] = [] := rfl

theorem sanitize_cons_of_noise {c : Char} (h : isNoise c = true) (r : Text) :
    sanitize (c :: r) = sanitize r := by
  simp only [sanitize, List.filter_cons, h, Bool.not_true, Bool.false_eq_true, if_false]

theorem sanitize_cons_of_kept {c : Char} (h : isNoise c = false) (r : Text) :
    sanitize (c :: r) = c :: sanitize r := by
  simp only [sanitize, List.filter_cons, h, Bool.not_false, if_true]

theorem sanitize_append (s t : Text) : sanitize (s ++ t) = sanitize s ++ sanitize t :=
  List.filter_append ..

theorem sanitize_of_graphic {s : Text} (h : ∀ c ∈ s, Escape.isGraphic c = true) :
    sanitize s = s :=
  List.filter_eq_self.2 fun c hc => by rw [isNoise_eq_false_of_isGraphic (h c hc)]; rfl

theorem bell_not_mem_sanitize (t : Text) : Control.bell ∉ sanitize t := by
  intro h
  exact absurd (List.mem_filter.1 h).2 (by decide)

/-- Noise ends no line, so a text is sanitized line by line. -/
theorem lines_sanitize (t : Text) : (sanitize t).lines = t.lines.map sanitize := by
  have hmodify : ∀ (c : Char) (ls : List Text), (ls.modifyHead (c :: ·)).map sanitize =
      if isNoise c then ls.map sanitize else (ls.map sanitize).modifyHead (c :: ·) := by
    intro c ls
    cases ls with
    | nil => simp
    | cons l ls =>
      cases hc : isNoise c with
      | true => simp [sanitize_cons_of_noise hc]
      | false => simp [sanitize_cons_of_kept hc]
  induction t with
  | nil => rfl
  | cons c r ih =>
    simp only [Text.lines, List.splitOn] at ih ⊢
    rw [List.splitOnP_cons_eq_if_modifyHead]
    cases hc : isNoise c with
    | true =>
      have hfeed : ¬ ((c == '\n') = true) := by
        intro h
        rw [beq_iff_eq.1 h] at hc
        exact absurd hc (by decide)
      rw [sanitize_cons_of_noise hc, ih, if_neg hfeed, hmodify, if_pos hc]
    | false =>
      rw [sanitize_cons_of_kept hc, List.splitOnP_cons_eq_if_modifyHead, ih]
      split
      · rfl
      · rw [hmodify, hc]
        rfl

namespace Escape

/-! ## Where a string ends -/

/-- The pair of characters that ends a control string. -/
def stringEnd : Text := [Control.escape, '\\']

theorem stringSpan_cons {c : Char} {r : Text} (hbell : c ≠ Control.bell)
    (hend : c = Control.escape → r.head? ≠ some '\\') :
    stringSpan (c :: r) = ((stringSpan r).1 + 1, (stringSpan r).2) := by
  rw [stringSpan.eq_def]
  split
  · cases ‹c :: r = []›
  · rename_i heq
    exact absurd (List.cons.inj heq).1 hbell
  · rename_i heq
    obtain ⟨hc, hr⟩ := List.cons.inj heq
    exact absurd (by rw [hr]; rfl) (hend hc)
  · rename_i heq
    obtain ⟨-, rfl⟩ := List.cons.inj heq
    rfl

/-- **Where a string ends that no bell ends.** It takes `p`, neither less nor more, exactly if the
pair that ends a string stands nowhere before the end of `p`, and stands there unless nothing
follows. -/
theorem stringSpan_append_iff {p q : Text} (hp : Control.bell ∉ p) (hq : Control.bell ∉ q) :
    (stringSpan (p ++ q)).1 = p.length ↔
      ¬ stringEnd <:+: p.dropLast ∧ (stringEnd <:+ p ∨ q = []) := by
  induction p with
  | nil =>
    have hspan : (stringSpan q).1 = 0 ↔ q = [] := by
      cases q with
      | nil => exact ⟨fun _ => rfl, fun _ => rfl⟩
      | cons c r =>
        refine ⟨fun h => ?_, fun h => by cases h⟩
        rw [stringSpan.eq_def] at h
        split at h
        · cases ‹c :: r = []›
        all_goals cases h
    simp [hspan, stringEnd]
  | cons c p ih =>
    have hbell : c ≠ Control.bell := fun h => hp (h ▸ List.mem_cons_self)
    have hp' : Control.bell ∉ p := fun h => hp (List.mem_cons_of_mem c h)
    by_cases hpair : c = Control.escape ∧ (p ++ q).head? = some '\\'
    · -- the pair begins here, and `p` is right if it is its second character
      obtain ⟨rfl, hhead⟩ := hpair
      cases p with
      | nil =>
        cases q with
        | nil => cases hhead
        | cons x q =>
          obtain rfl : x = '\\' := Option.some.inj hhead
          refine iff_of_false (by simp [stringSpan, Control.escape]) ?_
          rintro ⟨-, h | h⟩
          · exact absurd h (by decide)
          · cases h
      | cons x p =>
        obtain rfl : x = '\\' := Option.some.inj hhead
        have hspan : (stringSpan (Control.escape :: '\\' :: p ++ q)).1 = 2 := rfl
        rw [hspan]
        cases p with
        | nil => exact iff_of_true rfl ⟨by decide, Or.inl (List.suffix_refl _)⟩
        | cons y p =>
          refine iff_of_false (by simp) fun h => h.1 ?_
          exact ⟨[], (y :: p).dropLast, by simp [stringEnd]⟩
    · have hend : c = Control.escape → (p ++ q).head? ≠ some '\\' :=
        fun hc hh => hpair ⟨hc, hh⟩
      rw [List.cons_append, stringSpan_cons hbell hend]
      simp only [List.length_cons, Nat.add_right_cancel_iff, ih hp']
      cases p with
      | nil =>
        have hsuffix : ∀ u : Text, u.length ≤ 1 → ¬ stringEnd <:+ u := by
          intro u hu h
          have := h.length_le
          simp only [stringEnd, List.length_cons, List.length_nil] at this
          omega
        rw [iff_of_false (hsuffix [] (Nat.zero_le 1)) (hsuffix [c] (Nat.le_refl 1)),
          List.dropLast_nil, List.dropLast_singleton]
      | cons x p =>
        have hpair' : ¬ (c = Control.escape ∧ x = '\\') := fun h => hend h.1 (by rw [h.2]; rfl)
        have hinside : stringEnd <:+: (c :: x :: p).dropLast ↔ stringEnd <:+: (x :: p).dropLast := by
          rw [List.dropLast_cons_cons, List.infix_cons_iff, or_iff_right]
          rintro ⟨u, hu⟩
          cases p with
          | nil => cases hu
          | cons y p =>
            simp only [stringEnd, List.dropLast_cons_cons, List.cons_append, List.cons.injEq] at hu
            exact hpair' ⟨hu.1.symm, hu.2.1.symm⟩
        have hsuffix : stringEnd <:+ c :: x :: p ↔ stringEnd <:+ x :: p := by
          rw [List.suffix_cons_iff, or_iff_right]
          intro h
          simp only [stringEnd, List.cons.injEq] at h
          exact hpair' ⟨h.1.symm, h.2.1.symm⟩
        rw [hinside, hsuffix]

/-! ## A sequence that noise does not disturb -/

/-- **What sanitizing asks of a sequence.** `s` follows the escape character, and `next` is the first
character behind the sequence that is kept. A string without its noise has the pair that ends one
nowhere before its end, and there unless nothing is kept behind it. Behind a sequence that has
broken off, nothing is kept that would take it further. -/
def Settled (s : Text) (e : Escape) (next : Option Char) : Prop :=
  if isString s then
    ¬ stringEnd <:+: (sanitize (s.drop 1)).dropLast ∧
      (stringEnd <:+ sanitize (s.drop 1) ∨ next = none)
  else e.final = none → ∀ c ∈ next, continues s c = false

namespace Reads

variable {s rest : Text} {e : Escape}

/-- A string is settled when the sanitized string ends where the sanitized text has it end. -/
theorem settled_string_iff {i : Char} {p : Text} (hi : isStringIntroducer i = true) :
    Settled (i :: p) e (sanitize rest).head? ↔
      (stringSpan (sanitize p ++ sanitize rest)).1 = (sanitize p).length := by
  have hstr : isString (i :: p) = true := hi
  rw [Settled, if_pos hstr, List.head?_eq_none_iff, List.drop_one, List.tail_cons,
    stringSpan_append_iff (bell_not_mem_sanitize p) (bell_not_mem_sanitize rest)]

/-- **A settled sequence is kept**: it is read out of the sanitized text as well, up to the same
place, with the same command and the same parameters. -/
theorem sanitize_of_settled (h : Reads s rest e) (hs : Settled s e (sanitize rest).head?) :
    ∃ e', Reads (sanitize s) (sanitize rest) e' ∧ e'.command = e.command ∧
      e'.params = e.params := by
  rcases h.kinds with ⟨i, p, final, rfl, hi, -, rfl⟩ | ⟨-, hg, -, hany⟩ | ⟨hstr, hopen, rfl⟩
  · have hkept : isNoise i = false := isNoise_eq_false_of_isGraphic
      (isGraphic_of_isShortFinal (isShortFinal_of_isFinal (isFinal_of_isStringIntroducer hi)))
    have hspan := (settled_string_iff hi).1 hs
    rw [sanitize_cons_of_kept hkept]
    exact ⟨_, Reads.string hi (Prod.ext hspan rfl), rfl, rfl⟩
  · rw [sanitize_of_graphic hg]
    exact ⟨e, hany _, rfl, rfl⟩
  · rw [Settled, hstr] at hs
    rw [sanitize_of_graphic hopen.isGraphic]
    exact ⟨_, Reads.broken hopen (hs rfl), rfl, rfl⟩

/-- **And only a settled one is.** -/
theorem settled_of_sanitize {e' : Escape} (h : Reads s rest e)
    (h' : Reads (sanitize s) (sanitize rest) e') : Settled s e (sanitize rest).head? := by
  rcases h.kinds with ⟨i, p, final, rfl, hi, -, rfl⟩ | ⟨hstr, -, hfinal, -⟩ | ⟨hstr, hopen, rfl⟩
  · have hkept : isNoise i = false := isNoise_eq_false_of_isGraphic
      (isGraphic_of_isShortFinal (isShortFinal_of_isFinal (isFinal_of_isStringIntroducer hi)))
    rw [sanitize_cons_of_kept hkept] at h'
    rw [settled_string_iff hi]
    rcases h'.kinds with ⟨j, q, final', heq, -, hspan, -⟩ | ⟨hstr, -⟩ | ⟨hstr, -⟩
    · obtain ⟨-, rfl⟩ := List.cons.inj heq
      rw [hspan]
    · exact absurd hi (by rw [show isStringIntroducer i = false from hstr]; simp)
    · exact absurd hi (by rw [show isStringIntroducer i = false from hstr]; simp)
  · rw [Settled, hstr]
    exact fun hnone => absurd hnone hfinal
  · rw [sanitize_of_graphic hopen.isGraphic] at h'
    rw [Settled, hstr]
    exact fun _ => (h'.of_isOpen hopen).2

end Reads

end Escape

/-! ## Texts that noise does not disturb -/

namespace Token

/-- The first character that is kept, of a row of tokens. -/
def nextKept : List Token → Option Char
  | [] => none
  | .char c :: ts => if isNoise c then nextKept ts else some c
  | .sequence _ _ :: _ => some Control.escape
  | .unreadable _ :: _ => some Control.escape

/-- No sequence of a row of tokens is disturbed when noise is taken away. -/
def Undisturbed : List Token → Prop
  | [] => True
  | .char _ :: ts => Undisturbed ts
  | .sequence s e :: ts => Escape.Settled (s.drop 1) e (nextKept ts) ∧ Undisturbed ts
  | .unreadable _ :: ts => Undisturbed ts

/-- The pieces of a text: its sequences, and the characters between them. -/
def pieces (t : Text) : List Text :=
  ((scan t).map source).filter fun s => !s.isEmpty

/-- The escape character itself is kept. -/
theorem sanitize_escape (r : Text) :
    sanitize (Control.escape :: r) = Control.escape :: sanitize r :=
  sanitize_cons_of_kept rfl r

theorem nextKept_scan (t : Text) : nextKept (scan t) = (sanitize t).head? := by
  induction t using scan_induction with
  | nil => rw [scan_nil]; rfl
  | char c r hc ih =>
    rw [scan_cons hc, nextKept]
    cases hn : isNoise c with
    | true => rw [sanitize_cons_of_noise hn, if_pos rfl, ih]
    | false => rw [sanitize_cons_of_kept hn]; rfl
  | sequence s rest e hr _ => rw [scan_of_reads hr, sanitize_escape]; rfl
  | unreadable r x hx => rw [scan_of_error hx, sanitize_escape]; rfl

/-- Parameters that cannot be read are as unreadable without noise, of which they hold none. -/
theorem parse_sanitize_of_error {r : Text} {x : Overlong} (h : Escape.parse r = .error x) :
    Escape.parse (sanitize r) = .error x := by
  rcases Escape.parse_cases r with ⟨s, rest, e, rfl, hr⟩ | ⟨ps, is, rest, c, y, rfl, hps, his, hc, hp, hv⟩
  · rw [Escape.parse_of_reads hr] at h
    cases h
  · rw [Escape.parse_eq_error hps his hc hp hv] at h
    cases h
    have hg : ∀ x ∈ '[' :: (ps ++ (is ++ [c])), Escape.isGraphic x = true :=
      Escape.isGraphic_sequence hps his hc
    have hsplit : '[' :: (ps ++ (is ++ c :: rest)) = '[' :: (ps ++ (is ++ [c])) ++ rest := by simp
    have hsplit' : '[' :: (ps ++ (is ++ [c])) ++ sanitize rest =
        '[' :: (ps ++ (is ++ c :: sanitize rest)) := by simp
    rw [hsplit, sanitize_append, sanitize_of_graphic hg, hsplit',
      Escape.parse_eq_error hps his hc hp hv]

section Pieces

variable {c : Char} {r s rest : Text} {e : Escape} {x : Overlong}

theorem pieces_nil : pieces [] = [] := by
  rw [pieces, scan_nil]
  rfl

theorem pieces_cons (hc : c ≠ Control.escape) : pieces (c :: r) = [c] :: pieces r := by
  rw [pieces, scan_cons hc]
  rfl

theorem pieces_of_reads (h : Escape.Reads s rest e) :
    pieces (Control.escape :: (s ++ rest)) = (Control.escape :: s) :: pieces rest := by
  rw [pieces, scan_of_reads h]
  rfl

theorem pieces_of_error (h : Escape.parse r = .error x) : pieces (Control.escape :: r) = [] := by
  rw [pieces, scan_of_error h]
  rfl

end Pieces

/-- **Noise disturbs no sequence exactly if the sanitized text falls into the sanitized pieces** of
the text, where a piece that was noise is gone. -/
theorem undisturbed_iff_pieces (t : Text) :
    Undisturbed (scan t) ↔
      pieces (sanitize t) = ((pieces t).map sanitize).filter fun s => !s.isEmpty := by
  induction t using scan_induction with
  | nil =>
    rw [scan_nil, sanitize_nil, pieces_nil]
    exact iff_of_true trivial rfl
  | char c r hc ih =>
    rw [scan_cons hc, pieces_cons hc, List.map_cons, Undisturbed, ih]
    cases hn : isNoise c with
    | true => rw [sanitize_cons_of_noise hn, sanitize_cons_of_noise hn]; rfl
    | false =>
      rw [sanitize_cons_of_kept hn, sanitize_cons_of_kept hn, pieces_cons hc]
      simp [sanitize_nil]
  | sequence s rest e hr ih =>
    rw [scan_of_reads hr, pieces_of_reads hr, List.map_cons, Undisturbed, nextKept_scan, ih,
      sanitize_escape, sanitize_escape, sanitize_append, List.drop_one, List.tail_cons]
    have hhead : ∀ ps : List Text, ((Control.escape :: sanitize s) :: ps).filter (!·.isEmpty) =
        (Control.escape :: sanitize s) :: ps.filter (!·.isEmpty) := fun _ => rfl
    rw [hhead]
    constructor
    · rintro ⟨hs, hrest⟩
      obtain ⟨e', hr', -⟩ := hr.sanitize_of_settled hs
      rw [pieces_of_reads hr', hrest]
    · intro hpieces
      cases hparse : Escape.parse (sanitize s ++ sanitize rest) with
      | error x =>
        rw [pieces_of_error hparse] at hpieces
        cases hpieces
      | ok e' =>
        -- the first piece ends where the sanitized sequence does
        have hr' := Escape.reads_of_parse hparse
        have hsplit := List.take_append_drop (e'.length - 1) (sanitize s ++ sanitize rest)
        rw [← hsplit, pieces_of_reads hr', List.cons.injEq, List.cons.injEq] at hpieces
        obtain ⟨⟨-, htake⟩, hrest⟩ := hpieces
        rw [htake, List.append_cancel_left_eq] at hsplit
        rw [htake, hsplit] at hr'
        rw [hsplit] at hrest
        exact ⟨hr.settled_of_sanitize hr', hrest⟩
  | unreadable r x hx =>
    rw [scan_of_error hx, sanitize_escape, pieces_of_error hx,
      pieces_of_error (parse_sanitize_of_error hx)]
    exact iff_of_true trivial rfl

end Token

/-! ## Rendering -/

namespace Line

/-- What a sequence does to a line is in its command and its parameters. -/
theorem apply_congr {e e' : Escape} (hc : e'.command = e.command) (hp : e'.params = e.params)
    (l : Line) : e'.apply l = e.apply l := by
  obtain ⟨_, command, params, _, _⟩ := e
  obtain ⟨_, command', params', _, _⟩ := e'
  obtain rfl : command' = command := hc
  obtain rfl : params' = params := hp
  rfl

/-- Noise moves no cursor and writes nothing. -/
theorem obey_noise (stops : TabStops) (l : Line) {c : Char} (h : isNoise c = true) :
    l.obey stops (.char c) = .ok l := by
  have hlow : c < ' ' ∧ c ≠ Control.backspace ∧ c ≠ Control.tab ∧ c ≠ Control.lineFeed ∧
      c ≠ Control.carriageReturn ∧ c ≠ Control.escape := by
    simpa only [isNoise, decide_eq_true_eq] using h
  obtain ⟨hlt, hback, htab, -, hreturn, -⟩ := hlow
  have hcontrol : Control.isControl c = true := by
    rw [Control.isControl, decide_eq_true_eq]
    exact Or.inl hlt
  rw [obey, if_pos hcontrol, control, if_neg hreturn, if_neg hback, if_neg htab]

/-- **An undisturbed text is replayed as before** without its noise. -/
theorem replay_sanitize (stops : TabStops) {t : Text} (h : Token.Undisturbed (Token.scan t)) :
    ∀ l : Line, l.replay stops (sanitize t) = l.replay stops t := by
  induction t using Token.scan_induction with
  | nil => exact fun _ => rfl
  | char c r hc ih =>
    intro l
    rw [Token.scan_cons hc] at h
    cases hn : isNoise c with
    | true =>
      rw [sanitize_cons_of_noise hn, ih h l, replay_cons stops l hc, obey_noise stops l hn]
      rfl
    | false =>
      rw [sanitize_cons_of_kept hn, replay_cons stops l hc, replay_cons stops l hc]
      simp only [ih h]
  | sequence s rest e hr ih =>
    intro l
    rw [Token.scan_of_reads hr, Token.Undisturbed, Token.nextKept_scan, List.drop_one,
      List.tail_cons] at h
    obtain ⟨e', hr', hcommand, hparams⟩ := hr.sanitize_of_settled h.1
    rw [Token.sanitize_escape, sanitize_append, replay_of_reads stops l hr,
      replay_of_reads stops l hr', apply_congr hcommand hparams, ih h.2]
  | unreadable r x hx =>
    intro l
    rw [Token.sanitize_escape, replay_of_error stops l hx,
      replay_of_error stops l (Token.parse_sanitize_of_error hx)]

end Line

namespace Screen

theorem renderLine_sanitize (stops : TabStops) {t : Text}
    (h : Token.Undisturbed (Token.scan t)) :
    renderLine stops (sanitize t) = renderLine stops t := by
  rw [renderLine, renderLine, Line.replay_sanitize stops h]

theorem render_sanitize (stops : TabStops) {t : Text}
    (h : ∀ l ∈ t.lines, Token.Undisturbed (Token.scan l)) :
    render stops (sanitize t) = render stops t := by
  have hlines : ∀ ls : List Text, (∀ l ∈ ls, Token.Undisturbed (Token.scan l)) →
      (ls.map sanitize).mapM (renderLine stops) = ls.mapM (renderLine stops) := by
    intro ls hls
    induction ls with
    | nil => rfl
    | cons l ls ih =>
      rw [List.map_cons, List.mapM_cons, List.mapM_cons,
        renderLine_sanitize stops (hls l List.mem_cons_self),
        ih fun x hx => hls x (List.mem_cons_of_mem l hx)]
  rw [render, render, lines_sanitize, hlines t.lines h]

/-- Two ways to render lines come to the same lines exactly if they render each line alike. -/
theorem mapM_eq_iff {f g : Text → Except RenderFault Text} {ls rs ss : List Text}
    (hf : ls.mapM f = .ok rs) (hg : ls.mapM g = .ok ss) : rs = ss ↔ ∀ l ∈ ls, f l = g l := by
  induction ls generalizing rs ss with
  | nil =>
    cases hf
    cases hg
    exact ⟨fun _ l hl => absurd hl List.not_mem_nil, fun _ => rfl⟩
  | cons l ls ih =>
    obtain ⟨r, hr, rs, hrs, rfl⟩ := exists_of_mapM_cons hf
    obtain ⟨s, hs, ss, hss, rfl⟩ := exists_of_mapM_cons hg
    rw [List.cons.injEq, List.forall_mem_cons, ih hrs hss, hr, hs, Except.ok.injEq]

/-- **Sanitizing first shows what rendering alone shows**, errors included and for every distance of
tab stops, when noise disturbs no sequence of any line; and this condition on the lines is exactly
that sanitizing leaves the pieces of the lines in place. Where both renderings return a text, it is
the same text exactly if each line in which a sequence is disturbed shows the same by itself. -/
theorem normalize_sanitize (t : Text) :
    ((∀ l ∈ t.lines, Token.Undisturbed (Token.scan l)) ↔
      ∀ l ∈ t.lines, Token.pieces (sanitize l) =
        ((Token.pieces l).map sanitize).filter fun s => !s.isEmpty) ∧
    ((∀ l ∈ t.lines, Token.Undisturbed (Token.scan l)) →
      ∀ width, normalize width (sanitize t) = normalize width t) ∧
    ∀ width r r', normalize width (sanitize t) = .ok r → normalize width t = .ok r' →
      (r = r' ↔ ∀ l ∈ t.lines, ¬Token.Undisturbed (Token.scan l) →
        renderLine (.every width) (sanitize l) = renderLine (.every width) l) := by
  refine ⟨forall₂_congr fun l _ => Token.undisturbed_iff_pieces l, ?_, ?_⟩
  · intro h width
    simp only [normalize, render_sanitize _ h]
  · intro width r r' hr hr'
    obtain ⟨rs, hrs, rfl⟩ := exists_of_normalize hr
    obtain ⟨rs', hrs', rfl⟩ := exists_of_normalize hr'
    have hfeeds := mapM_renderLine hrs
    have hfeeds' := mapM_renderLine hrs'
    rw [lines_sanitize, List.length_map] at hfeeds
    rw [lines_sanitize, List.mapM_map] at hrs
    -- the joined texts are the same exactly if their lines are
    have hjoin : lineEnd.intercalate rs = lineEnd.intercalate rs' ↔ rs = rs' := by
      constructor
      · exact intercalate_lineEnd_inj (hfeeds.1.trans hfeeds'.1.symm) hfeeds.2 hfeeds'.2
      · exact congrArg _
    rw [hjoin, mapM_eq_iff hrs hrs']
    refine forall₂_congr fun l _ => ⟨fun h _ => h, fun h => ?_⟩
    by_cases hquiet : Token.Undisturbed (Token.scan l)
    · exact renderLine_sanitize _ hquiet
    · exact h hquiet

/-- Noise inside a string, behind it, and between two characters of a word. -/
theorem normalize_sanitize_loud :
    Token.Undisturbed (Token.scan ['\x1b', ']', '\x01', '\x1b', '\\', '\x07', 'h', '\x00', 'i']) ∧
      normalize 8 (sanitize ['\x1b', ']', '\x01', '\x1b', '\\', '\x07', 'h', '\x00', 'i']) =
        normalize 8 ['\x1b', ']', '\x01', '\x1b', '\\', '\x07', 'h', '\x00', 'i'] := by
  have hscan : Token.scan ['\x1b', ']', '\x01', '\x1b', '\\', '\x07', 'h', '\x00', 'i'] =
      [.sequence ['\x1b', ']', '\x01', '\x1b', '\\'] (Escape.inert 5 (some '\\')), .char '\x07',
        .char 'h', .char '\x00', .char 'i'] := by cbv
  have hquiet : Token.Undisturbed
      (Token.scan ['\x1b', ']', '\x01', '\x1b', '\\', '\x07', 'h', '\x00', 'i']) := by
    rw [hscan]
    exact ⟨by rw [Escape.Settled, if_pos (by decide)]; decide, trivial⟩
  refine ⟨hquiet, (normalize_sanitize _).2.1 ?_ 8⟩
  intro l hl
  obtain rfl := List.mem_singleton.1 hl
  exact hquiet

/-- **A bell that ends a string is not noise.** Without it the string goes on, and what stood behind
it is not shown. -/
theorem normalize_sanitize_bell :
    normalize 8 ['\x1b', ']', '0', ';', 't', '\x07', 'h', 'i'] = .ok ['h', 'i'] ∧
      normalize 8 (sanitize ['\x1b', ']', '0', ';', 't', '\x07', 'h', 'i']) = .ok [] := by
  constructor <;> cbv

end Screen

end Teletype
