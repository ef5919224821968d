import Teletype.Cleaning
import Teletype.Proofs.Shape
import Teletype.Proofs.Tape
import Mathlib.Data.List.Infix

/-!
# Legible output

Rendering has one reason to fail: a numeral of more digits than are read, as a parameter of a
control sequence that is complete and has no private marker. `Escape.Illegible` says this of what
follows an escape character, and `Token.Illegible` of a text that is read up to such a sequence; an
escape character inside another sequence begins none.

The parser, the stripping of sequences, rendering and the whole way to clean output fail exactly
there, each with the number of digits of the first numeral that is too long. A text without that
many digits in a row is rendered, whatever else is in it.
-/

namespace Teletype

/-- What has no fault has a result. -/
theorem exists_eq_ok {α ε : Type} {r : Except ε α} (h : ∀ e, r ≠ .error e) : ∃ x, r = .ok x := by
  cases r with
  | ok x => exact ⟨x, rfl⟩
  | error e => exact absurd rfl (h e)

/-- A row of actions fails with the fault of the first of them that fails. -/
theorem mapM_eq_error_iff {α β ε : Type} {f : α → Except ε β} {l : List α} {e : ε} :
    l.mapM f = .error e ↔
      ∃ before x after, l = before ++ x :: after ∧ (∀ y ∈ before, ∃ z, f y = .ok z) ∧
        f x = .error e := by
  induction l with
  | nil =>
    refine iff_of_false (by rintro ⟨⟩) ?_
    rintro ⟨before, x, after, h, -⟩
    cases before <;> cases h
  | cons a l ih =>
    rw [List.mapM_cons]
    cases ha : f a with
    | error e' =>
      constructor
      · intro h
        cases h
        exact ⟨[], a, l, rfl, fun y hy => absurd hy List.not_mem_nil, ha⟩
      · rintro ⟨before, x, after, h, hbefore, hx⟩
        cases before with
        | nil =>
          obtain ⟨rfl, -⟩ := List.cons.inj h
          rw [ha] at hx
          cases hx
          rfl
        | cons y before =>
          obtain ⟨rfl, -⟩ := List.cons.inj h
          obtain ⟨z, hz⟩ := hbefore a List.mem_cons_self
          rw [ha] at hz
          cases hz
    | ok b =>
      have hrest : (do let y ← Except.ok b; let ys ← l.mapM f; pure (y :: ys)) = Except.error e ↔
          l.mapM f = .error e := by
        cases l.mapM f with
        | error e' => exact ⟨fun h => by cases h; rfl, fun h => by cases h; rfl⟩
        | ok ys => exact ⟨by rintro ⟨⟩, by rintro ⟨⟩⟩
      rw [hrest, ih]
      constructor
      · rintro ⟨before, x, after, rfl, hbefore, hx⟩
        exact ⟨a :: before, x, after, rfl, List.forall_mem_cons.2 ⟨⟨b, ha⟩, hbefore⟩, hx⟩
      · rintro ⟨before, x, after, h, hbefore, hx⟩
        cases before with
        | nil =>
          obtain ⟨rfl, -⟩ := List.cons.inj h
          rw [ha] at hx
          cases hx
        | cons y before =>
          obtain ⟨rfl, rfl⟩ := List.cons.inj h
          exact ⟨before, x, after, rfl, (List.forall_mem_cons.1 hbefore).2, hx⟩

/-- What is done to a result changes no fault. -/
theorem map_eq_error_iff {α β ε : Type} {f : α → β} {r : Except ε α} {e : ε} :
    r.map f = .error e ↔ r = .error e := by
  cases r with
  | error e' => exact ⟨fun h => by cases h; rfl, fun h => by cases h; rfl⟩
  | ok a => exact ⟨by rintro ⟨⟩, by rintro ⟨⟩⟩

namespace Escape

/-! ## Parameters -/

/-- A row of more digits than are read. -/
def IsOverlong (p : Text) : Prop :=
  (∀ c ∈ p, Text.isAsciiDigit c = true) ∧ Numeral.maxDigits < p.length

/-- **Parameters that cannot be read**: the first row of too many digits among them has as many as
`x` says. -/
def Overruns (ps : Text) (x : Overlong) : Prop :=
  ∃ before p after, ps.splitOn ';' = before ++ p :: after ∧ (∀ q ∈ before, ¬IsOverlong q) ∧
    IsOverlong p ∧ x = ⟨p.length⟩

/-- Each digit has a value. -/
theorem length_digitValues {p : Text} (h : ∀ c ∈ p, Text.isAsciiDigit c = true) :
    (Numeral.digitValues p).length = p.length :=
  List.filterMap_length_eq_length.2 fun c hc => Text.isDecimal_of_isAsciiDigit (h c hc)

theorem readParam_of_isOverlong {p : Text} (h : IsOverlong p) :
    readParam p = .error ⟨p.length⟩ := by
  obtain ⟨hdigits, hlength⟩ := h
  have hne : p ≠ [] := by
    rintro rfl
    exact absurd hlength (Nat.not_lt_zero _)
  rw [readParam, if_pos ⟨hne, List.all_eq_true.2 hdigits⟩, Numeral.read,
    length_digitValues hdigits, if_pos hlength]
  rfl

theorem exists_readParam {p : Text} (h : ¬IsOverlong p) : ∃ v, readParam p = .ok v := by
  rw [readParam]
  split
  · rename_i hp
    have hdigits := List.all_eq_true.1 hp.2
    have hlength : ¬Numeral.maxDigits < p.length := fun hlt => h ⟨hdigits, hlt⟩
    rw [Numeral.read, length_digitValues hdigits, if_neg hlength]
    exact ⟨_, rfl⟩
  · exact ⟨_, rfl⟩

theorem readParam_eq_error_iff {p : Text} {x : Overlong} :
    readParam p = .error x ↔ IsOverlong p ∧ x = ⟨p.length⟩ := by
  by_cases hp : IsOverlong p
  · rw [readParam_of_isOverlong hp, Except.error.injEq]
    exact ⟨fun h => ⟨hp, h.symm⟩, fun h => h.2.symm⟩
  · obtain ⟨v, hv⟩ := exists_readParam hp
    rw [hv]
    exact iff_of_false (by rintro ⟨⟩) fun h => hp h.1

theorem readParams_eq_error_iff {ps : Text} {x : Overlong} :
    readParams ps = .error x ↔ Overruns ps x := by
  have hmapM : readParams ps = .error x ↔ (ps.splitOn ';').mapM readParam = .error x := by
    rw [readParams]
    split
    · rename_i hnil
      subst hnil
      exact iff_of_false (by rintro ⟨⟩) (by rintro ⟨⟩)
    · exact Iff.rfl
  rw [hmapM, mapM_eq_error_iff]
  constructor
  · rintro ⟨before, p, after, hsplit, hbefore, hp⟩
    obtain ⟨hlong, rfl⟩ := readParam_eq_error_iff.1 hp
    refine ⟨before, p, after, hsplit, fun q hq hq' => ?_, hlong, rfl⟩
    obtain ⟨v, hv⟩ := hbefore q hq
    rw [readParam_of_isOverlong hq'] at hv
    cases hv
  · rintro ⟨before, p, after, hsplit, hbefore, hlong, rfl⟩
    exact ⟨before, p, after, hsplit, fun q hq => exists_readParam (hbefore q hq),
      readParam_of_isOverlong hlong⟩

/-! ## Sequences -/

/-- **A sequence that cannot be read**, from what follows its escape character: a control sequence
with its final character and without a private marker, whose parameters cannot be read. -/
def Illegible (t : Text) (x : Overlong) : Prop :=
  ∃ (ps is rest : Text) (c : Char), t = '[' :: (ps ++ (is ++ c :: rest)) ∧
    (∀ c ∈ ps, isParam c = true) ∧ (∀ c ∈ is, isIntermediate c = true) ∧ isFinal c = true ∧
    startsPrivate ps = false ∧ Overruns ps x

/-- **Nothing else fails.** -/
theorem parse_eq_error_iff {t : Text} {x : Overlong} : parse t = .error x ↔ Illegible t x := by
  constructor
  · intro h
    rcases parse_cases t with ⟨s, rest, e, rfl, hr⟩ | ⟨ps, is, rest, c, y, rfl, hps, his, hc, hp, hv⟩
    · rw [parse_of_reads hr] at h
      cases h
    · rw [parse_eq_error hps his hc hp hv] at h
      cases h
      exact ⟨ps, is, rest, c, rfl, hps, his, hc, hp, readParams_eq_error_iff.1 hv⟩
  · rintro ⟨ps, is, rest, c, rfl, hps, his, hc, hp, hx⟩
    exact parse_eq_error hps his hc hp (readParams_eq_error_iff.2 hx)

theorem infix_intercalate {sep p : Text} {ps : List Text} (h : p ∈ ps) :
    p <:+: sep.intercalate ps := by
  induction ps with
  | nil => exact absurd h List.not_mem_nil
  | cons q ps ih =>
    cases ps with
    | nil =>
      obtain rfl := List.mem_singleton.1 h
      rw [List.intercalate_singleton]
    | cons q' ps =>
      rw [List.intercalate_cons_cons]
      rcases List.mem_cons.1 h with rfl | h
      · exact ((List.prefix_append p sep).trans (List.prefix_append _ _)).isInfix
      · exact (ih h).trans (List.suffix_append _ _).isInfix

/-- There are too many digits in a row in what cannot be read. -/
theorem Illegible.exists_infix {t : Text} {x : Overlong} (h : Illegible t x) :
    ∃ p, p <:+: t ∧ IsOverlong p := by
  obtain ⟨ps, is, rest, c, rfl, -, -, -, -, before, p, after, hsplit, -, hp, -⟩ := h
  have hpiece : p <:+: ps := by
    have hjoined : p <:+: [';'].intercalate (ps.splitOn ';') :=
      infix_intercalate (by rw [hsplit]; simp)
    rwa [List.intercalate_splitOn] at hjoined
  exact ⟨p, hpiece.trans ⟨['['], is ++ c :: rest, by simp⟩, hp⟩

end Escape

/-! ## Texts -/

namespace Token

/-- **What is read before a place**: `Whole a rest` holds when `a`, standing before `rest`, falls
into characters and sequences that end within it. -/
inductive Whole : (a rest : Text) → Prop
  | nil {rest : Text} : Whole [] rest
  | char {c : Char} {a rest : Text} : c ≠ Control.escape → Whole a rest → Whole (c :: a) rest
  | sequence {s a rest : Text} {e : Escape} : Escape.Reads s (a ++ rest) e → Whole a rest →
      Whole (Control.escape :: (s ++ a)) rest

/-- **A text that cannot be read to its end**: it is read up to the escape character of a sequence
that cannot be read. -/
def Illegible (t : Text) (x : Overlong) : Prop :=
  ∃ a r, t = a ++ Control.escape :: r ∧ Whole a (Control.escape :: r) ∧ Escape.Illegible r x

theorem unreadable_mem_scan_of_whole {a r : Text} {x : Overlong}
    (ha : Whole a (Control.escape :: r)) (hx : Escape.parse r = .error x) :
    unreadable x ∈ scan (a ++ Control.escape :: r) := by
  generalize hrest : Control.escape :: r = rest at ha
  induction ha with
  | nil =>
    subst hrest
    rw [List.nil_append, scan_of_error hx]
    exact List.mem_singleton_self _
  | char hc _ ih =>
    rw [List.cons_append, scan_cons hc]
    exact List.mem_cons_of_mem _ (ih hrest)
  | sequence hr _ ih =>
    rw [List.cons_append, List.append_assoc, scan_of_reads hr]
    exact List.mem_cons_of_mem _ (ih hrest)

/-- **A row of tokens ends early exactly if the text cannot be read to its end.** -/
theorem unreadable_mem_scan_iff {t : Text} {x : Overlong} :
    unreadable x ∈ scan t ↔ Illegible t x := by
  constructor
  · induction t using scan_induction with
    | nil => exact fun h => absurd h (by rw [scan_nil]; exact List.not_mem_nil)
    | char c r hc ih =>
      intro h
      rw [scan_cons hc, List.mem_cons] at h
      obtain ⟨a, b, rfl, ha, hx⟩ := ih (h.resolve_left (by rintro ⟨⟩))
      exact ⟨c :: a, b, rfl, .char hc ha, hx⟩
    | sequence s rest e hr ih =>
      intro h
      rw [scan_of_reads hr, List.mem_cons] at h
      obtain ⟨a, b, rfl, ha, hx⟩ := ih (h.resolve_left (by rintro ⟨⟩))
      exact ⟨Control.escape :: (s ++ a), b, by simp, .sequence hr ha, hx⟩
    | unreadable r y hy =>
      intro h
      rw [scan_of_error hy, List.mem_singleton] at h
      cases h
      exact ⟨[], r, rfl, .nil, Escape.parse_eq_error_iff.1 hy⟩
  · rintro ⟨a, r, rfl, ha, hx⟩
    exact unreadable_mem_scan_of_whole ha (Escape.parse_eq_error_iff.2 hx)

theorem Illegible.exists_infix {t : Text} {x : Overlong} (h : Illegible t x) :
    ∃ p, p <:+: t ∧ Escape.IsOverlong p := by
  obtain ⟨a, r, rfl, -, hr⟩ := h
  obtain ⟨p, hp, hlong⟩ := hr.exists_infix
  exact ⟨p, hp.trans ⟨a ++ [Control.escape], [], by simp⟩, hlong⟩

end Token

/-- Sequences are stripped unless one cannot be read. -/
theorem stripEscapes_eq_error_iff {t : Text} {x : Overlong} :
    stripEscapes t = .error x ↔ Token.Illegible t x := by
  rw [← Token.unreadable_mem_scan_iff]
  induction t using Token.scan_induction with
  | nil =>
    rw [stripEscapes_nil, Token.scan_nil]
    exact iff_of_false (by rintro ⟨⟩) List.not_mem_nil
  | char c r hc ih =>
    rw [stripEscapes_cons hc, map_eq_error_iff, Token.scan_cons hc, List.mem_cons, ← ih,
      or_iff_right (by rintro ⟨⟩)]
  | sequence s rest e hr ih =>
    rw [stripEscapes_of_reads hr, Token.scan_of_reads hr, List.mem_cons, ← ih,
      or_iff_right (by rintro ⟨⟩)]
  | unreadable r y hy =>
    rw [stripEscapes_of_error hy, Token.scan_of_error hy, List.mem_singleton]
    exact ⟨fun h => by cases h; rfl, fun h => by cases h; rfl⟩

/-! ## Rendering -/

/-- **Tab stops that are reached**: wherever a tab is met, its stop is not infinitely far. -/
def TabStops.AreReached (stops : TabStops) : Prop :=
  ∀ column, stops column ≠ .error .endless

namespace Line

/-- **Replaying ends where tab stops are reached.** -/
theorem replay_ne_endless {stops : TabStops} (hstops : stops.AreReached) (l : Line) (t : Text) :
    l.replay stops t ≠ .error .endless := by
  have hobey : ∀ (l : Line) (x : Token), l.obey stops x ≠ .error .endless := by
    intro l x
    cases x with
    | char c =>
      rw [obey, control]
      have hstop := hstops l.cursor
      split_ifs
      case _ => rintro ⟨⟩
      case _ => rintro ⟨⟩
      case _ => rwa [ne_eq, map_eq_error_iff]
      case _ => rintro ⟨⟩
      case _ => rintro ⟨⟩
    | sequence s e => rintro ⟨⟩
    | unreadable x => rintro ⟨⟩
  rw [replay]
  induction Token.scan t generalizing l with
  | nil => rintro ⟨⟩
  | cons x xs ih =>
    rw [List.foldlM_cons]
    cases hx : l.obey stops x with
    | ok l' => exact ih l'
    | error f => exact fun h => hobey l x (hx.trans h)

/-- Characters never fail where every column has a stop behind it. -/
theorem exists_obey_char {stops : TabStops} (hstops : ∀ column, ∃ stop, stops column = .ok stop)
    (l : Line) (c : Char) : ∃ l', l.obey stops (.char c) = .ok l' := by
  rw [obey]
  split
  · rw [control]
    split
    · exact ⟨_, rfl⟩
    split
    · exact ⟨_, rfl⟩
    split
    · obtain ⟨stop, hstop⟩ := hstops l.cursor
      rw [hstop]
      exact ⟨_, rfl⟩
    · exact ⟨_, rfl⟩
  · exact ⟨_, rfl⟩

/-- **Replaying fails on what cannot be read, and on nothing else.** -/
theorem replay_eq_error_iff {stops : TabStops}
    (hstops : ∀ column, ∃ stop, stops column = .ok stop) {t : Text} {f : RenderFault} (l : Line) :
    l.replay stops t = .error f ↔ ∃ x, f = .overlong x ∧ Token.Illegible t x := by
  simp only [← Token.unreadable_mem_scan_iff]
  induction t using Token.scan_induction generalizing l with
  | nil =>
    rw [replay_nil, Token.scan_nil]
    refine iff_of_false (by rintro ⟨⟩) ?_
    rintro ⟨x, -, hx⟩
    exact absurd hx List.not_mem_nil
  | char c r hc ih =>
    obtain ⟨l', hl'⟩ := exists_obey_char hstops l c
    rw [replay_cons stops l hc, hl', Token.scan_cons hc]
    refine (ih l').trans (exists_congr fun x => and_congr_right fun _ => ?_)
    rw [List.mem_cons, or_iff_right (by rintro ⟨⟩)]
  | sequence s rest e hr ih =>
    rw [replay_of_reads stops l hr, Token.scan_of_reads hr]
    refine (ih (e.apply l)).trans (exists_congr fun x => and_congr_right fun _ => ?_)
    rw [List.mem_cons, or_iff_right (by rintro ⟨⟩)]
  | unreadable r y hy =>
    rw [replay_of_error stops l hy, Token.scan_of_error hy]
    constructor
    · intro h
      cases h
      exact ⟨y, rfl, List.mem_singleton_self _⟩
    · rintro ⟨x, rfl, hx⟩
      obtain ⟨⟩ := List.mem_singleton.1 hx
      rfl

end Line

namespace Screen

variable {stops : TabStops} {t : Text} {f : RenderFault}

/-- Rendering ends where tab stops are reached. -/
theorem render_ne_endless (hstops : stops.AreReached) : render stops t ≠ .error .endless := by
  rw [render, ne_eq, map_eq_error_iff, mapM_eq_error_iff]
  rintro ⟨_, l, -, -, -, hl⟩
  rw [renderLine, map_eq_error_iff] at hl
  exact Line.replay_ne_endless hstops Line.empty l hl

theorem renderLine_eq_error_iff (hstops : ∀ column, ∃ stop, stops column = .ok stop) :
    renderLine stops t = .error f ↔ ∃ x, f = .overlong x ∧ Token.Illegible t x := by
  rw [renderLine, map_eq_error_iff, Line.replay_eq_error_iff hstops]

/-- The first line that cannot be read to its end, and why. -/
def FirstIllegible (ls : List Text) (x : Overlong) : Prop :=
  ∃ before l after, ls = before ++ l :: after ∧ (∀ m ∈ before, ∀ y, ¬Token.Illegible m y) ∧
    Token.Illegible l x

theorem render_eq_error_iff (hstops : ∀ column, ∃ stop, stops column = .ok stop) :
    render stops t = .error f ↔ ∃ x, f = .overlong x ∧ FirstIllegible t.lines x := by
  have hok : ∀ m, (∃ r, renderLine stops m = .ok r) ↔ ∀ y, ¬Token.Illegible m y := by
    intro m
    cases hm : renderLine stops m with
    | error g =>
      obtain ⟨y, -, hy⟩ := (renderLine_eq_error_iff hstops).1 hm
      exact iff_of_false (by rintro ⟨r, ⟨⟩⟩) fun h => h y hy
    | ok r =>
      refine iff_of_true ⟨r, rfl⟩ fun y hy => ?_
      have := (renderLine_eq_error_iff hstops (f := .overlong y)).2 ⟨y, rfl, hy⟩
      rw [hm] at this
      cases this
  rw [render, map_eq_error_iff, mapM_eq_error_iff]
  simp only [hok, renderLine_eq_error_iff hstops]
  constructor
  · rintro ⟨before, l, after, hsplit, hbefore, x, hf, hx⟩
    exact ⟨x, hf, before, l, after, hsplit, hbefore, hx⟩
  · rintro ⟨x, hf, before, l, after, hsplit, hbefore, hx⟩
    exact ⟨before, l, after, hsplit, hbefore, x, hf, hx⟩

/-- Rendering with a stop every so many columns fails on what cannot be read, and on nothing
else. -/
theorem normalize_eq_error_iff (width : TabWidth) :
    normalize width.1 t = .error f ↔ ∃ x, f = .overlong x ∧ FirstIllegible t.lines x := by
  have hwidth : ¬width.1 < 1 := by
    have := width.2
    omega
  rw [normalize, TabStops.every?, if_neg hwidth]
  exact render_eq_error_iff fun column => ⟨_, TabStops.every_eq_nextStop width column⟩

theorem clean_eq_error_iff (width : TabWidth) (sanitized unpaged : Bool) :
    Cleaning.clean ⟨width.1, sanitized, unpaged⟩ t = .error f ↔
      normalize width.1 t = .error f := by
  rw [Cleaning.clean, map_eq_error_iff]

/-- A line of a text is a stretch of it. -/
theorem infix_of_mem_lines {l : Text} (h : l ∈ t.lines) : l <:+: t := by
  have hjoined : l <:+: ['\n'].intercalate t.lines := Escape.infix_intercalate h
  rwa [Text.lines, List.intercalate_splitOn] at hjoined

/-- **Output is rendered unless a sequence in it has a numeral that is too long.** Rendering fails
with the first line that cannot be read to its end, the way to clean output fails with rendering,
stripping fails where the text cannot be read to its end, and reading a sequence fails where it is
one that cannot be read; there is no other fault, and a text without so many digits in a row meets
none. -/
theorem fails_iff_illegible (width : TabWidth) (t : Text) :
    (∀ f, normalize width.1 t = .error f ↔ ∃ x, f = .overlong x ∧ FirstIllegible t.lines x) ∧
    (∀ sanitized unpaged f, Cleaning.clean ⟨width.1, sanitized, unpaged⟩ t = .error f ↔
      ∃ x, f = .overlong x ∧ FirstIllegible t.lines x) ∧
    (∀ x, stripEscapes t = .error x ↔ Token.Illegible t x) ∧
    (∀ i x, Escape.parseAt t i = .error x ↔ Escape.Illegible (t.drop (i + 1)) x) ∧
    ((∀ p, p <:+: t → ¬Escape.IsOverlong p) →
      (∃ r, normalize width.1 t = .ok r) ∧
      (∀ sanitized unpaged, ∃ r, Cleaning.clean ⟨width.1, sanitized, unpaged⟩ t = .ok r) ∧
      (∃ r, stripEscapes t = .ok r) ∧ ∀ i, ∃ e, Escape.parseAt t i = .ok e) := by
  have hclean : ∀ sanitized unpaged f, Cleaning.clean ⟨width.1, sanitized, unpaged⟩ t = .error f ↔
      ∃ x, f = .overlong x ∧ FirstIllegible t.lines x := fun sanitized unpaged f =>
    (clean_eq_error_iff width sanitized unpaged).trans (normalize_eq_error_iff width)
  have hparse : ∀ i x, Escape.parseAt t i = .error x ↔ Escape.Illegible (t.drop (i + 1)) x :=
    fun i x => Escape.parse_eq_error_iff
  refine ⟨fun f => normalize_eq_error_iff width, hclean, fun x => stripEscapes_eq_error_iff, hparse,
    fun hshort => ?_⟩
  -- whatever cannot be read lies within the text, with its digits
  have hlines : ∀ x, ¬FirstIllegible t.lines x := by
    rintro x ⟨before, l, after, hsplit, -, hl⟩
    obtain ⟨p, hp, hlong⟩ := hl.exists_infix
    exact hshort p (hp.trans (infix_of_mem_lines (by rw [hsplit]; simp))) hlong
  have htext : ∀ x, ¬Token.Illegible t x := by
    intro x hx
    obtain ⟨p, hp, hlong⟩ := hx.exists_infix
    exact hshort p hp hlong
  have hplace : ∀ i x, ¬Escape.Illegible (t.drop (i + 1)) x := by
    intro i x hx
    obtain ⟨p, hp, hlong⟩ := hx.exists_infix
    exact hshort p (hp.trans (List.drop_suffix _ _).isInfix) hlong
  refine ⟨exists_eq_ok fun f hf => ?_, fun sanitized unpaged => exists_eq_ok fun f hf => ?_,
    exists_eq_ok fun x hx => htext x (stripEscapes_eq_error_iff.1 hx),
    fun i => exists_eq_ok fun x hx => hplace i x ((hparse i x).1 hx)⟩
  · obtain ⟨x, -, hx⟩ := (normalize_eq_error_iff width).1 hf
    exact hlines x hx
  · obtain ⟨x, -, hx⟩ := (hclean sanitized unpaged f).1 hf
    exact hlines x hx

/-- The numeral one digit longer than the longest that is read, as the parameter of a rendition. -/
def longRendition : Text :=
  Control.escape :: '[' :: (List.replicate (Numeral.maxDigits + 1) '1' ++ ['m'])

theorem mem_longRendition {c : Char} (h : c ∈ longRendition) :
    c = Control.escape ∨ c = '[' ∨ c = '1' ∨ c = 'm' := by
  rw [longRendition, List.mem_cons, List.mem_cons, List.mem_append, List.mem_singleton,
    List.mem_replicate] at h
  rcases h with h | h | h | h
  · exact .inl h
  · exact .inr (.inl h)
  · exact .inr (.inr (.inl h.2))
  · exact .inr (.inr (.inr h))

theorem lines_longRendition : longRendition.lines = [longRendition] :=
  List.splitOn_eq_singleton fun h => absurd (mem_longRendition h) (by decide)

theorem illegible_drop_longRendition : Escape.Illegible (longRendition.drop 1) ⟨4301⟩ := by
  have hdigits : ∀ c ∈ List.replicate (Numeral.maxDigits + 1) '1', c = '1' :=
    fun c hc => (List.mem_replicate.1 hc).2
  have hlength : (List.replicate (Numeral.maxDigits + 1) '1').length = 4301 :=
    List.length_replicate
  refine ⟨List.replicate (Numeral.maxDigits + 1) '1', [], [], 'm', rfl, fun c hc => ?_,
    fun c hc => absurd hc List.not_mem_nil, rfl, rfl, [], _, [], List.splitOn_eq_singleton ?_,
    fun q hq => absurd hq List.not_mem_nil, ⟨fun c hc => ?_, ?_⟩, ?_⟩
  · rw [hdigits c hc]; rfl
  · exact fun h => absurd (hdigits ';' h) (by decide)
  · rw [hdigits c hc]; rfl
  · rw [hlength]; decide
  · rw [hlength]

/-- It cannot be read to its end. -/
theorem illegible_longRendition : Token.Illegible longRendition ⟨4301⟩ :=
  ⟨[], _, rfl, .nil, illegible_drop_longRendition⟩

/-- **One digit too many, and nothing is shown.** A rendition, which has no effect on a line, makes
all four fail. -/
theorem fails_longRendition :
    normalize 8 longRendition = .error (.overlong ⟨4301⟩) ∧
      Cleaning.clean {} longRendition = .error (.overlong ⟨4301⟩) ∧
      stripEscapes longRendition = .error ⟨4301⟩ ∧
      Escape.parseAt longRendition 0 = .error ⟨4301⟩ := by
  have hnormalize : normalize 8 longRendition = .error (.overlong ⟨4301⟩) :=
    (normalize_eq_error_iff ⟨8, by decide⟩).2 ⟨_, rfl, [], _, [], lines_longRendition,
      fun m hm => absurd hm List.not_mem_nil, illegible_longRendition⟩
  exact ⟨hnormalize, (clean_eq_error_iff ⟨8, by decide⟩ true true).2 hnormalize,
    stripEscapes_eq_error_iff.2 illegible_longRendition,
    Escape.parse_eq_error_iff.2 illegible_drop_longRendition⟩

end Screen

end Teletype
