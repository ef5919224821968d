import Teletype.Proofs.Legible
import Teletype.Proofs.Sanitizing

/-!
# How far a sequence goes

A terminal knows four kinds of sequences. A control sequence takes its parameters and its
intermediate characters, as many of each as there are, and one final character. A control string goes
on up to what ends it. A short escape is one character. Any other escape takes its intermediate
characters and one final character. `Form` says this of what follows an escape character, with every
way in which a sequence can break off; it is about runs of characters and where they stop, not about
a way to read them.

The parser reads exactly the forms (`parse_eq_ok_iff`), unless a numeral is too long to be read
(`parse_eq_error_iff`). A sequence that has its final character is settled by it, whatever comes
later (`Form.of_final`).
-/

namespace Teletype

namespace Escape

/-! ## Runs -/

/-- The characters of a class that stand in front of a text, as many as there are. -/
structure Run (p : Char → Bool) (xs rest : Text) : Prop where
  all : ∀ c ∈ xs, p c = true
  stop : ∀ c ∈ rest.head?, p c = false

theorem run_param_of_intermediate {ps is rest : Text} (hps : ∀ c ∈ ps, isParam c = true)
    (his : ∀ c ∈ is, isIntermediate c = true)
    (hrest : ∀ c ∈ rest.head?, is = [] → isParam c = false) : Run isParam ps (is ++ rest) :=
  ⟨hps, head?_append_isParam his hrest⟩

/-! ## The text of a control string -/

/-- Nothing in a text ends a control string. -/
structure Unended (p : Text) : Prop where
  bell : Control.bell ∉ p
  pair : ¬stringEnd <:+: p

theorem unended_nil : Unended [] :=
  ⟨List.not_mem_nil, fun h => absurd h.length_le (by decide)⟩

theorem unended_cons_iff {c : Char} {p : Text} :
    Unended (c :: p) ↔
      c ≠ Control.bell ∧ (c = Control.escape → p.head? ≠ some '\\') ∧ Unended p := by
  have hpair : stringEnd <+: c :: p ↔ c = Control.escape ∧ p.head? = some '\\' := by
    rw [stringEnd, List.cons_prefix_cons]
    cases p with
    | nil => simp
    | cons d p => simp [List.cons_prefix_cons, eq_comm]
  constructor
  · rintro ⟨hbell, hend⟩
    rw [List.infix_cons_iff, not_or, hpair] at hend
    rw [List.mem_cons, not_or] at hbell
    exact ⟨Ne.symm hbell.1, fun hc hp => hend.1 ⟨hc, hp⟩, hbell.2, hend.2⟩
  · rintro ⟨hc, hhead, hp⟩
    refine ⟨fun h => ?_, fun h => ?_⟩
    · rcases List.mem_cons.1 h with h | h
      · exact hc h.symm
      · exact hp.bell h
    · rcases List.infix_cons_iff.1 h with h | h
      · exact hhead (hpair.1 h).1 (hpair.1 h).2
      · exact hp.pair h

/-- What does not end a string is passed over, unless its last character and the next one end it. -/
theorem stringSpan_append {p q : Text} (hp : Unended p) (hq : q.head? ≠ some '\\') :
    stringSpan (p ++ q) = (p.length + (stringSpan q).1, (stringSpan q).2) := by
  induction p with
  | nil => rw [List.nil_append, List.length_nil, Nat.zero_add]
  | cons c p ih =>
    obtain ⟨hbell, hhead, hp⟩ := unended_cons_iff.1 hp
    have hnext : c = Control.escape → (p ++ q).head? ≠ some '\\' := by
      intro hc
      cases p with
      | nil => exact hq
      | cons d p => exact hhead hc
    rw [List.cons_append, stringSpan_cons hbell hnext, ih hp, List.length_cons]
    simp only [Prod.mk.injEq, and_true]
    omega

/-- **What ends a control string**: a bell, or the pair of an escape character and a backslash. -/
def IsStringEnd (z : Text) : Prop :=
  z = [Control.bell] ∨ z = stringEnd

/-- A string is read up to its end, and with it. -/
theorem stringSpan_append_end {p z : Text} (hp : Unended p) (hz : IsStringEnd z) (rest : Text) :
    stringSpan (p ++ z ++ rest) = ((p ++ z).length, z.getLast?) := by
  rcases hz with rfl | rfl
  · rw [List.append_assoc, stringSpan_append hp (by simp [Control.bell]), List.length_append]
    rfl
  · rw [List.append_assoc, stringSpan_append hp (by simp [stringEnd, Control.escape]),
      List.length_append]
    rfl

/-- One that nothing ends is all of the text. -/
theorem stringSpan_of_unended {p : Text} (hp : Unended p) : stringSpan p = (p.length, none) := by
  have hspan := stringSpan_append hp (q := []) (by simp)
  rwa [List.append_nil] at hspan

/-- **Every text is cut where a string in it ends**, or it has no end of a string. -/
theorem exists_string_parts (t : Text) :
    (∃ p z rest, t = p ++ z ++ rest ∧ Unended p ∧ IsStringEnd z) ∨ Unended t := by
  induction t with
  | nil => exact .inr unended_nil
  | cons c r ih =>
    by_cases hbell : c = Control.bell
    · exact .inl ⟨[], [Control.bell], r, by rw [hbell]; rfl, unended_nil, .inl rfl⟩
    by_cases hpair : c = Control.escape ∧ r.head? = some '\\'
    · obtain ⟨rfl, hhead⟩ := hpair
      cases r with
      | nil => cases hhead
      | cons d r =>
        obtain rfl : d = '\\' := Option.some.inj hhead
        exact .inl ⟨[], stringEnd, r, rfl, unended_nil, .inr rfl⟩
    -- neither begins here, so whatever the rest is cut into has one character more
    have hcons : ∀ {p q : Text}, r = p ++ q → Unended p → Unended (c :: p) := by
      rintro p q rfl hp
      refine unended_cons_iff.2 ⟨hbell, fun hc hhead => hpair ⟨hc, ?_⟩, hp⟩
      cases p with
      | nil => cases hhead
      | cons d p => exact hhead
    rcases ih with ⟨p, z, rest, hr, hp, hz⟩ | hr
    · have hp' : Unended (c :: p) := hcons (q := z ++ rest) (by rw [hr, List.append_assoc]) hp
      exact .inl ⟨c :: p, z, rest, by rw [hr]; rfl, hp', hz⟩
    · exact .inr (hcons (List.append_nil r).symm hr)

/-- **A string that is read** has its end in its last characters, or it is all of the text and has
no end. -/
theorem stringSpan_cases {p rest : Text} {final : Option Char}
    (hspan : stringSpan (p ++ rest) = (p.length, final)) :
    (∃ q z, p = q ++ z ∧ Unended q ∧ IsStringEnd z ∧ final = z.getLast?) ∨
      rest = [] ∧ Unended p ∧ final = none := by
  rcases exists_string_parts (p ++ rest) with ⟨q, z, after, hcut, hun, hz⟩ | hun
  · rw [hcut, stringSpan_append_end hun hz] at hspan
    obtain ⟨hlength, hfinal⟩ := Prod.mk.inj hspan
    have hp : p = q ++ z := (List.append_inj hcut hlength.symm).1
    exact .inl ⟨q, z, hp, hun, hz, hfinal.symm⟩
  · rw [stringSpan_of_unended hun, List.length_append] at hspan
    obtain ⟨hlength, hfinal⟩ := Prod.mk.inj hspan
    obtain rfl : rest = [] := List.length_eq_zero_iff.1 (by omega)
    rw [List.append_nil] at hun
    exact .inr ⟨rfl, hun, hfinal.symm⟩

/-! ## The forms -/

/-- **The forms of a sequence**, from what follows its escape character. -/
inductive Form : Text → Escape → Prop
  /-- A control sequence. It gives the command that its final character names, unless intermediate
  characters stand before that. -/
  | control {ps is rest : Text} {c : Char} {values : List (Option Nat)} :
      Run isParam ps (is ++ c :: rest) → Run isIntermediate is (c :: rest) → isFinal c = true →
      startsPrivate ps = false → readParams ps = .ok values →
      Form ('[' :: (ps ++ (is ++ c :: rest)))
        ⟨2 + ps.length + is.length + 1, if is = [] then Command.ofLetter? c else none, values,
          some c, false⟩
  /-- One whose first parameter character is a private marker. It gives no command. -/
  | privateControl {ps is rest : Text} {c : Char} :
      Run isParam ps (is ++ c :: rest) → Run isIntermediate is (c :: rest) → isFinal c = true →
      startsPrivate ps = true →
      Form ('[' :: (ps ++ (is ++ c :: rest)))
        ⟨2 + ps.length + is.length + 1, none, [], some c, true⟩
  /-- One that is interrupted. The character that interrupts it is left. -/
  | brokenControl {ps is rest : Text} {c : Char} :
      Run isParam ps (is ++ c :: rest) → Run isIntermediate is (c :: rest) → isFinal c = false →
      Form ('[' :: (ps ++ (is ++ c :: rest))) (inert (2 + ps.length + is.length) none)
  /-- One that the end of the text cuts off. -/
  | openControl {ps is : Text} :
      Run isParam ps is → Run isIntermediate is [] →
      Form ('[' :: (ps ++ is)) (inert (2 + ps.length + is.length) none)
  /-- A control string that a bell ends. -/
  | bellString {i : Char} {p rest : Text} :
      isStringIntroducer i = true → Unended p →
      Form (i :: (p ++ Control.bell :: rest)) (inert (2 + p.length + 1) (some Control.bell))
  /-- One that an escape character and a backslash end. -/
  | pairString {i : Char} {p rest : Text} :
      isStringIntroducer i = true → Unended p →
      Form (i :: (p ++ (stringEnd ++ rest))) (inert (2 + p.length + 2) (some '\\'))
  /-- One that nothing ends. -/
  | openString {i : Char} {p : Text} :
      isStringIntroducer i = true → Unended p → Form (i :: p) (inert (2 + p.length) none)
  /-- A short escape. -/
  | short {c : Char} {k : Command} {rest : Text} :
      Command.ofShort? c = some k → Form (c :: rest) ⟨2, some k, [], some c, false⟩
  /-- Any other escape. Its final character begins none of the forms above, unless intermediate
  characters stand before it. -/
  | plain {is rest : Text} {c : Char} :
      Run isIntermediate is (c :: rest) → isShortFinal c = true → (is = [] → isSpecial c = false) →
      Form (is ++ c :: rest) (inert (2 + is.length) (some c))
  /-- One without a final character. -/
  | openPlain {is rest : Text} :
      Run isIntermediate is rest → (∀ c ∈ rest.head?, isShortFinal c = false) →
      Form (is ++ rest) (inert (1 + is.length) none)

/-- A form is read as it says. -/
theorem reads_of_form {t : Text} {e : Escape} (h : Form t e) :
    ∃ s rest, t = s ++ rest ∧ Reads s rest e := by
  have hcut : ∀ {ps is rest : Text} {c : Char},
      '[' :: (ps ++ (is ++ c :: rest)) = '[' :: (ps ++ (is ++ [c])) ++ rest := by simp
  have hlength : ∀ {ps is : Text},
      2 + ps.length + is.length = 1 + ('[' :: (ps ++ is)).length := by
    intro ps is
    rw [List.length_cons, List.length_append]
    omega
  cases h with
  | @control ps is rest c values hps his hc hpriv hvalues =>
    have hcommand : (if is.isEmpty then Command.ofLetter? c else none) =
        if is = [] then Command.ofLetter? c else none := by
      simp only [List.isEmpty_iff]
    refine ⟨_, rest, hcut, ?_⟩
    rw [← hcommand]
    exact .sequence hps.all his.all hc hpriv hvalues
  | privateControl hps his hc hpriv =>
    exact ⟨_, _, hcut, .privateSequence hps.all his.all hc hpriv⟩
  | @brokenControl ps is rest c hps his hc =>
    refine ⟨'[' :: (ps ++ is), c :: rest, by simp, ?_⟩
    rw [hlength]
    refine .broken (.inl ⟨ps, is, rfl, hps.all, his.all⟩) ?_
    -- the run of parameters has stopped before it, so it would not go on with this character
    rintro x ⟨⟩
    refine (continues_sequence hps.all his.all).2 ⟨his.stop c rfl, hc, ?_⟩
    rintro rfl
    exact hps.stop c rfl
  | @openControl ps is hps his =>
    refine ⟨'[' :: (ps ++ is), [], by simp, ?_⟩
    rw [hlength]
    exact .broken (.inl ⟨ps, is, rfl, hps.all, his.all⟩) (by rintro x ⟨⟩)
  | @bellString i p rest hi hp =>
    refine ⟨i :: (p ++ [Control.bell]), rest, by simp, ?_⟩
    have hr := Reads.string hi (stringSpan_append_end hp (.inl rfl) rest)
    rwa [List.length_append] at hr
  | @pairString i p rest hi hp =>
    refine ⟨i :: (p ++ stringEnd), rest, by simp, ?_⟩
    have hr := Reads.string hi (stringSpan_append_end hp (.inr rfl) rest)
    rwa [List.length_append] at hr
  | @openString i p hi hp =>
    refine ⟨i :: p, [], (List.append_nil _).symm, .string hi ?_⟩
    rw [List.append_nil, stringSpan_of_unended hp]
  | @short c k rest hk => exact ⟨[c], rest, rfl, .short hk⟩
  | @plain is rest c his hc hspecial =>
    exact ⟨is ++ [c], rest, by simp, .plain his.all hc hspecial⟩
  | @openPlain is rest his hrest =>
    refine ⟨is, rest, rfl, .broken (.inr his.all) fun c hc => ?_⟩
    exact (continues_plain his.all).2 ⟨his.stop c hc, hrest c hc⟩

/-- Whatever is read has a form. -/
theorem form_of_reads {s rest : Text} {e : Escape} (h : Reads s rest e) : Form (s ++ rest) e := by
  have hcut : ∀ {ps is : Text} {c : Char},
      '[' :: (ps ++ (is ++ [c])) ++ rest = '[' :: (ps ++ (is ++ c :: rest)) := by simp
  cases h with
  | @sequence ps is _ c values hps his hc hpriv hvalues =>
    obtain ⟨hstop, hparam⟩ := @head?_final is rest c hc
    have hf := Form.control (run_param_of_intermediate hps his hparam) ⟨his, hstop⟩ hc hpriv hvalues
    have hcommand : (if is = [] then Command.ofLetter? c else none) =
        if is.isEmpty then Command.ofLetter? c else none := by
      simp only [List.isEmpty_iff]
    rw [hcommand] at hf
    rw [hcut]
    exact hf
  | @privateSequence ps is _ c hps his hc hpriv =>
    obtain ⟨hstop, hparam⟩ := @head?_final is rest c hc
    rw [hcut]
    exact .privateControl (run_param_of_intermediate hps his hparam) ⟨his, hstop⟩ hc hpriv
  | @string i p _ final hi hspan =>
    rw [List.cons_append]
    rcases stringSpan_cases hspan with ⟨q, z, rfl, hun, rfl | rfl, rfl⟩ | ⟨rfl, hun, rfl⟩
    · rw [List.append_assoc, List.length_append]
      exact .bellString hi hun
    · rw [List.append_assoc, List.length_append]
      exact .pairString hi hun
    · rw [List.append_nil]
      exact .openString hi hun
  | @short c k _ hk => exact .short hk
  | @plain is _ c his hc hspecial =>
    have hrun : Run isIntermediate is (c :: rest) := by
      refine ⟨his, ?_⟩
      rintro x ⟨⟩
      exact isIntermediate_eq_false_of_isShortFinal hc
    rw [List.append_assoc]
    exact .plain hrun hc hspecial
  | broken hopen hstop =>
    rcases hopen with ⟨ps, is, rfl, hps, his⟩ | his
    · have hnext := fun c hc => (continues_sequence hps his).1 (hstop c hc)
      have hrun := run_param_of_intermediate hps his fun c hc => (hnext c hc).2.2
      have hlength : 1 + ('[' :: (ps ++ is)).length = 2 + ps.length + is.length := by
        rw [List.length_cons, List.length_append]
        omega
      rw [hlength, List.cons_append, List.append_assoc]
      cases rest with
      | nil =>
        rw [List.append_nil] at hrun ⊢
        exact .openControl hrun ⟨his, by rintro c ⟨⟩⟩
      | cons c rest =>
        refine .brokenControl hrun ⟨his, ?_⟩ (hnext c rfl).2.1
        rintro x ⟨⟩
        exact (hnext c rfl).1
    · have hnext := fun c hc => (continues_plain his).1 (hstop c hc)
      exact .openPlain ⟨his, fun c hc => (hnext c hc).1⟩ fun c hc => (hnext c hc).2

/-- **The parser reads the forms, and nothing else.** -/
theorem parse_eq_ok_iff {t : Text} {e : Escape} : parse t = .ok e ↔ Form t e := by
  constructor
  · intro h
    have hr := form_of_reads (reads_of_parse h)
    rwa [List.take_append_drop] at hr
  · intro h
    obtain ⟨s, rest, rfl, hr⟩ := reads_of_form h
    exact parse_of_reads hr

/-- **Three ways to end.** A sequence ends with its final character, whatever stands behind it; or
it has broken off in front of what does not go on with it; or it is a control string that nothing
ends, and takes all of the text. -/
theorem Reads.ends {s rest : Text} {e : Escape} (h : Reads s rest e) :
    (e.final ≠ none ∧ ∀ after, Reads s after e) ∨
      (IsOpen s ∧ e = inert (1 + s.length) none ∧ ∀ c ∈ rest.head?, continues s c = false) ∨
      rest = [] ∧ ∃ i p, s = i :: p ∧ isStringIntroducer i = true ∧ Unended p ∧
        e = inert (2 + p.length) none := by
  rcases h.kinds with ⟨i, p, final, rfl, hi, hspan, rfl⟩ | ⟨-, -, hfinal, hany⟩ | ⟨-, hopen, -⟩
  · rcases stringSpan_cases hspan with ⟨q, z, rfl, hun, hz, rfl⟩ | ⟨rfl, hun, rfl⟩
    · refine .inl ⟨?_, fun after => .string hi (stringSpan_append_end hun hz after)⟩
      rcases hz with rfl | rfl <;> exact Option.some_ne_none _
    · exact .inr (.inr ⟨rfl, i, p, rfl, hi, hun, rfl⟩)
  · exact .inl ⟨hfinal, hany⟩
  · exact .inr (.inl ⟨hopen, h.of_isOpen hopen⟩)

/-- A sequence that has its final character is read alike whatever stands behind it. -/
theorem Reads.of_final {s rest : Text} {e : Escape} (h : Reads s rest e) (hfinal : e.final ≠ none)
    (after : Text) : Reads s after e := by
  rcases h.ends with ⟨-, hany⟩ | ⟨-, rfl, -⟩ | ⟨-, i, p, rfl, -, -, rfl⟩
  · exact hany after
  · exact absurd rfl hfinal
  · exact absurd rfl hfinal

/-- A sequence is read alike where the text behind it ends earlier. -/
theorem Reads.of_append {s rest after : Text} {e : Escape} (h : Reads s (rest ++ after) e) :
    Reads s rest e := by
  rcases h.ends with ⟨-, hany⟩ | ⟨hopen, rfl, hstop⟩ | ⟨hnil, -⟩
  · exact hany rest
  · refine .broken hopen fun c hc => hstop c ?_
    cases rest with
    | nil => cases hc
    | cons d rest => exact hc
  · obtain ⟨rfl, rfl⟩ := List.append_eq_nil_iff.1 hnil
    exact h

/-- **A sequence that has its final character ends with it**, and takes the same form whatever comes
behind. -/
theorem Form.of_final {t : Text} {e : Escape} (h : Form t e) (hfinal : e.final ≠ none) :
    ∃ s rest, t = s ++ rest ∧ e.length = s.length + 1 ∧ s.getLast? = e.final ∧
      ∀ after, Form (s ++ after) e := by
  obtain ⟨s, rest, rfl, hr⟩ := reads_of_form h
  refine ⟨s, rest, rfl, hr.length_eq, ?_, fun after => form_of_reads (hr.of_final hfinal after)⟩
  have hlast : ∀ {xs : Text} {i c : Char}, (i :: (xs ++ [c])).getLast? = some c :=
    fun {xs i c} => List.getLast?_concat (l := i :: xs)
  cases hr with
  | sequence _ _ _ _ _ => rw [← List.append_assoc, hlast]
  | privateSequence _ _ _ _ => rw [← List.append_assoc, hlast]
  | string hi hspan =>
    rcases stringSpan_cases hspan with ⟨q, z, rfl, -, hz, rfl⟩ | ⟨-, -, rfl⟩
    · rw [← List.cons_append, List.getLast?_append]
      rcases hz with rfl | rfl <;> rfl
    · exact absurd rfl hfinal
  | short _ => rfl
  | plain _ _ _ => simp [inert]
  | broken _ _ => exact absurd rfl hfinal

/-- **The forms are what is read at a place of a text.** A sequence is read there exactly if it has
the form of it, and what is read otherwise fails on a numeral that is too long. One that is read to
its final character has that at its end, and is read alike whatever stands behind it. -/
theorem parseAt_form (t : Text) (start : Nat) :
    (∀ e, parseAt t start = .ok e ↔ Form (t.drop (start + 1)) e) ∧
      (∀ x, parseAt t start = .error x ↔ Illegible (t.drop (start + 1)) x) ∧
      ∀ e, parseAt t start = .ok e → e.final ≠ none →
        t[start + e.length - 1]? = e.final ∧
          ∀ after, parseAt (t.take (start + e.length) ++ after) start = .ok e := by
  refine ⟨fun e => parse_eq_ok_iff, fun x => parse_eq_error_iff, fun e he hfinal => ?_⟩
  obtain ⟨s, rest, hdrop, hlength, hlast, hform⟩ := (parse_eq_ok_iff.1 he).of_final hfinal
  have hne : s ≠ [] := by
    rintro rfl
    exact hfinal hlast.symm
  -- a sequence that has its final character begins inside the text
  have hstart : (t.take (start + 1)).length = start + 1 := by
    rw [List.length_take, Nat.min_eq_left]
    by_contra hlt
    rw [List.drop_eq_nil_of_le (by omega)] at hdrop
    exact hne (List.append_eq_nil_iff.1 hdrop.symm).1
  have ht : t = t.take (start + 1) ++ (s ++ rest) := by rw [← hdrop, List.take_append_drop]
  generalize t.take (start + 1) = before at ht hstart
  subst ht
  have hcut : (before ++ (s ++ rest)).take (start + e.length) = before ++ s := by
    have hwhole : start + e.length = (before ++ s).length := by
      rw [List.length_append, hstart, hlength]
      omega
    rw [hwhole, ← List.append_assoc, List.take_left]
  constructor
  · have hplace : start + e.length - 1 = before.length + (s.length - 1) := by
      have := List.length_pos_of_ne_nil hne
      omega
    rw [hplace, List.getElem?_append_right (Nat.le_add_right _ _), Nat.add_sub_cancel_left,
      List.getElem?_append_left (Nat.sub_lt (List.length_pos_of_ne_nil hne) Nat.one_pos),
      ← List.getLast?_eq_getElem?]
    exact hlast
  · intro after
    rw [hcut, parseAt, List.append_assoc, ← hstart, List.drop_left]
    exact parse_eq_ok_iff.2 (hform after)

/-- The sequence that clears a line does so whatever is written behind it. -/
theorem parseAt_form_clearLine :
    parseAt [Control.escape, '[', '2', 'K', ' '] 0 =
        .ok ⟨4, some .eraseLine, [some 2], some 'K', false⟩ ∧
      ∀ after, parseAt (Control.escape :: '[' :: '2' :: 'K' :: after) 0 =
        .ok ⟨4, some .eraseLine, [some 2], some 'K', false⟩ := by
  have hread : parseAt [Control.escape, '[', '2', 'K', ' '] 0 =
      .ok ⟨4, some .eraseLine, [some 2], some 'K', false⟩ := by cbv
  obtain ⟨-, -, hsettled⟩ := parseAt_form [Control.escape, '[', '2', 'K', ' '] 0
  exact ⟨hread, (hsettled _ hread (by simp)).2⟩

/-- **A sequence with every part of its form can still fail.** A rendition with one digit too many
is not read at all. -/
theorem parseAt_longRendition :
    ∃ ps, Screen.longRendition = Control.escape :: '[' :: (ps ++ ['m']) ∧ Run isParam ps ['m'] ∧
      isFinal 'm' = true ∧ startsPrivate ps = false ∧
      Command.ofLetter? 'm' = some .graphicRendition ∧
      ∀ e, parseAt Screen.longRendition 0 ≠ .ok e := by
  refine ⟨_, rfl, ⟨fun c hc => ?_, by rintro c ⟨⟩; rfl⟩, rfl, rfl, rfl, fun e he => ?_⟩
  · rw [(List.mem_replicate.1 hc).2]
    rfl
  · rw [parseAt, parse_eq_error_iff.2 Screen.illegible_drop_longRendition] at he
    cases he

end Escape

end Teletype
