import Teletype.Token
import Mathlib.Data.List.TakeWhile

/-!
# The grammar of escape sequences

`Escape.parse` walks along a text; this file says what it accepts. `Reads s rest e` holds when `s`,
standing between an escape character and `rest`, is read as `e`. What follows a sequence belongs to
the judgement, since a sequence that has broken off would have taken more of it, and a string runs
on for as long as nothing ends it.

The relation and the parser are the same thing (`parse_of_reads`, `reads_of_parse`,
`parse_cases`), so a property of `parse` is proved form by form. `Token.scan_induction` carries the
forms over to whole texts.
-/

namespace Teletype

namespace Escape

/-! ## Classes of characters

Each class is an interval of code points, which `omega` compares. -/

theorem isParam_iff {c : Char} : isParam c = true ↔ 0x30 ≤ c.toNat ∧ c.toNat ≤ 0x3f := by
  simp only [isParam, decide_eq_true_eq, Char.le_def, UInt32.le_iff_toNat_le]
  rfl

theorem isIntermediate_iff {c : Char} :
    isIntermediate c = true ↔ 0x20 ≤ c.toNat ∧ c.toNat ≤ 0x2f := by
  simp only [isIntermediate, decide_eq_true_eq, Char.le_def, UInt32.le_iff_toNat_le]
  rfl

theorem isFinal_iff {c : Char} : isFinal c = true ↔ 0x40 ≤ c.toNat ∧ c.toNat ≤ 0x7e := by
  simp only [isFinal, decide_eq_true_eq, Char.le_def, UInt32.le_iff_toNat_le]
  rfl

theorem isShortFinal_iff {c : Char} :
    isShortFinal c = true ↔ 0x30 ≤ c.toNat ∧ c.toNat ≤ 0x7e := by
  simp only [isShortFinal, decide_eq_true_eq, Char.le_def, UInt32.le_iff_toNat_le]
  rfl

/-- The characters that introduce a string are final characters. -/
theorem isFinal_of_isStringIntroducer {c : Char} (h : isStringIntroducer c = true) :
    isFinal c = true := by
  simp only [isStringIntroducer, decide_eq_true_eq] at h
  rcases h with rfl | rfl | rfl | rfl | rfl <;> rfl

/-- So are those of the short escapes, but for the digits. -/
theorem isShortFinal_of_ofShort? {c : Char} {k : Command} (h : Command.ofShort? c = some k) :
    isShortFinal c = true := by
  unfold Command.ofShort? at h
  split at h <;> first | rfl | cases h

theorem isShortFinal_of_isFinal {c : Char} (h : isFinal c = true) : isShortFinal c = true := by
  rw [isFinal_iff] at h
  rw [isShortFinal_iff]
  omega

/-- No intermediate character is a final one. -/
theorem isIntermediate_eq_false_of_isShortFinal {c : Char} (h : isShortFinal c = true) :
    isIntermediate c = false := by
  rw [isShortFinal_iff] at h
  rw [Bool.eq_false_iff, ne_eq, isIntermediate_iff]
  omega

/-- No parameter character is a final one. -/
theorem isParam_eq_false_of_isFinal {c : Char} (h : isFinal c = true) : isParam c = false := by
  rw [isFinal_iff] at h
  rw [Bool.eq_false_iff, ne_eq, isParam_iff]
  omega

/-- No intermediate character is a parameter character. -/
theorem isParam_eq_false_of_isIntermediate {c : Char} (h : isIntermediate c = true) :
    isParam c = false := by
  rw [isIntermediate_iff] at h
  rw [Bool.eq_false_iff, ne_eq, isParam_iff]
  omega

/-- The characters from the space to `~`. -/
def isGraphic (c : Char) : Bool :=
  decide (' ' ≤ c ∧ c ≤ '~')

theorem isGraphic_iff {c : Char} : isGraphic c = true ↔ 0x20 ≤ c.toNat ∧ c.toNat ≤ 0x7e := by
  simp only [isGraphic, decide_eq_true_eq, Char.le_def, UInt32.le_iff_toNat_le]
  rfl

/-! ## Sequences that break off -/

/-- A beginning of a control sequence, or of an escape without parameters, that lacks its final
character. -/
def IsOpen (s : Text) : Prop :=
  (∃ ps is : Text, s = '[' :: (ps ++ is) ∧ (∀ c ∈ ps, isParam c = true) ∧
    ∀ c ∈ is, isIntermediate c = true) ∨ ∀ c ∈ s, isIntermediate c = true

/-- Whether a character would take an open beginning further: any from the space to `~`, but that no
parameters follow the intermediate characters of a control sequence. -/
def continues (s : Text) (c : Char) : Bool :=
  isGraphic c && !(s.head? == some '[' && s.any isIntermediate && isParam c)

theorem any_isIntermediate_append {ps is : Text} (hps : ∀ c ∈ ps, isParam c = true)
    (his : ∀ c ∈ is, isIntermediate c = true) :
    (ps ++ is).any isIntermediate = !is.isEmpty := by
  have hnone : ps.any isIntermediate = false := by
    rw [List.any_eq_false]
    intro c hc hi
    exact absurd (hps c hc) (by rw [isParam_eq_false_of_isIntermediate hi]; simp)
  cases is with
  | nil => rw [List.append_nil, hnone]; rfl
  | cons c r => simp [his c List.mem_cons_self]

theorem continues_sequence {ps is : Text} {c : Char} (hps : ∀ c ∈ ps, isParam c = true)
    (his : ∀ c ∈ is, isIntermediate c = true) :
    continues ('[' :: (ps ++ is)) c = false ↔
      isIntermediate c = false ∧ isFinal c = false ∧ (is = [] → isParam c = false) := by
  have hbracket : isIntermediate '[' = false := rfl
  have hcontinues : continues ('[' :: (ps ++ is)) c =
      (isGraphic c && !(!is.isEmpty && isParam c)) := by
    simp only [continues, List.head?_cons, List.any_cons, hbracket, Bool.false_or,
      any_isIntermediate_append hps his, beq_self_eq_true, Bool.true_and]
  have hg := @isGraphic_iff c
  have hi := @isIntermediate_iff c
  have hf := @isFinal_iff c
  have hp := @isParam_iff c
  rw [hcontinues]
  cases is with
  | nil => grind
  | cons x r => grind

theorem continues_plain {s : Text} {c : Char} (hs : ∀ c ∈ s, isIntermediate c = true) :
    continues s c = false ↔ isIntermediate c = false ∧ isShortFinal c = false := by
  have hhead : (s.head? == some '[') = false := by
    cases s with
    | nil => rfl
    | cons x r =>
      have hx := hs x List.mem_cons_self
      rw [List.head?_cons, beq_eq_false_iff_ne]
      rintro ⟨⟩
      cases hx
  have hcontinues : continues s c = isGraphic c := by
    simp only [continues, hhead, Bool.false_and, Bool.not_false, Bool.and_true]
  rw [hcontinues, Bool.eq_false_iff, Bool.eq_false_iff, Bool.eq_false_iff, ne_eq, ne_eq, ne_eq,
    isGraphic_iff, isIntermediate_iff, isShortFinal_iff]
  omega

/-! ## The forms -/

/-- A character that begins a form of its own when it follows the escape character. -/
def isSpecial (c : Char) : Bool :=
  c == '[' || isStringIntroducer c || (Command.ofShort? c).isSome

/-- **The forms of an escape sequence.** `s` follows the escape character, stands before `rest`, and
is read as `e`. -/
inductive Reads : (s rest : Text) → Escape → Prop
  /-- A control sequence with its final character. -/
  | sequence {ps is rest : Text} {c : Char} {values : List (Option Nat)} :
      (∀ c ∈ ps, isParam c = true) → (∀ c ∈ is, isIntermediate c = true) → isFinal c = true →
      startsPrivate ps = false → readParams ps = .ok values →
      Reads ('[' :: (ps ++ (is ++ [c]))) rest
        ⟨2 + ps.length + is.length + 1, if is.isEmpty then Command.ofLetter? c else none, values,
          some c, false⟩
  /-- One with a private marker, whose parameters are not read. -/
  | privateSequence {ps is rest : Text} {c : Char} :
      (∀ c ∈ ps, isParam c = true) → (∀ c ∈ is, isIntermediate c = true) → isFinal c = true →
      startsPrivate ps = true →
      Reads ('[' :: (ps ++ (is ++ [c]))) rest
        ⟨2 + ps.length + is.length + 1, none, [], some c, true⟩
  /-- A control string, ended or not. -/
  | string {i : Char} {p rest : Text} {final : Option Char} :
      isStringIntroducer i = true → stringSpan (p ++ rest) = (p.length, final) →
      Reads (i :: p) rest (inert (2 + p.length) final)
  /-- A short escape. -/
  | short {c : Char} {k : Command} {rest : Text} :
      Command.ofShort? c = some k → Reads [c] rest ⟨2, some k, [], some c, false⟩
  /-- An escape without parameters. -/
  | plain {is rest : Text} {c : Char} :
      (∀ c ∈ is, isIntermediate c = true) → isShortFinal c = true →
      (is = [] → isSpecial c = false) →
      Reads (is ++ [c]) rest (inert (2 + is.length) (some c))
  /-- A sequence that has broken off. -/
  | broken {s rest : Text} :
      IsOpen s → (∀ c ∈ rest.head?, continues s c = false) →
      Reads s rest (inert (1 + s.length) none)

namespace Reads

variable {s rest : Text} {e : Escape}

/-- The length of a sequence counts the escape character too. -/
theorem length_eq (h : Reads s rest e) : e.length = s.length + 1 := by
  cases h <;>
    simp only [inert, List.length_cons, List.length_append, List.length_nil] <;> omega

/-- A control sequence that has its final character is not open. -/
theorem not_isOpen_sequence {ps is : Text} {c : Char} (hc : isFinal c = true) :
    ¬ IsOpen ('[' :: (ps ++ (is ++ [c]))) := by
  have hmem : c ∈ ps ++ (is ++ [c]) := by simp
  have hshort := isShortFinal_of_isFinal hc
  rintro (⟨qs, js, heq, hqs, hjs⟩ | hs)
  · rw [List.cons.injEq] at heq
    rw [heq.2, List.mem_append] at hmem
    rcases hmem with hmem | hmem
    · exact absurd (hqs c hmem) (by rw [isParam_eq_false_of_isFinal hc]; simp)
    · exact absurd (hjs c hmem) (by rw [isIntermediate_eq_false_of_isShortFinal hshort]; simp)
  · exact absurd (hs '[' List.mem_cons_self) (by decide)

/-- Nor is a string, a short escape, or an escape that has its final character. -/
theorem not_isOpen_cons {c : Char} {r : Text} (hc : isShortFinal c = true) (hne : c ≠ '[') :
    ¬ IsOpen (c :: r) := by
  rintro (⟨qs, js, heq, -, -⟩ | hs)
  · exact hne (List.cons.injEq .. ▸ heq).1
  · exact absurd (hs c List.mem_cons_self)
      (by rw [isIntermediate_eq_false_of_isShortFinal hc]; simp)

/-- **What an open beginning is read as**: a sequence that breaks off there, and it must. -/
theorem of_isOpen (h : Reads s rest e) (hs : IsOpen s) :
    e = inert (1 + s.length) none ∧ ∀ c ∈ rest.head?, continues s c = false := by
  cases h with
  | sequence _ _ hc _ _ => exact absurd hs (not_isOpen_sequence hc)
  | privateSequence _ _ hc _ => exact absurd hs (not_isOpen_sequence hc)
  | string hi _ =>
    refine absurd hs (not_isOpen_cons (isShortFinal_of_isFinal (isFinal_of_isStringIntroducer hi)) ?_)
    rintro rfl
    cases hi
  | short hk =>
    refine absurd hs (not_isOpen_cons (isShortFinal_of_ofShort? hk) ?_)
    rintro rfl
    cases hk
  | @plain is rest c his hc hspecial =>
    cases is with
    | nil =>
      refine absurd hs (not_isOpen_cons hc ?_)
      rintro rfl
      exact absurd (hspecial rfl) (by decide)
    | cons x r =>
      have hx := his x List.mem_cons_self
      rcases hs with ⟨qs, js, heq, -, -⟩ | hs
      · rw [List.cons_append, List.cons.injEq] at heq
        rw [heq.1] at hx
        cases hx
      · exact absurd (hs c (by simp)) (by rw [isIntermediate_eq_false_of_isShortFinal hc]; simp)
  | broken _ hstop => exact ⟨rfl, hstop⟩

end Reads

/-! ## The parser accepts the forms -/

theorem takeWhile_append_of_head {p : Char → Bool} {xs rest : Text} (hxs : ∀ c ∈ xs, p c = true)
    (hrest : ∀ c ∈ rest.head?, p c = false) : (xs ++ rest).takeWhile p = xs := by
  rw [List.takeWhile_append_of_pos hxs]
  cases rest with
  | nil => rw [List.takeWhile_nil, List.append_nil]
  | cons c r => rw [List.takeWhile_cons_of_neg (by simp [hrest c rfl]), List.append_nil]

theorem dropWhile_append_of_head {p : Char → Bool} {xs rest : Text} (hxs : ∀ c ∈ xs, p c = true)
    (hrest : ∀ c ∈ rest.head?, p c = false) : (xs ++ rest).dropWhile p = rest := by
  rw [List.dropWhile_append_of_pos hxs]
  cases rest with
  | nil => rfl
  | cons c r => rw [List.dropWhile_cons_of_neg (by simp [hrest c rfl])]

/-- What is left behind a class does not begin with it. -/
theorem head?_dropWhile_eq_false {p : Char → Bool} {t : Text} :
    ∀ c ∈ (t.dropWhile p).head?, p c = false := by
  intro c hc
  have := List.head?_dropWhile_not p t
  rw [Option.mem_def.1 hc] at this
  exact this

section Sequence

variable {ps is rest : Text}

/-- What stands behind the parameters when what stands behind them and the intermediate characters
is known. -/
theorem head?_append_isParam (his : ∀ c ∈ is, isIntermediate c = true)
    (hrest : ∀ c ∈ rest.head?, is = [] → isParam c = false) :
    ∀ c ∈ (is ++ rest).head?, isParam c = false := by
  intro c hc
  cases is with
  | nil => exact hrest c hc rfl
  | cons x r =>
    obtain rfl : x = c := Option.some.inj hc
    exact isParam_eq_false_of_isIntermediate (his x List.mem_cons_self)

/-- **A control sequence cut into its parts.** -/
theorem parseSequence_append (hps : ∀ c ∈ ps, isParam c = true)
    (his : ∀ c ∈ is, isIntermediate c = true)
    (hstop : ∀ c ∈ rest.head?, isIntermediate c = false)
    (hparam : ∀ c ∈ rest.head?, is = [] → isParam c = false) :
    parseSequence (ps ++ (is ++ rest)) =
      match rest with
      | [] => .ok (inert (2 + ps.length + is.length) none)
      | c :: _ =>
        if !isFinal c then .ok (inert (2 + ps.length + is.length) none)
        else if startsPrivate ps then
          .ok ⟨2 + ps.length + is.length + 1, none, [], some c, true⟩
        else do
          let values ← readParams ps
          let command := if is.isEmpty then Command.ofLetter? c else none
          return ⟨2 + ps.length + is.length + 1, command, values, some c, false⟩ := by
  have hhead := head?_append_isParam his hparam
  simp only [parseSequence, takeWhile_append_of_head hps hhead, dropWhile_append_of_head hps hhead,
    takeWhile_append_of_head his hstop, dropWhile_append_of_head his hstop]
  cases rest <;> rfl

/-- Every text is cut so. -/
theorem exists_sequence_parts (t : Text) :
    ∃ ps is rest : Text, t = ps ++ (is ++ rest) ∧ (∀ c ∈ ps, isParam c = true) ∧
      (∀ c ∈ is, isIntermediate c = true) ∧ (∀ c ∈ rest.head?, isIntermediate c = false) ∧
      ∀ c ∈ rest.head?, is = [] → isParam c = false := by
  refine ⟨t.takeWhile isParam, (t.dropWhile isParam).takeWhile isIntermediate,
    (t.dropWhile isParam).dropWhile isIntermediate, ?_, fun c => List.mem_takeWhile_imp,
    fun c => List.mem_takeWhile_imp, head?_dropWhile_eq_false, fun c hc hnil => ?_⟩
  · rw [List.takeWhile_append_dropWhile, List.takeWhile_append_dropWhile]
  · have hsame : (t.dropWhile isParam).dropWhile isIntermediate = t.dropWhile isParam := by
      have := List.takeWhile_append_dropWhile (p := isIntermediate) (l := t.dropWhile isParam)
      rwa [hnil, List.nil_append] at this
    rw [hsame] at hc
    exact head?_dropWhile_eq_false c hc

end Sequence

/-- What an escape without parameters is read as, cut into its parts. -/
theorem parsePlain_append {is rest : Text} (his : ∀ c ∈ is, isIntermediate c = true)
    (hstop : ∀ c ∈ rest.head?, isIntermediate c = false) :
    parsePlain (is ++ rest) =
      match rest with
      | [] => inert (1 + is.length) none
      | c :: _ =>
        if isShortFinal c then inert (2 + is.length) (some c)
        else inert (1 + is.length) none := by
  simp only [parsePlain, takeWhile_append_of_head his hstop, dropWhile_append_of_head his hstop]
  cases rest <;> rfl

/-- A character without a form of its own begins an escape without parameters. -/
theorem parse_cons_of_not_isSpecial {c : Char} {r : Text} (hc : isSpecial c = false) :
    parse (c :: r) = .ok (parsePlain (c :: r)) := by
  simp only [isSpecial, Bool.or_eq_false_iff, beq_eq_false_iff_ne, ne_eq] at hc
  obtain ⟨⟨hbracket, hintro⟩, hshort⟩ := hc
  rw [parse, if_neg hbracket, if_neg (by rw [hintro]; exact Bool.false_ne_true)]
  cases hk : Command.ofShort? c with
  | none => rfl
  | some k => rw [hk] at hshort; cases hshort

theorem isSpecial_eq_false_of_isIntermediate {c : Char} (hc : isIntermediate c = true) :
    isSpecial c = false := by
  have hfinal : ∀ {x : Char}, isShortFinal x = true → c ≠ x := by
    rintro x hx rfl
    exact absurd hc (by rw [isIntermediate_eq_false_of_isShortFinal hx]; simp)
  by_contra h
  simp only [isSpecial, Bool.not_eq_false, Bool.or_eq_true, beq_iff_eq] at h
  rcases h with (h | h) | h
  · exact hfinal (by decide) h
  · exact hfinal (isShortFinal_of_isFinal (isFinal_of_isStringIntroducer h)) rfl
  · obtain ⟨k, hk⟩ := Option.isSome_iff_exists.1 h
    exact hfinal (isShortFinal_of_ofShort? hk) rfl

theorem isShortFinal_of_isSpecial {c : Char} (hc : isSpecial c = true) : isShortFinal c = true := by
  simp only [isSpecial, Bool.or_eq_true, beq_iff_eq] at hc
  rcases hc with (rfl | h) | h
  · decide
  · exact isShortFinal_of_isFinal (isFinal_of_isStringIntroducer h)
  · obtain ⟨k, hk⟩ := Option.isSome_iff_exists.1 h
    exact isShortFinal_of_ofShort? hk

/-- A final character is no character that a control sequence would pass over. -/
theorem head?_final {is rest : Text} {c : Char} (hc : isFinal c = true) :
    (∀ x ∈ (c :: rest).head?, isIntermediate x = false) ∧
      ∀ x ∈ (c :: rest).head?, is = [] → isParam x = false := by
  have hshort := isShortFinal_of_isFinal hc
  constructor
  · rintro x ⟨⟩
    exact isIntermediate_eq_false_of_isShortFinal hshort
  · rintro x ⟨⟩ -
    exact isParam_eq_false_of_isFinal hc

/-- **Every form is read as it says.** -/
theorem parse_of_reads {s rest : Text} {e : Escape} (h : Reads s rest e) :
    parse (s ++ rest) = .ok e := by
  cases h with
  | @sequence ps is _ c values hps his hc hpriv hvalues =>
    obtain ⟨hstop, hparam⟩ := @head?_final is rest c hc
    have hsplit : ps ++ (is ++ [c]) ++ rest = ps ++ (is ++ c :: rest) := by simp
    rw [List.cons_append, parse, if_pos rfl, hsplit, parseSequence_append hps his hstop hparam]
    simp only [hc, hpriv, hvalues]
    rfl
  | @privateSequence ps is _ c hps his hc hpriv =>
    obtain ⟨hstop, hparam⟩ := @head?_final is rest c hc
    have hsplit : ps ++ (is ++ [c]) ++ rest = ps ++ (is ++ c :: rest) := by simp
    rw [List.cons_append, parse, if_pos rfl, hsplit, parseSequence_append hps his hstop hparam]
    simp only [hc, hpriv]
    rfl
  | @string i p _ final hi hspan =>
    have hbracket : i ≠ '[' := by rintro rfl; cases hi
    rw [List.cons_append, parse, if_neg hbracket, if_pos hi, hspan]
  | @short c k _ hk =>
    have hbracket : c ≠ '[' := by rintro rfl; cases hk
    have hintro : ¬ isStringIntroducer c = true := by
      intro hi
      simp only [isStringIntroducer, decide_eq_true_eq] at hi
      rcases hi with rfl | rfl | rfl | rfl | rfl <;> cases hk
    rw [List.cons_append, parse, if_neg hbracket, if_neg hintro, hk]
  | @plain is _ c his hc hspecial =>
    have hstop : ∀ x ∈ (c :: rest).head?, isIntermediate x = false := by
      rintro x ⟨⟩
      exact isIntermediate_eq_false_of_isShortFinal hc
    have hplain : parse (is ++ c :: rest) = .ok (parsePlain (is ++ c :: rest)) := by
      cases is with
      | nil => exact parse_cons_of_not_isSpecial (hspecial rfl)
      | cons x r =>
        exact parse_cons_of_not_isSpecial
          (isSpecial_eq_false_of_isIntermediate (his x List.mem_cons_self))
    rw [List.append_assoc, List.cons_append, List.nil_append, hplain, parsePlain_append his hstop]
    simp only [hc, if_true]
  | broken hopen hstop =>
    rcases hopen with ⟨ps, is, rfl, hps, his⟩ | hs
    · have hnext := fun c hc => (continues_sequence hps his).1 (hstop c hc)
      rw [List.cons_append, parse, if_pos rfl, List.append_assoc,
        parseSequence_append hps his (fun c hc => (hnext c hc).1) fun c hc => (hnext c hc).2.2]
      have hlength : 1 + ('[' :: (ps ++ is)).length = 2 + ps.length + is.length := by
        rw [List.length_cons, List.length_append]; omega
      cases rest with
      | nil => rw [hlength]
      | cons c r => simp only [(hnext c rfl).2.1, Bool.not_false, if_true, hlength]
    · have hnext := fun c hc => (continues_plain hs).1 (hstop c hc)
      cases s with
      | nil =>
        -- nothing was read yet, so what follows may begin no form of its own either
        cases rest with
        | nil => rfl
        | cons c r =>
          have hspecial : isSpecial c = false := by
            by_contra h
            have := (hnext c rfl).2
            rw [isShortFinal_of_isSpecial (Bool.not_eq_false _ ▸ h)] at this
            cases this
          have hparse := @parsePlain_append [] (c :: r) hs fun x hx => (hnext x hx).1
          rw [List.nil_append] at hparse ⊢
          rw [parse_cons_of_not_isSpecial hspecial, hparse]
          simp only [(hnext c rfl).2, Bool.false_eq_true, if_false]
      | cons x r =>
        rw [List.cons_append, parse_cons_of_not_isSpecial
            (isSpecial_eq_false_of_isIntermediate (hs x List.mem_cons_self)), ← List.cons_append,
          parsePlain_append hs fun c hc => (hnext c hc).1]
        cases rest with
        | nil => rfl
        | cons c r => simp only [(hnext c rfl).2, Bool.false_eq_true, if_false]

/-- **And nothing else is read.** A sequence that is read takes a form, and what it fails on is the
parameters of a control sequence that is complete. -/
theorem parse_cases (t : Text) :
    (∃ (s rest : Text) (e : Escape), t = s ++ rest ∧ Reads s rest e) ∨
      ∃ (ps is rest : Text) (c : Char) (x : Overlong), t = '[' :: (ps ++ (is ++ c :: rest)) ∧
        (∀ c ∈ ps, isParam c = true) ∧ (∀ c ∈ is, isIntermediate c = true) ∧ isFinal c = true ∧
        startsPrivate ps = false ∧ readParams ps = .error x := by
  have hdone : ∀ {s rest : Text} {e : Escape}, t = s ++ rest → Reads s rest e →
      ∃ (s rest : Text) (e : Escape), t = s ++ rest ∧ Reads s rest e :=
    fun ht hr => ⟨_, _, _, ht, hr⟩
  cases t with
  | nil => exact Or.inl (hdone rfl (Reads.broken (s := []) (Or.inr (by simp)) (by simp)))
  | cons i t =>
    by_cases hbracket : i = '['
    · -- a control sequence: the character behind its parts decides whether it is complete
      subst hbracket
      obtain ⟨ps, is, rest, rfl, hps, his, hstop, hparam⟩ := exists_sequence_parts t
      have hopen : IsOpen ('[' :: (ps ++ is)) := Or.inl ⟨ps, is, rfl, hps, his⟩
      have hbroken : (∀ c ∈ rest.head?, isFinal c = false) →
          Reads ('[' :: (ps ++ is)) rest (inert (1 + ('[' :: (ps ++ is)).length) none) :=
        fun h => Reads.broken hopen fun c hc =>
          (continues_sequence hps his).2 ⟨hstop c hc, h c hc, hparam c hc⟩
      cases rest with
      | nil => exact Or.inl (hdone (by simp) (hbroken (by simp)))
      | cons c r =>
        cases hc : isFinal c with
        | false =>
          refine Or.inl (hdone (by simp) (hbroken ?_))
          rintro x ⟨⟩
          exact hc
        | true =>
          have hsplit : '[' :: (ps ++ (is ++ c :: r)) = '[' :: (ps ++ (is ++ [c])) ++ r := by simp
          cases hpriv : startsPrivate ps with
          | true => exact Or.inl (hdone hsplit (Reads.privateSequence hps his hc hpriv))
          | false =>
            cases hvalues : readParams ps with
            | ok values => exact Or.inl (hdone hsplit (Reads.sequence hps his hc hpriv hvalues))
            | error x => exact Or.inr ⟨ps, is, r, c, x, rfl, hps, his, hc, hpriv, hvalues⟩
    · left
      by_cases hintro : isStringIntroducer i = true
      · have hle := stringSpan_le t
        have hsplit : i :: t = i :: t.take (stringSpan t).1 ++ t.drop (stringSpan t).1 := by simp
        refine hdone hsplit (@Reads.string i _ _ (stringSpan t).2 hintro ?_)
        rw [List.take_append_drop, List.length_take, Nat.min_eq_left hle]
      · cases hk : Command.ofShort? i with
        | some k => exact hdone (s := [i]) rfl (Reads.short hk)
        | none =>
          have hspecial : isSpecial i = false := by
            simp only [isSpecial, hk, Bool.or_eq_false_iff, beq_eq_false_iff_ne]
            exact ⟨⟨hbracket, Bool.eq_false_iff.2 hintro⟩, rfl⟩
          have hplain := List.takeWhile_append_dropWhile (p := isIntermediate) (l := i :: t)
          have his : ∀ c ∈ (i :: t).takeWhile isIntermediate, isIntermediate c = true :=
            fun c => List.mem_takeWhile_imp
          have hstop := @head?_dropWhile_eq_false isIntermediate (i :: t)
          generalize (i :: t).takeWhile isIntermediate = is at hplain his
          generalize (i :: t).dropWhile isIntermediate = rest at hplain hstop
          cases rest with
          | nil => exact hdone hplain.symm (Reads.broken (Or.inr his) (by simp))
          | cons c r =>
            cases hc : isShortFinal c with
            | false =>
              refine hdone hplain.symm (Reads.broken (Or.inr his) ?_)
              rintro x ⟨⟩
              exact (continues_plain his).2 ⟨hstop c rfl, hc⟩
            | true =>
              have hsplit : i :: t = (is ++ [c]) ++ r := by simpa using hplain.symm
              refine hdone hsplit (Reads.plain his hc ?_)
              rintro rfl
              rw [List.nil_append, List.cons.injEq] at hplain
              rw [hplain.1]
              exact hspecial

/-- A complete control sequence whose parameters cannot be read fails with them, whatever
follows it. -/
theorem parse_eq_error {ps is rest : Text} {c : Char} {x : Overlong}
    (hps : ∀ c ∈ ps, isParam c = true) (his : ∀ c ∈ is, isIntermediate c = true)
    (hc : isFinal c = true) (hpriv : startsPrivate ps = false)
    (hvalues : readParams ps = .error x) :
    parse ('[' :: (ps ++ (is ++ c :: rest))) = .error x := by
  obtain ⟨hstop, hparam⟩ := @head?_final is rest c hc
  rw [parse, if_pos rfl, parseSequence_append hps his hstop hparam]
  simp only [hc, hpriv, hvalues]
  rfl

/-- Whether what follows an escape character is a control string. -/
def isString : Text → Bool
  | [] => false
  | i :: _ => isStringIntroducer i

theorem isGraphic_of_isParam {c : Char} (h : isParam c = true) : isGraphic c = true := by
  rw [isParam_iff] at h
  rw [isGraphic_iff]
  omega

theorem isGraphic_of_isIntermediate {c : Char} (h : isIntermediate c = true) :
    isGraphic c = true := by
  rw [isIntermediate_iff] at h
  rw [isGraphic_iff]
  omega

theorem isGraphic_of_isShortFinal {c : Char} (h : isShortFinal c = true) : isGraphic c = true := by
  rw [isShortFinal_iff] at h
  rw [isGraphic_iff]
  omega

theorem isString_eq_false_of_isSpecial {c : Char} {r : Text} (h : isSpecial c = false) :
    isString (c :: r) = false := by
  simp only [isSpecial, Bool.or_eq_false_iff] at h
  exact h.1.2

theorem IsOpen.isString_eq_false {s : Text} (h : IsOpen s) : isString s = false := by
  rcases h with ⟨ps, is, rfl, -, -⟩ | hs
  · rfl
  · cases s with
    | nil => rfl
    | cons c r =>
      exact isString_eq_false_of_isSpecial
        (isSpecial_eq_false_of_isIntermediate (hs c List.mem_cons_self))

theorem IsOpen.isGraphic {s : Text} (h : IsOpen s) : ∀ c ∈ s, isGraphic c = true := by
  rcases h with ⟨ps, is, rfl, hps, his⟩ | hs
  · intro c hc
    simp only [List.mem_cons, List.mem_append] at hc
    rcases hc with rfl | hc | hc
    · rfl
    · exact isGraphic_of_isParam (hps c hc)
    · exact isGraphic_of_isIntermediate (his c hc)
  · exact fun c hc => isGraphic_of_isIntermediate (hs c hc)

theorem isGraphic_sequence {ps is : Text} {c : Char} (hps : ∀ c ∈ ps, isParam c = true)
    (his : ∀ c ∈ is, isIntermediate c = true) (hc : isFinal c = true) :
    ∀ x ∈ '[' :: (ps ++ (is ++ [c])), isGraphic x = true := by
  intro x hx
  simp only [List.mem_cons, List.mem_append, List.not_mem_nil, or_false] at hx
  rcases hx with rfl | hx | hx | rfl
  · rfl
  · exact isGraphic_of_isParam (hps x hx)
  · exact isGraphic_of_isIntermediate (his x hx)
  · exact isGraphic_of_isShortFinal (isShortFinal_of_isFinal hc)

/-- **Three kinds of sequences.** A control string may hold anything. Any other sequence is graphic
text, and it is either complete, whatever follows it, or has broken off. -/
theorem Reads.kinds {s rest : Text} {e : Escape} (h : Reads s rest e) :
    (∃ (i : Char) (p : Text) (final : Option Char), s = i :: p ∧ isStringIntroducer i = true ∧
        stringSpan (p ++ rest) = (p.length, final) ∧ e = inert (2 + p.length) final) ∨
      isString s = false ∧ (∀ c ∈ s, isGraphic c = true) ∧ e.final ≠ none ∧
        (∀ rest', Reads s rest' e) ∨
      isString s = false ∧ IsOpen s ∧ e = inert (1 + s.length) none := by
  cases h with
  | sequence hps his hc hpriv hvalues =>
    exact Or.inr (Or.inl ⟨rfl, isGraphic_sequence hps his hc, Option.some_ne_none _,
      fun _ => Reads.sequence hps his hc hpriv hvalues⟩)
  | privateSequence hps his hc hpriv =>
    exact Or.inr (Or.inl ⟨rfl, isGraphic_sequence hps his hc, Option.some_ne_none _,
      fun _ => Reads.privateSequence hps his hc hpriv⟩)
  | string hi hspan => exact Or.inl ⟨_, _, _, rfl, hi, hspan, rfl⟩
  | @short c k _ hk =>
    refine Or.inr (Or.inl ⟨?_, ?_, Option.some_ne_none _, fun _ => Reads.short hk⟩)
    · unfold Command.ofShort? at hk
      split at hk <;> first | rfl | cases hk
    · intro x hx
      rw [List.mem_singleton.1 hx]
      exact isGraphic_of_isShortFinal (isShortFinal_of_ofShort? hk)
  | @plain is _ c his hc hspecial =>
    refine Or.inr (Or.inl ⟨?_, ?_, Option.some_ne_none _, fun _ => Reads.plain his hc hspecial⟩)
    · cases is with
      | nil => exact isString_eq_false_of_isSpecial (hspecial rfl)
      | cons x r =>
        exact isString_eq_false_of_isSpecial
          (isSpecial_eq_false_of_isIntermediate (his x List.mem_cons_self))
    · intro x hx
      simp only [List.mem_append, List.mem_singleton] at hx
      rcases hx with hx | rfl
      · exact isGraphic_of_isIntermediate (his x hx)
      · exact isGraphic_of_isShortFinal hc
  | broken hopen _ => exact Or.inr (Or.inr ⟨hopen.isString_eq_false, hopen, rfl⟩)

/-- A sequence that is no control string is graphic text. -/
theorem Reads.isGraphic {s rest : Text} {e : Escape} (h : Reads s rest e)
    (hs : isString s = false) : ∀ c ∈ s, isGraphic c = true := by
  rcases h.kinds with ⟨i, p, final, rfl, hi, -, -⟩ | ⟨-, hgraphic, -, -⟩ | ⟨-, hopen, -⟩
  · exact absurd hi (by rw [isString] at hs; rw [hs]; exact Bool.false_ne_true)
  · exact hgraphic
  · exact hopen.isGraphic

/-- What is read, and where it ends. -/
theorem reads_of_parse {t : Text} {e : Escape} (h : parse t = .ok e) :
    Reads (t.take (e.length - 1)) (t.drop (e.length - 1)) e := by
  rcases parse_cases t with ⟨s, rest, e', rfl, hr⟩ | ⟨ps, is, rest, c, x, rfl, hps, his, hc, hp, hv⟩
  · rw [parse_of_reads hr] at h
    cases h
    rw [hr.length_eq, Nat.add_sub_cancel, List.take_left, List.drop_left]
    exact hr
  · rw [parse_eq_error hps his hc hp hv] at h
    cases h

end Escape

/-! ## Texts token by token -/

namespace Token

theorem scan_nil : scan [] = [] := by
  rw [scan]

theorem scan_cons {c : Char} (hc : c ≠ Control.escape) (r : Text) :
    scan (c :: r) = .char c :: scan r := by
  rw [scan, if_neg hc]

/-- A sequence is cut off where the grammar says that it ends. -/
theorem scan_of_reads {s rest : Text} {e : Escape} (h : Escape.Reads s rest e) :
    scan (Control.escape :: (s ++ rest)) = .sequence (Control.escape :: s) e :: scan rest := by
  rw [scan, if_pos rfl, Escape.parse_of_reads h]
  simp only [h.length_eq, Nat.add_sub_cancel, List.take_left, List.drop_left]

theorem scan_of_error {r : Text} {x : Overlong} (h : Escape.parse r = .error x) :
    scan (Control.escape :: r) = [.unreadable x] := by
  rw [scan, if_pos rfl, h]

/-- **Induction along the tokens of a text.** -/
theorem scan_induction {P : Text → Prop} (nil : P [])
    (char : ∀ c r, c ≠ Control.escape → P r → P (c :: r))
    (sequence : ∀ s rest e, Escape.Reads s rest e → P rest → P (Control.escape :: (s ++ rest)))
    (unreadable : ∀ r x, Escape.parse r = .error x → P (Control.escape :: r)) :
    ∀ t, P t := by
  intro t
  -- a sequence takes any number of characters, so the induction is on the length
  induction hn : t.length using Nat.strong_induction_on generalizing t with
  | _ n ih =>
    cases t with
    | nil => exact nil
    | cons c r =>
      rw [List.length_cons] at hn
      by_cases hc : c = Control.escape
      · subst hc
        cases hr : Escape.parse r with
        | error x => exact unreadable r x hr
        | ok e =>
          have hreads := Escape.reads_of_parse hr
          have hlength := hreads.length_eq
          have hrest := ih (r.drop (e.length - 1)).length (by rw [List.length_drop]; omega) _ rfl
          rw [← List.take_append_drop (e.length - 1) r]
          exact sequence _ _ e hreads hrest
      · exact char c r hc (ih r.length (by omega) r rfl)

end Token

/-! ## Stripping token by token -/

theorem stripEscapes_nil : stripEscapes [] = .ok [] := by
  rw [stripEscapes, Token.scan_nil]
  rfl

theorem stripEscapes_cons {c : Char} (hc : c ≠ Control.escape) (t : Text) :
    stripEscapes (c :: t) = (stripEscapes t).map (c :: ·) := by
  rw [stripEscapes, Token.scan_cons hc]
  rfl

theorem stripEscapes_of_reads {s rest : Text} {e : Escape} (h : Escape.Reads s rest e) :
    stripEscapes (Control.escape :: (s ++ rest)) = stripEscapes rest := by
  rw [stripEscapes, Token.scan_of_reads h]
  rfl

theorem stripEscapes_of_error {rest : Text} {x : Overlong} (h : Escape.parse rest = .error x) :
    stripEscapes (Control.escape :: rest) = .error x := by
  rw [stripEscapes, Token.scan_of_error h]
  rfl

end Teletype
