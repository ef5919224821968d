import Teletype.Proofs.Legible

/-!
# The passes over a text

Rendering and stripping go over a text in passes. A pass stands at a place of the text and takes a
character, or reads a sequence and takes all of it; the next one stands where it ended
(`Token.Advances`). What can go wrong with such a loop is that a pass takes nothing, and the loop
never ends, or that it takes more than is there, and text is lost.

Neither happens. A sequence that is read takes a character at least, and no more than are left
(`Escape.length_parseAt`), so at every place before the end of the text one pass is possible, or
none because a sequence cannot be read there. A row of passes takes a part of the text, piece by
piece (`Token.Passes.source_eq`), and no loop makes more passes than there are characters
(`Token.passes_cover`).
-/

namespace Teletype

/-- A text from a place on begins with the character at that place. -/
theorem Text.drop_eq_cons {t : Text} {i : Nat} {c : Char} (h : t[i]? = some c) :
    t.drop i = c :: t.drop (i + 1) := by
  obtain ⟨hi, hc⟩ := List.getElem?_eq_some_iff.1 h
  rw [List.drop_eq_getElem_cons hi, hc]

/-- **A sequence takes something**, and no more than there is from its place on. -/
theorem Escape.length_parseAt {t : Text} {i : Nat} {e : Escape} (hi : i < t.length)
    (h : parseAt t i = .ok e) : 1 ≤ e.length ∧ i + e.length ≤ t.length := by
  obtain ⟨hsome, hle⟩ := length_parse h
  rw [List.length_drop] at hle
  omega

namespace Token

/-! ## One pass -/

/-- **A pass over a text**, from its place to the place of the next one, with what it takes. -/
inductive Advances (t : Text) : Nat → Token → Nat → Prop
  /-- A character is taken that begins no sequence. -/
  | char {i : Nat} {c : Char} :
    t[i]? = some c → c ≠ Control.escape → Advances t i (.char c) (i + 1)
  /-- A sequence is read, and all of it is taken. -/
  | sequence {i : Nat} {e : Escape} :
    t[i]? = some Control.escape → Escape.parseAt t i = .ok e →
    Advances t i (.sequence (t.extract i (i + e.length)) e) (i + e.length)

/-- **A place with no way on**: a sequence begins there that cannot be read. -/
structure IsStuck (t : Text) (i : Nat) (x : Overlong) : Prop where
  isEscape : t[i]? = some Control.escape
  unread : Escape.parseAt t i = .error x

namespace Advances

variable {t : Text} {i j k : Nat} {token token' : Token}

/-- A pass stands at a character. -/
theorem lt_length (h : Advances t i token j) : i < t.length := by
  cases h with
  | char hc _ => exact (List.getElem?_eq_some_iff.1 hc).1
  | sequence he _ => exact (List.getElem?_eq_some_iff.1 he).1

/-- **A pass gets on**, and stays within the text. -/
theorem bounds (h : Advances t i token j) : i < j ∧ j ≤ t.length := by
  have hi := h.lt_length
  cases h with
  | char _ _ => omega
  | sequence _ hparse =>
    have hlength := Escape.length_parseAt hi hparse
    omega

/-- **A pass takes what stands between its place and the next one.** -/
theorem source_eq (h : Advances t i token j) : token.source = t.extract i j := by
  cases h with
  | char hc _ =>
    have hone : i + 1 - i = 0 + 1 := by omega
    rw [source, List.extract_eq_take_drop, Text.drop_eq_cons hc, hone, List.take_succ_cons,
      List.take_zero]
  | sequence _ _ => rfl

/-- No two passes are possible at one place. -/
theorem unique (h : Advances t i token j) (h' : Advances t i token' k) :
    token = token' ∧ j = k := by
  cases h with
  | char hc hne =>
    cases h' with
    | char hc' _ =>
      obtain rfl := Option.some.inj (hc.symm.trans hc')
      exact ⟨rfl, rfl⟩
    | sequence he _ => exact absurd (Option.some.inj (hc.symm.trans he)) hne
  | sequence he hparse =>
    cases h' with
    | char hc hne => exact absurd (Option.some.inj (hc.symm.trans he)) hne
    | sequence _ hparse' =>
      obtain rfl := Except.ok.inj (hparse.symm.trans hparse')
      exact ⟨rfl, rfl⟩

/-- Scanning makes the pass, and scans on behind it. -/
theorem scan_eq (h : Advances t i token j) : scan (t.drop i) = token :: scan (t.drop j) := by
  have hi := h.lt_length
  cases h with
  | char hc hne => rw [Text.drop_eq_cons hc, scan_cons hne]
  | @sequence e he hparse =>
    obtain ⟨hsome, -⟩ := Escape.length_parseAt hi hparse
    obtain ⟨n, hn⟩ : ∃ n, e.length = n + 1 := ⟨e.length - 1, by omega⟩
    have hparse' : Escape.parse (t.drop (i + 1)) = .ok e := hparse
    have htaken : t.extract i (i + (n + 1)) = Control.escape :: (t.drop (i + 1)).take n := by
      have hcount : i + (n + 1) - i = n + 1 := by omega
      rw [List.extract_eq_take_drop, hcount, Text.drop_eq_cons he, List.take_succ_cons]
    have hrest : (t.drop (i + 1)).drop n = t.drop (i + (n + 1)) := by
      rw [List.drop_drop]
      congr 1
      omega
    have hless : e.length - 1 = n := by omega
    rw [Text.drop_eq_cons he, scan, if_pos rfl, hparse']
    simp only [hn, Nat.add_sub_cancel, htaken, hrest]

end Advances

theorem IsStuck.scan_eq {t : Text} {i : Nat} {x : Overlong} (h : IsStuck t i x) :
    scan (t.drop i) = [.unreadable x] := by
  rw [Text.drop_eq_cons h.isEscape]
  exact scan_of_error h.unread

/-- **At every place before the end there is a way on**, unless a sequence cannot be read there. -/
theorem exists_advances {t : Text} {i : Nat} (hi : i < t.length) :
    (∃ token j, Advances t i token j) ∨ ∃ x, IsStuck t i x := by
  have hc : t[i]? = some t[i] := List.getElem?_eq_getElem hi
  by_cases he : t[i] = Control.escape
  · rw [he] at hc
    cases hparse : Escape.parseAt t i with
    | ok e => exact .inl ⟨_, _, .sequence hc hparse⟩
    | error x => exact .inr ⟨x, hc, hparse⟩
  · exact .inl ⟨_, _, .char hc he⟩

/-! ## Rows of passes -/

/-- **Passes one after the other**, each from where the last one ended. -/
inductive Passes (t : Text) : Nat → List Token → Nat → Prop
  | nil {i : Nat} : Passes t i [] i
  | cons {i j k : Nat} {token : Token} {tokens : List Token} :
    Advances t i token j → Passes t j tokens k → Passes t i (token :: tokens) k

namespace Passes

variable {t : Text} {i j : Nat} {tokens : List Token}

/-- **No more passes are made than characters are taken.** -/
theorem length_add_le (h : Passes t i tokens j) : tokens.length + i ≤ j := by
  induction h with
  | nil => exact Nat.le_of_eq (Nat.zero_add _)
  | cons hadvances _ ih =>
    have hless := hadvances.bounds.1
    rw [List.length_cons]
    omega

/-- Passes stay within the text. -/
theorem le_length (h : Passes t i tokens j) (hi : i ≤ t.length) : j ≤ t.length := by
  induction h with
  | nil => exact hi
  | cons hadvances _ ih => exact ih hadvances.bounds.2

/-- **What passes take, in order, is the text from the first place to the last one.** -/
theorem source_eq (h : Passes t i tokens j) : tokens.flatMap source = t.extract i j := by
  induction h with
  | nil => rw [List.extract_eq_take_drop, Nat.sub_self, List.take_zero, List.flatMap_nil]
  | @cons i j k token tokens hadvances hpasses ih =>
    have hless := hadvances.bounds.1
    have hle := hpasses.length_add_le
    have hwhole : k - i = (j - i) + (k - j) := by omega
    have hplace : i + (j - i) = j := by omega
    rw [List.flatMap_cons, hadvances.source_eq, ih]
    simp only [List.extract_eq_take_drop]
    rw [hwhole, List.take_add, List.drop_drop, hplace]

/-- A row of passes is cut at a place that it comes to. -/
theorem exists_of_append {rest : List Token} (h : Passes t i (tokens ++ rest) j) :
    ∃ k, Passes t i tokens k ∧ Passes t k rest j := by
  induction tokens generalizing i with
  | nil => exact ⟨i, .nil, h⟩
  | cons token tokens ih =>
    rw [List.cons_append] at h
    obtain _ | ⟨hadvances, hpasses⟩ := h
    obtain ⟨k, hfirst, hrest⟩ := ih hpasses
    exact ⟨k, .cons hadvances hfirst, hrest⟩

/-- What a pass takes was read. -/
theorem unreadable_not_mem (h : Passes t i tokens j) (x : Overlong) : .unreadable x ∉ tokens := by
  induction h with
  | nil => exact List.not_mem_nil
  | cons hadvances _ ih =>
    rw [List.mem_cons, not_or]
    refine ⟨?_, ih⟩
    rintro rfl
    cases hadvances

end Passes

/-- **Scanning is a row of passes** up to the end of the text, or up to a place with no way on. -/
theorem passes_scan (t : Text) {i : Nat} (hi : i ≤ t.length) :
    Passes t i (scan (t.drop i)) t.length ∨
      ∃ tokens j x, scan (t.drop i) = tokens ++ [.unreadable x] ∧ Passes t i tokens j ∧
        IsStuck t j x := by
  -- a pass can take any number of characters, so the induction is on how many are left
  induction hn : t.length - i using Nat.strong_induction_on generalizing i with
  | _ n ih =>
    rcases Nat.eq_or_lt_of_le hi with rfl | hlt
    · rw [List.drop_length, scan_nil]
      exact .inl .nil
    rcases exists_advances hlt with ⟨token, j, hadvances⟩ | ⟨x, hstuck⟩
    · obtain ⟨hless, hle⟩ := hadvances.bounds
      have hleft : t.length - j < n := by omega
      rcases ih _ hleft hle rfl with hpasses | ⟨tokens, k, x, hscan, hpasses, hstuck⟩
      · rw [hadvances.scan_eq]
        exact .inl (.cons hadvances hpasses)
      · refine .inr ⟨token :: tokens, k, x, ?_, .cons hadvances hpasses, hstuck⟩
        rw [hadvances.scan_eq, hscan]
        rfl
    · exact .inr ⟨[], i, x, hstuck.scan_eq, .nil, hstuck⟩

/-! ## The two loops -/

/-- The character of a token that is one. -/
def char? : Token → Option Char
  | char c => some c
  | _ => none

/-- Stripping keeps the characters of what is read, and fails where nothing more can be. -/
theorem plain_append {tokens : List Token} (h : ∀ x, .unreadable x ∉ tokens) (rest : List Token) :
    plain (tokens ++ rest) = (plain rest).map (tokens.filterMap char? ++ ·) := by
  induction tokens with
  | nil =>
    rw [List.nil_append]
    cases plain rest <;> rfl
  | cons token tokens ih =>
    have hrest := ih fun x hx => h x (List.mem_cons_of_mem token hx)
    cases token with
    | char c =>
      have hkept : char? (.char c) = some c := rfl
      rw [List.cons_append, plain, hrest, List.filterMap_cons_some hkept]
      cases plain rest <;> rfl
    | sequence source e =>
      have hdropped : char? (.sequence source e) = none := rfl
      rw [List.cons_append, plain, hrest, List.filterMap_cons_none hdropped]
    | unreadable x => exact absurd List.mem_cons_self (h x)

/-- **The loops over a text part it.** A sequence that is read at any place takes a character at
least, and no more than are left. Rendering and stripping make the same row of passes, no more of
them than there are characters, and what these take is, in order, all of the text: a replay obeys
each piece in turn, and stripping keeps those that are characters. Only a place with no way on ends
the row before the text does, and then what was taken is the text up to that place, and both of
them fail there. -/
theorem passes_cover (t : Text) :
    (∀ start < t.length, ∀ e, Escape.parseAt t start = .ok e →
        1 ≤ e.length ∧ e.length ≤ t.length - start) ∧
      ∃ tokens stop, Passes t 0 tokens stop ∧ tokens.length ≤ t.length ∧ stop ≤ t.length ∧
        tokens.flatMap source = t.take stop ∧
        (stop = t.length ∧
            (∀ stops l, Line.replay stops l t = tokens.foldlM (Line.obey stops) l) ∧
            stripEscapes t = .ok (tokens.filterMap char?) ∨
          ∃ x, IsStuck t stop x ∧
            (∀ stops l, Line.replay stops l t =
              tokens.foldlM (Line.obey stops) l >>= fun _ => .error (.overlong x)) ∧
            stripEscapes t = .error x) := by
  refine ⟨fun start hstart e he => ?_, ?_⟩
  · have hlength := Escape.length_parseAt hstart he
    omega
  have hrow : ∀ {tokens : List Token} {stop : Nat}, Passes t 0 tokens stop →
      tokens.length ≤ t.length ∧ stop ≤ t.length ∧ tokens.flatMap source = t.take stop := by
    intro tokens stop hpasses
    have hlength := hpasses.length_add_le
    have hstop := hpasses.le_length (Nat.zero_le _)
    exact ⟨by omega, hstop, hpasses.source_eq⟩
  rcases passes_scan t (Nat.zero_le _) with hpasses | ⟨tokens, stop, x, hscan, hpasses, hstuck⟩
  · rw [List.drop_zero] at hpasses
    obtain ⟨hlength, hstop, hsource⟩ := hrow hpasses
    refine ⟨scan t, t.length, hpasses, hlength, hstop, hsource, .inl ⟨rfl, fun _ _ => rfl, ?_⟩⟩
    have hplain := plain_append hpasses.unreadable_not_mem []
    rw [List.append_nil] at hplain
    rw [stripEscapes, hplain]
    exact congrArg Except.ok (List.append_nil _)
  · rw [List.drop_zero] at hscan
    obtain ⟨hlength, hstop, hsource⟩ := hrow hpasses
    refine ⟨tokens, stop, hpasses, hlength, hstop, hsource, .inr ⟨x, hstuck, fun stops l => ?_, ?_⟩⟩
    · rw [Line.replay, hscan, List.foldlM_append]
      rfl
    · rw [stripEscapes, hscan, plain_append hpasses.unreadable_not_mem]
      rfl

end Token

end Teletype
