import Mathlib
import Teletype.Proofs.Extent

/-!
# Parameters, written and read

A control sequence is written as its parameters in decimal, with semicolons between them and nothing
where one is left out, and the letter of its command. `Escape.write` is the text of it. Read back
from any place of any text, it takes all that was written and gives the command and each parameter in
its place, none greater than `Escape.maxParam` (`Escape.parseAt_write`). Parameters of which none is
there are written as none at all, so what is read back are the parameters at each place, not their
number.
-/

namespace Teletype

/-! ## Decimal numbers -/

theorem Text.isAsciiDigit_of_mem_ofNat {n : Nat} {c : Char} (h : c ∈ Text.ofNat n) :
    Text.isAsciiDigit c = true := by
  have hdigit : c.isDigit = true := Nat.isDigit_of_mem_toDigits (by decide) (by decide) h
  rw [Char.isDigit, Bool.and_eq_true, decide_eq_true_eq, decide_eq_true_eq] at hdigit
  exact decide_eq_true ⟨hdigit.1, hdigit.2⟩

/-- The digits of a number stand for it. -/
theorem Numeral.ofDigits_ofNat (n : Nat) :
    Numeral.ofDigits (Numeral.digitValues (Text.ofNat n)) = n := by
  have hvalues : ∀ t : Text, (∀ c ∈ t, Text.isAsciiDigit c = true) →
      Numeral.digitValues t = t.map fun c => c.toNat - 48 := by
    intro t ht
    induction t with
    | nil => rfl
    | cons c t ih =>
      have hc : Text.decimal? c = some (c.toNat - 48) := by
        rw [Text.decimal?, if_pos (ht c List.mem_cons_self)]
      rw [Numeral.digitValues, List.filterMap_cons_some hc, List.map_cons,
        ← ih fun d hd => ht d (List.mem_cons_of_mem c hd)]
      rfl
  rw [hvalues _ fun c hc => Text.isAsciiDigit_of_mem_ofNat hc, Numeral.ofDigits, List.foldl_map]
  exact Nat.ofDigitChars_ten_toDigits

namespace Escape

/-! ## How parameters are written -/

/-- A parameter as it is written: nothing where it is left out. -/
def writeParam (p : Option Nat) : Text :=
  p.elim [] Text.ofNat

/-- Parameters as they are written. -/
def writeParams (ps : List (Option Nat)) : Text :=
  [';'].intercalate (ps.map writeParam)

/-- A control sequence as it is written. -/
def write (k : Command) (ps : List (Option Nat)) : Text :=
  Control.escape :: '[' :: (writeParams ps ++ [k.letter])

theorem isAsciiDigit_iff {c : Char} :
    Text.isAsciiDigit c = true ↔ 0x30 ≤ c.toNat ∧ c.toNat ≤ 0x39 := by
  simp only [Text.isAsciiDigit, decide_eq_true_eq, Char.le_def, UInt32.le_iff_toNat_le]
  rfl

theorem isPrivateMarker_iff {c : Char} :
    isPrivateMarker c = true ↔ 0x3c ≤ c.toNat ∧ c.toNat ≤ 0x3f := by
  simp only [isPrivateMarker, decide_eq_true_eq, Char.le_def, UInt32.le_iff_toNat_le]
  rfl

theorem isAsciiDigit_of_mem_writeParam {p : Option Nat} {c : Char} (h : c ∈ writeParam p) :
    Text.isAsciiDigit c = true := by
  cases p with
  | none => exact absurd h List.not_mem_nil
  | some n => exact Text.isAsciiDigit_of_mem_ofNat h

/-- Parameters are written in digits and semicolons. -/
theorem of_mem_writeParams {ps : List (Option Nat)} {c : Char} (h : c ∈ writeParams ps) :
    Text.isAsciiDigit c = true ∨ c = ';' := by
  rcases Screen.mem_intercalate h with hsep | ⟨t, ht, hc⟩
  · exact .inr (List.mem_singleton.1 hsep)
  · obtain ⟨p, -, rfl⟩ := List.mem_map.1 ht
    exact .inl (isAsciiDigit_of_mem_writeParam hc)

theorem isParam_of_mem_writeParams {ps : List (Option Nat)} {c : Char} (h : c ∈ writeParams ps) :
    isParam c = true := by
  rcases of_mem_writeParams h with hdigit | rfl
  · rw [isAsciiDigit_iff] at hdigit
    rw [isParam_iff]
    omega
  · rfl

/-- None of what is written is a private marker. -/
theorem startsPrivate_writeParams (ps : List (Option Nat)) :
    startsPrivate (writeParams ps) = false := by
  cases hw : writeParams ps with
  | nil => rfl
  | cons c t =>
    rw [startsPrivate, Bool.eq_false_iff, ne_eq, isPrivateMarker_iff]
    have hc : c ∈ writeParams ps := by rw [hw]; exact List.mem_cons_self
    rcases of_mem_writeParams hc with hdigit | rfl
    · rw [isAsciiDigit_iff] at hdigit
      omega
    · decide

/-! ## How they are read back -/

/-- A parameter that is not too long is read as it was written, or as the greatest that there is. -/
theorem readParam_writeParam {p : Option Nat}
    (h : ∀ n ∈ p, (Text.ofNat n).length ≤ Numeral.maxDigits) :
    readParam (writeParam p) = .ok (p.map (min · maxParam)) := by
  cases p with
  | none => rfl
  | some n =>
    have hne : Text.ofNat n ≠ [] := Nat.toDigits_ne_nil
    have hdigits : ∀ c ∈ Text.ofNat n, Text.isAsciiDigit c = true := fun c =>
      Text.isAsciiDigit_of_mem_ofNat
    have hlength : ¬Numeral.maxDigits < (Numeral.digitValues (Text.ofNat n)).length := by
      rw [length_digitValues hdigits]
      exact Nat.not_lt.2 (h n rfl)
    rw [writeParam, Option.elim_some, readParam, if_pos ⟨hne, List.all_eq_true.2 hdigits⟩,
      Numeral.read, if_neg hlength, Numeral.ofDigits_ofNat]
    rfl

theorem mapM_readParam {ps : List (Option Nat)}
    (h : ∀ n, some n ∈ ps → (Text.ofNat n).length ≤ Numeral.maxDigits) :
    (ps.map writeParam).mapM readParam = .ok (ps.map (Option.map (min · maxParam))) := by
  induction ps with
  | nil => rfl
  | cons p ps ih =>
    have hp : readParam (writeParam p) = .ok (p.map (min · maxParam)) :=
      readParam_writeParam fun n hn => h n (by rw [Option.mem_def.1 hn]; exact List.mem_cons_self)
    rw [List.map_cons, List.mapM_cons, hp, ih fun n hn => h n (List.mem_cons_of_mem p hn)]
    rfl

/-- Where nothing is written there is no parameter. -/
theorem join_getElem?_of_writeParams_eq_nil {ps : List (Option Nat)} (h : writeParams ps = [])
    (index : Nat) : (ps[index]?).join = none := by
  match ps, h with
  | [], _ => rfl
  | [none], _ => cases index <;> rfl
  | [some n], h =>
    rw [writeParams, List.map_singleton, List.intercalate_singleton] at h
    exact absurd h Nat.toDigits_ne_nil
  | p :: q :: ps, h =>
    rw [writeParams, List.map_cons, List.map_cons, List.intercalate_cons_cons] at h
    simp at h

/-- **Parameters that are written are read back**, each in its place. -/
theorem readParams_writeParams {ps : List (Option Nat)}
    (h : ∀ n, some n ∈ ps → (Text.ofNat n).length ≤ Numeral.maxDigits) :
    ∃ values : List (Option Nat), readParams (writeParams ps) = .ok values ∧
      ∀ index : Nat, (values[index]?).join = (ps[index]?).join.map (min · maxParam) := by
  by_cases hnil : writeParams ps = []
  · refine ⟨[], by rw [hnil]; rfl, fun index => ?_⟩
    rw [join_getElem?_of_writeParams_eq_nil hnil]
    rfl
  · have hne : ps.map writeParam ≠ [] := by
      intro hps
      rw [writeParams, hps] at hnil
      exact hnil rfl
    have hfree : ∀ t ∈ ps.map writeParam, ';' ∉ t := by
      intro t ht hc
      obtain ⟨p, -, rfl⟩ := List.mem_map.1 ht
      exact absurd (isAsciiDigit_of_mem_writeParam hc) (by decide)
    have hsplit : (writeParams ps).splitOn ';' = ps.map writeParam :=
      List.splitOn_intercalate ';' hfree hne
    refine ⟨ps.map (Option.map (min · maxParam)), ?_, fun index => ?_⟩
    · rw [readParams, if_neg hnil, hsplit, mapM_readParam h]
    · rw [List.getElem?_map]
      cases ps[index]? with
      | none => rfl
      | some p => rfl

/-- **What is written is read back.** A control sequence with its parameters in decimal, none of more
digits than are read, can stand anywhere in a text. Read from its escape character, it takes just
what was written and gives the command; and the parameter at an index is the number that was written
there, as far as numbers go, and otherwise left out. -/
theorem parseAt_write (before after : Text) (k : Command) {ps : List (Option Nat)}
    (hps : ∀ n, some n ∈ ps → (Text.ofNat n).length ≤ Numeral.maxDigits) :
    ∃ e : Escape, parseAt (before ++ write k ps ++ after) before.length = .ok e ∧
      e.length = (write k ps).length ∧ e.command = some k ∧ e.final = some k.letter ∧
      e.isPrivate = false ∧
      (∀ index : Nat, (e.params[index]?).join = (ps[index]?).join.map (min · maxParam)) ∧
      (∀ (index n default : Nat), ps[index]? = some (some n) →
        e.param index default = min n 65535) ∧
      ∀ index default : Nat, ps[index]? = some none ∨ ps.length ≤ index →
        e.param index default = default := by
  obtain ⟨values, hvalues, hplaces⟩ := readParams_writeParams hps
  have hletter : isFinal k.letter = true := by cases k <;> rfl
  have hisParam : ∀ c ∈ writeParams ps, isParam c = true := fun _ => isParam_of_mem_writeParams
  have hreads : Reads _ after _ := .sequence hisParam (fun c hc => absurd hc List.not_mem_nil)
    hletter (startsPrivate_writeParams ps) hvalues
  have hdrop : (before ++ write k ps ++ after).drop (before.length + 1) =
      '[' :: (writeParams ps ++ ([] ++ [k.letter])) ++ after := by
    rw [List.append_assoc, List.drop_append, Nat.add_sub_cancel_left]
    simp [write]
  refine ⟨_, by rw [parseAt, hdrop]; exact parse_of_reads hreads, ?_,
    Command.ofLetter?_letter k, rfl, rfl, hplaces, fun index n default hn => ?_,
    fun index default hnone => ?_⟩
  · simp only [write, List.length_cons, List.length_append, List.length_nil]
    omega
  · rw [param, hplaces, hn]
    rfl
  · have hleft : (ps[index]?).join = none := by
      rcases hnone with hnone | hpast
      · rw [hnone]
        rfl
      · rw [List.getElem?_eq_none hpast]
        rfl
    rw [param, hplaces, hleft]
    rfl

/-- A position within a text, whose line is left out and whose column is far too great. -/
theorem parseAt_write_position :
    (∀ n, some n ∈ [none, some 70000] → (Text.ofNat n).length ≤ Numeral.maxDigits) ∧
      ∃ e : Escape, parseAt "ab\x1b[;70000Hc".toList 2 = .ok e ∧ e.length = 9 ∧
        e.command = some .cursorPosition ∧ e.param 0 1 = 1 ∧ e.param 1 1 = 65535 := by
  have hdigits : ∀ n, some n ∈ [none, some 70000] →
      (Text.ofNat n).length ≤ Numeral.maxDigits := by
    intro n hn
    obtain rfl : n = 70000 := by simpa using hn
    decide
  obtain ⟨e, hparse, hlength, hcommand, -, -, -, hnumber, hdefault⟩ :=
    parseAt_write "ab".toList ['c'] .cursorPosition hdigits
  have htext : "ab".toList ++ write .cursorPosition [none, some 70000] ++ ['c'] =
      "ab\x1b[;70000Hc".toList := by decide
  rw [htext] at hparse
  exact ⟨hdigits, e, hparse, hlength, hcommand, hdefault 0 1 (.inl rfl), hnumber 1 70000 1 rfl⟩

end Escape

end Teletype
