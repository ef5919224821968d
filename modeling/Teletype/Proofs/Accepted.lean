import Teletype.Settings
import Teletype.Proofs.NumberLine

/-!
# Settings that are accepted

Settings are accepted exactly if each has a value and three checks let theirs pass
(`Settings.ofEntries_eq_ok_iff`). The checks compare, and refuse what is out of range. What is not a
number is in no range, but it compares with nothing either, and so it passes: the file ends with
settings whose longest wait is no number.

In all other cases the accepted values are in their range, as numbers of any kind
(`Settings.accepted_inRange_iff`).
-/

namespace Teletype

/-- A row of two computations has a result if the first has one and the second has one of it. -/
theorem bind_eq_ok_iff {α β ε : Type} {r : Except ε α} {f : α → Except ε β} {b : β} :
    (r >>= f) = .ok b ↔ ∃ a, r = .ok a ∧ f a = .ok b := by
  cases r with
  | ok a => exact ⟨fun h => ⟨a, rfl, h⟩, by rintro ⟨_, ⟨⟩, h⟩; exact h⟩
  | error e => exact ⟨by rintro ⟨⟩, by rintro ⟨_, ⟨⟩, -⟩⟩

/-- What can be told of a result is told of one. -/
theorem exists_of_map_toOption {α β ε : Type} {r : Except ε α} {f : α → β} {b : β}
    (h : r.toOption.map f = some b) : ∃ a, r = .ok a ∧ f a = b := by
  cases r with
  | ok a => exact ⟨a, rfl, Option.some.inj h⟩
  | error e => cases h

namespace Settings

/-! ## The checks -/

/-- **Settings that the checks let pass.** -/
structure Passes (c : Settings) : Prop where
  tabSize : c.tabSize.lt (.int 1) = false
  idleTimeout : c.idleTimeout.le (.int 0) = false
  maxWait : c.maxWait.le (.int 0) = false

/-- A check lets a number pass that it does not refuse, and nothing else. -/
theorem checked_eq_ok_iff {relation : String} {refused : Number → Bool}
    {fault : Number → SettingsFault} {v : Value} {n : Number} :
    checked relation refused fault v = .ok n ↔ v = .number n ∧ refused n = false := by
  cases v with
  | number m =>
    rw [checked]
    cases hm : refused m with
    | true =>
      refine iff_of_false (by rintro ⟨⟩) ?_
      rintro ⟨⟨⟩, hn⟩
      cases hm.symm.trans hn
    | false =>
      constructor
      · rintro ⟨⟩
        exact ⟨rfl, hm⟩
      · rintro ⟨⟨⟩, -⟩
        rfl
  | _ => exact iff_of_false (by rintro ⟨⟩) (by rintro ⟨⟨⟩, -⟩)

variable {env : Environment} {entries : List (Value × Value)} {c : Settings}

/-- **Settings are accepted** exactly if each has its value and the checks let them pass. -/
theorem ofEntries_eq_ok_iff :
    ofEntries env entries = .ok c ↔
      (∀ s : Setting, s.value env entries = .ok (c.get s)) ∧ c.Passes := by
  simp only [ofEntries, bind_eq_ok_iff, checkTabSize, checkTime, checked_eq_ok_iff]
  constructor
  · rintro ⟨_, htab, _, hidle, _, hwait, _, hbuffer, _, hpages, _, hdismiss, _, hkey, _, hsanitize,
      _, ⟨rfl, htab'⟩, _, ⟨rfl, hidle'⟩, _, ⟨rfl, hwait'⟩, ⟨⟩⟩
    refine ⟨fun s => ?_, htab', hidle', hwait'⟩
    cases s with
    | tabSize => exact htab
    | idleTimeout => exact hidle
    | maxWait => exact hwait
    | maxBuffer => exact hbuffer
    | maxPages => exact hpages
    | autoDismiss => exact hdismiss
    | dismissKey => exact hkey
    | sanitize => exact hsanitize
  · rintro ⟨hvalue, hpasses⟩
    exact ⟨c.get .tabSize, hvalue .tabSize, c.get .idleTimeout, hvalue .idleTimeout,
      c.get .maxWait, hvalue .maxWait, c.get .maxBuffer, hvalue .maxBuffer,
      c.get .maxPages, hvalue .maxPages, c.get .autoDismiss, hvalue .autoDismiss,
      c.get .dismissKey, hvalue .dismissKey, c.get .sanitize, hvalue .sanitize,
      c.tabSize, ⟨rfl, hpasses.tabSize⟩, c.idleTimeout, ⟨rfl, hpasses.idleTimeout⟩,
      c.maxWait, ⟨rfl, hpasses.maxWait⟩, rfl⟩

/-- What is accepted of a mapping is accepted of its entries; the rest is only reported. -/
theorem ofEntries_of_ofMapping {report : List LogRecord}
    (h : ofMapping env entries = .ok (c, report)) : ofEntries env entries = .ok c := by
  obtain ⟨_, -, h⟩ := bind_eq_ok_iff.1 h
  obtain ⟨_, hentries, ⟨⟩⟩ := bind_eq_ok_iff.1 h
  exact hentries

/-! ## The ranges -/

/-- A number that is not less than one is no number, or stands at one or beyond. -/
theorem atLeastOne_iff {n : Number} (h : n.lt (.int 1) = false) :
    (∃ x, n.place? = some x ∧ 1 ≤ x) ↔ n.value ≠ .nan := by
  rw [← Number.place?_ne_none_iff, Option.ne_none_iff_exists']
  exact exists_congr fun x => and_iff_left_of_imp fun hx => Number.lt_int_eq_false_iff.1 h x hx

/-- A number that is not zero or less is no number, or stands beyond zero. -/
theorem positive_iff {n : Number} (h : n.le (.int 0) = false) :
    (∃ x, n.place? = some x ∧ 0 < x) ↔ n.value ≠ .nan := by
  rw [← Number.place?_ne_none_iff, Option.ne_none_iff_exists']
  exact exists_congr fun x => and_iff_left_of_imp fun hx => Number.le_int_eq_false_iff.1 h x hx

/-- **What is accepted is in its range, unless it is no number.** Settings that come of a mapping, or
of the environment alone, have a tab size of at least one exactly if their tab size is a number of
any kind; and each of the two times is positive exactly if it is one. -/
theorem accepted_inRange_iff
    (h : (∃ report, ofMapping env entries = .ok (c, report)) ∨ ofEnvironment env = .ok c) :
    ((∃ x, c.tabSize.place? = some x ∧ 1 ≤ x) ↔ c.tabSize.value ≠ .nan) ∧
      ((∃ x, c.idleTimeout.place? = some x ∧ 0 < x) ↔ c.idleTimeout.value ≠ .nan) ∧
      ((∃ x, c.maxWait.place? = some x ∧ 0 < x) ↔ c.maxWait.value ≠ .nan) := by
  have hpasses : c.Passes := by
    rcases h with ⟨report, h⟩ | h
    · exact (ofEntries_eq_ok_iff.1 (ofEntries_of_ofMapping h)).2
    · exact (ofEntries_eq_ok_iff.1 h).2
  exact ⟨atLeastOne_iff hpasses.tabSize, positive_iff hpasses.idleTimeout,
    positive_iff hpasses.maxWait⟩

/-- A mapping with numbers of three kinds: a truth value as the tab size, an endless silence, and a
wait of half a minute. -/
def mixed : List (Value × Value) :=
  [(.text Setting.tabSize.key, .bool true), (.text Setting.idleTimeout.key, .float (1 / 0)),
    (.text Setting.maxWait.key, .int 30)]

theorem accepted_inRange_mixed :
    ∃ c report, ofMapping [] mixed = .ok (c, report) ∧
      (∃ x, c.tabSize.place? = some x ∧ 1 ≤ x) ∧ (∃ x, c.idleTimeout.place? = some x ∧ 0 < x) ∧
      ∃ x, c.maxWait.place? = some x ∧ 0 < x := by
  have hvalues : (ofMapping [] mixed).toOption.map (fun r =>
      (r.1.tabSize.value, r.1.idleTimeout.value, r.1.maxWait.value)) =
        some (.finite false 1 0, .infinite false, .finite false 30 0) := by decide +kernel
  obtain ⟨⟨c, report⟩, haccepted, hvalues⟩ := exists_of_map_toOption hvalues
  obtain ⟨htab, hidle, hwait⟩ := accepted_inRange_iff (.inl ⟨report, haccepted⟩)
  simp only [Prod.mk.injEq] at hvalues
  obtain ⟨htab', hidle', hwait'⟩ := hvalues
  rw [htab'] at htab
  rw [hidle'] at hidle
  rw [hwait'] at hwait
  exact ⟨c, report, haccepted, htab.2 (by rintro ⟨⟩), hidle.2 (by rintro ⟨⟩),
    hwait.2 (by rintro ⟨⟩)⟩

/-- **A wait that is no number is accepted.** The environment gives it, and the check does not refuse
it; but it is not positive. -/
theorem accepts_no_number :
    ∃ c, ofEnvironment [(Setting.maxWait.variableName, "nan")] = .ok c ∧
      c.maxWait.value = .nan ∧ ¬∃ x, c.maxWait.place? = some x ∧ 0 < x := by
  have hvalue : (ofEnvironment [(Setting.maxWait.variableName, "nan")]).toOption.map
      (fun c => c.maxWait.value) = some .nan := by decide +kernel
  obtain ⟨c, haccepted, hvalue⟩ := exists_of_map_toOption hvalue
  refine ⟨c, haccepted, hvalue, ?_⟩
  rintro ⟨x, hx, -⟩
  rw [Number.place?, hvalue] at hx
  cases hx

end Settings

end Teletype
