import Teletype.SettingsFile
import Teletype.Proofs.Accepted

/-!
# Keys that name no setting

A mapping may have keys that name no setting. They have no part in the settings
(`Settings.ofMapping_known`), but they are reported, and to be reported they are put in order and
written one behind the other. Texts can be, and no other keys (`Settings.exists_report_iff`): a
mapping with a key of another kind is refused, whatever the settings are.

So the keys that name no setting are only ignored if they are texts, or if the mapping would have
been refused with the very same fault without them (`Settings.ofMapping_outcome_iff`). The keys of a
JSON document are texts (`Json.keys_of_read`), so that there they are only ignored
(`Settings.ofMapping_of_json`). Those of a YAML document need not be, and some only look like texts:
the file ends with one of them.
-/

namespace Teletype

namespace Value

/-- Only a text is the same key as a text. -/
theorem sameKey_text_iff {v : Value} {t : Text} : sameKey v (text t) = true ↔ v = text t := by
  cases v with
  | text u => exact beq_iff_eq.trans ⟨congrArg text, fun h => text.inj h⟩
  | _ => exact iff_of_false (by rintro ⟨⟩) (by rintro ⟨⟩)

end Value

theorem Setting.mem_all (s : Setting) : s ∈ Setting.all := by
  cases s <;> decide

namespace Settings

variable {env : Environment} {entries : List (Value × Value)}

theorem isKnown_iff {key : Value} : isKnown key = true ↔ ∃ s : Setting, key = .text s.key := by
  simp only [isKnown, List.any_eq_true, Value.sameKey_text_iff]
  exact ⟨fun ⟨s, _, h⟩ => ⟨s, h⟩, fun ⟨s, h⟩ => ⟨s, s.mem_all, h⟩⟩

/-- The entries of a mapping under the keys of settings. -/
def known (entries : List (Value × Value)) : List (Value × Value) :=
  entries.filter fun e => isKnown e.1

/-- The keys of a mapping that name no setting. -/
def unknownKeys (entries : List (Value × Value)) : List Value :=
  (entries.map (·.1)).filter fun k => !isKnown k

/-! ## The part of the known entries -/

theorem lookup_known (s : Setting) : Value.lookup s.key (known entries) = Value.lookup s.key entries := by
  have hsame : ∀ e : Value × Value, (isKnown e.1 = true ∧ Value.sameKey e.1 (.text s.key) = true) ↔
      Value.sameKey e.1 (.text s.key) = true := fun e =>
    and_iff_right_of_imp fun h => isKnown_iff.2 ⟨s, Value.sameKey_text_iff.1 h⟩
  simp only [Value.lookup, known, List.find?_filter, hsame, Bool.decide_eq_true]

/-- Settings depend on no more than their values. -/
theorem ofEntries_congr {env' : Environment} {entries' : List (Value × Value)}
    (h : ∀ s : Setting, s.value env entries = s.value env' entries') :
    ofEntries env entries = ofEntries env' entries' := by
  simp only [ofEntries, h]

theorem ofEntries_known : ofEntries env (known entries) = ofEntries env entries :=
  ofEntries_congr fun s => by rw [Setting.value, Setting.value, lookup_known]

theorem unknownKeys_known : unknownKeys (known entries) = [] := by
  rw [unknownKeys, List.filter_eq_nil_iff]
  intro k hk
  obtain ⟨e, he, rfl⟩ := List.mem_map.1 hk
  rw [(List.mem_filter.1 he).2]
  exact Bool.false_ne_true

/-- **Of the known entries alone** the settings are those of the whole mapping, and there is nothing
to report. -/
theorem ofMapping_known :
    ofMapping env (known entries) = (ofEntries env entries).map fun c => (c, []) := by
  have hreport : ((known entries).map (·.1)).filter (fun k => !isKnown k) = [] := unknownKeys_known
  rw [ofMapping, hreport, ofEntries_known]
  cases ofEntries env entries with
  | ok c => rfl
  | error f => rfl

/-! ## The report of the others -/

/-- Texts have an order. -/
theorem orderFault?_of_texts {keys : List Value} (h : ∀ k ∈ keys, ∃ t, k = .text t) :
    orderFault? keys = none := by
  fun_induction orderFault? keys with
  | case1 a b rest f hlt =>
    obtain ⟨t, rfl⟩ := h a List.mem_cons_self
    obtain ⟨u, rfl⟩ := h b (List.mem_cons_of_mem _ List.mem_cons_self)
    cases hlt
  | case2 a b rest _ _ ih => exact ih fun k hk => h k (List.mem_cons_of_mem _ hk)
  | case3 => rfl

theorem perm_of_sortKeys {keys sorted : List Value} (h : sortKeys keys = .ok sorted) :
    sorted.Perm keys := by
  rw [sortKeys] at h
  split at h
  · cases h
  · cases h
    exact List.mergeSort_perm _ _

theorem sortKeys_of_texts {keys : List Value} (h : ∀ k ∈ keys, ∃ t, k = .text t) :
    ∃ sorted, sortKeys keys = .ok sorted := by
  rw [sortKeys, orderFault?_of_texts h]
  exact ⟨_, rfl⟩

/-- Keys are written exactly if all of them are texts. -/
theorem exists_keyTexts_iff {position : Nat} {keys : List Value} :
    (∃ names, keyTexts position keys = .ok names) ↔ ∀ k ∈ keys, ∃ t, k = .text t := by
  induction keys generalizing position with
  | nil => exact iff_of_true ⟨[], rfl⟩ (by rintro k ⟨⟩)
  | cons k keys ih =>
    rw [List.forall_mem_cons, ← @ih (position + 1)]
    cases k with
    | text t =>
      rw [keyTexts]
      cases keyTexts (position + 1) keys with
      | ok names => exact iff_of_true ⟨_, rfl⟩ ⟨⟨t, rfl⟩, names, rfl⟩
      | error f => exact iff_of_false (by rintro ⟨_, ⟨⟩⟩) (by rintro ⟨-, _, ⟨⟩⟩)
    | _ => exact iff_of_false (by rintro ⟨_, ⟨⟩⟩) (by rintro ⟨⟨_, ⟨⟩⟩, -⟩)

/-- **Keys are reported** exactly if all of them are texts. -/
theorem exists_report_iff {keys : List Value} :
    (∃ report, unknownKeysReport keys = .ok report) ↔ ∀ k ∈ keys, ∃ t, k = .text t := by
  rw [unknownKeysReport]
  split
  · rename_i hempty
    rw [List.isEmpty_iff.1 hempty]
    exact iff_of_true ⟨[], rfl⟩ (by rintro k ⟨⟩)
  · constructor
    · rintro ⟨report, h⟩
      obtain ⟨sorted, hsorted, h⟩ := bind_eq_ok_iff.1 h
      obtain ⟨names, hnames, -⟩ := bind_eq_ok_iff.1 h
      have htexts := exists_keyTexts_iff.1 ⟨names, hnames⟩
      exact fun k hk => htexts k ((perm_of_sortKeys hsorted).mem_iff.2 hk)
    · intro h
      obtain ⟨sorted, hsorted⟩ := sortKeys_of_texts h
      have htexts := fun k hk => h k ((perm_of_sortKeys hsorted).mem_iff.1 hk)
      obtain ⟨names, hnames⟩ : ∃ names, keyTexts 0 sorted = .ok names :=
        exists_keyTexts_iff.2 htexts
      exact ⟨_, bind_eq_ok_iff.2 ⟨sorted, hsorted, bind_eq_ok_iff.2 ⟨names, hnames, rfl⟩⟩⟩

/-! ## What comes of them -/

/-- A mapping whose unknown keys are reported gives what its known entries give. -/
theorem ofMapping_of_report {report : List LogRecord}
    (h : unknownKeysReport (unknownKeys entries) = .ok report) :
    ofMapping env entries = (ofEntries env entries).map fun c => (c, report) := by
  have hreport : unknownKeysReport ((entries.map (·.1)).filter fun k => !isKnown k) = .ok report := h
  rw [ofMapping, hreport]
  cases ofEntries env entries with
  | ok c => rfl
  | error f => rfl

/-- A mapping whose unknown keys cannot be reported is refused. -/
theorem ofMapping_of_fault {f : SettingsFault}
    (h : unknownKeysReport (unknownKeys entries) = .error f) : ofMapping env entries = .error f := by
  have hreport : unknownKeysReport ((entries.map (·.1)).filter fun k => !isKnown k) = .error f := h
  rw [ofMapping, hreport]
  rfl

/-- **When keys that name no setting are only ignored.** A mapping gives the same settings or the
same fault as its known entries alone, exactly if its unknown keys are texts, or the known entries
alone are refused with the very fault that comes of the unknown keys. -/
theorem ofMapping_outcome_iff :
    (ofMapping env entries).map (·.1) = (ofMapping env (known entries)).map (·.1) ↔
      (∀ k ∈ unknownKeys entries, ∃ t, k = .text t) ∨
        ∃ f, unknownKeysReport (unknownKeys entries) = .error f ∧
          ofMapping env (known entries) = .error f := by
  rw [← exists_report_iff, ofMapping_known]
  cases hreport : unknownKeysReport (unknownKeys entries) with
  | ok report =>
    rw [ofMapping_of_report hreport]
    refine iff_of_true ?_ (.inl ⟨report, rfl⟩)
    cases ofEntries env entries with
    | ok c => rfl
    | error f => rfl
  | error f =>
    rw [ofMapping_of_fault hreport]
    cases ofEntries env entries with
    | ok c => exact iff_of_false (by rintro ⟨⟩) (by rintro (⟨_, ⟨⟩⟩ | ⟨_, -, ⟨⟩⟩))
    | error g =>
      constructor
      · rintro ⟨⟩
        exact .inr ⟨f, rfl, rfl⟩
      · rintro (⟨_, ⟨⟩⟩ | ⟨_, ⟨⟩, ⟨⟩⟩)
        rfl

end Settings

/-! ## The keys of a JSON document -/

namespace Value

/-- All keys of a row of entries are texts. -/
def HasTextKeys {α : Type} (entries : List (Value × α)) : Prop :=
  ∀ e ∈ entries, ∃ t, e.1 = .text t

/-- An entry under a text leaves all keys texts. -/
theorem HasTextKeys.insert {α : Type} {entries : List (Value × α)} (h : HasTextKeys entries)
    (t : Text) (v : α) : HasTextKeys (insert (.text t) v entries) := by
  induction entries with
  | nil => exact List.forall_mem_singleton.2 ⟨t, rfl⟩
  | cons e entries ih =>
    obtain ⟨he, hrest⟩ := List.forall_mem_cons.1 h
    rw [Value.insert]
    split
    · exact List.forall_mem_cons.2 ⟨he, hrest⟩
    · exact List.forall_mem_cons.2 ⟨he, ih hrest⟩

end Value

namespace Json

variable {fuel : Nat} {entries : List (Value × Value)} {t r : Text}

theorem number_ne_mapping {negative : Bool} : number negative t ≠ .ok (.mapping entries, r) := by
  intro h
  rw [number] at h
  split at h
  · cases h
  · dsimp only at h
    split at h
    · split at h
      · cases h
      · cases h
    · cases h

theorem items_ne_mapping {done : List Value} : items fuel done t ≠ .ok (.mapping entries, r) := by
  intro h
  induction fuel generalizing done t with
  | zero => cases h
  | succ fuel ih =>
    rw [items.eq_def] at h
    obtain ⟨_, -, h⟩ := bind_eq_ok_iff.1 h
    dsimp only at h
    split at h
    · exact ih h
    · cases h
    · cases h

/-- Entries are read one behind the other, each of them under a text. -/
theorem keys_of_entries {done : List (Value × Value)} (hdone : Value.HasTextKeys done)
    (h : Json.entries fuel done t = .ok (.mapping entries, r)) : Value.HasTextKeys entries := by
  -- what was read before is carried along, so the induction is for any such entries
  induction fuel generalizing done t with
  | zero => cases h
  | succ fuel ih =>
    rw [Json.entries.eq_def] at h
    dsimp only at h
    split at h
    case h_2 => cases h
    obtain ⟨⟨key, _⟩, -, h⟩ := bind_eq_ok_iff.1 h
    dsimp only at h
    split at h
    case h_2 => cases h
    obtain ⟨⟨v, _⟩, -, h⟩ := bind_eq_ok_iff.1 h
    dsimp only at h
    split at h
    · exact ih (hdone.insert key v) h
    · cases h
      exact hdone.insert key v
    · cases h

/-- Only a value that begins with a brace is a mapping. -/
theorem keys_of_value (h : value fuel t = .ok (.mapping entries, r)) :
    Value.HasTextKeys entries := by
  have hnone : Value.HasTextKeys (α := Value) [] := List.forall_mem_nil _
  cases fuel with
  | zero => cases h
  | succ fuel =>
    rw [value.eq_def] at h
    dsimp only at h
    split at h
    · rename_i rest
      cases hstring : string (rest.length + 1) rest with
      | ok found => rw [hstring] at h; cases h
      | error f => rw [hstring] at h; cases h
    · split at h
      · cases h
        exact hnone
      · exact keys_of_entries hnone h
    · split at h
      · cases h
      · exact absurd h items_ne_mapping
    · split at h
      · cases h
      · exact absurd h number_ne_mapping
    · split at h
      case h_6 => exact absurd h number_ne_mapping
      all_goals cases h

/-- **The keys of a JSON document** are texts. -/
theorem keys_of_read (h : read t = .ok (.mapping entries)) : Value.HasTextKeys entries := by
  obtain ⟨⟨v, r⟩, hvalue, h⟩ := bind_eq_ok_iff.1 h
  dsimp only at h
  split at h
  · cases h
    exact keys_of_value hvalue
  · cases h

end Json

namespace Settings

/-- **In a JSON document**, keys that name no setting are reported and have no other effect. -/
theorem ofMapping_of_json {env : Environment} {entries : List (Value × Value)} {t : Text}
    (h : Json.read t = .ok (.mapping entries)) :
    ∃ report, ofMapping env entries =
      (ofMapping env (known entries)).map fun accepted => (accepted.1, report) := by
  have htexts : ∀ k ∈ unknownKeys entries, ∃ t, k = .text t := by
    intro k hk
    obtain ⟨e, he, rfl⟩ := List.mem_map.1 (List.mem_of_mem_filter hk)
    exact Json.keys_of_read h e he
  obtain ⟨report, hreport⟩ := exists_report_iff.2 htexts
  refine ⟨report, ?_⟩
  rw [ofMapping_of_report hreport, ofMapping_known]
  cases ofEntries env entries with
  | ok c => rfl
  | error f => rfl

/-! ## A key of a YAML document -/

/-- A settings file in the YAML notation. Its first key is a word that stands for a truth value
there. -/
def switchedOn : SettingsFile where
  path := "capture.yaml".toList
  bytes := "on: 1\ntab_size: 4\n".toList.map fun c => c.toNat.toUInt8

/-- **A file is refused for a key that names no setting**: the key is no text. Of its known entries
alone there are settings. -/
theorem refuses_truth_key :
    ∃ entries c, switchedOn.entries = .ok entries ∧ ofMapping [] (known entries) = .ok (c, []) ∧
      ofMapping [] entries = .error (.keyKind 0 "bool") := by
  have hread : switchedOn.entries.toOption.map (fun entries =>
      ((ofEntries [] entries).isOk,
        match ofMapping [] entries with
        | .error (.keyKind position kind) => some (position, kind)
        | _ => none)) = some (true, some (0, "bool")) := by
    decide +kernel
  obtain ⟨entries, hentries, hread⟩ := exists_of_map_toOption hread
  obtain ⟨haccepted, hrefused⟩ := Prod.mk.inj hread
  cases hc : ofEntries [] entries with
  | error f =>
    rw [hc] at haccepted
    cases haccepted
  | ok c =>
    refine ⟨entries, c, hentries, ?_, ?_⟩
    · rw [ofMapping_known, hc]
      rfl
    · split at hrefused
      · rename_i hfault
        cases hrefused
        exact hfault
      · cases hrefused

end Settings

end Teletype
