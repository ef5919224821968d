import Teletype.Proofs.UnknownKeys

/-!
# What a mapping overrides

A setting has its default only if the mapping leaves it out. So the variables of the others have no
part in what comes of the mapping (`Settings.ofMapping_congr`), and settings written as a mapping
are read back the same in every environment, the worst included, whatever is added to the mapping
under other names (`Settings.ofMapping_entries`). Both are `Settings.ofMapping_overrides`.
-/

namespace Teletype

/-- The only value under a key is the one that is found. -/
theorem Value.lookup_eq_some {entries : List (Value × Value)} {t : Text} {v : Value}
    (hmem : (text t, v) ∈ entries) (honly : ∀ w, (text t, w) ∈ entries → w = v) :
    lookup t entries = some v := by
  rw [lookup]
  cases hfind : entries.find? fun e => sameKey e.1 (text t) with
  | none => exact absurd (sameKey_text_iff.2 rfl) (List.find?_eq_none.1 hfind _ hmem)
  | some e =>
    obtain ⟨k, w⟩ := e
    have hsame : sameKey k (text t) = true := (List.find?_eq_some_iff_append.1 hfind).1
    obtain rfl : k = text t := sameKey_text_iff.1 hsame
    exact congrArg some (honly w (List.mem_of_find?_eq_some hfind))

namespace Setting

/-- No two settings have one key. -/
theorem key_injective : Function.Injective key := by
  have hnodup : (all.map key).Nodup := by decide +kernel
  exact fun s s' h => List.inj_on_of_nodup_map hnodup s.mem_all s'.mem_all h

/-- The value of a setting depends on its variable only where the mapping leaves it out. -/
theorem value_congr {env env' : Environment} {entries : List (Value × Value)} {s : Setting}
    (h : Value.lookup s.key entries = none →
      env.get? s.variableName = env'.get? s.variableName) :
    s.value env entries = s.value env' entries := by
  rw [value, value]
  cases hlookup : Value.lookup s.key entries with
  | none => rw [default, default, h hlookup]
  | some v => rfl

end Setting

namespace Settings

variable {env env' made : Environment} {given entries extra : List (Value × Value)} {c : Settings}

/-- **The variables of the settings that a mapping gives** have no part in what comes of it. -/
theorem ofMapping_congr
    (h : ∀ s : Setting, Value.lookup s.key entries = none →
      env.get? s.variableName = env'.get? s.variableName) :
    ofMapping env entries = ofMapping env' entries := by
  rw [ofMapping, ofMapping, ofEntries_congr fun s => Setting.value_congr (h s)]

/-- Under the key of a setting, settings written as a mapping have its value and no other. -/
theorem mem_entries_iff {s : Setting} {v : Value} :
    (.text s.key, v) ∈ c.entries ↔ v = c.get s := by
  rw [Settings.entries, List.mem_map]
  constructor
  · rintro ⟨s', -, h⟩
    obtain ⟨hkey, rfl⟩ := Prod.mk.inj h
    rw [Setting.key_injective (Value.text.inj hkey)]
  · rintro rfl
    exact ⟨s, s.mem_all, rfl⟩

/-- Entries under names of no setting. -/
def NamesNone (extra : List (Value × Value)) : Prop :=
  ∀ e ∈ extra, ∃ t, e.1 = .text t ∧ ∀ s : Setting, t ≠ s.key

theorem NamesNone.not_mem (h : NamesNone extra) (s : Setting) (v : Value) :
    (.text s.key, v) ∉ extra := by
  intro hmem
  obtain ⟨t, ht, hnone⟩ := h _ hmem
  exact hnone s (Value.text.inj ht).symm

/-- Entries of settings, and others, in any order: each setting is found with its value. -/
theorem lookup_of_perm (hextra : NamesNone extra) (hperm : entries.Perm (c.entries ++ extra))
    (s : Setting) : Value.lookup s.key entries = some (c.get s) := by
  have hmem : ∀ v, (.text s.key, v) ∈ entries ↔ v = c.get s := by
    intro v
    rw [hperm.mem_iff, List.mem_append, mem_entries_iff]
    exact or_iff_left (hextra.not_mem s v)
  exact Value.lookup_eq_some ((hmem _).2 rfl) fun w => (hmem w).1

/-- Of those entries the unknown ones are the others, and these can be reported. -/
theorem exists_report_of_perm (hextra : NamesNone extra)
    (hperm : entries.Perm (c.entries ++ extra)) :
    ∃ report, unknownKeysReport (unknownKeys entries) = .ok report := by
  refine exists_report_iff.2 fun k hk => ?_
  obtain ⟨e, he, rfl⟩ := List.mem_map.1 (List.mem_of_mem_filter hk)
  rcases List.mem_append.1 (hperm.mem_iff.1 he) with he | he
  · obtain ⟨s, -, rfl⟩ := List.mem_map.1 he
    exact ⟨s.key, rfl⟩
  · obtain ⟨t, ht, -⟩ := hextra e he
    exact ⟨t, ht⟩

/-- **Settings are read back.** Accepted settings are accepted again with the same values, from their
entries and others under names of no setting, in any order and any environment. -/
theorem ofMapping_entries (hmade : ofEntries made given = .ok c) (hextra : NamesNone extra)
    (hperm : entries.Perm (c.entries ++ extra)) :
    ∃ report, ofMapping env entries = .ok (c, report) := by
  have hvalue : ∀ s : Setting, s.value env entries = .ok (c.get s) := by
    intro s
    rw [Setting.value, lookup_of_perm hextra hperm s]
  have hpasses : c.Passes := (ofEntries_eq_ok_iff.1 hmade).2
  obtain ⟨report, hreport⟩ := exists_report_of_perm hextra hperm
  refine ⟨report, ?_⟩
  rw [ofMapping_of_report hreport, ofEntries_eq_ok_iff.2 ⟨hvalue, hpasses⟩]
  rfl

/-- **A mapping overrides the environment.** Settings that were accepted in one environment are read
back from a mapping in every other, with the same values; and in general the variables of those
settings that a mapping gives have no part in what comes of it. -/
theorem ofMapping_overrides :
    (∀ (made env : Environment) (given extra entries : List (Value × Value)) (c : Settings),
      ofEntries made given = .ok c → NamesNone extra → entries.Perm (c.entries ++ extra) →
        ∃ report, ofMapping env entries = .ok (c, report)) ∧
      ∀ (env env' : Environment) (entries : List (Value × Value)),
        (∀ s : Setting, Value.lookup s.key entries = none →
          env.get? s.variableName = env'.get? s.variableName) →
        ofMapping env entries = ofMapping env' entries :=
  ⟨fun _ _ _ _ _ _ hmade hextra hperm => ofMapping_entries hmade hextra hperm,
    fun _ _ _ h => ofMapping_congr h⟩

/-- An environment in which one variable cannot be read and another is out of its range. -/
def unfit : Environment :=
  [(Setting.tabSize.variableName, "many"), (Setting.maxWait.variableName, "-1")]

/-- A mapping that gives both of those settings. -/
def fit : List (Value × Value) :=
  [(.text Setting.tabSize.key, .int 4), (.text Setting.maxWait.key, .int 5)]

/-- In an unfit environment there are no settings. Those that were had from a mapping elsewhere are
read back there, in another order and with a key more; and the mapping does there what it does
elsewhere. -/
theorem ofMapping_overrides_unfit :
    (ofEnvironment unfit).isOk = false ∧
      ∃ c, ofEntries [] fit = .ok c ∧
        (∃ report, ofMapping unfit ((.text "colour".toList, .null) :: c.entries) =
          .ok (c, report)) ∧
        ofMapping unfit fit = ofMapping [] fit := by
  have hmade : (ofEntries [] fit).toOption.map (fun _ => ()) = some () := by decide +kernel
  obtain ⟨c, hmade, -⟩ := exists_of_map_toOption hmade
  refine ⟨by decide +kernel, c, hmade, ?_, ?_⟩
  · refine ofMapping_overrides.1 [] unfit fit [(.text "colour".toList, .null)] _ c hmade ?_
      (List.perm_append_singleton _ _).symm
    refine List.forall_mem_singleton.2 ⟨_, rfl, fun s => ?_⟩
    cases s <;> decide
  · refine ofMapping_overrides.2 unfit [] fit fun s => ?_
    cases s with
    | tabSize => exact fun h => absurd h (by decide)
    | maxWait => exact fun h => absurd h (by decide)
    | _ => exact fun _ => by decide

end Settings

end Teletype
