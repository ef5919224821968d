import Mathlib
import Teletype.Proofs.Legible
import Teletype.Proofs.Recognition

/-!
# The prompts that go with a prompt

The prompt of a device changes with its mode, and the pattern that is made of one prompt is meant for
all of them. Here it is said without the pattern which lines they are: `Names prompt host` says what
host a prompt names, and `IsVariant host line` that a line is a prompt of that host, in some mode or
in none.

A pattern is made of every prompt but one whose escape sequences cannot be read. It matches the
variants of the host that the prompt names, and no other line. If there is no prompt, or it names no
host, then the lines that end like a prompt are matched (`PromptPattern.ofPrompt_matches`).
-/

namespace Teletype

namespace PromptPattern

/-! ## The host that a prompt names -/

/-- **The base of what stands before a terminator**: it is cut before its first parenthesis and
trimmed there, unless nothing but blanks stands before the parenthesis. -/
inductive IsBase (body : Text) : Text → Prop
  | cut {name mode : Text} :
      body = name ++ '(' :: mode → '(' ∉ name → Text.blank name = false →
      IsBase body (Text.trimEnd name)
  | whole :
      (∀ name mode, body = name ++ '(' :: mode → '(' ∉ name → Text.blank name = true) →
      IsBase body body

/-- There is one base, and it is the host that is read off. -/
theorem isBase_iff {body base : Text} (h : Text.trimEnd body = body) :
    IsBase body base ↔ base = hostOf body := by
  by_cases hparen : '(' ∈ body
  · obtain ⟨name, mode, rfl, hname⟩ := List.eq_append_cons_of_mem hparen
    rw [hostOf_append_cons hname]
    have hfirst : ∀ {name' mode' : Text}, name ++ '(' :: mode = name' ++ '(' :: mode' →
        '(' ∉ name' → name' = name := fun heq hname' =>
      (Text.append_cons_inj hname hname' heq).1.symm
    cases hblank : Text.blank name with
    | true =>
      rw [if_pos rfl]
      constructor
      · rintro (⟨heq, hname', hshown⟩ | -)
        · rw [hfirst heq hname', hblank] at hshown
          cases hshown
        · rfl
      · rintro rfl
        refine .whole fun name' mode' heq hname' => ?_
        rw [hfirst heq hname', hblank]
    | false =>
      rw [if_neg Bool.false_ne_true]
      constructor
      · rintro (⟨heq, hname', -⟩ | hwhole)
        · rw [hfirst heq hname']
        · rw [hwhole name mode rfl hname] at hblank
          cases hblank
      · rintro rfl
        exact .cut rfl hname hblank
  · rw [hostOf_of_not_mem h hparen]
    have hnone : ∀ {name mode : Text}, body ≠ name ++ '(' :: mode := by
      rintro name mode rfl
      exact hparen (by simp)
    constructor
    · rintro (⟨heq, -⟩ | -)
      · exact absurd heq hnone
      · rfl
    · rintro rfl
      exact .whole fun name mode heq => absurd heq hnone

/-- **What a prompt names.** Without its escape sequences and the blanks at its end it ends in a
terminator, and the host is the base of what stands before that. -/
def Names (prompt : Option Text) (host : Text) : Prop :=
  ∃ p plain q c, prompt = some p ∧ stripEscapes p = .ok plain ∧ Text.trimEnd plain = q ++ [c] ∧
    Prompt.isTerminator c = true ∧ IsBase (Text.trimEnd q) host

/-- Nothing is named by blanks. -/
theorem not_names_of_blank {p host : Text} (h : Text.blank p = true) : ¬Names (some p) host := by
  rintro ⟨_, plain, q, c, ⟨⟩, hplain, htrim, hc, -⟩
  rw [stripEscapes_of_not_mem (Text.not_mem_of_blank h (by decide))] at hplain
  cases hplain
  rw [Text.trimEnd_eq_nil_iff.2 h] at htrim
  exact List.append_ne_nil_of_right_ne_nil q (List.cons_ne_nil c []) htrim.symm

/-- **Which prompts name a host**: those that end in a terminator. -/
theorem exists_names_iff {p : Text} : (∃ host, Names (some p) host) ↔
    ∃ plain, stripEscapes p = .ok plain ∧
      (Text.trimEnd plain).getLast?.any Prompt.isTerminator = true := by
  constructor
  · rintro ⟨host, _, plain, q, c, ⟨⟩, hplain, htrim, hc, -⟩
    exact ⟨plain, hplain, by rw [htrim, List.getLast?_concat, Option.any_some, hc]⟩
  · rintro ⟨plain, hplain, hends⟩
    obtain ⟨c, hlast, hc⟩ := (Option.any_eq_true _ _).1 hends
    obtain ⟨q, hq⟩ := List.getLast?_eq_some_iff.1 hlast
    exact ⟨_, p, plain, q, c, rfl, hplain, hq, hc, (isBase_iff (Text.trimEnd_trimEnd q)).2 rfl⟩

/-! ## The pattern that is made of a prompt -/

/-- Of a prompt that is not blank a pattern is made when its sequences are stripped. -/
theorem ofPrompt_eq {p : Text} (h : Text.blank p = false) :
    ofPrompt (some p) = (stripEscapes p).map fun plain =>
      let trimmed := Text.trimEnd plain
      if trimmed.getLast?.any Prompt.isTerminator then
        ofHost (hostOf (Text.trimEnd trimmed.dropLast))
      else generic := by
  rw [ofPrompt, if_neg (by rw [h]; exact Bool.false_ne_true)]

/-- A prompt that names a host gives the pattern of that host. -/
theorem ofPrompt_of_names {prompt : Option Text} {host : Text} (h : Names prompt host) :
    ofPrompt prompt = .ok (ofHost host) := by
  obtain ⟨p, plain, q, c, rfl, hplain, htrim, hc, hbase⟩ := id h
  have hshown : Text.blank p = false := Bool.eq_false_iff.2 fun hblank => not_names_of_blank hblank h
  rw [ofPrompt_eq hshown, hplain, (isBase_iff (Text.trimEnd_trimEnd q)).1 hbase]
  simp only [Except.map, htrim, List.getLast?_concat, Option.any_some, hc, if_true,
    List.dropLast_concat]

/-- Every other prompt gives the generic pattern, if it gives one. -/
theorem eq_generic_of_not_names {prompt : Option Text} {pattern : PromptPattern}
    (hprompt : ofPrompt prompt = .ok pattern) (h : ∀ host, ¬Names prompt host) :
    pattern = generic := by
  cases prompt with
  | none =>
    cases hprompt
    rfl
  | some p =>
    cases hblank : Text.blank p with
    | true =>
      rw [ofPrompt, if_pos hblank] at hprompt
      cases hprompt
      rfl
    | false =>
      rw [ofPrompt_eq hblank] at hprompt
      obtain ⟨plain, hplain, rfl⟩ := map_eq_ok_iff.1 hprompt
      refine if_neg fun hends => ?_
      obtain ⟨host, hnames⟩ := exists_names_iff.2 ⟨plain, hplain, hends⟩
      exact h host hnames

/-- **No pattern is made of a prompt whose sequences cannot be read**, and of every other one a
pattern is made. -/
theorem ofPrompt_eq_error_iff {prompt : Option Text} {x : Overlong} :
    ofPrompt prompt = .error x ↔ ∃ p, prompt = some p ∧ Token.Illegible p x := by
  cases prompt with
  | none => exact iff_of_false (by rintro ⟨⟩) (by rintro ⟨p, ⟨⟩, -⟩)
  | some p =>
    have hsome : (∃ p', some p = some p' ∧ Token.Illegible p' x) ↔ stripEscapes p = .error x := by
      rw [stripEscapes_eq_error_iff]
      exact ⟨fun ⟨_, heq, hx⟩ => Option.some.inj heq ▸ hx, fun hx => ⟨p, rfl, hx⟩⟩
    rw [hsome]
    cases hblank : Text.blank p with
    | true =>
      rw [ofPrompt, if_pos hblank,
        stripEscapes_of_not_mem (Text.not_mem_of_blank hblank (by decide))]
      exact iff_of_false (by rintro ⟨⟩) (by rintro ⟨⟩)
    | false => rw [ofPrompt_eq hblank, map_eq_error_iff]

/-! ## The lines that match -/

/-- **A prompt of a host**: its name, perhaps a mode in parentheses, and a terminator, with blanks
before the mode, between the two, and at the end. -/
def IsVariant (host line : Text) : Prop :=
  ∃ mode b c b', line = host ++ (mode ++ (b ++ c :: b')) ∧ (mode = [] ∨ IsMode mode) ∧
    Text.blank b = true ∧ Prompt.isTerminator c = true ∧ Text.blank b' = true

/-- **A line that ends like a prompt**: in a terminator, with nothing but spaces and tabs behind
it. -/
def EndsLikePrompt (line : Text) : Prop :=
  ∃ a c b, line = a ++ c :: b ∧ Prompt.isTerminator c = true ∧ ∀ d ∈ b, d = ' ' ∨ d = '\t'

/-- **The pattern of a prompt matches the prompts of its host in every mode, and no other line.** If
there is no prompt, or it names no host, then the lines that end like a prompt match. No pattern is
made exactly if the escape sequences of the prompt cannot be read. -/
theorem ofPrompt_matches (prompt : Option Text) :
    (∀ x, ofPrompt prompt = .error x ↔ ∃ p, prompt = some p ∧ Token.Illegible p x) ∧
      ∀ pattern, ofPrompt prompt = .ok pattern → ∀ line, '\n' ∉ line →
        (∀ host, Names prompt host → (pattern.isIn line = true ↔ IsVariant host line)) ∧
        ((∀ host, ¬Names prompt host) → (pattern.isIn line = true ↔ EndsLikePrompt line)) := by
  refine ⟨fun x => ofPrompt_eq_error_iff, fun pattern hpattern line hline => ⟨?_, ?_⟩⟩
  · intro host hnames
    rw [ofPrompt_of_names hnames] at hpattern
    cases hpattern
    exact isIn_ofHost_iff hline
  · intro hnone
    rw [eq_generic_of_not_names hpattern hnone]
    exact isIn_generic_iff hline

/-- A prompt in bold, in a mode and with a blank behind it: the same host in another mode matches, a
host with a longer name does not. -/
theorem ofPrompt_matches_bold :
    Names (some "\x1b[1mfw (a)\x1b[m# ".toList) "fw".toList ∧
      ofPrompt (some "\x1b[1mfw (a)\x1b[m# ".toList) = .ok (ofHost "fw".toList) ∧
      (ofHost "fw".toList).isIn "fw (b) > ".toList = true ∧
      ¬IsVariant "fw".toList "fw2#".toList := by
  have hbody : "fw (a)".toList = "fw ".toList ++ '(' :: "a)".toList := by cbv
  have hnames : Names (some "\x1b[1mfw (a)\x1b[m# ".toList) "fw".toList :=
    ⟨_, "fw (a)# ".toList, "fw (a)".toList, '#', rfl, by cbv, by cbv, rfl,
      .cut hbody (by decide) (by decide)⟩
  have hpattern : ofPrompt (some "\x1b[1mfw (a)\x1b[m# ".toList) = .ok (ofHost "fw".toList) := by cbv
  have hmatches := (ofPrompt_matches (some "\x1b[1mfw (a)\x1b[m# ".toList)).2 _ hpattern
  refine ⟨hnames, hpattern, ((hmatches "fw (b) > ".toList (by decide)).1 _ hnames).2 ?_, fun h => ?_⟩
  · exact ⟨" (b)".toList, " ".toList, '>', " ".toList, by cbv,
      .inr ⟨" ".toList, "b".toList, by cbv, by decide, by decide, by decide⟩, by decide, rfl,
      by decide⟩
  · have hin := ((hmatches "fw2#".toList (by decide)).1 _ hnames).2 h
    have hout : (ofHost "fw".toList).isIn "fw2#".toList = false := by cbv
    rw [hout] at hin
    cases hin

/-- **A prompt of which no pattern is made.** A rendition with one digit too many has no terminator,
so every line that ends like a prompt should match, but there is nothing to match it with. -/
theorem ofPrompt_longRendition :
    (∀ host, ¬Names (some Screen.longRendition) host) ∧
      (∀ c ∈ Screen.longRendition, Prompt.isTerminator c = false) ∧
      EndsLikePrompt ['a', '#'] ∧ '\n' ∉ ['a', '#'] ∧
      ∀ pattern, ofPrompt (some Screen.longRendition) ≠ .ok pattern := by
  have hfails : ofPrompt (some Screen.longRendition) = .error ⟨4301⟩ :=
    ofPrompt_eq_error_iff.2 ⟨_, rfl, Screen.illegible_longRendition⟩
  refine ⟨fun host hnames => ?_, fun c hc => ?_, ⟨['a'], '#', [], rfl, rfl, by simp⟩, by decide,
    fun pattern hpattern => ?_⟩
  · rw [ofPrompt_of_names hnames] at hfails
    cases hfails
  · rcases Screen.mem_longRendition hc with rfl | rfl | rfl | rfl <;> rfl
  · rw [hfails] at hpattern
    cases hpattern

end PromptPattern

end Teletype
