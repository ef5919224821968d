import Teletype.Screen
import Teletype.Proofs.Grammar

/-!
# What rendered lines are made of

All that an operation leaves on a line stood there before, each cell as often as it did, or is a
space; only writing adds a character, and only characters that are no controls are written. `Gains`
says this of an operation by counting, and `gains_foldlM_obey` of a whole replay: of every character
but the space, a line holds no more than were written on it.

So there are no controls in what a reader sees of a line (`isControl_of_renderLine`), no line feed
among them, and the lines of a rendered text can be told apart (`intercalate_lineEnd_inj`).
-/

namespace Teletype

/-- What is made of a result is there if the result is. -/
theorem map_eq_ok_iff {α β ε : Type} {f : α → β} {r : Except ε α} {b : β} :
    r.map f = .ok b ↔ ∃ a, r = .ok a ∧ f a = b := by
  cases r with
  | ok a => exact ⟨fun h => ⟨a, rfl, Except.ok.inj h⟩, by rintro ⟨_, ⟨⟩, rfl⟩; rfl⟩
  | error e => exact ⟨by rintro ⟨⟩, by rintro ⟨_, ⟨⟩, -⟩⟩

/-- What a row of actions comes to, when it comes to anything, action by action. -/
theorem exists_of_mapM_cons {α β ε : Type} {f : α → Except ε β} {a : α} {l : List α} {bs : List β}
    (h : (a :: l).mapM f = .ok bs) :
    ∃ b, f a = .ok b ∧ ∃ cs, l.mapM f = .ok cs ∧ bs = b :: cs := by
  rw [List.mapM_cons] at h
  cases ha : f a with
  | error x => rw [ha] at h; cases h
  | ok b =>
    rw [ha] at h
    cases hl : l.mapM f with
    | error x => rw [hl] at h; cases h
    | ok cs =>
      rw [hl] at h
      cases h
      exact ⟨b, rfl, cs, rfl, rfl⟩

/-- Each result of a row of actions is the result of one of them. -/
theorem exists_of_mem_mapM {α β ε : Type} {f : α → Except ε β} {l : List α} {bs : List β}
    (h : l.mapM f = .ok bs) {b : β} (hb : b ∈ bs) : ∃ a ∈ l, f a = .ok b := by
  induction l generalizing bs with
  | nil =>
    cases h
    exact absurd hb List.not_mem_nil
  | cons a l ih =>
    obtain ⟨c, hc, cs, hcs, rfl⟩ := exists_of_mapM_cons h
    rcases List.mem_cons.1 hb with rfl | hb
    · exact ⟨a, List.mem_cons_self, hc⟩
    · obtain ⟨a', hmem, ha'⟩ := ih hcs hb
      exact ⟨a', List.mem_cons_of_mem a hmem, ha'⟩

namespace Line

/-! ## Counting cells -/

/-- **What a line has gained**: of every character but the space, no more cells than a text holds of
it. -/
def Gains (l : Line) (w : Text) (l' : Line) : Prop :=
  ∀ c, c ≠ ' ' → l'.cells.count c ≤ l.cells.count c + w.count c

namespace Gains

variable {l l' l'' : Line} {u v : Text}

theorem of_cells (h : l'.cells = l.cells) : l.Gains [] l' := by
  intro c _
  rw [h]
  exact Nat.le_refl _

theorem trans (h : l.Gains u l') (h' : l'.Gains v l'') : l.Gains (u ++ v) l'' := by
  intro c hc
  have hfirst := h c hc
  have hsecond := h' c hc
  rw [List.count_append]
  omega

/-- A character of the line stood there before, or is a space, or was gained. -/
theorem mem (h : l.Gains u l') {c : Char} (hc : c ∈ l'.cells) : c ∈ l.cells ∨ c = ' ' ∨ c ∈ u := by
  by_cases hspace : c = ' '
  · exact .inr (.inl hspace)
  have hcount := h c hspace
  have hpos : 0 < l'.cells.count c := Array.count_pos_iff.2 hc
  by_cases hold : c ∈ l.cells
  · exact .inl hold
  · have hzero : l.cells.count c = 0 := Array.count_eq_zero.2 hold
    exact .inr (.inr (List.count_pos_iff.1 (by omega)))

end Gains

section Counting

variable {c : Char} (hc : c ≠ ' ')
include hc

theorem count_replicate_space (n : Nat) : (Array.replicate n ' ').count c = 0 := by
  rw [Array.count_eq_zero]
  intro hmem
  exact hc (Array.mem_replicate.1 hmem).2

theorem count_padTo (cells : Array Char) (n : Nat) : (padTo cells n).count c = cells.count c := by
  rw [padTo, Array.count_append, count_replicate_space hc, Nat.add_zero]

/-- Cells that are kept or turned into spaces. -/
theorem count_mapIdx_le {f : Nat → Char → Char} (hf : ∀ i d, f i d = d ∨ f i d = ' ')
    (cells : Array Char) : (cells.mapIdx f).count c ≤ cells.count c := by
  rw [← Array.count_toList, ← Array.count_toList, Array.toList_mapIdx]
  generalize cells.toList = ds
  induction ds generalizing f with
  | nil => exact Nat.le_refl _
  | cons d ds ih =>
    have hrest := ih fun i d => hf (i + 1) d
    rw [List.mapIdx_cons, List.count_cons, List.count_cons]
    rcases hf 0 d with hkept | hspace
    · rw [hkept]
      omega
    · rw [hspace, if_neg (by simpa using Ne.symm hc)]
      omega

omit hc in
/-- What two parts of a row hold that do not overlap. -/
theorem count_extract_add_le (cells : Array Char) {i j : Nat} (h : i ≤ j) :
    (cells.extract 0 i).count c + (cells.extract j cells.size).count c ≤ cells.count c := by
  have hfront : (cells.extract 0 i).toList = cells.toList.take i := by simp
  have hback : (cells.extract j cells.size).toList = cells.toList.drop j := by
    rw [Array.toList_extract, List.extract_eq_take_drop, List.take_of_length_le (by simp)]
  have hwhole : (cells.toList.take i ++ cells.toList.drop i).count c =
      (cells.toList.take i).count c + (cells.toList.drop i).count c := List.count_append
  rw [List.take_append_drop] at hwhole
  have hless := (List.drop_sublist_drop_left cells.toList h).count_le c
  rw [← Array.count_toList, ← Array.count_toList, ← Array.count_toList, hfront, hback]
  omega

end Counting

/-- A character is written into a cell of its own, over what stood there or behind the others. -/
theorem gains_write (l : Line) (c : Char) : l.Gains [c] (l.write c) := by
  obtain ⟨cells, cursor, saved⟩ := l
  intro d hd
  rw [write, List.count_singleton]
  split
  · rename_i hcursor
    have hset : (cells.set cursor c hcursor).count d = _ := Array.count_set hcursor
    dsimp only
    omega
  · have hpush : ((padTo cells cursor).push c).count d = cells.count d + if c == d then 1 else 0 := by
      rw [Array.count_push, count_padTo hd]
    exact Nat.le_of_eq hpush

/-- Written spaces are not counted. -/
theorem gains_writeText_replicate (n : Nat) (l : Line) :
    l.Gains [] (l.writeText (List.replicate n ' ')) := by
  induction n generalizing l with
  | zero => exact .of_cells rfl
  | succ n ih =>
    intro c hc
    have hstep := gains_write l ' ' c hc
    have hrest := ih (l.write ' ') c hc
    rw [List.count_singleton, if_neg (by simpa using Ne.symm hc)] at hstep
    rw [List.replicate_succ, writeText, List.foldl_cons, ← writeText]
    omega

theorem gains_blankOut (l : Line) (count : Int) : l.Gains [] (l.blankOut count) := by
  obtain ⟨cells, cursor, saved⟩ := l
  intro c hc
  rw [List.count_nil, Nat.add_zero, blankOut]
  refine count_mapIdx_le hc (fun i d => ?_) cells
  split
  · exact .inr rfl
  · exact .inl rfl

theorem gains_insertBlanks (l : Line) (count : Int) : l.Gains [] (l.insertBlanks count) := by
  unfold insertBlanks
  split
  · exact .of_cells rfl
  · intro c hc
    have hparts := count_extract_add_le (c := c) (padTo l.cells l.cursor) (Nat.le_refl l.cursor)
    rw [count_padTo hc] at hparts
    dsimp only
    rw [Array.count_append, Array.count_append, count_replicate_space hc, List.count_nil]
    omega

theorem gains_deleteChars (l : Line) (count : Int) : l.Gains [] (l.deleteChars count) := by
  unfold deleteChars
  split
  · exact .of_cells rfl
  · intro c hc
    have hparts := count_extract_add_le (c := c) l.cells (Nat.le_add_right l.cursor count.toNat)
    dsimp only
    rw [Array.count_append, List.count_nil]
    omega

theorem gains_erase (l : Line) (part : Int) : l.Gains [] (l.erase part) := by
  unfold erase
  split
  · intro c _
    have hparts := count_extract_add_le (c := c) l.cells (Nat.le_refl l.cursor)
    rw [eraseRight, List.count_nil]
    dsimp only
    omega
  split
  · intro c _
    have hparts := count_extract_add_le (c := c) l.cells (Nat.zero_le (l.cursor + 1))
    rw [eraseLeft, List.count_nil]
    dsimp only
    omega
  split
  · intro c _
    exact Nat.zero_le _
  · exact .of_cells rfl

/-- Escape sequences write nothing. -/
theorem gains_apply (e : Escape) (l : Line) : l.Gains [] (e.apply l) := by
  unfold Escape.apply
  cases e.command with
  | none => exact .of_cells rfl
  | some k =>
    cases k with
    | eraseLine => exact l.gains_erase _
    | eraseDisplay => exact l.gains_erase _
    | eraseChars => exact l.gains_blankOut _
    | insertChars => exact l.gains_insertBlanks _
    | deleteChars => exact l.gains_deleteChars _
    -- the others move the cursor or do nothing
    | _ => exact .of_cells rfl

/-- Control characters write nothing but spaces. -/
theorem gains_control {stops : TabStops} {l l' : Line} {c : Char}
    (h : l.control stops c = .ok l') : l.Gains [] l' := by
  unfold control at h
  split at h
  · cases h
    exact .of_cells rfl
  split at h
  · cases h
    exact .of_cells rfl
  split at h
  · obtain ⟨stop, -, rfl⟩ := map_eq_ok_iff.1 h
    exact l.gains_writeText_replicate _
  · cases h
    exact .of_cells rfl

end Line

/-! ## Replaying token by token -/

namespace Line

variable (stops : TabStops) (l : Line)

theorem replay_nil : l.replay stops [] = .ok l := by
  rw [replay, Token.scan_nil]
  rfl

theorem replay_cons {c : Char} (hc : c ≠ Control.escape) (t : Text) :
    l.replay stops (c :: t) = l.obey stops (.char c) >>= fun l' => l'.replay stops t := by
  rw [replay, Token.scan_cons hc, List.foldlM_cons]
  rfl

theorem replay_of_reads {s rest : Text} {e : Escape} (h : Escape.Reads s rest e) :
    l.replay stops (Control.escape :: (s ++ rest)) = (e.apply l).replay stops rest := by
  rw [replay, Token.scan_of_reads h, List.foldlM_cons]
  rfl

theorem replay_of_error {r : Text} {x : Overlong} (h : Escape.parse r = .error x) :
    l.replay stops (Control.escape :: r) = .error (.overlong x) := by
  rw [replay, Token.scan_of_error h]
  rfl

end Line

/-- What a token writes on a line: a character that is no control, and nothing else. -/
def Token.written : Token → Text
  | .char c => if Control.isControl c then [] else [c]
  | .sequence _ _ => []
  | .unreadable _ => []

namespace Line

/-- No control is written. -/
theorem isControl_of_mem_written {token : Token} {c : Char} (h : c ∈ token.written) :
    Control.isControl c = false := by
  cases token with
  | char d =>
    rw [Token.written] at h
    split at h
    · exact absurd h List.not_mem_nil
    · rename_i hd
      rw [List.mem_singleton.1 h]
      exact Bool.eq_false_iff.2 hd
  | sequence source e => exact absurd h List.not_mem_nil
  | unreadable x => exact absurd h List.not_mem_nil

/-- **What one token adds to a line.** -/
theorem gains_obey {stops : TabStops} {l l' : Line} {token : Token}
    (h : l.obey stops token = .ok l') : l.Gains token.written l' := by
  cases token with
  | char c =>
    rw [obey] at h
    rw [Token.written]
    split at h
    · rw [if_pos ‹_›]
      exact gains_control h
    · rw [if_neg ‹_›]
      cases h
      exact l.gains_write c
  | sequence source e =>
    cases h
    exact l.gains_apply e
  | unreadable x => cases h

/-- **What a row of tokens adds to a line.** -/
theorem gains_foldlM_obey {stops : TabStops} {tokens : List Token} {l l' : Line}
    (h : tokens.foldlM (obey stops) l = .ok l') : l.Gains (tokens.flatMap Token.written) l' := by
  induction tokens generalizing l with
  | nil =>
    cases h
    exact .of_cells rfl
  | cons token tokens ih =>
    rw [List.foldlM_cons] at h
    cases ho : l.obey stops token with
    | error f =>
      rw [ho] at h
      cases h
    | ok l₁ =>
      rw [ho] at h
      exact (gains_obey ho).trans (ih h)

/-- A row of tokens that is obeyed has been read. -/
theorem unreadable_not_mem_of_foldlM_obey {stops : TabStops} {tokens : List Token} {l l' : Line}
    (h : tokens.foldlM (obey stops) l = .ok l') : ∀ x, .unreadable x ∉ tokens := by
  induction tokens generalizing l with
  | nil => exact fun x => List.not_mem_nil
  | cons token tokens ih =>
    rw [List.foldlM_cons] at h
    cases ho : l.obey stops token with
    | error f =>
      rw [ho] at h
      cases h
    | ok l₁ =>
      rw [ho] at h
      intro x hmem
      rcases List.mem_cons.1 hmem with rfl | hmem
      · cases ho
      · exact ih h x hmem

end Line

namespace Screen

theorem mem_of_mem_dropEndWhile {p : Char → Bool} {t : Text} {c : Char}
    (h : c ∈ Text.dropEndWhile p t) : c ∈ t := by
  rw [Text.dropEndWhile, List.mem_reverse] at h
  exact List.mem_reverse.1 ((List.dropWhile_suffix p).subset h)

/-- **There are no controls in a rendered line.** -/
theorem isControl_of_renderLine {stops : TabStops} {t s : Text} (h : renderLine stops t = .ok s) :
    ∀ c ∈ s, Control.isControl c = false := by
  intro c hc
  obtain ⟨l, hl, rfl⟩ := map_eq_ok_iff.1 h
  have hcell : c ∈ l.cells := Array.mem_toList_iff.1 (mem_of_mem_dropEndWhile hc)
  rcases (Line.gains_foldlM_obey hl).mem hcell with hold | rfl | hwritten
  · exact absurd hold (Array.not_mem_empty c)
  · rfl
  · obtain ⟨token, -, htoken⟩ := List.mem_flatMap.1 hwritten
    exact Line.isControl_of_mem_written htoken

/-- Cut at its first line feed, a joined text begins with the first line and a return. -/
theorem intercalate_lineEnd_cons (l m : Text) (ls : List Text) :
    lineEnd.intercalate (l :: m :: ls) =
      (l ++ ['\r']) ++ '\n' :: lineEnd.intercalate (m :: ls) := by
  rw [List.intercalate_cons_cons, lineEnd]
  simp

/-- The lines of a joined text are those that were joined, with a return at the end of each but the
last. -/
theorem lines_intercalate_cons {l m : Text} {ls : List Text} (h : '\n' ∉ l) :
    Text.lines (lineEnd.intercalate (l :: m :: ls)) =
      (l ++ ['\r']) :: Text.lines (lineEnd.intercalate (m :: ls)) := by
  have hreturn : '\n' ∉ l ++ ['\r'] := by
    rw [List.mem_append, List.mem_singleton]
    rintro (hl | hr)
    · exact h hl
    · exact absurd hr (by decide)
  rw [intercalate_lineEnd_cons, Text.lines, List.splitOn_append_cons_self_of_not_mem hreturn]
  rfl

/-- As many lines without line feeds can be told apart when they are joined. -/
theorem intercalate_lineEnd_inj {ls ms : List Text} (hlength : ls.length = ms.length)
    (hls : ∀ l ∈ ls, '\n' ∉ l) (hms : ∀ m ∈ ms, '\n' ∉ m)
    (h : lineEnd.intercalate ls = lineEnd.intercalate ms) : ls = ms := by
  induction ls generalizing ms with
  | nil => exact (List.length_eq_zero_iff.1 hlength.symm).symm
  | cons l ls ih =>
    obtain _ | ⟨m, ms⟩ := ms
    · cases hlength
    have hrest := Nat.succ.inj hlength
    obtain _ | ⟨l', ls⟩ := ls
    · obtain rfl := List.length_eq_zero_iff.1 hrest.symm
      rw [List.intercalate_singleton, List.intercalate_singleton] at h
      rw [h]
    obtain _ | ⟨m', ms⟩ := ms
    · cases hrest
    -- cut at line feeds, both texts begin with a first line and a return
    have hlines := congrArg Text.lines h
    rw [lines_intercalate_cons (hls l List.mem_cons_self),
      lines_intercalate_cons (hms m List.mem_cons_self), List.cons.injEq] at hlines
    obtain ⟨hfirst, hothers⟩ := hlines
    have hjoined := congrArg (List.intercalate ['\n']) hothers
    simp only [Text.lines, List.intercalate_splitOn] at hjoined
    rw [List.append_cancel_right hfirst, ih hrest (fun x hx => hls x (List.mem_cons_of_mem l hx))
      (fun x hx => hms x (List.mem_cons_of_mem m hx)) hjoined]

theorem isControl_of_mapM {stops : TabStops} {ls rs : List Text}
    (h : ls.mapM (renderLine stops) = .ok rs) :
    ∀ r ∈ rs, ∀ c ∈ r, Control.isControl c = false := by
  intro r hr
  obtain ⟨l, -, hl⟩ := exists_of_mem_mapM h hr
  exact isControl_of_renderLine hl

/-- A text has as many rendered lines as it has lines, and there are no line feeds in them. -/
theorem mapM_renderLine {stops : TabStops} {ls rs : List Text}
    (h : ls.mapM (renderLine stops) = .ok rs) : rs.length = ls.length ∧ ∀ r ∈ rs, '\n' ∉ r := by
  refine ⟨?_, fun r hr hfeed => absurd (isControl_of_mapM h r hr _ hfeed) (by decide)⟩
  induction ls generalizing rs with
  | nil =>
    cases h
    rfl
  | cons l ls ih =>
    obtain ⟨r, -, ss, hss, rfl⟩ := exists_of_mapM_cons h
    exact congrArg Nat.succ (ih hss)

/-- A rendered text is joined of the rendered lines of the text. -/
theorem exists_of_render {stops : TabStops} {t r : Text} (h : render stops t = .ok r) :
    ∃ rs, t.lines.mapM (renderLine stops) = .ok rs ∧ r = lineEnd.intercalate rs := by
  obtain ⟨rs, hrs, rfl⟩ := map_eq_ok_iff.1 h
  exact ⟨rs, hrs, rfl⟩

/-- Normalizing renders with even tab stops. -/
theorem render_of_normalize {width : Int} {t r : Text} (h : normalize width t = .ok r) :
    render (.every width) t = .ok r := by
  rw [normalize, TabStops.every?] at h
  split at h
  · cases h
  · exact h

/-- A normalized text is joined of the rendered lines of the text. -/
theorem exists_of_normalize {width : Int} {t r : Text} (h : normalize width t = .ok r) :
    ∃ rs, t.lines.mapM (renderLine (.every width)) = .ok rs ∧ r = lineEnd.intercalate rs :=
  exists_of_render (render_of_normalize h)

theorem mem_intercalate {sep : Text} {ls : List Text} {c : Char} (h : c ∈ sep.intercalate ls) :
    c ∈ sep ∨ ∃ l ∈ ls, c ∈ l := by
  induction ls with
  | nil => exact absurd h List.not_mem_nil
  | cons l ls ih =>
    cases ls with
    | nil =>
      rw [List.intercalate_singleton] at h
      exact .inr ⟨l, List.mem_cons_self, h⟩
    | cons m ls =>
      rw [List.intercalate_cons_cons, List.mem_append, List.mem_append] at h
      rcases h with (h | h) | h
      · exact .inr ⟨l, List.mem_cons_self, h⟩
      · exact .inl h
      · obtain h | ⟨k, hk, hc⟩ := ih h
        · exact .inl h
        · exact .inr ⟨k, List.mem_cons_of_mem l hk, hc⟩

/-- The only controls in a rendered text are those of its line ends. -/
theorem isControl_of_render {stops : TabStops} {t r : Text} (h : render stops t = .ok r) :
    ∀ c ∈ r, Control.isControl c = false ∨ c = '\r' ∨ c = '\n' := by
  obtain ⟨rs, hrs, rfl⟩ := exists_of_render h
  intro c hc
  rcases mem_intercalate hc with hc | ⟨l, hl, hc⟩
  · exact .inr (by simpa [lineEnd] using hc)
  · exact .inl (isControl_of_mapM hrs l hl c hc)

end Screen

end Teletype
