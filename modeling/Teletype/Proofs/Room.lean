import Teletype.Proofs.Dropping
import Teletype.Proofs.Mortality

/-!
# Room for sessions

A pool counts the sessions that live and the names that are reserved before it reserves another one.
What it counts only grows smaller until then, so there is room for the new session, and a reserved
name makes room for the session that is registered under it (`Roomy.move`). The names that are
reserved are those of the calls that are about to start a session (`Settled.perm_held`). All this
needs names that are not taken twice: it is enough that nobody asks for a name that looks made up
(`Ahead.move`).
-/

namespace Teletype

open Teletype.Action

namespace Roster

/-! ## Names that are made up -/

/-- What stands before the number of a name can be read off it. -/
theorem eq_of_suffixed_eq {name name' : String} {m n : Nat}
    (h : suffixed name m = suffixed name' n) : name = name' := by
  have hlist : name.toList ++ '_' :: Nat.toDigits 10 m =
      name'.toList ++ '_' :: Nat.toDigits 10 n := by
    have := congrArg String.toList h
    simpa [suffixed, String.toList_append, Nat.toList_repr] using this
  -- the two cuts are at the same place: there is no other underscore behind either
  have hcut : ∀ {a b : Text} {k : Nat} {rest : Text},
      '_' :: Nat.toDigits 10 k = a ++ '_' :: rest → b ++ a = b := by
    intro a b k rest hab
    cases a with
    | nil => exact List.append_nil b
    | cons c a =>
      have hmem : '_' ∈ Nat.toDigits 10 k := by
        rw [(List.cons.inj hab).2]
        simp
      exact absurd hmem Nat.underscore_not_in_toDigits
  rw [← String.toList_inj]
  rcases List.append_eq_append_iff.1 hlist with ⟨a, ha, hrest⟩ | ⟨a, ha, hrest⟩
  · rw [ha, hcut hrest]
  · rw [ha, hcut hrest]

/-- The name that is made up when so many were made up before. -/
def madeUp (n : Nat) : String :=
  suffixed "session" n

theorem nameFor_unnamed {q : Request} (h : q.wanted = none) (r : Roster) :
    r.nameFor q.name = (madeUp r.counter, { r with counter := r.counter + 1 }) := by
  rw [Request.wanted] at h
  rw [nameFor, h]
  rfl

theorem nameFor_named {q : Request} {name : String} (h : q.wanted = some name) (r : Roster) :
    r.nameFor q.name = (r.freeName name, r) := by
  rw [Request.wanted] at h
  rw [nameFor, h]

/-- A name does not begin like those that are made up. -/
def Apart (name : String) : Prop :=
  ∀ rest, name ≠ "session" ++ rest

/-- Nothing that is made of such a name is a name that is made up. -/
theorem freeName_ne_madeUp {name : String} (h : Apart name) (r : Roster) (n : Nat) :
    r.freeName name ≠ madeUp n := by
  intro heq
  rcases r.freeName_spec name with ⟨-, hname⟩ | ⟨-, k, hname, -⟩
  · rw [hname] at heq
    exact h ("_" ++ toString n) (by rw [heq, madeUp, suffixed, String.append_assoc])
  · rw [hname] at heq
    exact h "" (by rw [eq_of_suffixed_eq heq, String.append_empty])

theorem countP_put_le (q : String × Nat → Bool) (name : String) (session : Nat)
    (entries : List (String × Nat)) :
    (put name session entries).countP q ≤ entries.countP q + 1 := by
  induction entries with
  | nil => simp only [put, List.countP_singleton]; split <;> simp
  | cons e rest ih =>
    obtain ⟨n, s⟩ := e
    rw [put]
    split
    · simp only [List.countP_cons]
      split <;> split <;> omega
    · simp only [List.countP_cons]
      omega

theorem nodup_reserve {r : Roster} (h : r.reserved.Nodup) (name : String) :
    (r.reserve name).reserved.Nodup := by
  rw [reserve]
  simp only
  split
  · exact h
  · rename_i hname
    rw [List.contains_iff_mem] at hname
    rw [← List.concat_eq_append]
    exact h.concat hname

theorem length_reserve_le (r : Roster) (name : String) :
    (r.reserve name).reserved.length ≤ r.reserved.length + 1 := by
  rw [reserve]
  simp only
  split
  · exact Nat.le_succ _
  · rw [List.length_append, List.length_singleton]

end Roster

/-- The counter goes on when a spawn is given a name. -/
theorem Effect.counter {σ τ : Type} {c c' : Call} {w w' : World σ τ} (h : Effect (c, w) (c', w')) :
    w.roster.counter ≤ w'.roster.counter ∧ ∀ r, c = .spawn r → c'.held ≠ none →
      w'.roster.counter = (w.roster.nameFor r.name).2.counter := by
  cases h with
  | quiet hw _ _ hheld => exact ⟨by rw [hw.1], by rintro r rfl hc; exact absurd hheld hc⟩
  | found hw _ _ hheld => exact ⟨by rw [hw.1], by rintro r rfl hc; exact absurd hheld hc⟩
  | dropped _ _ hheld => exact ⟨Nat.le_refl _, by rintro r rfl hc; exact absurd hheld hc⟩
  | opened hroster => exact ⟨by rw [hroster], by rintro r ⟨⟩⟩
  | @reserved r _ _ _ hroster _ =>
    rw [hroster, Roster.reserve]
    refine ⟨?_, by rintro q ⟨⟩ -; rfl⟩
    rw [Roster.nameFor]
    split
    · exact Nat.le_refl _
    · exact Nat.le_succ _
  | gaveBack => exact ⟨Nat.le_refl _, by rintro r ⟨⟩⟩
  | registered => exact ⟨Nat.le_refl _, by rintro r ⟨⟩⟩
  | cleared => exact ⟨Nat.le_refl _, by rintro r ⟨⟩⟩

/-- No name is reserved twice, whatever an effect does. -/
theorem Effect.nodup_reserved {σ τ : Type} {c c' : Call} {w w' : World σ τ}
    (h : Effect (c, w) (c', w')) (hw : w.roster.reserved.Nodup) : w'.roster.reserved.Nodup := by
  cases h with
  | quiet hworld => rw [hworld.1]; exact hw
  | found hworld => rw [hworld.1]; exact hw
  | opened hroster => rw [hroster]; exact hw
  | reserved hroster =>
    rw [hroster]
    refine Roster.nodup_reserve ?_ _
    rw [Roster.reserved_nameFor]
    exact hw
  | gaveBack => exact hw.filter _
  | registered => exact hw.filter _
  | dropped => exact hw
  | cleared => exact hw

namespace Overlap

variable {σ ρ τ : Type}

/-- No name is taken that is still to be made up, and nobody is about to ask for one. -/
structure Ahead (o : Overlap σ τ) : Prop where
  untaken : ∀ n ≥ o.world.roster.counter, o.world.roster.isTaken (Roster.madeUp n) = false
  apart : ∀ i r, o.call i = .spawn r → ∀ name, r.wanted = some name → Roster.Apart name

/-- Every name that is reserved is held by a call, and none is reserved twice. -/
structure Claimed (o : Overlap σ τ) : Prop where
  held : ∀ name ∈ o.world.roster.reserved, ∃ i, (o.call i).held = some name
  nodup : o.world.roster.reserved.Nodup

theorem ahead_start (system : σ) : (start system : Overlap σ τ).Ahead where
  untaken n _ := rfl
  apart := by rintro i r ⟨⟩

theorem claimed_start (system : σ) : (start system : Overlap σ τ).Claimed where
  held := by rintro name ⟨⟩
  nodup := List.nodup_nil

/-- **The reserved names are those that calls hold.** -/
theorem Orderly.perm_held {o : Overlap σ τ} (ho : o.Orderly) (hclaimed : o.Claimed) :
    o.world.roster.reserved.Perm (o.calls.filterMap Call.held) := by
  have hcall : ∀ {i c}, o.calls[i]? = some c → o.call i = c := by
    intro i c h
    rw [call, List.getD_eq_getElem?_getD, h]
    rfl
  have hnodup : (o.calls.filterMap Call.held).Nodup := by
    rw [List.Nodup, List.pairwise_filterMap, List.pairwise_iff_getElem]
    rintro i j hi hj hij a ha b hb rfl
    have hi := hcall (List.getElem?_eq_getElem hi)
    have hj := hcall (List.getElem?_eq_getElem hj)
    exact absurd (ho.alone i j a (hi ▸ ha) (hj ▸ hb)) (Nat.ne_of_lt hij)
  -- neither list has a name twice, so it is enough that they have the same names
  refine (List.perm_ext_iff_of_nodup hclaimed.nodup hnodup).2 fun name => ?_
  rw [List.mem_filterMap]
  constructor
  · intro h
    obtain ⟨i, hi⟩ := hclaimed.held name h
    rw [call, List.getD_eq_getElem?_getD] at hi
    cases hc : o.calls[i]? with
    | none => rw [hc] at hi; cases hi
    | some c =>
      rw [hc] at hi
      exact ⟨c, List.mem_of_getElem? hc, hi⟩
  · rintro ⟨c, hmem, hheld⟩
    obtain ⟨i, hi⟩ := List.getElem?_of_mem hmem
    exact ho.reserved i name (by rw [hcall hi]; exact hheld)

variable [TimeScale τ] {p : Pool σ ρ τ}

/-- A name that is made up is not taken. -/
theorem Ahead.not_makesUpTaken {o : Overlap σ τ} (ho : o.Ahead) (m : Move σ τ) :
    ¬MakesUpTaken p o m := by
  rintro ⟨i, r, name, rfl, hspawn, hwanted, hheld, htaken⟩
  rcases (effect_step p o i).reservations with ⟨hsame, -, -⟩ | ⟨q, hq, hname, -, -⟩ | ⟨_, hname, -⟩
  · rw [hsame, hspawn] at hheld
    cases hheld
  · obtain rfl : q = r := Call.spawn.inj (hq.symm.trans hspawn)
    rw [hname, Roster.nameFor_unnamed hwanted] at hheld
    rw [← Option.some.inj hheld, ho.untaken _ (Nat.le_refl _)] at htaken
    cases htaken
  · rw [hspawn] at hname
    cases hname

/-- **No name that is still to be made up is taken**, as long as nobody asks for one. -/
theorem Ahead.move {o : Overlap σ τ} (ho : o.Ahead) (horderly : o.Orderly) {m : Move σ τ}
    (hm : ∀ r, m = .order (.spawn r) → ∀ name, r.wanted = some name → Roster.Apart name) :
    (Overlap.move p o m).Ahead := by
  obtain ⟨i, heffect, -, -⟩ := exists_effect p o m
  obtain ⟨hcounter, hnext⟩ := heffect.counter
  constructor
  · intro n hn
    have hold := ho.untaken n (Nat.le_trans hcounter hn)
    rw [← Bool.not_eq_true, Roster.isTaken_eq_true] at hold ⊢
    rcases heffect.reservations with ⟨-, hreserved, hnames⟩ | ⟨r, hspawn, hheld, hreserved, hnames⟩ |
      ⟨name, hname, -, hreserved, hnames⟩
    · rw [hreserved]
      exact fun htaken => hold (htaken.imp_left fun h => hnames h)
    · rw [hreserved, hnames]
      have hcount := hnext r hspawn (by rw [hheld]; exact Option.some_ne_none _)
      rintro (hmem | heq | hmem)
      · exact hold (.inl hmem)
      -- the name that the spawn got is another one
      · cases hwanted : r.wanted with
        | none =>
          rw [Roster.nameFor_unnamed hwanted] at heq hcount
          have := Roster.suffixed_injective _ heq
          rw [hcount] at hn
          simp only at hn
          omega
        | some name =>
          rw [Roster.nameFor_named hwanted] at heq
          exact Roster.freeName_ne_madeUp (ho.apart i r hspawn name hwanted) _ n heq.symm
      · exact hold (.inr hmem)
    · rw [hreserved]
      rintro (hmem | hmem)
      · rcases hnames _ hmem with hmem | heq
        · exact hold (.inl hmem)
        · rw [heq] at hold
          exact hold (.inr (horderly.reserved i name hname))
      · exact hold (.inr hmem.1)
  · intro j r hj
    rcases spawn_of_move hj with hold | hnew
    · exact ho.apart j r hold
    · exact hm r hnew

/-- **Every reserved name is held by a call.** -/
theorem Claimed.move {o : Overlap σ τ} (ho : o.Claimed) (m : Move σ τ) :
    (Overlap.move p o m).Claimed := by
  obtain ⟨i, heffect, hothers, -⟩ := exists_effect p o m
  refine ⟨fun x hx => ?_, heffect.nodup_reserved ho.nodup⟩
  have hstays : ∀ {j}, j ≠ i → (o.call j).held = some x →
      ∃ k, ((Overlap.move p o m).call k).held = some x := fun hj hx =>
    ⟨_, by rw [hothers _ hj]; exact hx⟩
  rcases heffect.reservations with ⟨hsame, hreserved, -⟩ | ⟨r, hspawn, hheld, hreserved, -⟩ |
    ⟨name, hname, -, hreserved, -⟩
  · rw [hreserved] at hx
    obtain ⟨j, hj⟩ := ho.held x hx
    by_cases hji : j = i
    · exact ⟨i, by rw [hsame, ← hji]; exact hj⟩
    · exact hstays hji hj
  · rcases (hreserved x).1 hx with rfl | hx
    · exact ⟨i, hheld⟩
    · obtain ⟨j, hj⟩ := ho.held x hx
      refine hstays ?_ hj
      rintro rfl
      rw [hspawn] at hj
      cases hj
  · -- the call that gave its name back held that one only
    obtain ⟨hx, hne⟩ := (hreserved x).1 hx
    obtain ⟨j, hj⟩ := ho.held x hx
    refine hstays ?_ hj
    rintro rfl
    exact hne (Option.some.inj (hj.symm.trans hname))

end Overlap

/-! ## Counting -/

namespace World

variable {σ τ : Type} (alive : σ → Nat → Bool)

/-- Whether the child of a session is alive. -/
def lives (w : World σ τ) (number : Nat) : Bool :=
  (w.seats[number]?).any fun seat => alive w.system seat.process

/-- How many of the registered sessions are alive. -/
def living (w : World σ τ) : Nat :=
  w.roster.entries.countP fun e => w.lives alive e.2

variable {alive}

theorem Ages.lt_size {w w' : World σ τ} (h : w.Ages alive w') {number : Nat}
    (hlt : number < w.seats.size) : number < w'.seats.size := by
  obtain ⟨seat', hseat', -⟩ := h.seats number _ (Array.getElem?_eq_getElem hlt)
  exact (Array.getElem?_eq_some_iff.1 hseat').1

/-- A session that is alive was alive before. -/
theorem Ages.lives {w w' : World σ τ} (h : w.Ages alive w') {number : Nat}
    (hlt : number < w.seats.size) (halive : w'.lives alive number = true) :
    w.lives alive number = true := by
  have hseat := Array.getElem?_eq_getElem hlt
  obtain ⟨seat', hseat', hprocess⟩ := h.seats number _ hseat
  rw [World.lives, hseat', Option.any_some, hprocess] at halive
  rw [World.lives, hseat, Option.any_some]
  exact h.noneRevives _ halive

/-- Of the same sessions no more are alive later. -/
theorem Ages.countP_le {w w' : World σ τ} (h : w.Ages alive w') {entries : List (String × Nat)}
    (hlt : ∀ e ∈ entries, e.2 < w.seats.size) :
    entries.countP (fun e => w'.lives alive e.2) ≤ entries.countP fun e => w.lives alive e.2 :=
  List.countP_mono_left fun e he => h.lives (hlt e he)

end World

namespace Pool

variable {σ ρ τ : Type} {p : Pool σ ρ τ} {alive : σ → Nat → Bool} (hp : p.system.Mortal alive)

include hp

/-- What a pool is told of the child of a session is the truth. -/
theorem lives_of_isAlive {number : Nat} {lives : Bool} {w w' : World σ τ}
    (hrun : (p.alone.isAlive number).runFrom w = (.ok lives, w')) (hlt : number < w.seats.size) :
    lives = w.lives alive number := by
  have hseat := Array.getElem?_eq_getElem hlt
  have hask : ((Host.ask (p.alone.host number w.seats[number].process).isAlive).mapFault
      PoolFault.session).runFrom w = (.ok lives, w') := by
    rw [← hrun, isAlive, withHost, runFrom_bind, runFrom_look, hostAt, hseat]
  have hzoom := Host.ask_eq_ok_iff.1 (runFrom_mapFault_eq_ok_iff.1 hask)
  rw [World.lives, hseat, Option.any_some]
  cases hchild : (p.system.child w.seats[number].process).isAlive.runFrom w.system with
  | mk r s =>
    have hresult : r = .ok lives :=
      (congrArg Prod.fst hchild).symm.trans (congrArg Prod.fst hzoom)
    exact hp.truthful (hresult ▸ hchild)

/-- The sessions that are alive after a pool has counted are among those that it has counted. -/
theorem countP_le_of_alive {entries : List (String × Nat)} {names : List String}
    {w w' : World σ τ} (hrun : (p.alone.alive entries).runFrom w = (.ok names, w'))
    (hlt : ∀ e ∈ entries, e.2 < w.seats.size) :
    entries.countP (fun e => w'.lives alive e.2) ≤ names.length := by
  induction entries generalizing w names with
  | nil => exact Nat.zero_le _
  | cons e rest ih =>
    obtain ⟨lives, w₁, hlives, hrun⟩ := exists_of_runFrom_bind hrun
    obtain ⟨others, w₂, hothers, hrun⟩ := exists_of_runFrom_bind hrun
    cases hrun
    have hages := (ages hp).isAlive e.2 w
    have hages' := (ages hp).alive rest w₁
    rw [hlives] at hages
    rw [hothers] at hages'
    have hcount := ih hothers fun x hx => hages.lt_size (hlt x (List.mem_cons_of_mem _ hx))
    -- who is alive after all were asked was alive when it was asked itself
    have htold := lives_of_isAlive hp hlives (hlt e List.mem_cons_self)
    have hhead := (trans_of _ hages hages').lives (hlt e List.mem_cons_self)
    rw [List.countP_cons]
    cases lives with
    | true =>
      rw [if_pos rfl, List.length_cons]
      have : (if w'.lives alive e.2 = true then 1 else 0) ≤ 1 := by split <;> omega
      omega
    | false =>
      have hdead : w'.lives alive e.2 = false := by
        rw [← Bool.not_eq_true]
        intro halive
        rw [hhead halive] at htold
        cases htold
      rw [hdead, if_neg Bool.false_ne_true]
      exact hcount

/-- A name is reserved only where there is room for one more session. -/
theorem room_of_reserve {wanted : Option String} {name : String} {w w' : World σ τ}
    (hrun : (p.alone.reserve wanted).runFrom w = (.ok name, w'))
    (hlt : ∀ e ∈ w.roster.entries, e.2 < w.seats.size) :
    ((w.roster.entries.countP (fun e => w'.lives alive e.2) + w.roster.reserved.length : Nat) : Int)
      < p.options.maxSessions := by
  rw [reserve, entries, runFrom_bind, runFrom_look] at hrun
  obtain ⟨active, w₁, hactive, hrun⟩ := exists_of_runFrom_bind hrun
  have hcount := countP_le_of_alive hp hactive hlt
  have huntouched := p.alive_untouched w.roster.entries w
  rw [hactive] at huntouched
  rw [runFrom_bind, runFrom_look] at hrun
  simp only at hrun
  split at hrun
  · cases hrun
  · rename_i hroom
    rw [huntouched.1] at hroom
    cases hrun
    -- the reservation itself changes nothing about who lives
    have hle := Int.ofNat_le.2 (Nat.add_le_add_right hcount w.roster.reserved.length)
    exact Int.lt_of_le_of_lt hle (Int.not_le.1 hroom)

end Pool

/-- **What an effect does to the room that is taken**: no more is taken than before, unless a spawn
reserves a name. A session that is registered takes the room of its name. -/
theorem Effect.room {σ τ : Type} {alive : σ → Nat → Bool} {c c' : Call} {w w' : World σ τ}
    (h : Effect (c, w) (c', w')) (hages : w.Ages alive w')
    (hlt : ∀ e ∈ w.roster.entries, e.2 < w.seats.size)
    (hheld : ∀ name, c.held = some name → name ∈ w.roster.reserved) :
    w'.living alive + w'.roster.reserved.length ≤ w.living alive + w.roster.reserved.length ∨
    ∃ r command, c = .spawn r ∧ c' = .starting (w.roster.nameFor r.name).1 command r ∧
      w'.roster.entries = w.roster.entries ∧
      w'.roster.reserved.length ≤ w.roster.reserved.length + 1 := by
  have hcount := hages.countP_le hlt
  have hfewer : w'.roster.entries.Sublist w.roster.entries →
      w'.living alive ≤ w.living alive := fun hsub => Nat.le_trans hsub.countP_le hcount
  cases h with
  | quiet hw =>
    rw [hw.1] at hfewer ⊢
    exact .inl (Nat.add_le_add_right (hfewer (List.Sublist.refl _)) _)
  | found hw =>
    rw [hw.1] at hfewer ⊢
    exact .inl (Nat.add_le_add_right (hfewer (List.Sublist.refl _)) _)
  | opened hroster =>
    rw [hroster] at hfewer ⊢
    exact .inl (Nat.add_le_add_right (hfewer (List.Sublist.refl _)) _)
  | dropped => exact .inl (Nat.add_le_add_right (hfewer List.filter_sublist) _)
  | cleared => exact .inl (Nat.add_le_add_right (hfewer (List.nil_sublist _)) _)
  | gaveBack =>
    exact .inl (Nat.add_le_add (hfewer (List.Sublist.refl _)) (List.length_filter_le _ _))
  | @registered name number _ _ =>
    have hput := Roster.countP_put_le (fun e => w.lives alive e.2) name number w.roster.entries
    have hfreed : (w.roster.reserved.filter (· != name)).length < w.roster.reserved.length :=
      List.length_filter_lt_length_iff_exists.2 ⟨name, hheld name rfl, by simp⟩
    -- who lives is the same, and one session came for one name
    have hliving : World.living alive { w with roster := w.roster.register name number } ≤
        w.living alive + 1 := hput
    have hlength : (w.roster.register name number).reserved.length <
        w.roster.reserved.length := hfreed
    refine .inl ?_
    simp only
    omega
  | @reserved r command _ _ hroster _ =>
    have hlength := Roster.length_reserve_le (w.roster.nameFor r.name).2 (w.roster.nameFor r.name).1
    rw [← hroster, Roster.reserved_nameFor] at hlength
    refine .inr ⟨r, command, rfl, rfl, ?_, hlength⟩
    rw [hroster]
    exact Roster.entries_nameFor _ _

/-- A spawn that comes to a name has reserved it. -/
theorem Pool.reserve_of_advance {σ ρ τ : Type} [TimeScale τ] {p : Pool σ ρ τ} {r q : Request}
    {name command : String} {w w' : World σ τ}
    (h : p.advance (.spawn r, w) = (.starting name command q, w')) :
    (p.reserve r.name).runFrom w = (.ok name, w') := by
  simp only [advance, step] at h
  cases hcommand : r.command.filter fun command => !command.isEmpty with
  | none =>
    simp only [hcommand] at h
    cases h
  | some command =>
    simp only [hcommand, runFrom_bind] at h
    cases hr : (p.reserve r.name).runFrom w with
    | mk result w₁ =>
      rw [hr] at h
      cases result with
      | error f => cases h
      | ok name => cases h; rfl

namespace Overlap

variable {σ ρ τ : Type} {p : Pool σ ρ τ} {alive : σ → Nat → Bool}

/-- The sessions that live and the names that are reserved are no more than may be. -/
def Roomy (p : Pool σ ρ τ) (alive : σ → Nat → Bool) (o : Overlap σ τ) : Prop :=
  ((o.world.living alive + o.world.roster.reserved.length : Nat) : Int) ≤
    max p.options.maxSessions 0

/-- Nobody asks for a session with a name that begins like those that are made up. -/
def AllApart (moves : List (Move σ τ)) : Prop :=
  ∀ r, .order (.spawn r) ∈ moves → ∀ name, r.wanted = some name → Roster.Apart name

/-- Numbers, names and room are as they should be. -/
structure Settled (p : Pool σ ρ τ) (alive : σ → Nat → Bool) (o : Overlap σ τ) : Prop where
  tracked : o.Tracked
  ahead : o.Ahead
  claimed : o.Claimed
  roomy : o.Roomy p alive

theorem settled_start (p : Pool σ ρ τ) (alive : σ → Nat → Bool) (system : σ) :
    (start system).Settled p alive where
  tracked := tracked_start system
  ahead := ahead_start system
  claimed := claimed_start system
  roomy := Int.le_max_right _ _

variable [TimeScale τ]

/-- **A move leaves room**: a name is reserved where there is room for it, and gives its room to the
session that is registered under it. -/
theorem Roomy.move (hp : p.system.Mortal alive) {o : Overlap σ τ} (ho : o.Roomy p alive)
    (htracked : o.Tracked) {m : Move σ τ} (hm : Natural alive m) :
    (Overlap.move p o m).Roomy p alive := by
  obtain ⟨i, heffect, -, hstep⟩ := exists_effect p o m
  rw [Roomy] at ho ⊢
  rcases heffect.room (ages_move hp o hm) htracked.entry_lt (htracked.orderly.reserved i) with
    hle | ⟨r, command, hspawn, hstarts, hentries, hreserved⟩
  · omega
  · rcases hstep with rfl | ⟨-, hdone⟩
    · have hadvance : p.alone.advance (.spawn r, o.world) =
          (.starting (o.world.roster.nameFor r.name).1 command r,
            (Overlap.move p o (.step i)).world) := by
        rw [← hspawn, ← hstarts, call_move_step]
        rfl
      have hroom := Pool.room_of_reserve hp (Pool.reserve_of_advance hadvance) htracked.entry_lt
      rw [World.living, hentries]
      omega
    · rw [hspawn] at hdone
      cases hdone

theorem Settled.run (hp : p.system.Mortal alive) {moves : List (Move σ τ)}
    (hapart : AllApart moves) (hnatural : ∀ m ∈ moves, Natural alive m) {o : Overlap σ τ}
    (ho : o.Settled p alive) : (Overlap.run p o moves).Settled p alive := by
  induction moves generalizing o with
  | nil => exact ho
  | cons m ms ih =>
    have hm : ∀ r, m = .order (.spawn r) → ∀ name, r.wanted = some name → Roster.Apart name := by
      rintro r rfl
      exact hapart r List.mem_cons_self
    have hnext : (Overlap.move p o m).Settled p alive :=
      { tracked := ho.tracked.move (ho.ahead.not_makesUpTaken m)
        ahead := ho.ahead.move ho.tracked.orderly hm
        claimed := ho.claimed.move m
        roomy := ho.roomy.move hp ho.tracked (hnatural m List.mem_cons_self) }
    exact ih (fun r hr => hapart r (List.mem_cons_of_mem _ hr))
      (fun m hm => hnatural m (List.mem_cons_of_mem _ hm)) hnext

/-- **A pool keeps to its limit however its calls overlap.** Where the dead stay dead and nobody asks
for a name that looks made up, the reserved names are at any time exactly those of the calls that are
about to start a session, none twice, and none of them is registered; and the registered sessions
that live and the reserved names together are no more than the limit. -/
theorem run_keeps_limit (hp : p.system.Mortal alive) (system : σ) {moves : List (Move σ τ)}
    (hapart : AllApart moves) (hnatural : ∀ m ∈ moves, Natural alive m) :
    let o := run p (start system) moves
    o.world.roster.reserved.Perm (o.calls.filterMap Call.held) ∧ o.world.roster.reserved.Nodup ∧
      (∀ name ∈ o.world.roster.reserved, name ∉ o.world.roster.names) ∧
      ((o.world.living alive + o.world.roster.reserved.length : Nat) : Int) ≤
        max p.options.maxSessions 0 := by
  intro o
  have ho := (settled_start p alive system).run hp hapart hnatural
  exact ⟨ho.tracked.orderly.perm_held ho.claimed, ho.claimed.nodup, ho.tracked.orderly.unregistered,
    ho.roomy⟩

end Overlap

/-- A pool with room for one session. -/
def Pool.narrow : Pool (Stage Empty Empty Unit) Empty Unit :=
  { scripted with options := { scripted.options with maxSessions := 1 } }

namespace Overlap

/-- While one session is started, another one is refused. The first one is registered and dies, and
a third one is about to be started. -/
def crowded : List (Move (Stage Empty Empty Unit) Unit) :=
  [.order (.spawn ⟨some "sh", some "a", none, none⟩), .step 0,
    .order (.spawn ⟨some "sh", some "b", none, none⟩), .step 1, .step 0, .step 0,
    .around (fun s => s.modify 0 fun q => q.exit (some 0)) fun _ s => s,
    .order (.spawn ⟨some "sh", none, none, none⟩), .step 2]

/-- The dead session is still registered, and leaves room for the third one. -/
theorem run_keeps_limit_crowded :
    Pool.narrow.system.Mortal Stage.lives ∧ AllApart crowded ∧
      (∀ m ∈ crowded, Natural Stage.lives m) ∧
      let o := run Pool.narrow (start (Stage.start [])) crowded
      o.world.roster.entries = [("a", 0)] ∧ o.world.roster.reserved = ["session_0"] ∧
        o.calls.filterMap Call.held = ["session_0"] ∧ o.world.living Stage.lives = 0 ∧
        ((o.world.living Stage.lives + o.world.roster.reserved.length : Nat) : Int) ≤ max 1 0 := by
  have hp : Pool.narrow.system.Mortal Stage.lives := Stage.mortal _
  have hapart : AllApart crowded := by
    have happart : ∀ name : String, name.length = 1 → Roster.Apart name := by
      rintro name hname rest rfl
      rw [String.length_append] at hname
      have : "session".length = 7 := rfl
      omega
    intro r hr name hname
    simp only [crowded, List.mem_cons, Move.order.injEq, Order.spawn.injEq, reduceCtorEq,
      List.not_mem_nil, false_or, or_false] at hr
    rcases hr with rfl | rfl | rfl
    · cases hname
      exact happart _ rfl
    · cases hname
      exact happart _ rfl
    · cases hname
  have hnatural : ∀ m ∈ crowded, Natural Stage.lives m := by
    simp only [crowded, List.forall_mem_cons, Natural, true_and]
    refine ⟨⟨fun s => ?_, fun _ _ => trivial⟩, List.forall_mem_nil _⟩
    exact Stage.noneRevives_modify (by rintro q ⟨⟩) s 0
  obtain ⟨hperm, -, -, hroom⟩ := run_keeps_limit hp (Stage.start []) hapart hnatural
  have hreserved : (run Pool.narrow (start (Stage.start [])) crowded).world.roster.reserved =
      ["session_0"] := by cbv
  refine ⟨hp, hapart, hnatural, by cbv, hreserved, ?_, by cbv, hroom⟩
  rw [hreserved] at hperm
  exact (List.singleton_perm.1 hperm).symm

end Overlap

end Teletype
