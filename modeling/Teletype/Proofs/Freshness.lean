import Mathlib
import Teletype.Proofs.FreeName
import Teletype.Proofs.Overlap

/-!
# Names under overlap

However the calls of a pool overlap, a name that is reserved stays with the call that it was reserved
for until that call gives it back or registers its session (`Orderly`). So a session is never
registered over another one, as long as each name is free when it is reserved.

A name that was asked for is made free first. A name that is made up is not, and it can be taken: by
a session that was given the same name on purpose. This is the only way in which a move goes wrong
(`Orderly.fresh_iff`), and the file ends with a run that does.
-/

namespace Teletype

/-- The name that a session is asked for with, if there is one. -/
def Request.wanted (r : Request) : Option String :=
  r.name.filter fun name => !name.isEmpty

namespace Roster

/-- A name that is asked for is not taken when it is given. -/
theorem isTaken_nameFor {r : Roster} {q : Request} (h : q.wanted ≠ none) :
    r.isTaken (r.nameFor q.name).1 = false := by
  obtain ⟨name, hname⟩ := Option.ne_none_iff_exists'.1 h
  rw [Request.wanted] at hname
  rw [nameFor, hname]
  exact r.isTaken_freeName name

theorem entries_nameFor (r : Roster) (wanted : Option String) :
    (r.nameFor wanted).2.entries = r.entries := by
  rw [nameFor]
  split <;> rfl

theorem reserved_nameFor (r : Roster) (wanted : Option String) :
    (r.nameFor wanted).2.reserved = r.reserved := by
  rw [nameFor]
  split <;> rfl

/-- A session under a name that is not registered comes to the end. -/
theorem put_of_not_mem {name : String} {entries : List (String × Nat)} (session : Nat)
    (h : name ∉ entries.map (·.1)) : put name session entries = entries ++ [(name, session)] := by
  induction entries with
  | nil => rfl
  | cons e rest ih =>
    obtain ⟨n, s⟩ := e
    simp only [List.map_cons, List.mem_cons, not_or] at h
    rw [put, if_neg (Ne.symm h.1), ih h.2]
    rfl

end Roster

/-- **What an effect does to reserved names.** The call holds what it held, and no name is registered
anew; or a spawn takes the name that the roster has for it; or the call gives up its name, which may
be registered then. -/
theorem Effect.reservations {σ τ : Type} {c c' : Call} {w w' : World σ τ}
    (h : Effect (c, w) (c', w')) :
    (c'.held = c.held ∧ w'.roster.reserved = w.roster.reserved ∧
      w'.roster.names ⊆ w.roster.names) ∨
    (∃ r, c = .spawn r ∧ c'.held = some (w.roster.nameFor r.name).1 ∧
      (∀ x, x ∈ w'.roster.reserved ↔
        x = (w.roster.nameFor r.name).1 ∨ x ∈ w.roster.reserved) ∧
      w'.roster.names = w.roster.names) ∨
    ∃ name, c.held = some name ∧ c'.held = none ∧
      (∀ x, x ∈ w'.roster.reserved ↔ x ∈ w.roster.reserved ∧ x ≠ name) ∧
      ∀ x ∈ w'.roster.names, x ∈ w.roster.names ∨ x = name := by
  cases h with
  | quiet hw _ _ hheld _ _ =>
    exact .inl ⟨hheld, by rw [hw.1], by rw [hw.1]; exact List.Subset.refl _⟩
  | found hw _ _ hheld _ _ =>
    exact .inl ⟨hheld, by rw [hw.1], by rw [hw.1]; exact List.Subset.refl _⟩
  | opened hroster _ _ =>
    exact .inl ⟨rfl, by rw [hroster], by rw [hroster]; exact List.Subset.refl _⟩
  | dropped _ _ hheld _ _ =>
    refine .inl ⟨hheld, rfl, ?_⟩
    rw [Roster.names_drop]
    exact List.filter_subset_self _
  | cleared => exact .inl ⟨rfl, rfl, List.nil_subset _⟩
  | @reserved r _ _ _ hroster _ =>
    refine .inr (.inl ⟨r, rfl, rfl, fun x => ?_, ?_⟩)
    · rw [hroster, Roster.mem_reserved_reserve, Roster.reserved_nameFor]
    · rw [hroster]
      exact congrArg (List.map Prod.fst) (Roster.entries_nameFor _ _)
  | gaveBack =>
    exact .inr (.inr ⟨_, rfl, rfl, w.roster.mem_reserved_release _, fun x hx => .inl hx⟩)
  | registered =>
    refine .inr (.inr ⟨_, rfl, rfl, w.roster.mem_reserved_release _, fun x hx => ?_⟩)
    rw [Roster.names_register] at hx
    split at hx
    · exact .inl hx
    · exact (List.mem_append.1 hx).imp_right List.mem_singleton.1

namespace Overlap

variable {σ ρ τ : Type}

/-- A name is free for a call: it is not registered, not reserved, and held by no other call. -/
structure IsFree (o : Overlap σ τ) (i : Nat) (name : String) : Prop where
  unregistered : name ∉ o.world.roster.names
  unreserved : name ∉ o.world.roster.reserved
  unheld : ∀ j ≠ i, (o.call j).held ≠ some name

/-- Every name that a call holds is reserved, and held by no other call; no name that is reserved is
registered as well. -/
structure Orderly (o : Overlap σ τ) : Prop where
  reserved : ∀ i name, (o.call i).held = some name → name ∈ o.world.roster.reserved
  alone : ∀ i j name, (o.call i).held = some name → (o.call j).held = some name → i = j
  unregistered : ∀ name ∈ o.world.roster.reserved, name ∉ o.world.roster.names

theorem orderly_start (system : σ) : (start system : Overlap σ τ).Orderly where
  reserved i name h := by cases h
  alone i j name h := by cases h
  unregistered name h := by cases h

/-- What is not taken is free for any call. -/
theorem Orderly.isFree {o : Overlap σ τ} (ho : o.Orderly) {name : String}
    (h : o.world.roster.isTaken name = false) (i : Nat) : o.IsFree i name := by
  have htaken : ¬(name ∈ o.world.roster.names ∨ name ∈ o.world.roster.reserved) := by
    rw [← Roster.isTaken_eq_true, h]
    exact Bool.false_ne_true
  rw [not_or] at htaken
  exact ⟨htaken.1, htaken.2, fun j _ hheld => htaken.2 (ho.reserved j name hheld)⟩

/-- Order stays where no call holds anything else, and no name is registered anew. -/
theorem Orderly.of_held {o o' : Overlap σ τ} (ho : o.Orderly)
    (hheld : ∀ j, (o'.call j).held = (o.call j).held)
    (hreserved : o'.world.roster.reserved = o.world.roster.reserved)
    (hnames : o'.world.roster.names ⊆ o.world.roster.names) : o'.Orderly where
  reserved j x h := by
    rw [hreserved]
    exact ho.reserved j x (hheld j ▸ h)
  alone j k x hj hk := ho.alone j k x (hheld j ▸ hj) (hheld k ▸ hk)
  unregistered x hx hmem := ho.unregistered x (hreserved ▸ hx) (hnames hmem)

/-- Order stays when a call takes a free name. -/
theorem Orderly.of_reserved {o o' : Overlap σ τ} (ho : o.Orderly) {i : Nat} {name : String}
    (hfree : o.IsFree i name) (hi : (o'.call i).held = some name)
    (hothers : ∀ j ≠ i, o'.call j = o.call j)
    (hreserved : ∀ x, x ∈ o'.world.roster.reserved ↔ x = name ∨ x ∈ o.world.roster.reserved)
    (hnames : o'.world.roster.names = o.world.roster.names) : o'.Orderly where
  reserved j x h := by
    rw [hreserved]
    by_cases hj : j = i
    · subst hj
      exact .inl (Option.some.inj (h.symm.trans hi))
    · exact .inr (ho.reserved j x (hothers j hj ▸ h))
  alone j k x hj hk := by
    -- nobody else can hold the name, so it tells the two calls apart
    by_cases hji : j = i
    · by_cases hki : k = i
      · rw [hji, hki]
      · subst hji
        rw [hi] at hj
        exact absurd ((hothers k hki ▸ hk).trans hj.symm) (hfree.unheld k hki)
    · by_cases hki : k = i
      · subst hki
        rw [hi] at hk
        exact absurd ((hothers j hji ▸ hj).trans hk.symm) (hfree.unheld j hji)
      · exact ho.alone j k x (hothers j hji ▸ hj) (hothers k hki ▸ hk)
  unregistered x hx := by
    rw [hnames]
    rcases (hreserved x).1 hx with rfl | hx
    · exact hfree.unregistered
    · exact ho.unregistered x hx

/-- Order stays when a call gives up its name, even if the name is registered then. -/
theorem Orderly.of_released {o o' : Overlap σ τ} (ho : o.Orderly) {i : Nat} {name : String}
    (hname : (o.call i).held = some name) (hi : (o'.call i).held = none)
    (hothers : ∀ j ≠ i, o'.call j = o.call j)
    (hreserved : ∀ x, x ∈ o'.world.roster.reserved ↔ x ∈ o.world.roster.reserved ∧ x ≠ name)
    (hnames : ∀ x ∈ o'.world.roster.names, x ∈ o.world.roster.names ∨ x = name) : o'.Orderly where
  reserved j x h := by
    have hj : j ≠ i := by
      rintro rfl
      rw [hi] at h
      cases h
    rw [hothers j hj] at h
    refine (hreserved x).2 ⟨ho.reserved j x h, ?_⟩
    rintro rfl
    exact hj (ho.alone j i x h hname)
  alone j k x hj hk := by
    by_cases hji : j = i
    · rw [hji, hi] at hj
      cases hj
    · by_cases hki : k = i
      · rw [hki, hi] at hk
        cases hk
      · exact ho.alone j k x (hothers j hji ▸ hj) (hothers k hki ▸ hk)
  unregistered x hx hmem := by
    obtain ⟨hx, hne⟩ := (hreserved x).1 hx
    rcases hnames x hmem with hmem | rfl
    · exact ho.unregistered x hx hmem
    · exact hne rfl

variable [TimeScale τ] (p : Pool σ ρ τ)

/-- A move is fresh: if it reserves a name for a call, then the name is free for the call, and if it
registers a session, then the name is not registered, and the session joins all others. -/
def Fresh (o : Overlap σ τ) (m : Move σ τ) : Prop :=
  ∀ i, m = .step i →
    (∀ name, (o.call i).held = none → ((move p o m).call i).held = some name → o.IsFree i name) ∧
    ∀ name number, (o.call i).opened = some (name, number) →
      name ∉ o.world.roster.names ∧
      (move p o m).world.roster.entries = o.world.roster.entries ++ [(name, number)]

/-- A move reserves a name that was made up, and is taken. -/
def MakesUpTaken (o : Overlap σ τ) (m : Move σ τ) : Prop :=
  ∃ i r name, m = .step i ∧ o.call i = .spawn r ∧ r.wanted = none ∧
    ((move p o m).call i).held = some name ∧ o.world.roster.isTaken name = true

variable {p}

/-- A name that is given to a call is not taken, unless it was made up. -/
theorem isTaken_of_reserved {o : Overlap σ τ} {i : Nat} {r : Request}
    (h : ¬MakesUpTaken p o (.step i)) (hspawn : o.call i = .spawn r)
    (hnext : ((move p o (.step i)).call i).held = some (o.world.roster.nameFor r.name).1) :
    o.world.roster.isTaken (o.world.roster.nameFor r.name).1 = false := by
  by_contra htaken
  by_cases hwanted : r.wanted = none
  · exact h ⟨i, r, _, rfl, hspawn, hwanted, hnext, Bool.not_eq_false _ ▸ htaken⟩
  · exact htaken (Roster.isTaken_nameFor hwanted)

/-- **A move keeps order**, unless it makes up a name that is taken. -/
theorem Orderly.move {o : Overlap σ τ} (ho : o.Orderly) {m : Move σ τ}
    (h : ¬MakesUpTaken p o m) : (move p o m).Orderly := by
  obtain ⟨i, heffect, hothers, hstep⟩ := exists_effect p o m
  rcases heffect.reservations with ⟨hheld, hreserved, hnames⟩ |
    ⟨r, hspawn, hheld, hreserved, hnames⟩ | ⟨name, hname, hheld, hreserved, hnames⟩
  · refine ho.of_held (fun j => ?_) hreserved hnames
    by_cases hj : j = i
    · rw [hj, hheld]
    · rw [hothers j hj]
  · -- a spawn is a call that is not done, so the move is its step
    rcases hstep with rfl | ⟨-, hdone⟩
    · have hfree := ho.isFree (isTaken_of_reserved h hspawn hheld) i
      exact ho.of_reserved hfree hheld hothers hreserved hnames
    · rw [hdone] at hspawn
      cases hspawn
  · exact ho.of_released hname hheld hothers hreserved hnames

/-- The step that gives a call its name gives it one that is free, unless it was made up. -/
theorem Orderly.isFree_of_step {o : Overlap σ τ} (ho : o.Orderly) {i : Nat}
    (h : ¬MakesUpTaken p o (.step i)) {name : String} (hbefore : (o.call i).held = none)
    (hafter : ((Overlap.move p o (.step i)).call i).held = some name) : o.IsFree i name := by
  rcases (effect_step p o i).reservations with ⟨hheld, -, -⟩ | ⟨r, hspawn, hheld, -, -⟩ | ⟨_, hname, -, -, -⟩
  · rw [hheld, hbefore] at hafter
    cases hafter
  · obtain rfl := Option.some.inj (hheld.symm.trans hafter)
    exact ho.isFree (isTaken_of_reserved h hspawn hheld) i
  · rw [hbefore] at hname
    cases hname

/-- The step that registers a session puts it behind all others. -/
theorem Orderly.entries_of_step {o : Overlap σ τ} (ho : o.Orderly) {i : Nat} {name : String}
    {number : Nat} (h : (o.call i).opened = some (name, number)) :
    name ∉ o.world.roster.names ∧ (Overlap.move p o (.step i)).world.roster.entries =
      o.world.roster.entries ++ [(name, number)] := by
  cases hc : o.call i with
  | started n k captured =>
    rw [hc] at h
    obtain ⟨rfl, rfl⟩ := Prod.mk.inj (Option.some.inj h)
    have hfree := ho.unregistered n (ho.reserved i n (by rw [hc]; rfl))
    refine ⟨hfree, ?_⟩
    rw [Overlap.move, hc]
    exact Roster.put_of_not_mem k hfree
  | _ => rw [hc] at h; cases h

/-- In order, a move is fresh exactly if it does not make up a name that is taken. -/
theorem Orderly.fresh_iff {o : Overlap σ τ} (ho : o.Orderly) (m : Move σ τ) :
    Fresh p o m ↔ ¬MakesUpTaken p o m := by
  constructor
  · rintro h ⟨i, r, name, hm, hspawn, -, hheld, htaken⟩
    have hfree := (h i hm).1 name (by rw [hspawn]; rfl) hheld
    rcases (o.world.roster.isTaken_eq_true name).1 htaken with hmem | hmem
    · exact hfree.unregistered hmem
    · exact hfree.unreserved hmem
  · rintro h i rfl
    exact ⟨fun name => ho.isFree_of_step h, fun name number => ho.entries_of_step⟩

/-- **Names are unique, and no session is replaced, exactly if no name is made up that is taken.**
Along every run of overlapping calls, all reservations are of free names and all registrations of
names that are not registered, if and only if no unnamed session is given a name that is registered
or reserved at that moment. -/
theorem along_fresh_iff (p : Pool σ ρ τ) (system : σ) (moves : List (Move σ τ)) :
    Along p (Fresh p) (start system) moves ↔
      Along p (fun o m => ¬MakesUpTaken p o m) (start system) moves :=
  along_iff (fun _ m ho => ho.fresh_iff m) (fun _ _ _ ho h => ho.move h) (orderly_start system)

/-- A session is started as `session_0`, and then one without a name. -/
def sameNameTwice : List (Move Unit Unit) :=
  [.order (.spawn ⟨some "sh", some "session_0", none, none⟩), .step 0, .step 0, .step 0,
    .order (.spawn ⟨some "sh", none, none, none⟩), .step 1, .step 1, .step 1]

/-- **A made-up name replaces a session.** The name that is made up first is that of a registered
session, and the new session takes its place. -/
theorem replaced_by_made_up_name :
    ¬Along Pool.silent (Fresh Pool.silent) (start ()) sameNameTwice ∧
      (run Pool.silent (start ()) (sameNameTwice.take 4)).world.roster.entries =
        [("session_0", 0)] ∧
      (run Pool.silent (start ()) sameNameTwice).world.roster.entries = [("session_0", 1)] := by
  have hnames : (run Pool.silent (start ()) (sameNameTwice.take 5)).world.roster.names =
      ["session_0"] := by cbv
  refine ⟨?_, by cbv, by cbv⟩
  -- the sixth move is the reservation of the name that was made up
  rintro ⟨-, -, -, -, -, hreserve, -⟩
  have hfree := (hreserve 1 rfl).1 "session_0" (by cbv) (by cbv)
  exact hfree.unregistered (hnames ▸ List.mem_singleton_self _)

end Overlap

end Teletype
