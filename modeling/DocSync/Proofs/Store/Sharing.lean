import DocSync.Store.Handles

/-! # Steps through handles

  What a step does to the stores and to the handles that reach them, one
  equation for each: `targets_step` and `stores_step`. Two handles share when
  they reach the same store; an edit is seen through the handles that share with
  the one it went through (`store?_step_edit`) and through no other
  (`store?_step_of_not_shares`).
-/

namespace DocSync.Handles

/-! ### One step -/

theorem step_of_missing {s : Handles} {h : Nat} (hh : s.targets[h]? = none) (a : Step) :
    s.step h a = (s, .noSuchHandle) := by
  rw [step, hh]

section step
variable {s : Handles} {h t : Nat}

theorem target_lt (ht : s.targets[h]? = some t) : t < s.stores.length :=
  s.targets_lt t (List.mem_of_getElem? ht)

/-- The handles after a step: a clone reaches the same store, a fresh handle the
    new store behind all others. -/
theorem targets_step (ht : s.targets[h]? = some t) (a : Step) :
    (s.step h a).1.targets =
      match a with
      | .clone => s.targets ++ [t]
      | .fresh => s.targets ++ [s.stores.length]
      | _ => s.targets := by
  have hlt := target_lt ht
  cases a <;> simp [step, ht, hlt, editAt]

/-- The stores after a step: an edit changes the store that the handle reaches. -/
theorem stores_step (ht : s.targets[h]? = some t) (a : Step) :
    (s.step h a).1.stores =
      match a with
      | .edit e => s.stores.modify t (·.edit e)
      | .fresh => s.stores ++ [.empty]
      | _ => s.stores := by
  have hlt := target_lt ht
  cases a <;> simp [step, ht, hlt, editAt]

/-- A query is answered by the store that the handle reaches. -/
theorem reply_query {live : Store} (hs : s.store? h = some live) (q : Store.Query) :
    (s.step h (.query q)).2 = .answered (live.answer q) := by
  obtain ⟨t, ht, hlive⟩ := Option.bind_eq_some_iff.1 hs
  obtain ⟨hlt, rfl⟩ := List.getElem?_eq_some_iff.1 hlive
  simp [step, ht, hlt]

end step

/-- Every handle reaches a store. -/
theorem exists_store?_of_lt {s : Handles} {h : Nat} (hh : h < s.targets.length) :
    ∃ live, s.store? h = some live := by
  have hlt : s.targets[h] < s.stores.length := s.targets_lt _ (List.getElem_mem hh)
  exact ⟨s.stores[s.targets[h]], by simp [store?, hh, hlt]⟩

/-- No step takes a handle away or lets it reach another store. -/
theorem targets_prefix_step (s : Handles) (h : Nat) (a : Step) :
    s.targets <+: (s.step h a).1.targets := by
  cases ht : s.targets[h]? with
  | none => exact ⟨[], by rw [step_of_missing ht, List.append_nil]⟩
  | some t =>
    rw [targets_step ht]
    split
    · exact List.prefix_append _ _
    · exact List.prefix_append _ _
    · exact List.prefix_rfl

theorem getElem?_targets_step {s : Handles} {h : Nat} (hh : h < s.targets.length) (g : Nat)
    (a : Step) : (s.step g a).1.targets[h]? = s.targets[h]? := by
  obtain ⟨added, hadded⟩ := s.targets_prefix_step g a
  rw [← hadded, List.getElem?_append_left hh]

/-! ### Sharing -/

/-- Two handles reach the same store. -/
def Shares (s : Handles) (h g : Nat) : Prop :=
  ∃ t, s.targets[h]? = some t ∧ s.targets[g]? = some t

theorem Shares.lt {s : Handles} {h g : Nat} :
    s.Shares h g → h < s.targets.length ∧ g < s.targets.length := by
  rintro ⟨t, hh, hg⟩
  exact ⟨(List.getElem?_eq_some_iff.1 hh).1, (List.getElem?_eq_some_iff.1 hg).1⟩

theorem Shares.symm {s : Handles} {h g : Nat} : s.Shares h g → s.Shares g h := by
  rintro ⟨t, hh, hg⟩
  exact ⟨t, hg, hh⟩

theorem Shares.trans {s : Handles} {h g k : Nat} (hg : s.Shares h g) (hk : s.Shares g k) :
    s.Shares h k := by
  obtain ⟨t, hh, hg⟩ := hg
  obtain ⟨u, hg', hk⟩ := hk
  exact ⟨t, hh, hk.trans (hg'.symm.trans hg)⟩

theorem shares_step_iff {s : Handles} {h g : Nat} (hh : h < s.targets.length)
    (hg : g < s.targets.length) (k : Nat) (a : Step) :
    (s.step k a).1.Shares h g ↔ s.Shares h g := by
  rw [Shares, Shares, getElem?_targets_step hh, getElem?_targets_step hg]

/-- A clone shares with the handle that it was made of. -/
theorem shares_step_clone {s : Handles} {h : Nat} (hh : h < s.targets.length) :
    (s.step h .clone).1.Shares h s.targets.length := by
  have ht : s.targets[h]? = some s.targets[h] := List.getElem?_eq_getElem hh
  refine ⟨s.targets[h], (getElem?_targets_step hh h .clone).trans ht, ?_⟩
  rw [targets_step ht]
  simp

/-- A step that makes a new store leads a new handle there and no other. -/
theorem not_shares_step_fresh {s : Handles} {k h : Nat} (hk : k < s.targets.length)
    (hh : h < s.targets.length) : ¬ (s.step k .fresh).1.Shares h s.targets.length := by
  rintro ⟨t, hold, hnew⟩
  rw [getElem?_targets_step hh] at hold
  have hlt := target_lt hold
  rw [targets_step (List.getElem?_eq_getElem hk)] at hnew
  have hlast : t = s.stores.length := by simpa using hnew.symm
  omega

/-- A step that is no edit through a sharing handle leaves the store behind a
    handle as it is. -/
theorem store?_step_of_not_shares {s : Handles} {h : Nat} (hh : h < s.targets.length) {g : Nat}
    {a : Step} (hno : ∀ e, a = .edit e → ¬ s.Shares g h) :
    (s.step g a).1.store? h = s.store? h := by
  obtain ⟨t, ht⟩ : ∃ t, s.targets[h]? = some t := ⟨_, List.getElem?_eq_getElem hh⟩
  have hlt := target_lt ht
  cases hg : s.targets[g]? with
  | none => rw [step_of_missing hg]
  | some u =>
    rw [store?, store?, getElem?_targets_step hh, ht, Option.bind_some, Option.bind_some,
      stores_step hg]
    cases a with
    | edit e =>
      -- Reaching one store is sharing, so the edit went to another one.
      have hne : u ≠ t := fun hut => hno e rfl ⟨t, hut ▸ hg, ht⟩
      exact List.getElem?_modify_ne _ _ hne
    | fresh => exact List.getElem?_append_left hlt
    | query _ => rfl
    | clone => rfl
    | takeSnapshot _ _ => rfl
    | readSnapshot _ _ => rfl

/-- An edit is seen through every handle that shares. -/
theorem store?_step_edit {s : Handles} {g h : Nat} (hs : s.Shares g h) (e : Store.Edit) :
    (s.step g (.edit e)).1.store? h = (s.store? h).map (·.edit e) := by
  obtain ⟨t, hg, ht⟩ := hs
  rw [store?, store?, targets_step hg, stores_step hg, ht, Option.bind_some, Option.bind_some]
  exact List.getElem?_modify_eq _ _ _

/-- A clone reaches the store of the handle that it was made of. -/
theorem store?_step_clone {s : Handles} {g t : Nat} (hg : s.targets[g]? = some t) :
    (s.step g .clone).1.store? s.targets.length = s.store? g := by
  rw [store?, store?, targets_step hg, stores_step hg, hg]
  simp

/-- A fresh handle reaches an empty store. -/
theorem store?_step_fresh {s : Handles} {g t : Nat} (hg : s.targets[g]? = some t) :
    (s.step g .fresh).1.store? s.targets.length = some .empty := by
  rw [store?, targets_step hg, stores_step hg]
  simp

/-! ### Runs -/

theorem runState_append (s : Handles) (past later : List (Nat × Step)) :
    s.runState (past ++ later) = (s.runState past).runState later := by
  rw [runState, runState, runState, List.foldl_append]

theorem runState_concat (s : Handles) (past : List (Nat × Step)) (h : Nat) (a : Step) :
    s.runState (past ++ [(h, a)]) = ((s.runState past).step h a).1 := by
  rw [runState_append]
  rfl

/-- In a run, a step is taken in the state that the steps before it lead to. -/
theorem getElem?_run (s : Handles) (past later : List (Nat × Step)) (h : Nat) (a : Step) :
    (s.run (past ++ (h, a) :: later))[past.length]? = some ((s.runState past).step h a) := by
  induction past generalizing s with
  | nil => rfl
  | cons first past ih => exact ih _

end DocSync.Handles
