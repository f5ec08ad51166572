/-!
# Values under keys

A list of keys with one value each, as the stores answer it. A value that is put under a key takes
the place of the one that was there.
-/

namespace Outlays

/-- Keys with their values. -/
abbrev Keyed (κ α : Type) := List (κ × α)

namespace Keyed

variable {κ α : Type} [DecidableEq κ]

/-- The value under a key. -/
def get? (m : Keyed κ α) (k : κ) : Option α := (m.find? fun e => e.1 == k).map (·.2)

/-- Puts a value under a key. -/
def put (m : Keyed κ α) (k : κ) (a : α) : Keyed κ α := (k, a) :: m.filter fun e => e.1 != k

/-- The pairs put in one after the other, so that the last value of a key stays. -/
def ofList (pairs : List (κ × α)) : Keyed κ α := pairs.foldl (fun m e => put m e.1 e.2) []

theorem get?_put (m : Keyed κ α) (k k' : κ) (a : α) :
    get? (put m k a) k' = if k = k' then some a else get? m k' := by
  unfold get? put
  by_cases h : k = k'
  · subst h; simp
  · simp only [List.find?_cons, beq_eq_false_iff_ne.mpr h, h, if_false, List.find?_filter]
    congr 1
    congr 1
    funext e
    by_cases he : e.1 = k' <;> simp [he]
    exact fun h' => h h'.symm

/-- Under each key stands the value that was put in last. -/
theorem get?_ofList (pairs : List (κ × α)) (k : κ) :
    get? (ofList pairs) k =
      pairs.reverse.findSome? fun e => if e.1 = k then some e.2 else none := by
  have hfold : ofList pairs = pairs.reverse.foldr (fun e m => put m e.1 e.2) [] :=
    List.foldr_reverse.symm
  rw [hfold]
  induction pairs.reverse with
  | nil => rfl
  | cons e rest ih =>
    rw [List.foldr_cons, get?_put, ih, List.findSome?_cons]
    split <;> rfl

theorem nodup_keys_put {m : Keyed κ α} (h : (m.map (·.1)).Nodup) (k : κ) (a : α) :
    ((put m k a).map (·.1)).Nodup := by
  rw [put, List.map_cons, List.nodup_cons]
  refine ⟨fun hmem => ?_, h.sublist (List.filter_sublist.map _)⟩
  obtain ⟨e, he, rfl⟩ := List.mem_map.mp hmem
  simp at he

/-- No key stands twice. -/
theorem nodup_keys_ofList (pairs : List (κ × α)) : ((ofList pairs).map (·.1)).Nodup := by
  have hputs (m : Keyed κ α) (h : (m.map (·.1)).Nodup) :
      ((pairs.foldl (fun m e => put m e.1 e.2) m).map (·.1)).Nodup := by
    induction pairs generalizing m with
    | nil => exact h
    | cons e pairs ih => exact ih _ (nodup_keys_put h e.1 e.2)
  exact hputs [] List.nodup_nil

theorem mem_keys_iff {m : Keyed κ α} {k : κ} : k ∈ m.map (·.1) ↔ ∃ a, get? m k = some a := by
  rw [← Option.isSome_iff_exists, get?, Option.isSome_map, List.find?_isSome, List.mem_map]
  simp only [beq_iff_eq]

end Keyed

end Outlays
