/-!
# Maps in insertion order

A map is its list of pairs. Putting a key that is present replaces the value and keeps
the place; a new key goes to the end.
-/

namespace ResourceLookup

abbrev OrderedMap (α β : Type) := List (α × β)

namespace OrderedMap

variable {α β : Type} [DecidableEq α]

def put (k : α) (v : β) : OrderedMap α β → OrderedMap α β
  | [] => [(k, v)]
  | p :: r => if p.1 = k then (p.1, v) :: r else p :: put k v r

def get? (k : α) : OrderedMap α β → Option β
  | [] => none
  | p :: r => if p.1 = k then some p.2 else get? k r

def remove (k : α) (m : OrderedMap α β) : OrderedMap α β := m.filter fun p => !decide (p.1 = k)

def keys (m : OrderedMap α β) : List α := m.map (·.1)

def ofPairs (ps : List (α × β)) : OrderedMap α β := ps.foldl (fun m p => put p.1 p.2 m) []

@[simp] theorem get?_put (k k' : α) (v : β) (m : OrderedMap α β) :
    get? k' (put k v m) = if k = k' then some v else get? k' m := by
  induction m with
  | nil => simp [put, get?]
  | cons p r ih =>
    by_cases h : p.1 = k
    · by_cases h' : k = k' <;> simp_all [put, get?]
    · by_cases h' : p.1 = k' <;> by_cases h'' : k = k' <;> simp_all [put, get?]

@[simp] theorem get?_remove (k k' : α) (m : OrderedMap α β) :
    get? k' (remove k m) = if k = k' then none else get? k' m := by
  induction m with
  | nil => simp [remove, get?]
  | cons p r ih =>
    unfold remove at ih
    by_cases h : p.1 = k <;> by_cases h' : p.1 = k' <;> by_cases h'' : k = k' <;>
      simp_all [remove, get?]

theorem ne_of_get? {k k' : α} {v : β} {m : OrderedMap α β} (hk : get? k m = none)
    (hk' : get? k' m = some v) : k ≠ k' := by
  intro heq
  rw [heq, hk'] at hk
  cases hk

theorem mem_of_get? {k : α} {v : β} {m : OrderedMap α β} (h : get? k m = some v) : (k, v) ∈ m := by
  induction m with
  | nil => simp [get?] at h
  | cons p r ih =>
    rw [get?] at h
    split at h
    · rename_i hk
      cases h
      rw [← hk]
      exact List.mem_cons_self
    · exact List.mem_cons_of_mem p (ih h)

/-- Where a key is present its place is kept; otherwise it comes last. -/
theorem keys_put (k : α) (v : β) (m : OrderedMap α β) :
    keys (put k v m) = if k ∈ keys m then keys m else keys m ++ [k] := by
  induction m with
  | nil => simp [put, keys]
  | cons p r ih =>
    unfold keys at ih
    by_cases h : p.1 = k
    · simp [put, keys, h]
    · by_cases h' : k ∈ keys r <;> simp_all [put, keys, Ne.symm h]

theorem nodup_put {m : OrderedMap α β} (h : (keys m).Nodup) (k : α) (v : β) :
    (keys (put k v m)).Nodup := by
  rw [keys_put]
  split
  · exact h
  · next hk => exact List.nodup_append.2 ⟨h, by simp, fun a ha b hb hab => hk (by simp_all)⟩

theorem mem_put {k : α} {v : β} {m : OrderedMap α β} {p : α × β} (h : p ∈ put k v m) :
    p = (k, v) ∨ p ∈ m := by
  induction m with
  | nil => exact .inl (List.mem_singleton.1 h)
  | cons q r ih =>
    rw [put] at h
    split at h
    · next hq =>
      rcases List.mem_cons.1 h with rfl | h
      · exact .inl (by rw [hq])
      · exact .inr (List.mem_cons_of_mem q h)
    · rcases List.mem_cons.1 h with rfl | h
      · exact .inr List.mem_cons_self
      · exact (ih h).imp_right (List.mem_cons_of_mem q)

theorem put_of_not_mem {k : α} {m : OrderedMap α β} (h : k ∉ keys m) (v : β) :
    put k v m = m ++ [(k, v)] := by
  induction m with
  | nil => rfl
  | cons p r ih =>
    simp only [keys, List.map_cons, List.mem_cons, not_or] at h
    rw [put, if_neg (Ne.symm h.1), ih h.2]
    rfl

theorem foldl_put_of_nodup (m ps : OrderedMap α β) (h : (keys (m ++ ps)).Nodup) :
    ps.foldl (fun m p => put p.1 p.2 m) m = m ++ ps := by
  induction ps generalizing m with
  | nil => simp
  | cons p ps ih =>
    have hk : p.1 ∉ keys m := by
      intro hm
      rw [keys, List.map_append, List.map_cons] at h
      exact (List.nodup_append.1 h).2.2 p.1 hm p.1 List.mem_cons_self rfl
    rw [List.foldl_cons, put_of_not_mem hk, ih _ (by simpa using h)]
    simp

theorem ofPairs_of_nodup {ps : OrderedMap α β} (h : (keys ps).Nodup) : ofPairs ps = ps :=
  foldl_put_of_nodup [] ps h

/-! ## Putting one map into another -/

def putAll (m : OrderedMap α β) (ps : List (α × β)) : OrderedMap α β :=
  ps.foldl (fun m p => put p.1 p.2 m) m

theorem mem_keys_put {k k' : α} {v : β} {m : OrderedMap α β} :
    k' ∈ keys (put k v m) ↔ k' ∈ keys m ∨ k' = k := by
  rw [keys_put]
  split
  · next h => exact ⟨.inl, fun h' => h'.elim id fun heq => heq ▸ h⟩
  · simp

theorem put_put (k : α) (v v' : β) (m : OrderedMap α β) : put k v (put k v' m) = put k v m := by
  induction m with
  | nil => simp [put]
  | cons p r ih =>
    by_cases h : p.1 = k
    · simp [put, h]
    · simp [put, h, ih]

theorem put_comm {k k' : α} {m : OrderedMap α β} (present : k ∈ keys m) (ne : k ≠ k') (v v' : β) :
    put k v (put k' v' m) = put k' v' (put k v m) := by
  induction m with
  | nil => exact absurd present List.not_mem_nil
  | cons p r ih =>
    by_cases h : p.1 = k
    · simp [put, h, ne]
    · have hr : k ∈ keys r := (List.mem_cons.1 present).resolve_left (Ne.symm h)
      by_cases h' : p.1 = k'
      · simp [put, h', Ne.symm ne]
      · simp [put, h, h', ih hr]

theorem put_putAll {k : α} {m ps : OrderedMap α β} (present : k ∈ keys m) (new : k ∉ keys ps)
    (v : β) : put k v (putAll m ps) = putAll (put k v m) ps := by
  induction ps generalizing m with
  | nil => rfl
  | cons p ps ih =>
    simp only [keys, List.map_cons, List.mem_cons, not_or] at new
    have hp : k ∈ keys (put p.1 p.2 m) := mem_keys_put.2 (.inl present)
    calc put k v (putAll (put p.1 p.2 m) ps)
        = putAll (put k v (put p.1 p.2 m)) ps := ih hp new.2
      _ = putAll (put p.1 p.2 (put k v m)) ps := by rw [put_comm present new.1]

theorem putAll_put {ps : OrderedMap α β} (distinct : (keys ps).Nodup) (m : OrderedMap α β) (k : α)
    (v : β) : putAll m (put k v ps) = put k v (putAll m ps) := by
  induction ps generalizing m with
  | nil => rfl
  | cons p r ih =>
    have hr : p.1 ∉ keys r ∧ (keys r).Nodup := List.nodup_cons.1 distinct
    rw [put]
    split
    · next h =>
      have hk : k ∈ keys (put p.1 p.2 m) := mem_keys_put.2 (.inr h.symm)
      calc putAll (put p.1 v m) r
          = putAll (put k v (put p.1 p.2 m)) r := by rw [h, put_put]
        _ = put k v (putAll (put p.1 p.2 m) r) := (put_putAll hk (h ▸ hr.1) v).symm
    · exact ih hr.2 (put p.1 p.2 m)

end OrderedMap
end ResourceLookup
