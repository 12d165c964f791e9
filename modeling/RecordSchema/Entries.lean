/-!
# Ordered entries

A list of key–value pairs that keeps the order in which keys were first written. A key that is
written again keeps its place and changes its value.

## Main definitions

* `Entries.get?`, `Entries.has`, `Entries.keys`: reading.
* `Entries.put`: writing one key.
* `Entries.modify`: changing the value of one key.
* `Entries.ofPairs`: writing several keys in turn.

## Main statements

* `Entries.get?_put_self`, `Entries.get?_put_of_ne`: what is read back after a write.
* `Entries.keys_put_of_has`, `Entries.keys_put_of_not_has`: where the key stands after a write.
* `Entries.get?_modify`, `Entries.keys_modify`: a change touches one value and no key.
-/

namespace RecordSchema

/-- Key–value pairs in the order of their first writing. -/
abbrev Entries (α : Type) := List (String × α)

namespace Entries

variable {α : Type}

/-- The value of a key. -/
def get? (entries : Entries α) (key : String) : Option α :=
  match entries with
  | [] => none
  | (k, v) :: rest => if k = key then some v else get? rest key

/-- Whether a key is present. -/
def has (entries : Entries α) (key : String) : Bool :=
  (get? entries key).isSome

/-- The keys, in order. -/
def keys (entries : Entries α) : List String :=
  entries.map Prod.fst

/-- Writes a key: in its place when present, at the end when new. -/
def put (entries : Entries α) (key : String) (value : α) : Entries α :=
  match entries with
  | [] => [(key, value)]
  | (k, v) :: rest => if k = key then (k, value) :: rest else (k, v) :: put rest key value

/-- Changes the value of a key, if it is present. -/
def modify (entries : Entries α) (key : String) (change : α → α) : Entries α :=
  entries.map fun entry => if entry.1 = key then (entry.1, change entry.2) else entry

/-- The entries that come from writing each pair in turn. -/
def ofPairs (pairs : List (String × α)) : Entries α :=
  pairs.foldl (fun entries pair => entries.put pair.1 pair.2) []

@[simp] theorem get?_put_self (entries : Entries α) (key : String) (value : α) :
    get? (put entries key value) key = some value := by
  induction entries with
  | nil => simp [put, get?]
  | cons head rest ih =>
    unfold put
    split
    · simp_all [get?]
    · simp_all [get?]

theorem get?_put_of_ne (entries : Entries α) {key other : String} (h : other ≠ key) (value : α) :
    get? (put entries key value) other = get? entries other := by
  induction entries with
  | nil => simp [put, get?, Ne.symm h]
  | cons head rest ih =>
    unfold put
    split
    · rename_i hk
      simp [get?, hk, Ne.symm h]
    · simp [get?, ih]

theorem mem_of_get? {entries : Entries α} {key : String} {value : α}
    (h : get? entries key = some value) : (key, value) ∈ entries := by
  induction entries with
  | nil => cases h
  | cons head rest ih =>
    obtain ⟨k, v⟩ := head
    unfold get? at h
    split at h
    · rename_i hk
      cases h
      simp [hk]
    · exact List.mem_cons_of_mem _ (ih h)

theorem mem_put {entries : Entries α} {key : String} {value : α} {entry : String × α}
    (h : entry ∈ put entries key value) : entry ∈ entries ∨ entry = (key, value) := by
  induction entries with
  | nil => exact .inr (List.mem_singleton.1 h)
  | cons head rest ih =>
    unfold put at h
    split at h
    · rename_i hk
      rcases List.mem_cons.1 h with rfl | hrest
      · exact .inr (by rw [hk])
      · exact .inl (List.mem_cons_of_mem _ hrest)
    · rcases List.mem_cons.1 h with rfl | hrest
      · exact .inl List.mem_cons_self
      · rcases ih hrest with hold | hnew
        · exact .inl (List.mem_cons_of_mem _ hold)
        · exact .inr hnew

theorem has_iff_mem_keys (entries : Entries α) (key : String) :
    has entries key = true ↔ key ∈ keys entries := by
  induction entries with
  | nil => simp [has, get?, keys]
  | cons head rest ih =>
    simp only [has, keys] at ih
    by_cases h : head.1 = key
    · simp [has, get?, keys, h]
    · simp only [has, get?, h, if_false, ih, keys, List.map_cons, List.mem_cons, Ne.symm h,
        false_or]

theorem keys_put_of_has {entries : Entries α} {key : String} (h : has entries key = true)
    (value : α) : keys (put entries key value) = keys entries := by
  induction entries with
  | nil => simp [has, get?] at h
  | cons head rest ih =>
    unfold put
    split
    · simp [keys]
    · rename_i hk
      simp only [has, get?, hk, if_false] at h
      simpa [keys] using ih h

theorem keys_put_of_not_has {entries : Entries α} {key : String} (h : has entries key = false)
    (value : α) : keys (put entries key value) = keys entries ++ [key] := by
  induction entries with
  | nil => rfl
  | cons head rest ih =>
    unfold put
    split
    · rename_i hk
      simp [has, get?, hk] at h
    · rename_i hk
      simp only [has, get?, hk, if_false] at h
      simpa [keys] using ih h

theorem get?_of_mem {entries : Entries α} (hkeys : (keys entries).Nodup) {key : String} {value : α}
    (h : (key, value) ∈ entries) : get? entries key = some value := by
  induction entries with
  | nil => exact absurd h List.not_mem_nil
  | cons head rest ih =>
    obtain ⟨k, v⟩ := head
    simp only [keys, List.map_cons, List.nodup_cons] at hkeys
    rcases List.mem_cons.1 h with heq | hrest
    · cases heq
      simp [get?]
    · have hne : k ≠ key := fun he => hkeys.1 (he ▸ List.mem_map_of_mem (f := Prod.fst) hrest)
      rw [get?, if_neg hne]
      exact ih hkeys.2 hrest

theorem put_ne_nil (entries : Entries α) (key : String) (value : α) :
    put entries key value ≠ [] := by
  intro h
  have hget := get?_put_self entries key value
  rw [h] at hget
  cases hget

/-- A key that is read back as it was written leaves no trace. -/
theorem put_of_get? {entries : Entries α} {key : String} {value : α}
    (h : get? entries key = some value) : put entries key value = entries := by
  induction entries with
  | nil => cases h
  | cons head rest ih =>
    obtain ⟨k, v⟩ := head
    unfold get? at h
    unfold put
    split at h
    · rename_i hk
      cases h
      rw [if_pos hk]
    · rename_i hk
      rw [if_neg hk, ih h]

theorem put_of_get?_none {entries : Entries α} {key : String} (h : get? entries key = none)
    (value : α) : put entries key value = entries ++ [(key, value)] := by
  induction entries with
  | nil => rfl
  | cons head rest ih =>
    obtain ⟨k, v⟩ := head
    unfold get? at h
    split at h
    · cases h
    · rename_i hk
      rw [put, if_neg hk, ih h, List.cons_append]

/-- Only the last value that is written under a key stays. -/
@[simp] theorem put_put (entries : Entries α) (key : String) (first last : α) :
    put (put entries key first) key last = put entries key last := by
  induction entries with
  | nil => simp [put]
  | cons head rest ih =>
    obtain ⟨k, v⟩ := head
    by_cases hk : k = key
    · simp only [put, if_pos hk]
    · simp only [put, if_neg hk, ih]

/-- A key that is present stands between other entries, whichever value it has. -/
theorem put_split {entries : Entries α} {key : String} {old : α} (h : get? entries key = some old) :
    ∃ front back, entries = front ++ (key, old) :: back ∧
      ∀ value, put entries key value = front ++ (key, value) :: back := by
  induction entries with
  | nil => cases h
  | cons head rest ih =>
    obtain ⟨k, v⟩ := head
    unfold get? at h
    split at h
    · rename_i hk
      subst hk
      cases h
      refine ⟨[], rest, rfl, fun value => ?_⟩
      rw [put, if_pos rfl, List.nil_append]
    · rename_i hk
      obtain ⟨front, back, rfl, hput⟩ := ih h
      refine ⟨(k, v) :: front, back, rfl, fun value => ?_⟩
      rw [put, if_neg hk, hput, List.cons_append]

/-- A key that is present stands among the other entries, whichever value it has. -/
theorem perm_put_of_get? {entries : Entries α} {key : String} {old : α}
    (h : get? entries key = some old) : ∃ rest : Entries α, entries.Perm ((key, old) :: rest) ∧
      ∀ value, (put entries key value).Perm ((key, value) :: rest) := by
  obtain ⟨front, back, rfl, hput⟩ := put_split h
  refine ⟨front ++ back, List.perm_middle, fun value => ?_⟩
  rw [hput]
  exact List.perm_middle

theorem keys_put (entries : Entries α) (key : String) (value : α) : keys (put entries key value)
    = if key ∈ keys entries then keys entries else keys entries ++ [key] := by
  cases hhas : has entries key with
  | true => rw [keys_put_of_has hhas, if_pos ((has_iff_mem_keys entries key).1 hhas)]
  | false =>
    have hmem : key ∉ keys entries := fun hmem => by
      simp [(has_iff_mem_keys entries key).2 hmem] at hhas
    rw [keys_put_of_not_has hhas, if_neg hmem]

theorem mem_keys_put {entries : Entries α} {key other : String} {value : α} :
    other ∈ keys (put entries key value) ↔ other ∈ keys entries ∨ other = key := by
  rw [keys_put]
  split
  · rename_i hmem
    refine ⟨.inl, ?_⟩
    rintro (hother | rfl)
    · exact hother
    · exact hmem
  · rw [List.mem_append, List.mem_singleton]

theorem nodup_keys_put {entries : Entries α} (h : (keys entries).Nodup) (key : String) (value : α) :
    (keys (put entries key value)).Nodup := by
  rw [keys_put]
  split
  · exact h
  · rename_i hmem
    rw [List.nodup_append]
    refine ⟨h, by simp, ?_⟩
    rintro other hother _ hkey rfl
    exact hmem (List.mem_singleton.1 hkey ▸ hother)

/-- Entries with the same keys, each of them once, and the same values are the same. -/
theorem ext_get? {entries others : Entries α} (hkeys : keys entries = keys others)
    (hdistinct : (keys entries).Nodup) (h : ∀ key, get? entries key = get? others key) :
    entries = others := by
  induction entries generalizing others with
  | nil => exact (List.map_eq_nil_iff.1 hkeys.symm).symm
  | cons head rest ih =>
    cases others with
    | nil => cases hkeys
    | cons head' rest' =>
      obtain ⟨k, v⟩ := head
      obtain ⟨k', v'⟩ := head'
      obtain ⟨rfl, hrest⟩ : k = k' ∧ keys rest = keys rest' := List.cons.inj hkeys
      obtain ⟨hfirst, hdistinct⟩ := List.nodup_cons.1 hdistinct
      have hvalue : v = v' := by simpa [get?] using h k
      rw [hvalue, ih hrest hdistinct fun key => ?_]
      by_cases hk : k = key
      · -- the first key is in neither rest
        subst hk
        have hnone : ∀ others : Entries α, k ∉ keys others → get? others k = none :=
          fun others hmem => Option.not_isSome_iff_eq_none.1 (mt (has_iff_mem_keys _ _).1 hmem)
        rw [hnone rest hfirst, hnone rest' (hrest ▸ hfirst)]
      · simpa [get?, hk] using h key

section map

variable {β : Type}

/-- Reading a value after all have changed, each in a way that may depend on its key. -/
theorem get?_map_keyed (f : String → α → β) (entries : Entries α) (key : String) :
    get? (entries.map fun entry => (entry.1, f entry.1 entry.2)) key
      = (get? entries key).map (f key) := by
  induction entries with
  | nil => rfl
  | cons head rest ih =>
    obtain ⟨k, v⟩ := head
    by_cases hk : k = key
    · subst hk
      simp only [List.map_cons, get?, if_true, Option.map_some]
    · simp only [List.map_cons, get?, if_neg hk, ih]

variable (f : α → β)

/-- Reading a changed value. -/
theorem get?_map (entries : Entries α) (key : String) :
    get? (entries.map fun entry => (entry.1, f entry.2)) key = (get? entries key).map f :=
  get?_map_keyed (fun _ => f) entries key

/-- Writing a changed value. -/
theorem put_map (entries : Entries α) (key : String) (value : α) :
    put (entries.map fun entry => (entry.1, f entry.2)) key (f value)
      = (put entries key value).map fun entry => (entry.1, f entry.2) := by
  induction entries with
  | nil => rfl
  | cons head rest ih =>
    obtain ⟨k, v⟩ := head
    by_cases hk : k = key
    · simp only [List.map_cons, put, if_pos hk]
    · simp only [List.map_cons, put, if_neg hk, ih]

end map

theorem get?_modify (entries : Entries α) (key other : String) (change : α → α) :
    get? (modify entries key change) other
      = (get? entries other).map fun value => if other = key then change value else value := by
  have hentry : ∀ entry : String × α, (if entry.1 = key then (entry.1, change entry.2) else entry)
      = (entry.1, if entry.1 = key then change entry.2 else entry.2) := by
    intro entry
    split <;> rfl
  simp only [modify, hentry]
  exact get?_map_keyed (fun k value => if k = key then change value else value) entries other

@[simp] theorem keys_modify (entries : Entries α) (key : String) (change : α → α) :
    keys (modify entries key change) = keys entries := by
  simp only [keys, modify, List.map_map]
  refine List.map_congr_left fun entry _ => ?_
  simp only [Function.comp_apply]
  split <;> rfl

end Entries

end RecordSchema
