/-!
# Finite maps with text keys

A `KeyMap α` holds its entries in ascending order of their keys, so that two maps
with the same look-ups are equal.  `get?` looks a key up, `insert` gives it a value and
`erase` takes it out; `get?_insert` and `get?_erase` say what a later look-up finds.
-/

namespace ServiceHarness

/-- A finite map from texts to `α`, its entries in strictly ascending order of keys. -/
structure KeyMap (α : Type) where
  /-- The entries of the map. -/
  entries : List (String × α)
  /-- The keys ascend. -/
  ascending : entries.Pairwise (fun a b => a.1 < b.1)
  deriving DecidableEq

namespace KeyMap

variable {α : Type}

/-- The entry of `k` put in its place among entries in ascending order, or in place of
the entry that `k` has already. -/
def insertEntry (k : String) (v : α) : List (String × α) → List (String × α)
  | [] => [(k, v)]
  | e :: rest =>
    if k < e.1 then (k, v) :: e :: rest
    else if k = e.1 then (k, v) :: rest
    else e :: insertEntry k v rest

/-- The value at `k` among `entries`. -/
def find? (k : String) : List (String × α) → Option α
  | [] => none
  | e :: rest => if k = e.1 then some e.2 else find? k rest

theorem mem_insertEntry {k : String} {v : α} {l : List (String × α)} {e : String × α}
    (h : e ∈ insertEntry k v l) :
  e = (k, v) ∨ e ∈ l
  := by
  induction l with
  | nil => simpa [insertEntry] using h
  | cons a l ih =>
    unfold insertEntry at h
    split at h
    · simpa using h
    · split at h
      · rcases List.mem_cons.mp h with h | h
        · exact Or.inl h
        · exact Or.inr (List.mem_cons_of_mem _ h)
      · rcases List.mem_cons.mp h with h | h
        · exact Or.inr (h ▸ List.mem_cons_self)
        · rcases ih h with h | h
          · exact Or.inl h
          · exact Or.inr (List.mem_cons_of_mem _ h)

theorem lt_of_not_lt_of_ne {a b : String} (h : ¬ a < b) (hne : ¬ a = b) :
  b < a
  := by
  rcases Std.le_iff_lt_or_eq.mp (String.not_lt.mp h) with h | h
  · exact h
  · exact absurd h.symm hne

theorem insertEntry_ascending {k : String} {v : α} {l : List (String × α)}
    (h : l.Pairwise (fun a b => a.1 < b.1)) :
  (insertEntry k v l).Pairwise (fun a b => a.1 < b.1)
  := by
  induction l with
  | nil => simp [insertEntry]
  | cons e l ih =>
    obtain ⟨he, hl⟩ := List.pairwise_cons.mp h
    unfold insertEntry
    split
    · rename_i hk
      apply List.pairwise_cons.mpr ⟨_, h⟩
      intro b hb
      rcases List.mem_cons.mp hb with rfl | hb
      · exact hk
      · exact String.lt_trans hk (he b hb)
    · split
      · rename_i hk
        subst hk
        exact List.pairwise_cons.mpr ⟨he, hl⟩
      · rename_i hnot hne
        apply List.pairwise_cons.mpr ⟨_, ih hl⟩
        intro b hb
        rcases mem_insertEntry hb with rfl | hb
        · exact lt_of_not_lt_of_ne hnot hne
        · exact he b hb

theorem find?_insertEntry (k k' : String) (v : α) (l : List (String × α)) :
  find? k' (insertEntry k v l) = if k' = k then some v else find? k' l
  := by
  induction l with
  | nil => simp [insertEntry, find?]
  | cons e l ih =>
    unfold insertEntry
    split
    · simp [find?]
    · split
      · rename_i hk
        subst hk
        simp only [find?]
        split <;> rfl
      · rename_i hne
        simp only [find?, ih]
        by_cases h : k' = e.1
        · simp [h, Ne.symm hne]
        · simp [h]

theorem find?_filter (k k' : String) (l : List (String × α)) :
  find? k' (l.filter (fun e => e.1 != k)) = if k' = k then none else find? k' l
  := by
  induction l with
  | nil => simp [find?]
  | cons e l ih =>
    by_cases he : e.1 = k
    · by_cases hk : k' = k
      · simp_all
      · simp_all [find?]
    · by_cases hk : k' = e.1
      · simp_all [find?]
      · simp_all [find?]

theorem find?_none_of_lt {k : String} {l : List (String × α)} (h : ∀ e ∈ l, k < e.1) :
  find? k l = none
  := by
  induction l with
  | nil => rfl
  | cons e l ih =>
    have hne : k ≠ e.1 := Std.ne_of_lt (h e List.mem_cons_self)
    simp only [find?, if_neg hne]
    exact ih (fun a ha => h a (List.mem_cons_of_mem _ ha))

/-- The map without entries. -/
def empty : KeyMap α :=
  ⟨[], List.Pairwise.nil⟩

instance : Inhabited (KeyMap α) := ⟨empty⟩

instance : EmptyCollection (KeyMap α) := ⟨empty⟩

/-- The value of `k`, if it has one. -/
def get? (m : KeyMap α) (k : String) : Option α :=
  find? k m.entries

/-- The map in which `k` has the value `v` and every other key what it had. -/
def insert (m : KeyMap α) (k : String) (v : α) : KeyMap α :=
  ⟨insertEntry k v m.entries, insertEntry_ascending m.ascending⟩

/-- The map in which `k` has no value and every other key what it had. -/
def erase (m : KeyMap α) (k : String) : KeyMap α :=
  ⟨m.entries.filter (fun e => e.1 != k), m.ascending.filter _⟩

/-- Whether the map has no entries. -/
def isEmpty (m : KeyMap α) : Bool :=
  m.entries.isEmpty

/-- The map of a list of entries, a later one taking the place of an earlier one with
the same key. -/
def ofList (l : List (String × α)) : KeyMap α :=
  l.foldl (fun m e => m.insert e.1 e.2) empty

@[simp]
theorem get?_empty (k : String) :
  (empty : KeyMap α).get? k = none
  := rfl

theorem get?_insert (m : KeyMap α) (k k' : String) (v : α) :
  (m.insert k v).get? k' = if k' = k then some v else m.get? k'
  := find?_insertEntry k k' v m.entries

theorem get?_erase (m : KeyMap α) (k k' : String) :
  (m.erase k).get? k' = if k' = k then none else m.get? k'
  := find?_filter k k' m.entries

theorem entries_eq_of_find? {l r : List (String × α)}
    (hl : l.Pairwise (fun a b => a.1 < b.1)) (hr : r.Pairwise (fun a b => a.1 < b.1))
    (h : ∀ k, find? k l = find? k r) :
  l = r
  := by
  induction l generalizing r with
  | nil =>
    cases r with
    | nil => rfl
    | cons e r => simpa [find?] using h e.1
  | cons d l ih =>
    cases r with
    | nil => simpa [find?] using h d.1
    | cons e r =>
      obtain ⟨hd, hl⟩ := List.pairwise_cons.mp hl
      obtain ⟨he, hr⟩ := List.pairwise_cons.mp hr
      have hkey : d.1 = e.1
        := by
        by_cases hlt : d.1 < e.1
        · have := h d.1
          rw [find?, if_pos rfl, find?_none_of_lt] at this
          · simp at this
          · intro a ha
            rcases List.mem_cons.mp ha with rfl | ha
            · exact hlt
            · exact String.lt_trans hlt (he a ha)
        · by_cases heq : d.1 = e.1
          · exact heq
          · have hlt := lt_of_not_lt_of_ne hlt heq
            have := h e.1
            rw [eq_comm, find?, if_pos rfl, find?_none_of_lt] at this
            · simp at this
            · intro a ha
              rcases List.mem_cons.mp ha with rfl | ha
              · exact hlt
              · exact String.lt_trans hlt (hd a ha)
      have hval : d.2 = e.2
        := by
        have := h d.1
        simpa [find?, hkey] using this
      have hrest : ∀ k, find? k l = find? k r
        := by
        intro k
        by_cases hk : k = d.1
        · subst hk
          rw [find?_none_of_lt hd, find?_none_of_lt (hkey ▸ he)]
        · have := h k
          simpa [find?, hk, hkey ▸ hk] using this
      have hde : d = e := Prod.ext hkey hval
      rw [hde, ih hl hr hrest]

theorem find?_eq_some_iff {k : String} {v : α} {l : List (String × α)}
    (h : l.Pairwise (fun a b => a.1 < b.1)) :
  find? k l = some v ↔ (k, v) ∈ l
  := by
  induction l with
  | nil => simp [find?]
  | cons e l ih =>
    obtain ⟨he, hl⟩ := List.pairwise_cons.mp h
    by_cases hk : k = e.1
    · subst hk
      have hrest : (e.1, v) ∉ l := fun hmem => String.lt_irrefl _ (he (e.1, v) hmem)
      rw [find?, if_pos rfl, List.mem_cons, or_iff_left hrest, Option.some.injEq,
        Prod.ext_iff, and_iff_right rfl, eq_comm]
    · have hne : (k, v) ≠ e := fun heq => hk (congrArg Prod.fst heq)
      rw [find?, if_neg hk, List.mem_cons, or_iff_right hne]
      exact ih hl

/-- A look-up finds the values that are among the entries. -/
theorem mem_entries_iff (m : KeyMap α) (k : String) (v : α) :
  (k, v) ∈ m.entries ↔ m.get? k = some v
  := (find?_eq_some_iff m.ascending).symm

/-- Taking out some keys leaves the others alone. -/
theorem get?_foldl_erase (keys : List String) (m : KeyMap α) (k : String) :
  (keys.foldl (fun m key => m.erase key) m).get? k = if k ∈ keys then none else m.get? k
  := by
  induction keys generalizing m with
  | nil => simp
  | cons key keys ih =>
    rw [List.foldl_cons, ih, get?_erase]
    by_cases hkeys : k ∈ keys
    · rw [if_pos hkeys, if_pos (List.mem_cons_of_mem _ hkeys)]
    · rw [if_neg hkeys]
      simp only [List.mem_cons, hkeys, or_false]

/-- Putting some entries in leaves the other keys alone. -/
theorem get?_foldl_insert_of_notMem {l : List (String × α)} {k : String}
    (h : ∀ e ∈ l, e.1 ≠ k) (m : KeyMap α) :
  (l.foldl (fun m e => m.insert e.1 e.2) m).get? k = m.get? k
  := by
  induction l generalizing m with
  | nil => rfl
  | cons e l ih =>
    have hne : k ≠ e.1 := (h e List.mem_cons_self).symm
    rw [List.foldl_cons, ih (fun a ha => h a (List.mem_cons_of_mem _ ha)), get?_insert,
      if_neg hne]

/-- Of entries with different keys each is found once they have been put in. -/
theorem get?_foldl_insert_of_mem {l : List (String × α)} {k : String} {v : α}
    (hkeys : l.Pairwise (fun a b => a.1 ≠ b.1)) (h : (k, v) ∈ l) (m : KeyMap α) :
  (l.foldl (fun m e => m.insert e.1 e.2) m).get? k = some v
  := by
  induction l generalizing m with
  | nil => cases h
  | cons e l ih =>
    obtain ⟨he, hl⟩ := List.pairwise_cons.mp hkeys
    rw [List.foldl_cons]
    rcases List.mem_cons.mp h with rfl | hmem
    · rw [get?_foldl_insert_of_notMem (fun a ha => (he a ha).symm), get?_insert, if_pos rfl]
    · apply ih hl hmem

/-- Two maps with the same look-ups are equal. -/
theorem ext_get? {m n : KeyMap α} (h : ∀ k, m.get? k = n.get? k) :
  m = n
  := by
  obtain ⟨l, hl⟩ := m
  obtain ⟨r, hr⟩ := n
  obtain rfl := entries_eq_of_find? hl hr h
  rfl

end KeyMap

end ServiceHarness
