import BraceTemplate.Entries

/-!
# Dictionaries over dictionaries

What is found in a dictionary after others were stored over it. Which keys count as one need not be
an equality, so the statements are about keys that are the same as themselves only. Storing such
dictionaries one over the other is associative: it makes no difference whether one is stored over
the second first, or both over the first one after the other.
-/

namespace BraceTemplate.Entries

variable {κ ν : Type} {same : κ → κ → Bool}

/-- The key is the same as itself and as no other key. -/
structure Alone (same : κ → κ → Bool) (key : κ) : Prop where
  same_left : ∀ other, same key other = true ↔ other = key
  same_right : ∀ other, same other key = true ↔ other = key

theorem overlay_cons (base rest : List (κ × ν)) (entry : κ × ν) :
    overlay same base (entry :: rest) = overlay same (insert same entry.1 entry.2 base) rest := rfl

/-! ## Keys and values -/

/-- What holds of all keys and of all values still does when another entry is stored. -/
theorem forall_insert {P : κ → Prop} {Q : ν → Prop} {key : κ} {value : ν}
    {entries : List (κ × ν)} (hkey : P key) (hvalue : Q value)
    (h : ∀ entry ∈ entries, P entry.1 ∧ Q entry.2) :
    ∀ entry ∈ insert same key value entries, P entry.1 ∧ Q entry.2 := by
  induction entries with
  | nil =>
    intro entry hmem
    obtain rfl : entry = (key, value) := by simpa [insert] using hmem
    exact ⟨hkey, hvalue⟩
  | cons first rest ih =>
    obtain ⟨hfirst, hrest⟩ := List.forall_mem_cons.mp h
    rw [insert]
    split
    · exact List.forall_mem_cons.mpr ⟨⟨hfirst.1, hvalue⟩, hrest⟩
    · exact List.forall_mem_cons.mpr ⟨hfirst, ih hrest⟩

theorem forall_overlay {P : κ → Prop} {Q : ν → Prop} {base layer : List (κ × ν)}
    (hbase : ∀ entry ∈ base, P entry.1 ∧ Q entry.2)
    (hlayer : ∀ entry ∈ layer, P entry.1 ∧ Q entry.2) :
    ∀ entry ∈ overlay same base layer, P entry.1 ∧ Q entry.2 := by
  induction layer generalizing base with
  | nil => exact hbase
  | cons entry rest ih =>
    obtain ⟨hentry, hrest⟩ := List.forall_mem_cons.mp hlayer
    exact ih (forall_insert hentry.1 hentry.2 hbase) hrest

/-- A key that is there stays where it is; a new one comes behind the others. -/
theorem keys_insert (key : κ) (value : ν) (entries : List (κ × ν)) :
    ((∃ other ∈ entries.map (·.1), same other key = true) ∧
        (insert same key value entries).map (·.1) = entries.map (·.1)) ∨
      ((∀ other ∈ entries.map (·.1), ¬ same other key = true) ∧
        (insert same key value entries).map (·.1) = entries.map (·.1) ++ [key]) := by
  induction entries with
  | nil => exact .inr ⟨by simp, rfl⟩
  | cons entry rest ih =>
    by_cases hs : same entry.1 key = true
    · exact .inl ⟨⟨entry.1, by simp, hs⟩, by simp [insert, hs]⟩
    · rcases ih with ⟨⟨other, hmem, hother⟩, hkeys⟩ | ⟨hnone, hkeys⟩
      · exact .inl ⟨⟨other, List.mem_cons_of_mem _ hmem, hother⟩, by simp [insert, hs, hkeys]⟩
      · exact .inr ⟨List.forall_mem_cons.mpr ⟨hs, hnone⟩, by simp [insert, hs, hkeys]⟩

theorem mem_keys_insert_of_mem {key other : κ} {entries : List (κ × ν)}
    (h : other ∈ entries.map (·.1)) (value : ν) :
    other ∈ (insert same key value entries).map (·.1) := by
  rcases keys_insert key value entries with ⟨-, hkeys⟩ | ⟨-, hkeys⟩
  · rwa [hkeys]
  · rw [hkeys]
    exact List.mem_append_left _ h

theorem mem_keys_overlay_of_mem {key : κ} {base layer : List (κ × ν)}
    (h : key ∈ base.map (·.1)) : key ∈ (overlay same base layer).map (·.1) := by
  induction layer generalizing base with
  | nil => exact h
  | cons entry rest ih => exact ih (mem_keys_insert_of_mem h entry.2)

/-- Each key that was stored is there, or one that is the same. -/
theorem exists_key_of_mem {base layer : List (κ × ν)} {entry : κ × ν} (h : entry ∈ layer) :
    ∃ key ∈ (overlay same base layer).map (·.1), key = entry.1 ∨ same key entry.1 = true := by
  induction layer generalizing base with
  | nil => simp at h
  | cons first rest ih =>
    rw [overlay_cons]
    rcases List.mem_cons.mp h with rfl | hrest
    · rcases keys_insert entry.1 entry.2 base with ⟨⟨other, hmem, hother⟩, -⟩ | ⟨-, hkeys⟩
      · exact ⟨other, mem_keys_overlay_of_mem (mem_keys_insert_of_mem hmem _), .inr hother⟩
      · refine ⟨entry.1, mem_keys_overlay_of_mem ?_, .inl rfl⟩
        rw [hkeys]
        exact List.mem_append_right _ (List.mem_singleton.mpr rfl)
    · exact ih hrest

/-! ## Lookups -/

theorem exists_of_find? {test : κ → Bool} {entries : List (κ × ν)} {value : ν}
    (h : find? test entries = some value) : ∃ key, (key, value) ∈ entries ∧ test key = true := by
  obtain ⟨entry, hfind, rfl⟩ := Option.map_eq_some_iff.mp h
  have htest := List.find?_some hfind
  exact ⟨entry.1, List.mem_of_find?_eq_some hfind, htest⟩

theorem isSome_find?_iff {key : κ} (h : Alone same key) (entries : List (κ × ν)) :
    (find? (same · key) entries).isSome ↔ key ∈ entries.map (·.1) := by
  simp [find?, h.same_right]

theorem find?_insert_of_alone {key : κ} (h : Alone same key) (value : ν) (entries : List (κ × ν))
    (code : κ) :
    find? (same · code) (insert same key value entries) =
      if same key code then some value else find? (same · code) entries := by
  apply find?_insert
  · intro k hk
    rw [(h.same_right k).mp hk]
  · intro k hk hkey
    rwa [(h.same_left code).mp hkey] at hk

/-- What is found in a dictionary over another one: what the upper one has, or else what the lower
one has. -/
theorem find?_overlay {pairs : List (κ × ν)} (h : ∀ entry ∈ pairs, Alone same entry.1)
    (base : List (κ × ν)) (code : κ) :
    find? (same · code) (overlay same base pairs) =
      (find? (same · code) (ofList same pairs)).or (find? (same · code) base) := by
  induction pairs generalizing base with
  | nil => rfl
  | cons entry rest ih =>
    obtain ⟨hentry, hrest⟩ := List.forall_mem_cons.mp h
    rw [ofList, overlay_cons, overlay_cons, ih hrest, ih hrest, find?_insert_of_alone hentry,
      find?_insert_of_alone hentry, Option.or_assoc]
    split <;> rfl

/-- A condition on keys takes out what is found under the keys that it does not hold of. -/
theorem find?_filter {entries : List (κ × ν)} (h : ∀ entry ∈ entries, Alone same entry.1)
    (p : κ → Bool) (code : κ) :
    find? (same · code) (entries.filter fun entry => p entry.1) =
      if p code then find? (same · code) entries else none := by
  induction entries with
  | nil => simp [find?]
  | cons entry rest ih =>
    obtain ⟨hentry, hrest⟩ := List.forall_mem_cons.mp h
    rw [find?_cons]
    by_cases hs : same entry.1 code = true
    · obtain rfl : code = entry.1 := (hentry.same_left _).mp hs
      by_cases hp : p entry.1 = true
      · simp [hp, hs, find?_cons]
      · simp [hp, ih hrest]
    · by_cases hp : p entry.1 = true
      · simp [hp, hs, find?_cons, ih hrest]
      · simp [hp, hs, ih hrest]

/-! ## Storing twice -/

theorem insert_insert {key : κ} (h : Alone same key) (value old : ν) (entries : List (κ × ν)) :
    insert same key value (insert same key old entries) = insert same key value entries := by
  induction entries with
  | nil => simp [insert, (h.same_left key).mpr rfl]
  | cons entry rest ih => by_cases hs : same entry.1 key = true <;> simp [insert, hs, ih]

/-- Where a key is already there, it makes no difference whether another one is stored before. -/
theorem insert_comm {key other : κ} (hkey : Alone same key) (hother : Alone same other)
    (hne : other ≠ key) (value new : ν) {entries : List (κ × ν)}
    (hmem : key ∈ entries.map (·.1)) :
    insert same key value (insert same other new entries) =
      insert same other new (insert same key value entries) := by
  induction entries with
  | nil => simp at hmem
  | cons entry rest ih =>
    by_cases hs : same entry.1 key = true
    · have hk : entry.1 = key := (hkey.same_right _).mp hs
      have ho : ¬ same entry.1 other = true := fun ho =>
        hne (((hother.same_right _).mp ho).symm.trans hk)
      simp [insert, hs, ho]
    · have hk : key ≠ entry.1 := fun heq => hs ((hkey.same_right _).mpr heq.symm)
      have hrest : key ∈ rest.map (·.1) := by simpa [hk] using hmem
      by_cases ho : same entry.1 other = true
      · simp [insert, hs, ho]
      · simp [insert, hs, ho, ih hrest]

/-- All keys are alone, and no two of them are equal. -/
structure Distinct (same : κ → κ → Bool) (entries : List (κ × ν)) : Prop where
  alone : ∀ entry ∈ entries, Alone same entry.1
  nodup : (entries.map (·.1)).Nodup

namespace Distinct

variable {base entries : List (κ × ν)}

theorem insert (h : Distinct same entries) {key : κ} (hkey : Alone same key) (value : ν) :
    Distinct same (insert same key value entries) where
  alone := fun entry hmem =>
    (forall_insert (Q := fun _ => True) hkey trivial (fun e he => ⟨h.alone e he, trivial⟩)
      entry hmem).1
  nodup := by
    rcases keys_insert key value entries with ⟨-, hkeys⟩ | ⟨hnone, hkeys⟩
    · rw [hkeys]
      exact h.nodup
    · rw [hkeys]
      refine List.nodup_append.mpr ⟨h.nodup, by simp, ?_⟩
      intro a ha b hb heq
      obtain rfl : b = key := by simpa using hb
      exact hnone a ha ((hkey.same_right a).mpr heq)

theorem overlay (hbase : Distinct same base) (h : ∀ entry ∈ entries, Alone same entry.1) :
    Distinct same (overlay same base entries) := by
  induction entries generalizing base with
  | nil => exact hbase
  | cons entry rest ih =>
    obtain ⟨hentry, hrest⟩ := List.forall_mem_cons.mp h
    exact ih (hbase.insert hentry entry.2) hrest

end Distinct

theorem distinct_ofList {pairs : List (κ × ν)} (h : ∀ entry ∈ pairs, Alone same entry.1) :
    Distinct same (ofList same pairs) :=
  Distinct.overlay ⟨by simp, by simp⟩ h

/-! ## Storing dictionaries -/

/-- A key that is already there can be stored before entries of other keys. -/
theorem insert_overlay {key : κ} (hkey : Alone same key) (value : ν)
    {base entries : List (κ × ν)} (h : ∀ entry ∈ entries, Alone same entry.1)
    (hmem : key ∈ base.map (·.1)) (hnew : key ∉ entries.map (·.1)) :
    insert same key value (overlay same base entries) =
      overlay same (insert same key value base) entries := by
  induction entries generalizing base with
  | nil => rfl
  | cons entry rest ih =>
    obtain ⟨hentry, hrest⟩ := List.forall_mem_cons.mp h
    obtain ⟨hne, hnew⟩ : key ≠ entry.1 ∧ key ∉ rest.map (·.1) := by
      simpa only [List.map_cons, List.mem_cons, not_or] using hnew
    rw [overlay_cons, overlay_cons, ih hrest (mem_keys_insert_of_mem hmem _) hnew,
      insert_comm hkey hentry (Ne.symm hne) _ _ hmem]

/-- An entry stored in a dictionary, and then all of it over another one: the entry can as well be
stored last. -/
theorem overlay_insert {entries : List (κ × ν)} (h : Distinct same entries) {key : κ}
    (hkey : Alone same key) (value : ν) (base : List (κ × ν)) :
    overlay same base (insert same key value entries) =
      insert same key value (overlay same base entries) := by
  induction entries generalizing base with
  | nil => rfl
  | cons entry rest ih =>
    obtain ⟨hentry, hrest⟩ := List.forall_mem_cons.mp h.alone
    obtain ⟨hnew, hnodup⟩ := List.nodup_cons.mp h.nodup
    rw [insert, overlay_cons]
    split
    · rename_i hs
      obtain rfl : entry.1 = key := (hkey.same_right _).mp hs
      have hmem : entry.1 ∈ (insert same entry.1 entry.2 base).map (·.1) := by
        rw [← isSome_find?_iff hkey, find?_insert_of_alone hkey]
        simp [hs]
      rw [overlay_cons, insert_overlay hkey value hrest hmem hnew, insert_insert hkey]
    · rw [overlay_cons, ih ⟨hrest, hnodup⟩]

/-- Storing dictionaries over one another is associative. -/
theorem overlay_overlay {layer : List (κ × ν)} (hlayer : Distinct same layer)
    {pairs : List (κ × ν)} (hpairs : ∀ entry ∈ pairs, Alone same entry.1) (base : List (κ × ν)) :
    overlay same base (overlay same layer pairs) =
      overlay same (overlay same base layer) pairs := by
  induction pairs generalizing layer with
  | nil => rfl
  | cons entry rest ih =>
    obtain ⟨hentry, hrest⟩ := List.forall_mem_cons.mp hpairs
    rw [overlay_cons, overlay_cons, ih (hlayer.insert hentry entry.2) hrest,
      overlay_insert hlayer hentry]

/-- To store pairs and to store their dictionary is the same. -/
theorem overlay_ofList {pairs : List (κ × ν)} (h : ∀ entry ∈ pairs, Alone same entry.1)
    (base : List (κ × ν)) : overlay same base (ofList same pairs) = overlay same base pairs :=
  overlay_overlay ⟨by simp, by simp⟩ h base

end BraceTemplate.Entries
