/-!
# Entries in order

A dictionary as the list of its entries in the order in which their keys first came. Which keys
count as one is a parameter. A later entry takes the place of an earlier one with the same key.
-/

namespace BraceTemplate.Entries

variable {κ ν : Type}

/-- Stores a value: under the first key that is the same, or else behind all entries. -/
def insert (same : κ → κ → Bool) (key : κ) (value : ν) : List (κ × ν) → List (κ × ν)
  | [] => [(key, value)]
  | entry :: rest =>
    if same entry.1 key then (entry.1, value) :: rest else entry :: insert same key value rest

/-- The entries of `base`, with those of `overlay` stored one after the other. -/
def overlay (same : κ → κ → Bool) (base layer : List (κ × ν)) : List (κ × ν) :=
  layer.foldl (fun entries entry => insert same entry.1 entry.2 entries) base

/-- The dictionary of a list of pairs. -/
def ofList (same : κ → κ → Bool) (pairs : List (κ × ν)) : List (κ × ν) :=
  overlay same [] pairs

/-- The value of the first entry whose key passes a test. -/
def find? (test : κ → Bool) (entries : List (κ × ν)) : Option ν :=
  (entries.find? fun entry => test entry.1).map (·.2)

theorem find?_cons (test : κ → Bool) (entry : κ × ν) (rest : List (κ × ν)) :
    find? test (entry :: rest) = if test entry.1 then some entry.2 else find? test rest := by
  by_cases h : test entry.1 <;> simp [find?, h]

/-- Asked for a key that tells the same keys apart as `same` does, an insertion answers the new
value for its own key and nothing new for the others. -/
theorem find?_insert {same : κ → κ → Bool} {test : κ → Bool} {key : κ}
    (agree : ∀ k, same k key = true → test k = test key) (hself : ∀ k, test k = true →
      test key = true → same k key = true) (value : ν) (entries : List (κ × ν)) :
    find? test (insert same key value entries) =
      if test key then some value else find? test entries := by
  induction entries with
  | nil => simp [insert, find?]
  | cons entry rest ih =>
    by_cases hs : same entry.1 key
    · have ha := agree _ hs
      by_cases ht : test key <;> simp [insert, hs, find?_cons, ha, ht]
    · simp only [insert, hs, Bool.false_eq_true, if_false, find?_cons, ih]
      by_cases ht : test key
      · have hn : test entry.1 = false := by
          cases hte : test entry.1 with
          | false => rfl
          | true => exact absurd (hself _ hte ht) hs
        simp [hn, ht]
      · simp [ht]

end BraceTemplate.Entries
