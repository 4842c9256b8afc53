import BraceTemplate.Value.Text

/-!
# Leaves of nested sequences

The default text of a sequence tells its leaves, in order and with commas in between, and nothing of
how they are grouped. A sequence inside another one can so be replaced by its items, and a list by a
tuple; one without items counts as a null, which has no text inside a sequence.
-/

namespace BraceTemplate.Value

/-! ## Leaves -/

mutual

/-- The leaves of an item: the item itself, unless it is a sequence. -/
def itemLeaves : Value → List Value
  | .list items => if items.isEmpty then [.null] else leaves items
  | .tuple items => if items.isEmpty then [.null] else leaves items
  | item => [item]

/-- The leaves of the items of a sequence, in order. -/
def leaves : List Value → List Value
  | [] => []
  | item :: rest => itemLeaves item ++ leaves rest

end

/-- The items are the same but for their grouping: in any number of steps, a sequence among them is
replaced by its own items, or some of them by a sequence of either sort that has them as items. -/
inductive Regrouped : List Value → List Value → Prop where
  | refl (items : List Value) : Regrouped items items
  | symm {items items' : List Value} (h : Regrouped items items') : Regrouped items' items
  | trans {items items' items'' : List Value} (h : Regrouped items items')
    (h' : Regrouped items' items'') : Regrouped items items''
  | append {before before' after after' : List Value} (h : Regrouped before before')
    (h' : Regrouped after after') : Regrouped (before ++ after) (before' ++ after')
  | ungroup {group : Value} {items : List Value} (h : group.items? = some items)
    (hne : items ≠ []) : Regrouped [group] items
  /-- What has no items stands for a null. -/
  | empty {group : Value} (h : group.items? = some []) : Regrouped [group] [.null]

/-- What holds of all values that are no sequences, and of each sequence whose items it holds of,
holds of every value. -/
@[elab_as_elim]
theorem sequence_induction {motive : Value → Prop}
    (leaf : ∀ v, v.items? = none → motive v)
    (group : ∀ v items, v.items? = some items → (∀ item ∈ items, motive item) → motive v)
    (v : Value) : motive v := by
  cases v with
  | list items =>
    exact group _ items rfl fun item _ => sequence_induction leaf group item
  | tuple items =>
    exact group _ items rfl fun item _ => sequence_induction leaf group item
  | _ => exact leaf _ rfl
termination_by sizeOf v
decreasing_by
  all_goals
    have hsize := List.sizeOf_lt_of_mem ‹item ∈ items›
    simp only [list.sizeOf_spec, tuple.sizeOf_spec]
    omega

section Leaves

variable {v : Value} {items items' : List Value}

theorem leaves_eq_flatMap (items : List Value) : leaves items = items.flatMap itemLeaves := by
  induction items with
  | nil => rfl
  | cons item rest ih => rw [leaves, ih, List.flatMap_cons]

theorem itemLeaves_of_leaf (h : v.items? = none) : itemLeaves v = [v] := by
  cases v <;> first | rfl | cases h

theorem itemLeaves_of_group (h : v.items? = some items) :
    itemLeaves v = if items.isEmpty then [.null] else leaves items := by
  cases v <;> cases h <;> rw [itemLeaves]

theorem itemLeaves_ne_nil (v : Value) : itemLeaves v ≠ [] := by
  induction v using sequence_induction with
  | leaf v h =>
    rw [itemLeaves_of_leaf h]
    exact List.cons_ne_nil _ _
  | group v items h ih =>
    rw [itemLeaves_of_group h]
    cases items with
    | nil => exact List.cons_ne_nil _ _
    | cons item rest => exact List.append_ne_nil_of_left_ne_nil (ih item List.mem_cons_self) _

/-- No leaf is a sequence. -/
theorem items?_of_mem_itemLeaves (v : Value) : ∀ leaf ∈ itemLeaves v, leaf.items? = none := by
  induction v using sequence_induction with
  | leaf v h =>
    rw [itemLeaves_of_leaf h]
    intro leaf hleaf
    rw [List.mem_singleton.mp hleaf, h]
  | group v items h ih =>
    intro leaf hleaf
    rw [itemLeaves_of_group h] at hleaf
    split at hleaf
    · rw [List.mem_singleton.mp hleaf]
      rfl
    · rw [leaves_eq_flatMap] at hleaf
      obtain ⟨item, hitem, hleaf⟩ := List.mem_flatMap.mp hleaf
      exact ih item hitem leaf hleaf

theorem items?_of_mem_leaves (items : List Value) : ∀ leaf ∈ leaves items, leaf.items? = none := by
  intro leaf hleaf
  rw [leaves_eq_flatMap] at hleaf
  obtain ⟨item, -, hleaf⟩ := List.mem_flatMap.mp hleaf
  exact items?_of_mem_itemLeaves item leaf hleaf

/-! ## Regrouping -/

theorem Regrouped.leaves_eq (h : Regrouped items items') : leaves items = leaves items' := by
  induction h with
  | refl items => rfl
  | symm h ih => exact ih.symm
  | trans h h' ih ih' => exact ih.trans ih'
  | append h h' ih ih' =>
    simp only [leaves_eq_flatMap] at ih ih' ⊢
    rw [List.flatMap_append, List.flatMap_append, ih, ih']
  | @ungroup group items h hne =>
    have hfull : items.isEmpty = false := by simpa using hne
    rw [leaves, itemLeaves_of_group h, hfull, leaves, List.append_nil]
    rfl
  | empty h =>
    rw [leaves, itemLeaves_of_group h]
    rfl

theorem Regrouped.flatMap {f : Value → List Value} (h : ∀ item ∈ items, Regrouped [item] (f item)) :
    Regrouped items (items.flatMap f) := by
  induction items with
  | nil => exact .refl []
  | cons item rest ih =>
    obtain ⟨hitem, hrest⟩ := List.forall_mem_cons.mp h
    exact hitem.append (ih hrest)

theorem regrouped_itemLeaves (v : Value) : Regrouped [v] (itemLeaves v) := by
  induction v using sequence_induction with
  | leaf v h =>
    rw [itemLeaves_of_leaf h]
    exact .refl [v]
  | group v items h ih =>
    rw [itemLeaves_of_group h]
    split
    · rename_i hempty
      rw [List.isEmpty_iff.mp hempty] at h
      exact .empty h
    · rename_i hfull
      rw [leaves_eq_flatMap]
      exact (Regrouped.ungroup h (by simpa using hfull)).trans (.flatMap ih)

theorem regrouped_leaves (items : List Value) : Regrouped items (leaves items) := by
  rw [leaves_eq_flatMap]
  exact .flatMap fun item _ => regrouped_itemLeaves item

/-- Items with the same leaves are the same but for their grouping. -/
theorem regrouped_iff : Regrouped items items' ↔ leaves items = leaves items' := by
  constructor
  · exact Regrouped.leaves_eq
  · intro h
    have hback : Regrouped (leaves items) items' := h ▸ (regrouped_leaves items').symm
    exact (regrouped_leaves items).trans hback

end Leaves

/-! ## Texts -/

section Texts

variable {v : Value} {items : List Value}

theorem stringify_of_items? (h : v.items? = some items) : v.stringify = stringifyItems items := by
  cases v <;> cases h <;> rfl

theorem stringifyItems_cons_cons (item next : Value) (rest : List Value) :
    stringifyItems (item :: next :: rest) =
      stringifyItems [item] ++ (',' : CodePoint) :: stringifyItems (next :: rest) := rfl

/-- One comma stands between what is in front and what follows. -/
theorem stringifyItems_append {before after : List Value} (hbefore : before ≠ [])
    (hafter : after ≠ []) :
    stringifyItems (before ++ after) =
      stringifyItems before ++ (',' : CodePoint) :: stringifyItems after := by
  obtain ⟨next, others, rfl⟩ := List.exists_cons_of_ne_nil hafter
  induction before with
  | nil => exact absurd rfl hbefore
  | cons item rest ih =>
    cases rest with
    | nil => exact stringifyItems_cons_cons item next others
    | cons second rest =>
      rw [List.cons_append, List.cons_append, stringifyItems_cons_cons, ← List.cons_append,
        ih (List.cons_ne_nil _ _), stringifyItems_cons_cons, List.append_assoc, List.cons_append]

/-- Items may be replaced by others that have the same text in a sequence. -/
theorem stringifyItems_flatMap {f : Value → List Value} (hne : ∀ item ∈ items, f item ≠ [])
    (h : ∀ item ∈ items, stringifyItems (f item) = stringifyItems [item]) :
    stringifyItems (items.flatMap f) = stringifyItems items := by
  induction items with
  | nil => rfl
  | cons item rest ih =>
    obtain ⟨hneItem, hneRest⟩ := List.forall_mem_cons.mp hne
    obtain ⟨hitem, hrest⟩ := List.forall_mem_cons.mp h
    cases rest with
    | nil => rw [List.flatMap_cons, List.flatMap_nil, List.append_nil, hitem]
    | cons next rest =>
      have hfull : (next :: rest).flatMap f ≠ [] :=
        List.append_ne_nil_of_left_ne_nil (hneRest next List.mem_cons_self) _
      rw [List.flatMap_cons, stringifyItems_append hneItem hfull, hitem, ih hneRest hrest,
        stringifyItems_cons_cons]

theorem stringifyItems_itemLeaves (v : Value) :
    stringifyItems (itemLeaves v) = stringifyItems [v] := by
  induction v using sequence_induction with
  | leaf v h => rw [itemLeaves_of_leaf h]
  | group v items h ih =>
    have htext : stringifyItems [v] = stringifyItems items := by
      rw [← stringify_of_items? h]
      cases v <;> cases h <;> rfl
    rw [itemLeaves_of_group h, htext]
    split
    · -- without items there is no text, as there is none for a null inside a sequence
      rename_i hempty
      rw [List.isEmpty_iff.mp hempty]
      rfl
    · rw [leaves_eq_flatMap]
      exact stringifyItems_flatMap (fun item _ => itemLeaves_ne_nil item) ih

theorem stringifyItems_leaves (items : List Value) :
    stringifyItems (leaves items) = stringifyItems items := by
  rw [leaves_eq_flatMap]
  exact stringifyItems_flatMap (fun item _ => itemLeaves_ne_nil item)
    fun item _ => stringifyItems_itemLeaves item

/-- **The default text of a sequence is that of its leaves in a row**, in a list or in a tuple. So
it is the same for all sequences whose items are the same but for their grouping, and these are
just the sequences with the same leaves. -/
theorem stringify_eq_stringify_leaves (hv : v.items? = some items) :
    (∀ leaf ∈ leaves items, leaf.items? = none) ∧
      v.stringify = (Value.list (leaves items)).stringify ∧
      v.stringify = (Value.tuple (leaves items)).stringify ∧
      ∀ (w : Value) (items' : List Value), w.items? = some items' →
        (Regrouped items items' ↔ leaves items = leaves items') ∧
          (Regrouped items items' → w.stringify = v.stringify) := by
  have hflat : v.stringify = stringifyItems (leaves items) := by
    rw [stringify_of_items? hv, stringifyItems_leaves]
  refine ⟨items?_of_mem_leaves items, hflat, hflat, ?_⟩
  intro w items' hw
  refine ⟨regrouped_iff, ?_⟩
  intro hgroups
  rw [stringify_of_items? hw, hflat, hgroups.leaves_eq, stringifyItems_leaves]

/-- Empty groups and nulls at several depths. -/
def nest : List Value :=
  [.list [], .tuple [.int 1, .list [.null, .tuple [.list []]]], .text "x", .tuple [.list [.null]]]

theorem stringify_eq_stringify_leaves_of_nest :
    (Value.tuple nest).items? = some nest ∧
      leaves nest = [.null, .int 1, .null, .null, .text "x", .null] ∧
      (Value.tuple nest).stringify =
        (Value.list [.null, .int 1, .null, .null, .text "x", .null]).stringify ∧
      (Value.tuple nest).stringify = ",1,,,x," := by
  have hitems : (Value.tuple nest).items? = some nest := rfl
  have hleaves : leaves nest = [.null, .int 1, .null, .null, .text "x", .null] := rfl
  obtain ⟨-, hflat, -⟩ := stringify_eq_stringify_leaves hitems
  rw [hleaves] at hflat
  exact ⟨hitems, hleaves, hflat, rfl⟩

end Texts

end BraceTemplate.Value
