import BraceTemplate.Proofs.Binding.WellAddressed
import BraceTemplate.Proofs.Template.Canonical

/-!
# Addresses decide

What a placeholder addresses, and whether a call suits a template, depends on the addresses of the
placeholders and on nothing else of them. With addresses, a call suits two templates together just
if it suits each of them. Without, the first placeholders take the first arguments, and those that
are left are for the others.
-/

namespace BraceTemplate

/-! ## Places -/

/-- Where a path stands only matters where it leads nowhere. -/
theorem Value.resolve_eq_ok_iff {root v : Value} {path : Text} {site : Option Site} :
    root.resolve path site = .ok v ↔ root.walk? (Path.steps path) = some v := by
  unfold Value.resolve
  split <;> simp_all

theorem Addresses.placedAt {args : List Value} {index : Nat} {p : Placeholder} {v : Value}
    (h : Addresses args index p v) (place : Position) :
    Addresses args index (p.placedAt place) v := by
  cases h with
  | anonymous mode found => exact .anonymous mode found
  | positional mode found => exact .positional mode found
  | keyed mode root first found =>
    exact .keyed mode root first (Value.resolve_eq_ok_iff.mpr (Value.resolve_eq_ok_iff.mp found))

/-- What a placeholder addresses does not depend on its place. -/
theorem addresses_placedAt {args : List Value} {index : Nat} {p : Placeholder} {v : Value}
    (place : Position) : Addresses args index (p.placedAt place) v ↔ Addresses args index p v :=
  ⟨fun h => h.placedAt p.position, fun h => h.placedAt place⟩

/-! ## Calls that suit both templates -/

/-- Placeholders at other places have the same addresses. -/
theorem addresses_locate (start : Position) (segments : List Segment) :
    (placeholders (locate start segments)).map Placeholder.address =
      (placeholders segments).map Placeholder.address := by
  induction segments generalizing start with
  | nil => rfl
  | cons s rest ih =>
    cases s with
    | literal t => exact ih _
    | field p => exact congrArg (p.address :: ·) (ih _)

section Addresses

variable {fields other : List Placeholder} {args : List Value} {named : List (Text × Value)}

theorem InMode.of_addresses {mode : AddressMode} (h : InMode fields mode)
    (haddresses : fields.map Placeholder.address = other.map Placeholder.address) :
    InMode other mode := by
  constructor
  · rintro rfl
    exact h.1 (List.map_eq_nil_iff.mp haddresses)
  · intro q hq
    have hmem := List.mem_map_of_mem (f := Placeholder.address) hq
    rw [← haddresses] at hmem
    obtain ⟨p, hp, heq⟩ := List.mem_map.mp hmem
    rw [← h.2 p hp, Placeholder.mode, Placeholder.mode, heq]

/-- Only the addresses of the placeholders decide whether a call suits them. -/
theorem WellAddressed.of_addresses (h : WellAddressed fields args named)
    (haddresses : fields.map Placeholder.address = other.map Placeholder.address) :
    WellAddressed other args named := by
  have hback : ∀ {mode}, InMode other mode → InMode fields mode :=
    fun hm => hm.of_addresses haddresses.symm
  have hmem : ∀ q ∈ other, ∃ p ∈ fields, p.address = q.address := by
    intro q hq
    have hmem := List.mem_map_of_mem (f := Placeholder.address) hq
    rwa [← haddresses, List.mem_map] at hmem
  have hlength : fields.length = other.length := by simpa using congrArg List.length haddresses
  rcases h.same_mode with rfl | ⟨mode, hm⟩
  · obtain rfl : other = [] := List.map_eq_nil_iff.mp haddresses.symm
    exact h
  · have hm' := hm.of_addresses haddresses
    cases mode with
    | anonymous =>
      obtain ⟨hn, hcount⟩ := h.anonymous hm
      exact .of_anonymous hm' hn (hlength ▸ hcount)
    | positional =>
      obtain ⟨hn, hall⟩ := h.positional hm
      refine .of_positional hm' hn ?_
      intro q hq
      obtain ⟨p, hp, heq⟩ := hmem q hq
      exact heq ▸ hall p hp
    | keyed =>
      obtain ⟨typeName, entries, ho, hall⟩ := h.keyed hm
      refine .of_keyed hm' h.one_source ho ?_
      intro q hq
      obtain ⟨p, hp, heq⟩ := hmem q hq
      obtain ⟨v, hv⟩ := hall p hp
      exact ⟨v, Value.resolve_eq_ok_iff.mpr (heq ▸ Value.resolve_eq_ok_iff.mp hv)⟩

theorem InMode.append {mode : AddressMode} (h : InMode fields mode) (hother : InMode other mode) :
    InMode (fields ++ other) mode := by
  refine ⟨by simp [h.1], ?_⟩
  intro p hp
  rcases List.mem_append.mp hp with hp | hp
  · exact h.2 p hp
  · exact hother.2 p hp

/-- With addresses, a call suits two templates together if it suits each of them. -/
theorem wellAddressed_append_iff {mode : AddressMode} (hmode : mode ≠ .anonymous)
    (h : InMode fields mode) (hother : InMode other mode) :
    WellAddressed (fields ++ other) args named ↔
      WellAddressed fields args named ∧ WellAddressed other args named := by
  have hboth := h.append hother
  cases mode with
  | anonymous => exact absurd rfl hmode
  | positional =>
    constructor
    · intro hw
      obtain ⟨hn, hall⟩ := hw.positional hboth
      obtain ⟨hfields, hothers⟩ := List.forall_mem_append.mp hall
      exact ⟨.of_positional h hn hfields, .of_positional hother hn hothers⟩
    · rintro ⟨hw, hw'⟩
      obtain ⟨hn, hall⟩ := hw.positional h
      exact .of_positional hboth hn
        (List.forall_mem_append.mpr ⟨hall, (hw'.positional hother).2⟩)
  | keyed =>
    constructor
    · intro hw
      obtain ⟨typeName, entries, ho, hall⟩ := hw.keyed hboth
      obtain ⟨hfields, hothers⟩ := List.forall_mem_append.mp hall
      exact ⟨.of_keyed h hw.one_source ho hfields, .of_keyed hother hw.one_source ho hothers⟩
    · rintro ⟨hw, hw'⟩
      obtain ⟨typeName, entries, ho, hall⟩ := hw.keyed h
      obtain ⟨typeName', entries', ho', hall'⟩ := hw'.keyed hother
      -- both look into the same mapping
      cases ho.symm.trans ho'
      exact .of_keyed hboth hw.one_source ho (List.forall_mem_append.mpr ⟨hall, hall'⟩)

end Addresses

/-- A placeholder with an address takes what it addresses wherever it stands. -/
theorem addresses_index_iff {args : List Value} {index other : Nat} {p : Placeholder} {v : Value}
    (h : p.mode ≠ .anonymous) : Addresses args index p v ↔ Addresses args other p v := by
  have hmove : ∀ {i j}, Addresses args i p v → Addresses args j p v := by
    intro i j ha
    cases ha with
    | anonymous mode => exact absurd mode h
    | positional mode found => exact .positional mode found
    | keyed mode root first found => exact .keyed mode root first found
  exact ⟨hmove, hmove⟩

/-! ## Placeholders without an address -/

section Anonymous

variable {front back : List Value} {index : Nat} {p : Placeholder} {v : Value}

theorem addresses_anonymous_iff {args : List Value} (h : p.mode = .anonymous) :
    Addresses args index p v ↔ args[index]? = some v := by
  constructor
  · intro ha
    cases ha with
    | anonymous mode found => exact found
    | positional mode => simp [h] at mode
    | keyed mode => simp [h] at mode
  · exact .anonymous h

theorem addresses_append_left (h : p.mode = .anonymous) (hindex : index < front.length) :
    Addresses (front ++ back) index p v ↔ Addresses front index p v := by
  rw [addresses_anonymous_iff h, addresses_anonymous_iff h, List.getElem?_append_left hindex]

theorem addresses_append_right (h : p.mode = .anonymous) :
    Addresses (front ++ back) (front.length + index) p v ↔ Addresses back index p v := by
  rw [addresses_anonymous_iff h, addresses_anonymous_iff h,
    List.getElem?_append_right (Nat.le_add_right _ _), Nat.add_sub_cancel_left]

end Anonymous

end BraceTemplate
