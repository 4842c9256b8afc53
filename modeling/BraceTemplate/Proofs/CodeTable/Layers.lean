import BraceTemplate.Proofs.CodeTable.Consistent

/-!
# Layers over a code table

What the names of a table stand for after it was extended. A name that is layered over the table
stands for the renderer it came with; an alias that was not replaced goes on standing for its code,
and so for the renderer that was layered over that one. Two layers, one after the other, make the
same table as both at once.
-/

namespace BraceTemplate.CodeTable

/-! ## Dictionaries of codes -/

section Dictionaries

variable {a b codes : List (Value × Handler)}

theorem dictionary_dictionary (h : Acceptable (dictionary codes)) :
    dictionary (dictionary codes) = dictionary codes :=
  Entries.overlay_ofList (alone_of_mem h) []

/-- The codes of `a`, updated with those of `b`. -/
def updated (a b : List (Value × Handler)) : List (Value × Handler) :=
  Entries.overlay Value.sameKey (dictionary a) (dictionary b)

theorem dictionary_updated (ha : Acceptable (dictionary a)) (hb : Acceptable (dictionary b)) :
    dictionary (updated a b) = updated a b := by
  have hover := Entries.overlay_overlay (Entries.distinct_ofList (alone_of_mem ha)) hb.alone []
  exact hover.trans (congrArg (Entries.overlay Value.sameKey · (dictionary b))
    (dictionary_dictionary ha))

theorem acceptable_updated (ha : Acceptable (dictionary a)) (hb : Acceptable (dictionary b)) :
    Acceptable (dictionary (updated a b)) := by
  rw [dictionary_updated ha hb]
  exact ha.overlay hb

theorem found?_updated (ha : Acceptable (dictionary a)) (hb : Acceptable (dictionary b))
    (name : Value) : found? (updated a b) name = (found? b name).or (found? a name) := by
  have hfind := Entries.find?_overlay hb.alone (dictionary a) name
  rw [found?, dictionary_updated ha hb, updated, hfind]
  exact congrArg (fun entries => (Entries.find? (Value.sameKey · name) entries).or
    (found? a name)) (dictionary_dictionary hb)

end Dictionaries

/-! ## One layer -/

/-- A name that is layered over the table is no alias any more. -/
theorem Consistent.target_withLayer {table : CodeTable} (h : table.Consistent)
    (codes : List (Value × Handler)) (name : Value) :
    (table.withLayer (dictionary codes)).target name =
      if (found? codes name).isSome then name else table.target name := by
  have halone : ∀ entry ∈ table.aliases, Entries.Alone Value.sameKey entry.1 :=
    fun entry hmem => alone_of_isCodeName (h.aliases entry hmem).1
  have hfilter := Entries.find?_filter halone (fun name => (found? codes name).isNone) name
  rw [target]
  change (Entries.find? _ (table.aliases.filter
    fun entry => (found? codes entry.1).isNone)).getD name = _
  rw [hfilter]
  cases found? codes name <;> rfl

/-- What is layered over the table is found under its name. -/
theorem Consistent.renderer_withLayer {table : CodeTable} (h : table.Consistent)
    {codes : List (Value × Handler)} (hcodes : Acceptable (dictionary codes)) {name : Value}
    {handler : Handler} (hfound : found? codes name = some handler) :
    ∃ r, handler = .renderer r ∧
      ∀ spec, (table.withLayer (dictionary codes)).renderer name spec = .ok r := by
  apply renderer_of_handler? (h.withLayer hcodes).handlers
  rw [h.target_withLayer, hfound, Option.isSome_some, if_pos rfl, handler?_withLayer hcodes, hfound,
    Option.some_or]

/-! ## Two layers -/

section TwoLayers

variable {table : CodeTable} {a b : List (Value × Handler)}

/-- A layer over a layer is a layer, with the entries in the same order. -/
theorem withLayer_withLayer (ha : Acceptable (dictionary a)) (hb : Acceptable (dictionary b)) :
    (table.withLayer (dictionary a)).withLayer (dictionary b) =
      table.withLayer (updated a b) := by
  have hhandlers := Entries.overlay_overlay (Entries.distinct_ofList (alone_of_mem ha)) hb.alone
    table.handlers
  -- an alias is left by both if neither has its name
  have haliases : ∀ entry : Value × Value,
      ((found? b entry.1).isNone && (found? a entry.1).isNone) =
        (Entries.find? (Value.sameKey · entry.1) (updated a b)).isNone := by
    intro entry
    have hfound := found?_updated ha hb entry.1
    rw [found?, dictionary_updated ha hb] at hfound
    rw [hfound]
    cases found? b entry.1 <;> cases found? a entry.1 <;> rfl
  simp only [withLayer, mk.injEq, and_true]
  refine ⟨hhandlers.symm, ?_⟩
  rw [List.filter_filter]
  exact List.filter_congr fun entry _ => haliases entry

/-- What names stand for with `b` over `a` over the table. What `b` has counts first, and what `a`
has counts next. An alias of the table that neither has stands for what its code does, found in the
same order. Any other name is as it was. -/
structure StandsOver (table : CodeTable) (a b : List (Value × Handler)) (extended : CodeTable) :
    Prop where
  upper : ∀ name handler, found? b name = some handler →
    ∃ r, handler = .renderer r ∧ ∀ spec, extended.renderer name spec = .ok r
  lower : ∀ name handler, found? b name = none → found? a name = some handler →
    ∃ r, handler = .renderer r ∧ ∀ spec, extended.renderer name spec = .ok r
  aliased : ∀ name target, found? b name = none → found? a name = none →
    Entries.find? (Value.sameKey · name) table.aliases = some target →
    ∃ r, (found? b target).or ((found? a target).or (table.handler? target)) =
        some (.renderer r) ∧ ∀ spec, extended.renderer name spec = .ok r
  other : ∀ name, found? b name = none → found? a name = none →
    Entries.find? (Value.sameKey · name) table.aliases = none →
    ∀ spec, extended.renderer name spec = table.renderer name spec

section Updated

variable (ha : Acceptable (dictionary a)) (hb : Acceptable (dictionary b))
include ha hb

theorem handler?_withLayer_updated (name : Value) :
    (table.withLayer (updated a b)).handler? name =
      (found? b name).or ((found? a name).or (table.handler? name)) := by
  have hcodes := acceptable_updated ha hb
  rw [← dictionary_updated ha hb, handler?_withLayer hcodes, found?_updated ha hb, Option.or_assoc]

theorem Consistent.target_withLayer_updated (h : table.Consistent) {name : Value}
    (hbnone : found? b name = none) (hanone : found? a name = none) :
    (table.withLayer (updated a b)).target name = table.target name := by
  rw [← dictionary_updated ha hb, h.target_withLayer, found?_updated ha hb, hbnone, hanone]
  rfl

theorem Consistent.standsOver (h : table.Consistent) :
    table.StandsOver a b (table.withLayer (updated a b)) := by
  have hcodes := acceptable_updated ha hb
  have hhandlers := (h.withLayer hcodes).handlers
  have hown : ∀ name handler, found? (updated a b) name = some handler → ∃ r,
      handler = .renderer r ∧ ∀ spec,
        (table.withLayer (dictionary (updated a b))).renderer name spec = .ok r :=
    fun _ _ => h.renderer_withLayer hcodes
  have hhandler : ∀ name, (table.withLayer (updated a b)).handler? name =
      (found? b name).or ((found? a name).or (table.handler? name)) :=
    handler?_withLayer_updated ha hb
  simp only [found?_updated ha hb] at hown
  rw [dictionary_updated ha hb] at hhandlers hown
  refine ⟨?_, ?_, ?_, ?_⟩
  · intro name handler hfound
    exact hown name handler (by rw [hfound, Option.some_or])
  · intro name handler hnone hfound
    exact hown name handler (by rw [hnone, hfound, Option.none_or])
  · intro name target hbnone hanone halias
    have htarget : (table.withLayer (updated a b)).target name = target := by
      rw [h.target_withLayer_updated ha hb hbnone hanone, CodeTable.target, halias]
      rfl
    -- the table has the code of each of its aliases, and the layers take nothing away
    obtain ⟨key, hmem, -⟩ := Entries.exists_of_find? halias
    have hsome : ((table.withLayer (updated a b)).handler? target).isSome = true := by
      simp [hhandler, (h.aliases _ hmem).2]
    obtain ⟨handler, hfound⟩ := Option.isSome_iff_exists.mp hsome
    obtain ⟨r, rfl, hr⟩ := renderer_of_handler? hhandlers (htarget ▸ hfound)
    exact ⟨r, hhandler target ▸ hfound, hr⟩
  · intro name hbnone hanone halias spec
    have hname : table.target name = name := by
      rw [CodeTable.target, halias]
      rfl
    have htarget := h.target_withLayer_updated ha hb hbnone hanone
    simp only [renderer, htarget, hname, hhandler, hbnone, hanone, Option.none_or]

end Updated

end TwoLayers

/-- **Two extensions make one.** Over a consistent table, an extension by `a` and then by `b` gives
the very table that the extension by `a` updated with `b` gives, so that the two list, contain and
find the same codes, and have the same default codes. In it, what `b` has counts before what `a`
has, and that before what the table has, also for the codes of those aliases that are left. -/
theorem extend_extend {table : CodeTable} (h : table.ensureConsistent = .ok ())
    {a b : List (Value × Handler)} (ha : Acceptable (dictionary a))
    (hb : Acceptable (dictionary b)) :
    ∃ extended, (table.extend a >>= fun first => first.extend b) = .ok extended ∧
      table.extend (updated a b) = .ok extended ∧ table.StandsOver a b extended := by
  have htable := ensureConsistent_eq_ok_iff.mp h
  refine ⟨table.withLayer (updated a b), ?_, ?_, htable.standsOver ha hb⟩
  · rw [htable.extend_ok ha]
    exact ((htable.withLayer ha).extend_ok hb).trans
      (congrArg Except.ok (withLayer_withLayer ha hb))
  · rw [htable.extend_ok (acceptable_updated ha hb), dictionary_updated ha hb]

/-- The builtin alias `F` of `f` is left by two layers, of which both replace `f` and the second one
adds `q`. -/
theorem extend_extend_of_alias_left :
    builtin.ensureConsistent = .ok () ∧
      Acceptable (dictionary [(.text "f", .renderer fun _ _ => .ok "first")]) ∧
      Acceptable (dictionary [(.text "q", .renderer fun _ _ => .ok "new"),
        (.text "f", .renderer fun _ _ => .ok "second")]) ∧
      ∃ extended,
        (builtin.extend [(.text "f", .renderer fun _ _ => .ok "first")] >>= fun first =>
          first.extend [(.text "q", .renderer fun _ _ => .ok "new"),
            (.text "f", .renderer fun _ _ => .ok "second")]) = .ok extended ∧
        builtin.extend [(.text "f", .renderer fun _ _ => .ok "second"),
          (.text "q", .renderer fun _ _ => .ok "new")] = .ok extended ∧
        extended.renderer (.text "F") none = .ok fun _ _ => .ok "second" := by
  have ha : Acceptable (dictionary [(.text "f", .renderer fun _ _ => .ok "first")]) :=
    find?_not_isAcceptable.mp rfl
  have hb : Acceptable (dictionary [(.text "q", .renderer fun _ _ => .ok "new"),
      (.text "f", .renderer fun _ _ => .ok "second")]) := find?_not_isAcceptable.mp rfl
  obtain ⟨extended, htwice, honce, hstands⟩ := extend_extend ensureConsistent_builtin ha hb
  obtain ⟨r, hfound, hr⟩ := hstands.aliased (.text "F") (.text "f") rfl rfl rfl
  cases hfound
  exact ⟨ensureConsistent_builtin, ha, hb, extended, htwice, honce, hr none⟩

end BraceTemplate.CodeTable
