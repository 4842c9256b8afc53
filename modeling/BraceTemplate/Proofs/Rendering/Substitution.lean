import BraceTemplate.Proofs.Rendering.Walk
import Mathlib.Data.List.Forall2

/-!
# Addresses and substitution

An address only chooses the argument that a placeholder shows. Once the arguments are chosen, the
addresses can be left out and the chosen arguments be given one by one; that changes neither the
text nor the cause of a failure. What is put in for a placeholder is final: braces in it mean
nothing.
-/

namespace BraceTemplate

/-! ## Leaving addresses out -/

def Placeholder.eraseAddress (p : Placeholder) : Placeholder :=
  { p with address := [] }

def Segment.eraseAddress : Segment → Segment
  | .literal t => .literal t
  | .field p => .field p.eraseAddress

/-- The template with the address of every placeholder left out. -/
def eraseAddresses (template : Text) : Text :=
  unscan ((scan template).map Segment.eraseAddress)

theorem Placeholder.Proper.eraseAddress {p : Placeholder} (h : p.Proper) :
    p.eraseAddress.Proper where
  colon_not_mem := by simp [Placeholder.eraseAddress]
  close_not_mem := by simp [Placeholder.eraseAddress]
  spec_closed := h.spec_closed

theorem Segment.eraseAddress_eq_literal {s : Segment} {t : Text} :
    s.eraseAddress = .literal t ↔ s = .literal t := by
  cases s <;> simp [Segment.eraseAddress]

theorem Segment.eraseAddress_eq_field {s : Segment} {p : Placeholder} :
    s.eraseAddress = .field p ↔ ∃ q, s = .field q ∧ q.eraseAddress = p := by
  cases s <;> simp [Segment.eraseAddress]

/-- Canonical segments stay canonical, since the texts between placeholders stay as they are. -/
theorem CanonicalSegments.eraseAddress {segments : List Segment} (h : CanonicalSegments segments) :
    CanonicalSegments (segments.map Segment.eraseAddress) where
  literal_ne_nil := by
    intro t ht
    obtain ⟨s, hs, heq⟩ := List.mem_map.mp ht
    obtain rfl := Segment.eraseAddress_eq_literal.mp heq
    exact h.literal_ne_nil t hs
  literals_apart := by
    intro before s t after heq
    obtain ⟨before', rest, rfl, -, hrest⟩ := List.map_eq_append_iff.mp heq
    obtain ⟨a, rest', rfl, ha, hrest'⟩ := List.map_eq_cons_iff.mp hrest
    obtain ⟨b, after', rfl, hb, -⟩ := List.map_eq_cons_iff.mp hrest'
    obtain rfl := Segment.eraseAddress_eq_literal.mp ha
    obtain rfl := Segment.eraseAddress_eq_literal.mp hb
    exact h.literals_apart before' s t after' rfl
  proper := by
    intro p hp
    obtain ⟨s, hs, heq⟩ := List.mem_map.mp hp
    obtain ⟨q, rfl, rfl⟩ := Segment.eraseAddress_eq_field.mp heq
    exact (h.proper q hs).eraseAddress
  open_last := by
    intro before t after heq hopen
    obtain ⟨before', rest, rfl, -, hrest⟩ := List.map_eq_append_iff.mp heq
    obtain ⟨a, after', rfl, ha, hafter⟩ := List.map_eq_cons_iff.mp hrest
    obtain rfl := Segment.eraseAddress_eq_literal.mp ha
    obtain ⟨rfl, hopens⟩ := h.open_last before' t after' rfl hopen
    exact ⟨hafter.symm, hopens⟩

/-- Scanned again, the template has its texts and its specifications where they were. -/
theorem scan_eraseAddresses (template : Text) :
    scan (eraseAddresses template) =
      locate .start ((scan template).map Segment.eraseAddress) :=
  (canonical_scanFrom .start template).eraseAddress.scanFrom_unscan .start

/-! ## Segments that show the same -/

/-- Both show the same text, or the same value under the same specification. -/
inductive Alike : BoundSegment → BoundSegment → Prop where
  | literal (t : Text) : Alike (.literal t) (.literal t)
  | bound {p q : Placeholder} (v : Value) (spec : p.spec = q.spec) :
      Alike (.bound p v) (.bound q v)

theorem Rendered.alike {table : CodeTable} {bound other : List BoundSegment} {texts : List Text}
    (h : List.Forall₂ Alike bound other) (htexts : Rendered table bound texts) :
    Rendered table other texts := by
  induction h generalizing texts with
  | nil => exact htexts
  | cons ha _ ih =>
    cases ha with
    | literal t =>
      cases htexts with
      | literal others => exact .literal (ih others)
    | bound v spec =>
      cases htexts with
      | bound own others => exact .bound (spec ▸ own) (ih others)

theorem alike_append {before after other : List BoundSegment} {b : BoundSegment}
    (h : List.Forall₂ Alike (before ++ b :: after) other) :
    ∃ before' b' after', other = before' ++ b' :: after' ∧
      List.Forall₂ Alike before before' ∧ Alike b b' := by
  induction before generalizing other with
  | nil =>
    cases h with
    | @cons _ b' _ after' hb _ => exact ⟨[], b', after', rfl, .nil, hb⟩
  | cons c before ih =>
    cases h with
    | @cons _ c' _ rest hc hrest =>
      obtain ⟨before', b', after', rfl, hbefore, hb⟩ := ih hrest
      exact ⟨c' :: before', b', after', rfl, .cons hc hbefore, hb⟩

/-- Segments without their addresses are alike if they have the same values. -/
theorem alike_of_segments (start : Position) {bound other : List BoundSegment}
    (hsegments : other.map BoundSegment.segment =
      locate start ((bound.map BoundSegment.segment).map Segment.eraseAddress))
    (hvalues : (bindings other).map Prod.snd = (bindings bound).map Prod.snd) :
    List.Forall₂ Alike bound other := by
  induction bound generalizing start other with
  | nil =>
    obtain rfl : other = [] := by simpa [locate] using hsegments
    exact .nil
  | cons b bound ih =>
    cases other with
    | nil => simp [locate] at hsegments
    | cons c other =>
      obtain ⟨hhead, htail⟩ := List.cons.inj hsegments
      -- a text stands where a text stood, and a placeholder where one stood
      cases b with
      | literal t =>
        cases c with
        | bound q w => cases hhead
        | literal u =>
          cases hhead
          exact .cons (.literal t) (ih _ htail hvalues)
      | bound p v =>
        cases c with
        | literal u => cases hhead
        | bound q w =>
          cases hhead
          obtain ⟨hvalue, hrest⟩ := List.cons.inj hvalues
          obtain rfl : w = v := hvalue
          exact .cons (.bound w rfl) (ih _ htail hrest)

/-! ## Giving the chosen arguments one by one -/

/-- As many placeholders as before are left, and none of them has an address. -/
theorem addresses_erased (start : Position) (segments : List Segment) :
    (placeholders (locate start (segments.map Segment.eraseAddress))).map Placeholder.address =
      List.replicate (placeholders segments).length [] := by
  induction segments generalizing start with
  | nil => rfl
  | cons s rest ih =>
    cases s with
    | literal t => exact ih _
    | field p => exact congrArg ([] :: ·) (ih _)

theorem Placeholder.mode_of_address_nil {p : Placeholder} (h : p.address = []) :
    p.mode = .anonymous := by
  simp [Placeholder.mode, AddressMode.ofAddress, h]

/-- As many arguments as there are placeholders without an address are bound one by one. -/
theorem link_of_anonymous {segments : List Segment} {values : List Value}
    (hmode : ∀ p ∈ placeholders segments, p.mode = .anonymous)
    (hlength : (placeholders segments).length = values.length) :
    ∃ bound, link segments values [] = .ok bound ∧
      (bindings bound).map Prod.snd = values := by
  have hw : WellAddressed (placeholders segments) values [] := .of_paired hmode hlength
  rcases linkOutcome segments values [] with ⟨bound, hlink, -, -⟩ | ⟨f, -, hrejects⟩
  · refine ⟨bound, hlink, ?_⟩
    obtain ⟨hsegments, hvalues⟩ := link_ok hlink
    have hfields := map_fst_bindings bound
    rw [hsegments] at hfields
    -- the value at an index is the argument at that index
    apply List.ext_getElem?
    intro i
    cases hi : (bindings bound)[i]? with
    | none =>
      have hlt := List.getElem?_eq_none_iff.mp hi
      rw [← List.length_map Prod.fst, hfields, hlength] at hlt
      simp [hi, List.getElem?_eq_none hlt]
    | some b =>
      obtain ⟨p, v⟩ := b
      have hp : p ∈ placeholders segments := by
        rw [← hfields]
        exact List.mem_map_of_mem (List.mem_of_getElem? hi)
      simp only [List.getElem?_map, hi, Option.map_some]
      cases hvalues i p v hi with
      | anonymous mode found => simpa [offered] using found.symm
      | positional mode => simp [hmode p hp] at mode
      | keyed mode => simp [hmode p hp] at mode
  · exact absurd hw hrejects.not_wellAddressed

/-- The template without addresses takes the values that were bound, and shows the same. -/
theorem link_eraseAddresses {template : Text} {args : List Value} {named : List (Text × Value)}
    {bound : List BoundSegment} (h : link (scan template) args named = .ok bound) :
    ∃ other, link (scan (eraseAddresses template)) ((bindings bound).map Prod.snd) [] = .ok other ∧
      List.Forall₂ Alike bound other := by
  obtain ⟨hsegments, -⟩ := link_ok h
  have herased := addresses_erased .start (scan template)
  rw [← scan_eraseAddresses] at herased
  have hmode : ∀ p ∈ placeholders (scan (eraseAddresses template)), p.mode = .anonymous := by
    intro p hp
    apply Placeholder.mode_of_address_nil
    have haddress := List.mem_map_of_mem (f := Placeholder.address) hp
    rw [herased] at haddress
    exact List.eq_of_mem_replicate haddress
  have hlength : (placeholders (scan (eraseAddresses template))).length =
      ((bindings bound).map Prod.snd).length := by
    calc (placeholders (scan (eraseAddresses template))).length
        = (placeholders (scan template)).length := by
          simpa using congrArg List.length herased
      _ = ((bindings bound).map Prod.fst).length := by rw [map_fst_bindings, hsegments]
      _ = ((bindings bound).map Prod.snd).length := by simp
  obtain ⟨other, hother, hvalues⟩ := link_of_anonymous hmode hlength
  refine ⟨other, hother, alike_of_segments .start ?_ hvalues⟩
  rw [(link_ok hother).1, scan_eraseAddresses, hsegments]

/-! ## Formatting -/

/-- Every placeholder of the segments can be rendered. -/
def Renderable (table : CodeTable) (bound : List BoundSegment) : Prop :=
  ∀ p v, (p, v) ∈ bindings bound → ∃ t, renderValue table v p.spec = .ok t

theorem Renderable.exists_rendered {table : CodeTable} {bound : List BoundSegment}
    (h : Renderable table bound) : ∃ texts, Rendered table bound texts := by
  rcases rendered_or_first_error table bound with
    htexts | ⟨before, p, v, after, -, e, rfl, -, he⟩
  · exact htexts
  · obtain ⟨t, ht⟩ := h p v (by simp [bindings, BoundSegment.binding?])
    cases ht.symm.trans he

/-- **Addresses only choose, and what is chosen is final.** When the arguments suit the template and
every placeholder can be rendered, the result is made of the literal texts and of those of the
placeholders, in order, with no look at what is in them. The template without its addresses, given
the chosen values one by one, has the same result. When the first placeholder that fails does so by
a fault, both fail by faults of the same cause: of one kind, with one message, code and
specification. -/
theorem format_eraseAddresses {table : CodeTable} {template : Text} {args : List Value}
    {named : List (Text × Value)} {bound : List BoundSegment}
    (h : link (scan template) args named = .ok bound) :
    bound.map BoundSegment.segment = scan template ∧
      (Renderable table bound → ∃ texts, Rendered table bound texts ∧
        format table (.text template) args named = .ok texts.flatten ∧
        format table (.text (eraseAddresses template)) ((bindings bound).map Prod.snd) [] =
          .ok texts.flatten) ∧
      ∀ before p v after f, bound = before ++ .bound p v :: after → Renderable table before →
        renderValue table v p.spec = .error (.fault f) →
        ∃ f₁ f₂, format table (.text template) args named = .error (.fault f₁) ∧
          format table (.text (eraseAddresses template)) ((bindings bound).map Prod.snd) [] =
            .error (.fault f₂) ∧
          f₁.cause = f.cause ∧ f₂.cause = f.cause := by
  obtain ⟨other, hother, halike⟩ := link_eraseAddresses h
  rw [format_of_link h, format_of_link hother]
  refine ⟨(link_ok h).1, ?_, ?_⟩
  · intro hrender
    obtain ⟨texts, htexts⟩ := hrender.exists_rendered
    exact ⟨texts, htexts, renderFrom_result_of_rendered htexts 0 0,
      renderFrom_result_of_rendered (htexts.alike halike) 0 0⟩
  · intro before p v after f hsplit hrender hf
    subst hsplit
    obtain ⟨texts, htexts⟩ := hrender.exists_rendered
    obtain ⟨before', b, after', rfl, hbefore, hb⟩ := alike_append halike
    cases hb with
    | @bound _ q _ spec =>
      have hf' : renderValue table v q.spec = .error (.fault f) := spec ▸ hf
      exact ⟨f.locate p.site, f.locate q.site, renderFrom_result_of_error htexts hf 0 0 after,
        renderFrom_result_of_error (htexts.alike hbefore) hf' 0 0 after', rfl, rfl⟩

/-- One value twice, under a key and then one by one; its own braces stay as they are. -/
theorem format_eraseAddresses_of_braces :
    ∃ bound, link (scan "\x7bx\x7d-\x7bx:4s\x7d") [] [("x", .text "\x7b\x7d")] = .ok bound ∧
      (bindings bound).map Prod.snd = [.text "\x7b\x7d", .text "\x7b\x7d"] ∧
      format .builtin (.text "\x7bx\x7d-\x7bx:4s\x7d") [] [("x", .text "\x7b\x7d")] =
        .ok "\x7b\x7d-\x7b\x7d  " ∧
      format .builtin (.text (eraseAddresses "\x7bx\x7d-\x7bx:4s\x7d"))
        ((bindings bound).map Prod.snd) [] = .ok "\x7b\x7d-\x7b\x7d  " := by
  have hscan : scan "\x7bx\x7d-\x7bx:4s\x7d" = [.field ⟨"x", none, ⟨1, 1⟩⟩, .literal "-",
      .field ⟨"x", some "4s", ⟨1, 5⟩⟩] := by cbv
  have hlink : link (scan "\x7bx\x7d-\x7bx:4s\x7d") [] [("x", .text "\x7b\x7d")] =
      .ok [.bound ⟨"x", none, ⟨1, 1⟩⟩ (.text "\x7b\x7d"), .literal "-",
        .bound ⟨"x", some "4s", ⟨1, 5⟩⟩ (.text "\x7b\x7d")] := by
    rw [hscan]
    rfl
  have hspec : renderValue .builtin (.text "\x7b\x7d") (some "4s") = .ok "\x7b\x7d  " := by
    simp only [renderValue]
    rfl
  have htexts : Rendered .builtin [.bound ⟨"x", none, ⟨1, 1⟩⟩ (.text "\x7b\x7d"), .literal "-",
      .bound ⟨"x", some "4s", ⟨1, 5⟩⟩ (.text "\x7b\x7d")] ["\x7b\x7d", "-", "\x7b\x7d  "] :=
    .bound rfl (.literal (.bound hspec .nil))
  refine ⟨_, hlink, rfl, ?_⟩
  obtain ⟨texts, hrendered, hformat⟩ :=
    (format_eraseAddresses hlink).2.1 (fun _ _ hmem => htexts.of_mem hmem)
  obtain rfl := hrendered.unique htexts
  exact hformat

end BraceTemplate
