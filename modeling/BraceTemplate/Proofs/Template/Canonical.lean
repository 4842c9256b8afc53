import BraceTemplate.Template.Scan
import Mathlib.Data.List.TakeWhile

/-!
# Canonical segments

A template determines its segments, and the segments determine the template. Joining segments can
lose them: two neighbouring texts become one, and an opening brace in a text may find a closing one
in what follows. A list of segments in which nothing of the kind happens is canonical. Scanning
gives canonical segments only, and gives every canonical list back from the text that joins it,
with the places at which the placeholders then stand.
-/

namespace BraceTemplate

/-! ## Opening braces -/

/-- An opening brace of the text has a closing one somewhere behind it. -/
def Opens (t : Text) : Prop :=
  ∃ before after, t = before ++ openBrace :: after ∧ closeBrace ∈ after

theorem not_opens_of_not_mem {t : Text} (h : openBrace ∉ t) : ¬ Opens t := by
  intro hopens
  obtain ⟨before, after, rfl, -⟩ := hopens
  exact h (by simp)

/-- Only the first opening brace matters: what closes a later one closes it as well. -/
theorem opens_append_iff {before rest : Text} (h : openBrace ∉ before) :
    Opens (before ++ openBrace :: rest) ↔ closeBrace ∈ rest := by
  constructor
  · intro hopens
    obtain ⟨before', after, heq, hclose⟩ := hopens
    rcases List.append_eq_append_iff.mp heq with ⟨gap, hb, ha⟩ | ⟨gap, hb, ha⟩
    · cases gap with
      | nil =>
        cases ha
        exact hclose
      | cons c gap =>
        cases ha
        simp [hclose]
    · cases gap with
      | nil =>
        cases ha
        exact hclose
      | cons c gap =>
        -- the other brace would stand before the first one
        cases ha
        exact absurd (show openBrace ∈ before by simp [hb]) h
  · intro hclose
    exact ⟨before, rest, rfl, hclose⟩

/-! ## Proper placeholders -/

/-- Written between braces, the address and the specification can be told apart again. -/
structure Placeholder.Proper (p : Placeholder) : Prop where
  colon_not_mem : (':' : CodePoint) ∉ p.address
  close_not_mem : closeBrace ∉ p.address
  spec_closed : ∀ spec, p.spec = some spec → closeBrace ∉ spec

namespace Placeholder

/-- The placeholder, seen at a place. -/
def placedAt (p : Placeholder) (place : Position) : Placeholder :=
  { p with position := place }

@[simp] theorem raw_placedAt (p : Placeholder) (place : Position) :
    (p.placedAt place).raw = p.raw := rfl

theorem Proper.close_not_mem_body {p : Placeholder} (h : p.Proper) : closeBrace ∉ p.body := by
  have hcolon : closeBrace ≠ ':' := by decide
  cases hs : p.spec with
  | none => simpa [body, hs] using h.close_not_mem
  | some spec => simp [body, hs, h.close_not_mem, hcolon, h.spec_closed spec hs]

/-- The body of a proper placeholder is taken apart at its first colon. -/
theorem Proper.ofBody_body {p : Placeholder} (h : p.Proper) (place : Position) :
    ofBody p.body place = p.placedAt place := by
  cases hs : p.spec with
  | none =>
    have hbody : p.body = p.address := by simp [body, hs]
    have htake := List.takeWhile_eq_self_iff.mpr (bne_of_not_mem h.colon_not_mem)
    have hdrop := List.dropWhile_eq_nil_iff.mpr (bne_of_not_mem h.colon_not_mem)
    simp [ofBody, specOf, placedAt, hbody, hs, htake, hdrop]
  | some spec =>
    have hbody : p.body = p.address ++ (':' : CodePoint) :: spec := by simp [body, hs]
    simp [ofBody, specOf, placedAt, hbody, hs, takeWhile_ne_append h.colon_not_mem,
      dropWhile_ne_append h.colon_not_mem]

/-- Whatever stands before the first closing brace is the body of a proper placeholder. -/
theorem proper_ofBody {body : Text} (h : closeBrace ∉ body) (place : Position) :
    (ofBody body place).Proper where
  colon_not_mem := by
    intro hmem
    simpa using List.mem_takeWhile_imp hmem
  close_not_mem := fun hmem => h ((List.takeWhile_prefix _).subset hmem)
  spec_closed := by
    intro spec hspec hmem
    apply h
    apply (List.dropWhile_suffix (· != (':' : CodePoint))).subset
    simp only [ofBody, specOf] at hspec
    split at hspec
    · cases hspec
    · rename_i heq
      cases hspec
      rw [heq]
      exact List.mem_cons_of_mem _ hmem

end Placeholder

/-! ## Places -/

/-- The segment, seen at a place. -/
def Segment.placedAt (place : Position) : Segment → Segment
  | .literal t => .literal t
  | .field p => .field (p.placedAt place)

/-- The segments with the places at which they stand when the first one is at `start`. Texts,
addresses and specifications stay as they are. -/
def locate : Position → List Segment → List Segment
  | _, [] => []
  | start, s :: rest => s.placedAt start :: locate (start.advance s.raw) rest

/-! ## Canonical lists -/

/-- No text is empty or follows another one, placeholders are proper, and if a brace opens in a
text, then that text is the last segment and no closing brace comes behind. -/
structure CanonicalSegments (segments : List Segment) : Prop where
  literal_ne_nil : ∀ t, .literal t ∈ segments → t ≠ []
  literals_apart : ∀ before s t after, segments ≠ before ++ .literal s :: .literal t :: after
  proper : ∀ p, .field p ∈ segments → p.Proper
  open_last : ∀ before t after, segments = before ++ .literal t :: after → openBrace ∈ t →
    after = [] ∧ ¬ Opens t

namespace CanonicalSegments

theorem nil : CanonicalSegments [] where
  literal_ne_nil := by simp
  literals_apart := by simp
  proper := by simp
  open_last := by simp

theorem tail {s : Segment} {rest : List Segment} (h : CanonicalSegments (s :: rest)) :
    CanonicalSegments rest where
  literal_ne_nil := fun t ht => h.literal_ne_nil t (List.mem_cons_of_mem _ ht)
  literals_apart := by
    intro before a b after heq
    subst heq
    exact h.literals_apart (s :: before) a b after rfl
  proper := fun p hp => h.proper p (List.mem_cons_of_mem _ hp)
  open_last := by
    intro before t after heq hopen
    subst heq
    exact h.open_last (s :: before) t after rfl hopen

/-- A text that no other text follows. -/
theorem cons_literal {t : Text} {rest : List Segment} (ht : t ≠ []) (hrest : CanonicalSegments rest)
    (hnext : ∀ u after, rest ≠ .literal u :: after)
    (hopen : openBrace ∈ t → rest = [] ∧ ¬ Opens t) : CanonicalSegments (.literal t :: rest) where
  literal_ne_nil := by
    intro u hu
    rcases List.mem_cons.mp hu with heq | hu
    · cases heq
      exact ht
    · exact hrest.literal_ne_nil u hu
  literals_apart := by
    intro before a b after heq
    cases before with
    | nil =>
      cases heq
      exact hnext b after rfl
    | cons c before =>
      cases heq
      exact hrest.literals_apart before a b after rfl
  proper := fun p hp => hrest.proper p (by simpa using hp)
  open_last := by
    intro before u after heq hmem
    cases before with
    | nil =>
      cases heq
      exact hopen hmem
    | cons c before =>
      cases heq
      exact hrest.open_last before u after rfl hmem

theorem cons_field {p : Placeholder} {rest : List Segment} (hp : p.Proper)
    (hrest : CanonicalSegments rest) : CanonicalSegments (.field p :: rest) where
  literal_ne_nil := fun t ht => hrest.literal_ne_nil t (by simpa using ht)
  literals_apart := by
    intro before a b after heq
    cases before with
    | nil => cases heq
    | cons c before =>
      cases heq
      exact hrest.literals_apart before a b after rfl
  proper := by
    intro q hq
    rcases List.mem_cons.mp hq with heq | hq
    · cases heq
      exact hp
    · exact hrest.proper q hq
  open_last := by
    intro before u after heq hmem
    cases before with
    | nil => cases heq
    | cons c before =>
      cases heq
      exact hrest.open_last before u after rfl hmem

/-- No brace opens in a text that is all there is. -/
theorem not_opens {t : Text} (h : CanonicalSegments [.literal t]) : ¬ Opens t := by
  intro hopens
  obtain ⟨before, after, heq, -⟩ := id hopens
  exact (h.open_last [] t [] rfl (by simp [heq])).2 hopens

theorem literalSegment_append {t : Text} {rest : List Segment} (hrest : CanonicalSegments rest)
    (hopen : openBrace ∉ t) (hnext : ∀ u after, rest ≠ .literal u :: after) :
    CanonicalSegments (literalSegment t ++ rest) := by
  cases t with
  | nil => exact hrest
  | cons c t => exact cons_literal (by simp) hrest hnext (fun h => absurd h hopen)

end CanonicalSegments

theorem canonical_literalSegment {t : Text} (h : ¬ Opens t) :
    CanonicalSegments (literalSegment t) := by
  cases t with
  | nil => exact .nil
  | cons c t => exact .cons_literal (by simp) .nil (by simp) (fun _ => ⟨rfl, h⟩)

/-! ## Scanning at the start of a text -/

/-- A text in which no brace opens is literal. -/
theorem scanFrom_of_not_opens (start : Position) {t : Text} (h : ¬ Opens t) :
    scanFrom start t = literalSegment t := by
  fun_induction scanFrom start t with
  | case1 => rfl
  | case2 start t c rest hd hclose =>
    have hc : c = openBrace := dropWhile_ne_eq_cons hd
    have hsplit := List.takeWhile_append_dropWhile (p := (· != openBrace)) (l := t)
    rw [hd, hc] at hsplit
    -- the brace that was found would open
    exact absurd ⟨_, rest, hsplit.symm, hclose⟩ h
  | case3 => rfl

/-- The first opening brace with a closing one behind it ends a text and begins a placeholder, which
the next closing brace ends. -/
theorem scanFrom_open (start : Position) {before body rest : Text} (hbefore : openBrace ∉ before)
    (hbody : closeBrace ∉ body) :
    scanFrom start (before ++ openBrace :: (body ++ closeBrace :: rest)) =
      let p := Placeholder.ofBody body (start.advance before)
      literalSegment before ++
        .field p :: scanFrom ((start.advance before).advance p.raw) rest := by
  rw [scanFrom]
  split
  · rename_i hd
    rw [dropWhile_ne_append hbefore] at hd
    cases hd
  · rename_i c tail hd
    rw [dropWhile_ne_append hbefore] at hd
    cases hd
    rw [if_pos (by simp)]
    simp only [takeWhile_ne_append hbefore, takeWhile_ne_append hbody, dropWhile_ne_append hbody,
      List.drop_succ_cons, List.drop_zero]

theorem scanFrom_append_raw (start : Position) {before : Text} {p : Placeholder} (rest : Text)
    (hbefore : openBrace ∉ before) (hp : p.Proper) :
    scanFrom start (before ++ (p.raw ++ rest)) =
      literalSegment before ++ .field (p.placedAt (start.advance before)) ::
        scanFrom ((start.advance before).advance p.raw) rest := by
  have htext : p.raw ++ rest = openBrace :: (p.body ++ closeBrace :: rest) := by
    simp [Placeholder.raw]
  rw [htext, scanFrom_open start hbefore hp.close_not_mem_body]
  simp only [hp.ofBody_body, Placeholder.raw_placedAt]

/-! ## Scanning and joining -/

/-- Scanning gives canonical segments. -/
theorem canonical_scanFrom (start : Position) (t : Text) :
    CanonicalSegments (scanFrom start t) := by
  fun_induction scanFrom start t with
  | case1 start t hd =>
    have hmem : openBrace ∉ t := by
      intro h
      rw [dropWhile_ne_of_mem h] at hd
      cases hd
    exact canonical_literalSegment (not_opens_of_not_mem hmem)
  | case2 start t c rest hd hclose before opening p ih =>
    have hp : p.Proper := by
      apply Placeholder.proper_ofBody
      intro h
      simpa using List.mem_takeWhile_imp h
    have hbefore : openBrace ∉ before := by
      intro h
      simpa using List.mem_takeWhile_imp h
    exact (CanonicalSegments.cons_field hp ih).literalSegment_append hbefore (by simp)
  | case3 start t c rest hd hclose =>
    have hc : c = openBrace := dropWhile_ne_eq_cons hd
    have hsplit := List.takeWhile_append_dropWhile (p := (· != openBrace)) (l := t)
    have hbefore : openBrace ∉ t.takeWhile (· != openBrace) := by
      intro h
      simpa using List.mem_takeWhile_imp h
    apply canonical_literalSegment
    -- nothing closes the first opening brace, and then nothing closes a later one
    rw [← hsplit, hd, hc, opens_append_iff hbefore]
    exact hclose

/-- Joined and scanned again, canonical segments are the same, each at its place. -/
theorem CanonicalSegments.scanFrom_unscan (start : Position) :
    ∀ {segments : List Segment}, CanonicalSegments segments →
      scanFrom start (unscan segments) = locate start segments
  | [], _ => by
    rw [scanFrom_of_not_opens start (not_opens_of_not_mem (by simp [unscan]))]
    rfl
  | .field p :: rest, h => by
    have hp : p.Proper := h.proper p (by simp)
    have hscan := scanFrom_append_raw start (unscan rest) List.not_mem_nil hp
    rw [h.tail.scanFrom_unscan] at hscan
    exact hscan
  | [.literal t], h => by
    have ht : t ≠ [] := h.literal_ne_nil t (by simp)
    have hscan := scanFrom_of_not_opens start h.not_opens
    simpa [unscan, Segment.raw, locate, Segment.placedAt, literalSegment, ht] using hscan
  -- a text and the placeholder behind it are found in one step
  | .literal t :: .field p :: rest, h => by
    have ht : t ≠ [] := h.literal_ne_nil t (by simp)
    have hopen : openBrace ∉ t := fun hmem => by
      cases (h.open_last [] t _ rfl hmem).1
    have hp : p.Proper := h.proper p (by simp)
    have hscan := scanFrom_append_raw start (unscan rest) hopen hp
    rw [h.tail.tail.scanFrom_unscan] at hscan
    simpa [unscan, Segment.raw, locate, Segment.placedAt, literalSegment, ht] using hscan
  | .literal s :: .literal t :: rest, h => absurd rfl (h.literals_apart [] s t rest)

/-- **Scanning and joining are inverse to each other.** A template is joined again from its
segments, which are canonical, and canonical segments are scanned again from the text that joins
them, with no change but that each placeholder is at its place. -/
theorem scan_unscan_inverse :
    (∀ template, CanonicalSegments (scan template) ∧ unscan (scan template) = template) ∧
      ∀ segments, CanonicalSegments segments → scan (unscan segments) = locate .start segments :=
  ⟨fun template => ⟨canonical_scanFrom .start template, unscan_scan template⟩,
    fun _ h => h.scanFrom_unscan .start⟩

/-- Stray braces in a text, in an address, in a specification, and an open one at the end. -/
theorem scan_unscan_of_stray_braces :
    CanonicalSegments [.literal "a\x7d", .field ⟨"x\x7b", some ":\x7b", ⟨1, 3⟩⟩,
        .field ⟨"", none, ⟨1, 10⟩⟩, .literal "\x7b\n"] ∧
      scan "a\x7d\x7bx\x7b::\x7b\x7d\x7b\x7d\x7b\n" =
        [.literal "a\x7d", .field ⟨"x\x7b", some ":\x7b", ⟨1, 3⟩⟩,
          .field ⟨"", none, ⟨1, 10⟩⟩, .literal "\x7b\n"] := by
  have hlast : CanonicalSegments [.literal "\x7b\n"] := by
    refine .cons_literal (by decide) .nil (by simp) (fun _ => ⟨rfl, ?_⟩)
    rw [show ("\x7b\n" : Text) = [] ++ openBrace :: ['\n'] from rfl, opens_append_iff (by simp)]
    decide
  have h : CanonicalSegments [.literal "a\x7d", .field ⟨"x\x7b", some ":\x7b", ⟨1, 3⟩⟩,
      .field ⟨"", none, ⟨1, 10⟩⟩, .literal "\x7b\n"] := by
    refine .cons_literal (by decide) (.cons_field ?_ (.cons_field ?_ hlast)) (by simp)
      (fun hopen => absurd hopen (by decide))
    · exact ⟨by decide, by decide, by rintro _ ⟨⟩; decide⟩
    · exact ⟨by decide, by decide, by rintro _ ⟨⟩⟩
  exact ⟨h, scan_unscan_inverse.2 _ h⟩

end BraceTemplate
