import BraceTemplate.CommandLine.Argument
import BraceTemplate.Proofs.Binding.Addresses
import BraceTemplate.Proofs.Entries
import BraceTemplate.Proofs.Sequence

/-!
# Values that words stand for

Of all values, a word of the command line can stand for few. The machine that reads JSON holds no
others in any of its states, and a word that is read by itself is no other either. What placeholders
address in such values is one again.
-/

namespace BraceTemplate

/-- Null, truth values, texts, integers, floating-point numbers, and lists and mappings of such
values. -/
inductive Value.IsData : Value → Prop where
  | null : IsData .null
  | bool {b} : IsData (.bool b)
  | text {t} : IsData (.text t)
  | int {i} : IsData (.int i)
  | float {x} : IsData (.float x)
  | list {items} (all : ∀ v ∈ items, IsData v) : IsData (.list items)
  | mapping {name entries} (all : ∀ entry ∈ entries, IsData entry.2) :
      IsData (.mapping name entries)

theorem mem_of_lookup {α β : Type} [BEq α] [LawfulBEq α] {entries : List (α × β)} {key : α}
    {value : β} (h : entries.lookup key = some value) : (key, value) ∈ entries := by
  obtain ⟨before, after, rfl, -⟩ := List.lookup_eq_some_iff.mp h
  exact List.mem_append_right _ List.mem_cons_self

/-! ## Reading JSON -/

namespace Json

/-- A scalar token is data. -/
def Token.IsData : Token → Prop
  | .scalar v => v.IsData
  | _ => True

theorem isData_of_number? {t : Text} {v : Value} {count : Nat} (h : number? t = some (v, count)) :
    v.IsData := by
  unfold number? at h
  extract_lets sign size whole fraction exponent length at h
  split at h
  · cases h
  · split at h
    · obtain ⟨rfl, -⟩ := Prod.mk.inj (Option.some.inj h)
      exact .int
    · obtain ⟨s, -, hs⟩ := Option.map_eq_some_iff.mp h
      obtain ⟨rfl, -⟩ := Prod.mk.inj hs
      exact .float

theorem isData_of_scalar? {t : Text} {v : Value} {count : Nat} (h : scalar? t = some (v, count)) :
    v.IsData := by
  unfold scalar? at h
  split at h
  · rename_i word w hfind
    cases h
    have hwords : ∀ entry ∈ words, entry.2.IsData := by
      simp [words, Value.IsData.null, Value.IsData.bool, Value.IsData.float]
    exact hwords _ (List.mem_of_find?_eq_some hfind)
  · exact isData_of_number? h

theorem isData_tokenAt (c : CodePoint) (rest : Text) : (tokenAt c rest).1.IsData := by
  unfold tokenAt
  split
  · split <;> trivial
  · split
    · rename_i token hlookup
      have hmarks : ∀ entry ∈ marks, entry.2.IsData := by
        simp [marks, Token.IsData]
      exact hmarks (c, token) (mem_of_lookup hlookup)
    · split
      · rename_i hscalar
        exact isData_of_scalar? hscalar
      · trivial

theorem isData_of_mem_tokens (t : Text) : ∀ token ∈ tokens t, token.IsData := by
  fun_induction tokens t with
  | case1 => simp
  | case2 c rest hblank ih => exact ih
  | case3 c rest hblank ih => exact List.forall_mem_cons.mpr ⟨isData_tokenAt c rest, ih⟩

/-- What the frame holds so far is data. -/
def Frame.IsData : Frame → Prop
  | .array items => ∀ v ∈ items, v.IsData
  | .object entries _ => ∀ entry ∈ entries, entry.2.IsData

/-- All values of the state are data. -/
def State.IsData : State → Prop
  | .value frames | .item frames => ∀ frame ∈ frames, frame.IsData
  | .name _ entries frames | .colon entries _ frames =>
    (∀ entry ∈ entries, entry.2.IsData) ∧ ∀ frame ∈ frames, frame.IsData
  | .complete v frames => v.IsData ∧ ∀ frame ∈ frames, frame.IsData

theorem isData_objectOf {entries : List (Value × Value)} (h : ∀ entry ∈ entries, entry.2.IsData) :
    (objectOf entries).IsData := by
  have hall : ∀ entry ∈ Entries.overlay Value.sameKey [] entries.reverse,
      True ∧ entry.2.IsData := by
    refine Entries.forall_overlay (P := fun _ => True) (by simp) fun entry hmem => ?_
    exact ⟨trivial, h entry (List.mem_reverse.mp hmem)⟩
  exact .mapping fun entry hmem => (hall entry hmem).2

section Machine

variable {frames : List Frame} {token : Token} {s s' : State}

theorem isData_beginValue (hframes : ∀ frame ∈ frames, frame.IsData) (htoken : token.IsData)
    (h : beginValue frames token = .ok s) : s.IsData := by
  cases token with
  | scalar v =>
    cases h
    exact ⟨htoken, hframes⟩
  | string t =>
    cases h
    exact ⟨.text, hframes⟩
  | openArray =>
    cases h
    exact hframes
  | openObject =>
    cases h
    exact ⟨by simp, hframes⟩
  | _ => cases h

theorem isData_afterValue {v : Value} (hv : v.IsData) (hframes : ∀ frame ∈ frames, frame.IsData)
    (h : afterValue v frames token = .ok s) : s.IsData := by
  unfold afterValue at h
  split at h
  · cases h
  · cases h
    obtain ⟨hitems, houter⟩ := List.forall_mem_cons.mp hframes
    exact List.forall_mem_cons.mpr ⟨List.forall_mem_cons.mpr ⟨hv, hitems⟩, houter⟩
  · cases h
    obtain ⟨hitems, houter⟩ := List.forall_mem_cons.mp hframes
    refine ⟨.list fun w hmem => ?_, houter⟩
    exact List.forall_mem_cons.mpr ⟨hv, hitems⟩ w (List.mem_reverse.mp hmem)
  · cases h
    obtain ⟨hentries, houter⟩ := List.forall_mem_cons.mp hframes
    exact ⟨List.forall_mem_cons.mpr ⟨hv, hentries⟩, houter⟩
  · cases h
    obtain ⟨hentries, houter⟩ := List.forall_mem_cons.mp hframes
    exact ⟨isData_objectOf (List.forall_mem_cons.mpr ⟨hv, hentries⟩), houter⟩
  · cases h

/-- A step of the machine makes nothing else of data. -/
theorem isData_step (hs : s.IsData) (htoken : token.IsData) (h : step s token = .ok s') :
    s'.IsData := by
  unfold step at h
  split at h
  · exact isData_beginValue hs htoken h
  · cases h
    exact ⟨.list (by simp), hs⟩
  · refine isData_beginValue (List.forall_mem_cons.mpr ⟨?_, hs⟩) htoken h
    simp [Frame.IsData]
  · cases h
    exact hs
  · cases h
    exact ⟨isData_objectOf (by simp), hs.2⟩
  · cases h
  · cases h
  · cases h
    exact List.forall_mem_cons.mpr hs
  · cases h
  · exact isData_afterValue hs.1 hs.2 h

/-- Nor does a run of it. -/
theorem isData_foldlM {tokens : List Token} (hs : s.IsData)
    (htokens : ∀ token ∈ tokens, token.IsData) (h : tokens.foldlM step s = .ok s') :
    s'.IsData := by
  induction tokens generalizing s with
  | nil =>
    cases h
    exact hs
  | cons token rest ih =>
    obtain ⟨htoken, hrest⟩ := List.forall_mem_cons.mp htokens
    rw [List.foldlM_cons] at h
    obtain ⟨next, hnext, hrun⟩ := bind_eq_ok_iff.mp h
    exact ih (isData_step hs htoken hnext) hrest hrun

end Machine

/-- What a text says as JSON is data. -/
theorem isData_of_read {t : Text} {v : Value} (h : read t = .ok v) : v.IsData := by
  unfold read at h
  split at h
  · cases h
  · obtain ⟨s, hrun, hfinish⟩ := bind_eq_ok_iff.mp h
    have hs : s.IsData := isData_foldlM (by simp [State.IsData]) (isData_of_mem_tokens t) hrun
    unfold finish at hfinish
    split at hfinish
    all_goals cases hfinish
    exact hs.1

end Json

/-! ## Words -/

namespace Argument

/-- A word stands for a value, as JSON or by itself. -/
inductive Says : Bool → Text → Value → Prop where
  | json {word v} (read : Json.read word = .ok v) : Says true word v
  | plain {word} : Says false word (coerce word)

theorem isData_coerce (word : Text) : (coerce word).IsData := by
  unfold coerce
  split
  · rename_i v hlookup
    have hliterals : ∀ entry ∈ literals, entry.2.IsData := by
      simp [literals, Value.IsData.null, Value.IsData.bool]
    exact hliterals (word, v) (mem_of_lookup hlookup)
  · split
    · exact .int
    · split
      · exact .float
      · exact .text

theorem Says.isData {json : Bool} {word : Text} {v : Value} (h : Says json word v) : v.IsData := by
  cases h with
  | json hread => exact Json.isData_of_read hread
  | plain => exact isData_coerce word

theorem read_of_parseJson_eq_ok {word : Text} {v : Value} (h : parseJson word = .ok v) :
    Json.read word = .ok v := by
  unfold parseJson at h
  cases hread : Json.read word <;> simp_all [Except.mapError]

theorem read_of_parseJson_eq_error {word : Text} {bad : BadJson} (h : parseJson word = .error bad) :
    ∃ defect, Json.read word = .error defect := by
  unfold parseJson at h
  cases hread : Json.read word with
  | ok v => simp [hread, Except.mapError] at h
  | error defect => exact ⟨defect, rfl⟩

/-- The values of words are what each of them stands for. -/
theorem says_of_values {json : Bool} {words : List Text} {vs : List Value}
    (h : values json words = .ok vs) : List.Forall₂ (Says json) words vs := by
  cases json with
  | false =>
    obtain rfl : words.map coerce = vs := Except.ok.inj h
    exact List.forall₂_map_right_iff.mpr (List.forall₂_same.mpr fun _ _ => .plain)
  | true =>
    exact (forall₂_of_mapM_eq_ok h).imp fun word v hv => .json (read_of_parseJson_eq_ok hv)

theorem exists_says_of_mem {json : Bool} {words : List Text} {vs : List Value}
    (h : List.Forall₂ (Says json) words vs) {word : Text} (hmem : word ∈ words) :
    ∃ v, Says json word v := by
  induction h with
  | nil => simp at hmem
  | cons hword _ ih =>
    rcases List.mem_cons.mp hmem with rfl | hmem
    · exact ⟨_, hword⟩
    · exact ih hmem

theorem isData_of_forall₂ {json : Bool} {words : List Text} {vs : List Value}
    (h : List.Forall₂ (Says json) words vs) : ∀ v ∈ vs, v.IsData := by
  induction h with
  | nil => simp
  | cons hword _ ih => exact List.forall_mem_cons.mpr ⟨hword.isData, ih⟩

/-- Words have no values just if one of them is to be JSON and is not. -/
theorem exists_values_eq_error_iff {json : Bool} {words : List Text} :
    (∃ bad, values json words = .error bad) ↔
      json = true ∧ ∃ word ∈ words, ∃ defect, Json.read word = .error defect := by
  constructor
  · rintro ⟨bad, h⟩
    cases json with
    | false => cases h
    | true =>
      obtain ⟨word, hmem, hword⟩ := exists_of_mapM_eq_error (show words.mapM parseJson = _ from h)
      exact ⟨rfl, word, hmem, read_of_parseJson_eq_error hword⟩
  · rintro ⟨rfl, word, hmem, defect, hbad⟩
    cases h : values true words with
    | error bad => exact ⟨bad, rfl⟩
    | ok vs =>
      obtain ⟨v, hv⟩ := exists_says_of_mem (says_of_values h) hmem
      cases hv with
      | json hread => cases hbad.symm.trans hread

end Argument

/-! ## Parts -/

namespace Value.IsData

variable {v part : Value}

theorem lookup? {key : Value} {entries : List (Value × Value)}
    (hall : ∀ entry ∈ entries, entry.2.IsData)
    (hpart : Value.lookup? key entries = some part) : part.IsData := by
  obtain ⟨other, hmem, -⟩ := Entries.exists_of_find? hpart
  exact hall (other, part) hmem

theorem step? (h : v.IsData) {key : Text} (hpart : v.step? key = some part) : part.IsData := by
  cases h with
  | list hall =>
    rw [Value.step?] at hpart
    split at hpart
    · exact hall part (List.mem_of_getElem? hpart)
    · cases hpart
  | mapping hall =>
    rw [Value.step?, Option.or_eq_some_iff] at hpart
    rcases hpart with hpart | ⟨-, hpart⟩
    · exact lookup? hall hpart
    · split at hpart
      · exact lookup? hall hpart
      · cases hpart
  | _ => cases hpart

theorem walk? (h : v.IsData) {path : List Text} (hpart : v.walk? path = some part) :
    part.IsData := by
  induction path generalizing v with
  | nil =>
    cases hpart
    exact h
  | cons key rest ih =>
    obtain ⟨next, hnext, hwalk⟩ := Option.bind_eq_some_iff.mp hpart
    exact ih (h.step? hnext) hwalk

end Value.IsData

/-- What a placeholder addresses in data is data. -/
theorem Addresses.isData {args : List Value} {index : Nat} {p : Placeholder} {v : Value}
    (h : Addresses args index p v) (hargs : ∀ arg ∈ args, arg.IsData) : v.IsData := by
  cases h with
  | anonymous mode found => exact hargs v (List.mem_of_getElem? found)
  | positional mode found => exact hargs v (List.mem_of_getElem? found)
  | keyed mode root first found =>
    exact (hargs root (List.mem_of_head? first)).walk? (Value.resolve_eq_ok_iff.mp found)

theorem isData_of_link {segments : List Segment} {args : List Value} {bound : List BoundSegment}
    (hargs : ∀ arg ∈ args, arg.IsData) (h : link segments args [] = .ok bound) {p : Placeholder}
    {v : Value} (hmem : (p, v) ∈ bindings bound) : v.IsData := by
  obtain ⟨i, hi⟩ := List.mem_iff_getElem?.mp hmem
  exact ((link_ok h).2 i p v hi).isData hargs

end BraceTemplate
