import BraceTemplate.Proofs.Address.Spelling
import BraceTemplate.Proofs.Binding.Addresses
import BraceTemplate.Proofs.Value.Key

/-!
# Own parts

The parts of a value are the entries of a mapping, the items of a sequence, and the attributes that
belong to the value itself. This module says what it is to reach a part by such steps, without
saying how it is looked up. A path with dots leads to the parts that are reached in this way and to
no others. So everything that is nested in a value under names and numbers has a path, and what is
inherited has none and makes no difference to any path.
-/

namespace BraceTemplate

/-! ## First entries -/

namespace Entries

variable {κ ν : Type} {test : κ → Bool} {entries : List (κ × ν)} {value : ν}

/-- Of the entries whose keys are such, the first one has this value. -/
def IsFirst (such : κ → Prop) (entries : List (κ × ν)) (value : ν) : Prop :=
  ∃ before key after, entries = before ++ (key, value) :: after ∧ such key ∧
    ∀ entry ∈ before, ¬ such entry.1

variable {such : κ → Prop}

theorem find?_eq_some_iff (h : ∀ key, test key = true ↔ such key) :
    find? test entries = some value ↔ IsFirst such entries value := by
  simp only [find?, Option.map_eq_some_iff, List.find?_eq_some_iff_append]
  constructor
  · rintro ⟨⟨key, value⟩, ⟨hkey, before, after, heq, hbefore⟩, rfl⟩
    refine ⟨before, key, after, heq, (h key).mp hkey, ?_⟩
    intro entry hentry hsuch
    have hnot := hbefore entry hentry
    rw [(h entry.1).mpr hsuch] at hnot
    cases hnot
  · rintro ⟨before, key, after, heq, hkey, hbefore⟩
    refine ⟨(key, value), ⟨(h key).mpr hkey, before, after, heq, ?_⟩, rfl⟩
    intro entry hentry
    rw [Bool.not_eq_true', ← Bool.not_eq_true, h]
    exact hbefore entry hentry

theorem find?_eq_none_iff (h : ∀ key, test key = true ↔ such key) :
    find? test entries = none ↔ ∀ entry ∈ entries, ¬ such entry.1 := by
  simp [find?, ← h]

/-- Entries can be changed before or after one is looked up, if their keys pass the same tests. -/
theorem find?_map {κ' ν' : Type} {test' : κ' → Bool} (f : κ → κ') (g : ν → ν')
    (hf : ∀ key, test' (f key) = test key) (entries : List (κ × ν)) :
    find? test' (entries.map fun entry => (f entry.1, g entry.2)) = (find? test entries).map g := by
  induction entries with
  | nil => rfl
  | cons entry rest ih =>
    rw [List.map_cons, find?_cons, find?_cons, ih, hf]
    split <;> rfl

end Entries

open Entries (IsFirst)

namespace Value

/-! ## Steps to own parts -/

/-- A step leads from a value to one of its own parts: to the entry of a mapping under the text, or
else under the number that it writes, to the item of a sequence at that number, or to an attribute
of the value itself. -/
inductive OwnStep : Value → Text → Value → Prop where
  | entry {typeName entries key part} (first : IsFirst (· = .text key) entries part) :
    OwnStep (.mapping typeName entries) key part
  | numbered {typeName entries key part} (absent : ∀ entry ∈ entries, entry.1 ≠ .text key)
    (digits : Text.isNumeral key = true)
    (first : IsFirst (sameKey · (.int (Text.toNat key))) entries part) :
    OwnStep (.mapping typeName entries) key part
  | item {v items key} (sequence : v.items? = some items) (digits : Text.isNumeral key = true)
    (within : Text.toNat key < items.length) : OwnStep v key items[Text.toNat key]
  | own {v key part} (first : IsFirst (· = key) v.ownAttributes part) : OwnStep v key part

/-- Steps of some kind, one after the other. -/
inductive Along {α : Type} (step : Value → α → Value → Prop) : Value → List α → Value → Prop where
  | nil {v} : Along step v [] v
  | cons {v next part key keys} (head : step v key next) (tail : Along step next keys part) :
    Along step v (key :: keys) part

/-- Some step has no target. -/
def Stuck (v : Value) (keys : List Text) : Prop :=
  ∃ before key after part, keys = before ++ key :: after ∧ Along OwnStep v before part ∧
    ∀ next, ¬ OwnStep part key next

variable {v part : Value} {key : Text} {keys : List Text}

theorem lookup?_or_eq_some_iff {entries : List (Value × Value)} :
    ((lookup? (.text key) entries).or
        (if Text.isNumeral key then lookup? (.int (Text.toNat key)) entries else none)) = some part ↔
      IsFirst (· = .text key) entries part ∨
        (∀ entry ∈ entries, entry.1 ≠ .text key) ∧ Text.isNumeral key = true ∧
          IsFirst (sameKey · (.int (Text.toNat key))) entries part := by
  have htext := (alone_text key).same_right
  simp only [lookup?]
  rw [Option.or_eq_some_iff, Entries.find?_eq_some_iff htext, Entries.find?_eq_none_iff htext]
  by_cases hdigits : Text.isNumeral key = true
  · rw [if_pos hdigits, Entries.find?_eq_some_iff fun _ => Iff.rfl]
    simp [hdigits]
  · simp [hdigits]

theorem getElem?_ite_eq_some_iff {items : List Value} :
    (if Text.isNumeral key then items[Text.toNat key]? else none) = some part ↔
      Text.isNumeral key = true ∧ ∃ h : Text.toNat key < items.length,
        items[Text.toNat key] = part := by
  by_cases hdigits : Text.isNumeral key = true
  · simp [hdigits, List.getElem?_eq_some_iff]
  · simp [hdigits]

/-- A step is looked up where it leads. -/
theorem step?_eq_some_iff : v.step? key = some part ↔ OwnStep v key part := by
  constructor
  · intro h
    have hattribute : ∀ w : Value, Entries.find? (· == key) w.ownAttributes = some part →
        OwnStep w key part := fun w hw => .own ((Entries.find?_eq_some_iff fun _ => beq_iff_eq).mp hw)
    cases v with
    | mapping typeName entries =>
      rcases lookup?_or_eq_some_iff.mp h with hfirst | ⟨habsent, hdigits, hfirst⟩
      · exact .entry hfirst
      · exact .numbered habsent hdigits hfirst
    | list items =>
      obtain ⟨hdigits, hwithin, rfl⟩ := getElem?_ite_eq_some_iff.mp h
      exact .item rfl hdigits hwithin
    | tuple items =>
      obtain ⟨hdigits, hwithin, rfl⟩ := getElem?_ite_eq_some_iff.mp h
      exact .item rfl hdigits hwithin
    | _ => exact hattribute _ h
  · intro h
    cases h with
    | entry hfirst => exact lookup?_or_eq_some_iff.mpr (.inl hfirst)
    | numbered habsent hdigits hfirst =>
      exact lookup?_or_eq_some_iff.mpr (.inr ⟨habsent, hdigits, hfirst⟩)
    | @item _ items _ hsequence hdigits hwithin =>
      have hitem := getElem?_ite_eq_some_iff.mpr ⟨hdigits, hwithin, rfl⟩
      cases v <;> cases hsequence <;> exact hitem
    | own hfirst =>
      have hfind := (Entries.find?_eq_some_iff fun _ => beq_iff_eq).mpr hfirst
      -- mappings and sequences have no attributes
      cases v <;> first | exact hfind | cases hfind

theorem walk?_eq_some_iff : v.walk? keys = some part ↔ Along OwnStep v keys part := by
  induction keys generalizing v with
  | nil =>
    constructor
    · intro h
      cases h
      exact .nil
    · intro h
      cases h
      rfl
  | cons key keys ih =>
    rw [walk?, Option.bind_eq_some_iff]
    constructor
    · rintro ⟨next, hstep, hwalk⟩
      exact .cons (step?_eq_some_iff.mp hstep) (ih.mp hwalk)
    · intro h
      cases h with
      | cons head tail => exact ⟨_, step?_eq_some_iff.mpr head, ih.mpr tail⟩

theorem walk?_eq_none_iff : v.walk? keys = none ↔ Stuck v keys := by
  have hnone : ∀ (w : Value) (k : Text), w.step? k = none ↔ ∀ next, ¬ OwnStep w k next := by
    intro w k
    rw [Option.eq_none_iff_forall_ne_some]
    exact forall_congr' fun next => not_congr step?_eq_some_iff
  constructor
  · intro h
    induction keys generalizing v with
    | nil => cases h
    | cons key keys ih =>
      cases hstep : v.step? key with
      | none => exact ⟨[], key, keys, v, rfl, .nil, (hnone v key).mp hstep⟩
      | some next =>
        rw [walk?, hstep, Option.bind_some] at h
        obtain ⟨before, last, after, part, rfl, hreach, hstuck⟩ := ih h
        exact ⟨key :: before, last, after, part, rfl, .cons (step?_eq_some_iff.mp hstep) hreach,
          hstuck⟩
  · rintro ⟨before, key, after, part, rfl, hreach, hstuck⟩
    induction hreach with
    | nil => rw [List.nil_append, walk?, (hnone _ key).mpr hstuck, Option.bind_none]
    | cons head tail ih =>
      rw [List.cons_append, walk?, step?_eq_some_iff.mpr head, Option.bind_some, ih hstuck]

end Value

/-! ## Paths with dots -/

namespace Path

/-- A step that can stand in a path as it is. -/
structure Plain (key : Text) : Prop where
  dot : ('.' : CodePoint) ∉ key
  openBracket : ('[' : CodePoint) ∉ key
  closeBracket : (']' : CodePoint) ∉ key

/-- The path that writes steps with dots in between. -/
def ofSteps (keys : List Text) : Text :=
  (['.'] : Text).intercalate keys

variable {keys : List Text}

theorem isBracket_of_mem_ofSteps (h : ∀ key ∈ keys, Plain key) :
    ∀ c ∈ ofSteps keys, isBracket c = false := by
  have hkey : ∀ key, Plain key → ∀ c ∈ key, isBracket c = false := by
    intro key hplain c hc
    have hopen : c ≠ '[' := ne_of_mem_of_not_mem hc hplain.openBracket
    have hclose : c ≠ ']' := ne_of_mem_of_not_mem hc hplain.closeBracket
    simp [isBracket, hopen, hclose]
  intro c hc
  cases keys with
  | nil => cases hc
  | cons first others =>
    obtain ⟨hfirst, hothers⟩ := List.forall_mem_cons.mp h
    rw [ofSteps, intercalate_dot, List.mem_append, List.mem_flatMap] at hc
    rcases hc with hc | ⟨key, hmem, hc⟩
    · exact hkey first hfirst c hc
    · rcases List.mem_cons.mp hc with rfl | hc
      · rfl
      · exact hkey key (hothers key hmem) c hc

theorem dropLastBracket_of_no_bracket {path : Text} (h : ∀ c ∈ path, isBracket c = false) :
    dropLastBracket path = path := by
  have hclose : (']' : CodePoint) ∉ path := by
    intro hmem
    cases h _ hmem
  unfold dropLastBracket
  split
  · rename_i hreverse
    exact absurd (List.mem_reverse.mp (hreverse ▸ List.mem_cons_self)) hclose
  · rename_i hreverse
    exact absurd (List.mem_reverse.mp (hreverse ▸ List.mem_cons_of_mem _ List.mem_cons_self)) hclose
  · rfl

/-- The steps are read back, empty ones included. -/
theorem steps_ofSteps (hne : keys ≠ []) (h : ∀ key ∈ keys, Plain key) :
    steps (ofSteps keys) = keys := by
  have hbrackets := isBracket_of_mem_ofSteps h
  have hdotted : dotted (ofSteps keys) = ofSteps keys := by
    have happend := dotted_append hbrackets []
    simpa [dotted] using happend
  rw [steps, dropLastBracket_of_no_bracket hbrackets, hdotted]
  exact List.splitOn_intercalate _ (fun key hkey => (h key hkey).dot) hne

theorem plain_ofNat (n : Nat) : Plain (Text.ofNat n) := by
  have hdigit := List.all_eq_true.mp (Text.all_isDigit_ofNat n)
  refine ⟨?_, ?_, ?_⟩
  all_goals
    intro hmem
    cases hdigit _ hmem

end Path

namespace Value

open BraceTemplate.Path (Plain ofSteps)

/-! ## Nested parts -/

/-- Where a part is kept: under a name, or under a number. -/
inductive Coordinate where
  | name (t : Text)
  | number (n : Nat)

def Coordinate.text : Coordinate → Text
  | .name t => t
  | .number n => Text.ofNat n

/-- The value keeps this part there. A number that is a key counts only if its text is no key of the
same mapping. -/
inductive Keeps : Value → Coordinate → Value → Prop where
  | key {typeName entries t part} (plain : Plain t) (first : IsFirst (· = .text t) entries part) :
    Keeps (.mapping typeName entries) (.name t) part
  | number {typeName entries part} {n : Nat}
    (unshadowed : ∀ entry ∈ entries, entry.1 ≠ .text (Text.ofNat n))
    (first : IsFirst (sameKey · (.int n)) entries part) :
    Keeps (.mapping typeName entries) (.number n) part
  | item {v items n} (sequence : v.items? = some items) (within : n < items.length) :
    Keeps v (.number n) items[n]
  | own {v t part} (plain : Plain t) (first : IsFirst (· = t) v.ownAttributes part) :
    Keeps v (.name t) part

theorem Keeps.ownStep {v part : Value} {c : Coordinate} (h : Keeps v c part) :
    Plain c.text ∧ OwnStep v c.text part := by
  cases h with
  | key hplain hfirst => exact ⟨hplain, .entry hfirst⟩
  | @number _ _ _ n hunshadowed hfirst =>
    refine ⟨Path.plain_ofNat n, .numbered hunshadowed (Text.isNumeral_ofNat n) ?_⟩
    simpa only [Coordinate.text, Text.toNat_ofNat] using hfirst
  | @item _ items n hsequence hwithin =>
    refine ⟨Path.plain_ofNat n, ?_⟩
    have hnumber : Text.toNat (Text.ofNat n) = n := Text.toNat_ofNat n
    have hstep := OwnStep.item hsequence (Text.isNumeral_ofNat n) (by rwa [hnumber])
    simpa only [Coordinate.text, hnumber] using hstep
  | own hplain hfirst => exact ⟨hplain, .own hfirst⟩

theorem along_of_keeps {v part : Value} {place : List Coordinate} (h : Along Keeps v place part) :
    (∀ key ∈ place.map Coordinate.text, Plain key) ∧
      Along OwnStep v (place.map Coordinate.text) part := by
  induction h with
  | nil => exact ⟨by simp, .nil⟩
  | cons head tail ih =>
    obtain ⟨hplain, hstep⟩ := head.ownStep
    exact ⟨List.forall_mem_cons.mpr ⟨hplain, ih.1⟩, .cons hstep ih.2⟩

/-! ## What is inherited -/

mutual

/-- The value without anything inherited, at any depth. -/
def ownOnly : Value → Value
  | .list items => .list (ownOnlyItems items)
  | .tuple items => .tuple (ownOnlyItems items)
  | .mapping typeName entries => .mapping typeName (ownOnlyEntries entries)
  | .function name attributes => .function name (ownOnlyAttributes attributes)
  | .type name attributes => .type name (ownOnlyAttributes attributes)
  | .object typeName shown own _ => .object typeName shown (ownOnlyAttributes own) []
  | v => v

def ownOnlyItems : List Value → List Value
  | [] => []
  | item :: rest => ownOnly item :: ownOnlyItems rest

def ownOnlyEntries : List (Value × Value) → List (Value × Value)
  | [] => []
  | (key, value) :: rest => (ownOnly key, ownOnly value) :: ownOnlyEntries rest

def ownOnlyAttributes : List (Text × Value) → List (Text × Value)
  | [] => []
  | (name, value) :: rest => (name, ownOnly value) :: ownOnlyAttributes rest

end

theorem ownOnlyItems_eq (items : List Value) : ownOnlyItems items = items.map ownOnly := by
  induction items with
  | nil => rfl
  | cons item rest ih => rw [ownOnlyItems, ih, List.map_cons]

theorem ownOnlyEntries_eq (entries : List (Value × Value)) :
    ownOnlyEntries entries = entries.map fun entry => (ownOnly entry.1, ownOnly entry.2) := by
  induction entries with
  | nil => rfl
  | cons entry rest ih => rw [ownOnlyEntries, ih, List.map_cons]

theorem ownOnlyAttributes_eq (attributes : List (Text × Value)) :
    ownOnlyAttributes attributes =
      attributes.map fun entry => (id entry.1, ownOnly entry.2) := by
  induction attributes with
  | nil => rfl
  | cons entry rest ih =>
    rw [ownOnlyAttributes, ih, List.map_cons]
    rfl

/-- Texts and numbers are told apart from a key by what is its own. -/
theorem sameKey_ownOnly (key : Value) :
    (∀ t, sameKey key.ownOnly (.text t) = sameKey key (.text t)) ∧
      ∀ i, sameKey key.ownOnly (.int i) = sameKey key (.int i) := by
  cases key <;> simp [ownOnly, sameKey, numericKey?]

/-- A step leads to the same part, whatever is inherited. -/
theorem step?_ownOnly (v : Value) (key : Text) :
    v.ownOnly.step? key = (v.step? key).map ownOnly := by
  have hitems : ∀ items : List Value,
      (if Text.isNumeral key then (items.map ownOnly)[Text.toNat key]? else none) =
        (if Text.isNumeral key then items[Text.toNat key]? else none).map ownOnly := by
    intro items
    split
    · exact List.getElem?_map ..
    · rfl
  have hattributes : ∀ attributes : List (Text × Value),
      Entries.find? (· == key) (ownOnlyAttributes attributes) =
        (Entries.find? (· == key) attributes).map ownOnly := by
    intro attributes
    rw [ownOnlyAttributes_eq]
    exact Entries.find?_map id ownOnly (fun _ => rfl) attributes
  cases v with
  | list items => simpa only [ownOnly, ownOnlyItems_eq, step?] using hitems items
  | tuple items => simpa only [ownOnly, ownOnlyItems_eq, step?] using hitems items
  | mapping typeName entries =>
    have htext : lookup? (.text key) (ownOnlyEntries entries) =
        (lookup? (.text key) entries).map ownOnly := by
      rw [ownOnlyEntries_eq]
      exact Entries.find?_map ownOnly ownOnly (fun k => (sameKey_ownOnly k).1 key) entries
    have hnumber : lookup? (.int (Text.toNat key)) (ownOnlyEntries entries) =
        (lookup? (.int (Text.toNat key)) entries).map ownOnly := by
      rw [ownOnlyEntries_eq]
      exact Entries.find?_map ownOnly ownOnly (fun k => (sameKey_ownOnly k).2 _) entries
    simp only [ownOnly, step?, htext, hnumber]
    rw [Option.map_or]
    split <;> rfl
  | function name attributes => exact hattributes attributes
  | type name attributes => exact hattributes attributes
  | object typeName shown own inherited => exact hattributes own
  | _ => rfl

theorem walk?_ownOnly (v : Value) (keys : List Text) :
    v.ownOnly.walk? keys = (v.walk? keys).map ownOnly := by
  induction keys generalizing v with
  | nil => rfl
  | cons key keys ih =>
    rw [walk?, walk?, step?_ownOnly]
    cases v.step? key with
    | none => rfl
    | some next => exact ih next

theorem resolve_ownOnly (v : Value) (path : Text) (site : Option Site) :
    v.ownOnly.resolve path site = (v.resolve path site).map ownOnly := by
  unfold resolve
  rw [walk?_ownOnly]
  cases v.walk? (Path.steps path) <;> rfl

/-! ## Paths to own parts -/

theorem resolve_eq_error_iff {root : Value} {path : Text} {site : Option Site} {f : Fault} :
    root.resolve path site = .error f ↔
      root.walk? (Path.steps path) = none ∧ f = .ofCauseAt (.pathNotFound path) site := by
  unfold resolve
  cases root.walk? (Path.steps path) with
  | some part => simp
  | none => simp [eq_comm]

/-- **A path leads to the own parts of a value and nowhere else.** Written with dots, steps lead to
a part just if it is reached by own steps, and to the fault of a wrong path just if one of them has
no target. So each part that is kept in the value under names and numbers, at any depth, is found at
the path that writes them. Values that differ only in what is inherited, at any depth, are alike
under every path. -/
theorem resolve_ownParts (root : Value) (site : Option Site) :
    (∀ keys, keys ≠ [] → (∀ key ∈ keys, Plain key) →
      (∀ part, root.resolve (ofSteps keys) site = .ok part ↔ Along OwnStep root keys part) ∧
      ∀ f, root.resolve (ofSteps keys) site = .error f ↔
        Stuck root keys ∧ f = .ofCauseAt (.pathNotFound (ofSteps keys)) site) ∧
    (∀ path, (Fault.ofCauseAt (.pathNotFound path) site).kind = .address) ∧
    (∀ place part, place ≠ [] → Along Keeps root place part →
      root.resolve (ofSteps (place.map Coordinate.text)) site = .ok part) ∧
    ∀ other : Value, other.ownOnly = root.ownOnly → ∀ path,
      (other.resolve path site).map ownOnly = (root.resolve path site).map ownOnly := by
  have hfound : ∀ keys, keys ≠ [] → (∀ key ∈ keys, Plain key) → ∀ part,
      (root.resolve (ofSteps keys) site = .ok part ↔ Along OwnStep root keys part) := by
    intro keys hne hplain part
    rw [resolve_eq_ok_iff, Path.steps_ofSteps hne hplain, walk?_eq_some_iff]
  refine ⟨?_, ?_, ?_, ?_⟩
  · intro keys hne hplain
    refine ⟨hfound keys hne hplain, ?_⟩
    intro f
    rw [resolve_eq_error_iff, Path.steps_ofSteps hne hplain, walk?_eq_none_iff]
  · intro path
    cases site <;> rfl
  · intro place part hne hkeeps
    obtain ⟨hplain, hreach⟩ := along_of_keeps hkeeps
    have hne' : place.map Coordinate.text ≠ [] := by
      intro hnil
      exact hne (List.map_eq_nil_iff.mp hnil)
    exact (hfound _ hne' hplain part).mpr hreach
  · intro other hsame path
    rw [← resolve_ownOnly, ← resolve_ownOnly, hsame]

/-- A list with an object that has one attribute of its own and inherits another. -/
def shelf : Value :=
  .mapping "dict" [(.text "a",
    .list [.object "Box" "box" [("b", .int 1)] [("c", .null)]])]

/-- The attribute of its own has a path, and the inherited one has none. -/
theorem resolve_ownParts_of_shelf :
    Along Keeps shelf [.name "a", .number 0, .name "b"] (.int 1) ∧
      shelf.resolve "a.0.b" none = .ok (.int 1) ∧ Stuck shelf ["a", "0", "c"] ∧
      shelf.resolve "a.0.c" none = .error (.ofCauseAt (.pathNotFound "a.0.c") none) := by
  obtain ⟨hpaths, -, hparts, -⟩ := resolve_ownParts shelf none
  have hplain : ∀ key ∈ [("a" : Text), "0", "c"], Plain key := by
    intro key hkey
    simp only [List.mem_cons, List.not_mem_nil, or_false] at hkey
    rcases hkey with rfl | rfl | rfl <;> exact ⟨by decide, by decide, by decide⟩
  have hkept : Along Keeps shelf [.name "a", .number 0, .name "b"] (.int 1) := by
    refine .cons (.key ⟨by decide, by decide, by decide⟩ ⟨[], _, [], rfl, rfl, by simp⟩) ?_
    refine .cons (.item rfl Nat.one_pos) ?_
    exact .cons (.own ⟨by decide, by decide, by decide⟩ ⟨[], _, [], rfl, rfl, by simp⟩) .nil
  have hfault : shelf.resolve "a.0.c" none =
      .error (.ofCauseAt (.pathNotFound "a.0.c") none) := rfl
  have hstuck := (((hpaths ["a", "0", "c"] (by simp) hplain).2 _).mp hfault).1
  exact ⟨hkept, hparts _ _ (by simp) hkept, hstuck, hfault⟩

end Value

end BraceTemplate
