import BraceTemplate.CommandLine.Options
import Mathlib.Data.List.Forall2

/-!
# Words that are options

Switches can be spelled with long names and with letters, of which several may share a dash, and can
be turned on more than once. However they are spelled, taking the words turns on these switches and
no others, and what stands behind two dashes is left as it is.
-/

namespace BraceTemplate

/-! ## Switches -/

namespace Options

/-- Switches are independent of each other, and only how often one asks to be verbose counts. -/
theorem foldl_turnOn (o : Options) (switches : List Switch) :
    switches.foldl turnOn o =
      ⟨o.verbose + switches.count .verbose, o.json || decide (.json ∈ switches),
        o.ignore || decide (.ignore ∈ switches), o.plain || decide (.plain ∈ switches),
        o.help || decide (.help ∈ switches)⟩ := by
  induction switches generalizing o with
  | nil => simp
  | cons switch rest ih =>
    rw [List.foldl_cons, ih]
    cases switch with
    | verbose => simp [turnOn, Nat.add_assoc, Nat.add_comm 1]
    | _ => simp [turnOn]

end Options

/-! ## Spellings -/

/-- A letter that stands for a switch. -/
def Switch.HasLetter (letter : CodePoint) (switch : Switch) : Prop :=
  (letter, switch) ∈ letters

/-- The words turn on these switches, one after the other, and leave no argument. -/
inductive Spells : List Text → List Switch → Prop where
  | nil : Spells [] []
  | long {name switch words switches} (known : (name, switch) ∈ Switch.longNames)
      (others : Spells words switches) : Spells (name :: words) (switch :: switches)
  | group {letters own words switches} (nonempty : letters ≠ [])
      (known : List.Forall₂ Switch.HasLetter letters own) (others : Spells words switches) :
      Spells (('-' :: letters) :: words) (own ++ switches)

namespace Switch

variable {letter : CodePoint} {switch : Switch}

theorem HasLetter.cases (h : HasLetter letter switch) :
    letter = 'v' ∧ switch = .verbose ∨ letter = 'j' ∧ switch = .json ∨
      letter = 'i' ∧ switch = .ignore ∨ letter = 'p' ∧ switch = .plain := by
  simpa [HasLetter, letters] using h

theorem HasLetter.lookup_eq (h : HasLetter letter switch) :
    letters.lookup letter = some switch := by
  rcases h.cases with ⟨rfl, rfl⟩ | ⟨rfl, rfl⟩ | ⟨rfl, rfl⟩ | ⟨rfl, rfl⟩ <;> rfl

/-- A known letter behind a dash begins no long name. -/
theorem HasLetter.lookup_longNames (h : HasLetter letter switch) (rest : Text) :
    longNames.lookup ((('-' : CodePoint) :: letter :: rest).takeWhile (· != ('=' : CodePoint))) =
      none := by
  rcases h.cases with ⟨rfl, rfl⟩ | ⟨rfl, rfl⟩ | ⟨rfl, rfl⟩ | ⟨rfl, rfl⟩ <;> rfl

theorem HasLetter.ne_dash (h : HasLetter letter switch) : letter ≠ '-' := by
  rcases h.cases with ⟨rfl, rfl⟩ | ⟨rfl, rfl⟩ | ⟨rfl, rfl⟩ | ⟨rfl, rfl⟩ <;> decide

theorem longNames_cases {name : Text} (h : (name, switch) ∈ longNames) :
    name = "--verbose" ∧ switch = .verbose ∨ name = "--json" ∧ switch = .json ∨
      name = "--ignore" ∧ switch = .ignore ∨ name = "--plain" ∧ switch = .plain ∨
      name = "--help" ∧ switch = .help := by
  simpa [longNames] using h

end Switch

namespace Options

variable {words : List Text} {switches : List Switch}

theorem takeWord_long {name : Text} {switch : Switch} (h : (name, switch) ∈ Switch.longNames)
    (o : Options) : o.takeWord name = .ok (o.turnOn switch, none) := by
  rcases Switch.longNames_cases h with
    ⟨rfl, rfl⟩ | ⟨rfl, rfl⟩ | ⟨rfl, rfl⟩ | ⟨rfl, rfl⟩ | ⟨rfl, rfl⟩ <;> rfl

section Group

variable {letters : Text} {own : List Switch}

theorem filterMap_lookup (h : List.Forall₂ Switch.HasLetter letters own) :
    letters.filterMap (fun c => Switch.letters.lookup c) = own := by
  induction h with
  | nil => rfl
  | cons hletter _ ih => rw [List.filterMap_cons, hletter.lookup_eq, ih]

theorem unknownLetters_eq_none (h : List.Forall₂ Switch.HasLetter letters own) :
    unknownLetters letters = none := by
  have hknown : letters.filter (fun c => (Switch.letters.lookup c).isNone) = [] := by
    induction h with
    | nil => rfl
    | cons hletter _ ih => simpa [hletter.lookup_eq] using ih
  simp [unknownLetters, hknown]

theorem takeWord_group (hne : letters ≠ []) (h : List.Forall₂ Switch.HasLetter letters own)
    (o : Options) : o.takeWord ('-' :: letters) = .ok (own.foldl turnOn o, none) := by
  have hswitches := filterMap_lookup h
  have hknown := unknownLetters_eq_none h
  cases h with
  | nil => exact absurd rfl hne
  | @cons letter switch rest others hletter _ =>
    rw [takeWord]
    simp only [hletter.lookup_longNames, if_neg hletter.ne_dash, turnOnLetters, hswitches, hknown]

end Group

/-- **Options are taken as they are spelled**, up to the two dashes, and all words behind these are
arguments. -/
theorem takeWords_of_spells (h : Spells words switches) (o : Options) (rest : List Text) :
    o.takeWords (words ++ ("--" : Text) :: rest) = .ok (switches.foldl turnOn o, rest) := by
  induction h generalizing o with
  | nil => rfl
  | @long name switch words switches known _ ih =>
    have hname : name ≠ "--" := by
      rcases Switch.longNames_cases known with
        ⟨rfl, -⟩ | ⟨rfl, -⟩ | ⟨rfl, -⟩ | ⟨rfl, -⟩ | ⟨rfl, -⟩ <;> decide
    rw [List.cons_append, takeWords, if_neg hname, takeWord_long known]
    simp only [bind, Except.bind, ih]
    rfl
  | @group letters own words switches nonempty known _ ih =>
    have hname : ('-' : CodePoint) :: letters ≠ "--" := by
      cases known with
      | nil => exact absurd rfl nonempty
      | cons hletter _ => simp [hletter.ne_dash]
    rw [List.cons_append, takeWords, if_neg hname, takeWord_group nonempty known]
    simp only [bind, Except.bind, ih, List.foldl_append]
    rfl

end Options

end BraceTemplate
