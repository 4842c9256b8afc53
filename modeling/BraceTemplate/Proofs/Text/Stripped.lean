import BraceTemplate.Proofs.Text.Colour
import Mathlib.Data.List.TakeWhile

/-!
# What is left of colour codes

Stripping is one pass over the text. It takes out every colour code that stands there, but what
stood on the two sides of a code is then side by side, and may be a code again. This module says
for which texts that happens: exactly for those in which codes stand inside a further code. Only
then is a colour code left, and only then would a second pass change anything.
-/

namespace BraceTemplate.Text

open SequenceForm

/-! ## Codes in a text -/

/-- Digits and semicolons. -/
def IsParameters (t : Text) : Prop :=
  ∀ c ∈ t, c.isDigit = true ∨ c = ';'

instance (t : Text) : Decidable (IsParameters t) :=
  decidable_of_iff ((t.all fun c => c.isDigit || c == ';') = true) (by simp [IsParameters])

/-- The characters that a colour code begins and ends with. -/
def isEnd (c : CodePoint) : Bool :=
  c == escape || c == 'm'

/-- A whole colour code and nothing else. -/
def IsColour (t : Text) : Prop :=
  ∃ parameters, IsParameters parameters ∧ t = colour parameters

/-- A colour code stands somewhere in the text. -/
def HasColour (t : Text) : Prop :=
  ∃ code, IsColour code ∧ code <:+: t

/-- The second text is the first one with whole colour codes put in anywhere. -/
inductive Interspersed : Text → Text → Prop where
  | nil : Interspersed [] []
  | keep (c : CodePoint) {s t : Text} (rest : Interspersed s t) : Interspersed (c :: s) (c :: t)
  | code {code s t : Text} (whole : IsColour code) (rest : Interspersed s t) :
    Interspersed s (code ++ t)

/-- Somewhere in the text stands a colour code with others put in between its escape character and
its ending. -/
def HasBrokenColour (t : Text) : Prop :=
  ∃ parameters inside, IsParameters parameters ∧ Interspersed ('[' :: parameters) inside ∧
    inside ≠ ('[' : CodePoint) :: parameters ∧ escape :: inside ++ (['m'] : Text) <:+: t

theorem HasColour.cons {t : Text} (h : HasColour t) (c : CodePoint) : HasColour (c :: t) := by
  obtain ⟨code, hcode, hinfix⟩ := h
  exact ⟨code, hcode, hinfix.trans (List.suffix_cons c t).isInfix⟩

namespace IsParameters

variable {parameters : Text}

theorem isParameter (h : IsParameters parameters) :
    ∀ c ∈ parameters, ofColour.isParameter c = true := by
  intro c hc
  simpa [ofColour] using h c hc

/-- Between its first character and its last, a code has neither of them again. -/
theorem not_isEnd (h : IsParameters parameters) :
    ∀ c ∈ ('[' : CodePoint) :: parameters, isEnd c = false := by
  intro c hc
  rw [isEnd, Bool.or_eq_false_iff, beq_eq_false_iff_ne, beq_eq_false_iff_ne]
  rcases List.mem_cons.mp hc with rfl | hc
  · decide
  · constructor
    all_goals
      rintro rfl
      exact absurd (h _ hc) (by decide)

end IsParameters

/-- Cut before its first escape character or ending, a text has the same character behind the cut. -/
theorem eq_of_isEnd {a b s t : Text} {c d : CodePoint} (ha : ∀ x ∈ a, isEnd x = false)
    (hb : ∀ x ∈ b, isEnd x = false) (hc : isEnd c = true) (hd : isEnd d = true)
    (h : a ++ c :: s = b ++ d :: t) : c = d := by
  have hfirst : ∀ {u : Text}, (∀ x ∈ u, isEnd x = false) → ∀ {e : CodePoint}, isEnd e = true →
      ∀ rest, (u ++ e :: rest).find? isEnd = some e := by
    intro u hu e he rest
    have hnone : u.find? isEnd = none := List.find?_eq_none.mpr fun x hx => by simp [hu x hx]
    rw [List.find?_append, hnone, Option.none_or, List.find?_cons_of_pos he]
  have hleft := hfirst ha hc s
  rw [h, hfirst hb hd t] at hleft
  exact (Option.some.inj hleft).symm

/-! ## The pass at the start of a text -/

/-- A colour code has no intermediate characters. -/
theorem dropBody_ofColour (t : Text) : ofColour.dropBody t = t.dropWhile ofColour.isParameter := by
  have hnone : ∀ l : Text, l.dropWhile ofColour.isIntermediate = l := by
    intro l
    cases l <;> rfl
  rw [dropBody, hnone]

theorem dropSequence?_colour_append {parameters : Text} (h : IsParameters parameters)
    (after : Text) : ofColour.dropSequence? (colour parameters ++ after) = some after := by
  have htext : colour parameters ++ after =
      ('\x1b' : CodePoint) :: '[' :: (parameters ++ ('m' : CodePoint) :: after) := by
    simp [colour, escape]
  have hdrop : ofColour.dropBody (parameters ++ ('m' : CodePoint) :: after) =
      ('m' : CodePoint) :: after := by
    rw [dropBody_ofColour, List.dropWhile_append_of_pos h.isParameter]
    rfl
  rw [htext, dropSequence?, hdrop]
  rfl

/-- What is taken off is a whole code. -/
theorem exists_of_dropSequence?_ofColour {t after : Text}
    (h : ofColour.dropSequence? t = some after) :
    ∃ parameters, IsParameters parameters ∧ t = colour parameters ++ after := by
  unfold dropSequence? at h
  split at h
  · rename_i rest
    have hsplit := List.takeWhile_append_dropWhile (p := ofColour.isParameter) (l := rest)
    rw [dropBody_ofColour] at h
    split at h
    · rename_i c left hdrop
      split at h
      · rename_i hfinal
        obtain rfl : c = 'm' := by simpa [ofColour] using hfinal
        obtain rfl := Option.some.inj h
        rw [hdrop] at hsplit
        refine ⟨rest.takeWhile ofColour.isParameter, ?_, ?_⟩
        · intro c hc
          have hparameter := List.mem_takeWhile_imp hc
          simpa [ofColour] using hparameter
        · simp only [colour, escape, List.cons_append, List.append_assoc, List.nil_append,
            List.cons.injEq, true_and]
          exact hsplit.symm
      · cases h
    · cases h
  · cases h

theorem dropSequence?_eq_none_of_ne_escape {c : CodePoint} (hc : c ≠ escape) (t : Text) :
    ofColour.dropSequence? (c :: t) = none := by
  rw [Option.eq_none_iff_forall_ne_some]
  intro after h
  obtain ⟨parameters, -, heq⟩ := exists_of_dropSequence?_ofColour h
  exact hc (List.cons.inj heq).1

/-- A code that begins before an escape character ends before it as well. -/
theorem dropSequence?_append_escape {t : Text} (hne : t ≠ []) (rest : Text) :
    ofColour.dropSequence? (t ++ escape :: rest) =
      (ofColour.dropSequence? t).map (· ++ escape :: rest) := by
  cases h : ofColour.dropSequence? t with
  | some after =>
    obtain ⟨parameters, hparameters, rfl⟩ := exists_of_dropSequence?_ofColour h
    rw [List.append_assoc, dropSequence?_colour_append hparameters]
    rfl
  | none =>
    rw [Option.map_none, Option.eq_none_iff_forall_ne_some]
    intro after hsome
    obtain ⟨parameters, hparameters, heq⟩ := exists_of_dropSequence?_ofColour hsome
    rcases List.append_eq_append_iff.mp heq with ⟨gap, hcode, hrest⟩ | ⟨gap, ht, -⟩
    · cases gap with
      | nil =>
        -- the text is the code itself
        have hwhole := dropSequence?_colour_append hparameters []
        rw [List.append_nil] at hcode
        rw [List.append_nil, hcode, h] at hwhole
        cases hwhole
      | cons c gap =>
        -- the escape character would be a second one in the code
        obtain ⟨first, t, rfl⟩ := List.exists_cons_of_ne_nil hne
        obtain rfl : escape = c := (List.cons.inj hrest).1
        have htail : ('[' : CodePoint) :: parameters ++ (['m'] : Text) = t ++ escape :: gap :=
          (List.cons.inj hcode).2
        have hmem : escape ∈ ('[' : CodePoint) :: parameters ++ (['m'] : Text) := by
          rw [htail]
          exact List.mem_append_right _ List.mem_cons_self
        rcases List.mem_append.mp hmem with hmem | hmem
        · exact absurd (hparameters.not_isEnd _ hmem) (by decide)
        · exact absurd (List.mem_singleton.mp hmem) (by decide)
    · rw [ht, dropSequence?_colour_append hparameters] at h
      cases h

/-! ## The whole pass -/

theorem stripColours_code_append {code : Text} (h : IsColour code) (t : Text) :
    stripColours (code ++ t) = stripColours t := by
  obtain ⟨parameters, hparameters, rfl⟩ := h
  exact strip_of_dropSequence? (dropSequence?_colour_append hparameters t)

theorem stripColours_cons_of_ne_escape {c : CodePoint} (hc : c ≠ escape) (t : Text) :
    stripColours (c :: t) = c :: stripColours t :=
  strip_of_no_sequence (dropSequence?_eq_none_of_ne_escape hc t)

/-- What stands before an escape character is stripped apart from the rest. -/
theorem stripColours_append_escape (t rest : Text) :
    stripColours (t ++ escape :: rest) = stripColours t ++ stripColours (escape :: rest) := by
  unfold stripColours
  fun_induction ofColour.strip t with
  | case1 => rfl
  | case2 c t after hafter ih =>
    have hsome := dropSequence?_append_escape (List.cons_ne_nil c t) rest
    rw [hafter, Option.map_some, List.cons_append] at hsome
    rw [List.cons_append, strip_of_dropSequence? hsome, ih]
  | case3 c t hnone ih =>
    have hnone' := dropSequence?_append_escape (List.cons_ne_nil c t) rest
    rw [hnone, Option.map_none, List.cons_append] at hnone'
    rw [List.cons_append, strip_of_no_sequence hnone', ih, List.cons_append]

/-- Nothing but whole codes is taken out. -/
theorem interspersed_stripColours (t : Text) : Interspersed (stripColours t) t := by
  unfold stripColours
  fun_induction ofColour.strip t with
  | case1 => exact .nil
  | case2 c t after hafter ih =>
    obtain ⟨parameters, hparameters, heq⟩ := exists_of_dropSequence?_ofColour hafter
    rw [heq]
    exact .code ⟨parameters, hparameters, rfl⟩ ih
  | case3 c t hnone ih => exact .keep c ih

namespace Interspersed

variable {s t : Text}

theorem append {s' t' : Text} (h : Interspersed s t) (h' : Interspersed s' t') :
    Interspersed (s ++ s') (t ++ t') := by
  induction h with
  | nil => exact h'
  | keep c rest ih => exact .keep c ih
  | code whole rest ih =>
    rw [List.append_assoc]
    exact .code whole ih

theorem refl (t : Text) : Interspersed t t := by
  induction t with
  | nil => exact .nil
  | cons c t ih => exact .keep c ih

/-- A code is put in where there was nothing. -/
theorem nil_colour {parameters : Text} (h : IsParameters parameters) :
    Interspersed [] (colour parameters) := by
  have hcode := Interspersed.code ⟨parameters, h, rfl⟩ .nil
  rwa [List.append_nil] at hcode

theorem append_code {code : Text} (h : Interspersed s t) (hcode : Interspersed [] code) :
    Interspersed s (t ++ code) := by
  have happend := h.append hcode
  rwa [List.append_nil] at happend

/-- Codes may be put into each of several texts. -/
theorem flatMap {α : Type} {f g : α → Text} {l : List α} (h : ∀ x ∈ l, Interspersed (f x) (g x)) :
    Interspersed (l.flatMap f) (l.flatMap g) := by
  induction l with
  | nil => exact .nil
  | cons x l ih =>
    obtain ⟨hx, hothers⟩ := List.forall_mem_cons.mp h
    exact hx.append (ih hothers)

theorem length_le (h : Interspersed s t) : s.length ≤ t.length := by
  induction h with
  | nil => exact Nat.le_refl _
  | keep c rest ih => exact Nat.succ_le_succ ih
  | code whole rest ih =>
    rw [List.length_append]
    omega

theorem eq_of_not_hasColour (h : Interspersed s t) (hnone : ¬ HasColour t) : s = t := by
  induction h with
  | nil => rfl
  | keep c rest ih => rw [ih fun hrest => hnone (hrest.cons c)]
  | code whole rest ih => exact absurd ⟨_, whole, (List.prefix_append _ _).isInfix⟩ hnone

/-- The codes are taken out again, if there is no escape character of other use. -/
theorem stripColours_append (h : Interspersed s t) (hplain : ∀ c ∈ s, c ≠ escape) (rest : Text) :
    stripColours (t ++ rest) = s ++ stripColours rest := by
  induction h with
  | nil => rfl
  | keep c h ih =>
    obtain ⟨hc, hothers⟩ := List.forall_mem_cons.mp hplain
    rw [List.cons_append, stripColours_cons_of_ne_escape hc, ih hothers, List.cons_append]
  | code whole h ih => rw [List.append_assoc, stripColours_code_append whole, ih hplain]

/-- The first code that was put in begins behind a part of the text. -/
theorem exists_escape_of_ne (h : Interspersed s t) (hne : t ≠ s) :
    ∃ before after, t = before ++ escape :: after ∧ before <+: s := by
  induction h with
  | nil => exact absurd rfl hne
  | keep c rest ih =>
    obtain ⟨before, after, rfl, hbefore⟩ := ih fun heq => hne (by rw [heq])
    exact ⟨c :: before, after, rfl, List.cons_prefix_cons.mpr ⟨rfl, hbefore⟩⟩
  | code whole rest ih =>
    obtain ⟨parameters, -, rfl⟩ := whole
    exact ⟨[], _, rfl, List.nil_prefix⟩

/-- A code with others inside is not taken off as it stands: an escape character comes before its
ending. -/
theorem dropSequence?_eq_none {parameters inside : Text} (hparameters : IsParameters parameters)
    (h : Interspersed ('[' :: parameters) inside) (hne : inside ≠ ('[' : CodePoint) :: parameters)
    (rest : Text) : ofColour.dropSequence? (escape :: (inside ++ ('m' : CodePoint) :: rest)) =
      none := by
  obtain ⟨before, after, hinside, hbefore⟩ := h.exists_escape_of_ne hne
  rw [Option.eq_none_iff_forall_ne_some]
  intro left hsome
  obtain ⟨others, hothers, heq⟩ := exists_of_dropSequence?_ofColour hsome
  have hbody : before ++ escape :: (after ++ ('m' : CodePoint) :: rest) =
      ('[' : CodePoint) :: others ++ ('m' : CodePoint) :: left := by
    simpa [colour, hinside] using heq
  have hbefore' : ∀ c ∈ before, isEnd c = false := fun c hc =>
    hparameters.not_isEnd c (hbefore.subset hc)
  exact absurd (eq_of_isEnd hbefore' hothers.not_isEnd rfl rfl hbody) (by decide)

end Interspersed

/-! ## Codes that come together -/

/-- Where the first character that is left stood. -/
theorem exists_of_stripColours_eq_cons {t s : Text} {c : CodePoint} (h : stripColours t = c :: s) :
    ∃ codes rest, t = codes ++ c :: rest ∧ Interspersed [] codes ∧ stripColours rest = s ∧
      ofColour.dropSequence? (c :: rest) = none := by
  unfold stripColours at h ⊢
  fun_induction ofColour.strip t with
  | case1 => cases h
  | case2 d t after hafter ih =>
    obtain ⟨parameters, hparameters, heq⟩ := exists_of_dropSequence?_ofColour hafter
    obtain ⟨codes, rest, rfl, hcodes, hrest⟩ := ih h
    exact ⟨colour parameters ++ codes, rest, by rw [heq, List.append_assoc],
      .code ⟨parameters, hparameters, rfl⟩ hcodes, hrest⟩
  | case3 d t hnone ih =>
    obtain ⟨rfl, rfl⟩ := List.cons.inj h
    exact ⟨[], t, rfl, .nil, rfl, hnone⟩

/-- Where the first part of what is left stood. -/
theorem exists_of_stripColours_eq_append {t s s' : Text} (h : stripColours t = s ++ s') :
    ∃ u rest, t = u ++ rest ∧ Interspersed s u ∧ stripColours rest = s' := by
  induction s generalizing t with
  | nil => exact ⟨[], t, rfl, .nil, h⟩
  | cons c s ih =>
    obtain ⟨codes, rest, rfl, hcodes, hrest, -⟩ := exists_of_stripColours_eq_cons h
    obtain ⟨u, rest', rfl, hu, hrest'⟩ := ih hrest
    refine ⟨codes ++ c :: u, rest', by simp, ?_, hrest'⟩
    exact hcodes.append (.keep c hu)

theorem hasBrokenColour_of_hasColour {t : Text} (h : HasColour (stripColours t)) :
    HasBrokenColour t := by
  obtain ⟨code, ⟨parameters, hparameters, rfl⟩, front, back, hleft⟩ := h
  rw [List.append_assoc] at hleft
  obtain ⟨u, rest, rfl, -, hrest⟩ := exists_of_stripColours_eq_append hleft.symm
  obtain ⟨codes, rest, rfl, -, hrest, hnone⟩ := exists_of_stripColours_eq_cons hrest
  have hparts : stripColours rest =
      ('[' : CodePoint) :: parameters ++ ('m' : CodePoint) :: back := by
    rw [hrest]
    simp
  obtain ⟨inside, rest, rfl, hinside, hrest⟩ := exists_of_stripColours_eq_append hparts
  obtain ⟨others, rest, rfl, hothers, -, -⟩ := exists_of_stripColours_eq_cons hrest
  refine ⟨parameters, inside ++ others, hparameters, ?_, ?_, ?_⟩
  · simpa using hinside.append hothers
  · -- unbroken, it would have been taken out
    intro hwhole
    rw [← List.append_assoc, hwhole] at hnone
    have hsome := dropSequence?_colour_append hparameters rest
    rw [show colour parameters ++ rest =
        escape :: (('[' : CodePoint) :: parameters ++ ('m' : CodePoint) :: rest) by
      simp [colour]] at hsome
    cases hnone.symm.trans hsome
  · exact ⟨u ++ codes, rest, by simp⟩

theorem hasColour_of_hasBrokenColour {t : Text} (h : HasBrokenColour t) :
    HasColour (stripColours t) := by
  obtain ⟨parameters, inside, hparameters, hinside, hne, front, back, rfl⟩ := h
  have hplain : ∀ c ∈ ('[' : CodePoint) :: parameters, c ≠ escape := by
    rintro c hc rfl
    exact absurd (hparameters.not_isEnd _ hc) (by decide)
  have hnone := hinside.dropSequence?_eq_none hparameters hne back
  have hleft : stripColours (front ++ (escape :: inside ++ (['m'] : Text)) ++ back) =
      stripColours front ++ colour parameters ++ stripColours back :=
    calc stripColours (front ++ (escape :: inside ++ (['m'] : Text)) ++ back)
        = stripColours (front ++ escape :: (inside ++ ('m' : CodePoint) :: back)) := by simp
      _ = stripColours front ++ stripColours (escape :: (inside ++ ('m' : CodePoint) :: back)) :=
        stripColours_append_escape _ _
      _ = stripColours front ++ escape :: stripColours (inside ++ ('m' : CodePoint) :: back) := by
        rw [show stripColours (escape :: (inside ++ ('m' : CodePoint) :: back)) =
          escape :: stripColours (inside ++ ('m' : CodePoint) :: back) from
            strip_of_no_sequence hnone]
      _ = stripColours front ++ escape ::
        (('[' : CodePoint) :: parameters ++ ('m' : CodePoint) :: stripColours back) := by
        rw [hinside.stripColours_append hplain, stripColours_cons_of_ne_escape (by decide)]
      _ = stripColours front ++ colour parameters ++ stripColours back := by simp [colour]
  exact ⟨colour parameters, ⟨parameters, hparameters, rfl⟩, _, _, hleft.symm⟩

/-- A pass changes just the texts in which a code stands. -/
theorem stripColours_eq_self_iff {t : Text} : stripColours t = t ↔ ¬ HasColour t := by
  constructor
  · rintro hself ⟨code, hcode, front, back, rfl⟩
    obtain ⟨parameters, -, rfl⟩ := id hcode
    have hleft : stripColours (front ++ colour parameters ++ back) =
        stripColours front ++ stripColours back := by
      rw [List.append_assoc, show colour parameters ++ back =
        escape :: (('[' : CodePoint) :: parameters ++ (['m'] : Text) ++ back) from rfl,
        stripColours_append_escape]
      exact congrArg _ (stripColours_code_append hcode back)
    -- the code is missing in what is left
    have hfront := (interspersed_stripColours front).length_le
    have hback := (interspersed_stripColours back).length_le
    have hlength := congrArg List.length (hleft.symm.trans hself)
    simp only [List.length_append, colour, List.length_cons] at hlength
    omega
  · intro hnone
    exact (interspersed_stripColours t).eq_of_not_hasColour hnone

/-- **Colour codes are left just where codes stand inside a further one.** The pass takes out
nothing but whole codes; a code is left, and a second pass would change what is left, exactly if
somewhere in the text a code is broken by others. -/
theorem stripColours_leaves_iff (t : Text) :
    Interspersed (stripColours t) t ∧ (HasColour (stripColours t) ↔ HasBrokenColour t) ∧
      (stripColours (stripColours t) = stripColours t ↔ ¬ HasBrokenColour t) := by
  have hiff : HasColour (stripColours t) ↔ HasBrokenColour t :=
    ⟨hasBrokenColour_of_hasColour, hasColour_of_hasBrokenColour⟩
  exact ⟨interspersed_stripColours t, hiff, by rw [stripColours_eq_self_iff, hiff]⟩

/-- Behind a lone escape character, the code that is taken out leaves a code. -/
theorem not_stripped_of_code_inside :
    stripColours "\x1b\x1b[0m[0m" = "\x1b[0m" ∧ HasColour (stripColours "\x1b\x1b[0m[0m") ∧
      stripColours (stripColours "\x1b\x1b[0m[0m") ≠ stripColours "\x1b\x1b[0m[0m" := by
  have hzero : IsColour plain := by
    refine ⟨"0", ?_, rfl⟩
    intro c hc
    obtain rfl := List.mem_singleton.mp hc
    exact .inl rfl
  have hrest : stripColours "[0m" = "[0m" := by
    show stripColours ['[', '0', 'm'] = (['[', '0', 'm'] : Text)
    rw [stripColours_cons_of_ne_escape (by decide), stripColours_cons_of_ne_escape (by decide),
      stripColours_cons_of_ne_escape (by decide), stripColours_nil]
  have hleft : stripColours "\x1b\x1b[0m[0m" = plain :=
    calc stripColours "\x1b\x1b[0m[0m"
        = escape :: stripColours (plain ++ "[0m") := strip_of_no_sequence rfl
      _ = escape :: stripColours "[0m" := by rw [stripColours_code_append hzero]
      _ = plain := by
        rw [hrest]
        rfl
  have hcolour : HasColour plain := ⟨plain, hzero, List.infix_rfl⟩
  rw [hleft]
  refine ⟨rfl, hcolour, ?_⟩
  intro hself
  exact stripColours_eq_self_iff.mp hself hcolour

end BraceTemplate.Text
