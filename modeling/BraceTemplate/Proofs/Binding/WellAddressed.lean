import BraceTemplate.Proofs.Binding.Loop

/-!
# Well-addressed calls

A call gives a template its arguments, one by one or by name. This module says which calls suit a
template, without saying how that is checked, and for all others which fault they have and which
placeholder is to blame. Binding accepts exactly the suitable calls and reports exactly that fault.
-/

namespace BraceTemplate

/-! ## Calls -/

/-- What a call offers to address: the arguments given by name as one mapping, if there are any, and
else the arguments. -/
def offered (args : List Value) (named : List (Text × Value)) : List Value :=
  if named = [] then args else [.ofNamed named]

/-- There are placeholders, and all of them have this mode. -/
def InMode (fields : List Placeholder) (mode : AddressMode) : Prop :=
  fields ≠ [] ∧ ∀ p ∈ fields, p.mode = mode

/-- Arguments are not given in both ways at once. -/
def OneSource (args : List Value) (named : List (Text × Value)) : Prop :=
  args = [] ∨ named = []

/-- The call suits a template with these placeholders. -/
structure WellAddressed (fields : List Placeholder) (args : List Value)
    (named : List (Text × Value)) : Prop where
  same_mode : fields = [] ∨ ∃ mode, InMode fields mode
  one_source : OneSource args named
  unaddressed : fields = [] → offered args named = []
  anonymous : InMode fields .anonymous →
    named = [] ∧ fields.length = (offered args named).length
  positional : InMode fields .positional →
    named = [] ∧ ∀ p ∈ fields, Text.toNat p.address < (offered args named).length
  keyed : InMode fields .keyed → ∃ typeName entries,
    offered args named = [.mapping typeName entries] ∧
      ∀ p ∈ fields, ∃ v, (Value.mapping typeName entries).resolve p.address p.site = .ok v

/-- The number of arguments is wrong, and nothing else is looked at before it. -/
def Unpaired (fields : List Placeholder) (args : List Value) (named : List (Text × Value)) : Prop :=
  OneSource args named ∧
    (fields = [] ∧ offered args named ≠ [] ∨
      InMode fields .anonymous ∧ named = [] ∧ fields.length ≠ (offered args named).length)

/-- The fault of a call that does not suit a template with these placeholders. Where a placeholder
is to blame, it is the first one: the first whose mode differs, whose index is too large or whose
path leads nowhere, or the first of all when the arguments themselves are wrong for the mode. -/
inductive Rejects (fields : List Placeholder) (args : List Value) (named : List (Text × Value)) :
    Fault → Prop where
  | mixedModes {first before p after} (split : fields = first :: before ++ p :: after)
      (same : ∀ q ∈ before, q.mode = first.mode) (other : p.mode ≠ first.mode) :
      Rejects fields args named (.ofCauseAt (.mixedModes first.mode p.mode p.raw) p.site)
  | mixedArguments (mode : fields = [] ∨ ∃ mode, InMode fields mode)
      (both : ¬ OneSource args named) :
      Rejects fields args named (.ofCause .mixedArguments)
  | namedNeedKeys {first rest mode} (split : fields = first :: rest) (inMode : InMode fields mode)
      (notKeyed : mode ≠ .keyed) (source : OneSource args named) (given : named ≠ []) :
      Rejects fields args named (.ofCauseAt (.namedNeedKeys first.raw) first.site)
  | noPlaceholders (split : fields = []) (source : OneSource args named)
      (given : offered args named ≠ []) :
      Rejects fields args named (.ofCause (.noPlaceholders (offered args named).length))
  | notOneMapping {first rest} (split : fields = first :: rest) (inMode : InMode fields .keyed)
      (source : OneSource args named)
      (shape : ∀ typeName entries, offered args named ≠ [.mapping typeName entries]) :
      Rejects fields args named (.ofCauseAt .notOneMapping first.site)
  | countMismatch (inMode : InMode fields .anonymous) (source : named = [])
      (counts : fields.length ≠ (offered args named).length) :
      Rejects fields args named
        (.ofCause (.countMismatch fields.length (offered args named).length))
  | indexOutOfRange {before p after} (inMode : InMode fields .positional) (source : named = [])
      (split : fields = before ++ p :: after)
      (within : ∀ q ∈ before, Text.toNat q.address < (offered args named).length)
      (beyond : (offered args named).length ≤ Text.toNat p.address) :
      Rejects fields args named
        (.ofCauseAt (.indexOutOfRange (Text.toNat p.address) (offered args named).length) p.site)
  | pathNotFound {before p after typeName entries} (inMode : InMode fields .keyed)
      (source : OneSource args named) (shape : offered args named = [.mapping typeName entries])
      (split : fields = before ++ p :: after)
      (found : ∀ q ∈ before, ∃ v,
        (Value.mapping typeName entries).resolve q.address q.site = .ok v)
      (lost : ∀ v, (Value.mapping typeName entries).resolve p.address p.site ≠ .ok v) :
      Rejects fields args named (.ofCauseAt (.pathNotFound p.address) p.site)

theorem InMode.unique {fields : List Placeholder} {mode other : AddressMode}
    (h : InMode fields mode) (h' : InMode fields other) : mode = other := by
  obtain ⟨p, hp⟩ := List.exists_mem_of_ne_nil fields h.1
  exact (h.2 p hp).symm.trans (h'.2 p hp)

namespace WellAddressed

variable {fields : List Placeholder} {args : List Value} {named : List (Text × Value)}

theorem of_unaddressed (hf : fields = []) (hs : OneSource args named)
    (ho : offered args named = []) : WellAddressed fields args named where
  same_mode := .inl hf
  one_source := hs
  unaddressed _ := ho
  anonymous h := absurd hf h.1
  positional h := absurd hf h.1
  keyed h := absurd hf h.1

theorem of_anonymous (hm : InMode fields .anonymous) (hn : named = [])
    (hcount : fields.length = (offered args named).length) : WellAddressed fields args named where
  same_mode := .inr ⟨_, hm⟩
  one_source := .inr hn
  unaddressed h := absurd h hm.1
  anonymous _ := ⟨hn, hcount⟩
  positional h := nomatch hm.unique h
  keyed h := nomatch hm.unique h

theorem of_positional (hm : InMode fields .positional) (hn : named = [])
    (hall : ∀ p ∈ fields, Text.toNat p.address < (offered args named).length) :
    WellAddressed fields args named where
  same_mode := .inr ⟨_, hm⟩
  one_source := .inr hn
  unaddressed h := absurd h hm.1
  anonymous h := nomatch hm.unique h
  positional _ := ⟨hn, hall⟩
  keyed h := nomatch hm.unique h

theorem of_keyed (hm : InMode fields .keyed) (hs : OneSource args named) {typeName : Text}
    {entries : List (Value × Value)} (ho : offered args named = [.mapping typeName entries])
    (hall : ∀ p ∈ fields, ∃ v,
      (Value.mapping typeName entries).resolve p.address p.site = .ok v) :
    WellAddressed fields args named where
  same_mode := .inr ⟨_, hm⟩
  one_source := hs
  unaddressed h := absurd h hm.1
  anonymous h := nomatch hm.unique h
  positional h := nomatch hm.unique h
  keyed _ := ⟨typeName, entries, ho, hall⟩

/-- As many arguments as there are placeholders without an address. -/
theorem of_paired (hmode : ∀ p ∈ fields, p.mode = .anonymous)
    (hcount : fields.length = args.length) :
    WellAddressed fields args [] := by
  by_cases hf : fields = []
  · refine .of_unaddressed hf (.inr rfl) ?_
    simpa [hf, offered] using hcount.symm
  · exact .of_anonymous ⟨hf, hmode⟩ rfl (by simpa [offered] using hcount)

end WellAddressed

/-- A fault is found in no call that suits the template. -/
theorem Rejects.not_wellAddressed {fields : List Placeholder} {args : List Value}
    {named : List (Text × Value)} {f : Fault} (h : Rejects fields args named f) :
    ¬ WellAddressed fields args named := by
  intro hw
  cases h with
  | @mixedModes first before p after split same other =>
    rcases hw.same_mode with hnil | ⟨mode, -, hmode⟩
    · simp [split] at hnil
    · have hfirst : first.mode = mode := hmode first (by simp [split])
      have hp : p.mode = mode := hmode p (by simp [split])
      exact other (hp.trans hfirst.symm)
  | mixedArguments mode both => exact both hw.one_source
  | @namedNeedKeys first rest mode split inMode notKeyed source given =>
    cases mode with
    | anonymous => exact given (hw.anonymous inMode).1
    | positional => exact given (hw.positional inMode).1
    | keyed => exact notKeyed rfl
  | noPlaceholders split source given => exact given (hw.unaddressed split)
  | notOneMapping split inMode source shape =>
    obtain ⟨typeName, entries, hoffered, -⟩ := hw.keyed inMode
    exact shape typeName entries hoffered
  | countMismatch inMode source counts => exact counts (hw.anonymous inMode).2
  | @indexOutOfRange before p after inMode source split within beyond =>
    have hlt := (hw.positional inMode).2 p (by simp [split])
    omega
  | @pathNotFound before p after typeName entries inMode source shape split found lost =>
    obtain ⟨typeName', entries', hoffered, hall⟩ := hw.keyed inMode
    rw [shape] at hoffered
    cases hoffered
    obtain ⟨v, hv⟩ := hall p (by simp [split])
    exact lost v hv

/-! ## The checks -/

theorem commonMode_cases (fields : List Placeholder) :
    (∃ mode?, commonMode fields = .ok mode? ∧ (fields = [] ∨ ∃ mode, InMode fields mode)) ∨
      ∃ first before p after, fields = first :: before ++ p :: after ∧
        (∀ q ∈ before, q.mode = first.mode) ∧ p.mode ≠ first.mode ∧
        commonMode fields =
          .error (.ofCauseAt (.mixedModes first.mode p.mode p.raw) p.site) := by
  cases fields with
  | nil => exact .inl ⟨none, rfl, .inl rfl⟩
  | cons first rest =>
    cases hfind : rest.find? (·.mode != first.mode) with
    | none =>
      refine .inl ⟨some first.mode, by simp [commonMode, hfind], .inr ⟨first.mode, by simp, ?_⟩⟩
      intro p hp
      rcases List.mem_cons.mp hp with rfl | hp
      · rfl
      · simpa using List.find?_eq_none.mp hfind p hp
    | some p =>
      obtain ⟨hp, before, after, hsplit, hbefore⟩ := List.find?_eq_some_iff_append.mp hfind
      refine .inr ⟨first, before, p, after, by simp [hsplit], ?_, by simpa using hp,
        by simp [commonMode, hfind]⟩
      intro q hq
      simpa using hbefore q hq

theorem suppliedArguments_of_oneSource (first? : Option Placeholder) {args : List Value}
    {named : List (Text × Value)} (h : OneSource args named)
    (hkeyed : named = [] ∨ ∀ first ∈ first?, first.mode = .keyed) :
    suppliedArguments first? args named = .ok (offered args named) := by
  by_cases hn : named = []
  · simp [suppliedArguments, offered, hn]
  · have ha : args = [] := h.resolve_right hn
    have hk := hkeyed.resolve_left hn
    cases first? with
    | none => simp [suppliedArguments, offered, hn, ha]
    | some first => simp [suppliedArguments, offered, hn, ha, hk first rfl]

theorem suppliedArguments_of_not_oneSource (first? : Option Placeholder) {args : List Value}
    {named : List (Text × Value)} (h : ¬ OneSource args named) :
    suppliedArguments first? args named = .error (.ofCause .mixedArguments) := by
  obtain ⟨ha, hn⟩ := not_or.mp h
  simp [suppliedArguments, ha, hn]

theorem suppliedArguments_of_not_keyed {first : Placeholder} {args : List Value}
    {named : List (Text × Value)} (h : OneSource args named) (hn : named ≠ [])
    (hk : first.mode ≠ .keyed) :
    suppliedArguments (some first) args named =
      .error (.ofCauseAt (.namedNeedKeys first.raw) first.site) := by
  have ha : args = [] := h.resolve_right hn
  simp [suppliedArguments, hn, ha, hk]

/-! ## Binding -/

/-- A template without placeholders. -/
theorem link_of_unaddressed {segments : List Segment} {args : List Value}
    {named : List (Text × Value)} (hf : placeholders segments = []) (hs : OneSource args named) :
    link segments args named =
      if offered args named = [] then bindFrom [] 0 segments
      else .error (.ofCause (.noPlaceholders (offered args named).length)) := by
  have hsupplied := suppliedArguments_of_oneSource none hs (.inr (by simp))
  by_cases ho : offered args named = []
  · simp [link, hf, commonMode, hsupplied, ho, bind, Except.bind]
  · simp [link, hf, commonMode, hsupplied, ho, bind, Except.bind]

theorem commonMode_of_inMode {fields : List Placeholder} {mode : AddressMode}
    (h : InMode fields mode) : commonMode fields = .ok (some mode) := by
  obtain ⟨hne, hall⟩ := h
  cases fields with
  | nil => exact absurd rfl hne
  | cons first rest =>
    have hfirst : first.mode = mode := hall first (by simp)
    have hfind : rest.find? (·.mode != mode) = none := by
      rw [List.find?_eq_none]
      intro p hp
      simp [hall p (by simp [hp])]
    rw [commonMode, hfirst, hfind]

/-- A template with placeholders of one mode, given arguments of the sort that this mode takes. -/
theorem link_of_inMode {segments : List Segment} {args : List Value}
    {named : List (Text × Value)} {mode : AddressMode} {first : Placeholder}
    {rest : List Placeholder} (hf : placeholders segments = first :: rest)
    (hm : InMode (placeholders segments) mode) (hs : OneSource args named)
    (hk : named = [] ∨ mode = .keyed) :
    link segments args named =
      (checkArguments first (placeholders segments).length (offered args named)).bind
        fun _ => bindFrom (offered args named) 0 segments := by
  have hfirst : first.mode = mode := hm.2 first (by simp [hf])
  have hsupplied := suppliedArguments_of_oneSource (some first) hs
    (hk.imp_right fun h => by simp [hfirst, h])
  have hcommon := commonMode_of_inMode hm
  rw [hf] at hcommon ⊢
  simp [link, hf, hcommon, hsupplied, bind, Except.bind]

theorem bindFrom_of_unaddressed (args : List Value) (index : Nat) {segments : List Segment}
    (h : placeholders segments = []) : ∃ bound, bindFrom args index segments = .ok bound := by
  cases hbind : bindFrom args index segments with
  | ok bound => exact ⟨bound, rfl⟩
  | error f =>
    obtain ⟨before, p, after, hsplit, -⟩ := bindFrom_error hbind
    simp [h] at hsplit

section Modes

variable {segments : List Segment} {args : List Value} {named : List (Text × Value)}

/-- The two outcomes of binding: the call suits the template and the walk binds it, or a fault is
found. -/
def LinkOutcome (segments : List Segment) (args : List Value) (named : List (Text × Value)) :
    Prop :=
  (∃ bound, link segments args named = .ok bound ∧
    WellAddressed (placeholders segments) args named ∧
    bindFrom (offered args named) 0 segments = .ok bound) ∨
  ∃ f, link segments args named = .error f ∧ Rejects (placeholders segments) args named f

theorem linkOutcome_unaddressed (hf : placeholders segments = []) (hs : OneSource args named) :
    LinkOutcome segments args named := by
  have hlink := link_of_unaddressed hf hs
  by_cases ho : offered args named = []
  · obtain ⟨bound, hbound⟩ := bindFrom_of_unaddressed [] 0 hf
    refine .inl ⟨bound, by rw [hlink, if_pos ho, hbound], ?_, by rw [ho, hbound]⟩
    exact .of_unaddressed hf hs ho
  · exact .inr ⟨_, by rw [hlink, if_neg ho], .noPlaceholders hf hs ho⟩

theorem linkOutcome_anonymous {first : Placeholder} {rest : List Placeholder}
    (hf : placeholders segments = first :: rest)
    (hm : InMode (placeholders segments) .anonymous) (hn : named = []) :
    LinkOutcome segments args named := by
  have hs : OneSource args named := .inr hn
  have hfirst : first.mode = .anonymous := hm.2 first (by simp [hf])
  have hlink := link_of_inMode hf hm hs (.inl hn)
  by_cases hcount : (placeholders segments).length = (offered args named).length
  · have hcheck : checkArguments first (placeholders segments).length (offered args named) =
        .ok () := by simp [checkArguments, hfirst, hcount]
    rw [hcheck] at hlink
    have hany : ∀ p ∈ placeholders segments, ∀ index v,
        Addresses (offered args named) index p v → True := fun _ _ _ _ _ => trivial
    rcases bindFrom_ok_or_first_error hany with
      ⟨bound, hbind, -⟩ | ⟨before, p, after, f, -, hsplit, -, hp⟩
    · exact .inl ⟨bound, hlink.trans hbind, .of_anonymous hm hn hcount, hbind⟩
    · -- each of the placeholders finds an argument at its own index
      exfalso
      have hmode : p.mode = .anonymous := hm.2 p (by simp [hsplit])
      have hlt : before.length < (offered args named).length := by
        rw [← hcount, hsplit]
        simp
      simp [argumentOf, hmode, List.getElem?_eq_getElem hlt] at hp
  · have hcheck : checkArguments first (placeholders segments).length (offered args named) =
        .error (.ofCause (.countMismatch (placeholders segments).length
          (offered args named).length)) := by simp [checkArguments, hfirst, hcount]
    rw [hcheck] at hlink
    exact .inr ⟨_, hlink, .countMismatch hm hn hcount⟩

theorem linkOutcome_positional {first : Placeholder} {rest : List Placeholder}
    (hf : placeholders segments = first :: rest)
    (hm : InMode (placeholders segments) .positional) (hn : named = []) :
    LinkOutcome segments args named := by
  have hs : OneSource args named := .inr hn
  have hfirst : first.mode = .positional := hm.2 first (by simp [hf])
  have hcheck : checkArguments first (placeholders segments).length (offered args named) =
      .ok () := by simp [checkArguments, hfirst]
  have hlink := link_of_inMode hf hm hs (.inl hn)
  rw [hcheck] at hlink
  have hwithin : ∀ p ∈ placeholders segments, ∀ index v,
      Addresses (offered args named) index p v →
        Text.toNat p.address < (offered args named).length :=
    fun p hp _ _ hv => hv.lt_length (hm.2 p hp)
  rcases bindFrom_ok_or_first_error hwithin with
    ⟨bound, hbind, hall⟩ | ⟨before, p, after, f, hbind, hsplit, hbefore, hp⟩
  · exact .inl ⟨bound, hlink.trans hbind, .of_positional hm hn hall, hbind⟩
  · have hmode : p.mode = .positional := hm.2 p (by simp [hsplit])
    -- only an index that is too large finds nothing
    have hbeyond : (offered args named)[Text.toNat p.address]? = none := by
      cases hv : (offered args named)[Text.toNat p.address]? with
      | none => rfl
      | some v => simp [argumentOf, hmode, hv] at hp
    simp only [argumentOf, hmode, hbeyond, Except.error.injEq] at hp
    subst hp
    exact .inr ⟨_, hlink.trans hbind, .indexOutOfRange hm hn hsplit hbefore
      (List.getElem?_eq_none_iff.mp hbeyond)⟩

theorem checkArguments_keyed {first : Placeholder} (count : Nat) (hfirst : first.mode = .keyed)
    (args : List Value) :
    (∃ typeName entries, args = [.mapping typeName entries] ∧
      checkArguments first count args = .ok ()) ∨
    (∀ typeName entries, args ≠ [.mapping typeName entries]) ∧
      checkArguments first count args = .error (.ofCauseAt .notOneMapping first.site) := by
  by_cases h : ∃ typeName entries, args = [.mapping typeName entries]
  · obtain ⟨typeName, entries, rfl⟩ := h
    exact .inl ⟨typeName, entries, rfl, by simp [checkArguments, hfirst]⟩
  · have hshape : ∀ typeName entries, args ≠ [.mapping typeName entries] :=
      fun typeName entries heq => h ⟨typeName, entries, heq⟩
    refine .inr ⟨hshape, ?_⟩
    unfold checkArguments
    rw [hfirst]
    split <;> simp_all

theorem linkOutcome_keyed {first : Placeholder} {rest : List Placeholder}
    (hf : placeholders segments = first :: rest) (hm : InMode (placeholders segments) .keyed)
    (hs : OneSource args named) : LinkOutcome segments args named := by
  have hfirst : first.mode = .keyed := hm.2 first (by simp [hf])
  have hlink := link_of_inMode hf hm hs (.inr rfl)
  rcases checkArguments_keyed (placeholders segments).length hfirst (offered args named) with
    ⟨typeName, entries, ho, hcheck⟩ | ⟨hshape, hcheck⟩
  · rw [hcheck, ho] at hlink
    have hfound : ∀ p ∈ placeholders segments, ∀ index v,
        Addresses [.mapping typeName entries] index p v →
          ∃ v, (Value.mapping typeName entries).resolve p.address p.site = .ok v :=
      fun p hp _ v hv => ⟨v, hv.resolve_eq (hm.2 p hp)⟩
    rcases bindFrom_ok_or_first_error hfound with
      ⟨bound, hbind, hall⟩ | ⟨before, p, after, f, hbind, hsplit, hbefore, hp⟩
    · exact .inl ⟨bound, hlink.trans hbind, .of_keyed hm hs ho hall, ho ▸ hbind⟩
    · have hmode : p.mode = .keyed := hm.2 p (by simp [hsplit])
      have hresolve : (Value.mapping typeName entries).resolve p.address p.site = .error f := by
        simpa [argumentOf, hmode] using hp
      obtain rfl := Value.resolve_error hresolve
      exact .inr ⟨_, hlink.trans hbind, .pathNotFound hm hs ho hsplit hbefore
        (by simp [hresolve])⟩
  · rw [hcheck] at hlink
    exact .inr ⟨_, hlink, .notOneMapping hf hm hs hshape⟩

/-- Binding ends in one of the two ways. -/
theorem linkOutcome (segments : List Segment) (args : List Value)
    (named : List (Text × Value)) : LinkOutcome segments args named := by
  rcases commonMode_cases (placeholders segments) with
    ⟨mode?, hcommon, hmode⟩ | ⟨first, before, p, after, hsplit, hsame, hother, hcommon⟩
  · by_cases hs : OneSource args named
    · rcases hmode with hf | ⟨mode, hm⟩
      · exact linkOutcome_unaddressed hf hs
      · obtain ⟨first, rest, hf⟩ := List.exists_cons_of_ne_nil hm.1
        have hfirst : first.mode = mode := hm.2 first (by simp [hf])
        by_cases hk : named = [] ∨ mode = .keyed
        · cases mode with
          | anonymous => exact linkOutcome_anonymous hf hm (hk.resolve_right (by simp))
          | positional => exact linkOutcome_positional hf hm (hk.resolve_right (by simp))
          | keyed => exact linkOutcome_keyed hf hm hs
        · obtain ⟨hn, hk⟩ := not_or.mp hk
          have hsupplied := suppliedArguments_of_not_keyed hs hn (hfirst ▸ hk)
          refine .inr ⟨_, ?_, .namedNeedKeys hf hm hk hs hn⟩
          simp [link, hf ▸ hcommon, hf, hsupplied, bind, Except.bind]
    · have hsupplied := suppliedArguments_of_not_oneSource (placeholders segments).head? hs
      exact .inr ⟨_, by simp [link, hcommon, hsupplied, bind, Except.bind],
        .mixedArguments hmode hs⟩
  · exact .inr ⟨_, by simp [link, hcommon, bind, Except.bind],
      .mixedModes hsplit hsame hother⟩

end Modes

/-! ## Faults -/

/-- Numbers are compared only for placeholders without addresses and arguments without names. -/
theorem InMode.not_unpaired {fields : List Placeholder} {args : List Value}
    {named : List (Text × Value)} {mode : AddressMode} (h : InMode fields mode)
    (hother : mode ≠ .anonymous ∨ named ≠ []) : ¬ Unpaired fields args named := by
  intro hu
  rcases hu.2 with ⟨hnil, -⟩ | ⟨hm, hn, -⟩
  · exact h.1 hnil
  · rcases hother with hmode | hnamed
    · exact hmode (h.unique hm)
    · exact hnamed hn

namespace Rejects

variable {fields : List Placeholder} {args : List Value} {named : List (Text × Value)} {f : Fault}

/-- A fault is one of the number of arguments, and then it tells the true numbers, or else it is one
of the addresses. -/
theorem kind_cases (h : Rejects fields args named f) :
    Unpaired fields args named ∧
        f.cause.counts? = some (fields.length, (offered args named).length) ∧
        f.kind = (if (offered args named).length < fields.length then .missingArguments
          else .extraArguments) ∨
      ¬ Unpaired fields args named ∧ f.kind = .address := by
  cases h with
  | @mixedModes first before p after split same other =>
    refine .inr ⟨?_, rfl⟩
    intro hu
    rcases hu.2 with ⟨hnil, -⟩ | ⟨hm, -⟩
    · simp [split] at hnil
    · have hfirst := hm.2 first (by simp [split])
      exact other ((hm.2 p (by simp [split])).trans hfirst.symm)
  | mixedArguments mode both => exact .inr ⟨fun hu => both hu.1, rfl⟩
  | namedNeedKeys split inMode notKeyed source given =>
    exact .inr ⟨inMode.not_unpaired (.inr given), rfl⟩
  | noPlaceholders split source given =>
    exact .inl ⟨⟨source, .inl ⟨split, given⟩⟩, by simp [Fault.ofCause, Cause.counts?, split],
      by simp [Fault.ofCause, Fault.kind, Cause.kind, split]⟩
  | notOneMapping split inMode source shape =>
    exact .inr ⟨inMode.not_unpaired (.inl (by decide)), rfl⟩
  | countMismatch inMode source counts =>
    exact .inl ⟨⟨.inr source, .inr ⟨inMode, source, counts⟩⟩, rfl, rfl⟩
  | indexOutOfRange inMode source split within beyond =>
    exact .inr ⟨inMode.not_unpaired (.inl (by decide)), rfl⟩
  | pathNotFound inMode source shape split found lost =>
    exact .inr ⟨inMode.not_unpaired (.inl (by decide)), rfl⟩

end Rejects

/-- A call that is accepted suits the template, and its placeholders get what they address. -/
theorem link_ok {segments : List Segment} {args : List Value} {named : List (Text × Value)}
    {bound : List BoundSegment} (h : link segments args named = .ok bound) :
    bound.map BoundSegment.segment = segments ∧
      ∀ i p v, (bindings bound)[i]? = some (p, v) → Addresses (offered args named) i p v := by
  rcases linkOutcome segments args named with ⟨bound', hlink, -, hbind⟩ | ⟨f, hlink, -⟩
  · obtain rfl : bound = bound' := Except.ok.inj (h.symm.trans hlink)
    simpa using bindFrom_ok hbind
  · cases h.symm.trans hlink

/-- **Binding is exact.** It accepts the calls that suit the template and no others. It then keeps
the segments and gives every placeholder what it addresses. For any other call it finds a fault that
the call has, with the first placeholder to blame; it is one of the number of arguments just when
nothing but that number is wrong, and tells the true numbers. -/
theorem link_exact (segments : List Segment) (args : List Value) (named : List (Text × Value)) :
    ((∃ bound, link segments args named = .ok bound) ↔
        WellAddressed (placeholders segments) args named) ∧
      (∀ bound, link segments args named = .ok bound →
        bound.map BoundSegment.segment = segments ∧
          ∀ i p v, (bindings bound)[i]? = some (p, v) →
            Addresses (offered args named) i p v) ∧
      ∀ f, link segments args named = .error f →
        Rejects (placeholders segments) args named f ∧
          ((f.kind = .missingArguments ∨ f.kind = .extraArguments) ↔
            Unpaired (placeholders segments) args named) ∧
          (Unpaired (placeholders segments) args named →
            f.cause.counts? =
                some ((placeholders segments).length, (offered args named).length) ∧
              (f.kind = .missingArguments ↔
                (offered args named).length < (placeholders segments).length)) ∧
          (¬ Unpaired (placeholders segments) args named → f.kind = .address) := by
  rcases linkOutcome segments args named with ⟨bound, hlink, hw, -⟩ | ⟨f, hlink, hf⟩
  · exact ⟨⟨fun _ => hw, fun _ => ⟨bound, hlink⟩⟩, fun _ => link_ok, by simp [hlink]⟩
  · refine ⟨⟨by simp [hlink], fun hw => absurd hw hf.not_wellAddressed⟩, fun _ => link_ok, ?_⟩
    intro g h
    obtain rfl : f = g := Except.error.inj (hlink.symm.trans h)
    rcases hf.kind_cases with ⟨hu, hcounts, hkind⟩ | ⟨hu, hkind⟩
    · refine ⟨hf, ⟨fun _ => hu, fun _ => ?_⟩, fun _ => ⟨hcounts, ?_⟩, fun h => absurd hu h⟩
      · rw [hkind]
        split <;> simp
      · rw [hkind]
        split <;> simp_all
    · exact ⟨hf, ⟨fun h => by simp [hkind] at h, fun h => absurd h hu⟩, fun h => absurd h hu,
        fun _ => hkind⟩

/-- Two placeholders without an address, and one argument. -/
theorem link_exact_of_missing_argument :
    ∃ f, link [.field ⟨"", none, ⟨1, 1⟩⟩, .field ⟨"", none, ⟨1, 3⟩⟩] [.null] [] = .error f ∧
      f.kind = .missingArguments ∧ f.cause.counts? = some (2, 1) := by
  obtain ⟨-, -, hfault⟩ :=
    link_exact [.field ⟨"", none, ⟨1, 1⟩⟩, .field ⟨"", none, ⟨1, 3⟩⟩] [.null] []
  have hmode : InMode (placeholders [.field ⟨"", none, ⟨1, 1⟩⟩, .field ⟨"", none, ⟨1, 3⟩⟩])
      .anonymous := by
    refine ⟨by simp, ?_⟩
    intro p hp
    simp only [placeholders_field, placeholders_nil, List.mem_cons, List.not_mem_nil,
      or_false] at hp
    rcases hp with rfl | rfl <;> rfl
  have hunpaired : Unpaired (placeholders [.field ⟨"", none, ⟨1, 1⟩⟩, .field ⟨"", none, ⟨1, 3⟩⟩])
      [.null] [] := ⟨.inr rfl, .inr ⟨hmode, rfl, by simp [offered]⟩⟩
  obtain ⟨hcounts, hmissing⟩ := (hfault _ rfl).2.2.1 hunpaired
  exact ⟨_, rfl, hmissing.mpr (by simp [offered]), hcounts⟩

end BraceTemplate
