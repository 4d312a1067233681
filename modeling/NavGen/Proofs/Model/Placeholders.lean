import NavGen.Destination
import NavGen.Proofs.Text.Occurrences

/-!
# Braces of a pattern

The placeholders of a pattern are read from left to right, and all that the reader knows of what it has passed is what it has read of the pair of
braces that is open, if one is. What it reads can be said without it: a placeholder stands between an opening brace, before which no other is left
without a closing one, and the next closing brace. The placeholders of a text in which parts are replaced depend on where the parts stand. Outside braces a
replacement only adds its own placeholders to those of the text. Inside a pair it becomes part of what is read there, up to its first closing brace.
-/

namespace NavGen

/-- Whether a text has no braces. -/
def Text.Unbraced (cs : List Char) : Prop :=
  ∀ c ∈ cs, c ≠ '\x7b' ∧ c ≠ '\x7d'

instance (cs : List Char) : Decidable (Text.Unbraced cs) :=
  List.decidableBAll (fun c => c ≠ '\x7b' ∧ c ≠ '\x7d') cs

/-- Whether each opening brace of a text has a closing one behind it. -/
def Text.ClosesBraces (cs : List Char) : Prop :=
  ∀ before after, cs = before ++ '\x7b' :: after → '\x7d' ∈ after

namespace DeepLink

/-! ## Scanning for braces -/

/-- The pair that is open after one more character, if one is, by what was read of it, last character first. -/
def advance : Option (List Char) → Char → Option (List Char)
  | none, c => if c = '\x7b' then some [] else none
  | some read, c => if c = '\x7d' then none else some (c :: read)

/-- What one more character closes: the text of the open pair, or nothing. -/
def closedBy : Option (List Char) → Char → List (List Char)
  | none, _ => []
  | some read, c => if c = '\x7d' then [read.reverse] else []

/-- The pair that is open after a text. -/
def openAfter (read : Option (List Char)) (cs : List Char) : Option (List Char) :=
  cs.foldl advance read

theorem bracedFrom_nil (read : Option (List Char)) : bracedFrom read [] = [] := by
  cases read <;> rfl

theorem bracedFrom_cons (read : Option (List Char)) (c : Char) (rest : List Char) :
    bracedFrom read (c :: rest) = closedBy read c ++ bracedFrom (advance read c) rest := by
  cases read with
  | none => rfl
  | some read =>
    rw [bracedFrom, closedBy, advance]
    split <;> rfl

theorem openAfter_cons (read : Option (List Char)) (c : Char) (rest : List Char) :
    openAfter read (c :: rest) = openAfter (advance read c) rest :=
  rfl

theorem openAfter_append (read : Option (List Char)) (first second : List Char) :
    openAfter read (first ++ second) = openAfter (openAfter read first) second :=
  List.foldl_append

theorem openAfter_concat (read : Option (List Char)) (cs : List Char) (c : Char) :
    openAfter read (cs ++ [c]) = advance (openAfter read cs) c :=
  openAfter_append read cs [c]

/-- The scan of a second text goes on with the pair that the first leaves open. -/
theorem bracedFrom_append (read : Option (List Char)) (first second : List Char) :
    bracedFrom read (first ++ second) = bracedFrom read first ++ bracedFrom (openAfter read first) second := by
  induction first generalizing read with
  | nil => rw [bracedFrom_nil, List.nil_append, List.nil_append, openAfter, List.foldl_nil]
  | cons c rest ih =>
    rw [List.cons_append, bracedFrom_cons, ih, bracedFrom_cons, List.append_assoc]
    rfl

/-- A text that closes nothing is read into the open pair. -/
theorem openAfter_some_of_not_mem {cs : List Char} (h : '\x7d' ∉ cs) (read : List Char) : openAfter (some read) cs = some (cs.reverse ++ read) := by
  induction cs generalizing read with
  | nil => rfl
  | cons c rest ih =>
    obtain ⟨hc, hrest⟩ := List.ne_and_not_mem_of_not_mem_cons h
    have hadvance : advance (some read) c = some (c :: read) := if_neg (Ne.symm hc)
    rw [openAfter_cons, hadvance, ih hrest, List.reverse_cons, List.append_assoc, List.singleton_append]

theorem bracedFrom_of_not_mem {cs : List Char} (h : '\x7d' ∉ cs) (read : Option (List Char)) : bracedFrom read cs = [] := by
  induction cs generalizing read with
  | nil => exact bracedFrom_nil read
  | cons c rest ih =>
    obtain ⟨hc, hrest⟩ := List.ne_and_not_mem_of_not_mem_cons h
    have hclosed : closedBy read c = [] := by
      cases read with
      | none => rfl
      | some read => exact if_neg (Ne.symm hc)
    rw [bracedFrom_cons, hclosed, ih hrest, List.nil_append]

/-- The first closing brace ends what is read. -/
theorem bracedFrom_some_append {cs : List Char} (h : '\x7d' ∉ cs) (read rest : List Char) :
    bracedFrom (some read) (cs ++ '\x7d' :: rest) = (read.reverse ++ cs) :: bracedFrom none rest := by
  rw [bracedFrom_append, bracedFrom_of_not_mem h, openAfter_some_of_not_mem h, List.nil_append, bracedFrom_cons, closedBy, if_pos rfl,
    List.reverse_append, List.reverse_reverse]
  rfl

/-- No pair is open after a closing brace. -/
theorem openAfter_closed (read : Option (List Char)) (cs : List Char) : openAfter read (cs ++ ['\x7d']) = none := by
  rw [openAfter_concat]
  cases openAfter read cs <;> rfl

/-- Outside braces only an opening brace is more than passed over. -/
theorem advance_none_of_ne {c : Char} (h : c ≠ '\x7b') : advance none c = none :=
  if_neg h

theorem openAfter_none_of_not_mem {cs : List Char} (h : '\x7b' ∉ cs) : openAfter none cs = none := by
  induction cs with
  | nil => rfl
  | cons c rest ih =>
    obtain ⟨hc, hrest⟩ := List.ne_and_not_mem_of_not_mem_cons h
    rw [openAfter_cons, advance_none_of_ne (Ne.symm hc), ih hrest]

theorem bracedFrom_none_of_not_mem {cs : List Char} (h : '\x7b' ∉ cs) : bracedFrom none cs = [] := by
  induction cs with
  | nil => rfl
  | cons c rest ih =>
    obtain ⟨hc, hrest⟩ := List.ne_and_not_mem_of_not_mem_cons h
    rw [bracedFrom_cons, advance_none_of_ne (Ne.symm hc), ih hrest, closedBy, List.append_nil]

/-- A text without braces opens nothing. -/
theorem openAfter_none_of_unbraced {cs : List Char} (h : Text.Unbraced cs) : openAfter none cs = none :=
  openAfter_none_of_not_mem fun hmem => (h _ hmem).1 rfl

theorem not_mem_of_unbraced {cs : List Char} (h : Text.Unbraced cs) : '\x7d' ∉ cs :=
  fun hmem => (h _ hmem).2 rfl

/-- A text without opening braces, be there closing ones, is passed over. -/
theorem bracedFrom_none_append {cs : List Char} (h : '\x7b' ∉ cs) (rest : List Char) :
    bracedFrom none (cs ++ rest) = bracedFrom none rest := by
  rw [bracedFrom_append, bracedFrom_none_of_not_mem h, openAfter_none_of_not_mem h, List.nil_append]

/-- A pair of braces gives what stands in it. -/
theorem bracedFrom_none_pair {inside : List Char} (h : '\x7d' ∉ inside) (rest : List Char) :
    bracedFrom none ('\x7b' :: (inside ++ '\x7d' :: rest)) = inside :: bracedFrom none rest := by
  have hopened : advance none '\x7b' = some [] := rfl
  rw [bracedFrom_cons, hopened, closedBy, List.nil_append, bracedFrom_some_append h, List.reverse_nil, List.nil_append]

/-! ## What stands between braces -/

/-- The pair that is open after a text is the last that was opened, and what was read of it is all that stands behind its brace. -/
theorem exists_of_openAfter_eq_some {cs read : List Char} (h : openAfter none cs = some read) :
    ∃ before, cs = before ++ '\x7b' :: read.reverse ∧ openAfter none before = none ∧ '\x7d' ∉ read := by
  induction cs using List.reverseRecOn generalizing read with
  | nil => contradiction
  | append_singleton cs c ih =>
    rw [openAfter_concat] at h
    cases hopen : openAfter none cs with
    | none =>
      rw [hopen, advance, Option.ite_none_right_eq_some] at h
      obtain ⟨rfl, hread⟩ := h
      obtain rfl := Option.some.inj hread
      exact ⟨cs, rfl, hopen, List.not_mem_nil⟩
    | some own =>
      rw [hopen, advance, Option.ite_none_left_eq_some] at h
      obtain ⟨hc, hread⟩ := h
      obtain rfl := Option.some.inj hread
      obtain ⟨before, rfl, hbefore, hown⟩ := ih hopen
      refine ⟨before, ?_, hbefore, List.not_mem_cons_of_ne_of_not_mem (Ne.symm hc) hown⟩
      rw [List.append_assoc, List.cons_append, List.reverse_cons]

/-- No pair is open after a text exactly if each opening brace has a closing one behind it. -/
theorem openAfter_none_eq_none_iff {cs : List Char} : openAfter none cs = none ↔ Text.ClosesBraces cs := by
  constructor
  · rintro h before after rfl
    by_contra hclosed
    have hopened : ∃ read, advance (openAfter none before) '\x7b' = some read := by
      cases openAfter none before with
      | none => exact ⟨[], rfl⟩
      | some own => exact ⟨_, rfl⟩
    obtain ⟨read, hread⟩ := hopened
    rw [openAfter_append, openAfter_cons, hread, openAfter_some_of_not_mem hclosed] at h
    contradiction
  · intro h
    cases hopen : openAfter none cs with
    | none => rfl
    | some read =>
      obtain ⟨before, hcs, -, hread⟩ := exists_of_openAfter_eq_some hopen
      exact absurd (List.mem_reverse.1 (h before _ hcs)) hread

/-- What stands between braces is what an opening brace has behind it up to the next closing one, if no pair is open before. -/
theorem mem_bracedFrom_none_iff {braced cs : List Char} :
    braced ∈ bracedFrom none cs ↔
      ∃ before after, cs = before ++ '\x7b' :: (braced ++ '\x7d' :: after) ∧ Text.ClosesBraces before ∧ '\x7d' ∉ braced := by
  constructor
  · intro h
    induction cs using List.reverseRecOn with
    | nil => contradiction
    | append_singleton cs c ih =>
      rw [bracedFrom_append, bracedFrom_cons, bracedFrom_nil, List.append_nil] at h
      rcases List.mem_append.1 h with h | h
      · obtain ⟨before, after, rfl, hbefore, hbraced⟩ := ih h
        exact ⟨before, after ++ [c], by simp, hbefore, hbraced⟩
      · cases hopen : openAfter none cs with
        | none =>
          rw [hopen] at h
          contradiction
        | some read =>
          obtain ⟨before, rfl, hbefore, hread⟩ := exists_of_openAfter_eq_some hopen
          rw [hopen, closedBy] at h
          split at h
          · rename_i hc
            obtain rfl := List.mem_singleton.1 h
            exact ⟨before, [], by simp [hc], openAfter_none_eq_none_iff.1 hbefore, mt List.mem_reverse.1 hread⟩
          · contradiction
  · rintro ⟨before, after, rfl, hbefore, hbraced⟩
    rw [bracedFrom_append, openAfter_none_eq_none_iff.2 hbefore, bracedFrom_none_pair hbraced]
    exact List.mem_append_right _ List.mem_cons_self

/-- The placeholders of a pattern are the texts between braces, without the blanks around them, that are not empty. -/
theorem mem_placeholders_iff {link : DeepLink} {name : String} :
    name ∈ link.placeholders ↔ name ≠ "" ∧ ∃ before braced after,
      link.uriPattern = before ++ "\x7b" ++ braced ++ "\x7d" ++ after ∧ Text.ClosesBraces before.toList ∧ '\x7d' ∉ braced.toList ∧
        Text.trim braced = name := by
  simp only [placeholders, List.mem_map, List.mem_filter, Bool.not_eq_true', List.isEmpty_eq_false_iff, mem_bracedFrom_none_iff]
  constructor
  · rintro ⟨_, ⟨⟨braced, ⟨before, after, hpattern, hbefore, hbraced⟩, rfl⟩, hne⟩, rfl⟩
    refine ⟨by simpa using hne, String.ofList before, String.ofList braced, String.ofList after, ?_, ?_, ?_, ?_⟩
    · rw [← String.toList_inj, hpattern]
      simp
    · rwa [String.toList_ofList]
    · rwa [String.toList_ofList]
    · rw [Text.trim, String.toList_ofList]
  · rintro ⟨hne, before, braced, after, hpattern, hbefore, hbraced, rfl⟩
    refine ⟨_, ⟨⟨braced.toList, ⟨before.toList, after.toList, ?_, hbefore, hbraced⟩, rfl⟩, ?_⟩, rfl⟩
    · rw [hpattern]
      simp
    · simpa [Text.trim] using hne

end DeepLink

/-! ## Replacing under the scan -/

section

open DeepLink

variable {part replacement : List Char}

/-- Whether no pair of braces is open where a text has a part, when the text is read after `read`. -/
def OutsideBraces (part : List Char) (read : Option (List Char)) (cs : List Char) : Prop :=
  ∀ before after, cs = before ++ part ++ after → openAfter read before = none

theorem OutsideBraces.of_cons {read : Option (List Char)} {c : Char} {rest : List Char} (h : OutsideBraces part read (c :: rest)) :
    OutsideBraces part (advance read c) rest :=
  fun before after hocc => h (c :: before) after (by rw [hocc]; rfl)

theorem OutsideBraces.of_append (hpart : Text.Unbraced part) {rest : List Char} (h : OutsideBraces part none (part ++ rest)) :
    OutsideBraces part none rest := by
  intro before after hocc
  have hopen := h (part ++ before) after (by rw [hocc]; simp only [List.append_assoc])
  rwa [openAfter_append, openAfter_none_of_unbraced hpart] at hopen

variable (hne : part ≠ []) (hpart : Text.Unbraced part)

include hne hpart

/-- What is replaced outside braces only adds what the replacement has between its own. -/
theorem mem_bracedFrom_replaceChars_iff (hopen : openAfter none replacement = none) {read : Option (List Char)} {cs : List Char}
    (houtside : OutsideBraces part read cs) (braced : List Char) :
    braced ∈ bracedFrom read (Text.replaceChars part replacement 0 cs) ↔
      braced ∈ bracedFrom read cs ∨ part <:+: cs ∧ braced ∈ bracedFrom none replacement := by
  induction cs using Text.occurrence_induction hne generalizing read with
  | nil =>
    have hnone : ¬part <:+: [] := fun h => hne (List.infix_nil.1 h)
    simp [Text.replaceChars, hnone]
  | occurrence rest ih =>
    obtain rfl : none = read := (houtside [] rest rfl).symm
    have hinfix : part <:+: part ++ rest := (List.prefix_append part rest).isInfix
    rw [Text.replaceChars_append hne, bracedFrom_append, bracedFrom_append, hopen, openAfter_none_of_unbraced hpart,
      bracedFrom_of_not_mem (not_mem_of_unbraced hpart), List.mem_append, List.nil_append, ih (houtside.of_append hpart)]
    tauto
  | char c rest hstart ih =>
    have hinfix : part <:+: c :: rest ↔ part <:+: rest := by
      rw [List.infix_cons_iff]
      exact or_iff_right hstart
    rw [Text.replaceChars_cons hstart, bracedFrom_cons, bracedFrom_cons, List.mem_append, List.mem_append, ih houtside.of_cons, hinfix, or_assoc]

/-- If a replacement closes whatever pair it is put into and opens one before, then a text in which it is put into a pair has an opening brace between
braces. -/
theorem exists_nested_of_not_outsideBraces (hopen : openAfter none replacement = none)
    (hnested : ∀ read, ∃ braced ∈ bracedFrom (some read) replacement, '\x7b' ∈ braced) {read : Option (List Char)} {cs : List Char}
    (hinside : ¬OutsideBraces part read cs) : ∃ braced ∈ bracedFrom read (Text.replaceChars part replacement 0 cs), '\x7b' ∈ braced := by
  induction cs using Text.occurrence_induction hne generalizing read with
  | nil =>
    refine absurd (fun before after hocc => ?_) hinside
    obtain ⟨-, hnil, -⟩ : before = [] ∧ part = [] ∧ after = [] := by simpa using hocc
    exact absurd hnil hne
  | occurrence rest ih =>
    rw [Text.replaceChars_append hne, bracedFrom_append]
    cases read with
    | some read =>
      obtain ⟨braced, hmem, hbrace⟩ := hnested read
      exact ⟨braced, List.mem_append_left _ hmem, hbrace⟩
    | none =>
      have hrest : ¬OutsideBraces part none rest := by
        refine fun houtside => hinside fun before after hocc => ?_
        rcases Text.prefix_or_exists_of_occurrence hocc with hstart | ⟨before', rfl, hocc'⟩
        · exact openAfter_none_of_unbraced fun c hc => hpart c (hstart.subset hc)
        · rw [openAfter_append, openAfter_none_of_unbraced hpart]
          exact houtside before' after hocc'
      obtain ⟨braced, hmem, hbrace⟩ := ih hrest
      rw [hopen]
      exact ⟨braced, List.mem_append_right _ hmem, hbrace⟩
  | char c rest hstart ih =>
    have hrest : ¬OutsideBraces part (advance read c) rest := by
      refine fun houtside => hinside fun before after hocc => ?_
      obtain ⟨before', rfl, hocc'⟩ := Text.exists_cons_of_occurrence hstart hocc
      exact houtside before' after hocc'
    obtain ⟨braced, hmem, hbrace⟩ := ih hrest
    rw [Text.replaceChars_cons hstart, bracedFrom_cons]
    exact ⟨braced, List.mem_append_right _ hmem, hbrace⟩

/-- If all texts between braces are blank, then none holds the part, and a replacement without braces changes none of them. `read'` is what is read of
the open pair with replacements. -/
theorem bracedFrom_replaceChars_subset (hblank : ∃ c ∈ part, Text.isBlankChar c = false) (hreplacement : Text.Unbraced replacement)
    {read read' : Option (List Char)} {cs : List Char}
    (hread : read' = read ∨ ∃ own own', read = some own ∧ read' = some own' ∧ ∃ c ∈ own, Text.isBlankChar c = false)
    (hall : ∀ braced ∈ bracedFrom read cs, ∀ c ∈ braced, Text.isBlankChar c = true) :
    bracedFrom read' (Text.replaceChars part replacement 0 cs) ⊆ bracedFrom read cs := by
  induction cs using Text.occurrence_induction hne generalizing read read' with
  | nil =>
    rw [Text.replaceChars, bracedFrom_nil]
    exact List.nil_subset _
  | occurrence rest ih =>
    have hpartClosed := not_mem_of_unbraced hpart
    have hreplacementClosed := not_mem_of_unbraced hreplacement
    rw [bracedFrom_append, bracedFrom_of_not_mem hpartClosed, List.nil_append] at hall ⊢
    rw [Text.replaceChars_append hne, bracedFrom_append, bracedFrom_of_not_mem hreplacementClosed, List.nil_append]
    refine ih ?_ hall
    obtain ⟨c, hc, hcBlank⟩ := hblank
    have hsome : ∀ own own' : List Char, ∃ next next', openAfter (some own) part = some next ∧
        openAfter (some own') replacement = some next' ∧ ∃ c ∈ next, Text.isBlankChar c = false := fun own own' =>
      ⟨_, _, openAfter_some_of_not_mem hpartClosed own, openAfter_some_of_not_mem hreplacementClosed own', c,
        List.mem_append_left _ (List.mem_reverse.2 hc), hcBlank⟩
    rcases hread with rfl | ⟨own, own', rfl, rfl, -⟩
    · cases read' with
      | none => exact Or.inl ((openAfter_none_of_unbraced hreplacement).trans (openAfter_none_of_unbraced hpart).symm)
      | some own => exact Or.inr (hsome own own)
    · exact Or.inr (hsome own own')
  | char c rest hstart ih =>
    rw [bracedFrom_cons] at hall ⊢
    rw [Text.replaceChars_cons hstart, bracedFrom_cons]
    have hrest : ∀ braced ∈ bracedFrom (advance read c) rest, ∀ c ∈ braced, Text.isBlankChar c = true :=
      fun braced hmem => hall braced (List.mem_append_right _ hmem)
    rcases hread with rfl | ⟨own, own', rfl, rfl, d, hd, hdBlank⟩
    · have htail := ih (Or.inl rfl) hrest
      exact List.append_subset.2 ⟨List.subset_append_left _ _, List.Subset.trans htail (List.subset_append_right _ _)⟩
    · have hopen : c ≠ '\x7d' := by
        rintro rfl
        have hclosed := hall own.reverse (List.mem_append_left _ List.mem_cons_self) d (List.mem_reverse.2 hd)
        rw [hdBlank] at hclosed
        contradiction
      have hadvance : ∀ read : List Char, advance (some read) c = some (c :: read) := fun read => if_neg hopen
      have hclosed : ∀ read : List Char, closedBy (some read) c = [] := fun read => if_neg hopen
      rw [hclosed, hclosed, hadvance, hadvance, List.nil_append, List.nil_append]
      rw [hadvance] at hrest
      exact ih (Or.inr ⟨_, _, rfl, rfl, d, List.mem_cons_of_mem c hd, hdBlank⟩) hrest

end

end NavGen
