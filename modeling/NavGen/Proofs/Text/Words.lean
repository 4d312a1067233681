import Mathlib.Data.List.Basic
import NavGen.Text.Words

/-!
# Converted names

Converting a name to another convention drops separators and changes the case of letters, and does nothing else. Within ASCII, where the full
case mappings are those of the letters `A` to `Z` and characters do not join, this says of each character of a converted name where it comes from.
Outside of it no letter becomes a dot, so that a converted name is a single segment if the name was.
-/

namespace NavGen.Text

/-! ## Characters of words -/

theorem flatten_clustersFrom (before : ClusterState) (current cs : List Char) :
    (clustersFrom before current cs).flatten = current ++ cs := by
  fun_induction clustersFrom before current cs with
  | case1 => simp
  | case2 before current c rest hjoins ih => simp [ih]
  | case3 before current c rest hjoins ih => simp [ih]

/-- The clusters of a text are the text, cut. -/
theorem flatten_clusters (cs : List Char) : (clusters cs).flatten = cs := by
  cases cs with
  | nil => rfl
  | cons c rest => rw [clusters, flatten_clustersFrom, List.singleton_append]

/-- The characters of a word come from what was read of it before and from clusters that are no separators. -/
theorem mem_of_mem_wordsFrom {current word : List Char} {clusters : List (List Char)} (h : word ∈ wordsFrom current clusters) {c : Char}
    (hc : c ∈ word) : c ∈ current ∨ ∃ cluster ∈ clusters, isWordSeparator cluster = false ∧ c ∈ cluster := by
  have hlater : ∀ (here : List Char) (rest : List (List Char)),
      (∃ cluster ∈ rest, isWordSeparator cluster = false ∧ c ∈ cluster) →
        ∃ cluster ∈ here :: rest, isWordSeparator cluster = false ∧ c ∈ cluster :=
    fun here rest ⟨cluster, hmem, hcluster⟩ => ⟨cluster, List.mem_cons_of_mem here hmem, hcluster⟩
  fun_induction wordsFrom current clusters with
  | case1 current =>
    rw [List.mem_singleton.1 h] at hc
    exact Or.inl hc
  | case2 current here rest hseparator ih =>
    rcases List.mem_cons.1 h with rfl | h
    · exact Or.inl hc
    · rcases ih h with hnil | hrest
      · contradiction
      · exact Or.inr (hlater here rest hrest)
  | case3 current here rest hseparator hends ih =>
    have hhere : isWordSeparator here = false := Bool.eq_false_iff.2 hseparator
    rcases List.mem_cons.1 h with rfl | h
    · rcases List.mem_append.1 hc with hc | hc
      · exact Or.inl hc
      · exact Or.inr ⟨here, List.mem_cons_self, hhere, hc⟩
    · rcases ih h with hnil | hrest
      · contradiction
      · exact Or.inr (hlater here rest hrest)
  | case4 current here rest hseparator hends ih =>
    have hhere : isWordSeparator here = false := Bool.eq_false_iff.2 hseparator
    rcases ih h with hcurrent | hrest
    · rcases List.mem_append.1 hcurrent with hc | hc
      · exact Or.inl hc
      · exact Or.inr ⟨here, List.mem_cons_self, hhere, hc⟩
    · exact Or.inr (hlater here rest hrest)

/-- The characters of the words of a name come from clusters of the name that are no separators. -/
theorem exists_cluster_of_mem_words {cs word : List Char} (h : word ∈ words cs) {c : Char} (hc : c ∈ word) :
    ∃ cluster ∈ clusters cs, isWordSeparator cluster = false ∧ c ∈ cluster := by
  unfold words at h
  split at h
  · contradiction
  · rename_i first rest hclusters
    rw [hclusters]
    rcases mem_of_mem_wordsFrom h hc with hnil | hcluster
    · contradiction
    · exact hcluster

/-- The characters of the words of a name are characters of the name. -/
theorem subset_of_mem_words {cs word : List Char} (h : word ∈ words cs) : word ⊆ cs := by
  intro c hc
  obtain ⟨cluster, hcluster, -, hmem⟩ := exists_cluster_of_mem_words h hc
  rw [← flatten_clusters cs]
  exact List.mem_flatten.2 ⟨cluster, hcluster, hmem⟩

/-- Whether a character is a cluster by itself when it stands beside others like it. -/
structure IsSimpleChar (c : Char) : Prop where
  other : breakClass c = .other
  notConsonant : isConjunctConsonant c = false
  notPicture : isPictographic c = false

theorem joins_eq_false {before : ClusterState} (h : before.last = .other) {c : Char} (hc : IsSimpleChar c) : before.joins c = false := by
  simp [ClusterState.joins, h, hc.other, hc.notConsonant, hc.notPicture]

theorem clustersFrom_of_simple {before : ClusterState} (h : before.last = .other) (current : List Char) {cs : List Char}
    (hcs : ∀ c ∈ cs, IsSimpleChar c) : clustersFrom before current cs = current :: cs.map fun c => [c] := by
  induction cs generalizing before current with
  | nil => rfl
  | cons c rest ih =>
    rw [List.forall_mem_cons] at hcs
    rw [clustersFrom, joins_eq_false h hcs.1, if_neg Bool.false_ne_true, ih hcs.1.other _ hcs.2, List.map_cons]

/-- A text of such characters is cut into its characters. -/
theorem clusters_of_simple {cs : List Char} (hcs : ∀ c ∈ cs, IsSimpleChar c) : clusters cs = cs.map fun c => [c] := by
  cases cs with
  | nil => rfl
  | cons c rest =>
    rw [List.forall_mem_cons] at hcs
    rw [clusters, clustersFrom_of_simple hcs.1.other _ hcs.2, List.map_cons]

/-- So its words hold characters of it that are no separators. -/
theorem mem_of_mem_words_of_simple {cs word : List Char} (hcs : ∀ c ∈ cs, IsSimpleChar c) (h : word ∈ words cs) {c : Char} (hc : c ∈ word) :
    c ∈ cs ∧ isWordSeparator [c] = false := by
  obtain ⟨cluster, hcluster, hseparator, hmem⟩ := exists_cluster_of_mem_words h hc
  rw [clusters_of_simple hcs] at hcluster
  obtain ⟨other, hother, rfl⟩ := List.mem_map.1 hcluster
  obtain rfl := List.mem_singleton.1 hmem
  exact ⟨hother, hseparator⟩

/-! ## Case mappings within ASCII -/

/-- What holds of the ASCII characters by their codes holds of each of them. -/
theorem of_forall_lt {P : Char → Prop} (hall : ∀ code < 128, P (Char.ofNat code)) {c : Char} (h : c.toNat < 128) : P c := by
  rw [← Char.ofNat_toNat c]
  exact hall c.toNat h

theorem upperChar_of_lt {c : Char} (h : c.toNat < 128) : upperChar c = [c.toUpper] := by
  have hall : ∀ code < 128, upperChar (Char.ofNat code) = [(Char.ofNat code).toUpper] := by decide +kernel
  exact of_forall_lt (P := fun c => upperChar c = [c.toUpper]) hall h

theorem lowerChar_of_lt {c : Char} (h : c.toNat < 128) : lowerChar c = [c.toLower] := by
  have hall : ∀ code < 128, lowerChar (Char.ofNat code) = [(Char.ofNat code).toLower] := by decide +kernel
  exact of_forall_lt (P := fun c => lowerChar c = [c.toLower]) hall h

theorem lowerAfter_of_lt (before : List Char) {cs : List Char} (h : ∀ c ∈ cs, c.toNat < 128) :
    lowerAfter before cs = cs.map Char.toLower := by
  induction cs generalizing before with
  | nil => rfl
  | cons c rest ih =>
    rw [List.forall_mem_cons] at h
    have hsigma : c ≠ 'Σ' := by
      rintro rfl
      exact absurd h.1 (by decide)
    rw [lowerAfter, if_neg hsigma, lowerChar_of_lt h.1, ih _ h.2, List.map_cons, List.singleton_append]

/-- A word of ASCII characters is capitalized letter by letter. -/
theorem capitalize_of_lt {c : Char} {rest : List Char} (h : ∀ other ∈ c :: rest, other.toNat < 128) :
    capitalize (c :: rest) = c.toUpper :: rest.map Char.toLower := by
  rw [List.forall_mem_cons] at h
  rw [capitalize, upperChar_of_lt h.1, lower, lowerAfter_of_lt [] h.2, List.singleton_append]

/-- Each character of an ASCII name in capitalized words is one of a word, in upper or lower case. -/
theorem mem_pascal_of_lt {s : String} (h : ∀ c ∈ s.toList, c.toNat < 128) {d : Char} (hd : d ∈ (pascal s).toList) :
    ∃ word ∈ words s.toList, ∃ c ∈ word, d = c.toUpper ∨ d = c.toLower := by
  rw [pascal, String.toList_ofList, List.mem_flatMap] at hd
  obtain ⟨word, hword, hd⟩ := hd
  refine ⟨word, hword, ?_⟩
  have hsubset := subset_of_mem_words hword
  cases word with
  | nil => simp [capitalize] at hd
  | cons first rest =>
    rw [capitalize_of_lt fun c hc => h c (hsubset hc)] at hd
    rcases List.mem_cons.1 hd with rfl | hd
    · exact ⟨first, List.mem_cons_self, Or.inl rfl⟩
    · obtain ⟨c, hc, rfl⟩ := List.mem_map.1 hd
      exact ⟨c, List.mem_cons_of_mem first hc, Or.inr rfl⟩

/-! ## Dots -/

/-- Whether a run of letters maps none of them to a dot. -/
def AvoidsDot (run : CaseRun) : Prop :=
  '.'.toNat < run.first + run.shift ∨ run.last + run.shift < '.'.toNat

instance (run : CaseRun) : Decidable (AvoidsDot run) :=
  inferInstanceAs (Decidable (_ ∨ _))

theorem exists_run_of_mapByRuns {runs : List CaseRun} {code mapped : Nat} (h : mapByRuns runs code = some mapped) :
    ∃ run ∈ runs, run.first ≤ code ∧ code ≤ run.last ∧ mapped = (code + run.shift).toNat := by
  induction runs with
  | nil => contradiction
  | cons run rest ih =>
    rw [mapByRuns] at h
    split at h
    · contradiction
    · split at h
      · rename_i hfirst hlast
        simp only [Bool.and_eq_true, decide_eq_true_eq] at hlast
        exact ⟨run, List.mem_cons_self, Nat.le_of_not_lt hfirst, hlast.1, (Option.some.inj h).symm⟩
      · obtain ⟨other, hother, hmapped⟩ := ih h
        exact ⟨other, List.mem_cons_of_mem run hother, hmapped⟩

theorem mem_of_sortedEntry {special : List (Nat × List Nat)} {code : Nat} {codes : List Nat} (h : sortedEntry special code = some codes) :
    (code, codes) ∈ special := by
  induction special with
  | nil => contradiction
  | cons entry rest ih =>
    rw [sortedEntry] at h
    split at h
    · contradiction
    · split at h
      · rename_i hcode
        obtain rfl := Option.some.inj h
        rw [hcode]
        exact List.mem_cons_self
      · exact List.mem_cons_of_mem entry (ih h)

theorem eq_of_ofNat_eq_dot {code : Nat} (h : Char.ofNat code = '.') : code = '.'.toNat := by
  by_cases hvalid : code.isValidChar
  · rw [← h, Char.ofNat, dif_pos hvalid]
    rfl
  · rw [Char.ofNat, dif_neg hvalid] at h
    contradiction

/-- A mapping whose entries avoid the dot gives a dot for the dot alone. -/
theorem eq_dot_of_mem_mapLetter {runs : List CaseRun} (hruns : ∀ run ∈ runs, AvoidsDot run) {special : List (Nat × List Nat)}
    (hspecial : ∀ entry ∈ special, '.' ∉ entry.2.map Char.ofNat) {c : Char} (h : '.' ∈ mapLetter runs special c) : c = '.' := by
  unfold mapLetter at h
  split at h
  · rename_i mapped hmapped
    obtain ⟨run, hrun, hfirst, hlast, hshift⟩ := exists_run_of_mapByRuns hmapped
    have hdot := eq_of_ofNat_eq_dot (List.mem_singleton.1 h).symm
    have hpositive : 0 < '.'.toNat := by decide
    rcases hruns run hrun with habove | hbelow <;> omega
  · split at h
    · rename_i codes hcodes
      exact absurd h (hspecial _ (mem_of_sortedEntry hcodes))
    · exact (List.mem_singleton.1 h).symm

theorem eq_dot_of_mem_upperChar {c : Char} (h : '.' ∈ upperChar c) : c = '.' :=
  eq_dot_of_mem_mapLetter (by decide +kernel) (by decide +kernel) h

theorem eq_dot_of_mem_lowerChar {c : Char} (h : '.' ∈ lowerChar c) : c = '.' :=
  eq_dot_of_mem_mapLetter (by decide +kernel) (by decide +kernel) h

theorem dot_mem_of_mem_lowerAfter {before cs : List Char} (h : '.' ∈ lowerAfter before cs) : '.' ∈ cs := by
  induction cs generalizing before with
  | nil => contradiction
  | cons c rest ih =>
    rw [lowerAfter, List.mem_append] at h
    rcases h with hhere | hrest
    · split at hhere
      · split at hhere <;> simp at hhere
      · rw [eq_dot_of_mem_lowerChar hhere]
        exact List.mem_cons_self
    · exact List.mem_cons_of_mem c (ih hrest)

theorem dot_mem_of_mem_capitalize {word : List Char} (h : '.' ∈ capitalize word) : '.' ∈ word := by
  cases word with
  | nil => contradiction
  | cons c rest =>
    rw [capitalize, List.mem_append] at h
    rcases h with hfirst | hrest
    · rw [eq_dot_of_mem_upperChar hfirst]
      exact List.mem_cons_self
    · exact List.mem_cons_of_mem c (dot_mem_of_mem_lowerAfter hrest)

/-- A name without dots has none in camel case, whatever letters it is made of. -/
theorem dot_not_mem_camel {s : String} (h : '.' ∉ s.toList) : '.' ∉ (camel s).toList := by
  intro hdot
  unfold camel at hdot
  split at hdot
  · contradiction
  · rename_i first rest hwords
    have hsubset : ∀ word ∈ first :: rest, word ⊆ s.toList := fun word hword => subset_of_mem_words (hwords ▸ hword)
    rw [String.toList_ofList, List.mem_append, List.mem_flatMap] at hdot
    rcases hdot with hfirst | ⟨word, hword, hrest⟩
    · exact h (hsubset first List.mem_cons_self (dot_mem_of_mem_lowerAfter hfirst))
    · exact h (hsubset word (List.mem_cons_of_mem first hword) (dot_mem_of_mem_capitalize hrest))

end NavGen.Text
