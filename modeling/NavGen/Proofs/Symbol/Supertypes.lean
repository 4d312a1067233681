import NavGen.Proofs.FirstOfEach
import NavGen.Proofs.Symbol.Agreement

/-!
# Supertypes, nearest first

The search for the supertypes of a declaration has a queue that grows while it is worked off and may hold names that were met before. It is compared
with what it does not compute: the levels of inheritance, each with all types on it and their repeats, however often a name was met before. In
inheritance that runs in circles there is no last level. The search gives the first type of each name along the levels, and from this follow all that
is asked of it: the names are those that supertypes lead to, each once, the nearest first, each with the type that it is first met as.
-/

namespace NavGen

/-- What stands before something that is not in the second part of a list is in the first part. -/
theorem mem_of_pair_sublist_append {α : Type} {first second : α} {before behind : List α} (h : [first, second].Sublist (before ++ behind))
    (hsecond : second ∉ behind) : first ∈ before := by
  obtain ⟨front, back, heq, hfront, hback⟩ := List.sublist_append_iff.1 h
  cases front with
  | nil =>
    rw [List.nil_append] at heq
    exact absurd (hback.mem (heq ▸ List.mem_cons_of_mem _ List.mem_cons_self)) hsecond
  | cons other front =>
    rw [List.cons_append] at heq
    injection heq with hfirst
    exact hfirst ▸ hfront.mem List.mem_cons_self

namespace SymbolTable

/-- The direct supertypes of what a name stands for. -/
def supertypesNamed (table : SymbolTable) (qualified : String) : List TypeExpr :=
  ((table.find? qualified).map (·.supertypes)).getD []

/-- The types on a level of the inheritance of a declaration, in order and with repeats: its direct supertypes, then those of the names on the level
before. -/
def supertypeLevel (table : SymbolTable) (declaration : Declaration) : (level : Nat) → List TypeExpr
  | 0 => declaration.supertypes
  | level + 1 => (table.supertypeLevel declaration level).flatMap fun type => table.supertypesNamed type.qualified

/-- The types on the levels before one. -/
def supertypeLevels (table : SymbolTable) (declaration : Declaration) (level : Nat) : List TypeExpr :=
  (List.range level).flatMap (table.supertypeLevel declaration)

/-- Whether a number of supertype links leads from a declaration to a name. -/
inductive HasSupertype (table : SymbolTable) (declaration : Declaration) : (links : Nat) → String → Prop where
  | direct {type : TypeExpr} (mem : type ∈ declaration.supertypes) : HasSupertype table declaration 1 type.qualified
  | further {links : Nat} {name : String} {found : Declaration} {type : TypeExpr} (reached : HasSupertype table declaration links name)
      (stands : table.find? name = some found) (mem : type ∈ found.supertypes) :
      HasSupertype table declaration (links + 1) type.qualified

variable {table : SymbolTable} {declaration : Declaration}

/-! ## Levels -/

theorem mem_supertypesNamed {name : String} {type : TypeExpr} :
    type ∈ table.supertypesNamed name ↔ ∃ found, table.find? name = some found ∧ type ∈ found.supertypes := by
  rw [supertypesNamed]
  cases table.find? name <;> simp

theorem supertypeLevels_succ (table : SymbolTable) (declaration : Declaration) (level : Nat) :
    table.supertypeLevels declaration (level + 1) = table.supertypeLevels declaration level ++ table.supertypeLevel declaration level := by
  rw [supertypeLevels, List.range_succ, List.flatMap_append, List.flatMap_singleton, ← supertypeLevels]

theorem mem_supertypeLevels {level : Nat} {type : TypeExpr} :
    type ∈ table.supertypeLevels declaration level ↔ ∃ nearer < level, type ∈ table.supertypeLevel declaration nearer := by
  simp only [supertypeLevels, List.mem_flatMap, List.mem_range]

/-- A name is on a level if one link more leads to it. -/
theorem mem_names_supertypeLevel {level : Nat} {name : String} :
    name ∈ (table.supertypeLevel declaration level).map (·.qualified) ↔ table.HasSupertype declaration (level + 1) name := by
  induction level generalizing name with
  | zero =>
    rw [supertypeLevel, List.mem_map]
    constructor
    · rintro ⟨type, hmem, rfl⟩
      exact .direct hmem
    · intro h
      cases h with
      | direct mem => exact ⟨_, mem, rfl⟩
      | further reached => nomatch reached
  | succ level ih =>
    rw [supertypeLevel, List.mem_map]
    constructor
    · rintro ⟨type, hmem, rfl⟩
      obtain ⟨nearer, hnearer, htype⟩ := List.mem_flatMap.1 hmem
      obtain ⟨found, hfound, hsupertype⟩ := mem_supertypesNamed.1 htype
      exact .further (ih.1 (List.mem_map_of_mem hnearer)) hfound hsupertype
    · intro h
      cases h with
      | further reached stands mem =>
        obtain ⟨nearer, hnearer, rfl⟩ := List.mem_map.1 (ih.2 reached)
        exact ⟨_, List.mem_flatMap.2 ⟨nearer, hnearer, mem_supertypesNamed.2 ⟨_, stands, mem⟩⟩, rfl⟩

theorem mem_names_supertypeLevels {level : Nat} {name : String} :
    name ∈ (table.supertypeLevels declaration level).map (·.qualified) ↔ ∃ links ≤ level, table.HasSupertype declaration links name := by
  constructor
  · intro h
    obtain ⟨type, hmem, rfl⟩ := List.mem_map.1 h
    obtain ⟨nearer, hlt, htype⟩ := mem_supertypeLevels.1 hmem
    exact ⟨nearer + 1, hlt, mem_names_supertypeLevel.1 (List.mem_map_of_mem htype)⟩
  · rintro ⟨links, hle, hlinks⟩
    obtain ⟨nearer, rfl⟩ : ∃ nearer, links = nearer + 1 := by
      cases hlinks with
      | direct => exact ⟨0, rfl⟩
      | further => exact ⟨_, rfl⟩
    obtain ⟨type, htype, rfl⟩ := List.mem_map.1 (mem_names_supertypeLevel.2 hlinks)
    exact List.mem_map_of_mem (mem_supertypeLevels.2 ⟨nearer, hle, htype⟩)

/-- What the names on some levels stand for is written with names on one level more. -/
theorem names_supertypesNamed {level : Nat} {name : String} (h : name ∈ (table.supertypeLevels declaration level).map (·.qualified))
    {type : TypeExpr} (htype : type ∈ table.supertypesNamed name) :
    type.qualified ∈ (table.supertypeLevels declaration (level + 1)).map (·.qualified) := by
  obtain ⟨links, hle, hlinks⟩ := mem_names_supertypeLevels.1 h
  obtain ⟨found, hfound, hmem⟩ := mem_supertypesNamed.1 htype
  exact mem_names_supertypeLevels.2 ⟨links + 1, Nat.succ_le_succ hle, .further hlinks hfound hmem⟩

/-- The first type of a name on some levels is the first on the first level that has the name. -/
theorem find?_supertypeLevels {level : Nat} {p : TypeExpr → Bool} {type : TypeExpr}
    (h : (table.supertypeLevels declaration level).find? p = some type) :
    ∃ first, (table.supertypeLevel declaration first).find? p = some type ∧
      ∀ nearer < first, (table.supertypeLevel declaration nearer).find? p = none := by
  induction level with
  | zero => contradiction
  | succ level ih =>
    rw [supertypeLevels_succ, List.find?_append] at h
    cases hlevels : (table.supertypeLevels declaration level).find? p with
    | some found =>
      rw [hlevels, Option.some_or] at h
      exact ih (hlevels.trans h)
    | none =>
      rw [hlevels, Option.none_or] at h
      refine ⟨level, h, fun nearer hlt => List.find?_eq_none.2 fun other hother => ?_⟩
      exact List.find?_eq_none.1 hlevels other (mem_supertypeLevels.2 ⟨nearer, hlt, hother⟩)

/-! ## The search -/

/-- The search does not give names that were seen. -/
theorem not_mem_of_mem_supertypesFrom {seen : List String} {pending : List Declaration} {queue : List TypeExpr} :
    ∀ type ∈ supertypesFrom seen pending queue, type.qualified ∉ seen := by
  induction seen, pending, queue using supertypesFrom.induct with
  | case1 seen pending =>
    rw [supertypesFrom]
    intro type hmem
    contradiction
  | case2 seen pending type queue hseen ih =>
    rw [supertypesFrom, if_pos hseen]
    exact ih
  | case3 seen pending type queue hseen hfind ih =>
    rw [supertypesFrom_of_find?_eq_none queue hseen hfind]
    exact List.forall_mem_cons.2 ⟨hseen, fun other hother hmem => ih other hother (List.mem_cons_of_mem _ hmem)⟩
  | case4 seen pending type queue hseen declaration hfind ih =>
    rw [supertypesFrom_of_find?_eq_some queue hseen hfind]
    exact List.forall_mem_cons.2 ⟨hseen, fun other hother hmem => ih other hother (List.mem_cons_of_mem _ hmem)⟩

/-- A type that is met for the first time queues the supertypes of what its name stands for. That its declaration is left out afterwards makes no
difference, because its name is seen. -/
theorem supertypesFrom_cons (table : SymbolTable) {seen : List String} {type : TypeExpr} (hseen : type.qualified ∉ seen) (queue : List TypeExpr) :
    supertypesFrom seen table.declarations (type :: queue) =
      type :: supertypesFrom (type.qualified :: seen) table.declarations (queue ++ table.supertypesNamed type.qualified) := by
  cases hfind : table.find? type.qualified with
  | none => rw [supertypesFrom_of_find?_eq_none queue hseen hfind, supertypesNamed, hfind, Option.map_none, Option.getD_none, List.append_nil]
  | some found =>
    rw [supertypesFrom_of_find?_eq_some queue hseen hfind, supertypesNamed, hfind, Option.map_some, Option.getD_some]
    refine congrArg _ (supertypesFrom_eq _ _ fun other hother => ?_)
    have hne : other.qualified ≠ type.qualified := fun heq => not_mem_of_mem_supertypesFrom other hother (heq ▸ List.mem_cons_self)
    rw [find?_unnamed, if_neg hne]

/-- The first part of a queue is worked off before the rest, and then what it stands for is behind the rest. -/
theorem supertypesFrom_append (table : SymbolTable) (seen : List String) (now later : List TypeExpr) :
    supertypesFrom seen table.declarations (now ++ later) =
      firstOfEach (·.qualified) seen now ++
        supertypesFrom (((firstOfEach (·.qualified) seen now).map (·.qualified)).reverse ++ seen) table.declarations
          (later ++ (firstOfEach (·.qualified) seen now).flatMap fun type => table.supertypesNamed type.qualified) := by
  induction now generalizing seen later with
  | nil => simp [firstOfEach]
  | cons type now ih =>
    rw [List.cons_append, firstOfEach]
    by_cases hseen : type.qualified ∈ seen
    · rw [if_pos hseen, supertypesFrom, if_pos hseen, ih]
    · rw [if_neg hseen, supertypesFrom_cons table hseen, List.append_assoc, ih, List.map_cons, List.reverse_cons, List.flatMap_cons]
      simp only [List.append_assoc, List.cons_append, List.nil_append]

/-- What holds when the search has given the first types of the levels before one: what it gives further comes from the names that are new on that
level. -/
structure AtLevel (table : SymbolTable) (declaration : Declaration) (level : Nat) (found queue : List TypeExpr) : Prop where
  found_eq : found = firstOfEach (·.qualified) [] (table.supertypeLevels declaration level)
  queue_eq : firstOfEach (·.qualified) (found.map (·.qualified)).reverse queue =
    firstOfEach (·.qualified) (found.map (·.qualified)).reverse (table.supertypeLevel declaration level)
  rest : table.supertypesOf declaration = found ++ supertypesFrom (found.map (·.qualified)).reverse table.declarations queue

theorem atLevel_zero (table : SymbolTable) (declaration : Declaration) : table.AtLevel declaration 0 [] declaration.supertypes :=
  ⟨rfl, rfl, rfl⟩

/-- The names that are new on a level are found, and what they stand for is the queue of the next level. -/
theorem AtLevel.succ {level : Nat} {found queue : List TypeExpr} (h : table.AtLevel declaration level found queue) :
    table.AtLevel declaration (level + 1) (found ++ firstOfEach (·.qualified) (found.map (·.qualified)).reverse queue)
      ((firstOfEach (·.qualified) (found.map (·.qualified)).reverse queue).flatMap fun type => table.supertypesNamed type.qualified) := by
  have hfound : found ++ firstOfEach (·.qualified) (found.map (·.qualified)).reverse queue =
      firstOfEach (·.qualified) [] (table.supertypeLevels declaration (level + 1)) := by
    rw [h.queue_eq, supertypeLevels_succ, firstOfEach_append, ← h.found_eq, List.append_nil]
  refine ⟨hfound, ?_, ?_⟩
  · rw [hfound, h.queue_eq, supertypeLevel]
    refine firstOfEach_flatMap table.supertypesNamed fun name hname type htype => ?_
    rw [List.mem_reverse, h.found_eq, mem_keys_firstOfEach] at hname
    rw [List.mem_reverse, mem_keys_firstOfEach]
    exact ⟨names_supertypesNamed hname.1 htype, List.not_mem_nil⟩
  · have hqueue := supertypesFrom_append table (found.map (·.qualified)).reverse queue []
    rw [List.append_nil, List.nil_append] at hqueue
    rw [h.rest, hqueue, List.map_append, List.reverse_append, List.append_assoc]

/-- On each level something new is found, until the queue is empty. -/
theorem exists_atLevel (table : SymbolTable) (declaration : Declaration) (level : Nat) :
    ∃ found queue, table.AtLevel declaration level found queue ∧ (level ≤ found.length ∨ queue = []) := by
  induction level with
  | zero => exact ⟨[], _, atLevel_zero table declaration, .inl (Nat.le_refl 0)⟩
  | succ level ih =>
    obtain ⟨found, queue, h, hprogress⟩ := ih
    refine ⟨_, _, h.succ, ?_⟩
    cases hnew : firstOfEach (·.qualified) (found.map (·.qualified)).reverse queue with
    | nil => exact .inr rfl
    | cons type more =>
      rcases hprogress with hlength | rfl
      · refine .inl ?_
        rw [List.length_append, List.length_cons]
        omega
      · contradiction

/-- The supertypes of a declaration are the first types of each name along the levels, as soon as these are more than there are supertypes. -/
theorem supertypesOf_eq_firstOfEach {level : Nat} (h : (table.supertypesOf declaration).length < level) :
    table.supertypesOf declaration = firstOfEach (·.qualified) [] (table.supertypeLevels declaration level) := by
  obtain ⟨found, queue, hat, hprogress⟩ := exists_atLevel table declaration level
  rcases hprogress with hlength | rfl
  · have hle := congrArg List.length hat.rest
    rw [List.length_append] at hle
    omega
  · rw [← hat.found_eq, hat.rest, supertypesFrom, List.append_nil]

/-! ## Nearest first -/

/-- Whether a list of types holds the supertypes of a declaration, nearest first. -/
structure NearestFirst (table : SymbolTable) (declaration : Declaration) (types : List TypeExpr) : Prop where
  distinct : (types.map (·.qualified)).Nodup
  reached : ∀ name, name ∈ types.map (·.qualified) ↔ ∃ links, table.HasSupertype declaration links name
  /-- To a type no more links are needed than to any behind it. -/
  sorted : types.Pairwise fun type further => ∀ links, table.HasSupertype declaration links further.qualified →
    ∃ fewer ≤ links, table.HasSupertype declaration fewer type.qualified
  /-- A type is the first of its name on the first level that has the name. -/
  firstMet : ∀ type ∈ types, ∃ level, (table.supertypeLevel declaration level).find? (·.qualified == type.qualified) = some type ∧
    ∀ nearer < level, type.qualified ∉ (table.supertypeLevel declaration nearer).map (·.qualified)

theorem nodup_names_supertypesOf (table : SymbolTable) (declaration : Declaration) :
    ((table.supertypesOf declaration).map (·.qualified)).Nodup := by
  rw [supertypesOf_eq_firstOfEach (Nat.lt_succ_self _)]
  exact nodup_keys_firstOfEach _ _ _

/-- The names on some levels are found before all others. -/
theorem exists_supertypesOf_eq_append (table : SymbolTable) (declaration : Declaration) (level : Nat) :
    ∃ rest, table.supertypesOf declaration = firstOfEach (·.qualified) [] (table.supertypeLevels declaration level) ++ rest := by
  obtain ⟨found, queue, hat, -⟩ := exists_atLevel table declaration level
  exact ⟨_, hat.found_eq ▸ hat.rest⟩

/-- Whatever a table declares, also where inheritance runs in circles or names stand for nothing, the search gives the supertypes of a declaration,
nearest first. -/
theorem supertypesOf_nearestFirst (table : SymbolTable) (declaration : Declaration) :
    table.NearestFirst declaration (table.supertypesOf declaration) := by
  have hall := supertypesOf_eq_firstOfEach (Nat.lt_succ_self (table.supertypesOf declaration).length)
  refine ⟨?distinct, ?reached, ?sorted, ?firstMet⟩
  case distinct => exact nodup_names_supertypesOf table declaration
  case reached =>
    intro name
    constructor
    · intro h
      rw [hall, mem_keys_firstOfEach, mem_names_supertypeLevels] at h
      obtain ⟨⟨links, -, hlinks⟩, -⟩ := h
      exact ⟨links, hlinks⟩
    · rintro ⟨links, hlinks⟩
      obtain ⟨rest, hrest⟩ := exists_supertypesOf_eq_append table declaration links
      rw [hrest, List.map_append, List.mem_append, mem_keys_firstOfEach, mem_names_supertypeLevels]
      exact .inl ⟨⟨links, Nat.le_refl links, hlinks⟩, List.not_mem_nil⟩
  case sorted =>
    refine List.pairwise_iff_forall_sublist.2 fun {type further} hpair links hlinks => ?_
    obtain ⟨rest, hrest⟩ := exists_supertypesOf_eq_append table declaration links
    have hnear : further.qualified ∈ (firstOfEach (·.qualified) [] (table.supertypeLevels declaration links)).map (·.qualified) :=
      mem_keys_firstOfEach.2 ⟨mem_names_supertypeLevels.2 ⟨links, Nat.le_refl links, hlinks⟩, List.not_mem_nil⟩
    have hdistinct := nodup_names_supertypesOf table declaration
    rw [hrest, List.map_append] at hdistinct
    rw [hrest] at hpair
    -- the further type is on the levels that its links lead to, so the type before it is too
    have htype : type ∈ firstOfEach (·.qualified) [] (table.supertypeLevels declaration links) :=
      mem_of_pair_sublist_append hpair fun hmem => List.disjoint_of_nodup_append hdistinct hnear (List.mem_map_of_mem hmem)
    obtain ⟨fewer, hle, hfewer⟩ := mem_names_supertypeLevels.1 (mem_keys_firstOfEach.1 (List.mem_map_of_mem htype)).1
    exact ⟨fewer, hle, hfewer⟩
  case firstMet =>
    intro type hmem
    rw [hall, mem_firstOfEach] at hmem
    obtain ⟨level, hlevel, hnearer⟩ := find?_supertypeLevels hmem.2
    exact ⟨level, hlevel, fun nearer hlt => find?_key_eq_none.1 (hnearer nearer hlt)⟩

end SymbolTable

end NavGen
