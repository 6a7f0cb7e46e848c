import Mathlib
import TaskLedger.Files

/-!
# Directories are made where nothing stands in the way

Files are rooted if every directory lies in one and the working directory is there.  A path is open
if no file lies on it.  In rooted files every open path that may lead to a directory can be made
into one (`Files.Rooted.makeDirectories`): `Files.makeDirectories` succeeds, leaves the files
rooted, and only adds directories (`Files.Extends`), so that no other path is closed.

A path may lead to a directory (`Files.Nameable`) if the system takes its names at all and if it
does not end in a name with a step behind it that stays: nobody makes the directory from which that
last step is taken.
-/

namespace TaskLedger

/-- A chain of two steps succeeds when both do. -/
theorem exists_of_bind_eq_ok {ε α β : Type} {first : Except ε α} {next : α → Except ε β} {b : β}
    (h : first >>= next = .ok b) : ∃ a, first = .ok a ∧ next a = .ok b := by
  cases first with
  | error e => cases h
  | ok a => exact ⟨a, rfl, h⟩

theorem bind_eq_ok_iff {ε α β : Type} {first : Except ε α} {next : α → Except ε β} {b : β} :
    first >>= next = .ok b ↔ ∃ a, first = .ok a ∧ next a = .ok b := by
  refine ⟨exists_of_bind_eq_ok, ?_⟩
  rintro ⟨a, rfl, h⟩
  exact h

/-- What succeeds does so whatever a fault is turned into. -/
theorem mapError_eq_ok_iff {ε ε' α : Type} {outcome : Except ε α} {change : ε → ε'} {a : α} :
    outcome.mapError change = .ok a ↔ outcome = .ok a := by
  cases outcome <;> simp [Except.mapError]

namespace Files

variable {fs : Files}

/-! ### Ways to directories -/

/-- Every directory lies in one, and the working directory is there. -/
structure Rooted (fs : Files) : Prop where
  here_found : fs.find? fs.here = some .directory
  above_found : ∀ place, fs.find? place = some .directory → fs.find? place.tail = some .directory

/-- Where a step leads from a directory. -/
def advance (place : Place) (name : String) : Place :=
  if isStay name then place else if name = ".." then place.tail else name :: place

/-- No file lies where steps from a place lead, nor on the way. -/
def Free (fs : Files) (place : Place) (names : List String) : Prop :=
  ∀ front, front <+: names → ∀ content, fs.find? (front.foldl advance place) ≠ some (.file content)

/-- No file is in the way of a path. -/
def IsOpen (fs : Files) (path : String) : Prop :=
  fs.Free (fs.start path) (steps path)

theorem Free.front {place : Place} {names more : List String}
    (free : fs.Free place (names ++ more)) : fs.Free place names :=
  fun front before => free front (before.trans (List.prefix_append names more))

theorem Free.tail {place : Place} {name : String} {names : List String}
    (free : fs.Free place (name :: names)) : fs.Free (advance place name) names :=
  fun front before => free (name :: front) (List.cons_prefix_cons.2 ⟨rfl, before⟩)

/-- Steps from a place lead to a directory. -/
def Leads (fs : Files) (place : Place) (names : List String) : Prop :=
  ∃ goal, fs.walk place names = .ok goal ∧ fs.find? goal = some .directory

/-- All directories are still there. -/
def Grows (fs next : Files) : Prop :=
  next.here = fs.here ∧
    ∀ place, fs.find? place = some .directory → next.find? place = some .directory

theorem Grows.refl (fs : Files) : fs.Grows fs := ⟨rfl, fun _ found => found⟩

theorem Grows.trans {a b c : Files} (first : a.Grows b) (second : b.Grows c) : a.Grows c :=
  ⟨second.1.trans first.1, fun place found => second.2 place (first.2 place found)⟩

/-- Directories were added, and nothing else was changed. -/
def Extends (fs next : Files) : Prop :=
  next.here = fs.here ∧ ∀ place, next.find? place = fs.find? place ∨
    (fs.find? place = none ∧ next.find? place = some .directory)

theorem Extends.refl (fs : Files) : fs.Extends fs := ⟨rfl, fun _ => Or.inl rfl⟩

theorem Extends.trans {a b c : Files} (first : a.Extends b) (second : b.Extends c) :
    a.Extends c := by
  refine ⟨second.1.trans first.1, fun place => ?_⟩
  rcases second.2 place with same | ⟨missing, made⟩
  · rw [same]
    exact first.2 place
  · rcases first.2 place with same | ⟨missing, -⟩
    · exact Or.inr ⟨same ▸ missing, made⟩
    · exact Or.inr ⟨missing, made⟩

theorem Extends.grows {next : Files} (more : fs.Extends next) : fs.Grows next := by
  refine ⟨more.1, fun place found => ?_⟩
  rcases more.2 place with same | ⟨missing, -⟩
  · rw [same, found]
  · rw [missing] at found
    cases found

/-- Directories are in nobody's way. -/
theorem Free.extends {next : Files} {place : Place} {names : List String}
    (free : fs.Free place names) (more : fs.Extends next) : next.Free place names := by
  intro front before content there
  rcases more.2 (front.foldl advance place) with same | ⟨-, made⟩
  · exact free front before content (same ▸ there)
  · rw [made] at there
    cases there

theorem IsOpen.extends {next : Files} {path : String} (isOpen : fs.IsOpen path)
    (more : fs.Extends next) : next.IsOpen path := by
  unfold IsOpen start
  rw [more.1]
  exact Free.extends isOpen more

theorem walk_append (fs : Files) (place : Place) (names more : List String) :
    fs.walk place (names ++ more) = (fs.walk place names).bind fun goal => fs.walk goal more := by
  simp only [walk, List.foldlM_append]
  rfl

theorem walk_cons (fs : Files) (place : Place) (name : String) (names : List String) :
    fs.walk place (name :: names) = (fs.step place name).bind fun goal => fs.walk goal names := by
  simp only [walk, List.foldlM_cons]
  rfl

theorem walk_singleton (fs : Files) (place : Place) (name : String) :
    fs.walk place [name] = fs.step place name := by
  rw [walk_cons]
  cases fs.step place name <;> rfl

theorem isDirectory_iff {place : Place} {names : List String} :
    fs.isDirectory place names = true ↔ fs.Leads place names := by
  unfold isDirectory Leads
  cases walked : fs.walk place names with
  | ok goal => simp
  | error fault => simp

/-- Where a step leads that is taken from a directory. -/
theorem step_of_found {place : Place} (found : fs.find? place = some .directory) {name : String}
    (short : name.utf8ByteSize ≤ maxName) :
    fs.step place name = .ok (advance place name) := by
  unfold step advance
  rw [found]
  simp only [Nat.not_lt.2 short, if_false]
  split_ifs <;> rfl

theorem step_eq_ok {place goal : Place} {name : String} (stepped : fs.step place name = .ok goal) :
    fs.find? place = some .directory ∧ goal = advance place name := by
  unfold step at stepped
  split at stepped
  · cases stepped
  · cases stepped
  · rename_i found
    refine ⟨found, ?_⟩
    unfold advance
    split_ifs at stepped ⊢ <;> simpa using stepped.symm

theorem eq_foldl_of_walk {place goal : Place} {names : List String}
    (walked : fs.walk place names = .ok goal) : goal = names.foldl advance place := by
  induction names generalizing place with
  | nil => simpa [walk] using (Except.ok.inj walked).symm
  | cons name names ih =>
    rw [walk_cons] at walked
    obtain ⟨via, stepped, walked⟩ := exists_of_bind_eq_ok walked
    rw [List.foldl_cons, ← (step_eq_ok stepped).2]
    exact ih walked

/-- A way that could be walked can be walked when there are more directories. -/
theorem walk_of_grows {next : Files} (grows : fs.Grows next) {place goal : Place}
    {names : List String} (walked : fs.walk place names = .ok goal) :
    next.walk place names = .ok goal := by
  induction names generalizing place with
  | nil => exact walked
  | cons name names ih =>
    rw [walk_cons] at walked ⊢
    obtain ⟨via, stepped, walked⟩ := exists_of_bind_eq_ok walked
    have same : next.step place name = .ok via := by
      unfold step at stepped ⊢
      split at stepped
      · cases stepped
      · cases stepped
      · rename_i from_directory
        rw [grows.2 place from_directory]
        exact stepped
    rw [same]
    exact ih walked

theorem leads_nil {place : Place} (found : fs.find? place = some .directory) :
    fs.Leads place [] :=
  ⟨place, rfl, found⟩

/-- In rooted files steps that stay or go up lead from a directory to a directory. -/
theorem Rooted.leads_append (rooted : fs.Rooted) {place : Place} {names more : List String}
    (leads : fs.Leads place names) (back : ∀ step ∈ more, isStay step ∨ step = "..") :
    fs.Leads place (names ++ more) := by
  induction more generalizing names with
  | nil => rwa [List.append_nil]
  | cons step more ih =>
    rw [List.append_cons]
    refine ih ?_ fun later at_end => back later (List.mem_cons_of_mem _ at_end)
    have backward := back step (List.mem_cons_self ..)
    have short : step.utf8ByteSize ≤ maxName := by
      rcases backward with stays | rfl
      · rw [of_decide_eq_true stays]
        decide
      · decide
    obtain ⟨goal, walked, found⟩ := leads
    unfold Leads
    rw [walk_append, walked]
    simp only [Except.bind, walk_singleton, step_of_found found short, advance]
    split_ifs with stays up
    · exact ⟨goal, rfl, found⟩
    · exact ⟨goal.tail, rfl, rooted.above_found goal found⟩
    · exact absurd backward (not_or.2 ⟨stays, up⟩)

/-! ### One directory -/

theorem lookup_filter_ne {entries : List (Place × Entry)} {place other : Place} :
    (entries.filter fun p => p.1 ≠ place).lookup other =
      if other = place then none else entries.lookup other := by
  induction entries with
  | nil => simp
  | cons entry entries ih =>
    obtain ⟨key, what⟩ := entry
    by_cases kept : key = place
    · subst kept
      rw [List.filter_cons_of_neg (by simp), ih]
      by_cases same : other = key
      · simp [same]
      · simp [same, List.lookup_cons, beq_eq_false_iff_ne.2 same]
    · rw [List.filter_cons_of_pos (by simpa using kept), List.lookup_cons, List.lookup_cons, ih]
      by_cases same : other = key
      · subst same
        simp [kept]
      · rw [beq_eq_false_iff_ne.2 same]

/-- What lies where after an entry was put. -/
theorem find?_set (fs : Files) {place : Place} (named : place ≠ []) (entry : Entry)
    (other : Place) :
    (fs.set place entry).find? other = if other = place then some entry else fs.find? other := by
  unfold find? set
  by_cases root : other = []
  · subst root
    simp [Ne.symm named]
  · simp only [root, if_false, List.lookup_append, lookup_filter_ne]
    by_cases same : other = place
    · subst same
      simp
    · simp [same, List.lookup_cons, beq_eq_false_iff_ne.2 same]

/-- A directory that is put where nothing lies is the only change. -/
theorem extends_set {place : Place} (missing : fs.find? place = none) :
    fs.Extends (fs.set place .directory) := by
  have below : place ≠ [] := by
    rintro rfl
    cases missing
  refine ⟨rfl, fun other => ?_⟩
  rw [find?_set fs below]
  split_ifs with same
  · subst same
    exact Or.inr ⟨missing, rfl⟩
  · exact Or.inl rfl

/-- Rooted files stay so with another directory in one that is there. -/
theorem Rooted.set (rooted : fs.Rooted) (name : String) {above : Place}
    (found : fs.find? above = some .directory) : (fs.set (name :: above) .directory).Rooted := by
  have finds := find?_set fs (List.cons_ne_nil name above) .directory
  have grows : ∀ place, fs.find? place = some .directory →
      (fs.set (name :: above) .directory).find? place = some .directory := by
    intro place there
    rw [finds, there, ite_self]
  refine ⟨grows _ rooted.here_found, fun place there => ?_⟩
  rw [finds] at there
  split_ifs at there with new
  · subst new
    exact grows above found
  · exact grows _ (rooted.above_found place there)

/-- The end of a way: a name, or steps that stay or go up. -/
def IsEnd (more : List String) : Prop :=
  (∃ name, more = [name] ∧ name.utf8ByteSize ≤ maxName) ∨
    (more ≠ [] ∧ ∀ step ∈ more, isStay step ∨ step = "..")

/-- What comes of making a directory: it is made, or it was there. -/
def Makes (fs : Files) (place : Place) (names : List String) : Prop :=
  (∃ next, fs.makeDirectory place names = .ok next ∧
      next.Rooted ∧ fs.Extends next ∧ next.Leads place names) ∨
    (fs.makeDirectory place names = .error .alreadyThere ∧ fs.Leads place names)

theorem makes_of_leads {place : Place} {names : List String} (leads : fs.Leads place names) :
    fs.Makes place names := by
  refine Or.inr ⟨?_, leads⟩
  obtain ⟨goal, walked, found⟩ := leads
  unfold makeDirectory
  rw [walked]
  simp only [bind, Except.bind, found]

/-- In rooted files a directory can be made where the way above it leads to one and no file is in
the way. -/
theorem Rooted.makes (rooted : fs.Rooted) {place : Place} {names more : List String}
    (leads : fs.Leads place names) (free : fs.Free place (names ++ more)) (last : IsEnd more) :
    fs.Makes place (names ++ more) := by
  rcases last with ⟨name, rfl, short⟩ | ⟨-, back⟩
  · by_cases isBack : isStay name ∨ name = ".."
    · exact makes_of_leads (rooted.leads_append leads (by simpa using isBack))
    · obtain ⟨goal, walked, found⟩ := leads
      have walkedOn : fs.walk place (names ++ [name]) = .ok (name :: goal) := by
        rw [walk_append, walked]
        simp only [Except.bind, walk_singleton, step_of_found found short, advance]
        rw [if_neg (not_or.1 isBack).1, if_neg (not_or.1 isBack).2]
      cases there : fs.find? (name :: goal) with
      | none =>
        have more := extends_set there
        refine Or.inl ⟨fs.set (name :: goal) .directory, ?_, rooted.set name found, more,
          name :: goal, walk_of_grows more.grows walkedOn, by simp [find?_set]⟩
        unfold makeDirectory
        rw [walkedOn]
        simp only [bind, Except.bind, there]
      | some entry =>
        cases entry with
        | file content =>
          rw [eq_foldl_of_walk walkedOn] at there
          exact absurd there (free _ (List.prefix_refl _) content)
        | directory => exact makes_of_leads ⟨_, walkedOn, there⟩
  · exact makes_of_leads (rooted.leads_append leads back)

/-- A way without files that leads to no directory ends where something is missing. -/
theorem walk_of_not_leads {place : Place} {names : List String} (free : fs.Free place names)
    (found : fs.find? place = some .directory)
    (short : ∀ name ∈ names, name.utf8ByteSize ≤ maxName) (astray : ¬ fs.Leads place names) :
    fs.walk place names = .error .notFound ∨
      ∃ goal, fs.walk place names = .ok goal ∧ fs.find? goal = none := by
  induction names generalizing place with
  | nil => exact absurd (leads_nil found) astray
  | cons name names ih =>
    have stepped := step_of_found found (short name (List.mem_cons_self ..))
    unfold Leads at astray
    rw [walk_cons, stepped] at astray ⊢
    simp only [Except.bind] at astray ⊢
    cases there : fs.find? (advance place name) with
    | some entry =>
      cases entry with
      | file content => exact absurd there (free.tail [] (List.nil_prefix ..) content)
      | directory =>
        exact ih free.tail there (fun name later => short name (List.mem_cons_of_mem _ later))
          astray
    | none =>
      cases names with
      | nil => exact Or.inr ⟨advance place name, rfl, there⟩
      | cons next names =>
        refine Or.inl ?_
        rw [walk_cons]
        unfold step
        rw [there]
        rfl

/-- No directory can be made where the way above it leads to none. -/
theorem makeDirectory_of_not_leads {place : Place} {names more : List String}
    (free : fs.Free place names) (found : fs.find? place = some .directory)
    (short : ∀ name ∈ names, name.utf8ByteSize ≤ maxName) (astray : ¬ fs.Leads place names)
    (further : more ≠ []) :
    fs.makeDirectory place (names ++ more) = .error .notFound := by
  obtain ⟨step, more, rfl⟩ := List.exists_cons_of_ne_nil further
  have lost : fs.walk place (names ++ step :: more) = .error .notFound := by
    rw [walk_append]
    rcases walk_of_not_leads free found short astray with stuck | ⟨goal, walked, missing⟩
    · rw [stuck]
      rfl
    · rw [walked]
      simp only [Except.bind, walk_cons, Files.step, missing]
  unfold makeDirectory
  rw [lost]
  rfl

/-! ### All directories on a way -/

/-- Directories were made so that steps from a place lead to one. -/
def Made (fs : Files) (place : Place) (names : List String)
    (made : Except SystemFault Unit × Files) : Prop :=
  ∃ next, made = (.ok (), next) ∧ next.Rooted ∧ fs.Extends next ∧ next.Leads place names

/-- The last directory on a way is made when those above it are there. -/
theorem Rooted.made_ensureDirectory (rooted : fs.Rooted) {place : Place}
    {names more : List String} (leads : fs.Leads place names)
    (free : fs.Free place (names ++ more)) (last : IsEnd more) :
    fs.Made place (names ++ more) (fs.ensureDirectory place (names ++ more)) := by
  unfold ensureDirectory
  rcases rooted.makes leads free last with ⟨next, made, fine⟩ | ⟨there, leadsOn⟩
  · simp only [made]
    exact ⟨next, rfl, fine⟩
  · simp only [there, isDirectory_iff.2 leadsOn, if_true]
    exact ⟨fs, rfl, rooted, .refl fs, leadsOn⟩

/-- The first of several ways is made when the others make the way above it. -/
theorem Rooted.made_cons (rooted : fs.Rooted) {place : Place}
    (found : fs.find? place = some .directory) {names more : List String}
    (free : fs.Free place (names ++ more))
    (short : ∀ name ∈ names, name.utf8ByteSize ≤ maxName) (last : IsEnd more)
    {way : List String} {ways : List (List String)} (spelled : way.reverse = names ++ more)
    (above : fs.Made place names (fs.makeAll place ways)) :
    fs.Made place (names ++ more) (fs.makeAll place (way :: ways)) := by
  unfold makeAll
  rw [spelled]
  by_cases leads : fs.Leads place names
  · have ensured := rooted.made_ensureDirectory leads free last
    rcases rooted.makes leads free last with ⟨next, made, -⟩ | ⟨there, -⟩
    · simp only [made]
      exact ensured
    · simp only [there]
      exact ensured
  · obtain ⟨next, madeAbove, rootedAbove, added, leadsAbove⟩ := above
    have further : more ≠ [] := by
      rcases last with ⟨name, rfl, -⟩ | ⟨further, -⟩
      · exact List.cons_ne_nil name []
      · exact further
    simp only [makeDirectory_of_not_leads free.front found short leads further, madeAbove]
    obtain ⟨after, ensured, rootedAfter, addedOn, leadsOn⟩ :=
      rootedAbove.made_ensureDirectory leadsAbove (free.extends added) last
    exact ⟨after, ensured, rootedAfter, added.trans addedOn, leadsOn⟩

/-- The beginnings of a way are made. -/
theorem Rooted.made_beginnings (rooted : fs.Rooted) {place : Place}
    (found : fs.find? place = some .directory) {way : List String}
    (free : fs.Free place way.reverse) (short : ∀ name ∈ way, name.utf8ByteSize ≤ maxName) :
    fs.Made place way.reverse (fs.makeAll place (beginnings way)) := by
  induction way with
  | nil => exact ⟨fs, rfl, rooted, .refl fs, leads_nil found⟩
  | cons step above ih =>
    have shortAbove : ∀ name ∈ above, name.utf8ByteSize ≤ maxName :=
      fun name higher => short name (List.mem_cons_of_mem _ higher)
    rw [List.reverse_cons] at free ⊢
    have madeAbove := ih free.front shortAbove
    unfold beginnings
    split_ifs with stays
    · obtain ⟨next, made, rootedAfter, added, leads⟩ := madeAbove
      exact ⟨next, made, rootedAfter, added, rootedAfter.leads_append leads (by simp [stays])⟩
    · exact rooted.made_cons found free (by simpa using shortAbove)
        (Or.inl ⟨step, rfl, short step (List.mem_cons_self ..)⟩) List.reverse_cons madeAbove

/-- A path that may lead to a directory: the system takes the path and its names, and if its last
step stays, then it stays where no name led. -/
structure Nameable (path : String) : Prop where
  taken : checkPath path = .ok ()
  short : ∀ name ∈ steps path, name.utf8ByteSize ≤ maxName
  ends : (steps path).getLast? = some "." → lastName? path = none

/-- The steps at the end of a path that stay, and what is before them. -/
theorem steps_eq (path : String) : steps path =
    ((steps path).reverse.dropWhile isStay).reverse ++
      ((steps path).reverse.takeWhile isStay).reverse := by
  rw [← List.reverse_append, List.takeWhile_append_dropWhile, List.reverse_reverse]

theorem lastName?_eq (path : String) : lastName? path =
    ((steps path).reverse.dropWhile isStay).head?.filter fun name => name ≠ ".." := by
  have head : ((steps path).filter fun step => !isStay step).getLast? =
      ((steps path).reverse.dropWhile isStay).head? := by
    rw [List.getLast?_filter, List.find?_eq_head?_dropWhile_not]
    simp only [Bool.not_not]
  unfold lastName?
  rw [head]
  cases ((steps path).reverse.dropWhile isStay).head? with
  | none => rfl
  | some name =>
    by_cases up : name = ".."
    · simp [up, Option.filter]
    · simp [up, Option.filter]

/-- The end of a path that may lead to a directory, and the way above it. -/
theorem Nameable.exists_end {path : String} (nameable : Nameable path) (named : steps path ≠ []) :
    ∃ more, IsEnd more ∧ steps path =
      (((steps path).reverse.dropWhile isStay).drop 1).reverse ++ more := by
  have spelled := steps_eq path
  have stay : ∀ step ∈ ((steps path).reverse.takeWhile isStay).reverse, isStay step := by
    intro step among
    exact List.mem_takeWhile_imp (List.mem_reverse.1 among)
  have lastly := lastName?_eq path
  cases core : (steps path).reverse.dropWhile isStay with
  | nil =>
    rw [core] at spelled
    refine ⟨steps path, Or.inr ⟨named, fun step among => Or.inl (stay step ?_)⟩, rfl⟩
    rwa [spelled] at among
  | cons name above =>
    rw [core] at spelled lastly
    rw [List.reverse_cons, List.append_assoc] at spelled
    refine ⟨_, ?_, spelled⟩
    cases stays : ((steps path).reverse.takeWhile isStay).reverse with
    | nil =>
      refine Or.inl ⟨name, rfl, nameable.short name ?_⟩
      rw [spelled]
      simp
    | cons step rest =>
      -- The last step stays, so the one before all that stay has to go up.
      refine Or.inr ⟨List.cons_ne_nil _ _, ?_⟩
      have lastStay : (steps path).getLast? = some "." := by
        have stayed : isStay ((step :: rest).getLast (List.cons_ne_nil _ _)) := by
          refine stay _ ?_
          rw [stays]
          exact List.getLast_mem _
        rw [spelled, stays, ← List.append_assoc,
          List.getLast?_append_of_ne_nil _ (List.cons_ne_nil _ _),
          List.getLast?_eq_some_getLast (List.cons_ne_nil step rest), of_decide_eq_true stayed]
      have up : name = ".." := by
        by_contra other
        rw [nameable.ends lastStay] at lastly
        simp [Option.filter, other] at lastly
      intro step among
      rcases List.mem_cons.1 among with rfl | later
      · exact Or.inr up
      · rw [← stays] at later
        exact Or.inl (stay step later)

/-- **Every open path that may lead to a directory can be made into one.**  Directories are added and
nothing else is changed. -/
theorem Rooted.makeDirectories (rooted : fs.Rooted) {path : String} (nameable : Nameable path)
    (isOpen : fs.IsOpen path) :
    ∃ next, fs.makeDirectories path = (.ok (), next) ∧ next.Rooted ∧ fs.Extends next := by
  have found : fs.find? (fs.start path) = some .directory := by
    unfold start
    split_ifs
    · rfl
    · exact rooted.here_found
  unfold Files.makeDirectories
  rw [nameable.taken]
  simp only [upward, List.reverse_eq_nil_iff]
  split_ifs with named
  · exact ⟨fs, rfl, rooted, .refl fs⟩
  · obtain ⟨more, last, spelled⟩ := nameable.exists_end named
    have free := isOpen
    unfold IsOpen at free
    rw [spelled] at free
    have short : ∀ name ∈ ((steps path).reverse.dropWhile isStay).drop 1,
        name.utf8ByteSize ≤ maxName := by
      intro name above
      refine nameable.short name ?_
      rw [spelled]
      exact List.mem_append_left _ (List.mem_reverse.2 above)
    have whole : (steps path).reverse.reverse = _ := (List.reverse_reverse _).trans spelled
    obtain ⟨next, made, rootedAfter, added, -⟩ := rooted.made_cons found free
      (by simpa using short) last whole (rooted.made_beginnings found free.front short)
    exact ⟨next, made, rootedAfter, added⟩

end Files

end TaskLedger
