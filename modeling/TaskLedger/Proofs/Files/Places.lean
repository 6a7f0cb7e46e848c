import Mathlib
import TaskLedger.Proofs.Files

/-!
# Where paths lead

A path that leads somewhere leads where its steps say, whatever lies on the way.  So a file can be
named by its place, which stays the same while directories and files come and go.

* `Files.steps_join`: the steps of a path below a directory are those of the directory and its own;
* `Files.destination` follows the steps of a path without looking, and `Files.eq_destination` says
  that a path leads there or nowhere;
* `Files.makeDirectories_spec`: making directories adds directories and nothing else;
* `Files.append_eq_ok`: adding to a file changes that file and nothing else.
-/

namespace TaskLedger

namespace Files

/-! ### The steps of a path -/

section Split

open String

/-- A text is split at a character like the list of its characters.  The part since the last such
character is `m`, the characters before it are `l`, and those to come are `r`. -/
theorem splitOnAux_eq (d : Char) (l m r : List Char) (done : List String) :
    (ofList (l ++ m ++ r)).splitOnAux (ofList [d]) ⟨utf8Len l⟩ ⟨utf8Len l + utf8Len m⟩ 0 done =
      done.reverse ++ (List.splitOnPPrepend (· == d) r m.reverse).map ofList := by
  induction r generalizing l m done with
  | nil =>
    have whole := extract_of_valid l m []
    rw [splitOnAux.eq_1, if_pos]
    · rw [whole]
      simp
    · rw [← utf8Len_append, atEnd_of_valid]
  | cons c r ih =>
    have going : ¬ Pos.Raw.atEnd (ofList (l ++ m ++ c :: r)) ⟨utf8Len l + utf8Len m⟩ = true := by
      rw [← utf8Len_append, atEnd_of_valid]
      simp
    have here : Pos.Raw.get (ofList (l ++ m ++ c :: r)) ⟨utf8Len l + utf8Len m⟩ = c := by
      rw [← utf8Len_append, get_of_valid]
      rfl
    have further : Pos.Raw.next (ofList (l ++ m ++ c :: r)) ⟨utf8Len l + utf8Len m⟩ =
        ⟨utf8Len l + utf8Len m + c.utf8Size⟩ := by
      rw [← utf8Len_append, next_of_valid]
    have mark : Pos.Raw.get (ofList [d]) 0 = d := get_of_valid [] [d]
    have one : Pos.Raw.next (ofList [d]) 0 = ⟨0 + d.utf8Size⟩ := next_of_valid [] d []
    have whole : Pos.Raw.atEnd (ofList [d]) ⟨0 + d.utf8Size⟩ = true := by
      simpa using atEnd_of_valid [d] []
    have between := extract_of_valid l m (c :: r)
    rw [List.append_assoc] at going here further between ⊢
    rw [splitOnAux.eq_1, if_neg going, here, mark, List.splitOnPPrepend_cons_eq_if, further, one]
    by_cases split : c = d
    · subst split
      have later := ih (l ++ m ++ [c]) [] (ofList m :: done)
      have back : Pos.Raw.unoffsetBy ⟨utf8Len l + utf8Len m + c.utf8Size⟩ ⟨0 + c.utf8Size⟩ =
          ⟨utf8Len l + utf8Len m⟩ := by
        simp [Pos.Raw.unoffsetBy]
      simp only [utf8Len_append, utf8Len_cons, utf8Len_nil, List.append_assoc, List.nil_append,
        List.cons_append, Nat.add_zero, Nat.zero_add, ← Nat.add_assoc] at later
      simp only [beq_self_eq_true, if_true, whole, back, between]
      rw [later]
      simp
    · have later := ih l (m ++ [c]) done
      have stay : Pos.Raw.unoffsetBy ⟨utf8Len l + utf8Len m⟩ 0 = ⟨utf8Len l + utf8Len m⟩ := rfl
      simp only [utf8Len_append, utf8Len_cons, utf8Len_nil, List.append_assoc, List.nil_append,
        List.cons_append, Nat.zero_add, ← Nat.add_assoc, List.reverse_append, List.reverse_cons,
        List.reverse_nil] at later
      simp only [beq_iff_eq, split, if_false, stay, further]
      exact later

/-- The parts of a text between the places of a character. -/
theorem splitOn_char (s : String) (d : Char) :
    s.splitOn (ofList [d]) = (s.toList.splitOn d).map ofList := by
  have whole := splitOnAux_eq d [] [] s.toList []
  simp only [List.nil_append, ofList_toList, utf8Len_nil, Nat.add_zero, List.reverse_nil,
    ← List.splitOnP_eq_splitOnPPrepend] at whole
  have some : ¬ (ofList [d] == "") = true := by simp
  rw [String.splitOn, if_neg some, List.splitOn_eq_splitOnP]
  exact whole

/-- The parts of a text between its slashes. -/
theorem splitOn_slash (s : String) : s.splitOn "/" = (s.toList.splitOn '/').map ofList :=
  splitOn_char s '/'

end Split

/-- The steps that some characters spell. -/
def parts (cs : List Char) : List String :=
  ((cs.splitOn '/').map String.ofList).filter (· ≠ "")

theorem steps_eq_parts (path : String) : steps path = parts path.toList := by
  rw [steps, splitOn_slash, parts]

theorem parts_append_slash (cs ds : List Char) :
    parts (cs ++ '/' :: ds) = parts cs ++ parts ds := by
  simp only [parts, List.splitOn_eq_splitOnP]
  rw [List.splitOnP_append_cons cs ds (by rfl), List.map_append, List.filter_append]

theorem parts_nil : parts [] = [] := by decide

theorem parts_of_no_slash {cs : List Char} (named : cs ≠ []) (single : '/' ∉ cs) :
    parts cs = [String.ofList cs] := by
  have whole : cs.splitOn '/' = [cs] := by
    rw [List.splitOn_eq_splitOnP]
    refine List.splitOnP_eq_singleton fun c among => ?_
    rw [beq_eq_false_iff_ne]
    rintro rfl
    exact single among
  have some : String.ofList cs ≠ "" := by simpa using named
  simp [parts, whole, some]

/-- A text that names something in a directory: it is not empty, there is no slash in it, and it
neither stays nor goes up. -/
structure IsName (name : String) : Prop where
  single : '/' ∉ name.toList
  named : name ≠ ""
  moves : name ≠ "."
  enters : name ≠ ".."

section Join

variable {fs : Files} {directory name : String}

theorem toList_ne_nil (plain : IsName name) : name.toList ≠ [] := by
  simpa using plain.named

theorem steps_of_isName (plain : IsName name) : steps name = [name] := by
  rw [steps_eq_parts, parts_of_no_slash (toList_ne_nil plain) plain.single, String.ofList_toList]

theorem endsWith_slash_iff (path : String) :
    path.endsWith "/" = true ↔ ∃ front, path.toList = front ++ ['/'] := by
  have slice : path.endsWith "/" = path.toSlice.endsWith "/" := rfl
  rw [slice, String.Slice.endsWith_string_iff]
  simp only [String.copy_toSlice]
  exact ⟨fun ⟨front, whole⟩ => ⟨front, whole.symm⟩, fun ⟨front, whole⟩ => ⟨front, whole.symm⟩⟩

theorem isAbsolute_iff (path : String) : isAbsolute path = true ↔ path.toList.head? = some '/' := by
  rw [isAbsolute, String.startsWith_string_iff]
  cases path.toList with
  | nil => simp
  | cons c cs => simp [List.cons_prefix_cons, eq_comm]

/-- The characters of a path below a directory: the name comes after a slash or at once. -/
theorem toList_join (directory name : String) :
    (directory = "" ∧ join directory name = name) ∨
    (∃ front, directory.toList = front ++ ['/'] ∧
      (join directory name).toList = front ++ '/' :: name.toList) ∨
    (directory ≠ "" ∧ (join directory name).toList = directory.toList ++ '/' :: name.toList) := by
  by_cases none_at_all : directory = ""
  · left
    simp [join, none_at_all]
  · by_cases slash : directory.endsWith "/" = true
    · obtain ⟨front, spelled⟩ := (endsWith_slash_iff directory).1 slash
      refine Or.inr (Or.inl ⟨front, spelled, ?_⟩)
      simp [join, none_at_all, slash, spelled]
    · refine Or.inr (Or.inr ⟨none_at_all, ?_⟩)
      simp [join, none_at_all, slash]

/-- The steps of a path below a directory. -/
theorem steps_join (directory name : String) :
    steps (join directory name) = steps directory ++ steps name := by
  rcases toList_join directory name with ⟨rfl, whole⟩ | ⟨front, spelled, whole⟩ | ⟨-, whole⟩
  · rw [whole, steps_eq_parts "", String.toList_empty, parts_nil, List.nil_append]
  · simp only [steps_eq_parts, whole, spelled, parts_append_slash, parts_nil, List.append_nil]
  · simp only [steps_eq_parts, whole, parts_append_slash]

/-- A path below a directory begins where the path to the directory begins. -/
theorem start_join (fs : Files) (directory : String) (plain : IsName name) :
    fs.start (join directory name) = fs.start directory := by
  have same : isAbsolute (join directory name) = isAbsolute directory := by
    rw [Bool.eq_iff_iff, isAbsolute_iff, isAbsolute_iff]
    rcases toList_join directory name with ⟨rfl, whole⟩ | ⟨front, spelled, whole⟩ | ⟨named, whole⟩
    · obtain ⟨c, cs, spelled⟩ := List.exists_cons_of_ne_nil (toList_ne_nil plain)
      have other : c ≠ '/' := fun slash => plain.single (by simp [spelled, slash])
      simp [whole, spelled, other]
    · rw [whole, spelled]
      cases front <;> simp
    · rw [whole, List.head?_append_of_ne_nil]
      simpa using named
  rw [start, start, same]

theorem checkPath_eq_ok_iff (path : String) :
    checkPath path = .ok () ↔ '\x00' ∉ path.toList ∧ path.utf8ByteSize ≤ maxPath := by
  unfold checkPath
  simp only [String.contains_char_eq, decide_eq_true_eq]
  split_ifs with nul long
  · simp [nul]
  · simp [long]
  · simpa [nul] using long

/-- The system takes the path to a directory if it takes a path below it. -/
theorem checkPath_of_join (taken : checkPath (join directory name) = .ok ()) :
    checkPath directory = .ok () := by
  rw [checkPath_eq_ok_iff] at taken ⊢
  have le : directory.utf8ByteSize ≤ (join directory name).utf8ByteSize := by
    unfold join
    split_ifs <;> simp [String.utf8ByteSize_append, Nat.add_assoc]
  have sub : ∀ c ∈ directory.toList, c ∈ (join directory name).toList := by
    intro c among
    unfold join
    split_ifs <;> simp [among]
  exact ⟨fun among => taken.1 (sub _ among), le.trans taken.2⟩

/-- A path below a directory ends with a name, so nothing is said about what lies there. -/
theorem locate_join (fs : Files) (plain : IsName name)
    (taken : checkPath (join directory name) = .ok ()) : fs.locate (join directory name) =
      (fs.walk (fs.start directory) (steps directory)).bind fun above => fs.step above name := by
  have ends : ∃ front, (join directory name).toList = front ++ name.toList := by
    rcases toList_join directory name with ⟨-, whole⟩ | ⟨front, -, whole⟩ | ⟨-, whole⟩
    · exact ⟨[], by rw [whole, List.nil_append]⟩
    · exact ⟨front ++ ['/'], by simp [whole]⟩
    · exact ⟨directory.toList ++ ['/'], by simp [whole]⟩
  obtain ⟨front, whole⟩ := ends
  have named : join directory name ≠ "" := by
    rw [Ne, ← String.toList_eq_nil_iff, whole]
    simp [plain.named]
  have no_slash : ¬ (join directory name).endsWith "/" = true := by
    rw [endsWith_slash_iff, whole]
    rintro ⟨before, spelled⟩
    have last := congrArg List.getLast? spelled
    rw [List.getLast?_append_of_ne_nil _ (toList_ne_nil plain), List.getLast?_append] at last
    exact plain.single (List.mem_of_getLast? (by simpa using last))
  rw [locate, taken]
  simp only [bind, Except.bind, if_neg named, if_neg no_slash]
  rw [start_join fs directory plain, steps_join, steps_of_isName plain, walk_append]
  simp only [walk_singleton]
  rfl

end Join

/-! ### Where steps lead -/

/-- The place that a path leads to if every step can be taken. -/
def destination (fs : Files) (path : String) : Place :=
  (steps path).foldl advance (fs.start path)

section Leading

variable {fs next : Files} {place goal : Place} {directory name path : String}

theorem locate_eq_ok (located : fs.locate path = .ok goal) : checkPath path = .ok () ∧
    fs.walk (fs.start path) (if path.endsWith "/" then steps path ++ ["."] else steps path) =
      .ok goal := by
  obtain ⟨_, taken, located⟩ := exists_of_bind_eq_ok located
  refine ⟨taken, ?_⟩
  split at located
  · cases located
  · exact located

/-- A path leads where its steps say, or nowhere. -/
theorem eq_destination (located : fs.locate path = .ok goal) : goal = fs.destination path := by
  have walked := eq_foldl_of_walk (locate_eq_ok located).2
  rw [walked, destination]
  split_ifs
  · rw [List.foldl_append]
    rfl
  · rfl

/-- A path below a directory leads to a place in it. -/
theorem destination_join (fs : Files) (directory : String) (plain : IsName name) :
    fs.destination (join directory name) = name :: fs.destination directory := by
  have moves : isStay name = false := by simpa [isStay] using plain.moves
  rw [destination, steps_join, steps_of_isName plain, start_join fs directory plain,
    List.foldl_append, List.foldl_cons, List.foldl_nil, advance, moves, if_neg (by simp),
    if_neg plain.enters, destination]

end Leading

/-! ### What a file holds -/

/-- The octets of the file at a place, if there is one. -/
def content? (fs : Files) (place : Place) : Option (List UInt8) :=
  match fs.find? place with
  | some (.file content) => some content
  | _ => none

section Changes

variable {fs next : Files} {place goal : Place} {directory name path : String}

theorem Extends.content? (more : fs.Extends next) (place : Place) :
    next.content? place = fs.content? place := by
  unfold Files.content?
  rcases more.2 place with same | ⟨missing, made⟩
  · rw [same]
  · rw [missing, made]

/-- A path that leads to a directory. -/
def Stands (fs : Files) (path : String) : Prop :=
  checkPath path = .ok () ∧ fs.Leads (fs.start path) (steps path)

theorem start_of_here (same : next.here = fs.here) (path : String) :
    next.start path = fs.start path := by
  rw [start, start, same]

theorem destination_of_here (same : next.here = fs.here) (path : String) :
    next.destination path = fs.destination path := by
  rw [destination, destination, start_of_here same]

theorem Leads.grows {names : List String} (leads : fs.Leads place names) (grows : fs.Grows next) :
    next.Leads place names := by
  obtain ⟨goal, walked, found⟩ := leads
  exact ⟨goal, walk_of_grows grows walked, grows.2 goal found⟩

theorem Stands.grows (stands : fs.Stands path) (grows : fs.Grows next) : next.Stands path := by
  refine ⟨stands.1, ?_⟩
  rw [start_of_here grows.1]
  exact stands.2.grows grows

/-! ### Making directories -/

/-- A directory that is made is the only change, and leads where it should. -/
theorem makeDirectory_eq_ok {names : List String}
    (made : fs.makeDirectory place names = .ok next) :
    fs.Extends next ∧ next.Leads place names := by
  obtain ⟨goal, walked, made⟩ := exists_of_bind_eq_ok made
  split at made
  · cases made
  · rename_i missing
    obtain rfl : fs.set goal .directory = next := Except.ok.inj made
    have below : goal ≠ [] := by
      rintro rfl
      cases missing
    have more := extends_set missing
    exact ⟨more, goal, walk_of_grows more.grows walked, by rw [find?_set fs below, if_pos rfl]⟩

/-- A directory that is made sure of is the only change, and leads where it should; nothing is
changed where there is none afterwards. -/
theorem ensureDirectory_spec {names : List String} {result : Except SystemFault Unit}
    (made : fs.ensureDirectory place names = (result, next)) :
    fs.Extends next ∧ (result = .ok () → next.Leads place names) := by
  unfold ensureDirectory at made
  cases one : fs.makeDirectory place names with
  | ok after =>
    rw [one] at made
    cases made
    exact (makeDirectory_eq_ok one).imp_right fun leads _ => leads
  | error fault =>
    rw [one] at made
    cases made
    refine ⟨.refl fs, fun there => ?_⟩
    split_ifs at there with leads
    exact isDirectory_iff.1 leads

/-- Making directories on several ways adds directories, also where not all of them are made; where
all of them are, the first way leads to one. -/
theorem makeAll_spec {ways : List (List String)} {result : Except SystemFault Unit}
    (made : fs.makeAll place ways = (result, next)) :
    fs.Extends next ∧ (result = .ok () → ∀ way ∈ ways.head?, next.Leads place way.reverse) := by
  induction ways generalizing result next with
  | nil =>
    cases made
    exact ⟨.refl fs, fun _ _ first => by simp at first⟩
  | cons way above ih =>
    have last {between : Files} (ensured :
        between.ensureDirectory place way.reverse = (result, next)) : between.Extends next ∧
          (result = .ok () → ∀ w ∈ (way :: above).head?, next.Leads place w.reverse) := by
      obtain ⟨more, leads⟩ := ensureDirectory_spec ensured
      exact ⟨more, fun fine => by simpa using leads fine⟩
    unfold makeAll at made
    cases one : fs.makeDirectory place way.reverse with
    | ok after =>
      rw [one] at made
      exact last made
    | error fault =>
      rw [one] at made
      cases fault with
      | notFound =>
        rcases earlier : fs.makeAll place above with ⟨stuck | done, between⟩
        · rw [earlier] at made
          cases made
          refine ⟨(ih earlier).1, fun there => ?_⟩
          cases there
        · rw [earlier] at made
          obtain ⟨more, leads⟩ := last made
          exact ⟨(ih earlier).1.trans more, leads⟩
      | _ => exact last made

/-- Making a directory adds directories, also where it cannot be made; where it is, it is there
afterwards. -/
theorem makeDirectories_spec {result : Except SystemFault Unit}
    (made : fs.makeDirectories path = (result, next)) :
    fs.Extends next ∧ (result = .ok () → steps path ≠ [] → next.Stands path) := by
  unfold Files.makeDirectories at made
  cases taken : checkPath path with
  | error fault =>
    rw [taken] at made
    cases made
    exact ⟨.refl fs, nofun⟩
  | ok =>
    rw [taken] at made
    obtain ⟨more, leads⟩ := makeAll_spec made
    refine ⟨more, fun fine named => ⟨taken, ?_⟩⟩
    rw [start_of_here more.1]
    simpa [upward, named] using leads fine

/-- Nothing happens where the directory is there. -/
theorem Stands.makeDirectories (stands : fs.Stands path) :
    fs.makeDirectories path = (.ok (), fs) := by
  obtain ⟨taken, goal, walked, found⟩ := stands
  have leads : fs.isDirectory (fs.start path) (steps path) = true :=
    isDirectory_iff.2 ⟨goal, walked, found⟩
  have there : fs.makeDirectory (fs.start path) (steps path) = .error .alreadyThere := by
    simp [makeDirectory, walked, bind, Except.bind, found]
  simp only [Files.makeDirectories, taken, upward, List.reverse_eq_nil_iff]
  split_ifs
  · rfl
  · simp [makeAll, ensureDirectory, there, leads]

/-! ### Adding to a file -/

/-- A path below a directory can be located only if the directory is there. -/
theorem stands_of_locate (plain : IsName name)
    (located : fs.locate (join directory name) = .ok goal) : fs.Stands directory := by
  have taken := (locate_eq_ok located).1
  refine ⟨checkPath_of_join taken, ?_⟩
  rw [locate_join fs plain taken] at located
  obtain ⟨above, walked, stepped⟩ := exists_of_bind_eq_ok located
  exact ⟨above, walked, (step_eq_ok stepped).1⟩

theorem ne_root_of_find? (no_directory : fs.find? place ≠ some .directory) : place ≠ [] := by
  rintro rfl
  exact no_directory rfl

/-- A file takes the place of no directory. -/
theorem grows_set (no_directory : fs.find? place ≠ some .directory) (content : List UInt8) :
    fs.Grows (fs.set place (.file content)) := by
  refine ⟨rfl, fun other found => ?_⟩
  rw [find?_set fs (ne_root_of_find? no_directory), if_neg, found]
  rintro rfl
  exact no_directory found

theorem content?_set (named : place ≠ []) (content : List UInt8) (other : Place) :
    (fs.set place (.file content)).content? other =
      if other = place then some content else fs.content? other := by
  unfold content?
  rw [find?_set fs named]
  split_ifs <;> rfl

theorem locate_of_grows (grows : fs.Grows next) (located : fs.locate path = .ok goal) :
    next.locate path = .ok goal := by
  have walked := walk_of_grows grows (locate_eq_ok located).2
  unfold locate at located ⊢
  simp only [(locate_eq_ok located).1, bind, Except.bind] at located ⊢
  split_ifs at located ⊢
  all_goals simpa [start_of_here grows.1, *] using walked

/-- Adding to a file puts what it held, if anything, and the rest behind it. -/
theorem append_eq_ok {more : List UInt8} (added : fs.append path more = .ok next) :
    fs.locate path = .ok (fs.destination path) ∧
    fs.find? (fs.destination path) ≠ some .directory ∧
    next = fs.set (fs.destination path)
      (.file ((fs.content? (fs.destination path)).getD [] ++ more)) := by
  obtain ⟨goal, located, added⟩ := exists_of_bind_eq_ok added
  obtain rfl := eq_destination located
  refine ⟨located, ?_⟩
  unfold content?
  split at added
  · cases added
  · rename_i found
    rw [found]
    exact ⟨by simp, (Except.ok.inj added).symm⟩
  · rename_i missing
    rw [missing]
    exact ⟨by simp, (Except.ok.inj added).symm⟩

section Append

variable {more : List UInt8}

theorem grows_append (added : fs.append path more = .ok next) : fs.Grows next := by
  obtain ⟨-, no_directory, rfl⟩ := append_eq_ok added
  exact grows_set no_directory _

/-- Nothing but the file is changed. -/
theorem content?_append (added : fs.append path more = .ok next) (place : Place) :
    next.content? place = if place = fs.destination path then
      some ((fs.content? place).getD [] ++ more) else fs.content? place := by
  obtain ⟨-, no_directory, rfl⟩ := append_eq_ok added
  rw [content?_set (ne_root_of_find? no_directory)]
  split_ifs with same
  · rw [same]
  · rfl

/-- The file can be read afterwards. -/
theorem read_append (added : fs.append path more = .ok next) :
    next.read path = .ok ((fs.content? (fs.destination path)).getD [] ++ more) := by
  have located := locate_of_grows (grows_append added) (append_eq_ok added).1
  have holds := content?_append added (fs.destination path)
  rw [if_pos rfl] at holds
  unfold content? at holds ⊢
  simp only [read, located, bind, Except.bind]
  split at holds
  · rename_i found
    rw [found, Option.some.inj holds]
  · cases holds

end Append

end Changes

end Files

end TaskLedger
