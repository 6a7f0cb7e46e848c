import Mathlib
import TaskLedger.Proofs.Toml.Quoted
import TaskLedger.Toml.Reader

/-!
# The lines of a document are read back

A document is written line by line: a header, or a key with its value.  Each line is read as the
statement that it was written for (`Line`), so a whole document is read as its statements
(`document?_document`).
-/

namespace TaskLedger.Toml

open TaskLedger.Text Quoted

/-! ### Numbers -/

namespace Scalar

open Decimal

theorem grouped?_digits {ds : List Char} (all : ∀ c ∈ ds, isDigit c = true) (some : ds ≠ []) :
    grouped? isDigit ds = .some ds := by
  induction ds with
  | nil => exact absurd rfl some
  | cons c ds ih =>
    rw [List.forall_mem_cons] at all
    cases ds with
    | nil => simp [grouped?, all.1]
    | cons d ds =>
      have later := ih all.2 (List.cons_ne_nil d ds)
      rw [grouped?, if_pos all.1, later, Option.map_some]
      rintro rfl
      exact absurd (all.2 '_' List.mem_cons_self) (by decide)

theorem decimalDigits?_digits (n : Nat) : decimalDigits? (digits n) = some (digits n) := by
  have all (c : Char) (mem : c ∈ digits n) : isDigit c = true := isDigit_of_mem_digits mem
  rw [decimalDigits?, grouped?_digits all (digits_ne_nil n)]
  split
  case h_1 c r zero => exact absurd (Option.some.inj zero) (digits_ne_zero_cons n c r)
  case h_2 => rfl

theorem integer?_digits (n : Nat) : integer? (digits n) = some (n : Int) := by
  have all (c : Char) (mem : c ∈ digits n) : isDigit c = true := isDigit_of_mem_digits mem
  have second {c d : Char} {r : List Char} (eq : digits n = c :: d :: r) : isDigit d = true :=
    all d (eq ▸ List.mem_cons_of_mem _ List.mem_cons_self)
  have unsigned : signOf (digits n) = (false, digits n) := by
    unfold signOf
    split
    case h_1 eq => exact absurd (all '-' (eq ▸ List.mem_cons_self)) (by decide)
    case h_2 eq => exact absurd (all '+' (eq ▸ List.mem_cons_self)) (by decide)
    case h_3 => rfl
  unfold integer?
  split
  case h_1 eq => exact absurd (second eq) (by decide)
  case h_2 eq => exact absurd (second eq) (by decide)
  case h_3 eq => exact absurd (second eq) (by decide)
  case h_4 =>
    simp only [unsigned, decimalDigits?_digits, Option.map_some, value_digits, Bool.false_eq_true,
      if_false]

theorem read?_digits {n : Nat} (small : n < 2 ^ 64) (rest : List Char) :
    read? (digits n ++ '\n' :: rest) = some (.integer n, '\n' :: rest) := by
  have inside (c : Char) (mem : c ∈ digits n) : (!isStop c) = true := by
    have digit : isDigit c = true := isDigit_of_mem_digits mem
    simp only [isStop, List.contains_eq_mem, Bool.not_eq_true', decide_eq_false_iff_not,
      List.mem_cons, List.not_mem_nil, or_false]
    rintro (rfl | rfl | rfl | rfl | rfl | rfl | rfl | rfl | rfl | rfl | rfl | rfl | rfl)
    all_goals exact absurd digit (by decide)
  have stop : ∀ c ∈ ('\n' :: rest).head?, (!isStop c) = false := by
    rintro c ⟨⟩
    decide
  have run := takeWhile_append inside stop
  have behind := dropWhile_append inside stop
  have narrow : isNarrow n = true := by
    simp only [isNarrow, Bool.and_eq_true, decide_eq_true_eq]
    norm_num
    omega
  simp only [read?, run, behind, ofRun?, integer?_digits, narrow, if_true, Option.map_some]
  rfl

end Scalar

/-! ### Keys -/

theorem isSpace_eq_false {c : Char} (h : c ≠ ' ' ∧ c ≠ '\t') : isSpace c = false := by
  rw [isSpace, decide_eq_false h.1, decide_eq_false h.2, Bool.false_or]

/-- How a key begins. -/
theorem key_begins (name : List Char) :
    ∃ c r, Write.key name = c :: r ∧ (c = '"' ∨ c = '\'' ∨ isBare c = true) := by
  simp only [Write.key]
  split_ifs with bare basic literal
  · obtain ⟨some, all⟩ := Bool.and_eq_true_iff.1 bare
    cases name with
    | nil => cases some
    | cons c name => exact ⟨c, name, rfl, .inr (.inr (List.all_eq_true.1 all c List.mem_cons_self))⟩
  · exact ⟨'"', _, rfl, .inl rfl⟩
  · exact ⟨'\'', _, rfl, .inr (.inl rfl)⟩
  · exact ⟨'"', _, rfl, .inl rfl⟩

/-- A bare key ends where something else begins. -/
theorem simpleKey?_bare {name rest : List Char} (some : name ≠ [])
    (bare : ∀ c ∈ name, isBare c = true) (stop : ∀ c ∈ rest.head?, isBare c = false) :
    simpleKey? (name ++ rest) = .some (String.ofList name, rest) := by
  have run := takeWhile_append bare stop
  have head {c : Char} {r : List Char} (eq : name ++ rest = c :: r) : isBare c = true := by
    have first := congrArg List.head? eq
    rw [List.head?_append_of_ne_nil _ some] at first
    exact bare c (List.mem_of_head? first)
  unfold simpleKey?
  split
  case h_1 eq => exact absurd (head eq) (by decide)
  case h_2 eq => exact absurd (head eq) (by decide)
  case h_3 => simp only [run, List.isEmpty_iff, some, if_false, List.drop_left]

theorem simpleKey?_key (name : List Char) {rest : List Char}
    (stop : ∀ c ∈ rest.head?, isBare c = false) :
    simpleKey? (Write.key name ++ rest) = some (String.ofList name, rest) := by
  simp only [Write.key]
  split_ifs with bare basic literal
  · obtain ⟨some, all⟩ := Bool.and_eq_true_iff.1 bare
    exact simpleKey?_bare (by simpa using some) (List.all_eq_true.1 all) stop
  · simpa [Write.basic, Write.between, simpleKey?] using basic_escaped name rest
  · simp only [Bool.and_eq_true, Bool.not_eq_true', List.contains_eq_mem, decide_eq_false_iff_not]
      at literal
    obtain ⟨⟨plain, no_break⟩, no_quote⟩ := literal
    simpa [Write.literal, Write.between, simpleKey?] using
      literal_self (plain_of_no_break plain no_break) no_quote rest
  · simpa [Write.basic, Write.between, simpleKey?] using basic_escaped name rest

/-- A character that begins neither a gap nor a header. -/
def Opens (c : Char) : Prop :=
  isSpace c = false ∧ c ≠ '\n' ∧ c ≠ '\r' ∧ c ≠ '#' ∧ c ≠ '[' ∧ c ≠ '\ufeff'

theorem key_opens (name : List Char) : ∃ c r, Write.key name = c :: r ∧ Opens c := by
  obtain ⟨c, r, eq, rfl | rfl | bare⟩ := key_begins name
  · exact ⟨'"', r, eq, by unfold Opens; decide⟩
  · exact ⟨'\'', r, eq, by unfold Opens; decide⟩
  · have other {d : Char} (h : isBare d = false) : c ≠ d := by
      rintro rfl
      exact absurd bare (Bool.eq_false_iff.1 h)
    exact ⟨c, r, eq, isSpace_eq_false ⟨other (by decide), other (by decide)⟩, other (by decide),
      other (by decide), other (by decide), other (by decide), other (by decide)⟩

theorem skipSpace_cons {c : Char} (h : isSpace c = false) (r : List Char) :
    skipSpace (c :: r) = c :: r :=
  List.dropWhile_cons_of_neg (by simp [h])

theorem skipSpace_key (name rest : List Char) :
    skipSpace (Write.key name ++ rest) = Write.key name ++ rest := by
  obtain ⟨c, r, eq, opens⟩ := key_opens name
  rw [eq, List.cons_append, skipSpace_cons opens.1]

/-! ### Paths -/

theorem path_cons (name : String) (names : List String) (last : String) :
    Write.path (name :: (names ++ [last])) =
      Write.key name.toList ++ '.' :: Write.path (names ++ [last]) := by
  cases names <;> simp [Write.path, List.intercalate]

theorem path_singleton (name : String) : Write.path [name] = Write.key name.toList := by
  simp [Write.path, List.intercalate]

theorem path_opens (names : List String) (last : String) :
    ∃ c r, Write.path (names ++ [last]) = c :: r ∧ Opens c := by
  cases names with
  | nil => rw [List.nil_append, path_singleton]; exact key_opens _
  | cons name names =>
    obtain ⟨c, r, eq, opens⟩ := key_opens name.toList
    exact ⟨c, _, by rw [List.cons_append, path_cons, eq, List.cons_append], opens⟩

/-- Keys joined by points are read back, the last one apart. -/
theorem path?_path (names : List String) (last : String) {more : Nat} (enough : names.length < more)
    {rest : List Char} (stop : ∀ c ∈ rest.head?, isBare c = false)
    (no_point : ∀ c ∈ (skipSpace rest).head?, c ≠ '.') :
    path? more (Write.path (names ++ [last]) ++ rest) = some ((names, last), skipSpace rest) := by
  induction names generalizing more with
  | nil =>
    obtain ⟨more, rfl⟩ := Nat.exists_eq_add_one.2 enough
    rw [List.nil_append, path_singleton, path?, skipSpace_key, simpleKey?_key _ stop]
    simp only [Option.bind_eq_bind, Option.bind_some, String.ofList_toList]
    split
    case h_1 r point => exact absurd rfl (no_point '.' (by rw [point]; rfl))
    case h_2 => rfl
  | cons name names ih =>
    obtain ⟨more, rfl⟩ := Nat.exists_eq_add_one.2 (Nat.zero_lt_of_lt enough)
    have later := ih (Nat.lt_of_succ_lt_succ enough)
    rw [List.cons_append, path_cons, List.append_assoc, path?, skipSpace_key,
      simpleKey?_key _ (by rintro c ⟨⟩; decide), List.cons_append]
    have point := skipSpace_cons (show isSpace '.' = false by decide)
    simp only [Option.bind_eq_bind, Option.bind_some, point, later, String.ofList_toList]

/-! ### Values -/

/-- What a value that is written stands for. -/
def Write.Value.node : Write.Value → Node
  | text s => .scalar (.text s)
  | natural n => .scalar (.integer n)
  | emptyList => .list []

/-- Whether a number has at most 64 bits. -/
def Write.Value.Fits : Write.Value → Prop
  | natural n => n < 2 ^ 64
  | _ => True

/-- How a text begins. -/
theorem quoted_begins (text : List Char) :
    ∃ r, Write.quoted text = '"' :: r ∨ Write.quoted text = '\'' :: r := by
  simp only [Write.quoted]
  split_ifs
  · exact ⟨_, .inl rfl⟩
  · exact ⟨_, .inr rfl⟩
  · exact ⟨_, .inl rfl⟩
  · exact ⟨_, .inr rfl⟩
  · exact ⟨_, .inl rfl⟩
  · exact ⟨_, .inl rfl⟩

theorem gap?_cons {c : Char} (h : isSpace c = false ∧ c ≠ '\n' ∧ c ≠ '\r' ∧ c ≠ '#')
    (r : List Char) : gap? (c :: r) = some (c :: r) := by
  obtain ⟨no_space, no_feed, no_return, no_comment⟩ := h
  have comment : skipComment? (c :: r) = some (c :: r) := by
    unfold skipComment?
    split
    case h_1 eq => exact absurd (List.cons.inj eq).1 no_comment
    case h_2 => rfl
  simp only [gap?, skipGap?, skipSpace_cons no_space, comment, Option.bind_eq_bind,
    Option.bind_some, newLine?_cons ⟨no_feed, no_return⟩]

/-- A value is read back up to the end of its line. -/
theorem value?_chars {value : Write.Value} (fits : value.Fits) (depth : Nat) (rest : List Char) :
    value? (depth + 1) (value.chars ++ '\n' :: rest) = some (value.node, '\n' :: rest) := by
  cases value with
  | text s =>
    have stop : Ends ('\n' :: rest) := ⟨by simp, by simp⟩
    have read := read?_quoted s.toList stop
    rw [String.ofList_toList] at read
    obtain ⟨r, eq | eq⟩ := quoted_begins s.toList
    all_goals
      rw [eq] at read
      rw [Write.Value.chars, eq]
      simp only [List.cons_append, value?, value?.quoted] at read ⊢
      rw [read]
      rfl
  | natural n =>
    have read := Scalar.read?_digits fits rest
    rw [Write.Value.chars]
    unfold value?
    split
    case h_1 eq => exact absurd (Decimal.isDigit_of_digits_append eq) (by decide)
    case h_2 eq => exact absurd (Decimal.isDigit_of_digits_append eq) (by decide)
    case h_3 eq => exact absurd (Decimal.isDigit_of_digits_append eq) (by decide)
    case h_4 eq => exact absurd (Decimal.isDigit_of_digits_append eq) (by decide)
    case h_5 => rw [read]; rfl
  | emptyList =>
    have bracket : isSpace ']' = false ∧ ']' ≠ '\n' ∧ ']' ≠ '\r' ∧ ']' ≠ '#' := by decide
    have close := gap?_cons bracket ('\n' :: rest)
    simp [Write.Value.chars, value?, items?, close, Write.Value.node]

/-! ### Lines -/

/-- A line of a statement.  It does not begin with a mark of the byte order, and the reader takes it
for the statement, whatever follows. -/
structure Line (cs : List Char) (statement : Statement) : Prop where
  begins : ∃ c r, cs = c :: r ∧ c ≠ '\ufeff'
  read : ∀ (fuel : Nat) (seen : List Statement) (rest : List Char),
    statements? (fuel + 1) seen (cs ++ rest) = statements? fuel (statement :: seen) rest

/-- A line is taken for a statement if it reads as one behind its gap. -/
theorem line_of_statement? {cs : List Char} {statement : Statement}
    (begins : ∃ c r, cs = c :: r ∧ c ≠ '\ufeff')
    (h : ∀ rest, ∃ start, gap? (cs ++ rest) = some start ∧ start ≠ [] ∧
      statement? start = some (statement, '\n' :: rest)) : Line cs statement := by
  refine ⟨begins, fun fuel seen rest => ?_⟩
  obtain ⟨start, gap, some, found⟩ := h rest
  have line_end : endOfLine? ('\n' :: rest) = .some rest := by
    simp [endOfLine?, skipSpace_cons (show isSpace '\n' = false by decide), skipComment?, newLine?]
  simp only [statements?, gap, Option.bind_eq_bind, Option.bind_some, List.isEmpty_iff, some,
    if_false, found, line_end]

theorem skipSpace_space {c : Char} (h : isSpace c = false) (r : List Char) :
    skipSpace (' ' :: c :: r) = c :: r :=
  skipSpace_cons h r

/-- A value does not begin with a space. -/
theorem skipSpace_chars (value : Write.Value) (rest : List Char) :
    skipSpace (' ' :: (value.chars ++ rest)) = value.chars ++ rest := by
  cases value with
  | text s =>
    obtain ⟨r, eq | eq⟩ := quoted_begins s.toList
    all_goals rw [Write.Value.chars, eq]; exact skipSpace_space (by decide) _
  | natural n =>
    obtain ⟨d, ds, eq, digit⟩ := Decimal.digits_begins n
    have no_space : d ≠ ' ' ∧ d ≠ '\t' := by
      constructor
      all_goals rintro rfl; exact absurd digit (by decide)
    rw [Write.Value.chars, eq]
    exact skipSpace_space (isSpace_eq_false no_space) _
  | emptyList => exact skipSpace_space (by decide) _

/-- What begins with a key is read as its assignment. -/
theorem statement?_key (name : String) {r rest : List Char} {node : Node}
    (found : value? maxDepth (skipSpace r) = some (node, rest)) :
    statement? (Write.key name.toList ++ ' ' :: '=' :: r) =
      some (.assignment [] name node, rest) := by
  obtain ⟨c, tail, eq, -, -, -, -, bracket, -⟩ := key_opens name.toList
  have sign := skipSpace_space (show isSpace '=' = false by decide) r
  have keys : keys? (Write.key name.toList ++ ' ' :: '=' :: r) = some (([], name), '=' :: r) := by
    have stop : ∀ c ∈ (' ' :: '=' :: r).head?, isBare c = false := by
      rintro c ⟨⟩
      decide
    have read := path?_path [] name (show ([] : List String).length < maxKeys by decide) stop
      (by rw [sign]; rintro c ⟨⟩; decide)
    rwa [sign, List.nil_append, path_singleton] at read
  unfold statement?
  split
  case h_1 start => rw [eq] at start; exact absurd (List.cons.inj start).1 bracket
  case h_2 start => rw [eq] at start; exact absurd (List.cons.inj start).1 bracket
  case h_3 =>
    simp only [keys, Option.bind_eq_bind, Option.bind_some, found]

theorem line_member (name : String) {value : Write.Value} (fits : value.Fits) :
    Line (Write.member (name, value)) (.assignment [] name value.node) := by
  obtain ⟨c, r, eq, space, feed, ret, comment, -, mark⟩ := key_opens name.toList
  refine line_of_statement? ⟨c, r ++ ' ' :: '=' :: ' ' :: value.chars ++ ['\n'], ?_, mark⟩
    fun rest => ?_
  · simp [Write.member, eq]
  have shape : Write.member (name, value) ++ rest = Write.key name.toList ++
      ' ' :: '=' :: ' ' :: (value.chars ++ '\n' :: rest) := by
    simp [Write.member]
  refine ⟨Write.member (name, value) ++ rest, ?_, ?_, ?_⟩
  · rw [shape, eq, List.cons_append]
    exact gap?_cons ⟨space, feed, ret, comment⟩ _
  · rw [shape, eq]
    exact List.cons_ne_nil _ _
  · rw [shape]
    refine statement?_key name ?_
    rw [skipSpace_chars]
    exact value?_chars fits 79 rest

/-- Behind a blank line a header is at the head of the text. -/
theorem gap?_newLine (r : List Char) : gap? ('\n' :: '[' :: r) = some ('[' :: r) := by
  have bracket : isSpace '[' = false ∧ '[' ≠ '\n' ∧ '[' ≠ '\r' ∧ '[' ≠ '#' := by decide
  have start := gap?_cons bracket r
  have comment : skipComment? ('\n' :: '[' :: r) = some ('\n' :: '[' :: r) := rfl
  rw [gap?, skipGap?, skipSpace_cons (by decide), comment]
  exact start

theorem headerKeys?_path (names : List String) (last : String) (few : names.length < maxKeys)
    (close rest : List Char) : headerKeys? (']' :: close)
      (Write.path (names ++ [last]) ++ ']' :: (close ++ rest)) = some ((names, last), rest) := by
  have stop : ∀ c ∈ (']' :: (close ++ rest)).head?, isBare c = false := by
    rintro c ⟨⟩
    decide
  have bracket := skipSpace_cons (show isSpace ']' = false by decide) (close ++ rest)
  have keys := path?_path names last few stop (by rw [bracket]; rintro c ⟨⟩; decide)
  rw [bracket] at keys
  simp [headerKeys?, keys?, keys]

theorem line_table (names : List String) (last : String) (few : names.length < maxKeys) :
    Line (Write.Header.table (names ++ [last])).chars (.header names last) := by
  refine line_of_statement? ⟨'\n', _, rfl, by decide⟩ fun rest => ?_
  have shape : (Write.Header.table (names ++ [last])).chars ++ rest =
      '\n' :: '[' :: (Write.path (names ++ [last]) ++ ']' :: ([] ++ '\n' :: rest)) := by
    simp [Write.Header.chars]
  rw [shape]
  refine ⟨_, gap?_newLine _, List.cons_ne_nil _ _, ?_⟩
  unfold statement?
  split
  case h_1 r start =>
    -- the first key of a path is no bracket
    obtain ⟨c, tail, eq, -, -, -, -, bracket, -⟩ := path_opens names last
    rw [eq] at start
    exact absurd (List.cons.inj (List.cons.inj start).2).1 bracket
  case h_2 start =>
    rw [← (List.cons.inj start).2, headerKeys?_path names last few]
    rfl
  case h_3 other => exact absurd rfl (other _)

theorem line_item (names : List String) (last : String) (few : names.length < maxKeys) :
    Line (Write.Header.item (names ++ [last])).chars (.itemHeader names last) := by
  refine line_of_statement? ⟨'\n', _, rfl, by decide⟩ fun rest => ?_
  have shape : (Write.Header.item (names ++ [last])).chars ++ rest =
      '\n' :: '[' :: '[' :: (Write.path (names ++ [last]) ++ ']' :: ([']'] ++ '\n' :: rest)) := by
    simp [Write.Header.chars]
  rw [shape]
  refine ⟨_, gap?_newLine _, List.cons_ne_nil _ _, ?_⟩
  rw [statement?, headerKeys?_path names last few]
  rfl

/-! ### Documents -/

namespace Write

/-- The statements of a header. -/
def Header.statements : Header → List Statement
  | none => []
  | table names => names.getLast?.toList.map (.header names.dropLast)
  | item names => names.getLast?.toList.map (.itemHeader names.dropLast)

/-- Whether a header has a path, and one that is not too long. -/
def Header.Fits : Header → Prop
  | none => True
  | table names => names ≠ [] ∧ names.length ≤ maxKeys
  | item names => names ≠ [] ∧ names.length ≤ maxKeys

/-- What the members of a section stand for. -/
def nodes (members : List (String × Value)) : Members :=
  members.map fun member => (member.1, member.2.node)

namespace Section

/-- The statements of a section. -/
def statements (s : Section) : List Statement :=
  s.header.statements ++ (nodes s.members).map fun member => .assignment [] member.1 member.2

/-- Whether a section has a header that fits, and values that do. -/
def Fits (s : Section) : Prop :=
  s.header.Fits ∧ ∀ member ∈ s.members, member.2.Fits

end Section

end Write

theorem lines_header {header : Write.Header} (fits : header.Fits) :
    ∃ lines, lines.flatten = header.chars ∧ List.Forall₂ Line lines header.statements := by
  cases header with
  | none => exact ⟨[], rfl, .nil⟩
  | table names =>
    obtain ⟨front, last, rfl⟩ := (List.eq_nil_or_concat' names).resolve_left fits.1
    have few : front.length < maxKeys := by
      rw [← Nat.succ_le_iff, Nat.succ_eq_add_one, ← List.length_concat, List.concat_eq_append]
      exact fits.2
    refine ⟨[_], List.flatten_singleton, ?_⟩
    simpa [Write.Header.statements] using line_table front last few
  | item names =>
    obtain ⟨front, last, rfl⟩ := (List.eq_nil_or_concat' names).resolve_left fits.1
    have few : front.length < maxKeys := by
      rw [← Nat.succ_le_iff, Nat.succ_eq_add_one, ← List.length_concat, List.concat_eq_append]
      exact fits.2
    refine ⟨[_], List.flatten_singleton, ?_⟩
    simpa [Write.Header.statements] using line_item front last few

theorem lines_section {s : Write.Section} (fits : s.Fits) :
    ∃ lines, lines.flatten = s.chars ∧ List.Forall₂ Line lines s.statements := by
  obtain ⟨head, head_eq, header⟩ := lines_header fits.1
  refine ⟨head ++ s.members.map Write.member, ?_, ?_⟩
  · rw [List.flatten_append, head_eq, Write.Section.chars, List.flatMap_def]
  · refine List.rel_append header ?_
    rw [Write.nodes, List.map_map]
    refine List.forall₂_map_left_iff.2 (List.forall₂_map_right_iff.2 ?_)
    exact List.forall₂_same.2 fun member mem => line_member member.1 (fits.2 member mem)

theorem lines_sections {sections : List Write.Section} (fits : ∀ s ∈ sections, s.Fits) :
    ∃ lines, lines.flatten = sections.flatMap Write.Section.chars ∧
      List.Forall₂ Line lines (sections.flatMap Write.Section.statements) := by
  induction sections with
  | nil => exact ⟨[], rfl, .nil⟩
  | cons s sections ih =>
    rw [List.forall_mem_cons] at fits
    obtain ⟨head, head_eq, first⟩ := lines_section fits.1
    obtain ⟨tail, tail_eq, later⟩ := ih fits.2
    refine ⟨head ++ tail, ?_, List.rel_append first later⟩
    rw [List.flatten_append, head_eq, tail_eq, List.flatMap_cons]

theorem statements?_lines {lines : List (List Char)} {statements : List Statement}
    (h : List.Forall₂ Line lines statements) {fuel : Nat} (enough : statements.length < fuel)
    (seen : List Statement) :
    statements? fuel seen lines.flatten = some (seen.reverse ++ statements) := by
  induction h generalizing fuel seen with
  | nil =>
    obtain ⟨fuel, rfl⟩ := Nat.exists_eq_add_one.2 enough
    simp [statements?, gap?, skipGap?, skipSpace, skipComment?, newLine?]
  | cons here later ih =>
    obtain ⟨fuel, rfl⟩ := Nat.exists_eq_add_one.2 (Nat.zero_lt_of_lt enough)
    rw [List.flatten_cons, here.read, ih (Nat.lt_of_succ_lt_succ enough)]
    simp

theorem length_le_flatten {lines : List (List Char)} {statements : List Statement}
    (h : List.Forall₂ Line lines statements) : statements.length ≤ lines.flatten.length := by
  induction h with
  | nil => exact le_rfl
  | cons here later ih =>
    obtain ⟨c, r, rfl, -⟩ := here.begins
    simp only [List.flatten_cons, List.length_append, List.length_cons]
    omega

theorem skipByteOrderMark_lines {lines : List (List Char)} {statements : List Statement}
    (h : List.Forall₂ Line lines statements) :
    skipByteOrderMark lines.flatten = lines.flatten := by
  cases h with
  | nil => rfl
  | cons here later =>
    obtain ⟨c, r, rfl, mark⟩ := here.begins
    unfold skipByteOrderMark
    split
    case h_1 eq => exact absurd (List.cons.inj eq).1 mark
    case h_2 => rfl

/-- A document is read as the statements of its sections. -/
theorem document?_document {sections : List Write.Section} (fits : ∀ s ∈ sections, s.Fits) :
    document? (Write.document sections) =
      ((sections.flatMap Write.Section.statements).foldlM Draft.add? ⟨[], none⟩).map
        Draft.members := by
  obtain ⟨lines, text, read⟩ := lines_sections fits
  have enough := Nat.lt_succ_of_le (length_le_flatten read)
  rw [document?, Write.document, String.toList_ofList, ← text, skipByteOrderMark_lines read]
  simp only [statements?_lines read enough, List.reverse_nil, List.nil_append,
    Option.bind_eq_bind, Option.bind_some]
  exact (Option.map_eq_bind ..).symm

end TaskLedger.Toml
