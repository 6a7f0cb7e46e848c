import Mathlib
import TaskLedger.Proofs.Text.Decimal
import TaskLedger.Toml.Quoted
import TaskLedger.Toml.Writer

/-!
# Quoted texts are read back

Whatever characters a text has, the form that is chosen for it holds it: `Quoted.read?_quoted`.

`Written` relates a text to what may stand for it between quotes, in all four forms.  A reader goes
through both at once: `upTo_written` up to a single quote, `upToThree_written` up to three of them,
of which one or two more may belong to the text.
-/

namespace TaskLedger.Toml.Quoted

open TaskLedger.Text

/-! ### Escapes -/

/-- Behind a backslash, the code stands for the character, and the backslash does not join two
lines. -/
structure Escape (c : Char) (code : List Char) : Prop where
  found : ∀ rest, escaped? (code ++ rest) = some (c, rest)
  on_line : ∀ rest, continued? (code ++ rest) = none

theorem newLine?_cons {d : Char} (h : d ≠ '\n' ∧ d ≠ '\r') (rest : List Char) :
    newLine? (d :: rest) = none := by
  unfold newLine?
  split
  case h_1 eq => exact absurd (List.cons.inj eq).1 h.1
  case h_2 eq => exact absurd (List.cons.inj eq).1 h.2
  case h_3 => rfl

/-- A backslash joins lines only in front of a space or a line break. -/
theorem continued?_cons {d : Char} (h : isSpace d = false ∧ d ≠ '\n' ∧ d ≠ '\r')
    (rest : List Char) : continued? (d :: rest) = none := by
  rw [continued?, List.dropWhile_cons_of_neg (by simp [h.1]), newLine?_cons h.2]
  rfl

theorem escape_letter {c d : Char} (h : ∀ rest, escaped? (d :: rest) = some (c, rest))
    (on_line : isSpace d = false ∧ d ≠ '\n' ∧ d ≠ '\r') : Escape c [d] :=
  ⟨h, continued?_cons on_line⟩

/-- A character below 128 by its number. -/
theorem escape_number {c : Char} (small : c.toNat < 128) :
    Escape c ('u' :: (Decimal.hexPadded 4 c.toNat).map Char.toUpper) := by
  refine ⟨fun rest => ?_, fun rest => continued?_cons (by decide) _⟩
  have width : ((Decimal.hexPadded 4 c.toNat).map Char.toUpper).length = 4 := by
    rw [List.length_map]
    exact Decimal.length_hexPadded (by decide) (small.trans (by decide))
  have valid : c.toNat.isValidChar := .inl (small.trans (by decide))
  show numbered? 4 ((Decimal.hexPadded 4 c.toNat).map Char.toUpper ++ rest) = _
  rw [numbered?, List.take_left' width, if_neg (by rw [width]; decide),
    Decimal.hexNumber?_toUpper_hexPadded]
  have same : Char.ofNatAux c.toNat valid = c := Char.toNat_inj.1 rfl
  simp only [valid, dif_pos, same, List.drop_left' width]

/-- What is written for a character that cannot stand for itself is an escape. -/
theorem escape_cases (c : Char) (no_quote : c ≠ '"') :
    (∃ code, Write.escape c = '\\' :: code ∧ Escape c code) ∨
      Write.escape c = [c] ∧ c ≠ '\\' ∧ isPlain c = true := by
  unfold Write.escape
  split_ifs with b t n f r backslash control
  case pos => subst b; exact .inl ⟨_, rfl, escape_letter (fun _ => rfl) (by decide)⟩
  case pos => subst t; exact .inl ⟨_, rfl, escape_letter (fun _ => rfl) (by decide)⟩
  case pos => subst n; exact .inl ⟨_, rfl, escape_letter (fun _ => rfl) (by decide)⟩
  case pos => subst f; exact .inl ⟨_, rfl, escape_letter (fun _ => rfl) (by decide)⟩
  case pos => subst r; exact .inl ⟨_, rfl, escape_letter (fun _ => rfl) (by decide)⟩
  case pos => subst backslash; exact .inl ⟨_, rfl, escape_letter (fun _ => rfl) (by decide)⟩
  case pos => exact .inl ⟨_, rfl, escape_number (by omega)⟩
  case neg =>
    refine .inr ⟨rfl, backslash, ?_⟩
    simp only [isPlain, Bool.or_eq_true, Bool.and_eq_true, decide_eq_true_eq]
    omega

/-! ### What stands between quotes -/

/-- Behind `run` quotes, the second list of characters may stand for the first one: at most `limit`
quotes follow each other, and line breaks stand for themselves if `lines`. -/
inductive Written (close : Char) (escapes : Bool) (limit : Nat) (lines : Bool) :
    Nat → List Char → List Char → Prop
  | nil {run : Nat} : Written close escapes limit lines run [] []
  | quote {run : Nat} {text body : List Char} (few : run < limit)
      (later : Written close escapes limit lines (run + 1) text body) :
      Written close escapes limit lines run (close :: text) (close :: body)
  | plain {run : Nat} {c : Char} {text body : List Char} (no_quote : c ≠ close)
      (no_escape : escapes = true → c ≠ '\\') (stands : isPlain c = true ∨ lines = true ∧ c = '\n')
      (later : Written close escapes limit lines 0 text body) :
      Written close escapes limit lines run (c :: text) (c :: body)
  | escape {run : Nat} {c : Char} {code text body : List Char} (allowed : escapes = true)
      (code_eq : Escape c code) (later : Written close escapes limit lines 0 text body) :
      Written close escapes limit lines run (c :: text) ('\\' :: code ++ body)

variable {close : Char} {escapes lines : Bool} {limit run : Nat} {text body : List Char}

theorem written_escaped (limit : Nat) (lines : Bool) (run : Nat) (text : List Char) :
    Written '"' true limit lines run text (Write.escaped limit lines run text) := by
  induction text generalizing run with
  | nil => exact .nil
  | cons c text ih =>
    unfold Write.escaped
    split_ifs with quote few newLine
    case pos => subst quote; exact .quote few (ih _)
    case neg => subst quote; exact .escape rfl (escape_letter (fun _ => rfl) (by decide)) (ih 0)
    case pos =>
      obtain ⟨allowed, rfl⟩ := newLine
      exact .plain (by decide) (fun _ => by decide) (.inr ⟨allowed, rfl⟩) (ih 0)
    case neg =>
      rcases escape_cases c quote with ⟨code, eq, found⟩ | ⟨eq, no_backslash, plain⟩
      · rw [eq]
        exact .escape rfl found (ih 0)
      · rw [eq]
        exact .plain quote (fun _ => no_backslash) (.inl plain) (ih 0)

theorem le_longestRun (c : Char) (here : Nat) (text : List Char) :
    here ≤ Write.longestRun c here text := by
  induction text generalizing here with
  | nil => exact le_rfl
  | cons d text ih =>
    unfold Write.longestRun
    split
    · exact (Nat.le_succ here).trans (ih _)
    · exact le_max_left _ _

theorem written_self {limit : Nat} {lines : Bool} {text : List Char}
    (stands : ∀ c ∈ text, isPlain c = true ∨ lines = true ∧ c = '\n') (run : Nat)
    (few : Write.longestRun close run text ≤ limit) :
    Written close false limit lines run text text := by
  induction text generalizing run with
  | nil => exact .nil
  | cons c text ih =>
    rw [List.forall_mem_cons] at stands
    unfold Write.longestRun at few
    split at few
    case isTrue quote =>
      subst quote
      exact .quote ((le_longestRun c (run + 1) text).trans few) (ih stands.2 _ few)
    case isFalse other =>
      exact .plain other nofun stands.1 (ih stands.2 0 ((le_max_right _ _).trans few))

/-! ### Reading up to the quotes -/

theorem Written.length_le (h : Written close escapes limit lines run text body) :
    text.length ≤ body.length := by
  induction h with
  | nil => exact le_rfl
  | quote few later ih => exact Nat.succ_le_succ ih
  | plain no_quote no_escape stands later ih => exact Nat.succ_le_succ ih
  | escape allowed code_eq later ih =>
    simp only [List.cons_append, List.length_cons, List.length_append]
    omega

/-- A text up to a single quote is read back. -/
theorem upTo_written (h : Written close escapes 0 false run text body) (other : close ≠ '\\')
    {fuel : Nat} (enough : text.length < fuel) (seen rest : List Char) :
    upTo close escapes fuel seen (body ++ close :: rest) =
      some (String.ofList (seen.reverse ++ text), rest) := by
  induction h generalizing fuel seen with
  | nil =>
    obtain ⟨fuel, rfl⟩ := Nat.exists_eq_add_one.2 enough
    simp [upTo]
  | quote few => exact absurd few (Nat.not_lt_zero _)
  | @plain _ c _ _ no_quote no_escape stands later ih =>
    obtain ⟨fuel, rfl⟩ := Nat.exists_eq_add_one.2 (Nat.zero_lt_of_lt enough)
    have next := ih (Nat.lt_of_succ_lt_succ enough) (c :: seen)
    have no_code : ¬ (escapes = true ∧ c = '\\') := fun h => no_escape h.1 h.2
    have plain : isPlain c = true := stands.resolve_right fun h => Bool.false_ne_true h.1
    simpa [upTo, no_quote, no_code, plain] using next
  | @escape _ c _ _ _ allowed code_eq later ih =>
    obtain ⟨fuel, rfl⟩ := Nat.exists_eq_add_one.2 (Nat.zero_lt_of_lt enough)
    have next := ih (Nat.lt_of_succ_lt_succ enough) (c :: seen)
    simpa [upTo, other.symm, allowed, code_eq.found] using next

/-- Behind a quote, at most one more is left of the text, or soon something else follows. -/
theorem Written.behind_quote (h : Written close escapes 2 lines (run + 1) text body)
    (other : close ≠ '\\') : text = [] ∧ body = [] ∨ text = [close] ∧ body = [close] ∨
      ∃ c r, c ≠ close ∧ (body = c :: r ∨ body = close :: c :: r) := by
  cases h with
  | nil => exact .inl ⟨rfl, rfl⟩
  | plain no_quote => exact .inr (.inr ⟨_, _, no_quote, .inl rfl⟩)
  | escape => exact .inr (.inr ⟨'\\', _, other.symm, .inl rfl⟩)
  | quote few later =>
    cases later with
    | nil => exact .inr (.inl ⟨rfl, rfl⟩)
    | plain no_quote => exact .inr (.inr ⟨_, _, no_quote, .inr rfl⟩)
    | escape => exact .inr (.inr ⟨'\\', _, other.symm, .inr rfl⟩)
    | quote more => exact absurd more (by omega)

/-- A text up to three quotes is read back. -/
theorem upToThree_written (h : Written close escapes 2 true run text body) (other : close ≠ '\\')
    (close_plain : isPlain close = true) {rest : List Char} (stop : rest.head? ≠ some close)
    {fuel : Nat} (enough : text.length < fuel) (seen : List Char) :
    upToThree close escapes fuel seen (body ++ close :: close :: close :: rest) =
      some (String.ofList (seen.reverse ++ text), rest) := by
  have no_quotes (n : Nat) : (rest.take n).takeWhile (· = close) = [] := by
    cases rest with
    | nil => simp
    | cons c r => cases n <;> simp_all
  induction h generalizing fuel seen with
  | nil =>
    obtain ⟨fuel, rfl⟩ := Nat.exists_eq_add_one.2 enough
    simp [upToThree, no_quotes]
  | @quote run text body few later ih =>
    obtain ⟨fuel, rfl⟩ := Nat.exists_eq_add_one.2 (Nat.zero_lt_of_lt enough)
    have next := ih (Nat.lt_of_succ_lt_succ enough) (close :: seen)
    rcases later.behind_quote other with ⟨rfl, rfl⟩ | ⟨rfl, rfl⟩ | ⟨c, r, no_quote, eq⟩
    · simp [upToThree, no_quotes]
    · simp [upToThree]
    · have more : (body ++ close :: close :: close :: rest).take 2 ≠ [close, close] := by
        rcases eq with rfl | rfl <;> simp [no_quote]
      simpa [upToThree, more, other, close_plain] using next
  | @plain _ c _ _ no_quote no_escape stands later ih =>
    obtain ⟨fuel, rfl⟩ := Nat.exists_eq_add_one.2 (Nat.zero_lt_of_lt enough)
    have next := ih (Nat.lt_of_succ_lt_succ enough) (c :: seen)
    have no_code : ¬ (escapes = true ∧ c = '\\') := fun h => no_escape h.1 h.2
    have stands (r : List Char) : isPlain c = true ∨ (newLine? (c :: r)).isSome := by
      rcases stands with plain | ⟨-, rfl⟩
      · exact .inl plain
      · exact .inr rfl
    simpa [upToThree, no_quote, no_code, stands] using next
  | @escape _ c _ _ _ allowed code_eq later ih =>
    obtain ⟨fuel, rfl⟩ := Nat.exists_eq_add_one.2 (Nat.zero_lt_of_lt enough)
    have next := ih (Nat.lt_of_succ_lt_succ enough) (c :: seen)
    simpa [upToThree, other.symm, allowed, code_eq.on_line, code_eq.found] using next

/-! ### Single quotes -/

theorem basic_escaped (text rest : List Char) :
    basic (Write.escaped 0 false 0 text ++ '"' :: rest) = some (String.ofList text, rest) := by
  have h := written_escaped 0 false 0 text
  have enough := h.length_le
  rw [basic, upTo_written h (by decide) (by rw [List.length_append]; omega)]
  rfl

theorem longestRun_eq_zero {c : Char} {text : List Char} (h : c ∉ text) :
    Write.longestRun c 0 text = 0 := by
  induction text with
  | nil => rfl
  | cons d text ih =>
    rw [List.mem_cons, not_or] at h
    rw [Write.longestRun, if_neg (Ne.symm h.1), ih h.2, max_self]

theorem written_literal {text : List Char} (plain : ∀ c ∈ text, isPlain c = true)
    (no_quote : '\'' ∉ text) : Written '\'' false 0 false 0 text text :=
  written_self (fun c mem => .inl (plain c mem)) 0 (longestRun_eq_zero no_quote).le

theorem literal_self {text : List Char} (plain : ∀ c ∈ text, isPlain c = true)
    (no_quote : '\'' ∉ text) (rest : List Char) :
    literal (text ++ '\'' :: rest) = some (String.ofList text, rest) := by
  rw [literal, upTo_written (written_literal plain no_quote) (by decide)
    (by rw [List.length_append]; omega)]
  rfl

/-! ### Three quotes -/

/-- A line break behind the opening quotes is there only for a text with line breaks. -/
theorem Written.newLine? (h : Written close escapes limit lines run text body)
    (close_plain : isPlain close = true) (rest : List Char) :
    (newLine? ((if '\n' ∈ text then ['\n'] else []) ++ (body ++ close :: rest))).getD
      ((if '\n' ∈ text then ['\n'] else []) ++ (body ++ close :: rest)) =
        body ++ close :: rest := by
  have no_break {c : Char} (plain : isPlain c = true) : c ≠ '\n' ∧ c ≠ '\r' := by
    constructor
    all_goals rintro rfl; exact absurd plain (by decide)
  by_cases has : '\n' ∈ text
  · rw [if_pos has]
    rfl
  · rw [if_neg has, List.nil_append]
    cases h with
    | nil => rw [List.nil_append, newLine?_cons (no_break close_plain)]; rfl
    | quote => rw [List.cons_append, newLine?_cons (no_break close_plain)]; rfl
    | plain no_quote no_escape stands =>
      rw [List.mem_cons, not_or] at has
      have plain := stands.resolve_right fun h => has.1 h.2.symm
      rw [List.cons_append, newLine?_cons (no_break plain)]
      rfl
    | escape => rw [List.cons_append, List.cons_append, newLine?_cons (by decide)]; rfl

theorem multiLineBasic_escaped (text : List Char) {rest : List Char}
    (stop : rest.head? ≠ some '"') :
    multiLineBasic ((if '\n' ∈ text then ['\n'] else []) ++ (Write.escaped 2 true 0 text ++
      '"' :: '"' :: '"' :: rest)) = some (String.ofList text, rest) := by
  have h := written_escaped 2 true 0 text
  have enough := h.length_le
  rw [multiLineBasic, h.newLine? (by decide), upToThree_written h (by decide) (by decide) stop
    (by simp only [List.length_append]; omega)]
  rfl

theorem multiLineLiteral_self {text : List Char}
    (stands : ∀ c ∈ text, isPlain c = true ∨ true = true ∧ c = '\n')
    (few : Write.longestRun '\'' 0 text ≤ 2) {rest : List Char} (stop : rest.head? ≠ some '\'') :
    multiLineLiteral ((if '\n' ∈ text then ['\n'] else []) ++ (text ++
      '\'' :: '\'' :: '\'' :: rest)) = some (String.ofList text, rest) := by
  have h := written_self stands 0 few
  rw [multiLineLiteral, h.newLine? (by decide), upToThree_written h (by decide) (by decide) stop
    (by simp only [List.length_append]; omega)]
  rfl

/-! ### The form of a text -/

/-- A text that does not go on with a quote of either kind. -/
def Ends (rest : List Char) : Prop :=
  rest.head? ≠ some '"' ∧ rest.head? ≠ some '\''

/-- A single opening quote is not taken for three of them. -/
theorem Written.not_three (h : Written close escapes 0 lines run text body) (other : close ≠ '\\')
    {rest : List Char} (stop : rest.head? ≠ some close) (r : List Char) :
    body ++ close :: rest ≠ close :: close :: r := by
  intro eq
  cases h with
  | nil => exact stop (by rw [(List.cons.inj eq).2]; rfl)
  | quote few => exact absurd few (Nat.not_lt_zero _)
  | plain no_quote => exact no_quote (List.cons.inj eq).1
  | escape => exact other (List.cons.inj eq).1.symm

theorem read?_basic (text : List Char) {rest : List Char} (stop : Ends rest) :
    read? (Write.basic text ++ rest) = some (String.ofList text, rest) := by
  have single := (written_escaped 0 false 0 text).not_three (by decide) stop.1
  have shape : Write.basic text ++ rest =
      '"' :: (Write.escaped 0 false 0 text ++ '"' :: rest) := by
    simp [Write.basic, Write.between]
  rw [shape]
  unfold read?
  split
  case h_1 eq => exact absurd (List.cons.inj eq).2 (single _)
  case h_2 eq => rw [← (List.cons.inj eq).2, basic_escaped]
  case h_3 eq => cases eq
  case h_4 eq => cases eq
  case h_5 other _ _ => exact absurd rfl (other _)

theorem read?_literal {text : List Char} (plain : ∀ c ∈ text, isPlain c = true)
    (no_quote : '\'' ∉ text) {rest : List Char} (stop : Ends rest) :
    read? (Write.literal text ++ rest) = some (String.ofList text, rest) := by
  have single := (written_literal plain no_quote).not_three (by decide) stop.2
  have shape : Write.literal text ++ rest = '\'' :: (text ++ '\'' :: rest) := by
    simp [Write.literal, Write.between]
  rw [shape]
  unfold read?
  split
  case h_1 eq => cases eq
  case h_2 eq => cases eq
  case h_3 eq => exact absurd (List.cons.inj eq).2 (single _)
  case h_4 eq => rw [← (List.cons.inj eq).2, literal_self plain no_quote]
  case h_5 other => exact absurd rfl (other _)

theorem read?_multiLineBasic (text : List Char) {rest : List Char} (stop : Ends rest) :
    read? (Write.multiLineBasic text ++ rest) = some (String.ofList text, rest) := by
  rw [← multiLineBasic_escaped text stop.1]
  simp [Write.multiLineBasic, Write.between, read?]

theorem read?_multiLineLiteral {text : List Char}
    (stands : ∀ c ∈ text, isPlain c = true ∨ true = true ∧ c = '\n')
    (few : Write.longestRun '\'' 0 text ≤ 2) {rest : List Char} (stop : Ends rest) :
    read? (Write.multiLineLiteral text ++ rest) = some (String.ofList text, rest) := by
  rw [← multiLineLiteral_self stands few stop.2]
  simp [Write.multiLineLiteral, Write.between, read?]

/-- A character without a control code stands for itself, on its line or as its end. -/
theorem stands_of_isControl {c : Char} (h : Write.isControl c = false) :
    isPlain c = true ∨ c = '\n' := by
  simp only [Write.isControl, Bool.and_eq_false_iff, Bool.or_eq_false_iff, decide_eq_false_iff_not,
    not_not] at h
  simp only [isPlain, Bool.or_eq_true, Bool.and_eq_true, decide_eq_true_eq]
  rcases h with (plain | newLine) | tab
  · exact .inl (.inr ⟨by omega, plain.2⟩)
  · exact .inr newLine
  · exact .inl (.inl tab)

/-- Texts without control codes hold what stands for itself, on its line or as its end. -/
theorem stands_of_plain {text : List Char} (plain : text.any Write.isControl = false) :
    ∀ c ∈ text, isPlain c = true ∨ c = '\n' :=
  fun c mem => stands_of_isControl (Bool.not_eq_true _ ▸ List.any_eq_false.1 plain c mem)

theorem plain_of_no_break {text : List Char} (plain : text.any Write.isControl = false)
    (no_break : '\n' ∉ text) : ∀ c ∈ text, isPlain c = true := by
  intro c mem
  refine (stands_of_plain plain c mem).resolve_right ?_
  rintro rfl
  exact no_break mem

/-- A text is read back from the form that is chosen for it. -/
theorem read?_quoted (text : List Char) {rest : List Char} (stop : Ends rest) :
    read? (Write.quoted text ++ rest) = some (String.ofList text, rest) := by
  simp only [Write.quoted]
  split_ifs with oneLine literal lines literalLines
  · exact read?_basic text stop
  · simp only [Bool.and_eq_true, Bool.not_eq_true', List.contains_eq_mem, decide_eq_false_iff_not]
      at literal
    obtain ⟨⟨plain, no_quote⟩, no_break⟩ := literal
    exact read?_literal (plain_of_no_break plain no_break) no_quote stop
  · exact read?_multiLineBasic text stop
  · simp only [Bool.and_eq_true, Bool.not_eq_true', decide_eq_true_eq] at literalLines
    obtain ⟨plain, few⟩ := literalLines
    have stands (c : Char) (mem : c ∈ text) : isPlain c = true ∨ true = true ∧ c = '\n' :=
      (stands_of_plain plain c mem).imp_right fun eq => ⟨rfl, eq⟩
    exact read?_multiLineLiteral stands few stop
  · exact read?_multiLineBasic text stop
  · exact read?_basic text stop

end TaskLedger.Toml.Quoted
