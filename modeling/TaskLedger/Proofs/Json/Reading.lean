import Mathlib
import TaskLedger.Json.Compound
import TaskLedger.Proofs.Json.Layout

/-!
# Values are read back from their texts

`Reads read tree a` says that a reader finds `a` in every text of a tree, with any gap in front and
with anything behind that does not go on with a number.  Each kind of reader has its lemma:

* `reads_natural`, `reads_text`, `reads_optional`: single values;
* `reads_sequence`, `reads_dictionary`, `reads_record`, `reads_variant`: values with parts;
* `document_eq`: whole texts.
-/

namespace TaskLedger.Json

open TaskLedger.Text

variable {ε α β σ : Type} {gap rest : List Char}

/-! ### Gaps and ends -/

theorem skipGap_append (h : Gap gap) (cs : List Char) : skipGap (gap ++ cs) = skipGap cs :=
  List.dropWhile_append_of_pos h

/-- A gap ends where something else begins. -/
theorem skipGap_append_cons (h : Gap gap) {c : Char} (no_gap : isGap c = false) :
    skipGap (gap ++ c :: rest) = c :: rest := by
  rw [skipGap_append h, skipGap_cons_of_not no_gap]

theorem mark_append {c : Char} (no_gap : isGap c = false) (h : Gap gap) :
    mark (ε := ε) c (gap ++ c :: rest) = .ok rest := by
  rw [mark, skipGap_append_cons h no_gap]
  simp

theorem isGap_of_isDigit {c : Char} (h : Decimal.isDigit c = true) : isGap c = false := by
  by_contra blank
  simp only [isGap, Bool.not_eq_false, Bool.or_eq_true, decide_eq_true_eq] at blank
  rcases blank with ((rfl | rfl) | rfl) | rfl
  all_goals exact absurd h (by decide)

/-- A text that does not go on with a number. -/
def Ends (rest : List Char) : Prop :=
  ∀ c ∈ rest.head?, Decimal.isDigit c = false ∧ c ≠ '.' ∧ c ≠ 'e' ∧ c ≠ 'E'

theorem ends_nil : Ends [] := nofun

theorem ends_cons {c : Char} (h : Decimal.isDigit c = false ∧ c ≠ '.' ∧ c ≠ 'e' ∧ c ≠ 'E') :
    Ends (c :: rest) := by
  rintro d ⟨⟩
  exact h

theorem ends_gap_append {c : Char} (hg : Gap gap)
    (hc : Decimal.isDigit c = false ∧ c ≠ '.' ∧ c ≠ 'e' ∧ c ≠ 'E') :
    Ends (gap ++ c :: rest) := by
  cases gap with
  | nil => exact ends_cons hc
  | cons g gap =>
    have blank := hg g List.mem_cons_self
    simp only [isGap, Bool.or_eq_true, decide_eq_true_eq] at blank
    rcases blank with ((rfl | rfl) | rfl) | rfl
    all_goals exact ends_cons (by decide)

/-! ### What is read -/

/-- The reader finds `a` in every text of the tree. -/
def Reads (read : Reader ε α) (tree : Tree) (a : α) : Prop :=
  ∀ ⦃gap cs rest : List Char⦄, Gap gap → Tree.Spelled tree cs → Ends rest →
    read (gap ++ (cs ++ rest)) = .ok (a, rest)

/-- How the text of a value begins: only `null` with an `n`, and none with the end of a list. -/
theorem Tree.Spelled.head {tree : Tree} {cs : List Char} (h : Spelled tree cs) :
    tree = .null ∧ cs = ['n', 'u', 'l', 'l'] ∨
      ∃ c r, cs = c :: r ∧ isGap c = false ∧ c ≠ ']' ∧ c ≠ 'n' := by
  cases h with
  | null => exact .inl ⟨rfl, rfl⟩
  | natural n =>
    obtain ⟨d, ds, eq, digit⟩ := Decimal.digits_begins n
    refine .inr ⟨d, ds, eq, isGap_of_isDigit digit, ?_, ?_⟩
    all_goals rintro rfl; exact absurd digit (by decide)
  | text s => exact .inr ⟨'"', _, rfl, by decide⟩
  | boolean b =>
    cases b with
    | true => exact .inr ⟨'t', _, rfl, by decide⟩
    | false => exact .inr ⟨'f', _, rfl, by decide⟩
  | list h => exact .inr ⟨'[', _, rfl, by decide⟩
  | object h => exact .inr ⟨'\x7b', _, rfl, by decide⟩

theorem Tree.Spelled.begins {tree : Tree} {cs : List Char} (h : Spelled tree cs) :
    ∃ c r, cs = c :: r ∧ isGap c = false ∧ c ≠ ']' := by
  rcases h.head with ⟨-, eq⟩ | ⟨c, r, eq, no_gap, no_end, -⟩
  · exact ⟨'n', _, eq, by decide⟩
  · exact ⟨c, r, eq, no_gap, no_end⟩

/-! ### Natural numbers -/

theorem le_foldl_digits (n : Nat) (ds : List Char) :
    n ≤ ds.foldl (fun n d => 10 * n + Decimal.digitValue d) n := by
  induction ds generalizing n with
  | nil => exact le_rfl
  | cons d ds ih =>
    have here : n ≤ 10 * n + Decimal.digitValue d := by omega
    exact here.trans (ih _)

/-- No digit of a number below the bound is dropped. -/
theorem addDigits_of_lt (n : Nat) (ds : List Char)
    (h : ds.foldl (fun n d => 10 * n + Decimal.digitValue d) n < significandBound) :
    addDigits n ds = (ds.foldl (fun n d => 10 * n + Decimal.digitValue d) n, ds.length) := by
  induction ds generalizing n with
  | nil => rfl
  | cons d ds ih =>
    have small := (le_foldl_digits (10 * n + Decimal.digitValue d) ds).trans_lt h
    rw [addDigits]
    simp only [small, if_true, ih _ h]
    rfl

theorem wholeDigits_digits (n : Nat) (h : Ends rest) :
    wholeDigits (ε := ε) (Decimal.digits n ++ rest) = .ok (Decimal.digits n, rest) := by
  have run := Decimal.digitsOf_digits (fun _ => Decimal.isDigit_of_mem_digits (n := n))
    (fun c head => (h c head).1)
  rw [wholeDigits, run]
  split
  case h_1 none => exact absurd (congrArg Prod.fst none) (Decimal.digits_ne_nil n)
  case h_2 c r _ zero => exact absurd (congrArg Prod.fst zero) (Decimal.digits_ne_zero_cons n c r)
  case h_3 => rfl

theorem magnitude_digits {n : Nat} (small : n < significandBound) (h : Ends rest) :
    magnitude (ε := ε) (Decimal.digits n ++ rest) = .ok (some n, rest) := by
  have fraction : fractionDigits (ε := ε) rest = .ok (none, rest) := by
    unfold fractionDigits
    split
    case h_1 r => exact absurd rfl (h '.' rfl).2.1
    case h_2 => rfl
  have exponent : exponent? (ε := ε) rest = .ok (none, rest) := by
    cases rest with
    | nil => rfl
    | cons c r =>
      obtain ⟨-, -, lower, upper⟩ := h c rfl
      simp only [exponent?, lower, upper, or_self, if_false]
  have kept : addDigits 0 (Decimal.digits n) = (n, (Decimal.digits n).length) := by
    have value : (Decimal.digits n).foldl (fun n d => 10 * n + Decimal.digitValue d) 0 = n :=
      Decimal.value_digits n
    rw [addDigits_of_lt 0 _ (value.trans_lt small), value]
  simp only [magnitude, bind, Except.bind, wholeDigits_digits n h, fraction, exponent, kept,
    Option.getD_none, addDigits, Option.isNone_none, and_self, if_true]

/-- A number is read back from its digits. -/
theorem number_digits {n : Nat} (small : n < significandBound) (h : Ends rest) :
    number (ε := ε) (Decimal.digits n ++ rest) = .ok (some n, rest) := by
  unfold number
  split
  case h_1 r minus => exact absurd (Decimal.isDigit_of_digits_append minus) (by decide)
  case h_2 => exact magnitude_digits small h

theorem reads_natural {bound n : Nat} (small : bound ≤ significandBound) (h : n < bound) :
    Reads (ε := ε) (natural bound) (.natural n) n := by
  intro gap cs rest hg hc hr
  cases hc
  obtain ⟨d, ds, eq, digit⟩ := Decimal.digits_begins n
  have found := number_digits (ε := ε) (h.trans_le small) hr
  rw [eq, List.cons_append] at found ⊢
  simp only [natural, skipGap_append_cons hg (isGap_of_isDigit digit), beginsNumber, digit,
    Bool.or_true, if_true, found, h]

/-! ### Texts and values that may be absent -/

theorem reads_text (s : String) : Reads (ε := ε) text (.text s) s := by
  intro gap cs rest hg hc hr
  cases hc
  simp only [text, Quoted.chars, List.cons_append, List.append_assoc, List.nil_append,
    skipGap_append_cons hg (show isGap '"' = false by decide), Quoted.body_chars]

theorem reads_optional_none (read : Reader ε α) : Reads (optional read) .null none := by
  intro gap cs rest hg hc hr
  cases hc
  simp only [optional, List.cons_append, skipGap_append_cons hg (show isGap 'n' = false by decide)]
  rfl

theorem reads_optional_some {read : Reader ε α} {tree : Tree} {a : α} (present : tree ≠ .null)
    (h : Reads read tree a) : Reads (optional read) tree (some a) := by
  intro gap cs rest hg hc hr
  have found := h gap_nil hc hr
  rcases hc.head with ⟨absent, -⟩ | ⟨c, r, rfl, no_gap, -, no_null⟩
  · exact absurd absent present
  · rw [List.nil_append, List.cons_append] at found
    rw [List.cons_append, optional, skipGap_append_cons hg no_gap]
    split
    case h_1 eq => exact absurd (List.cons.inj eq).1 no_null
    case h_2 => rw [found]; rfl

theorem reads_optional {read : Reader ε β} {tree : α → Tree} {f : α → β}
    (present : ∀ a, tree a ≠ .null) (h : ∀ a, Reads read (tree a) (f a)) (o : Option α) :
    Reads (optional read) (.optional tree o) (o.map f) := by
  cases o with
  | none => exact reads_optional_none read
  | some a => exact reads_optional_some (present a) (h a)

theorem reads_refine {read : Reader ε α} {fit : α → Except (Option ε) β} {tree : Tree} {a : α}
    {b : β} (h : Reads read tree a) (fits : fit a = .ok b) : Reads (refine read fit) tree b := by
  intro gap cs rest hg hc hr
  simp only [refine, h hg hc hr, fits]

theorem reads_map {read : Reader ε α} {tree : Tree} {a : α} (h : Reads read tree a) (f : α → β) :
    Reads (fun cs => (read cs).map fun p => (f p.1, p.2)) tree (f a) := by
  intro gap cs rest hg hc hr
  simp only [h hg hc hr, Except.map]

/-- One of the names of a set. -/
theorem reads_variant {find? : String → Option α} {name : String} {a : α}
    (h : find? name = some a) : Reads (ε := ε) (variant find?) (.text name) a := by
  intro gap cs rest hg hc hr
  have here := reads_text (ε := ε) name gap_nil hc hr
  cases hc
  simp only [List.nil_append, Quoted.chars, List.cons_append] at here
  simp only [variant, Quoted.chars, List.cons_append, refine, here, h,
    skipGap_append_cons hg (show isGap '"' = false by decide)]

/-! ### Lists -/

theorem elementFollows_separator {first : Bool} {sep : List Char} {c : Char}
    (hs : Separator first sep) (no_gap : isGap c = false) (no_end : c ≠ ']') (rest : List Char) :
    elementFollows (ε := ε) first (sep ++ c :: rest) = .ok (true, c :: rest) := by
  cases hs with
  | first h =>
    rw [elementFollows, skipGap_append_cons h no_gap]
    split <;> simp_all
  | comma hb ha =>
    rw [elementFollows, List.append_assoc, List.cons_append,
      skipGap_append_cons hb (by decide)]
    simp [skipGap_append_cons ha no_gap, no_end]

theorem elementFollows_close {first : Bool} (hg : Gap gap) :
    elementFollows (ε := ε) first (gap ++ ']' :: rest) = .ok (false, rest) := by
  simp only [elementFollows, skipGap_append_cons hg (show isGap ']' = false by decide)]

theorem ends_separator {sep : List Char} (h : Separator false sep) : Ends (sep ++ rest) := by
  cases h with
  | comma hb ha =>
    rw [List.append_assoc]
    exact ends_gap_append hb (by decide)

theorem Tree.SpelledItems.ends {items : List Tree} {r : List Char}
    (h : SpelledItems false items r) (rest : List Char) : Ends (r ++ rest) := by
  cases h with
  | close hg =>
    rw [List.append_assoc]
    exact ends_gap_append hg (by decide)
  | item hs hc hr =>
    rw [List.append_assoc, List.append_assoc]
    exact ends_separator hs

theorem elements_spelled {read : Reader ε α} {items : List Tree} {as : List α}
    (h : List.Forall₂ (Reads read) items as) (seen : List α) {cs : List Char} {fuel : Nat}
    (text : Tree.SpelledItems seen.isEmpty items cs) (enough : items.length < fuel) :
    elements read fuel seen (cs ++ rest) = .ok (seen.reverse ++ as, rest) := by
  induction h generalizing seen cs fuel with
  | nil =>
    obtain ⟨fuel, rfl⟩ := Nat.exists_eq_add_one.2 enough
    cases text with
    | close hg => simp [elements, elementFollows_close hg]
  | @cons _ a _ _ here later ih =>
    obtain ⟨fuel, rfl⟩ := Nat.exists_eq_add_one.2 (Nat.zero_lt_of_lt enough)
    cases text with
    | @item _ sep cs r _ _ hs hc hr =>
      have found := here gap_nil hc (hr.ends rest)
      obtain ⟨c, tail, eq, no_gap, no_end⟩ := hc.begins
      have follows := elementFollows_separator (ε := ε) hs no_gap no_end (tail ++ (r ++ rest))
      rw [List.nil_append] at found
      rw [← List.cons_append, ← eq] at follows
      rw [elements, List.append_assoc, List.append_assoc, follows]
      simp only [found]
      simpa using ih (a :: seen) hr (Nat.lt_of_succ_lt_succ enough)

theorem Tree.SpelledItems.length_le {first : Bool} {items : List Tree} {cs : List Char}
    (h : SpelledItems first items cs) : items.length ≤ cs.length := by
  induction items generalizing first cs with
  | nil => exact Nat.zero_le _
  | cons item items ih =>
    cases h with
    | item hs hc hr =>
      obtain ⟨c, tail, rfl, -, -⟩ := hc.begins
      have later := ih hr
      simp only [List.length_append, List.length_cons]
      omega

/-- A list of values. -/
theorem reads_sequence {read : Reader ε α} {items : List Tree} {as : List α}
    (h : List.Forall₂ (Reads read) items as) : Reads (sequence read) (.list items) as := by
  intro gap cs rest hg hc hr
  cases hc with
  | list text =>
    have enough := text.length_le
    rw [List.cons_append, sequence, skipGap_append_cons hg (by decide)]
    refine elements_spelled h [] text ?_
    rw [List.length_append]
    omega

/-! ### Objects -/

/-- Behind the key of a member, `step` reads its value and leads from one state to the next. -/
def TakesMember (step : String → σ → Reader ε σ) (key : String) (value : Tree)
    (made next : σ) : Prop :=
  ∀ ⦃before after cs rest : List Char⦄, Gap before → Gap after → Tree.Spelled value cs →
    Ends rest → step key made (before ++ ':' :: (after ++ (cs ++ rest))) = .ok (next, rest)

/-- The same for all members of an object, one after the other. -/
inductive TakesMembers (step : String → σ → Reader ε σ) : List (String × Tree) → σ → σ → Prop
  | nil {made : σ} : TakesMembers step [] made made
  | cons {key : String} {value : Tree} {members : List (String × Tree)} {made next last : σ}
      (here : TakesMember step key value made next) (later : TakesMembers step members next last) :
      TakesMembers step ((key, value) :: members) made last

theorem memberKey_separator {first : Bool} {sep : List Char} (hs : Separator first sep)
    (key : String) (rest : List Char) :
    memberKey (ε := ε) first (sep ++ (Quoted.chars key.toList ++ rest)) =
      .ok (some key, rest) := by
  have body : Quoted.body (ε := ε) (key.toList.flatMap Quoted.charText ++ '"' :: rest) =
      .ok (key, rest) := Quoted.body_chars key
  simp only [Quoted.chars, List.cons_append, List.append_assoc, List.nil_append]
  cases hs with
  | first h =>
    simp [memberKey, skipGap_append_cons h (show isGap '"' = false by decide), body, Except.map]
  | comma hb ha =>
    rw [List.append_assoc, List.cons_append]
    simp [memberKey, skipGap_append_cons hb (show isGap ',' = false by decide),
      mark_append (show isGap '"' = false by decide) ha, body, Except.map]

theorem memberKey_close {first : Bool} (hg : Gap gap) :
    memberKey (ε := ε) first (gap ++ '\x7d' :: rest) = .ok (none, rest) := by
  simp only [memberKey, skipGap_append_cons hg (show isGap '\x7d' = false by decide)]

theorem Tree.SpelledMembers.ends {members : List (String × Tree)} {r : List Char}
    (h : SpelledMembers false members r) (rest : List Char) : Ends (r ++ rest) := by
  cases h with
  | close hg =>
    rw [List.append_assoc]
    exact ends_gap_append hg (by decide)
  | member key hs hb ha hc hr =>
    simp only [List.append_assoc]
    exact ends_separator hs

theorem Tree.SpelledMembers.length_le {first : Bool} {members : List (String × Tree)}
    {cs : List Char} (h : SpelledMembers first members cs) : members.length ≤ cs.length := by
  induction members generalizing first cs with
  | nil => exact Nat.zero_le _
  | cons member members ih =>
    cases h with
    | member key hs hb ha hc hr =>
      have later := ih hr
      simp only [List.length_append, List.length_cons]
      omega

theorem members_spelled {step : String → σ → Reader ε σ} {items : List (String × Tree)}
    {made last : σ} (h : TakesMembers step items made last) {first : Bool} {cs : List Char}
    {fuel : Nat} (text : Tree.SpelledMembers first items cs) (enough : items.length < fuel) :
    members step fuel first made (cs ++ rest) = .ok (last, rest) := by
  induction h generalizing first cs fuel with
  | nil =>
    obtain ⟨fuel, rfl⟩ := Nat.exists_eq_add_one.2 enough
    cases text with
    | close hg => simp [members, memberKey_close hg]
  | @cons key _ _ _ _ _ here later ih =>
    obtain ⟨fuel, rfl⟩ := Nat.exists_eq_add_one.2 (Nat.zero_lt_of_lt enough)
    cases text with
    | @member _ sep before after cs r _ _ _ hs hb ha hc hr =>
      have found := here hb ha hc (hr.ends rest)
      have key_read := memberKey_separator (ε := ε) hs key
        (before ++ ':' :: (after ++ (cs ++ (r ++ rest))))
      simp only [List.append_assoc, List.cons_append]
      simp only [members, key_read, found]
      exact ih hr (Nat.lt_of_succ_lt_succ enough)

/-- An object with free keys: its entries are inserted in order. -/
theorem reads_dictionary {insert : String → α → σ → σ} {read : Reader ε α}
    {items : List (String × Tree)} {entries : List (String × α)}
    (h : List.Forall₂ (fun item entry => item.1 = entry.1 ∧ Reads read item.2 entry.2)
      items entries) (empty : σ) :
    Reads (dictionary insert empty read) (.object items)
      (entries.foldl (fun made entry => insert entry.1 entry.2 made) empty) := by
  intro gap cs rest hg hc hr
  cases hc with
  | object text =>
    have enough := text.length_le
    rw [List.cons_append, dictionary, skipGap_append_cons hg (by decide)]
    refine members_spelled ?_ text (by rw [List.length_append]; omega)
    clear text enough
    induction h generalizing empty with
    | nil => exact .nil
    | @cons item entry _ _ here later ih =>
      obtain ⟨key, value⟩ := item
      refine .cons ?_ (ih _)
      intro before after cs rest hb ha hc hr
      simp only [mark_append (show isGap ':' = false by decide) hb, here.2 ha hc hr, ← here.1]
      rfl

/-! ### Records -/

/-- The fields of a record take the members of an object, one by one and in order. -/
inductive Fields.Takes : Fields ε σ → List (String × Tree) → σ → σ → Prop
  | nil {made : σ} : Takes [] [] made made
  | cons {field : Field ε σ} {fields : Fields ε σ} {value : Tree} {items : List (String × Tree)}
      {made next last : σ} (here : Reads (field.read made) value next)
      (later : Takes fields items next last) :
      Takes (field :: fields) ((field.name, value) :: items) made last

/-- A field that is read by `read` and stored by `set`. -/
theorem Fields.Takes.of {name : String} {demand : Demand} {read : Reader ε α} {set : α → σ → σ}
    {fields : Fields ε σ} {value : Tree} {items : List (String × Tree)} {a : α} {made last : σ}
    (here : Reads read value a) (later : Takes fields items (set a made) last) :
    Takes (Field.of name demand read set :: fields) ((name, value) :: items) made last :=
  @cons ε σ (Field.of name demand read set) fields value items made (set a made) last
    (reads_map here fun a => set a made) later

namespace Fields

/-- The names of fields. -/
def names (fields : Fields ε σ) : List String :=
  fields.map (·.name)

/-- Fields with different names are found by their names. -/
theorem find?_name {done later : Fields ε σ} {field : Field ε σ}
    (different : (names (done ++ field :: later)).Nodup) :
    (done ++ field :: later).find? (·.name == field.name) = some field := by
  rw [names, List.map_append, List.nodup_append] at different
  have earlier : done.find? (·.name == field.name) = none := by
    rw [List.find?_eq_none]
    intro other mem same
    exact different.2.2 _ (List.mem_map_of_mem mem) _ List.mem_cons_self (beq_iff_eq.1 same)
  rw [List.find?_append, earlier, Option.none_or]
  exact List.find?_cons_of_pos (beq_self_eq_true _)

/-- A field that has not been read takes its member. -/
theorem takesMember_member {done later : Fields ε σ} {field : Field ε σ} {value : Tree}
    {made next : σ} (h : Reads (field.read made) value next)
    (different : (names (done ++ field :: later)).Nodup) :
    TakesMember (member (done ++ field :: later)) field.name value ((names done).reverse, made)
      (field.name :: (names done).reverse, next) := by
  have unread : (names done).reverse.contains field.name = false := by
    rw [names, List.map_append, List.nodup_append] at different
    simp only [List.contains_eq_mem, List.mem_reverse, decide_eq_false_iff_not]
    exact fun mem => different.2.2 _ mem _ List.mem_cons_self rfl
  intro before after cs rest hb ha hc hr
  simp only [member, find?_name different, unread,
    mark_append (show isGap ':' = false by decide) hb, h ha hc hr, Bool.false_eq_true, if_false]
  rfl

theorem takesMembers_member {fields : Fields ε σ} {items : List (String × Tree)} {made last : σ}
    (h : Takes fields items made last) (done : Fields ε σ)
    (different : (names (done ++ fields)).Nodup) :
    TakesMembers (member (done ++ fields)) items ((names done).reverse, made)
      ((names (done ++ fields)).reverse, last) := by
  induction h generalizing done with
  | nil => simpa using TakesMembers.nil
  | @cons field fields _ _ _ _ _ here later ih =>
    refine .cons (takesMember_member here different) ?_
    have all : done ++ [field] ++ fields = done ++ field :: fields := by simp
    simpa [all, names] using ih (done ++ [field]) (all ▸ different)

end Fields

/-- A record with different names of its fields. -/
theorem reads_record {fields : Fields ε σ} {items : List (String × Tree)} {blank made : σ}
    (different : fields.names.Nodup) (h : fields.Takes items blank made) :
    Reads (record fields blank) (.object items) made := by
  intro gap cs rest hg hc hr
  cases hc with
  | @object _ cs text =>
    have enough := text.length_le
    have found : members fields.member ((cs ++ rest).length + 1) true ([], blank) (cs ++ rest) =
        .ok ((fields.names.reverse, made), rest) :=
      members_spelled (Fields.takesMembers_member h [] different) text
        (by rw [List.length_append]; omega)
    have all_read : (fields.all fun field =>
        field.demand != .always || fields.names.reverse.contains field.name) = true := by
      rw [List.all_eq_true]
      intro field mem
      have name : field.name ∈ fields.names := List.mem_map_of_mem mem
      simp [name]
    rw [List.cons_append, record, skipGap_append_cons hg (by decide)]
    simp only [Fields.ofObject, found]
    exact if_pos all_read

/-! ### Whole texts -/

theorem document_eq {read : Reader ε α} {tree : Tree} {a : α} (h : Reads read tree a)
    {cs : List Char} (text : Tree.Spelled tree cs) : document read (String.ofList cs) = .ok a := by
  have found := h gap_nil text ends_nil
  rw [List.nil_append, List.append_nil] at found
  rw [document, String.toList_ofList, found]
  rfl

end TaskLedger.Json
