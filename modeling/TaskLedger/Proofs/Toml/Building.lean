import Mathlib
import TaskLedger.Proofs.Toml.Line

/-!
# Documents are put together

The statements of a document change the table that its last header opened.  A `Focus` is a place in
a document together with the document around it: to walk down its way is to change what stands
there.  A section whose header opens a focus leaves its members there, in order (`add_table`,
`add_item`).
-/

namespace TaskLedger.Toml

namespace Members

variable {before : Members} {key : String} {node other : Node}

/-! ### The last member -/

theorem find?_eq_none_iff {members : Members} :
    members.find? key = none ↔ key ∉ members.map Prod.fst := by
  rw [find?, List.lookup_eq_none_iff, List.mem_map]
  simp only [bne_iff_ne, not_exists, not_and, ne_comm]

theorem find?_last (new : before.find? key = none) :
    find? (before ++ [(key, node)]) key = some node := by
  rw [find?, List.lookup_append, ← find?, new]
  simp [List.lookup]

theorem replace_last (new : before.find? key = none) :
    replace (before ++ [(key, other)]) key node = before ++ [(key, node)] := by
  have other_key (member : String × Node) (mem : member ∈ before) : member.1 ≠ key := by
    rintro rfl
    exact find?_eq_none_iff.1 new (List.mem_map_of_mem mem)
  have same : before.map (fun member => if member.1 = key then (key, node) else member) = before :=
    (List.map_congr_left fun member mem => if_neg (other_key member mem)).trans (List.map_id before)
  rw [replace, List.map_append, same, List.map_singleton, if_pos rfl]

theorem changeLast_last (change : Members → Option Members) (items : List Members)
    (last : Members) :
    changeLast change (items ++ [last]) = (change last).map fun last => items ++ [last] := by
  induction items with
  | nil => rfl
  | cons item items ih =>
    rw [List.cons_append, changeLast, ih, Option.map_map]
    · rfl
    · exact List.append_ne_nil_of_right_ne_nil items (List.cons_ne_nil last [])

/-- A way is walked in two parts. -/
theorem descend_append (byDottedKey : Bool) (change : Standing → Members → Option Members)
    (path way : List String) (standing : Standing) (members : Members) :
    descend byDottedKey change (path ++ way) standing members =
      descend byDottedKey (descend byDottedKey change way) path standing members := by
  induction path generalizing standing members with
  | nil => rfl
  | cons key path ih =>
    have later (standing : Standing) : descend byDottedKey change (path ++ way) standing =
        descend byDottedKey (descend byDottedKey change way) path standing :=
      funext (ih standing)
    simp only [List.cons_append, descend, later]

/-- A list of tables with a given key, which is not there without tables. -/
def listed (key : String) : List Members → Members
  | [] => []
  | item :: items => [(key, .tables (item :: items))]

theorem listed_append (key : String) (items : List Members) (last : Members) :
    listed key (items ++ [last]) = [(key, .tables (items ++ [last]))] := by
  cases items <;> rfl

end Members

open Members

/-! ### Places in a document -/

/-- To walk down `way` is to change what stands in the place that `fill` puts into a document. -/
def Focus (way : List String) (standing : Standing) (fill : Members → Members) : Prop :=
  ∀ change inner, descend false change way .opened (fill inner) = (change standing inner).map fill

namespace Focus

variable {way : List String} {standing : Standing} {fill : Members → Members} {before : Members}
  {key : String}

/-- The document itself. -/
theorem whole : Focus [] .opened id := fun _ _ => Option.map_id'.symm

/-- The last member of a place, when it is a table. -/
theorem table (h : Focus way standing fill) (new : before.find? key = none) {standing' : Standing}
    (open' : standing' ≠ .inline) :
    Focus (way ++ [key]) standing' fun inner =>
      fill (before ++ [(key, .table standing' inner)]) := by
  intro change inner
  have step : descend false change [key] standing (before ++ [(key, .table standing' inner)]) =
      (change standing' inner).map fun inner => before ++ [(key, .table standing' inner)] := by
    simp only [descend, find?_last new, replace_last new, open', Bool.false_eq_true, false_and,
      or_self, if_false]
  rw [descend_append, h, step, Option.map_map]
  rfl

/-- The last item of the last member of a place, when it is a list of tables. -/
theorem item (h : Focus way standing fill) (new : before.find? key = none) (items : List Members) :
    Focus (way ++ [key]) .opened fun inner =>
      fill (before ++ [(key, .tables (items ++ [inner]))]) := by
  intro change inner
  have step : descend false change [key] standing (before ++ [(key, .tables (items ++ [inner]))]) =
      (change .opened inner).map fun inner => before ++ [(key, .tables (items ++ [inner]))] := by
    have last : changeLast (descend false change [] .opened) (items ++ [inner]) =
        (change .opened inner).map fun inner => items ++ [inner] := changeLast_last _ items inner
    simp only [descend, find?_last new, replace_last new] at last ⊢
    rw [last, Option.map_map]
    rfl
  rw [descend_append, h, step, Option.map_map]
  rfl

/-- A header opens a table at the end of a place. -/
theorem openTable (h : Focus way standing fill) (new : before.find? key = none) :
    (fill before).openTable way key = some (fill (before ++ [(key, .table .opened [])])) := by
  simp only [Members.openTable, h _ before, new, Option.map_some]

/-- A header opens one more table of a list of tables at the end of a place. -/
theorem openItem (h : Focus way standing fill) (new : before.find? key = none)
    (items : List Members) :
    (fill (before ++ listed key items)).openItem way key =
      some (fill (before ++ [(key, .tables (items ++ [[]]))])) := by
  cases items with
  | nil => simp only [Members.openItem, listed, List.append_nil, h _ before, new, Option.map_some,
      List.nil_append]
  | cons item items =>
    simp only [Members.openItem, listed, h _ _, find?_last new, replace_last new, Option.map_some]

/-- A header makes the table on its way. -/
theorem openTable_implied (h : Focus way standing fill) {last : String}
    (new : before.find? key = none) :
    (fill before).openTable (way ++ [key]) last = some (fill (before ++
      [(key, .table .implied [(last, .table .opened [])])])) := by
  rw [Members.openTable, descend_append, h]
  simp only [descend, new]
  rfl

/-- Assignments add their members to the open table, in order. -/
theorem add_assignments {inner : Members} {current : Option (List String × String)}
    (h : Focus (Draft.way ⟨fill inner, current⟩) standing fill) {entries : List (String × Node)}
    (distinct : ((inner ++ entries).map Prod.fst).Nodup) :
    (entries.map fun entry => Statement.assignment [] entry.1 entry.2).foldlM Draft.add?
      ⟨fill inner, current⟩ = some ⟨fill (inner ++ entries), current⟩ := by
  induction entries generalizing inner with
  | nil => rw [List.append_nil]; rfl
  | cons entry entries ih =>
    have new : inner.find? entry.1 = none := by
      rw [find?_eq_none_iff]
      intro mem
      rw [List.map_append, List.nodup_append] at distinct
      exact distinct.2.2 entry.1 mem entry.1 List.mem_cons_self rfl
    have step : Draft.add? ⟨fill inner, current⟩ (.assignment [] entry.1 entry.2) =
        some ⟨fill (inner ++ [entry]), current⟩ := by
      rw [Draft.add?, h]
      simp [assign, descend, new]
    rw [List.append_cons] at distinct ⊢
    rw [List.map_cons, List.foldlM_cons, step]
    exact ih h distinct

/-! ### Sections -/

variable {entries : List (String × Write.Value)}

theorem nodup_nodes (distinct : (entries.map Prod.fst).Nodup) :
    (([] ++ Write.nodes entries).map Prod.fst).Nodup := by
  simpa [Write.nodes, Function.comp_def] using distinct

/-- The members of the document itself. -/
theorem add_whole (distinct : (entries.map Prod.fst).Nodup) :
    (Write.Section.statements ⟨.none, entries⟩).foldlM Draft.add? ⟨[], none⟩ =
      some ⟨Write.nodes entries, none⟩ := by
  have place : Focus (Draft.way ⟨id [], none⟩) .opened id := whole
  exact place.add_assignments (nodup_nodes distinct)

/-- A section whose header opens a place leaves its members there. -/
theorem add_section {header : Write.Header} {statement : Statement} {draft : Draft}
    (begins : header.statements = [statement])
    (opened : draft.add? statement = some ⟨fill [], some (way, key)⟩)
    (h : Focus (way ++ [key]) standing fill) (distinct : (entries.map Prod.fst).Nodup) :
    (Write.Section.statements ⟨header, entries⟩).foldlM Draft.add? draft =
      some ⟨fill (Write.nodes entries), some (way, key)⟩ := by
  have place : Focus (Draft.way ⟨fill [], some (way, key)⟩) standing fill := h
  rw [Write.Section.statements, begins, List.singleton_append, List.foldlM_cons, opened]
  exact place.add_assignments (nodup_nodes distinct)

theorem statements_table (way : List String) (key : String) :
    (Write.Header.table (way ++ [key])).statements = [.header way key] := by
  simp [Write.Header.statements]

theorem statements_item (way : List String) (key : String) :
    (Write.Header.item (way ++ [key])).statements = [.itemHeader way key] := by
  simp [Write.Header.statements]

/-- A table at the end of a place. -/
theorem add_table (h : Focus way standing fill) (new : before.find? key = none)
    (distinct : (entries.map Prod.fst).Nodup) (current : Option (List String × String)) :
    (Write.Section.statements ⟨.table (way ++ [key]), entries⟩).foldlM Draft.add?
      ⟨fill before, current⟩ =
        some ⟨fill (before ++ [(key, .table .opened (Write.nodes entries))]), some (way, key)⟩ := by
  refine add_section (statements_table way key) ?_ (h.table new (by decide)) distinct
  rw [Draft.add?, h.openTable new, Option.map_some]

/-- A table in a table that it makes at the end of a place. -/
theorem add_implied (h : Focus way standing fill) (new : before.find? key = none) (last : String)
    (distinct : (entries.map Prod.fst).Nodup) (current : Option (List String × String)) :
    (Write.Section.statements ⟨.table ((way ++ [key]) ++ [last]), entries⟩).foldlM Draft.add?
      ⟨fill before, current⟩ =
        some ⟨fill (before ++ [(key, .table .implied
          [(last, .table .opened (Write.nodes entries))])]), some (way ++ [key], last)⟩ := by
  have place := (h.table new (show Standing.implied ≠ .inline by decide)).table
    (show find? [] last = none from rfl) (show Standing.opened ≠ .inline by decide)
  refine add_section (statements_table _ last) ?_ place distinct
  rw [Draft.add?, h.openTable_implied new, Option.map_some]
  rfl

/-- One more of a list of tables at the end of a place. -/
theorem add_item (h : Focus way standing fill) (new : before.find? key = none)
    (items : List Members) (distinct : (entries.map Prod.fst).Nodup)
    (current : Option (List String × String)) :
    (Write.Section.statements ⟨.item (way ++ [key]), entries⟩).foldlM Draft.add?
      ⟨fill (before ++ listed key items), current⟩ =
        some ⟨fill (before ++ [(key, .tables (items ++ [Write.nodes entries]))]),
          some (way, key)⟩ := by
  refine add_section (statements_item way key) ?_ (h.item new items) distinct
  rw [Draft.add?, h.openItem new, Option.map_some]

end Focus

end TaskLedger.Toml
