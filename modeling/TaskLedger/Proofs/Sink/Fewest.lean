import Mathlib
import TaskLedger.Proofs.Sink.Packing

/-!
# As few datagrams as can be

A datagram is closed only where the next piece has no room in it.  However pieces may be cut into
datagrams that are not too long, whole and in order, this way is never behind: when the other one
closes a datagram, at least as many pieces have been put away here.

* `Cut`: pieces in groups, none of which is too long;
* `length_groupsFrom_le`: from any point on, no cut needs fewer groups, if it has no more room left;
* `packets_of_pack`: what is known when records have been put together;
* `fewest_datagrams`: no cut of the records has fewer groups than there are datagrams.
-/

namespace TaskLedger.Datagram

variable {k : Kind} {size : Nat} {pieces : List (List UInt8)}

/-- Some groups are the pieces, whole and in order, and none is longer than a datagram may be.  A
group may be empty. -/
structure Cut (size : Nat) (pieces : List (List UInt8)) (groups : List (List (List UInt8))) :
    Prop where
  whole : groups.flatten = pieces
  short : ∀ group ∈ groups, group.flatten.length ≤ size

/-! ### Any cut against this one -/

/-- In a cut the first piece opens a group.  The rest of that group and the groups behind it are the
other pieces. -/
theorem Cut.opens {p : List UInt8} {ps : List (List UInt8)} {cut : List (List (List UInt8))}
    (h : Cut size (p :: ps) cut) :
    ∃ (group : List (List UInt8)) (rest : List (List (List UInt8))), group ++ rest.flatten = ps ∧
      p.length + group.flatten.length ≤ size ∧ (∀ other ∈ rest, other.flatten.length ≤ size) ∧
      rest.length < cut.length := by
  obtain ⟨front, group, rest, rfl, -, ps_eq⟩ := List.flatten_eq_cons_iff.1 h.whole
  refine ⟨group, rest, ps_eq.symm, ?_, ?_, ?_⟩
  · have opened := h.short (p :: group) (List.mem_append_right front List.mem_cons_self)
    rw [List.flatten_cons, List.length_append] at opened
    exact opened
  · intro other ho
    exact h.short other (List.mem_append_right front (List.mem_cons_of_mem _ ho))
  · rw [List.length_append, List.length_cons]
    omega

/-- The pieces are put together with some room in the first group.  In another cut the first group
has no more than that, and then as many groups follow or more. -/
theorem length_groupsFrom_le (pieces : List (List UInt8)) {room : Nat} {first : List (List UInt8)}
    {later : List (List (List UInt8))} (whole : first ++ later.flatten = pieces)
    (fits : first.flatten.length ≤ room) (short : ∀ group ∈ later, group.flatten.length ≤ size) :
    (groupsFrom size room pieces).2.length ≤ later.length := by
  induction pieces generalizing room first later with
  | nil => exact Nat.zero_le _
  | cons p ps ih =>
    rw [groupsFrom]
    cases first with
    | cons q first =>
      -- the other cut puts the piece into the same group, so there is room for it here
      obtain ⟨rfl, ps_eq⟩ := List.cons.inj whole
      rw [List.flatten_cons, List.length_append] at fits
      rw [if_pos (by omega)]
      have left : first.flatten.length ≤ room - q.length := by omega
      exact ih ps_eq left short
    | nil =>
      -- the other cut has closed its group; the piece opens one of those behind
      obtain ⟨group, rest, ps_eq, opened, others, fewer⟩ := Cut.opens ⟨whole, short⟩
      split
      · -- here it still goes to the old group, so all that is left of the new one is not too long
        have grouped : ∀ other ∈ group :: rest, other.flatten.length ≤ size :=
          List.forall_mem_cons.2 ⟨by omega, others⟩
        have waiting : [] ++ (group :: rest).flatten = ps := ps_eq
        have behind := ih waiting (Nat.zero_le (room - p.length)) grouped
        rw [List.length_cons] at behind
        simp only
        omega
      · have left : group.flatten.length ≤ size - p.length := by omega
        have behind := ih ps_eq left others
        simp only [List.length_cons]
        omega

/-- No cut has fewer groups. -/
theorem length_groups_le {cut : List (List (List UInt8))} (h : Cut size pieces cut) :
    (groups size pieces).length ≤ cut.length := by
  cases pieces with
  | nil => exact Nat.zero_le _
  | cons p ps =>
    obtain ⟨group, rest, ps_eq, opened, others, fewer⟩ := h.opens
    have left : group.flatten.length ≤ size - p.length := by omega
    have behind := length_groupsFrom_le ps ps_eq left others
    rw [groups, List.length_cons]
    omega

/-! ### Records -/

variable {target : Target} {sink : String} {records : List (Record k)}
  {datagrams : List (List UInt8)}

/-- Records that have been put together have a form to be sent in. -/
theorem sendable_of_pack (packed : pack target sink records = .ok datagrams) :
    Sendable target.format records := by
  intro format
  obtain ⟨pieces, made, -⟩ := exists_of_bind_eq_ok packed
  exact (pieces_of_target format made).2

/-- Records that have been put together all fit, and the datagrams are made of their encodings. -/
theorem packets_of_pack (packed : pack target sink records = .ok datagrams) :
    (∀ r ∈ records, (target.format.encoding r).length ≤ target.maxSize) ∧
      datagrams = packets target.maxSize (records.map target.format.encoding) := by
  have sendable := sendable_of_pack packed
  rcases fitting_or_long target.format target.maxSize records with
    fitting | ⟨front, r, back, rfl, fitting, long⟩
  · rw [pack_of_fitting sendable fitting] at packed
    exact ⟨fitting, (Except.ok.inj packed).symm⟩
  · rw [pack, pieces_of_long sendable fitting long] at packed
    cases packed

/-- **Records are sent in as few datagrams as can be.**  When records are put together, the
datagrams are a cut of their encodings: whole, in order, and none longer than it may be.  No other
cut of them has fewer groups. -/
theorem fewest_datagrams (packed : pack target sink records = .ok datagrams) :
    let encodings := records.map target.format.encoding
    (∃ cut, Cut target.maxSize encodings cut ∧ datagrams = cut.map List.flatten) ∧
      ∀ cut, Cut target.maxSize encodings cut → datagrams.length ≤ cut.length := by
  intro encodings
  obtain ⟨fitting, rfl⟩ := packets_of_pack packed
  have short : ∀ p ∈ encodings, p ≠ [] ∧ p.length ≤ target.maxSize := by
    intro p hp
    obtain ⟨r, hr, rfl⟩ := List.mem_map.1 hp
    exact ⟨target.format.encoding_ne_nil r, fitting r hr⟩
  constructor
  · refine ⟨groups target.maxSize encodings, ⟨flatten_groups _ _, ?_⟩, rfl⟩
    intro group hg
    exact (groups_spec short group hg).2
  · intro cut h
    rw [packets, List.length_map]
    exact length_groups_le h

/-- Five records, two of which have room in one datagram, need three datagrams. -/
theorem fewest_datagrams_of_five :
    let short : Record .runner := { taskClass := "a", state := .success }
    let long : Record .runner := { taskClass := "abc", state := .success }
    let target : Target := ⟨.v4 [127, 0, 0, 1] 9, .packed, 50⟩
    let records := [short, long, short, short, long]
    ∃ datagrams, pack target "wire" records = .ok datagrams ∧ datagrams.length = 3 ∧
      ∀ cut, Cut 50 (records.map PieceFormat.packed.encoding) cut → 3 ≤ cut.length := by
  intro short long target records
  have three : (pack target "wire" records).map List.length = .ok 3 := by cbv
  cases packed : pack target "wire" records with
  | error fault => rw [packed] at three; cases three
  | ok datagrams =>
    rw [packed] at three
    have length_eq : datagrams.length = 3 := Except.ok.inj three
    refine ⟨datagrams, rfl, length_eq, fun cut h => ?_⟩
    rw [← length_eq]
    exact (fewest_datagrams packed).2 cut h

end TaskLedger.Datagram
