import Mathlib
import TaskLedger.Proofs.Sink.Receiver

/-!
# Putting records together to datagrams

A network sink encodes its records one by one, puts them together to datagrams of a limited size,
and sends these up to the first one that the network does not take.

* `PieceFormat.encoding`: a record as it is sent;
* `pieces_of_fitting` and `pieces_of_long`: either all records fit into a datagram, or the first one
  that does not is told;
* `groups_spec`: a group is not empty and no longer than a datagram may be;
* `transmit_eq`: what is sent of some datagrams;
* `sent_of_records` puts this together.
-/

namespace TaskLedger

open Packed

variable {k : Kind}

/-- A record as it is sent: a line of JSON with the character that ends it, or its packed form
behind the length of that. -/
def PieceFormat.encoding (format : PieceFormat) (r : Record k) : List UInt8 :=
  match format with
  | line => octets r.line ++ [10]
  | packed => natural 4 r.packed.length ++ r.packed

theorem PieceFormat.encoding_ne_nil (format : PieceFormat) (r : Record k) :
    format.encoding r ≠ [] := by
  cases format with
  | line => exact List.append_ne_nil_of_right_ne_nil _ (List.cons_ne_nil _ _)
  | packed =>
    have four := List.ne_nil_of_length_eq_add_one (natural_length 4 r.packed.length)
    exact List.append_ne_nil_of_left_ne_nil four _

namespace Datagram

/-! ### Records as pieces -/

/-- The records have a form to be sent in.  A line may have any length. -/
def Sendable (format : PieceFormat) (records : List (Record k)) : Prop :=
  format = .packed → ∀ r ∈ records, Fits r

variable {target : Target} {sink : String} {records : List (Record k)}

theorem Sendable.head {format : PieceFormat} {r : Record k} {later : List (Record k)}
    (h : Sendable format (r :: later)) : format.piece r = .ok (format.encoding r) := by
  cases format with
  | line => rfl
  | packed => exact piece_packed (h rfl r List.mem_cons_self)

theorem Sendable.tail {format : PieceFormat} {r : Record k} {later : List (Record k)}
    (h : Sendable format (r :: later)) : Sendable format later :=
  fun packed s hs => h packed s (List.mem_cons_of_mem r hs)

/-- A record is a piece unless it is too long for a datagram. -/
theorem piece_eq {r : Record k} (h : target.format.piece r = .ok (target.format.encoding r)) :
    target.piece sink r =
      if target.maxSize < (target.format.encoding r).length then
        .error (Target.tooLong sink (target.format.encoding r).length target.maxSize)
      else .ok (target.format.encoding r) := by
  unfold Target.piece
  rw [h]
  rfl

/-- Records that fit are pieces. -/
theorem pieces_of_fitting (h : Sendable target.format records)
    (fitting : ∀ r ∈ records, (target.format.encoding r).length ≤ target.maxSize) :
    target.pieces sink records = .ok (records.map target.format.encoding) := by
  induction records with
  | nil => rfl
  | cons r later ih =>
    have rest := ih h.tail fun s hs => fitting s (List.mem_cons_of_mem r hs)
    rw [Target.pieces] at rest ⊢
    rw [List.mapM_cons, piece_eq h.head, if_neg (Nat.not_lt.2 (fitting r List.mem_cons_self)), rest]
    rfl

/-- The first record that does not fit is told. -/
theorem pieces_of_long {front back : List (Record k)} {r : Record k}
    (h : Sendable target.format (front ++ r :: back))
    (fitting : ∀ s ∈ front, (target.format.encoding s).length ≤ target.maxSize)
    (long : target.maxSize < (target.format.encoding r).length) :
    target.pieces sink (front ++ r :: back) =
      .error (Target.tooLong sink (target.format.encoding r).length target.maxSize) := by
  induction front with
  | nil =>
    rw [Target.pieces, List.nil_append, List.mapM_cons, piece_eq h.head, if_pos long]
    rfl
  | cons s front ih =>
    have rest := ih h.tail fun t ht => fitting t (List.mem_cons_of_mem s ht)
    rw [Target.pieces] at rest ⊢
    rw [List.cons_append, List.mapM_cons, piece_eq h.head,
      if_neg (Nat.not_lt.2 (fitting s List.mem_cons_self)), rest]
    rfl

/-- Either all records fit, or there is a first one that does not. -/
theorem fitting_or_long (format : PieceFormat) (maxSize : Nat) (records : List (Record k)) :
    (∀ r ∈ records, (format.encoding r).length ≤ maxSize) ∨
      ∃ front r back, records = front ++ r :: back ∧
        (∀ s ∈ front, (format.encoding s).length ≤ maxSize) ∧
          maxSize < (format.encoding r).length := by
  induction records with
  | nil => exact Or.inl nofun
  | cons r later ih =>
    by_cases here : (format.encoding r).length ≤ maxSize
    · rcases ih with fitting | ⟨front, s, back, rfl, fitting, long⟩
      · exact Or.inl (List.forall_mem_cons.2 ⟨here, fitting⟩)
      · exact Or.inr ⟨r :: front, s, back, rfl, List.forall_mem_cons.2 ⟨here, fitting⟩, long⟩
    · exact Or.inr ⟨[], r, later, rfl, nofun, Nat.not_le.1 here⟩

/-! ### Pieces in groups -/

/-- What still goes to a datagram is no longer than its room, and every later group is one for a
datagram of its own. -/
theorem groupsFrom_spec (size : Nat) (pieces : List (List UInt8)) (room : Nat)
    (short : ∀ p ∈ pieces, p ≠ [] ∧ p.length ≤ size) :
    (groupsFrom size room pieces).1.flatten.length ≤ room ∧
      ∀ group ∈ (groupsFrom size room pieces).2,
        group.flatten ≠ [] ∧ group.flatten.length ≤ size := by
  induction pieces generalizing room with
  | nil => exact ⟨Nat.zero_le _, nofun⟩
  | cons p ps ih =>
    obtain ⟨⟨some, here⟩, later⟩ := List.forall_mem_cons.1 short
    rw [groupsFrom]
    split
    · obtain ⟨first, others⟩ := ih (room - p.length) later
      refine ⟨?_, others⟩
      rw [List.flatten_cons, List.length_append]
      omega
    · obtain ⟨first, others⟩ := ih (size - p.length) later
      refine ⟨Nat.zero_le _, List.forall_mem_cons.2 ⟨⟨?_, ?_⟩, others⟩⟩
      · exact List.append_ne_nil_of_left_ne_nil some _
      · rw [List.flatten_cons, List.length_append]
        omega

/-- A group of pieces is not empty and fits into a datagram. -/
theorem groups_spec {size : Nat} {pieces : List (List UInt8)}
    (short : ∀ p ∈ pieces, p ≠ [] ∧ p.length ≤ size) :
    ∀ group ∈ groups size pieces, group.flatten ≠ [] ∧ group.flatten.length ≤ size := by
  cases pieces with
  | nil => exact nofun
  | cons p ps =>
    obtain ⟨⟨some, here⟩, later⟩ := List.forall_mem_cons.1 short
    obtain ⟨first, others⟩ := groupsFrom_spec size ps (size - p.length) later
    refine List.forall_mem_cons.2 ⟨⟨?_, ?_⟩, others⟩
    · exact List.append_ne_nil_of_left_ne_nil some _
    · rw [List.flatten_cons, List.length_append]
      omega

/-- Pieces that fit together are one group. -/
theorem groupsFrom_of_fits (size : Nat) {room : Nat} {pieces : List (List UInt8)}
    (fits : pieces.flatten.length ≤ room) : groupsFrom size room pieces = (pieces, []) := by
  induction pieces generalizing room with
  | nil => rfl
  | cons p ps ih =>
    rw [List.flatten_cons, List.length_append] at fits
    rw [groupsFrom, if_pos (by omega), ih (by omega)]

theorem packets_of_fits {size : Nat} {pieces : List (List UInt8)} (present : pieces ≠ [])
    (fits : pieces.flatten.length ≤ size) : packets size pieces = [pieces.flatten] := by
  obtain ⟨p, ps, rfl⟩ := List.exists_cons_of_ne_nil present
  rw [List.flatten_cons, List.length_append] at fits
  rw [packets, groups, groupsFrom_of_fits size (by omega)]
  rfl

/-! ### Datagrams on the network -/

/-- The datagrams are sent that stand before the first one that is too long for the network. -/
theorem transmit_eq (address : Address) (datagrams : List (List UInt8)) (w : World) :
    transmit address w datagrams =
      (if ∀ d ∈ datagrams, d.length ≤ World.maxDatagram address then .ok ()
        else .error .messageTooLong,
        { w with sent := w.sent ++
          (datagrams.takeWhile (·.length ≤ World.maxDatagram address)).map (address, ·) }) := by
  induction datagrams generalizing w with
  | nil => simp [transmit]
  | cons d later ih =>
    rw [transmit, World.send]
    by_cases here : d.length ≤ World.maxDatagram address
    · rw [if_neg (Nat.not_lt.2 here)]
      simp only
      rw [ih]
      simp [here]
    · rw [if_pos (Nat.not_le.1 here)]
      simp [here]

/-! ### All in all -/

/-- Records that all fit are put together to datagrams. -/
theorem pack_of_fitting (h : Sendable target.format records)
    (fitting : ∀ r ∈ records, (target.format.encoding r).length ≤ target.maxSize) :
    pack target sink records =
      .ok (packets target.maxSize (records.map target.format.encoding)) := by
  rw [pack, pieces_of_fitting h fitting]
  rfl

/-- The first record that does not fit is told, and nothing is sent. -/
theorem persist_of_long {front back : List (Record k)} {r : Record k}
    (h : Sendable target.format (front ++ r :: back))
    (fitting : ∀ s ∈ front, (target.format.encoding s).length ≤ target.maxSize)
    (long : target.maxSize < (target.format.encoding r).length) (w : World) :
    let fault := Target.tooLong sink (target.format.encoding r).length target.maxSize
    pack target sink (front ++ r :: back) = .error fault ∧
      persist sink target ⟨k, front ++ r :: back⟩ w = ({ fault := some fault }, w) := by
  intro fault
  have packed : pack target sink (front ++ r :: back) = .error fault := by
    rw [pack, pieces_of_long h fitting long]
    rfl
  refine ⟨packed, ?_⟩
  rw [persist, packed]

/-- Of datagrams that were put together a front part is sent, up to the first one that is too long
for the network; nothing goes wrong exactly if that is all of them. -/
theorem persist_of_packed {datagrams : List (List UInt8)}
    (packed : pack target sink records = .ok datagrams) (w : World) :
    ∃ sent unsent, datagrams = sent ++ unsent ∧
      (∀ d ∈ sent, d.length ≤ World.maxDatagram target.address) ∧
      (∀ d ∈ unsent.head?, World.maxDatagram target.address < d.length) ∧
      (persist sink target ⟨k, records⟩ w).2 =
        { w with sent := w.sent ++ sent.map (target.address, ·) } ∧
      ((persist sink target ⟨k, records⟩ w).1.fault = none ↔ unsent = []) := by
  let short : List UInt8 → Bool := fun d => d.length ≤ World.maxDatagram target.address
  refine ⟨datagrams.takeWhile short, datagrams.dropWhile short,
    List.takeWhile_append_dropWhile.symm, ?_, ?_, ?_⟩
  · intro d hd
    have fits : short d = true := List.mem_takeWhile_imp hd
    exact of_decide_eq_true fits
  · intro d hd
    have first := List.head?_dropWhile_not short datagrams
    rw [Option.mem_def.1 hd] at first
    exact Nat.not_le.1 (of_decide_eq_false first)
  · have all_iff : (∀ d ∈ datagrams, d.length ≤ World.maxDatagram target.address) ↔
        datagrams.dropWhile short = [] := by
      rw [List.dropWhile_eq_nil_iff]
      exact forall₂_congr fun d hd => decide_eq_true_iff.symm
    simp only [persist, packed, transmit_eq]
    by_cases all : ∀ d ∈ datagrams, d.length ≤ World.maxDatagram target.address
    · rw [if_pos all]
      exact ⟨rfl, iff_of_true rfl (all_iff.1 all)⟩
    · rw [if_neg all]
      exact ⟨rfl, iff_of_false (Option.some_ne_none _) fun none => all (all_iff.2 none)⟩

/-- Records that fit together go in one datagram. -/
theorem persist_of_fits (sink : String) (h : Sendable target.format records)
    (present : records ≠ [])
    (fits : (records.flatMap target.format.encoding).length ≤ target.maxSize)
    (short : (records.flatMap target.format.encoding).length ≤ World.maxDatagram target.address)
    (w : World) :
    pack target sink records = .ok [records.flatMap target.format.encoding] ∧
      persist sink target ⟨k, records⟩ w = ({}, { w with
        sent := w.sent ++ [(target.address, records.flatMap target.format.encoding)] }) := by
  have packed : pack target sink records = .ok [records.flatMap target.format.encoding] := by
    have each : ∀ r ∈ records, (target.format.encoding r).length ≤ target.maxSize := fun r hr =>
      (List.sublist_flatten_of_mem (List.mem_map_of_mem hr)).length_le.trans fits
    have some_pieces : records.map target.format.encoding ≠ [] := by simpa using present
    rw [pack_of_fitting h each, packets_of_fits some_pieces fits]
    rfl
  refine ⟨packed, ?_⟩
  simp only [persist, packed, transmit, World.send, if_neg (Nat.not_lt.2 short)]

/-- **No record is lost on the way to the datagrams.**  Records that have a form to be sent in are
put together unless one of them is longer than a datagram may be; then the first such record is
told with its length, and nothing is sent.  Otherwise every datagram holds whole records, one or
more, and is no longer than it may be, and all of them together hold the records in order.  They are
sent up to the first one that is too long for the network, and nothing goes wrong exactly if there
is none.  What is too long depends on the version of the host. -/
theorem sent_of_records (target : Target) (sink : String) (records : List (Record k)) (w : World)
    (h : Sendable target.format records) :
    let encode : Record k → List UInt8 := target.format.encoding
    ((∃ fault, pack target sink records = .error fault) ↔
      ∃ r ∈ records, target.maxSize < (encode r).length) ∧
    (∀ front r back, records = front ++ r :: back →
      (∀ s ∈ front, (encode s).length ≤ target.maxSize) → target.maxSize < (encode r).length →
      let fault := Target.tooLong sink (encode r).length target.maxSize
      pack target sink records = .error fault ∧
        persist sink target ⟨k, records⟩ w = ({ fault := some fault }, w)) ∧
    ∀ datagrams, pack target sink records = .ok datagrams →
      (∀ d ∈ datagrams, d ≠ [] ∧ d.length ≤ target.maxSize) ∧
      (∃ parts : List (List (Record k)), parts.flatten = records ∧
        datagrams = parts.map fun part => part.flatMap encode) ∧
      datagrams.flatten = records.flatMap encode ∧
      ∃ sent unsent, datagrams = sent ++ unsent ∧
        (∀ d ∈ sent, d.length ≤ World.maxDatagram target.address) ∧
        (∀ d ∈ unsent.head?, World.maxDatagram target.address < d.length) ∧
        (persist sink target ⟨k, records⟩ w).2 =
          { w with sent := w.sent ++ sent.map (target.address, ·) } ∧
        ((persist sink target ⟨k, records⟩ w).1.fault = none ↔ unsent = []) := by
  intro encode
  refine ⟨?_, ?_, ?_⟩
  · rcases fitting_or_long target.format target.maxSize records with
      fitting | ⟨front, r, back, rfl, fitting, long⟩
    · refine iff_of_false ?_ ?_
      · rintro ⟨fault, failed⟩
        rw [pack_of_fitting h fitting] at failed
        cases failed
      · rintro ⟨r, hr, long⟩
        exact Nat.not_lt.2 (fitting r hr) long
    · refine iff_of_true ⟨_, (persist_of_long h fitting long w).1⟩ ⟨r, ?_, long⟩
      exact List.mem_append_right front List.mem_cons_self
  · rintro front r back rfl fitting long
    exact persist_of_long h fitting long w
  · intro datagrams packed
    have fitting : ∀ r ∈ records, (encode r).length ≤ target.maxSize := by
      rcases fitting_or_long target.format target.maxSize records with
        fitting | ⟨front, r, back, rfl, fitting, long⟩
      · exact fitting
      · rw [(persist_of_long h fitting long w).1] at packed
        cases packed
    have datagrams_eq : packets target.maxSize (records.map encode) = datagrams :=
      Except.ok.inj ((pack_of_fitting h fitting).symm.trans packed)
    have whole := flatten_groups target.maxSize (records.map encode)
    obtain ⟨parts, parts_eq, groups_eq⟩ := exists_groups whole
    have parted : datagrams = parts.map fun part => part.flatMap encode := by
      rw [← datagrams_eq, packets, groups_eq, List.map_map]
      rfl
    refine ⟨?_, ⟨parts, parts_eq, parted⟩, ?_, persist_of_packed packed w⟩
    · have short : ∀ p ∈ records.map encode, p ≠ [] ∧ p.length ≤ target.maxSize := by
        intro p hp
        obtain ⟨r, hr, rfl⟩ := List.mem_map.1 hp
        exact ⟨target.format.encoding_ne_nil r, fitting r hr⟩
      intro d hd
      rw [← datagrams_eq, packets] at hd
      obtain ⟨group, hg, rfl⟩ := List.mem_map.1 hd
      exact groups_spec short group hg
    · rw [parted, ← parts_eq, List.flatMap_def, List.map_flatten, List.flatten_flatten,
        List.map_map]
      rfl

/-- Two records for which there is no room in one datagram are sent in two, and one that is too long
for any keeps those before it from being sent. -/
theorem sent_of_records_of_narrow :
    let plain : Record .runner := { taskClass := "ab", state := .success }
    let tagged : Record .runner := { taskClass := "a", taskTag := some "b", state := .success }
    let long : Record .runner := { taskClass := "abcdefghijklmnopqrst", state := .success }
    let target : Target := ⟨.v4 [127, 0, 0, 1] 9, .packed, 40⟩
    let w : World := { today := ⟨1970, 1, 1⟩, barrier := fun _ => none }
    Sendable .packed [plain, tagged] ∧ Sendable .packed [plain, long] ∧
    (∃ datagrams, pack target "wire" [plain, tagged] = .ok datagrams ∧
      datagrams.flatten = plain.framed ++ tagged.framed ∧
      (persist "wire" target ⟨.runner, [plain, tagged]⟩ w).1.fault = none) ∧
    persist "wire" target ⟨.runner, [plain, long]⟩ w =
      ({ fault := some (Target.tooLong "wire" 41 40) }, w) := by
  intro plain tagged long target w
  have sendable : Sendable .packed [plain, tagged] := by
    rintro -
    rw [List.forall_mem_cons, List.forall_mem_singleton]
    exact ⟨by cbv, by cbv⟩
  have sendable' : Sendable .packed [plain, long] := by
    rintro -
    rw [List.forall_mem_cons, List.forall_mem_singleton]
    exact ⟨by cbv, by cbv⟩
  refine ⟨sendable, sendable', ?_, ?_⟩
  · obtain ⟨failed_iff, -, spec⟩ := sent_of_records target "wire" [plain, tagged] w sendable
    have two : (pack target "wire" [plain, tagged]).map List.length = .ok 2 := by cbv
    cases packed : pack target "wire" [plain, tagged] with
    | error fault => rw [packed] at two; cases two
    | ok datagrams =>
      obtain ⟨short, -, flat, sent, unsent, rfl, -, next, -, fault_iff⟩ := spec datagrams packed
      have both : [plain, tagged].flatMap target.format.encoding = plain.framed ++ tagged.framed :=
        congrArg (plain.framed ++ ·) (List.append_nil tagged.framed)
      refine ⟨_, rfl, flat.trans both, fault_iff.2 ?_⟩
      -- no datagram is too long for the network
      cases unsent with
      | nil => rfl
      | cons d later =>
        have small := (short d (List.mem_append_right sent List.mem_cons_self)).2
        exact absurd (next d rfl) (Nat.not_lt.2 (small.trans (by decide)))
  · obtain ⟨-, failed, -⟩ := sent_of_records target "wire" [plain, long] w sendable'
    have size : (target.format.encoding long).length = 41 := by cbv
    have result := (failed [plain] long [] rfl (by rw [List.forall_mem_singleton]; cbv)
      (by rw [size]; decide)).2
    rw [size] at result
    exact result

/-- 2978 records of 22 octets go to a host of version 6 in one datagram, though no datagram to a
host of version 4 has more than 65507 octets. -/
theorem sent_beyond_version4 :
    let records : List (Record .runner) :=
      List.replicate 2978 { taskClass := "a", state := .success }
    let target : Target := ⟨.v6 [0, 0, 0, 0, 0, 0, 0, 1] 0 9, .packed, 65516⟩
    let datagram := records.flatMap Record.framed
    let w : World := { today := ⟨1970, 1, 1⟩, barrier := fun _ => none }
    pack target "wire" records = .ok [datagram] ∧ datagram.length = 65516 ∧
    World.maxDatagram (.v4 [127, 0, 0, 1] 9) = 65507 ∧
    persist "wire" target ⟨.runner, records⟩ w =
      ({}, { w with sent := [(target.address, datagram)] }) := by
  intro records target datagram w
  have same : ∀ r ∈ records, r = { taskClass := "a", state := .success } :=
    fun r hr => List.eq_of_mem_replicate hr
  have sendable : Sendable target.format records := by
    rintro - r hr
    rw [same r hr]
    cbv
  have size : datagram.length = 65516 := by
    have one : (Record.framed (k := .runner) { taskClass := "a", state := .success }).length =
        22 := by
      cbv
    rw [List.length_flatMap, List.map_replicate, one, List.sum_replicate]
    rfl
  have present : records ≠ [] := by
    rw [ne_eq, List.replicate_eq_nil_iff]
    decide
  obtain ⟨packed, persisted⟩ := persist_of_fits "wire" sendable present
    (size.le.trans (by decide)) (size.le.trans (by decide)) w
  exact ⟨packed, size, rfl, persisted⟩

end Datagram

end TaskLedger
