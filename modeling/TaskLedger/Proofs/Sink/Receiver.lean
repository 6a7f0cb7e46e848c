import Mathlib
import TaskLedger.Proofs.Files
import TaskLedger.Proofs.Outcome.Packed
import TaskLedger.Sink.Datagram

/-!
# What a receiver makes of datagrams

Packed records stand in a datagram each behind its length.  A receiver that goes from length to
length (`Datagram.bodies?`) finds the packed records in their order, and since a packed record
stands for one record only, octets stand for one list of records (`Datagram.records_of_octets`).

A piece is never spread over two datagrams, so every datagram is split by itself.
-/

namespace TaskLedger.Datagram

open Packed

/-! ### The receiver -/

/-- The octets that a length in four octets announces, and what stands behind them. -/
def body? (bs : List UInt8) : Option (List UInt8 × List UInt8) :=
  let size := number (bs.take 4)
  if 4 + size ≤ bs.length then some ((bs.drop 4).take size, bs.drop (4 + size)) else none

theorem length_of_body? {bs body rest : List UInt8} (h : body? bs = some (body, rest)) :
    rest.length < bs.length := by
  rw [body?] at h
  split at h
  · obtain ⟨-, rfl⟩ := Prod.mk.inj (Option.some.inj h)
    rw [List.length_drop]
    omega
  · cases h

/-- The bodies in a row of octets, none if the octets end inside one. -/
def bodies? (bs : List UInt8) : Option (List (List UInt8)) :=
  if bs = [] then some []
  else match _ : body? bs with
    | none => none
    | some (body, rest) => (bodies? rest).map (body :: ·)
termination_by bs.length
decreasing_by exact length_of_body? ‹_›

theorem bodies?_nil : bodies? [] = some [] := by
  rw [bodies?, if_pos rfl]

theorem body?_append {body : List UInt8} (small : body.length ≤ PieceFormat.maxPacked)
    (rest : List UInt8) :
    body? (natural 4 body.length ++ body ++ rest) = some (body, rest) := by
  have width : (natural 4 body.length).length = 4 := natural_length 4 _
  have size : number ((natural 4 body.length ++ body ++ rest).take 4) = body.length := by
    rw [List.append_assoc, List.take_left' width]
    exact number_natural (Nat.lt_of_le_of_lt small (by decide))
  have enough : 4 + body.length ≤ (natural 4 body.length ++ body ++ rest).length := by
    rw [List.length_append, List.length_append, width]
    omega
  rw [body?, size, if_pos enough, List.append_assoc, List.drop_left' width, List.take_left,
    ← List.append_assoc, List.drop_left' (by rw [List.length_append, width])]

theorem bodies?_append {body : List UInt8} (small : body.length ≤ PieceFormat.maxPacked)
    (rest : List UInt8) :
    bodies? (natural 4 body.length ++ body ++ rest) = (bodies? rest).map (body :: ·) := by
  have some : natural 4 body.length ++ body ++ rest ≠ [] := by
    rw [List.append_assoc]
    have four := List.ne_nil_of_length_eq_add_one (natural_length 4 body.length)
    exact List.append_ne_nil_of_left_ne_nil four _
  rw [bodies?, if_neg some]
  split
  case h_1 none => rw [body?_append small] at none; cases none
  case h_2 found =>
    rw [body?_append small] at found
    obtain ⟨rfl, rfl⟩ := Prod.mk.inj (Option.some.inj found)
    rfl

/-! ### Records -/

variable {k : Kind} {rs ss : List (Record k)}

/-- A record whose packed form is not too long for its length. -/
def Fits (r : Record k) : Prop :=
  r.packed.length ≤ PieceFormat.maxPacked

theorem bodies?_framed (h : ∀ r ∈ rs, Fits r) :
    bodies? (rs.flatMap Record.framed) = some (rs.map Record.packed) := by
  induction rs with
  | nil => exact bodies?_nil
  | cons r rs ih =>
    rw [List.flatMap_cons, Record.framed, bodies?_append (h r List.mem_cons_self),
      ih fun s mem => h s (List.mem_cons_of_mem r mem)]
    rfl

theorem piece_packed {r : Record k} (h : Fits r) : PieceFormat.packed.piece r = .ok r.framed :=
  if_neg (Nat.not_lt.2 h)

theorem mapM_piece (h : ∀ r ∈ rs, Fits r) :
    rs.mapM PieceFormat.packed.piece = .ok (rs.map Record.framed) := by
  induction rs with
  | nil => rfl
  | cons r rs ih =>
    rw [List.mapM_cons, piece_packed (h r List.mem_cons_self),
      ih fun s mem => h s (List.mem_cons_of_mem r mem)]
    rfl

/-- A framed record is the length of its packed form in four octets and then the packed form. -/
theorem framed_parts {r : Record k} (h : Fits r) : (r.framed.take 4).length = 4 ∧
    number (r.framed.take 4) = r.packed.length ∧ r.framed.drop 4 = r.packed := by
  have width : (natural 4 r.packed.length).length = 4 := natural_length 4 _
  rw [Record.framed, List.take_left' width, List.drop_left' width]
  exact ⟨width, number_natural (Nat.lt_of_le_of_lt h (by decide)), rfl⟩

/-- Records that fit are the same if their packed forms are. -/
theorem eq_of_map_packed (hr : ∀ r ∈ rs, Fits r)
    (same : rs.map Record.packed = ss.map Record.packed) :
    rs = ss := by
  induction rs generalizing ss with
  | nil => exact (List.map_eq_nil_iff.1 same.symm).symm
  | cons r rs ih =>
    obtain ⟨s, ss, rfl, first, later⟩ := List.map_eq_cons_iff.1 same.symm
    have short : r.packed.length < 2 ^ 64 :=
      Nat.lt_of_le_of_lt (hr r List.mem_cons_self) (by decide)
    rw [Record.eq_of_packed short first.symm,
      ih (fun s mem => hr s (List.mem_cons_of_mem r mem)) later.symm]

/-! ### Datagrams -/

theorem piece_of_target {target : Target} (format : target.format = .packed) {sink : String}
    {r : Record k} {p : List UInt8} (h : target.piece sink r = .ok p) : p = r.framed ∧ Fits r := by
  obtain ⟨q, piece, h⟩ := exists_of_bind_eq_ok h
  have same : q = p := by
    split at h
    · cases h
    · exact Except.ok.inj h
  rw [format, PieceFormat.piece] at piece
  split at piece
  case isTrue long => cases piece
  case isFalse fits => exact ⟨same.symm.trans (Except.ok.inj piece).symm, Nat.not_lt.1 fits⟩

theorem pieces_of_target {target : Target} (format : target.format = .packed) {sink : String}
    {ps : List (List UInt8)} (h : target.pieces sink rs = .ok ps) :
    ps = rs.map Record.framed ∧ ∀ r ∈ rs, Fits r := by
  induction rs generalizing ps with
  | nil =>
    obtain rfl : [] = ps := Except.ok.inj h
    exact ⟨rfl, nofun⟩
  | cons r rs ih =>
    rw [Target.pieces, List.mapM_cons] at h
    obtain ⟨p, here, h⟩ := exists_of_bind_eq_ok h
    obtain ⟨qs, later, h⟩ := exists_of_bind_eq_ok h
    obtain rfl : p :: qs = ps := Except.ok.inj h
    obtain ⟨rfl, fits⟩ := piece_of_target format here
    obtain ⟨rfl, all⟩ := ih later
    exact ⟨rfl, List.forall_mem_cons.2 ⟨fits, all⟩⟩

/-- Groups of the pieces of records are pieces of groups of records. -/
theorem exists_groups {encode : Record k → List UInt8} {groups : List (List (List UInt8))}
    (h : groups.flatten = rs.map encode) : ∃ parts : List (List (Record k)),
      parts.flatten = rs ∧ groups = parts.map (List.map encode) := by
  induction groups generalizing rs with
  | nil => exact ⟨[], (List.map_eq_nil_iff.1 h.symm).symm, rfl⟩
  | cons group groups ih =>
    rw [List.flatten_cons] at h
    obtain ⟨first, later, rfl, rfl, eq⟩ := List.append_eq_map_iff.1 h
    obtain ⟨parts, rfl, rfl⟩ := ih eq.symm
    exact ⟨first :: parts, rfl, rfl⟩

/-- Every datagram holds whole records, and all of them together hold the records in order. -/
theorem bodies?_of_pack {target : Target} (format : target.format = .packed) {sink : String}
    {datagrams : List (List UInt8)} (h : pack target sink rs = .ok datagrams) :
    ∃ parts : List (List (Record k)), parts.flatten = rs ∧
      datagrams.map bodies? = parts.map fun part => some (part.map Record.packed) := by
  obtain ⟨ps, pieces, h⟩ := exists_of_bind_eq_ok h
  obtain rfl : packets target.maxSize ps = datagrams := Except.ok.inj h
  obtain ⟨rfl, fits⟩ := pieces_of_target format pieces
  obtain ⟨parts, rfl, groups_eq⟩ :=
    exists_groups (flatten_groups target.maxSize (rs.map Record.framed))
  refine ⟨parts, rfl, ?_⟩
  rw [packets, groups_eq, List.map_map, List.map_map]
  refine List.map_congr_left fun part mem => ?_
  have all (r : Record k) (here : r ∈ part) : Fits r :=
    fits r (List.mem_flatten_of_mem mem here)
  rw [← bodies?_framed all]
  rfl

/-- **Octets stand for one list of records.**  Records that fit are encoded, each as the length of
its packed form in four octets and then the packed form.  Two lists with the same octets are the
same, and a receiver finds the packed records in order, in a row of them as in the datagrams that
they are put together to. -/
theorem records_of_octets (hr : ∀ r ∈ rs, Fits r) (hs : ∀ s ∈ ss, Fits s) :
    ∃ ps qs, rs.mapM PieceFormat.packed.piece = .ok ps ∧
      ss.mapM PieceFormat.packed.piece = .ok qs ∧
      (ps.flatten = qs.flatten → rs = ss) ∧
      List.Forall₂ (fun (r : Record k) p => (p.take 4).length = 4 ∧
        number (p.take 4) = r.packed.length ∧ p.drop 4 = r.packed) rs ps ∧
      bodies? ps.flatten = some (rs.map Record.packed) ∧
      ∀ (target : Target) (sink : String) (datagrams : List (List UInt8)),
        target.format = .packed → pack target sink rs = .ok datagrams →
        ∃ parts : List (List (Record k)), parts.flatten = rs ∧
          datagrams.map bodies? = parts.map fun part => some (part.map Record.packed) := by
  refine ⟨rs.map Record.framed, ss.map Record.framed, mapM_piece hr, mapM_piece hs, ?_, ?_, ?_,
    fun target sink datagrams format h => bodies?_of_pack format h⟩
  · intro same
    have bodies := bodies?_framed hr
    rw [List.flatMap_def, same, ← List.flatMap_def, bodies?_framed hs] at bodies
    exact eq_of_map_packed hr (Option.some.inj bodies).symm
  · exact List.forall₂_map_right_iff.2 (List.forall₂_same.2 fun r mem => framed_parts (hr r mem))
  · rw [← List.flatMap_def]
    exact bodies?_framed hr

/-- The end of a class is told apart from a tag, also when each record needs a datagram of its
own. -/
theorem records_of_octets_of_tagged :
    let plain : Record .runner := { taskClass := "ab", state := .success }
    let tagged : Record .runner := { taskClass := "a", taskTag := some "b", state := .success }
    let target : Target := ⟨.v4 [127, 0, 0, 1] 9, .packed, 40⟩
    (∀ r ∈ [plain, tagged], Fits r) ∧ (∀ s ∈ [tagged, plain], Fits s) ∧
    (∃ ps qs, [plain, tagged].mapM PieceFormat.packed.piece = .ok ps ∧
      [tagged, plain].mapM PieceFormat.packed.piece = .ok qs ∧ ps.flatten ≠ qs.flatten ∧
      bodies? ps.flatten = some [plain.packed, tagged.packed]) ∧
    ∃ (datagrams : List (List UInt8)) (parts : List (List (Record .runner))),
      pack target "wire" [plain, tagged] = .ok datagrams ∧ datagrams.length = 2 ∧
      parts.flatten = [plain, tagged] ∧
      datagrams.map bodies? = parts.map fun part => some (part.map Record.packed) := by
  intro plain tagged target
  have fits : ∀ r ∈ [plain, tagged], Fits r := by
    rw [List.forall_mem_cons, List.forall_mem_singleton]
    exact ⟨by cbv, by cbv⟩
  have turned : ∀ s ∈ [tagged, plain], Fits s := fun s mem => fits s (by simpa [or_comm] using mem)
  obtain ⟨ps, qs, hp, hq, same, -, bodies, packets⟩ := records_of_octets fits turned
  refine ⟨fits, turned, ⟨ps, qs, hp, hq, fun eq => absurd (same eq) (by decide), bodies⟩, ?_⟩
  have two : (pack target "wire" [plain, tagged]).map List.length = .ok 2 := by cbv
  cases packed : pack target "wire" [plain, tagged] with
  | error fault => rw [packed] at two; cases two
  | ok datagrams =>
    rw [packed] at two
    obtain ⟨parts, whole, split⟩ := packets target "wire" datagrams rfl packed
    exact ⟨datagrams, parts, rfl, Except.ok.inj two, whole, split⟩

end TaskLedger.Datagram
