import Mathlib
import TaskLedger.Outcome.Record

/-!
# Keys of categories

A key is read back from the left: the target stands behind the first `@`, and what is before it is
cut at the first `#` into the class and the tag.  This finds the parts again as long as no sign
stands in front of the one that it is looked for; a target may hold any characters, and a tag may
hold a `#`.

* `cutAt`: a text before and behind the first sign of some kind, and `cutAt_append_keyPart`, which
  finds the two parts that were put together;
* `Record.identity`: the class, the tag and the target of a record, where nothing is read as an
  empty text;
* `Record.Plain`: no sign of a record can be taken for one of its key;
* `Record.key_eq_of_identity` and `Record.identity_eq_of_key`: the identity makes the key, and the
  key of a plain record tells the identity;
* `keys_tell_apart` puts this together.
-/

namespace TaskLedger

/-! ### Parts of a key -/

/-- What stands before the first sign, and what stands behind it. -/
def cutAt (sign : Char) (cs : List Char) : List Char × List Char :=
  (cs.takeWhile (· ≠ sign), (cs.dropWhile (· ≠ sign)).tail)

theorem keyPart_eq (sign : Char) (part : Option String) :
    keyPart sign part =
      if part.getD "" = "" then [] else sign :: (part.getD "").toList := by
  cases part with
  | none => rfl
  | some part => simp only [keyPart, Option.getD_some, String.toList_eq_nil_iff]

/-- A part behind its sign is found again, if the sign does not stand before. -/
theorem cutAt_append_keyPart {sign : Char} {front : List Char} (h : sign ∉ front)
    (part : Option String) :
    cutAt sign (front ++ keyPart sign part) = (front, (part.getD "").toList) := by
  have before : ∀ c ∈ front, decide (c ≠ sign) = true := by
    rintro c hc
    apply decide_eq_true
    rintro rfl
    exact h hc
  rw [cutAt, List.takeWhile_append_of_pos before, List.dropWhile_append_of_pos before, keyPart_eq]
  split
  · rename_i nothing
    simp [nothing]
  · simp

theorem notMem_keyPart {c sign : Char} (other : c ≠ sign) {part : Option String}
    (h : c ∉ (part.getD "").toList) : c ∉ keyPart sign part := by
  rw [keyPart_eq]
  split
  · exact List.not_mem_nil
  · exact List.not_mem_cons_of_ne_of_not_mem other h

namespace Record

variable {k : Kind}

/-! ### What a key tells -/

/-- What tells the categories of records apart: the class, the tag and the target, which are empty
if there are none. -/
@[ext]
structure Identity where
  taskClass : String
  tag : String
  target : String
  deriving DecidableEq

/-- The class, the tag and the target of a record; a scheduled job has no tag. -/
def identity : {k : Kind} → Record k → Identity
  | .runner, (r : Runner.Outcome) => ⟨r.taskClass, r.taskTag.getD "", r.runTarget.getD ""⟩
  | .croner, (r : Croner.Outcome) => ⟨r.taskClass, "", r.runTarget.getD ""⟩

/-- No sign stands before the one of a key that it could be taken for. -/
def Plain : {k : Kind} → Record k → Prop
  | .runner, (r : Runner.Outcome) =>
    '#' ∉ r.taskClass.toList ∧ '@' ∉ r.taskClass.toList ∧ '@' ∉ (r.taskTag.getD "").toList
  | .croner, (r : Croner.Outcome) => '@' ∉ r.taskClass.toList

/-- The key of a category is made of its identity. -/
theorem toList_key (r : Record k) : r.key.toList =
    r.identity.taskClass.toList ++ keyPart '#' (some r.identity.tag) ++
      keyPart '@' (some r.identity.target) := by
  have absent : ∀ sign part, keyPart sign part = keyPart sign (some (part.getD "")) := by
    intro sign part
    rw [keyPart_eq, keyPart_eq, Option.getD_some]
  cases k with
  | runner =>
    show (joinKey _ _ _).toList = _
    rw [joinKey, String.toList_ofList, absent '#', absent '@']
    rfl
  | croner =>
    show (joinKey _ _ _).toList = _
    rw [joinKey, String.toList_ofList, absent '#', absent '@']
    rfl

theorem key_eq_of_identity {r s : Record k} (same : r.identity = s.identity) : r.key = s.key := by
  rw [← String.toList_inj, toList_key, toList_key, same]

/-- Behind the first `@` of a key is the target. -/
theorem cutAt_key {r : Record k} (plain : r.Plain) : cutAt '@' r.key.toList =
    (r.identity.taskClass.toList ++ keyPart '#' (some r.identity.tag),
      r.identity.target.toList) := by
  have before : '@' ∉ r.identity.taskClass.toList ++ keyPart '#' (some r.identity.tag) := by
    rw [List.mem_append, not_or]
    cases k with
    | runner => exact ⟨plain.2.1, notMem_keyPart (by decide) plain.2.2⟩
    | croner => exact ⟨plain, List.not_mem_nil⟩
  rw [toList_key, cutAt_append_keyPart before, Option.getD_some]

/-- The key of a plain record tells its class, its tag and its target. -/
theorem identity_eq_of_key {r s : Record k} (hr : r.Plain) (hs : s.Plain) (same : r.key = s.key) :
    r.identity = s.identity := by
  have cut := congrArg (fun key : String => cutAt '@' key.toList) same
  simp only [cutAt_key hr, cutAt_key hs, Prod.mk.injEq, String.toList_inj] at cut
  obtain ⟨front, target⟩ := cut
  cases k with
  | runner =>
    -- what is before the target is a class and a tag, and the class has no sign of a tag
    have ofR : '#' ∉ r.identity.taskClass.toList := hr.1
    have ofS : '#' ∉ s.identity.taskClass.toList := hs.1
    have cut := congrArg (cutAt '#') front
    rw [cutAt_append_keyPart ofR, cutAt_append_keyPart ofS, Prod.mk.injEq] at cut
    simp only [Option.getD_some, String.toList_inj] at cut
    exact Identity.ext cut.1 cut.2 target
  | croner =>
    have untagged : ∀ t : Record .croner, t.identity.tag = "" := fun _ => rfl
    rw [untagged r, untagged s, List.append_cancel_right_eq, String.toList_inj] at front
    exact Identity.ext front rfl target

/-- A record is kept under the key that it came with. -/
theorem key_normal (r : Record k) : r.normal.key = r.key :=
  key_eq_of_identity (by cases k <;> rfl)

end Record

/-! ### All in all -/

/-- **Keys tell categories apart.**  Two records of tasks whose classes have neither a `#` nor an
`@`, and whose tags have no `@`, have the same key exactly if they have the same class, the same
tag and the same target, where nothing is the same as an empty text.  Two records of scheduled jobs
whose classes have no `@` have the same key exactly if they have the same class and the same target
in that sense.  So the form in which a record is kept does not change its key. -/
theorem keys_tell_apart :
    (∀ r s : Record .runner, r.Plain → s.Plain →
      (r.key = s.key ↔ r.taskClass = s.taskClass ∧ r.taskTag.getD "" = s.taskTag.getD "" ∧
        r.runTarget.getD "" = s.runTarget.getD "")) ∧
    (∀ r s : Record .croner, r.Plain → s.Plain →
      (r.key = s.key ↔ r.taskClass = s.taskClass ∧
        r.runTarget.getD "" = s.runTarget.getD "")) ∧
    ∀ r : Record .croner, r.normal.key = r.key := by
  refine ⟨fun r s hr hs => ⟨fun same => ?_, ?_⟩, fun r s hr hs => ⟨fun same => ?_, ?_⟩,
    Record.key_normal⟩
  · have identity := Record.identity_eq_of_key hr hs same
    exact ⟨congrArg Record.Identity.taskClass identity, congrArg Record.Identity.tag identity,
      congrArg Record.Identity.target identity⟩
  · rintro ⟨taskClass, tag, target⟩
    exact Record.key_eq_of_identity (Record.Identity.ext taskClass tag target)
  · have identity := Record.identity_eq_of_key hr hs same
    exact ⟨congrArg Record.Identity.taskClass identity, congrArg Record.Identity.target identity⟩
  · rintro ⟨taskClass, target⟩
    exact Record.key_eq_of_identity (Record.Identity.ext taskClass rfl target)

/-- A `#` in a target is no sign of a tag, and one in the class of a job is none either. -/
theorem keys_tell_apart_of_signs :
    let tagged : Record .runner :=
      { taskClass := "a", taskTag := some "x#y", runTarget := some "z", state := .success }
    let bare : Record .runner :=
      { taskClass := "a", runTarget := some "x#y@z", state := .success }
    let job : Record .croner := { taskClass := "a#x", state := .success }
    let aimed : Record .croner := { taskClass := "a#x", runTarget := some "", state := .success }
    tagged.Plain ∧ bare.Plain ∧ tagged.key ≠ bare.key ∧ job.Plain ∧ aimed.Plain ∧
      job.key = aimed.key := by
  intro tagged bare job aimed
  have ofTagged : tagged.Plain := by
    refine ⟨?_, ?_, ?_⟩ <;> decide
  have ofBare : bare.Plain := by
    refine ⟨?_, ?_, ?_⟩ <;> decide
  have ofJob : job.Plain := by
    show '@' ∉ _
    decide
  have ofAimed : aimed.Plain := by
    show '@' ∉ _
    decide
  obtain ⟨tasks, jobs, -⟩ := keys_tell_apart
  refine ⟨ofTagged, ofBare, fun same => ?_, ofJob, ofAimed, (jobs _ _ ofJob ofAimed).2 ⟨rfl, rfl⟩⟩
  have tag := ((tasks _ _ ofTagged ofBare).1 same).2.1
  exact absurd tag (by decide)

/-- A class with a sign in it may have the key of another class with a tag. -/
example :
    Record.key (k := .runner) { taskClass := "a#x", state := .success } =
      Record.key (k := .runner) { taskClass := "a", taskTag := some "x", state := .success } := by
  decide

end TaskLedger
