/-
What a document becomes when answers for some of its locations are taken all at
once: it is rebuilt from the root down, and an answer stands for the value at
its location and everything below it.
-/
import Mathlib
import JsonSelect.Edit
import JsonSelect.Proofs.Location.Children

namespace JsonSelect

/-- Locations with their answers.  Nothing is said about a location that is not listed;
the answer for a listed one is a new value, or that what is there is taken away. -/
abbrev Answers := Location → Option (Option Json)

namespace Answers

/-- Locations below a child, as they are seen from it. -/
def below (answers : Answers) (element : Element) : Answers :=
  fun location => answers (element :: location)

/-- The answer for one location is put in the place of what was said about it. -/
def put (answers : Answers) (location : Location) (answer : Option Json) : Answers :=
  fun other => if other = location then some answer else answers other

theorem below_put_self (answers : Answers) (element : Element) (location : Location)
    (answer : Option Json) :
    (answers.put (element :: location) answer).below element =
      (answers.below element).put location answer := by
  funext other
  simp [below, put]

theorem below_put_of_ne (answers : Answers) {element other : Element}
    (hne : other ≠ element) (location : Location) (answer : Option Json) :
    (answers.put (element :: location) answer).below other = answers.below other := by
  funext location'
  simp [below, put, hne]

/-- Every answer that is a value has each key once. -/
def WellFormed (answers : Answers) : Prop :=
  ∀ location value, answers location = some (some value) → value.WellFormed

theorem WellFormed.below {answers : Answers} (hanswers : answers.WellFormed)
    (element : Element) :
    (answers.below element).WellFormed :=
  fun location => hanswers (element :: location)

theorem put_nil_nil (answers : Answers) (answer : Option Json) :
    answers.put [] answer [] = some answer := rfl

end Answers

namespace Json

mutual

/-- What a value becomes; none if it is taken away.  A value that is not listed stays a
container of what its children become, in their order. -/
def rebuilt? (answers : Answers) : Json → Option Json
  | .array elements =>
      (answers []).getD (some (.array (rebuiltElements answers 0 elements)))
  | .object members => (answers []).getD (some (.object (rebuiltMembers answers members)))
  | value => (answers []).getD (some value)

/-- What becomes of the elements of an array, the first of which stands at
the given place. -/
def rebuiltElements (answers : Answers) (place : Nat) : List Json → List Json
  | [] => []
  | element :: rest =>
      (element.rebuilt? (answers.below (.index place))).toList ++
        rebuiltElements answers (place + 1) rest

/-- What becomes of the members of an object; they keep their keys. -/
def rebuiltMembers (answers : Answers) : List (String × Json) → List (String × Json)
  | [] => []
  | member :: rest =>
      ((member.2.rebuilt? (answers.below (.key member.1))).map (member.1, ·)).toList ++
        rebuiltMembers answers rest

end

/-- What a document becomes.  The root cannot be taken away and becomes null. -/
def rebuild (document : Json) (answers : Answers) : Json :=
  (document.rebuilt? answers).getD .null

theorem rebuilt?_of_listed {answers : Answers} {answer : Option Json}
    (hlisted : answers [] = some answer) (value : Json) :
    value.rebuilt? answers = answer := by
  cases value <;> rw [rebuilt?, hlisted] <;> first | rfl | nofun

theorem rebuilt?_of_unlisted {answers : Answers} (hunlisted : answers [] = none)
    (value : Json) :
    value.rebuilt? answers = some (value.rebuild answers) := by
  cases value <;> simp [rebuild, rebuilt?, hunlisted]

theorem rebuild_array {answers : Answers} (hunlisted : answers [] = none)
    (elements : List Json) :
    (array elements).rebuild answers = .array (rebuiltElements answers 0 elements) := by
  rw [rebuild, rebuilt?, hunlisted]
  rfl

theorem rebuild_object {answers : Answers} (hunlisted : answers [] = none)
    (members : Members) :
    (object members).rebuild answers = .object (rebuiltMembers answers members) := by
  rw [rebuild, rebuilt?, hunlisted]
  rfl

theorem rebuiltElements_append (answers : Answers) (place : Nat)
    (front back : List Json) :
    rebuiltElements answers place (front ++ back) =
      rebuiltElements answers place front ++
        rebuiltElements answers (place + front.length) back := by
  induction front generalizing place with
  | nil => rfl
  | cons element front ih =>
      rw [List.cons_append, rebuiltElements, rebuiltElements, ih, List.append_assoc,
        List.length_cons, Nat.add_right_comm, Nat.add_assoc]

theorem rebuiltMembers_append (answers : Answers) (front back : Members) :
    rebuiltMembers answers (front ++ back) =
      rebuiltMembers answers front ++ rebuiltMembers answers back := by
  induction front with
  | nil => rfl
  | cons member front ih =>
      rw [List.cons_append, rebuiltMembers, rebuiltMembers, ih, List.append_assoc]

/-- The surviving members keep their keys and their order. -/
theorem keys_rebuiltMembers_sublist (answers : Answers) (members : Members) :
    (Members.keys (rebuiltMembers answers members)).Sublist (Members.keys members) := by
  induction members with
  | nil => exact List.Sublist.refl []
  | cons member members ih =>
      rw [rebuiltMembers]
      cases member.2.rebuilt? (answers.below (.key member.1)) with
      | none => exact ih.cons member.1
      | some value => exact ih.cons_cons member.1

theorem exists_of_mem_rebuiltElements {answers : Answers} {place : Nat}
    {elements : List Json} {new : Json}
    (hnew : new ∈ rebuiltElements answers place elements) :
    ∃ pair ∈ elements.zipIdx place,
      pair.1.rebuilt? (answers.below (.index pair.2)) = some new := by
  induction elements generalizing place with
  | nil => cases hnew
  | cons element elements ih =>
      rw [rebuiltElements, List.mem_append, Option.mem_toList] at hnew
      rw [List.zipIdx_cons]
      rcases hnew with hhead | hrest
      · exact ⟨(element, place), List.mem_cons_self, hhead⟩
      · obtain ⟨pair, hpair, hrebuilt⟩ := ih hrest
        exact ⟨pair, List.mem_cons_of_mem _ hpair, hrebuilt⟩

theorem exists_of_mem_rebuiltMembers {answers : Answers} {members : Members}
    {new : String × Json}
    (hnew : new ∈ rebuiltMembers answers members) :
    ∃ member ∈ members, member.1 = new.1 ∧
      member.2.rebuilt? (answers.below (.key member.1)) = some new.2 := by
  induction members with
  | nil => cases hnew
  | cons member members ih =>
      rw [rebuiltMembers, List.mem_append, Option.mem_toList,
        Option.map_eq_some_iff] at hnew
      rcases hnew with ⟨value, hvalue, rfl⟩ | hrest
      · exact ⟨member, List.mem_cons_self, rfl, hvalue⟩
      · obtain ⟨other, hother, hrebuilt⟩ := ih hrest
        exact ⟨other, List.mem_cons_of_mem _ hother, hrebuilt⟩

theorem rebuiltElements_congr {answers answers' : Answers} {place : Nat}
    {elements : List Json} (hsame : ∀ pair ∈ elements.zipIdx place,
      pair.1.rebuilt? (answers.below (.index pair.2)) =
        pair.1.rebuilt? (answers'.below (.index pair.2))) :
    rebuiltElements answers place elements = rebuiltElements answers' place elements := by
  induction elements generalizing place with
  | nil => rfl
  | cons element elements ih =>
      rw [List.zipIdx_cons, List.forall_mem_cons] at hsame
      rw [rebuiltElements, rebuiltElements, ih hsame.2]
      exact congrArg (fun new => Option.toList new ++ _) hsame.1

theorem rebuiltMembers_congr {answers answers' : Answers} {members : Members}
    (hsame : ∀ member ∈ members,
      member.2.rebuilt? (answers.below (.key member.1)) =
        member.2.rebuilt? (answers'.below (.key member.1))) :
    rebuiltMembers answers members = rebuiltMembers answers' members := by
  induction members with
  | nil => rfl
  | cons member members ih =>
      rw [List.forall_mem_cons] at hsame
      rw [rebuiltMembers, rebuiltMembers, ih hsame.2]
      exact congrArg (fun new => (Option.map (member.1, ·) new).toList ++ _) hsame.1

theorem rebuiltElements_eq_self {answers : Answers} {place : Nat} {elements : List Json}
    (hself : ∀ pair ∈ elements.zipIdx place,
      pair.1.rebuilt? (answers.below (.index pair.2)) = some pair.1) :
    rebuiltElements answers place elements = elements := by
  induction elements generalizing place with
  | nil => rfl
  | cons element elements ih =>
      rw [List.zipIdx_cons, List.forall_mem_cons] at hself
      rw [rebuiltElements, ih hself.2, hself.1]
      rfl

theorem rebuiltMembers_eq_self {answers : Answers} {members : Members}
    (hself : ∀ member ∈ members,
      member.2.rebuilt? (answers.below (.key member.1)) = some member.2) :
    rebuiltMembers answers members = members := by
  induction members with
  | nil => rfl
  | cons member members ih =>
      rw [List.forall_mem_cons] at hself
      rw [rebuiltMembers, ih hself.2, hself.1]
      rfl

/-- What a value becomes depends on what its children become. -/
theorem rebuild_congr_children {answers answers' : Answers}
    (hunlisted : answers [] = none) (hunlisted' : answers' [] = none) {value : Json}
    (hsame : ∀ child ∈ value.children,
      child.2.rebuilt? (answers.below child.1) =
        child.2.rebuilt? (answers'.below child.1)) :
    value.rebuild answers = value.rebuild answers' := by
  cases value with
  | array elements =>
      simp only [children, List.forall_mem_map] at hsame
      rw [rebuild_array hunlisted, rebuild_array hunlisted', rebuiltElements_congr hsame]
  | object members =>
      simp only [children, List.forall_mem_map] at hsame
      rw [rebuild_object hunlisted, rebuild_object hunlisted', rebuiltMembers_congr hsame]
  | null => simp [rebuild, rebuilt?, hunlisted, hunlisted']
  | bool _ => simp [rebuild, rebuilt?, hunlisted, hunlisted']
  | number _ => simp [rebuild, rebuilt?, hunlisted, hunlisted']
  | string _ => simp [rebuild, rebuilt?, hunlisted, hunlisted']

/-- Only answers for locations that are there count, and of those only the outermost. -/
theorem rebuilt?_congr {answers answers' : Answers} {value : Json}
    (hwf : value.WellFormed)
    (hsame : ∀ location, (value.resolve? location).isSome →
      (∀ ancestor, ancestor <+: location → ancestor ≠ location →
        answers ancestor = none) → answers location = answers' location) :
    value.rebuilt? answers = value.rebuilt? answers' := by
  induction value using childInduction generalizing answers answers' with
  | step value ih =>
      have hroot : answers [] = answers' [] := by
        apply hsame [] rfl
        intro ancestor hprefix hne
        exact absurd (List.prefix_nil.1 hprefix) hne
      cases hanswer : answers [] with
      | some answer =>
          rw [rebuilt?_of_listed hanswer, rebuilt?_of_listed (hroot ▸ hanswer)]
      | none =>
          rw [rebuilt?_of_unlisted hanswer, rebuilt?_of_unlisted (hroot ▸ hanswer)]
          congr 1
          apply rebuild_congr_children hanswer (hroot ▸ hanswer)
          intro child hchild
          have hfound := (child?_eq_some_iff hwf child.1 child.2).2 hchild
          apply ih child hchild (hwf.of_mem_children hchild)
          intro location hresolves hancestors
          apply hsame (child.1 :: location)
          · rw [resolve?, hfound]
            exact hresolves
          · intro ancestor hprefix hne
            cases ancestor with
            | nil => exact hanswer
            | cons element ancestor =>
                obtain ⟨rfl, hrest⟩ := List.cons_prefix_cons.1 hprefix
                exact hancestors ancestor hrest fun heq => hne (congrArg _ heq)

theorem rebuild_congr {answers answers' : Answers} {document : Json}
    (hwf : document.WellFormed)
    (hsame : ∀ location, (document.resolve? location).isSome →
      (∀ ancestor, ancestor <+: location → ancestor ≠ location →
        answers ancestor = none) → answers location = answers' location) :
    document.rebuild answers = document.rebuild answers' :=
  congrArg (Option.getD · Json.null) (rebuilt?_congr hwf hsame)

/-- Without answers nothing changes. -/
theorem rebuilt?_of_forall_none {answers : Answers}
    (hnone : ∀ location, answers location = none) (value : Json) :
    value.rebuilt? answers = some value := by
  induction value using childInduction generalizing answers with
  | step value ih =>
      have hroot := hnone []
      rw [rebuilt?_of_unlisted hroot, Option.some.injEq]
      cases value with
      | array elements =>
          simp only [children, List.forall_mem_map] at ih
          rw [rebuild_array hroot, rebuiltElements_eq_self]
          intro pair hpair
          exact ih pair hpair fun _ => hnone _
      | object members =>
          simp only [children, List.forall_mem_map] at ih
          rw [rebuild_object hroot, rebuiltMembers_eq_self]
          intro member hmember
          exact ih member hmember fun _ => hnone _
      | null => simp [rebuild, rebuilt?, hroot]
      | bool _ => simp [rebuild, rebuilt?, hroot]
      | number _ => simp [rebuild, rebuilt?, hroot]
      | string _ => simp [rebuild, rebuilt?, hroot]

/-- A document that is rebuilt has each key once if it had before and the answers have. -/
theorem WellFormed.rebuild {answers : Answers} (hanswers : answers.WellFormed)
    {value : Json} (hwf : value.WellFormed) : (value.rebuild answers).WellFormed := by
  induction value using childInduction generalizing answers with
  | step value ih =>
      cases hroot : answers [] with
      | some answer =>
          rw [Json.rebuild, rebuilt?_of_listed hroot]
          cases answer with
          | none => trivial
          | some new => exact hanswers [] new hroot
      | none =>
          have hnew : ∀ child ∈ value.children, ∀ new,
              child.2.rebuilt? (answers.below child.1) = some new → new.WellFormed := by
            intro child hchild new hrebuilt
            have hchild := ih child hchild (hanswers.below child.1)
              (hwf.of_mem_children hchild)
            rwa [Json.rebuild, hrebuilt, Option.getD_some] at hchild
          cases value with
          | array elements =>
              rw [rebuild_array hroot, WellFormed, allWellFormed_iff]
              intro new hmem
              obtain ⟨pair, hpair, hrebuilt⟩ := exists_of_mem_rebuiltElements hmem
              exact hnew (.index pair.2, pair.1) (List.mem_map_of_mem hpair) new hrebuilt
          | object members =>
              rw [rebuild_object hroot, WellFormed, membersWellFormed_iff]
              refine ⟨hwf.1.sublist (keys_rebuiltMembers_sublist answers members), ?_⟩
              intro new hmem
              obtain ⟨member, hmember, -, hrebuilt⟩ := exists_of_mem_rebuiltMembers hmem
              exact hnew (.key member.1, member.2)
                (List.mem_map_of_mem hmember) new.2 hrebuilt
          | null => simp [Json.rebuild, rebuilt?, hroot, WellFormed]
          | bool _ => simp [Json.rebuild, rebuilt?, hroot, WellFormed]
          | number _ => simp [Json.rebuild, rebuilt?, hroot, WellFormed]
          | string _ => simp [Json.rebuild, rebuilt?, hroot, WellFormed]

end Json
end JsonSelect
