/-
Containers and their children.  In a well formed document an element leads to a
child exactly if the two stand together among the children.
-/
import Mathlib
import JsonSelect.Location.Basic

namespace JsonSelect
namespace Json

theorem sizeOf_lt_of_mem_children {value : Json} {child : Element × Json}
    (hchild : child ∈ value.children) : sizeOf child.2 < sizeOf value := by
  cases value with
  | array elements =>
      simp only [children, List.mem_map] at hchild
      obtain ⟨⟨element, place⟩, hmem, rfl⟩ := hchild
      have hlt : sizeOf element < sizeOf elements :=
        List.sizeOf_lt_of_mem (List.fst_mem_of_mem_zipIdx hmem)
      simp only [array.sizeOf_spec]
      omega
  | object members =>
      simp only [children, List.mem_map] at hchild
      obtain ⟨⟨name, member⟩, hmem, rfl⟩ := hchild
      have hlt := List.sizeOf_lt_of_mem hmem
      simp only [object.sizeOf_spec, Prod.mk.sizeOf_spec] at hlt ⊢
      omega
  | null => simp [children] at hchild
  | bool _ => simp [children] at hchild
  | number _ => simp [children] at hchild
  | string _ => simp [children] at hchild

/-- What follows from itself for the children of a value holds of every value. -/
@[elab_as_elim]
theorem childInduction {motive : Json → Prop}
    (step : ∀ value, (∀ child ∈ value.children, motive child.2) → motive value)
    (value : Json) : motive value := by
  induction hsize : sizeOf value using Nat.strong_induction_on generalizing value with
  | h size ih =>
      apply step value
      intro child hchild
      have hlt := sizeOf_lt_of_mem_children hchild
      exact ih (sizeOf child.2) (hsize ▸ hlt) child.2 rfl

theorem allWellFormed_iff (elements : List Json) :
    AllWellFormed elements ↔ ∀ element ∈ elements, element.WellFormed := by
  induction elements with
  | nil => simp [AllWellFormed]
  | cons element elements ih => simp [AllWellFormed, ih]

theorem membersWellFormed_iff (members : Members) :
    MembersWellFormed members ↔ ∀ member ∈ members, member.2.WellFormed := by
  induction members with
  | nil => simp [MembersWellFormed]
  | cons member members ih => simp only [MembersWellFormed, ih, List.forall_mem_cons]

namespace Members

theorem get?_append_cons {front : Members} {name : String} (hfront : name ∉ keys front)
    (value : Json) (back : Members) :
    get? (front ++ (name, value) :: back) name = some value := by
  induction front with
  | nil => rw [List.nil_append, get?_cons, if_pos rfl]
  | cons member front ih =>
      simp only [keys, List.map_cons, List.mem_cons, not_or] at hfront
      rw [List.cons_append, get?_cons, if_neg (Ne.symm hfront.1)]
      exact ih hfront.2

theorem put_append_cons {front : Members} {name : String} (hfront : name ∉ keys front)
    (value new : Json) (back : Members) :
    put (front ++ (name, value) :: back) name new = front ++ (name, new) :: back := by
  induction front with
  | nil => rw [List.nil_append, put, if_pos rfl, List.nil_append]
  | cons member front ih =>
      simp only [keys, List.map_cons, List.mem_cons, not_or] at hfront
      rw [List.cons_append, put, if_neg (Ne.symm hfront.1), ih hfront.2, List.cons_append]

theorem erase_append_cons {front : Members} {name : String} (hfront : name ∉ keys front)
    (value : Json) (back : Members) :
    erase (front ++ (name, value) :: back) name = front ++ back := by
  induction front with
  | nil => simp [erase]
  | cons member front ih =>
      simp only [keys, List.map_cons, List.mem_cons, not_or] at hfront
      have hne : ¬member.1 = name := Ne.symm hfront.1
      rw [erase, List.cons_append, List.eraseP_cons_of_neg (by simpa using hne)]
      exact congrArg (member :: ·) (ih hfront.2)

/-- The member that a key finds, and the members before and after it. -/
theorem exists_append_of_get?_eq_some {members : Members} {name : String} {value : Json}
    (hget : get? members name = some value) :
    ∃ front back, members = front ++ (name, value) :: back ∧ name ∉ keys front := by
  induction members with
  | nil => cases hget
  | cons member members ih =>
      rw [get?_cons] at hget
      by_cases hname : member.1 = name
      · rw [if_pos hname, Option.some.injEq] at hget
        refine ⟨[], members, ?_, List.not_mem_nil⟩
        rw [List.nil_append, ← hname, ← hget]
      · rw [if_neg hname] at hget
        obtain ⟨front, back, rfl, hfront⟩ := ih hget
        refine ⟨member :: front, back, rfl, ?_⟩
        simp only [keys, List.map_cons, List.mem_cons, not_or]
        exact ⟨Ne.symm hname, hfront⟩

theorem get?_eq_some_iff_mem {members : Members} (hkeys : (keys members).Nodup)
    (name : String) (value : Json) :
    get? members name = some value ↔ (name, value) ∈ members := by
  constructor
  · intro hget
    obtain ⟨front, back, rfl, -⟩ := exists_append_of_get?_eq_some hget
    simp
  · intro hmem
    obtain ⟨front, back, rfl⟩ := List.append_of_mem hmem
    apply get?_append_cons
    intro hfront
    rw [keys, List.map_append, List.nodup_append'] at hkeys
    exact hkeys.2.2 hfront (by simp)

end Members

theorem child?_eq_some_iff {value : Json} (hwf : value.WellFormed) (element : Element)
    (child : Json) :
    value.child? element = some child ↔ (element, child) ∈ value.children := by
  cases value with
  | array elements =>
      cases element with
      | key name => simp [child?, children]
      | index place =>
          simp [child?, children, List.mem_zipIdx_iff_getElem?]
  | object members =>
      cases element with
      | key name =>
          rw [WellFormed] at hwf
          rw [child?, Members.get?_eq_some_iff_mem hwf.1]
          simp [children]
      | index place => simp [child?, children]
  | null => cases element <;> simp [child?, children]
  | bool _ => cases element <;> simp [child?, children]
  | number _ => cases element <;> simp [child?, children]
  | string _ => cases element <;> simp [child?, children]

theorem WellFormed.of_mem_children {value : Json} (hwf : value.WellFormed)
    {child : Element × Json} (hchild : child ∈ value.children) : child.2.WellFormed := by
  cases value with
  | array elements =>
      rw [WellFormed, allWellFormed_iff] at hwf
      simp only [children, List.mem_map] at hchild
      obtain ⟨⟨element, place⟩, hmem, rfl⟩ := hchild
      exact hwf element (List.fst_mem_of_mem_zipIdx hmem)
  | object members =>
      rw [WellFormed, membersWellFormed_iff] at hwf
      simp only [children, List.mem_map] at hchild
      obtain ⟨member, hmem, rfl⟩ := hchild
      exact hwf.2 member hmem
  | null => simp [children] at hchild
  | bool _ => simp [children] at hchild
  | number _ => simp [children] at hchild
  | string _ => simp [children] at hchild

theorem WellFormed.of_child? {value : Json} (hwf : value.WellFormed) {element : Element}
    {child : Json} (hchild : value.child? element = some child) : child.WellFormed :=
  hwf.of_mem_children ((child?_eq_some_iff hwf element child).1 hchild)

theorem WellFormed.of_resolve? {value node : Json} (hwf : value.WellFormed)
    {location : Location} (hnode : value.resolve? location = some node) :
    node.WellFormed := by
  induction location generalizing value with
  | nil =>
      obtain rfl := Option.some.inj hnode
      exact hwf
  | cons element location ih =>
      obtain ⟨child, hchild, hnode⟩ := Option.bind_eq_some_iff.1 hnode
      exact ih (hwf.of_child? hchild) hnode

end Json
end JsonSelect
