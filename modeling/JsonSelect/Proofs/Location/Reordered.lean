/-
Documents that differ only in the order of the members of their objects.  Such
documents have children under the same elements, and the children under one
element differ in the same way.  Putting all members in the order of their keys
makes no other difference.
-/
import Mathlib
import JsonSelect.Json.Scalar
import JsonSelect.Proofs.Location.Children

namespace JsonSelect
namespace Json

/-- The same value but for the order in which objects have their members,
at every depth. -/
inductive Reordered : Json → Json → Prop
  | scalar {value : Json} {scalar : Scalar} (hscalar : value.scalar? = some scalar) :
      Reordered value value
  | array {elements elements' : List Json} (hlength : elements.length = elements'.length)
      (hsame : ∀ (place : Nat) (element element' : Json),
        elements[place]? = some element → elements'[place]? = some element' →
          Reordered element element') :
      Reordered (.array elements) (.array elements')
  | object {members members' : Members}
      (hkeys : (Members.keys members).Perm members'.keys)
      (hsame : ∀ (name : String) (member member' : Json), (name, member) ∈ members →
        (name, member') ∈ members' → Reordered member member') :
      Reordered (.object members) (.object members')

/-- Children that stand under the same element and differ in the order of members only. -/
def SameChild (child child' : Element × Json) : Prop :=
  child.1 = child'.1 ∧ child.2.Reordered child'.2

theorem children_eq_nil_of_scalar? {value : Json} {scalar : Scalar}
    (hscalar : value.scalar? = some scalar) : value.children = [] := by
  cases value with
  | array _ => cases hscalar
  | object _ => cases hscalar
  | null => rfl
  | bool _ => rfl
  | number _ => rfl
  | string _ => rfl

theorem elements_children_array (elements : List Json) :
    (array elements).children.map (·.1) = (List.range elements.length).map .index := by
  rw [children, List.map_map, List.range_eq_range', ← List.zipIdx_map_snd 0 elements,
    List.map_map]
  rfl

theorem elements_children_object (members : Members) :
    (object members).children.map (·.1) = members.keys.map .key := by
  rw [children, Members.keys, List.map_map, List.map_map]
  rfl

namespace Reordered

variable {value value' : Json}

theorem perm_elements (hsame : value.Reordered value') :
    (value.children.map (·.1)).Perm (value'.children.map (·.1)) := by
  cases hsame with
  | scalar _ => exact List.Perm.refl _
  | array hlength _ => rw [elements_children_array, elements_children_array, hlength]
  | object hkeys _ =>
      rw [elements_children_object, elements_children_object]
      exact hkeys.map _

theorem of_mem_children (hsame : value.Reordered value') {child child' : Element × Json}
    (hchild : child ∈ value.children) (hchild' : child' ∈ value'.children)
    (helement : child.1 = child'.1) : child.2.Reordered child'.2 := by
  cases hsame with
  | scalar hscalar =>
      rw [children_eq_nil_of_scalar? hscalar] at hchild
      cases hchild
  | array _ hsame =>
      simp only [children, List.mem_map, Prod.exists, List.mem_zipIdx_iff_getElem?]
        at hchild hchild'
      obtain ⟨element, place, hplace, rfl⟩ := hchild
      obtain ⟨element', place', hplace', rfl⟩ := hchild'
      obtain rfl := Element.index.inj helement
      exact hsame place element element' hplace hplace'
  | object _ hsame =>
      simp only [children, List.mem_map, Prod.exists] at hchild hchild'
      obtain ⟨name, member, hmember, rfl⟩ := hchild
      obtain ⟨name', member', hmember', rfl⟩ := hchild'
      obtain rfl := Element.key.inj helement
      exact hsame name member member' hmember hmember'

/-- The children are the same but for their order and the order of members in them. -/
theorem rel_children (hsame : value.Reordered value') :
    Multiset.Rel SameChild value.children value'.children := by
  have helements : Multiset.Rel (fun child child' : Element × Json => child.1 = child'.1)
      value.children value'.children := by
    apply Multiset.rel_map.1
    rw [Multiset.rel_eq, Multiset.map_coe, Multiset.map_coe, Multiset.coe_eq_coe]
    exact hsame.perm_elements
  exact helements.mono fun child hchild child' hchild' helement =>
    ⟨helement, hsame.of_mem_children hchild hchild' helement⟩

end Reordered

/-! The order of the keys -/

theorem sortAll_eq_map (elements : List Json) :
    sortAll elements = elements.map sortKeys := by
  induction elements with
  | nil => rfl
  | cons element elements ih => rw [sortAll, ih, List.map_cons]

theorem sortMembers_eq_map (members : Members) :
    sortMembers members = members.map fun member => (member.1, member.2.sortKeys) := by
  induction members with
  | nil => rfl
  | cons member members ih => rw [sortMembers, ih, List.map_cons]

/-- Members in the order of their keys make no other difference. -/
theorem reordered_sortKeys {value : Json} (hwf : value.WellFormed) :
    value.Reordered value.sortKeys := by
  induction value using childInduction with
  | step value ih =>
      cases value with
      | array elements =>
          rw [sortKeys, sortAll_eq_map]
          apply Reordered.array (List.length_map sortKeys).symm
          intro place element element' hplace hplace'
          have hchild : (Element.index place, element) ∈ (array elements).children :=
            (child?_eq_some_iff hwf (.index place) element).1 hplace
          rw [List.getElem?_map, hplace, Option.map_some, Option.some.injEq] at hplace'
          rw [← hplace']
          exact ih _ hchild (hwf.of_mem_children hchild)
      | object members =>
          have hperm := List.mergeSort_perm (sortMembers members)
            fun a b => (compare a.1 b.1).isLE
          rw [sortKeys]
          apply Reordered.object
          · have hkeys : Members.keys (sortMembers members) = Members.keys members := by
              rw [sortMembers_eq_map, Members.keys, List.map_map]
              rfl
            rw [← hkeys]
            exact (hperm.map _).symm
          · intro name member member' hmember hmember'
            rw [hperm.mem_iff, sortMembers_eq_map, List.mem_map] at hmember'
            obtain ⟨⟨name', original⟩, horiginal, heq⟩ := hmember'
            obtain ⟨rfl, rfl⟩ := Prod.mk.inj heq
            have hchild : (Element.key name', original) ∈ (object members).children :=
              List.mem_map_of_mem horiginal
            have hget := (child?_eq_some_iff hwf (.key name') original).2 hchild
            have hget' := (child?_eq_some_iff hwf (.key name') member).2
              (List.mem_map_of_mem hmember)
            obtain rfl : original = member := Option.some.inj (hget.symm.trans hget')
            exact ih _ hchild (hwf.of_mem_children hchild)
      | null => exact .scalar rfl
      | bool _ => exact .scalar rfl
      | number _ => exact .scalar rfl
      | string _ => exact .scalar rfl

end Json
end JsonSelect
