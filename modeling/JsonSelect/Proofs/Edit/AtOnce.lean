/-
Edits that are written one after another have the same effect as if all were
made at once.  While the schedule is worked off, the document is the input with
the answers written so far, all of them for later locations than the next one;
so the next location still leads to the child that it led to in the input.
-/
import Mathlib
import JsonSelect.Proofs.Edit.Schedule

namespace JsonSelect

namespace Answers

/-- Only later locations are listed. -/
def After (answers : Answers) (location : Location) : Prop :=
  ∀ other, answers other ≠ none → compare location other = .lt

variable {answers : Answers}

theorem After.root_eq_none {location : Location} (hafter : answers.After location) :
    answers [] = none := by
  by_contra hlisted
  have hlt := hafter [] hlisted
  cases location <;> cases hlt

theorem After.below {element : Element} {location : Location}
    (hafter : answers.After (element :: location)) :
    (answers.below element).After location := by
  intro other hlisted
  have hlt := hafter (element :: other) hlisted
  rwa [Location.compare_cons_self] at hlt

theorem After.left_eq_none {place left : Nat} {location : Location}
    (hafter : answers.After (.index place :: location)) (hleft : left < place)
    (other : Location) : answers.below (.index left) other = none := by
  by_contra hlisted
  have hlt := hafter (.index left :: other) hlisted
  have hgt := Location.compare_index_cons_of_lt hleft other location
  exact Std.OrientedCmp.not_lt_of_lt hlt hgt

theorem After.put {location earlier : Location} (hafter : answers.After earlier)
    (hlt : compare earlier location = .lt) (answer : Option Json) :
    (answers.put location answer).After earlier := by
  intro other hlisted
  by_cases hother : other = location
  · exact hother ▸ hlt
  · exact hafter other (by simpa [Answers.put, hother] using hlisted)

end Answers

namespace Json

/-- Gives a child a new value, or takes it away. -/
def replaceChild (value : Json) (element : Element) : Option Json → Json
  | some child => value.setChild element child
  | none => value.eraseChild element

theorem exists_append_of_getElem?_eq_some {elements : List Json} {place : Nat}
    {element : Json} (hget : elements[place]? = some element) :
    ∃ front back, elements = front ++ element :: back ∧ front.length = place := by
  obtain ⟨hlt, rfl⟩ := List.getElem?_eq_some_iff.1 hget
  refine ⟨elements.take place, elements.drop (place + 1), ?_, ?_⟩
  · rw [List.getElem_cons_drop, List.take_append_drop]
  · exact List.length_take_of_le (Nat.le_of_lt hlt)

section Child

variable {answers : Answers} {child new : Json} {location : Location}

/-- In an array an earlier answer below an element changes that element alone: what
stands before it has no answers yet, and what stands after it has those that it had. -/
theorem rebuild_put_index {front : List Json} (back : List Json)
    (hafter : answers.After (.index front.length :: location))
    (hnew : child.rebuilt? (answers.below (.index front.length)) = some new)
    (answer : Option Json) :
    ∃ back',
      (array (front ++ child :: back)).rebuild answers = array (front ++ new :: back') ∧
      (array (front ++ child :: back)).rebuild
          (answers.put (.index front.length :: location) answer) =
        array (front ++ (child.rebuilt?
          ((answers.below (.index front.length)).put location answer)).toList ++
            back') := by
  have hroot := hafter.root_eq_none
  have hroot' : answers.put (.index front.length :: location) answer [] = none := hroot
  have hself : rebuiltElements answers 0 front = front := by
    apply rebuiltElements_eq_self
    intro pair hpair
    have hleft : pair.2 < front.length := by simpa using List.snd_lt_of_mem_zipIdx hpair
    exact rebuilt?_of_forall_none (hafter.left_eq_none hleft) pair.1
  have hfront :
      rebuiltElements (answers.put (.index front.length :: location) answer) 0 front =
      rebuiltElements answers 0 front := by
    apply rebuiltElements_congr
    intro pair hpair
    have hleft : pair.2 < front.length := by simpa using List.snd_lt_of_mem_zipIdx hpair
    rw [Answers.below_put_of_ne _ fun heq => Nat.ne_of_lt hleft (Element.index.inj heq)]
  have hback : rebuiltElements (answers.put (.index front.length :: location) answer)
      (front.length + 1) back = rebuiltElements answers (front.length + 1) back := by
    apply rebuiltElements_congr
    intro pair hpair
    have hright := List.le_snd_of_mem_zipIdx hpair
    rw [Answers.below_put_of_ne _ fun heq => Nat.ne_of_gt hright (Element.index.inj heq)]
  refine ⟨rebuiltElements answers (front.length + 1) back, ?_, ?_⟩
  · rw [rebuild_array hroot, rebuiltElements_append, Nat.zero_add, rebuiltElements,
      hself, hnew]
    rfl
  · rw [rebuild_array hroot', rebuiltElements_append, Nat.zero_add, rebuiltElements,
      hfront, hself, hback, Answers.below_put_self, List.append_assoc]

/-- In an object an earlier answer below a member changes that member alone. -/
theorem rebuild_put_key {front back : Members} {name : String}
    (hfront : name ∉ front.keys)
    (hback : name ∉ back.keys) (hafter : answers.After (.key name :: location))
    (hnew : child.rebuilt? (answers.below (.key name)) = some new)
    (answer : Option Json) : ∃ front' back',
      name ∉ Members.keys front' ∧
      (object (front ++ (name, child) :: back)).rebuild answers =
        object (front' ++ (name, new) :: back') ∧
      (object (front ++ (name, child) :: back)).rebuild
          (answers.put (.key name :: location) answer) =
        object (front' ++ ((child.rebuilt?
          ((answers.below (.key name)).put location answer)).map (name, ·)).toList ++
            back') := by
  have hroot := hafter.root_eq_none
  have hroot' : answers.put (.key name :: location) answer [] = none := hroot
  have hother : ∀ members : Members, name ∉ members.keys →
      rebuiltMembers (answers.put (.key name :: location) answer) members =
        rebuiltMembers answers members := by
    intro members hmembers
    apply rebuiltMembers_congr
    intro member hmember
    have hne : member.1 ≠ name := fun heq => hmembers (heq ▸ List.mem_map_of_mem hmember)
    rw [Answers.below_put_of_ne _ fun heq => hne (Element.key.inj heq)]
  refine ⟨rebuiltMembers answers front, rebuiltMembers answers back, ?_, ?_, ?_⟩
  · intro hmem
    exact hfront ((keys_rebuiltMembers_sublist answers front).subset hmem)
  · rw [rebuild_object hroot, rebuiltMembers_append, rebuiltMembers, hnew]
    rfl
  · rw [rebuild_object hroot', rebuiltMembers_append, rebuiltMembers, hother front hfront,
      hother back hback, Answers.below_put_self, List.append_assoc]

/-- Where later answers are written already, an earlier one below a child changes what
that child has become, or takes it away. -/
theorem rebuild_put_below {value : Json} {element : Element} (hwf : value.WellFormed)
    (hchild : value.child? element = some child)
    (hafter : answers.After (element :: location))
    (hnew : child.rebuilt? (answers.below element) = some new) (answer : Option Json) :
    (value.rebuild answers).child? element = some new ∧
      value.rebuild (answers.put (element :: location) answer) =
        (value.rebuild answers).replaceChild element
          (child.rebuilt? ((answers.below element).put location answer)) := by
  cases value with
  | array elements =>
      cases element with
      | key name => cases hchild
      | index place =>
          obtain ⟨front, back, rfl, rfl⟩ := exists_append_of_getElem?_eq_some hchild
          obtain ⟨back', hbefore, hthen⟩ := rebuild_put_index back hafter hnew answer
          rw [hbefore, hthen]
          constructor
          · simp [child?]
          · cases child.rebuilt?
              ((answers.below (.index front.length)).put location answer) with
            | none => simp [replaceChild, eraseChild, List.eraseIdx_append_of_length_le]
            | some child' => simp [replaceChild, setChild]
  | object members =>
      cases element with
      | index place => cases hchild
      | key name =>
          obtain ⟨front, back, rfl, hfront⟩ :=
            Members.exists_append_of_get?_eq_some hchild
          rw [WellFormed, Members.keys, List.map_append, List.nodup_append'] at hwf
          have hback : name ∉ Members.keys back := (List.nodup_cons.1 hwf.1.2.1).1
          obtain ⟨front', back', hfront', hbefore, hthen⟩ :=
            rebuild_put_key hfront hback hafter hnew answer
          rw [hbefore, hthen]
          constructor
          · exact Members.get?_append_cons hfront' new back'
          · cases child.rebuilt? ((answers.below (.key name)).put location answer) with
            | none =>
                simp only [replaceChild, eraseChild, Members.erase_append_cons hfront']
                simp
            | some child' =>
                simp only [replaceChild, setChild, Members.put_append_cons hfront']
                simp
  | null => cases element <;> cases hchild
  | bool _ => cases element <;> cases hchild
  | number _ => cases element <;> cases hchild
  | string _ => cases element <;> cases hchild

end Child

/-- What becomes of a value is there unless the answer at its own location
takes it away. -/
theorem rebuilt?_put {answers : Answers} (hroot : answers [] = none) {location : Location}
    {answer : Option Json} (hstays : location ≠ [] ∨ answer ≠ none) (value : Json) :
    value.rebuilt? (answers.put location answer) =
      some (value.rebuild (answers.put location answer)) := by
  cases location with
  | nil =>
      cases answer with
      | none => simp at hstays
      | some new =>
          have hlisted := Answers.put_nil_nil answers (some new)
          rw [rebuild, rebuilt?_of_listed hlisted]
          rfl
  | cons element location =>
      have hunlisted : answers.put (element :: location) answer [] = none := hroot
      exact rebuilt?_of_unlisted hunlisted value

/-- An update that does at some ancestor what an earlier answer asks for there. -/
theorem update?_rebuild (f : Json → Json) {answers : Answers} {value node : Json}
    (hwf : value.WellFormed) {ancestor rest : Location}
    (hnode : value.resolve? ancestor = some node)
    (hafter : answers.After (ancestor ++ rest))
    {answer : Option Json} (hstays : rest ≠ [] ∨ answer ≠ none)
    (hf : ∀ answers : Answers, node.WellFormed → answers.After rest →
      f (node.rebuild answers) = node.rebuild (answers.put rest answer)) :
    (value.rebuild answers).update? f ancestor =
      some (value.rebuild (answers.put (ancestor ++ rest) answer)) := by
  induction ancestor generalizing value answers with
  | nil =>
      rw [resolve?, Option.some.injEq] at hnode
      subst hnode
      exact congrArg some (hf answers hwf hafter)
  | cons element ancestor ih =>
      rw [resolve?] at hnode
      obtain ⟨child, hchild, hnode⟩ := Option.bind_eq_some_iff.1 hnode
      rw [List.cons_append] at hafter ⊢
      have hbelow := hafter.below
      have hnew := rebuilt?_of_unlisted hbelow.root_eq_none child
      obtain ⟨hfound, hput⟩ := rebuild_put_below hwf hchild hafter hnew answer
      have hstays' : ancestor ++ rest ≠ [] ∨ answer ≠ none :=
        hstays.imp_left fun hrest happend => hrest (List.append_eq_nil_iff.1 happend).2
      rw [update?, hfound, Option.bind_some, ih (hwf.of_child? hchild) hnode hbelow,
        Option.map_some, hput, rebuilt?_put hbelow.root_eq_none hstays']
      rfl

end Json

namespace Edit

/-- Where the answers for later locations are written already, an edit writes its own. -/
theorem apply_rebuild {document : Json} (hwf : document.WellFormed) {answers : Answers}
    (edit : Edit) (hresolves : (document.resolve? edit.location).isSome)
    (hafter : answers.After edit.location) :
    apply (document.rebuild answers) edit =
      document.rebuild (answers.put edit.location edit.answer) := by
  obtain ⟨location, answer⟩ := edit
  obtain ⟨node, hnode⟩ := Option.isSome_iff_exists.1 hresolves
  cases answer with
  | some new =>
      have hwrite : (document.rebuild answers).update? (fun _ => new) location =
          some (document.rebuild (answers.put (location ++ []) (some new))) := by
        apply Json.update?_rebuild _ hwf hnode
        · rwa [List.append_nil]
        · exact Or.inr (Option.some_ne_none new)
        · intro answers' _ _
          rw [Json.rebuild,
            Json.rebuilt?_of_listed (Answers.put_nil_nil answers' (some new))]
          rfl
      rw [List.append_nil] at hwrite
      simp only [apply, Json.set?, hwrite, Option.getD_some]
  | none =>
      rcases List.eq_nil_or_concat location with rfl | ⟨parent, last, rfl⟩
      · have hnull : document.rebuild (answers.put [] none) = .null := by
          rw [Json.rebuild, Json.rebuilt?_of_listed (Answers.put_nil_nil answers none)]
          rfl
        exact hnull.symm
      · rw [List.concat_eq_append] at hnode hafter ⊢
        rw [Json.resolve?_append] at hnode
        obtain ⟨container, hcontainer, hlast⟩ := Option.bind_eq_some_iff.1 hnode
        have herase : (document.rebuild answers).update? (·.eraseChild last) parent =
            some (document.rebuild (answers.put (parent ++ [last]) none)) := by
          apply Json.update?_rebuild _ hwf hcontainer hafter
          · exact Or.inl (List.cons_ne_nil last [])
          · intro answers' hwf' hafter'
            rw [Json.resolve?] at hlast
            obtain ⟨child, hchild, -⟩ := Option.bind_eq_some_iff.1 hlast
            have hnew := Json.rebuilt?_of_unlisted hafter'.below.root_eq_none child
            obtain ⟨-, hput⟩ := Json.rebuild_put_below hwf' hchild hafter' hnew none
            rw [hput, Json.rebuilt?_of_listed (Answers.put_nil_nil _ none)]
            rfl
        simp only [apply, Location.splitLast?_append, herase, Option.getD_some]

/-- Working off a falling schedule adds its answers to those that are written already. -/
theorem foldl_apply_rebuild {document : Json} (hwf : document.WellFormed)
    (edits : List Edit) (hfalling : Falling edits)
    (hresolves : ∀ edit ∈ edits, (document.resolve? edit.location).isSome)
    {answers : Answers} (hafter : ∀ edit ∈ edits, answers.After edit.location) :
    edits.foldl apply (document.rebuild answers) =
      document.rebuild fun location =>
        (firstAnswer edits location).or (answers location) := by
  induction edits generalizing answers with
  | nil => rfl
  | cons edit edits ih =>
      rw [Falling, List.pairwise_cons] at hfalling
      rw [List.forall_mem_cons] at hresolves hafter
      rw [List.foldl_cons, apply_rebuild hwf edit hresolves.1 hafter.1,
        ih hfalling.2 hresolves.2]
      · congr 1
        funext location
        rw [firstAnswer_cons, Answers.put]
        by_cases hlocation : location = edit.location
        · have hlast : firstAnswer edits location = none := by
            rw [firstAnswer_eq_none_iff]
            intro other hother heq
            have hlt := hfalling.1 other hother
            rw [heq, hlocation] at hlt
            exact Std.OrientedCmp.not_lt_of_lt hlt hlt
          rw [hlast, if_pos hlocation, if_pos hlocation.symm]
          rfl
        · rw [if_neg hlocation, if_neg (Ne.symm hlocation)]
      · intro later hlater
        exact (hafter.2 later hlater).put (hfalling.1 later hlater) edit.answer

/-- Falling edits make of a document what their answers make of it. -/
theorem foldl_apply_of_falling {document : Json} (hwf : document.WellFormed)
    {edits : List Edit} (hfalling : Falling edits)
    (hresolves : ∀ edit ∈ edits, (document.resolve? edit.location).isSome) :
    edits.foldl apply document = document.rebuild (firstAnswer edits) := by
  have hnone : document.rebuild (fun _ => none) = document := by
    rw [Json.rebuild, Json.rebuilt?_of_forall_none fun _ => rfl]
    rfl
  have hafter : ∀ edit ∈ edits, Answers.After (fun _ => none) edit.location :=
    fun _ _ _ hlisted => absurd rfl hlisted
  have hfold := foldl_apply_rebuild hwf edits hfalling hresolves hafter
  rw [hnone] at hfold
  rw [hfold]
  congr 1
  funext location
  rw [Option.or_none]

/-- The schedule of some edits makes of a document what their first answers make of it. -/
theorem foldl_apply_schedule {document : Json} (hwf : document.WellFormed)
    (edits : List Edit)
    (hresolves : ∀ edit ∈ edits, (document.resolve? edit.location).isSome) :
    (schedule edits).foldl apply document = document.rebuild (firstAnswer edits) := by
  rw [foldl_apply_of_falling hwf (falling_schedule edits)
    fun edit hedit => hresolves edit (mem_of_mem_schedule hedit), firstAnswer_schedule]

end Edit
end JsonSelect
