/-
What a reader of JSON texts has to be.  Documents come from one, and nothing
else is said of how it reads: of each object it gives every key once.  The
reader of this library is one.
-/
import JsonSelect.Json.Reader

namespace JsonSelect

/-- A reader of documents.  Its errors tell why a text is not read, and also why a value
is not read as one of a type. -/
class JsonReader where
  Error : Type
  read : String → Except Error Json
  describe : Error → String
  wellFormed_of_read {text : String} {document : Json} :
    read text = .ok document → document.WellFormed

namespace Json

/-! The reader of this library gives every key once -/

theorem Members.mem_keys_put {members : Members} {key key' : String} {value : Json} :
    key' ∈ (members.put key value).keys ↔ key' = key ∨ key' ∈ members.keys := by
  induction members with
  | nil => simp [put, keys]
  | cons member rest ih =>
      rw [put]
      split
      · rename_i hmember
        simp [keys, hmember]
      · simp only [keys, List.map_cons, List.mem_cons] at ih ⊢
        rw [ih, or_left_comm]

theorem Members.nodup_keys_put {members : Members} (hnodup : members.keys.Nodup)
    (key : String) (value : Json) : (members.put key value).keys.Nodup := by
  induction members with
  | nil => simp [put, keys]
  | cons member rest ih =>
      rw [keys, List.map_cons, List.nodup_cons] at hnodup
      rw [put]
      split
      · rename_i hmember
        rw [keys, List.map_cons, List.nodup_cons]
        exact ⟨hmember ▸ hnodup.1, hnodup.2⟩
      · rename_i hmember
        have hfirst : member.1 ∉ keys (put rest key value) := by
          rw [mem_keys_put, not_or]
          exact ⟨hmember, hnodup.1⟩
        exact List.nodup_cons.2 ⟨hfirst, ih hnodup.2⟩

theorem MembersWellFormed.put {members : Members} (hmembers : MembersWellFormed members)
    (key : String) {value : Json} (hvalue : value.WellFormed) :
    MembersWellFormed (members.put key value) := by
  induction members with
  | nil => exact ⟨hvalue, trivial⟩
  | cons member rest ih =>
      rw [Members.put]
      split
      · exact ⟨hvalue, hmembers.2⟩
      · exact ⟨hmembers.1, ih hmembers.2⟩

namespace Reading

variable {α β : Type}

/-- The value has a property, if there is one. -/
def All (property : α → Prop) : Reading α → Prop
  | .ok value _ => property value
  | .error _ => True

theorem All.bind {property : α → Prop} {property' : β → Prop} {reading : Reading α}
    {next : α → List Char → Reading β} (hreading : reading.All property)
    (hnext : ∀ value rest, property value → (next value rest).All property') :
    (reading.bind next).All property' := by
  cases reading with
  | ok value rest => exact hnext value rest hreading
  | error _ => trivial

theorem All.map {property : α → Prop} {property' : β → Prop} {reading : Reading α}
    {f : α → β} (hreading : reading.All property)
    (hf : ∀ value, property value → property' (f value)) :
    (reading.map f).All property' := by
  cases reading with
  | ok value _ => exact hf value hreading
  | error _ => trivial

theorem all_of_forall {property : α → Prop} (hall : ∀ value, property value)
    (reading : Reading α) : reading.All property := by
  cases reading with
  | ok value _ => exact hall value
  | error _ => trivial

end Reading

open Reading

/-- What stands in a container is well formed. -/
abbrev Sound (element : List Char → Reading Json) : Prop :=
  ∀ text, (element text).All WellFormed

/-- Members of which each key is there once, with well formed values. -/
def Members.Sound (members : Members) : Prop :=
  members.keys.Nodup ∧ MembersWellFormed members

theorem all_wellFormed_readWord (value : Json) (hvalue : value.WellFormed)
    (word text : List Char) : (readWord value word text).All WellFormed := by
  induction word generalizing text with
  | nil => exact hvalue
  | cons w word ih =>
      cases text with
      | nil => trivial
      | cons c text =>
          rw [readWord]
          split
          · exact ih text
          · trivial

theorem all_wellFormed_readNumber (negative : Bool) (text : List Char) :
    (readNumber negative text).All WellFormed := by
  rw [readNumber]
  split
  · trivial
  · trivial
  · trivial
  · refine (all_of_forall (fun _ => trivial) _).bind fun fraction rest _ => ?_
    refine (all_of_forall (fun _ => trivial) _).bind fun exponent rest _ => ?_
    split
    · trivial
    · trivial

variable {element : List Char → Reading Json}

theorem all_readElements (helement : Sound element) (bound : Nat) (text : List Char) :
    (readElements element bound text).All AllWellFormed := by
  induction bound generalizing text with
  | zero => trivial
  | succ bound ih =>
      rw [readElements]
      split
      · trivial
      · trivial
      · split
        · trivial
        · trivial
        · refine (helement _).bind fun value text hvalue => ?_
          exact (ih text).map fun values hvalues => ⟨hvalue, hvalues⟩
      · trivial

theorem all_wellFormed_readArray (helement : Sound element) (text : List Char) :
    (readArray element text).All WellFormed := by
  rw [readArray]
  split
  · trivial
  · trivial
  · refine (helement _).bind fun value text hvalue => ?_
    exact (all_readElements helement _ text).map fun values hvalues => ⟨hvalue, hvalues⟩

theorem all_readMember (helement : Sound element) (text : List Char) :
    (readMember element text).All fun member => member.2.WellFormed := by
  unfold readMember
  split
  · refine (all_of_forall (fun _ => trivial) _).bind fun key text _ => ?_
    split
    · trivial
    · exact (helement _).map fun value hvalue => hvalue
    · trivial
  · trivial

theorem all_readMembers (helement : Sound element) (bound : Nat) {members : Members}
    (hmembers : members.Sound) (text : List Char) :
    (readMembers element bound members text).All Members.Sound := by
  induction bound generalizing members text with
  | zero => trivial
  | succ bound ih =>
      rw [readMembers]
      split
      · trivial
      · exact hmembers
      · split
        · trivial
        · trivial
        · refine (all_readMember helement _).bind fun member text hmember => ?_
          exact ih ⟨Members.nodup_keys_put hmembers.1 _ _, hmembers.2.put _ hmember⟩ text
      · trivial

theorem all_wellFormed_readObject (helement : Sound element) (text : List Char) :
    (readObject element text).All WellFormed := by
  rw [readObject]
  split
  · trivial
  · exact ⟨List.nodup_nil, trivial⟩
  · refine (all_readMember helement _).bind fun member text hmember => ?_
    have hfirst : Members.Sound [member] :=
      ⟨List.pairwise_singleton _ _, hmember, trivial⟩
    exact (all_readMembers helement _ hfirst text).map fun members hmembers => hmembers

theorem sound_readWith {inner : Option (List Char → Reading Json)}
    (hinner : ∀ element, inner = some element → Sound element) :
    Sound (readWith inner) := by
  intro text
  rw [readWith]
  split
  · trivial
  · exact all_wellFormed_readWord .null trivial _ _
  · exact all_wellFormed_readWord (.bool true) trivial _ _
  · exact all_wellFormed_readWord (.bool false) trivial _ _
  · exact (all_of_forall (fun _ => trivial) _).map fun _ _ => trivial
  · exact all_wellFormed_readNumber true _
  · cases inner with
    | none => trivial
    | some element => exact all_wellFormed_readArray (hinner element rfl) _
  · cases inner with
    | none => trivial
    | some element => exact all_wellFormed_readObject (hinner element rfl) _
  · split
    · exact all_wellFormed_readNumber false _
    · trivial

/-- By induction on how deep containers may nest. -/
theorem sound_readValue (depth : Nat) : Sound (readValue depth) := by
  induction depth with
  | zero => exact sound_readWith nofun
  | succ depth ih =>
      apply sound_readWith
      rintro element ⟨⟩
      exact ih

theorem wellFormed_of_ofText? {text : String} {document : Json}
    (hread : ofText? text = .ok document) : document.WellFormed := by
  have hvalue := sound_readValue maxDepth text.toList
  rw [ofText?, parse] at hread
  cases hreading : readValue maxDepth text.toList with
  | error fault =>
      rw [hreading] at hread
      cases hread
  | ok value rest =>
      rw [hreading] at hread hvalue
      cases hblanks : skipBlanks rest with
      | nil =>
          simp only [hblanks] at hread
          cases hread
          exact hvalue
      | cons c rest =>
          simp only [hblanks] at hread
          cases hread

instance reader : JsonReader where
  Error := Error
  read := ofText?
  describe := Error.message
  wellFormed_of_read := wellFormed_of_ofText?

end Json
end JsonSelect
