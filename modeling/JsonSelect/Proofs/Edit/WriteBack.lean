/-
Replacing by going back through the matches.  The answers for the matches of a
path can as well be written as they stand, the last match first: an ancestor is
matched before what is below it, so it is written later, and the first of its
answers is written last.
-/
import Mathlib
import JsonSelect.Proofs.Edit.Selected
import JsonSelect.Proofs.Edit.Writes
import JsonSelect.Proofs.Selection.Ancestors

namespace JsonSelect

/-- A value that is to be written at a location. -/
structure Write where
  location : Location
  value : Json

def Write.edit (write : Write) : Edit :=
  ⟨write.location, some write.value⟩

/-- Writes some values into a document one at a time, from the last of them
to the first. -/
def Json.writeBack (document : Json) (writes : List Write) : Json :=
  writes.reverse.foldl (fun document write =>
    document.overwrite write.location write.value)
    document

theorem Json.writeBack_cons (document : Json) (write : Write) (writes : List Write) :
    document.writeBack (write :: writes) =
      (document.writeBack writes).overwrite write.location write.value := by
  rw [writeBack, List.reverse_cons, List.foldl_append]
  rfl

namespace Edit

theorem apply_edit (document : Json) (write : Write) :
    apply document write.edit = document.overwrite write.location write.value := rfl

theorem schedule_concat (edits : List Edit) (edit : Edit) :
    schedule (edits ++ [edit]) = insert edit (schedule edits) := by
  rw [schedule, List.foldl_append]
  rfl

theorem firstAnswer_append (edits edits' : List Edit) (location : Location) :
    firstAnswer (edits ++ edits') location =
      (firstAnswer edits location).or (firstAnswer edits' location) := by
  rw [firstAnswer, List.find?_append, Option.map_or]
  rfl

/-- Edits that write, each of them apart from a location. -/
def WriteApart (location : Location) (edits : List Edit) : Prop :=
  ∀ edit ∈ edits, ∃ write : Write, edit = write.edit ∧ write.location.Apart location

variable {write : Write} {scheduled : List Edit}

theorem foldl_apply_overwrite (hapart : WriteApart write.location scheduled)
    (document : Json) :
    scheduled.foldl apply (document.overwrite write.location write.value) =
      (scheduled.foldl apply document).overwrite write.location write.value := by
  induction scheduled generalizing document with
  | nil => rfl
  | cons edit scheduled ih =>
      rw [WriteApart, List.forall_mem_cons] at hapart
      obtain ⟨⟨other, rfl, hother⟩, hrest⟩ := hapart
      rw [List.foldl_cons, List.foldl_cons, apply_edit, apply_edit, ← ih hrest,
        Json.overwrite_comm hother]

/-- A write that is apart from those of a schedule can as well be done
after all of them. -/
theorem foldl_apply_insert (hapart : WriteApart write.location scheduled)
    (document : Json) :
    (insert write.edit scheduled).foldl apply document =
      (scheduled.foldl apply document).overwrite write.location write.value := by
  induction scheduled generalizing document with
  | nil => rfl
  | cons edit scheduled ih =>
      have hhead := foldl_apply_overwrite hapart document
      rw [WriteApart, List.forall_mem_cons] at hapart
      obtain ⟨⟨other, rfl, hother⟩, hrest⟩ := hapart
      rw [insert]
      cases hcmp : compare write.edit.location other.edit.location with
      | gt => exact hhead
      | eq =>
          have heq : write.location = other.location := Std.LawfulEqCmp.eq_of_compare hcmp
          exact absurd (heq ▸ List.prefix_rfl) hother.1
      | lt => exact ih hrest _

end Edit

namespace Write

/-- Those of some writes that are neither at a location nor below it. -/
def outside (location : Location) (writes : List Write) : List Write :=
  writes.filter fun write => ¬ location <+: write.location

theorem mem_outside_iff {location : Location} {writes : List Write} {write : Write} :
    write ∈ outside location writes ↔ write ∈ writes ∧ ¬ location <+: write.location := by
  simp [outside]

theorem outside_cons_of_below {location : Location} {write : Write}
    (hbelow : location <+: write.location) (writes : List Write) :
    outside location (write :: writes) = outside location writes :=
  List.filter_cons_of_neg (by simpa using hbelow)

theorem outside_cons_of_not_below {location : Location} {write : Write}
    (hbelow : ¬ location <+: write.location) (writes : List Write) :
    outside location (write :: writes) = write :: outside location writes :=
  List.filter_cons_of_pos (by simpa using hbelow)

/-- Before a location is written, nothing need be written at it or below it. -/
theorem writeBack_outside {location : Location} {writes : List Write}
    (hancestors : ∀ write ∈ writes, write.location <+: location →
      write.location = location) (document value : Json) :
    (document.writeBack writes).overwrite location value =
      (document.writeBack (outside location writes)).overwrite location value := by
  induction writes with
  | nil => rfl
  | cons write writes ih =>
      rw [List.forall_mem_cons] at hancestors
      rw [Json.writeBack_cons]
      by_cases hbelow : location <+: write.location
      · rw [outside_cons_of_below hbelow, Json.overwrite_overwrite_of_below hbelow,
          ih hancestors.2]
      · have hapart : write.location.Apart location :=
          ⟨fun habove => hbelow (hancestors.1 habove ▸ List.prefix_rfl), hbelow⟩
        rw [outside_cons_of_not_below hbelow, Json.writeBack_cons,
          Json.overwrite_comm hapart, Json.overwrite_comm hapart, ih hancestors.2]

theorem firstAnswer_outside {location other : Location} (hbelow : ¬ location <+: other)
    (writes : List Write) :
    Edit.firstAnswer ((outside location writes).map edit) other =
      Edit.firstAnswer (writes.map edit) other := by
  induction writes with
  | nil => rfl
  | cons write writes ih =>
      rw [List.map_cons, Edit.firstAnswer_cons]
      by_cases hwrite : location <+: write.location
      · have hne : write.location ≠ other := fun heq => hbelow (heq ▸ hwrite)
        rw [outside_cons_of_below hwrite, ih]
        exact (if_neg hne).symm
      · rw [outside_cons_of_not_below hwrite, List.map_cons, Edit.firstAnswer_cons, ih]

/-- The answers outside a location, with the answer there, are as good as all of them. -/
theorem firstAnswer_outside_concat (write : Write) (writes : List Write)
    {location : Location}
    (hancestors : ∀ ancestor, ancestor <+: location → ancestor ≠ location →
      Edit.firstAnswer ((outside write.location writes).map edit ++ [write.edit])
        ancestor = none) :
    Edit.firstAnswer ((outside write.location writes).map edit ++ [write.edit]) location =
      Edit.firstAnswer ((write :: writes).map edit) location := by
  rw [Edit.firstAnswer_append, List.map_cons, Edit.firstAnswer_cons,
    Edit.firstAnswer_cons, Edit.firstAnswer_nil]
  by_cases hlocation : write.location = location
  · have hnone : Edit.firstAnswer ((outside write.location writes).map edit) location =
        none := by
      rw [Edit.firstAnswer_eq_none_iff]
      intro _ hedit heq
      obtain ⟨other, hother, rfl⟩ := List.mem_map.1 hedit
      have hplace : write.location = other.location := hlocation.trans heq.symm
      exact (mem_outside_iff.1 hother).2 (hplace ▸ List.prefix_rfl)
    rw [hnone, Option.none_or]
    exact (if_pos hlocation).trans (if_pos hlocation).symm
  · have hbelow : ¬ write.location <+: location := by
      intro hbelow
      have hlisted := hancestors write.location hbelow hlocation
      rw [Edit.firstAnswer_eq_none_iff] at hlisted
      exact hlisted write.edit (by simp) rfl
    rw [firstAnswer_outside hbelow]
    exact (congrArg _ (if_neg hlocation)).trans
      (Option.or_none.trans (if_neg hlocation).symm)

theorem ancestorsFirst_outside {write : Write} {writes : List Write}
    (hfirst : AncestorsFirst ((write :: writes).map Write.location)) :
    AncestorsFirst ((outside write.location writes).map Write.location) := by
  have hkept := hfirst.filter fun other => ¬ write.location <+: other
  rw [List.filter_map] at hkept
  rwa [← outside_cons_of_below List.prefix_rfl]

end Write

namespace Json

variable {document : Json} {writes : List Write}

/-- The first write is done last and settles what is at its location and below it.
The others that remain are apart from it, so it could have taken its place in
their schedule. -/
theorem writeBack_cons_eq_rebuild (hwf : document.WellFormed) {write : Write}
    (hancestors : ∀ other ∈ writes, other.location <+: write.location →
      other.location = write.location)
    (hresolves : ∀ other ∈ write :: writes, (document.resolve? other.location).isSome)
    (houtside : document.writeBack (Write.outside write.location writes) =
      document.rebuild
        (Edit.firstAnswer ((Write.outside write.location writes).map Write.edit))) :
    document.writeBack (write :: writes) =
      document.rebuild (Edit.firstAnswer ((write :: writes).map Write.edit)) := by
  set edits := (Write.outside write.location writes).map Write.edit
  have hleads : ∀ edit ∈ edits ++ [write.edit],
      (document.resolve? edit.location).isSome := by
    intro edit hedit
    rcases List.mem_append.1 hedit with hedit | hedit
    · obtain ⟨other, hother, rfl⟩ := List.mem_map.1 hedit
      exact hresolves other
        (List.mem_cons_of_mem write (Write.mem_outside_iff.1 hother).1)
    · rw [List.mem_singleton.1 hedit]
      exact hresolves write List.mem_cons_self
  have hapart : Edit.WriteApart write.location (Edit.schedule edits) := by
    intro edit hedit
    obtain ⟨other, hother, rfl⟩ := List.mem_map.1 (Edit.mem_of_mem_schedule hedit)
    obtain ⟨hmem, hbelow⟩ := Write.mem_outside_iff.1 hother
    refine ⟨other, rfl, fun habove => hbelow ?_, hbelow⟩
    exact hancestors other hmem habove ▸ List.prefix_rfl
  calc document.writeBack (write :: writes)
    _ = (document.writeBack writes).overwrite write.location write.value :=
        document.writeBack_cons write writes
    _ = (document.rebuild (Edit.firstAnswer edits)).overwrite write.location
          write.value := by
        rw [Write.writeBack_outside hancestors, houtside]
    _ = ((Edit.schedule edits).foldl Edit.apply document).overwrite write.location
          write.value := by
        rw [Edit.foldl_apply_schedule hwf edits fun edit hedit =>
          hleads edit (List.mem_append_left _ hedit)]
    _ = (Edit.schedule (edits ++ [write.edit])).foldl Edit.apply document := by
        rw [Edit.schedule_concat, Edit.foldl_apply_insert hapart]
    _ = document.rebuild (Edit.firstAnswer (edits ++ [write.edit])) :=
        Edit.foldl_apply_schedule hwf _ hleads
    _ = document.rebuild (Edit.firstAnswer ((write :: writes).map Write.edit)) :=
        rebuild_congr hwf fun _ _ => Write.firstAnswer_outside_concat write writes

/-- Where ancestors come first, writing back is the edit with all the answers at once. -/
theorem writeBack_eq_rebuild (hwf : document.WellFormed)
    (hfirst : AncestorsFirst (writes.map Write.location))
    (hresolves : ∀ write ∈ writes, (document.resolve? write.location).isSome) :
    document.writeBack writes =
      document.rebuild (Edit.firstAnswer (writes.map Write.edit)) := by
  -- the writes outside the first are fewer, but they need not be those after it
  induction hlength : writes.length using Nat.strong_induction_on generalizing writes with
  | h length ih =>
      cases writes with
      | nil => exact Edit.foldl_apply_schedule hwf [] nofun
      | cons write writes =>
          apply writeBack_cons_eq_rebuild hwf _ hresolves
          · apply ih _ _ (Write.ancestorsFirst_outside hfirst) _ rfl
            · rw [← hlength]
              exact Nat.lt_succ_of_le (List.length_filter_le _ writes)
            · intro other hother
              exact hresolves other
                (List.mem_cons_of_mem write (Write.mem_outside_iff.1 hother).1)
          · exact fun other hother =>
              hfirst.eq_of_prefix_head (List.mem_map_of_mem hother)

end Json

/-! Writing back the answers for the matches of a path -/

variable {σ : Type}

/-- Calls a function on the value of a match; the answer is to be written at
its location. -/
def Write.ask (f : Json → StateM σ Json) (found : Match) : StateM σ Write := do
  return ⟨found.location, ← f found.value⟩

theorem mapM_ask_some (f : Json → StateM σ Json) (matched : List Match) :
    matched.mapM (Edit.ask fun value => some <$> f value) =
      List.map Write.edit <$> matched.mapM (Write.ask f) := by
  induction matched with
  | nil => rfl
  | cons found matched ih =>
      rw [List.mapM_cons, ih, List.mapM_cons]
      simp [Edit.ask, Write.ask, Write.edit]

theorem map_location_mapM_write (f : Json → StateM σ Json) (matched : List Match)
    (state : σ) :
    ((matched.mapM (Write.ask f)).run state).1.map Write.location =
      matched.map Match.location := by
  have hlocations :=
    Json.map_location_mapM_ask (fun value => some <$> f value) matched state
  rw [mapM_ask_some, StateT.run_map] at hlocations
  exact (List.map_map (f := Write.edit) (g := Edit.location)).symm.trans hlocations

namespace Path

theorem isSome_resolve?_of_mem_locate {path : Path} {document : Json}
    (hwf : document.WellFormed) {location : Location}
    (hlocation : location ∈ path.locate document) :
    (document.resolve? location).isSome := by
  obtain ⟨found, hfound, rfl⟩ := List.mem_map.1 hlocation
  exact Option.isSome_of_eq_some (resolve?_of_mem_queryLocated hwf hfound)

/-- Replacing what a path selects is to call the function on the value of each match, in
the order of the matches, and then to go back through the matches and write the answers,
one after another, into the document as it was. -/
theorem replaceWith_eq_writeBack [JsonReader] (document : Json)
    (hwf : document.WellFormed) {text : String} {path : Path}
    (hread : readPath text = .ok path) (f : Json → StateM σ Json) :
    JsonSelect.replaceWith document text f = .ok do
      let writes ← (path.queryLocated document).mapM (Write.ask f)
      return document.writeBack writes := by
  rw [JsonSelect.replaceWith, hread]
  apply congrArg Except.ok
  rw [Json.replaceAt, Json.tryReplaceAt_eq_mapM hwf, locate,
    Json.resolved_map_location fun _ => resolve?_of_mem_queryLocated hwf, mapM_ask_some,
    bind_map_left]
  funext state
  have hlocations : (((path.queryLocated document).mapM (Write.ask f)).run state).1.map
      Write.location = path.locate document := map_location_mapM_write f _ state
  have hfirst := path.ancestorsFirst_locate hwf
  rw [← hlocations] at hfirst
  have hback := Json.writeBack_eq_rebuild hwf hfirst <| by
    intro write hwrite
    have hlocation := List.mem_map_of_mem (f := Write.location) hwrite
    rw [hlocations] at hlocation
    exact isSome_resolve?_of_mem_locate hwf hlocation
  exact congrArg (·, _) hback.symm

/-- Answers with an object that holds the values seen before. -/
def seenBefore (value : Json) : StateM (List Json) Json := do
  let seen ← get
  set (seen ++ [value])
  return .object [("b", .array seen)]

/-- The outer member is matched twice before the inner one.  The answer for the inner
one is written first and lost; what the outer one was given at first is written last. -/
theorem replaceWith_eq_writeBack_repeated :
    (Json.object [("a", .object [("b", .null)])]).WellFormed ∧
      readPath "$..['a','b','a']" =
        .ok ⟨[.descent, .union [.key "a", .key "b", .key "a"]]⟩ ∧
      (JsonSelect.replaceWith (.object [("a", .object [("b", .null)])]) "$..['a','b','a']"
          seenBefore).map (·.run []) =
        .ok (.object [("a", .object [("b", .array [])])],
          [.object [("b", .null)], .object [("b", .null)], .null]) := by
  have hwf : (Json.object [("a", .object [("b", .null)])]).WellFormed := by
    simp [Json.WellFormed, Json.MembersWellFormed, Json.Members.keys]
  have hread : readPath "$..['a','b','a']" =
      .ok ⟨[.descent, .union [.key "a", .key "b", .key "a"]]⟩ := by cbv
  refine ⟨hwf, hread, ?_⟩
  rw [replaceWith_eq_writeBack _ hwf hread seenBefore]
  cbv

end Path

end JsonSelect
